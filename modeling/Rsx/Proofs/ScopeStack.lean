import Rsx.Proofs.EarlyValues
import Rsx.Proofs.ScopeNames
import Rsx.ScopeStack

set_option autoImplicit false

namespace Rsx

namespace Node

def Encloses (n : Node) (place : Place) (e : Node) : Prop :=
  ∃ front i rest, place = front ++ i :: rest ∧ n.atPlace? front = some e

theorem encloses_nil {n e : Node} : ¬ n.Encloses [] e := by
  rintro ⟨front, i, rest, split, _⟩
  simp at split

theorem encloses_cons {n p e : Node} {i : Nat} {rest : Place} (found : n.parts[i]? = some p) :
    n.Encloses (i :: rest) e ↔ e = n ∨ p.Encloses rest e := by
  constructor
  · rintro ⟨front, j, back, split, stands⟩
    cases front with
    | nil => exact .inl (Option.some.inj stands).symm
    | cons k front =>
      rw [List.cons_append, List.cons.injEq] at split
      obtain ⟨rfl, split⟩ := split
      obtain ⟨q, part, below⟩ := atPlace?_cons_some.mp stands
      cases found.symm.trans part
      exact .inr ⟨front, j, back, split, below⟩
  · rintro (rfl | ⟨front, j, back, split, stands⟩)
    · exact ⟨[], i, rest, rfl, rfl⟩
    · exact ⟨i :: front, j, back, by simp [split], atPlace?_cons_some.mpr ⟨p, found, stands⟩⟩

theorem mem_hiddenOnWay {n m : Node} {place : Place} {x : String}
    (stands : n.atPlace? place = some m) :
    x ∈ n.hiddenOnWay place ↔ ∃ e, n.Encloses place e ∧ e.Declares x := by
  induction place generalizing n with
  | nil => simp [hiddenOnWay, encloses_nil]
  | cons i rest ih =>
    obtain ⟨p, found, below⟩ := atPlace?_cons_some.mp stands
    simp only [hiddenOnWay, part_of_getElem? found, List.mem_append, ih below, mem_introduced,
      encloses_cons found, or_and_right, exists_or, exists_eq_left]
    exact or_comm

theorem introduced_of_no_scope {n : Node} (without : n.kind.opensScope = false) :
    n.introduced = [] := by
  unfold introduced
  split <;> simp_all [Kind.opensScope]

end Node

theorem Pass.isShadowed_eq (p : Pass) (x : String) :
    p.isShadowed x = p.scopes.flatten.contains x := by
  rw [Bool.eq_iff_iff]
  simp [isShadowed]

-- A visit reads the names in scope, counts what it replaces and leaves the stack as it was.
def Visits {α : Type} (visit : StateM Pass α) (result : List String → α)
    (count : List String → Nat) : Prop :=
  ∀ p : Pass, visit.run p =
    (result p.scopes.flatten, { p with replaced := p.replaced + count p.scopes.flatten })

namespace Visits

variable {α β : Type} {visit : StateM Pass α} {result : List String → α} {count : List String → Nat}

theorem value (a : α) : Visits (pure a) (fun _ => a) fun _ => 0 := fun _ => rfl

theorem andThen {next : α → StateM Pass β} {result' : α → List String → β}
    {count' : α → List String → Nat} (first : Visits visit result count)
    (second : ∀ value, Visits (next value) (result' value) (count' value)) :
    Visits (visit >>= next) (fun shadowed => result' (result shadowed) shadowed)
      fun shadowed => count shadowed + count' (result shadowed) shadowed := by
  intro p
  have later := second (result p.scopes.flatten)
    { p with replaced := p.replaced + count p.scopes.flatten }
  rw [StateT.run_bind, first p, ← Nat.add_assoc]
  exact later

theorem congr {result' : List String → α} {count' : List String → Nat}
    (visits : Visits visit result count) (same : ∀ shadowed, result shadowed = result' shadowed)
    (counts : ∀ shadowed, count shadowed = count' shadowed) : Visits visit result' count' := by
  rwa [funext same, funext counts] at visits

theorem unlessReplaced {visit : StateM Pass Node} {result : List String → Node}
    (visits : Visits visit result count) (found : Option Node) :
    Visits (match found with | some r => pure r | none => visit)
      (fun shadowed => found.getD (result shadowed))
      fun shadowed => if found.isSome then 0 else count shadowed := by
  cases found with
  | none => exact visits
  | some r => exact .value r

theorem inScope (visits : Visits visit result count) (n : Node) :
    Visits (n.inScope visit) (fun shadowed => result (n.introduced ++ shadowed))
      fun shadowed => count (n.introduced ++ shadowed) := by
  intro p
  by_cases opens : n.kind.opensScope = true
  next =>
    have within := visits { p with scopes := n.introduced :: p.scopes }
    simp only [Node.inScope, opens, if_true]
    exact congrArg (fun r : α × Pass => (r.1, { r.2 with scopes := r.2.scopes.tail })) within
  next =>
    have without := Node.introduced_of_no_scope (Bool.eq_false_iff.mpr opens)
    simpa [Node.inScope, opens, without] using visits p

end Visits

namespace Substitution

variable (s : Substitution)

theorem shouldReplace_eq (p : Pass) (x : String) :
    s.shouldReplace p x = s.replaces p.scopes.flatten x := by
  rw [shouldReplace, replaces, Pass.isShadowed_eq]

theorem visits_name (k : Kind) (ps : List Node) :
    Visits (s.visitName k ps) (s.replaced? · k ps) fun shadowed =>
      if (s.replaced? shadowed k ps).isSome then 1 else 0 := by
  intro p
  cases named : s.replacement? k with
  | none =>
    simp only [visitName, replaced?, named]
    rfl
  | some found =>
    obtain ⟨x, r⟩ := found
    cases ps with
    | nil =>
      simp only [visitName, replaced?, named, ← s.shouldReplace_eq]
      by_cases replaces : s.shouldReplace p x = true <;> simp [replaces, Pass.tally] <;> rfl
    | cons q rest =>
      simp only [visitName, replaced?, named]
      rfl

variable {s}

theorem visits_list {ns : List Node}
    (each : ∀ n ∈ ns, Visits (s.visit n) (s.apply · n) (s.count · n)) :
    Visits (s.visitList ns) (s.applyList · ns) (s.countList · ns) := by
  induction ns with
  | nil => exact (Visits.value []).congr (by simp [applyList]) (by simp [countList])
  | cons n rest ih =>
    have first := each n (by simp)
    have later := ih fun m member => each m (by simp [member])
    exact (first.andThen fun r => later.andThen fun rs => .value (r :: rs)).congr
      (by simp [applyList]) (by simp [countList])

-- By induction on the node: its parts are visited with one more scope on any stack.
theorem visits_node (n : Node) : Visits (s.visit n) (s.apply · n) (s.count · n) := by
  induction n using Node.induction with
  | node k span ps ih =>
    have below := (visits_list ih).inScope (.mk k span ps)
    have rebuilt := below.andThen fun ps' => .value (Node.mk (adjusted k ps') span ps')
    rw [visit]
    refine ((s.visits_name k ps).andThen rebuilt.unlessReplaced).congr ?_ ?_
    · intro shadowed
      simp only [apply]
      cases s.replaced? shadowed k ps <;> rfl
    · intro shadowed
      simp only [count]
      cases s.replaced? shadowed k ps <;> simp

variable (s)

-- The rule by which a name is replaced at a place: it is that of a promoted variable, neither
-- reserved nor to be kept, and no node around the place declares it.
structure ReplacesAt (s : Substitution) (n : Node) (place : Place) (x : String) : Prop where
  promoted : x ∈ s.promoted
  unreserved : isReserved x = false
  unkept : x ∉ s.kept
  undeclared : ∀ e, n.Encloses place e → ¬ e.Declares x

theorem replacesAt_iff {n m : Node} {place : Place} {x : String}
    (stands : n.atPlace? place = some m) :
    s.ReplacesAt n place x ↔ s.replaces (n.hiddenOnWay place) x = true := by
  have undeclared : (∀ e, n.Encloses place e → ¬ e.Declares x) ↔ x ∉ n.hiddenOnWay place := by
    simp [Node.mem_hiddenOnWay stands]
  simp only [replaces, Bool.and_eq_true, Bool.not_eq_true', List.contains_eq_mem,
    decide_eq_true_eq, decide_eq_false_iff_not, ← undeclared]
  constructor
  · intro rule
    exact ⟨⟨⟨rule.promoted, rule.unreserved⟩, rule.unkept⟩, rule.undeclared⟩
  · rintro ⟨⟨⟨promoted, unreserved⟩, unkept⟩, undeclared⟩
    exact ⟨promoted, unreserved, unkept, undeclared⟩

theorem insertedFor_ne {n : Node} {x : String} (name : n.leafName? = some x) :
    s.insertedFor n x ≠ n := by
  have inside : (s.insertedFor n x).parts ≠ [] := by
    unfold insertedFor
    split <;> simp [RecordAccess.slot, Node.memberOf, tagMember, Node.generated]
  intro same
  rw [same] at inside
  exact inside (Node.leafName?_eq_some.mp name).1

structure FollowsRule (s : Substitution) (n r : Node) : Prop where
  replaced : ∀ place m x, n.atPlace? place = some m → m.leafName? = some x →
    (r.atPlace? place = some (s.insertedFor m x) ↔ s.ReplacesAt n place x)
  left : ∀ place m x, n.atPlace? place = some m → m.leafName? = some x →
    ¬ s.ReplacesAt n place x → r.atPlace? place = some m
  others : ∀ place m, n.atPlace? place = some m → m.leafName? = none →
    ∃ o, r.atPlace? place = some o ∧ o.kind.unabbreviated = m.kind.unabbreviated ∧
      o.span = m.span ∧ o.parts.length = m.parts.length

theorem followsRule_apply (n : Node) : s.FollowsRule n (s.apply [] n) where
  replaced place m x stands name := by
    rw [s.replacesAt_iff stands, s.apply_atPlace? stands, List.append_nil, Option.some.injEq]
    constructor
    · intro same
      by_contra unreplaced
      rw [s.apply_of_unreplaced name (by simpa using unreplaced)] at same
      exact s.insertedFor_ne name same.symm
    · exact s.apply_of_leafName name
  left place m x stands name unruled := by
    rw [s.replacesAt_iff stands, Bool.not_eq_true] at unruled
    rw [s.apply_atPlace? stands, List.append_nil, s.apply_of_unreplaced name unruled]
  others place m stands unnamed := by
    refine ⟨_, s.apply_atPlace? stands [], ?_⟩
    cases s.outcome (n.hiddenOnWay place ++ []) m with
    | replaced x name => simp [unnamed] at name
    | kept k adjusted _ result =>
      rw [result]
      rcases adjusted with rfl | ⟨i, kind, rfl⟩
      · simp
      · simp [kind, Kind.unabbreviated]

theorem followsRule_self (nothing : s.promoted = []) (n : Node) : s.FollowsRule n n where
  replaced place m x stands name := by
    rw [stands, Option.some.injEq]
    constructor
    · exact fun same => (s.insertedFor_ne name same.symm).elim
    · intro rule
      have promoted := rule.promoted
      simp [nothing] at promoted
  left place m x stands _ _ := stands
  others place m stands _ := ⟨m, stands, rfl, rfl, rfl⟩

theorem apply_group (ns : List Node) :
    s.apply [] (.group ns) = .group (s.applyList [] ns) := by
  simp [Node.group, apply, replaced?, replacement?, adjusted, Node.introduced]

variable {statements : List Node}

theorem countList_of_nothing (nothing : s.promoted = []) : s.countList [] statements = 0 := by
  rw [countList_eq, List.sum_eq_zero_iff_forall_eq_nat]
  intro total member
  obtain ⟨n, _, rfl⟩ := List.mem_map.mp member
  exact s.count_of_unpromoted (by simp [nothing])

theorem applyList_of_nothing (nothing : s.promoted = [])
    (abbreviates : ∀ m ∈ Node.preorderList statements, m.AbbreviatesName) :
    s.applyList [] statements = statements := by
  rw [Node.preorderList_eq] at abbreviates
  rw [applyList_eq]
  refine (List.map_congr_left fun n member => ?_).trans (List.map_id statements)
  exact s.apply_of_unpromoted (by simp [nothing])
    fun m below => abbreviates m (List.mem_flatMap.mpr ⟨n, member, below⟩)

/-- A pass over a list of statements replaces names by the rule and leaves all else as it is. Behind
the list, as behind every node, the stack is what it was in front; and the pass counts, and makes of
the statements, what compiling a body does. -/
theorem names_replaced_by_scopes (s : Substitution) (statements : List Node) :
    ∃ result stop, (s.visitStatements statements).run .start = (result, stop) ∧
      s.FollowsRule (.group statements) (.group result) ∧
      stop.scopes = Pass.start.scopes ∧
      (∀ n p, ((s.visit n).run p).2.scopes = p.scopes) ∧
      stop.replaced = s.countList [] statements ∧
      (s.promoted ≠ [] ∨ (∀ m ∈ Node.preorderList statements, m.AbbreviatesName) →
        result = s.applyList [] statements) := by
  have restored : ∀ n p, ((s.visit n).run p).2.scopes = p.scopes := by
    intro n p
    rw [visits_node n p]
  by_cases nothing : s.promoted = []
  next =>
    have run : (s.visitStatements statements).run .start = (statements, .start) := by
      simp only [visitStatements, nothing, List.isEmpty_nil, if_true]
      rfl
    refine ⟨statements, .start, run, s.followsRule_self nothing _, rfl, restored,
      (s.countList_of_nothing nothing).symm, ?_⟩
    rintro (something | abbreviates)
    · exact (something nothing).elim
    · exact (s.applyList_of_nothing nothing abbreviates).symm
  next =>
    have run : (s.visitStatements statements).run .start =
        (s.applyList [] statements, ⟨Pass.start.scopes, s.countList [] statements⟩) := by
      rw [visitStatements, if_neg (by simpa using nothing)]
      simpa [Pass.start] using visits_list (fun n _ => visits_node n) Pass.start
    refine ⟨_, _, run, ?_, rfl, restored, rfl, fun _ => rfl⟩
    rw [← s.apply_group]
    exact s.followsRule_apply _

end Substitution

-- `use(x); { use(x); { var x; } }`
def hoistedUse : List Node :=
  let use := Node.statement (.callOf (.value "use") [.value "x"])
  let declaration := Node.generated (.variableList .varKind false)
    [.generated (.declarator false) [.boundName "x", .absent, .absent]]
  [use, .blockOf [use, .blockOf [declaration]]]

-- The `var` is hoisted to the outer block, which hides the `x` in it and not the one in front.
theorem Substitution.names_replaced_by_scopes_hoisted :
    let s : Substitution := ⟨["x"], ["props"], .direct⟩
    ∃ result stop, (s.visitStatements hoistedUse).run .start = (result, stop) ∧
      (Node.group result).atPlace? [0, 0, 2, 0] = some (s.access.slot "x") ∧
      (Node.group result).atPlace? [1, 0, 0, 2, 0] = some (.value "x") ∧
      stop = ⟨[[]], 1⟩ := by
  intro s
  obtain ⟨result, stop, run, rule, scopes, _, counted, _⟩ := s.names_replaced_by_scopes hoistedUse
  have outside : (Node.group hoistedUse).atPlace? [0, 0, 2, 0] = some (.value "x") := rfl
  have inside : (Node.group hoistedUse).atPlace? [1, 0, 0, 2, 0] = some (.value "x") := rfl
  refine ⟨result, stop, run, ?_, ?_, ?_⟩
  · refine (rule.replaced _ _ _ outside rfl).mpr ((s.replacesAt_iff outside).mpr ?_)
    decide +kernel
  · refine rule.left _ _ _ inside rfl fun replaced => replaced.undeclared hoistedUse[1] ?_ ?_
    · exact ⟨[1], 0, [0, 2, 0], rfl, rfl⟩
    · exact .block rfl ⟨_, .tail _ (.head _), .inr ⟨_, .part rfl (.head _) (.self rfl),
        ⟨false, rfl⟩, _, .head _, .self rfl⟩⟩
  · have one : s.countList [] hoistedUse = 1 := by decide +kernel
    obtain ⟨_, _⟩ := stop
    cases scopes
    cases counted.trans one
    rfl

end Rsx
