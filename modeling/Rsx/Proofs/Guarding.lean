import Rsx.Proofs.Places
import Rsx.Writes

set_option autoImplicit false

namespace Rsx

variable {b : PropsBinding} {p : Promotion} {n m d : Node} {problem : Located Problem}
  {c : Located Caution}

namespace Node

-- The object and the key of a member. A key that is computed from anything but a text is `[]`.
def member? : Node → Option (Node × String)
  | mk (.member _) _ [object, mk (.name _ x) _ _] => some (object, x)
  | mk (.index _) _ [object, mk (.stringLit value _) _ _] => some (object, CodePoints.toString value)
  | mk (.index _) _ [object, _] => some (object, "[]")
  | _ => none

theorem path?_of_member? {object : Node} {key : String} (accessed : n.member? = some (object, key)) :
    n.path? = object.path?.map (· ++ [key]) := by
  unfold member? at accessed
  split at accessed <;> cases accessed <;> simp [path?]

end Node

theorem writtenPath?_of_member? {span : Span} {object : Node} {key : String}
    (accessed : m.member? = some (object, key)) :
    writtenPath? (.mk .target span [m]) = object.path?.map (· ++ [key]) := by
  rw [← Node.path?_of_member? accessed]
  unfold Node.member? at accessed
  split at accessed <;> first | rfl | cases accessed

theorem member?_of_writtenPath? {path : List String} (written : writtenPath? n = some path) :
    ∃ span m object key, n = .mk .target span [m] ∧ m.member? = some (object, key) := by
  unfold writtenPath? at written
  split at written
  next span o s ps =>
    unfold Node.path? at written
    split at written <;> first | (rename_i same; cases same) | cases written
    exact ⟨span, .mk (.member o) s _, _, _, rfl, rfl⟩
  next span o s ps =>
    unfold Node.path? at written
    split at written <;> first | (rename_i same; cases same) | cases written
    · exact ⟨span, .mk (.index o) s _, _, _, rfl, rfl⟩
    · exact ⟨span, .mk (.index o) s _, _, "[]", rfl, by simp [Node.member?]; rfl⟩
  next => cases written

theorem writtenPath?_eq_some {path : List String} :
    writtenPath? n = some path ↔
      ∃ span m object key front, n = .mk .target span [m] ∧ m.member? = some (object, key) ∧
        object.path? = some front ∧ path = front ++ [key] := by
  constructor
  · intro written
    obtain ⟨span, m, object, key, rfl, accessed⟩ := member?_of_writtenPath? written
    rw [writtenPath?_of_member? accessed] at written
    obtain ⟨front, reached, rfl⟩ := Option.map_eq_some_iff.mp written
    exact ⟨span, m, object, key, front, rfl, accessed, reached, rfl⟩
  · rintro ⟨span, m, object, key, front, rfl, accessed, reached, rfl⟩
    simp [writtenPath?_of_member? accessed, reached]

inductive Offends (b : PropsBinding) (p : Promotion) : Node → Located Problem → Prop where
  | propsWrite (span : Span) (member object : Node) (key field : String) (front : List String)
      (accessed : member.member? = some (object, key)) (reached : object.path? = some front)
      (touched : b.field? (front ++ [key]) = some field) :
      Offends b p (.mk .target span [member])
        ⟨.propsWrite (front ++ [key]) field, member.span.start⟩
  | shorthandWrite (n : Node) (x : String) (shorthand : n.kind = .targetShorthand)
      (written : (n.part 0).reference? = some x) (promoted : x ∈ p.names) :
      Offends b p n ⟨.shorthandWrite x, n.span.start⟩

theorem offence?_eq_some : offence? b p n = some problem ↔ Offends b p n problem := by
  constructor
  · intro found
    unfold offence? at found
    split at found
    next m rest kind parts =>
      split at found
      next path written =>
        obtain ⟨span, m, object, key, front, rfl, accessed, reached, rfl⟩ :=
          writtenPath?_eq_some.mp written
        obtain ⟨field, touched, rfl⟩ := Option.map_eq_some_iff.mp found
        cases parts
        exact .propsWrite span m object key field front accessed reached touched
      next => cases found
    next name rest kind parts =>
      split at found
      next x written =>
        split at found
        next promoted =>
          cases found
          refine .shorthandWrite n x kind ?_ (by simpa [Promotion.contains] using promoted)
          rw [Node.part_of_getElem? (by rw [parts]; rfl)]
          exact written
        next => cases found
      next => cases found
    next => cases found
  · rintro (⟨span, m, object, key, field, front, accessed, reached, touched⟩ |
      ⟨n, x, shorthand, written, promoted⟩)
    · have path : writtenPath? (.mk .target span [m]) = some (front ++ [key]) := by
        rw [writtenPath?_of_member? accessed, reached]
        rfl
      simp [offence?, path, touched]
    · cases parts : n.parts with
      | nil => simp [Node.part, parts, Node.absent, Node.reference?] at written
      | cons name rest =>
        have first : n.part 0 = name := Node.part_of_getElem? (by rw [parts]; rfl)
        rw [first] at written
        simp [offence?, shorthand, parts, written, Promotion.contains, promoted]

namespace Guard

variable {g : Guard} {ns : List Node}

-- A node is met before its parts, and they are met in their order.
theorem visit_eq (n : Node) : ∀ g, visit b p g n = n.preorder.foldl (meet b p) g := by
  induction n using Node.induction with
  | node k s ps ih =>
    intro g
    have parts : ∀ g, visitList b p g ps = (ps.flatMap Node.preorder).foldl (meet b p) g := by
      clear g
      induction ps with
      | nil => intro g; simp [visitList]
      | cons first rest later =>
        intro g
        rw [visitList, ih first List.mem_cons_self, List.flatMap_cons, List.foldl_append]
        exact later (fun n member => ih n (List.mem_cons_of_mem _ member)) _
    rw [visit, parts, Node.preorder_mk, List.foldl_cons]

theorem foldl_meet (ns : List Node) (g : Guard) :
    ns.foldl (meet b p) g =
      ⟨g.refused.or (ns.findSome? (offence? b p)),
        g.cautions ++ ns.filterMap (assignmentCaution? b p)⟩ := by
  induction ns generalizing g with
  | nil => simp
  | cons n rest ih =>
    rw [List.foldl_cons, ih]
    simp only [meet, List.findSome?_cons, List.filterMap_cons]
    congr 1
    · cases g.refused <;> cases offence? b p n <;> rfl
    · cases assignmentCaution? b p n <;> simp

end Guard

def firstOffence? (b : PropsBinding) (p : Promotion) (statements : List Node) :
    Option (Located Problem) :=
  (Node.preorderList statements).findSome? (offence? b p)

def statementCautions (b : PropsBinding) (p : Promotion) (n : Node) : List (Located Caution) :=
  n.declarators.filterMap (declaratorCaution? b p) ++ n.preorder.filterMap (assignmentCaution? b p)

theorem firstOffence?_cons (rest : List Node) :
    firstOffence? b p (n :: rest) =
      (n.preorder.findSome? (offence? b p)).or (firstOffence? b p rest) := by
  rw [firstOffence?, Node.preorderList, List.findSome?_append, firstOffence?]

namespace Guard

theorem statement_eq (g : Guard) (n : Node) :
    g.statement b p n =
      ⟨g.refused.or (n.preorder.findSome? (offence? b p)), g.cautions ++ statementCautions b p n⟩ := by
  rw [statement, visit_eq, foldl_meet, statementCautions, List.append_assoc]

theorem refused_statements (ns : List Node) {g : Guard} (clear : g.refused = none) :
    (g.statements b p ns).refused = firstOffence? b p ns := by
  induction ns generalizing g with
  | nil => simpa [statements, firstOffence?, Node.preorderList] using clear
  | cons n rest ih =>
    have next : (g.statement b p n).refused = n.preorder.findSome? (offence? b p) := by
      simp [statement_eq, clear]
    rw [statements, firstOffence?_cons]
    cases found : n.preorder.findSome? (offence? b p) with
    | some problem => simp [next, found]
    | none => simp [next, found, ih]

theorem cautions_statements (ns : List Node) {g : Guard} (clear : g.refused = none)
    (passed : firstOffence? b p ns = none) :
    (g.statements b p ns).cautions = g.cautions ++ ns.flatMap (statementCautions b p) := by
  induction ns generalizing g with
  | nil => simp [statements]
  | cons n rest ih =>
    rw [firstOffence?_cons] at passed
    obtain ⟨here, later⟩ := Option.or_eq_none_iff.mp passed
    have next : (g.statement b p n).refused = none := by rw [statement_eq, clear, here]; rfl
    have walked := ih next later
    simp only [statements, next, Option.isSome_none, Bool.false_eq_true, if_false, walked,
      List.flatMap_cons]
    rw [statement_eq, List.append_assoc]

end Guard

theorem checkBody_eq (statements : List Node) (warned : List (Located Caution)) :
    checkBody b p statements warned =
      match firstOffence? b p statements with
      | some problem => (.error problem, warned)
      | none => (.ok (), warned ++ statements.flatMap (statementCautions b p)) := by
  have refused : (Guard.start.statements b p statements).refused = firstOffence? b p statements :=
    Guard.refused_statements statements rfl
  cases found : firstOffence? b p statements with
  | some problem => simp [checkBody, refused, found]
  | none =>
    have cautions := Guard.cautions_statements statements (g := Guard.start) rfl found
    simp only [checkBody, refused, found, cautions]
    rfl

theorem firstOffence?_eq_some {statements : List Node} :
    firstOffence? b p statements = some problem ↔
      ∃ before n after, Node.preorderList statements = before ++ n :: after ∧
        Offends b p n problem ∧ ∀ m ∈ before, ∀ other, ¬Offends b p m other := by
  have quiet (m : Node) : offence? b p m = none ↔ ∀ other, ¬Offends b p m other := by
    simp [Option.eq_none_iff_forall_ne_some, ← offence?_eq_some]
  unfold firstOffence?
  rw [List.findSome?_eq_some_iff]
  simp only [offence?_eq_some, quiet]

theorem exists_firstOffence? {statements : List Node} :
    (∃ problem, firstOffence? b p statements = some problem) ↔
      ∃ n ∈ Node.preorderList statements, ∃ problem, Offends b p n problem := by
  simp only [← offence?_eq_some, firstOffence?, ← Option.isSome_iff_exists,
    List.findSome?_isSome_iff]

namespace PropsBinding

inductive Mentions (b : PropsBinding) : Node → Prop where
  | byName (n : Node) (x : String) (named : n.reference? = some x) (direct : x ∈ b.direct) :
      Mentions b n
  | ofContext (optional : Bool) (role : NameRole) (x : String) (s s' s'' : Span)
      (ps ps' : List Node) (bound : b.context = some x) :
      Mentions b (.mk (.member optional) s
        [.mk (.name .value x) s' ps, .mk (.name role "props") s'' ps'])

theorem readAt_iff : b.readAt n = true ↔ b.Mentions n := by
  constructor
  · intro read
    unfold readAt at read
    split at read
    next o x s ps role y s' ps' kind parts =>
      obtain ⟨k, span, children⟩ := n
      cases kind
      cases parts
      simp only [Bool.and_eq_true, beq_iff_eq] at read
      obtain ⟨bound, rfl⟩ := read
      exact .ofContext _ _ _ _ _ _ _ _ bound
    next =>
      split at read
      next x named => exact .byName n x named (by simpa using read)
      next => cases read
  · rintro (⟨_, x, named, direct⟩ | ⟨o, role, x, s, s', s'', ps, ps', bound⟩)
    · unfold readAt
      split
      next kind _ => simp [Node.reference?, kind] at named
      next => simp [named, direct]
    · simp [readAt, bound]

theorem isReadIn_iff {value : Node} :
    b.isReadIn value = true ↔ ∃ m ∈ value.preorder, b.Mentions m := by
  simp [isReadIn, readAt_iff]

end PropsBinding

inductive DeclaresStale (b : PropsBinding) (p : Promotion) : Node → Located Caution → Prop where
  | declared (d : Node) (x : String) (named : (d.part 0).binding? = some x) (promoted : x ∈ p.names)
      (read : ∃ m ∈ (d.part 2).preorder, b.Mentions m) :
      DeclaresStale b p d ⟨.staleState x, d.span.start⟩

inductive AssignsStale (b : PropsBinding) (p : Promotion) : Node → Located Caution → Prop where
  | assigned (op x : String) (s s' s'' : Span) (ps : List Node) (value : Node)
      (promoted : x ∈ p.names) (read : ∃ m ∈ value.preorder, b.Mentions m) :
      AssignsStale b p (.mk (.assign op) s [.mk .target s' [.mk (.name .value x) s'' ps], value])
        ⟨.staleState x, s.start⟩

theorem declaratorCaution?_eq_some : declaratorCaution? b p d = some c ↔ DeclaresStale b p d c := by
  constructor
  · intro found
    unfold declaratorCaution? at found
    split at found
    next x named =>
      split at found
      next both =>
        cases found
        simp only [Promotion.contains, Bool.and_eq_true, List.contains_iff_mem,
          PropsBinding.isReadIn_iff] at both
        exact .declared d x named both.1 both.2
      next => cases found
    next => cases found
  · rintro ⟨x, named, promoted, read⟩
    have read := PropsBinding.isReadIn_iff.mpr read
    simp [declaratorCaution?, named, Promotion.contains, promoted, read]

theorem assignmentCaution?_eq_some : assignmentCaution? b p n = some c ↔ AssignsStale b p n c := by
  constructor
  · intro found
    unfold assignmentCaution? at found
    split at found
    next =>
      split at found
      next both =>
        cases found
        simp only [Promotion.contains, Bool.and_eq_true, List.contains_iff_mem,
          PropsBinding.isReadIn_iff] at both
        exact .assigned _ _ _ _ _ _ _ both.1 both.2
      next => cases found
    next => cases found
  · rintro ⟨op, x, s, s', s'', ps, value, promoted, read⟩
    have read := PropsBinding.isReadIn_iff.mpr read
    simp [assignmentCaution?, Promotion.contains, promoted, read]

theorem Offends.diagnosed (offends : Offends b p n problem) (file source : String) :
    let d := problem.what.diagnose file source problem.offset
    let start := Position.locate source problem.offset
    d.code = (if n.kind = .target then "RSX-E001" else "RSX-E005") ∧
      d.message = problem.what.message ∧ d.line = start.line ∧ d.column = start.column := by
  rcases offends with ⟨span, member, object, key, field, front, -, -, -⟩ | ⟨n, x, shorthand, -, -⟩
  · exact ⟨rfl, rfl, rfl, rfl⟩
  · simp only [shorthand, reduceCtorEq, if_false]
    exact ⟨rfl, rfl, rfl, rfl⟩

theorem stale_warned (stale : DeclaresStale b p n c ∨ AssignsStale b p n c) (file source : String) :
    ∃ x ∈ p.names, c = ⟨.staleState x, n.span.start⟩ ∧
      let w := c.what.warn file source c.offset
      let start := Position.locate source c.offset
      w.code = "RSX-W001" ∧ w.message = c.what.message ∧ w.line = start.line ∧
        w.column = start.column := by
  rcases stale with ⟨x, -, promoted, -⟩ | ⟨-, x, s, -, -, -, -, promoted, -⟩
  · exact ⟨x, promoted, rfl, rfl, rfl, rfl, rfl⟩
  · exact ⟨x, promoted, rfl, rfl, rfl, rfl, rfl⟩

/-- A body is refused exactly for an offence, which is the first one, and then no caution is added
to the earlier ones. Otherwise the cautions of its statements are added, in their order, and no
others. -/
theorem checkBody_exact (b : PropsBinding) (p : Promotion) (statements : List Node)
    (warned : List (Located Caution)) :
    let checked := checkBody b p statements warned
    ((∃ problem, checked.1 = .error problem) ↔
        ∃ n ∈ Node.preorderList statements, ∃ problem, Offends b p n problem) ∧
      (∀ problem, checked.1 = .error problem → checked.2 = warned ∧
        ∃ before n after, Node.preorderList statements = before ++ n :: after ∧
          Offends b p n problem ∧ (∀ m ∈ before, ∀ other, ¬Offends b p m other) ∧
          ∀ file source,
            let d := problem.what.diagnose file source problem.offset
            let start := Position.locate source problem.offset
            d.code = (if n.kind = .target then "RSX-E001" else "RSX-E005") ∧
              d.message = problem.what.message ∧ d.line = start.line ∧ d.column = start.column) ∧
      (checked.1 = .ok () → checked.2 = warned ++ statements.flatMap fun n =>
        n.declarators.filterMap (declaratorCaution? b p) ++
          n.preorder.filterMap (assignmentCaution? b p)) ∧
      (∀ d c, declaratorCaution? b p d = some c ↔ DeclaresStale b p d c) ∧
      (∀ n c, assignmentCaution? b p n = some c ↔ AssignsStale b p n c) ∧
      ∀ n c, DeclaresStale b p n c ∨ AssignsStale b p n c → ∀ file source,
        ∃ x ∈ p.names, c = ⟨.staleState x, n.span.start⟩ ∧
          let w := c.what.warn file source c.offset
          let start := Position.locate source c.offset
          w.code = "RSX-W001" ∧ w.message = c.what.message ∧ w.line = start.line ∧
            w.column = start.column := by
  intro checked
  refine ⟨?_, ?_, ?_, fun _ _ => declaratorCaution?_eq_some, fun _ _ => assignmentCaution?_eq_some,
    fun _ _ => stale_warned⟩
  · rw [← exists_firstOffence?]
    cases found : firstOffence? b p statements <;> simp [checked, checkBody_eq, found]
  · intro problem failed
    cases found : firstOffence? b p statements with
    | none => simp [checked, checkBody_eq, found] at failed
    | some first =>
      simp only [checked, checkBody_eq, found, Except.error.injEq] at failed ⊢
      subst failed
      obtain ⟨before, n, after, split, offends, quiet⟩ := firstOffence?_eq_some.mp found
      exact ⟨trivial, before, n, after, split, offends, quiet, offends.diagnosed⟩
  · intro passed
    cases found : firstOffence? b p statements with
    | none => simp only [checked, checkBody_eq, found]; rfl
    | some first => simp [checked, checkBody_eq, found] at passed

end Rsx
