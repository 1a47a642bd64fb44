import Rsx.Instance
import Rsx.Proofs.Homes

set_option autoImplicit false

namespace Rsx

def hookNames : List String := ["__rsx_useRef", "__rsx_useState", "__rsx_useEffect"]

def componentNames (forwards : Bool) : List String :=
  ["__rsx_props", "__rsx_forceUpdate", instanceRefName, instanceName, "__rsx_render", "__rsx_ctx",
    Instance.setupName] ++ if forwards then ["__rsx_ref", "__rsx_rest"] else []

theorem isReserved_hook {y : String} (hook : y ∈ hookNames) : isReserved y = true := by
  revert y
  decide +kernel

theorem isReserved_componentName {forwards : Bool} {y : String}
    (known : y ∈ componentNames forwards) : isReserved y = true := by
  revert y
  cases forwards <;> decide +kernel

theorem componentName_not_hook {forwards : Bool} {y : String} (known : y ∈ componentNames forwards) :
    y ∉ hookNames := by
  revert y
  cases forwards <;> decide +kernel

namespace Node

theorem binding?_of_reference? {n : Node} {y : String} (refers : n.reference? = some y) :
    n.binding? = none := by
  unfold reference? at refers
  unfold binding?
  split <;> simp_all

-- A node with a reserved name was generated, and the name is one of those that are allowed.
def isMarked (bound used : List String) (n : Node) : Bool :=
  match n.binding?, n.reference? with
  | some y, _ => !isReserved y || n.span == .nowhere && bound.contains y
  | none, some y => !isReserved y || n.span == .nowhere && used.contains y
  | none, none => true

def Marked (bound used : List String) (n : Node) : Prop :=
  ∀ m ∈ n.preorder, m.isMarked bound used = true

section Marked

variable {bound used : List String} {n : Node}

theorem Marked.binding {y : String} (marked : n.Marked bound used) {m : Node}
    (below : m ∈ n.preorder) (binds : m.binding? = some y) (reserved : isReserved y = true) :
    m.span = .nowhere ∧ y ∈ bound := by
  simpa [isMarked, binds, reserved] using marked m below

theorem Marked.reference {y : String} (marked : n.Marked bound used) {m : Node}
    (below : m ∈ n.preorder) (refers : m.reference? = some y) (reserved : isReserved y = true) :
    m.span = .nowhere ∧ y ∈ used := by
  simpa [isMarked, binding?_of_reference? refers, refers, reserved] using marked m below

theorem marked_iff_parts :
    n.Marked bound used ↔ n.isMarked bound used = true ∧ ∀ p ∈ n.parts, p.Marked bound used := by
  obtain ⟨k, span, ps⟩ := n
  simp only [Marked, preorder_mk, List.forall_mem_cons, List.mem_flatMap, parts_mk]
  refine and_congr_right fun _ => ⟨?_, ?_⟩
  · exact fun all p part m below => all m ⟨p, part, below⟩
  · rintro all m ⟨p, part, below⟩
    exact all p part m below

theorem Marked.part (marked : n.Marked bound used) (i : Nat) : (n.part i).Marked bound used := by
  rcases n.part_mem_or i with part | missing
  · exact (marked_iff_parts.mp marked).2 _ part
  · intro m below
    rw [missing, preorder_absent, List.mem_singleton] at below
    cases below
    rfl

theorem isMarked_of_unused (unused : reservedUse? n = none) : n.isMarked bound used = true := by
  unfold reservedUse? at unused
  unfold isMarked
  cases binds : n.binding? with
  | some y => simp_all
  | none => cases refers : n.reference? <;> simp_all

theorem Marked.mono {bound' used' : List String} (marked : n.Marked bound used)
    (more : ∀ y ∈ bound, y ∈ bound') (also : ∀ y ∈ used, y ∈ used') : n.Marked bound' used' := by
  intro m below
  have holds := marked m below
  unfold isMarked at holds ⊢
  split at holds
  next y _ =>
    rcases Bool.or_eq_true_iff.mp holds with free | listed
    · simp [free]
    · simp_all
  next y _ =>
    rcases Bool.or_eq_true_iff.mp holds with free | listed
    · simp [free]
    · simp_all
  next => rfl

theorem Clean.marked (clean : n.Clean) : n.Marked bound used :=
  fun m below => isMarked_of_unused (clean m below)

abbrev Fits (forwards : Bool) (n : Node) : Prop :=
  n.Marked (componentNames forwards) (hookNames ++ componentNames forwards)

theorem marked_of_all (all : n.preorder.all (isMarked bound used) = true) : n.Marked bound used :=
  List.all_eq_true.mp all

end Marked

-- Somewhere in the code a reserved name is bound again before it is referred to.
def HidesReserved (n : Node) : Prop :=
  n.Somewhere fun m around => ∃ y, m.reference? = some y ∧ isReserved y = true ∧ y ∈ around.bound

theorem hidesReserved_iff_parts {n : Node}
    (unreserved : ∀ way, ∀ y ∈ n.binds way, isReserved y = false) :
    n.HidesReserved ↔ ∃ p ∈ n.parts, p.HidesReserved := by
  constructor
  · rintro ⟨place, m, stands, y, refers, reserved, bound⟩
    cases place with
    | nil => cases bound
    | cons i rest =>
      obtain ⟨p, found, below⟩ := atPlace?_cons_some.mp stands
      refine ⟨p, List.mem_of_getElem? found, rest, m, below, y, refers, reserved, ?_⟩
      rcases List.mem_append.mp bound with inner | here
      · rwa [part_of_getElem? found] at inner
      · simp [unreserved _ y here] at reserved
  · rintro ⟨p, part, rest, m, below, y, refers, reserved, bound⟩
    obtain ⟨i, found⟩ := List.mem_iff_getElem?.mp part
    refine ⟨i :: rest, m, atPlace?_cons_some.mpr ⟨p, found, below⟩, y, refers, reserved, ?_⟩
    refine List.mem_append_left _ ?_
    rwa [part_of_getElem? found]

def isQuiet (n : Node) : Bool :=
  match n.kind with
  | .enum _ _ => false
  | _ => n.declaresBelow.all fun y => !isReserved y

theorem unreserved_of_isQuiet {n : Node} (quiet : n.isQuiet = true) (way : Place) :
    ∀ y ∈ n.binds way, isReserved y = false := by
  intro y bound
  unfold isQuiet at quiet
  split at quiet
  next => cases quiet
  next other =>
    rcases binds_cases bound with declared | member
    · simpa using List.all_eq_true.mp quiet y declared
    · unfold memberNames at member
      split at member
      next kind => exact (other _ _ kind).elim
      next => cases member

theorem not_hidesReserved_of_quiet {n : Node} (quiet : n.preorder.all isQuiet = true) :
    ¬ n.HidesReserved := by
  induction n using Node.induction with
  | node k span ps ih =>
    rw [preorder_mk, List.all_cons, Bool.and_eq_true_iff, List.all_flatMap] at quiet
    rw [hidesReserved_iff_parts (unreserved_of_isQuiet quiet.1)]
    rintro ⟨p, part, hides⟩
    exact ih p part (List.all_eq_true.mp quiet.2 p part) hides

theorem Clean.not_hidesReserved {n : Node} (clean : n.Clean) : ¬ n.HidesReserved := by
  rintro ⟨place, m, stands, y, refers, reserved, _⟩
  simp [(clean.below (mem_preorder_of_atPlace? stands)).reference refers] at reserved

-- A name that becomes a slot although a member of an enumeration has the name of the record.
structure Overshadowed (n : Node) (root x : String) (place : Place) : Prop where
  names : ∃ m, n.atPlace? place = some m ∧ m.leafName? = some x
  seen : x ∉ n.hiddenOnWay place
  hidden : root ∈ n.memberNamesOnWay place

instance (n : Node) (root x : String) (place : Place) : Decidable (n.Overshadowed root x place) :=
  decidable_of_iff ((∃ m, n.atPlace? place = some m ∧ m.leafName? = some x) ∧
      x ∉ n.hiddenOnWay place ∧ root ∈ n.memberNamesOnWay place)
    ⟨fun h => ⟨h.1, h.2.1, h.2.2⟩, fun h => ⟨h.names, h.seen, h.hidden⟩⟩

theorem memberNamesOnWay_append {n m : Node} {front back : Place}
    (stands : n.atPlace? front = some m) :
    n.memberNamesOnWay (front ++ back) = m.memberNamesOnWay back ++ n.memberNamesOnWay front := by
  induction front generalizing n with
  | nil =>
    cases stands
    simp [memberNamesOnWay]
  | cons i rest ih =>
    obtain ⟨p, part, below⟩ := atPlace?_cons_some.mp stands
    have here : n.memberNames (i :: (rest ++ back)) = n.memberNames (i :: rest) := by
      unfold memberNames
      split <;> simp_all
    rw [List.cons_append, memberNamesOnWay, memberNamesOnWay, here, part_of_getElem? part, ih below,
      List.append_assoc]

theorem memberNamesOnWay_of_plain {n : Node} {place : Place} (plain : Substitution.Plain n) :
    n.memberNamesOnWay place = [] := by
  induction place generalizing n with
  | nil => rfl
  | cons i rest ih =>
    have here : n.memberNames (i :: rest) = [] := by
      have kind := plain.kind
      unfold memberNames
      split <;> simp_all [Kind.isPlain]
    rw [memberNamesOnWay, ih (plain.part i), here, List.append_nil]

end Node

namespace Substitution

variable (s : Substitution) {shadowed : List String} {n : Node}

theorem root_in_inserted (m : Node) (x : String) :
    ∃ i back r, (s.insertedFor m x).atPlace? (i :: back) = some r ∧
      r.reference? = some s.access.root := by
  unfold insertedFor
  split <;> cases s.access
  · exact ⟨0, [], _, rfl, rfl⟩
  · exact ⟨0, [0], _, rfl, rfl⟩
  · exact ⟨0, [], _, rfl, rfl⟩
  · exact ⟨0, [0], _, rfl, rfl⟩

theorem marked_insertedFor {bound used : List String} (root : s.access.root ∈ used) (m : Node)
    (x : String) : (s.insertedFor m x).Marked bound used := by
  intro r below
  have plain := s.plain_insertedFor m x r below
  have unbound : r.binding? = none := by
    unfold Node.binding?
    split <;> simp_all [Kind.isPlain]
  cases refers : r.reference? with
  | none => simp [Node.isMarked, unbound, refers]
  | some y =>
    cases (s.of_inserted below).2 _ refers
    simp [Node.isMarked, unbound, refers, (s.of_inserted below).1, root]

theorem marked_apply {bound used : List String} (root : s.access.root ∈ used) (clean : n.Clean) :
    (s.apply shadowed n).Marked bound used := by
  induction n using Node.induction generalizing shadowed with
  | node k span ps ih =>
    cases s.outcome shadowed (.mk k span ps) with
    | replaced x _ _ result =>
      rw [result]
      exact s.marked_insertedFor root _ x
    | kept k' adjusted _ result =>
      rw [result, Node.marked_iff_parts]
      constructor
      · have own : (Node.mk k span ps).isMarked bound used = true :=
          Node.isMarked_of_unused (clean _ (Node.self_mem_preorder _))
        rcases adjusted with rfl | ⟨i, _, rfl⟩
        · exact own
        · rfl
      · intro p part
        obtain ⟨q, inside, rfl⟩ := List.mem_map.mp part
        exact ih q inside (clean.of_mem inside)

theorem hidesReserved_apply (clean : n.Clean) :
    (s.apply [] n).HidesReserved ↔
      ∃ x place, s.replaces [] x = true ∧ n.Overshadowed s.access.root x place := by
  constructor
  · rintro ⟨place, r, stands, y, refers, reserved, bound⟩
    rw [(s.stable_surroundings place).apply] at bound
    have member := (clean.reserved_boundOnWay reserved).mp bound
    cases s.origin stands with
    | own m stands result =>
      have refers := s.reference?_apply (result ▸ refers)
      simp [(clean.below (Node.mem_preorder_of_atPlace? stands)).reference refers] at reserved
    | slot front i rest m x split stands name replaces below =>
      cases (s.of_inserted (Node.mem_preorder_of_atPlace? below)).2 _ refers
      rw [split, Node.memberNamesOnWay_append stands,
        Node.memberNamesOnWay_of_plain (plain_of_leafName name), List.nil_append] at member
      rw [List.append_nil, replaces_eq, Bool.and_eq_true_iff] at replaces
      exact ⟨x, front, replaces.1, ⟨m, stands, name⟩, by simpa using replaces.2, member⟩
  · rintro ⟨x, place, replaces, ⟨m, stands, name⟩, seen, hidden⟩
    obtain ⟨i, back, r, below, refers⟩ := s.root_in_inserted m x
    have replaced : s.apply (n.hiddenOnWay place ++ []) m = s.insertedFor m x := by
      refine s.apply_of_leafName name ?_
      rw [List.append_nil, replaces_eq, replaces]
      simpa using seen
    refine ⟨place ++ i :: back, r, ?_, _, refers, s.access.isReserved_root, ?_⟩
    · rw [Node.atPlace?_append, s.apply_atPlace? stands, replaced]
      exact below
    · rw [(s.stable_surroundings _).apply]
      refine (clean.reserved_boundOnWay s.access.isReserved_root).mpr ?_
      rw [Node.memberNamesOnWay_append stands]
      exact List.mem_append_right _ hidden

end Substitution

namespace Node

variable {bound used : List String} {span : Span} {target value : Node}

theorem marked_assigned :
    (mk .expression span [mk (.assign "=") span [generated .target [target], value]]).Marked
      bound used ↔ target.Marked bound used ∧ value.Marked bound used := by
  simp [marked_iff_parts (n := mk _ _ _), generated, isMarked, binding?, reference?]

theorem hidesReserved_assigned :
    (mk .expression span [mk (.assign "=") span [generated .target [target], value]]).HidesReserved ↔
      target.HidesReserved ∨ value.HidesReserved := by
  refine somewhere_assigned ?_
  rintro n around (kind | kind | kind) <;> simp [reference?, kind]

theorem marked_body {directives : Node} {statements : List Node} :
    (mk .body span [directives, group statements]).Marked bound used ↔
      directives.Marked bound used ∧ ∀ n ∈ statements, n.Marked bound used := by
  simp [marked_iff_parts (n := mk _ _ _), group, isMarked, binding?, reference?]

theorem hidesReserved_body {directives : Node} {statements : List Node} :
    (mk .body span [directives, group statements]).HidesReserved ↔
      directives.HidesReserved ∨ ∃ n ∈ statements, n.HidesReserved := by
  have grouped : (group statements).HidesReserved ↔ ∃ n ∈ statements, n.HidesReserved := by
    rw [hidesReserved_iff_parts (by simp [binds, group])]
    simp [group]
  rw [hidesReserved_iff_parts (by simp [binds])]
  simp [grouped]

theorem not_hidesReserved_absent : ¬ absent.HidesReserved := not_hidesReserved_of_quiet rfl

theorem hidesReserved_ifThen {test body : Node} :
    (ifThen test body).HidesReserved ↔ test.HidesReserved ∨ body.HidesReserved := by
  rw [hidesReserved_iff_parts (by simp [binds, ifThen, generated])]
  simp [ifThen, generated, not_hidesReserved_absent]

theorem hidesReserved_blockOf {statements : List Node}
    (unbound : ∀ n ∈ statements, n.lexicalNames = []) :
    (blockOf statements).HidesReserved ↔ ∃ n ∈ statements, n.HidesReserved := by
  refine hidesReserved_iff_parts fun way y bound => ?_
  obtain ⟨n, member, declared⟩ := List.mem_flatMap.mp bound
  rw [unbound n member] at declared
  cases declared

end Node

namespace RecordAccess

variable (a : RecordAccess) (x : String)

theorem marked_slot {bound used : List String} (root : a.root ∈ used) :
    (a.slot x).Marked bound used :=
  Substitution.marked_insertedFor ⟨[], [], a⟩ root (.value x) x

theorem hidesReserved_assignment (span : Span) (value : Node) :
    (a.assignment span x value).HidesReserved ↔ value.HidesReserved := by
  have slot : ¬ (a.slot x).HidesReserved := by
    cases a <;> exact Node.not_hidesReserved_of_quiet rfl
  exact Node.hidesReserved_assigned.trans (or_iff_right slot)

end RecordAccess

namespace Instance

def emptyBody (forwards : Bool) : Node := body .none [] forwards .absent

variable {p : Promotion} {seeds : List Seed} {forwards : Bool} {setup : Node}

theorem statements_body : (body p seeds forwards setup).statements =
    ((emptyBody forwards).statements.set 2 (creation p seeds)).set 9 setup := rfl

theorem mem_statements_body {n : Node} (member : n ∈ (body p seeds forwards setup).statements) :
    n ∈ (emptyBody forwards).statements ∨ n = creation p seeds ∨ n = setup := by
  rw [statements_body] at member
  rcases List.mem_or_eq_of_mem_set member with inside | same
  · exact (List.mem_or_eq_of_mem_set inside).imp_right .inl
  · exact .inr (.inr same)

theorem fits_emptyBody (forwards : Bool) : (emptyBody forwards).Fits forwards := by
  refine Node.marked_of_all ?_
  cases forwards <;> decide +kernel

theorem quiet_emptyBody (forwards : Bool) :
    ∀ n ∈ (emptyBody forwards).statements, n.preorder.all Node.isQuiet = true := by
  cases forwards <;> decide +kernel

theorem marked_parameters (forwards : Bool) :
    (parameters forwards).Marked (componentNames forwards) [] := by
  refine Node.marked_of_all ?_
  cases forwards <;> decide +kernel

theorem marked_hostImport (hostModule : String) : (hostImport hostModule).Marked hookNames [] :=
  Node.marked_of_all rfl

theorem root_mem (a : RecordAccess) (forwards : Bool) :
    a.root ∈ hookNames ++ componentNames forwards := by
  cases a <;> simp [RecordAccess.root, componentNames]

def emptyCreation : Node := creation .none []

theorem creation_eq : creation p seeds = .ifThen (emptyCreation.part 0)
    (.blockOf (assign currentRef (record p seeds) :: creationSeeds seeds
      ++ [(emptyCreation.part 1).part 1])) := rfl

theorem fits_emptyCreation (forwards : Bool) : emptyCreation.Fits forwards := by
  refine Node.marked_of_all ?_
  cases forwards <;> decide +kernel

def plainValues : List Node := undefined :: internalSlots.map Prod.snd

theorem fits_plainValues (forwards : Bool) : ∀ n ∈ plainValues, n.Fits forwards := by
  refine fun n member => Node.marked_of_all ?_
  cases forwards <;> revert n <;> decide +kernel

theorem quiet_plainValues : ∀ n ∈ plainValues, n.preorder.all Node.isQuiet = true := by
  decide +kernel

theorem mem_recordSlots {slot : String × Node} (member : slot ∈ recordSlots p seeds) :
    (∃ seed ∈ seeds, slot.2 = seed.value) ∨ slot.2 ∈ plainValues := by
  rcases List.mem_append.mp member with promoted | internal
  · obtain ⟨y, _, rfl⟩ := List.mem_map.mp promoted
    change (∃ seed ∈ seeds, firstValue seeds y = seed.value) ∨ firstValue seeds y ∈ plainValues
    unfold firstValue
    split
    next seed found => exact .inl ⟨seed, List.mem_of_find?_eq_some found, rfl⟩
    next => exact .inr (by simp [plainValues])
  · exact .inr (List.mem_cons_of_mem _ (List.mem_map_of_mem internal))

theorem fits_record (values : ∀ seed ∈ seeds, seed.value.Fits forwards) :
    (record p seeds).Fits forwards := by
  rw [record, Node.Fits, Node.generated, Node.marked_iff_parts]
  refine ⟨rfl, fun property member => ?_⟩
  obtain ⟨slot, inRecord, rfl⟩ := List.mem_map.mp member
  have value : slot.2.Fits forwards := by
    rcases mem_recordSlots inRecord with ⟨seed, member, same⟩ | fixed
    · exact same ▸ values seed member
    · exact fits_plainValues forwards _ fixed
  have key : (Node.propertyName slot.1).Fits forwards := Node.marked_of_all rfl
  exact Node.marked_iff_parts.mpr ⟨rfl, by simpa [Node.propertyOf, Node.generated] using ⟨key, value⟩⟩

theorem hidesReserved_record :
    (record p seeds).HidesReserved ↔ ∃ slot ∈ recordSlots p seeds, slot.2.HidesReserved := by
  have property : ∀ slot : String × Node,
      (Node.propertyOf slot.1 slot.2).HidesReserved ↔ slot.2.HidesReserved := by
    intro slot
    have key : ¬ (Node.propertyName slot.1).HidesReserved := Node.not_hidesReserved_of_quiet rfl
    rw [Node.hidesReserved_iff_parts (by simp [Node.binds, Node.propertyOf, Node.generated])]
    simp [Node.propertyOf, Node.generated, key]
  rw [record, Node.hidesReserved_iff_parts (by simp [Node.binds, Node.generated])]
  simp only [Node.generated, Node.parts_mk, List.mem_map, exists_exists_and_eq_and]
  exact exists_congr fun slot => and_congr_right fun _ => property slot

theorem fits_creationSeeds (values : ∀ seed ∈ seeds, seed.value.Fits forwards) :
    ∀ n ∈ creationSeeds seeds, n.Fits forwards := by
  intro n member
  obtain ⟨seed, inSeeds, rfl⟩ := List.mem_map.mp member
  exact Node.marked_assigned.mpr ⟨RecordAccess.viaRef.marked_slot _ (root_mem .viaRef forwards),
    values seed (List.mem_of_mem_filter inSeeds)⟩

theorem fits_creation (values : ∀ seed ∈ seeds, seed.value.Fits forwards) :
    (creation p seeds).Fits forwards := by
  have fixed := fits_emptyCreation forwards
  have start : (assign currentRef (record p seeds)).Fits forwards :=
    Node.marked_assigned.mpr ⟨((fixed.part 0).part 0), fits_record values⟩
  have block : (Node.blockOf (assign currentRef (record p seeds) :: creationSeeds seeds
      ++ [(emptyCreation.part 1).part 1])).Fits forwards := by
    refine Node.marked_iff_parts.mpr ⟨rfl, fun n member => ?_⟩
    simp only [Node.blockOf, Node.generated, Node.parts_mk, List.cons_append, List.mem_cons,
      List.mem_append, List.not_mem_nil, or_false] at member
    rcases member with rfl | seeded | rfl
    · exact start
    · exact fits_creationSeeds values n seeded
    · exact (fixed.part 1).part 1
  refine creation_eq ▸ Node.marked_iff_parts.mpr ⟨rfl, ?_⟩
  simpa [Node.ifThen, Node.generated] using ⟨fixed.part 0, block, fixed.part 2⟩

theorem created_undeclared : ∀ n ∈ assign currentRef (record p seeds) :: creationSeeds seeds
    ++ [(emptyCreation.part 1).part 1], n.lexicalNames = [] := by
  simp only [List.cons_append, List.forall_mem_cons, List.forall_mem_append, creationSeeds,
    List.forall_mem_map, List.not_mem_nil, false_implies, implies_true, and_true]
  exact ⟨rfl, fun _ _ => rfl, rfl⟩

theorem hidesReserved_creation : (creation p seeds).HidesReserved ↔
    (∃ slot ∈ recordSlots p seeds, slot.2.HidesReserved) ∨
      ∃ n ∈ creationSeeds seeds, n.HidesReserved := by
  have test : ¬ (emptyCreation.part 0).HidesReserved :=
    Node.not_hidesReserved_of_quiet (by decide +kernel)
  have trigger : ¬ ((emptyCreation.part 1).part 1).HidesReserved :=
    Node.not_hidesReserved_of_quiet (by decide +kernel)
  have ref : ¬ currentRef.HidesReserved := Node.not_hidesReserved_of_quiet (by decide +kernel)
  have start : (assign currentRef (record p seeds)).HidesReserved ↔ (record p seeds).HidesReserved := by
    rw [assign, Node.statement, Node.assigned, Node.generated, Node.generated,
      Node.hidesReserved_assigned, or_iff_right ref]
  rw [creation_eq, Node.hidesReserved_ifThen, Node.hidesReserved_blockOf created_undeclared,
    or_iff_right test, ← hidesReserved_record, ← start]
  simp [trigger]

theorem hidesReserved_body : (body p seeds forwards setup).HidesReserved ↔
    (creation p seeds).HidesReserved ∨ setup.HidesReserved := by
  have directives : ¬ (Node.group []).HidesReserved := Node.not_hidesReserved_of_quiet rfl
  have whole : (body p seeds forwards setup).HidesReserved ↔
      ∃ n ∈ (body p seeds forwards setup).statements, n.HidesReserved :=
    Node.hidesReserved_body.trans (or_iff_right directives)
  rw [whole]
  constructor
  · rintro ⟨n, member, hides⟩
    rcases mem_statements_body member with fixed | rfl | rfl
    · exact (Node.not_hidesReserved_of_quiet (quiet_emptyBody forwards n fixed) hides).elim
    · exact .inl hides
    · exact .inr hides
  · rintro (hides | hides)
    · exact ⟨_, List.mem_iff_getElem?.mpr ⟨2, rfl⟩, hides⟩
    · exact ⟨_, List.mem_iff_getElem?.mpr ⟨9, rfl⟩, hides⟩

theorem fits_body (values : ∀ seed ∈ seeds, seed.value.Fits forwards) (inside : setup.Fits forwards) :
    (body p seeds forwards setup).Fits forwards := by
  have fixed := (Node.marked_body.mp (fits_emptyBody forwards)).2
  refine Node.marked_body.mpr ⟨Node.marked_of_all rfl, fun n member => ?_⟩
  rcases mem_statements_body member with common | rfl | rfl
  · exact fixed n common
  · exact fits_creation values
  · exact inside

end Instance

end Rsx
