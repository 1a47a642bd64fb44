import Mathlib.Algebra.Ring.Nat
import Rsx.Proofs.Capture
import Rsx.Proofs.Declared

set_option autoImplicit false

namespace Rsx

def Kind.unabbreviated : Kind → Kind
  | .property info => .property { info with shorthand := false }
  | k => k

namespace Node

-- `r` is `n` when each slot of the record in `r` is read as the name of its variable. Only a name
-- that became a slot loses its span, and only properties may differ in being abbreviated. The first
-- name of a dotted element name is told from the name of an element by where it stands.
inductive ReadsAs : Node → Node → Prop where
  | slot {k k' name : Kind} {span span' : Span} {ps : List Node}
      (access : accessed? k ps = some name) (same : bareKind k' = name) :
      ReadsAs (mk k span ps) (mk k' span' [])
  | node {k k' : Kind} {span : Span} {ps qs : List Node} (other : accessed? k ps = none)
      (same : k.unabbreviated = k'.unabbreviated) (parts : List.Forall₂ ReadsAs ps qs) :
      ReadsAs (mk k span ps) (mk k' span qs)

def slotNames (n : Node) : List String := n.preorder.filterMap accessName?

theorem slotNames_mk (k : Kind) (span : Span) (ps : List Node) :
    (mk k span ps).slotNames = (mk k span ps).accessName?.toList ++ ps.flatMap slotNames := by
  rw [slotNames, preorder_mk, List.filterMap_cons, List.filterMap_flatMap]
  cases (mk k span ps).accessName? <;> rfl

def WritesOutSlots (n : Node) : Prop :=
  ∀ info key value, n.kind = .property info → n.parts = [key, value] →
    value.accessName?.isSome = true → info.shorthand = false

theorem not_isValueName_of_access {n : Node} (access : n.accessName?.isSome = true) :
    Substitution.isValueName n = false := by
  obtain ⟨k, span, ps⟩ := n
  unfold Substitution.isValueName
  split
  next kind =>
    cases kind
    cases access
  next => rfl

end Node

namespace Substitution

variable (s : Substitution) {shadowed : List String} {n : Node}

theorem replaced?_of_untouched
    (untouched : ∀ x, n.leafName? = some x → s.replaces shadowed x = false) :
    s.replaced? shadowed n.kind n.parts = none := by
  rw [replaced?_eq, Option.map_eq_none_iff, Option.filter_eq_none_iff]
  intro x name
  simp [untouched x name]

theorem apply_of_untouched
    (untouched : ∀ x, n.leafName? = some x → s.replaces shadowed x = false) :
    s.apply shadowed n =
      .mk (adjusted n.kind (n.parts.map (s.apply (n.introduced ++ shadowed)))) n.span
        (n.parts.map (s.apply (n.introduced ++ shadowed))) := by
  have none := s.replaced?_of_untouched untouched
  obtain ⟨k, span, ps⟩ := n
  rw [Node.kind_mk, Node.parts_mk] at none
  simp [apply, none, applyList_eq]

theorem countList_eq (ps : List Node) :
    s.countList shadowed ps = (ps.map (s.count shadowed)).sum := by
  induction ps with
  | nil => simp [countList]
  | cons p rest ih => simp [countList, ih]

theorem count_of_untouched
    (untouched : ∀ x, n.leafName? = some x → s.replaces shadowed x = false) :
    s.count shadowed n = (n.parts.map (s.count (n.introduced ++ shadowed))).sum := by
  have none := s.replaced?_of_untouched untouched
  obtain ⟨k, span, ps⟩ := n
  rw [Node.kind_mk, Node.parts_mk] at none
  simp [count, none, countList_eq]

theorem count_of_replaced {x : String} (name : n.leafName? = some x)
    (replaces : s.replaces shadowed x = true) : s.count shadowed n = 1 := by
  have found := s.replaced?_eq shadowed n
  obtain ⟨k, span, ps⟩ := n
  rw [Node.kind_mk, Node.parts_mk, name, Option.filter_some, if_pos replaces] at found
  simp [count, found]

theorem accessed?_insertedFor {x : String} (name : n.leafName? = some x) :
    Node.accessed? (s.insertedFor n x).kind (s.insertedFor n x).parts =
      some (Node.bareKind n.kind) := by
  unfold insertedFor
  obtain ⟨_, kind | kind | kind⟩ := Node.leafName?_eq_some.mp name <;> rw [kind] <;>
    cases s.access <;> rfl

theorem readsAs_apply (clean : n.Clean) : (s.apply shadowed n).ReadsAs n := by
  induction n using Node.induction generalizing shadowed with
  | node k span ps ih =>
    cases s.outcome shadowed (.mk k span ps) with
    | replaced x name _ result =>
      have access := s.accessed?_insertedFor name
      obtain ⟨rfl, _⟩ := Node.leafName?_eq_some.mp name
      rw [result, ← Node.eta (s.insertedFor _ x)]
      exact .slot access rfl
    | kept k' adjusted _ result =>
      rw [result]
      refine .node (s.accessed?_map _ clean k') ?_ ?_
      · rcases adjusted with rfl | ⟨i, kind, rfl⟩
        · rfl
        · cases kind
          rfl
      · rw [Node.parts_mk, List.forall₂_map_left_iff, List.forall₂_same]
        exact fun p part => ih p part (clean.of_mem part)

theorem slotNames_insertedFor (n : Node) (x : String) : (s.insertedFor n x).slotNames = [x] := by
  unfold insertedFor
  split <;> cases s.access <;> rfl

theorem length_slotNames_apply (clean : n.Clean) :
    (s.apply shadowed n).slotNames.length = s.count shadowed n := by
  induction n using Node.induction generalizing shadowed with
  | node k span ps ih =>
    cases s.outcome shadowed (.mk k span ps) with
    | replaced x name replaces result =>
      rw [result, slotNames_insertedFor, s.count_of_replaced name replaces]
      rfl
    | kept k' _ untouched result =>
      have none : (s.apply shadowed (.mk k span ps)).accessName? = none := by
        rw [result, Node.accessName?, Node.kind_mk, Node.parts_mk, s.accessed?_map _ clean]
      have below : (ps.map fun p =>
          (s.apply ((Node.mk k span ps).introduced ++ shadowed) p).slotNames.length) =
          ps.map (s.count ((Node.mk k span ps).introduced ++ shadowed)) :=
        List.map_congr_left fun p part => ih p part (clean.of_mem part)
      rw [s.count_of_untouched untouched, Node.parts_mk, ← below]
      rw [result] at none ⊢
      rw [Node.slotNames_mk, none, Option.toList_none, List.nil_append, Node.parts_mk,
        List.flatMap_map, List.length_flatMap]

theorem writesOutSlots_apply : (s.apply shadowed n).WritesOutSlots := by
  intro info key value kind parts access
  cases s.outcome shadowed n with
  | replaced x _ _ result =>
    have plain := (s.plain_insertedFor n x).kind
    rw [← result, kind] at plain
    cases plain
  | kept _ _ untouched _ =>
    have other := Node.not_isValueName_of_access access
    rw [s.apply_of_untouched untouched] at kind parts
    rw [Node.parts_mk] at parts
    rw [Node.kind_mk, parts] at kind
    rcases adjusted_eq n.kind [key, value] with same | ⟨i, _, written⟩
    · rw [same] at kind
      rw [kind] at same
      simp only [adjusted, other] at same
      split at same
      next => exact (congrArg PropertyInfo.shorthand (Kind.property.inj same)).symm
      next unchanged => simpa using unchanged
    · rw [written] at kind
      cases kind
      rfl

theorem writesOutSlots_of_mem {m : Node} (below : m ∈ (s.apply shadowed n).preorder) :
    m.WritesOutSlots := by
  induction n using Node.induction generalizing shadowed with
  | node k span ps ih =>
    have root : (s.apply shadowed (.mk k span ps)).WritesOutSlots := s.writesOutSlots_apply
    cases s.outcome shadowed (.mk k span ps) with
    | replaced x _ _ result =>
      intro info key value kind
      rw [result] at below
      have plain := s.plain_insertedFor _ x m below
      rw [kind] at plain
      cases plain
    | kept k' _ _ result =>
      rw [result] at root below
      rw [Node.preorder_mk, List.mem_cons] at below
      rcases below with rfl | below
      · exact root
      · obtain ⟨r, part, below⟩ := List.mem_flatMap.mp below
        obtain ⟨p, inside, rfl⟩ := List.mem_map.mp part
        exact ih p inside below

-- A second run meets the same scopes and finds no name left to replace.

theorem adjusted_adjusted (k : Kind) (ps : List Node) :
    adjusted (adjusted k ps) ps = adjusted k ps := by
  rcases adjusted_eq k ps with same | ⟨i, _, written⟩
  · rw [same, same]
  · rw [written]
    unfold adjusted
    split
    next same =>
      cases same
      rfl
    next => rfl

theorem untouched_apply (x : String) (name : (s.apply shadowed n).leafName? = some x) :
    s.replaces shadowed x = false :=
  (s.leafName?_apply.mp name).2

theorem replaces_of_reserved (shadowed : List String) {x : String} (reserved : isReserved x = true) :
    s.replaces shadowed x = false := by
  simp [replaces, reserved]

-- A slot has no name left to replace.
theorem again_insertedFor (n : Node) (x : String) :
    s.apply shadowed (s.insertedFor n x) = s.insertedFor n x ∧
      s.count shadowed (s.insertedFor n x) = 0 := by
  have direct := s.replaces_of_reserved shadowed isReserved_instanceName
  have viaRef := s.replaces_of_reserved shadowed isReserved_instanceRefName
  unfold insertedFor
  split <;> cases s.access <;>
    simp [RecordAccess.slot, RecordAccess.object, tagMember, tagObject, tagRoot, Node.memberOf,
      Node.value, Node.propertyName, Node.generated, apply, applyList, count, countList, replaced?,
      replacement?, adjusted, Node.introduced, direct, viaRef]

theorem apply_apply : s.apply shadowed (s.apply shadowed n) = s.apply shadowed n := by
  induction n using Node.induction generalizing shadowed with
  | node k span ps ih =>
    cases s.outcome shadowed (.mk k span ps) with
    | replaced x _ _ result => rw [result, (s.again_insertedFor _ _).1]
    | kept _ _ untouched _ =>
      have scopes := s.stable_introduced.apply shadowed (.mk k span ps)
      have again : (ps.map (s.apply ((Node.mk k span ps).introduced ++ shadowed))).map
          (s.apply ((Node.mk k span ps).introduced ++ shadowed)) =
          ps.map (s.apply ((Node.mk k span ps).introduced ++ shadowed)) := by
        rw [List.map_map]
        exact List.map_congr_left fun p part => ih p part
      rw [s.apply_of_untouched s.untouched_apply, scopes, s.apply_of_untouched untouched]
      simp only [Node.kind_mk, Node.span_mk, Node.parts_mk, again, adjusted_adjusted]

theorem count_apply : s.count shadowed (s.apply shadowed n) = 0 := by
  induction n using Node.induction generalizing shadowed with
  | node k span ps ih =>
    cases s.outcome shadowed (.mk k span ps) with
    | replaced x _ _ result => rw [result, (s.again_insertedFor _ _).2]
    | kept _ _ untouched result =>
      have scopes := s.stable_introduced.apply shadowed (.mk k span ps)
      rw [s.count_of_untouched s.untouched_apply, scopes, result, Node.parts_mk, Node.parts_mk,
        List.map_map, List.sum_eq_zero_iff_forall_eq_nat]
      intro total member
      obtain ⟨p, part, rfl⟩ := List.mem_map.mp member
      exact ih p part

/-- Replacing names in a list of statements, or in an expression as a list of one, can be undone; it
makes as many slots as it counts, leaves no slot in an abbreviated property, and when it is done
again it does nothing. -/
theorem replacing_reversible {ns : List Node} (clean : ∀ n ∈ ns, n.Clean) :
    List.Forall₂ Node.ReadsAs (s.applyList [] ns) ns ∧
      s.countList [] ns = ((s.applyList [] ns).flatMap Node.slotNames).length ∧
      (∀ m ∈ Node.preorderList (s.applyList [] ns), m.WritesOutSlots) ∧
      s.applyList [] (s.applyList [] ns) = s.applyList [] ns ∧
      s.countList [] (s.applyList [] ns) = 0 := by
  simp only [applyList_eq, countList_eq, Node.preorderList_eq]
  refine ⟨?_, ?_, ?_, ?_, ?_⟩
  · rw [List.forall₂_map_left_iff, List.forall₂_same]
    exact fun n member => s.readsAs_apply (clean n member)
  · rw [List.flatMap_map, List.length_flatMap]
    exact congrArg List.sum (List.map_congr_left fun n member =>
      (s.length_slotNames_apply (clean n member)).symm)
  · intro m below
    obtain ⟨r, member, below⟩ := List.mem_flatMap.mp below
    obtain ⟨n, _, rfl⟩ := List.mem_map.mp member
    exact s.writesOutSlots_of_mem below
  · rw [List.map_map]
    exact List.map_congr_left fun n _ => s.apply_apply
  · rw [List.map_map, List.sum_eq_zero_iff_forall_eq_nat]
    intro total member
    obtain ⟨n, _, rfl⟩ := List.mem_map.mp member
    exact s.count_apply

end Substitution

-- `use({ x }, (x) => x, <x.y />);`
def abbreviatedUse : Node :=
  let property := Node.mk (.property ⟨.init, false, false, true⟩) ⟨6, 7⟩
    [.propertyName "x", .mk (.name .value "x") ⟨6, 7⟩ []]
  let tag := Node.generated .tagMember
    [.mk (.name .tagRoot "x") ⟨23, 24⟩ [], .generated (.name .tagText "y") []]
  .statement (.callOf (.value "use")
    [.generated .object [property], .arrowTo [.parameterOf "x"] (.value "x"),
      .generated .element [.generated (.openingTag true) [tag, .absent, .group []], .group [],
        .absent]])

theorem Substitution.replacing_reversible_shorthand :
    let s : Substitution := ⟨["x"], ["props"], .viaRef⟩
    (∀ n ∈ [abbreviatedUse], n.Clean) ∧ s.countList [] [abbreviatedUse] = 2 ∧
      List.Forall₂ Node.ReadsAs (s.applyList [] [abbreviatedUse]) [abbreviatedUse] ∧
      ((s.applyList [] [abbreviatedUse]).flatMap Node.slotNames).length = 2 ∧
      s.applyList [] (s.applyList [] [abbreviatedUse]) = s.applyList [] [abbreviatedUse] := by
  intro s
  have clean : ∀ n ∈ [abbreviatedUse], n.Clean := by
    intro n member
    cases List.mem_singleton.mp member
    rw [Node.clean_iff]
    exact Option.isNone_iff_eq_none.mp (by decide +kernel)
  have two : s.countList [] [abbreviatedUse] = 2 := by decide +kernel
  obtain ⟨back, counted, _, again, _⟩ := s.replacing_reversible clean
  exact ⟨clean, two, back, counted ▸ two, again⟩

end Rsx
