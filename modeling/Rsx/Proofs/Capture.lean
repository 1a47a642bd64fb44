import Rsx.Proofs.SingleHome

set_option autoImplicit false

namespace Rsx

namespace Node

def accessName? (n : Node) : Option String :=
  match accessed? n.kind n.parts with
  | some (.name _ x) => some x
  | _ => none

-- A slot of something else than a promoted variable of the code around.
def Captures (n : Node) (names : List String) : Prop :=
  n.Somewhere fun m around => ∃ x, m.accessName? = some x ∧
    (x ∉ names ∨ x ∈ around.bound ∨ around.isHeritage = true)

theorem captures_split {n : Node} {names : List String} :
    n.Captures names ↔ ∃ m ∈ n.split, m.Captures names :=
  somewhere_split fun m _ _ _ declares => by simp [accessName?, accessed?, declares]

end Node

namespace Substitution

variable (s : Substitution) {shadowed : List String} {n : Node} {x : String}

theorem accessName?_insertedFor (n : Node) (x : String) :
    (s.insertedFor n x).accessName? = some x := by
  unfold insertedFor
  split <;> cases s.access <;> rfl

theorem accessName?_inside {r : Node} {i : Nat} {rest : Place}
    (below : (s.insertedFor n x).atPlace? (i :: rest) = some r) : r.accessName? = none := by
  obtain ⟨p, found, below⟩ := Node.atPlace?_cons_some.mp below
  have part := List.mem_of_getElem? found
  have inside := Node.mem_preorder_of_atPlace? below
  unfold insertedFor at part
  split at part <;> cases access : s.access <;>
    simp [access, RecordAccess.slot, RecordAccess.object, tagMember, tagObject, tagRoot,
      Node.memberOf, Node.value, Node.propertyName, Node.generated] at part <;>
    rcases part with rfl | rfl <;> simp [Node.preorder_mk] at inside <;>
    rcases inside with rfl | rfl | rfl <;> rfl

theorem accessName?_apply (clean : n.Clean) :
    (s.apply shadowed n).accessName? = some x ↔
      n.leafName? = some x ∧ s.replaces shadowed x = true := by
  constructor
  · intro access
    cases s.outcome shadowed n with
    | replaced y name replaces result =>
      rw [result, accessName?_insertedFor] at access
      cases access
      exact ⟨name, replaces⟩
    | kept k _ _ result =>
      simp [result, Node.accessName?, s.accessed?_map _ clean] at access
  · rintro ⟨name, replaces⟩
    rw [s.apply_of_leafName name replaces, accessName?_insertedFor]

theorem captures_apply (clean : n.Clean) :
    (s.apply [] n).Captures s.promoted ↔
      ∃ x place, s.replaces [] x = true ∧ n.TakenForOuter x place := by
  constructor
  · rintro ⟨place, r, stands, x, access, wrong⟩
    rw [(s.stable_surroundings place).apply] at wrong
    cases s.origin stands with
    | own m stands result =>
      have cleanM := clean.below (Node.mem_preorder_of_atPlace? stands)
      obtain ⟨name, replaces⟩ := (s.accessName?_apply cleanM).mp (result ▸ access)
      rw [List.append_nil, replaces_eq, Bool.and_eq_true_iff] at replaces
      refine ⟨x, place, replaces.1, ⟨m, stands, name⟩, wrong.resolve_left ?_, ?_⟩
      · exact fun unpromoted => unpromoted (s.promoted_of_replaces replaces.1)
      · simpa using replaces.2
    | slot _ _ _ _ _ _ _ _ _ below => simp [s.accessName?_inside below] at access
  · rintro ⟨x, place, replaces, ⟨m, stands, name⟩, bound, seen⟩
    refine ⟨place, _, s.apply_atPlace? stands [], x, ?_, ?_⟩
    · refine (s.accessName?_apply (clean.below (Node.mem_preorder_of_atPlace? stands))).mpr
        ⟨name, ?_⟩
      rw [List.append_nil, replaces_eq, replaces]
      simpa using seen
    · rw [(s.stable_surroundings place).apply]
      exact .inr bound

end Substitution

namespace RecordAccess

variable (a : RecordAccess) (span : Span) (y : String) (value : Node) {names : List String}

theorem slot_not_captures (promoted : y ∈ names) : ¬ (a.slot y).Captures names := by
  rintro ⟨place, m, stands, x, access, wrong⟩
  cases place with
  | nil =>
    cases stands
    have same : (a.slot y).accessName? = some y :=
      Substitution.accessName?_insertedFor ⟨[], [], a⟩ (.value y) y
    cases same.symm.trans access
    simp [Node.surroundings, Node.boundOnWay, Node.isHeritageWay, promoted] at wrong
  | cons i rest =>
    have none : m.accessName? = none :=
      Substitution.accessName?_inside ⟨[], [], a⟩ (n := .value y) (x := y) stands
    simp [none] at access

theorem captures_assignment (promoted : y ∈ names) :
    (a.assignment span y value).Captures names ↔ value.Captures names := by
  refine (Node.somewhere_assigned ?_).trans (or_iff_right (a.slot_not_captures y promoted))
  rintro n around (kind | kind | kind) <;> simp [Node.accessName?, Node.accessed?, kind]

end RecordAccess

namespace Step

theorem promoted_of_set {p : Promotion} {n value : Node} {x : String} {span : Span}
    (member : .set x span value ∈ p.steps n) : x ∈ p.names := by
  unfold Promotion.steps at member
  split at member
  · obtain ⟨d, _, member⟩ := List.mem_flatMap.mp member
    unfold Promotion.declaratorSteps at member
    split at member
    · cases List.mem_singleton.mp member
    next y named =>
      split at member
      · cases member
      · cases List.mem_singleton.mp member
        exact (Promotion.promotedName?_eq_some.mp named).2
  · obtain ⟨_, _, same⟩ := List.mem_map.mp member
    cases same

end Step

namespace Rebuilt

variable {o : Options} {path source : String} {out : Output} (r : Rebuilt o path source out)

theorem clean_step {step : Step} (member : step ∈ r.steps) : step.code.Clean := by
  have clean := PromotedBody.clean_steps r.clean_statements r.promotion step member
  cases step <;> exact clean

theorem captures_emitted {step : Step} {n : Node} (member : step ∈ r.steps)
    (emits : r.Emits step n) :
    n.Captures r.promotion.names ↔
      ∃ x ∈ r.promotion.names, ∃ place, step.code.TakenForOuter x place := by
  have apply : ∀ a, ((r.substitution a).apply [] step.code).Captures r.promotion.names ↔
      ∃ x ∈ r.promotion.names, ∃ place, step.code.TakenForOuter x place := by
    intro a
    have captures := (r.substitution a).captures_apply (r.clean_step member)
    rw [show (r.substitution a).promoted = r.promotion.names from rfl] at captures
    rw [captures]
    constructor
    · rintro ⟨x, place, replaces, taken⟩
      exact ⟨x, Substitution.promoted_of_replaces _ replaces, place, taken⟩
    · rintro ⟨x, promoted, place, taken⟩
      exact ⟨x, place, r.replaces promoted a, taken⟩
  cases emits with
  | moved y span value =>
    obtain ⟨_, _, set⟩ := List.mem_flatMap.mp member
    rw [RecordAccess.captures_assignment _ _ _ _ (Step.promoted_of_set set)]
    exact apply _
  | assigned y span value =>
    obtain ⟨_, _, set⟩ := List.mem_flatMap.mp member
    rw [RecordAccess.captures_assignment _ _ _ _ (Step.promoted_of_set set)]
    exact apply _
  | kept m => exact apply _

end Rebuilt

/-- Every slot stands for a promoted variable, unless a step of the body has the name of an inner
variable, or of a type, that is taken for one. Names that are not replaced are left as they are. -/
theorem slots_stand_for_promoted_variables {o : Options} {path source : String} {out : Output}
    (compiled : (compile o path source).result = .ok out) (transformed : out.transformed = true) :
    ∃ r : Rebuilt o path source out,
      ((∀ n ∈ r.code, ∀ place m x, n.atPlace? place = some m → m.accessName? = some x →
          x ∈ r.promotion.names ∧ x ∉ n.boundOnWay place ∧ n.isHeritageWay place = false) ↔
        ∀ step ∈ r.steps, ∀ x ∈ r.promotion.names, ∀ place, ¬ step.code.TakenForOuter x place) ∧
      ∀ step ∈ r.steps, ∀ place m x, step.code.atPlace? place = some m → m.leafName? = some x →
        x ∉ r.promotion.names ∨ x ∈ step.code.hiddenOnWay place →
        ∀ a, ((r.substitution a).apply [] step.code).atPlace? place = some m := by
  obtain ⟨r⟩ := rebuilt_of_compile compiled transformed
  refine ⟨r, ?_, ?_⟩
  · have captured := r.exists_in_code (fun _ => Node.captures_split)
      (fun step member n emits => r.captures_emitted member emits)
    have right : (∀ n ∈ r.code, ∀ place m x, n.atPlace? place = some m → m.accessName? = some x →
          x ∈ r.promotion.names ∧ x ∉ n.boundOnWay place ∧ n.isHeritageWay place = false) ↔
        ¬ ∃ n ∈ r.code, n.Captures r.promotion.names := by
      simp only [Node.Captures, Node.Somewhere, Node.surroundings, not_exists, not_and, not_or,
        not_not, Bool.not_eq_true]
      exact ⟨fun all n inCode place m stands x => all n inCode place m x stands,
        fun all n inCode place m x stands => all n inCode place m stands x⟩
    rw [right, captured]
    simp only [not_exists, not_and]
  · intro step member place m x stands name untouched a
    rw [Substitution.apply_atPlace? _ stands, List.append_nil]
    refine congrArg some (Substitution.apply_of_unreplaced _ name ?_)
    refine Bool.eq_false_iff.mpr fun replaces => ?_
    rcases untouched with unpromoted | hidden
    · exact unpromoted (Substitution.promoted_of_replaces _ replaces)
    · rw [Substitution.replaces_eq, Bool.and_eq_true_iff] at replaces
      simp [hidden] at replaces

-- The `x` of the static block is a variable of its own, and becomes the slot of the promoted one.
def staticBlockText : String :=
  "export default function A() \x7b let x = 1; class C \x7b static \x7b let x = 2; use(x); \x7d \x7d \x7d"

set_option maxRecDepth 100000 in
theorem slots_stand_for_promoted_variables_static_block :
    ∃ out, (compile .default "A.rsx" staticBlockText).result = .ok out ∧ out.transformed = true ∧
      ∃ r : Rebuilt .default "A.rsx" staticBlockText out, "x" ∈ r.promotion.names ∧
        (∃ step ∈ r.steps, step.code.TakenForOuter "x" [6, 0, 1, 0, 2, 0]) ∧
        ¬ ∀ n ∈ r.code, ∀ place m x, n.atPlace? place = some m → m.accessName? = some x →
          x ∈ r.promotion.names ∧ x ∉ n.boundOnWay place ∧ n.isHeritageWay place = false := by
  obtain ⟨out, compiled, transformed⟩ :=
    ok_of_isTransformed (compile .default "A.rsx" staticBlockText).result (by decide +kernel)
  obtain ⟨r, holds, _⟩ := slots_stand_for_promoted_variables compiled transformed
  have passes : rebuiltPasses (fun _ b steps => decide ("x" ∈ b.promotion.names ∧
      ∃ step ∈ steps, step.code.TakenForOuter "x" [6, 0, 1, 0, 2, 0]))
        staticBlockText = true := by decide +kernel
  obtain ⟨promoted, step, member, taken⟩ := of_decide_eq_true (r.test_of_passes passes)
  refine ⟨out, compiled, transformed, r, promoted, ⟨step, member, taken⟩, fun all => ?_⟩
  exact holds.mp all step member "x" promoted _ taken

end Rsx
