import Rsx.Proofs.Rebuilt

set_option autoImplicit false

namespace Rsx

namespace Node

def Touches (n : Node) (x : String) : Prop :=
  n.Mentions x ∨ x ∈ n.lexicalNames ∨ x ∈ n.varNames

theorem somewhere_split {n : Node} {P : Node → Surroundings → Prop}
    (other : ∀ m around kind declare, m.kind = .variableList kind declare → ¬ P m around) :
    n.Somewhere P ↔ ∃ m ∈ n.split, m.Somewhere P := by
  have ofParts : ∀ {m : Node} {kind declare}, m.kind = .variableList kind declare →
      (m.Somewhere P ↔ ∃ d ∈ m.parts, d.Somewhere P) := fun {m} {kind} {declare} declares =>
    somewhere_iff_parts (fun _ => by simp [binds, declares]) (by simp [Kind.isType, declares])
      (other m _ kind declare declares)
  rcases n.split_cases with alone | ⟨kind, declare, declares⟩
  · simp [alone]
  · have single : ∀ d, (Node.single kind d).Somewhere P ↔ d.Somewhere P := by
      intro d
      rw [ofParts rfl]
      simp [Node.single]
    simp [ofParts declares, split, declares, single]

theorem mentions_split {n : Node} {x : String} :
    n.Mentions x ↔ ∃ m ∈ n.split, m.Mentions x :=
  somewhere_split fun m _ _ _ declares => by simp [use?, leafName?, declares]

theorem lexicalNames_variableList {n : Node} {kind : VariableKind} {declare : Bool} {x : String}
    (declares : n.kind = .variableList kind declare) :
    x ∈ n.lexicalNames ↔ ∃ d ∈ n.parts, x ∈ (single kind d).lexicalNames := by
  cases kind <;>
    simp [lexicalNames, ownNames, variableNames, declarators, declares, single]

theorem varNames_variableList {n : Node} {kind : VariableKind} {declare : Bool} {x : String}
    (declares : n.kind = .variableList kind declare) :
    x ∈ n.varNames ↔ ∃ d ∈ n.parts, x ∈ (single kind d).varNames := by
  obtain ⟨k, span, ps⟩ := n
  cases declares
  cases kind <;>
    simp [single, varNames_mk, Kind.closesVars, varsHere, variableNames, declarators, and_or_left,
      exists_or]

theorem touches_split {n : Node} {x : String} : n.Touches x ↔ ∃ m ∈ n.split, m.Touches x := by
  rcases n.split_cases with alone | ⟨kind, declare, declares⟩
  · simp [alone]
  · rw [Touches, mentions_split]
    simp only [Touches, lexicalNames_variableList declares, varNames_variableList declares, split,
      declares, List.mem_map, exists_exists_and_eq_and, and_or_left, exists_or]

end Node

namespace RecordAccess

variable (a : RecordAccess) (span : Span) {x : String} (y : String) (value : Node)

theorem slot_not_mentions (unreserved : isReserved x = false) : ¬ (a.slot y).Mentions x := by
  rintro ⟨place, m, stands, uses, _⟩
  have root : x = a.root :=
    Substitution.use?_of_inserted ⟨[], [], a⟩ (m := .value y) (x := y) stands uses
  rw [root, a.isReserved_root] at unreserved
  cases unreserved

theorem mentions_assignment (unreserved : isReserved x = false) :
    (a.assignment span y value).Mentions x ↔ value.Mentions x := by
  refine (Node.somewhere_assigned ?_).trans (or_iff_right (a.slot_not_mentions y unreserved))
  rintro n around (kind | kind | kind) <;> simp [Node.use?, Node.leafName?, kind]

theorem varNames_assignment : (a.assignment span y value).varNames = value.varNames := by
  cases a <;>
    simp [assignment, slot, object, Node.memberOf, Node.value, Node.propertyName, Node.generated,
      Node.varNames_mk, Kind.closesVars, Node.varsHere]

theorem touches_assignment (unreserved : isReserved x = false) :
    (a.assignment span y value).Touches x ↔ value.Mentions x ∨ x ∈ value.varNames := by
  have none : (a.assignment span y value).lexicalNames = [] := rfl
  simp [Node.Touches, mentions_assignment a span y value unreserved, none, varNames_assignment]

end RecordAccess

namespace Step

def code : Step → Node
  | set _ _ value => value
  | keep n => n

-- A step that declares a variable of the function, and not by a promoted declarator.
def Redeclares (x : String) : Step → Prop
  | set _ _ value => x ∈ value.varNames
  | keep n => x ∈ n.lexicalNames ∨ x ∈ n.varNames

theorem preorder_of_steps {p : Promotion} {n m : Node} {step : Step} (member : step ∈ p.steps n)
    (below : m ∈ step.code.preorder) : m ∈ n.preorder ∨ m.use? = none := by
  have ofSingle : ∀ kind, ∀ d ∈ n.parts, m ∈ (Node.single kind d).preorder →
      m ∈ n.preorder ∨ m.use? = none := by
    intro kind d part inside
    simp only [Node.single, Node.preorder_mk, List.flatMap_cons, List.flatMap_nil,
      List.append_nil, List.mem_cons] at inside
    rcases inside with rfl | inside
    · exact .inr rfl
    · exact .inl (Node.preorder_of_mem_parts part inside)
  unfold Promotion.steps at member
  split at member
  next kind _ =>
    obtain ⟨d, part, member⟩ := List.mem_flatMap.mp member
    unfold Promotion.declaratorSteps at member
    split at member
    · cases List.mem_singleton.mp member
      exact ofSingle kind d part below
    · split at member
      · cases member
      next present =>
        cases List.mem_singleton.mp member
        rcases d.part_mem_or 2 with inside | missing
        · exact .inl (Node.preorder_of_mem_parts part (Node.preorder_of_mem_parts inside below))
        · simp [missing, Node.isAbsent, Node.absent] at present
  next =>
    obtain ⟨piece, split, rfl⟩ := List.mem_map.mp member
    unfold Node.split at split
    split at split
    next kind _ _ =>
      obtain ⟨d, part, rfl⟩ := List.mem_map.mp split
      exact ofSingle kind d part below
    next =>
      cases List.mem_singleton.mp split
      exact .inl below

end Step

namespace Rebuilt

variable {o : Options} {path source : String} {out : Output} (r : Rebuilt o path source out)

theorem named {step : Step} (member : step ∈ r.steps) {x : String}
    (promoted : x ∈ r.promotion.names) :
    ∀ m ∈ step.code.preorder, m.use? = some x → m.leafName? = some x := by
  intro m below uses
  rcases Node.use?_eq_some.mp uses with leaf | ⟨kind, name, rest, parts, refers⟩
  · exact leaf
  · obtain ⟨n, inBody, member⟩ := List.mem_flatMap.mp member
    rcases Step.preorder_of_steps member below with inside | unused
    · obtain ⟨binding, checked⟩ := r.ofBody.checked
      have fine : offence? binding r.promotion m = none := by
        refine List.findSome?_eq_none_iff.mp checked m ?_
        rw [Node.preorderList_eq]
        exact List.mem_flatMap.mpr ⟨n, List.mem_of_mem_filter inBody, inside⟩
      simp [offence?, kind, parts, refers, Promotion.contains_iff.mpr promoted] at fine
    · simp [unused] at uses

theorem touches_emitted {step : Step} {n : Node} {x : String} (member : step ∈ r.steps)
    (emits : r.Emits step n) (promoted : x ∈ r.promotion.names) :
    n.Touches x ↔ (∃ place, step.code.TakenForInner x place) ∨ step.Redeclares x := by
  have unreserved := r.unreserved x promoted
  have mentions : ∀ a, ((r.substitution a).apply [] step.code).Mentions x ↔
      ∃ place, step.code.TakenForInner x place := fun a =>
    (r.substitution a).mentions_apply (r.replaces promoted a) (r.named member promoted)
  have varNames : ∀ a, ((r.substitution a).apply [] step.code).varNames = step.code.varNames :=
    fun a => (r.substitution a).stable_varNames.apply [] _
  cases emits with
  | moved y span value =>
    rw [RecordAccess.touches_assignment _ _ _ _ unreserved]
    exact or_congr (mentions _) (iff_of_eq (congrArg (x ∈ ·) (varNames _)))
  | assigned y span value =>
    rw [RecordAccess.touches_assignment _ _ _ _ unreserved]
    exact or_congr (mentions _) (iff_of_eq (congrArg (x ∈ ·) (varNames _)))
  | kept m =>
    have lexicalNames : ((r.substitution .direct).apply [] m).lexicalNames = m.lexicalNames :=
      (r.substitution .direct).stable_lexicalNames.apply [] _
    refine or_congr (mentions _) ?_
    rw [lexicalNames]
    exact or_congr Iff.rfl (iff_of_eq (congrArg (x ∈ ·) (varNames _)))

theorem becomes_slot {step : Step} {x : String} {place : Place}
    (promoted : x ∈ r.promotion.names) (member : step ∈ r.steps)
    (means : step.code.MeansOuter x place) (seen : x ∉ step.code.hiddenOnWay place)
    (a : RecordAccess) : ∃ m, step.code.atPlace? place = some m ∧
      ((r.substitution a).apply [] step.code).atPlace? place =
        some ((r.substitution a).insertedFor m x) := by
  obtain ⟨m, stands, uses⟩ := means.uses
  have name := r.named member promoted m (Node.mem_preorder_of_atPlace? stands) uses
  refine ⟨m, stands, ?_⟩
  rw [Substitution.apply_atPlace? _ stands, List.append_nil]
  refine congrArg some (Substitution.apply_of_leafName _ name ?_)
  rw [Substitution.replaces_eq, r.replaces promoted a]
  simpa using seen

end Rebuilt

/-- A promoted variable is read, written and declared by its slot alone, unless a step of the body
has a use of it that is taken for an inner variable, or declares it again. -/
theorem promoted_variables_live_in_slots {o : Options} {path source : String} {out : Output}
    (compiled : (compile o path source).result = .ok out) (transformed : out.transformed = true) :
    ∃ r : Rebuilt o path source out, ∀ x ∈ r.promotion.names,
      ((∀ n ∈ r.code, ¬ n.Touches x) ↔
        ∀ step ∈ r.steps, (∀ place, ¬ step.code.TakenForInner x place) ∧ ¬ step.Redeclares x) ∧
      ∀ step ∈ r.steps, ∀ place, step.code.MeansOuter x place →
        x ∉ step.code.hiddenOnWay place → ∀ a, ∃ m, step.code.atPlace? place = some m ∧
          ((r.substitution a).apply [] step.code).atPlace? place =
            some ((r.substitution a).insertedFor m x) := by
  obtain ⟨r⟩ := rebuilt_of_compile compiled transformed
  refine ⟨r, fun x promoted => ⟨?_, ?_⟩⟩
  · have touched := r.exists_in_code (fun _ => Node.touches_split)
      (fun step member n emits => r.touches_emitted member emits promoted)
    simpa only [not_exists, not_and, not_or] using not_congr touched
  · intro step member place means seen a
    exact r.becomes_slot promoted member means seen a

-- The first `x` of the switch is the promoted one, and is taken for that of the case.
def switchText : String :=
  "export default function A() \x7b let x = 1; switch (x) \x7b case 0: let x = 2; use(x); \x7d \x7d"

set_option maxRecDepth 100000 in
theorem promoted_variables_live_in_slots_switch :
    ∃ out, (compile .default "A.rsx" switchText).result = .ok out ∧ out.transformed = true ∧
      ∃ r : Rebuilt .default "A.rsx" switchText out, "x" ∈ r.promotion.names ∧
        (∃ step ∈ r.steps, step.code.TakenForInner "x" [0]) ∧ ¬ ∀ n ∈ r.code, ¬ n.Touches "x" := by
  obtain ⟨out, compiled, transformed⟩ :=
    ok_of_isTransformed (compile .default "A.rsx" switchText).result (by decide +kernel)
  obtain ⟨r, holds⟩ := promoted_variables_live_in_slots compiled transformed
  have passes : rebuiltPasses (fun _ b steps => decide ("x" ∈ b.promotion.names ∧
      ∃ step ∈ steps, step.code.TakenForInner "x" [0])) switchText = true := by
    decide +kernel
  obtain ⟨promoted, step, member, taken⟩ := of_decide_eq_true (r.test_of_passes passes)
  refine ⟨out, compiled, transformed, r, promoted, ⟨step, member, taken⟩, fun untouched => ?_⟩
  exact ((holds "x" promoted).1.mp untouched step member).1 _ taken

end Rsx
