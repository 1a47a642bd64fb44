import Rsx.Proofs.Layout

set_option autoImplicit false

namespace Rsx

namespace Step

def event : Step → Node
  | set x _ value => (Node.statement (.assigned (.value x) value)).bare
  | keep n => n.bare

theorem assigned_event (steps : List Step) :
    ((steps.filterMap assigned?).map fun pair =>
      (Node.statement (.assigned (.value pair.1) pair.2)).bare) =
      (steps.filter (·.isSet)).map event := by
  induction steps with
  | nil => rfl
  | cons step rest ih => cases step <;> simp [List.filterMap_cons, assigned?, isSet, event, ih]

end Step

def Seed.event (s : Seed) : Node := (Node.statement (.assigned (.value s.name) s.value)).bare

-- What a generated component evaluates until its setup is done, in this order.
def generatedEvents (p : Promotion) (component : Node) : List Node :=
  ((component.recordCode.filter fun slot => p.seedingOf slot.1 == .record).map fun slot =>
      (Node.statement (.assigned (.value slot.1) slot.2)).bare)
    ++ component.seedCode.map Node.bare
    ++ (component.setupCode.flatMap Node.split).map Node.bare

-- The values in the opening come first, then what it declares; behind it all keeps its place.
def EvaluatedInOrder (p : Promotion) (statements : List Node) (component : Node) : Prop :=
  ∃ opening rest : List Step,
    (discardReturns statements).1.flatMap p.steps = opening ++ rest ∧
    (∀ step ∈ opening, step.opens = true) ∧
    generatedEvents p component =
      (opening.filter (·.isSet) ++ opening.filter (!·.isSet) ++ rest).map Step.event

theorem RecordAccess.bare_assignment (a : RecordAccess) (span : Span) (x : String) (value : Node) :
    (a.assignment span x value).bare = (Node.statement (.assigned (.value x) value)).bare := by
  cases a <;> rfl

namespace Node

theorem bare_assigned (x : String) {value value' : Node} (same : value.bare = value'.bare) :
    (statement (.assigned (.value x) value)).bare =
      (statement (.assigned (.value x) value')).bare := by
  simp [statement, assigned, Node.value, generated, bare, bareList, accessed?, bareKind, same]

end Node

namespace Step

theorem bare_inPlace (s : Substitution) {step : Step} (clean : step.Clean) :
    (s.apply [] step.inPlace).bare = step.event := by
  cases step with
  | set x span value =>
    rw [inPlace, s.apply_assignment, RecordAccess.bare_assignment]
    exact Node.bare_assigned x (s.bare_apply clean)
  | keep n => exact s.bare_apply clean

end Step

namespace PromotedBody

variable {parameters : Node} {statements : List Node} {b : PromotedBody}

theorem seed_events (of : OfBody parameters statements b) {opening : List Step}
    (moved : (taken b.promotion statements).2.map Seed.assigned = opening.filterMap Step.assigned?)
    (clean : ∀ step ∈ opening, step.Clean) :
    b.seeds.map Seed.event = (opening.filter (·.isSet)).map Step.event := by
  have cleanSeeds : ∀ seed ∈ (taken b.promotion statements).2, seed.value.Clean := by
    intro seed member
    have pair : seed.assigned ∈ opening.filterMap Step.assigned? := moved ▸ List.mem_map_of_mem member
    obtain ⟨step, inOpening, same⟩ := List.mem_filterMap.mp pair
    have cleanStep := clean step inOpening
    cases step with
    | set x span value =>
      cases same
      exact cleanStep
    | keep n => cases same
  have bare : b.seeds.map Seed.event = (taken b.promotion statements).2.map Seed.event := by
    rw [of.seeds, replaceSeeds, List.map_map]
    refine List.map_congr_left fun seed member => ?_
    exact Node.bare_assigned seed.name (Substitution.bare_apply _ (cleanSeeds seed member))
  have pairs : (taken b.promotion statements).2.map Seed.event =
      ((taken b.promotion statements).2.map Seed.assigned).map fun pair =>
        (Node.statement (.assigned (.value pair.1) pair.2)).bare := by
    rw [List.map_map]
    rfl
  rw [bare, pairs, moved, Step.assigned_event]

theorem setup_events (of : OfBody parameters statements b) {steps : List Step}
    (stays : (taken b.promotion statements).1.flatMap Node.split = steps.map Step.inPlace)
    (clean : ∀ step ∈ steps, step.Clean) :
    (b.statements.flatMap Node.split).map Node.bare = steps.map Step.event := by
  rw [of.statements, List.flatMap_map]
  simp only [Substitution.split_apply]
  rw [← List.map_flatMap, stays, List.map_map, List.map_map]
  exact List.map_congr_left fun step member => Step.bare_inPlace _ (clean step member)

theorem evaluated_in_order {f : Node} {parts : ComponentParts}
    (component : f.componentParts? = some parts) (clean : f.Clean)
    (promoted : ofBody parts.parameters parts.body.statements = .ok b) :
    EvaluatedInOrder b.promotion parts.body.statements (rebuildFunction b f) := by
  have clean := clean.functionStatements component
  have of := ofBody_ok promoted
  obtain ⟨⟨_, opening, rest, stretch⟩, _⟩ := Promotion.apply_of_scan of.scanned
  have cleanSteps := clean_steps clean b.promotion
  rw [stretch.whole] at cleanSteps
  refine ⟨opening, rest, stretch.whole, stretch.opens, ?_⟩
  have seeded : b.seeds.map Seed.event = (opening.filter (·.isSet)).map Step.event :=
    seed_events of stretch.moved fun step member => cleanSteps step (by simp [member])
  have stays := stretch.stays
  rw [Step.kept_inPlace, ← List.map_append] at stays
  have setup := setup_events of stays (by
    intro step member
    refine cleanSteps step ?_
    simp only [List.mem_append, List.mem_filter] at member ⊢
    exact member.imp_left And.left)
  have record := Instance.recordSlots_seeded (Promotion.sound_of_scan of.scanned) (early_slots of)
    (unreserved_names of clean)
  have moved : (((b.seeds.filter (·.seeding == .record)).map Seed.assigned).map fun slot =>
        (Node.statement (.assigned (.value slot.1) slot.2)).bare)
      ++ (Instance.creationSeeds b.seeds).map Node.bare = b.seeds.map Seed.event := by
    conv_rhs => rw [← seeds_ordered of, List.map_append]
    rw [Instance.creationSeeds, List.map_map, List.map_map]
    rfl
  rw [generatedEvents, Instance.recordCode_rebuilt component, Instance.seedCode_rebuilt component,
    Instance.setupCode_rebuilt component, record, moved, seeded, setup, ← List.map_append,
    List.append_assoc]

end PromotedBody

/-- A component that is emitted evaluates what the body it was made from evaluates, each thing once
and in the same order, and it is the one in the program that is printed. -/
theorem generated_events_in_order :
    (∀ (f : Node) (parts : ComponentParts) (b : PromotedBody),
      f.componentParts? = some parts → firstReservedUse? f = none →
      PromotedBody.ofBody parts.parameters parts.body.statements = .ok b →
      ∃ component, rebuildFunction? b f = some component ∧
        EvaluatedInOrder b.promotion parts.body.statements component) ∧
      ∀ (o : Options) (path source : String) (out : Output),
        (compile o path source).result = .ok out → out.transformed = true →
        ∃ r : Rebuilt o path source out, ∃ component,
          rebuildFunction? r.body r.written = some component ∧
          rebuildProgram? o.target r.read.tree r.place r.body = some r.tree ∧
          out.code = (printed o.target path source { r.read with tree := r.tree }).1 ∧
          r.tree.atPlace? r.componentPlace = some component ∧
          EvaluatedInOrder r.promotion r.parts.body.statements component := by
  constructor
  · intro f parts b component hygienic promoted
    have placeable := PromotedBody.placeable (PromotedBody.ofBody_ok promoted)
    exact ⟨_, rebuildFunction?_eq placeable f,
      PromotedBody.evaluated_in_order component (Node.clean_iff.mpr hygienic) promoted⟩
  · intro o path source out compiled transformed
    obtain ⟨r⟩ := rebuilt_of_compile compiled transformed
    have placeable := PromotedBody.placeable r.ofBody
    exact ⟨r, r.generated, rebuildFunction?_eq placeable r.written,
      rebuildProgram?_eq placeable _ r.stands, r.printed, r.component_stands,
      PromotedBody.evaluated_in_order r.isComponent r.clean_written r.promoted⟩

-- Both values are moved ahead of `g`, which stands between them.
def mixedText : String :=
  "export default function A() \x7b let a = true; function g() \x7b\x7d let b = a; g(); \x7d"

set_option maxRecDepth 100000 in
theorem generated_events_in_order_mixed :
    ∃ out, (compile .default "A.rsx" mixedText).result = .ok out ∧ out.transformed = true ∧
      ∃ r : Rebuilt .default "A.rsx" mixedText out, ∃ component,
        firstReservedUse? r.written = none ∧
        rebuildFunction? r.body r.written = some component ∧
        out.code = (printed Options.default.target "A.rsx" mixedText
          { r.read with tree := r.tree }).1 ∧
        r.tree.atPlace? r.componentPlace = some component ∧
        EvaluatedInOrder r.promotion r.parts.body.statements component ∧
        (generatedEvents r.promotion component).map Node.references =
          [["a"], ["b", "a"], [], ["g"]] := by
  obtain ⟨out, compiled, transformed⟩ :=
    ok_of_isTransformed (compile .default "A.rsx" mixedText).result (by decide +kernel)
  obtain ⟨ofBody, ofCompile⟩ := generated_events_in_order
  obtain ⟨r, other, same, -, printed, stands, -⟩ := ofCompile _ _ _ _ compiled transformed
  have hygienic := Node.clean_iff.mp r.clean_written
  obtain ⟨component, emitted, ordered⟩ := ofBody _ _ _ r.isComponent hygienic r.promoted
  obtain rfl : component = other := Option.some.inj (emitted.symm.trans same)
  have order : rebuiltPasses (fun f b _ => decide
      ((rebuildFunction? b f).map (fun g => (generatedEvents b.promotion g).map Node.references) =
        some [["a"], ["b", "a"], [], ["g"]])) mixedText = true := by decide +kernel
  have order := of_decide_eq_true (r.test_of_passes order)
  rw [emitted, Option.map_some, Option.some_inj] at order
  exact ⟨out, compiled, transformed, r, component, hygienic, emitted, printed, stands, ordered, order⟩

end Rsx
