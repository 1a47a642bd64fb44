import Rsx.Compile
import Rsx.Proofs.Promoted

set_option autoImplicit false

namespace Rsx

structure Rebuilt (o : Options) (path source : String) (out : Output) where
  read : Module
  place : Place
  written : Node          -- the component's function as it was written
  parts : ComponentParts
  body : PromotedBody
  parsed : Module.parse source = .ok read
  allowed : checkNames o.target read.tree = .ok ()
  found : Site.find? read.tree = some place
  stands : read.tree.atPlace? place = some written
  isComponent : written.componentParts? = some parts
  promoted : PromotedBody.ofBody parts.parameters parts.body.statements = .ok body
  printed : out.code = (Rsx.printed o.target path source
    { read with tree := rebuildProgram o.target read.tree place body }).1

theorem rebuilt_of_transform {o : Options} {path source : String} {out : Output}
    (done : (transform o.target path source).result = .ok out) (transformed : out.transformed = true) :
    Nonempty (Rebuilt o path source out) := by
  unfold transform at done
  split at done
  · cases done
  next m parsed =>
    unfold transformModule at done
    split at done
    · cases done
    next allowed =>
      split at done
      next =>
        cases done
        cases transformed
      next place found =>
        split at done
        next =>
          cases done
          cases transformed
        next parts component =>
          unfold component? at component
          split at component
          next written stands =>
            split at component
            next parts' isComponent =>
              split at component
              · cases component
              · cases component
                unfold transformComponent at done
                split at done
                · cases done
                next body promoted =>
                  have placeable := PromotedBody.placeable (PromotedBody.ofBody_ok promoted)
                  simp only [rebuildProgram?_eq placeable _ stands] at done
                  cases done
                  exact ⟨⟨m, place, written, parts, body, parsed, allowed, found, stands,
                    isComponent, promoted, rfl⟩⟩
            next => cases component
          next => cases component

theorem rebuilt_of_compile {o : Options} {path source : String} {out : Output}
    (done : (compile o path source).result = .ok out) (transformed : out.transformed = true) :
    Nonempty (Rebuilt o path source out) := by
  unfold compile at done
  split at done
  · cases done
  · split at done
    · cases done
    · split at done
      · exact rebuilt_of_transform done transformed
      · cases done
        cases transformed

theorem clean_of_checkNames {target : Target} {program : Node}
    (allowed : checkNames target program = .ok ()) : program.Clean := by
  unfold checkNames at allowed
  simp only at allowed
  split at allowed
  · cases allowed
  next none =>
    rw [Node.clean_iff]
    cases banned : (HostImports.ofProgram program target.hostModule
        target.extraBanned).firstBannedCall? program with
    | none => simpa [banned] using none
    | some problem => simp [banned] at none

def isTransformed : Except Diagnostic Output → Bool
  | .ok out => out.transformed
  | .error _ => false

theorem ok_of_isTransformed (result : Except Diagnostic Output)
    (check : isTransformed result = true) : ∃ out, result = .ok out ∧ out.transformed = true := by
  cases result with
  | error d => cases check
  | ok out => exact ⟨out, rfl, check⟩

-- A test of the component of a text: as it was written, as it was promoted, and step by step.
def rebuiltPasses (test : Node → PromotedBody → List Step → Bool) (source : String) : Bool :=
  match Module.parse source with
  | .error _ => false
  | .ok m =>
    let written := (Site.find? m.tree).bind m.tree.atPlace?
    match written.bind fun f => f.componentParts?.map (f, ·) with
    | none => false
    | some (f, parts) =>
      match PromotedBody.ofBody parts.parameters parts.body.statements with
      | .error _ => false
      | .ok b => test f b ((discardReturns parts.body.statements).1.flatMap b.promotion.steps)

namespace Rebuilt

variable {o : Options} {path source : String} {out : Output} (r : Rebuilt o path source out)

def tree : Node := rebuildProgram o.target r.read.tree r.place r.body

def generated : Node := rebuildFunction r.body r.written

theorem clean : r.read.tree.Clean := clean_of_checkNames r.allowed

theorem clean_written : r.written.Clean :=
  r.clean.below (Node.mem_preorder_of_atPlace? r.stands)

theorem clean_statements : ∀ n ∈ r.parts.body.statements, n.Clean :=
  r.clean_written.functionStatements r.isComponent

theorem ofBody : PromotedBody.OfBody r.parts.parameters r.parts.body.statements r.body :=
  PromotedBody.ofBody_ok r.promoted

abbrev promotion : Promotion := r.body.promotion

def substitution (a : RecordAccess) : Substitution :=
  PromotedBody.substitution r.parts.parameters r.promotion a

def steps : List Step := (discardReturns r.parts.body.statements).1.flatMap r.promotion.steps

theorem test_of_passes {test : Node → PromotedBody → List Step → Bool}
    (passes : rebuiltPasses test source = true) : test r.written r.body r.steps = true := by
  simpa [rebuiltPasses, steps, r.parsed, r.found, r.stands, r.isComponent, r.promoted] using passes

-- All code of the body in the generated component, a first value of the record as an assignment.
def code : List Node :=
  ((r.generated.recordCode.filter fun slot => r.promotion.seedingOf slot.1 == .record).map
      fun slot => RecordAccess.viaRef.assignment .nowhere slot.1 slot.2)
    ++ r.generated.seedCode ++ r.generated.setupCode

inductive Emits : Step → Node → Prop where
  | moved (x : String) (span : Span) (value : Node) : Emits (.set x span value)
      (RecordAccess.viaRef.assignment .nowhere x ((r.substitution .viaRef).apply [] value))
  | assigned (x : String) (span : Span) (value : Node) : Emits (.set x span value)
      (RecordAccess.direct.assignment span x ((r.substitution .direct).apply [] value))
  | kept (n : Node) : Emits (.keep n) ((r.substitution .direct).apply [] n)

theorem unreserved : ∀ x ∈ r.promotion.names, isReserved x = false :=
  PromotedBody.unreserved_names r.ofBody r.clean_statements

theorem sound : r.promotion.Sound (parameterNames r.parts.parameters) :=
  Promotion.sound_of_scan r.ofBody.scanned

theorem replaces {x : String} (promoted : x ∈ r.promotion.names) (a : RecordAccess) :
    (r.substitution a).replaces [] x = true := by
  obtain ⟨free, other⟩ := r.sound.allowed x promoted
  simp [substitution, PromotedBody.substitution, Substitution.replaces, promoted,
    r.unreserved x promoted, free, other]

theorem code_eq : r.code = (r.body.seeds.map fun seed =>
    RecordAccess.viaRef.assignment .nowhere seed.name seed.value) ++ r.body.statements := by
  rw [code, generated, Instance.recordCode_rebuilt r.isComponent,
    Instance.seedCode_rebuilt r.isComponent, Instance.setupCode_rebuilt r.isComponent,
    Instance.recordSlots_seeded r.sound (PromotedBody.early_slots r.ofBody) r.unreserved]
  congr 1
  conv_rhs => rw [← PromotedBody.seeds_ordered r.ofBody, List.map_append]
  rw [List.map_map]
  rfl

theorem split_assignment (a : RecordAccess) (span : Span) (x : String) (value : Node) :
    (a.assignment span x value).split = [a.assignment span x value] := rfl

theorem emits_inPlace (step : Step) :
    r.Emits step ((r.substitution .direct).apply [] step.inPlace) := by
  cases step with
  | set x span value =>
    rw [Step.inPlace, Substitution.apply_assignment]
    exact .assigned x span value
  | keep n => exact .kept n

theorem pieces : ∃ opening rest, r.steps = opening ++ rest ∧
    (∀ step ∈ opening, step.opens = true) ∧
    (PromotedBody.taken r.promotion r.parts.body.statements).2.map Seed.assigned =
      opening.filterMap Step.assigned? ∧
    r.code.flatMap Node.split =
      (((opening.filterMap Step.assigned?).map fun pair => RecordAccess.viaRef.assignment .nowhere
          pair.1 ((r.substitution .viaRef).apply [] pair.2))
        ++ (opening.filterMap Step.kept? ++ rest.map Step.inPlace).map
          ((r.substitution .direct).apply [])) := by
  obtain ⟨⟨_, opening, rest, stretch⟩, _⟩ := Promotion.apply_of_scan r.ofBody.scanned
  refine ⟨opening, rest, stretch.whole, stretch.opens, stretch.moved, ?_⟩
  rw [r.code_eq, List.flatMap_append, ← stretch.moved, ← stretch.stays]
  congr 1
  · rw [r.ofBody.seeds, PromotedBody.replaceSeeds]
    simp only [List.map_map, List.flatMap_map, Function.comp_def, split_assignment]
    exact (List.map_eq_flatMap).symm
  · rw [r.ofBody.statements, List.flatMap_map]
    simp only [Substitution.split_apply]
    exact (List.map_flatMap).symm

theorem emitted_of_step {step : Step} (member : step ∈ r.steps) :
    ∃ n ∈ r.code.flatMap Node.split, r.Emits step n := by
  obtain ⟨opening, rest, whole, _, _, pieces⟩ := r.pieces
  rw [pieces]
  rcases List.mem_append.mp (whole ▸ member) with inOpening | inRest
  · cases step with
    | set x span value =>
      refine ⟨_, List.mem_append_left _ (List.mem_map_of_mem (a := (x, value)) ?_), .moved x span value⟩
      exact List.mem_filterMap.mpr ⟨_, inOpening, rfl⟩
    | keep n =>
      refine ⟨_, List.mem_append_right _ (List.mem_map_of_mem (List.mem_append_left _ ?_)), .kept n⟩
      exact List.mem_filterMap.mpr ⟨_, inOpening, rfl⟩
  · exact ⟨_, List.mem_append_right _ (List.mem_map_of_mem
      (List.mem_append_right _ (List.mem_map_of_mem inRest))), r.emits_inPlace step⟩

theorem step_of_emitted {n : Node} (member : n ∈ r.code.flatMap Node.split) :
    ∃ step ∈ r.steps, r.Emits step n := by
  obtain ⟨opening, rest, whole, _, _, pieces⟩ := r.pieces
  rw [pieces] at member
  rw [whole]
  rcases List.mem_append.mp member with moved | stays
  · obtain ⟨pair, assigns, rfl⟩ := List.mem_map.mp moved
    obtain ⟨step, inOpening, assigned⟩ := List.mem_filterMap.mp assigns
    cases step with
    | set x span value =>
      cases assigned
      exact ⟨_, List.mem_append_left _ inOpening, .moved x span value⟩
    | keep n => cases assigned
  · obtain ⟨m, inSetup, rfl⟩ := List.mem_map.mp stays
    rcases List.mem_append.mp inSetup with kept | inPlace
    · obtain ⟨step, inOpening, same⟩ := List.mem_filterMap.mp kept
      cases step with
      | set x span value => cases same
      | keep n =>
        cases same
        exact ⟨_, List.mem_append_left _ inOpening, .kept _⟩
    · obtain ⟨step, inRest, rfl⟩ := List.mem_map.mp inPlace
      exact ⟨step, List.mem_append_right _ inRest, r.emits_inPlace step⟩

-- What is found in the code of a body, and can be told from the step that code comes from, is found
-- by looking at the steps.
theorem exists_in_code {P : Node → Prop} {Q : Step → Prop}
    (split : ∀ n, P n ↔ ∃ m ∈ n.split, P m)
    (emitted : ∀ step ∈ r.steps, ∀ n, r.Emits step n → (P n ↔ Q step)) :
    (∃ n ∈ r.code, P n) ↔ ∃ step ∈ r.steps, Q step := by
  constructor
  · rintro ⟨n, inCode, holds⟩
    obtain ⟨piece, inSplit, holds⟩ := (split n).mp holds
    obtain ⟨step, member, emits⟩ := r.step_of_emitted (List.mem_flatMap.mpr ⟨n, inCode, inSplit⟩)
    exact ⟨step, member, (emitted step member piece emits).mp holds⟩
  · rintro ⟨step, member, holds⟩
    obtain ⟨piece, inPieces, emits⟩ := r.emitted_of_step member
    obtain ⟨n, inCode, inSplit⟩ := List.mem_flatMap.mp inPieces
    exact ⟨n, inCode, (split n).mpr ⟨piece, inSplit, (emitted step member piece emits).mpr holds⟩⟩

end Rebuilt

end Rsx
