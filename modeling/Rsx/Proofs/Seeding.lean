import Rsx.Proofs.Places
import Rsx.Transform

set_option autoImplicit false

namespace Rsx

structure Placeable (p : Promotion) (seeds : List Seed) : Prop where
  slots : p.names.Nodup
  once : (seeds.map Seed.name).Nodup
  known : ∀ seed ∈ seeds, seed.name ∈ p.names
  early : ∀ seed ∈ seeds, seed.seeding.isEarly = true

namespace Instance

def slotsOf (names : List String) (v : String → Node) : List Node :=
  names.map fun x => .propertyOf x (v x)

theorem fillSlot?_slotsOf {names : List String} {x : String} (nodup : names.Nodup)
    (member : x ∈ names) (v : String → Node) (value : Node) (rest : List Node) :
    fillSlot? x value (slotsOf names v ++ rest) =
      some (slotsOf names (fun y => if y = x then value else v y) ++ rest) := by
  induction names with
  | nil => cases member
  | cons y names ih =>
    have name : slotName? (.propertyOf y (v y)) = some y := rfl
    simp only [List.nodup_cons] at nodup
    by_cases same : y = x
    · subst same
      have others : slotsOf names v = slotsOf names fun z => if z = y then value else v z :=
        List.map_congr_left fun z inside => by
          have other : z ≠ y := fun same => nodup.1 (same ▸ inside)
          simp [other]
      simp only [slotsOf, List.map_cons, List.cons_append, fillSlot?, name, beq_self_eq_true, if_true]
      rw [← slotsOf, others]
      rfl
    · have later : x ∈ names := (List.mem_cons.mp member).resolve_left (Ne.symm same)
      have filled := ih nodup.2 later
      simp only [slotsOf] at filled
      simp [slotsOf, fillSlot?, name, same, filled]

def placedValue (seeds : List Seed) (v : String → Node) (x : String) : Node :=
  match seeds.find? fun s => s.seeding == .record && s.name == x with
  | some seed => seed.value
  | none => v x

theorem placeSeeds?_slotsOf {names : List String} (nodup : names.Nodup) (rest : List Node) :
    ∀ (seeds : List Seed), (seeds.map Seed.name).Nodup → (∀ seed ∈ seeds, seed.name ∈ names) →
      (∀ seed ∈ seeds, seed.seeding.isEarly = true) → ∀ v : String → Node,
        placeSeeds? seeds (slotsOf names v ++ rest) =
          some (slotsOf names (placedValue seeds v) ++ rest, creationSeeds seeds) := by
  intro seeds
  induction seeds with
  | nil =>
    intro _ _ _ v
    rfl
  | cons seed seeds ih =>
    intro once known early v
    simp only [List.map_cons, List.nodup_cons] at once
    have placed := ih once.2 (fun s member => known s (List.mem_cons_of_mem _ member))
      (fun s member => early s (List.mem_cons_of_mem _ member))
    have own := early seed List.mem_cons_self
    cases seeding : seed.seeding with
    | record =>
      have filled := fillSlot?_slotsOf nodup (known seed List.mem_cons_self) v seed.value rest
      have fresh : seeds.find? (fun s => s.seeding == .record && s.name == seed.name) = none := by
        refine List.find?_eq_none.mpr fun s member same => once.1 ?_
        simp only [Bool.and_eq_true, beq_iff_eq] at same
        exact same.2 ▸ List.mem_map_of_mem member
      have values : placedValue seeds (fun y => if y = seed.name then seed.value else v y) =
          placedValue (seed :: seeds) v := by
        funext y
        by_cases same : y = seed.name
        · subst same
          simp [placedValue, fresh, seeding]
        · simp [placedValue, seeding, same, Ne.symm same]
      simp [placeSeeds?, seeding, filled, placed, values, creationSeeds]
    | creation =>
      have values : placedValue seeds v = placedValue (seed :: seeds) v := by
        funext y
        simp [placedValue, seeding]
      simp [placeSeeds?, seeding, placed, values, creationSeeds]
    | unset => simp [seeding, Seeding.isEarly] at own
    | setup => simp [seeding, Seeding.isEarly] at own

variable {p : Promotion} {seeds : List Seed}

theorem slots_record (p : Promotion) (seeds : List Seed) :
    (recordSlots p seeds).map (fun slot => Node.propertyOf slot.1 slot.2) =
      slotsOf p.names (placedValue seeds fun _ => undefined) ++
        internalSlots.map fun slot => .propertyOf slot.1 slot.2 := by
  rw [recordSlots, List.map_append, List.map_map]
  rfl

theorem placeSeeds?_record (placeable : Placeable p seeds) :
    placeSeeds? seeds ((recordSlots p []).map fun slot => .propertyOf slot.1 slot.2) =
      some ((recordSlots p seeds).map (fun slot => .propertyOf slot.1 slot.2),
        creationSeeds seeds) := by
  rw [slots_record, slots_record]
  exact placeSeeds?_slotsOf placeable.slots _ seeds placeable.once placeable.known placeable.early _

theorem seedBody?_body (placeable : Placeable p seeds) (forwards : Bool) (setup : Node) :
    seedBody? seeds (body p [] forwards setup) = some (body p seeds forwards setup) := by
  -- The record is created in the third statement of the body.
  change Option.map _ (Option.map _ (Option.map _ (Option.map _ (Option.map _
    (placeSeeds? seeds _))))) = _
  rw [placeSeeds?_record placeable]
  rfl

theorem seedFunction?_rebuild (placeable : Placeable p seeds) {f : Node} {parts : ComponentParts}
    (isComponent : f.componentParts? = some parts) (userBody : Node) :
    seedFunction? seeds (rebuild p [] f userBody) = some (rebuild p seeds f userBody) := by
  have placed (forwards : Bool) (setup : Node) := seedBody?_body placeable forwards setup
  unfold seedFunction?
  cases seeds with
  | nil => rfl
  | cons seed rest =>
    unfold Node.componentParts? at isComponent
    split at isComponent
    next info kind => simp [rebuild, kind, placed]
    next info kind => simp [rebuild, kind, placed]
    next => cases isComponent

end Instance

def rebuildFunction (b : PromotedBody) (f : Node) : Node :=
  match f.componentParts? with
  | some parts =>
    Instance.rebuild b.promotion b.seeds f (parts.body.withStatements .body b.statements)
  | none => f

def rebuildProgram (target : Target) (program : Node) (place : Place) (b : PromotedBody) : Node :=
  let rebuilt := program.updateAt (rebuildFunction b) place
  rebuilt.withStatements rebuilt.kind
    (Instance.hostImport target.hostModule :: rebuilt.statements)

variable {b : PromotedBody}

-- Seeds that the record has slots for are never refused.
theorem rebuildFunction?_eq (placeable : Placeable b.promotion b.seeds) (f : Node) :
    rebuildFunction? b f = some (rebuildFunction b f) := by
  unfold rebuildFunction? rebuildFunction
  cases isComponent : f.componentParts? with
  | none => rfl
  | some parts => exact Instance.seedFunction?_rebuild placeable isComponent _

theorem rebuildProgram?_eq (placeable : Placeable b.promotion b.seeds) (target : Target)
    {program f : Node} {place : Place} (stands : program.atPlace? place = some f) :
    rebuildProgram? target program place b = some (rebuildProgram target program place b) := by
  have same : program.updateAt (fun _ => rebuildFunction b f) place =
      program.updateAt (rebuildFunction b) place := Node.updateAt_congr stands rfl
  simp only [rebuildProgram?, stands, Option.bind_some, rebuildFunction?_eq placeable,
    Option.map_some, same, rebuildProgram]

end Rsx
