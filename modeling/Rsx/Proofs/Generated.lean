import Rsx.Proofs.Erasing
import Rsx.Proofs.Guarding
import Rsx.Proofs.Seeding
import Rsx.Proofs.Steps

set_option autoImplicit false

namespace Rsx

namespace Node

def functionStatements (f : Node) : List Node :=
  match f.componentParts? with
  | some parts => parts.body.statements
  | none => []

def setupCode (component : Node) : List Node :=
  match component.functionStatements.find? fun n => n.declaredName? 0 == some Instance.setupName with
  | some setup => (setup.part 5).statements
  | none => []

def creationCode (component : Node) : List Node :=
  match component.functionStatements.find? fun n => n.kind == .ifElse with
  | some choice => (choice.part 1).statements
  | none => []

def slot? (property : Node) : Option (String × Node) :=
  match (property.part 0).kind with
  | .name .property x => some (x, property.part 1)
  | _ => none

-- The first statement assigns the record itself.
def recordCode (component : Node) : List (String × Node) :=
  match component.creationCode with
  | first :: _ => ((first.part 0).part 1).parts.filterMap slot?
  | [] => []

-- The last statement is about rendering.
def seedCode (component : Node) : List Node := component.creationCode.tail.dropLast

end Node

namespace PromotedBody

def substitution (parameters : Node) (p : Promotion) (access : RecordAccess) : Substitution :=
  ⟨p.names, parameterNames parameters ++ lifecycleNames, access⟩

def taken (p : Promotion) (statements : List Node) : List Node × List Seed :=
  p.apply (discardReturns statements).1

structure OfBody (parameters : Node) (statements : List Node) (b : PromotedBody) : Prop where
  scanned : Promotion.scan (parameterNames parameters) statements = .ok b.promotion
  checked : ∃ binding, firstOffence? binding b.promotion statements = none
  seeds : b.seeds = replaceSeeds (substitution parameters b.promotion .viaRef)
    (taken b.promotion statements).2
  statements : b.statements = (taken b.promotion statements).1.map
    ((substitution parameters b.promotion .direct).apply [])

theorem ofBody_ok {parameters : Node} {statements : List Node} {b : PromotedBody}
    (promoted : ofBody parameters statements = .ok b) : OfBody parameters statements b := by
  unfold ofBody at promoted
  cases scanned : Promotion.scan (parameterNames parameters) statements with
  | error problem => simp [scanned, bind, Except.bind] at promoted
  | ok p =>
    let binding := (PropsBinding.ofParameters parameters).bindStatements statements
    cases checked : firstOffence? binding p statements with
    | some problem =>
      simp [scanned, checkBody_eq, binding, checked, bind, Except.bind] at promoted
    | none =>
      simp only [scanned, checkBody_eq, binding, checked, bind, Except.bind, pure, Except.pure,
        Except.ok.injEq] at promoted
      subst promoted
      exact ⟨scanned, ⟨binding, checked⟩, rfl, Substitution.applyList_eq _ _ _⟩

end PromotedBody

namespace Instance

variable {b : PromotedBody} {f : Node} {parts : ComponentParts}

theorem setupCode_rebuilt (component : f.componentParts? = some parts) :
    (rebuildFunction b f).setupCode = b.statements := by
  unfold rebuildFunction
  rw [component]
  unfold Node.componentParts? at component
  split at component
  next info kind =>
    simp only [rebuild, kind]
    rfl
  next info kind =>
    simp only [rebuild, kind]
    rfl
  next => cases component

theorem creationCode_rebuilt (component : f.componentParts? = some parts) :
    ∃ trigger, (rebuildFunction b f).creationCode =
      assign currentRef (record b.promotion b.seeds) :: creationSeeds b.seeds ++ [trigger] := by
  unfold rebuildFunction
  rw [component]
  unfold Node.componentParts? at component
  split at component
  next info kind =>
    simp only [rebuild, kind]
    exact ⟨_, rfl⟩
  next info kind =>
    simp only [rebuild, kind]
    exact ⟨_, rfl⟩
  next => cases component

theorem recordCode_rebuilt (component : f.componentParts? = some parts) :
    (rebuildFunction b f).recordCode = recordSlots b.promotion b.seeds := by
  obtain ⟨trigger, created⟩ := creationCode_rebuilt (b := b) component
  rw [Node.recordCode, created]
  change ((recordSlots b.promotion b.seeds).map fun slot => .propertyOf slot.1 slot.2).filterMap
    Node.slot? = _
  rw [List.filterMap_map]
  exact (List.filterMap_congr fun _ _ => rfl).trans List.filterMap_some

theorem seedCode_rebuilt (component : f.componentParts? = some parts) :
    (rebuildFunction b f).seedCode = creationSeeds b.seeds := by
  obtain ⟨trigger, created⟩ := creationCode_rebuilt (b := b) component
  simp [Node.seedCode, created]

theorem nodup_seedNames {excluded : List String} {p : Promotion} {seeds : List Seed}
    (sound : p.Sound excluded) (early : p.earlySlots = seeds.map Seed.slot) :
    (seeds.map Seed.name).Nodup := by
  have same : seeds.map Seed.name = p.earlySlots.map Slot.name := by
    rw [early, List.map_map]
    rfl
  rw [same]
  exact List.Nodup.sublist (List.Sublist.map _ List.filter_sublist) sound.nodup

theorem firstValue_of_mem {seeds : List Seed} {seed : Seed} (nodup : (seeds.map Seed.name).Nodup)
    (member : seed ∈ seeds) (inRecord : seed.seeding = .record) :
    firstValue seeds seed.name = seed.value := by
  induction seeds with
  | nil => cases member
  | cons first rest ih =>
    simp only [List.map_cons, List.nodup_cons] at nodup
    rcases List.mem_cons.mp member with rfl | later
    · simp [firstValue, inRecord]
    · have other : first.name ≠ seed.name := fun same => nodup.1 (same ▸ List.mem_map_of_mem later)
      simpa [firstValue, other] using ih nodup.2 later

theorem internalSlots_reserved : ∀ slot ∈ internalSlots, isReserved slot.1 = true := by
  simp only [internalSlots, List.forall_mem_cons, List.not_mem_nil, false_implies, implies_true,
    and_true]
  decide

theorem recordSlots_seeded {excluded : List String} {p : Promotion} {seeds : List Seed}
    (sound : p.Sound excluded) (early : p.earlySlots = seeds.map Seed.slot)
    (unreserved : ∀ x ∈ p.names, isReserved x = false) :
    ((recordSlots p seeds).filter fun slot => p.seedingOf slot.1 == .record) =
      (seeds.filter (·.seeding == .record)).map Seed.assigned := by
  have ofPromoted : ((p.names.map fun x => (x, firstValue seeds x)).filter
        fun slot => p.seedingOf slot.1 == .record) =
      (p.slots.filter (·.seeding == .record)).map fun slot =>
        (slot.name, firstValue seeds slot.name) := by
    rw [Promotion.names, List.map_map, List.filter_map]
    congr 1
    refine List.filter_congr fun slot member => ?_
    simp [Promotion.seedingOf_of_mem sound.nodup member]
  have ofInternal : (internalSlots.filter fun slot => p.seedingOf slot.1 == .record) = [] := by
    refine List.filter_eq_nil_iff.mpr fun slot member => ?_
    have reserved : isReserved slot.1 = true := internalSlots_reserved slot member
    have unknown : slot.1 ∉ p.names := fun known => by simp [unreserved _ known] at reserved
    simp [Promotion.seedingOf_of_not_mem unknown]
  have slots : p.slots.filter (·.seeding == .record) =
      (seeds.filter (·.seeding == .record)).map Seed.slot := by
    have ofEarly : p.slots.filter (·.seeding == .record) =
        p.earlySlots.filter (·.seeding == .record) := by
      rw [Promotion.earlySlots, List.filter_filter]
      refine List.filter_congr fun slot _ => ?_
      cases slot.seeding <;> rfl
    rw [ofEarly, early, List.filter_map]
    rfl
  rw [recordSlots, List.filter_append, ofInternal, List.append_nil, ofPromoted, slots, List.map_map]
  refine List.map_congr_left fun seed member => ?_
  obtain ⟨member, inRecord⟩ := List.mem_filter.mp member
  exact congrArg (Prod.mk seed.name)
    (firstValue_of_mem (nodup_seedNames sound early) member (by simpa using inRecord))

end Instance

theorem Placeable.of_early {excluded : List String} {p : Promotion} {seeds : List Seed}
    (sound : p.Sound excluded) (early : p.earlySlots = seeds.map Seed.slot) : Placeable p seeds := by
  have inSlots : ∀ seed ∈ seeds, seed.slot ∈ p.earlySlots := fun seed member =>
    early ▸ List.mem_map_of_mem member
  exact {
    slots := sound.nodup
    once := Instance.nodup_seedNames sound early
    known := fun seed member => List.mem_map_of_mem (List.mem_of_mem_filter (inSlots seed member))
    early := fun seed member => (List.mem_filter.mp (inSlots seed member)).2 }

end Rsx
