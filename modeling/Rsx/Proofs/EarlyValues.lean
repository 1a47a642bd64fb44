import Rsx.Proofs.PromotedNames
import Rsx.Proofs.Reversal
import Rsx.Proofs.Template

set_option autoImplicit false

namespace Rsx

namespace Node

def valueName? (n : Node) : Option String :=
  match n.kind with
  | .name .value x | .name .shorthandTarget x | .name .tag x | .name .tagRoot x => some x
  | _ => none

def valueNames (n : Node) : List String := n.preorder.filterMap valueName?

theorem references_of_valueNames {n : Node} {y : String} (used : y ∈ n.valueNames) :
    y ∈ n.references := by
  obtain ⟨m, below, named⟩ := List.mem_filterMap.mp used
  refine List.mem_filterMap.mpr ⟨m, below, ?_⟩
  unfold valueName? at named
  unfold reference?
  split at named <;> simp_all

theorem boundNames_of_binding {n : Node} {y : String} (binds : n.binding? = some y) :
    n.boundNames = [y] := by
  obtain ⟨k, span, ps⟩ := n
  unfold binding? at binds
  split at binds
  next x kind =>
    cases kind
    cases binds
    simp [boundNames]
  next => cases binds

def HasInOpen (n m : Node) : Prop :=
  ∃ place, n.atPlace? place = some m ∧ ∀ back, n.boundOnWay (place ++ back) = m.boundOnWay back

theorem HasInOpen.refl (n : Node) : n.HasInOpen n := ⟨[], rfl, fun _ => rfl⟩

theorem HasInOpen.of_part {n p m : Node} (free : ∀ way, n.binds way = []) (part : p ∈ n.parts)
    (inside : p.HasInOpen m) : n.HasInOpen m := by
  obtain ⟨place, stands, same⟩ := inside
  obtain ⟨i, found⟩ := List.mem_iff_getElem?.mp part
  refine ⟨i :: place, atPlace?_cons_some.mpr ⟨p, found, stands⟩, fun back => ?_⟩
  rw [List.cons_append, boundOnWay, free, List.append_nil, part_of_getElem? found, same]

def AbbreviatesName (n : Node) : Prop :=
  ∀ info key value, n.kind = .property info → n.parts = [key, value] → info.shorthand = true →
    Substitution.isValueName value = true

end Node

-- What a component binds: by its parameters, as the members of the lifecycle, and by any
-- declaration that reaches the top of its body.
def componentBindings (parameters : Node) (statements : List Node) : List String :=
  parameters.patternNames ++ lifecycleNames ++ Node.functionNames statements

section Bindings

variable {parameters : Node} {statements : List Node} {p : Promotion} {y : String}

theorem bodyNames_of_componentBindings (bound : y ∈ componentBindings parameters statements) :
    y ∈ Promotion.bodyNames (parameterNames parameters) statements ∨
      y ∈ statements.flatMap Node.overlookedNames := by
  simp only [componentBindings, Promotion.bodyNames, List.mem_append] at bound ⊢
  rcases bound with (pattern | member) | declared
  · exact .inl (.inl (.inr (Node.parameterNames_of_patternNames pattern)))
  · exact .inl (.inr member)
  · exact (Node.declaredNames_of_functionNames declared).imp_left fun known => .inl (.inl known)

theorem declaredNames_of_plainNames (declared : y ∈ plainNames (topDeclarators statements)) :
    y ∈ declaredNames statements := by
  obtain ⟨d, top, named⟩ := mem_plainNames.mp declared
  obtain ⟨n, member, inside⟩ := List.mem_flatMap.mp top
  refine List.mem_append_left _ (List.mem_flatMap.mpr ⟨n, member, ?_⟩)
  split at inside
  next promotable =>
    obtain ⟨kind, promotable⟩ := Node.isPromotable_eq_true.mp promotable
    obtain ⟨declare, declares⟩ := Node.kind_of_promotable promotable
    have bound : y ∈ (d.part 0).boundNames := by simp [Node.boundNames_of_binding named]
    simp only [directNames, declares, Node.variableNames, Node.declarators]
    exact List.mem_flatMap.mpr ⟨d, inside, bound⟩
  next => cases inside

theorem bodyNames_of_promoted
    (scanned : Promotion.scan (parameterNames parameters) statements = .ok p)
    (promoted : y ∈ p.names) : y ∈ Promotion.bodyNames (parameterNames parameters) statements := by
  rw [Promotion.names_eq_of_scan scanned, mem_promotableNames] at promoted
  exact List.mem_append_left _ (List.mem_append_left _ (declaredNames_of_plainNames promoted.1))

end Bindings

namespace PromotionScan

variable {s : PromotionScan} {bodyNames : List String} {value : Node}

theorem seedingFor_early (early : (s.seedingFor bodyNames value).isEarly = true) :
    value.isAbsent = false ∧
      s.seedingFor bodyNames value = s.promotion.earlySeeding bodyNames value := by
  unfold seedingFor at early ⊢
  split at early
  · cases early
  next present =>
    split at early
    next leading => exact ⟨by simpa using present, by simp [present, leading]⟩
    next => cases early

end PromotionScan

namespace Promotion

variable {p : Promotion} {bodyNames seen : List String} {value : Node}

theorem earlySeeding_early (early : (p.earlySeeding bodyNames value).isEarly = true) :
    (∀ m ∈ value.preorder, m.needsFunction = false) ∧
      (∀ y ∈ value.references, y ∈ bodyNames → y ∈ p.names) ∧
      (p.earlySeeding bodyNames value = .record → ∀ y ∈ value.references, y ∉ p.names) := by
  unfold earlySeeding at early ⊢
  simp only at early ⊢
  split at early
  · cases early
  next apart =>
    split at early
    · cases early
    next known =>
      rw [if_neg apart, if_neg known]
      refine ⟨by simpa using apart, ?_, ?_⟩
      · simpa [contains_iff, imp_not_comm, not_imp_not, contains] using known
      · intro record y refers promoted
        split at record
        · cases record
        next none =>
          simp only [Bool.or_eq_true, List.any_eq_true, not_or, not_exists, not_and] at none
          exact none.1 y refers (contains_iff.mpr promoted)

theorem fates_congr {seen' : List String} (same : ∀ x, x ∈ seen ↔ x ∈ seen') (ds : List Node) :
    p.fates seen ds = p.fates seen' ds := by
  induction ds generalizing seen seen' with
  | nil => rfl
  | cons d rest ih =>
    have first : p.fate seen d = p.fate seen' d := by simp only [fate, List.contains_iff_mem, same]
    have later : p.fates ((p.promotedName? d).toList ++ seen) rest =
        p.fates ((p.promotedName? d).toList ++ seen') rest := ih fun x => by simp [same]
    rw [fates, fates, first, later]

theorem fates_append (ds ds' : List Node) :
    p.fates seen (ds ++ ds') =
      p.fates seen ds ++ p.fates (ds.filterMap p.promotedName? ++ seen) ds' := by
  induction ds generalizing seen with
  | nil => rfl
  | cons d rest ih =>
    rw [List.cons_append, fates, fates, ih, List.cons_append]
    congr 2
    refine fates_congr (fun x => ?_) ds'
    cases named : p.promotedName? d <;> simp [named, or_left_comm]

theorem mem_seedsOf {fates : List Fate} {seed : Seed} :
    seed ∈ seedsOf fates ↔ .seed seed ∈ fates := by
  induction fates with
  | nil => simp [seedsOf]
  | cons f rest ih => cases f <;> simp [seedsOf, ih]

theorem seedsOf_append (fates fates' : List Fate) :
    seedsOf (fates ++ fates') = seedsOf fates ++ seedsOf fates' := by
  induction fates with
  | nil => rfl
  | cons f rest ih => rw [List.cons_append, seedsOf_cons, ih, ← List.append_assoc, ← seedsOf_cons]

theorem seeds_applyFrom (ns : List Node) :
    (p.applyFrom seen ns).2 = seedsOf (p.fates seen (topDeclarators ns)) := by
  induction ns generalizing seen with
  | nil => rfl
  | cons n rest ih =>
    rw [topDeclarators_cons, fates_append, seedsOf_append]
    cases affected : p.isAffected n with
    | true =>
      have promotable : n.isPromotable = true := (Bool.and_eq_true_iff.mp affected).1
      simp only [applyFrom, affected, promotable, if_true, ih]
    | false =>
      simp only [applyFrom, affected, Bool.false_eq_true, if_false, ih]
      split
      next promotable =>
        have none := unpromoted_of_unaffected promotable affected
        rw [fates_of_unpromoted none, seedsOf_keep, List.filterMap_eq_nil_iff.mpr none]
        rfl
      next => rfl

theorem topDeclarators_discardReturns (ns : List Node) :
    topDeclarators (discardReturns ns).1 = topDeclarators ns := by
  simp only [discardReturns]
  induction ns with
  | nil => rfl
  | cons n rest ih =>
    cases returns : isReturn n with
    | true =>
      have other : n.isPromotable = false := by
        unfold isReturn at returns
        unfold Node.isPromotable
        split at returns <;> simp_all
      simp [topDeclarators_cons, returns, other, ih]
    | false => simp [topDeclarators_cons, returns, ih]

theorem seed_of_first {statements before after : List Node} {d : Node} {x : String}
    (split : topDeclarators statements = before ++ d :: after) (named : d.declaredName? 0 = some x)
    (first : x ∉ plainNames before) (promoted : x ∈ p.names)
    (early : (p.seedingOf x).isEarly = true) (present : (d.part 2).isAbsent = false) :
    ⟨x, p.seedingOf x, d.part 2⟩ ∈ (PromotedBody.taken p statements).2 := by
  have name : p.promotedName? d = some x := promotedName?_eq_some.mpr ⟨named, promoted⟩
  have unmet : x ∉ before.filterMap p.promotedName? := by
    intro met
    obtain ⟨e, member, same⟩ := List.mem_filterMap.mp met
    exact first (mem_plainNames.mpr ⟨e, member, (promotedName?_eq_some.mp same).1⟩)
  rw [PromotedBody.taken, apply, seeds_applyFrom, topDeclarators_discardReturns, split, mem_seedsOf,
    fates_append, fates]
  refine List.mem_append_right _ (List.mem_cons.mpr (.inl ?_))
  simp [fate, name, unmet, present, early]

end Promotion

namespace Substitution

variable (s : Substitution) {shadowed : List String} {n : Node}

theorem untouched_of_unpromoted (unpromoted : ∀ y ∈ n.references, y ∉ s.promoted) (x : String)
    (name : n.leafName? = some x) : s.replaces shadowed x = false := by
  have refers : x ∈ n.references := by
    refine List.mem_filterMap.mpr ⟨n, n.self_mem_preorder, ?_⟩
    obtain ⟨_, kind | kind | kind⟩ := Node.leafName?_eq_some.mp name <;>
      simp [Node.reference?, kind]
  exact Bool.eq_false_iff.mpr fun replaces =>
    unpromoted x refers (s.promoted_of_replaces replaces)

theorem count_of_unpromoted (unpromoted : ∀ y ∈ n.references, y ∉ s.promoted) :
    s.count shadowed n = 0 := by
  induction n using Node.induction generalizing shadowed with
  | node k span ps ih =>
    rw [s.count_of_untouched (s.untouched_of_unpromoted unpromoted),
      List.sum_eq_zero_iff_forall_eq_nat]
    intro total member
    obtain ⟨p, part, rfl⟩ := List.mem_map.mp member
    exact ih p part fun y refers => unpromoted y (Node.references_of_part part y refers)

theorem adjusted_of_abbreviatesName (abbreviates : n.AbbreviatesName) :
    adjusted n.kind n.parts = n.kind := by
  unfold adjusted
  split
  next info key value kind parts =>
    split
    next both =>
      have name := abbreviates info key value kind parts (Bool.and_eq_true_iff.mp both).1
      simp [name] at both
    next => rfl
  next => rfl

theorem apply_of_unpromoted (unpromoted : ∀ y ∈ n.references, y ∉ s.promoted)
    (abbreviates : ∀ m ∈ n.preorder, m.AbbreviatesName) : s.apply shadowed n = n := by
  induction n using Node.induction generalizing shadowed with
  | node k span ps ih =>
    have below : ∀ shadowed, ps.map (s.apply shadowed) = ps := by
      intro shadowed
      refine (List.map_congr_left fun p part => ?_).trans (List.map_id ps)
      exact ih p part (fun y refers => unpromoted y (Node.references_of_part part y refers))
        fun m inside => abbreviates m (Node.preorder_of_mem_parts part inside)
    have own := adjusted_of_abbreviatesName (abbreviates _ (Node.self_mem_preorder _))
    rw [s.apply_of_untouched (s.untouched_of_unpromoted unpromoted), Node.parts_mk, below]
    exact congrArg (Node.mk · span ps) own

end Substitution

namespace Instance

variable {p : Promotion} {seeds : List Seed}

theorem hasInOpen_assigned {span : Span} {target value m : Node} (inside : value.HasInOpen m) :
    (Node.mk .expression span
      [.mk (.assign "=") span [.generated .target [target], value]]).HasInOpen m := by
  have assigned : (Node.mk (.assign "=") span [.generated .target [target], value]).HasInOpen m :=
    .of_part (fun _ => rfl) (by simp) inside
  exact .of_part (fun _ => rfl) (by simp) assigned

theorem hasInOpen_body {n m : Node} (forwards : Bool) (setup : Node)
    (created : n ∈ assign currentRef (record p seeds) :: creationSeeds seeds)
    (inside : n.HasInOpen m) : (body p seeds forwards setup).HasInOpen m := by
  have block : (Node.blockOf (assign currentRef (record p seeds) :: creationSeeds seeds
      ++ [(emptyCreation.part 1).part 1])).HasInOpen m := by
    refine .of_part (fun _ => ?_) (List.mem_append_left _ created) inside
    exact List.flatMap_eq_nil_iff.mpr created_undeclared
  have choice : (creation p seeds).HasInOpen m := by
    rw [creation_eq]
    exact .of_part (fun _ => rfl) (by simp [Node.ifThen, Node.generated]) block
  have statements : (Node.group (body p seeds forwards setup).statements).HasInOpen m :=
    .of_part (fun _ => rfl) (List.mem_iff_getElem?.mpr ⟨2, rfl⟩) choice
  exact .of_part (fun _ => rfl) (List.mem_iff_getElem?.mpr ⟨1, rfl⟩) statements

-- Wherever a value is put when the record is created, nothing is bound around it.
theorem hasInOpen_seed {seed : Seed} (forwards : Bool) (setup : Node)
    (nodup : (seeds.map Seed.name).Nodup) (member : seed ∈ seeds) (promoted : seed.name ∈ p.names)
    (early : seed.seeding.isEarly = true) : (body p seeds forwards setup).HasInOpen seed.value := by
  cases seeding : seed.seeding with
  | record =>
    have slot : (seed.name, seed.value) ∈ recordSlots p seeds := by
      refine List.mem_append_left _ (List.mem_map.mpr ⟨seed.name, promoted, ?_⟩)
      rw [firstValue_of_mem nodup member seeding]
    have property : (Node.propertyOf seed.name seed.value).HasInOpen seed.value :=
      .of_part (fun _ => rfl) (by simp [Node.propertyOf, Node.generated]) (.refl seed.value)
    have inRecord : (record p seeds).HasInOpen seed.value :=
      .of_part (fun _ => rfl) (List.mem_map.mpr ⟨_, slot, rfl⟩) property
    exact hasInOpen_body forwards setup List.mem_cons_self (hasInOpen_assigned inRecord)
  | creation =>
    have created : RecordAccess.viaRef.assignment .nowhere seed.name seed.value ∈
        creationSeeds seeds :=
      List.mem_map.mpr ⟨seed, List.mem_filter.mpr ⟨member, by simp [seeding]⟩, rfl⟩
    exact hasInOpen_body forwards setup (List.mem_cons_of_mem _ created)
      (hasInOpen_assigned (.refl seed.value))
  | unset => simp [seeding, Seeding.isEarly] at early
  | setup => simp [seeding, Seeding.isEarly] at early

end Instance

def Promotion.promotedAmong (p : Promotion) (ds : List Node) : List String :=
  (plainNames ds).filter p.contains

structure MovedValue (parameters : Node) (statements : List Node) (p : Promotion) (slot : Slot)
    (before : List Node) (d : Node) : Prop where
  split : ∃ after, topDeclarators statements = before ++ d :: after
  named : d.declaredName? 0 = some slot.name
  first : slot.name ∉ plainNames before
  taken : ⟨slot.name, slot.seeding, d.part 2⟩ ∈ (PromotedBody.taken p statements).2
  apart : ∀ m ∈ (d.part 2).preorder, m.needsFunction = false
  known : ∀ y ∈ (d.part 2).references,
    y ∈ Promotion.bodyNames (parameterNames parameters) statements → y ∈ p.promotedAmong before
  recorded : slot.seeding = .record → ∀ y ∈ (d.part 2).references, y ∉ p.names

theorem movedValue_of_slot {parameters : Node} {statements : List Node} {p : Promotion} {slot : Slot}
    (scanned : Promotion.scan (parameterNames parameters) statements = .ok p)
    (member : slot ∈ p.slots) (early : slot.seeding.isEarly = true) :
    ∃ before d, MovedValue parameters statements p slot before d := by
  have names := Promotion.names_eq_of_scan scanned
  have seeding := Promotion.seedingOf_of_mem (Promotion.sound_of_scan scanned).nodup member
  have promoted : slot.name ∈ p.names := List.mem_map_of_mem member
  have inBody := fun y => bodyNames_of_promoted (y := y) scanned
  obtain ⟨t, result, rfl⟩ := Promotion.scanned_of_scan scanned
  obtain ⟨before, d, s, ⟨after, split⟩, named, soFar, fresh, chosen⟩ := result.found slot member
  rw [chosen] at early
  obtain ⟨present, same⟩ := PromotionScan.seedingFor_early early
  obtain ⟨apart, known, recorded⟩ := Promotion.earlySeeding_early (same ▸ early)
  rw [names, mem_promotableNames] at promoted
  have first : slot.name ∉ plainNames before := fun met =>
    fresh (mem_promotableNames.mpr ⟨met, promoted.2⟩)
  refine ⟨before, d, ⟨after, split⟩, named, first, ?_, apart, ?_, ?_⟩
  · rw [← seeding]
    refine Promotion.seed_of_first split named first (List.mem_map_of_mem member) ?_ present
    rwa [seeding, chosen]
  · -- What is known at `d` was promoted by the declarators before it.
    intro y refers bound
    have met := known y refers bound
    rw [soFar, mem_promotableNames] at met
    refine List.mem_filter.mpr ⟨met.1, Promotion.contains_iff.mpr ?_⟩
    rw [names, mem_promotableNames, split]
    refine ⟨?_, met.2⟩
    rw [plainNames, List.filterMap_append]
    exact List.mem_append_left _ met.1
  · -- A variable promoted later is one of the body too, and would have been known at `d`.
    intro record y refers inSlots
    exact recorded (same ▸ chosen ▸ record) y refers (known y refers (inBody y inSlots))

namespace MovedValue

variable {parameters : Node} {statements : List Node} {p : Promotion} {slot : Slot}
  {before : List Node} {d : Node}

theorem unbound_or_earlier_iff (moved : MovedValue parameters statements p slot before d) {y : String}
    (used : y ∈ (d.part 2).valueNames) :
    (y ∉ componentBindings parameters statements ∨ y ∈ p.promotedAmong before) ↔
      (y ∈ statements.flatMap Node.overlookedNames → y ∈ p.promotedAmong before) := by
  constructor
  · rintro (unbound | earlier) overlooked
    · refine absurd (List.mem_append_right _ ?_) unbound
      exact Node.functionNames_of_overlookedNames overlooked
    · exact earlier
  · intro otherwise
    by_cases bound : y ∈ componentBindings parameters statements
    · rcases bodyNames_of_componentBindings bound with known | overlooked
      · exact .inr (moved.known y (Node.references_of_valueNames used) known)
      · exact .inr (otherwise overlooked)
    · exact .inl bound

theorem hasInOpen (moved : MovedValue parameters statements p slot before d)
    (scanned : Promotion.scan (parameterNames parameters) statements = .ok p)
    (member : slot ∈ p.slots) (early : slot.seeding.isEarly = true) (s : Substitution)
    (forwards : Bool) (setup : Node) :
    (Instance.body p (PromotedBody.replaceSeeds s (PromotedBody.taken p statements).2) forwards
      setup).HasInOpen (s.apply [] (d.part 2)) := by
  have nodup := Instance.nodup_seedNames (Promotion.sound_of_scan scanned)
    (Promotion.apply_of_scan scanned).2
  have names : (PromotedBody.replaceSeeds s (PromotedBody.taken p statements).2).map Seed.name =
      (PromotedBody.taken p statements).2.map Seed.name := by
    rw [PromotedBody.replaceSeeds, List.map_map]
    rfl
  exact Instance.hasInOpen_seed forwards setup (names ▸ nodup) (List.mem_map_of_mem moved.taken)
    (List.mem_map_of_mem member) early

end MovedValue

/-- The value of a slot that is set when the record is created. It needs nothing of the function;
each name in it is one that the component does not bind or one promoted before, unless it belongs to
a declaration that is overlooked; in the record itself it is left as it was; and where it is put,
only the names that it binds itself are bound. -/
theorem early_values_scoped {parameters : Node} {statements : List Node} {p : Promotion} {slot : Slot}
    (scanned : Promotion.scan (parameterNames parameters) statements = .ok p)
    (member : slot ∈ p.slots) (early : slot.seeding.isEarly = true) :
    let s := PromotedBody.substitution parameters p .viaRef
    let seeds := (PromotedBody.taken p statements).2
    ∃ before d, (∃ after, topDeclarators statements = before ++ d :: after) ∧
      d.declaredName? 0 = some slot.name ∧ slot.name ∉ plainNames before ∧
      ⟨slot.name, slot.seeding, d.part 2⟩ ∈ seeds ∧
      (∀ m ∈ (d.part 2).preorder, m.needsFunction = false) ∧
      (∀ y ∈ (d.part 2).valueNames,
        (y ∉ componentBindings parameters statements ∨ y ∈ p.promotedAmong before) ↔
          (y ∈ statements.flatMap Node.overlookedNames → y ∈ p.promotedAmong before)) ∧
      (slot.seeding = .record → (∀ y ∈ (d.part 2).valueNames, y ∉ p.names) ∧
        s.count [] (d.part 2) = 0 ∧
        ((∀ m ∈ (d.part 2).preorder, m.AbbreviatesName) → s.apply [] (d.part 2) = d.part 2)) ∧
      ∀ forwards setup, ∃ place,
        let body := Instance.body p (PromotedBody.replaceSeeds s seeds) forwards setup
        body.atPlace? place = some (s.apply [] (d.part 2)) ∧
          ∀ back, body.boundOnWay (place ++ back) = (d.part 2).boundOnWay back := by
  intro s seeds
  obtain ⟨before, d, moved⟩ := movedValue_of_slot scanned member early
  refine ⟨before, d, moved.split, moved.named, moved.first, moved.taken, moved.apart,
    fun y used => moved.unbound_or_earlier_iff used, ?_, ?_⟩
  · intro record
    have unpromoted := moved.recorded record
    exact ⟨fun y used => unpromoted y (Node.references_of_valueNames used),
      s.count_of_unpromoted unpromoted, s.apply_of_unpromoted unpromoted⟩
  · intro forwards setup
    obtain ⟨place, stands, same⟩ := moved.hasInOpen scanned member early s forwards setup
    refine ⟨place, stands, fun back => ?_⟩
    rw [same, (s.stable_boundOnWay back).apply]

def readingEnum : Node :=
  .generated (.declarator false) [.boundName "x", .absent, .arrowTo [] (.value "E")]

-- `let x = () => E; enum E {}`
def enumBody : List Node :=
  [.generated (.variableList .letKind false) [readingEnum],
    .generated (.enum false false) [.boundName "E", .group []]]

theorem early_values_scoped_enum :
    let parameters := Node.parametersOf []
    let p : Promotion := ⟨[⟨"x", .record⟩]⟩
    Promotion.scan (parameterNames parameters) enumBody = .ok p ∧
      ⟨"x", .record, readingEnum.part 2⟩ ∈ (PromotedBody.taken p enumBody).2 ∧
      ¬ ∀ y ∈ (readingEnum.part 2).valueNames,
        y ∉ componentBindings parameters enumBody ∨ y ∈ p.promotedAmong [] := by
  intro parameters p
  have scanned : Promotion.scan (parameterNames parameters) enumBody = .ok p := by cbv
  obtain ⟨before, d, ⟨after, split⟩, _, _, taken, _, exactly, _⟩ :=
    early_values_scoped scanned List.mem_cons_self rfl
  obtain ⟨rfl, rfl, rfl⟩ : before = [] ∧ d = readingEnum ∧ after = [] := by
    have single : topDeclarators enumBody = [readingEnum] := rfl
    simpa [single, List.singleton_eq_append_iff, and_comm] using split
  refine ⟨scanned, taken, fun all => ?_⟩
  have used : "E" ∈ (readingEnum.part 2).valueNames := by decide +kernel
  have earlier := (exactly "E" used).mp (all "E" used) (by decide +kernel)
  cases earlier

end Rsx
