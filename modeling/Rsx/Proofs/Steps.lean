import Rsx.Proofs.Scanning
import Rsx.Writes

set_option autoImplicit false

namespace Rsx

inductive Step where
  | set (x : String) (span : Span) (value : Node)  -- a promoted variable gets its declared value
  | keep (n : Node)

namespace Step

def assigned? : Step → Option (String × Node)
  | set x _ value => some (x, value)
  | keep _ => none

def kept? : Step → Option Node
  | set _ _ _ => none
  | keep n => some n

def inPlace : Step → Node
  | set x span value => RecordAccess.direct.assignment span x value
  | keep n => n

def opens : Step → Bool
  | set _ _ _ => true
  | keep n => n.isInert

def isSet : Step → Bool
  | set _ _ _ => true
  | keep _ => false

theorem kept_inPlace (steps : List Step) :
    steps.filterMap kept? = (steps.filter (!·.isSet)).map inPlace := by
  induction steps with
  | nil => rfl
  | cons step rest ih => cases step <;> simp [List.filterMap_cons, kept?, isSet, inPlace, ih]

end Step

namespace Node

def single (kind : VariableKind) (d : Node) : Node := mk (.variableList kind false) .nowhere [d]

-- `let a, b;` is `let a; let b;`.
def split (n : Node) : List Node :=
  match n.kind with
  | .variableList kind _ => n.parts.map (single kind)
  | _ => [n]

theorem split_cases (n : Node) :
    n.split = [n] ∨ ∃ kind declare, n.kind = .variableList kind declare := by
  unfold split
  split
  next kind declare declares => exact .inr ⟨kind, declare, declares⟩
  next => exact .inl rfl

def promotableKind? (n : Node) : Option VariableKind :=
  match n.kind with
  | .variableList .varKind _ => some .varKind
  | .variableList .letKind _ => some .letKind
  | .variableList .constKind _ => some .constKind
  | _ => none

theorem isPromotable_eq_true {n : Node} :
    n.isPromotable = true ↔ ∃ kind, n.promotableKind? = some kind := by
  unfold isPromotable promotableKind?
  split <;> simp_all

theorem isPromotable_eq_false {n : Node} :
    n.isPromotable = false ↔ n.promotableKind? = none := by
  rw [← Bool.not_eq_true, isPromotable_eq_true, Option.eq_none_iff_forall_ne_some, not_exists]

theorem kind_of_promotable {n : Node} {kind : VariableKind}
    (promotable : n.promotableKind? = some kind) :
    ∃ declare, n.kind = .variableList kind declare := by
  unfold promotableKind? at promotable
  split at promotable <;> simp_all

theorem split_of_inert {n : Node} (inert : n.isInert = true) : n.split = [n] := by
  unfold isInert at inert
  unfold split
  split <;> simp_all

end Node

namespace Promotion

def declaratorSteps (p : Promotion) (kind : VariableKind) (d : Node) : List Step :=
  match p.promotedName? d with
  | Option.none => [.keep (.single kind d)]
  | some x => if (d.part 2).isAbsent then [] else [.set x d.span (d.part 2)]

def steps (p : Promotion) (n : Node) : List Step :=
  match n.promotableKind? with
  | some kind => n.parts.flatMap (p.declaratorSteps kind)
  | Option.none => n.split.map .keep

end Promotion

namespace Seed

def slot (s : Seed) : Slot := ⟨s.name, s.seeding⟩

def assigned (s : Seed) : String × Node := (s.name, s.value)

end Seed

-- A stretch of a body before and after promotion. Its opening ends where nothing can be moved
-- ahead any more.
structure Stretch (leading : Bool) (steps : List Step) (kept : List Node) (seeds : List Seed)
    (leading' : Bool) (opening rest : List Step) : Prop where
  whole : steps = opening ++ rest
  opens : ∀ step ∈ opening, step.opens = true
  moved : seeds.map Seed.assigned = opening.filterMap Step.assigned?
  stays : kept = opening.filterMap Step.kept? ++ rest.map Step.inPlace
  closed : leading = false → opening = []
  still : leading' = true → leading = true ∧ rest = []

namespace Stretch

theorem nothing (leading leading' : Bool) (before : leading' = true → leading = true) :
    Stretch leading [] [] [] leading' [] [] :=
  ⟨rfl, by simp, rfl, rfl, fun _ => rfl, fun still => ⟨before still, rfl⟩⟩

theorem inPlace (leading : Bool) (steps : List Step) :
    Stretch leading steps (steps.map Step.inPlace) [] false [] steps :=
  ⟨rfl, by simp, rfl, rfl, fun _ => rfl, by simp⟩

theorem append {leading leading' leading'' : Bool} {steps steps' : List Step}
    {kept kept' : List Node} {seeds seeds' : List Seed} {opening rest opening' rest' : List Step}
    (first : Stretch leading steps kept seeds leading' opening rest)
    (second : Stretch leading' steps' kept' seeds' leading'' opening' rest') :
    ∃ opening'' rest'', Stretch leading (steps ++ steps') (kept ++ kept') (seeds ++ seeds')
      leading'' opening'' rest'' := by
  cases flag : leading' with
  | true =>
    obtain ⟨isLeading, none⟩ := first.still flag
    subst none
    refine ⟨opening ++ opening', rest', ?_, ?_, ?_, ?_, ?_, ?_⟩
    · simp [first.whole, second.whole]
    · intro step member
      rcases List.mem_append.mp member with left | right
      · exact first.opens step left
      · exact second.opens step right
    · simp [first.moved, second.moved]
    · simp [first.stays, second.stays]
    · simp [isLeading]
    · intro still
      exact ⟨isLeading, (second.still still).2⟩
  | false =>
    have none := second.closed flag
    subst none
    refine ⟨opening, rest ++ rest', ?_, first.opens, ?_, ?_, first.closed, ?_⟩
    · simp [first.whole, second.whole]
    · simp [first.moved, second.moved]
    · simp [first.stays, second.stays]
    · intro still
      have open' := (second.still still).1
      simp [flag] at open'

end Stretch

namespace Fate

def nodes (kind : VariableKind) : Fate → List Node
  | keep d => [.single kind d]
  | assign x span value => [RecordAccess.direct.assignment span x value]
  | seed _ => []
  | vanish => []

end Fate

namespace Promotion

theorem promotedName?_eq_none {p : Promotion} {d : Node} :
    p.promotedName? d = Option.none ↔ ∀ x, (d.part 0).binding? = some x → x ∉ p.names := by
  simp [promotedName?, Option.filter_eq_none_iff, contains]

theorem promotedName?_eq_some {p : Promotion} {d : Node} {x : String} :
    p.promotedName? d = some x ↔ (d.part 0).binding? = some x ∧ x ∈ p.names := by
  simp [promotedName?, Option.filter_eq_some_iff, contains]

theorem earlySeeding_cases (p : Promotion) (bodyNames : List String) (value : Node) :
    p.earlySeeding bodyNames value = .setup ∨
      (p.earlySeeding bodyNames value).isEarly = true := by
  unfold earlySeeding
  simp only
  split
  · exact .inl rfl
  · split
    · exact .inl rfl
    · split <;> exact .inr rfl

theorem seedsOf_cons (f : Fate) (rest : List Fate) :
    seedsOf (f :: rest) = seedsOf [f] ++ seedsOf rest := by
  cases f <;> rfl

theorem seedsOf_keep (ds : List Node) : seedsOf (ds.map .keep) = [] := by
  induction ds with
  | nil => rfl
  | cons d rest ih => exact ih

theorem split_regroup (kind : VariableKind) (kept : List Node) (fates : List Fate) :
    (regroup (.variableList kind false) kept fates).flatMap Node.split =
      kept.map (.single kind) ++ fates.flatMap (Fate.nodes kind) := by
  have declared : ∀ ds, (declaration (.variableList kind false) ds).flatMap Node.split =
      ds.map (.single kind) := by
    intro ds
    cases ds <;> simp [declaration, Node.split, Node.kind, Node.parts]
  induction fates generalizing kept with
  | nil => simp [regroup, declared]
  | cons f rest ih =>
    cases f with
    | keep d => simp [regroup, ih, Fate.nodes]
    | assign x span value =>
      simp [regroup, ih, declared, Fate.nodes, Node.split, RecordAccess.assignment, Node.kind]
    | seed s => simp [regroup, ih, Fate.nodes]
    | vanish => simp [regroup, ih, Fate.nodes]

theorem unpromoted_of_unaffected {p : Promotion} {n : Node} (promotable : n.isPromotable = true)
    (unaffected : p.isAffected n = false) :
    ∀ d ∈ n.parts, p.promotedName? d = Option.none := by
  simpa [isAffected, promotable] using unaffected

theorem fates_of_unpromoted {p : Promotion} {seen : List String} {ds : List Node}
    (none : ∀ d ∈ ds, p.promotedName? d = Option.none) : p.fates seen ds = ds.map .keep := by
  induction ds generalizing seen with
  | nil => rfl
  | cons d rest ih =>
    have first := none d (by simp)
    rw [fates, ih fun d member => none d (by simp [member])]
    simp [fate, first]

theorem names_subset {slots : List Slot} {p : Promotion} (front : slots <+: p.slots) :
    ∀ x ∈ names ⟨slots⟩, x ∈ p.names :=
  (List.IsPrefix.map Slot.name front).subset

end Promotion

-- One point of a body while it is scanned and taken apart: the slots so far are the first ones of
-- the whole promotion, and they are those of the names that were met.
structure Point (p : Promotion) (s : PromotionScan) (seen : List String) : Prop where
  front : s.promotion.slots <+: p.slots
  met : ∀ x ∈ p.names, x ∈ seen ↔ x ∈ s.promotion.names

structure Passage (p : Promotion) (s s' : PromotionScan) (seen' : List String) (steps : List Step)
    (kept : List Node) (seeds : List Seed) : Prop where
  stretch : ∃ opening rest, Stretch s.leading steps kept seeds s'.leading opening rest
  early : s'.promotion.earlySlots = s.promotion.earlySlots ++ seeds.map Seed.slot
  point : Point p s' seen'

namespace Passage

variable {p : Promotion} {s s' s'' : PromotionScan} {seen seen' : List String}
  {steps steps' : List Step} {kept kept' : List Node} {seeds seeds' : List Seed}

theorem append (first : Passage p s s' seen steps kept seeds)
    (second : Passage p s' s'' seen' steps' kept' seeds') :
    Passage p s s'' seen' (steps ++ steps') (kept ++ kept') (seeds ++ seeds') := by
  obtain ⟨_, _, left⟩ := first.stretch
  obtain ⟨_, _, right⟩ := second.stretch
  refine ⟨left.append right, ?_, second.point⟩
  rw [second.early, first.early, List.map_append, List.append_assoc]

theorem reordered (passage : Passage p s s' seen steps kept seeds)
    (same : ∀ x, x ∈ seen' ↔ x ∈ seen) : Passage p s s' seen' steps kept seeds :=
  ⟨passage.stretch, passage.early, passage.point.front,
    fun x promoted => (same x).trans (passage.point.met x promoted)⟩

end Passage

namespace PromotionScan

variable {excluded bodyNames seen : List String} {p : Promotion} {s s' : PromotionScan} {d n : Node}

theorem seedingFor_cases (s : PromotionScan) (bodyNames : List String) (value : Node) :
    value.isAbsent = true ∧ s.seedingFor bodyNames value = .unset ∨
      value.isAbsent = false ∧ s.leading = true ∧ (s.seedingFor bodyNames value).isEarly = true ∨
      value.isAbsent = false ∧ s.seedingFor bodyNames value = .setup := by
  unfold seedingFor
  split
  next absent => exact .inl ⟨absent, rfl⟩
  next present =>
    have present : value.isAbsent = false := by simpa using present
    split
    next leading =>
      rcases s.promotion.earlySeeding_cases bodyNames value with setup | early
      · exact .inr (.inr ⟨present, setup⟩)
      · exact .inr (.inl ⟨present, leading, early⟩)
    next => exact .inr (.inr ⟨present, rfl⟩)

theorem declarator_passage (kind : VariableKind)
    (done : declarator excluded bodyNames s d = .ok s') (sound : p.Sound excluded)
    (before : Point p s seen) (front : s'.promotion.slots <+: p.slots) :
    Passage p s s' ((p.promotedName? d).toList ++ seen) (p.declaratorSteps kind d)
      ((p.fate seen d).nodes kind) (Promotion.seedsOf [p.fate seen d]) := by
  cases declarator_step done with
  | pattern unnamed =>
    have other : p.promotedName? d = none := by
      simp [Promotion.promotedName?_eq_none, unnamed]
    simp only [Promotion.declaratorSteps, Promotion.fate, other, Fate.nodes, Promotion.seedsOf,
      Option.toList_none, List.nil_append]
    exact ⟨⟨_, _, Stretch.inPlace _ _⟩, by simp, before.front, before.met⟩
  | excluded x named taken =>
    have other : p.promotedName? d = none := by
      rw [Promotion.promotedName?_eq_none]
      intro y same promoted
      cases named.symm.trans same
      obtain ⟨free, member⟩ := sound.allowed x promoted
      exact taken.elim free member
    simp only [Promotion.declaratorSteps, Promotion.fate, other, Fate.nodes, Promotion.seedsOf,
      Option.toList_none, List.nil_append]
    exact ⟨⟨_, _, Stretch.inPlace _ _⟩, by simp, before.front, before.met⟩
  | again x named known =>
    have promoted := p.names_subset before.front x known
    have name := Promotion.promotedName?_eq_some.mpr ⟨named, promoted⟩
    have met := (before.met x promoted).mpr known
    have point : Point p s ([x] ++ seen) := by
      refine ⟨before.front, fun y member => ?_⟩
      rw [← before.met y member, List.singleton_append, List.mem_cons, or_iff_right_of_imp]
      exact fun same => same ▸ met
    simp only [Promotion.declaratorSteps, Promotion.fate, name, Option.toList_some,
      List.contains_iff_mem, met, if_true, Seeding.isEarly]
    cases absent : (d.part 2).isAbsent with
    | true =>
      exact ⟨⟨_, _, Stretch.nothing _ _ (by simp)⟩, by simp [Promotion.seedsOf], point.front,
        point.met⟩
    | false =>
      simp only [Bool.and_false]
      exact ⟨⟨_, _, Stretch.inPlace _ _⟩, by simp [Promotion.seedsOf], point.front, point.met⟩
  | fresh x named allowed unknown =>
    rw [addSlot_eq] at front ⊢
    have slot : ⟨x, s.seedingFor bodyNames (d.part 2)⟩ ∈ p.slots := front.subset (by simp)
    have promoted : x ∈ p.names := List.mem_map_of_mem slot
    have name := Promotion.promotedName?_eq_some.mpr ⟨named, promoted⟩
    have unmet : x ∉ seen := fun met => unknown ((before.met x promoted).mp met)
    have seeding := Promotion.seedingOf_of_mem sound.nodup slot
    have point : ∀ leading, Point p ⟨⟨s.promotion.slots ++
        [⟨x, s.seedingFor bodyNames (d.part 2)⟩]⟩, leading⟩ ([x] ++ seen) := by
      refine fun _ => ⟨front, fun y member => ?_⟩
      simp only [Promotion.names, List.map_append, List.mem_append, List.map_cons, List.map_nil]
      rw [before.met y member, or_comm]
      rfl
    simp only at seeding
    simp only [Promotion.declaratorSteps, Promotion.fate, name, Option.toList_some,
      List.contains_iff_mem, unmet, if_false, seeding]
    rcases s.seedingFor_cases bodyNames (d.part 2) with ⟨absent, unset⟩ | ⟨present, leading, early⟩ |
      ⟨present, setup⟩
    · simp only [absent, if_true, unset] at point ⊢
      refine ⟨⟨_, _, Stretch.nothing _ _ (by simp)⟩, ?_, point _⟩
      simp [Promotion.earlySlots_snoc, Promotion.seedsOf, Seeding.isEarly]
    · have isSeed : (s.seedingFor bodyNames (d.part 2) != .setup) = true := by
        cases found : s.seedingFor bodyNames (d.part 2) <;> simp_all [Seeding.isEarly]
      simp only [present, early, if_true, isSeed]
      refine ⟨⟨[.set x d.span (d.part 2)], [], ?_⟩, ?_, point _⟩
      · exact ⟨rfl, by simp [Step.opens], rfl, rfl, by simp [leading], fun _ => ⟨leading, rfl⟩⟩
      · simp [Promotion.earlySlots_snoc, early, Promotion.seedsOf, Seed.slot]
    · simp only [present, setup, Seeding.isEarly] at point ⊢
      refine ⟨⟨[], [.set x d.span (d.part 2)], ?_⟩, ?_, point _⟩
      · simpa [Fate.nodes, Promotion.seedsOf, Step.inPlace] using
          Stretch.inPlace s.leading [.set x d.span (d.part 2)]
      · simp [Promotion.earlySlots_snoc, Promotion.seedsOf, Seeding.isEarly]

theorem declarators_passage (kind : VariableKind) {ds : List Node}
    (done : ds.foldlM (declarator excluded bodyNames) s = .ok s') (sound : p.Sound excluded)
    (before : Point p s seen) (front : s'.promotion.slots <+: p.slots)
    (scanned : s.promotion.Sound excluded) :
    Passage p s s' (ds.filterMap p.promotedName? ++ seen) (ds.flatMap (p.declaratorSteps kind))
      ((p.fates seen ds).flatMap (Fate.nodes kind)) (Promotion.seedsOf (p.fates seen ds)) := by
  induction ds generalizing s seen with
  | nil =>
    cases done
    exact ⟨⟨_, _, Stretch.nothing _ _ id⟩, by simp [Promotion.fates, Promotion.seedsOf], before⟩
  | cons d rest ih =>
    obtain ⟨next, first, later⟩ := foldlM_cons_ok done
    obtain ⟨nextSound, _⟩ := declarator_sound first scanned
    obtain ⟨_, longer⟩ := declarators_sound later nextSound
    have head := declarator_passage kind first sound before (longer.trans front)
    have tail := ih later head.point nextSound
    rw [Promotion.fates, Promotion.seedsOf_cons, List.flatMap_cons, List.flatMap_cons]
    refine (head.append tail).reordered fun x => ?_
    simp [or_assoc, or_left_comm]

theorem statement_passage (done : statement excluded bodyNames s n = .ok s')
    (sound : p.Sound excluded) (before : Point p s seen) (front : s'.promotion.slots <+: p.slots)
    (scanned : s.promotion.Sound excluded) :
    ∃ kept seeds seen',
      (∀ rest, p.applyFrom seen (n :: rest) =
        (kept ++ (p.applyFrom seen' rest).1, seeds ++ (p.applyFrom seen' rest).2)) ∧
      Passage p s s' seen' (p.steps n) (kept.flatMap Node.split) seeds := by
  unfold statement at done
  cases promotable : n.promotableKind? with
  | none =>
    have other := Node.isPromotable_eq_false.mpr promotable
    simp only [other, Bool.false_eq_true, if_false, Except.ok.injEq] at done
    subst done
    refine ⟨[n], [], seen, fun rest => by simp [Promotion.applyFrom, Promotion.isAffected, other],
      ?_, by simp, before.front, before.met⟩
    simp only [Promotion.steps, promotable, List.flatMap_singleton]
    cases inert : n.isInert with
    | true =>
      rw [Node.split_of_inert inert, Bool.and_true]
      cases leading : s.leading with
      | true =>
        exact ⟨[.keep n], [], rfl, by simp [Step.opens, inert], rfl, rfl, by simp, by simp⟩
      | false => exact ⟨_, _, Stretch.inPlace _ _⟩
    | false =>
      refine ⟨[], n.split.map .keep, ?_⟩
      simpa [Step.inPlace, Function.comp_def] using Stretch.inPlace s.leading (n.split.map .keep)
  | some kind =>
    have isPromotable := Node.isPromotable_eq_true.mpr ⟨kind, promotable⟩
    simp only [isPromotable, if_true] at done
    have passage := declarators_passage kind done sound before front scanned
    cases affected : p.isAffected n with
    | true =>
      obtain ⟨declare, declares⟩ := Node.kind_of_promotable promotable
      refine ⟨Promotion.regroup (Promotion.withoutDeclare n.kind) [] (p.fates seen n.parts),
        Promotion.seedsOf (p.fates seen n.parts), n.parts.filterMap p.promotedName? ++ seen,
        fun rest => by simp only [Promotion.applyFrom, affected, if_true], ?_⟩
      rw [declares, Promotion.withoutDeclare, Promotion.split_regroup, List.map_nil,
        List.nil_append]
      simpa only [Promotion.steps, promotable] using passage
    | false =>
      obtain ⟨declare, declares⟩ := Node.kind_of_promotable promotable
      have none := Promotion.unpromoted_of_unaffected isPromotable affected
      refine ⟨[n], [], seen, fun rest => by simp [Promotion.applyFrom, affected], ?_⟩
      have each : (n.parts.map Fate.keep).flatMap (Fate.nodes kind) = n.split := by
        simp only [Node.split, declares]
        rw [List.flatMap_map, List.map_eq_flatMap]
        rfl
      rw [Promotion.fates_of_unpromoted none, Promotion.seedsOf_keep, each,
        List.filterMap_eq_nil_iff.mpr none, List.nil_append] at passage
      simpa [Promotion.steps, promotable] using passage

theorem return_passage (done : statement excluded bodyNames s n = .ok s') (before : Point p s seen)
    (isReturn : isReturn n = true) : Passage p s s' seen [] [] [] := by
  have kind : n.kind = .returnWith := by
    unfold Rsx.isReturn at isReturn
    split at isReturn
    · assumption
    · cases isReturn
  simp only [statement, Node.isPromotable, Node.isInert, kind, Bool.false_eq_true, if_false,
    Bool.and_false, Except.ok.injEq] at done
  subst done
  exact ⟨⟨_, _, Stretch.nothing _ _ (by simp)⟩, by simp, before.front, before.met⟩

-- The scan sees the top-level returns, which are dropped before the body is taken apart.
theorem statements_passage {ns : List Node}
    (done : ns.foldlM (statement excluded bodyNames) s = .ok s') (sound : p.Sound excluded)
    (before : Point p s seen) (front : s'.promotion.slots <+: p.slots)
    (scanned : s.promotion.Sound excluded) :
    ∃ seen', Passage p s s' seen' ((discardReturns ns).1.flatMap p.steps)
      ((p.applyFrom seen (discardReturns ns).1).1.flatMap Node.split)
      (p.applyFrom seen (discardReturns ns).1).2 := by
  induction ns generalizing s seen with
  | nil =>
    cases done
    exact ⟨seen, ⟨_, _, Stretch.nothing _ _ id⟩, by simp [Promotion.applyFrom, discardReturns],
      before⟩
  | cons n rest ih =>
    obtain ⟨next, first, later⟩ := foldlM_cons_ok done
    obtain ⟨nextSound, _⟩ := statement_sound first scanned
    obtain ⟨_, longer⟩ := statements_sound later nextSound
    cases returns : isReturn n with
    | true =>
      have head := return_passage first before returns
      obtain ⟨seen', tail⟩ := ih later head.point nextSound
      have dropped : (discardReturns (n :: rest)).1 = (discardReturns rest).1 := by
        simp [discardReturns, returns]
      rw [dropped]
      exact ⟨seen', by simpa only [List.nil_append] using head.append tail⟩
    | false =>
      obtain ⟨kept, seeds, seen', result, head⟩ :=
        statement_passage first sound before (longer.trans front) scanned
      obtain ⟨seen'', tail⟩ := ih later head.point nextSound
      refine ⟨seen'', ?_⟩
      have dropped : (discardReturns (n :: rest)).1 = n :: (discardReturns rest).1 := by
        simp [discardReturns, returns]
      rw [dropped, result, List.flatMap_cons, List.flatMap_append]
      exact head.append tail

end PromotionScan

theorem Promotion.apply_of_scan {excluded : List String} {statements : List Node} {p : Promotion}
    (scanned : scan excluded statements = .ok p) :
    (∃ leading opening rest, Stretch true ((discardReturns statements).1.flatMap p.steps)
      ((p.apply (discardReturns statements).1).1.flatMap Node.split)
      (p.apply (discardReturns statements).1).2 leading opening rest) ∧
    p.earlySlots = (p.apply (discardReturns statements).1).2.map Seed.slot := by
  have sound := sound_of_scan scanned
  obtain ⟨s, done, rfl⟩ := scan_ok scanned
  have before : Point s.promotion ⟨none, true⟩ [] :=
    ⟨List.nil_prefix, fun x _ => by simp [names, none]⟩
  obtain ⟨_, ⟨_, _, stretch⟩, early, _⟩ :=
    PromotionScan.statements_passage done sound before (List.prefix_refl _) (sound_none excluded)
  exact ⟨⟨_, _, _, stretch⟩, by simpa [earlySlots, none, apply] using early⟩

end Rsx
