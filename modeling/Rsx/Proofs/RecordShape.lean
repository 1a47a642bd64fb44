import Rsx.Proofs.EarlyValues
import Rsx.Proofs.Layout

set_option autoImplicit false

namespace Rsx

variable {parameters : Node} {statements : List Node} {p : Promotion} {slot : Slot}

-- The same code, place by place. Only properties may differ in being abbreviated.
inductive Node.SameCode : Node → Node → Prop where
  | node {k k' : Kind} {span : Span} {ps qs : List Node} (same : k.unabbreviated = k'.unabbreviated)
      (parts : List.Forall₂ SameCode ps qs) : SameCode (.mk k span ps) (.mk k' span qs)

theorem Substitution.sameCode_apply (s : Substitution) {shadowed : List String} {n : Node}
    (unpromoted : ∀ y ∈ n.references, y ∉ s.promoted) : (s.apply shadowed n).SameCode n := by
  induction n using Node.induction generalizing shadowed with
  | node k span ps ih =>
    rw [s.apply_of_untouched (s.untouched_of_unpromoted unpromoted)]
    refine .node ?_ ?_
    · rcases adjusted_eq k (ps.map (s.apply ((Node.mk k span ps).introduced ++ shadowed))) with
        same | ⟨i, rfl, same⟩
      · rw [Node.kind_mk, Node.parts_mk, same]
      · rw [Node.kind_mk, Node.parts_mk, same]
        rfl
    · rw [Node.parts_mk, List.forall₂_map_left_iff, List.forall₂_same]
      exact fun p part => ih p part fun y refers =>
        unpromoted y (Node.references_of_part part y refers)

-- What the slot of a promoted variable starts with. If the first value is for the record, it is that,
-- and no name in it was replaced.
structure StartsWith (parameters : Node) (statements : List Node) (p : Promotion) (slot : Slot)
    (value : Node) : Prop where
  other : slot.seeding ≠ .record → value = Instance.undefined
  record : slot.seeding = .record → ∃ before d,
    (∃ after, topDeclarators statements = before ++ d :: after) ∧
      d.declaredName? 0 = some slot.name ∧ slot.name ∉ plainNames before ∧
      let s := PromotedBody.substitution parameters p .viaRef
      value = s.apply [] (d.part 2) ∧ s.count [] (d.part 2) = 0 ∧ value.SameCode (d.part 2) ∧
        ((∀ m ∈ (d.part 2).preorder, m.AbbreviatesName) → value = d.part 2)

theorem startsWith_firstValue
    (scanned : Promotion.scan (parameterNames parameters) statements = .ok p)
    (member : slot ∈ p.slots) :
    StartsWith parameters statements p slot (Instance.firstValue
      (PromotedBody.replaceSeeds (PromotedBody.substitution parameters p .viaRef)
        (PromotedBody.taken p statements).2) slot.name) := by
  have sound := Promotion.sound_of_scan scanned
  have early := PromotedBody.earlySlots_of_scan scanned (PromotedBody.substitution parameters p .viaRef)
  constructor
  · -- A seed for the record with the slot's name would be the seed of the slot.
    intro other
    have none : (PromotedBody.replaceSeeds (PromotedBody.substitution parameters p .viaRef)
        (PromotedBody.taken p statements).2).find?
          (fun s => s.seeding == .record && s.name == slot.name) = none := by
      refine List.find?_eq_none.mpr fun seed inSeeds same => other ?_
      simp only [Bool.and_eq_true, beq_iff_eq] at same
      have inSlots : seed.slot ∈ p.slots :=
        List.mem_of_mem_filter (early ▸ List.mem_map_of_mem inSeeds : seed.slot ∈ p.earlySlots)
      rw [← Promotion.seedingOf_of_mem sound.nodup member, ← same.2, ← same.1]
      exact Promotion.seedingOf_of_mem sound.nodup inSlots
    rw [Instance.firstValue, none]
  · intro record
    obtain ⟨before, d, moved⟩ := movedValue_of_slot scanned member (by rw [record]; rfl)
    have unpromoted := moved.recorded record
    have value := Instance.firstValue_of_mem (Instance.nodup_seedNames sound early)
      (List.mem_map_of_mem moved.taken) record
    refine ⟨before, d, moved.split, moved.named, moved.first, value,
      Substitution.count_of_unpromoted _ unpromoted, ?_, fun abbreviates => ?_⟩
    · exact value ▸ Substitution.sameCode_apply _ unpromoted
    · exact value.trans (Substitution.apply_of_unpromoted _ unpromoted abbreviates)

namespace Rebuilt

variable {o : Options} {path source : String} {out : Output} (r : Rebuilt o path source out)

-- The object literal in the first statement of the block that creates the record.
def recordPlace : Place := r.componentPlace ++ [r.bodyIndex, 1, 2, 1, 0, 0, 1]

theorem record_stands :
    r.tree.atPlace? r.recordPlace = some (Instance.record r.promotion r.body.seeds) := by
  rw [recordPlace, r.atPlace?_component]
  cases r.form with
  | function info index whole =>
    rw [whole, index]
    rfl
  | arrow info index whole =>
    rw [whole, index]
    rfl

theorem keys_record : (Instance.recordSlots r.promotion r.body.seeds).map Prod.fst =
    r.promotion.names ++ Instance.internalSlots.map Prod.fst := by
  rw [Instance.recordSlots, List.map_append, List.map_map]
  exact congrArg (· ++ _) (List.map_id _)

theorem nodup_keys :
    ((Instance.recordSlots r.promotion r.body.seeds).map Prod.fst).Nodup := by
  rw [r.keys_record]
  refine List.nodup_append.mpr ⟨r.sound.nodup, by decide +kernel, ?_⟩
  rintro x promoted _ internal rfl
  obtain ⟨slot, fixed, rfl⟩ := List.mem_map.mp internal
  have reserved := Instance.internalSlots_reserved slot fixed
  simp [r.unreserved _ promoted] at reserved

theorem proto_notMem_keys :
    "__proto__" ∉ (Instance.recordSlots r.promotion r.body.seeds).map Prod.fst := by
  rw [r.keys_record, List.mem_append, not_or]
  exact ⟨Promotion.proto_of_scan r.ofBody.scanned, by decide +kernel⟩

theorem startsWith {slot : Slot} (member : slot ∈ r.promotion.slots) :
    ∃ value, (slot.name, value) ∈ Instance.recordSlots r.promotion r.body.seeds ∧
      StartsWith r.parts.parameters r.parts.body.statements r.promotion slot value := by
  have starts := startsWith_firstValue r.ofBody.scanned member
  refine ⟨_, List.mem_append_left _ (List.mem_map_of_mem (List.mem_map_of_mem member)), ?_⟩
  rw [r.ofBody.seeds]
  exact starts

end Rebuilt

/-- The seeds of a promotion always find their slots in the component made for it. The record of a
compiled component has the promoted variables in the order of their declarations and then the slots
that every record has, no name twice and never `__proto__`, and a variable's slot starts with its
first value if that is for the record, else it is undefined. -/
theorem record_shaped :
    (∀ (parameters : Node) (statements : List Node) (p : Promotion),
      Promotion.scan (parameterNames parameters) statements = .ok p → ∀ s f userBody,
        f.componentParts?.isSome = true →
        let seeds := PromotedBody.replaceSeeds s (PromotedBody.taken p statements).2
        Instance.seedFunction? seeds (Instance.rebuild p [] f userBody) =
          some (Instance.rebuild p seeds f userBody)) ∧
      ∀ (o : Options) (path source : String) (out : Output),
        (compile o path source).result = .ok out → out.transformed = true →
        ∃ r : Rebuilt o path source out, ∃ slots : List (String × Node),
          rebuildFunction? r.body r.written = some r.generated ∧
          r.tree.atPlace? r.recordPlace =
            some (.generated .object (slots.map fun slot => .propertyOf slot.1 slot.2)) ∧
          slots.map Prod.fst = promotableNames (parameterNames r.parts.parameters)
              (topDeclarators r.parts.body.statements) ++
            ["__rsx_initialized", "__rsx_prevProps", "__rsx_currentProps", "__rsx_viewCb",
              "__rsx_updateCb", "__rsx_destroyCb", "__rsx_viewResult", "__rsx_triggerRender"] ∧
          (slots.map Prod.fst).Nodup ∧ "__proto__" ∉ slots.map Prod.fst ∧
          ∀ slot ∈ r.promotion.slots, ∃ value, (slot.name, value) ∈ slots ∧
            StartsWith r.parts.parameters r.parts.body.statements r.promotion slot value := by
  refine ⟨fun parameters statements p scanned s f userBody isComponent => ?_, ?_⟩
  · obtain ⟨parts, isComponent⟩ := Option.isSome_iff_exists.mp isComponent
    have early := PromotedBody.earlySlots_of_scan scanned s
    have placeable := Placeable.of_early (Promotion.sound_of_scan scanned) early
    exact Instance.seedFunction?_rebuild placeable isComponent userBody
  · intro o path source out compiled transformed
    obtain ⟨r⟩ := rebuilt_of_compile compiled transformed
    have names := Promotion.names_eq_of_scan r.ofBody.scanned
    refine ⟨r, Instance.recordSlots r.promotion r.body.seeds,
      rebuildFunction?_eq (PromotedBody.placeable r.ofBody) r.written, r.record_stands, ?_,
      r.nodup_keys, r.proto_notMem_keys, fun slot member => r.startsWith member⟩
    rw [r.keys_record, names]
    rfl

def seedsText : String :=
  "export default function A() \x7b let a = 1, b = () => a; var b = 2; let c = f(), d; \x7d"

set_option maxRecDepth 100000 in
theorem record_shaped_seeds :
    ∃ out, (compile .default "A.rsx" seedsText).result = .ok out ∧ out.transformed = true ∧
      ∃ r : Rebuilt .default "A.rsx" seedsText out, ∃ slots : List (String × Node),
        (∀ userBody, Instance.seedFunction? r.body.seeds
            (Instance.rebuild r.promotion [] r.written userBody) =
          some (Instance.rebuild r.promotion r.body.seeds r.written userBody)) ∧
        r.tree.atPlace? r.recordPlace =
          some (.generated .object (slots.map fun slot => .propertyOf slot.1 slot.2)) ∧
        (slots.map Prod.fst).Nodup := by
  obtain ⟨out, compiled, transformed⟩ :=
    ok_of_isTransformed (compile .default "A.rsx" seedsText).result (by decide +kernel)
  obtain ⟨placed, shaped⟩ := record_shaped
  obtain ⟨r, slots, _, stands, _, nodup, _⟩ := shaped _ _ _ _ compiled transformed
  refine ⟨out, compiled, transformed, r, slots, fun userBody => ?_, stands, nodup⟩
  rw [r.ofBody.seeds]
  exact placed _ _ _ r.ofBody.scanned _ r.written userBody (by simp [r.isComponent])

end Rsx
