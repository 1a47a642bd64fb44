import Mathlib.Data.List.Nodup
import Rsx.Promotion

set_option autoImplicit false

namespace Rsx

namespace Promotion

def earlySlots (p : Promotion) : List Slot := p.slots.filter (·.seeding.isEarly)

structure Sound (excluded : List String) (p : Promotion) : Prop where
  nodup : p.names.Nodup
  allowed : ∀ x ∈ p.names, x ∉ excluded ∧ x ∉ lifecycleNames
  ordered : ∃ inRecord after, p.earlySlots = inRecord ++ after ∧
    (∀ slot ∈ inRecord, slot.seeding = .record) ∧ ∀ slot ∈ after, slot.seeding = .creation

theorem contains_iff {p : Promotion} {x : String} : p.contains x = true ↔ x ∈ p.names := by
  simp [contains]

theorem sound_none (excluded : List String) : Sound excluded none :=
  ⟨by simp [names, none], by simp [names, none], [], [], by simp [earlySlots, none]⟩

theorem seedingOf_of_mem {p : Promotion} {slot : Slot} (nodup : p.names.Nodup)
    (member : slot ∈ p.slots) : p.seedingOf slot.name = slot.seeding := by
  obtain ⟨slots⟩ := p
  induction slots with
  | nil => cases member
  | cons first rest ih =>
    simp only [names, List.map_cons, List.nodup_cons] at nodup
    rcases List.mem_cons.mp member with rfl | later
    · simp [seedingOf]
    · have other : first.name ≠ slot.name := by
        intro same
        exact nodup.1 (same ▸ List.mem_map_of_mem later)
      have found := ih nodup.2 later
      simpa [seedingOf, other] using found

theorem seedingOf_of_not_mem {p : Promotion} {x : String} (unknown : x ∉ p.names) :
    p.seedingOf x = .setup := by
  have missing : p.slots.find? (·.name == x) = Option.none := by
    refine List.find?_eq_none.mpr fun slot member same => ?_
    have same : slot.name = x := by simpa using same
    exact unknown (same ▸ List.mem_map_of_mem member)
  simp [seedingOf, missing]

theorem earlySlots_snoc (p : Promotion) (slot : Slot) :
    earlySlots ⟨p.slots ++ [slot]⟩ =
      p.earlySlots ++ if slot.seeding.isEarly then [slot] else [] := by
  simp only [earlySlots, List.filter_append]
  split <;> simp_all

-- A value goes into the record only as long as no value had to be set after it.
theorem earlySeeding_record {p : Promotion} {bodyNames : List String} {value : Node}
    (record : p.earlySeeding bodyNames value = .record) :
    ∀ slot ∈ p.slots, slot.seeding ≠ .creation := by
  intro slot member created
  unfold earlySeeding at record
  simp only at record
  split at record
  · cases record
  · split at record
    · cases record
    · split at record
      · cases record
      next free =>
        simp only [Bool.or_eq_true, List.any_eq_true, not_or, not_exists, not_and] at free
        exact free.2 slot member (by simp [created])

end Promotion

namespace PromotionScan

open Promotion (Sound)

theorem foldlM_cons_ok {ε σ α : Type} {f : σ → α → Except ε σ} {s t : σ} {a : α} {rest : List α}
    (done : (a :: rest).foldlM f s = .ok t) :
    ∃ next, f s a = .ok next ∧ rest.foldlM f next = .ok t := by
  rw [List.foldlM_cons] at done
  cases first : f s a with
  | error problem => simp [first, bind, Except.bind] at done
  | ok next => exact ⟨next, rfl, by simpa [first, bind, Except.bind] using done⟩

theorem foldlM_keeps {ε σ α : Type} {f : σ → α → Except ε σ} {P : σ → Prop} {l : List α}
    (keeps : ∀ s a t, f s a = .ok t → P s → P t) {s t : σ} (done : l.foldlM f s = .ok t)
    (start : P s) : P t := by
  induction l generalizing s with
  | nil =>
    cases done
    exact start
  | cons a rest ih =>
    obtain ⟨next, first, later⟩ := foldlM_cons_ok done
    exact ih later (keeps s a next first start)

variable {excluded bodyNames : List String} {s s' : PromotionScan} {d n : Node}

def seedingFor (s : PromotionScan) (bodyNames : List String) (value : Node) : Seeding :=
  if value.isAbsent then .unset
  else if s.leading then s.promotion.earlySeeding bodyNames value
  else .setup

theorem addSlot_eq (s : PromotionScan) (bodyNames : List String) (x : String) (value : Node) :
    s.addSlot bodyNames x value =
      ⟨⟨s.promotion.slots ++ [⟨x, s.seedingFor bodyNames value⟩]⟩,
        s.leading && s.seedingFor bodyNames value != .setup⟩ := rfl

inductive DeclaratorStep (excluded bodyNames : List String) (s : PromotionScan) (d : Node) :
    PromotionScan → Prop where
  | pattern (unnamed : (d.part 0).binding? = none) :
      DeclaratorStep excluded bodyNames s d { s with leading := false }
  | excluded (x : String) (named : (d.part 0).binding? = some x)
      (taken : x ∈ excluded ∨ x ∈ lifecycleNames) :
      DeclaratorStep excluded bodyNames s d { s with leading := false }
  | again (x : String) (named : (d.part 0).binding? = some x) (known : x ∈ s.promotion.names) :
      DeclaratorStep excluded bodyNames s d { s with leading := s.leading && (d.part 2).isAbsent }
  | fresh (x : String) (named : (d.part 0).binding? = some x)
      (allowed : x ∉ excluded ∧ x ∉ lifecycleNames) (unknown : x ∉ s.promotion.names) :
      DeclaratorStep excluded bodyNames s d (s.addSlot bodyNames x (d.part 2))

theorem declarator_step (done : declarator excluded bodyNames s d = .ok s') :
    DeclaratorStep excluded bodyNames s d s' := by
  unfold declarator at done
  split at done
  next unnamed =>
    cases done
    exact .pattern unnamed
  next x named =>
    split at done
    next taken =>
      cases done
      exact .excluded x named (by simpa using taken)
    next free =>
      simp only [Bool.or_eq_true, List.contains_iff_mem, not_or] at free
      split at done
      · cases done
      · split at done
        next known =>
          cases done
          exact .again x named (Promotion.contains_iff.mp known)
        next unknown =>
          cases done
          exact .fresh x named free fun known => unknown (Promotion.contains_iff.mpr known)

theorem seedingFor_record {value : Node} (record : s.seedingFor bodyNames value = .record) :
    ∀ slot ∈ s.promotion.slots, slot.seeding ≠ .creation := by
  unfold seedingFor at record
  split at record
  · cases record
  · split at record
    · exact Promotion.earlySeeding_record record
    · cases record

theorem sound_addSlot {x : String} {value : Node} (sound : Sound excluded s.promotion)
    (allowed : x ∉ excluded ∧ x ∉ lifecycleNames) (unknown : x ∉ s.promotion.names) :
    Sound excluded (s.addSlot bodyNames x value).promotion := by
  obtain ⟨nodup, others, inRecord, after, early, inRecordSeeding, afterSeeding⟩ := sound
  rw [addSlot_eq]
  refine ⟨?_, ?_, ?_⟩
  · simp only [Promotion.names, List.map_append, List.map_cons, List.map_nil]
    exact List.nodup_append.mpr ⟨nodup, by simp, by
      intro y member z last same
      simp only [List.mem_singleton] at last
      exact unknown (last ▸ same ▸ member)⟩
  · intro y member
    simp only [Promotion.names, List.map_append, List.mem_append, List.map_cons, List.map_nil,
      List.mem_singleton] at member
    rcases member with known | rfl
    · exact others y known
    · exact allowed
  · cases seeding : s.seedingFor bodyNames value with
    | record =>
      have none : after = [] := by
        refine List.eq_nil_iff_forall_not_mem.mpr fun slot member => ?_
        have below : slot ∈ s.promotion.earlySlots := early ▸ List.mem_append_right _ member
        exact seedingFor_record seeding slot (List.mem_of_mem_filter below) (afterSeeding slot member)
      refine ⟨inRecord ++ [⟨x, .record⟩], [], ?_, ?_, by simp⟩
      · simp [Promotion.earlySlots_snoc, early, none, Seeding.isEarly]
      · simpa [or_imp, forall_and] using inRecordSeeding
    | creation =>
      refine ⟨inRecord, after ++ [⟨x, .creation⟩], ?_, inRecordSeeding, ?_⟩
      · simp [Promotion.earlySlots_snoc, early, Seeding.isEarly]
      · simpa [or_imp, forall_and] using afterSeeding
    | unset =>
      refine ⟨inRecord, after, ?_, inRecordSeeding, afterSeeding⟩
      simp [Promotion.earlySlots_snoc, early, Seeding.isEarly]
    | setup =>
      refine ⟨inRecord, after, ?_, inRecordSeeding, afterSeeding⟩
      simp [Promotion.earlySlots_snoc, early, Seeding.isEarly]

-- One declarator keeps what was found and adds at most one slot.
theorem declarator_sound (done : declarator excluded bodyNames s d = .ok s')
    (sound : Sound excluded s.promotion) :
    Sound excluded s'.promotion ∧ s.promotion.slots <+: s'.promotion.slots := by
  cases declarator_step done with
  | pattern => exact ⟨sound, List.prefix_refl _⟩
  | excluded => exact ⟨sound, List.prefix_refl _⟩
  | again => exact ⟨sound, List.prefix_refl _⟩
  | fresh x _ allowed unknown =>
    exact ⟨sound_addSlot sound allowed unknown, List.prefix_append _ _⟩

theorem foldlM_sound {step : PromotionScan → Node → Except (Located Problem) PromotionScan}
    {ns : List Node} (each : ∀ {t n next}, step t n = .ok next → Sound excluded t.promotion →
      Sound excluded next.promotion ∧ t.promotion.slots <+: next.promotion.slots)
    (done : ns.foldlM step s = .ok s') (sound : Sound excluded s.promotion) :
    Sound excluded s'.promotion ∧ s.promotion.slots <+: s'.promotion.slots := by
  refine foldlM_keeps (P := fun t =>
    Sound excluded t.promotion ∧ s.promotion.slots <+: t.promotion.slots) ?_ done
    ⟨sound, List.prefix_refl _⟩
  intro t n next first kept
  obtain ⟨all, back⟩ := each first kept.1
  exact ⟨all, kept.2.trans back⟩

theorem declarators_sound {ds : List Node} (done : ds.foldlM (declarator excluded bodyNames) s = .ok s')
    (sound : Sound excluded s.promotion) :
    Sound excluded s'.promotion ∧ s.promotion.slots <+: s'.promotion.slots :=
  foldlM_sound declarator_sound done sound

theorem statement_sound (done : statement excluded bodyNames s n = .ok s')
    (sound : Sound excluded s.promotion) :
    Sound excluded s'.promotion ∧ s.promotion.slots <+: s'.promotion.slots := by
  unfold statement at done
  split at done
  · exact declarators_sound done sound
  · cases done
    exact ⟨sound, List.prefix_refl _⟩

theorem statements_sound {ns : List Node} (done : ns.foldlM (statement excluded bodyNames) s = .ok s')
    (sound : Sound excluded s.promotion) :
    Sound excluded s'.promotion ∧ s.promotion.slots <+: s'.promotion.slots :=
  foldlM_sound statement_sound done sound

theorem declarators_names {ds : List Node}
    (done : ds.foldlM (declarator excluded bodyNames) s = .ok s') :
    ∀ x ∈ s'.promotion.names,
      x ∈ s.promotion.names ∨ ∃ d ∈ ds, (d.part 0).binding? = some x := by
  induction ds generalizing s with
  | nil =>
    cases done
    exact fun x known => .inl known
  | cons d rest ih =>
    obtain ⟨next, first, later⟩ := foldlM_cons_ok done
    intro x member
    rcases ih later x member with known | ⟨d', inRest, named⟩
    · cases declarator_step first with
      | pattern => exact .inl known
      | excluded => exact .inl known
      | again => exact .inl known
      | fresh y named =>
        simp only [addSlot_eq, Promotion.names, List.map_append, List.mem_append, List.map_cons,
          List.map_nil, List.mem_singleton] at known
        rcases known with known | rfl
        · exact .inl known
        · exact .inr ⟨d, by simp, named⟩
    · exact .inr ⟨d', by simp [inRest], named⟩

theorem statements_names {ns : List Node}
    (done : ns.foldlM (statement excluded bodyNames) s = .ok s') :
    ∀ x ∈ s'.promotion.names, x ∈ s.promotion.names ∨
      ∃ n ∈ ns, ∃ d ∈ n.parts, (d.part 0).binding? = some x := by
  induction ns generalizing s with
  | nil =>
    cases done
    exact fun x known => .inl known
  | cons n rest ih =>
    obtain ⟨next, first, later⟩ := foldlM_cons_ok done
    intro x member
    rcases ih later x member with known | ⟨n', inRest, declared⟩
    · unfold statement at first
      split at first
      · rcases declarators_names first x known with known | declared
        · exact .inl known
        · exact .inr ⟨n, by simp, declared⟩
      · cases first
        exact .inl known
    · exact .inr ⟨n', by simp [inRest], declared⟩

theorem declarator_proto (done : declarator excluded bodyNames s d = .ok s')
    (before : "__proto__" ∉ s.promotion.names) : "__proto__" ∉ s'.promotion.names := by
  have named : (d.part 0).binding? ≠ some "__proto__" ∨ s'.promotion = s.promotion := by
    by_cases proto : (d.part 0).binding? = some "__proto__"
    · unfold declarator at done
      simp only [proto, beq_self_eq_true, if_true] at done
      split at done
      · cases done
        exact .inr rfl
      · cases done
    · exact .inl proto
  cases declarator_step done with
  | pattern => exact before
  | excluded => exact before
  | again => exact before
  | fresh x binds _ _ =>
    rcases named with other | same
    · simp only [addSlot_eq, Promotion.names, List.map_append, List.mem_append, List.map_cons,
        List.map_nil, List.mem_singleton, not_or] at before ⊢
      exact ⟨before, fun same => other (same ▸ binds)⟩
    · rw [same]
      exact before

theorem statement_proto (done : statement excluded bodyNames s n = .ok s')
    (before : "__proto__" ∉ s.promotion.names) : "__proto__" ∉ s'.promotion.names := by
  unfold statement at done
  split at done
  · exact foldlM_keeps (P := fun t => "__proto__" ∉ t.promotion.names)
      (fun _ _ _ => declarator_proto) done before
  · cases done
    exact before

end PromotionScan

namespace Promotion

def bodyNames (excluded : List String) (statements : List Node) : List String :=
  declaredNames statements ++ excluded ++ lifecycleNames

theorem scan_ok {excluded : List String} {statements : List Node} {p : Promotion}
    (scanned : scan excluded statements = .ok p) :
    ∃ s, statements.foldlM (PromotionScan.statement excluded (bodyNames excluded statements))
      ⟨none, true⟩ = .ok s ∧ s.promotion = p := by
  change (statements.foldlM (PromotionScan.statement excluded (bodyNames excluded statements))
    ⟨none, true⟩).map (·.promotion) = .ok p at scanned
  cases result : statements.foldlM
      (PromotionScan.statement excluded (bodyNames excluded statements)) ⟨none, true⟩ with
  | error problem =>
    rw [result] at scanned
    cases scanned
  | ok s =>
    rw [result] at scanned
    cases scanned
    exact ⟨s, rfl, rfl⟩

theorem sound_of_scan {excluded : List String} {statements : List Node} {p : Promotion}
    (scanned : scan excluded statements = .ok p) : p.Sound excluded := by
  obtain ⟨s, done, rfl⟩ := scan_ok scanned
  exact (PromotionScan.statements_sound done (sound_none excluded)).1

theorem proto_of_scan {excluded : List String} {statements : List Node} {p : Promotion}
    (scanned : scan excluded statements = .ok p) : "__proto__" ∉ p.names := by
  obtain ⟨s, done, rfl⟩ := scan_ok scanned
  exact PromotionScan.foldlM_keeps (P := fun t => "__proto__" ∉ t.promotion.names)
    (fun _ _ _ => PromotionScan.statement_proto) done (by simp [names, none])

theorem names_of_scan {excluded : List String} {statements : List Node} {p : Promotion}
    (scanned : scan excluded statements = .ok p) :
    ∀ x ∈ p.names, ∃ n ∈ statements, ∃ d ∈ n.parts, (d.part 0).binding? = some x := by
  obtain ⟨s, done, rfl⟩ := scan_ok scanned
  intro x member
  exact (PromotionScan.statements_names done x member).resolve_left (by simp [names, none])

end Promotion

end Rsx
