import Mathlib.Data.List.Induction
import Rsx.HostImports

set_option autoImplicit false

namespace Rsx

-- The banned exports. The three known ones are banned always, the others by the options.
inductive Primitive.Bans (extra : List String) : String → Primitive → Prop where
  | state : Bans extra "useState" .state
  | callback : Bans extra "useCallback" .callback
  | memo : Bans extra "useMemo" .memo
  | other (name : String) (listed : name ∈ extra)
      (unknown : name ∉ ["useState", "useCallback", "useMemo"]) : Bans extra name (.other name)

namespace Primitive

variable {extra : List String} {name : String} {p : Primitive}

theorem ofExport?_eq_some : ofExport? extra name = some p ↔ Bans extra name p := by
  constructor
  · intro found
    unfold ofExport? at found
    split_ifs at found with state callback memo listed
    · cases found
      exact eq_of_beq state ▸ .state
    · cases found
      exact eq_of_beq callback ▸ .callback
    · cases found
      exact eq_of_beq memo ▸ .memo
    · cases found
      exact .other name (by simpa using listed) (by simp_all)
  · rintro (_ | _ | _ | ⟨name, listed, unknown⟩)
    · rfl
    · rfl
    · rfl
    · simp_all [ofExport?]

theorem Bans.exportName (banned : Bans extra name p) : p.exportName = name := by
  cases banned <;> rfl

end Primitive

namespace HostImports

variable {h : HostImports} {hostModule x : String} {extra : List String} {p : Primitive}
  {program s : Node} {ss : List Node}

def hostSpecifiers (program : Node) (hostModule : String) : List Node :=
  program.statements.flatMap (specifiersFrom hostModule)

-- `{ e as x }`, where `e` is banned.
structure GivesBanned (extra : List String) (x : String) (p : Primitive) (specifier : Node) : Prop where
  named : specifier.kind = .importNamed false
  bound : writtenName (specifier.part 1) = x
  banned : Primitive.Bans extra (writtenName (specifier.part 0)) p

-- The last specifier that gives `x` to a banned export gives it to `p`.
def LastGives (extra : List String) (x : String) (p : Primitive) (specifiers : List Node) : Prop :=
  ∃ before s after, specifiers = before ++ s :: after ∧ GivesBanned extra x p s ∧
    ∀ t ∈ after, ∀ q, ¬GivesBanned extra x q t

-- `x` or `* as x`.
structure NamesWhole (x : String) (specifier : Node) : Prop where
  whole : specifier.kind = .importDefault ∨ specifier.kind = .importNamespace
  bound : writtenName (specifier.part 0) = x

theorem not_lastGives_nil : ¬LastGives extra x p [] := by
  rintro ⟨before, s, after, empty, -⟩
  simp at empty

theorem lastGives_snoc : LastGives extra x p (ss ++ [s]) ↔
    GivesBanned extra x p s ∨ (∀ q, ¬GivesBanned extra x q s) ∧ LastGives extra x p ss := by
  constructor
  · rintro ⟨before, t, after, split, gives, last⟩
    cases after using List.reverseRecOn with
    | nil =>
      obtain ⟨rfl, same⟩ := List.append_inj' split rfl
      cases same
      exact .inl gives
    | append_singleton after u _ =>
      rw [← List.cons_append, ← List.append_assoc] at split
      obtain ⟨rfl, same⟩ := List.append_inj' split rfl
      cases same
      refine .inr ⟨last s (by simp), before, t, after, rfl, gives, fun v member => ?_⟩
      exact last v (by simp [member])
  · rintro (gives | ⟨none, before, t, after, rfl, gives, last⟩)
    · exact ⟨ss, s, [], rfl, gives, by simp⟩
    · refine ⟨before, t, after ++ [s], by simp, gives, fun v member => ?_⟩
      rcases List.mem_append.mp member with earlier | here
      · exact last v earlier
      · rw [List.mem_singleton.mp here]
        exact none

theorem exists_lastGives :
    (∃ p, LastGives extra x p ss) ↔ ∃ s ∈ ss, ∃ p, GivesBanned extra x p s := by
  induction ss using List.reverseRecOn with
  | nil => simp [not_lastGives_nil]
  | append_singleton ss s ih =>
    simp only [lastGives_snoc, List.mem_append, List.mem_singleton]
    by_cases here : ∃ q, GivesBanned extra x q s
    · obtain ⟨q, gives⟩ := here
      exact iff_of_true ⟨q, .inl gives⟩ ⟨s, .inr rfl, q, gives⟩
    · simp only [not_exists] at here
      constructor
      · rintro ⟨q, gives | ⟨-, earlier⟩⟩
        · exact absurd gives (here q)
        · obtain ⟨t, member, given⟩ := ih.mp ⟨q, earlier⟩
          exact ⟨t, .inl member, given⟩
      · rintro ⟨t, member | rfl, q, gives⟩
        · obtain ⟨q', earlier⟩ := ih.mpr ⟨t, member, q, gives⟩
          exact ⟨q', .inr ⟨here, earlier⟩⟩
        · exact absurd gives (here q)

@[simp] theorem extra_addSpecifier : (h.addSpecifier s).extra = h.extra := by
  unfold addSpecifier
  split
  · unfold addAlias
    split <;> rfl
  · rfl
  · rfl
  · rfl

theorem lookup?_addSpecifier : (h.addSpecifier s).lookup? x = some p ↔
    GivesBanned h.extra x p s ∨
      (∀ q, ¬GivesBanned h.extra x q s) ∧ h.lookup? x = some p := by
  have gives_iff (q : Primitive) : GivesBanned h.extra x q s ↔ s.kind = .importNamed false ∧
      writtenName (s.part 1) = x ∧
        Primitive.ofExport? h.extra (writtenName (s.part 0)) = some q := by
    rw [Primitive.ofExport?_eq_some]
    exact ⟨fun g => ⟨g.named, g.bound, g.banned⟩, fun ⟨named, bound, banned⟩ => ⟨named, bound, banned⟩⟩
  simp only [gives_iff]
  unfold addSpecifier
  split
  next kind =>
    unfold addAlias
    split
    next q found =>
      by_cases same : writtenName (s.part 1) = x
      · simp [lookup?, kind, found, same]
      · have other : (x == writtenName (s.part 1)) = false := by simpa using Ne.symm same
        simp [lookup?, List.lookup_cons, same, other]
    next missing => simp [missing]
  next kind => simp [lookup?, kind]
  next kind => simp [lookup?, kind]
  next named _ _ => simp_all

theorem mem_namespaces_addSpecifier :
    x ∈ (h.addSpecifier s).namespaces ↔ NamesWhole x s ∨ x ∈ h.namespaces := by
  have names_iff : NamesWhole x s ↔
      (s.kind = .importDefault ∨ s.kind = .importNamespace) ∧ writtenName (s.part 0) = x :=
    ⟨fun n => ⟨n.whole, n.bound⟩, fun ⟨whole, bound⟩ => ⟨whole, bound⟩⟩
  rw [names_iff]
  unfold addSpecifier
  split
  next kind =>
    unfold addAlias
    split <;> simp [kind]
  next kind => simp [kind, eq_comm]
  next kind => simp [kind, eq_comm]
  next => simp_all

@[simp] theorem extra_foldl : (ss.foldl addSpecifier h).extra = h.extra := by
  induction ss generalizing h with
  | nil => rfl
  | cons s rest ih => rw [List.foldl_cons, ih, extra_addSpecifier]

@[simp] theorem extra_ofProgram : (ofProgram program hostModule extra).extra = extra := extra_foldl

theorem lookup?_ofProgram : (ofProgram program hostModule extra).lookup? x = some p ↔
    LastGives extra x p (hostSpecifiers program hostModule) := by
  unfold ofProgram hostSpecifiers
  induction program.statements.flatMap (specifiersFrom hostModule) using List.reverseRecOn with
  | nil => simp [lookup?, not_lastGives_nil]
  | append_singleton ss s ih =>
    rw [List.foldl_append, List.foldl_cons, List.foldl_nil, lookup?_addSpecifier, extra_foldl,
      lastGives_snoc, ih]

theorem mem_namespaces_ofProgram : x ∈ (ofProgram program hostModule extra).namespaces ↔
    ∃ s ∈ hostSpecifiers program hostModule, NamesWhole x s := by
  unfold ofProgram hostSpecifiers
  induction program.statements.flatMap (specifiersFrom hostModule) using List.reverseRecOn with
  | nil => simp
  | append_singleton ss s ih =>
    rw [List.foldl_append, List.foldl_cons, List.foldl_nil, mem_namespaces_addSpecifier, ih]
    simp only [List.mem_append, List.mem_singleton]
    constructor
    · rintro (here | ⟨t, member, earlier⟩)
      · exact ⟨s, .inr rfl, here⟩
      · exact ⟨t, .inl member, earlier⟩
    · rintro ⟨t, member | rfl, whole⟩
      · exact .inr ⟨t, member, whole⟩
      · exact .inl whole

end HostImports

end Rsx
