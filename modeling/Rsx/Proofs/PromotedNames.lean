import Rsx.Proofs.Declared
import Rsx.Proofs.Steps

set_option autoImplicit false

namespace Rsx

def topDeclarators (statements : List Node) : List Node :=
  statements.flatMap fun n => if n.isPromotable then n.parts else []

def plainNames (ds : List Node) : List String := ds.filterMap (·.declaredName? 0)

def isFree (taken : List String) (x : String) : Bool :=
  !taken.contains x && !lifecycleNames.contains x

def promotableNames (taken : List String) (ds : List Node) : List String :=
  ((plainNames ds).filter (isFree taken)).eraseDups

section Names

variable {taken : List String} {ds : List Node} {d : Node} {x : String}

theorem isFree_iff : isFree taken x = true ↔ x ∉ taken ∧ x ∉ lifecycleNames := by
  simp [isFree]

theorem mem_plainNames : x ∈ plainNames ds ↔ ∃ d ∈ ds, d.declaredName? 0 = some x := by
  simp [plainNames]

theorem mem_promotableNames :
    x ∈ promotableNames taken ds ↔ x ∈ plainNames ds ∧ x ∉ taken ∧ x ∉ lifecycleNames := by
  rw [promotableNames, List.mem_eraseDups, List.mem_filter, isFree_iff]

theorem eraseDups_snoc (names : List String) (x : String) :
    (names ++ [x]).eraseDups = if x ∈ names then names.eraseDups else names.eraseDups ++ [x] := by
  have single : [x].eraseDups = [x] := rfl
  rw [List.eraseDups_append]
  by_cases known : x ∈ names <;> simp [List.removeAll, known, single]

theorem promotableNames_snoc (named : d.declaredName? 0 = some x) (free : isFree taken x = true) :
    promotableNames taken (ds ++ [d]) =
      if x ∈ promotableNames taken ds then promotableNames taken ds
      else promotableNames taken ds ++ [x] := by
  have one : (plainNames (ds ++ [d])).filter (isFree taken) =
      (plainNames ds).filter (isFree taken) ++ [x] := by
    simp [plainNames, named, free]
  simp only [promotableNames, one, eraseDups_snoc, List.mem_eraseDups]

theorem promotableNames_snoc_other
    (other : ∀ x, d.declaredName? 0 = some x → isFree taken x = false) :
    promotableNames taken (ds ++ [d]) = promotableNames taken ds := by
  have none : (plainNames (ds ++ [d])).filter (isFree taken) =
      (plainNames ds).filter (isFree taken) := by
    cases named : d.declaredName? 0 with
    | none => simp [plainNames, named]
    | some x => simp [plainNames, named, other x named]
  rw [promotableNames, none, promotableNames]

end Names

theorem topDeclarators_cons (n : Node) (rest : List Node) :
    topDeclarators (n :: rest) = (if n.isPromotable then n.parts else []) ++ topDeclarators rest :=
  rfl

-- How a slot was found among declarators: with the names of those before it known, by the first
-- declarator of its own name.
structure FoundSlot (taken bodyNames : List String) (ds : List Node) (slot : Slot)
    (before : List Node) (d : Node) (s : PromotionScan) : Prop where
  split : ∃ after, ds = before ++ d :: after
  named : d.declaredName? 0 = some slot.name
  names : s.promotion.names = promotableNames taken before
  fresh : slot.name ∉ promotableNames taken before
  seeding : slot.seeding = s.seedingFor bodyNames (d.part 2)

structure Scanned (taken bodyNames : List String) (ds : List Node) (s : PromotionScan) : Prop where
  names : s.promotion.names = promotableNames taken ds
  found : ∀ slot ∈ s.promotion.slots, ∃ before d t, FoundSlot taken bodyNames ds slot before d t

section Scan

variable {taken bodyNames : List String} {s s' : PromotionScan} {d n : Node} {ds ds' : List Node}

theorem FoundSlot.append {slot : Slot} {before : List Node} {t : PromotionScan}
    (found : FoundSlot taken bodyNames ds slot before d t) (more : List Node) :
    FoundSlot taken bodyNames (ds ++ more) slot before d t := by
  obtain ⟨⟨after, split⟩, named, names, fresh, seeding⟩ := found
  exact ⟨⟨after ++ more, by simp [split]⟩, named, names, fresh, seeding⟩

theorem Scanned.skip (scanned : Scanned taken bodyNames ds s)
    (same : promotableNames taken (ds ++ [d]) = promotableNames taken ds) (leading : Bool) :
    Scanned taken bodyNames (ds ++ [d]) { s with leading } := by
  refine ⟨scanned.names.trans same.symm, fun slot member => ?_⟩
  obtain ⟨before, d', t, found⟩ := scanned.found slot member
  exact ⟨before, d', t, found.append [d]⟩

namespace PromotionScan

theorem scanned_declarator (scanned : Scanned taken bodyNames ds s)
    (done : declarator taken bodyNames s d = .ok s') : Scanned taken bodyNames (ds ++ [d]) s' := by
  cases declarator_step done with
  | pattern unnamed =>
    refine scanned.skip (promotableNames_snoc_other fun x named => ?_) _
    cases unnamed.symm.trans named
  | excluded x named held =>
    refine scanned.skip (promotableNames_snoc_other fun y same => ?_) _
    cases named.symm.trans same
    exact Bool.eq_false_iff.mpr fun free => held.elim (isFree_iff.mp free).1 (isFree_iff.mp free).2
  | again x named known =>
    rw [scanned.names] at known
    refine scanned.skip ?_ _
    rw [promotableNames_snoc named (isFree_iff.mpr (mem_promotableNames.mp known).2), if_pos known]
  | fresh x named allowed unknown =>
    rw [scanned.names] at unknown
    rw [addSlot_eq]
    refine ⟨?_, fun slot member => ?_⟩
    · rw [promotableNames_snoc named (isFree_iff.mpr allowed), if_neg unknown, ← scanned.names]
      simp [Promotion.names]
    · rcases List.mem_append.mp member with known | new
      · obtain ⟨before, d', t, found⟩ := scanned.found slot known
        exact ⟨before, d', t, found.append [d]⟩
      · cases List.mem_singleton.mp new
        exact ⟨ds, d, s, ⟨[], rfl⟩, named, scanned.names, unknown, rfl⟩

theorem scanned_declarators (scanned : Scanned taken bodyNames ds s)
    (done : ds'.foldlM (declarator taken bodyNames) s = .ok s') :
    Scanned taken bodyNames (ds ++ ds') s' := by
  induction ds' generalizing ds s with
  | nil =>
    cases done
    simpa using scanned
  | cons d rest ih =>
    obtain ⟨next, first, later⟩ := foldlM_cons_ok done
    simpa using ih (scanned_declarator scanned first) later

theorem scanned_statements {ns : List Node} (scanned : Scanned taken bodyNames ds s)
    (done : ns.foldlM (statement taken bodyNames) s = .ok s') :
    Scanned taken bodyNames (ds ++ topDeclarators ns) s' := by
  induction ns generalizing ds s with
  | nil =>
    cases done
    simpa [topDeclarators] using scanned
  | cons n rest ih =>
    obtain ⟨next, first, later⟩ := foldlM_cons_ok done
    unfold statement at first
    rw [topDeclarators_cons, ← List.append_assoc]
    split at first
    next promotable =>
      rw [if_pos promotable]
      exact ih (scanned_declarators scanned first) later
    next other =>
      cases first
      rw [if_neg other, List.append_nil]
      have still : Scanned taken bodyNames ds { s with leading := s.leading && n.isInert } :=
        ⟨scanned.names, scanned.found⟩
      exact ih still later

end PromotionScan

end Scan

namespace Promotion

theorem scanned_of_scan {taken : List String} {statements : List Node} {p : Promotion}
    (scanned : scan taken statements = .ok p) :
    ∃ s, Scanned taken (bodyNames taken statements) (topDeclarators statements) s ∧
      s.promotion = p := by
  obtain ⟨s, done, same⟩ := scan_ok scanned
  have start : Scanned taken (bodyNames taken statements) [] ⟨none, true⟩ :=
    ⟨rfl, fun slot member => by simp [none] at member⟩
  exact ⟨s, PromotionScan.scanned_statements start done, same⟩

theorem names_eq_of_scan {taken : List String} {statements : List Node} {p : Promotion}
    (scanned : scan taken statements = .ok p) :
    p.names = promotableNames taken (topDeclarators statements) := by
  obtain ⟨s, known, rfl⟩ := scanned_of_scan scanned
  exact known.names

variable {p : Promotion} {seen : List String} {d n : Node}

theorem promotedName?_of_keep {ds : List Node} (member : .keep d ∈ p.fates seen ds) :
    p.promotedName? d = Option.none := by
  induction ds generalizing seen with
  | nil => cases member
  | cons first rest ih =>
    rw [fates, List.mem_cons] at member
    rcases member with here | later
    · cases name : p.promotedName? first with
      | none =>
        simp only [fate, name] at here
        cases here
        exact name
      | some x =>
        simp only [fate, name] at here
        generalize (if seen.contains x then Seeding.setup else p.seedingOf x) = seeding at here
        split at here
        · cases here
        · split at here <;> cases here
    · exact ih later

theorem declarators_regroup {kind : Kind} {kept : List Node} {fates : List Fate}
    (member : n ∈ regroup kind kept fates) :
    ∀ d ∈ n.declarators, d ∈ kept ∨ .keep d ∈ fates := by
  have declared : ∀ {ds : List Node}, n ∈ declaration kind ds → ∀ d ∈ n.declarators, d ∈ ds := by
    intro ds member d part
    unfold declaration at member
    split at member
    · cases member
    · cases List.mem_singleton.mp member
      unfold Node.declarators at part
      split at part
      · exact part
      · cases part
  induction fates generalizing kept with
  | nil => exact fun d part => .inl (declared member d part)
  | cons f rest ih =>
    intro d part
    cases f with
    | keep d' =>
      rw [regroup] at member
      rcases ih member d part with known | later
      · rcases List.mem_append.mp known with known | new
        · exact .inl known
        · cases List.mem_singleton.mp new
          exact .inr List.mem_cons_self
      · exact .inr (List.mem_cons_of_mem _ later)
    | assign x span value =>
      rw [regroup, List.mem_append, List.mem_cons] at member
      rcases member with ahead | rfl | later
      · exact .inl (declared ahead d part)
      · cases part
      · rcases ih later d part with known | later
        · cases known
        · exact .inr (List.mem_cons_of_mem _ later)
    | seed _ => exact (ih member d part).imp_right (List.mem_cons_of_mem _)
    | vanish => exact (ih member d part).imp_right (List.mem_cons_of_mem _)

theorem promotedName?_of_applyFrom {ns : List Node} (member : n ∈ (p.applyFrom seen ns).1)
    (promotable : n.isPromotable = true) : ∀ d ∈ n.declarators, p.promotedName? d = Option.none := by
  induction ns generalizing seen with
  | nil => cases member
  | cons first rest ih =>
    unfold applyFrom at member
    split at member
    next affected =>
      rcases List.mem_append.mp member with here | later
      · intro d part
        rcases declarators_regroup here d part with kept | keep
        · cases kept
        · exact promotedName?_of_keep keep
      · exact ih later
    next unaffected =>
      rcases List.mem_cons.mp member with rfl | later
      · intro d part
        refine unpromoted_of_unaffected promotable (by simpa using unaffected) d ?_
        unfold Node.declarators at part
        split at part
        · exact part
        · cases part
      · exact ih later

end Promotion

/-- The promoted names, each once and in the order of their first declarations. They are the names
that the patterns of the parameters leave free just when no declarator at the top has a name that
only the rest of the parameter list has. A declarator of a promoted name can only be left in a
declaration of a kind that is never promoted. -/
theorem promoted_names_exact {parameters : Node} {statements : List Node} {p : Promotion}
    (scanned : Promotion.scan (parameterNames parameters) statements = .ok p) :
    p.names.Nodup ∧
      p.names = promotableNames (parameterNames parameters) (topDeclarators statements) ∧
      (p.names = promotableNames parameters.patternNames (topDeclarators statements) ↔
        ∀ x ∈ plainNames (topDeclarators statements), x ∈ parameterNames parameters →
          x ∉ lifecycleNames → x ∈ parameters.patternNames) ∧
      ∀ n ∈ (p.apply (discardReturns statements).1).1, ∀ d ∈ n.declarators, ∀ x ∈ p.names,
        d.declaredName? 0 = some x → n.isPromotable = false := by
  have names := Promotion.names_eq_of_scan scanned
  refine ⟨(Promotion.sound_of_scan scanned).nodup, names, ⟨?_, ?_⟩, ?_⟩
  · intro same x declared inList other
    by_contra unbound
    have promoted : x ∈ p.names := same ▸ mem_promotableNames.mpr ⟨declared, unbound, other⟩
    rw [names] at promoted
    exact (mem_promotableNames.mp promoted).2.1 inList
  · intro bound
    rw [names, promotableNames, promotableNames]
    refine congrArg List.eraseDups (List.filter_congr fun x declared => ?_)
    rw [Bool.eq_iff_iff, isFree_iff, isFree_iff]
    refine and_congr_left fun other => not_congr ⟨fun inList => bound x declared inList other, ?_⟩
    exact Node.parameterNames_of_patternNames
  · intro n left d part x promoted named
    refine Bool.eq_false_iff.mpr fun promotable => ?_
    have none := Promotion.promotedName?_of_applyFrom left promotable d part
    exact Promotion.promotedName?_eq_none.mp none x named promoted

-- `(a: (fn) => void)`
def annotatedParameters : Node :=
  let type := Node.generated .functionType
    [.absent, .absent, .parametersOf [.parameterOf "fn"], .generated (.keywordType "void") []]
  .parametersOf [.generated (.parameter ⟨none, false, false, false⟩)
    [.group [], .boundName "a", .generated .typeClause [type], .absent]]

def functionVariable : Node :=
  .generated (.variableList .letKind false)
    [.generated (.declarator false) [.boundName "fn", .absent, .generated .nullLit []]]

theorem promoted_names_exact_annotated :
    Promotion.scan (parameterNames annotatedParameters) [functionVariable] = .ok .none ∧
      annotatedParameters.patternNames = ["a"] ∧
      plainNames (topDeclarators [functionVariable]) = ["fn"] ∧
      Promotion.none.names ≠
        promotableNames annotatedParameters.patternNames (topDeclarators [functionVariable]) := by
  have scanned : Promotion.scan (parameterNames annotatedParameters) [functionVariable] =
      .ok .none := by cbv
  have pattern : annotatedParameters.patternNames = ["a"] := by decide +kernel
  have declared : plainNames (topDeclarators [functionVariable]) = ["fn"] := by decide +kernel
  refine ⟨scanned, pattern, declared, fun same => ?_⟩
  obtain ⟨_, _, condition, _⟩ := promoted_names_exact scanned
  have bound := condition.mp same "fn" (by simp [declared]) (by decide +kernel) (by decide +kernel)
  simp [pattern] at bound

end Rsx
