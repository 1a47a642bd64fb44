import Rsx.Proofs.Replacing

set_option autoImplicit false

namespace Rsx

def Kind.isEnclosed : Kind → Bool
  | .function _ | .arrow _ | .classNode _ => true
  | _ => false

namespace Node

theorem ownPreorderList_eq (ps : List Node) : ownPreorderList ps = ps.flatMap ownPreorder :=
  eq_flatMap (by rw [ownPreorderList]) (fun _ _ => by rw [ownPreorderList]) ps

theorem ownPreorder_mk (k : Kind) (s : Span) (ps : List Node) :
    (mk k s ps).ownPreorder = if k.isEnclosed then [] else mk k s ps :: ps.flatMap ownPreorder := by
  cases k <;> simp [ownPreorder, Kind.isEnclosed, ownPreorderList_eq]

theorem ownPreorder_of_mem_parts {n p m : Node} (isOpen : n.kind.isEnclosed = false)
    (part : p ∈ n.parts) (below : m ∈ p.ownPreorder) : m ∈ n.ownPreorder := by
  obtain ⟨k, s, ps⟩ := n
  simp only [kind_mk] at isOpen
  rw [ownPreorder_mk, isOpen]
  exact List.mem_cons_of_mem _ (List.mem_flatMap.mpr ⟨p, part, below⟩)

def patternNames (parameters : Node) : List String :=
  match parameters.kind with
  | .parameters =>
    parameters.parts.flatMap fun p => if p.kind.isParameter then (p.part 1).boundNames else []
  | _ => []

theorem ownBinding_of_boundNames {n : Node} {y : String} (bound : y ∈ n.boundNames) :
    ∃ l ∈ n.ownPreorder, l.binding? = some y := by
  induction n using induction with
  | node k s ps ih =>
    rw [boundNames_mk, List.mem_append] at bound
    rcases bound with own | below
    · refine ⟨mk k s ps, ?_, ?_⟩ <;> unfold Kind.bindingName? at own <;> split at own <;>
        simp_all [ownPreorder_mk, Kind.isEnclosed, binding?]
    · obtain ⟨p, part, bound⟩ := List.mem_flatMap.mp below
      obtain ⟨l, inside, binds⟩ := ih p (k.patternParts_subset ps p part) bound
      refine ⟨l, ownPreorder_of_mem_parts ?_ (k.patternParts_subset ps p part) inside, binds⟩
      rw [kind_mk]
      unfold Kind.patternParts at part
      split at part <;> first | rfl | cases part

theorem parameterNames_of_patternNames {parameters : Node} {y : String}
    (bound : y ∈ parameters.patternNames) : y ∈ parameterNames parameters := by
  unfold patternNames at bound
  split at bound
  next kind =>
    obtain ⟨p, inList, bound⟩ := List.mem_flatMap.mp bound
    split at bound
    next isParameter =>
      have listOpen : parameters.kind.isEnclosed = false := by rw [kind]; rfl
      have parameterOpen : p.kind.isEnclosed = false := by
        unfold Kind.isParameter at isParameter
        split at isParameter <;> simp_all [Kind.isEnclosed]
      obtain ⟨l, inside, binds⟩ := ownBinding_of_boundNames bound
      have inParameter : l ∈ p.ownPreorder := by
        rcases p.part_mem_or 1 with part | missing
        · exact ownPreorder_of_mem_parts parameterOpen part inside
        · rw [missing] at bound
          cases bound
      exact List.mem_filterMap.mpr
        ⟨l, ownPreorder_of_mem_parts listOpen inList inParameter, binds⟩
    next => cases bound
  next => cases bound

-- What a statement declares by anything but a declaration of variables, a function or a class: an
-- enumeration, a namespace, an alias of an import, or a function behind a label.
def overlookedNames (n : Node) : List String :=
  match n.kind with
  | .variableList _ _ | .function _ | .classNode _ => []
  | _ => n.lexicalNames

theorem hoistedNames_eq (n : Node) : hoistedNames n = n.ownPreorder.flatMap varsHere := rfl

-- More nodes close a scope for `var` than are left out in the search for it.
theorem hoistedNames_of_varNames {n : Node} {y : String} (declared : y ∈ n.varNames) :
    y ∈ hoistedNames n := by
  induction n using induction with
  | node k s ps ih =>
    rw [varNames_mk] at declared
    split at declared
    · cases declared
    next closes =>
      have isOpen : k.isEnclosed = false := by
        cases k <;> simp_all [Kind.closesVars, Kind.isEnclosed]
      rw [hoistedNames_eq, ownPreorder_mk, isOpen]
      simp only [Bool.false_eq_true, if_false, List.flatMap_cons, List.flatMap_assoc,
        List.mem_append, List.mem_flatMap] at declared ⊢
      rcases declared with here | ⟨p, part, below⟩
      · exact .inl here
      · exact .inr ⟨p, part, List.mem_flatMap.mp (hoistedNames_eq p ▸ ih p part below)⟩

theorem declaredNames_of_lexicalNames {statements : List Node} {n : Node} {y : String}
    (member : n ∈ statements) (declared : y ∈ n.lexicalNames) :
    y ∈ declaredNames statements ∨ y ∈ n.overlookedNames := by
  have direct : y ∈ directNames n → y ∈ declaredNames statements := fun known =>
    List.mem_append_left _ (List.mem_flatMap.mpr ⟨n, member, known⟩)
  unfold overlookedNames
  split
  next kind declare declares =>
    refine .inl (direct ?_)
    cases kind <;> simp_all [lexicalNames, ownNames, directNames]
  next declares => exact .inl (direct (by simp_all [lexicalNames, ownNames, directNames]))
  next declares => exact .inl (direct (by simp_all [lexicalNames, ownNames, directNames]))
  next => exact .inr declared

theorem declaredNames_of_functionNames {statements : List Node} {y : String}
    (declared : y ∈ functionNames statements) :
    y ∈ declaredNames statements ∨ y ∈ statements.flatMap overlookedNames := by
  rcases List.mem_append.mp declared with lexical | hoisted
  · obtain ⟨n, member, declared⟩ := List.mem_flatMap.mp lexical
    exact (declaredNames_of_lexicalNames member declared).imp_right fun overlooked =>
      List.mem_flatMap.mpr ⟨n, member, overlooked⟩
  · obtain ⟨n, member, declared⟩ := List.mem_flatMap.mp hoisted
    exact .inl (List.mem_append_right _
      (List.mem_flatMap.mpr ⟨n, member, hoistedNames_of_varNames declared⟩))

theorem functionNames_of_overlookedNames {statements : List Node} {y : String}
    (overlooked : y ∈ statements.flatMap overlookedNames) : y ∈ functionNames statements := by
  obtain ⟨n, member, overlooked⟩ := List.mem_flatMap.mp overlooked
  refine List.mem_append_left _ (List.mem_flatMap.mpr ⟨n, member, ?_⟩)
  unfold overlookedNames at overlooked
  split at overlooked
  · cases overlooked
  · cases overlooked
  · cases overlooked
  · exact overlooked

end Node

namespace Substitution

variable (s : Substitution)

theorem Stable.own {α : Type} {g : Node → List α} (stable : s.Stable g []) :
    s.Stable (fun n => n.ownPreorder.flatMap g) [] := by
  have enclosed : ∀ {k n}, (k = Node.kind n ∨
      ∃ i, n.kind = .property i ∧ k = .property { i with shorthand := false }) →
      k.isEnclosed = n.kind.isEnclosed := by
    rintro k n (rfl | ⟨i, kind, rfl⟩)
    · rfl
    · rw [kind]
      rfl
  have equation : ∀ n : Node, n.ownPreorder.flatMap g =
      if n.kind.isEnclosed then [] else g n ++ n.parts.flatMap fun p => p.ownPreorder.flatMap g := by
    rintro ⟨k, span, ps⟩
    rw [Node.ownPreorder_mk, Node.kind_mk, Node.parts_mk]
    split
    · rfl
    · rw [List.flatMap_cons, List.flatMap_assoc]
  have plain : ∀ n, Plain n → n.ownPreorder.flatMap g = [] := by
    intro n holds
    induction n using Node.induction with
    | node k span ps ih =>
      rw [equation, stable.plain _ holds, Node.parts_mk,
        List.flatMap_eq_nil_iff.mpr fun p part => ih p part (holds.of_mem part)]
      simp
  have apply : ∀ shadowed n, (s.apply shadowed n).ownPreorder.flatMap g =
      n.ownPreorder.flatMap g := by
    intro shadowed n
    induction n using Node.induction generalizing shadowed with
    | node k span ps ih =>
      rcases s.plain_or_kept shadowed (.mk k span ps) with ⟨before, after⟩ | ⟨k', adjusted, result⟩
      · rw [plain _ before, plain _ after]
      · have here := stable.apply shadowed (.mk k span ps)
        rw [equation, equation (.mk k span ps), here, result, Node.kind_mk, enclosed adjusted,
          Node.parts_mk, List.flatMap_map, Node.parts_mk,
          List.flatMap_congr fun p part => ih p part _]
  refine ⟨apply, ?_, plain⟩
  intro shadowed n
  rw [equation, equation n, stable.inside, Node.kind_mk, Node.parts_mk, List.flatMap_map,
    List.flatMap_congr fun p _ => apply shadowed p]

theorem stable_parameterNames : s.Stable parameterNames [] := by
  have own := Stable.own s s.stable_binding.toList
  simp only [← List.filterMap_eq_flatMap_toList] at own
  exact own

theorem stable_directNames : s.Stable directNames [] := by
  refine .of_kind ?_ ?_ ?_
  · intro n plain
    unfold directNames
    split <;> simp_all [Kind.isPlain]
  · intro n i kind
    simp [directNames, kind]
  · intro shadowed n
    have listed := s.stable_variableNames.inside shadowed n
    have first := (s.stable_declaredName 0).toList.inside shadowed n
    have second := (s.stable_declaredName 1).toList.inside shadowed n
    unfold directNames
    simp only [Node.kind_mk]
    split
    · exact listed
    · exact first
    · exact second
    · rfl

theorem stable_hoistedNames : s.Stable hoistedNames [] := Stable.own s s.stable_varsHere

theorem stable_declaredNames : s.Stable (fun n => declaredNames n.statements) [] :=
  s.stable_directNames.statements.append s.stable_hoistedNames.statements

theorem stable_introduced : s.Stable Node.introduced [] := by
  refine .of_kind ?_ ?_ ?_
  · intro n plain
    unfold Node.introduced
    split <;> simp_all [Kind.isPlain]
  · intro n i kind
    simp [Node.introduced, kind]
  · intro shadowed n
    have own := (s.stable_declaredName 0).toList.inside shadowed n
    have below := (s.stable_directNames.parts.append s.stable_hoistedNames.parts).inside shadowed n
    unfold Node.introduced
    simp only [Node.kind_mk]
    split
    case h_1 =>
      rw [(s.stable_parameterNames.part 3).inside, (s.stable_declaredNames.part 5).inside]
      split
      · rw [own]
      · rfl
    case h_2 => rw [(s.stable_parameterNames.part 1).inside, (s.stable_declaredNames.part 3).inside]
    case h_3 => exact below
    case h_4 => exact (s.stable_declaredNames.parts.part 1).inside shadowed n
    case h_5 => exact ((s.stable_boundNames.part 0).part 0).inside shadowed n
    case h_6 => exact (s.stable_variableNames.part 0).inside shadowed n
    case h_7 => exact (s.stable_variableNames.part 0).inside shadowed n
    case h_8 => exact (s.stable_variableNames.part 0).inside shadowed n
    case h_9 => exact (s.stable_declaredName 1).toList.inside shadowed n
    case h_10 => rfl

end Substitution

end Rsx
