import Rsx.Proofs.Erasing

set_option autoImplicit false

namespace Rsx

theorem isReserved_arguments : isReserved "arguments" = false := by decide +kernel

namespace Node

def HasBinding (n : Node) (y : String) : Prop := ∃ l ∈ n.preorder, l.binding? = some y

theorem HasBinding.of_mem {n p : Node} {y : String} (part : p ∈ n.parts) (has : p.HasBinding y) :
    n.HasBinding y := by
  obtain ⟨l, below, binds⟩ := has
  exact ⟨l, preorder_of_mem_parts part below, binds⟩

theorem HasBinding.of_part {n : Node} {i : Nat} {y : String} (has : (n.part i).HasBinding y) :
    n.HasBinding y := by
  rcases n.part_mem_or i with part | missing
  · exact has.of_mem part
  · obtain ⟨l, below, binds⟩ := has
    rw [missing, preorder_absent, List.mem_singleton] at below
    subst below
    cases binds

theorem HasBinding.of_statements {n m : Node} {y : String} (member : m ∈ n.statements)
    (has : m.HasBinding y) : n.HasBinding y := by
  unfold statements at member
  split at member
  · exact (has.of_mem member).of_part
  · exact (has.of_mem member).of_part
  · exact (has.of_mem member).of_part
  · exact has.of_mem member
  · cases member

theorem hasBinding_of_binding {n : Node} {y : String} (binds : n.binding? = some y) :
    n.HasBinding y := ⟨n, n.self_mem_preorder, binds⟩

theorem hasBinding_of_boundNames {n : Node} {y : String} (bound : y ∈ n.boundNames) :
    n.HasBinding y := by
  induction n using Node.induction with
  | node k s ps ih =>
    rw [boundNames_mk, List.mem_append, Option.mem_toList, List.mem_flatMap] at bound
    rcases bound with own | ⟨p, pattern, bound⟩
    · refine hasBinding_of_binding ?_
      unfold Kind.bindingName? at own
      split at own
      · exact own
      · cases own
    · have part := k.patternParts_subset ps p pattern
      exact (ih p part bound).of_mem (n := .mk k s ps) part

theorem hasBinding_of_declaredName {n : Node} {i : Nat} {y : String}
    (declared : y ∈ (n.declaredName? i).toList) : n.HasBinding y :=
  (hasBinding_of_binding (Option.mem_toList.mp declared)).of_part

theorem hasBinding_of_variableNames {n : Node} {y : String} (declared : y ∈ n.variableNames) :
    n.HasBinding y := by
  obtain ⟨d, member, bound⟩ := List.mem_flatMap.mp declared
  unfold declarators at member
  split at member
  · exact ((hasBinding_of_boundNames bound).of_part).of_mem member
  · cases member

theorem hasBinding_of_ownNames {n : Node} {y : String} (declared : y ∈ n.ownNames) :
    n.HasBinding y := by
  unfold ownNames at declared
  split at declared
  · cases declared
  · exact hasBinding_of_variableNames declared
  · exact hasBinding_of_declaredName declared
  · exact hasBinding_of_declaredName declared
  · exact hasBinding_of_declaredName declared
  · exact hasBinding_of_declaredName declared
  · exact hasBinding_of_declaredName declared
  · obtain ⟨specifier, member, named⟩ := List.mem_flatMap.mp declared
    obtain ⟨name, part, binds⟩ := List.mem_filterMap.mp named
    exact (((hasBinding_of_binding binds).of_mem part).of_mem member).of_part
  · cases declared

theorem hasBinding_of_lexicalNames {n : Node} {y : String} (declared : y ∈ n.lexicalNames) :
    n.HasBinding y := by
  unfold lexicalNames at declared
  split at declared
  · exact (hasBinding_of_ownNames declared).of_part
  · exact (hasBinding_of_ownNames declared).of_part
  · exact (hasBinding_of_ownNames declared).of_part
  · exact hasBinding_of_ownNames declared

theorem hasBinding_of_varNames {n : Node} {y : String} (declared : y ∈ n.varNames) :
    n.HasBinding y := by
  induction n using Node.induction with
  | node k s ps ih =>
    rw [varNames_mk] at declared
    split at declared
    · cases declared
    · rcases List.mem_append.mp declared with here | below
      · unfold varsHere at here
        split at here
        · exact hasBinding_of_variableNames here
        · cases here
      · obtain ⟨p, part, declared⟩ := List.mem_flatMap.mp below
        exact (ih p part declared).of_mem (n := .mk k s ps) part

theorem hasBinding_of_functionNames {ns : List Node} {y : String}
    (declared : y ∈ functionNames ns) : ∃ n ∈ ns, n.HasBinding y := by
  rcases List.mem_append.mp declared with lexical | hoisted
  · obtain ⟨n, member, declared⟩ := List.mem_flatMap.mp lexical
    exact ⟨n, member, hasBinding_of_lexicalNames declared⟩
  · obtain ⟨n, member, declared⟩ := List.mem_flatMap.mp hoisted
    exact ⟨n, member, hasBinding_of_varNames declared⟩

theorem hasBinding_of_parameterBound {n : Node} {y : String} (bound : y ∈ n.parameterBound) :
    n.HasBinding y := by
  obtain ⟨p, part, bound⟩ := List.mem_flatMap.mp bound
  exact ((hasBinding_of_boundNames bound).of_part).of_mem part

theorem hasBinding_of_headNames {n : Node} {y : String} (declared : y ∈ n.headNames) :
    n.HasBinding y := by
  unfold headNames at declared
  split at declared
  · cases declared
  · exact hasBinding_of_variableNames declared
  · cases declared

theorem hasBinding_of_selfName {n : Node} {info : FunctionInfo} {y : String}
    (own : y ∈ n.selfName info) : n.HasBinding y := by
  unfold selfName at own
  split at own
  · exact hasBinding_of_declaredName own
  · cases own

-- What a node binds on one way or another, members of enumerations apart.
def declaresBelow (n : Node) : List String :=
  match n.kind with
  | .function info =>
    "arguments" :: n.selfName info ++ parameterBound (n.part 3)
      ++ functionNames (n.part 5).statements
  | .arrow _ => parameterBound (n.part 1) ++ functionNames (n.part 3).statements
  | .block => n.parts.flatMap lexicalNames
  | .switch => (n.part 1).parts.flatMap fun c => c.statements.flatMap lexicalNames
  | .catchClause => ((n.part 0).part 0).boundNames
  | .forLoop | .forIn | .forOf _ => (n.part 0).headNames
  | .classNode _ => (n.declaredName? 1).toList
  | .staticBlock => functionNames n.parts
  | .namespaceBlock => functionNames (n.part 1).parts
  | .program _ => functionNames n.statements
  | .functionType | .callSignature => parameterBound (n.part 2)
  | .constructorType _ | .constructSignature => parameterBound (n.part 1)
  | .methodSignature _ _ _ => parameterBound (n.part 3)
  | _ => []

def memberNames (n : Node) (way : Place) : List String :=
  match n.kind, way with
  | .enum _ _, 1 :: _ => (n.part 1).parts.filterMap memberName?
  | _, _ => []

theorem binds_cases {n : Node} {way : Place} {y : String} (bound : y ∈ n.binds way) :
    y ∈ n.declaresBelow ∨ y ∈ n.memberNames way := by
  unfold binds at bound
  split at bound
  case h_1 info kind =>
    refine .inl ?_
    simp only [declaresBelow, kind]
    unfold functionBinds at bound
    split at bound
    · cases bound
    · split at bound
      · cases bound
      · exact List.mem_append_left _ bound
      · exact bound
      · exact List.mem_append_left _ (List.mem_cons_of_mem _ bound)
  case h_2 kind =>
    refine .inl ?_
    simp only [declaresBelow, kind]
    split at bound <;> simp_all
  case h_4 kind =>
    refine .inl ?_
    simp only [declaresBelow, kind]
    split at bound <;> simp_all
  case h_9 kind =>
    refine .inl ?_
    simp only [declaresBelow, kind]
    split at bound <;> simp_all
  case h_12 kind =>
    refine .inr ?_
    simp only [memberNames, kind]
    split at bound <;> simp_all
  case h_18 kind =>
    refine .inl ?_
    simp only [declaresBelow, kind]
    split at bound <;> simp_all
  all_goals first | cases bound | exact .inl (by simp_all [declaresBelow])

theorem hasBinding_of_declaresBelow {n : Node} {y : String} (declared : y ∈ n.declaresBelow) :
    y = "arguments" ∨ n.HasBinding y := by
  have ofStatements : ∀ {i : Nat}, y ∈ functionNames (n.part i).statements → n.HasBinding y := by
    intro i declared
    obtain ⟨m, member, has⟩ := hasBinding_of_functionNames declared
    exact (has.of_statements member).of_part
  have ofParameters : ∀ {i : Nat}, y ∈ parameterBound (n.part i) → n.HasBinding y := fun bound =>
    (hasBinding_of_parameterBound bound).of_part
  unfold declaresBelow at declared
  split at declared
  case h_1 =>
    simp only [List.cons_append, List.append_assoc, List.mem_cons, List.mem_append] at declared
    rcases declared with implicit | own | bound | declared
    · exact .inl implicit
    · exact .inr (hasBinding_of_selfName own)
    · exact .inr (ofParameters bound)
    · exact .inr (ofStatements declared)
  case h_2 =>
    rcases List.mem_append.mp declared with bound | declared
    · exact .inr (ofParameters bound)
    · exact .inr (ofStatements declared)
  case h_3 =>
    obtain ⟨m, part, declared⟩ := List.mem_flatMap.mp declared
    exact .inr ((hasBinding_of_lexicalNames declared).of_mem part)
  case h_4 =>
    obtain ⟨c, part, declared⟩ := List.mem_flatMap.mp declared
    obtain ⟨m, member, declared⟩ := List.mem_flatMap.mp declared
    exact .inr ((((hasBinding_of_lexicalNames declared).of_statements member).of_mem part).of_part)
  case h_5 => exact .inr (hasBinding_of_boundNames declared).of_part.of_part
  case h_6 => exact .inr (hasBinding_of_headNames declared).of_part
  case h_7 => exact .inr (hasBinding_of_headNames declared).of_part
  case h_8 => exact .inr (hasBinding_of_headNames declared).of_part
  case h_9 => exact .inr (hasBinding_of_declaredName declared)
  case h_10 =>
    obtain ⟨m, part, has⟩ := hasBinding_of_functionNames declared
    exact .inr (has.of_mem part)
  case h_11 =>
    obtain ⟨m, part, has⟩ := hasBinding_of_functionNames declared
    exact .inr (has.of_mem part).of_part
  case h_12 =>
    obtain ⟨m, member, has⟩ := hasBinding_of_functionNames declared
    exact .inr (has.of_statements member)
  case h_18 => cases declared
  all_goals exact .inr (ofParameters declared)

theorem Clean.hasBinding {n : Node} {y : String} (clean : n.Clean) (has : n.HasBinding y) :
    isReserved y = false := by
  obtain ⟨l, below, binds⟩ := has
  exact (clean.below below).binding binds

def memberNamesOnWay (n : Node) : Place → List String
  | [] => []
  | i :: rest => (n.part i).memberNamesOnWay rest ++ n.memberNames (i :: rest)

theorem memberNames_subset {n : Node} {way : Place} {y : String} (member : y ∈ n.memberNames way) :
    y ∈ n.binds way := by
  unfold memberNames at member
  split at member
  next kind => simpa [binds, kind] using member
  next => cases member

theorem Clean.reserved_binds {n : Node} {way : Place} {y : String} (clean : n.Clean)
    (reserved : isReserved y = true) : y ∈ n.binds way ↔ y ∈ n.memberNames way := by
  refine ⟨fun bound => (binds_cases bound).resolve_left fun declared => ?_, memberNames_subset⟩
  rcases hasBinding_of_declaresBelow declared with rfl | has
  · simp [isReserved_arguments] at reserved
  · simp [clean.hasBinding has] at reserved

-- Clean code can only hide a reserved name by a member of an enumeration.
theorem Clean.reserved_boundOnWay {n : Node} {place : Place} {y : String} (clean : n.Clean)
    (reserved : isReserved y = true) :
    y ∈ n.boundOnWay place ↔ y ∈ n.memberNamesOnWay place := by
  induction place generalizing n with
  | nil => rfl
  | cons i rest ih =>
    rw [boundOnWay, memberNamesOnWay, List.mem_append, List.mem_append,
      clean.reserved_binds reserved, ih (clean.part i)]

end Node

end Rsx
