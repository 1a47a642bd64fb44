import Mathlib.Data.List.Basic
import Rsx.Proofs.Scoping

set_option autoImplicit false

namespace Rsx

namespace Kind

def bindingName? : Kind → Option String
  | .name .binding x => some x
  | _ => none

def isPlain : Kind → Bool
  | .absent | .member _ | .tagMember => true
  | .name .binding _ => false
  | .name _ _ => true
  | _ => false

def patternParts (k : Kind) (ps : List Node) : List Node :=
  match k with
  | .objectPattern | .arrayPattern => ps
  | .bindingProperty _ _ => if ps.length = 2 then ps.drop 1 else []
  | .defaultPattern => if ps.length = 2 then ps.take 1 else []
  | .restPattern => if ps.length = 1 then ps else []
  | _ => []

theorem patternParts_subset (k : Kind) (ps : List Node) : ∀ p ∈ k.patternParts ps, p ∈ ps := by
  intro p member
  unfold patternParts at member
  split at member
  · exact member
  · exact member
  · split at member
    · exact List.mem_of_mem_drop member
    · cases member
  · split at member
    · exact List.mem_of_mem_take member
    · cases member
  · split at member
    · exact member
    · cases member
  · cases member

theorem patternParts_map (k : Kind) (ps : List Node) (f : Node → Node) :
    k.patternParts (ps.map f) = (k.patternParts ps).map f := by
  unfold patternParts
  split <;> simp [apply_ite (List.map f), List.map_take]

end Kind

namespace Node

theorem boundNames_mk (k : Kind) (s : Span) (ps : List Node) :
    (mk k s ps).boundNames = k.bindingName?.toList ++ (k.patternParts ps).flatMap boundNames := by
  unfold boundNames
  split
  next same =>
    cases same
    simp [Kind.patternParts, Kind.bindingName?]
  next same =>
    cases same
    simp [Kind.patternParts, Kind.bindingName?, boundNamesList_eq]
  next same =>
    cases same
    simp [Kind.patternParts, Kind.bindingName?, boundNamesList_eq]
  next same =>
    cases same
    simp [Kind.patternParts, Kind.bindingName?]
  next same =>
    cases same
    simp [Kind.patternParts, Kind.bindingName?]
  next same =>
    cases same
    simp [Kind.patternParts, Kind.bindingName?]
  next noName noObject noArray noProperty noDefault noRest =>
    -- none of the shapes above: the kind is another one, or it has the wrong number of parts
    have unnamed : k.bindingName? = none := by
      unfold Kind.bindingName?
      split <;> simp_all
    have none : k.patternParts ps = [] := by
      unfold Kind.patternParts
      split
      · simp_all
      · simp_all
      · rcases ps with _ | ⟨key, _ | ⟨pattern, _ | ⟨_, _⟩⟩⟩
        next => simp
        next => simp
        next => exact (noProperty _ _ _ _ _ rfl).elim
        next => simp
      · rcases ps with _ | ⟨pattern, _ | ⟨value, _ | ⟨_, _⟩⟩⟩
        next => simp
        next => simp
        next => exact (noDefault _ _ _ rfl).elim
        next => simp
      · rcases ps with _ | ⟨pattern, _ | ⟨_, _⟩⟩
        next => simp
        next => exact (noRest _ _ rfl).elim
        next => simp
      · rfl
    simp [unnamed, none]

end Node

namespace Substitution

variable (s : Substitution)

theorem applyList_eq (shadowed : List String) (ps : List Node) :
    s.applyList shadowed ps = ps.map (s.apply shadowed) := by
  induction ps with
  | nil => simp [applyList]
  | cons p rest ih => simp [applyList, ih]

def insertedFor (n : Node) (x : String) : Node :=
  match n.kind with
  | .name .value _ => s.access.slot x
  | _ => tagMember (tagObject s.access) x

theorem replaced?_eq (shadowed : List String) (n : Node) :
    s.replaced? shadowed n.kind n.parts =
      (n.leafName?.filter (s.replaces shadowed)).map (s.insertedFor n) := by
  obtain ⟨k, span, ps⟩ := n
  cases found : (Node.mk k span ps).leafName? with
  | some x =>
    obtain ⟨rfl, rfl | rfl | rfl⟩ := Node.leafName?_eq_some.mp found <;>
      by_cases replaces : s.replaces shadowed x = true <;>
        simp [replaced?, replacement?, insertedFor, replaces, Option.filter]
  | none =>
    simp only [Node.kind_mk, Node.parts_mk, replaced?]
    split
    next y r named =>
      -- a leaf with a replacement is one of the names
      unfold replacement? at named
      split at named <;> simp [Node.leafName?] at found named
    next => rfl

@[simp] theorem apply_absent (shadowed : List String) : s.apply shadowed .absent = .absent := rfl

theorem adjusted_eq (k : Kind) (ps : List Node) :
    adjusted k ps = k ∨
      ∃ i, k = .property i ∧ adjusted k ps = .property { i with shorthand := false } := by
  unfold adjusted
  split
  next info _ _ =>
    split
    · exact .inr ⟨info, rfl, rfl⟩
    · exact .inl rfl
  next => exact .inl rfl

inductive Outcome (shadowed : List String) (n : Node) : Prop where
  | replaced (x : String) (name : n.leafName? = some x) (replaces : s.replaces shadowed x = true)
      (result : s.apply shadowed n = s.insertedFor n x)
  | kept (k : Kind) (adjusted : k = n.kind ∨
        ∃ i, n.kind = .property i ∧ k = .property { i with shorthand := false })
      (untouched : ∀ x, n.leafName? = some x → s.replaces shadowed x = false)
      (result : s.apply shadowed n =
        .mk k n.span (n.parts.map (s.apply (n.introduced ++ shadowed))))

theorem outcome (shadowed : List String) (n : Node) : s.Outcome shadowed n := by
  have equation := s.replaced?_eq shadowed n
  obtain ⟨k, span, ps⟩ := n
  cases found : s.replaced? shadowed k ps with
  | some r =>
    rw [Node.kind_mk, Node.parts_mk, found] at equation
    obtain ⟨x, kept, same⟩ := Option.map_eq_some_iff.mp equation.symm
    obtain ⟨name, replaces⟩ := Option.filter_eq_some_iff.mp kept
    refine .replaced x name replaces ?_
    rw [same]
    simp [apply, found]
  | none =>
    rw [Node.kind_mk, Node.parts_mk, found] at equation
    have result : s.apply shadowed (.mk k span ps) =
        .mk (adjusted k (ps.map (s.apply ((Node.mk k span ps).introduced ++ shadowed)))) span
          (ps.map (s.apply ((Node.mk k span ps).introduced ++ shadowed))) := by
      simp [apply, found, applyList_eq]
    refine .kept _ (adjusted_eq k _) ?_ result
    intro x name
    simpa [name, Option.filter_eq_none_iff] using equation.symm

theorem apply_of_leafName {shadowed : List String} {n : Node} {x : String}
    (name : n.leafName? = some x) (replaces : s.replaces shadowed x = true) :
    s.apply shadowed n = s.insertedFor n x := by
  cases s.outcome shadowed n with
  | replaced y same _ result =>
    cases name.symm.trans same
    exact result
  | kept _ _ untouched _ => simp [untouched x name] at replaces

theorem apply_of_unreplaced {shadowed : List String} {n : Node} {x : String}
    (name : n.leafName? = some x) (kept : s.replaces shadowed x = false) :
    s.apply shadowed n = n := by
  obtain ⟨leaf, kinds⟩ := Node.leafName?_eq_some.mp name
  cases s.outcome shadowed n with
  | replaced y same replaces _ =>
    cases name.symm.trans same
    simp [kept] at replaces
  | kept k adjusted _ result =>
    rcases adjusted with rfl | ⟨i, kind, _⟩
    · rw [result, leaf, List.map_nil, ← leaf, Node.eta]
    · simp [kind] at kinds

theorem part_map (k : Kind) (span : Span) (n : Node) (shadowed : List String) (i : Nat) :
    (Node.mk k span (n.parts.map (s.apply shadowed))).part i = s.apply shadowed (n.part i) := by
  simp only [Node.part_eq, Node.parts_mk, List.getElem?_map]
  cases n.parts[i]? <;> rfl

-- Code that declares nothing, to any depth, as what is put in the place of a name.
def Plain (n : Node) : Prop := ∀ m ∈ n.preorder, m.kind.isPlain = true

theorem Plain.kind {n : Node} (plain : Plain n) : n.kind.isPlain = true :=
  plain n n.self_mem_preorder

theorem Plain.of_mem {n p : Node} (plain : Plain n) (part : p ∈ n.parts) : Plain p :=
  fun m below => plain m (Node.preorder_of_mem_parts part below)

theorem plain_of_leaf {n : Node} (kind : n.kind.isPlain = true) (leaf : n.parts = []) :
    Plain n := by
  obtain ⟨k, span, ps⟩ := n
  cases leaf
  simpa [Plain, Node.preorder_mk] using kind

theorem plain_absent : Plain .absent := plain_of_leaf rfl rfl

theorem Plain.part {n : Node} (plain : Plain n) (i : Nat) : Plain (n.part i) := by
  rcases n.part_mem_or i with part | missing
  · exact plain.of_mem part
  · exact missing ▸ plain_absent

theorem plain_of_leafName {n : Node} {x : String} (name : n.leafName? = some x) : Plain n := by
  obtain ⟨leaf, kind | kind | kind⟩ := Node.leafName?_eq_some.mp name <;>
    exact plain_of_leaf (by rw [kind]; rfl) leaf

theorem plain_insertedFor (n : Node) (x : String) : Plain (s.insertedFor n x) := by
  unfold insertedFor
  split <;> cases s.access <;>
    simp [Plain, RecordAccess.slot, RecordAccess.object, tagMember, tagObject, tagRoot,
      Node.memberOf, Node.value, Node.propertyName, Node.generated, Node.preorder_mk, Kind.isPlain]

theorem plain_or_kept (shadowed : List String) (n : Node) :
    Plain n ∧ Plain (s.apply shadowed n) ∨
      ∃ k, (k = n.kind ∨ ∃ i, n.kind = .property i ∧ k = .property { i with shorthand := false }) ∧
        s.apply shadowed n = .mk k n.span (n.parts.map (s.apply (n.introduced ++ shadowed))) := by
  cases s.outcome shadowed n with
  | replaced x name _ result => exact .inl ⟨plain_of_leafName name, result ▸ s.plain_insertedFor n x⟩
  | kept k adjusted _ result => exact .inr ⟨k, adjusted, result⟩

-- A property of nodes that replacing names inside them does not change.
structure Stable {α : Type} (g : Node → α) (nothing : α) : Prop where
  apply : ∀ shadowed n, g (s.apply shadowed n) = g n
  inside : ∀ shadowed n, g (.mk n.kind n.span (n.parts.map (s.apply shadowed))) = g n
  plain : ∀ n, Plain n → g n = nothing

namespace Stable

variable {s} {α : Type} {nothing : α}

theorem of_kind {g : Node → α} (plain : ∀ n, n.kind.isPlain = true → g n = nothing)
    (property : ∀ n i, n.kind = .property i → g n = nothing)
    (inside : ∀ shadowed n, g (.mk n.kind n.span (n.parts.map (s.apply shadowed))) = g n) :
    s.Stable g nothing where
  apply shadowed n := by
    rcases s.plain_or_kept shadowed n with ⟨before, after⟩ | ⟨k, same | ⟨i, kind, rfl⟩, result⟩
    · rw [plain _ before.kind, plain _ after.kind]
    · rw [result, same]
      exact inside _ n
    · rw [result, property n i kind, property _ _ rfl]
  inside := inside
  plain n holds := plain n holds.kind

theorem part {g : Node → α} (stable : s.Stable g nothing) (i : Nat) :
    s.Stable (fun n => g (n.part i)) nothing where
  apply shadowed n := by
    rcases s.plain_or_kept shadowed n with ⟨before, after⟩ | ⟨k, _, result⟩
    · rw [stable.plain _ (before.part i), stable.plain _ (after.part i)]
    · rw [result, part_map]
      exact stable.apply _ _
  inside shadowed n := by
    rw [part_map]
    exact stable.apply _ _
  plain n holds := stable.plain _ (holds.part i)

theorem toList {g : Node → Option α} (stable : s.Stable g none) :
    s.Stable (fun n => (g n).toList) [] where
  apply shadowed n := congrArg Option.toList (stable.apply shadowed n)
  inside shadowed n := congrArg Option.toList (stable.inside shadowed n)
  plain n holds := congrArg Option.toList (stable.plain n holds)

theorem or {g h : Node → Bool} (first : s.Stable g false) (second : s.Stable h false) :
    s.Stable (fun n => g n || h n) false where
  apply shadowed n := by rw [first.apply, second.apply]
  inside shadowed n := by rw [first.inside, second.inside]
  plain n holds := by rw [first.plain n holds, second.plain n holds, Bool.or_false]

variable {g h : Node → List α}

theorem append (first : s.Stable g []) (second : s.Stable h []) :
    s.Stable (fun n => g n ++ h n) [] where
  apply shadowed n := by rw [first.apply, second.apply]
  inside shadowed n := by rw [first.inside, second.inside]
  plain n holds := by rw [first.plain n holds, second.plain n holds, List.append_nil]

theorem parts (stable : s.Stable g []) : s.Stable (fun n => n.parts.flatMap g) [] where
  apply shadowed n := by
    rcases s.plain_or_kept shadowed n with ⟨before, after⟩ | ⟨k, _, result⟩
    · rw [List.flatMap_eq_nil_iff.mpr fun p part => stable.plain p (before.of_mem part),
        List.flatMap_eq_nil_iff.mpr fun p part => stable.plain p (after.of_mem part)]
    · rw [result, Node.parts_mk, List.flatMap_map]
      exact List.flatMap_congr fun p _ => stable.apply _ p
  inside shadowed n := by
    rw [Node.parts_mk, List.flatMap_map]
    exact List.flatMap_congr fun p _ => stable.apply _ p
  plain n holds := List.flatMap_eq_nil_iff.mpr fun p part => stable.plain p (holds.of_mem part)

theorem statements (stable : s.Stable g []) :
    s.Stable (fun n => n.statements.flatMap g) [] := by
  refine of_kind ?_ ?_ ?_
  · intro n plain
    unfold Node.statements
    split <;> simp_all [Kind.isPlain]
  · intro n i kind
    simp [Node.statements, kind]
  · intro shadowed n
    have direct := stable.parts.inside shadowed n
    have under := (stable.parts.part 1).inside shadowed n
    unfold Node.statements
    simp only [Node.kind_mk] at direct under ⊢
    split
    · exact under
    · exact under
    · exact under
    · exact direct
    · rfl

end Stable

theorem stable_binding : s.Stable Node.binding? none := by
  refine .of_kind ?_ ?_ ?_
  · intro n plain
    unfold Node.binding?
    split <;> simp_all [Kind.isPlain]
  · intro n i kind
    simp [Node.binding?, kind]
  · intro shadowed n
    simp [Node.binding?]

theorem boundNames_of_plain (n : Node) (plain : n.kind.isPlain = true) : n.boundNames = [] := by
  obtain ⟨k, span, ps⟩ := n
  rw [Node.boundNames_mk]
  have unnamed : k.bindingName? = none := by
    unfold Kind.bindingName?
    split <;> simp_all [Kind.isPlain]
  have none : k.patternParts ps = [] := by
    unfold Kind.patternParts
    split <;> simp_all [Kind.isPlain]
  simp [unnamed, none]

theorem stable_boundNames : s.Stable Node.boundNames [] := by
  have apply : ∀ shadowed n, (s.apply shadowed n).boundNames = n.boundNames := by
    intro shadowed n
    induction n using Node.induction generalizing shadowed with
    | node k span ps ih =>
      rcases s.plain_or_kept shadowed (.mk k span ps) with ⟨before, after⟩ |
        ⟨k', same | ⟨i, kind, rfl⟩, result⟩
      · rw [boundNames_of_plain _ before.kind, boundNames_of_plain _ after.kind]
      · rw [result, same, Node.boundNames_mk, Node.boundNames_mk, Node.kind_mk, Node.parts_mk,
          Kind.patternParts_map, List.flatMap_map]
        exact congrArg _ (List.flatMap_congr fun p member =>
          ih p (k.patternParts_subset ps p member) _)
      · cases kind
        simp [result, Node.boundNames_mk, Kind.bindingName?, Kind.patternParts]
  refine ⟨apply, ?_, fun n holds => boundNames_of_plain n holds.kind⟩
  intro shadowed n
  obtain ⟨k, span, ps⟩ := n
  rw [Node.boundNames_mk, Node.boundNames_mk, Node.kind_mk, Node.parts_mk, Kind.patternParts_map,
    List.flatMap_map]
  exact congrArg _ (List.flatMap_congr fun p _ => apply _ p)

theorem stable_variableNames : s.Stable Node.variableNames [] := by
  refine .of_kind ?_ ?_ ?_
  · intro n plain
    unfold Node.variableNames Node.declarators
    split <;> simp_all [Kind.isPlain]
  · intro n i kind
    simp [Node.variableNames, Node.declarators, kind]
  · intro shadowed n
    have patterns := (s.stable_boundNames.part 0).parts.inside shadowed n
    unfold Node.variableNames Node.declarators
    simp only [Node.kind_mk] at patterns ⊢
    split
    · exact patterns
    · rfl

theorem stable_declaredName (i : Nat) : s.Stable (fun n => n.declaredName? i) none :=
  s.stable_binding.part i

theorem stable_ownNames : s.Stable Node.ownNames [] := by
  refine .of_kind ?_ ?_ ?_
  · intro n plain
    unfold Node.ownNames
    split <;> simp_all [Kind.isPlain]
  · intro n i kind
    simp [Node.ownNames, kind]
  · intro shadowed n
    have listed := s.stable_variableNames.inside shadowed n
    have first := (s.stable_declaredName 0).toList.inside shadowed n
    have second := (s.stable_declaredName 1).toList.inside shadowed n
    have imported := (s.stable_binding.toList.parts.parts.part 0).inside shadowed n
    simp only [← List.filterMap_eq_flatMap_toList] at imported
    unfold Node.ownNames
    simp only [Node.kind_mk]
    split
    · rfl
    · exact listed
    · exact first
    · exact first
    · exact first
    · exact first
    · exact second
    · exact imported
    · rfl

theorem stable_lexicalNames : s.Stable Node.lexicalNames [] := by
  refine .of_kind ?_ ?_ ?_
  · intro n plain
    unfold Node.lexicalNames
    split
    · simp_all [Kind.isPlain]
    · simp_all [Kind.isPlain]
    · simp_all [Kind.isPlain]
    · unfold Node.ownNames
      split <;> simp_all [Kind.isPlain]
  · intro n i kind
    simp [Node.lexicalNames, Node.ownNames, kind]
  · intro shadowed n
    have first := (s.stable_ownNames.part 0).inside shadowed n
    have second := (s.stable_ownNames.part 1).inside shadowed n
    have own := s.stable_ownNames.inside shadowed n
    unfold Node.lexicalNames
    simp only [Node.kind_mk]
    split
    · exact second
    · exact first
    · exact first
    · exact own

theorem stable_varsHere : s.Stable Node.varsHere [] := by
  refine .of_kind ?_ ?_ ?_
  · intro n plain
    unfold Node.varsHere
    split <;> simp_all [Kind.isPlain]
  · intro n i kind
    simp [Node.varsHere, kind]
  · intro shadowed n
    have listed := s.stable_variableNames.inside shadowed n
    unfold Node.varsHere
    simp only [Node.kind_mk]
    split
    · exact listed
    · rfl

theorem stable_varNames : s.Stable Node.varNames [] := by
  have plain : ∀ n, Plain n → n.varNames = [] := by
    intro n holds
    induction n using Node.induction with
    | node k span ps ih =>
      rw [Node.varNames_mk, s.stable_varsHere.plain _ holds,
        List.flatMap_eq_nil_iff.mpr fun p part => ih p part (holds.of_mem part)]
      simp
  have apply : ∀ shadowed n, (s.apply shadowed n).varNames = n.varNames := by
    intro shadowed n
    induction n using Node.induction generalizing shadowed with
    | node k span ps ih =>
      rcases s.plain_or_kept shadowed (.mk k span ps) with ⟨before, after⟩ |
        ⟨k', adjusted, result⟩
      · rw [plain _ before, plain _ after]
      · have here := s.stable_varsHere.apply shadowed (.mk k span ps)
        have below : (ps.map (s.apply ((Node.mk k span ps).introduced ++ shadowed))).flatMap
            Node.varNames = ps.flatMap Node.varNames := by
          rw [List.flatMap_map]
          exact List.flatMap_congr fun p part => ih p part _
        have closes : k'.closesVars = k.closesVars := by
          rcases adjusted with rfl | ⟨i, kind, rfl⟩
          · rfl
          · cases kind
            rfl
        rw [result] at here ⊢
        rw [Node.varNames_mk, Node.varNames_mk, here, Node.parts_mk, below, closes]
  refine ⟨apply, ?_, plain⟩
  intro shadowed n
  have here := s.stable_varsHere.inside shadowed n
  obtain ⟨k, span, ps⟩ := n
  rw [Node.varNames_mk, Node.varNames_mk, here, Node.kind_mk, Node.parts_mk, List.flatMap_map,
    List.flatMap_congr fun p _ => apply shadowed p]

theorem stable_functionNames : s.Stable (fun n => Node.functionNames n.statements) [] :=
  s.stable_lexicalNames.statements.append s.stable_varNames.statements

theorem stable_parameterBound : s.Stable Node.parameterBound [] :=
  (s.stable_boundNames.part 1).parts

theorem stable_headNames : s.Stable Node.headNames [] := by
  refine .of_kind ?_ ?_ ?_
  · intro n plain
    unfold Node.headNames
    split <;> simp_all [Kind.isPlain]
  · intro n i kind
    simp [Node.headNames, kind]
  · intro shadowed n
    have listed := s.stable_variableNames.inside shadowed n
    unfold Node.headNames
    simp only [Node.kind_mk]
    split
    · rfl
    · exact listed
    · rfl

theorem stable_templateText : s.Stable (fun n => n.kind.templateText?) none := by
  refine .of_kind ?_ ?_ fun _ _ => rfl
  · intro n plain
    unfold Kind.templateText?
    split <;> simp_all [Kind.isPlain]
  · intro n i kind
    simp [Kind.templateText?, kind]

-- A key can be a plain name, and slots have such names inside, so this is no `Stable` property.
theorem keyName?_apply (shadowed : List String) (n : Node) :
    (s.apply shadowed n).keyName? = n.keyName? := by
  cases s.outcome shadowed n with
  | replaced x name _ result =>
    obtain ⟨_, kind | kind | kind⟩ := Node.leafName?_eq_some.mp name <;>
      simp [result, kind, insertedFor, Node.keyName?, RecordAccess.slot, Node.memberOf, tagMember,
        Node.generated]
  | kept k adjusted _ result =>
    rcases adjusted with rfl | ⟨i, kind, rfl⟩
    · simp only [result, Node.keyName?, Node.kind_mk, part_map, s.stable_templateText.apply]
    · simp [result, kind, Node.keyName?]

theorem stable_memberName : s.Stable Node.memberName? none := by
  refine .of_kind ?_ ?_ ?_
  · intro n plain
    unfold Node.memberName?
    split <;> simp_all [Kind.isPlain]
  · intro n i kind
    simp [Node.memberName?, kind]
  · intro shadowed n
    simp only [Node.memberName?, Node.kind_mk, part_map, keyName?_apply]

theorem stable_isParameter : s.Stable (fun n => n.kind.isParameter) false := by
  refine .of_kind ?_ ?_ ?_
  · intro n plain
    unfold Kind.isParameter
    split <;> simp_all [Kind.isPlain]
  · intro n i kind
    simp [Kind.isParameter, kind]
  · intro shadowed n
    rfl

theorem isDecoratorWay_inside (shadowed : List String) (n : Node) (way : Place) :
    (Node.mk n.kind n.span (n.parts.map (s.apply shadowed))).isDecoratorWay way =
      n.isDecoratorWay way := by
  unfold Node.isDecoratorWay
  split
  next j _ => exact ((s.stable_isParameter.part j).part 3).inside shadowed n
  next => rfl

theorem functionBinds_inside (shadowed : List String) (n : Node) (info : FunctionInfo)
    (way : Place) :
    (Node.mk n.kind n.span (n.parts.map (s.apply shadowed))).functionBinds info way =
      n.functionBinds info way := by
  have own : (Node.mk n.kind n.span (n.parts.map (s.apply shadowed))).selfName info =
      n.selfName info := by
    unfold Node.selfName
    split
    · exact (s.stable_declaredName 0).toList.inside shadowed n
    · rfl
  have bound := (s.stable_parameterBound.part 3).inside shadowed n
  have declared := (s.stable_functionNames.part 5).inside shadowed n
  unfold Node.functionBinds
  rw [isDecoratorWay_inside, own, bound, declared]

theorem stable_binds (way : Place) : s.Stable (fun n => n.binds way) [] := by
  refine .of_kind ?_ ?_ ?_
  · intro n plain
    unfold Node.binds
    split <;> simp_all [Kind.isPlain]
  · intro n i kind
    simp [Node.binds, kind]
  · intro shadowed n
    have below := s.stable_lexicalNames.parts.append s.stable_varNames.parts
    unfold Node.binds
    simp only [Node.kind_mk]
    split
    case h_1 => exact s.functionBinds_inside _ _ _ _
    case h_2 =>
      rw [(s.stable_parameterBound.part 1).inside, (s.stable_functionNames.part 3).inside]
    case h_3 => exact s.stable_lexicalNames.parts.inside _ _
    case h_4 =>
      rw [(s.stable_lexicalNames.statements.parts.part 1).inside]
    case h_5 => exact ((s.stable_boundNames.part 0).part 0).inside _ _
    case h_6 => exact (s.stable_headNames.part 0).inside _ _
    case h_7 => exact (s.stable_headNames.part 0).inside _ _
    case h_8 => exact (s.stable_headNames.part 0).inside _ _
    case h_9 => rw [(s.stable_declaredName 1).inside]
    case h_10 => exact below.inside _ _
    case h_11 => exact (below.part 1).inside _ _
    case h_12 =>
      have members := (s.stable_memberName.toList.parts.part 1).inside shadowed n
      simp only [← List.filterMap_eq_flatMap_toList] at members
      rw [members]
    case h_13 => exact s.stable_functionNames.inside _ _
    case h_14 => exact (s.stable_parameterBound.part 2).inside _ _
    case h_15 => exact (s.stable_parameterBound.part 2).inside _ _
    case h_16 => exact (s.stable_parameterBound.part 1).inside _ _
    case h_17 => exact (s.stable_parameterBound.part 1).inside _ _
    case h_18 => rw [(s.stable_parameterBound.part 3).inside]
    case h_19 => rfl

theorem stable_boundOnWay (place : Place) : s.Stable (fun n => n.boundOnWay place) [] := by
  induction place with
  | nil => exact ⟨fun _ _ => rfl, fun _ _ => rfl, fun _ _ => rfl⟩
  | cons i rest ih => exact (ih.part i).append (s.stable_binds (i :: rest))

theorem stable_ofKind (q : Kind → Bool) (plain : ∀ k : Kind, k.isPlain = true → q k = false)
    (property : ∀ i, q (.property i) = false) : s.Stable (fun n => q n.kind) false := by
  refine .of_kind (fun n holds => plain n.kind holds) (fun n i kind => ?_) fun _ _ => rfl
  rw [kind]
  exact property i

theorem stable_throughTypes (q : Kind → Bool) {through : Node → Place → Bool}
    (here : ∀ n, through n [] = false)
    (below : ∀ n i rest, through n (i :: rest) = (q n.kind || through (n.part i) rest))
    (types : ∀ k, q k = true → k.isType = true) (place : Place) :
    s.Stable (fun n => through n place) false := by
  have untyped : ∀ k : Kind, k.isType = false → q k = false := fun k runs =>
    Bool.eq_false_iff.mpr fun holds => by simp [types k holds] at runs
  have ofKind : s.Stable (fun n => q n.kind) false := by
    refine s.stable_ofKind q (fun k plain => untyped k ?_) fun i => untyped _ rfl
    unfold Kind.isPlain at plain
    split at plain <;> first | rfl | cases plain
  induction place with
  | nil => exact ⟨fun _ n => (here _).trans (here n).symm, fun _ _ => (here _).trans (here _).symm,
      fun n _ => here n⟩
  | cons i rest ih =>
    simp only [below]
    exact ofKind.or (ih.part i)

theorem stable_isTypeWay (place : Place) : s.Stable (fun n => n.isTypeWay place) false :=
  s.stable_throughTypes Kind.isType (fun _ => rfl) (fun _ _ _ => rfl) (fun _ isType => isType) place

theorem stable_isHeritageWay (place : Place) :
    s.Stable (fun n => n.isHeritageWay place) false := by
  refine s.stable_throughTypes (· == .heritage) (fun _ => rfl) (fun _ _ _ => rfl)
    (fun k heritage => ?_) place
  rw [eq_of_beq heritage]
  rfl

theorem stable_surroundings (place : Place) :
    s.Stable (fun n => n.surroundings place) ⟨[], false, false⟩ where
  apply shadowed n := by
    simp only [Node.surroundings, (s.stable_boundOnWay place).apply,
      (s.stable_isTypeWay place).apply, (s.stable_isHeritageWay place).apply]
  inside shadowed n := by
    simp only [Node.surroundings, (s.stable_boundOnWay place).inside,
      (s.stable_isTypeWay place).inside, (s.stable_isHeritageWay place).inside]
  plain n holds := by
    simp only [Node.surroundings, (s.stable_boundOnWay place).plain n holds,
      (s.stable_isTypeWay place).plain n holds, (s.stable_isHeritageWay place).plain n holds]

end Substitution

end Rsx
