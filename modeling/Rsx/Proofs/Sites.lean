import Rsx.Proofs.Places

set_option autoImplicit false

namespace Rsx

-- A search goes on behind what answers it, or stops there.
inductive Search where
  | any
  | first

namespace Search

variable {α : Type} {answers : α → Prop} {xs : List α} {x : α} {i : Nat} {s : Search}

structure Meets (s : Search) (answers : α → Prop) (xs : List α) (i : Nat) (x : α) : Prop where
  entry : xs[i]? = some x
  unanswered : s = .first → ∀ j < i, ∀ y, xs[j]? = some y → ¬ answers y

theorem Meets.any (met : s.Meets answers xs i x) : Search.any.Meets answers xs i x :=
  ⟨met.entry, fun same => by cases same⟩

theorem find?_zipIdx_eq_some_iff {p : α → Bool} (decides : ∀ x, p x = true ↔ answers x) :
    (xs.zipIdx.find? fun (x, _) => p x) = some (x, i) ↔
      answers x ∧ Search.first.Meets answers xs i x := by
  rw [List.find?_eq_some_iff_getElem, decides]
  refine and_congr_right fun _ => ?_
  constructor
  · rintro ⟨k, inside, same, before⟩
    rw [List.getElem_zipIdx, Nat.zero_add] at same
    cases same
    rw [List.length_zipIdx] at inside
    refine ⟨List.getElem?_eq_getElem inside, fun _ j earlier y there answered => ?_⟩
    obtain ⟨short, rfl⟩ := List.getElem?_eq_some_iff.mp there
    have refused := before j earlier
    simp only [List.getElem_zipIdx, (decides _).mpr answered] at refused
    cases refused
  · rintro ⟨entry, before⟩
    obtain ⟨inside, rfl⟩ := List.getElem?_eq_some_iff.mp entry
    refine ⟨i, by rwa [List.length_zipIdx], by simp, fun j earlier => ?_⟩
    rw [List.getElem_zipIdx, Bool.not_eq_true', Bool.eq_false_iff]
    exact fun answered => before rfl j earlier _ (List.getElem?_eq_getElem _) ((decides _).mp answered)

end Search

namespace Node

inductive HoldsFunction : Node → Place → Prop where
  | function {f : Node} {info : FunctionInfo} (kind : f.kind = .function info) : HoldsFunction f []
  | arrow {f : Node} {info : ArrowInfo} (kind : f.kind = .arrow info) : HoldsFunction f []
  | paren {inner : Node} {place : Place} {span : Span} (inside : HoldsFunction inner place) :
      HoldsFunction (mk .paren span [inner]) (0 :: place)

theorem functionPlace?_eq_some_iff {n : Node} {place : Place} :
    n.functionPlace? = some place ↔ n.HoldsFunction place := by
  constructor
  · intro found
    induction n using Node.induction generalizing place with
    | node k s ps ih =>
      unfold functionPlace? at found
      split at found
      next same =>
        cases same
        cases found
        exact .function rfl
      next same =>
        cases same
        cases found
        exact .arrow rfl
      next inner same =>
        cases same
        obtain ⟨rest, inside, rfl⟩ := Option.map_eq_some_iff.mp found
        exact .paren (ih inner (by simp) inside)
      next => cases found
  · intro holds
    induction holds with
    | @function f info kind =>
      obtain ⟨k, s, ps⟩ := f
      cases kind
      rfl
    | @arrow f info kind =>
      obtain ⟨k, s, ps⟩ := f
      cases kind
      rfl
    | paren _ ih => rw [functionPlace?, ih, Option.map_some]

theorem HoldsFunction.not_name {n : Node} {place : Place} (holds : n.HoldsFunction place)
    (role : NameRole) (x : String) : n.unwrapped.kind ≠ .name role x := by
  induction holds with
  | function kind =>
    rw [unwrapped_of_kind (by simp [kind]), kind]
    simp
  | arrow kind =>
    rw [unwrapped_of_kind (by simp [kind]), kind]
    simp
  | paren _ ih => rwa [unwrapped]

end Node

namespace Site

-- A statement that the search for a name looks into: a function of that name, with a body or without
-- one, or variables with that name among them, whatever its value.
def Speaks (x : String) (statement : Node) : Prop :=
  (∃ info, statement.kind = .function info ∧ statement.declaredName? 0 = some x) ∨
    ∃ variableKind declare, statement.kind = .variableList variableKind declare ∧
      ∃ d ∈ statement.parts, declares x d = true

inductive Declared (s : Search) (x : String) : Node → Place → Prop where
  | function {statement : Node} {info : FunctionInfo} (kind : statement.kind = .function info)
      (named : statement.declaredName? 0 = some x) : Declared s x statement []
  | declarator {statement d : Node} {variableKind : VariableKind} {declare : Bool} {j : Nat}
      {place : Place} (kind : statement.kind = .variableList variableKind declare)
      (met : s.Meets (fun d => declares x d = true) statement.parts j d)
      (named : declares x d = true) (holds : (d.part 2).HoldsFunction place) :
      Declared s x statement (j :: 2 :: place)
  | exported {statement : Node} {typeOnly : Bool} {place : Place} (throughout : s = .any)
      (kind : statement.kind = .exportNamed typeOnly) (below : Declared s x (statement.part 0) place) :
      Declared s x statement (0 :: place)

inductive Exported (s : Search) (program : Node) : Place → Prop where
  | itself {i : Nat} {statement : Node} {place : Place}
      (met : s.Meets (fun n => n.kind = .exportDefault) program.statements i statement)
      (kind : statement.kind = .exportDefault) (holds : (statement.part 0).HoldsFunction place) :
      Exported s program (1 :: i :: 0 :: place)
  | named {i j : Nat} {statement declaration : Node} {x : String} {place : Place}
      (met : s.Meets (fun n => n.kind = .exportDefault) program.statements i statement)
      (kind : statement.kind = .exportDefault)
      (isName : (statement.part 0).unwrapped.kind = .name .value x)
      (reached : s.Meets (Speaks x) program.statements j declaration)
      (declared : Declared s x declaration place) : Exported s program (1 :: j :: place)

variable {s : Search} {x : String} {program : Node} {place : Place}

theorem Declared.any {statement : Node} (declared : Declared s x statement place) :
    Declared .any x statement place := by
  induction declared with
  | function kind named => exact .function kind named
  | declarator kind met named holds => exact .declarator kind met.any named holds
  | exported _ kind _ ih => exact .exported rfl kind ih

theorem Exported.any (exported : Exported s program place) : Exported .any program place := by
  cases exported with
  | itself met kind holds => exact .itself met.any kind holds
  | named met kind isName reached declared =>
    exact .named met.any kind isName reached.any declared.any

theorem ofDeclarators_eq (x : String) (ds : List (Node × Nat)) :
    ofDeclarators x ds = (ds.find? fun (d, _) => declares x d).map fun (d, j) =>
      (d.part 2).functionPlace?.map fun place => j :: 2 :: place := by
  induction ds with
  | nil => rfl
  | cons pair rest ih =>
    obtain ⟨d, j⟩ := pair
    by_cases named : declares x d = true
    · simp [ofDeclarators, named]
    · simp [ofDeclarators, named, ih]

theorem isSome_ofDeclarators {ds : List Node} :
    (ofDeclarators x ds.zipIdx).isSome = true ↔ ∃ d ∈ ds, declares x d = true := by
  rw [ofDeclarators_eq, Option.isSome_map, List.find?_isSome]
  constructor
  · rintro ⟨⟨d, j⟩, member, named⟩
    exact ⟨d, List.mem_of_getElem? (List.mem_zipIdx_iff_getElem?.mp member), named⟩
  · rintro ⟨d, member, named⟩
    obtain ⟨j, there⟩ := List.mem_iff_getElem?.mp member
    exact ⟨(d, j), List.mem_zipIdx_iff_getElem?.mpr there, named⟩

theorem ofDeclarators_eq_some_iff {ds : List Node} :
    ofDeclarators x ds.zipIdx = some (some place) ↔ ∃ j d inner, place = j :: 2 :: inner ∧
      Search.first.Meets (fun d => declares x d = true) ds j d ∧ declares x d = true ∧
      (d.part 2).HoldsFunction inner := by
  rw [ofDeclarators_eq, Option.map_eq_some_iff]
  constructor
  · rintro ⟨⟨d, j⟩, found, rest⟩
    obtain ⟨named, met⟩ := (Search.find?_zipIdx_eq_some_iff fun _ => Iff.rfl).mp found
    obtain ⟨inner, holds, rfl⟩ := Option.map_eq_some_iff.mp rest
    exact ⟨j, d, inner, rfl, met, named, Node.functionPlace?_eq_some_iff.mp holds⟩
  · rintro ⟨j, d, inner, rfl, met, named, holds⟩
    refine ⟨(d, j), (Search.find?_zipIdx_eq_some_iff fun _ => Iff.rfl).mpr ⟨named, met⟩, ?_⟩
    simp only [Node.functionPlace?_eq_some_iff.mpr holds, Option.map_some]

theorem isSome_ofStatement {statement : Node} :
    (ofStatement x statement).isSome = true ↔ Speaks x statement := by
  unfold ofStatement
  split
  next info kind => simp [Speaks, kind]
  next variableKind declare kind => simp [Speaks, kind, isSome_ofDeclarators]
  next noFunction noVariables =>
    refine ⟨fun absurd => (by cases absurd), ?_⟩
    rintro (⟨info, kind, _⟩ | ⟨variableKind, declare, kind, _⟩)
    · exact (noFunction info kind).elim
    · exact (noVariables variableKind declare kind).elim

theorem ofStatement_eq_some_iff {statement : Node} :
    ofStatement x statement = some (some place) ↔ Declared .first x statement place := by
  unfold ofStatement
  constructor
  · intro found
    split at found
    next info kind =>
      split at found
      next named =>
        cases found
        exact .function kind (by simpa using named)
      next => cases found
    next variableKind declare kind =>
      obtain ⟨j, d, inner, rfl, met, named, holds⟩ := ofDeclarators_eq_some_iff.mp found
      exact .declarator kind met named holds
    next => cases found
  · intro declared
    cases declared with
    | function kind named => simp [kind, named]
    | declarator kind met named holds =>
      simp only [kind]
      exact ofDeclarators_eq_some_iff.mpr ⟨_, _, _, rfl, met, named, holds⟩
    | exported throughout => cases throughout

theorem ofName_eq (x : String) (ns : List (Node × Nat)) :
    ofName x ns = (ns.find? fun (n, _) => (ofStatement x n).isSome).bind fun (n, i) =>
      (ofStatement x n).join.map fun place => 1 :: i :: place := by
  induction ns with
  | nil => rfl
  | cons pair rest ih =>
    obtain ⟨n, i⟩ := pair
    cases said : ofStatement x n with
    | none => simp [ofName, said, ih]
    | some inner => simp [ofName, said]

theorem ofName_eq_some_iff {ns : List Node} :
    ofName x ns.zipIdx = some place ↔ ∃ j declaration inner, place = 1 :: j :: inner ∧
      Search.first.Meets (Speaks x) ns j declaration ∧ Declared .first x declaration inner := by
  have decides : ∀ n, (ofStatement x n).isSome = true ↔ Speaks x n := fun _ => isSome_ofStatement
  rw [ofName_eq, Option.bind_eq_some_iff]
  constructor
  · rintro ⟨⟨declaration, j⟩, found, rest⟩
    have met := ((Search.find?_zipIdx_eq_some_iff decides).mp found).2
    obtain ⟨inner, said, rfl⟩ := Option.map_eq_some_iff.mp rest
    exact ⟨j, declaration, inner, rfl, met,
      ofStatement_eq_some_iff.mp (Option.join_eq_some_iff.mp said)⟩
  · rintro ⟨j, declaration, inner, rfl, met, declared⟩
    have said := ofStatement_eq_some_iff.mpr declared
    have speaks : Speaks x declaration := (decides declaration).mp (by rw [said]; rfl)
    refine ⟨(declaration, j), (Search.find?_zipIdx_eq_some_iff decides).mpr ⟨speaks, met⟩, ?_⟩
    simp only [said, Option.join_some, Option.map_some]

theorem isDefaultExport_iff (n : Node) : isDefaultExport n = true ↔ n.kind = .exportDefault := by
  unfold isDefaultExport
  split
  next kind => exact iff_of_true rfl kind
  next other => exact iff_of_false (by simp) other

theorem ofExport_eq_some_iff {exported : Node} {i : Nat} :
    ofExport program exported i = some place ↔
      (∃ inner, place = 1 :: i :: 0 :: inner ∧ exported.HoldsFunction inner) ∨
        ∃ x, exported.unwrapped.kind = .name .value x ∧
          ofName x program.statements.zipIdx = some place := by
  unfold ofExport
  cases found : exported.functionPlace? with
  | some inner =>
    have holds := Node.functionPlace?_eq_some_iff.mp found
    constructor
    · rintro same
      cases same
      exact .inl ⟨inner, rfl, holds⟩
    · rintro (⟨other, rfl, otherwise⟩ | ⟨x, isName, _⟩)
      · rw [← found, Node.functionPlace?_eq_some_iff.mpr otherwise]
      · exact (holds.not_name .value x isName).elim
  | none =>
    have noFunction : ∀ inner, ¬ exported.HoldsFunction inner := by
      intro inner holds
      cases found.symm.trans (Node.functionPlace?_eq_some_iff.mpr holds)
    simp only [noFunction, and_false, exists_false, false_or]
    split
    next x isName => simp [isName]
    next noName =>
      refine iff_of_false (by simp) ?_
      rintro ⟨x, isName, _⟩
      exact noName x isName

-- What is found is what the first default export stands for, where each name stands for the first thing
-- that is said of it.
theorem find?_eq_some_iff : find? program = some place ↔ Exported .first program place := by
  unfold find?
  constructor
  · intro found
    split at found
    next statement i here =>
      obtain ⟨kind, met⟩ := (Search.find?_zipIdx_eq_some_iff isDefaultExport_iff).mp here
      rcases ofExport_eq_some_iff.mp found with ⟨inner, rfl, holds⟩ | ⟨x, isName, named⟩
      · exact .itself met kind holds
      · obtain ⟨j, declaration, inner, rfl, reached, declared⟩ := ofName_eq_some_iff.mp named
        exact .named met kind isName reached declared
    next => cases found
  · intro exported
    cases exported with
    | itself met kind holds =>
      rw [(Search.find?_zipIdx_eq_some_iff isDefaultExport_iff).mpr ⟨kind, met⟩]
      exact ofExport_eq_some_iff.mpr (.inl ⟨_, rfl, holds⟩)
    | named met kind isName reached declared =>
      rw [(Search.find?_zipIdx_eq_some_iff isDefaultExport_iff).mpr ⟨kind, met⟩]
      have named := ofName_eq_some_iff.mpr ⟨_, _, _, rfl, reached, declared⟩
      exact ofExport_eq_some_iff.mpr (.inr ⟨_, isName, named⟩)

end Site

end Rsx
