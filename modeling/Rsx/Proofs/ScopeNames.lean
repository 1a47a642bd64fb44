import Rsx.Proofs.Declared

set_option autoImplicit false

namespace Rsx

theorem Kind.bindingName?_eq_some {k : Kind} {x : String} :
    k.bindingName? = some x ↔ k = .name .binding x := by
  unfold bindingName?
  split <;> simp_all

namespace Node

variable {n : Node} {statements : List Node} {x : String}

-- A pattern names a variable, itself or by a part that is a pattern. Keys and default values are
-- none.
inductive Names : Node → String → Prop where
  | self {n : Node} {x : String} (kind : n.kind = .name .binding x) : Names n x
  | part {n p : Node} {x : String} (pattern : p ∈ n.kind.patternParts n.parts) (names : Names p x) :
      Names n x

structure DeclaresBy (n : Node) (kind : VariableKind) (x : String) : Prop where
  isDeclaration : ∃ declare, n.kind = .variableList kind declare
  names : ∃ d ∈ n.parts, (d.part 0).Names x

-- A node that is `n` or stands below it, outside functions, arrows and classes.
inductive HasOwn : Node → Node → Prop where
  | self {n : Node} (isOpen : n.kind.isEnclosed = false) : HasOwn n n
  | part {n p m : Node} (isOpen : n.kind.isEnclosed = false) (part : p ∈ n.parts)
      (own : HasOwn p m) : HasOwn n m

def BindsOwn (parameters : Node) (x : String) : Prop :=
  ∃ m, parameters.HasOwn m ∧ m.kind = .name .binding x

inductive DeclaresDirectly (n : Node) (x : String) : Prop where
  | declaration {kind : VariableKind} (declares : n.DeclaresBy kind x)
  | function {info : FunctionInfo} (kind : n.kind = .function info)
      (name : (n.part 0).kind = .name .binding x)
  | className {info : ClassInfo} (kind : n.kind = .classNode info)
      (name : (n.part 1).kind = .name .binding x)

def Hoists (n : Node) (x : String) : Prop := ∃ m, n.HasOwn m ∧ m.DeclaresBy .varKind x

def ListDeclares (statements : List Node) (x : String) : Prop :=
  ∃ n ∈ statements, n.DeclaresDirectly x ∨ n.Hoists x

-- A node declares a name for what is inside it. The parameters of a function are its fourth part and
-- its body the last; those of an arrow the second and the last.
inductive Declares (n : Node) (x : String) : Prop where
  | parameter {info : FunctionInfo} (kind : n.kind = .function info) (binds : (n.part 3).BindsOwn x)
  | itself {info : FunctionInfo} (kind : n.kind = .function info) (form : info.form = .expression)
      (name : (n.part 0).kind = .name .binding x)
  | body {info : FunctionInfo} (kind : n.kind = .function info)
      (declares : ListDeclares (n.part 5).statements x)
  | arrowParameter {info : ArrowInfo} (kind : n.kind = .arrow info) (binds : (n.part 1).BindsOwn x)
  | arrowBody {info : ArrowInfo} (kind : n.kind = .arrow info)
      (declares : ListDeclares (n.part 3).statements x)
  | block (kind : n.kind = .block) (declares : ListDeclares n.parts x)
  | switch {c : Node} (kind : n.kind = .switch) (case : c ∈ (n.part 1).parts)
      (declares : ListDeclares c.statements x)
  | catchClause (kind : n.kind = .catchClause) (names : ((n.part 0).part 0).Names x)
  | head {kind : VariableKind}
      (loop : n.kind = .forLoop ∨ n.kind = .forIn ∨ ∃ await, n.kind = .forOf await)
      (declares : (n.part 0).DeclaresBy kind x)
  | className {info : ClassInfo} (kind : n.kind = .classNode info)
      (name : (n.part 1).kind = .name .binding x)

theorem mem_boundNames : x ∈ n.boundNames ↔ n.Names x := by
  constructor
  · intro bound
    induction n using induction with
    | node k s ps ih =>
      rw [boundNames_mk, List.mem_append, Option.mem_toList, List.mem_flatMap] at bound
      rcases bound with own | ⟨p, pattern, bound⟩
      · exact .self (Kind.bindingName?_eq_some.mp own)
      · exact .part pattern (ih p (k.patternParts_subset ps p pattern) bound)
  · intro names
    induction names with
    | @self n x kind =>
      rw [← eta n, boundNames_mk, Kind.bindingName?_eq_some.mpr kind]
      simp
    | @part n p x pattern _ ih =>
      rw [← eta n, boundNames_mk]
      exact List.mem_append_right _ (List.mem_flatMap.mpr ⟨p, pattern, ih⟩)

theorem mem_variableNames : x ∈ n.variableNames ↔ ∃ kind, n.DeclaresBy kind x := by
  unfold variableNames declarators
  split
  next kind declare declares =>
    simp only [List.mem_flatMap, mem_boundNames]
    constructor
    · exact fun names => ⟨kind, ⟨declare, declares⟩, names⟩
    · rintro ⟨_, declared⟩
      exact declared.names
  next other =>
    simp only [List.flatMap_nil, List.not_mem_nil, false_iff]
    rintro ⟨kind, ⟨declare, declares⟩, _⟩
    exact other kind declare declares

theorem mem_varsHere : x ∈ n.varsHere ↔ n.DeclaresBy .varKind x := by
  unfold varsHere
  split
  next declare declares =>
    rw [mem_variableNames]
    constructor
    · rintro ⟨_, declared⟩
      exact ⟨⟨declare, declares⟩, declared.names⟩
    · exact fun declared => ⟨.varKind, declared⟩
  next other =>
    simp only [List.not_mem_nil, false_iff]
    rintro ⟨⟨declare, declares⟩, _⟩
    exact other declare declares

theorem mem_ownPreorder {m : Node} : m ∈ n.ownPreorder ↔ n.HasOwn m := by
  constructor
  · intro below
    induction n using induction with
    | node k s ps ih =>
      rw [ownPreorder_mk] at below
      split at below
      next => cases below
      next isOpen =>
        have isOpen : (mk k s ps).kind.isEnclosed = false := by simpa using isOpen
        rcases List.mem_cons.mp below with rfl | inside
        · exact .self isOpen
        · obtain ⟨p, part, below⟩ := List.mem_flatMap.mp inside
          exact .part isOpen part (ih p part below)
  · intro own
    induction own with
    | @self n isOpen =>
      rw [← eta n, ownPreorder_mk, isOpen]
      simp
    | part isOpen part _ ih => exact ownPreorder_of_mem_parts isOpen part ih

theorem binding?_eq_some : n.binding? = some x ↔ n.kind = .name .binding x := by
  unfold binding?
  split <;> simp_all

theorem mem_parameterNames : x ∈ parameterNames n ↔ n.BindsOwn x := by
  simp only [parameterNames, List.mem_filterMap, mem_ownPreorder, binding?_eq_some, BindsOwn]

theorem mem_hoistedNames : x ∈ hoistedNames n ↔ n.Hoists x := by
  simp only [hoistedNames_eq, List.mem_flatMap, mem_ownPreorder, mem_varsHere, Hoists]

theorem mem_declaredName {i : Nat} :
    x ∈ (n.declaredName? i).toList ↔ (n.part i).kind = .name .binding x := by
  rw [Option.mem_toList, declaredName?, binding?_eq_some]

theorem mem_directNames : x ∈ directNames n ↔ n.DeclaresDirectly x := by
  constructor
  · intro declared
    unfold directNames at declared
    split at declared
    next =>
      obtain ⟨_, declares⟩ := mem_variableNames.mp declared
      exact .declaration declares
    next kind => exact .function kind (mem_declaredName.mp declared)
    next kind => exact .className kind (mem_declaredName.mp declared)
    next => cases declared
  · intro declared
    cases declared with
    | declaration declares =>
      obtain ⟨declare, isDeclaration⟩ := declares.isDeclaration
      simpa [directNames, isDeclaration] using mem_variableNames.mpr ⟨_, declares⟩
    | function kind name => simpa [directNames, kind] using mem_declaredName.mpr name
    | className kind name => simpa [directNames, kind] using mem_declaredName.mpr name

theorem mem_declaredNames : x ∈ declaredNames statements ↔ ListDeclares statements x := by
  simp only [declaredNames, List.mem_append, List.mem_flatMap, mem_directNames, mem_hoistedNames,
    ListDeclares]
  constructor
  · rintro (⟨n, member, direct⟩ | ⟨n, member, hoisted⟩)
    · exact ⟨n, member, .inl direct⟩
    · exact ⟨n, member, .inr hoisted⟩
  · rintro ⟨n, member, direct | hoisted⟩
    · exact .inl ⟨n, member, direct⟩
    · exact .inr ⟨n, member, hoisted⟩

theorem mem_introduced : x ∈ n.introduced ↔ n.Declares x := by
  constructor
  · intro introduced
    unfold Node.introduced at introduced
    split at introduced
    case h_1 info kind =>
      simp only [List.mem_append, mem_parameterNames, mem_declaredNames] at introduced
      rcases introduced with (own | binds) | declares
      · split at own
        next form => exact .itself kind form (mem_declaredName.mp own)
        next => cases own
      · exact .parameter kind binds
      · exact .body kind declares
    case h_2 info kind =>
      simp only [List.mem_append, mem_parameterNames, mem_declaredNames] at introduced
      exact introduced.elim (.arrowParameter kind) (.arrowBody kind)
    case h_3 kind => exact .block kind (mem_declaredNames.mp introduced)
    case h_4 kind =>
      obtain ⟨c, member, declared⟩ := List.mem_flatMap.mp introduced
      exact .switch kind member (mem_declaredNames.mp declared)
    case h_5 kind => exact .catchClause kind (mem_boundNames.mp introduced)
    case h_6 kind =>
      obtain ⟨_, declares⟩ := mem_variableNames.mp introduced
      exact .head (.inl kind) declares
    case h_7 kind =>
      obtain ⟨_, declares⟩ := mem_variableNames.mp introduced
      exact .head (.inr (.inl kind)) declares
    case h_8 await kind =>
      obtain ⟨_, declares⟩ := mem_variableNames.mp introduced
      exact .head (.inr (.inr ⟨await, kind⟩)) declares
    case h_9 kind => exact .className kind (mem_declaredName.mp introduced)
    case h_10 => cases introduced
  · intro declares
    cases declares with
    | parameter kind binds => simp [Node.introduced, kind, mem_parameterNames.mpr binds]
    | itself kind form name => simp [Node.introduced, kind, form, mem_declaredName.mpr name]
    | body kind declares => simp [Node.introduced, kind, mem_declaredNames.mpr declares]
    | arrowParameter kind binds => simp [Node.introduced, kind, mem_parameterNames.mpr binds]
    | arrowBody kind declares => simp [Node.introduced, kind, mem_declaredNames.mpr declares]
    | block kind declares => simp [Node.introduced, kind, mem_declaredNames.mpr declares]
    | switch kind member declares =>
      simp only [Node.introduced, kind, List.mem_flatMap]
      exact ⟨_, member, mem_declaredNames.mpr declares⟩
    | catchClause kind names => simp [Node.introduced, kind, mem_boundNames.mpr names]
    | head loop declares =>
      have named := mem_variableNames.mpr ⟨_, declares⟩
      rcases loop with kind | kind | ⟨await, kind⟩ <;> simp [Node.introduced, kind, named]
    | className kind name =>
      simp only [Node.introduced, kind]
      exact mem_declaredName.mpr name

end Node

end Rsx
