import Rsx.Proofs.Places

set_option autoImplicit false

namespace Rsx

namespace Kind

def closesVars : Kind → Bool
  | .function _ | .arrow _ | .classNode _ | .namespaceNode _ _ => true
  | _ => false

def isType : Kind → Bool
  | .typeClause | .keywordType _ | .thisType | .literalType | .typeReference | .qualifiedName
  | .arrayType | .tupleType | .namedTupleMember _ | .optionalType | .restType | .unionType
  | .intersectionType | .conditionalType | .inferType | .parenType | .markedType _ _
  | .functionType | .constructorType _ | .typeLiteral | .mappedType _ _ | .indexedAccess
  | .typeOperator _ | .typeQuery | .importType | .templateType | .predicate _
  | .propertySignature _ _ _ | .methodSignature _ _ _ | .callSignature | .constructSignature
  | .indexSignature _ _ | .indexParameter _ | .typeParameters | .typeParameter _ _ _
  | .typeArguments | .typeAlias _ | .interface _ | .interfaceBody | .heritage
  | .thisParameter => true
  | _ => false

def isParameter : Kind → Bool
  | .parameter _ | .restParameter => true
  | _ => false

def templateText? : Kind → Option String
  | .templateText raw => some raw
  | _ => none

end Kind

namespace Node

def ownNames (n : Node) : List String :=
  match n.kind with
  | .variableList .varKind _ => []
  | .variableList _ _ => n.variableNames
  | .function _ | .enum _ _ | .namespaceNode _ _ | .importEquals _ => (n.declaredName? 0).toList
  | .classNode _ => (n.declaredName? 1).toList
  | .importFrom _ _ => (n.part 0).parts.flatMap fun specifier => specifier.parts.filterMap binding?
  | _ => []

-- A label or an export declares what stands behind it.
def lexicalNames (n : Node) : List String :=
  match n.kind with
  | .labeled => (n.part 1).ownNames
  | .exportNamed _ | .exportDefault => (n.part 0).ownNames
  | _ => n.ownNames

def varsHere (n : Node) : List String :=
  match n.kind with
  | .variableList .varKind _ => n.variableNames
  | _ => []

mutual

def varNames : Node → List String
  | mk k s ps => if k.closesVars then [] else (mk k s ps).varsHere ++ varNamesList ps

def varNamesList : List Node → List String
  | [] => []
  | n :: rest => n.varNames ++ varNamesList rest

end

theorem varNamesList_eq (ps : List Node) : varNamesList ps = ps.flatMap varNames :=
  eq_flatMap (by rw [varNamesList]) (fun _ _ => by rw [varNamesList]) ps

theorem varNames_mk (k : Kind) (s : Span) (ps : List Node) :
    (mk k s ps).varNames =
      if k.closesVars then [] else (mk k s ps).varsHere ++ ps.flatMap varNames := by
  rw [varNames, varNamesList_eq]

def functionNames (statements : List Node) : List String :=
  statements.flatMap lexicalNames ++ statements.flatMap varNames

def parameterBound (parameters : Node) : List String :=
  parameters.parts.flatMap fun p => (p.part 1).boundNames

def keyName? (key : Node) : Option String :=
  match key.kind with
  | .name .property x => some x
  | .stringLit value _ => some (CodePoints.toString value)
  | .template => (key.part 0).kind.templateText?
  | _ => none

-- The members of an enumeration are names inside it.
def memberName? (member : Node) : Option String :=
  match member.kind with
  | .enumMember _ => (member.part 0).keyName?
  | _ => none

def headNames (n : Node) : List String :=
  match n.kind with
  | .variableList .varKind _ => []
  | .variableList _ _ => n.variableNames
  | _ => []

-- A function expression knows its own name.
def selfName (n : Node) (info : FunctionInfo) : List String :=
  match info.form with
  | .expression => (n.declaredName? 0).toList
  | _ => []

-- A decorator of a parameter belongs to the code around the function.
def isDecoratorWay (n : Node) : Place → Bool
  | 3 :: j :: 0 :: _ => ((n.part 3).part j).kind.isParameter
  | _ => false

def functionBinds (n : Node) (info : FunctionInfo) (way : Place) : List String :=
  if n.isDecoratorWay way then []
  else
    match way with
    | 0 :: _ => []
    | 3 :: _ => "arguments" :: n.selfName info ++ parameterBound (n.part 3)
    | 5 :: _ =>
      "arguments" :: n.selfName info ++ parameterBound (n.part 3)
        ++ functionNames (n.part 5).statements
    | _ => n.selfName info ++ parameterBound (n.part 3)

-- The names that hide outer ones of the same name on a way down from `n`.
def binds (n : Node) (way : Place) : List String :=
  match n.kind with
  | .function info => n.functionBinds info way
  | .arrow _ =>
    match way with
    | 3 :: _ => parameterBound (n.part 1) ++ functionNames (n.part 3).statements
    | _ => parameterBound (n.part 1)
  | .block => n.parts.flatMap lexicalNames
  | .switch =>
    match way with
    | 1 :: _ => (n.part 1).parts.flatMap fun c => c.statements.flatMap lexicalNames
    | _ => []
  | .catchClause => ((n.part 0).part 0).boundNames
  | .forLoop | .forIn | .forOf _ => (n.part 0).headNames
  | .classNode _ =>
    match way with
    | 0 :: _ => []
    | _ => (n.declaredName? 1).toList
  | .staticBlock => functionNames n.parts
  | .namespaceBlock => functionNames (n.part 1).parts
  | .enum _ _ =>
    match way with
    | 1 :: _ => (n.part 1).parts.filterMap memberName?
    | _ => []
  | .program _ => functionNames n.statements
  | .functionType | .callSignature => parameterBound (n.part 2)
  | .constructorType _ | .constructSignature => parameterBound (n.part 1)
  | .methodSignature _ _ _ =>
    match way with
    | 0 :: _ => []
    | _ => parameterBound (n.part 3)
  | _ => []

def boundOnWay (n : Node) : Place → List String
  | [] => []
  | i :: rest => (n.part i).boundOnWay rest ++ n.binds (i :: rest)

def isTypeWay (n : Node) : Place → Bool
  | [] => false
  | i :: rest => n.kind.isType || (n.part i).isTypeWay rest

-- The place is in what an interface extends, where names are those of types.
def isHeritageWay (n : Node) : Place → Bool
  | [] => false
  | i :: rest => n.kind == .heritage || (n.part i).isHeritageWay rest

structure Surroundings where
  bound : List String
  isType : Bool
  isHeritage : Bool

def surroundings (n : Node) (place : Place) : Surroundings :=
  ⟨n.boundOnWay place, n.isTypeWay place, n.isHeritageWay place⟩

def Somewhere (n : Node) (P : Node → Surroundings → Prop) : Prop :=
  ∃ place m, n.atPlace? place = some m ∧ P m (n.surroundings place)

theorem surroundings_cons {n p : Node} {i : Nat} {rest : Place} (free : ∀ way, n.binds way = [])
    (runs : n.kind.isType = false) (found : n.parts[i]? = some p) :
    n.surroundings (i :: rest) = p.surroundings rest := by
  have notHeritage : (n.kind == .heritage) = false := by
    refine beq_false_of_ne fun kind => ?_
    rw [kind] at runs
    cases runs
  simp [surroundings, boundOnWay, isTypeWay, isHeritageWay, free, runs, notHeritage,
    part_of_getElem? found]

theorem somewhere_iff_parts {n : Node} {P : Node → Surroundings → Prop}
    (free : ∀ way, n.binds way = []) (runs : n.kind.isType = false)
    (other : ¬ P n (n.surroundings [])) : n.Somewhere P ↔ ∃ p ∈ n.parts, p.Somewhere P := by
  constructor
  · rintro ⟨place, m, stands, holds⟩
    cases place with
    | nil =>
      cases stands
      exact (other holds).elim
    | cons i rest =>
      obtain ⟨p, found, below⟩ := atPlace?_cons_some.mp stands
      rw [surroundings_cons free runs found] at holds
      exact ⟨p, List.mem_of_getElem? found, rest, m, below, holds⟩
  · rintro ⟨p, part, rest, m, below, holds⟩
    obtain ⟨i, found⟩ := List.mem_iff_getElem?.mp part
    refine ⟨i :: rest, m, atPlace?_cons_some.mpr ⟨p, found, below⟩, ?_⟩
    rwa [surroundings_cons free runs found]

theorem somewhere_assigned {P : Node → Surroundings → Prop} {span : Span} {target value : Node}
    (other : ∀ n around, n.kind = .expression ∨ n.kind = .assign "=" ∨ n.kind = .target →
      ¬ P n around) :
    (mk .expression span [mk (.assign "=") span [generated .target [target], value]]).Somewhere P ↔
      target.Somewhere P ∨ value.Somewhere P := by
  have wrapped : (generated .target [target]).Somewhere P ↔ target.Somewhere P := by
    rw [somewhere_iff_parts (fun _ => rfl) rfl (other _ _ (by simp [generated]))]
    simp [generated]
  have inner : (mk (.assign "=") span [generated .target [target], value]).Somewhere P ↔
      target.Somewhere P ∨ value.Somewhere P := by
    rw [somewhere_iff_parts (fun _ => rfl) rfl (other _ _ (by simp))]
    simp [wrapped]
  rw [somewhere_iff_parts (fun _ => rfl) rfl (other _ _ (by simp))]
  simpa using inner

def leafName? (n : Node) : Option String :=
  match n.kind, n.parts with
  | .name .value x, [] | .name .tag x, [] | .name .tagRoot x, [] => some x
  | _, _ => none

theorem leafName?_eq_some {n : Node} {x : String} :
    n.leafName? = some x ↔ n.parts = [] ∧
      (n.kind = .name .value x ∨ n.kind = .name .tag x ∨ n.kind = .name .tagRoot x) := by
  obtain ⟨k, span, ps⟩ := n
  constructor
  · intro leaf
    unfold leafName? at leaf
    split at leaf <;> simp_all
  · rintro ⟨leaf, value | tag | root⟩ <;> simp_all [leafName?]

def use? (n : Node) : Option String :=
  match n.kind, n.parts with
  | .targetShorthand, name :: _ => name.reference?
  | _, _ => n.leafName?

theorem use?_eq_some {n : Node} {x : String} :
    n.use? = some x ↔ n.leafName? = some x ∨
      n.kind = .targetShorthand ∧ ∃ name rest, n.parts = name :: rest ∧ name.reference? = some x := by
  obtain ⟨k, span, ps⟩ := n
  unfold use?
  split
  next name rest kind parts =>
    cases kind
    cases parts
    simp [leafName?]
  next other =>
    refine ⟨.inl, ?_⟩
    rintro (leaf | ⟨kind, name, rest, parts, _⟩)
    · exact leaf
    · exact (other name rest kind parts).elim

def UsesAt (n : Node) (x : String) (place : Place) : Prop :=
  ∃ m, n.atPlace? place = some m ∧ m.use? = some x

structure MeansOuter (n : Node) (x : String) (place : Place) : Prop where
  uses : n.UsesAt x place
  unbound : x ∉ n.boundOnWay place

end Node

end Rsx
