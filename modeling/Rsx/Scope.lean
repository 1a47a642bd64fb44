import Rsx.Tree.Walk

set_option autoImplicit false

namespace Rsx

def lifecycleNames : List String := ["view", "update", "destroy", "render", "props"]

-- Names that belong to generated code start with this.
def reservedStart : String := "__rsx_"

def isReserved (name : String) : Bool := reservedStart.toList.isPrefixOf name.toList

namespace Node

mutual

-- Defaults and keys bind nothing.
def boundNames : Node → List String
  | mk (.name .binding x) _ _ => [x]
  | mk .objectPattern _ ps => boundNamesList ps
  | mk .arrayPattern _ ps => boundNamesList ps
  | mk (.bindingProperty _ _) _ [_, pattern] => pattern.boundNames
  | mk .defaultPattern _ [pattern, _] => pattern.boundNames
  | mk .restPattern _ [pattern] => pattern.boundNames
  | _ => []

def boundNamesList : List Node → List String
  | [] => []
  | n :: rest => n.boundNames ++ boundNamesList rest

end

def variableNames (n : Node) : List String := n.declarators.flatMap fun d => (d.part 0).boundNames

end Node

-- Every name bound in a parameter list, in its types too, outside functions and classes.
def parameterNames (parameters : Node) : List String :=
  parameters.ownPreorder.filterMap Node.binding?

def hoistedNames (statement : Node) : List String :=
  statement.ownPreorder.flatMap fun n =>
    match n.kind with
    | .variableList .varKind _ => n.variableNames
    | _ => []

def directNames (statement : Node) : List String :=
  match statement.kind with
  | .variableList _ _ => statement.variableNames
  | .function _ => (statement.declaredName? 0).toList
  | .classNode _ => (statement.declaredName? 1).toList
  | _ => []

def declaredNames (statements : List Node) : List String :=
  statements.flatMap directNames ++ statements.flatMap hoistedNames

namespace Node

def introduced (n : Node) : List String :=
  match n.kind with
  | .function info =>
    let own := match info.form with
      | .expression => (n.declaredName? 0).toList
      | _ => []
    own ++ parameterNames (n.part 3) ++ declaredNames (n.part 5).statements
  | .arrow _ => parameterNames (n.part 1) ++ declaredNames (n.part 3).statements
  | .block => declaredNames n.parts
  | .switch => (n.part 1).parts.flatMap fun c => declaredNames c.statements
  | .catchClause => ((n.part 0).part 0).boundNames
  | .forLoop => (n.part 0).variableNames
  | .forIn => (n.part 0).variableNames
  | .forOf _ => (n.part 0).variableNames
  | .classNode _ => (n.declaredName? 1).toList
  | _ => []

end Node

end Rsx
