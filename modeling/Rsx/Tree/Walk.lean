import Rsx.Tree

set_option autoImplicit false

namespace Rsx

namespace Node

mutual

def preorder : Node → List Node
  | mk k s ps => mk k s ps :: preorderList ps

def preorderList : List Node → List Node
  | [] => []
  | n :: rest => n.preorder ++ preorderList rest

end

mutual

-- Nested functions and classes are left out, the node itself too if it is one.
def ownPreorder : Node → List Node
  | mk (.function _) _ _ => []
  | mk (.arrow _) _ _ => []
  | mk (.classNode _) _ _ => []
  | mk k s ps => mk k s ps :: ownPreorderList ps

def ownPreorderList : List Node → List Node
  | [] => []
  | n :: rest => n.ownPreorder ++ ownPreorderList rest

end

def reference? (n : Node) : Option String :=
  match n.kind with
  | .name .value x | .name .shorthandTarget x | .name .typeName x | .name .exported x
  | .name .tag x | .name .tagRoot x => some x
  | _ => none

def binding? (n : Node) : Option String :=
  match n.kind with
  | .name .binding x => some x
  | _ => none

def references (n : Node) : List String := n.preorder.filterMap reference?

def declaredName? (n : Node) (i : Nat) : Option String := (n.part i).binding?

def statements (n : Node) : List Node :=
  match n.kind with
  | .body | .program _ | .case => (n.part 1).parts
  | .block => n.parts
  | _ => []

def declarators (n : Node) : List Node :=
  match n.kind with
  | .variableList _ _ => n.parts
  | _ => []

-- Root first: `a.b[c].d` is `a`, `b`, `[]`, `d`. Parentheses and `!` do not count.
def path? : Node → Option (List String)
  | mk (.name .value x) _ _ => some [x]
  | mk (.member _) _ [object, mk (.name _ x) _ _] => object.path?.map (· ++ [x])
  | mk (.index _) _ [object, mk (.stringLit value _) _ _] =>
    object.path?.map (· ++ [CodePoints.toString value])
  | mk (.index _) _ [object, _] => object.path?.map (· ++ ["[]"])
  | mk .paren _ [inner] => inner.path?
  | mk .nonNull _ [inner] => inner.path?
  | _ => none

end Node

end Rsx
