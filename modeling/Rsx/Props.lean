import Rsx.Scope

set_option autoImplicit false

namespace Rsx

structure PropsBinding where
  direct : List String
  context : Option String
deriving DecidableEq

namespace PropsBinding

def addDirect (b : PropsBinding) (name : String) : PropsBinding :=
  if b.direct.contains name then b else { b with direct := b.direct ++ [name] }

def isPropsKey (p : Node) : Bool :=
  match p.kind, (p.part 0).kind with
  | .bindingProperty false _, .name _ key => key == "props"
  | _, _ => false

-- The local name of `{ props }`, `{ props: p }` or `{ props: p = d }`; the first such key counts.
def propsLocal? (objectPattern : Node) : Option String :=
  match objectPattern.parts.find? isPropsKey with
  | none => none
  | some p =>
    match (p.part 1).kind with
    | .defaultPattern => ((p.part 1).part 0).binding?
    | _ => (p.part 1).binding?

def bindKey (b : PropsBinding) (objectPattern : Node) : PropsBinding :=
  match propsLocal? objectPattern with
  | some name => b.addDirect name
  | none => b

def bindPattern (b : PropsBinding) : Node → PropsBinding
  | .mk (.name .binding x) _ _ => { b with context := some x }
  | .mk .objectPattern s ps => b.bindKey (.mk .objectPattern s ps)
  | .mk .defaultPattern _ [pattern, _] => b.bindPattern pattern
  | _ => b

-- The first parameter that is not a rest parameter receives the context.
def ofParameters (parameters : Node) : PropsBinding :=
  let none : PropsBinding := ⟨["props"], none⟩
  match parameters.parts with
  | .mk (.parameter _) _ [_, pattern, _, _] :: _ => none.bindPattern pattern
  | _ => none

def isRoot (b : PropsBinding) (value : Node) : Bool :=
  match value.path? with
  | some [x] => b.direct.contains x
  | some [x, y] => b.context == some x && y == "props"
  | _ => false

def isContext (b : PropsBinding) (value : Node) : Bool :=
  match value.path? with
  | some [x] => b.context == some x
  | _ => false

-- `const { props: p } = ctx` and `const p = ctx.props` give props another name.
def bindDeclarator (b : PropsBinding) (d : Node) : PropsBinding :=
  let (pattern, value) := (d.part 0, d.part 2)
  match pattern.kind with
  | .objectPattern => if b.isContext value then b.bindKey pattern else b
  | .name .binding x => if b.isRoot value then b.addDirect x else b
  | _ => b

def bindStatements (b : PropsBinding) (statements : List Node) : PropsBinding :=
  (statements.flatMap Node.declarators).foldl bindDeclarator b

def field? (b : PropsBinding) : List String → Option String
  | [] => none
  | root :: rest =>
    if b.direct.contains root then rest.head?
    else if b.context == some root then
      match rest with
      | "props" :: fields => some (fields.headD "props")
      | _ => none
    else none

def readAt (b : PropsBinding) (n : Node) : Bool :=
  match n.kind, n.parts with
  | .member _, [.mk (.name .value x) _ _, .mk (.name _ y) _ _] => b.context == some x && y == "props"
  | _, _ =>
    match n.reference? with
    | some x => b.direct.contains x
    | none => false

def isReadIn (b : PropsBinding) (value : Node) : Bool := value.preorder.any b.readAt

end PropsBinding

end Rsx
