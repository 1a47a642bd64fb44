import Rsx.Grammar.Expressions

set_option autoImplicit false

namespace Rsx.Grammar

open Rsx.Parser

variable (go : Goal → Parser Node)

def memberInfo (ms : List Modifier) (computed optional definite : Bool) : MemberInfo where
  isStatic := Modifier.has ms "static"
  computed := computed
  abstract := Modifier.has ms "abstract"
  override := Modifier.has ms "override"
  optional := optional
  access := Modifier.accessOf ms
  declare := Modifier.has ms "declare"
  readonly := Modifier.has ms "readonly"
  definite := definite

def keyText (n : Node) : String :=
  match n.kind with
  | .name _ text => text
  | .stringLit v _ => v.toString
  | _ => ""

def isPrivateKey (key : Node) : Bool :=
  match key.kind with
  | .name .privateName _ => true
  | _ => false

def isKeyNamed (key : Node) (computed : Bool) (name : String) : Bool :=
  !computed && !isPrivateKey key && keyText key == name

def memberKey (ms : List Modifier) : Parser (Node × Bool) := do
  match ← kind with
  | .privateName w =>
    let key ← privateNameNode
    refuse ["public", "private", "protected"] (fun _ => .accessOnPrivate) ms
    if w == "constructor" then note .privateConstructor key.span.start
    return (key, false)
  | _ => propertyKey go

def checkPrototype (ms : List Modifier) (key : Node) (computed : Bool) : Parser Unit := do
  if Modifier.has ms "static" && isKeyNamed key computed "prototype" then
    note .staticPrototype key.span.start

def refuseOnMember (ms : List Modifier) : Parser Unit := do
  refuse ["const"] (fun _ => .constMember) ms
  refuse ["export", "in", "out"] .modifierOnMember ms

def refuseReadonly (ms : List Modifier) : Parser Unit := refuse ["readonly"] (fun _ => .readonlyPlace) ms

def methodNode (s : Nat) (ds : List Node) (role : MethodRole) (ms : List Modifier)
    (key f : Node) (computed optional : Bool) : Parser Node :=
  node (.method role (memberInfo ms computed optional false)) s [.group ds, key, f]

def isImplemented (f : Node) : Bool := !(f.part 5).isAbsent

def accessorMember (s : Nat) (ds : List Node) (role : MethodRole) (ms : List Modifier) :
    Parser Node := do
  advance
  refuseOnMember ms
  let (key, computed) ← memberKey go ms
  let fs ← start
  let f ← functionRest go fs ⟨.expression, .method, .absent, Modifier.has ms "async", false, false⟩
  checkAccessor (if role == .get then .get else .set) f
  if !Modifier.has ms "static" && isKeyNamed key computed "constructor" then
    note .constructorAccessor key.span.start
  checkPrototype ms key computed
  if Modifier.has ms "abstract" && isImplemented f then
    note (.abstractAccessor (keyText key)) key.span.start
  refuse ["async", "declare"] .modifierHere ms
  refuseReadonly ms
  methodNode s ds role ms key f computed false

def constructorMember (s : Nat) (ds : List Node) (ms : List Modifier) (key : Node) (optional : Bool) :
    Parser Node := do
  let fs ← start
  let f ← functionRest go fs
    ⟨.expression, .constructor, .absent, Modifier.has ms "async", false, false⟩
  unless (f.part 2).isAbsent do note .thisParameterConstructor (f.part 2).span.start
  unless (f.part 1).isAbsent do note .constructorTypeParameters (f.part 1).span.start
  unless (f.part 4).isAbsent do note .constructorType (f.part 4).span.start
  if Modifier.has ms "async" then note .constructorAsync key.span.start
  refuseReadonly ms
  methodNode s ds .constructor ms key f false optional

def methodMember (s : Nat) (ds : List Node) (ms : List Modifier) (key : Node)
    (computed optional generator : Bool) : Parser Node := do
  let fs ← start
  let f ← functionRest go fs
    ⟨.expression, .method, .absent, Modifier.has ms "async", generator, false⟩
  if generator && !Modifier.has ms "static" && isKeyNamed key computed "constructor" then
    note .constructorGenerator key.span.start
  checkPrototype ms key computed
  if Modifier.has ms "abstract" && isImplemented f then
    note (.abstractImplementation (keyText key)) key.span.start
  refuseReadonly ms
  methodNode s ds .method ms key f computed optional

def fieldMember (s : Nat) (ds : List Node) (ms : List Modifier) (key : Node) (computed : Bool)
    (question : Option Nat) : Parser Node := do
  let definite ← eat "!"
  match definite, question with
  | true, some q => note .optionalDefinite q
  | _, _ => pure ()
  let t ← typeClause go
  let value ← if ← eat "=" then
      within ({ · with allowIn := true, inAsync := false, inGenerator := false }) (assignment go)
    else pure .absent
  if Modifier.has ms "abstract" && !value.isAbsent then
    note (.abstractInitializer (keyText key)) key.span.start
  semicolon
  if isKeyNamed key computed "constructor" then note .fieldConstructor key.span.start
  checkPrototype ms key computed
  let accessor := Modifier.has ms "accessor"
  if accessor then
    match question with
    | some q => note .optionalAccessor q
    | none => pure ()
    refuse ["readonly", "declare", "async"] .modifierOnAccessor ms
  else refuse ["async"] .modifierOnMember ms
  node (.field accessor (memberInfo ms computed question.isSome definite)) s [.group ds, key, t, value]

def staticBlock (s : Nat) : Parser Node := do
  advance
  expect "\x7b"
  let ss ← within
    ({ · with allowIn := true, inAsync := true, inGenerator := false, inFunction := false,
              topLevel := false }) <|
    iterate ([] : List Node) fun ss => do
      let k ← kind
      if isPunct "\x7d" k || isEnd k then return (ss, false)
      let x ← go (.statement false)
      return (x :: ss, true)
  expect "\x7d"
  node .staticBlock s ss.reverse

def classMember : Parser Node := do
  let s ← start
  let ds ← decorators go
  let ms ← memberModifiers
  if (← atWord "static") && (← follows (isPunct "\x7b")) then
    refuseDecorators ds
    return ← staticBlock go s
  if ← atModifier "get" then return ← accessorMember go s ds .get ms
  if ← atModifier "set" then return ← accessorMember go s ds .set ms
  if ← atIndexSignature then
    refuseDecorators ds
    return ← indexSignatureTail go s ms
  refuseOnMember ms
  let generator ← eat "*"
  let (key, computed) ← memberKey go ms
  let mark ← start
  let optional ← eat "?"
  if generator || (← atAny ["(", "<"]) then
    if !generator && !Modifier.has ms "static" && isKeyNamed key computed "constructor" then
      constructorMember go s ds ms key optional
    else methodMember go s ds ms key computed optional generator
  else fieldMember go s ds ms key computed (if optional then some mark else none)

def classBodyNode : Parser Node := do
  let s ← start
  expect "\x7b"
  let ms ← iterate ([] : List Node) fun ms => do
    if ← eat ";" then return (ms, true)
    let k ← kind
    if isPunct "\x7d" k || isEnd k then return (ms, false)
    let m ← classMember go
    return (m :: ms, true)
  expect "\x7d"
  node .classBody s ms.reverse

def commaSeparated (item : Parser Node) : Parser (List Node) := do
  let first ← item
  let items ← iterate [first] fun items => do
    if ← eat "," then
      let x ← item
      return (x :: items, true)
    else return (items, false)
  return items.reverse

def implemented : Parser Node := do
  let s ← start
  let name ← dottedName .typeName
  let args ← typeArguments go
  node .heritage s [name, args]

def extended : Parser Node := do
  let s ← start
  let e ← go .leftHandSide
  match e with
  | .mk .instantiation _ [inner, args] => node .heritage s [inner, args]
  | _ =>
    let args ← typeArguments go
    node .heritage s [e, args]

structure Heritage where
  bases : List Node
  interfaces : List Node
  implementsAt : Option Nat      -- the first `implements`
  hasExtends : Bool

def heritage : Parser Heritage :=
  iterate (⟨[], [], none, false⟩ : Heritage) fun h => do
    let s ← start
    if ← atWord "extends" then
      if h.hasExtends then note .extendsTwice s
      else
        match h.implementsAt with
        | some first => note .extendsLate first
        | none => pure ()
      advance
      let bases ← commaSeparated (extended go)
      return ({ h with bases, hasExtends := true }, true)
    if ← atWord "implements" then
      match h.implementsAt with
      | some first => note .implementsTwice first
      | none => pure ()
      advance
      let more ← commaSeparated (implemented go)
      return ({ h with
        interfaces := h.interfaces ++ more, implementsAt := h.implementsAt.or (some s) }, true)
    return (h, false)

def classTail (s : Nat) (isExpression : Bool) (ms : List Modifier) (ds : List Node) : Parser Node := do
  expectWord "class"
  let name ← if (← atBinding) && !(← atWord "implements") then boundName else pure .absent
  let tparams ← typeParameters go
  let h ← heritage go
  for b in h.bases.drop 1 do note .singleExtends b.span.start
  let base := h.bases.headD .absent
  let body ← classBodyNode go
  allowOnly ["declare", "abstract"] .modifierHere ms
  node (.classNode ⟨isExpression, Modifier.has ms "abstract", Modifier.has ms "declare"⟩) s
    [.group ds, name, tparams, base.part 0, base.part 1, .group h.interfaces, body]

end Rsx.Grammar
