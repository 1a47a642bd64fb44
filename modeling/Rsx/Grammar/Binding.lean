import Rsx.Grammar.Modifiers

set_option autoImplicit false

namespace Rsx.Grammar

open Rsx.Parser

variable (go : Goal → Parser Node)

def assignment : Parser Node := go (.assignment true)

def typeClause : Parser Node := do
  let s ← start
  unless ← eat ":" do return .absent
  let t ← go .type
  node .typeClause s [t]

def defaultValue : Parser Node := do
  unless ← eat "=" do return .absent
  allowingIn (assignment go)

def literalNode : Parser Node := do
  let s ← start
  match ← kind with
  | .number v raw _ => advance; node (.numberLit v raw) s []
  | .bigint v raw _ => advance; node (.bigintLit v raw) s []
  | .string v raw => advance; node (.stringLit v raw) s []
  | _ => unexpected

def privateNameNode : Parser Node := do
  let s ← start
  match ← kind with
  | .privateName w => advance; node (.name .privateName w) s []
  | _ => unexpected

def propertyKey : Parser (Node × Bool) := do
  match ← kind with
  | .number _ _ _ | .bigint _ _ _ | .string _ _ => return (← literalNode, false)
  | .punct "[" =>
    advance
    let e ← allowingIn (assignment go)
    expect "]"
    return (e, true)
  | _ => return (← anyName .property, false)

def withDefault (s : Nat) (pattern : Node) : Parser Node := do
  if ← eat "=" then
    let value ← allowingIn (assignment go)
    node .defaultPattern s [pattern, value]
  else return pattern

def bindingElement : Parser Node := do
  let s ← start
  let p ← go .pattern
  withDefault go s p

-- `...pattern`. A default after it is read, but has no meaning.
def restPattern : Parser Node := do
  let s ← start
  advance
  let ps ← start
  let p ← go .pattern
  if ← at_ "=" then
    let _ ← defaultValue go
    note .restElementInitializer ps
  node .restPattern s [p]

-- In an object pattern the rest has no key and is a name.
def objectRest : Parser Node := do
  let r ← restPattern go
  if ← at_ ":" then stop .restElementName (← start)
  return r

def bindingProperty : Parser Node := do
  let s ← start
  let isIdentifier ← atBinding
  let (key, computed) ← propertyKey go
  if isIdentifier && !(← at_ ":") then
    match key with
    | .mk (.name _ text) span _ =>
      let bound : Node := .mk (.name .binding text) span []
      let value ← withDefault go span.start bound
      node (.bindingProperty false true) s [key, value]
    | _ => unexpected
  else
    expect ":"
    let value ← bindingElement go
    node (.bindingProperty computed false) s [key, value]

def patternItems (close : String) (rest item : Parser Node) : Parser (List Node) := do
  let (items, _) ← iterate (([] : List Node), true) fun (items, first) => do
    let k ← kind
    if isPunct close k || isEnd k then return ((items, first), false)
    let rest? := match items with
      | n :: _ => match n.kind with
        | .restPattern => some n.span.start
        | _ => none
      | [] => none
    unless first do
      unless isPunct "," k do
        stop (.expectedEither "," close (Token.describe k)) (← start)
      let comma ← start
      advance
      if ← at_ close then
        if rest?.isSome && !(← context).ambient then note .restPatternComma comma
    if ← at_ close then return ((items, false), false)
    match rest? with
    | some r => note .restPatternNotLast r
    | none => pure ()
    let x ← if ← at_ "..." then rest else item
    return ((x :: items, false), true)
  return items.reverse

def arrayElement : Parser Node := do
  if ← at_ "," then
    let s ← start
    return .mk .hole ⟨s, s⟩ []
  bindingElement go

def isBindingName (n : Node) : Bool :=
  match n.kind with
  | .name .binding _ => true
  | _ => false

def checkObjectRest (items : List Node) : Parser Unit := do
  match items.getLast? with
  | some (.mk .restPattern _ [p]) => unless isBindingName p do note .restElementInvalid p.span.start
  | _ => pure ()

def patternBody : Parser Node := do
  let s ← start
  match ← kind with
  | .punct "\x7b" =>
    advance
    let items ← patternItems "\x7d" (objectRest go) (bindingProperty go)
    checkObjectRest items
    expect "\x7d"
    node .objectPattern s items
  | .punct "[" =>
    advance
    let items ← patternItems "]" (restPattern go) (arrayElement go)
    expect "]"
    node .arrayPattern s items
  | _ => boundName

def decorator : Parser Node := do
  let s ← start
  expect "@"
  let e ← within ({ · with inDecorator := true }) (go .leftHandSide)
  node .decorator s [e]

def decorators : Parser (List Node) := do
  let ds ← iterate ([] : List Node) fun ds => do
    if ← at_ "@" then
      let d ← decorator go
      return (d :: ds, true)
    else return (ds, false)
  return ds.reverse

inductive FunctionPlace where
  | plain | method | constructor
deriving DecidableEq

def FunctionPlace.modifiers : FunctionPlace → List String
  | .constructor => ["public", "private", "protected", "readonly", "override"]
  | _ => []

def parameter (place : FunctionPlace) (s : Nat) (ds : List Node) : Parser Node := do
  let ms ← modifiers
  allowOnly place.modifiers .modifierOnParameter ms
  let p ← go .pattern
  let optional ← eat "?"
  let t ← typeClause go
  let value ← defaultValue go
  if optional && !value.isAbsent then note .optionalParameterInitializer s
  if place == .constructor && !ms.isEmpty && !isBindingName p then note .parameterPropertyPattern s
  node (.parameter ⟨Modifier.accessOf ms, Modifier.has ms "readonly", Modifier.has ms "override", optional⟩)
    s [.group ds, p, t, value]

def restParameter (s : Nat) (ds : List Node) : Parser Node := do
  let r ← restPattern go
  if ← at_ "?" then
    note .restOptional (← start)
    advance
  let t ← typeClause go
  if ← at_ "=" then
    let here ← start
    let _ ← defaultValue go
    note .restInitializer here
  node .restParameter s [.group ds, r, t]

def thisParameter : Parser Node := do
  let s ← start
  advance
  let t ← typeClause go
  node .thisParameter s [t]

def isRestParameter (n : Node) : Bool :=
  match n.kind with
  | .restParameter => true
  | _ => false

def parameters (place : FunctionPlace) : Parser (Node × Node) := do
  let s ← start
  expect "("
  let this ← if ← atWord "this" then
      let t ← thisParameter go
      unless ← at_ ")" do expect ","
      pure t
    else pure .absent
  let (items, _) ← iterate (([] : List Node), true) fun (items, first) => do
    let k ← kind
    if isPunct ")" k || isEnd k then return ((items, first), false)
    let rest? := (items.find? isRestParameter).map (·.span.start)
    unless first do
      unless isPunct "," k do stop (.expectedEither "," ")" (Token.describe k)) (← start)
      let comma ← start
      advance
      if ← at_ ")" then
        if rest?.isSome && !(← context).ambient then note .restPatternComma comma
    if ← at_ ")" then return ((items, false), false)
    match rest? with
    | some r => note .restNotLast r
    | none => pure ()
    let begin ← start
    let ds ← decorators go
    if place == .plain then refuseDecorators ds
    let x ← if ← at_ "..." then restParameter go begin ds else parameter go place begin ds
    return ((x :: items, false), true)
  expect ")"
  return (this, ← node .parameters s items.reverse)

end Rsx.Grammar
