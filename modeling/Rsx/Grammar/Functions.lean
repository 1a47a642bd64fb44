import Rsx.Grammar.Elements

set_option autoImplicit false

namespace Rsx.Grammar

open Rsx.Parser

variable (go : Goal → Parser Node)

-- A string that is a whole statement is a directive while nothing else has been met.
def asDirective? (stmt : Node) : Option Node :=
  match stmt with
  | .mk .expression span [.mk (.stringLit _ raw) s _] =>
    if span.start = s.start then
      some (.mk (.directive (String.ofList ((raw.toList.drop 1).dropLast))) span
        stmt.parts)
    else none
  | _ => none

def directivesAndStatements (top : Bool) : Parser (List Node × List Node) := do
  let (ds, ss, _) ← iterate (([] : List Node), ([] : List Node), true) fun (ds, ss, first) => do
    if ← atEof then return ((ds, ss, first), false)
    if !top && (← at_ "\x7d") then return ((ds, ss, first), false)
    let stmt ← go (.statement false)
    match first, asDirective? stmt with
    | true, some d => return ((d :: ds, ss, true), true)
    | _, _ => return ((ds, stmt :: ss, false), true)
  return (ds.reverse, ss.reverse)

def functionBodyNode : Parser Node := do
  let s ← start
  expect "\x7b"
  let (ds, ss) ← within ({ · with inFunction := true, topLevel := false })
    (directivesAndStatements go false)
  expect "\x7d"
  node .body s [.group ds, .group ss]

def inFunctionContext {α : Type} (async generator : Bool) (p : Parser α) : Parser α :=
  within ({ · with allowIn := true, inAsync := async, inGenerator := generator }) p

structure FunctionHead where
  form : FunctionForm
  place : FunctionPlace
  name : Node
  async : Bool
  generator : Bool
  declare : Bool

def functionRest (s : Nat) (h : FunctionHead) : Parser Node := do
  let (tparams, this, params, result, body) ← inFunctionContext h.async h.generator do
    let tparams ← typeParameters go
    let (this, params) ← parameters go h.place
    let result ← resultClause go
    let body ← if ← at_ "\x7b" then go .functionBody else pure .absent
    return (tparams, this, params, result, body)
  let form := if body.isAbsent then
      match h.form with
      | .declaration => FunctionForm.overload
      | _ => .bodiless
    else h.form
  if body.isAbsent then semicolon
  else if h.declare then note .ambientImplementation body.span.start
  node (.function ⟨form, h.async, h.generator, h.declare, false, false⟩) s
    [h.name, tparams, this, params, result, body]

def functionName (form : FunctionForm) (async generator needsName : Bool) : Parser Node := do
  match ← kind with
  | .word w _ =>
    if isReserved w then
      if needsName then stopHere (.expected "Identifier" (Token.describe (← kind)))
      return .absent
    let c ← context
    let c := match form with
      | .expression => { c with inAsync := async, inGenerator := generator }
      | _ => c
    within (fun _ => c) (variableName .binding)
  | .punct "(" =>
    if needsName then note .missingFunctionName (← start)
    return .absent
  | _ => return .absent

def functionTail (s : Nat) (form : FunctionForm) (async needsName : Bool) : Parser Node := do
  expectWord "function"
  let generator ← eat "*"
  let name ← functionName form async generator needsName
  functionRest go s ⟨form, .plain, name, async, generator, false⟩

def ambientFunction (s : Nat) (async : Bool) : Parser Node := do
  expectWord "function"
  let name ← functionName .declaration async false true
  functionRest go s ⟨.declaration, .plain, name, async, false, true⟩

inductive Likelihood where
  | no | perhaps | yes
deriving DecidableEq

def isLiteralStart (k : TokenKind) : Bool :=
  isLiteral k || isWord "null" k || isWord "true" k || isWord "false" k

def arrowLikelihoodInParens : Parser Likelihood := do
  advance
  match ← kind with
  | .punct ")" =>
    advance
    return if ← atAny ["=>", ":", "\x7b"] then .yes else .no
  | .punct "[" | .punct "\x7b" => return .perhaps
  | .punct "..." => return if ← follows isLiteralStart then .no else .yes
  | k =>
    if !(isBinding k || isWord "this" k) then return .no
    let w ← wordText
    advance
    if Modifier.words.contains w && w != "async" && (← atBinding) then
      if ← follows (isWord "as") then return .no
      return if ← atAnyWord ["as", "satisfies", "of", "instanceof"] then .no else .yes
    match ← kind with
    | .punct ":" => return .yes
    | .punct "?" =>
      advance
      return if ← atAny [":", ",", "=", ")"] then .yes else .no
    | .punct "," | .punct "=" | .punct ")" => return .perhaps
    | _ => return .no

-- In the presence of elements, `<T` starts type parameters only if more than a name follows.
def arrowLikelihoodInAngles : Parser Likelihood := do
  advance
  let _ ← eatWord "const"
  unless ← atBinding do return .no
  advance
  if ← atAny [",", "="] then return .yes
  if ← eatWord "extends" then
    if ← atAny ["=", ">", "/"] then return .no
    return if ← atBinding then .perhaps else .yes
  return .no

def arrowLikelihood : Parser Likelihood := fun s =>
  let worker : Parser Likelihood := do
    let async ← atWord "async"
    if async then
      advance
      if ← onNewLine then return .no
    if ← at_ "(" then arrowLikelihoodInParens
    else if ← at_ "<" then arrowLikelihoodInAngles
    else return .no
  match worker s with
  | .ok l _ => .ok l s
  | .error _ _ => .ok .no s

structure ArrowHead where
  start : Nat
  async : Bool
  typeParams : Node
  params : Node
  result : Node

def arrowHead : Parser ArrowHead := do
  let s ← start
  let async ← eatWord "async"
  let c ← context
  let (tparams, params, result) ← within ({ · with inAsync := c.inAsync || async }) do
    let tparams ← typeParameters go
    let (this, params) ← parameters go .plain
    unless this.isAbsent do note .thisParameterArrow this.span.start
    let result ← resultClause go
    return (tparams, params, result)
  if ← onNewLine then note .newlineBeforeArrow (← start)
  expect "=>"
  return ⟨s, async, tparams, params, result⟩

def arrowBody (h : ArrowHead) (allowReturnType : Bool) : Parser Node := do
  let isExpression := !(← at_ "\x7b")
  let body ← within ({ · with inAsync := h.async, inGenerator := false }) do
    if isExpression then
      let e ← go (.assignment allowReturnType)
      return .mk .body e.span [.group [], .group [.mk .expression e.span [e]]]
    else go .functionBody
  node (.arrow ⟨h.async, isExpression, false, false⟩) h.start [h.typeParams, h.params, h.result, body]

-- Where a colon may follow, a result type counts only if another colon follows it; else it would
-- swallow the colon of an enclosing conditional.
def possibleArrow (allowReturnType : Bool) : Parser (Option Node) := fun s =>
  match arrowHead go s with
  | .error _ _ => .ok none s
  | .ok h s1 =>
    let ambiguous := !allowReturnType && !h.result.isAbsent
    match arrowBody go h allowReturnType s1 with
    | .error e s2 => if ambiguous then .ok none s else .error e s2
    | .ok a s2 =>
      if ambiguous && !isPunct ":" s2.token.kind then .ok none s else .ok (some a) s2

def parenthesizedArrow (allowReturnType : Bool) : Parser (Option Node) := do
  match ← arrowLikelihood with
  | .no => return none
  | .yes =>
    let h ← arrowHead go
    return some (← arrowBody go h true)
  | .perhaps => possibleArrow go allowReturnType

def simpleArrow (s : Nat) (name : Node) (async allowReturnType : Bool) : Parser Node := do
  if ← onNewLine then note .newlineBeforeArrow (← start)
  expect "=>"
  let bound := name.withKind (.name .binding (nameText name))
  let param : Node :=
    .mk (.parameter ⟨none, false, false, false⟩) name.span [.group [], bound, .absent, .absent]
  let params : Node := .mk .parameters name.span [param]
  arrowBody go ⟨s, async, .absent, params, .absent⟩ allowReturnType

def atAsyncSimpleArrow : Parser Bool := do
  unless ← atWord "async" do return false
  ahead do
    advance
    if (← onNewLine) || !(← atBinding) then return false
    advance
    return (← at_ "=>") && !(← onNewLine)

end Rsx.Grammar
