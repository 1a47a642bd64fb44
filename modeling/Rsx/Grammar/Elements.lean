import Rsx.Grammar.Types

set_option autoImplicit false

namespace Rsx.Grammar

open Rsx.Parser

variable (go : Goal → Parser Node)

def expectBeforeText (p : String) : Parser Unit := do
  unless ← at_ p do stopHere (.expected p (Token.describe (← kind)))
  advanceToChild

def expectMark (p : String) (inChild : Bool) : Parser Unit :=
  if inChild then expectBeforeText p else expect p

def tagWord : Parser Node := do
  match ← kind with
  | .word _ _ =>
    let s ← start
    let afterWord := (← get).lexer.reader
    reread fun r =>
      let (_, behind) := Lexer.jsxWordRest afterWord
      ⟨.word (String.ofList (r.between behind)) false, behind, []⟩
    let w ← wordText
    advance
    node (.name .tagText w) s []
  | _ => unexpected

def refersToVariable (w : String) : Bool :=
  match w.toList with
  | c :: _ => !c.isLower && !w.toList.contains '-'
  | [] => false

def nameText (n : Node) : String :=
  match n.kind with
  | .name _ text => text
  | _ => ""

def tagName : Parser Node := do
  let s ← start
  let first ← tagWord
  let word := nameText first
  if ← eat ":" then
    let second ← tagWord
    return ← node .namespacedTag s [first, second]
  let this : Node := .mk .thisValue first.span []
  if ← at_ "." then
    let root := if word == "this" then this else .mk (.name .tagRoot word) first.span []
    iterate root fun left => do
      if ← eat "." then
        let right ← tagWord
        if (nameText right).toList.contains '-' then stop .dashInTag right.span.start
        return (← node .tagMember s [left, right], true)
      else return (left, false)
  else if word == "this" then return this
  else if refersToVariable word then return .mk (.name .tag word) first.span []
  else return first

def tagPath : Node → List String
  | .mk (.name _ text) _ _ => [text]
  | .mk .thisValue _ _ => ["this"]
  | .mk .namespacedTag _ [a, b] => tagPath a ++ ":" :: tagPath b
  | .mk .tagMember _ [a, b] => tagPath a ++ "." :: tagPath b
  | _ => []

-- A value in braces: one expression, whatever function the element stands in.
def contained : Parser Node := do
  let e ← within ({ · with allowIn := true, inGenerator := false, inDecorator := false }) (go .expression)
  match e.kind with
  | .sequence => stop .commaInContainer e.span.start
  | _ => return e

-- `{…}` around a value; nothing at all leaves room for comments only.
def container (inChild : Bool) : Parser Node := do
  let s ← start
  expect "\x7b"
  if ← at_ "\x7d" then
    expectMark "\x7d" inChild
    let span ← spanFrom s
    return .mk .container span [.mk .emptyContainer ⟨span.start + 1, span.stop - 1⟩ []]
  let e ← contained go
  expectMark "\x7d" inChild
  node .container s [e]

def spreadAttribute : Parser Node := do
  let s ← start
  expect "\x7b"
  expect "..."
  let e ← allowingIn (go .expression)
  expect "\x7d"
  node .spreadAttribute s [e]

def attributeValue : Parser Node := do
  let s ← start
  match ← kind with
  | .string _ raw =>
    advance
    node (.attributeString raw) s []
  | .punct "\x7b" =>
    let c ← container go false
    match c with
    | .mk .container span [.mk .emptyContainer _ _] => note .emptyAttributeValue span.start
    | _ => pure ()
    return c
  | .punct "<" =>
    advance
    go (.element s false)
  | _ => unexpected

def tagAttribute : Parser Node := do
  let s ← start
  let first ← tagWord
  let name ← if ← eat ":" then
      let second ← tagWord
      node .namespacedTag s [first, second]
    else pure first
  let value ← if ← at_ "=" then
      advanceToAttributeValue
      attributeValue go
    else pure .absent
  node .tagAttribute s [name, value]

def tagAttributes : Parser (List Node) := do
  let as ← iterate ([] : List Node) fun as => do
    if ← atAny ["<", ">", "/"] then return (as, false)
    let a ← if ← at_ "\x7b" then spreadAttribute go else tagAttribute go
    return (a :: as, true)
  return as.reverse

def spreadChild (s : Nat) : Parser Node := do
  expect "..."
  let e ← contained go
  expectBeforeText "\x7d"
  node .spreadChild s [e]

def elementChildren : Parser (List Node) := do
  let cs ← iterate ([] : List Node) fun cs => do
    let s ← start
    match ← kind with
    | .jsxText raw =>
      advanceToChild
      return (.mk (.text raw) (← spanFrom s) [] :: cs, true)
    | .punct "\x7b" =>
      if ← follows (isPunct "...") then
        advance
        let c ← spreadChild go s
        return (c :: cs, true)
      let c ← container go true
      return (c :: cs, true)
    | .punct "<" =>
      if ← follows (isPunct "/") then return (cs, false)
      advance
      if (← at_ ">") || (← atName) then
        let e ← go (.element s true)
        return (e :: cs, true)
      unexpected
    | _ => unexpected
  return cs.reverse

def closingTag (inChild : Bool) : Parser Node := do
  let s ← start
  expect "<"
  expect "/"
  let name ← tagName
  expectMark ">" inChild
  node .closingTag s [name]

def elementBody (s : Nat) (inChild : Bool) : Parser Node := do
  if ← at_ ">" then
    expectBeforeText ">"
    let opening ← node .openingFragment s []
    let cs ← elementChildren go
    let c ← start
    expect "<"
    expect "/"
    expectMark ">" inChild
    let closing ← node .closingFragment c []
    return ← node .fragment s [opening, .group cs, closing]
  let name ← tagName
  let args ← typeArguments go
  let attributes ← tagAttributes go
  if ← eat "/" then
    expectMark ">" inChild
    let opening ← node (.openingTag true) s [name, args, .group attributes]
    return ← node .element s [opening, .group [], .absent]
  expectBeforeText ">"
  let opening ← node (.openingTag false) s [name, args, .group attributes]
  let cs ← elementChildren go
  let closing ← closingTag inChild
  let closingName := closing.part 0
  if tagPath name ≠ tagPath closingName then
    note (.unmatchedClosingTag (String.join (tagPath name))) closingName.span.start
  node .element s [opening, .group cs, closing]

end Rsx.Grammar
