import Rsx.Grammar.Classes

set_option autoImplicit false

namespace Rsx.Grammar

open Rsx.Parser

variable (go : Goal → Parser Node)

def statement : Parser Node := go (.statement false)

def nested : Parser Node := go (.statement true)

def statementsUntil (stops : TokenKind → Bool) : Parser (List Node) := do
  let ss ← iterate ([] : List Node) fun ss => do
    let k ← kind
    if stops k || k == .eof then return (ss, false)
    let x ← statement go
    return (x :: ss, true)
  return ss.reverse

def blockNode : Parser Node := do
  let s ← start
  expect "\x7b"
  let ss ← within ({ · with topLevel := false }) (statementsUntil go (isPunct "\x7d"))
  expect "\x7d"
  node .block s ss

def condition : Parser Node := do
  expect "("
  let e ← allowingIn (go .expression)
  expect ")"
  return e

def variableKindOf : String → VariableKind
  | "let" => .letKind
  | "const" => .constKind
  | "using" => .usingKind
  | _ => .varKind

def isUsing : VariableKind → Bool
  | .usingKind | .awaitUsingKind => true
  | _ => false

def isLexical : VariableKind → Bool
  | .letKind | .constKind => true
  | _ => false

def checkInitializer (kind : VariableKind) (pattern value : Node) : Parser Unit := do
  if value.isAbsent && !(← context).ambient then
    if !isBindingName pattern then note .missingPatternInitializer pattern.span.start
    else if kind == .constKind then note .missingConstInitializer pattern.span.start

def checkUsing (inLoop : Bool) (pattern value : Node) : Parser Unit := do
  unless isBindingName pattern do note .usingPattern pattern.span.start
  if value.isAbsent && !inLoop then note .usingInitializer pattern.span.start

def declarator (kind : VariableKind) (inLoop : Bool) : Parser Node := do
  let s ← start
  let pattern ← go .pattern
  let mark ← start
  let definite ← if !inLoop && isBindingName pattern && (← at_ "!") && !(← onNewLine) then
      advance
      pure true
    else pure false
  if ← at_ "?" then
    note .optionalDeclaration (← start)
    advance
  let t ← typeClause go
  let value ← if ← eat "=" then assignment go else pure .absent
  if definite then
    if !value.isAbsent then note .definiteInitializer mark
    else if t.isAbsent then note .definiteWithoutType mark
  if isUsing kind then checkUsing inLoop pattern value
  else unless inLoop do checkInitializer kind pattern value
  node (.declarator definite) s [pattern, t, value]

def variablesTail (s : Nat) (kind : VariableKind) (declare inLoop : Bool) : Parser Node := do
  let first ← declarator go kind inLoop
  let ds ← iterate [first] fun ds => do
    if ← eat "," then
      let d ← declarator go kind inLoop
      return (d :: ds, true)
    else return (ds, false)
  unless inLoop do semicolon
  node (.variableList kind declare) s ds.reverse

def variableDeclaration (s : Nat) (declare inLoop : Bool) : Parser Node := do
  let w ← wordText
  advance
  if w == "await" then
    advance
    variablesTail go s .awaitUsingKind declare inLoop
  else variablesTail go s (variableKindOf w) declare inLoop

-- Where one statement is expected, only `var` declares.
def variableStatement (s : Nat) (single : Bool) : Parser Node := do
  let decl ← variableDeclaration go s false false
  match decl.kind with
  | .variableList kind _ => if single && isLexical kind then note .lexicalNested decl.span.start
  | _ => pure ()
  return decl

def expressionTail (s : Nat) (e : Node) : Parser Node := do
  semicolon
  node .expression s [e]

def isAfterLet (k : TokenKind) : Bool :=
  match k with
  | .punct p => p == "\x7b" || p == "["
  | .word w _ => w != "in"
  | _ => false

def isOperator (k : TokenKind) : Bool :=
  match k with
  | .punct p => assignmentOps.contains p || (strength? k).isSome || p == "." || p == "("
  | .word w _ => w == "in" || w == "instanceof"
  | _ => false

def letStatement (s : Nat) (single : Bool) : Parser Node := do
  if ← follows isOperator then
    let e ← go .expression
    return ← expressionTail s e
  if ← follows fun k => (single && !isPunct "[" k) || isPunct ";" k then
    let e ← variableName .value
    return ← expressionTail s e
  variableStatement go s single

def expressionOrLabel (s : Nat) : Parser Node := do
  let e ← allowingIn (go .expression)
  match e.kind with
  | .name .value text =>
    if ← eat ":" then
      let body ← nested go
      return ← node .labeled s [.mk (.name .label text) e.span [], body]
  | _ => pure ()
  expressionTail s e

def forLoopRest (s : Nat) (init : Node) (await : Bool) : Parser Node := do
  expect ";"
  let test ← if (← at_ ";") || (← at_ ")") then pure .absent else allowingIn (go .expression)
  expect ";"
  let step ← if ← at_ ")" then pure .absent else allowingIn (go .expression)
  expect ")"
  if await then note .forAwaitNotOf s
  let body ← nested go
  node .forLoop s [init, test, step, body]

def forInRest (s : Nat) (left : Node) (await : Bool) : Parser Node := do
  advance
  let right ← allowingIn (go .expression)
  expect ")"
  if await then note .forAwaitNotOf s
  let body ← nested go
  node .forIn s [left, right, body]

def forOfRest (s : Nat) (left : Node) (await : Bool) : Parser Node := do
  advance
  let right ← allowingIn (assignment go)
  expect ")"
  let body ← nested go
  node (.forOf await) s [left, right, body]

def checkForIn (decl : Node) : Parser Unit := do
  match decl.kind with
  | .variableList kind _ => if isUsing kind then note (.usingForIn kind.text) decl.span.start
  | _ => pure ()

def loopDeclaration (s : Nat) (await : Bool) : Parser Node := do
  let ds ← start
  let decl ← within ({ · with allowIn := false }) (variableDeclaration go ds false true)
  if ← atWord "in" then
    checkForIn decl
    forInRest go s decl await
  else if ← atWord "of" then forOfRest go s decl await
  else
    match decl.kind with
    | .variableList kind _ =>
      unless isUsing kind do
        for d in decl.parts do checkInitializer kind (d.part 0) (d.part 2)
    | _ => pure ()
    forLoopRest go s decl await

-- What `using` has to stand before to declare anything. In the head of a loop, `of` is a name only
-- before `=`.
def usingFollows (inLoop : Bool) : Parser Bool := do
  if ← onNewLine then return false
  if ← at_ "\x7b" then return true
  if inLoop && (← atWord "of") then return ← follows (isPunct "=")
  atBinding

def atUsing (inLoop : Bool) : Parser Bool := do
  if ← atWord "using" then
    return ← ahead do
      advance
      usingFollows inLoop
  if ← atWord "await" then
    return ← ahead do
      advance
      unless (← atWord "using") && !(← onNewLine) do return false
      advance
      usingFollows false
  return false

def forStatement (s : Nat) : Parser Node := do
  advance
  let await ← if ← atWord "await" then
      unless (← context).inAsync do note .awaitOutsideAsync (← start)
      advance
      pure true
    else pure false
  expect "("
  if ← at_ ";" then return ← forLoopRest go s .absent await
  if (← atAnyWord ["var", "const"]) || ((← atWord "let") && (← follows isAfterLet)) then
    return ← loopDeclaration go s await
  if ← atUsing true then return ← loopDeclaration go s await
  if ← at_ ")" then return ← forLoopRest go s .absent await
  let isLet ← atWord "let"
  let isAsync ← atWord "async"
  let es ← start
  let init ← within ({ · with allowIn := false }) (go .expression)
  if ← atWord "in" then
    let t ← assignmentTarget init
    forInRest go s t await
  else if ← atWord "of" then
    match isAsync, init.kind with
    | true, .name .value _ => unless await do note .forOfAsync es
    | _, _ => pure ()
    if isLet then note .unexpectedToken es
    let t ← assignmentTarget init
    forOfRest go s t await
  else forLoopRest go s init await

def labelOrNothing : Parser Node := do
  if ← canInsertSemicolon then return .absent
  unless ← atReference do unexpected
  anyName .label

def jump (s : Nat) (kind : Kind) : Parser Node := do
  advance
  let label ← labelOrNothing
  semicolon
  node kind s [label]

def returnStatement (s : Nat) : Parser Node := do
  unless (← context).inFunction do note .returnOutsideFunction s
  advance
  let e ← if ← canInsertSemicolon then pure .absent else allowingIn (go .expression)
  semicolon
  node .returnWith s [e]

def throwStatement (s : Nat) : Parser Node := do
  advance
  if ← onNewLine then note .newlineAfterThrow s
  let e ← allowingIn (go .expression)
  semicolon
  node .throwValue s [e]

def catchClause : Parser Node := do
  let s ← start
  unless ← eatWord "catch" do return .absent
  let param ← if ← eat "(" then
      let ps ← start
      let pattern ← go .pattern
      let t ← typeClause go
      let p ← node .catchParameter ps [pattern, t]
      expect ")"
      pure p
    else pure .absent
  let body ← blockNode go
  node .catchClause s [param, body]

def tryStatement (s : Nat) : Parser Node := do
  advance
  let block ← blockNode go
  let handler ← catchClause go
  let finalizer ← if ← eatWord "finally" then blockNode go else pure .absent
  if handler.isAbsent && finalizer.isAbsent then note .missingCatch block.span.stop
  node .tryCatch s [block, handler, finalizer]

def switchCase : Parser Node := do
  let s ← start
  let test ← if ← eatWord "default" then pure .absent
    else do
      if ← eatWord "case" then allowingIn (go .expression)
      else stop .missingSwitchClause s
  expect ":"
  let ss ← statementsUntil go fun k => isWord "case" k || isWord "default" k || isPunct "\x7d" k
  node .case s [test, .group ss]

def switchStatement (s : Nat) : Parser Node := do
  advance
  let value ← condition go
  expect "\x7b"
  let cs ← within ({ · with topLevel := false }) <| iterate ([] : List Node) fun cs => do
    let k ← kind
    if isPunct "\x7d" k || isEnd k then return (cs, false)
    let c ← switchCase go
    return (c :: cs, true)
  expect "\x7d"
  node .switch s [value, .group cs.reverse]

def typeAlias (s : Nat) (ms : List Modifier) : Parser Node := do
  advance
  let name ← boundName
  let tparams ← typeParameters go
  expect "="
  let t ← go .type
  semicolon
  allowOnly ["declare"] .modifierHere ms
  node (.typeAlias (Modifier.has ms "declare")) s [name, tparams, t]

def isDottedReference : Node → Bool
  | .mk (.name .value _) _ _ => true
  | .mk (.member false) _ (object :: _) => isDottedReference object
  | _ => false

def interfaceNode (s : Nat) (ms : List Modifier) : Parser Node := do
  advance
  let name ← boundName
  let tparams ← typeParameters go
  let h ← heritage go
  let bs ← start
  let members ← typeMembers go
  let body ← node .interfaceBody bs members
  allowOnly ["declare"] .modifierHere ms
  match h.implementsAt with
  | some at_ => note .interfaceImplements at_
  | none => pure ()
  for b in h.bases do
    unless isDottedReference (b.part 0) do note .interfaceExtends b.span.start
  node (.interface (Modifier.has ms "declare")) s [name, tparams, .group h.bases, body]

def isPlainTemplate (n : Node) : Bool :=
  match n.kind with
  | .template => n.parts.length == 1
  | _ => false

def computedEnumKey : Parser Node := do
  advance
  let e ← allowingIn (assignment go)
  expect "]"
  match e.kind with
  | .stringLit _ _ => return e
  | .numberLit _ _ => stop .enumNumericName e.span.start
  | _ => if isPlainTemplate e then return e else stop .enumComputedName e.span.start

def enumMember : Parser Node := do
  let s ← start
  let (key, computed) ← match ← kind with
    | .punct "[" => do pure (← computedEnumKey go, true)
    | .string _ _ => do pure (← literalNode, false)
    | .number _ _ _ | .bigint _ _ _ => stop .enumNumericName s
    | .template _ _ _ _ => stop .enumComputedName s
    | _ => do pure (← anyName .property, false)
  let value ← if ← eat "=" then allowingIn (assignment go) else pure .absent
  node (.enumMember computed) s [key, value]

def enumNode (s : Nat) (ms : List Modifier) : Parser Node := do
  expectWord "enum"
  let name ← boundName
  let bs ← start
  expect "\x7b"
  let (members, _) ← delimited "\x7d" "," (enumMember go)
  expect "\x7d"
  let body ← node .group bs members
  allowOnly ["declare", "const"] .modifierHere ms
  node (.enum (Modifier.has ms "const") (Modifier.has ms "declare")) s [name, body]

def namespaceBlockNode : Parser Node := do
  let s ← start
  expect "\x7b"
  let (ds, ss) ← within ({ · with topLevel := false, inAsync := false })
    (directivesAndStatements go false)
  expect "\x7d"
  node .namespaceBlock s [.group ds, .group ss]

def namespaceTail (word : ModuleWord) (declare : Bool) : Nat → Nat → Parser Node
  | 0, _ => unexpected
  | fuel + 1, s => do
    let name ← boundName
    let body ← if ← eat "." then
        let inner ← start
        namespaceTail word false fuel inner
      else namespaceBlockNode go
    node (.namespaceNode word declare) s [name, body]

def namespaceDeclaration (s : Nat) (ms : List Modifier) : Parser Node := do
  allowOnly ["declare"] .modifierHere ms
  let declare := Modifier.has ms "declare"
  if ← atWord "global" then
    let name ← anyName .property
    let body ← namespaceBlockNode go
    return ← node (.namespaceNode .globalWord declare) s [name, body]
  let word := if (← wordText) == "module" then ModuleWord.moduleWord else .namespaceWord
  advance
  match ← kind with
  | .string _ _ =>
    let name ← literalNode
    let body ← if ← at_ "\x7b" then namespaceBlockNode go
      else do
        semicolon
        pure .absent
    node (.namespaceNode word declare) s [name, body]
  | _ => namespaceTail go word declare (← remaining) s

def importEqualsTail (s : Nat) (typeOnly : Bool) (name : Node) : Parser Node := do
  expect "="
  let rs ← start
  let ref ← if ← eatWord "require" then
      expect "("
      let source ← stringNode
      expect ")"
      node .externalModule rs [source]
    else dottedName .typeName
  semicolon
  node (.importEquals typeOnly) s [name, ref]

def declarationBody (s : Nat) (ms : List Modifier) (ds : List Node) : Parser Node := do
  unless ← atWord "class" do refuseDecorators ds
  let declare := Modifier.has ms "declare"
  let bindings : Parser Node := do
    let decl ← variableDeclaration go s declare false
    allowOnly ["declare"] .modifierHere ms
    return decl
  match ← kind with
  | .word w _ =>
    match w with
    | "namespace" | "module" | "global" => namespaceDeclaration go s ms
    | "type" => typeAlias go s ms
    | "interface" => interfaceNode go s ms
    | "enum" => enumNode go s ms
    | "var" | "let" | "const" => bindings
    | "class" => go (.classTail s false ms ds)
    | "function" =>
      let f ← if declare then ambientFunction go s (Modifier.has ms "async")
        else go (.functionTail s .declaration (Modifier.has ms "async") true)
      allowOnly ["declare", "async"] .modifierHere ms
      return f
    | "import" =>
      advance
      let name ← boundName
      importEqualsTail s false name
    | _ =>
      if ← atUsing false then
        note .usingExport (← start)
        bindings
      else unexpected
  | _ => unexpected

def declarationModifiers : List String :=
  ["abstract", "accessor", "async", "declare", "private", "protected", "public", "readonly"]

def startsDeclaration : Parser Bool := do
  let (_, found) ← iterate ((), false) fun _ => do
    match ← kind with
    | .word w _ =>
      if ["var", "let", "const", "function", "class", "enum"].contains w then
        return (((), true), false)
      else if w == "interface" || w == "type" then
        advance
        return (((), (← atBinding) && !(← onNewLine)), false)
      else if w == "module" || w == "namespace" then
        advance
        let isString := match ← kind with
          | .string _ _ => true
          | _ => false
        return (((), !(← onNewLine) && ((← atBinding) || isString)), false)
      else if declarationModifiers.contains w then
        advance
        if ← onNewLine then return (((), false), false)
        return (((), false), true)
      else if w == "global" then
        advance
        return (((), (← atBinding) || (← at_ "\x7b") || (← atWord "export")), false)
      else if w == "static" then
        advance
        return (((), false), true)
      else if w == "import" then
        advance
        let isString := match ← kind with
          | .string _ _ => true
          | _ => false
        return (((), isString || (← atAny ["*", "\x7b"]) || (← atName)), false)
      else if w == "export" then
        advance
        let _ ← eatWord "type"
        if (← atAny ["=", "*", "\x7b", "@"]) || (← atAnyWord ["default", "as"]) then
          return (((), true), false)
        return (((), false), true)
      else return (((), false), false)
    | _ => return (((), false), false)
  return found

-- Declarations of the module itself may wait, those under `export` included; others may not.
def exportedDeclaration (s : Nat) (ds : List Node) : Parser Node := do
  let ms ← modifiers
  within (fun c => { c with ambient := c.ambient || Modifier.has ms "declare" })
    (go (.declaration s ms ds))

def typedDeclaration (s : Nat) : Parser Node := do
  let ms ← modifiers
  within (fun c => { c with ambient := c.ambient || Modifier.has ms "declare", inAsync := false })
    (go (.declaration s ms []))

def declarationWords : List String :=
  ["interface", "type", "module", "namespace", "declare", "enum", "private", "protected", "public",
   "abstract", "accessor", "static", "readonly", "global"]

def markPureStatement : Node → Node
  | .mk (.function info) s ps => .mk (.function { info with pure := true }) s ps
  | .mk (.variableList .constKind d) s (.mk k ds [p, t, v] :: rest) =>
    .mk (.variableList .constKind d) s (.mk k ds [p, t, markPureFunction v] :: rest)
  | .mk .exportDefault s [e] => .mk .exportDefault s [markPureFunction e]
  | .mk (.exportNamed t) s (d :: rest) =>
    match d with
    | .mk (.function info) fs ps =>
      .mk (.exportNamed t) s (.mk (.function { info with pure := true }) fs ps :: rest)
    | .mk (.variableList .constKind dc) vs (.mk k ds [p, ty, v] :: more) =>
      let first : Node := .mk k ds [p, ty, markPureFunction v]
      .mk (.exportNamed t) s (.mk (.variableList .constKind dc) vs (first :: more) :: rest)
    | _ => .mk (.exportNamed t) s (d :: rest)
  | n => n

def classStatement (s : Nat) (single : Bool) (ms : List Modifier) (ds : List Node) : Parser Node := do
  let c ← go (.classTail s false ms ds)
  if single then note .classNested c.span.start
  return c

def functionStatement (s : Nat) (single async : Bool) : Parser Node := do
  let f ← go (.functionTail s .declaration async true)
  match single, f.kind with
  | true, .function info =>
    if info.async then note .asyncNested s
    if info.generator then note .generatorNested s
  | _, _ => pure ()
  return f

def decoratedStatement (s : Nat) (single : Bool) (ds : List Node) : Parser Node := do
  let ms ← modifiers
  if ← atWord "class" then classStatement go s single ms ds
  else
    refuseDecorators ds
    unexpected

def plainStatement (single : Bool) : Parser Node := do
  let s ← start
  match ← kind with
  | .punct "\x7b" => blockNode go
  | .punct ";" => advance; node .empty s []
  | .word w escaped =>
    match w with
    | "if" =>
      advance
      let test ← condition go
      let yes ← nested go
      let no ← if ← eatWord "else" then nested go else pure .absent
      node .ifElse s [test, yes, no]
    | "do" =>
      advance
      let body ← nested go
      expectWord "while"
      let test ← condition go
      let _ ← eat ";"
      node .doWhile s [body, test]
    | "while" =>
      advance
      let test ← condition go
      let body ← nested go
      node .whileLoop s [test, body]
    | "for" => forStatement go s
    | "continue" => jump s .continueTo
    | "break" => jump s .breakOut
    | "return" => returnStatement go s
    | "with" =>
      advance
      let object ← condition go
      let body ← nested go
      node .withObject s [object, body]
    | "switch" => switchStatement go s
    | "throw" => throwStatement go s
    | "try" => tryStatement go s
    | "debugger" =>
      advance
      semicolon
      node .debugger s []
    | "class" => classStatement go s single [] []
    | "function" => functionStatement go s single false
    | "let" => if escaped then expressionOrLabel go s else letStatement go s single
    | "var" => variableStatement go s single
    | "const" =>
      if ← follows (isWord "enum") then
        let m ← takeModifier
        enumNode go s [m]
      else variableStatement go s single
    | "async" =>
      if ← followsOnLine (isWord "function") then
        advance
        functionStatement go s single true
      else expressionOrLabel go s
    | _ =>
      if ← atUsing false then variableStatement go s single
      else if declarationWords.contains w && (← ahead startsDeclaration) then typedDeclaration go s
      else expressionOrLabel go s
  | _ => expressionOrLabel go s

end Rsx.Grammar
