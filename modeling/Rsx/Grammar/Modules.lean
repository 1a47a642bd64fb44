import Rsx.Grammar.Statements

set_option autoImplicit false

namespace Rsx.Grammar

open Rsx.Parser

variable (go : Goal → Parser Node)

def moduleName : Parser Node := do
  match ← kind with
  | .string v _ =>
    if v.any isSurrogate then note .exportSurrogate (← start)
    literalNode
  | _ => anyName .property

def atModuleName : Parser Bool := do
  match ← kind with
  | .string _ _ => return true
  | _ => atName

def renamedItem (typeOnly : Bool) (name : Node) : Parser (Bool × Node × Node) := do
  if ← eatWord "as" then
    let last ← moduleName
    return (typeOnly, name, last)
  else return (typeOnly, name, name)

-- One item of a list: whether it is a type only, its first name and its last. In `type as as x` it
-- is the second `as` that is renamed.
def moduleItem : Parser (Bool × Node × Node) := do
  let isType ← atWord "type"
  let first ← moduleName
  unless isType do return ← renamedItem false first
  if ← atWord "as" then
    let firstAs ← anyName .property
    if ← atWord "as" then
      let secondAs ← anyName .property
      if ← atModuleName then return (true, secondAs, ← moduleName)
      else return (false, first, secondAs)
    else if ← atModuleName then return (false, first, ← moduleName)
    else return (true, firstAs, firstAs)
  else if ← atModuleName then
    let name ← moduleName
    renamedItem true name
  else return (false, first, first)

def attributeKey : Parser Node := do
  match ← kind with
  | .string _ _ => literalNode
  | _ => anyName .property

def importAttribute : Parser Node := do
  let s ← start
  let key ← attributeKey
  expect ":"
  let value ← match ← kind with
    | .string _ _ => literalNode
    | _ => stop .attributeValue (← start)
  node .attribute s [key, value]

-- A key that is given again is noted where it stood last.
def checkAttributes : List Node → List Node → Parser Unit
  | _, [] => pure ()
  | seen, a :: rest => do
    let key := a.part 0
    match seen.find? fun k => keyText k == keyText key with
    | some k => note (.attributeTwice (keyText key)) k.span.start
    | none => pure ()
    checkAttributes (key :: seen) rest

def importAttributes : Parser Node := do
  let w ← wordText
  if w == "with" || (w == "assert" && !(← onNewLine)) then
    advance
    let s ← start
    expect "\x7b"
    let (items, _) ← delimited "\x7d" "," importAttribute
    expect "\x7d"
    checkAttributes [] items
    node (.attributes w) s items
  else return .absent

def importItem (inTypes : Bool) : Parser Node := do
  let s ← start
  let (typeOnly, imported, bound) ← moduleItem
  if typeOnly && inTypes then note .typeTwiceInImport s
  match bound.kind with
  | .name _ text =>
    if isReserved text then stop (.reservedWord text) bound.span.start
    node (.importNamed typeOnly) s [imported, bound.withKind (.name .binding text)]
  | _ => stop .identifierExpected bound.span.start

def importNamespace : Parser Node := do
  let s ← start
  expect "*"
  expectWord "as"
  let bound ← boundName
  node .importNamespace s [bound]

def importList (inTypes : Bool) : Parser (List Node) := do
  expect "\x7b"
  let (items, _) ← delimited "\x7d" "," (importItem inTypes)
  expect "\x7d"
  return items

structure Phase where
  word : String
  start : Nat

def checkPhase (phase : Phase) (hasDefault : Bool) (more : List Node) : Parser Unit := do
  let isNamespace := match more with
    | [.mk .importNamespace _ _] => true
    | _ => false
  if phase.word == "defer" then
    if hasDefault then note .deferDefault phase.start
    else unless isNamespace do note .deferNamed phase.start
  else if phase.word == "source" then
    unless hasDefault && more.isEmpty do note .sourceImport phase.start

def importTail (s : Nat) (typeOnly : Bool) (phase : Phase) (default? : Option Node) : Parser Node := do
  let first := match default? with
    | some name => [Node.mk .importDefault name.span [name]]
    | none => []
  let (more, isList) ← if default?.isNone then
      if ← at_ "*" then pure ([← importNamespace], true) else pure (← importList typeOnly, true)
    else do
      if ← eat "," then
        if ← at_ "*" then pure ([← importNamespace], true)
        else if ← at_ "\x7b" then pure (← importList typeOnly, true)
        else unexpected
      else pure ([], false)
  match typeOnly && isList, default? with
  | true, some name => note .typeImportBoth name.span.start
  | _, _ => pure ()
  expectWord "from"
  let source ← stringNode
  let attributes ← importAttributes
  semicolon
  checkPhase phase default?.isSome more
  node (.importFrom typeOnly phase.word) s [.group (first ++ more), source, attributes]

-- After `import type`, more import has to follow for `type` to be a modifier.
def atTypeImport : Parser Bool := do
  unless ← atWord "type" do return false
  ahead do
    advance
    match ← kind with
    | .punct p => return p == "\x7b" || p == "*"
    | .word "from" _ => follows fun k => isWord "from" k || isPunct "=" k
    | .word _ _ => atBinding
    | _ => return false

def atPhase : Parser Bool := do
  unless ← atAnyWord ["defer", "source"] do return false
  ahead do
    advance
    match ← kind with
    | .punct p => return p == "\x7b" || p == "*"
    | .word "from" _ => follows (isWord "from")
    | .word _ _ => atBinding
    | _ => return false

def importDeclaration (s : Nat) : Parser Node := do
  advance
  match ← kind with
  | .string _ _ =>
    let source ← stringNode
    let attributes ← importAttributes
    semicolon
    return ← node (.importFrom false "") s [.absent, source, attributes]
  | _ => pure ()
  let typeOnly ← atTypeImport
  if typeOnly then advance
  let phase : Phase ← if ← atPhase then
      let p : Phase := ⟨← wordText, ← start⟩
      advance
      pure p
    else pure ⟨"", s⟩
  if ← atBinding then
    let name ← boundName
    if ← at_ "=" then return ← importEqualsTail s typeOnly name
    importTail s typeOnly phase (some name)
  else importTail s typeOnly phase none

def exportItem (inTypes : Bool) : Parser Node := do
  let s ← start
  let (typeOnly, bound, exported) ← moduleItem
  if typeOnly && inTypes then note .typeTwiceInExport s
  node (.exportSpecifier typeOnly) s [bound, exported]

def refersLocally : Node → Node
  | .mk (.exportSpecifier t) s [bound, exported] =>
    match bound.kind with
    | .name _ text => .mk (.exportSpecifier t) s [bound.withKind (.name .exported text), exported]
    | _ => .mk (.exportSpecifier t) s [bound, exported]
  | n => n

def isReservedInModules (w : String) : Bool :=
  isReserved w || ["await", "yield", "implements", "interface", "package", "private", "protected",
    "public", "static"].contains w

def checkLocal (n : Node) : Parser Unit := do
  let bound := n.part 0
  match bound.kind with
  | .name _ text => if isReservedInModules text then note .exportReserved bound.span.start
  | _ => note .exportString bound.span.start

def exportList (s : Nat) (typeOnly : Bool) : Parser Node := do
  expect "\x7b"
  let (items, _) ← delimited "\x7d" "," (exportItem typeOnly)
  expect "\x7d"
  if (← atWord "from") && (← follows isLiteralStart) then
    advance
    let source ← stringNode
    let attributes ← importAttributes
    semicolon
    node (.exportNamed typeOnly) s [.absent, .group items, source, attributes]
  else
    for i in items do checkLocal i
    semicolon
    node (.exportNamed typeOnly) s [.absent, .group (items.map refersLocally), .absent, .absent]

def exportAll (s : Nat) (typeOnly : Bool) : Parser Node := do
  expect "*"
  let exported ← if ← eatWord "as" then moduleName else pure .absent
  expectWord "from"
  let source ← stringNode
  let attributes ← importAttributes
  semicolon
  node (.exportAll typeOnly) s [exported, source, attributes]

def laterDecorators (given : List Node) : Parser (List Node) := do
  let later ← decorators go
  unless given.isEmpty do
    for d in later do note .decoratorsTwice d.span.start
  return given ++ later

def exportDefault (s : Nat) (given : List Node) : Parser Node := do
  advance
  let ds ← start
  let decs ← laterDecorators go given
  let atClass ← atWord "class"
  let atAbstract := (← atWord "abstract") && (← follows (isWord "class"))
  unless atClass || atAbstract do refuseDecorators decs
  let decl ← match ← kind with
    | .word "class" _ => go (.classTail ds false [] decs)
    | .word "abstract" _ =>
      if atAbstract then do
        let m ← takeModifier
        go (.classTail ds false [m] decs)
      else exportedValue
    | .word "interface" _ =>
      if ← followsOnLine isBinding then interfaceNode go ds [] else exportedValue
    | .word "function" _ => go (.functionTail ds .declaration false false)
    | .word "async" _ =>
      if ← followsOnLine (isWord "function") then do
        advance
        go (.functionTail ds .declaration true false)
      else exportedValue
    | _ => exportedValue
  node .exportDefault s [decl]
where
  exportedValue : Parser Node := do
    let e ← allowingIn (assignment go)
    semicolon
    return e

def exportedImport (s : Nat) : Parser Node := do
  let is ← start
  let stmt ← importDeclaration is
  match stmt.kind with
  | .importEquals _ => node (.exportNamed false) s [stmt, .group [], .absent, .absent]
  | _ => stop .unexpectedExport is

def exportDeclaration (s : Nat) (given : List Node) : Parser Node := do
  advance
  let declared (decs : List Node) : Parser Node := do
    let ds ← start
    let decl ← exportedDeclaration go ds decs
    node (.exportNamed false) s [decl, .group [], .absent, .absent]
  match ← kind with
  | .punct "*" => refuseDecorators given; exportAll s false
  | .punct "\x7b" => refuseDecorators given; exportList s false
  | .punct "=" =>
    refuseDecorators given
    advance
    let e ← assignment go
    semicolon
    node .exportAssignment s [e]
  | .punct "@" =>
    let ds ← start
    let decs ← laterDecorators go given
    let decl ← exportedDeclaration go ds decs
    node (.exportNamed false) s [decl, .group [], .absent, .absent]
  | .word "default" _ => exportDefault go s given
  | .word "import" _ => refuseDecorators given; exportedImport s
  | k =>
    if isWord "as" k && (← follows (isWord "namespace")) then
      refuseDecorators given
      advance
      advance
      let name ← anyName .property
      semicolon
      return ← node .namespaceExport s [name]
    if isWord "type" k && (← follows fun k => isPunct "\x7b" k || isPunct "*" k) then
      refuseDecorators given
      advance
      if ← at_ "\x7b" then return ← exportList s true
      return ← exportAll s true
    declared given

def statementBody (single : Bool) : Parser Node := do
  let t ← token
  let s := t.start
  let stmt ← match t.kind with
    | .word "import" _ =>
      if ← follows fun k => isPunct "." k || isPunct "(" k then plainStatement go single
      else importDeclaration s
    | .word "export" _ => exportDeclaration go s []
    | .punct "@" => do
      let ds ← decorators go
      if ← atWord "export" then exportDeclaration go s ds else decoratedStatement go s single ds
    | _ => plainStatement go single
  return if t.noSideEffects then markPureStatement stmt else stmt

end Rsx.Grammar
