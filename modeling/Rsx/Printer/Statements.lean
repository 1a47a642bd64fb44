import Rsx.Printer.Types

set_option autoImplicit false

namespace Rsx.Printer

variable (go : Node → Nat → PrintContext → Printer Unit)

-- A string that opens a body without being a directive is wrapped.
def openingString? (directives statements : List Node) : Option Node :=
  match directives, statements with
  | [], .mk .expression _ [e] :: _ =>
    match e.unwrapped.kind with
    | .stringLit _ _ => some e.unwrapped
    | _ => none
  | _, _ => none

def printBody (directives statements : List Node) (ctx : PrintContext) : Printer Unit := do
  for d in directives do inList go ctx d
  match openingString? directives statements with
  | some e =>
    put "("
    plain go e
    put ")"
    semicolonLine
    for s in statements.drop 1 do inList go ctx s
  | none => for s in statements do inList go ctx s

def printBlock (n : Node) (ctx : PrintContext) : Printer Unit :=
  printBraces n.span n.parts.isEmpty do for s in n.parts do inList go ctx s

def hasNewlineAround (c : Comment) : Bool := c.afterNewline || c.beforeNewline

def printFunctionBody (n : Node) (ctx : PrintContext) : Printer Unit := do
  let cs ← if n.span.stop > 0 then takeComments (n.span.stop - 1) else pure []
  let directives := (n.part 0).parts
  let statements := (n.part 1).parts
  let single := directives.isEmpty && statements.isEmpty && cs.all fun c => !hasNewlineAround c
  printBraces n.span single do
    printBody go directives statements ctx
    unless cs.isEmpty do
      printComments cs
      modify fun st => { st with indentAsSpace := false }

def openStatement (n : Node) : Printer Unit := do
  commentsAt n.span.start
  mark n.span
  printIndent
  spaceBeforeIdentifier

-- At the left margin, what follows has its own mark.
def openIndented (n : Node) : Printer Unit := do
  commentsAt n.span.start
  let st ← get
  if st.indent > 0 || st.indentAsSpace then
    mark n.span
    printIndent

def printNested (n : Node) (ctx : PrintContext) : Printer Unit := do
  match n.kind with
  | .block =>
    space
    printBlock go n ctx
    newline
  | .empty => put ";\n"
  | _ =>
    modify fun st => { st with indentAsSpace := true }
    inList go ctx n

def capturesElse : Node → Bool
  | .mk .ifElse _ [_, _, no] => no.isAbsent || capturesElse no
  | .mk .forLoop _ [_, _, _, body] => capturesElse body
  | .mk .forIn _ [_, _, body] => capturesElse body
  | .mk (.forOf _) _ [_, _, body] => capturesElse body
  | .mk .whileLoop _ [_, body] => capturesElse body
  | .mk .withObject _ [_, body] => capturesElse body
  | .mk .labeled _ [_, body] => capturesElse body
  | _ => false

def printIf (ctx : PrintContext) : Node → Printer Unit
  | .mk .ifElse _ [test, yes, no] => do
    put "if ("
    plain go test
    put ")"
    let gap : Printer Unit := if no.isAbsent then newline else space
    match yes.kind with
    | .block =>
      space
      printBlock go yes ctx
      gap
    | _ =>
      if capturesElse yes then
        space
        printBraces yes.span false (inList go ctx yes)
        gap
      else
        printNested go yes ctx
        unless no.isAbsent do printIndent
    unless no.isAbsent do
      spaceBeforeIdentifier
      put "else"
      match no.kind with
      | .block =>
        space
        printBlock go no ctx
        newline
      | .ifElse =>
        space
        printIf ctx no
      | _ => printNested go no ctx
  | _ => pure ()

def isAsyncTarget (n : Node) : Bool :=
  match n with
  | .mk .target _ [.mk (.name _ "async") _ _] => true
  | .mk (.name _ "async") _ _ => true
  | _ => false

def printLoopHead (word : String) (left : Node) (middle : String) (right : Node) (level : Nat) :
    Printer Unit := do
  put (word ++ " (")
  wrap (isAsyncTarget left) (go left Level.comma ⟨true, false⟩)
  put middle
  free go right level
  put ")"

def isPureFunction (n : Node) : Bool :=
  match n.kind with
  | .function info => info.pure
  | _ => false

def printVariables (n : Node) (kind : VariableKind) (declare : Bool) (ctx : PrintContext) :
    Printer Unit := do
  mark n.span
  spaceBeforeIdentifier
  if declare then put "declare "
  put (kind.text ++ " ")
  separated n.parts fun d => go d Level.lowest ctx

def printDecorators (ds : List Node) : Printer Unit := do
  for d in ds do
    plain go d
    space

def isPlainDecorator : Node → Bool
  | .mk (.name _ _) _ _ => true
  | .mk (.member _) _ _ => true
  | .mk (.privateMember _) _ _ => true
  | .mk (.call _ _) _ (callee :: _) => isPlainDecorator callee
  | _ => false

def printClass (n : Node) (info : ClassInfo) (ctx : PrintContext) : Printer Unit := do
  let at_ ← here
  let st ← get
  let starts := st.statementStart == some at_ || st.defaultStart == some at_
  wrap (info.isExpression && starts) do
    printDecorators go (n.part 0).parts
    spaceBeforeIdentifier
    mark n.span
    if info.declare then put "declare "
    if info.abstract then put "abstract "
    put "class"
    unless (n.part 1).isAbsent do
      space
      plain go (n.part 1)
      plain go (n.part 2)
    unless (n.part 3).isAbsent do
      put " extends "
      free go (n.part 3) Level.afterOperand
      plain go (n.part 4)
    let interfaces := (n.part 5).parts
    unless interfaces.isEmpty do
      put " implements "
      separated interfaces (plain go)
    space
    go (n.part 6) Level.lowest { ctx with forbidCall := false }

def printAccess (info : MemberInfo) : Printer Unit :=
  match info.access with
  | some a => put (a.text ++ " ")
  | none => pure ()

def printMethodModifiers (info : MemberInfo) : Printer Unit := do
  printAccess info
  if info.abstract then put "abstract "
  if info.isStatic then put "static "

def printFieldModifiers (info : MemberInfo) : Printer Unit := do
  if info.declare then put "declare "
  printAccess info
  if info.abstract then put "abstract "
  if info.isStatic then put "static "
  if info.readonly then put "readonly "

def printAccessorModifiers (info : MemberInfo) : Printer Unit := do
  if info.abstract then put "abstract "
  printAccess info
  if info.isStatic then put "static "
  if info.override then put "override "

def printMethod (n : Node) (role : MethodRole) (info : MemberInfo) (ctx : PrintContext) :
    Printer Unit := do
  mark n.span
  printDecorators go (n.part 0).parts
  printMethodModifiers info
  match role with
  | .get => put "get "
  | .set => put "set "
  | _ => pure ()
  let f := n.part 2
  match f.kind with
  | .function finfo =>
    if finfo.async then put "async "
    if finfo.generator then put "*"
  | _ => pure ()
  printKey go (n.part 1) info.computed
  if info.optional then put "?"
  printFunctionParts go f (f.part 2) ctx
  if (f.part 5).isAbsent then put ";"

def printField (n : Node) (accessor : Bool) (info : MemberInfo) : Printer Unit := do
  mark n.span
  printDecorators go (n.part 0).parts
  if accessor then
    printAccessorModifiers info
    put "accessor "
    printKey go (n.part 1) info.computed
    if info.definite then put "!"
  else
    printFieldModifiers info
    printKey go (n.part 1) info.computed
    if info.optional then put "?"
  after go ": " (n.part 2)
  unless (n.part 3).isAbsent do
    put " = "
    free go (n.part 3) Level.comma

def endsWithSemicolon (n : Node) : Bool :=
  match n.kind with
  | .field _ _ | .indexSignature _ _ => true
  | _ => false

def printAttributes (n : Node) : Printer Unit := do
  match n.kind with
  | .attributes word =>
    space
    mark n.span
    put (word ++ " \x7b")
    unless n.parts.isEmpty do
      space
      separated n.parts (plain go)
      space
    put "\x7d"
  | _ => pure ()

def isImportNamed (n : Node) : Bool :=
  match n.kind with
  | .importNamed _ => true
  | _ => false

def printSpecifiers (specifiers : List Node) : Printer Unit := do
  let whole := specifiers.filter fun s => !isImportNamed s
  let named := specifiers.filter isImportNamed
  space
  separated whole (plain go)
  unless named.isEmpty && !whole.isEmpty do
    unless whole.isEmpty do comma
    put "\x7b"
    unless named.isEmpty do
      space
      separated named (plain go)
      space
    put "\x7d"

def textOf (n : Node) : Option String :=
  match n.kind with
  | .name _ text => some text
  | .stringLit v _ => some v.toString
  | _ => none

def printRenaming (outer inner : Node) (typeOnly : Bool) (p : Node → Printer Unit) :
    Printer Unit := do
  if typeOnly then put "type "
  p outer
  unless textOf outer == textOf inner do
    put " as "
    p inner

def printExportedName (n : Node) : Printer Unit := do
  unless n.span.isNowhere do inlineComments n.span.start
  plain go n

def printImportSource (source : Node) (unmarked : Bool) : Printer Unit :=
  match unmarked, source.kind with
  | true, .stringLit v _ => put ("\"" ++ v.toString ++ "\"")
  | _, _ => plain go source

def takesSemicolon (n : Node) : Bool :=
  match n.kind with
  | .variableList _ _ | .typeAlias _ | .importEquals _ => true
  | _ => false

def noSideEffectsLine : Printer Unit := do
  put "/* @__NO_SIDE_EFFECTS__ */"
  newline

def printExportNamed (n : Node) (typeOnly : Bool) (ctx : PrintContext) : Printer Unit := do
  commentsAt n.span.start
  mark n.span
  printIndent
  let decl := n.part 0
  if isPureFunction decl then
    noSideEffectsLine
    printIndent
  put "export"
  if typeOnly then put " type"
  if decl.isAbsent then
    put " \x7b"
    let specifiers := (n.part 1).parts
    unless specifiers.isEmpty do
      space
      separated specifiers (plain go)
      space
    put "\x7d"
    after go " from " (n.part 2)
    semicolonLine
  else
    space
    go decl Level.lowest ctx
    if takesSemicolon decl then semicolonLine else newline

def isDeclaration (n : Node) : Bool :=
  match n.kind with
  | .function info => info.form == .declaration || info.form == .overload
  | .classNode info => !info.isExpression
  | .interface _ => true
  | _ => false

def isInterface (n : Node) : Bool :=
  match n.kind with
  | .interface _ => true
  | _ => false

def printExportDefault (n : Node) (ctx : PrintContext) : Printer Unit := do
  commentsAt n.span.start
  mark n.span
  printIndent
  let decl := n.part 0
  if isPureFunction decl && isDeclaration decl then
    noSideEffectsLine
    printIndent
  put "export default "
  if isDeclaration decl then
    go decl Level.lowest ctx
    unless isInterface decl do newline
  else
    modify fun st => { st with defaultStart := some st.length }
    free go decl Level.comma
    semicolonLine

def printTypeStatement (n : Node) : Printer Unit := do
  printIndent
  commentsAt n.span.start
  printType go n
  if takesSemicolon n then semicolonLine else newline

def printStatement (n : Node) (ctx : PrintContext) : Printer Unit := do
  match n.kind with
  | .directive raw =>
    commentsAt n.span.start
    mark n.span
    printIndent
    let quote := (directiveQuote raw.toList).toString
    put (quote ++ raw ++ quote)
    semicolonLine
  | .block =>
    commentsAt n.span.start
    printIndent
    printBlock go n ctx
    newline
  | .empty =>
    openStatement n
    semicolonLine
  | .expression =>
    openIndented n
    modify fun st => { st with statementStart := some st.length }
    plain go (n.part 0)
    semicolonLine
  | .ifElse =>
    openStatement n
    printIf go ctx n
  | .doWhile =>
    openStatement n
    put "do"
    let body := n.part 0
    match body.kind with
    | .block =>
      space
      printBlock go body ctx
      space
    | .empty => inList go ctx body
    | _ =>
      newline
      indent
      inList go ctx body
      dedent
      printIndent
    put "while ("
    plain go (n.part 1)
    put ")"
    semicolonLine
  | .whileLoop =>
    openStatement n
    put "while ("
    plain go (n.part 0)
    put ")"
    printNested go (n.part 1) ctx
  | .forLoop =>
    openStatement n
    put "for ("
    go (n.part 0) Level.lowest ⟨true, false⟩
    put ";"
    after go " " (n.part 1)
    put ";"
    after go " " (n.part 2)
    put ")"
    printNested go (n.part 3) ctx
  | .forIn =>
    openStatement n
    printLoopHead go "for" (n.part 0) " in " (n.part 1) Level.lowest
    printNested go (n.part 2) ctx
  | .forOf await =>
    openStatement n
    printLoopHead go (if await then "for await" else "for") (n.part 0) " of " (n.part 1) Level.comma
    printNested go (n.part 2) ctx
  | .continueTo =>
    openStatement n
    put "continue"
    after go " " (n.part 0)
    semicolonLine
  | .breakOut =>
    openStatement n
    put "break"
    after go " " (n.part 0)
    semicolonLine
  | .returnWith =>
    openStatement n
    put "return"
    after go " " (n.part 0)
    semicolonLine
  | .withObject =>
    openStatement n
    put "with("
    plain go (n.part 0)
    put ")"
    printNested go (n.part 1) ctx
  | .switch =>
    openStatement n
    put "switch ("
    plain go (n.part 0)
    put ") "
    let cases := (n.part 1).parts
    printBraces n.span cases.isEmpty do
      for c in cases do go c Level.lowest ctx
    newline
  | .case =>
    printIndent
    mark n.span
    let test := n.part 0
    if test.isAbsent then put "default" else
      put "case "
      plain go test
    put ":"
    match (n.part 1).parts with
    | [s] => printNested go s ctx
    | ss =>
      newline
      indent
      for s in ss do inList go ctx s
      dedent
  | .labeled =>
    openIndented n
    spaceBeforeIdentifier
    plain go (n.part 0)
    put ":"
    printNested go (n.part 1) ctx
  | .throwValue =>
    openStatement n
    put "throw "
    plain go (n.part 0)
    semicolonLine
  | .tryCatch =>
    openStatement n
    put "try "
    printBlock go (n.part 0) ctx
    go (n.part 1) Level.lowest ctx
    let finalizer := n.part 2
    unless finalizer.isAbsent do
      put " finally "
      printBlock go finalizer ctx
    newline
  | .catchClause =>
    space
    commentsAt n.span.start
    put "catch"
    let param := n.part 0
    unless param.isAbsent do
      put " ("
      plain go param
      put ")"
    space
    inlineComments (n.part 1).span.start
    printBlock go (n.part 1) ctx
  | .catchParameter =>
    plain go (n.part 0)
    after go ": " (n.part 1)
  | .debugger =>
    openStatement n
    put "debugger"
    semicolonLine
  | .variableList kind declare => printVariables go n kind declare ctx
  | .declarator definite =>
    go (n.part 0) Level.lowest ctx
    if definite then put "!"
    after go ": " (n.part 1)
    unless (n.part 2).isAbsent do
      put " = "
      go (n.part 2) Level.comma ctx
  | .classNode info => printClass go n info ctx
  | .classBody =>
    printBraces n.span n.parts.isEmpty do
      for m in n.parts do
        commentsAt m.span.start
        printIndent
        go m Level.lowest ctx
        if endsWithSemicolon m then semicolonLine else newline
  | .method role info => printMethod go n role info ctx
  | .field accessor info => printField go n accessor info
  | .staticBlock =>
    mark n.span
    put "static "
    printBraces n.span n.parts.isEmpty do for s in n.parts do inList go ctx s
  | .decorator =>
    mark n.span
    put "@"
    wrap (!isPlainDecorator (n.part 0)) (plain go (n.part 0))
  | .importFrom typeOnly phase =>
    openStatement n
    put "import"
    if typeOnly then put " type"
    unless phase.isEmpty do put (" " ++ phase)
    let specifiers := n.part 0
    if specifiers.isAbsent then space
    else
      printSpecifiers go specifiers.parts
      put " from "
    printImportSource go (n.part 1) (!specifiers.isAbsent && specifiers.parts.isEmpty)
    printAttributes go (n.part 2)
    semicolonLine
  | .importNamed typeOnly => printRenaming (n.part 0) (n.part 1) typeOnly (plain go)
  | .importDefault => plain go (n.part 0)
  | .importNamespace =>
    put "* as "
    plain go (n.part 0)
  | .attribute =>
    match (n.part 0).kind with
    | .name _ text => put text
    | _ => plain go (n.part 0)
    put ": "
    plain go (n.part 1)
  | .exportNamed typeOnly => printExportNamed go n typeOnly ctx
  | .exportSpecifier typeOnly =>
    printRenaming (n.part 0) (n.part 1) typeOnly (printExportedName go)
  | .exportDefault => printExportDefault go n ctx
  | .exportAll typeOnly =>
    openStatement n
    put "export "
    if typeOnly then put "type "
    put "*"
    unless (n.part 0).isAbsent do
      put " as "
      printExportedName go (n.part 0)
    put " from "
    plain go (n.part 1)
    printAttributes go (n.part 2)
    semicolonLine
  | .importEquals _ =>
    put "import "
    plain go (n.part 0)
    put " = "
    plain go (n.part 1)
  | .externalModule =>
    put "require("
    plain go (n.part 0)
    put ")"
  | .exportAssignment =>
    printIndent
    put "export = "
    plain go (n.part 0)
    semicolonLine
  | .namespaceExport =>
    printIndent
    put "export as namespace "
    plain go (n.part 0)
    semicolonLine
  | _ => pure ()

def printInList (n : Node) (ctx : PrintContext) : Printer Unit := do
  match n.kind with
  | .variableList kind declare =>
    commentsAt n.span.start
    printIndent
    printVariables go n kind declare ctx
    semicolonLine
  | .function info =>
    commentsAt n.span.start
    if info.pure then
      printIndent
      noSideEffectsLine
    printIndent
    printFunction go n info ctx
    newline
  | .classNode info =>
    commentsAt n.span.start
    printIndent
    printClass go n info ctx
    newline
  | .namespaceNode _ _ =>
    commentsAt n.span.start
    printIndent
    printType go n
    newline
  | .typeAlias _ | .interface _ | .enum _ _ => printTypeStatement go n
  | .importEquals _ =>
    printIndent
    commentsAt n.span.start
    printStatement go n .free
    semicolonLine
  | _ => printStatement go n ctx

end Rsx.Printer
