import Rsx.Printer.Literals

set_option autoImplicit false

namespace Rsx.Printer

namespace Level

abbrev lowest : Nat := 0
abbrev comma : Nat := 1
abbrev spread : Nat := 2
abbrev yield : Nat := 3
abbrev assign : Nat := 4
abbrev conditional : Nat := 5
abbrev coalesce : Nat := 6
abbrev or : Nat := 7
abbrev and : Nat := 8
abbrev bitOr : Nat := 9
abbrev bitXor : Nat := 10
abbrev bitAnd : Nat := 11
abbrev equals : Nat := 12
abbrev compare : Nat := 13
abbrev shift : Nat := 14
abbrev add : Nat := 15
abbrev multiply : Nat := 16
abbrev exponent : Nat := 17
abbrev beforeOperand : Nat := 18
abbrev afterOperand : Nat := 19
abbrev new : Nat := 20
abbrev call : Nat := 21

-- Not a strength: the node stands in a list of statements.
abbrev statement : Nat := 100

def ofBinary : BinaryOp → Nat
  | .add | .sub => add
  | .mul | .div | .rem => multiply
  | .exp => exponent
  | .shl | .shr | .ushr => shift
  | .bitAnd => bitAnd
  | .bitOr => bitOr
  | .bitXor => bitXor
  | .eq | .ne | .strictEq | .strictNe => equals
  | .lt | .le | .gt | .ge | .isIn | .instanceOf => compare

def ofLogical : LogicalOp → Nat
  | .and => and
  | .or => or
  | .coalesce => coalesce

end Level

variable (go : Node → Nat → PrintContext → Printer Unit)

def free (n : Node) (level : Nat) : Printer Unit := go n level .free

def printName (role : NameRole) (text : String) (span : Span) : Printer Unit := do
  match role with
  | .privateName =>
    put "#"
    markName span text
    put text
  | .property =>
    markName span text
    put text
  | _ =>
    spaceBeforeIdentifier
    markName span text
    put text

def printKey (key : Node) (computed : Bool) : Printer Unit := do
  if computed then put "["
  free go key Level.comma
  if computed then put "]"

def isNamed (n : Node) (text : String) : Bool :=
  match n.unwrapped.kind with
  | .name .value t | .name .binding t => t == text
  | _ => false

def isShorthand (key value : Node) (computed shorthand : Bool) : Bool :=
  if computed then false
  else
    match key.kind with
    | .name .property "__proto__" => shorthand
    | .name .property text => isNamed value text
    | _ => false

def printFunctionParts (f this : Node) (ctx : PrintContext) : Printer Unit := do
  free go (f.part 1) Level.lowest
  put "("
  let params := f.part 3
  unless this.isAbsent do
    go this Level.lowest ctx
    unless params.parts.isEmpty do comma
  go params Level.lowest ctx
  put ")"
  let result := f.part 4
  unless result.isAbsent do
    put ": "
    free go result Level.lowest
  let body := f.part 5
  unless body.isAbsent do
    space
    go body Level.lowest ctx

def functionInfo? (n : Node) : Option FunctionInfo :=
  match n.kind with
  | .function info => some info
  | _ => none

def isInfinite (n : Node) : Bool :=
  match n.kind with
  | .numberLit .infinite _ => true
  | _ => false

-- A method has no `this` parameter here; an infinite key is a name that has to be computed.
def printProperty (span : Span) (info : PropertyInfo) (key value : Node) (ctx : PrintContext) :
    Printer Unit := do
  match functionInfo? value with
  | some f =>
    if info.method || info.role ≠ .init then
      mark span
      match info.role with
      | .get => put "get "
      | .set => put "set "
      | .init => pure ()
      if f.async then put "async "
      if f.generator then put "*"
      printKey go key info.computed
      printFunctionParts go value .absent ctx
      return
    mark span
  | none => pure ()
  unless isShorthand key value info.computed info.shorthand do
    printKey go key (info.computed || isInfinite key)
    put ": "
  free go value Level.comma

def printObject (span : Span) (properties : List Node) (ctx : PrintContext) : Printer Unit := do
  let n ← here
  let st ← get
  let many := properties.length > 1
  let commented ← hasComments span.start
  let commented := commented && !span.isNowhere
  wrap (commented || st.statementStart == some n || st.arrowStart == some n) do
    if commented then
      commentsAt span.start
      printIndent
    mark span
    put "\x7b"
    if many then indent
    for (p, i) in properties.zipIdx do
      if i ≠ 0 then put ","
      if many then
        newline
        printIndent
      else space
      go p Level.comma ctx
    if many then
      newline
      dedent
      printIndent
    else unless properties.isEmpty do space
    put "\x7d"
    markEnd span

def isHole (n : Node) : Bool :=
  match n.kind with
  | .hole => true
  | _ => false

def printArray (span : Span) (elements : List Node) : Printer Unit := do
  let many := elements.length > 2
  mark span
  put "["
  if many then indent
  for (e, i) in elements.zipIdx do
    if i ≠ 0 then put ","
    if many then
      newline
      printIndent
    else if i ≠ 0 then space
    free go e Level.comma
    if i + 1 = elements.length && isHole e then put ","
  if many then
    newline
    dedent
    printIndent
  put "]"
  markEnd span

def printItems (items : List Node) (ctx : PrintContext) : Printer Unit := do
  for (e, i) in items.zipIdx do
    if i ≠ 0 then comma
    go e Level.comma ctx
    if i + 1 = items.length && isHole e then put ","

def printListWithComments (args : List Node) : Printer Unit := do
  for (a, i) in args.zipIdx do
    if i ≠ 0 then put ","
    unless ← ownLineComments a.span.start do newline
    printIndent
    free go a Level.comma

def hasNodeComments (n : Node) : Printer Bool :=
  if n.span.isNowhere then return false else hasComments n.span.start

def printArguments (span : Span) (args : List Node) : Printer Unit := do
  put "("
  let before ← if span.stop > 0 then hasComments (span.stop - 1) else pure false
  let inside ← args.anyM hasNodeComments
  if before || inside then
    indent
    printListWithComments go args
    let printed ← if before then ownLineComments (span.stop - 1) else pure false
    unless printed do newline
    dedent
    printIndent
  else separated args fun a => free go a Level.comma
  put ")"
  markEnd span

def pureComment : String := "/* @__PURE__ */ "

def noSideEffectsComment : String := "/* @__NO_SIDE_EFFECTS__ */ "

def printCall (n : Node) (optional pure : Bool) (level : Nat) (ctx : PrintContext) : Printer Unit := do
  let at_ ← here
  let st ← get
  let isDefault := st.defaultStart == some at_
  let isStatement := st.statementStart == some at_
  let wrapped := level ≥ Level.new || ctx.forbidCall || (pure && level ≥ Level.afterOperand)
  wrap wrapped do
    if pure then
      mark n.span
      put pureComment
    if isDefault then modify fun st => { st with defaultStart := some st.length }
    else if isStatement then modify fun st => { st with statementStart := some st.length }
    free go (n.part 0) Level.afterOperand
    if optional then put "?."
    free go (n.part 1) Level.lowest
    printArguments go n.span (n.part 2).parts

def printNew (n : Node) (pure : Bool) (level : Nat) : Printer Unit := do
  wrap (level ≥ Level.call || (pure && level ≥ Level.afterOperand)) do
    if pure then put pureComment
    spaceBeforeIdentifier
    mark n.span
    put "new "
    go (n.part 0) Level.new ⟨false, true⟩
    free go (n.part 1) Level.lowest
    printArguments go n.span (n.part 2).parts

def printImportCall (n : Node) (phase : String) (level : Nat) (ctx : PrintContext) : Printer Unit := do
  let source := n.part 0
  let options := n.part 1
  let before ← if n.span.stop > 0 then hasComments (n.span.stop - 1) else pure false
  let inSource ← hasNodeComments source
  let inOptions ← hasNodeComments options
  let commented := before || inSource || inOptions
  wrap (level ≥ Level.new || ctx.forbidCall) do
    spaceBeforeIdentifier
    mark n.span
    put "import"
    unless phase.isEmpty do put ("." ++ phase)
    put "("
    if commented then indent
    if ← ownLineComments source.span.start then printIndent
    else if commented then
      newline
      printIndent
    free go source Level.comma
    unless options.isAbsent do
      put ","
      if commented then
        newline
        printIndent
      else space
      free go options Level.comma
    if commented then
      unless ← ownLineComments (n.span.stop - 1) do newline
      dedent
    put ")"

def isKeywordOp : UnaryOp → Bool
  | .typeOf | .void | .delete => true
  | _ => false

def printUnary (span : Span) (op : UnaryOp) (e : Node) (level : Nat) (ctx : PrintContext) :
    Printer Unit := do
  wrap (level ≥ Level.beforeOperand) do
    if isKeywordOp op then
      spaceBeforeIdentifier
      mark span
      put op.text
      space
    else
      spaceBeforeOperator (.unary op)
      mark span
      put op.text
      noteOperator (.unary op)
    if op == .delete && isInfinite e then
      put "(0, "
      go e Level.exponent ctx
      put ")"
    else go e Level.exponent ctx

def printUpdate (span : Span) (op : UpdateOp) (before : Bool) (e : Node) (level : Nat)
    (ctx : PrintContext) : Printer Unit := do
  if before then
    wrap (level ≥ Level.beforeOperand) do
      spaceBeforeOperator (.update op)
      mark span
      put op.text
      noteOperator (.update op)
      go e Level.beforeOperand ctx
  else
    wrap (level ≥ Level.afterOperand) do
      spaceBeforeOperator (.update op)
      mark span
      go e Level.afterOperand ctx
      put op.text
      noteOperator (.update op)

def isUnary (n : Node) : Bool :=
  match n.unwrapped.kind with
  | .unary _ => true
  | _ => false

def isAndOr (n : Node) : Bool :=
  match n.unwrapped.kind with
  | .logical .and | .logical .or => true
  | _ => false

def printBinary (op : BinaryOp) (l r : Node) (level : Nat) (ctx : PrintContext) : Printer Unit := do
  let own := Level.ofBinary op
  let wrapped := level ≥ own || (op == .isIn && ctx.forbidIn)
  let forbidIn := ctx.forbidIn && !wrapped
  let leftLevel :=
    if op == .exp then (if isUnary l then Level.call else own) else own - 1
  let rightLevel := if op == .exp then own - 1 else own
  wrap wrapped do
    go l leftLevel ⟨forbidIn, ctx.forbidCall⟩
    space
    if op == .isIn || op == .instanceOf then
      spaceBeforeIdentifier
      put op.text
    else
      spaceBeforeOperator (.binary op)
      put op.text
      noteOperator (.binary op)
    space
    go r rightLevel ⟨forbidIn, false⟩

-- The same operator on either side needs no parentheses.
def printLogical (op : LogicalOp) (l r : Node) (level : Nat) (ctx : PrintContext) : Printer Unit := do
  let own := Level.ofLogical op
  let wrapped := level ≥ own
  let forbidIn := ctx.forbidIn && !wrapped
  let sideLevel (n : Node) : Nat :=
    if op == .coalesce && isAndOr n then Level.beforeOperand else own - 1
  wrap wrapped do
    go l (sideLevel l) ⟨forbidIn, ctx.forbidCall⟩
    put (" " ++ op.text ++ " ")
    go r (sideLevel r) ⟨forbidIn, false⟩

def isObjectTarget (n : Node) : Bool :=
  match n.kind with
  | .objectTarget => true
  | _ => false

def printAssign (n : Node) (op : String) (level : Nat) (ctx : PrintContext) : Printer Unit := do
  let at_ ← here
  let st ← get
  let starts := st.statementStart == some at_ || st.arrowStart == some at_
  wrap (level ≥ Level.assign || (starts && isObjectTarget (n.part 0))) do
    mark n.span
    go (n.part 0) Level.comma ctx
    put (" " ++ op ++ " ")
    go (n.part 1) Level.comma ctx

def printTemplate (span : Span) (parts : List Node) : Printer Unit := do
  mark span
  put "\x60"
  for (p, i) in parts.zipIdx do
    match p.kind with
    | .templateText raw =>
      if i ≠ 0 then mark p.span
      put (escapingScript raw)
    | _ =>
      put "$\x7b"
      free go p Level.lowest
      put "\x7d"
  put "\x60"

def printFunction (n : Node) (info : FunctionInfo) (ctx : PrintContext) : Printer Unit := do
  let at_ ← here
  let st ← get
  let isExpression := info.form == .expression || info.form == .bodiless
  let starts := st.statementStart == some at_ || st.defaultStart == some at_
  wrap ((isExpression && starts) || info.parenthesized) do
    if info.pure && isExpression then put noSideEffectsComment
    spaceBeforeIdentifier
    mark n.span
    if info.declare then put "declare "
    if info.async then put "async "
    put "function"
    if info.generator then put "* "
    let name := n.part 0
    unless name.isAbsent do
      spaceBeforeIdentifier
      free go name Level.lowest
    printFunctionParts go n (n.part 2) { ctx with forbidCall := false }
    if (n.part 5).isAbsent then put ";"

def arrowValue? (body : Node) : Option Node :=
  match (body.part 1).parts with
  | [.mk .expression _ [e]] => some e
  | _ => none

def printArrow (n : Node) (info : ArrowInfo) (level : Nat) (ctx : PrintContext) : Printer Unit := do
  wrap (level ≥ Level.assign || info.parenthesized) do
    if info.pure then put noSideEffectsComment
    if info.async then
      spaceBeforeIdentifier
      mark n.span
      put "async "
    free go (n.part 0) Level.lowest
    put "("
    free go (n.part 1) Level.lowest
    put ")"
    let result := n.part 2
    unless result.isAbsent do
      put ": "
      free go result Level.lowest
    put " => "
    let body := n.part 3
    match info.expression, arrowValue? body with
    | true, some e =>
      modify fun st => { st with arrowStart := some st.length }
      go e Level.comma ctx
    | _, _ => go body Level.lowest ctx

def printMember (n : Node) (optional : Bool) (ctx : PrintContext) : Printer Unit := do
  go (n.part 0) Level.afterOperand ⟨false, ctx.forbidCall⟩
  if optional then put "?."
  else
    let st ← get
    if st.integerEnd == some st.length then space
    put "."
  free go (n.part 1) Level.lowest

def bareValue : Node → Node
  | .mk .paren _ [e] => bareValue e
  | .mk .asType _ [e, _] => bareValue e
  | .mk .satisfies _ [e, _] => bareValue e
  | .mk .nonNull _ [e] => bareValue e
  | .mk .instantiation _ [e, _] => bareValue e
  | n => n

-- An index behind the name `let` would start a declaration.
def printIndex (n : Node) (optional : Bool) (ctx : PrintContext) : Printer Unit := do
  wrap (isNamed (bareValue (n.part 0)) "let") do
    go (n.part 0) Level.afterOperand ⟨false, ctx.forbidCall⟩
  if optional then put "?."
  put "["
  free go (n.part 1) Level.lowest
  put "]"

def printTyped (n : Node) (word : String) (level : Nat) (ctx : PrintContext) : Printer Unit := do
  wrap (level ≥ Level.compare) do
    go (n.part 0) Level.exponent ctx
    put (" " ++ word ++ " ")
    free go (n.part 1) Level.lowest

def isParen (n : Node) : Bool :=
  match n.kind with
  | .paren => true
  | _ => false

-- Parentheses around the value are kept, beside those it needs where the whole stands.
def printNonNull (value : Node) (level : Nat) (ctx : PrintContext) : Printer Unit := do
  wrap (isParen value) (go value level ctx)
  put "!"

def printExpression (n : Node) (level : Nat) (ctx : PrintContext) : Printer Unit := do
  match n.kind with
  | .name role text => printName role text n.span
  | .thisValue =>
    spaceBeforeIdentifier
    mark n.span
    put "this"
  | .superValue =>
    spaceBeforeIdentifier
    mark n.span
    put "super"
  | .nullLit =>
    spaceBeforeIdentifier
    mark n.span
    put "null"
  | .boolLit b =>
    spaceBeforeIdentifier
    mark n.span
    put (if b then "true" else "false")
  | .numberLit v _ =>
    mark n.span
    printNumber v
  | .bigintLit v _ =>
    spaceBeforeIdentifier
    mark n.span
    put (String.ofList (Nat.toDigits 10 v) ++ "n")
  | .stringLit v _ =>
    mark n.span
    put (quoted v)
  | .regexLit body flags =>
    mark n.span
    match (← get).last with
    | some '/' => space
    | some '<' => if (body.toList.take 6).map Char.toLower == "script".toList then space
    | _ => pure ()
    put ("/" ++ body ++ "/" ++ sortedFlags flags)
    modify fun st => { st with regexEnd := some st.length }
  | .template => printTemplate go n.span n.parts
  | .taggedTemplate =>
    mark n.span
    free go (n.part 0) Level.afterOperand
    free go (n.part 1) Level.lowest
    free go (n.part 2) Level.lowest
  | .array => printArray go n.span n.parts
  | .hole => pure ()
  | .spread =>
    mark n.span
    put "..."
    free go (n.part 0) Level.comma
  | .object => printObject go n.span n.parts ctx
  | .property info => printProperty go n.span info (n.part 0) (n.part 1) ctx
  | .function info => printFunction go n info ctx
  | .arrow info => printArrow go n info level ctx
  | .unary op => printUnary go n.span op (n.part 0) level ctx
  | .update op before => printUpdate go n.span op before (n.part 0) level ctx
  | .binary op => printBinary go op (n.part 0) (n.part 1) level ctx
  | .privateIn =>
    wrap (level ≥ Level.compare) do
      mark n.span
      free go (n.part 0) Level.lowest
      put " in "
      go (n.part 1) Level.equals ⟨true, false⟩
  | .logical op => printLogical go op (n.part 0) (n.part 1) level ctx
  | .conditional =>
    let wrapped := level ≥ Level.conditional
    let inner : PrintContext := ⟨ctx.forbidIn && !wrapped, false⟩
    wrap wrapped do
      go (n.part 0) Level.conditional inner
      put " ? "
      free go (n.part 1) Level.yield
      put " : "
      go (n.part 2) Level.yield inner
  | .assign op => printAssign go n op level ctx
  | .sequence =>
    wrap (level ≥ Level.comma) do
      separated n.parts fun e => go e Level.lowest { ctx with forbidCall := false }
  | .call optional pure => printCall go n optional pure level ctx
  | .new pure => printNew go n pure level
  | .member optional | .privateMember optional => printMember go n optional ctx
  | .index optional => printIndex go n optional ctx
  | .chain => wrap (level ≥ Level.afterOperand) (go (n.part 0) level ctx)
  | .paren | .target => go (n.part 0) level ctx
  | .await =>
    wrap (level ≥ Level.beforeOperand) do
      spaceBeforeIdentifier
      mark n.span
      put "await "
      go (n.part 0) Level.exponent ctx
  | .yield delegate =>
    wrap (level ≥ Level.assign) do
      spaceBeforeIdentifier
      mark n.span
      put (if delegate then "yield*" else "yield")
      unless (n.part 0).isAbsent do
        space
        go (n.part 0) Level.yield ctx
  | .importCall phase => printImportCall go n phase level ctx
  | .metaProperty =>
    spaceBeforeIdentifier
    mark n.span
    free go (n.part 0) Level.lowest
    put "."
    free go (n.part 1) Level.lowest
  | .asType => printTyped go n "as" level ctx
  | .satisfies => printTyped go n "satisfies" level ctx
  | .typeAssertion =>
    wrap (level ≥ Level.beforeOperand) do
      put "<"
      free go (n.part 0) Level.lowest
      put ">"
      free go (n.part 1) Level.beforeOperand
  | .nonNull => printNonNull go (n.part 0) level ctx
  | .instantiation =>
    go (n.part 0) level ctx
    free go (n.part 1) Level.lowest
  | .arrayTarget =>
    mark n.span
    put "["
    printItems go n.parts ctx
    put "]"
  | .objectTarget =>
    mark n.span
    put "\x7b"
    separated n.parts fun p => go p Level.comma ctx
    put "\x7d"
  | .targetDefault =>
    go (n.part 0) Level.comma ctx
    put " = "
    free go (n.part 1) Level.comma
  | .targetRest =>
    put "..."
    go (n.part 0) Level.comma ctx
  | .restPattern =>
    mark n.span
    put "..."
    go (n.part 0) Level.comma ctx
  | .targetShorthand =>
    free go (n.part 0) Level.comma
    unless (n.part 1).isAbsent do
      put " = "
      free go (n.part 1) Level.comma
  | .targetProperty computed =>
    printKey go (n.part 0) computed
    put ": "
    go (n.part 1) Level.comma ctx
  | _ => pure ()

end Rsx.Printer
