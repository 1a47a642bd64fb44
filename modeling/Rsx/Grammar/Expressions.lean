import Rsx.Grammar.Functions

set_option autoImplicit false

namespace Rsx.Grammar

open Rsx.Parser

variable (go : Goal → Parser Node)

def isPlainTarget (n : Node) : Bool :=
  match n.kind with
  | .name .value _ | .member _ | .index _ | .privateMember _ => true
  | _ => false

def innermost : Node → Node
  | .mk .paren _ [e] => innermost e
  | .mk .asType _ [e, _] => innermost e
  | .mk .satisfies _ [e, _] => innermost e
  | .mk .nonNull _ [e] => innermost e
  | n => n

def isLiteralPattern (n : Node) : Bool :=
  match n.kind with
  | .object | .array => true
  | _ => false

def simpleTarget (n : Node) : Parser Node :=
  match n with
  | .mk .paren span [inner] =>
    if isLiteralPattern inner then stop .invalidAssignment span.start else simpleTarget inner
  | .mk k span parts =>
    match k with
    | .name .value _ | .member _ | .index _ | .privateMember _ => return .mk .target span [n]
    | .asType | .satisfies | .nonNull =>
      match parts with
      | e :: _ =>
        if isPlainTarget (innermost e) then return .mk .target span [n]
        else stop .invalidAssignment span.start
      | [] => stop .invalidAssignment span.start
    | _ => stop .invalidAssignment span.start

def trailingComma? (start : Nat) : Parser (Option Nat) := do
  return ((← get).trailingCommas.find? (·.1 == start)).map (·.2)

def takeCover? (start : Nat) : Parser (Option Node) := do
  let s ← get
  let found := (s.covers.find? (·.1 == start)).map (·.2)
  set { s with covers := s.covers.filter (·.1 != start) }
  return found

def targetWithDefault (plain : Parser Node) : Node → Parser Node
  | .mk (.assign op) span [t, value] => do
    unless op == "=" do note .defaultOperator span.start
    return .mk .targetDefault span [t, value]
  | _ => plain

mutual

def assignmentTarget : Node → Parser Node
  | .mk .array span elements => do
    let items ← arrayTargets span.start elements
    return .mk .arrayTarget span items
  | .mk .object span properties => do
    let items ← objectTargets span.start properties
    return .mk .objectTarget span items
  | n => simpleTarget n

def arrayTargets (start : Nat) : List Node → Parser (List Node)
  | [] => return []
  | .mk .spread span [e] :: rest => do
    if rest.isEmpty then
      let t ← assignmentTarget e
      match ← trailingComma? start with
      | some comma => note .restPatternComma comma
      | none => pure ()
      return [.mk .targetRest span [t]]
    else stop .spreadNotLast span.start
  | .mk .hole span parts :: rest => do
    let ts ← arrayTargets start rest
    return .mk .hole span parts :: ts
  | e :: rest => do
    let t ← targetWithDefault (assignmentTarget e) e
    let ts ← arrayTargets start rest
    return t :: ts

def objectTargets (start : Nat) : List Node → Parser (List Node)
  | [] => return []
  | .mk .spread span [e] :: rest => do
    if rest.isEmpty then
      if isLiteralPattern e then note .invalidRestArgument e.span.start
      let t ← assignmentTarget e
      match ← trailingComma? start with
      | some comma => note .restPatternComma comma
      | none => pure ()
      return [.mk .targetRest span [t]]
    else stop .spreadNotLast span.start
  | .mk (.property info) span [key, value] :: rest => do
    let t ← if info.shorthand then do
        let init ← takeCover? span.start
        let name := key.withKind (.name .shorthandTarget (nameText key))
        pure (.mk .targetShorthand span [name, init.getD .absent])
      else do
        let v ← targetWithDefault (assignmentTarget value) value
        pure (.mk (.targetProperty info.computed) span [key, v])
    let ts ← objectTargets start rest
    return t :: ts
  | n :: _ => stop .invalidAssignment n.span.start

end

def markPureCall : Node → Node
  | .mk .paren s [e] => .mk .paren s [markPureCall e]
  | .mk (.call o _) s ps => .mk (.call o true) s ps
  | .mk (.new _) s ps => .mk (.new true) s ps
  | .mk (.binary op) s [l, r] => .mk (.binary op) s [markPureCall l, r]
  | .mk (.logical op) s [l, r] => .mk (.logical op) s [markPureCall l, r]
  | .mk .conditional s [t, c, a] => .mk .conditional s [markPureCall t, c, a]
  | .mk .chain s [.mk (.call o _) cs ps] => .mk .chain s [.mk (.call o true) cs ps]
  | n => n

def markPureFunction : Node → Node
  | .mk .paren s [e] => .mk .paren s [markPureFunction e]
  | .mk (.function info) s ps => .mk (.function { info with pure := true }) s ps
  | .mk (.arrow info) s ps => .mk (.arrow { info with pure := true }) s ps
  | n => n

def markParenthesized : Node → Node
  | .mk (.function info) s ps => .mk (.function { info with parenthesized := true }) s ps
  | .mk (.arrow info) s ps => .mk (.arrow { info with parenthesized := true }) s ps
  | n => n

def spreadElement : Parser Node := do
  let s ← start
  expect "..."
  let e ← assignment go
  node .spread s [e]

def noteTrailingComma (start : Nat) (comma : Option Nat) : Parser Unit := do
  match comma with
  | some c => modify fun s => { s with trailingCommas := (start, c) :: s.trailingCommas }
  | none => pure ()

def arrayLiteral : Parser Node := do
  let s ← start
  expect "["
  let (items, comma) ← allowingIn <| delimited "]" "," do
    if ← at_ "," then
      let h ← start
      return .mk .hole ⟨h, h⟩ []
    if ← at_ "..." then spreadElement go else assignment go
  expect "]"
  noteTrailingComma s comma
  node .array s items

def methodFunction (s : Nat) (async generator : Bool) : Parser Node := do
  let f ← functionRest go s ⟨.expression, .plain, .absent, async, generator, false⟩
  match f.kind with
  | .function info =>
    match info.form with
    | .bodiless => stop .missingFunctionBody f.span.stop
    | _ => return f
  | _ => return f

def parameterCount (f : Node) : Nat := (f.part 3).parts.length

def checkAccessor (role : PropertyRole) (f : Node) : Parser Unit := do
  let span := (f.part 3).span.start
  match role with
  | .get => if parameterCount f ≠ 0 then note .getterParameters span
  | .set =>
    match (f.part 3).parts with
    | [.mk .restParameter rest _] => note .setterRest rest.start
    | [p] => unless (p.part 3).isAbsent do note .setterInitializer span
    | _ => note .setterParameters span
  | .init => pure ()

def accessorProperty (s : Nat) (role : PropertyRole) (ms : List Modifier) : Parser Node := do
  allowOnly [] .modifierHere ms
  advance
  let (key, computed) ← propertyKey go
  let fs ← start
  let f ← methodFunction go fs false false
  checkAccessor role f
  node (.property ⟨role, false, computed, false⟩) s [key, f]

def objectProperty : Parser Node := do
  let s ← start
  if ← at_ "..." then return ← spreadElement go
  let ms ← modifiers
  if ← atModifier "get" then return ← accessorProperty go s .get ms
  if ← atModifier "set" then return ← accessorProperty go s .set ms
  let generator ← eat "*"
  let isIdentifier ← atReference
  let (key, computed) ← propertyKey go
  if generator || (← atAny ["(", "<"]) then
    allowOnly ["async"] .modifierHere ms
    let fs ← start
    let f ← methodFunction go fs (Modifier.has ms "async") generator
    return ← node (.property ⟨.init, true, computed, false⟩) s [key, f]
  allowOnly [] .modifierHere ms
  if isIdentifier && !(← at_ ":") then
    let name := key.withKind (.name .value (nameText key))
    if ← at_ "=" then
      advance
      let value ← allowingIn (assignment go)
      modify fun st => { st with covers := (s, value) :: st.covers }
    return ← node (.property ⟨.init, false, false, true⟩) s [key, name]
  expect ":"
  let value ← allowingIn (assignment go)
  node (.property ⟨.init, false, computed, false⟩) s [key, value]

def objectLiteral : Parser Node := do
  let s ← start
  expect "\x7b"
  let (items, comma) ← allowingIn (delimited "\x7d" "," (objectProperty go))
  expect "\x7d"
  noteTrailingComma s comma
  node .object s items

def parenthesized : Parser Node := do
  let s ← start
  expect "("
  let es ← start
  let (items, comma) ← within ({ · with allowIn := true, inDecorator := false })
    (delimited ")" "," (assignment go))
  match comma with
  | some c => stop .parenthesesComma c
  | none => pure ()
  let espan ← spanFrom es
  expect ")"
  match items with
  | [] => stop .emptyParentheses s
  | [e] => node .paren s [markParenthesized e]
  | es => node .paren s [.mk .sequence espan es]

def templateLiteral (tagged : Bool) : Parser Node := do
  let s ← start
  let parts ← templateParts (allowingIn (go .expression)) tagged
  node .template s parts

def regexLiteral : Parser Node := do
  let s ← start
  reread Lexer.regex
  match ← kind with
  | .regex body flags =>
    let fs := flags.toList
    if fs.contains 'u' && fs.contains 'v' then note .regexFlagsTogether s
    advance
    node (.regexLit body flags) s []
  | _ => unexpected

def callArguments : Parser (List Node) := do
  expect "("
  let (args, _) ← within ({ · with allowIn := true, inDecorator := false })
    (delimited ")" "," do if ← at_ "..." then spreadElement go else assignment go)
  expect ")"
  return args

def importCallTail (s : Nat) (phase : String) : Parser Node := do
  expect "("
  if ← at_ ")" then stop .importSpecifier s
  let (source, options) ← within ({ · with allowIn := true }) do
    let source ← assignment go
    let options ← if (← eat ",") && !(← at_ ")") then assignment go else pure .absent
    let _ ← eat ","
    return (source, options)
  unless ← eat ")" do stop .importArity s
  node (.importCall phase) s [source, options]

def importExpression : Parser Node := do
  let s ← start
  let word ← keywordName
  if ← eat "." then
    if ← atWord "meta" then
      let property ← keywordName
      node .metaProperty s [word, property]
    else if ← eatWord "source" then importCallTail go s "source"
    else if ← eatWord "defer" then importCallTail go s "defer"
    else stop .importMeta s
  else if ← at_ "(" then importCallTail go s ""
  else unexpected

def superExpression : Parser Node := do
  let s ← start
  advance
  let n ← node .superValue s []
  unless ← atAny [".", "[", "("] do note .unexpectedSuper s
  return n

def decoratedClass (s : Nat) : Parser Node := do
  let ds ← decorators go
  let ms ← modifiers
  if ← atWord "class" then go (.classTail s true ms ds) else unexpected

def primary : Parser Node := do
  let s ← start
  match ← kind with
  | .number _ _ _ | .bigint _ _ _ | .string _ _ => literalNode
  | .template _ _ _ _ => templateLiteral go false
  | .punct "[" => arrayLiteral go
  | .punct "\x7b" => objectLiteral go
  | .punct "(" => parenthesized go
  | .punct "/" | .punct "/=" => regexLiteral
  | .punct "@" => decoratedClass go s
  | .punct "<" => advance; go (.element s false)
  | .word w _ =>
    match w with
    | "this" => advance; node .thisValue s []
    | "null" => advance; node .nullLit s []
    | "true" => advance; node (.boolLit true) s []
    | "false" => advance; node (.boolLit false) s []
    | "function" => go (.functionTail s .expression false false)
    | "class" => go (.classTail s true [] [])
    | "super" => superExpression
    | "import" => importExpression go
    | "async" =>
      if ← followsOnLine (isWord "function") then
        advance
        go (.functionTail s .expression true false)
      else variableName .value
    | _ => variableName .value
  | _ => unexpected

def binaryOpOf? : String → Option BinaryOp
  | "+" => some .add | "-" => some .sub | "*" => some .mul | "/" => some .div | "%" => some .rem
  | "**" => some .exp | "<<" => some .shl | ">>" => some .shr | ">>>" => some .ushr
  | "&" => some .bitAnd | "|" => some .bitOr | "^" => some .bitXor | "==" => some .eq
  | "!=" => some .ne | "===" => some .strictEq | "!==" => some .strictNe | "<" => some .lt
  | "<=" => some .le | ">" => some .gt | ">=" => some .ge | "in" => some .isIn
  | "instanceof" => some .instanceOf
  | _ => none

def logicalOpOf? : String → Option LogicalOp
  | "&&" => some .and | "||" => some .or | "??" => some .coalesce
  | _ => none

def strength? (k : TokenKind) : Option Nat :=
  match k with
  | .punct p =>
    match p with
    | "??" => some 2
    | "||" => some 3
    | "&&" => some 4
    | "|" => some 5
    | "^" => some 6
    | "&" => some 7
    | "==" | "!=" | "===" | "!==" => some 8
    | "<" | ">" | "<=" | ">=" => some 9
    | "<<" | ">>" | ">>>" => some 10
    | "+" | "-" => some 11
    | "*" | "/" | "%" => some 12
    | "**" => some 13
    | _ => none
  | .word w _ =>
    if w == "in" || w == "instanceof" || w == "as" || w == "satisfies" then some 9 else none
  | _ => none

def startsExpression (k : TokenKind) : Bool :=
  match k with
  | .punct p => ["(", "[", "\x7b", "/", "/=", "+", "-", "~", "!", "++", "--", "<", "@"].contains p
  | .word w _ =>
    !isReserved w || ["this", "super", "null", "true", "false", "function", "class", "new",
      "delete", "typeof", "void", "import"].contains w
  | .template _ _ _ _ | .privateName _ => true
  | k => isLiteral k

def joinRightAngle : Parser Unit := do
  if ← at_ ">" then
    reread fun r =>
      match Lexer.joinAngle r.skip with
      | some (p, n) => ⟨.punct p, r.skip.skipMany n, []⟩
      | none => ⟨.punct ">", r.skip, []⟩

def canFollowTypeArguments : Parser Bool := do
  let k ← kind
  match k with
  | .template _ _ _ _ => return true
  | .punct p =>
    if p == "(" then return true
    if ["<", ">", "+", "-"].contains p then return false
    return (← onNewLine) || (strength? k).isSome || !startsExpression k
  | _ => return (← onNewLine) || (strength? k).isSome || !startsExpression k

-- `<T>` after a value, when what follows cannot make it a comparison.
def typeArgumentsInExpression : Parser (Option Node) := do
  attempt do
    unless ← splitLeftAngle do unexpected
    let s ← start
    let types ← typeArgumentList go
    joinRightAngle
    unless ← at_ ">" do unexpected
    advance
    unless ← canFollowTypeArguments do unexpected
    checkTypeArguments types s
    node .typeArguments s types

def memberName (s : Nat) (object : Node) (optional : Bool) : Parser Node := do
  advance
  match ← kind with
  | .privateName _ =>
    let p ← privateNameNode
    node (.privateMember optional) s [object, p]
  | _ =>
    let p ← anyName .property
    node (.member optional) s [object, p]

def indexed (s : Nat) (object : Node) (optional : Bool) : Parser Node := do
  expect "["
  let i ← within ({ · with allowIn := true, inDecorator := false }) (go .expression)
  expect "]"
  node (.index optional) s [object, i]

def isTagStart : TokenKind → Bool
  | .template _ _ opens _ => opens
  | _ => false

def taggedTemplate (s : Nat) (tag : Node) (inChain : Bool) : Parser Node := do
  let quasi ← templateLiteral go true
  let (tag, args) := match tag with
    | .mk .instantiation _ [e, args] => (e, args)
    | _ => (tag, .absent)
  if inChain then note .optionalChainTemplate quasi.span.start
  node .taggedTemplate s [tag, args, quasi]

def memberRest (s : Nat) (value : Node) (inChain : Bool) : Parser (Node × Bool) :=
  iterate (value, inChain) fun (value, inChain) => do
    match ← kind with
    | .punct "." =>
      let m ← memberName s value false
      return ((m, inChain), true)
    | .punct "[" =>
      if (← context).inDecorator then return ((value, inChain), false)
      let m ← indexed go s value false
      return ((m, inChain), true)
    | .punct "?." =>
      if ← follows (isPunct "[") then
        advance
        let m ← indexed go s value true
        return ((m, true), true)
      else if ← follows fun k => isName k || (match k with | .privateName _ => true | _ => false) then
        let m ← memberName s value true
        return ((m, true), true)
      else return ((value, inChain), false)
    | .punct "!" =>
      if ← onNewLine then return ((value, inChain), false)
      advance
      return ((← node .nonNull s [value], inChain), true)
    | .punct "<" | .punct "<<" =>
      match ← typeArgumentsInExpression go with
      | some args => return ((← node .instantiation s [value, args], inChain), true)
      | none => return ((value, inChain), false)
    | k =>
      if isTagStart k then
        let t ← taggedTemplate go s value inChain
        return ((t, inChain), true)
      return ((value, inChain), false)

def callRest (s : Nat) (value : Node) (inChain : Bool) : Parser (Node × Bool) :=
  iterate (value, inChain) fun (value, inChain) => do
    let (value, inChain) ← memberRest go s value inChain
    let mark ← start
    let optional ← eat "?."
    let inChain := inChain || optional
    let args ← if optional && (← atAny ["<", "<<"]) then
        pure ((← typeArgumentsInExpression go).getD .absent)
      else pure .absent
    if optional && isTagStart (← kind) then
      let t ← taggedTemplate go s value inChain
      return ((t, inChain), true)
    if !args.isAbsent || (← at_ "(") then
      let (callee, args) := match optional, value with
        | false, .mk .instantiation _ [e, as] => (e, as)
        | _, _ => (value, args)
      let arguments ← callArguments go
      let c ← node (.call optional false) s [callee, args, .group arguments]
      return ((c, inChain), true)
    if optional then stop .optionalChainName mark
    return ((value, inChain), false)

def isChainElement (n : Node) : Bool :=
  match n.kind with
  | .member _ | .index _ | .privateMember _ | .call _ _ | .nonNull => true
  | _ => false

def newExpression (fuel : Nat) : Parser Node := do
  match fuel with
  | 0 => unexpected
  | fuel + 1 =>
    let s ← start
    let word ← keywordName
    if ← eat "." then
      unless ← atWord "target" do stop .newTarget s
      let property ← keywordName
      return ← node .metaProperty s [word, property]
    let cs ← start
    let base ← if ← atWord "new" then newExpression fuel else primary go
    let (callee, inChain) ← memberRest go cs base false
    let (callee, args) := match callee with
      | .mk .instantiation _ [e, args] => (e, args)
      | _ => (callee, .absent)
    let arguments ← if ← at_ "(" then callArguments go else pure []
    match callee.kind with
    | .importCall _ => note .newDynamicImport cs
    | _ => pure ()
    if inChain then note .newOptionalChain s
    node (.new false) s [callee, args, .group arguments]

def leftHandSide : Parser Node := do
  let s ← start
  let base ← if ← atWord "new" then newExpression go (← remaining) else primary go
  let (value, inChain) ← memberRest go s base false
  let (value, inChain) ← callRest go s value inChain
  unless inChain do return value
  match value with
  | .mk .instantiation span [e, args] =>
    if isChainElement e then return .mk .instantiation span [.mk .chain e.span [e], args]
    else return value
  | _ => if isChainElement value then node .chain s [value] else return value

def unaryOpOf? : TokenKind → Option UnaryOp
  | .punct "+" => some .plus
  | .punct "-" => some .minus
  | .punct "!" => some .not
  | .punct "~" => some .bitNot
  | .word "typeof" _ => some .typeOf
  | .word "void" _ => some .void
  | .word "delete" _ => some .delete
  | _ => none

def updateOpOf? : TokenKind → Option UpdateOp
  | .punct "++" => some .increment
  | .punct "--" => some .decrement
  | _ => none

def nextStartsOperand (k : TokenKind) : Bool :=
  (isName k && !isWord "in" k && !isWord "instanceof" k) || isLiteral k

def atAwait : Parser Bool := do
  unless ← atWord "await" do return false
  if (← context).inAsync then return true
  followsOnLine nextStartsOperand

def atElement : Parser Bool := do
  if ← at_ "<" then follows fun k => isName k || isPunct ">" k else return false

def updateExpression (s : Nat) : Parser Node := do
  match updateOpOf? (← kind) with
  | some op =>
    advance
    let e ← go .unary
    let t ← simpleTarget e
    node (.update op true) s [t]
  | none =>
    if ← atElement then return ← primary go
    let e ← leftHandSide go
    match updateOpOf? (← kind) with
    | some op =>
      if ← onNewLine then return e
      let t ← simpleTarget e
      advance
      node (.update op false) s [t]
    | none => return e

def unaryBody : Parser Node := do
  let s ← start
  match unaryOpOf? (← kind) with
  | some op =>
    advance
    let marked := (← token).pure
    let e ← go .unary
    node (.unary op) s [if marked then markPureCall e else e]
  | none =>
    if ← atAwait then
      unless (← context).inAsync do note .awaitOutsideAsync s
      advance
      let e ← within ({ · with inAsync := true }) (go .unary)
      node .await s [e]
    else updateExpression go s

def isUnaryOperand (n : Node) : Bool :=
  match n.kind with
  | .unary _ | .await => true
  | _ => false

def isMixable (n : Node) : Bool :=
  match n.kind with
  | .logical .and | .logical .or => true
  | _ => false

def constType : Parser Node := do
  let s ← start
  let name ← anyName .typeName
  node .typeReference s [name, .absent]

-- Operators that bind more strongly than `above`, from a left operand on.
def binaryRest (s : Nat) (left : Node) (above : Nat) : Parser Node :=
  iterate left fun left => do
    joinRightAngle
    let k ← kind
    match strength? k with
    | none => return (left, false)
    | some p =>
      let stops := if isPunct "**" k then p < above else p ≤ above
      if stops then return (left, false)
      if isWord "in" k && !(← context).allowIn then return (left, false)
      if isWord "as" k || isWord "satisfies" k then
        if ← onNewLine then return (left, false)
        advance
        let t ← if ← atWord "const" then constType else go .type
        let kind := if isWord "as" k then Kind.asType else Kind.satisfies
        return (← node kind s [left, t], true)
      advance
      let right ← go (.binary p)
      let text := match k with
        | .punct q => q
        | .word w _ => w
        | _ => ""
      match logicalOpOf? text, binaryOpOf? text with
      | some op, _ =>
        if op == .coalesce && (isMixable left || isMixable right) then note .mixedCoalesce s
        return (← node (.logical op) s [left, right], true)
      | none, some op =>
        if op == .exp && isUnaryOperand left then note .unaryExponent left.span.start
        return (← node (.binary op) s [left, right], true)
      | none, none => return (left, false)

def isPrivateIn (n : Node) : Bool :=
  match n.kind with
  | .privateIn => true
  | _ => false

def binaryBody (above : Nat) : Parser Node := do
  let t ← token
  match (← context).allowIn, t.kind with
  | true, .privateName _ =>
    let name ← privateNameNode
    expectWord "in"
    let right ← go (.binary 9)
    if isPrivateIn right then stop .unexpectedPrivate right.span.start
    let e ← node .privateIn t.start [name, right]
    binaryRest go t.start e above
  | _, _ =>
    let e ← go .unary
    let e := if t.pure then markPureCall e else e
    binaryRest go t.start e above

def assignmentOps : List String :=
  ["=", "+=", "-=", "*=", "/=", "%=", "**=", "<<=", ">>=", ">>>=", "&=", "|=", "^=", "&&=", "||=",
   "??="]

def atYield : Parser Bool := do
  unless ← atWord "yield" do return false
  if (← context).inGenerator then return true
  followsOnLine nextStartsOperand

def yieldExpression : Parser Node := do
  let s ← start
  unless (← context).inGenerator do note .yieldOutsideGenerator s
  advance
  let (delegate, value) ← within ({ · with inGenerator := true }) do
    if ← onNewLine then return (false, Node.absent)
    let delegate ← eat "*"
    let bare := (← atAny [";", "\x7d", ")", "]", ":", ","]) || (← atEof) || (← atWord "in")
    if bare && !delegate then return (delegate, Node.absent)
    return (delegate, ← assignment go)
  node (.yield delegate) s [value]

def conditionalRest (s : Nat) (test : Node) (allowReturnType : Bool) : Parser Node := do
  unless ← eat "?" do return test
  let yes ← allowingIn (go (.assignment false))
  expect ":"
  let no ← go (.assignment allowReturnType)
  node .conditional s [test, yes, no]

def assignmentBody (allowReturnType : Bool) : Parser Node := do
  let t ← token
  let s := t.start
  let marked (n : Node) : Node := if t.noSideEffects then markPureFunction n else n
  if ← atYield then return ← yieldExpression go
  match ← parenthesizedArrow go allowReturnType with
  | some a => return marked a
  | none => pure ()
  if ← atAsyncSimpleArrow then
    advance
    let name ← variableName .value
    return marked (← simpleArrow go s name true allowReturnType)
  let left ← go (.binary 0)
  match left.kind with
  | .name .value _ =>
    if ← at_ "=>" then return marked (← simpleArrow go s left false allowReturnType)
  | _ => pure ()
  match ← kind with
  | .punct p =>
    if assignmentOps.contains p then
      let target ← if p == "=" then assignmentTarget left else simpleTarget left
      advance
      let right ← go (.assignment allowReturnType)
      return ← node (.assign p) s [target, right]
  | _ => pure ()
  let e ← conditionalRest go s left allowReturnType
  let e := if t.pure then markPureCall e else e
  return marked e

def expressionBody : Parser Node := do
  let s ← start
  let first ← assignment go
  if ← at_ "," then
    let es ← iterate [first] fun es => do
      if ← eat "," then
        let e ← assignment go
        return (e :: es, true)
      else return (es, false)
    node .sequence s es.reverse
  else return first

end Rsx.Grammar
