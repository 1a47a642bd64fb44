import Rsx.Grammar.Binding

set_option autoImplicit false

namespace Rsx.Grammar

open Rsx.Parser

variable (go : Goal → Parser Node)

-- `<<` counts as two brackets where types are expected.
def splitLeftAngle : Parser Bool := do
  if ← at_ "<<" then reread fun r => ⟨.punct "<", r.skip, []⟩
  at_ "<"

def typeArgumentList : Parser (List Node) := do
  expect "<"
  let (types, _) ← delimited ">" "," (go .type)
  return types

def checkTypeArguments (types : List Node) (s : Nat) : Parser Unit := do
  if types.isEmpty then note .emptyTypeArguments s

def typeArguments : Parser Node := do
  let s ← start
  unless ← splitLeftAngle do return .absent
  let types ← typeArgumentList go
  expect ">"
  checkTypeArguments types s
  node .typeArguments s types

def typeArgumentsOnLine : Parser Node := do
  if ← onNewLine then return .absent
  typeArguments go

def typeParameter : Parser Node := do
  let s ← start
  let ms ← modifiersWithConst
  allowOnly ["const", "in", "out"] .modifierOnTypeParameter ms
  let name ← boundName
  let bound ← if ← eatWord "extends" then go .type else pure .absent
  let value ← if ← eat "=" then go .type else pure .absent
  node (.typeParameter (Modifier.has ms "const") (Modifier.has ms "in") (Modifier.has ms "out")) s
    [name, bound, value]

def typeParameters : Parser Node := do
  let s ← start
  unless ← at_ "<" do return .absent
  advance
  let (params, _) ← delimited ">" "," (typeParameter go)
  expect ">"
  if params.isEmpty then note .emptyTypeParameters s
  node .typeParameters s params

def dottedName (role : NameRole) : Parser Node := do
  let s ← start
  let first ← if ← atWord "this" then
      advance
      node .thisValue s []
    else anyName role
  iterate first fun left => do
    if ← eat "." then
      let right ← anyName .property
      return (← node .qualifiedName s [left, right], true)
    else return (left, false)

def typeReference : Parser Node := do
  let s ← start
  let name ← dottedName .typeName
  let args ← typeArgumentsOnLine go
  node .typeReference s [name, args]

def keywordTypes : List String :=
  ["any", "unknown", "string", "number", "bigint", "symbol", "boolean", "undefined", "never",
   "object", "null", "void", "intrinsic"]

def resultType : Parser Node := do
  let s ← start
  if ← atBinding then
    let isPredicate ← followsOnLine (isWord "is")
    if isPredicate then
      let name ← anyName .property
      advance
      let ts ← start
      let t ← go .type
      let clause ← node .typeClause ts [t]
      return ← node (.predicate false) s [name, clause]
  go .type

def resultClause : Parser Node := do
  let s ← start
  unless ← eat ":" do return .absent
  let t ← resultType go
  node .typeClause s [t]

def skipParameterStart : Parser Bool := do
  let _ ← modifiers
  if (← atBinding) || (← atWord "this") then
    advance
    return true
  if ← atAny ["\x7b", "["] then
    let before := (← get).faults.length
    let _ ← go .pattern
    return (← get).faults.length == before
  return false

def startsFunctionType : Parser Bool := do
  advance
  if ← atAny [")", "..."] then return true
  if ← skipParameterStart go then
    if ← atAny [":", ",", "?", "="] then return true
    if ← eat ")" then return ← at_ "=>"
  return false

def atFunctionType : Parser Bool := do
  match ← kind with
  | .punct "<" => return true
  | .punct "(" => ahead (startsFunctionType go)
  | .word "new" _ => return true
  | .word "abstract" _ => follows (isWord "new")
  | _ => return false

def functionOrConstructorType : Parser Node := do
  let s ← start
  let abstract ← eatWord "abstract"
  let isNew ← eatWord "new"
  let tparams ← typeParameters go
  let (this, params) ← parameters go .plain
  let rs ← start
  expect "=>"
  let r ← resultType go
  let result ← node .typeClause rs [r]
  if isNew && !this.isAbsent then note .thisParameterConstructor this.span.start
  if isNew then node (.constructorType abstract) s [tparams, params, result]
  else node .functionType s [tparams, this, params, result]

def typeSeparator : Parser Unit := do
  unless ← eat "," do
    let _ ← eat ";"

def atIndexSignature : Parser Bool :=
  ahead do
    unless ← eat "[" do return false
    unless ← atBinding do return false
    advance
    if ← atAny [":", ","] then return true
    unless ← eat "?" do return false
    atAny [":", ",", "]"]

def neededType : Parser Node := do
  let t ← typeClause go
  if t.isAbsent then unexpected else return t

def indexParameter : Parser Node := do
  let s ← start
  let w ← wordText
  let _ ← anyName .property
  if ← at_ "?" then
    note .indexOptional (← start)
    advance
  let t ← neededType go
  node (.indexParameter w) s [t]

def indexSignatureTail (s : Nat) (ms : List Modifier) : Parser Node := do
  allowOnly ["readonly", "static"] .modifierOnIndex ms
  expect "["
  let (params, _) ← delimited "]" "," (indexParameter go)
  expect "]"
  if params.length ≠ 1 then note .indexParameters s
  let t ← neededType go
  typeSeparator
  node (.indexSignature (Modifier.has ms "static") (Modifier.has ms "readonly")) s [.group params, t]

def checkCallableMember (ms : List Modifier) : Parser Unit := do
  refuse ["readonly"] (fun _ => .readonlyPlace) ms
  allowOnly ["readonly"] .modifierOnTypeMember ms

def accessorSignature (s : Nat) (role : MethodRole) (ms : List Modifier) : Parser Node := do
  advance
  let (key, computed) ← propertyKey go
  let (this, params) ← parameters go .plain
  let result ← resultClause go
  typeSeparator
  if role == .set && !result.isAbsent then note .setterType result.span.start
  checkCallableMember ms
  node (.methodSignature role computed false) s [key, .absent, this, params, result]

def constructSignature (s : Nat) : Parser Node := do
  advance
  let tparams ← typeParameters go
  let (this, params) ← parameters go .plain
  unless this.isAbsent do note .thisParameterConstructor this.span.start
  let result ← resultClause go
  typeSeparator
  node .constructSignature s [tparams, params, result]

def typeMember : Parser Node := do
  let s ← start
  if ← atAny ["(", "<"] then
    let tparams ← typeParameters go
    let (this, params) ← parameters go .plain
    let result ← resultClause go
    typeSeparator
    return ← node .callSignature s [tparams, this, params, result]
  if (← atWord "new") && (← follows fun k => isPunct "(" k || isPunct "<" k) then
    return ← constructSignature go s
  let ms ← modifiers
  if ← atModifier "get" then return ← accessorSignature go s .get ms
  if ← atModifier "set" then return ← accessorSignature go s .set ms
  if ← atIndexSignature then return ← indexSignatureTail go s ms
  let (key, computed) ← propertyKey go
  let optional ← eat "?"
  if ← atAny ["(", "<"] then
    let tparams ← typeParameters go
    let (this, params) ← parameters go .plain
    let result ← resultClause go
    typeSeparator
    checkCallableMember ms
    node (.methodSignature .method computed optional) s [key, tparams, this, params, result]
  else
    let t ← typeClause go
    typeSeparator
    allowOnly ["readonly"] .modifierOnTypeMember ms
    node (.propertySignature computed optional (Modifier.has ms "readonly")) s [key, t]

def typeMembers : Parser (List Node) := do
  expect "\x7b"
  let ms ← iterate ([] : List Node) fun ms => do
    let k ← kind
    if isPunct "\x7d" k || isEnd k then return (ms, false)
    let m ← typeMember go
    return (m :: ms, true)
  expect "\x7d"
  return ms.reverse

def atMappedType : Parser Bool :=
  ahead do
    advance
    if ← atAny ["+", "-"] then
      advance
      return ← atWord "readonly"
    let _ ← eatWord "readonly"
    unless ← eat "[" do return false
    unless ← atName do return false
    advance
    atWord "in"

def mappedModifier (present : Parser Bool) (needed : Parser Unit) : Parser (Option MappedModifier) := do
  if ← eat "+" then
    needed
    return some .plus
  if ← eat "-" then
    needed
    return some .minus
  if ← present then return some .yes
  return none

def mappedType : Parser Node := do
  let s ← start
  expect "\x7b"
  let readonly ← mappedModifier (eatWord "readonly") (expectWord "readonly")
  expect "["
  let name ← boundName
  expectWord "in"
  let bound ← go .type
  let renamed ← if ← eatWord "as" then go .type else pure .absent
  expect "]"
  let optional ← mappedModifier (eat "?") (expect "?")
  let t ← if ← eat ":" then go .type else pure .absent
  let _ ← eat ";"
  expect "\x7d"
  node (.mappedType optional readonly) s [name, bound, renamed, t]

def atTupleName : Parser Bool := do
  unless ← atName do return false
  ahead do
    advance
    if ← at_ ":" then return true
    unless ← eat "?" do return false
    at_ ":"

-- A question mark after the type makes an element optional.
def tupleElementType : Parser Node := do
  let s ← start
  if ← eat "..." then
    let t ← go .type
    return ← node .restType s [t]
  let t ← go .type
  match t with
  | .mk (.markedType "?" true) span [inner] => return .mk .optionalType span [inner]
  | _ => return t

def checkLabeledType (t : Node) : Parser Unit := do
  match t.kind with
  | .optionalType => note .labeledOptional t.span.start
  | .restType => note .labeledRest t.span.start
  | _ => pure ()

def labeledElement : Parser (Node × Bool) := do
  let s ← start
  let label ← anyName .property
  let optional ← eat "?"
  expect ":"
  let t ← tupleElementType go
  checkLabeledType t
  return (← node (.namedTupleMember optional) s [label, t], optional)

def tupleElement : Parser Node := do
  let s ← start
  if (← at_ "...") && (← ahead (do advance; atTupleName)) then
    advance
    let (t, optional) ← labeledElement go
    if optional then note .optionalRest s
    return ← node .restType s [t]
  if ← atTupleName then return (← labeledElement go).1
  tupleElementType go

def isOptionalElement (n : Node) : Bool :=
  match n.kind with
  | .optionalType | .namedTupleMember true => true
  | _ => false

def isRestElement (n : Node) : Bool :=
  match n.kind with
  | .restType => true
  | _ => false

def checkTuple : Bool → List Node → Parser Unit
  | _, [] => pure ()
  | seen, n :: rest => do
    if seen && !isOptionalElement n && !isRestElement n then note .requiredAfterOptional n.span.start
    checkTuple (seen || isOptionalElement n) rest

def templateParts (hole : Parser Node) (tagged : Bool) : Parser (List Node) := do
  let piece : Parser (Node × Bool) := do
    match ← kind with
    | .template raw valid _ closes =>
      let t ← token
      advance
      let span : Span := ⟨t.start + 1, t.stop - (if closes then 1 else 2)⟩
      if !tagged && !valid then note .invalidTemplateEscape span.start
      return (.mk (.templateText raw) span [], closes)
    | _ => unexpected
  let (first, closed) ← piece
  let (parts, _) ← iterate ([first], closed) fun (parts, closed) => do
    if closed then return ((parts, true), false)
    let e ← hole
    unless ← at_ "\x7d" do stop (.expected "\x7d" (Token.describe (← kind))) (← start)
    reread (Lexer.templatePart false)
    let (text, closes) ← piece
    return ((text :: e :: parts, closes), true)
  return parts.reverse

def importTypeTail (s : Nat) : Parser Node := do
  advance
  expect "("
  let source ← match ← kind with
    | .string _ _ => do
      let ls ← start
      let lit ← literalNode
      node .literalType ls [lit]
    | _ => stop .stringExpected (← start)
  let options ← if ← eat "," then
      if ← at_ ")" then pure .absent
      else if ← at_ "\x7b" then assignment go
      else do
        expect "\x7b"
        pure .absent
    else pure .absent
  let _ ← eat ","
  expect ")"
  let qualifier ← if ← eat "." then
      let qs ← start
      let first ← anyName .property
      iterate first fun left => do
        if ← eat "." then
          let right ← anyName .property
          return (← node .qualifiedName qs [left, right], true)
        else return (left, false)
    else pure .absent
  let args ← typeArgumentsOnLine go
  node .importType s [source, options, qualifier, args]

def isNumeral (k : TokenKind) : Bool :=
  match k with
  | .number _ _ _ | .bigint _ _ _ => true
  | _ => false

def questionType (s : Nat) : Parser Node := do
  advance
  if ← atAny [",", "\x7d", ")", ">", "=", "|"] then node (.keywordType "unknown") s []
  else
    let t ← go .type
    node (.markedType "?" false) s [t]

def thisTypeTail (s : Nat) : Parser Node := do
  advance
  let this ← node .thisType s []
  if (← atWord "is") && !(← onNewLine) then
    advance
    let ts ← start
    let t ← go .type
    let clause ← node .typeClause ts [t]
    node (.predicate false) s [this, clause]
  else return this

def assertsTail (s : Nat) : Parser Node := do
  advance
  let name ← if ← atWord "this" then
      let ts ← start
      advance
      node .thisType ts []
    else anyName .property
  let t ← if ← eatWord "is" then
      let ts ← start
      let t ← go .type
      node .typeClause ts [t]
    else pure .absent
  node (.predicate true) s [name, t]

def typeQueryTail (s : Nat) : Parser Node := do
  advance
  if ← atWord "import" then
    let inner ← start
    let t ← importTypeTail go inner
    node .typeQuery s [t, .absent]
  else
    let name ← dottedName .typeName
    let args ← typeArgumentsOnLine go
    node .typeQuery s [name, args]

def wordType (s : Nat) (w : String) : Parser Node := do
  if w == "true" || w == "false" then
    advance
    let lit ← node (.boolLit (w == "true")) s []
    node .literalType s [lit]
  else if keywordTypes.contains w && !(← follows (isPunct ".")) then
    advance
    node (.keywordType w) s []
  else if w == "import" then importTypeTail go s
  else if w == "typeof" then typeQueryTail go s
  else if w == "this" then thisTypeTail go s
  else if w == "asserts" && (← followsOnLine isName) then assertsTail go s
  else typeReference go

def nonArrayType : Nat → Parser Node
  | 0 => unexpected
  | fuel + 1 => do
    let s ← start
    match ← kind with
    | .number _ _ _ | .bigint _ _ _ | .string _ _ =>
      let lit ← literalNode
      node .literalType s [lit]
    | .template _ _ _ _ =>
      let parts ← templateParts (go .type) false
      node .templateType s parts
    | .punct "-" =>
      unless ← follows isNumeral do unexpected
      advance
      let lit ← literalNode
      let value ← node (.unary .minus) s [lit]
      node .literalType s [value]
    | .punct "\x7b" =>
      if ← atMappedType then mappedType go
      else
        let ms ← typeMembers go
        node .typeLiteral s ms
    | .punct "[" =>
      advance
      let (items, _) ← delimited "]" "," (tupleElement go)
      expect "]"
      checkTuple false items
      node .tupleType s items
    | .punct "(" =>
      advance
      let t ← go .type
      expect ")"
      node .parenType s [t]
    | .punct "?" => questionType go s
    | .punct "!" =>
      advance
      let t ← nonArrayType fuel
      node (.markedType "!" false) s [t]
    | .word w _ => wordType go s w
    | _ => typeReference go

def startsType (k : TokenKind) : Bool :=
  match k with
  | .punct p => ["\x7b", "[", "<", "|", "&", "(", "*", "?", "!", "..."].contains p
  | .word w _ => !isReserved w || keywordTypes.contains w ||
      ["this", "typeof", "import", "new", "true", "false", "function"].contains w
  | .template _ _ _ _ => true
  | k => isLiteral k

def opensType (k : TokenKind) : Bool := isPunct ")" k || isPunct "@" k || isPunct "-" k || startsType k

def atTypeStart : Parser Bool := do
  if ← at_ "-" then follows isNumeral
  else if ← at_ "(" then follows opensType
  else return startsType (← kind)

def postfixType : Parser Node := do
  let s ← start
  let t ← nonArrayType go (← remaining)
  iterate t fun t => do
    if ← onNewLine then return (t, false)
    if ← at_ "!" then
      advance
      return (← node (.markedType "!" true) s [t], true)
    if ← at_ "?" then
      if ← ahead (do advance; atTypeStart) then return (t, false)
      advance
      return (← node (.markedType "?" true) s [t], true)
    if ← at_ "[" then
      advance
      if ← atTypeStart then
        let i ← go .type
        expect "]"
        return (← node .indexedAccess s [t, i], true)
      else
        expect "]"
        return (← node .arrayType s [t], true)
    return (t, false)

-- `extends` after `infer` belongs to it unless a conditional type follows.
def inferBound : Parser Node := do
  unless ← eatWord "extends" do return .absent
  let t ← within ({ · with noConditional := true }) (go .type)
  if (← context).noConditional || !(← at_ "?") then return t
  unexpected

def inferType : Parser Node := do
  let s ← start
  advance
  let ps ← start
  let name ← boundName
  let bound := (← attempt (inferBound go)).getD .absent
  let p ← node (.typeParameter false false false) ps [name, bound, .absent]
  node .inferType s [p]

def checkReadonly (s : Nat) (w : String) (t : Node) : Parser Unit := do
  match t.kind with
  | .arrayType | .tupleType => pure ()
  | _ => if w == "readonly" then note .readonlyType s

def typeOperand : Nat → Parser Node
  | 0 => unexpected
  | fuel + 1 => do
    let s ← start
    if ← atAnyWord ["keyof", "unique", "readonly"] then
      let w ← wordText
      advance
      let t ← typeOperand fuel
      checkReadonly s w t
      return ← node (.typeOperator w) s [t]
    if ← atWord "infer" then return ← inferType go
    within ({ · with noConditional := false }) (postfixType go)

def operatorTypes (operator : String) (kind : Kind) (operand : Parser Node) : Parser Node := do
  let s ← start
  let leading ← eat operator
  let first ← operand
  if leading || (← at_ operator) then
    let ts ← iterate [first] fun ts => do
      if ← eat operator then
        let t ← operand
        return (t :: ts, true)
      else return (ts, false)
    node kind s ts.reverse
  else return first

def unionType : Parser Node := do
  let fuel ← remaining
  operatorTypes "|" .unionType (operatorTypes "&" .intersectionType (typeOperand go fuel))

def typeBody : Parser Node := do
  if ← atFunctionType go then return ← functionOrConstructorType go
  let s ← start
  let t ← unionType go
  if !(← context).noConditional && !(← onNewLine) && (← atWord "extends") then
    advance
    let bound ← within ({ · with noConditional := true }) (go .type)
    expect "?"
    let yes ← within ({ · with noConditional := false }) (go .type)
    expect ":"
    let no ← within ({ · with noConditional := false }) (go .type)
    node .conditionalType s [t, bound, yes, no]
  else return t

end Rsx.Grammar
