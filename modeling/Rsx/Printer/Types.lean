import Rsx.Printer.Expressions

set_option autoImplicit false

namespace Rsx.Printer

variable (go : Node → Nat → PrintContext → Printer Unit)

def plain (n : Node) : Printer Unit := go n Level.lowest .free

def inList (ctx : PrintContext) (n : Node) : Printer Unit := go n Level.statement ctx

def after (word : String) (n : Node) : Printer Unit := do
  unless n.isAbsent do
    put word
    plain go n

def dottedText : Node → String
  | .mk (.name _ text) _ _ => text
  | .mk .qualifiedName _ [left, right] => dottedText left ++ "." ++ dottedText right
  | _ => ""

def printTypeParameters (params : List Node) : Printer Unit := do
  put "<"
  match params with
  | [p] =>
    plain go p
    put ","
  | _ =>
    indent
    for (p, i) in params.zipIdx do
      if i ≠ 0 then put ","
      newline
      printIndent
      plain go p
    newline
    dedent
    printIndent
  put ">"

def printBraces (span : Span) (single : Bool) (p : Printer Unit) : Printer Unit := do
  mark span
  put "\x7b"
  unless single do
    newline
    indent
  p
  unless single do
    dedent
    printIndent
  put "\x7d"

def printMembers (span : Span) (members : List Node) : Printer Unit :=
  printBraces span members.isEmpty do
    for m in members do
      commentsAt m.span.start
      printIndent
      plain go m
      semicolonLine

def printLiteralType : Node → Printer Unit
  | .mk (.numberLit _ raw) span _ => do
    mark span
    put raw
  | .mk (.unary .minus) span [value] => do
    mark span
    put "-"
    printLiteralType value
  | n => plain go n

def printTemplateType (span : Span) (parts : List Node) : Printer Unit :=
  match parts with
  | [.mk (.templateText _) _ _] => printTemplate go span parts
  | _ => do
    put "\x60"
    for p in parts do
      match p.kind with
      | .templateText raw => put raw
      | _ =>
        put "$\x7b"
        plain go p
        put "\x7d"
    put "\x60"

def modifierText (word : String) : Option MappedModifier → String
  | none => ""
  | some .yes => word
  | some .plus => "+" ++ word
  | some .minus => "-" ++ word

def printParameters (this params result : Node) (arrow : String) : Printer Unit := do
  put "("
  unless this.isAbsent do
    plain go this
    unless params.parts.isEmpty do comma
  plain go params
  put ")"
  after go arrow result

def printSeparated (separator : String) (ns : List Node) : Printer Unit := do
  for (n, i) in ns.zipIdx do
    if i ≠ 0 then put separator
    plain go n

-- The mark of a key written as a template is that of its text.
def printEnumKey (key : Node) (computed : Bool) : Printer Unit :=
  match key with
  | .mk .template _ [.mk (.templateText raw) span _] => do
    mark span
    put ("[\x60" ++ raw ++ "\x60]")
  | _ => printKey go key computed

def printEnum (n : Node) (isConst declare : Bool) : Printer Unit := do
  commentsAt n.span.start
  printIndent
  if declare then put "declare "
  if isConst then put "const "
  spaceBeforeIdentifier
  put "enum "
  plain go (n.part 0)
  space
  let members := (n.part 1).parts
  printBraces (n.part 1).span members.isEmpty do
    for (m, i) in members.zipIdx do
      commentsAt m.span.start
      printIndent
      plain go m
      if i + 1 ≠ members.length then put ","
      newline

def printNamespaceTail : Node → Printer Unit
  | .mk (.namespaceNode _ _) _ [name, body] => do
    plain go name
    match body.kind with
    | .namespaceNode _ _ =>
      put "."
      printNamespaceTail body
    | _ => plain go body
  | _ => pure ()

def printType (n : Node) : Printer Unit := do
  match n.kind with
  | .typeClause => plain go (n.part 0)
  | .keywordType word => put word
  | .thisType => put "this"
  | .literalType => printLiteralType go (n.part 0)
  | .typeReference =>
    plain go (n.part 0)
    plain go (n.part 1)
  | .qualifiedName =>
    plain go (n.part 0)
    put "."
    plain go (n.part 1)
  | .arrayType =>
    plain go (n.part 0)
    put "[]"
  | .tupleType =>
    put "["
    separated n.parts (plain go)
    put "]"
  | .namedTupleMember optional =>
    plain go (n.part 0)
    if optional then put "?"
    put ": "
    plain go (n.part 1)
  | .optionalType =>
    plain go (n.part 0)
    put "?"
  | .restType =>
    put "..."
    plain go (n.part 0)
  | .unionType => printSeparated go " | " n.parts
  | .intersectionType => printSeparated go " & " n.parts
  | .conditionalType =>
    plain go (n.part 0)
    put " extends "
    plain go (n.part 1)
    put " ? "
    plain go (n.part 2)
    put " : "
    plain go (n.part 3)
  | .inferType =>
    put "infer "
    plain go (n.part 0)
  | .markedType text isAfter =>
    unless isAfter do put text
    plain go (n.part 0)
    if isAfter then put text
  | .parenType =>
    put "("
    plain go (n.part 0)
    put ")"
  | .functionType =>
    plain go (n.part 0)
    printParameters go (n.part 1) (n.part 2) (n.part 3) " => "
  | .constructorType abstract =>
    if abstract then put "abstract "
    put "new "
    plain go (n.part 0)
    printParameters go .absent (n.part 1) (n.part 2) " => "
  | .typeLiteral => printMembers go n.span n.parts
  | .mappedType optional readonly =>
    put "\x7b "
    put (modifierText "readonly" readonly)
    if readonly.isSome then space
    put "["
    plain go (n.part 0)
    put " in "
    plain go (n.part 1)
    after go " as " (n.part 2)
    put "]"
    put (modifierText "?" optional)
    space
    after go ": " (n.part 3)
    put " \x7d"
  | .indexedAccess =>
    plain go (n.part 0)
    put "["
    plain go (n.part 1)
    put "]"
  | .typeOperator word =>
    put (word ++ " ")
    plain go (n.part 0)
  | .typeQuery =>
    put "typeof "
    plain go (n.part 0)
    plain go (n.part 1)
  | .importType =>
    put "import("
    plain go (n.part 0)
    after go ", " (n.part 1)
    put ")"
    unless (n.part 2).isAbsent do put ("." ++ dottedText (n.part 2))
    plain go (n.part 3)
  | .templateType => printTemplateType go n.span n.parts
  | .predicate asserts =>
    if asserts then put "asserts "
    plain go (n.part 0)
    after go " is " (n.part 1)
  | .propertySignature computed optional readonly =>
    if readonly then put "readonly "
    printKey go (n.part 0) computed
    if optional then put "?"
    after go ": " (n.part 1)
  | .methodSignature role computed optional =>
    match role with
    | .get => put "get "
    | .set => put "set "
    | _ => pure ()
    printKey go (n.part 0) computed
    if optional then put "?"
    plain go (n.part 1)
    printParameters go (n.part 2) (n.part 3) (n.part 4) ": "
  | .callSignature =>
    plain go (n.part 0)
    printParameters go (n.part 1) (n.part 2) (n.part 3) ": "
  | .constructSignature =>
    put "new "
    plain go (n.part 0)
    printParameters go .absent (n.part 1) (n.part 2) ": "
  | .indexSignature _ readonly =>
    if readonly then put "readonly "
    put "["
    separated (n.part 0).parts (plain go)
    put "]"
    after go ": " (n.part 1)
  | .indexParameter text =>
    put text
    after go ": " (n.part 0)
  | .typeParameters => printTypeParameters go n.parts
  | .typeParameter isConst isIn isOut =>
    if isConst then put "const "
    if isIn then put "in "
    if isOut then put "out "
    plain go (n.part 0)
    after go " extends " (n.part 1)
    after go " = " (n.part 2)
  | .typeArguments =>
    put "<"
    separated n.parts (plain go)
    put ">"
  | .typeAlias declare =>
    if declare then put "declare "
    put "type "
    plain go (n.part 0)
    plain go (n.part 1)
    put " = "
    plain go (n.part 2)
  | .interface _ =>
    put "interface "
    plain go (n.part 0)
    plain go (n.part 1)
    let bases := (n.part 2).parts
    unless bases.isEmpty do
      put " extends "
      separated bases (plain go)
    space
    plain go (n.part 3)
  | .interfaceBody => printMembers go n.span n.parts
  | .heritage =>
    free go (n.part 0) Level.afterOperand
    plain go (n.part 1)
  | .enum isConst declare => printEnum go n isConst declare
  | .enumMember computed =>
    printEnumKey go (n.part 0) computed
    after go " = " (n.part 1)
  | .namespaceNode word declare =>
    if declare then put "declare "
    match word with
    | .moduleWord => put "module "
    | .namespaceWord => put "namespace "
    | .globalWord => pure ()
    printNamespaceTail go n
  | .thisParameter =>
    put "this"
    after go ": " (n.part 0)
  | _ => pure ()

end Rsx.Printer
