import Rsx.Number.Binary64

set_option autoImplicit false

namespace Rsx

structure Span where
  start : Nat
  stop : Nat
deriving DecidableEq, Inhabited

def Span.nowhere : Span := ⟨0, 0⟩

def Span.isNowhere (s : Span) : Bool := s.start == 0 && s.stop == 0

abbrev CodePoints := List Nat

def CodePoints.ofString (s : String) : CodePoints := s.toList.map Char.toNat

def isSurrogate (c : Nat) : Bool := 0xD800 ≤ c && c ≤ 0xDFFF

def hexDigits (width n : Nat) : List Char :=
  let ds := Nat.toDigits 16 n
  List.replicate (width - ds.length) '0' ++ ds

-- With a lone surrogate about, it and the replacement character are written out behind the latter.
def CodePoints.toString (cs : CodePoints) : String :=
  if cs.any isSurrogate then
    String.ofList (cs.flatMap fun c =>
      if isSurrogate c || c == 0xFFFD then '\ufffd' :: hexDigits 4 c else [Char.ofNat c])
  else String.ofList (cs.map Char.ofNat)

inductive BinaryOp where
  | add | sub | mul | div | rem | exp | shl | shr | ushr | bitAnd | bitOr | bitXor
  | eq | ne | strictEq | strictNe | lt | le | gt | ge | isIn | instanceOf
deriving DecidableEq

def BinaryOp.text : BinaryOp → String
  | .add => "+" | .sub => "-" | .mul => "*" | .div => "/" | .rem => "%" | .exp => "**"
  | .shl => "<<" | .shr => ">>" | .ushr => ">>>" | .bitAnd => "&" | .bitOr => "|" | .bitXor => "^"
  | .eq => "==" | .ne => "!=" | .strictEq => "===" | .strictNe => "!==" | .lt => "<" | .le => "<="
  | .gt => ">" | .ge => ">=" | .isIn => "in" | .instanceOf => "instanceof"

inductive LogicalOp where
  | and | or | coalesce
deriving DecidableEq

def LogicalOp.text : LogicalOp → String
  | .and => "&&" | .or => "||" | .coalesce => "??"

inductive UnaryOp where
  | plus | minus | not | bitNot | typeOf | void | delete
deriving DecidableEq

def UnaryOp.text : UnaryOp → String
  | .plus => "+" | .minus => "-" | .not => "!" | .bitNot => "~"
  | .typeOf => "typeof" | .void => "void" | .delete => "delete"

inductive UpdateOp where
  | increment | decrement
deriving DecidableEq

def UpdateOp.text : UpdateOp → String
  | .increment => "++" | .decrement => "--"

-- What a name stands for where it is written.
inductive NameRole where
  | binding
  | value            -- an expression, or a target that is written
  | shorthandTarget  -- both key and target in `({ x } = o)`
  | typeName
  | exported         -- a local name in an export list
  | tag              -- an element name that refers to a variable
  | tagRoot          -- the first name of a dotted element name
  | property
  | privateName
  | label
  | tagText          -- an element or attribute name that refers to nothing
deriving DecidableEq

inductive VariableKind where
  | varKind | letKind | constKind | usingKind | awaitUsingKind
deriving DecidableEq

def VariableKind.text : VariableKind → String
  | .varKind => "var" | .letKind => "let" | .constKind => "const" | .usingKind => "using"
  | .awaitUsingKind => "await using"

inductive PropertyRole where
  | init | get | set
deriving DecidableEq

structure PropertyInfo where
  role : PropertyRole
  method : Bool
  computed : Bool
  shorthand : Bool
deriving DecidableEq

inductive FunctionForm where
  | declaration | expression | overload | bodiless
deriving DecidableEq

structure FunctionInfo where
  form : FunctionForm
  async : Bool
  generator : Bool
  declare : Bool
  pure : Bool            -- marked as free of side effects
  parenthesized : Bool   -- written directly inside parentheses
deriving DecidableEq

structure ArrowInfo where
  async : Bool
  expression : Bool
  pure : Bool
  parenthesized : Bool
deriving DecidableEq

inductive Access where
  | priv | prot | pub
deriving DecidableEq

def Access.text : Access → String
  | .priv => "private" | .prot => "protected" | .pub => "public"

structure ParameterInfo where
  access : Option Access
  readonly : Bool
  override : Bool
  optional : Bool
deriving DecidableEq

inductive MethodRole where
  | constructor | method | get | set
deriving DecidableEq

structure MemberInfo where
  isStatic : Bool
  computed : Bool
  abstract : Bool
  override : Bool
  optional : Bool
  access : Option Access
  declare : Bool
  readonly : Bool
  definite : Bool
deriving DecidableEq

structure ClassInfo where
  isExpression : Bool
  abstract : Bool
  declare : Bool
deriving DecidableEq

inductive MappedModifier where
  | yes | plus | minus
deriving DecidableEq

inductive ModuleWord where
  | moduleWord | namespaceWord | globalWord
deriving DecidableEq

inductive Kind where
  | absent
  | group                                            -- parts of one role
  | name (role : NameRole) (text : String)
  -- expressions
  | thisValue
  | superValue
  | nullLit
  | boolLit (value : Bool)
  | numberLit (value : Binary64) (raw : String)
  | bigintLit (value : Nat) (raw : String)
  | stringLit (value : CodePoints) (raw : String)
  | regexLit (body flags : String)
  | template                                         -- text, value, text, …, text
  | templateText (raw : String)
  | taggedTemplate                                   -- tag, type arguments, template
  | array                                            -- elements
  | hole
  | spread                                           -- value
  | object                                           -- properties
  | property (info : PropertyInfo)                   -- key, value
  | function (info : FunctionInfo)  -- name, type parameters, this, parameters, result type, body
  | arrow (info : ArrowInfo)  -- type parameters, parameters, result type, body
  | parameters                                       -- parameters, rest parameter last
  | parameter (info : ParameterInfo)                 -- decorators, pattern, type, default
  | restParameter                                    -- decorators, rest pattern, type
  | thisParameter                                    -- type
  | body                                             -- directives, statements
  | unary (op : UnaryOp)                             -- operand
  | update (op : UpdateOp) (before : Bool)           -- target
  | binary (op : BinaryOp)                           -- left, right
  | privateIn                                        -- private name, right
  | logical (op : LogicalOp)                         -- left, right
  | conditional                                      -- test, then, else
  | assign (op : String)                             -- target, value
  | sequence                                         -- values
  | call (optional pure : Bool)                      -- callee, type arguments, arguments
  | new (pure : Bool)                                -- callee, type arguments, arguments
  | member (optional : Bool)                         -- object, property
  | index (optional : Bool)                          -- object, index
  | privateMember (optional : Bool)                  -- object, private name
  | chain                                            -- element
  | paren                                            -- value
  | await                                            -- value
  | yield (delegate : Bool)                          -- value
  | importCall (phase : String)                      -- source, options
  | metaProperty                                     -- word, property
  | asType                                           -- value, type
  | satisfies                                        -- value, type
  | typeAssertion                                    -- type, value
  | nonNull                                          -- value
  | instantiation                                    -- value, type arguments
  -- targets of assignments
  | target                                           -- name, member or wrapped expression
  | arrayTarget                                      -- elements, rest target last
  | objectTarget                                     -- properties, rest target last
  | targetDefault                                    -- target, default
  | targetRest                                       -- target
  | targetShorthand                                  -- name, default
  | targetProperty (computed : Bool)                 -- key, target
  -- patterns
  | objectPattern                                    -- properties, rest pattern last
  | arrayPattern                                     -- elements, rest pattern last
  | bindingProperty (computed shorthand : Bool)      -- key, pattern
  | defaultPattern                                   -- pattern, default
  | restPattern                                      -- pattern
  -- statements
  | program (hashbang : Option String)               -- directives, statements
  | directive (raw : String)
  | block                                            -- statements
  | empty
  | expression                                       -- value
  | ifElse                                           -- test, then, else
  | doWhile                                          -- body, test
  | whileLoop                                        -- test, body
  | forLoop                                          -- start, test, step, body
  | forIn                                            -- target, object, body
  | forOf (await : Bool)                             -- target, items, body
  | continueTo                                       -- label
  | breakOut                                         -- label
  | returnWith                                       -- value
  | withObject                                       -- object, body
  | switch                                           -- value, cases
  | case                                             -- test, statements
  | labeled                                          -- label, body
  | throwValue                                       -- value
  | tryCatch                                         -- block, catch, finally
  | catchClause                                      -- parameter, block
  | catchParameter                                   -- pattern, type
  | debugger
  | variableList (kind : VariableKind) (declare : Bool)  -- declarators
  | declarator (definite : Bool)                     -- pattern, type, value
  -- classes
  | classNode (info : ClassInfo)
      -- decorators, name, type parameters, super class, its type arguments, interfaces, body
  | classBody                                        -- members
  | method (role : MethodRole) (info : MemberInfo)   -- decorators, key, function
  | field (accessor : Bool) (info : MemberInfo)      -- decorators, key, type, value
  | staticBlock                                      -- statements
  | decorator                                        -- value
  | heritage                                         -- name, type arguments
  -- modules
  | importFrom (typeOnly : Bool) (phase : String)    -- specifiers, source, attributes
  | importNamed (typeOnly : Bool)                    -- imported, local
  | importDefault                                    -- local
  | importNamespace                                  -- local
  | attributes (word : String)                       -- attributes
  | attribute                                        -- key, value
  | exportNamed (typeOnly : Bool)                    -- declaration, specifiers, source, attributes
  | exportSpecifier (typeOnly : Bool)                -- local, exported
  | exportDefault                                    -- declaration or value
  | exportAll (typeOnly : Bool)                      -- exported, source, attributes
  | importEquals (typeOnly : Bool)                   -- name, reference
  | externalModule                                   -- source
  | exportAssignment                                 -- value
  | namespaceExport                                  -- name
  -- types
  | typeClause                                       -- type
  | keywordType (word : String)
  | thisType
  | literalType                                      -- literal
  | typeReference                                    -- name, type arguments
  | qualifiedName                                    -- left, right
  | arrayType                                        -- element
  | tupleType                                        -- elements
  | namedTupleMember (optional : Bool)               -- label, element
  | optionalType                                     -- type
  | restType                                         -- type
  | unionType                                        -- types
  | intersectionType                                 -- types
  | conditionalType                                  -- check, extends, then, else
  | inferType                                        -- type parameter
  | parenType                                        -- type
  | markedType (mark : String) (after : Bool)        -- type, with `?` or `!` on one side
  | functionType                                     -- type parameters, this, parameters, result
  | constructorType (abstract : Bool)                -- type parameters, parameters, result
  | typeLiteral                                      -- members
  | mappedType (optional readonly : Option MappedModifier)  -- name, constraint, renaming, type
  | indexedAccess                                    -- object, index
  | typeOperator (word : String)                     -- type
  | typeQuery                                        -- name, type arguments
  | importType                                       -- source, options, qualifier, type arguments
  | templateType                                     -- text, type, text, …, text
  | predicate (asserts : Bool)                       -- name, type
  | propertySignature (computed optional readonly : Bool)  -- key, type
  | methodSignature (role : MethodRole) (computed optional : Bool)
      -- key, type parameters, this, parameters, result
  | callSignature                                    -- type parameters, this, parameters, result
  | constructSignature                               -- type parameters, parameters, result
  | indexSignature (isStatic readonly : Bool)        -- parameters, type
  | indexParameter (text : String)                   -- type
  | typeParameters                                   -- type parameters
  | typeParameter (isConst isIn isOut : Bool)        -- name, constraint, default
  | typeArguments                                    -- types
  | typeAlias (declare : Bool)                       -- name, type parameters, type
  | interface (declare : Bool)                       -- name, type parameters, extended, body
  | interfaceBody                                    -- members
  | enum (isConst declare : Bool)                    -- name, members
  | enumMember (computed : Bool)                     -- key, value
  | namespaceNode (word : ModuleWord) (declare : Bool)  -- name, body
  | namespaceBlock                                   -- directives, statements
  -- elements
  | element                                          -- opening tag, children, closing tag
  | openingTag (selfClosing : Bool)                  -- name, type arguments, attributes
  | closingTag                                       -- name
  | fragment                                         -- opening tag, children, closing tag
  | openingFragment
  | closingFragment
  | tagMember                                        -- object, property
  | namespacedTag                                    -- namespace, name
  | tagAttribute                                     -- name, value
  | spreadAttribute                                  -- value
  | container                                        -- value
  | emptyContainer
  | spreadChild                                      -- value
  | text (raw : String)
  | attributeString (raw : String)
deriving DecidableEq

inductive Node where
  | mk (kind : Kind) (span : Span) (parts : List Node)

namespace Node

def kind : Node → Kind
  | mk k _ _ => k

def span : Node → Span
  | mk _ s _ => s

def parts : Node → List Node
  | mk _ _ ps => ps

def absent : Node := mk .absent .nowhere []

instance : Inhabited Node := ⟨absent⟩

def isAbsent (n : Node) : Bool :=
  match n.kind with
  | .absent => true
  | _ => false

def part (n : Node) (i : Nat) : Node := n.parts.getD i absent

def group (ns : List Node) : Node := mk .group .nowhere ns

def withKind (n : Node) (k : Kind) : Node := mk k n.span n.parts

def unwrapped : Node → Node
  | mk .paren _ [inner] => inner.unwrapped
  | n => n

mutual

def depth : Node → Nat
  | mk _ _ ps => depthList ps + 1

def depthList : List Node → Nat
  | [] => 0
  | n :: rest => max n.depth (depthList rest)

end

end Node

end Rsx
