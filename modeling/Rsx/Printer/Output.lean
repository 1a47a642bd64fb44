import Rsx.Token
import Rsx.Text.Identifier

set_option autoImplicit false

namespace Rsx

inductive Piece where
  | text (s : String)
  | mark (start stop : Nat) (name : Option String)
deriving DecidableEq

def Piece.toText : Piece → String
  | .text s => s
  | .mark _ _ _ => ""

def Piece.code (ps : List Piece) : String := String.join (ps.map Piece.toText)

inductive PrintedOp where
  | binary (op : BinaryOp)
  | unary (op : UnaryOp)
  | update (op : UpdateOp)
deriving DecidableEq

structure PrintState where
  pieces : List Piece                       -- newest first
  length : Nat
  last : Option Char
  indent : Nat
  indentAsSpace : Bool                      -- the next indentation is one space
  integerEnd : Option Nat                   -- where a bare integer ended
  regexEnd : Option Nat
  operatorEnd : Option (Nat × PrintedOp)
  statementStart : Option Nat
  arrowStart : Option Nat
  defaultStart : Option Nat
  comments : List (Nat × List Comment)

def PrintState.start (comments : List (Nat × List Comment)) : PrintState :=
  ⟨[], 0, none, 0, false, none, none, none, none, none, none, comments⟩

abbrev Printer := StateM PrintState

structure PrintContext where
  forbidIn : Bool
  forbidCall : Bool
deriving DecidableEq

def PrintContext.free : PrintContext := ⟨false, false⟩

namespace Printer

def put (s : String) : Printer Unit :=
  if s.isEmpty then pure ()
  else modify fun st => { st with
    pieces := .text s :: st.pieces
    length := st.length + s.length
    last := s.toList.getLast? }

def space : Printer Unit := put " "

def newline : Printer Unit := put "\n"

def comma : Printer Unit := put ", "

def here : Printer Nat := return (← get).length

def indent : Printer Unit := modify fun st => { st with indent := st.indent + 1 }

def dedent : Printer Unit := modify fun st => { st with indent := st.indent - 1 }

def printIndent : Printer Unit := do
  let st ← get
  if st.indentAsSpace then
    space
    modify fun st => { st with indentAsSpace := false }
  else put (String.ofList (List.replicate st.indent '\t'))

def mark (s : Span) : Printer Unit :=
  if s.start == s.stop then pure ()
  else modify fun st => { st with pieces := .mark s.start s.stop none :: st.pieces }

def markName (s : Span) (name : String) : Printer Unit :=
  if s.start == s.stop then pure ()
  else modify fun st => { st with pieces := .mark s.start s.stop (some name) :: st.pieces }

def markEnd (s : Span) : Printer Unit :=
  if s.start == s.stop then pure ()
  else modify fun st => { st with pieces := .mark s.stop s.stop none :: st.pieces }

def spaceBeforeIdentifier : Printer Unit := do
  let st ← get
  match st.last with
  | none => pure ()
  | some c => if st.regexEnd == some st.length || Text.isIdentifierPart c then space

def needsSpace : PrintedOp → PrintedOp → Bool
  | .binary .add, .binary .add => true
  | .binary .add, .unary .plus => true
  | .binary .add, .update .increment => true
  | .unary .plus, .binary .add => true
  | .unary .plus, .unary .plus => true
  | .unary .plus, .update .increment => true
  | .binary .sub, .binary .sub => true
  | .binary .sub, .unary .minus => true
  | .binary .sub, .update .decrement => true
  | .unary .minus, .binary .sub => true
  | .unary .minus, .unary .minus => true
  | .unary .minus, .update .decrement => true
  | .update .decrement, .binary .gt => true
  | _, _ => false

def spaceBeforeOperator (next : PrintedOp) : Printer Unit := do
  let st ← get
  match st.operatorEnd with
  | some (n, previous) => if n == st.length && needsSpace previous next then space
  | none => pure ()

def noteOperator (op : PrintedOp) : Printer Unit :=
  modify fun st => { st with operatorEnd := some (st.length, op) }

def wrap (b : Bool) (p : Printer Unit) : Printer Unit := do
  if b then put "("
  p
  if b then put ")"

def separated (ns : List Node) (p : Node → Printer Unit) : Printer Unit := do
  match ns with
  | [] => pure ()
  | n :: rest =>
    p n
    for m in rest do
      comma
      p m

def semicolonLine : Printer Unit := put ";\n"

def hasComments (offset : Nat) : Printer Bool :=
  return (← get).comments.any (·.1 == offset)

def takeComments (offset : Nat) : Printer (List Comment) := do
  let st ← get
  match st.comments.find? (·.1 == offset) with
  | none => return []
  | some (_, cs) =>
    set { st with comments := st.comments.filter (·.1 != offset) }
    return cs

def splitLines : List Char → List (List Char)
  | [] => [[]]
  | '\r' :: '\n' :: rest => [] :: splitLines rest
  | c :: rest =>
    if Text.isLineEnd c then [] :: splitLines rest
    else
      match splitLines rest with
      | l :: ls => (c :: l) :: ls
      | [] => [[c]]

-- A closing script tag must not appear in printed code.
def escapeScript : List Char → List Char
  | [] => []
  | '<' :: '/' :: rest =>
    if (rest.take 6).map Char.toLower == "script".toList then '<' :: '\\' :: '/' :: escapeScript rest
    else '<' :: '/' :: escapeScript rest
  | c :: rest => c :: escapeScript rest

def escapingScript (s : String) : String := String.ofList (escapeScript s.toList)

-- The lines of a comment are indented anew, except one that looks like its first.
def printComment (c : Comment) : Printer Unit := do
  if c.multiline then
    let lines := splitLines c.text.toList
    for (line, i) in lines.zipIdx do
      unless line.take 2 == ['/', '*'] do printIndent
      put (escapingScript (String.ofList (line.dropWhile Text.isWhite)))
      if i + 1 ≠ lines.length then newline
  else put (escapingScript c.text)

def printLaterComments : List Comment → Comment → Printer Unit
  | [], last =>
    if !last.block || last.beforeNewline then newline
    else modify fun st => { st with indentAsSpace := true }
  | c :: rest, previous => do
    if c.afterNewline || c.legal then
      newline
      printIndent
    else if previous.block then space
    printComment c
    printLaterComments rest c

def printComments : List Comment → Printer Unit
  | [] => pure ()
  | c :: rest => do
    if c.afterNewline then
      match (← get).last with
      | some '\n' => printIndent
      | some '\t' => pure ()
      | some _ =>
        newline
        printIndent
      | none => pure ()
    else printIndent
    printComment c
    printLaterComments rest c

def commentsAt (offset : Nat) : Printer Unit := do printComments (← takeComments offset)

def inlineComments (offset : Nat) : Printer Unit := do
  match ← takeComments offset with
  | [] => pure ()
  | cs =>
    printComments cs
    printIndent

def ownLineComments (offset : Nat) : Printer Bool := do
  let cs ← takeComments offset
  for c in cs do
    newline
    printIndent
    printComment c
  if cs.isEmpty then return false
  newline
  return true

end Printer

end Rsx
