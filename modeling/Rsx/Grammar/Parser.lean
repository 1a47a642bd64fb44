import Rsx.Token.Lexer

set_option autoImplicit false

namespace Rsx

structure GrammarContext where
  allowIn : Bool
  inGenerator : Bool
  inAsync : Bool
  inFunction : Bool
  inDecorator : Bool
  ambient : Bool
  topLevel : Bool
  noConditional : Bool      -- a conditional type may not stand here

structure ParserState where
  lexer : Lexer
  token : Token
  lastEnd : Nat
  context : GrammarContext
  faults : List Fault                       -- newest first
  comments : List (Nat × List Comment)      -- by the token they lead, newest first
  covers : List (Nat × Node)                -- defaults in `({ x = 1 })`, not yet known to be patterns
  trailingCommas : List (Nat × Nat)         -- by the start of the literal that has one

abbrev Parser := EStateM Fault ParserState

structure Modifier where
  word : String
  start : Nat
deriving DecidableEq

inductive Goal where
  | expression
  | assignment (allowReturnType : Bool)
  | binary (above : Nat)
  | unary
  | leftHandSide
  | statement (single : Bool)
  | functionBody
  | pattern
  | type
  | element (start : Nat) (inChild : Bool)
  | classTail (start : Nat) (isExpression : Bool) (modifiers : List Modifier) (decorators : List Node)
  | functionTail (start : Nat) (form : FunctionForm) (async needsName : Bool)
  | declaration (start : Nat) (modifiers : List Modifier) (decorators : List Node)

namespace ParserState

def ofText (text : String) : ParserState :=
  let lexer := Lexer.ofText text
  { lexer
    token := default
    lastEnd := 0
    context := ⟨true, false, true, false, false, false, true, false⟩
    faults := []
    comments := []
    covers := []
    trailingCommas := [] }

def firstFault? (s : ParserState) : Option Fault :=
  s.lexer.faults.getLast?.or s.faults.getLast?

-- Marks for later tools are kept with what they mark, not as comments.
def take (s : ParserState) (t : Token × Lexer) : ParserState :=
  let leading := t.1.leading.filter (·.mark == .plain)
  { s with
    token := t.1
    lexer := t.2
    comments := if leading.isEmpty then s.comments else (t.1.start, leading) :: s.comments }

end ParserState

namespace Parser

def stop {α : Type} (flaw : Flaw) (offset : Nat) : Parser α :=
  fun s => .error (s.firstFault?.getD ⟨flaw, offset⟩) s

def note (flaw : Flaw) (offset : Nat) : Parser Unit :=
  modify fun s => { s with faults := ⟨flaw, offset⟩ :: s.faults }

def attempt {α : Type} (p : Parser α) : Parser (Option α) :=
  fun s => match p s with
    | .ok a s' => .ok (some a) s'
    | .error _ _ => .ok none s

def ahead (p : Parser Bool) : Parser Bool :=
  fun s => match p s with
    | .ok b _ => .ok b s
    | .error _ _ => .ok false s

def token : Parser Token := return (← get).token

def kind : Parser TokenKind := return (← get).token.kind

def start : Parser Nat := return (← get).token.start

def lastEnd : Parser Nat := return (← get).lastEnd

def context : Parser GrammarContext := return (← get).context

def onNewLine : Parser Bool := return (← get).token.newline

def isEnd : TokenKind → Bool
  | .eof | .invalid => true
  | _ => false

def conflictMarkers : List String := ["<<<<<<<", "=======", ">>>>>>>", "|||||||"]

-- Stops here; the marks that a failed merge leaves behind are named.
def stopHere {α : Type} (flaw : Flaw) : Parser α := do
  let r := (← get).lexer.tokenStart
  if conflictMarkers.any fun m => r.startsWith m.toList then stop .mergeConflict (← start)
  else stop flaw (← start)

def unexpected {α : Type} : Parser α := fun s =>
  match isEnd s.token.kind, s.lexer.faults with
  | true, fault :: earlier => .error ((earlier.getLast?.or s.faults.getLast?).getD fault) s
  | _, _ => stopHere .unexpectedToken s

def step : Parser Unit :=
  modify fun s => { s with lastEnd := s.token.stop }.take s.lexer.next

def advance : Parser Unit := do
  match ← kind with
  | .word w true => if Token.isKeyword w then note .escapedKeyword (← start)
  | _ => pure ()
  step

def advanceToChild : Parser Unit :=
  modify fun s => { s with lastEnd := s.token.stop }.take s.lexer.jsxChild

def advanceToAttributeValue : Parser Unit :=
  modify fun s => { s with lastEnd := s.token.stop }.take s.lexer.jsxAttributeValue

def reread (f : Reader → Lexer.Lexeme) : Parser Unit :=
  modify fun s =>
    let (token, lexer) := s.lexer.reread s.token (f s.lexer.tokenStart)
    { s with token, lexer }

def isPunct (p : String) : TokenKind → Bool
  | .punct q => p == q
  | _ => false

def isWord (w : String) : TokenKind → Bool
  | .word v _ => v == w
  | _ => false

def at_ (p : String) : Parser Bool := return isPunct p (← kind)

def atWord (w : String) : Parser Bool := return isWord w (← kind)

def atAny (ps : List String) : Parser Bool := do
  match ← kind with
  | .punct q => return ps.contains q
  | _ => return false

def atAnyWord (ws : List String) : Parser Bool := do
  match ← kind with
  | .word w _ => return ws.contains w
  | _ => return false

def atEof : Parser Bool := return (← kind) == .eof

def eat (p : String) : Parser Bool := do
  if ← at_ p then advance; return true
  return false

def eatWord (w : String) : Parser Bool := do
  if ← atWord w then advance; return true
  return false

def expect (p : String) : Parser Unit := do
  unless ← eat p do stopHere (.expected p (Token.describe (← kind)))

def expectWord (w : String) : Parser Unit := do
  unless ← eatWord w do stopHere (.expected w (Token.describe (← kind)))

def spanFrom (start : Nat) : Parser Span := return ⟨start, ← lastEnd⟩

def node (k : Kind) (start : Nat) (parts : List Node) : Parser Node :=
  return .mk k (← spanFrom start) parts

def within {α : Type} (f : GrammarContext → GrammarContext) (p : Parser α) : Parser α := do
  let saved ← context
  modify fun s => { s with context := f s.context }
  let a ← p
  modify fun s => { s with context := saved }
  return a

def allowingIn {α : Type} (p : Parser α) : Parser α := within ({ · with allowIn := true }) p

def canInsertSemicolon : Parser Bool := do
  let t ← token
  return isPunct ";" t.kind || isPunct "\x7d" t.kind || t.kind == .eof || t.newline

def semicolon : Parser Unit := do
  unless ← canInsertSemicolon do stop .noSemicolon (← lastEnd)
  let _ ← eat ";"

-- Runs a step until it says it is done; each step that goes on has read something.
def loop {σ : Type} (step : σ → Parser (σ × Bool)) : Nat → σ → Parser σ
  | 0, s => return s
  | fuel + 1, s => do
    let (s, more) ← step s
    if more then loop step fuel s else return s

def remaining : Parser Nat := return (← get).lexer.tokenStart.rest.length + 2

def iterate {σ : Type} (s : σ) (step : σ → Parser (σ × Bool)) : Parser σ := do
  loop step (← remaining) s

-- Items up to a closing mark. The flag tells whether a separator stood before it.
def delimited (close separator : String) (item : Parser Node) : Parser (List Node × Option Nat) := do
  let k ← kind
  if isPunct close k || isEnd k then return ([], none)
  let first ← item
  let (items, comma) ← iterate ([first], none) fun (items, _) => do
    let k ← kind
    if isPunct close k || isEnd k then return ((items, none), false)
    unless isPunct separator k do
      stop (.expectedEither separator close (Token.describe k)) (← start)
    advance
    if ← at_ close then return ((items, some ((← lastEnd) - 1)), false)
    let x ← item
    return ((x :: items, none), true)
  return (items.reverse, comma)

def isReserved (w : String) : Bool := Token.reserved.contains w

def isName (k : TokenKind) : Bool :=
  match k with
  | .word _ _ => true
  | _ => false

def isBinding (k : TokenKind) : Bool :=
  match k with
  | .word w _ => !isReserved w
  | _ => false

def isLiteral (k : TokenKind) : Bool :=
  match k with
  | .number _ _ _ | .bigint _ _ _ | .string _ _ => true
  | _ => false

def atName : Parser Bool := return isName (← kind)

def atBinding : Parser Bool := return isBinding (← kind)

def wordText : Parser String := do
  match ← kind with
  | .word w _ => return w
  | _ => return ""

def anyName (role : NameRole) : Parser Node := do
  match ← kind with
  | .word w _ =>
    let s ← start
    step
    node (.name role w) s []
  | _ => unexpected

def keywordName : Parser Node := do
  let s ← start
  let w ← wordText
  advance
  node (.name .property w) s []

def checkIdentifier : Parser Unit := do
  let c ← context
  if c.inAsync && (← atWord "await") then note .awaitIdentifier (← start)
  if c.inGenerator && (← atWord "yield") then note .yieldIdentifier (← start)

def variableName (role : NameRole) : Parser Node := do
  unless ← atBinding do unexpected
  checkIdentifier
  anyName role

def boundName : Parser Node := do
  match ← kind with
  | .word w _ =>
    if isReserved w then stop (.reservedWord w) (← start)
    checkIdentifier
    anyName .binding
  | _ => unexpected

def atReference : Parser Bool := do
  let c ← context
  return (← atBinding) && !(c.inAsync && (← atWord "await")) && !(c.inGenerator && (← atWord "yield"))

def followsOnLine (p : TokenKind → Bool) : Parser Bool :=
  ahead do
    advance
    return p (← kind) && !(← onNewLine)

def follows (p : TokenKind → Bool) : Parser Bool :=
  ahead do
    advance
    return p (← kind)

def stringNode : Parser Node := do
  match ← kind with
  | .string v raw =>
    let s ← start
    advance
    node (.stringLit v raw) s []
  | _ => unexpected

end Parser

end Rsx
