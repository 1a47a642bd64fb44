import Rsx.Token
import Rsx.Token.Escape

set_option autoImplicit false

namespace Rsx

structure Lexer where
  reader : Reader
  tokenStart : Reader
  faults : List Fault        -- newest first
  opensLine : Bool           -- the last token was `=` or `(`, after which no comment is trailing
  sawNewline : Bool

instance : Inhabited Lexer := ⟨⟨⟨[], 0⟩, ⟨[], 0⟩, [], false, true⟩⟩

namespace Lexer

def ofText (text : String) : Lexer := ⟨⟨text.toList, 0⟩, ⟨text.toList, 0⟩, [], false, true⟩

def isBlankByte (c : Char) : Bool := c == ' ' || c == '\t' || c == '\n' || c == '\r' || c == '\x0c'

def isDocumentation (block : Bool) (content : List Char) : Bool := block && content.head? == some '*'

def markOf (block : Bool) (content : List Char) : CommentMark :=
  if isDocumentation block content then .plain
  else
    match content.dropWhile isBlankByte with
    | c :: rest =>
      if c == '@' || c == '#' then
        if "__PURE__".toList.isPrefixOf rest then .pure
        else if "__NO_SIDE_EFFECTS__".toList.isPrefixOf rest then .noSideEffects
        else .plain
      else .plain
    | [] => .plain

def contains (word : List Char) : List Char → Bool
  | [] => word.isEmpty
  | c :: rest => word.isPrefixOf (c :: rest) || contains word rest

def isLegal (content : List Char) : Bool :=
  content.head? == some '!' || contains "@license".toList content || contains "@preserve".toList content

structure Trivia where
  pending : List Comment     -- newest first
  sawNewline : Bool          -- since the last token
  freshLine : Bool           -- since the last token or comment
  newline : Bool
  pure : Bool
  noSideEffects : Bool

-- A line break after a block comment that follows a token on its line makes it a trailing one.
def Trivia.breakLine (t : Trivia) : Trivia :=
  let pending := match t.pending with
    | [] => []
    | c :: rest => if t.sawNewline then { c with beforeNewline := true } :: rest else []
  { t with pending, sawNewline := true, freshLine := true, newline := true }

-- The other two line ends separate tokens but do not part comments from what they follow.
def isCommentBreak (c : Char) : Bool := c == '\n' || c == '\r'

def Trivia.note (t : Trivia) (mark : CommentMark) : Trivia :=
  match mark with
  | .pure => { t with pure := true }
  | .noSideEffects => { t with noSideEffects := true }
  | .plain => t

def Trivia.addLine (t : Trivia) (opensLine : Bool) (start : Nat) (text : List Char) : Trivia :=
  let c : Comment := 
    ⟨start, false, String.ofList text, markOf false (text.drop 2), false, isLegal (text.drop 2),
      t.freshLine, true⟩
  let pending := if t.sawNewline || opensLine then c :: t.pending else []
  { t.note c.mark with pending, sawNewline := true, freshLine := true, newline := true }

def Trivia.addBlock (t : Trivia) (start : Nat) (text : List Char) : Trivia :=
  let content := (text.drop 2).dropLast.dropLast
  let c : Comment := 
    ⟨start, true, String.ofList text, markOf true content, t.newline || text.any isCommentBreak,
      isLegal content, t.freshLine, false⟩
  { t.note c.mark with
    pending := c :: t.pending, freshLine := false, newline := t.newline || text.any Text.isLineEnd }

def blockLength : List Char → Option Nat
  | [] => none
  | '*' :: '/' :: _ => some 2
  | _ :: rest => (blockLength rest).map (· + 1)

def skipTrivia (opensLine : Bool) : Nat → Reader → Trivia → Reader × Trivia × Option Fault
  | 0, r, t => (r, t, none)
  | fuel + 1, r, t =>
    match r.rest with
    | [] => (r, t, none)
    | c :: rest =>
      if isCommentBreak c then skipTrivia opensLine fuel r.skip t.breakLine
      else if Text.isLineEnd c then skipTrivia opensLine fuel r.skip { t with newline := true }
      else if Text.isBlank c then skipTrivia opensLine fuel r.skip t
      else if c == '/' && rest.head? == some '/' then
        let (text, after) := r.takeWhile fun c => !Text.isLineEnd c
        skipTrivia opensLine fuel after.skip (t.addLine opensLine r.offset text)
      else if c == '/' && rest.head? == some '*' then
        match blockLength (rest.drop 1) with
        | none => (⟨[], r.offset + byteLength r.rest⟩, t, some ⟨.unterminatedComment, r.offset⟩)
        | some n =>
          let after := r.skipMany (n + 2)
          skipTrivia opensLine fuel after (t.addBlock r.offset (r.between after))
      else (r, t, none)

def wordLoop : Nat → List Char → Bool → Reader → List Fault → List Char × Bool × Reader × List Fault
  | 0, acc, escaped, r, faults => (acc, escaped, r, faults)
  | fuel + 1, acc, escaped, r, faults =>
    match r.rest with
    | [] => (acc, escaped, r, faults)
    | c :: _ =>
      if Text.isIdentifierPart c then wordLoop fuel (c :: acc) escaped r.skip faults
      else if c == '\\' then
        let start := r.skip
        let invalid : Fault := ⟨.invalidUnicodeEscape, start.offset⟩
        if start.peek ≠ some 'u' then wordLoop fuel acc true start (invalid :: faults)
        else
          match Escape.inIdentifier start.skip with
          | none => wordLoop fuel acc true start.skip (invalid :: faults)
          | some (c, after) =>
            if if acc.isEmpty then Text.isIdentifierStart c else Text.isIdentifierPart c then
              wordLoop fuel (c :: acc) true after faults
            else wordLoop fuel acc true after (⟨.invalidCharacter c, after.offset⟩ :: faults)
      else (acc, escaped, r, faults)

structure Lexeme where
  kind : TokenKind
  after : Reader
  faults : List Fault        -- newest first

def word (r : Reader) : Lexeme :=
  let (acc, escaped, after, faults) := wordLoop (r.rest.length + 1) [] false r []
  ⟨.word (String.ofList acc.reverse) escaped, after, faults⟩

def privateName (r : Reader) : Lexeme :=
  let start := r.skip
  match start.peek with
  | some c =>
    if Text.isIdentifierStart c || c == '\\' then
      let (acc, _, after, faults) := wordLoop (start.rest.length + 1) [] false start []
      ⟨.privateName (String.ofList acc.reverse), after, faults⟩
    else ⟨.invalid, start.skip, [⟨.invalidCharacter c, start.offset⟩]⟩
  | none => ⟨.invalid, start, [⟨.unexpectedEnd, start.offset⟩]⟩

def unexpectedAt (r : Reader) : Fault :=
  match r.peek with
  | some c => ⟨.invalidCharacter c, r.offset⟩
  | none => ⟨.unexpectedEnd, r.offset⟩

def digitsLoop (isDigit : Char → Bool) : Nat → Reader → Reader × List Fault
  | 0, r => (r, [])
  | fuel + 1, r =>
    match r.peek with
    | some '_' =>
      let after := r.skip
      match after.peek with
      | some c => if isDigit c then digitsLoop isDigit fuel after.skip else (after, [unexpectedAt after])
      | none => (after, [unexpectedAt after])
    | some c => if isDigit c then digitsLoop isDigit fuel r.skip else (r, [])
    | none => (r, [])

def digits (isDigit : Char → Bool) (r : Reader) : Reader × List Fault :=
  match r.peek with
  | some c =>
    if isDigit c then digitsLoop isDigit (r.rest.length + 1) r.skip else (r, [unexpectedAt r])
  | none => (r, [unexpectedAt r])

def digitValue (cs : List Char) (base : Nat) : Nat :=
  cs.foldl (fun n c => match hexValue? c with
    | some d => n * base + d
    | none => n) 0

-- A number may not run into a word or another digit.
def checkNumberEnd (kind : TokenKind) (r : Reader) (faults : List Fault) : Lexeme :=
  match r.peek with
  | some c =>
    if c.isDigit || Text.isIdentifierStart c then
      let (_, after) := r.skip.takeWhile Text.isIdentifierStart
      ⟨.invalid, after, ⟨.invalidNumberEnd, r.offset⟩ :: faults⟩
    else ⟨kind, r, faults⟩
  | none => ⟨kind, r, faults⟩

def rawBetween (a b : Reader) : String := String.ofList (a.between b)

def withRadix (start r : Reader) (base : Nat) (label : String) : Lexeme :=
  let isDigit (c : Char) : Bool := match hexValue? c with
    | some d => d < base
    | none => false
  let (after, faults) := digits isDigit r
  if faults ≠ [] then ⟨.invalid, after, faults⟩
  else
    let value := digitValue (r.between after) base
    match after.peek with
    | some 'n' =>
      checkNumberEnd (.bigint value (rawBetween start after.skip) (label ++ " bigint")) after.skip faults
    | _ => checkNumberEnd (.number (.ofNat value) (rawBetween start after) label) after faults

def decimalValue (cs : List Char) : Binary64 :=
  let cs := cs.filter (· != '_')
  let whole := cs.takeWhile Char.isDigit
  let rest := cs.drop whole.length
  let (part, rest) := match rest with
    | '.' :: r => (r.takeWhile Char.isDigit, r.dropWhile Char.isDigit)
    | _ => ([], rest)
  let power : Int := match rest with
    | _ :: '-' :: ds => -(digitValue ds 10 : Int)
    | _ :: '+' :: ds => digitValue ds 10
    | _ :: ds => digitValue ds 10
    | [] => 0
  Binary64.ofDecimal (digitValue (whole ++ part) 10) (power - part.length)

def decimal (start after : Reader) (label : String) : TokenKind :=
  .number (decimalValue (start.between after)) (rawBetween start after) label

def power (start r : Reader) : Lexeme :=
  let signed := match r.peek with
    | some s => if s == '+' || s == '-' then r.skip else r
    | none => r
  let (after, faults) := digits Char.isDigit signed
  ⟨decimal start after "float", after, faults⟩

def exponent (start r : Reader) (label : String) (faults : List Fault) : Lexeme :=
  match r.peek with
  | some c =>
    if c == 'e' || c == 'E' then
      let x := power start r.skip
      checkNumberEnd x.kind x.after (x.faults ++ faults)
    else checkNumberEnd (decimal start r label) r faults
  | none => ⟨decimal start r label, r, faults⟩

def fraction (start r : Reader) (faults : List Fault) : Lexeme :=
  match r.peek with
  | some c =>
    if c.isDigit then
      let (after, more) := digitsLoop Char.isDigit (r.rest.length + 1) r.skip
      exponent start after "float" (more ++ faults)
    else exponent start r "float" faults
  | none => exponent start r "float" faults

-- After a leading zero, what follows the exponent is not looked at.
def number (start : Reader) : Lexeme :=
  let r := start.skip
  let continueDecimal (r : Reader) (faults : List Fault) : Lexeme :=
    match r.peek with
    | some '.' => fraction start r.skip faults
    | some 'n' =>
      let value := digitValue (start.between r) 10
      checkNumberEnd (.bigint value (rawBetween start r.skip) "decimal bigint") r.skip faults
    | _ => exponent start r "decimal" faults
  if start.peek = some '0' then
    match r.peek with
    | some c =>
      if c == 'x' || c == 'X' then withRadix start r.skip 16 "hex"
      else if c == 'o' || c == 'O' then withRadix start r.skip 8 "octal"
      else if c == 'b' || c == 'B' then withRadix start r.skip 2 "binary"
      else if c == 'e' || c == 'E' then power start r.skip
      else if c.isDigit then
        let (ds, after) := r.takeWhile Char.isDigit
        if ds.all Escape.isOctal then
          checkNumberEnd (.number (.ofNat (digitValue ds 8)) (rawBetween start after) "octal") after []
        else
          match after.peek with
          | some '.' => fraction start after.skip []
          | some 'e' => power start after.skip
          | _ => checkNumberEnd (decimal start after "decimal") after []
      else continueDecimal r []
    | none => continueDecimal r []
  else
    let (after, faults) := digitsLoop Char.isDigit (r.rest.length + 1) r
    continueDecimal after faults

def stringLoop (quote : Char) (start : Reader) :
    Nat → Reader → CodePoints → List Fault → Lexeme
  | 0, r, _, faults => ⟨.invalid, r, faults⟩
  | fuel + 1, r, acc, faults =>
    match r.rest with
    | [] => ⟨.invalid, r, ⟨.unterminatedString, start.offset⟩ :: faults⟩
    | c :: _ =>
      if c == quote then
        ⟨.string acc.reverse (rawBetween start r.skip), r.skip, faults⟩
      else if c == '\n' || c == '\r' then
        ⟨.invalid, r.skip, ⟨.unterminatedString, start.offset⟩ :: faults⟩
      else if c == '\\' then
        match Escape.inString false r.skip with
        | (some cs, after) => stringLoop quote start fuel after (cs.reverse ++ acc) faults
        | (none, after) => stringLoop quote start fuel after acc (⟨.invalidEscape, r.offset⟩ :: faults)
      else stringLoop quote start fuel r.skip (c.toNat :: acc) faults

def quoted (quote : Char) (start : Reader) : Lexeme :=
  stringLoop quote start (start.rest.length + 1) start.skip [] []

-- Line breaks inside template text are all written `\n`.
def normalizeBreaks : List Char → List Char
  | [] => []
  | '\r' :: '\n' :: rest => '\n' :: normalizeBreaks rest
  | c :: rest => (if c = '\r' then '\n' else c) :: normalizeBreaks rest

def templateLoop (start begin : Reader) (opens : Bool) : Nat → Reader → Bool → Lexeme
  | 0, r, _ => ⟨.invalid, r, []⟩
  | fuel + 1, r, valid =>
    let raw := String.ofList (normalizeBreaks (begin.between r))
    match r.rest with
    | [] => ⟨.invalid, r, [⟨.unterminatedString, start.offset⟩]⟩
    | c :: rest =>
      if c == '\x60' then ⟨.template raw valid opens true, r.skip, []⟩
      else if c == '$' && rest.head? == some '\x7b' then
        ⟨.template raw valid opens false, r.skip.skip, []⟩
      else if c == '\\' then
        match Escape.inString true r.skip with
        | (some _, after) => templateLoop start begin opens fuel after valid
        | (none, after) =>
          if r.skip.rest.isEmpty then ⟨.invalid, r.skip, [⟨.unterminatedString, start.offset⟩]⟩
          else templateLoop start begin opens fuel after false
      else templateLoop start begin opens fuel r.skip valid

def templatePart (opens : Bool) (start : Reader) : Lexeme :=
  templateLoop start start.skip opens (start.rest.length + 1) start.skip true

-- Punctuation: the longest of these that fits; a right angle bracket stays alone.
def punctuators : List String :=
  ["...", "===", "!==", "**=", "<<=", "&&=", "||=", "??=", "=>", "==", "!=", "<=", "++", "--", "<<",
   "&&", "||", "??", "+=", "-=", "*=", "/=", "%=", "&=", "|=", "^=", "**", "\x7b", "\x7d", "(", ")", "[",
   "]", ".", ";", ",", "<", ">", "+", "-", "*", "/", "%", "&", "|", "^", "!", "~", "?", ":", "=", "@"]

def punct (r : Reader) : Lexeme :=
  let isDigitAt (n : Nat) : Bool := match (r.rest.drop n).head? with
    | some c => c.isDigit
    | none => false
  if r.startsWith ['?', '.'] && !isDigitAt 2 then ⟨.punct "?.", r.skipMany 2, []⟩
  else
    match punctuators.find? fun p => r.startsWith p.toList with
    | some p => ⟨.punct p, r.skipMany p.length, []⟩
    | none =>
      match r.peek with
      | some c => ⟨.invalid, r.skip, [⟨.invalidCharacter c, r.offset⟩]⟩
      | none => ⟨.eof, r, []⟩

def lexeme (r : Reader) : Lexeme :=
  match r.rest with
  | [] => ⟨.eof, r, []⟩
  | c :: rest =>
    if Text.isIdentifierStart c || c == '\\' then word r
    else if c.isDigit then number r
    else if c == '"' || c == '\'' then quoted c r
    else if c == '\x60' then templatePart true r
    else if c == '#' then privateName r
    else if c == '.' && (rest.head?.map Char.isDigit).getD false then fraction r r.skip []
    else punct r

def opensLineAfter : TokenKind → Bool
  | .punct p => p == "=" || p == "("
  | _ => false

def finish (l : Lexer) (start : Reader) (t : Trivia) (x : Lexeme) : Token × Lexer :=
  (⟨x.kind, start.offset, x.after.offset, t.newline, t.pending.reverse, t.pure, t.noSideEffects⟩,
   { l with
     reader := x.after
     tokenStart := start
     faults := x.faults ++ l.faults
     opensLine := opensLineAfter x.kind
     sawNewline := false })

def noTrivia (l : Lexer) : Trivia := ⟨[], l.sawNewline, l.sawNewline, false, false, false⟩

def next (l : Lexer) : Token × Lexer :=
  let (r, t, fault) := skipTrivia l.opensLine (l.reader.rest.length + 1) l.reader l.noTrivia
  match fault with
  | some f => ({ l with reader := r, faults := f :: l.faults } : Lexer).finish r t ⟨.eof, r, []⟩
  | none => l.finish r t (lexeme r)

def reread (l : Lexer) (token : Token) (x : Lexeme) : Token × Lexer :=
  ({ token with kind := x.kind, stop := x.after.offset },
   { l with reader := x.after, faults := x.faults ++ l.faults, opensLine := opensLineAfter x.kind })

def jsxChild (l : Lexer) : Token × Lexer :=
  let r := l.reader
  match r.rest with
  | [] => l.finish r l.noTrivia ⟨.eof, r, []⟩
  | c :: _ =>
    if c == '<' || c == '\x7b' then l.finish r l.noTrivia ⟨.punct c.toString, r.skip, []⟩
    else
      let (text, after) := r.takeWhile fun c => c != '<' && c != '\x7b' && c != '>' && c != '\x7d'
      match after.peek with
      | none => l.finish r l.noTrivia ⟨.invalid, after, []⟩
      | some d =>
        if d == '<' || d == '\x7b' then
          l.finish r l.noTrivia ⟨.jsxText (String.ofList text), after, []⟩
        else
          let flaw : Flaw := if d == '>' then .strayAngle else .strayBrace
          l.finish r l.noTrivia ⟨.invalid, after.skip, [⟨flaw, after.offset⟩]⟩

def jsxString (quote : Char) (r : Reader) : Lexeme :=
  let (text, after) := r.skip.takeWhile fun c => c != quote
  match after.peek with
  | none => ⟨.invalid, after, [⟨.unterminatedString, r.offset⟩]⟩
  | some _ =>
    ⟨.string (text.map Char.toNat) (rawBetween r after.skip), after.skip, []⟩

def jsxAttributeValue (l : Lexer) : Token × Lexer :=
  let (r, t, fault) := skipTrivia l.opensLine (l.reader.rest.length + 1) l.reader l.noTrivia
  match fault, r.peek with
  | none, some c =>
    if c == '"' || c == '\'' then l.finish r t (jsxString c r) else l.next
  | _, _ => l.next

def jsxWordRest (r : Reader) : List Char × Reader :=
  r.takeWhile fun c => Text.isIdentifierPart c || c == '-'

def regexLoop : Nat → Bool → Reader → Option Reader
  | 0, _, _ => none
  | fuel + 1, inClass, r =>
    match r.rest with
    | [] => none
    | c :: rest =>
      if Text.isLineEnd c then none
      else if c == '\\' then
        match rest with
        | [] => none
        | d :: _ => if Text.isLineEnd d then none else regexLoop fuel inClass r.skip.skip
      else if c == '[' then regexLoop fuel true r.skip
      else if c == ']' then regexLoop fuel false r.skip
      else if c == '/' && !inClass then some r
      else regexLoop fuel inClass r.skip

def flagFaults (start : Nat) : List Char → List Char → List Fault
  | _, [] => []
  | seen, c :: rest =>
    let here := start + byteLength seen
    if !"dgimsuvy".toList.contains c then ⟨.regexFlag c, here⟩ :: flagFaults start (seen ++ [c]) rest
    else if seen.contains c then ⟨.regexFlagTwice c, here⟩ :: flagFaults start (seen ++ [c]) rest
    else flagFaults start (seen ++ [c]) rest

def isFlagCharacter (c : Char) : Bool := c.toNat < 128 && (c.isAlphanum || c == '$' || c == '_')

def regex (r : Reader) : Lexeme :=
  match regexLoop (r.rest.length + 1) false r.skip with
  | none => ⟨.invalid, ⟨[], r.offset + byteLength r.rest⟩, [⟨.unterminatedRegex, r.offset⟩]⟩
  | some stop =>
    let (flags, after) := stop.skip.takeWhile isFlagCharacter
    ⟨.regex (rawBetween r.skip stop) (String.ofList flags), after,
     (flagFaults stop.skip.offset [] flags).reverse⟩

def joinAngle (r : Reader) : Option (String × Nat) :=
  let tails := [">>=", ">>", ">=", ">", "="]
  match tails.find? fun t => r.startsWith t.toList with
  | some t => some (">" ++ t, t.length)
  | none => none

end Lexer

end Rsx
