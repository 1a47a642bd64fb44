import Rsx.Pattern.Tree
import Rsx.Text.Identifier
import Rsx.Text.Letter

set_option autoImplicit false

namespace Rsx.Pattern

structure ReaderState where
  rest : List Char
  spot : Spot
  spaced : Bool                       -- white space and comments are skipped
  names : List (String × Extent)

abbrev Reader := EStateM Fault ReaderState

namespace Reader

def fail {α : Type} (issue : Issue) (extent : Extent) : Reader α :=
  fun s => .error ⟨issue, extent, none⟩ s

def spot : Reader Spot := return (← get).spot

def peek : Reader (Option Char) := return (← get).rest.head?

def peekSecond : Reader (Option Char) := return (← get).rest[1]?

def here : Reader Extent := return ⟨← spot, ← spot⟩

def Spot.after (p : Spot) (c : Char) : Spot :=
  if c == '\n' then ⟨p.line + 1, 1⟩ else ⟨p.line, p.column + 1⟩

def nextExtent : Reader Extent := do
  let s ← get
  match s.rest with
  | c :: _ => return ⟨s.spot, Spot.after s.spot c⟩
  | [] => return ⟨s.spot, s.spot⟩

def skip : Reader Unit := modify fun s =>
  match s.rest with
  | c :: rest => { s with rest, spot := Spot.after s.spot c }
  | [] => s

def atEnd : Reader Bool := return (← get).rest.isEmpty

def bump : Reader Bool := do
  skip
  return !(← atEnd)

def skipComment : Nat → Reader Unit
  | 0 => pure ()
  | fuel + 1 => do
    match ← peek with
    | none => pure ()
    | some c =>
      skip
      unless c == '\n' do skipComment fuel

def skipSpaces : Nat → Reader Unit
  | 0 => pure ()
  | fuel + 1 => do
    match ← peek with
    | none => pure ()
    | some c =>
      if Text.isWhite c then
        skip
        skipSpaces fuel
      else if c == '#' then
        skip
        skipComment fuel
        skipSpaces fuel

def length : Reader Nat := return (← get).rest.length

def bumpSpace : Reader Unit := do
  if (← get).spaced then skipSpaces ((← length) + 1)

def bumpOver : Reader Bool := do
  if ← bump then
    bumpSpace
    return !(← atEnd)
  else return false

def eat (word : String) : Reader Bool := do
  if word.toList.isPrefixOf (← get).rest then
    for _ in word.toList do skip
    return true
  else return false

def eatAny : List String → Reader Bool
  | [] => return false
  | word :: words => do if ← eat word then return true else eatAny words

def peekSpace : Reader (Option Char) := fun s =>
  if s.spaced then
    match (do skip; skipSpaces (s.rest.length + 1); peek : Reader (Option Char)) s with
    | .ok c _ => .ok c s
    | .error f _ => .error f s
  else peekSecond s

def isHex (c : Char) : Bool :=
  c.isDigit || ('a' ≤ c && c ≤ 'f') || ('A' ≤ c && c ≤ 'F')

def hexValue (c : Char) : Nat :=
  if c.isDigit then c.toNat - 48 else if c.toNat ≥ 97 then c.toNat - 87 else c.toNat - 55

def ofHex (cs : List Char) : Nat := cs.foldl (fun n c => 16 * n + hexValue c) 0

def scalar? (n : Nat) : Option Char :=
  if n < 0xD800 || (0xDFFF < n && n < 0x110000) then some (Char.ofNat n) else none

def hexDigits : Nat → Bool → List Char → Reader (List Char)
  | 0, _, acc => return acc.reverse
  | n + 1, first, acc => do
    unless first do
      unless ← bumpOver do fail .escapeEnd (← here)
    match ← peek with
    | some c =>
      unless isHex c do fail .hexDigit (← nextExtent)
      hexDigits n false (c :: acc)
    | none => fail .escapeEnd (← here)

def braceDigits : Nat → List Char → Reader (List Char)
  | 0, acc => return acc.reverse
  | fuel + 1, acc => do
    if ← bumpOver then
      match ← peek with
      | some '\x7d' => return acc.reverse
      | some c =>
        unless isHex c do fail .hexDigit (← nextExtent)
        braceDigits fuel (c :: acc)
      | none => return acc.reverse
    else return acc.reverse

def hexLiteral : Reader Atom := do
  let letter ← peek
  let (count, byte) := if letter == some 'x' then (2, true) else if letter == some 'u' then (4, false)
    else (8, false)
  unless ← bumpOver do fail .escapeEnd (← here)
  if (← peek) == some '\x7b' then
    let brace ← spot
    let start := (← nextExtent).stop
    let digits ← braceDigits ((← length) + 1) []
    if ← atEnd then fail .escapeEnd ⟨brace, ← spot⟩
    let stop ← spot
    let _ ← bumpOver
    if digits.isEmpty then fail .hexEmpty ⟨brace, ← spot⟩
    match scalar? (ofHex digits) with
    | some c => return .literal c false
    | none => fail .hexInvalid ⟨start, stop⟩
  else
    let start ← spot
    let digits ← hexDigits count true []
    let _ ← bumpOver
    match scalar? (ofHex digits) with
    | some c => return .literal c byte
    | none => fail .hexInvalid ⟨start, ← spot⟩

def propertyName : Nat → List Char → Reader (List Char)
  | 0, acc => return acc.reverse
  | fuel + 1, acc => do
    if ← bumpOver then
      match ← peek with
      | some '\x7d' => return acc.reverse
      | some c => propertyName fuel (c :: acc)
      | none => return acc.reverse
    else return acc.reverse

def splitAround (mark : List Char) : List Char → Option (List Char × List Char)
  | [] => none
  | c :: rest =>
    if mark.isPrefixOf (c :: rest) then some ([], (c :: rest).drop mark.length)
    else (splitAround mark rest).map fun (before, after) => (c :: before, after)

def queryOf (name : List Char) : PropertyQuery :=
  match splitAround ['!', '='] name with
  | some (n, v) => ⟨String.ofList n, some (String.ofList v), true⟩
  | none =>
    match splitAround [':'] name with
    | some (n, v) => ⟨String.ofList n, some (String.ofList v), false⟩
    | none =>
      match splitAround ['='] name with
      | some (n, v) => ⟨String.ofList n, some (String.ofList v), false⟩
      | none => ⟨String.ofList name, none, false⟩

def propertyClass : Reader Atom := do
  let negated := (← peek) == some 'P'
  unless ← bumpOver do fail .escapeEnd (← here)
  match ← peek with
  | some '\x7b' =>
    let name ← propertyName ((← length) + 1) []
    if ← atEnd then fail .escapeEnd (← here)
    skip
    return .property (queryOf name) negated
  | some c =>
    if c == '\\' then fail .propertyInvalid (← nextExtent)
    let _ ← bumpOver
    return .property ⟨c.toString, none, false⟩ negated
  | none => fail .escapeEnd (← here)

def metaCharacters : List Char := "\\.+*?()|[]\x7b\x7d^$#&-~".toList

def isEscapable (c : Char) : Bool :=
  metaCharacters.contains c || (c.toNat < 128 && !c.isAlphanum && c != '<' && c != '>')

def isBoundaryLetter (c : Char) : Bool := c.isAlpha || c == '-'

def boundaryName : Nat → List Char → Reader (List Char)
  | 0, acc => return acc.reverse
  | fuel + 1, acc => do
    match ← peek with
    | some c =>
      if isBoundaryLetter c then
        let _ ← bumpOver
        boundaryName fuel (c :: acc)
      else return acc.reverse
    | none => return acc.reverse

-- `\b{start}` and the like; a brace with anything else is left for a repetition.
def specialBoundary (escapeStart : Spot) : Reader Boundary := do
  let before ← get
  let start ← spot
  unless ← bumpOver do fail .boundaryEnd ⟨escapeStart, ← spot⟩
  let content ← spot
  match ← peek with
  | some c =>
    if isBoundaryLetter c then
      let name ← boundaryName ((← length) + 1) []
      unless (← peek) == some '\x7d' do fail .boundaryUnclosed ⟨start, ← spot⟩
      let stop ← spot
      skip
      match String.ofList name with
      | "start" => return .wordStart
      | "end" => return .wordEnd
      | "start-half" => return .wordStartHalf
      | "end-half" => return .wordEndHalf
      | _ => fail .boundaryUnknown ⟨content, stop⟩
    else
      set before
      return .word
  | none => return .word

def plainEscape (start : Spot) (c : Char) : Reader Atom := do
  skip
  if isEscapable c then return .literal c false
  match c with
  | 'a' => return .literal '\x07' false
  | 'f' => return .literal '\x0c' false
  | 't' => return .literal '\t' false
  | 'n' => return .literal '\n' false
  | 'r' => return .literal '\r' false
  | 'v' => return .literal '\x0b' false
  | 'A' => return .boundary .startText
  | 'z' => return .boundary .endText
  | 'B' => return .boundary .notWord
  | '<' => return .boundary .wordStart
  | '>' => return .boundary .wordEnd
  | 'b' =>
    if (← peek) == some '\x7b' then return .boundary (← specialBoundary start)
    else return .boundary .word
  | _ => fail .escapeUnknown ⟨start, ← spot⟩

def escaped : Reader Piece := do
  let start ← spot
  unless ← bump do fail .escapeEnd ⟨start, ← spot⟩
  let c := (← peek).getD ' '
  let atom ←
    if c.isDigit then fail .backreference ⟨start, (← nextExtent).stop⟩
    else if c == 'x' || c == 'u' || c == 'U' then hexLiteral
    else if c == 'p' || c == 'P' then propertyClass
    else if c == 'd' || c == 'D' then do skip; pure (.short .digit (c == 'D'))
    else if c == 's' || c == 'S' then do skip; pure (.short .space (c == 'S'))
    else if c == 'w' || c == 'W' then do skip; pure (.short .word (c == 'W'))
    else plainEscape start c
  return ⟨⟨start, ← spot⟩, atom⟩

def primitive (c : Char) : Reader Piece := do
  if c == '\\' then escaped
  else
    let extent ← nextExtent
    skip
    match c with
    | '.' => return ⟨extent, .dot⟩
    | '^' => return ⟨extent, .boundary .startLine⟩
    | '$' => return ⟨extent, .boundary .endLine⟩
    | _ => return ⟨extent, .literal c false⟩

def classItem : Reader Piece := do
  let c := (← peek).getD ' '
  if c == '\\' then escaped
  else
    let extent ← nextExtent
    skip
    return ⟨extent, .literal c false⟩

def literalOf (p : Piece) : Reader Char :=
  match p.atom with
  | .literal c _ => return c
  | _ => fail .classRangeLiteral p.extent

def setItem (p : Piece) : Reader ClassSet :=
  match p.atom with
  | .dot | .boundary _ => fail .classEscape p.extent
  | _ => return .piece p

def unclosed {α : Type} (opened : Extent) : Reader α := fail .classUnclosed opened

def classRange (opened : Extent) : Reader ClassSet := do
  let first ← classItem
  bumpSpace
  if ← atEnd then unclosed opened
  let dash := (← peek) == some '-'
  let behind ← peekSpace
  if !dash || behind == some ']' || behind == some '-' then setItem first
  else
    unless ← bumpOver do unclosed opened
    let second ← classItem
    let extent : Extent := ⟨first.extent.start, second.extent.stop⟩
    let low ← literalOf first
    let high ← literalOf second
    if high < low then fail .classRange extent
    return .range extent low high

def namedClass? : String → Option NamedClass
  | "alnum" => some .alnum
  | "alpha" => some .alpha
  | "ascii" => some .ascii
  | "blank" => some .blank
  | "cntrl" => some .cntrl
  | "digit" => some .digit
  | "graph" => some .graph
  | "lower" => some .lower
  | "print" => some .print
  | "punct" => some .punct
  | "space" => some .space
  | "upper" => some .upper
  | "word" => some .word
  | "xdigit" => some .xdigit
  | _ => none

def maybeNamed : Reader (Option ClassSet) := do
  let s ← get
  match s.rest with
  | '[' :: ':' :: rest =>
    let (negated, rest) := match rest with
      | '^' :: rest => (true, rest)
      | _ => (false, rest)
    let name := rest.takeWhile (· ≠ ':')
    match rest.drop name.length, namedClass? (String.ofList name) with
    | ':' :: ']' :: _, some k =>
      for _ in List.range (name.length + (if negated then 5 else 4)) do skip
      return some (.named k negated)
    | _, _ => return none
  | _ => return none

-- Dashes at the start of a class stand for themselves.
def leadingDashes (start : Spot) : Nat → List ClassSet → Reader (List ClassSet)
  | 0, acc => return acc
  | fuel + 1, acc => do
    if (← peek) == some '-' then
      let item := ClassSet.piece ⟨← nextExtent, .literal '-' false⟩
      unless ← bumpOver do unclosed ⟨start, start⟩
      leadingDashes start fuel (acc ++ [item])
    else return acc

def classOpen : Reader (Extent × Bool × List ClassSet) := do
  let start ← spot
  unless ← bumpOver do unclosed ⟨start, ← spot⟩
  let negated := (← peek) == some '^'
  if negated then
    unless ← bumpOver do unclosed ⟨start, ← spot⟩
  let dashes ← leadingDashes start ((← length) + 1) []
  if dashes.isEmpty && (← peek) == some ']' then
    let item := ClassSet.piece ⟨← nextExtent, .literal ']' false⟩
    unless ← bumpOver do unclosed ⟨start, ← spot⟩
    return (⟨start, ← spot⟩, negated, [item])
  else return (⟨start, ← spot⟩, negated, dashes)

def setOf (left : Option (ClassSet × SetOp)) (items : List ClassSet) : ClassSet :=
  match left with
  | some (l, op) => .op op l (.union items)
  | none => .union items

def setOp? : Reader (Option SetOp) := do
  if ← eat "&&" then return some .intersection
  else if ← eat "--" then return some .difference
  else if ← eat "~~" then return some .symmetricDifference
  else return none

mutual

def bracketed : Nat → Reader (Extent × Bool × ClassSet)
  | 0 => do fail .classUnclosed (← here)
  | fuel + 1 => do
    let (opened, negated, items) ← classOpen
    let inner ← classTail fuel opened none items
    return (⟨opened.start, ← spot⟩, negated, inner)

def classTail : Nat → Extent → Option (ClassSet × SetOp) → List ClassSet → Reader ClassSet
  | 0, opened, _, _ => unclosed opened
  | fuel + 1, opened, left, items => do
    bumpSpace
    match ← peek with
    | none => unclosed opened
    | some '[' =>
      match ← maybeNamed with
      | some item => classTail fuel opened left (items ++ [item])
      | none =>
        let (extent, negated, inner) ← bracketed fuel
        classTail fuel opened left (items ++ [.bracketed extent negated inner])
    | some ']' =>
      skip
      return setOf left items
    | some _ =>
      match ← setOp? with
      | some op => classTail fuel opened (some (setOf left items, op)) []
      | none =>
        let item ← classRange opened
        classTail fuel opened left (items ++ [item])

end

def decimalDigits : Nat → List Char → Reader (List Char)
  | 0, acc => return acc.reverse
  | fuel + 1, acc => do
    match ← peek with
    | some c =>
      if c.isDigit then
        let _ ← bumpOver
        decimalDigits fuel (c :: acc)
      else return acc.reverse
    | none => return acc.reverse

def skipWhite : Nat → Reader Unit
  | 0 => pure ()
  | fuel + 1 => do
    match ← peek with
    | some c =>
      if Text.isWhite c then
        skip
        skipWhite fuel
    | none => pure ()

def decimal : Reader (Except Fault Nat) := do
  skipWhite ((← length) + 1)
  let start ← spot
  let digits ← decimalDigits ((← length) + 1) []
  let extent : Extent := ⟨start, ← spot⟩
  skipWhite ((← length) + 1)
  if digits.isEmpty then return .error ⟨.countEmpty, extent, none⟩
  let n := digits.foldl (fun n c => 10 * n + (c.toNat - 48)) 0
  return if n < Nat.pow 2 32 then .ok n else .error ⟨.decimalInvalid, extent, none⟩

def orFail {α : Type} (e : Except Fault α) : Reader α :=
  match e with
  | .ok a => return a
  | .error f => fun s => .error f s

def isRepeatable : Expr → Bool
  | .empty | .flags _ => false
  | _ => true

def extentOf : Expr → Extent
  | .piece p => p.extent
  | .bracketed e _ _ | .repetition e _ _ _ | .group e _ _ _ | .concat e _ | .alternation e _ => e
  | .empty | .flags _ => default

def operand (items : List Expr) : Reader (List Expr × Expr) := do
  match items.reverse with
  | e :: before =>
    if isRepeatable e then return (before.reverse, e) else fail .repetitionMissing (← here)
  | [] => fail .repetitionMissing (← here)

def repeated (before : List Expr) (e : Expr) (low : Nat) (high : Option Nat) : Reader (List Expr) :=
  return before ++ [.repetition ⟨(extentOf e).start, ← spot⟩ low high e]

def uncounted (items : List Expr) (low : Nat) (high : Option Nat) : Reader (List Expr) := do
  let (before, e) ← operand items
  if ← bump then
    if (← peek) == some '?' then skip
  repeated before e low high

def counted (items : List Expr) : Reader (List Expr) := do
  let start ← spot
  let (before, e) ← operand items
  unless ← bumpOver do fail .countUnclosed ⟨start, ← spot⟩
  let low ← decimal
  if ← atEnd then fail .countUnclosed ⟨start, ← spot⟩
  let (low, high) ← if (← peek) == some ',' then do
      unless ← bumpOver do fail .countUnclosed ⟨start, ← spot⟩
      if (← peek) == some '\x7d' then
        pure (← orFail low, none)
      else
        let low ← orFail low
        let high ← orFail (← decimal)
        pure (low, some high)
    else do
      let n ← orFail low
      pure (n, some n)
  unless (← peek) == some '\x7d' do fail .countUnclosed ⟨start, ← spot⟩
  if ← bumpOver then
    if (← peek) == some '?' then skip
  match high with
  | some h => if h < low then fail .countRange ⟨start, ← spot⟩
  | none => pure ()
  repeated before e low high

def flag? : Char → Option Flag
  | 'i' => some .caseless
  | 'm' => some .multiLine
  | 's' => some .dotAll
  | 'U' => some .swapGreed
  | 'u' => some .unicode
  | 'R' => some .crlf
  | 'x' => some .spaced
  | _ => none

def changeOf (items : List (Option Flag × Extent)) : FlagChange :=
  let ordered := items.reverse.map (·.1)
  let set := ordered.takeWhile Option.isSome
  let clear := ordered.drop (set.length + 1)
  ⟨set.filterMap id, clear.filterMap id⟩

def flagItems : Nat → List (Option Flag × Extent) → Reader (List (Option Flag × Extent))
  | 0, items => return items
  | fuel + 1, items => do
    match ← peek with
    | some ':' | some ')' => return items
    | some c =>
      let extent ← nextExtent
      let item ← if c == '-' then pure none else
        match flag? c with
        | some f => pure (some f)
        | none => fail .flagUnknown extent
      match items.find? (·.1 == item) with
      | some (_, first) =>
        fun s => .error ⟨if item.isNone then .negationTwice else .flagTwice, extent, some first⟩ s
      | none =>
        unless ← bump do fail .flagEnd (← here)
        flagItems fuel ((item, extent) :: items)
    | none => fail .flagEnd (← here)

def flagChange : Reader (FlagChange × Bool) := do
  let items ← flagItems ((← length) + 1) []
  match items with
  | (none, extent) :: _ => fail .flagDangling extent
  | _ => return (changeOf items, items.isEmpty)

def isNameCharacter (c : Char) (first : Bool) : Bool :=
  c == '_' || Text.isAlphabetic c
    || (!first && (c == '.' || c == '[' || c == ']' || (Text.Category.ofChar c).isNumber))

def groupNameTail : Nat → Bool → List Char → Reader (List Char)
  | 0, _, acc => return acc.reverse
  | fuel + 1, first, acc => do
    match ← peek with
    | some '>' => return acc.reverse
    | some c =>
      unless isNameCharacter c first do fail .nameInvalid (← nextExtent)
      if ← bump then groupNameTail fuel false (c :: acc) else return (c :: acc).reverse
    | none => return acc.reverse

def groupName : Reader Unit := do
  if ← atEnd then fail .nameUnclosed (← here)
  let start ← spot
  let name ← groupNameTail ((← length) + 1) true []
  let extent : Extent := ⟨start, ← spot⟩
  if ← atEnd then fail .nameUnclosed (← here)
  skip
  if name.isEmpty then fail .nameEmpty ⟨start, start⟩
  let s ← get
  let text := String.ofList name
  match s.names.find? (·.1 == text) with
  | some (_, first) => fun s => .error ⟨.nameTwice, extent, some first⟩ s
  | none => set { s with names := (text, extent) :: s.names }

inductive Opening where
  | flags (change : FlagChange)
  | group (extent : Extent) (captures : Bool) (change : FlagChange)

def noChange : FlagChange := ⟨[], []⟩

def groupOpen : Reader Opening := do
  let extent ← nextExtent
  skip
  bumpSpace
  if ← eatAny ["?=", "?!", "?<=", "?<!"] then
    fail .lookAround ⟨extent.start, ← spot⟩
  let inner ← here
  if ← eatAny ["?P<", "?<"] then
    groupName
    return .group extent true noChange
  else if ← eat "?" then
    if ← atEnd then fail .groupUnclosed extent
    let (change, isEmpty) ← flagChange
    let last ← peek
    skip
    if last == some ')' then
      if isEmpty then fail .repetitionMissing inner
      return .flags change
    else return .group extent false change
  else return .group extent true noChange

def concatOf (start stop : Spot) : List Expr → Expr
  | [] => .empty
  | [e] => e
  | es => .concat ⟨start, stop⟩ es

def branchesOf (start stop : Spot) : List Expr → Expr
  | [e] => e
  | es => .alternation ⟨start, stop⟩ es

def setSpaced (change : FlagChange) : Reader Unit :=
  match change.state? .spaced with
  | some b => modify fun s => { s with spaced := b }
  | none => pure ()

mutual

def branches : Nat → Spot → List Expr → Spot → List Expr → Reader Expr
  | 0, start, done, from_, items => do
    return branchesOf start (← spot) (done ++ [concatOf from_ (← spot) items])
  | fuel + 1, start, done, from_, items => do
    bumpSpace
    match ← peek with
    | none => return branchesOf start (← spot) (done ++ [concatOf from_ (← spot) items])
    | some c =>
      match c with
      | ')' => return branchesOf start (← spot) (done ++ [concatOf from_ (← spot) items])
      | '(' =>
        let e ← parenthesized fuel
        branches fuel start done from_ (items ++ [e])
      | '|' =>
        let e := concatOf from_ (← spot) items
        skip
        branches fuel start (done ++ [e]) (← spot) []
      | '[' =>
        let (extent, negated, inner) ← bracketed fuel
        branches fuel start done from_ (items ++ [.bracketed extent negated inner])
      | '?' =>
        let items ← uncounted items 0 (some 1)
        branches fuel start done from_ items
      | '*' =>
        let items ← uncounted items 0 none
        branches fuel start done from_ items
      | '+' =>
        let items ← uncounted items 1 none
        branches fuel start done from_ items
      | '\x7b' =>
        let items ← counted items
        branches fuel start done from_ items
      | _ =>
        let p ← primitive c
        branches fuel start done from_ (items ++ [.piece p])

def parenthesized : Nat → Reader Expr
  | 0 => do fail .groupUnclosed (← here)
  | fuel + 1 => do
    match ← groupOpen with
    | .flags change =>
      setSpaced change
      return .flags change
    | .group extent captures change =>
      let outside := (← get).spaced
      setSpaced change
      let start ← spot
      let inner ← branches fuel start [] start []
      if ← atEnd then fail .groupUnclosed extent
      modify fun s => { s with spaced := outside }
      skip
      return .group ⟨extent.start, ← spot⟩ captures change inner

end

mutual

def tooDeep (depth : Nat) : Expr → Option Extent
  | .repetition e _ _ inner => if depth < nestLimit then tooDeep (depth + 1) inner else some e
  | .group e _ _ inner => if depth < nestLimit then tooDeep (depth + 1) inner else some e
  | .concat e items => if depth < nestLimit then tooDeepList (depth + 1) items else some e
  | .alternation e items => if depth < nestLimit then tooDeepList (depth + 1) items else some e
  | .bracketed e _ inner => if depth < nestLimit then tooDeepSet (depth + 1) inner else some e
  | _ => none

def tooDeepList (depth : Nat) : List Expr → Option Extent
  | [] => none
  | e :: rest => (tooDeep depth e).or (tooDeepList depth rest)

def tooDeepSet (depth : Nat) : ClassSet → Option Extent
  | .bracketed e _ inner => if depth < nestLimit then tooDeepSet (depth + 1) inner else some e
  | .union items => tooDeepSets depth items
  | .op _ left right => (tooDeepSet depth left).or (tooDeepSet depth right)
  | _ => none

def tooDeepSets (depth : Nat) : List ClassSet → Option Extent
  | [] => none
  | s :: rest => (tooDeepSet depth s).or (tooDeepSets depth rest)

end

def whole : Reader Expr := do
  let start ← spot
  let e ← branches (2 * (← length) + 2) start [] start []
  unless ← atEnd do fail .groupUnopened (← nextExtent)
  match tooDeep 0 e with
  | some extent => fail .nestedTooDeeply extent
  | none => return e

end Reader

def read (pattern : String) : Except Fault Expr :=
  match Reader.whole ⟨pattern.toList, ⟨1, 1⟩, false, []⟩ with
  | .ok e _ => .ok e
  | .error f _ => .error f

end Rsx.Pattern
