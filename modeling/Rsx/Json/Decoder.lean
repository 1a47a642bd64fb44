import Rsx.Json.Fault
import Rsx.Number.Binary64
import Rsx.Token.Reader

set_option autoImplicit false

namespace Rsx

abbrev Decoder := EStateM JsonFault Reader

namespace Decoder

def peek : Decoder (Option Char) := return (← get).peek

def advance : Decoder Unit := modify Reader.skip

def failHere {α : Type} (issue : JsonIssue) : Decoder α :=
  fun r => .error ⟨issue, some r.offset⟩ r

def failNext {α : Type} (issue : JsonIssue) : Decoder α :=
  fun r => .error ⟨issue, some (if r.rest.isEmpty then r.offset else r.offset + 1)⟩ r

def failContent {α : Type} (issue : JsonIssue) : Decoder α := fun r => .error ⟨issue, none⟩ r

-- Gives content faults the place where the decoder stopped.
def placed {α : Type} (d : Decoder α) : Decoder α := fun r =>
  match d r with
  | .ok a r => .ok a r
  | .error fault r => .error ⟨fault.issue, some (fault.offset.getD r.offset)⟩ r

-- Runs `close` in any case; the fault of `d` comes first.
def closing {α : Type} (d : Decoder α) (close : Decoder Unit) : Decoder α := fun r =>
  match d r with
  | .ok a r =>
    match close r with
    | .ok () r => .ok a r
    | .error fault r => .error fault r
  | .error fault r =>
    match close r with
    | .ok () r => .error fault r
    | .error _ r => .error fault r

def isSpace (c : Char) : Bool := c == ' ' || c == '\n' || c == '\t' || c == '\r'

def next : Decoder (Option Char) := do
  modify fun r => (r.takeWhile isSpace).2
  peek

def word : List Char → Decoder Unit
  | [] => pure ()
  | c :: cs => do
    match ← peek with
    | none => failHere .endInValue
    | some d =>
      advance
      if c == d then word cs else failHere .expectedWord

def hexValue? (c : Char) : Option Nat :=
  let n := c.toNat
  if 48 ≤ n && n ≤ 57 then some (n - 48)
  else if 97 ≤ n && n ≤ 102 then some (n - 87)
  else if 65 ≤ n && n ≤ 70 then some (n - 55)
  else none

def hexNumber : List Char → Option Nat
  | [a, b, c, d] =>
    match hexValue? a, hexValue? b, hexValue? c, hexValue? d with
    | some a, some b, some c, some d => some (((a * 16 + b) * 16 + c) * 16 + d)
    | _, _, _, _ => none
  | _ => none

-- Four bytes are taken whatever they are.
def hexEscape : Decoder Nat := fun r =>
  let four := r.rest.take 4
  if byteLength r.rest < 4 then .error ⟨.endInString, some (r.offset + byteLength r.rest)⟩ r
  else
    match hexNumber four with
    | some n => .ok n (r.skipMany 4)
    | none => .error ⟨.invalidEscape, some (r.offset + 4)⟩ r

def simpleEscape? (c : Char) : Option Char :=
  if c == '"' || c == '\\' || c == '/' then some c
  else if c == 'b' then some '\x08'
  else if c == 'f' then some '\x0c'
  else if c == 'n' then some '\n'
  else if c == 'r' then some '\r'
  else if c == 't' then some '\t'
  else none

def isHigh (n : Nat) : Bool := 0xD800 ≤ n && n ≤ 0xDBFF

def isLow (n : Nat) : Bool := 0xDC00 ≤ n && n ≤ 0xDFFF

def pairMark (c : Char) : Decoder Unit := do
  match ← peek with
  | none => failHere .endInString
  | some d =>
    advance
    unless c == d do failHere .endOfEscape

def unicodeEscape : Decoder Char := do
  let n ← hexEscape
  if isLow n then failHere .loneSurrogate
  else if isHigh n then
    pairMark '\\'
    pairMark 'u'
    let m ← hexEscape
    if isLow m then return Char.ofNat (0x10000 + (n - 0xD800) * 0x400 + (m - 0xDC00))
    else failHere .loneSurrogate
  else return Char.ofNat n

def escape : Decoder Char := do
  match ← peek with
  | none => failHere .endInString
  | some c =>
    advance
    if c == 'u' then unicodeEscape
    else
      match simpleEscape? c with
      | some d => return d
      | none => failHere .invalidEscape

def stringTail : Nat → List Char → Decoder String
  | 0, _ => failHere .endInString
  | fuel + 1, acc => do
    match ← peek with
    | none => failHere .endInString
    | some c =>
      advance
      if c == '"' then return String.ofList acc.reverse
      else if c == '\\' then
        let d ← escape
        stringTail fuel (d :: acc)
      else if c.toNat < 32 then failHere .controlCharacter
      else stringTail fuel (c :: acc)

def quotedString : Decoder String := do
  advance
  stringTail ((← get).rest.length + 1) []

inductive Number where
  | integer (value : Int)
  | float (negative : Bool) (value : Binary64)

def largestNatural : Nat := Nat.pow 2 64 - 1

def powerOfTen (k : Nat) : Binary64 := .ofDecimal 1 k

def times : Binary64 → Binary64 → Binary64
  | .finite m e, .finite n f =>
    let (a, b) := Binary64.ratio m e
    let (c, d) := Binary64.ratio n f
    Binary64.ofRatio (a * c) (b * d)
  | _, _ => .infinite

def dividedBy : Binary64 → Binary64 → Binary64
  | .finite m e, .finite n f =>
    let (a, b) := Binary64.ratio m e
    let (c, d) := Binary64.ratio n f
    Binary64.ofRatio (a * d) (b * c)
  | x, _ => x

def isZero : Binary64 → Bool
  | .finite m _ => m == 0
  | .infinite => false

-- `digits * 10 ^ e`, by one rounded multiplication or by rounded divisions.
def scaledFloat : Nat → Binary64 → Int → Option Binary64
  | 0, x, _ => some x
  | fuel + 1, x, e =>
    if e.natAbs ≤ 308 then
      if 0 ≤ e then
        match times x (powerOfTen e.natAbs) with
        | .infinite => none
        | y => some y
      else some (dividedBy x (powerOfTen e.natAbs))
    else if isZero x then some x
    else if 0 ≤ e then none
    else scaledFloat fuel (dividedBy x (powerOfTen 308)) (e + 308)

def floatOf (negative : Bool) (digits : Nat) (e : Int) : Decoder Number := do
  match scaledFloat 8 (.ofNat digits) e with
  | some x => return .float negative x
  | none => failHere .numberTooLarge

def digit? (c : Option Char) : Option Nat :=
  match c with
  | some c => if c.isDigit then some (c.toNat - 48) else none
  | none => none

def skipDigits : Decoder Unit := modify fun r => (r.takeWhile Char.isDigit).2

def fitsNatural (n d : Nat) : Bool := n * 10 + d ≤ largestNatural

def takeDigits : Nat → Nat → Nat → Decoder (Nat × Nat × Bool)
  | 0, n, k => return (n, k, false)
  | fuel + 1, n, k => do
    match digit? (← peek) with
    | none => return (n, k, false)
    | some d =>
      if fitsNatural n d then
        advance
        takeDigits fuel (n * 10 + d) (k + 1)
      else return (n, k, true)

def left : Decoder Nat := return (← get).rest.length

def largestExponent : Nat := Nat.pow 2 31 - 1

def takeExponent : Nat → Nat → Decoder (Option Nat)
  | 0, n => return some n
  | fuel + 1, n => do
    match digit? (← peek) with
    | none => return some n
    | some d =>
      advance
      if n * 10 + d ≤ largestExponent then takeExponent fuel (n * 10 + d) else return none

def atExponent : Decoder Bool := return (← peek) == some 'e' || (← peek) == some 'E'

def exponentTail (negative : Bool) (digits : Nat) (e : Int) : Decoder Number := do
  advance
  let down := (← peek) == some '-'
  if down || (← peek) == some '+' then advance
  match ← peek with
  | none => failHere .endInValue
  | some c =>
    advance
    match digit? (some c) with
    | none => failHere .invalidNumber
    | some d =>
      match ← takeExponent (← left) d with
      | some n => floatOf negative digits (if down then e - n else e + n)
      | none =>
        if digits != 0 && !down then failHere .numberTooLarge
        skipDigits
        return .float negative (.finite 0 0)

def fractionTail (negative : Bool) (digits : Nat) (e : Int) : Decoder Number := do
  advance
  let (n, k, more) ← takeDigits (← left) digits 0
  if more then
    skipDigits
    if ← atExponent then exponentTail negative n (e - k) else floatOf negative n (e - k)
  else if k == 0 then
    failNext (if (← peek).isNone then .endInValue else .invalidNumber)
  else if ← atExponent then exponentTail negative n (e - k)
  else floatOf negative n (e - k)

def countDigits : Decoder Nat := do
  let ds := ((← get).rest.takeWhile Char.isDigit).length
  skipDigits
  return ds

def wholeOf (negative : Bool) (n : Nat) : Number :=
  if !negative then .integer n
  else if n == 0 || n > Nat.pow 2 63 then .float true (.ofNat n)
  else .integer (-n)

def numberRest (negative : Bool) (n : Nat) (e : Int) (whole : Bool) : Decoder Number := do
  if (← peek) == some '.' then fractionTail negative n e
  else if ← atExponent then exponentTail negative n e
  else if whole then return wholeOf negative n
  else floatOf negative n e

def number (negative : Bool) : Decoder Number := do
  match ← peek with
  | none => failHere .endInValue
  | some c =>
    advance
    match digit? (some c) with
    | none => failHere .invalidNumber
    | some 0 =>
      if (digit? (← peek)).isSome then failNext .invalidNumber
      else numberRest negative 0 0 true
    | some d =>
      let (n, _, more) ← takeDigits (← left) d 0
      if more then
        let k ← countDigits
        numberRest negative n k false
      else numberRest negative n 0 true

-- The text of a float: positional up to sixteen places, always with a point or a signed exponent.
def floatDigits (d : Nat) (p : Int) : List Char :=
  let ds := Nat.toDigits 10 d
  let k := ds.length
  let n : Int := p + k
  if d = 0 then ['0', '.', '0']
  else if 0 ≤ p ∧ n ≤ 16 then ds ++ List.replicate p.toNat '0' ++ ['.', '0']
  else if 0 < n ∧ n ≤ 16 then ds.take n.toNat ++ '.' :: ds.drop n.toNat
  else if -5 < n ∧ n ≤ 0 then '0' :: '.' :: List.replicate (-n).toNat '0' ++ ds
  else
    let sign := if 0 < n then ['+'] else []
    let e := sign ++ (toString (n - 1)).toList
    match ds with
    | [c] => c :: 'e' :: e
    | c :: rest => c :: '.' :: rest ++ 'e' :: e
    | [] => []

def floatText (negative : Bool) : Binary64 → String
  | .finite m e =>
    let (d, p) := Binary64.shortest m e
    String.ofList ((if negative then ['-'] else []) ++ floatDigits d p)
  | .infinite => "inf"

def Number.found : Number → JsonFound
  | .integer i => .integer i
  | .float negative x => .float (floatText negative x)

def reject {α : Type} (wanted : String) : Decoder α := placed do
  match ← peek with
  | some 'n' =>
    advance
    word ['u', 'l', 'l']
    failContent (.wrongType .null wanted)
  | some 't' =>
    advance
    word ['r', 'u', 'e']
    failContent (.wrongType (.boolean true) wanted)
  | some 'f' =>
    advance
    word ['a', 'l', 's', 'e']
    failContent (.wrongType (.boolean false) wanted)
  | some '-' =>
    advance
    failContent (.wrongType (← number true).found wanted)
  | some '"' => failContent (.wrongType (.string (← quotedString)) wanted)
  | some '[' => failContent (.wrongType .sequence wanted)
  | some '\x7b' => failContent (.wrongType .map wanted)
  | c =>
    if (digit? c).isSome then failContent (.wrongType (← number false).found wanted)
    else failNext .expectedValue

def expectNext : Decoder Char := do
  match ← next with
  | some c => return c
  | none => failNext .endInValue

def string (wanted : String) : Decoder String := do
  if (← expectNext) == '"' then quotedString else reject wanted

def text : Decoder String := string "a string"

def boolean : Decoder Bool := do
  let c ← expectNext
  if c == 't' then
    advance
    word ['r', 'u', 'e']
    return true
  else if c == 'f' then
    advance
    word ['a', 'l', 's', 'e']
    return false
  else reject "a boolean"

def natural32 : Decoder Nat := placed do
  let c ← expectNext
  let wanted := "u32"
  let n ← if c == '-' then do
      advance
      number true
    else if c.isDigit then number false
    else reject wanted
  match n with
  | .integer (.ofNat n) =>
    if n < Nat.pow 2 32 then return n else failContent (.wrongValue (.integer n) wanted)
  | .integer i => failContent (.wrongValue (.integer i) wanted)
  | n => failContent (.wrongType n.found wanted)

def nullable {α : Type} (d : Decoder α) : Decoder (Option α) := do
  if (← next) == some 'n' then
    advance
    word ['u', 'l', 'l']
    return none
  else return some (← d)

def moreElements (first : Bool) : Decoder Bool := do
  match ← next with
  | none => failNext .endInList
  | some c =>
    if c == ']' then return false
    else if first then return true
    else if c == ',' then
      advance
      match ← next with
      | none => failNext .endInValue
      | some ']' => failNext .trailingComma
      | some _ => return true
    else failNext .expectedListEnd

def endList : Decoder Unit := do
  match ← next with
  | none => failNext .endInList
  | some ']' => advance
  | some ',' =>
    advance
    match ← next with
    | some ']' => failNext .trailingComma
    | _ => failNext .trailingCharacters
  | some _ => failNext .trailingCharacters

def elements {α : Type} (d : Decoder α) : Nat → Bool → Decoder (List α)
  | 0, _ => return []
  | fuel + 1, first => do
    if ← moreElements first then
      let a ← d
      return a :: (← elements d fuel false)
    else return []

def list {α : Type} (d : Decoder α) : Decoder (List α) := do
  if (← expectNext) == '[' then
    advance
    placed (closing (elements d ((← left) + 1) true) endList)
  else reject "a sequence"

def moreKeys (first : Bool) : Decoder Bool := do
  let c ← match ← next with
    | none => failNext .endInObject
    | some '\x7d' => return false
    | some c =>
      if first then pure (some c)
      else if c == ',' then do
        advance
        next
      else failNext .expectedObjectEnd
  match c with
  | some '"' => return true
  | some '\x7d' => failNext .trailingComma
  | some _ => failNext .keyNotString
  | none => failNext .endInValue

def endObject : Decoder Unit := do
  match ← next with
  | none => failNext .endInObject
  | some '\x7d' => advance
  | some ',' => failNext .trailingComma
  | some _ => failNext .trailingCharacters

def colon : Decoder Unit := do
  match ← next with
  | none => failNext .endInObject
  | some ':' => advance
  | some _ => failNext .expectedColon

def skipEscape : Decoder Unit := do
  match ← peek with
  | none => failHere .endInString
  | some c =>
    advance
    if c == 'u' then
      let _ ← hexEscape
    else if (simpleEscape? c).isNone then failHere .invalidEscape

def skipString : Nat → Decoder Unit
  | 0 => failHere .endInString
  | fuel + 1 => do
    match ← peek with
    | none => failHere .endInString
    | some c =>
      if c == '"' then advance
      else if c == '\\' then
        advance
        skipEscape
        skipString fuel
      else if c.toNat < 32 then failHere .controlCharacter
      else
        advance
        skipString fuel

def skipExponent : Decoder Unit := do
  advance
  if (← peek) == some '-' || (← peek) == some '+' then advance
  let c ← peek
  advance
  if (digit? c).isNone then failHere .invalidNumber
  skipDigits

def skipNumber : Decoder Unit := do
  let c ← peek
  advance
  match digit? c with
  | none => failHere .invalidNumber
  | some 0 => if (digit? (← peek)).isSome then failNext .invalidNumber
  | some _ => skipDigits
  if (← peek) == some '.' then
    advance
    if (digit? (← peek)).isNone then failNext .invalidNumber
    skipDigits
  if ← atExponent then skipExponent

def skipKey : Decoder Unit := do
  match ← next with
  | none => failNext .endInObject
  | some '"' =>
    advance
    skipString ((← left) + 1)
    colon
  | some _ => failNext .keyNotString

-- The values still to come in the enclosing lists (`false`) and objects (`true`), innermost first.
def skipValues : Nat → List Bool → Decoder Unit
  | 0, _ => failNext .endInValue
  | fuel + 1, open_ => do
    let c ← expectNext
    let opened : Option Bool ← match c with
      | 'n' => do
        advance
        word ['u', 'l', 'l']
        pure none
      | 't' => do
        advance
        word ['r', 'u', 'e']
        pure none
      | 'f' => do
        advance
        word ['a', 'l', 's', 'e']
        pure none
      | '"' => do
        advance
        skipString ((← left) + 1)
        pure none
      | '-' => do
        advance
        skipNumber
        pure none
      | '[' => do
        advance
        pure (some false)
      | '\x7b' => do
        advance
        pure (some true)
      | c => do
        if c.isDigit then skipNumber else failNext .expectedValue
        pure none
    let open_ ← match opened with
      | some isObject => closeFrames fuel false (isObject :: open_)
      | none => closeFrames fuel true open_
    match open_ with
    | [] => pure ()
    | isObject :: _ =>
      if isObject then skipKey
      skipValues fuel open_
where
  closeFrames : Nat → Bool → List Bool → Decoder (List Bool)
    | _, _, [] => return []
    | 0, _, open_ => return open_
    | fuel + 1, comma, isObject :: outer => do
      let close := if isObject then '\x7d' else ']'
      match ← next with
      | none => failNext (if isObject then .endInObject else .endInList)
      | some c =>
        if c == ',' && comma then
          advance
          return isObject :: outer
        else if c == close then
          advance
          closeFrames fuel true outer
        else if comma then failNext (if isObject then .expectedObjectEnd else .expectedListEnd)
        else return isObject :: outer

def skipValue : Decoder Unit := do skipValues ((← left) + 1) []

structure Shape (σ : Type) where
  name : String
  start : σ
  field : String → σ → Option (Decoder σ)
  items : List (σ → Decoder σ)      -- the fields in order, for the list form
  allItems : Bool                   -- the list form has to be complete

def fields {σ : Type} (shape : Shape σ) : Nat → Bool → σ → Decoder σ
  | 0, _, s => return s
  | fuel + 1, first, s => do
    if ← moreKeys first then
      let key ← quotedString
      match shape.field key s with
      | some d => fields shape fuel false (← d)
      | none =>
        colon
        skipValue
        fields shape fuel false s
    else return s

def itemFields {σ : Type} (shape : Shape σ) : List (σ → Decoder σ) → Nat → σ → Decoder σ
  | [], _, s => return s
  | d :: ds, i, s => do
    if ← moreElements (i == 0) then itemFields shape ds (i + 1) (← d s)
    else if shape.allItems then
      let wanted := shape.name ++ " with " ++ toString shape.items.length ++ " elements"
      failContent (.wrongLength i wanted)
    else return s

def record {σ α : Type} (shape : Shape σ) (finish : σ → Decoder α) : Decoder α := do
  let c ← expectNext
  if c == '[' then
    advance
    placed (closing (do finish (← itemFields shape shape.items 0 shape.start)) endList)
  else if c == '\x7b' then
    advance
    placed (closing (do finish (← fields shape ((← left) + 1) true shape.start)) endObject)
  else reject shape.name

def fieldOnce {σ α : Type} (name : String) (old : Option α) (d : Decoder α) (set : α → σ) :
    Decoder σ := do
  if old.isSome then failContent (.duplicateField name)
  else
    colon
    return set (← d)

def required {α : Type} (name : String) (value : Option α) : Decoder α :=
  match value with
  | some a => return a
  | none => failContent (.missingField name)

def run {α : Type} (d : Decoder α) (text : String) : Except JsonFault α :=
  let whole : Decoder α := do
    let a ← d
    if (← next).isSome then failNext .trailingCharacters
    return a
  match whole ⟨text.toList, 0⟩ with
  | .ok a _ => .ok a
  | .error fault _ => .error fault

end Decoder

end Rsx
