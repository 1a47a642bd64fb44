import Rsx.Position
import Rsx.Printer.Output
import Rsx.Text.Quoted

set_option autoImplicit false

namespace Rsx

structure Cursor where
  line : Nat
  column : Nat
  afterReturn : Bool
deriving DecidableEq

namespace Cursor

def origin : Cursor := ⟨0, 0, false⟩

-- A carriage return and the line feed behind it end one line.
def step (p : Cursor) (c : Char) : Cursor :=
  if c == '\n' && p.afterReturn then { p with afterReturn := false }
  else if Text.isLineEnd c then ⟨p.line + 1, 0, c == '\r'⟩
  else ⟨p.line, p.column + (if c.toNat < 0x10000 then 1 else 2), false⟩

def ofOffset (source : List Char) (offset : Nat) : Cursor :=
  match splitAtByte source offset with
  | some (before, _) => before.foldl step origin
  | none => origin

end Cursor

structure Segment where
  generated : Cursor
  inSource : Cursor
  name : Option Nat
deriving DecidableEq

structure SourceMap where
  names : List String
  segments : List Segment

namespace SourceMap

def slice (source : List Char) (start stop : Nat) : String :=
  match splitAtByte source start with
  | some (_, rest) =>
    match splitAtByte rest (stop - start) with
    | some (part, _) => String.ofList part
    | none => ""
  | none => ""

structure Building where
  place : Cursor
  lastOffset : Option Nat
  names : List String        -- in order of first use
  segments : List Segment    -- newest first

def addName (names : List String) (x : String) : List String × Nat :=
  match names.findIdx? (· == x) with
  | some i => (names, i)
  | none => (names ++ [x], names.length)

-- A printed name is recorded only where the source spells it differently.
def sourceName? (source : List Char) (start stop : Nat) (printed : Option String) : Option String :=
  match printed with
  | none => none
  | some x =>
    let written := slice source start stop
    if written == x then none else some written

def addMark (source : List Char) (b : Building) (start stop : Nat) (printed : Option String) :
    Building :=
  if b.lastOffset == some start then b
  else
    let (names, index) := match sourceName? source start stop printed with
      | some x =>
        let (names, i) := addName b.names x
        (names, some i)
      | none => (b.names, none)
    { b with
      lastOffset := some start
      names
      segments := ⟨b.place, Cursor.ofOffset source start, index⟩ :: b.segments }

def addPiece (source : List Char) (length : Nat) (b : Building) : Piece → Building
  | .text s => { b with place := s.toList.foldl Cursor.step b.place }
  | .mark start stop printed =>
    if start ≥ length then b else addMark source b start stop printed

def ofPieces (source : String) (pieces : List Piece) : SourceMap :=
  let b := pieces.foldl (addPiece source.toList source.utf8ByteSize) ⟨.origin, none, [], []⟩
  ⟨b.names, b.segments.reverse⟩

def digits : List Char := "ABCDEFGHIJKLMNOPQRSTUVWXYZabcdefghijklmnopqrstuvwxyz0123456789+/".toList

-- Five bits a digit; the sixth says that more follow. Enough fuel for 64 bits.
def writeNat : Nat → Nat → List Char
  | 0, _ => []
  | fuel + 1, n =>
    if n < 32 then [digits.getD n 'A']
    else digits.getD (n % 32 + 32) 'A' :: writeNat fuel (n / 32)

-- The sign is the lowest bit.
def writeInt (i : Int) : List Char :=
  writeNat 13 (if i < 0 then 2 * i.natAbs + 1 else 2 * i.natAbs)

def difference (a b : Nat) : Int := (a : Int) - (b : Int)

structure Written where
  line : Nat
  column : Nat
  inSource : Cursor
  name : Nat
  text : List Char   -- newest first

def writeSegment (w : Written) (s : Segment) : Written :=
  let breaks := s.generated.line - w.line
  let column := if breaks == 0 then w.column else 0
  let separator :=
    if breaks == 0 then (if w.text.isEmpty || w.text.head? == some ';' then [] else [','])
    else List.replicate breaks ';'
  let name := match s.name with
    | some i => writeInt (difference i w.name)
    | none => []
  let written := separator ++ writeInt (difference s.generated.column column) ++ writeInt 0
    ++ writeInt (difference s.inSource.line w.inSource.line)
    ++ writeInt (difference s.inSource.column w.inSource.column) ++ name
  ⟨s.generated.line, s.generated.column, s.inSource, s.name.getD w.name, written.reverse ++ w.text⟩

def mappings (m : SourceMap) : String :=
  let w := m.segments.foldl writeSegment ⟨0, 0, .origin, 0, []⟩
  String.ofList w.text.reverse

def toJson (m : SourceMap) (path source : String) : String :=
  "\x7b\"version\":3,\"names\":[" ++ ",".intercalate (m.names.map Text.quoted) ++ "],\"sources\":["
    ++ Text.quoted path ++ "],\"sourcesContent\":[" ++ Text.quoted source ++ "],\"mappings\":\""
    ++ m.mappings ++ "\"\x7d"

end SourceMap

end Rsx
