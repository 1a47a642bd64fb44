import Rsx.Pattern.Property
import Rsx.Pattern.Weight

set_option autoImplicit false

namespace Rsx.Pattern

inductive Look where
  | startText
  | endText
  | startLine (crlf : Bool)
  | endLine (crlf : Bool)
  | word (set : Boundary) (ascii : Bool)

inductive Regex where
  | empty
  | chars (set : CharSet)
  | look (l : Look)
  | seq (first second : Regex)
  | alt (left right : Regex)
  | rep (low : Nat) (high : Option Nat) (inner : Regex)
  | capture (inner : Regex)

structure Modes where
  caseless : Bool
  multiLine : Bool
  dotAll : Bool
  unicode : Bool
  crlf : Bool

def Modes.start : Modes := ⟨false, false, false, true, false⟩

def Modes.change (m : Modes) (c : FlagChange) : Modes where
  caseless := (c.state? .caseless).getD m.caseless
  multiLine := (c.state? .multiLine).getD m.multiLine
  dotAll := (c.state? .dotAll).getD m.dotAll
  unicode := (c.state? .unicode).getD m.unicode
  crlf := (c.state? .crlf).getD m.crlf

namespace Regex

open Rsx.Text (Ranges)

def fault {α : Type} (issue : Issue) (extent : Extent) : Except Fault α := .error ⟨issue, extent, none⟩

def withCase (m : Modes) (set : CharSet) : CharSet := if m.caseless then set.caseless else set

-- A byte outside ASCII stands for itself only where text need not be Unicode.
def ofLiteral (m : Modes) (extent : Extent) (c : Char) (byte : Bool) : Except Fault CharSet :=
  if !m.unicode && byte && 127 < c.toNat then fault .notText extent
  else .ok (withCase m [(c.toNat, c.toNat)])

def ofShort (m : Modes) (extent : Extent) (k : ShortClass) (negated : Bool) : Except Fault CharSet :=
  if m.unicode then .ok (if negated then Ranges.outside k.unicodeSet else k.unicodeSet)
  else if negated then fault .notText extent
  else .ok k.asciiSet

def ofProperty (m : Modes) (extent : Extent) (q : PropertyQuery) (negated : Bool) :
    Except Fault CharSet :=
  if !m.unicode then fault .unicodeNotAllowed extent
  else
    match Property.find q with
    | .error issue => fault issue extent
    | .ok set =>
      let set := withCase m set
      .ok (if negated then Ranges.outside set else set)

def ofDot (m : Modes) (extent : Extent) : Except Fault CharSet :=
  if !m.unicode then fault .notText extent
  else if m.dotAll then .ok CharSet.full
  else .ok (Ranges.outside (if m.crlf then .read "a d" else .read "a"))

def ofBoundary (m : Modes) : Boundary → Look
  | .startText => .startText
  | .endText => .endText
  | .startLine => if m.multiLine then .startLine m.crlf else .startText
  | .endLine => if m.multiLine then .endLine m.crlf else .endText
  | b => .word b !m.unicode

def combine : SetOp → CharSet → CharSet → CharSet
  | .intersection, a, b => Ranges.meet a b
  | .difference, a, b => Ranges.minus a b
  | .symmetricDifference, a, b => Ranges.differing a b

-- Bytes outside ASCII that a set holds would not be text.
def checkText (m : Modes) (extent : Extent) (set : CharSet) : Except Fault CharSet :=
  if !m.unicode && Ranges.holds set 0x80 then fault .notText extent else .ok set

def ofClassPiece (m : Modes) (p : Piece) : Except Fault CharSet :=
  match p.atom with
  | .literal c byte =>
    if !m.unicode && 127 < c.toNat then
      if byte then .ok (.read "80") else fault .unicodeNotAllowed p.extent
    else .ok [(c.toNat, c.toNat)]
  | .short k negated => ofShort m p.extent k negated
  | .property q negated => ofProperty m p.extent q negated
  | _ => fault .classEscape p.extent

mutual

def ofSet (m : Modes) : ClassSet → Except Fault CharSet
  | .piece p => ofClassPiece m p
  | .range extent low high =>
    if !m.unicode && 127 < high.toNat then fault .unicodeNotAllowed extent
    else .ok [(low.toNat, high.toNat)]
  | .named k negated =>
    .ok (if negated then Ranges.outside k.set else k.set)
  | .bracketed _ negated inner => do
    let set := withCase m (← ofSet m inner)
    return if negated then Ranges.outside set else set
  | .union items => ofSets m items
  | .op kind left right => do
    let a ← ofSet m left
    let b ← ofSet m right
    return combine kind (withCase m a) (withCase m b)

def ofSets (m : Modes) : List ClassSet → Except Fault CharSet
  | [] => .ok []
  | s :: rest => do
    let a ← ofSet m s
    let b ← ofSets m rest
    return Ranges.plus a b

end

def ofPiece (m : Modes) (p : Piece) : Except Fault Regex :=
  match p.atom with
  | .literal c byte => do
    let set ← ofLiteral m p.extent c byte
    return .chars set
  | .dot => do
    let set ← ofDot m p.extent
    return .chars set
  | .boundary b => .ok (.look (ofBoundary m b))
  | .short k negated => do
    let set ← ofShort m p.extent k negated
    return .chars set
  | .property q negated => do
    let set ← ofProperty m p.extent q negated
    return .chars set

def choice : Regex → Regex → Regex
  | .chars a, .chars b => .chars (Ranges.plus a b)
  | a, b => .alt a b

mutual

-- Flags set inside a group hold up to its end.
def ofExpr (m : Modes) : Expr → Except Fault (Regex × Modes)
  | .empty => .ok (.empty, m)
  | .flags change => .ok (.empty, m.change change)
  | .piece p => do
    let r ← ofPiece m p
    return (r, m)
  | .bracketed extent negated inner => do
    let set := withCase m (← ofSet m inner)
    let set ← checkText m extent (if negated then Ranges.outside set else set)
    return (.chars set, m)
  | .repetition _ low high inner => do
    let (r, m) ← ofExpr m inner
    return (.rep low high r, m)
  | .group _ captures change inner => do
    let (r, _) ← ofExpr (m.change change) inner
    return (if captures then .capture r else r, m)
  | .concat _ items => ofConcat m items
  | .alternation _ items => ofAlternation m items

def ofConcat (m : Modes) : List Expr → Except Fault (Regex × Modes)
  | [] => .ok (.empty, m)
  | e :: rest => do
    let (a, m) ← ofExpr m e
    let (b, m) ← ofConcat m rest
    return (.seq a b, m)

def ofAlternation (m : Modes) : List Expr → Except Fault (Regex × Modes)
  | [] => .ok (.chars [], m)
  | [e] => ofExpr m e
  | e :: rest => do
    let (a, m) ← ofExpr m e
    let (b, m) ← ofAlternation m rest
    return (choice a b, m)

end

def isEmpty : Regex → Bool
  | empty => true
  | seq a b => a.isEmpty && b.isEmpty
  | _ => false

def matchesNothingElse : Regex → Bool
  | empty | look _ => true
  | chars _ => false
  | seq a b | alt a b => a.matchesNothingElse && b.matchesNothingElse
  | rep _ high r => high == some 0 || r.matchesNothingElse
  | capture r => r.matchesNothingElse

def canBeEmpty : Regex → Bool
  | empty | look _ => true
  | chars _ => false
  | seq a b => a.canBeEmpty && b.canBeEmpty
  | alt a b => a.canBeEmpty || b.canBeEmpty
  | rep low _ r => low == 0 || r.canBeEmpty
  | capture r => r.canBeEmpty

def branch : Nat := Weight.state + 2 * Weight.link

def repeatedSize (n low : Nat) (high : Option Nat) (canBeEmpty : Bool) : Nat :=
  match low, high with
  | 0, none => if canBeEmpty then n + 2 * branch + Weight.state else n + branch
  | low, none => low * n + branch
  | 0, some 0 => Weight.state
  | 0, some 1 => n + branch + Weight.state
  | low, some high =>
    if low = high then low * n
    else (if low = 0 then Weight.state else low * n) + Weight.state + (high - low) * (n + branch)

-- A text that can only be empty is repeated once at most.
def repetitionBounds (r : Regex) (low : Nat) (high : Option Nat) : Nat × Option Nat :=
  if r.matchesNothingElse then (min low 1, some (min (high.getD 1) 1)) else (low, high)

def alternatives : Regex → Nat
  | alt a b => a.alternatives + b.alternatives
  | _ => 1

-- What holds the alternatives together; a choice among them is no choice of its own.
def branching : Regex → Nat
  | alt a b => 2 * Weight.state + Weight.link * (a.alternatives + b.alternatives)
  | _ => 0

-- Bytes of an automaton that reads in one direction or the other; only forwards it keeps track of
-- groups.
def size (backward : Bool) : Regex → Nat
  | empty => Weight.state
  | chars set => Weight.ofSet backward set
  | look _ => Weight.state
  | seq a b =>
    if a.isEmpty then b.size backward
    else if b.isEmpty then a.size backward
    else a.size backward + b.size backward
  | alt a b =>
    (a.size backward - a.branching) + (b.size backward - b.branching) + (alt a b).branching
  | rep low high r =>
    let (low, high) := repetitionBounds r low high
    repeatedSize (r.size backward) low high r.canBeEmpty
  | capture r => r.size backward + (if backward then 0 else 2 * Weight.state)

def sizeLimit : Nat := 10485760

def isTooLarge (r : Regex) : Bool := sizeLimit < r.size false || sizeLimit < r.size true

def merge (a b : List Nat) : List Nat := a ++ b.filter fun i => !a.contains i

-- At most `n` times, as long as new places are found.
def upTo (step : List Nat → List Nat) : Nat → List Nat → List Nat → List Nat
  | 0, _, found => found
  | n + 1, last, found =>
    let new := (step last).filter fun i => !found.contains i
    if new.isEmpty then found else upTo step n new (found ++ new)

def times (step : List Nat → List Nat) : Nat → List Nat → List Nat
  | 0, places => places
  | n + 1, places => if places.isEmpty then [] else times step n (step places)

def isWordAt (ascii : Bool) (c : Option Char) : Bool :=
  match c with
  | some c => Ranges.hasChar (if ascii then CharSet.asciiWord else CharSet.word) c
  | none => false

def boundaryHolds (b : Boundary) (before after : Bool) : Bool :=
  match b with
  | .word => before != after
  | .notWord => before == after
  | .wordStart => !before && after
  | .wordEnd => before && !after
  | .wordStartHalf => !before
  | .wordEndHalf => !after
  | _ => false

def Look.holds (l : Look) (text : Array Char) (i : Nat) : Bool :=
  let before := if i = 0 then none else text[i - 1]?
  let after := text[i]?
  match l with
  | .startText => i == 0
  | .endText => i == text.size
  | .startLine false => i == 0 || before == some '\n'
  | .endLine false => i == text.size || after == some '\n'
  | .startLine true =>
    i == 0 || before == some '\n' || (before == some '\r' && after != some '\n')
  | .endLine true =>
    i == text.size || after == some '\r' || (after == some '\n' && before != some '\r')
  | .word b ascii => boundaryHolds b (isWordAt ascii before) (isWordAt ascii after)

def reach (text : Array Char) : Regex → List Nat → List Nat
  | empty, places => places
  | chars set, places =>
    places.filterMap fun i =>
      match text[i]? with
      | some c => if Ranges.hasChar set c then some (i + 1) else none
      | none => none
  | look l, places => places.filter (Look.holds l text)
  | seq a b, places => b.reach text (a.reach text places)
  | alt a b, places => merge (a.reach text places) (b.reach text places)
  | rep low high r, places =>
    let first := times (r.reach text) low places
    match high with
    | some h => upTo (r.reach text) (h - low) first first
    | none => upTo (r.reach text) (text.size + 1) first first
  | capture r, places => r.reach text places

def isMatch (r : Regex) (s : String) : Bool :=
  let text := s.toList.toArray
  !(r.reach text (List.range (text.size + 1))).isEmpty

end Regex

end Rsx.Pattern
