import Rsx.Pattern.Fault

set_option autoImplicit false

namespace Rsx.Pattern

inductive Flag where
  | caseless | multiLine | dotAll | swapGreed | unicode | crlf | spaced
deriving DecidableEq

structure FlagChange where
  set : List Flag
  clear : List Flag
deriving DecidableEq

def FlagChange.state? (f : FlagChange) (flag : Flag) : Option Bool :=
  if f.clear.contains flag then some false
  else if f.set.contains flag then some true
  else none

inductive Boundary where
  | startLine | endLine | startText | endText
  | word | notWord | wordStart | wordEnd | wordStartHalf | wordEndHalf
deriving DecidableEq

inductive ShortClass where
  | digit | space | word
deriving DecidableEq

inductive NamedClass where
  | alnum | alpha | ascii | blank | cntrl | digit | graph | lower | print | punct | space | upper
  | word | xdigit
deriving DecidableEq

structure PropertyQuery where
  name : String
  value : Option String
  unequal : Bool
deriving DecidableEq

inductive Atom where
  | literal (c : Char) (byte : Bool)       -- `byte`: written with two hexadecimal digits
  | dot
  | boundary (b : Boundary)
  | short (k : ShortClass) (negated : Bool)
  | property (q : PropertyQuery) (negated : Bool)
deriving DecidableEq

structure Piece where
  extent : Extent
  atom : Atom
deriving DecidableEq

inductive SetOp where
  | intersection | difference | symmetricDifference
deriving DecidableEq

inductive ClassSet where
  | piece (p : Piece)
  | range (extent : Extent) (low high : Char)
  | named (k : NamedClass) (negated : Bool)
  | bracketed (extent : Extent) (negated : Bool) (inner : ClassSet)
  | union (items : List ClassSet)
  | op (kind : SetOp) (left right : ClassSet)

inductive Expr where
  | empty
  | flags (change : FlagChange)
  | piece (p : Piece)
  | bracketed (extent : Extent) (negated : Bool) (inner : ClassSet)
  | repetition (extent : Extent) (low : Nat) (high : Option Nat) (inner : Expr)
  | group (extent : Extent) (captures : Bool) (change : FlagChange) (inner : Expr)
  | concat (extent : Extent) (items : List Expr)
  | alternation (extent : Extent) (items : List Expr)

end Rsx.Pattern
