import Rsx.Number.Binary64

set_option autoImplicit false

namespace Rsx.Number

def decimalDigits (n : Nat) : List Char := Nat.toDigits 10 n

def zeros (n : Nat) : List Char := List.replicate n '0'

-- The usual text of `d * 10 ^ p`: positional up to 21 integer digits and six leading zeros.
def positional (d : Nat) (p : Int) : List Char :=
  let ds := decimalDigits d
  let k := ds.length
  let n : Int := p + k
  if d = 0 then ['0']
  else if (k : Int) ≤ n ∧ n ≤ 21 then ds ++ zeros (n.toNat - k)
  else if 0 < n ∧ n ≤ 21 then ds.take n.toNat ++ '.' :: ds.drop n.toNat
  else if -6 < n ∧ n ≤ 0 then '0' :: '.' :: zeros (-n).toNat ++ ds
  else
    let e := n - 1
    let mark := if e < 0 then ['e', '-'] else ['e', '+']
    let power := decimalDigits e.natAbs
    match ds with
    | [c] => c :: mark ++ power
    | c :: rest => c :: '.' :: rest ++ mark ++ power
    | [] => []

def whole? (m : Nat) (e : Int) : Option Nat :=
  let (num, den) := Binary64.ratio m e
  if num % den = 0 then some (num / den) else none

def trimmed : List Char → List Char
  | '0' :: '.' :: rest => '.' :: rest
  | cs => cs

def dropPlus : List Char → List Char
  | [] => []
  | 'e' :: '+' :: rest => 'e' :: rest
  | c :: rest => c :: dropPlus rest

def hexadecimal (n : Nat) : List Char := '0' :: 'x' :: Nat.toDigits 16 (min n (Nat.pow 2 128 - 1))

def smallFraction (cs : List Char) : List Char :=
  match cs with
  | '.' :: '0' :: rest =>
    let digits := rest.dropWhile (· == '0')
    if digits.isEmpty then cs
    else
      let e := rest.length + 1
      let candidate := digits ++ 'e' :: '-' :: decimalDigits e
      if candidate.length < cs.length then candidate else cs
  | _ => cs

def trailingZeros (cs : List Char) : List Char :=
  let n := (cs.reverse.takeWhile (· == '0')).length
  if n = 0 ∨ n = cs.length then cs
  else
    let candidate := cs.take (cs.length - n) ++ 'e' :: decimalDigits n
    if candidate.length < cs.length then candidate else cs

def intDigits (i : Int) : List Char :=
  if i < 0 then '-' :: decimalDigits i.natAbs else decimalDigits i.natAbs

def readInt (cs : List Char) : Int :=
  let value (ds : List Char) : Int := ds.foldl (fun n c => n * 10 + (c.toNat - 48 : Nat)) 0
  match cs with
  | '-' :: ds => -value ds
  | ds => value ds

def wholeMantissa (cs : List Char) : List Char :=
  let whole := cs.takeWhile (· != '.')
  match cs.dropWhile (· != '.') with
  | '.' :: rest =>
    let part := rest.takeWhile (· != 'e')
    match rest.dropWhile (· != 'e') with
    | 'e' :: power =>
      let candidate := whole ++ part ++ 'e' :: intDigits (readInt power - part.length)
      if candidate.length < cs.length then candidate else cs
    | _ => cs
  | _ => cs

def compact (base : List Char) : Option Nat → List Char
  | some n =>
    let hex := hexadecimal n
    if hex.length < base.length then hex else wholeMantissa (trailingZeros base)
  | none => wholeMantissa (trailingZeros (smallFraction base))

def spell : Binary64 → String
  | .infinite => "Infinity"
  | .finite m e =>
    let (d, p) := Binary64.shortest m e
    let text := positional d p
    match whole? m e with
    | some n => String.ofList (if n < 1000 then text else compact (dropPlus text) (some n))
    | none => String.ofList (compact (dropPlus (trimmed text)) none)

def endsLikeInteger (text : String) : Bool :=
  text.toList.all Char.isDigit

end Rsx.Number
