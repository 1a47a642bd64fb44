set_option autoImplicit false

namespace Rsx

inductive Binary64 where
  | finite (mantissa : Nat) (exponent : Int)
  | infinite
deriving DecidableEq, Inhabited

namespace Binary64

def roundHalfEven (num den : Nat) : Nat :=
  let q := num / den
  let r := num % den
  if 2 * r < den then q
  else if den < 2 * r then q + 1
  else q + q % 2

def scaled (num den : Nat) (e : Int) : Nat × Nat :=
  match e with
  | .ofNat k => (num, den * Nat.pow 2 k)
  | .negSucc k => (num * Nat.pow 2 (k + 1), den)

def ofRatio (num den : Nat) : Binary64 :=
  if num = 0 then .finite 0 0
  else
    let guess : Int := (num.log2 : Int) - (den.log2 : Int) - 52
    let short := scaled num den guess
    let e := if short.1 / short.2 < Nat.pow 2 52 then guess - 1 else guess
    let e := if e < -1074 then -1074 else e
    let s := scaled num den e
    let m := roundHalfEven s.1 s.2
    let (m, e) := if m = Nat.pow 2 53 then (Nat.pow 2 52, e + 1) else (m, e)
    if e > 971 then .infinite else .finite m e

def ofNat (n : Nat) : Binary64 := ofRatio n 1

def ofDecimal (digits : Nat) (e : Int) : Binary64 :=
  match e with
  | .ofNat k =>
    if digits = 0 then .finite 0 0
    else if k > 400 then .infinite
    else ofRatio (digits * Nat.pow 10 k) 1
  | .negSucc k => ofRatio digits (Nat.pow 10 (k + 1))

def ratio (m : Nat) (e : Int) : Nat × Nat :=
  match e with
  | .ofNat k => (m * Nat.pow 2 k, 1)
  | .negSucc k => (m, Nat.pow 2 (k + 1))

def decimalLength : Nat → Nat := fun n => (Nat.toDigits 10 n).length

-- Numbers that round to `m * 2 ^ e`, as twice-and-twice-again finer bounds over one denominator.
def inInterval (m : Nat) (e : Int) (num den : Nat) : Bool :=
  let low := if m = Nat.pow 2 52 ∧ e > -1074 then 4 * m - 1 else 4 * m - 2
  let (ln, ld) := ratio low (e - 2)
  let (hn, hd) := ratio (4 * m + 2) (e - 2)
  if m % 2 = 0 then ln * den ≤ num * ld ∧ num * hd ≤ hn * den
  else ln * den < num * ld ∧ num * hd < hn * den

-- The place of the leading decimal digit: `10 ^ p ≤ num / den < 10 ^ (p + 1)`.
def leadingPlace (num den : Nat) : Int :=
  if den ≤ num then (decimalLength (num / den) : Int) - 1
  else -(decimalLength ((den - 1) / num) : Int)

def decimalRatio (d : Nat) (p : Int) : Nat × Nat :=
  match p with
  | .ofNat k => (d * Nat.pow 10 k, 1)
  | .negSucc k => (d, Nat.pow 10 (k + 1))

def nearestOnGrid (m : Nat) (e : Int) (num den : Nat) (p : Int) : Option Nat :=
  let (sn, sd) := match p with
    | .ofNat k => (num, den * Nat.pow 10 k)
    | .negSucc k => (num * Nat.pow 10 (k + 1), den)
  let below := sn / sd
  let fits (d : Nat) : Bool :=
    let (n, k) := decimalRatio d p
    inInterval m e n k
  let nearer := if 2 * (sn % sd) < sd ∨ (2 * (sn % sd) = sd ∧ below % 2 = 0) then below else below + 1
  let farther := if nearer = below then below + 1 else below
  if fits nearer then some nearer
  else if fits farther then some farther
  else none

def searchGrid (m : Nat) (e : Int) (num den : Nat) (lead : Int) : Nat → Nat → Nat × Int
  | 0, k => (num / den, k)
  | fuel + 1, k =>
    let p := lead - (k : Int)
    match nearestOnGrid m e num den p with
    | some d => (d, p)
    | none => searchGrid m e num den lead fuel (k + 1)

def dropTrailingZeros : Nat → Nat → Int → Nat × Int
  | 0, d, p => (d, p)
  | fuel + 1, d, p =>
    if d ≠ 0 ∧ d % 10 = 0 then dropTrailingZeros fuel (d / 10) (p + 1) else (d, p)

-- The fewest significant digits `d` with `d * 10 ^ p` rounding to `m * 2 ^ e`.
def shortest (m : Nat) (e : Int) : Nat × Int :=
  if m = 0 then (0, 0)
  else
    let (num, den) := ratio m e
    let (d, p) := searchGrid m e num den (leadingPlace num den) 17 0
    dropTrailingZeros 20 d p

end Binary64

end Rsx
