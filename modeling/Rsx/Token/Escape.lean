import Rsx.Tree
import Rsx.Token.Reader
import Rsx.Text.Identifier

set_option autoImplicit false

namespace Rsx

def hexValue? (c : Char) : Option Nat :=
  if c.isDigit then some (c.toNat - 48)
  else if 'a' ≤ c ∧ c ≤ 'f' then some (c.toNat - 87)
  else if 'A' ≤ c ∧ c ≤ 'F' then some (c.toNat - 55)
  else none

namespace Escape

def hexDigits : Nat → Nat → Reader → Option (Nat × Reader)
  | 0, value, r => some (value, r)
  | n + 1, value, r =>
    match r.peek.bind hexValue? with
    | some d => hexDigits n (value * 16 + d) r.skip
    | none => none

def braced (r : Reader) : Option (Nat × Reader) :=
  let (digits, after) := r.skip.takeWhile fun c => (hexValue? c).isSome
  let value := digits.foldl (fun n c => n * 16 + (hexValue? c).getD 0) 0
  if digits.isEmpty ∨ after.peek ≠ some '\x7d' ∨ 0x10ffff < value then none
  else some (value, after.skip)

def isHighSurrogate (n : Nat) : Bool := 0xd800 ≤ n && n ≤ 0xdbff

def isLowSurrogate (n : Nat) : Bool := 0xdc00 ≤ n && n ≤ 0xdfff

def joinSurrogates (high low : Nat) : Nat := (high - 0xd800) * 0x400 + (low - 0xdc00) + 0x10000

def unicode (r : Reader) : Option (Nat × Reader) :=
  if r.peek = some '\x7b' then braced r
  else
    match hexDigits 4 0 r with
    | none => none
    | some (high, after) =>
      if isHighSurrogate high && after.startsWith ['\\', 'u'] then
        match hexDigits 4 0 after.skip.skip with
        | some (low, behind) =>
          if isLowSurrogate low then some (joinSurrogates high low, behind) else some (high, after)
        | none => some (high, after)
      else some (high, after)

-- In an identifier, surrogates stand for nothing, even in pairs.
def inIdentifier (r : Reader) : Option (Char × Reader) :=
  let code := if r.peek = some '\x7b' then braced r else hexDigits 4 0 r
  match code with
  | some (n, after) =>
    if isHighSurrogate n || isLowSurrogate n then none else some (Char.ofNat n, after)
  | none => none

def isOctal (c : Char) : Bool := '0' ≤ c && c ≤ '7'

def octal (first : Char) (r : Reader) : Nat × Reader :=
  let more := if first ≤ '3' then 2 else 1
  let digits := (r.rest.take more).takeWhile isOctal
  ((first :: digits).foldl (fun n c => n * 8 + (c.toNat - 48)) 0, r.skipMany digits.length)

def inString (template : Bool) (r : Reader) : Option CodePoints × Reader :=
  match r.rest with
  | [] => (none, r)
  | c :: rest =>
    let after := r.skip
    let nextIsDigit := match rest with
      | d :: _ => d.isDigit
      | [] => false
    match c with
    | 'b' => (some [8], after)
    | 'f' => (some [12], after)
    | 'n' => (some [10], after)
    | 'r' => (some [13], after)
    | 't' => (some [9], after)
    | 'v' => (some [11], after)
    | 'x' =>
      match hexDigits 2 0 after with
      | some (n, behind) => (some [n], behind)
      | none => (none, after)
    | 'u' =>
      match unicode after with
      | some (n, behind) => (some [n], behind)
      | none => (none, after)
    | '\r' => (some [], if rest.head? = some '\n' then after.skip else after)
    | _ =>
      if Text.isLineEnd c then (some [], after)
      else if c == '0' && !nextIsDigit then (some [0], after)
      else if c.isDigit ∧ template then (none, after)
      else if isOctal c then
        let (n, behind) := octal c after
        (some [n], behind)
      else (some [c.toNat], after)

end Escape

end Rsx
