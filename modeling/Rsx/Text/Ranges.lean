set_option autoImplicit false

namespace Rsx.Text

abbrev Ranges := List (Nat × Nat)

namespace Ranges

def holds (rs : Ranges) (n : Nat) : Bool := rs.any fun r => r.1 ≤ n && n ≤ r.2

def hasChar (rs : Ranges) (c : Char) : Bool := holds rs c.toNat

-- Ranges that ascend by their starts, with those that meet `r` or each other joined.
def joined (r : Nat × Nat) : Ranges → Ranges
  | [] => [r]
  | s :: rest => if s.1 ≤ r.2 + 1 then joined (r.1, max r.2 s.2) rest else r :: joined s rest

def normal (rs : Ranges) : Ranges :=
  match rs.mergeSort fun a b => decide (a.1 ≤ b.1) with
  | [] => []
  | r :: rest => joined r rest

def lastCode : Nat := 0x10ffff

-- What lies between the ranges of a normal form, from `next` on.
def gaps (next : Nat) : Ranges → Ranges
  | [] => if next ≤ lastCode then [(next, lastCode)] else []
  | r :: rest =>
    if next < r.1 then (next, r.1 - 1) :: gaps (r.2 + 1) rest else gaps (r.2 + 1) rest

def outside (a : Ranges) : Ranges := gaps 0 a

def plus (a b : Ranges) : Ranges := normal (a ++ b)

def minus (a b : Ranges) : Ranges := outside (plus (outside a) b)

def meet (a b : Ranges) : Ranges := outside (plus (outside a) (outside b))

def differing (a b : Ranges) : Ranges := plus (minus a b) (minus b a)

def hexValue (c : Char) : Nat := if c.isDigit then c.toNat - 48 else c.toNat - 87

def readHex (s : String) : Nat := s.toList.foldl (fun n c => 16 * n + hexValue c) 0

def readRange (s : String) : Nat × Nat :=
  match s.splitOn "-" with
  | [a, b] => (readHex a, readHex b)
  | _ => (readHex s, readHex s)

def read (s : String) : Ranges := if s.isEmpty then [] else (s.splitOn " ").map readRange

end Ranges

end Rsx.Text
