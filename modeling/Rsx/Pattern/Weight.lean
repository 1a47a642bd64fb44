import Rsx.Pattern.CharSet

set_option autoImplicit false

namespace Rsx.Pattern

namespace Weight

def state : Nat := 32

def link : Nat := 4            -- from a branching state to one alternative

def arrow : Nat := 8           -- from a state to the next by a range of bytes

abbrev ByteRanges := List (Nat × Nat)

-- Values from `low` to `high` of `n` digits of six bits behind a first byte counted from `base`.
def sequences : Nat → Nat → Nat → Nat → List ByteRanges
  | 0, base, low, high => [[(base + low, base + high)]]
  | n + 1, base, low, high =>
    let unit := Nat.pow 64 (n + 1)
    let first := low / unit
    let final := high / unit
    let behind (digit low high : Nat) : List ByteRanges :=
      (sequences n 0x80 low high).map ((base + digit, base + digit) :: ·)
    if first = final then behind first (low % unit) (high % unit)
    else
      let wholeStart := low % unit = 0
      let wholeEnd := high % unit = unit - 1
      let start := if wholeStart then [] else behind first (low % unit) (unit - 1)
      let finish := if wholeEnd then [] else behind final 0 (high % unit)
      let a := if wholeStart then first else first + 1
      let b := if wholeEnd then final else final - 1
      let middle := if a ≤ b then [(base + a, base + b) :: List.replicate (n + 1) (0x80, 0xbf)]
        else []
      start ++ middle ++ finish

-- The part of a range that is written with `n + 1` bytes, the first counted from `base`.
def part (n base low high : Nat) (r : Nat × Nat) : List ByteRanges :=
  let a := max low r.1
  let b := min high r.2
  if a ≤ b then sequences n base a b else []

def rangeSequences (r : Nat × Nat) : List ByteRanges :=
  part 0 0 0 0x7f r ++ part 1 0xc0 0x80 0x7ff r ++ part 2 0xe0 0x800 0xd7ff r
    ++ part 2 0xe0 0xe000 0xffff r ++ part 3 0xf0 0x10000 0x10ffff r

def setSequences (set : CharSet) : List ByteRanges := set.flatMap rangeSequences

def grouped : List ByteRanges → List ((Nat × Nat) × List ByteRanges)
  | [] => []
  | [] :: rest => grouped rest
  | (r :: tail) :: rest =>
    match grouped rest with
    | (s, tails) :: groups => if r = s then (r, tail :: tails) :: groups
      else (r, [tail]) :: (s, tails) :: groups
    | [] => [(r, [tail])]

-- States in the tree of the sequences; the fuel is the length of the longest.
def treeStates : Nat → List ByteRanges → Nat
  | 0, _ => 0
  | fuel + 1, seqs => (grouped seqs).foldl (fun n (_, tails) => n + 1 + treeStates fuel tails) 0

-- States by their arrows, each once; the number of a state is its place, counted from one.
abbrev Shared := List (List ((Nat × Nat) × Nat))

def share (arrows : List ((Nat × Nat) × Nat)) (found : Shared) : Nat × Shared :=
  match found.idxOf? arrows with
  | some i => (i + 1, found)
  | none => (found.length + 1, found ++ [arrows])

mutual

def shareSequences : Nat → List ByteRanges → Shared → Nat × Shared
  | 0, _, found => (0, found)
  | fuel + 1, seqs, found =>
    let groups := grouped seqs
    if groups.isEmpty then (0, found)
    else
      let (arrows, found) := shareGroups fuel groups found
      share arrows found

def shareGroups : Nat → List ((Nat × Nat) × List ByteRanges) → Shared →
    List ((Nat × Nat) × Nat) × Shared
  | _, [], found => ([], found)
  | fuel, (r, tails) :: groups, found =>
    let (next, found) := shareSequences fuel tails found
    let (arrows, found) := shareGroups fuel groups found
    ((r, next) :: arrows, found)

end

def longest : Nat := 4

def isAscii (set : CharSet) : Bool := set.all (·.2 < 0x80)

def asciiSet (set : CharSet) : Nat := 2 * state + arrow * set.length

def forwardSet (set : CharSet) : Nat :=
  if isAscii set then asciiSet set
  else
    let (_, states) := shareSequences longest (setSequences set) []
    states.foldl (fun n arrows => n + state + arrow * arrows.length) state

def backwardSet (set : CharSet) : Nat :=
  if isAscii set then asciiSet set
  else
    let seqs := setSequences set
    2 * state + link * seqs.length + state * treeStates longest seqs

def ofSet (backward : Bool) (set : CharSet) : Nat :=
  match set with
  | [(a, b)] =>
    if a = b then state * (Char.ofNat a).utf8Size
    else if backward then backwardSet set else forwardSet set
  | _ => if backward then backwardSet set else forwardSet set

end Weight

end Rsx.Pattern
