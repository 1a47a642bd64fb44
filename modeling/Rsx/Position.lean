set_option autoImplicit false

namespace Rsx

structure Position where
  line : Nat
  column : Nat
  lineText : String
deriving DecidableEq

-- Cuts at a byte offset, unless it falls inside a character or past the end.
def splitAtByte : List Char → Nat → Option (List Char × List Char)
  | cs, 0 => some ([], cs)
  | [], _ + 1 => none
  | c :: cs, n + 1 =>
    if c.utf8Size ≤ n + 1 then
      (splitAtByte cs (n + 1 - c.utf8Size)).map fun (before, after) => (c :: before, after)
    else none

namespace Position

def lastLine (cs : List Char) : List Char := (cs.reverse.takeWhile (· ≠ '\n')).reverse

def withoutReturns (cs : List Char) : List Char := (cs.reverse.dropWhile (· == '\r')).reverse

def ofSplit (before after : List Char) : Position where
  line := before.count '\n' + 1
  column := (lastLine before).length + 1
  lineText := String.ofList (withoutReturns (lastLine before ++ after.takeWhile (· ≠ '\n')))

-- An offset past the end means the end; one inside a character has no position of its own.
def locate (source : String) (offset : Nat) : Position :=
  match splitAtByte source.toList (min offset source.utf8ByteSize) with
  | some (before, after) => ofSplit before after
  | none => ⟨1, 1, ""⟩

end Position

end Rsx
