set_option autoImplicit false

namespace Rsx

structure Reader where
  rest : List Char
  offset : Nat

instance : Inhabited Reader := ⟨⟨[], 0⟩⟩

def byteLength (cs : List Char) : Nat := cs.foldl (fun n c => n + c.utf8Size) 0

namespace Reader

def peek (r : Reader) : Option Char := r.rest.head?

def skip (r : Reader) : Reader :=
  match r.rest with
  | [] => r
  | c :: cs => ⟨cs, r.offset + c.utf8Size⟩

def skipMany : Nat → Reader → Reader
  | 0, r => r
  | n + 1, r => skipMany n r.skip

def takeWhile (p : Char → Bool) (r : Reader) : List Char × Reader :=
  let taken := r.rest.takeWhile p
  (taken, ⟨r.rest.drop taken.length, r.offset + byteLength taken⟩)

def between (a b : Reader) : List Char := a.rest.take (a.rest.length - b.rest.length)

def startsWith (r : Reader) (cs : List Char) : Bool := cs.isPrefixOf r.rest

end Reader

end Rsx
