import Rsx.Text.Category

set_option autoImplicit false

namespace Rsx.Text

def extraStarts : Ranges := .read "1885-1886 2118 212e 309b-309c"

def extraParts : Ranges := .read "b7 387 1369-1371 19da 200c-200d 30fb ff65"

def isIdentifierLetter (c : Char) : Bool :=
  let k := Category.ofChar c
  ((k.isLetter || k == .nl) && c.toNat != 0x2e2f) || extraStarts.hasChar c

def isIdentifierStart (c : Char) : Bool :=
  if c.toNat < 128 then c.isAlpha || c == '$' || c == '_' else isIdentifierLetter c

def isIdentifierPart (c : Char) : Bool :=
  if c.toNat < 128 then c.isAlphanum || c == '$' || c == '_'
  else
    let k := Category.ofChar c
    isIdentifierLetter c || k == .mn || k == .mc || k == .nd || k == .pc || extraParts.hasChar c

def isLineEnd (c : Char) : Bool :=
  c == '\n' || c == '\r' || c == '\u2028' || c == '\u2029'

def isBlank (c : Char) : Bool :=
  let n := c.toNat
  n == 0x20 || n == 0x09 || n == 0x0b || n == 0x0c || n == 0x85 || n == 0xa0 || n == 0xfeff
    || n == 0x1680 || (0x2000 ≤ n && n ≤ 0x200b) || n == 0x202f || n == 0x205f || n == 0x3000

def isWhite (c : Char) : Bool :=
  let n := c.toNat
  (9 ≤ n && n ≤ 13) || n == 0x20 || n == 0x85 || n == 0xa0 || n == 0x1680
    || (0x2000 ≤ n && n ≤ 0x200a) || n == 0x2028 || n == 0x2029 || n == 0x202f || n == 0x205f
    || n == 0x3000

end Rsx.Text
