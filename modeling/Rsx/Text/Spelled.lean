import Rsx.Text.Identifier

set_option autoImplicit false

namespace Rsx.Text

def extenders : Ranges := .read (
    "9be 9d7 b3e b57 bbe bd7 cc0 cc2 cc7-cc8 cca-ccb cd5-cd6 d3e d57 dcf ddf 1715 1734 1b35 "
    ++ "1b3b 1b3d 1b43-1b44 1baa 1bf2-1bf3 302e-302f a953 a9c0 ff9e-ff9f 111c0 11235 1133e 1134d "
    ++ "11357 113b8 113c2 113c5 113c7-113c9 113cf 114b0 114bd 115af 116b6 11930 1193d 11f41 "
    ++ "16ff0-16ff1 1d165-1d166 1d16d-1d172")

def fillers : Ranges := .read "115f-1160 3164 ffa0"

def isShown (c : Char) : Bool :=
  if c.toNat < 127 then 32 ≤ c.toNat
  else
    let k := Category.ofChar c
    !(k.isOther || k.isSeparator || k == .mn || k == .me || extenders.hasChar c
      || fillers.hasChar c)

def spelledChar (c : Char) : List Char :=
  if c == '"' then ['\\', '"']
  else if c == '\\' then ['\\', '\\']
  else if c == '\n' then ['\\', 'n']
  else if c == '\r' then ['\\', 'r']
  else if c == '\t' then ['\\', 't']
  else if c.toNat == 0 then ['\\', '0']
  else if isShown c then [c]
  else '\\' :: 'u' :: '\x7b' :: Nat.toDigits 16 c.toNat ++ ['\x7d']

def spelled (s : String) : String := String.ofList ('"' :: s.toList.flatMap spelledChar ++ ['"'])

end Rsx.Text
