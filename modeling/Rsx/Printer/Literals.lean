import Rsx.Printer.Output
import Rsx.Number.Spelling

set_option autoImplicit false

namespace Rsx.Printer

def hexPadded (width n : Nat) : List Char :=
  let ds := Nat.toDigits 16 n
  List.replicate (width - ds.length) '0' ++ ds

def isDigitPoint (n : Nat) : Bool := 48 ≤ n && n ≤ 57

def escapePoint (n : Nat) (rest : CodePoints) : List Char :=
  if n == 0 then
    match rest with
    | m :: _ => if isDigitPoint m then "\\x00".toList else "\\0".toList
    | [] => "\\0".toList
  else if n == 0x07 then "\\x07".toList
  else if n == 0x08 then "\\b".toList
  else if n == 0x0a then "\\n".toList
  else if n == 0x0b then "\\v".toList
  else if n == 0x0c then "\\f".toList
  else if n == 0x0d then "\\r".toList
  else if n == 0x1b then "\\x1B".toList
  else if n == 0x22 then "\\\"".toList
  else if n == 0x5c then "\\\\".toList
  else if n == 0xa0 then "\\xA0".toList
  else if n == 0x2028 then "\\u2028".toList
  else if n == 0x2029 then "\\u2029".toList
  else if 0xd800 ≤ n && n ≤ 0xdfff then '\\' :: 'u' :: hexPadded 4 n
  else [Char.ofNat n]

def escapePoints : CodePoints → List Char
  | [] => []
  | n :: rest => escapePoint n rest ++ escapePoints rest

def quoted (v : CodePoints) : String :=
  "\"" ++ String.ofList (escapeScript (escapePoints v)) ++ "\""

-- A directive keeps its text; the quote is the one that does not stand unescaped in it.
def directiveQuote : List Char → Char
  | [] => '"'
  | '\\' :: _ :: rest => directiveQuote rest
  | c :: rest => if c = '"' then '\'' else if c = '\'' then '"' else directiveQuote rest

def attributeQuoted (raw : String) : String :=
  let inner := (raw.toList.drop 1).dropLast
  let quote := if inner.contains '"' then '\'' else '"'
  String.ofList (quote :: inner ++ [quote])

def sortedFlags (flags : String) : String :=
  String.ofList ("dgimsuvy".toList.filter flags.toList.contains)

def printNumber (v : Binary64) : Printer Unit := do
  spaceBeforeIdentifier
  let text := Number.spell v
  put text
  if Number.endsLikeInteger text then
    modify fun st => { st with integerEnd := some st.length }

end Rsx.Printer
