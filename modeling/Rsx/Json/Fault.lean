import Rsx.Text.Spelled

set_option autoImplicit false

namespace Rsx

inductive JsonFound where
  | null
  | boolean (value : Bool)
  | integer (value : Int)
  | float (text : String)
  | string (value : String)
  | sequence
  | map
deriving DecidableEq

def JsonFound.text : JsonFound → String
  | null => "null"
  | boolean b => "boolean `" ++ (if b then "true" else "false") ++ "`"
  | integer i => "integer `" ++ toString i ++ "`"
  | float s => "floating point `" ++ s ++ "`"
  | string s => "string " ++ Text.spelled s
  | sequence => "sequence"
  | map => "map"

inductive JsonIssue where
  | endInList
  | endInObject
  | endInString
  | endInValue
  | expectedColon
  | expectedListEnd
  | expectedObjectEnd
  | expectedWord
  | expectedValue
  | invalidEscape
  | invalidNumber
  | numberTooLarge
  | controlCharacter
  | keyNotString
  | loneSurrogate
  | trailingComma
  | trailingCharacters
  | endOfEscape
  | wrongType (found : JsonFound) (wanted : String)
  | wrongValue (found : JsonFound) (wanted : String)
  | wrongLength (length : Nat) (wanted : String)
  | missingField (name : String)
  | duplicateField (name : String)
deriving DecidableEq

def JsonIssue.text : JsonIssue → String
  | endInList => "EOF while parsing a list"
  | endInObject => "EOF while parsing an object"
  | endInString => "EOF while parsing a string"
  | endInValue => "EOF while parsing a value"
  | expectedColon => "expected `:`"
  | expectedListEnd => "expected `,` or `]`"
  | expectedObjectEnd => "expected `,` or `\x7d`"
  | expectedWord => "expected ident"
  | expectedValue => "expected value"
  | invalidEscape => "invalid escape"
  | invalidNumber => "invalid number"
  | numberTooLarge => "number out of range"
  | controlCharacter => "control character (\\u0000-\\u001F) found while parsing a string"
  | keyNotString => "key must be a string"
  | loneSurrogate => "lone leading surrogate in hex escape"
  | trailingComma => "trailing comma"
  | trailingCharacters => "trailing characters"
  | endOfEscape => "unexpected end of hex escape"
  | wrongType found wanted => "invalid type: " ++ found.text ++ ", expected " ++ wanted
  | wrongValue found wanted => "invalid value: " ++ found.text ++ ", expected " ++ wanted
  | wrongLength length wanted => "invalid length " ++ toString length ++ ", expected " ++ wanted
  | missingField name => "missing field `" ++ name ++ "`"
  | duplicateField name => "duplicate field `" ++ name ++ "`"

-- An issue about content has no place until the value it is in has been left.
structure JsonFault where
  issue : JsonIssue
  offset : Option Nat
deriving DecidableEq

namespace JsonFault

def lineAndColumn : List Char → Nat → Nat × Nat × Nat → Nat × Nat
  | [], offset, (_, line, start) => (line, offset - start)
  | c :: cs, offset, (passed, line, start) =>
    let after := passed + c.utf8Size
    if offset < after then (line, offset - start)
    else if c == '\n' then lineAndColumn cs offset (after, line + 1, after)
    else lineAndColumn cs offset (after, line, start)

def position (f : JsonFault) (text : String) : Nat × Nat :=
  match f.offset with
  | some offset => lineAndColumn text.toList offset (0, 1, 0)
  | none => (0, 0)

def message (f : JsonFault) (text : String) : String :=
  match f.offset with
  | some _ =>
    let (line, column) := f.position text
    f.issue.text ++ " at line " ++ toString line ++ " column " ++ toString column
  | none => f.issue.text

end JsonFault

end Rsx
