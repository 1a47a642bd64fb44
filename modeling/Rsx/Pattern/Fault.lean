set_option autoImplicit false

namespace Rsx.Pattern

structure Spot where
  line : Nat
  column : Nat
deriving DecidableEq, Inhabited

structure Extent where
  start : Spot
  stop : Spot
deriving DecidableEq, Inhabited

inductive Issue where
  | classEscape
  | classRange
  | classRangeLiteral
  | classUnclosed
  | decimalEmpty
  | decimalInvalid
  | hexEmpty
  | hexInvalid
  | hexDigit
  | escapeEnd
  | escapeUnknown
  | flagDangling
  | flagTwice
  | negationTwice
  | flagEnd
  | flagUnknown
  | nameTwice
  | nameEmpty
  | nameInvalid
  | nameUnclosed
  | groupUnclosed
  | groupUnopened
  | nestedTooDeeply
  | countRange
  | countEmpty
  | countUnclosed
  | repetitionMissing
  | boundaryUnclosed
  | boundaryUnknown
  | boundaryEnd
  | propertyInvalid
  | backreference
  | lookAround
  | unicodeNotAllowed
  | notText
  | propertyUnknown
  | propertyValueUnknown
deriving DecidableEq

def nestLimit : Nat := 250

def Issue.message : Issue → String
  | classEscape => "invalid escape sequence found in character class"
  | classRange => "invalid character class range, the start must be <= the end"
  | classRangeLiteral => "invalid range boundary, must be a literal"
  | classUnclosed => "unclosed character class"
  | decimalEmpty => "decimal literal empty"
  | decimalInvalid => "decimal literal invalid"
  | hexEmpty => "hexadecimal literal empty"
  | hexInvalid => "hexadecimal literal is not a Unicode scalar value"
  | hexDigit => "invalid hexadecimal digit"
  | escapeEnd => "incomplete escape sequence, reached end of pattern prematurely"
  | escapeUnknown => "unrecognized escape sequence"
  | flagDangling => "dangling flag negation operator"
  | flagTwice => "duplicate flag"
  | negationTwice => "flag negation operator repeated"
  | flagEnd => "expected flag but got end of regex"
  | flagUnknown => "unrecognized flag"
  | nameTwice => "duplicate capture group name"
  | nameEmpty => "empty capture group name"
  | nameInvalid => "invalid capture group character"
  | nameUnclosed => "unclosed capture group name"
  | groupUnclosed => "unclosed group"
  | groupUnopened => "unopened group"
  | nestedTooDeeply =>
    "exceed the maximum number of nested parentheses/brackets (" ++ toString nestLimit ++ ")"
  | countRange => "invalid repetition count range, the start must be <= the end"
  | countEmpty => "repetition quantifier expects a valid decimal"
  | countUnclosed => "unclosed counted repetition"
  | repetitionMissing => "repetition operator missing expression"
  | boundaryUnclosed =>
    "special word boundary assertion is either unclosed or contains an invalid character"
  | boundaryUnknown =>
    "unrecognized special word boundary assertion, valid choices are: start, end, start-half or end-half"
  | boundaryEnd =>
    "found either the beginning of a special word boundary or a bounded repetition on a \\b with "
      ++ "an opening brace, but no closing brace"
  | propertyInvalid => "invalid Unicode character class"
  | backreference => "backreferences are not supported"
  | lookAround => "look-around, including look-ahead and look-behind, is not supported"
  | unicodeNotAllowed => "Unicode not allowed here"
  | notText => "pattern can match invalid UTF-8"
  | propertyUnknown => "Unicode property not found"
  | propertyValueUnknown => "Unicode property value not found"

-- `also` is a second place that belongs to the issue.
structure Fault where
  issue : Issue
  extent : Extent
  also : Option Extent
deriving DecidableEq

namespace Fault

def isOneLine (e : Extent) : Bool := e.start.line == e.stop.line

def comesFirst (a b : Extent) : Bool :=
  a.start.line < b.start.line || (a.start.line == b.start.line && a.start.column ≤ b.start.column)

def extents (f : Fault) : List Extent :=
  match f.also with
  | none => [f.extent]
  | some e => if comesFirst f.extent e then [f.extent, e] else [e, f.extent]

-- The lines of a pattern, without their ends; an empty last line does not count.
def linesOf : List Char → List (List Char)
  | [] => []
  | cs =>
    let rec go : List Char → List (List Char)
      | [] => [[]]
      | '\n' :: [] => [[]]
      | '\n' :: rest => [] :: go rest
      | c :: rest =>
        match go rest with
        | l :: ls => (c :: l) :: ls
        | [] => [[c]]
    go cs

def withoutReturn (line : List Char) : List Char :=
  match line.reverse with
  | '\r' :: rest => rest.reverse
  | _ => line

def carets : Nat → List Extent → List Char
  | _, [] => []
  | column, e :: rest =>
    let gap := e.start.column - 1 - column
    let width := max 1 (e.stop.column - e.start.column)
    List.replicate gap ' ' ++ List.replicate width '^' ++ carets (column + gap + width) rest

def numberWidth (lineCount : Nat) : Nat :=
  if lineCount ≤ 1 then 0 else (toString lineCount).length

def noted (width : Nat) (marked : List Extent) (line : List Char) (i : Nat) : List Char :=
  let number := (toString (i + 1)).toList
  let lead := if width == 0 then "    ".toList
    else List.replicate (width - number.length) ' ' ++ number ++ ": ".toList
  let here := marked.filter (·.start.line == i + 1)
  let notes := if here.isEmpty then []
    else List.replicate (if width == 0 then 4 else width + 2) ' ' ++ carets 0 here ++ ['\n']
  lead ++ withoutReturn line ++ '\n' :: notes

def picture (f : Fault) (pattern : String) : String :=
  let ls := linesOf pattern.toList
  let lineCount := ls.length + (if pattern.toList.getLast? == some '\n' then 1 else 0)
  let marked := f.extents.filter isOneLine
  String.ofList (ls.zipIdx.flatMap fun (l, i) => noted (numberWidth lineCount) marked l i)

def acrossLines (e : Extent) : String :=
  "on line " ++ toString e.start.line ++ " (column " ++ toString e.start.column ++ ") through line "
    ++ toString e.stop.line ++ " (column " ++ toString (e.stop.column - 1) ++ ")"

def message (f : Fault) (pattern : String) : String :=
  let error := "error: " ++ f.issue.message
  if pattern.toList.contains '\n' then
    let divider := String.ofList (List.replicate 79 '~') ++ "\n"
    let wide := f.extents.filter (!isOneLine ·)
    let notes := if wide.isEmpty then "" else "\n".intercalate (wide.map acrossLines) ++ "\n"
    "regex parse error:\n" ++ divider ++ f.picture pattern ++ divider ++ notes ++ error
  else "regex parse error:\n" ++ f.picture pattern ++ error

end Fault

end Rsx.Pattern
