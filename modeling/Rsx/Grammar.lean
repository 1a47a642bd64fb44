import Rsx.Grammar.Modules

set_option autoImplicit false

namespace Rsx

namespace Grammar

open Rsx.Parser

def rule (go : Goal → Parser Node) : Goal → Parser Node
  | .expression => expressionBody go
  | .assignment allowReturnType => assignmentBody go allowReturnType
  | .binary above => binaryBody go above
  | .unary => unaryBody go
  | .leftHandSide => leftHandSide go
  | .statement single => statementBody go single
  | .functionBody => functionBodyNode go
  | .pattern => patternBody go
  | .type => typeBody go
  | .element start inChild => elementBody go start inChild
  | .classTail start isExpression ms ds => classTail go start isExpression ms ds
  | .functionTail start form async needsName => functionTail go start form async needsName
  | .declaration start ms ds => declarationBody go start ms ds

def parse : Nat → Goal → Parser Node
  | 0, _ => unexpected
  | fuel + 1, goal => rule (parse fuel) goal

def depthBound (text : String) : Nat := 16 * text.length + 64

def hashbang? (cs : List Char) : Option (List Char) :=
  match cs with
  | '#' :: '!' :: _ => some (cs.takeWhile fun c => !Text.isLineEnd c)
  | _ => none

def skipMark (cs : List Char) : List Char × Nat :=
  match cs with
  | c :: rest => if c = '\ufeff' then (rest, 3) else (cs, 0)
  | [] => ([], 0)

def programNode (fuel : Nat) (hashbang : Option String) : Parser Node := do
  let (ds, ss) ← directivesAndStatements (parse fuel) true
  return .mk (.program hashbang) ⟨0, (← start)⟩ [.group ds, .group ss]

def opening (text : String) : ParserState × Option String :=
  let s := ParserState.ofText text
  let (cs, offset) := skipMark text.toList
  match hashbang? cs with
  | some line =>
    let reader : Reader := ⟨cs.drop line.length, offset + byteLength line⟩
    let lexer := { s.lexer with reader }
    ({ s with lexer }.take lexer.next, some (String.ofList (line.drop 2)))
  | none =>
    let lexer := { s.lexer with reader := ⟨cs, offset⟩ }
    ({ s with lexer }.take lexer.next, none)

end Grammar

structure Module where
  tree : Node
  comments : List (Nat × List Comment)

def Module.parse (text : String) : Except Fault Module :=
  let (s, hashbang) := Grammar.opening text
  match Grammar.programNode (Grammar.depthBound text) hashbang s with
  | .error fault _ => .error fault
  | .ok tree s =>
    match s.firstFault? with
    | some fault => .error fault
    | none =>
      match s.covers.getLast? with
      | some (offset, _) => .error ⟨.coverInitializer, offset⟩
      | none => .ok ⟨tree, s.comments.reverse⟩

end Rsx
