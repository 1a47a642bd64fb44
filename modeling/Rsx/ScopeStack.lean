import Rsx.Substitution

set_option autoImplicit false

namespace Rsx

structure Pass where
  scopes : List (List String)
  replaced : Nat

namespace Pass

def start : Pass := ⟨[[]], 0⟩

def isShadowed (p : Pass) (x : String) : Bool := p.scopes.any fun names => names.contains x

def push (names : List String) : StateM Pass Unit :=
  modify fun p => { p with scopes := names :: p.scopes }

def pop : StateM Pass Unit := modify fun p => { p with scopes := p.scopes.tail }

def tally : StateM Pass Unit := modify fun p => { p with replaced := p.replaced + 1 }

end Pass

def Kind.opensScope : Kind → Bool
  | .function _ | .arrow _ | .block | .switch | .catchClause | .forLoop | .forIn | .forOf _
  | .classNode _ => true
  | _ => false

def Node.inScope {α : Type} (n : Node) (inside : StateM Pass α) : StateM Pass α :=
  if n.kind.opensScope then do
    Pass.push n.introduced
    let result ← inside
    Pass.pop
    return result
  else inside

namespace Substitution

def shouldReplace (s : Substitution) (p : Pass) (x : String) : Bool :=
  s.promoted.contains x && !isReserved x && !s.kept.contains x && !p.isShadowed x

def visitName (s : Substitution) (kind : Kind) (parts : List Node) : StateM Pass (Option Node) := do
  match s.replacement? kind, parts with
  | some (x, r), [] =>
    if s.shouldReplace (← get) x then
      Pass.tally
      return some r
    else
      return none
  | _, _ => return none

mutual

def visit (s : Substitution) : Node → StateM Pass Node
  | .mk k span ps => do
    match ← s.visitName k ps with
    | some r => return r
    | none =>
      let ps' ← (Node.mk k span ps).inScope (s.visitList ps)
      return .mk (adjusted k ps') span ps'

def visitList (s : Substitution) : List Node → StateM Pass (List Node)
  | [] => return []
  | n :: rest => do
    let r ← s.visit n
    let rs ← s.visitList rest
    return r :: rs

end

-- With nothing promoted there is nothing to look for.
def visitStatements (s : Substitution) (statements : List Node) : StateM Pass (List Node) :=
  if s.promoted.isEmpty then return statements else s.visitList statements

end Substitution

end Rsx
