import Rsx.Scope

set_option autoImplicit false

namespace Rsx

abbrev Place := List Nat

namespace Node

def atPlace? (n : Node) : Place → Option Node
  | [] => some n
  | i :: rest =>
    match n.parts[i]? with
    | some p => p.atPlace? rest
    | none => none

def updateAt (n : Node) (f : Node → Node) : Place → Node
  | [] => f n
  | i :: rest => .mk n.kind n.span (n.parts.modify i fun p => p.updateAt f rest)

def functionPlace? : Node → Option Place
  | mk (.function _) _ _ => some []
  | mk (.arrow _) _ _ => some []
  | mk .paren _ [inner] => inner.functionPlace?.map (0 :: ·)
  | _ => none

end Node

namespace Site

def declares (name : String) (d : Node) : Bool :=
  match d.kind with
  | .declarator _ => (d.part 0).binding? == some name
  | _ => false

-- The first declarator of a name decides, even against it.
def ofDeclarators (name : String) : List (Node × Nat) → Option (Option Place)
  | [] => none
  | (d, j) :: rest =>
    if declares name d then some ((d.part 2).functionPlace?.map fun place => j :: 2 :: place)
    else ofDeclarators name rest

-- `none` if the statement says nothing about the name.
def ofStatement (name : String) (statement : Node) : Option (Option Place) :=
  match statement.kind with
  | .function _ => if statement.declaredName? 0 == some name then some (some []) else none
  | .variableList _ _ => ofDeclarators name statement.parts.zipIdx
  | _ => none

def ofName (name : String) : List (Node × Nat) → Option Place
  | [] => none
  | (statement, i) :: rest =>
    match ofStatement name statement with
    | some place => place.map fun place => 1 :: i :: place
    | none => ofName name rest

def ofExport (program exported : Node) (i : Nat) : Option Place :=
  match exported.functionPlace? with
  | some place => some (1 :: i :: 0 :: place)
  | none =>
    match exported.unwrapped.kind with
    | .name .value x => ofName x program.statements.zipIdx
    | _ => none

def isDefaultExport (statement : Node) : Bool :=
  match statement.kind with
  | .exportDefault => true
  | _ => false

def find? (program : Node) : Option Place :=
  match program.statements.zipIdx.find? fun (s, _) => isDefaultExport s with
  | some (statement, i) => ofExport program (statement.part 0) i
  | none => none

end Site

structure ComponentParts where
  name : String
  parameters : Node
  body : Node

def Node.componentParts? (n : Node) : Option ComponentParts :=
  match n.kind with
  | .function _ => some ⟨(n.declaredName? 0).getD "<anonymous>", n.part 3, n.part 5⟩
  | .arrow _ => some ⟨"<arrow>", n.part 1, n.part 3⟩
  | _ => none

end Rsx
