import Rsx.Problem
import Rsx.Scope

set_option autoImplicit false

namespace Rsx

structure HostImports where
  aliases : List (String × Primitive)  -- the last import of a name first
  namespaces : List String             -- local names of the whole host module
  extra : List String
deriving DecidableEq

namespace HostImports

def addAlias (h : HostImports) (imported bound : String) : HostImports :=
  match Primitive.ofExport? h.extra imported with
  | some primitive => { h with aliases := (bound, primitive) :: h.aliases }
  | none => h

def writtenName (n : Node) : String :=
  match n.kind with
  | .name _ x => x
  | .stringLit value _ => CodePoints.toString value
  | _ => ""

def addSpecifier (h : HostImports) (specifier : Node) : HostImports :=
  match specifier.kind with
  | .importNamed false => h.addAlias (writtenName (specifier.part 0)) (writtenName (specifier.part 1))
  | .importDefault | .importNamespace =>
    { h with namespaces := writtenName (specifier.part 0) :: h.namespaces }
  | _ => h

def specifiersFrom (hostModule : String) (statement : Node) : List Node :=
  match statement.kind with
  | .importFrom false _ =>
    if writtenName (statement.part 1) == hostModule then (statement.part 0).parts else []
  | _ => []

def ofProgram (program : Node) (hostModule : String) (extra : List String) : HostImports :=
  (program.statements.flatMap (specifiersFrom hostModule)).foldl addSpecifier ⟨[], [], extra⟩

def isEmpty (h : HostImports) : Bool := h.aliases.isEmpty && h.namespaces.isEmpty

def lookup? (h : HostImports) (name : String) : Option Primitive := h.aliases.lookup name

def classify? (h : HostImports) (callee : Node) : Option (Primitive × String) :=
  match callee.unwrapped with
  | .mk (.name .value x) _ _ =>
    if isReserved x then none else (h.lookup? x).map fun p => (p, x)
  | .mk (.member _) _ [.mk (.name .value x) _ _, .mk (.name _ y) _ _] =>
    if h.namespaces.contains x then
      (Primitive.ofExport? h.extra y).map fun p => (p, x ++ "." ++ y)
    else none
  | _ => none

def bannedCall? (h : HostImports) (n : Node) : Option (Located Problem) :=
  match n.kind with
  | .call _ _ =>
    (h.classify? (n.part 0)).map fun (p, callee) => ⟨.bannedCall p callee, n.span.start⟩
  | _ => none

def firstBannedCall? (h : HostImports) (program : Node) : Option (Located Problem) :=
  program.preorder.findSome? h.bannedCall?

end HostImports

def reservedUse? (n : Node) : Option (Located Problem) :=
  match n.binding? <|> n.reference? with
  | some x => if isReserved x then some ⟨.reservedName x, n.span.start⟩ else none
  | none => none

def firstReservedUse? (program : Node) : Option (Located Problem) :=
  program.preorder.findSome? reservedUse?

end Rsx
