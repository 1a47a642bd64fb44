import Rsx.Promotion

set_option autoImplicit false

namespace Rsx

structure Substitution where
  promoted : List String
  kept : List String    -- never replaced
  access : RecordAccess

namespace Substitution

-- `shadowed` holds the names introduced by the nodes around.
def replaces (s : Substitution) (shadowed : List String) (x : String) : Bool :=
  s.promoted.contains x && !isReserved x && !s.kept.contains x && !shadowed.contains x

def tagMember (object : Node) (x : String) : Node :=
  .generated .tagMember [object, .generated (.name .tagText x) []]

def tagRoot (x : String) : Node := .generated (.name .tagRoot x) []

def tagObject : RecordAccess → Node
  | .direct => tagRoot instanceName
  | .viaRef => tagMember (tagRoot instanceRefName) "current"

def replacement? (s : Substitution) : Kind → Option (String × Node)
  | .name .value x => some (x, s.access.slot x)
  | .name .tag x => some (x, tagMember (tagObject s.access) x)
  | .name .tagRoot x => some (x, tagMember (tagObject s.access) x)
  | _ => none

def isValueName (n : Node) : Bool :=
  match n.kind with
  | .name .value _ => true
  | _ => false

-- `{ x }` becomes `{ x: record.x }`.
def adjusted (kind : Kind) (parts : List Node) : Kind :=
  match kind, parts with
  | .property info, [_, v] =>
    if info.shorthand && !isValueName v then .property { info with shorthand := false } else kind
  | _, _ => kind

def replaced? (s : Substitution) (shadowed : List String) (kind : Kind) (parts : List Node) :
    Option Node :=
  match s.replacement? kind, parts with
  | some (x, r), [] => if s.replaces shadowed x then some r else none
  | _, _ => none

mutual

def apply (s : Substitution) (shadowed : List String) : Node → Node
  | .mk k span ps =>
    match s.replaced? shadowed k ps with
    | some r => r
    | none =>
      let ps' := s.applyList ((Node.mk k span ps).introduced ++ shadowed) ps
      .mk (adjusted k ps') span ps'

def applyList (s : Substitution) (shadowed : List String) : List Node → List Node
  | [] => []
  | n :: rest => s.apply shadowed n :: s.applyList shadowed rest

end

mutual

def count (s : Substitution) (shadowed : List String) : Node → Nat
  | .mk k span ps =>
    match s.replaced? shadowed k ps with
    | some _ => 1
    | none => s.countList ((Node.mk k span ps).introduced ++ shadowed) ps

def countList (s : Substitution) (shadowed : List String) : List Node → Nat
  | [] => 0
  | n :: rest => s.count shadowed n + s.countList shadowed rest

end

end Substitution

end Rsx
