import Rsx.Promotion
import Rsx.Props

set_option autoImplicit false

namespace Rsx

def writtenPath? (n : Node) : Option (List String) :=
  match n with
  | .mk .target _ [.mk (.member o) s ps] => (Node.mk (.member o) s ps).path?
  | .mk .target _ [.mk (.index o) s ps] => (Node.mk (.index o) s ps).path?
  | _ => none

def offence? (b : PropsBinding) (p : Promotion) (n : Node) : Option (Located Problem) :=
  match n.kind, n.parts with
  | .target, m :: _ =>
    match writtenPath? n with
    | some path => (b.field? path).map fun field => ⟨.propsWrite path field, m.span.start⟩
    | none => none
  | .targetShorthand, name :: _ =>
    match name.reference? with
    | some x => if p.contains x then some ⟨.shorthandWrite x, n.span.start⟩ else none
    | none => none
  | _, _ => none

def declaratorCaution? (b : PropsBinding) (p : Promotion) (d : Node) : Option (Located Caution) :=
  match (d.part 0).binding? with
  | some x =>
    if p.contains x && b.isReadIn (d.part 2) then some ⟨.staleState x, d.span.start⟩ else none
  | none => none

def assignmentCaution? (b : PropsBinding) (p : Promotion) (n : Node) : Option (Located Caution) :=
  match n with
  | .mk (.assign _) s [.mk .target _ [.mk (.name .value x) _ _], value] =>
    if p.contains x && b.isReadIn value then some ⟨.staleState x, s.start⟩ else none
  | _ => none

structure Guard where
  refused : Option (Located Problem)
  cautions : List (Located Caution)

namespace Guard

variable (b : PropsBinding) (p : Promotion)

def start : Guard := ⟨none, []⟩

-- Only the first offence counts, and cautions are collected after it too.
def meet (g : Guard) (n : Node) : Guard :=
  ⟨g.refused <|> offence? b p n, g.cautions ++ (assignmentCaution? b p n).toList⟩

mutual

def visit (g : Guard) : Node → Guard
  | .mk k s ps => visitList (g.meet b p (.mk k s ps)) ps

def visitList (g : Guard) : List Node → Guard
  | [] => g
  | n :: rest => visitList (visit g n) rest

end

def statement (g : Guard) (n : Node) : Guard :=
  visit b p { g with cautions := g.cautions ++ n.declarators.filterMap (declaratorCaution? b p) } n

-- The walk stops after a statement that holds an offence.
def statements (g : Guard) : List Node → Guard
  | [] => g
  | n :: rest =>
    let next := g.statement b p n
    if next.refused.isSome then next else statements next rest

end Guard

def checkBody (b : PropsBinding) (p : Promotion) (statements : List Node)
    (warned : List (Located Caution)) : Except (Located Problem) Unit × List (Located Caution) :=
  let found := Guard.start.statements b p statements
  match found.refused with
  | some problem => (.error problem, warned)
  | none => (.ok (), warned ++ found.cautions)

def isReturn (n : Node) : Bool :=
  match n.kind with
  | .returnWith => true
  | _ => false

def returnCaution? (n : Node) : Option (Located Caution) :=
  if isReturn n && !(n.part 0).isAbsent then some ⟨.returnDiscarded, n.span.start⟩ else none

def discardReturns (statements : List Node) : List Node × List (Located Caution) :=
  (statements.filter (!isReturn ·), statements.filterMap returnCaution?)

end Rsx
