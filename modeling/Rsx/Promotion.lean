import Rsx.Problem
import Rsx.Record
import Rsx.Scope

set_option autoImplicit false

namespace Rsx

inductive Seeding where
  | unset     -- `let x;`
  | record    -- in the record itself
  | creation  -- right after the record
  | setup     -- where it was declared
deriving DecidableEq

def Seeding.isEarly : Seeding → Bool
  | record | creation => true
  | unset | setup => false

structure Slot where
  name : String
  seeding : Seeding
deriving DecidableEq

structure Seed where
  name : String
  seeding : Seeding
  value : Node

structure Promotion where
  slots : List Slot
deriving DecidableEq

namespace Node

def needsFunction (n : Node) : Bool :=
  match n.kind with
  | .thisValue | .superValue | .metaProperty | .await | .yield _ => true
  | _ => n.reference? == some "arguments"

def isPromotable (statement : Node) : Bool :=
  match statement.kind with
  | .variableList .varKind _ | .variableList .letKind _ | .variableList .constKind _ => true
  | _ => false

def isInert (statement : Node) : Bool :=
  match statement.kind with
  | .function _ | .empty | .typeAlias _ | .interface _ => true
  | _ => false

end Node

namespace Promotion

def none : Promotion := ⟨[]⟩

def names (p : Promotion) : List String := p.slots.map Slot.name

def contains (p : Promotion) (name : String) : Bool := p.names.contains name

def earlySeeding (p : Promotion) (bodyNames : List String) (value : Node) : Seeding :=
  let references := value.references
  if value.preorder.any Node.needsFunction then .setup
  else if references.any fun x => !p.contains x && bodyNames.contains x then .setup
  else if references.any p.contains || p.slots.any (·.seeding == .creation) then .creation
  else .record

end Promotion

-- The slots so far, and whether only declarations were met that need no setup.
structure PromotionScan where
  promotion : Promotion
  leading : Bool

namespace PromotionScan

def addSlot (s : PromotionScan) (bodyNames : List String) (name : String) (value : Node) :
    PromotionScan :=
  let seeding :=
    if value.isAbsent then .unset
    else if s.leading then s.promotion.earlySeeding bodyNames value
    else .setup
  ⟨⟨s.promotion.slots ++ [⟨name, seeding⟩]⟩, s.leading && seeding != .setup⟩

def declarator (excluded bodyNames : List String) (s : PromotionScan) (d : Node) :
    Except (Located Problem) PromotionScan :=
  match (d.part 0).binding? with
  | none => .ok { s with leading := false }
  | some x =>
    if excluded.contains x || lifecycleNames.contains x then .ok { s with leading := false }
    else if x == "__proto__" then .error ⟨.protoState, (d.part 0).span.start⟩
    else if s.promotion.contains x then .ok { s with leading := s.leading && (d.part 2).isAbsent }
    else .ok (s.addSlot bodyNames x (d.part 2))

def statement (excluded bodyNames : List String) (s : PromotionScan) (n : Node) :
    Except (Located Problem) PromotionScan :=
  if n.isPromotable then n.parts.foldlM (declarator excluded bodyNames) s
  else .ok { s with leading := s.leading && n.isInert }

end PromotionScan

inductive Fate where
  | keep (declarator : Node)
  | assign (name : String) (span : Span) (value : Node)
  | seed (seed : Seed)
  | vanish

namespace Promotion

def scan (excluded : List String) (statements : List Node) : Except (Located Problem) Promotion :=
  let bodyNames := declaredNames statements ++ excluded ++ lifecycleNames
  (statements.foldlM (PromotionScan.statement excluded bodyNames) ⟨none, true⟩).map (·.promotion)

def seedingOf (p : Promotion) (name : String) : Seeding :=
  match p.slots.find? (·.name == name) with
  | some slot => slot.seeding
  | Option.none => .setup

def promotedName? (p : Promotion) (d : Node) : Option String := (d.part 0).binding?.filter p.contains

-- A second declaration of a name assigns in place.
def fate (p : Promotion) (seen : List String) (d : Node) : Fate :=
  match p.promotedName? d with
  | Option.none => .keep d
  | some x =>
    let value := d.part 2
    let seeding := if seen.contains x then .setup else p.seedingOf x
    if value.isAbsent then .vanish
    else if seeding.isEarly then .seed ⟨x, seeding, value⟩
    else .assign x d.span value

def fates (p : Promotion) (seen : List String) : List Node → List Fate
  | [] => []
  | d :: rest => p.fate seen d :: p.fates ((p.promotedName? d).toList ++ seen) rest

end Promotion

namespace Promotion

def declaration (kind : Kind) : List Node → List Node
  | [] => []
  | ds => [.mk kind .nowhere ds]

-- Declarators that stay are gathered until an assignment has to come between them.
def regroup (kind : Kind) : List Node → List Fate → List Node
  | kept, [] => declaration kind kept
  | kept, .keep d :: rest => regroup kind (kept ++ [d]) rest
  | kept, .assign x span value :: rest =>
    declaration kind kept ++ RecordAccess.direct.assignment span x value :: regroup kind [] rest
  | kept, .seed _ :: rest => regroup kind kept rest
  | kept, .vanish :: rest => regroup kind kept rest

def seedsOf : List Fate → List Seed
  | [] => []
  | .seed s :: rest => s :: seedsOf rest
  | _ :: rest => seedsOf rest

def withoutDeclare : Kind → Kind
  | .variableList kind _ => .variableList kind false
  | k => k

def isAffected (p : Promotion) (statement : Node) : Bool :=
  statement.isPromotable && statement.parts.any fun d => (p.promotedName? d).isSome

def applyFrom (p : Promotion) (seen : List String) : List Node → List Node × List Seed
  | [] => ([], [])
  | n :: rest =>
    if p.isAffected n then
      let fates := p.fates seen n.parts
      let (statements, seeds) := p.applyFrom (n.parts.filterMap p.promotedName? ++ seen) rest
      (regroup (withoutDeclare n.kind) [] fates ++ statements, seedsOf fates ++ seeds)
    else
      let (statements, seeds) := p.applyFrom seen rest
      (n :: statements, seeds)

def apply (p : Promotion) (statements : List Node) : List Node × List Seed := p.applyFrom [] statements

end Promotion

end Rsx
