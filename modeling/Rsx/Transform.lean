import Rsx.Event
import Rsx.HostImports
import Rsx.Printer
import Rsx.Seeding
import Rsx.Site
import Rsx.SourceMap
import Rsx.Substitution
import Rsx.Writes

set_option autoImplicit false

namespace Rsx

structure Target where
  hostModule : String
  extraBanned : List String
  sourceMap : Bool
deriving DecidableEq

structure PromotedBody where
  promotion : Promotion
  seeds : List Seed
  statements : List Node
  cautions : List (Located Caution)
  replaced : Nat

namespace PromotedBody

def replaceSeeds (s : Substitution) (seeds : List Seed) : List Seed :=
  seeds.map fun seed => { seed with value := s.apply [] seed.value }

def ofBody (parameters : Node) (statements : List Node) :
    Except (Located Problem) PromotedBody := do
  let own := parameterNames parameters
  let binding := (PropsBinding.ofParameters parameters).bindStatements statements
  let promotion ← Promotion.scan own statements
  let (checked, warned) := checkBody binding promotion statements []
  checked
  let (rest, returns) := discardReturns statements
  let (rest, seeds) := promotion.apply rest
  let inSetup : Substitution := ⟨promotion.names, own ++ lifecycleNames, .direct⟩
  let inCreation : Substitution := ⟨promotion.names, own ++ lifecycleNames, .viaRef⟩
  return {
    promotion
    seeds := replaceSeeds inCreation seeds
    statements := inSetup.applyList [] rest
    cautions := warned ++ returns
    replaced := inSetup.countList [] rest + inCreation.countList [] (seeds.map Seed.value) }

end PromotedBody

def Node.withStatements (n : Node) (k : Kind) (statements : List Node) : Node :=
  .mk k n.span [n.part 0, .group statements]

def rebuildFunction? (b : PromotedBody) (f : Node) : Option Node :=
  match f.componentParts? with
  | some parts =>
    Instance.seedFunction? b.seeds
      (Instance.rebuild b.promotion [] f (parts.body.withStatements .body b.statements))
  | none => some f

def rebuildProgram? (target : Target) (program : Node) (place : Place) (b : PromotedBody) :
    Option Node :=
  ((program.atPlace? place).bind (rebuildFunction? b)).map fun f =>
    let rebuilt := program.updateAt (fun _ => f) place
    rebuilt.withStatements rebuilt.kind
      (Instance.hostImport target.hostModule :: rebuilt.statements)

def checkNames (target : Target) (program : Node) : Except (Located Problem) Unit :=
  let imports := HostImports.ofProgram program target.hostModule target.extraBanned
  match imports.firstBannedCall? program <|> firstReservedUse? program with
  | some problem => .error problem
  | none => .ok ()

def printed (target : Target) (file source : String) (m : Module) : String × Option String :=
  let pieces := m.pieces
  let map := if target.sourceMap then
      some ((SourceMap.ofPieces source pieces).toJson file source)
    else none
  (Piece.code pieces, map)

def promotedEvent (file component : String) (b : PromotedBody) : Event :=
  .promoted file component b.promotion.slots.length b.seeds.length b.replaced

def component? (program : Node) (place : Place) : Option ComponentParts :=
  match program.atPlace? place with
  | some f =>
    match f.componentParts? with
    | some parts => if parts.body.isAbsent then none else some parts
    | none => none
  | none => none

def transformComponent (target : Target) (file source : String) (m : Module) (place : Place)
    (parts : ComponentParts) : Report (Except Diagnostic Output) :=
  match PromotedBody.ofBody parts.parameters parts.body.statements with
  | .error problem => ⟨[], .error (problem.what.diagnose file source problem.offset)⟩
  | .ok b =>
    let warnings := b.cautions.map fun c => c.what.warn file source c.offset
    let events := warnings.map .warned ++ [promotedEvent file parts.name b]
    match rebuildProgram? target m.tree place b with
    | none => ⟨events, .error (.internal file "generated component has no storage record")⟩
    | some tree =>
      let (code, map) := printed target file source { m with tree }
      ⟨events, .ok ⟨code, map, warnings, true⟩⟩

def transformModule (target : Target) (file source : String) (m : Module) :
    Report (Except Diagnostic Output) :=
  match checkNames target m.tree with
  | .error problem => ⟨[], .error (problem.what.diagnose file source problem.offset)⟩
  | .ok () =>
    match Site.find? m.tree with
    | none => ⟨[.noComponent file], .ok (.passthrough source)⟩
    | some place =>
      match component? m.tree place with
      | none => ⟨[], .ok (.passthrough source)⟩
      | some parts => transformComponent target file source m place parts

def transform (target : Target) (file source : String) : Report (Except Diagnostic Output) :=
  match Module.parse source with
  | .error fault => ⟨[], .error ((Problem.unreadable fault.flaw).diagnose file source fault.offset)⟩
  | .ok m => transformModule target file source m

end Rsx
