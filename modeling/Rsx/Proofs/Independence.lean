import Rsx.Compile

set_option autoImplicit false

namespace Rsx

def Options.takes (o : Options) (path : String) : Bool :=
  match o.validate, FileFilter.ofOptions o with
  | .ok (), .ok filter => filter.accepts path
  | _, _ => false

theorem compile_of_takes {o : Options} {path : String} (taken : o.takes path = true) (source : String) :
    (compile o path source).result = (transform o.target path source).result := by
  unfold Options.takes at taken
  split at taken
  next filter valid compiles =>
    simp only [compile, valid, compiles, taken, if_true]
  next => cases taken

theorem transform_of_parsed {source : String} {m : Module} (parsed : Module.parse source = .ok m)
    (target : Target) (file : String) :
    transform target file source = transformModule target file source m := by
  unfold transform
  rw [parsed]

def Diagnostic.inFile (file : String) (d : Diagnostic) : Diagnostic := { d with file }

def Warning.inFile (file : String) (w : Warning) : Warning := { w with file }

-- One outcome, reported of two files: an error differs in its file alone, an output in the files of
-- its warnings and in its source map.
inductive SameOutcome (file₁ file₂ : String) :
    Except Diagnostic Output → Except Diagnostic Output → Prop where
  | failed (d : Diagnostic) :
      SameOutcome file₁ file₂ (.error (d.inFile file₁)) (.error (d.inFile file₂))
  | done (code : String) (map₁ map₂ : Option String) (warnings : List Warning) (transformed : Bool) :
      SameOutcome file₁ file₂
        (.ok ⟨code, map₁, warnings.map (Warning.inFile file₁), transformed⟩)
        (.ok ⟨code, map₂, warnings.map (Warning.inFile file₂), transformed⟩)

namespace SameOutcome

variable {file₁ file₂ source : String}

theorem ofProblem (p : Problem) (offset : Nat) :
    SameOutcome file₁ file₂ (.error (p.diagnose file₁ source offset))
      (.error (p.diagnose file₂ source offset)) :=
  .failed (p.diagnose "" source offset)

theorem passthrough :
    SameOutcome file₁ file₂ (.ok (.passthrough source)) (.ok (.passthrough source)) :=
  .done source none none [] false

theorem warnings_inFile (file : String) (cautions : List (Located Caution)) :
    (cautions.map fun c => c.what.warn file source c.offset) =
      (cautions.map fun c => c.what.warn "" source c.offset).map (Warning.inFile file) := by
  rw [List.map_map]
  rfl

end SameOutcome

section Targets

variable (t₁ t₂ : Target) (host : t₁.hostModule = t₂.hostModule)
  (banned : t₁.extraBanned = t₂.extraBanned) (file₁ file₂ source : String)

include host in
theorem transformComponent_independent (m : Module) (place : Place) (parts : ComponentParts) :
    SameOutcome file₁ file₂ (transformComponent t₁ file₁ source m place parts).result
      (transformComponent t₂ file₂ source m place parts).result := by
  unfold transformComponent
  cases PromotedBody.ofBody parts.parameters parts.body.statements with
  | error problem => exact .ofProblem problem.what problem.offset
  | ok b =>
    have rebuilt : rebuildProgram? t₁ m.tree place b = rebuildProgram? t₂ m.tree place b := by
      rw [rebuildProgram?, rebuildProgram?, host]
    simp only [rebuilt]
    cases rebuildProgram? t₂ m.tree place b with
    | none => exact .failed (.internal "" "generated component has no storage record")
    | some tree =>
      -- The code is taken from the pieces before it is asked whether there is to be a map.
      simp only [printed, SameOutcome.warnings_inFile file₁, SameOutcome.warnings_inFile file₂]
      exact .done _ _ _ _ _

include host banned in
theorem transformModule_independent (m : Module) :
    SameOutcome file₁ file₂ (transformModule t₁ file₁ source m).result
      (transformModule t₂ file₂ source m).result := by
  have names : checkNames t₁ m.tree = checkNames t₂ m.tree := by
    rw [checkNames, checkNames, host, banned]
  unfold transformModule
  rw [names]
  cases checkNames t₂ m.tree with
  | error problem => exact .ofProblem problem.what problem.offset
  | ok _ =>
    cases Site.find? m.tree with
    | none => exact .passthrough
    | some place =>
      simp only
      cases component? m.tree place with
      | none => exact .passthrough
      | some parts => exact transformComponent_independent t₁ t₂ host file₁ file₂ source m place parts

include host banned in
theorem transform_independent :
    SameOutcome file₁ file₂ (transform t₁ file₁ source).result
      (transform t₂ file₂ source).result := by
  unfold transform
  cases Module.parse source with
  | error fault => exact .ofProblem (.unreadable fault.flaw) fault.offset
  | ok m => exact transformModule_independent t₁ t₂ host banned file₁ file₂ source m

end Targets

theorem compile_independent {o₁ o₂ : Options} {path₁ path₂ : String}
    (taken₁ : o₁.takes path₁ = true) (taken₂ : o₂.takes path₂ = true)
    (host : o₁.hostModule = o₂.hostModule) (banned : o₁.extraBanned = o₂.extraBanned)
    (source : String) :
    SameOutcome path₁ path₂ (compile o₁ path₁ source).result (compile o₂ path₂ source).result := by
  rw [compile_of_takes taken₁, compile_of_takes taken₂]
  exact transform_independent o₁.target o₂.target host banned path₁ path₂ source

def bundlerOptions : Options :=
  { Options.default with
    extensions := [".tsx", ".rsx"], includePattern := some "src/", sourceMap := false,
    cacheDir := some "cache" }

-- With a warning, which names the file.
def staleText : String :=
  "export default function A(\x7b props, view \x7d) \x7b let n = props.n; view(() => n); \x7d"

set_option maxRecDepth 100000 in
theorem compile_independent_bundler :
    Options.default.takes "A.rsx" = true ∧ bundlerOptions.takes "src/b.tsx?v=1" = true ∧
      SameOutcome "A.rsx" "src/b.tsx?v=1" (compile .default "A.rsx" staleText).result
        (compile bundlerOptions "src/b.tsx?v=1" staleText).result ∧
      (compile .default "A.rsx" staleText).result.toOption.map Output.transformed = some true := by
  have taken₁ : Options.default.takes "A.rsx" = true := by decide +kernel
  have taken₂ : bundlerOptions.takes "src/b.tsx?v=1" = true := by decide +kernel
  exact ⟨taken₁, taken₂, compile_independent taken₁ taken₂ rfl rfl staleText, by decide +kernel⟩

end Rsx
