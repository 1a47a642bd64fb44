import Rsx.Proofs.InPlace

set_option autoImplicit false

namespace Rsx

def ComponentParts.props (parts : ComponentParts) : PropsBinding :=
  (PropsBinding.ofParameters parts.parameters).bindStatements parts.body.statements

structure HasComponent (o : Options) (path source : String) (m : Module) (place : Place)
    (parts : ComponentParts) : Prop where
  taken : o.takes path = true
  parsed : Module.parse source = .ok m
  found : Site.find? m.tree = some place
  component : component? m.tree place = some parts

-- Whether a file has a component, all names in it are allowed, and the component passes a test.
def componentPasses (o : Options) (path source : String) (test : ComponentParts → Bool) : Bool :=
  match Module.parse source with
  | .error _ => false
  | .ok m =>
    match checkNames o.target m.tree, Site.find? m.tree with
    | .ok (), some place => o.takes path && (component? m.tree place).any test
    | _, _ => false

theorem exists_component {o : Options} {path source : String} {test : ComponentParts → Bool}
    (passes : componentPasses o path source test = true) :
    ∃ m place parts, HasComponent o path source m place parts ∧
      checkNames o.target m.tree = .ok () ∧ test parts = true := by
  unfold componentPasses at passes
  split at passes
  · cases passes
  next m parsed =>
    split at passes
    next place allowed found =>
      obtain ⟨taken, holds⟩ := Bool.and_eq_true_iff.mp passes
      obtain ⟨parts, component, holds⟩ := (Option.any_eq_true _ _).mp holds
      exact ⟨m, place, parts, ⟨taken, parsed, found, component⟩, allowed, holds⟩
    next => cases passes

variable {o : Options} {path source : String} {m : Module} {place : Place} {parts : ComponentParts}
  {p : Promotion} {problem : Located Problem}

namespace PromotedBody

theorem ofBody_of_offence
    (scanned : Promotion.scan (parameterNames parts.parameters) parts.body.statements = .ok p)
    (first : firstOffence? parts.props p parts.body.statements = some problem) :
    ofBody parts.parameters parts.body.statements = .error problem := by
  rw [ComponentParts.props] at first
  simp [ofBody, scanned, checkBody_eq, first, bind, Except.bind]

theorem ofBody_of_no_offence
    (scanned : Promotion.scan (parameterNames parts.parameters) parts.body.statements = .ok p)
    (none : firstOffence? parts.props p parts.body.statements = none) :
    ∃ b, ofBody parts.parameters parts.body.statements = .ok b := by
  rw [ComponentParts.props] at none
  simp only [ofBody, scanned, checkBody_eq, none, bind, Except.bind]
  exact ⟨_, rfl⟩

end PromotedBody

namespace HasComponent

theorem result_eq (has : HasComponent o path source m place parts) :
    (compile o path source).result =
      match checkNames o.target m.tree with
      | .error problem => .error (problem.what.diagnose path source problem.offset)
      | .ok () => (transformComponent o.target path source m place parts).result := by
  rw [compile_of_takes has.taken, transform_of_parsed has.parsed, transformModule]
  cases checkNames o.target m.tree with
  | error problem => rfl
  | ok _ => simp only [has.found, has.component]

theorem exists_written (has : HasComponent o path source m place parts) :
    ∃ f, m.tree.atPlace? place = some f ∧ f.componentParts? = some parts ∧
      parts.body.isAbsent = false := by
  have component := has.component
  unfold component? at component
  split at component
  next f stands =>
    split at component
    next parts' isComponent =>
      split at component
      · cases component
      next hasBody =>
        cases component
        exact ⟨f, stands, isComponent, Bool.eq_false_iff.mpr hasBody⟩
    next => cases component
  next => cases component

theorem refused_of_offence (has : HasComponent o path source m place parts)
    (allowed : checkNames o.target m.tree = .ok ())
    (scanned : Promotion.scan (parameterNames parts.parameters) parts.body.statements = .ok p)
    (first : firstOffence? parts.props p parts.body.statements = some problem) :
    (compile o path source).result =
      .error (problem.what.diagnose path source problem.offset) := by
  rw [has.result_eq, allowed]
  simp [transformComponent, PromotedBody.ofBody_of_offence scanned first]

theorem compiled_of_no_offence (has : HasComponent o path source m place parts)
    (allowed : checkNames o.target m.tree = .ok ())
    (scanned : Promotion.scan (parameterNames parts.parameters) parts.body.statements = .ok p)
    (none : firstOffence? parts.props p parts.body.statements = none) :
    ∃ out, (compile o path source).result = .ok out ∧ out.transformed = true := by
  obtain ⟨b, promoted⟩ := PromotedBody.ofBody_of_no_offence scanned none
  obtain ⟨f, stands, isComponent, hasBody⟩ := has.exists_written
  obtain ⟨out, compiled, transformed, -⟩ := compiled_of_promoted has.taken has.parsed allowed
    has.found stands isComponent hasBody promoted
  exact ⟨out, compiled, transformed⟩

theorem refused_of_node (has : HasComponent o path source m place parts) {n : Node}
    (inBody : n ∈ Node.preorderList parts.body.statements)
    (offends : ∀ p, offence? parts.props p n ≠ none) :
    ∃ d, (compile o path source).result = .error d := by
  rw [has.result_eq]
  cases allowed : checkNames o.target m.tree with
  | error problem => exact ⟨_, rfl⟩
  | ok _ =>
    cases scanned : Promotion.scan (parameterNames parts.parameters) parts.body.statements with
    | error problem =>
      have refused : PromotedBody.ofBody parts.parameters parts.body.statements = .error problem := by
        simp [PromotedBody.ofBody, scanned, bind, Except.bind]
      simp [transformComponent, refused]
    | ok p =>
      cases first : firstOffence? parts.props p parts.body.statements with
      | none => exact absurd (List.findSome?_eq_none_iff.mp first n inBody) (offends p)
      | some problem =>
        simp [transformComponent, PromotedBody.ofBody_of_offence scanned first]

theorem clean_statements (has : HasComponent o path source m place parts)
    (allowed : checkNames o.target m.tree = .ok ()) : ∀ n ∈ parts.body.statements, n.Clean := by
  obtain ⟨f, stands, isComponent, -⟩ := has.exists_written
  have clean := (clean_of_checkNames allowed).below (Node.mem_preorder_of_atPlace? stands)
  exact clean.functionStatements isComponent

end HasComponent

end Rsx
