import Rsx.Proofs.BannedCalls
import Rsx.Proofs.Refusals

set_option autoImplicit false

namespace Rsx

namespace Site

variable {x : String} {s : Search} {program : Node} {place : Place}

structure Component (s : Search) (program : Node) (place : Place) (view : FunctionView) : Prop where
  exported : Exported s program place
  function : ∃ f, program.atPlace? place = some f ∧ f.functionView? = some view
  hasBody : view.body.isAbsent = false

theorem Component.any {view : FunctionView} (component : Component s program place view) :
    Component .any program place view :=
  ⟨component.exported.any, component.function, component.hasBody⟩

theorem Component.eq {elsewhere : Place} {view other : FunctionView}
    (component : Component .first program place view)
    (second : Component .first program elsewhere other) : elsewhere = place ∧ other = view := by
  have same : elsewhere = place := Option.some.inj
    ((find?_eq_some_iff.mpr second.exported).symm.trans (find?_eq_some_iff.mpr component.exported))
  subst same
  obtain ⟨f, stands, isFunction⟩ := component.function
  obtain ⟨g, stands', isFunction'⟩ := second.function
  cases stands.symm.trans stands'
  exact ⟨rfl, Option.some.inj (isFunction'.symm.trans isFunction)⟩

-- Behind a head without a body no function is found, whatever is said of the name there.
theorem not_component_of_head {i j : Nat} {statement head : Node} {info : FunctionInfo}
    (met : Search.first.Meets (fun n => n.kind = .exportDefault) program.statements i statement)
    (kind : statement.kind = .exportDefault)
    (isName : (statement.part 0).unwrapped.kind = .name .value x)
    (reached : Search.first.Meets (Speaks x) program.statements j head)
    (isFunction : head.kind = .function info) (named : head.declaredName? 0 = some x)
    (bodiless : (head.part 5).isAbsent = true) {view : FunctionView}
    (statements : ∀ i, program.atPlace? [1, i] = program.statements[i]?) :
    ¬ Component .first program place view := by
  intro component
  have decided := Exported.named met kind isName reached (.function isFunction named)
  have same : place = [1, j] := Option.some.inj
    ((find?_eq_some_iff.mpr component.exported).symm.trans (find?_eq_some_iff.mpr decided))
  subst same
  obtain ⟨f, stands, shown⟩ := component.function
  rw [statements, reached.entry] at stands
  cases stands
  rw [Node.functionView?, isFunction] at shown
  cases shown
  cases component.hasBody.symm.trans bodiless

end Site

theorem passthrough_of_no_component {o : Options} {path source : String} {m : Module}
    (taken : o.takes path = true) (parsed : Module.parse source = .ok m)
    (allowed : checkNames o.target m.tree = .ok ())
    (nothing : ∀ place view, ¬ Site.Component .first m.tree place view) :
    (compile o path source).result = .ok (.passthrough source) := by
  rw [compile_of_takes taken, transform_of_parsed parsed]
  simp only [transformModule, allowed]
  cases found : Site.find? m.tree with
  | none => rfl
  | some place =>
    -- What is found is a function, so it is the body that is missing.
    obtain ⟨f, view, stands, isFunction⟩ := Site.find?_stands (statements_parsed parsed) found
    obtain ⟨parts, isComponent, -, body⟩ := Node.componentParts?_of_view isFunction
    have absent : parts.body.isAbsent = true := by
      rw [body, ← Bool.not_eq_false]
      exact fun hasBody => nothing place view
        ⟨Site.find?_eq_some_iff.mp found, ⟨f, stands, isFunction⟩, hasBody⟩
    simp [component?, stands, isComponent, absent]

/-- A module is rebuilt around the function with a body that its first default export stands for,
where each name stands for the first thing that is said of it, and is passed through if there is
none. That function is always one that the default export stands for, and there is no other. -/
theorem default_export_rebuilt {o : Options} {path source : String} {m : Module}
    (taken : o.takes path = true) (parsed : Module.parse source = .ok m)
    (allowed : checkNames o.target m.tree = .ok ()) :
    (∀ place view, Site.Component .first m.tree place view →
      Site.Component .any m.tree place view ∧
      (∀ elsewhere other, Site.Component .first m.tree elsewhere other →
        elsewhere = place ∧ other = view) ∧
      ∀ b, PromotedBody.ofBody view.parameters view.body.statements = .ok b →
        ∃ out output g new forwards setup, (compile o path source).result = .ok out ∧
          out.transformed = true ∧
          out.code = (printed o.target path source { m with tree := output }).1 ∧
          ReplacedIn m.tree place o.hostModule g output ∧ g.functionView? = some new ∧
          Regenerated b view new forwards setup) ∧
    ((∀ place view, ¬ Site.Component .first m.tree place view) →
      (compile o path source).result = .ok (.passthrough source)) ∧
    ((∀ place view, ¬ Site.Component .any m.tree place view) →
      (compile o path source).result = .ok (.passthrough source)) := by
  have passed := passthrough_of_no_component taken parsed allowed
  refine ⟨fun place view component => ⟨component.any, fun _ _ second => component.eq second,
    fun b promoted => ?_⟩, passed, fun nothing => passed fun place view component =>
      nothing place view component.any⟩
  obtain ⟨f, stands, isFunction⟩ := component.function
  obtain ⟨out, output, g, new, forwards, setup, compiled, transformed, code, replaced, _, generated,
    regenerated⟩ := replaced_of_promoted taken parsed allowed
      (Site.find?_eq_some_iff.mpr component.exported) stands isFunction component.hasBody promoted
  exact ⟨out, output, g, new, forwards, setup, compiled, transformed, code, replaced, generated,
    regenerated⟩

namespace Site

theorem component_of_parts {m : Module} {parts : ComponentParts} {source : String}
    (parsed : Module.parse source = .ok m) {place : Place} (found : find? m.tree = some place)
    (isComponent : component? m.tree place = some parts) :
    ∃ view, Component .first m.tree place view ∧ view.parameters = parts.parameters ∧
      view.body = parts.body := by
  obtain ⟨f, view, stands, isFunction⟩ := find?_stands (statements_parsed parsed) found
  obtain ⟨own, ownParts, parameters, body⟩ := Node.componentParts?_of_view isFunction
  unfold component? at isComponent
  simp only [stands, ownParts] at isComponent
  split at isComponent
  next => cases isComponent
  next hasBody =>
    cases isComponent
    have present : view.body.isAbsent = false := by
      rw [← body]
      exact Bool.eq_false_iff.mpr hasBody
    exact ⟨view, ⟨find?_eq_some_iff.mp found, ⟨f, stands, isFunction⟩, present⟩, parameters.symm,
      body.symm⟩

def isOverloaded (program : Node) : Bool :=
  match program.statements with
  | [head, function, exported] =>
    match head.kind, function.kind with
    | .function _, .function _ =>
      decide (head.declaredName? 0 = some "A") && (head.part 5).isAbsent &&
        decide (function.declaredName? 0 = some "A") && !(function.part 5).isAbsent &&
        isDefaultExport exported && decide ((exported.part 0).unwrapped.kind = .name .value "A")
    | _, _ => false
  | _ => false

theorem hidden_of_isOverloaded {program : Node}
    (statements : ∀ i, program.atPlace? [1, i] = program.statements[i]?)
    (overloaded : isOverloaded program = true) :
    (∃ view, Component .any program [1, 1] view) ∧
      ∀ place view, ¬ Component .first program place view := by
  unfold isOverloaded at overloaded
  split at overloaded
  next head function exported whole =>
    split at overloaded
    next info info' headKind functionKind =>
      simp only [Bool.and_eq_true, decide_eq_true_eq, Bool.not_eq_true', isDefaultExport_iff]
        at overloaded
      obtain ⟨⟨⟨⟨⟨headName, bodiless⟩, name⟩, hasBody⟩, kind⟩, isName⟩ := overloaded
      have atHead : program.statements[0]? = some head := by rw [whole]; rfl
      have atFunction : program.statements[1]? = some function := by rw [whole]; rfl
      have atExport : program.statements[2]? = some exported := by rw [whole]; rfl
      have met : Search.first.Meets (fun n => n.kind = .exportDefault) program.statements 2 exported := by
        refine ⟨atExport, fun _ j earlier y there answered => ?_⟩
        obtain rfl | rfl : j = 0 ∨ j = 1 := by omega
        · cases atHead.symm.trans there
          cases headKind.symm.trans answered
        · cases atFunction.symm.trans there
          cases functionKind.symm.trans answered
      have reached : Search.any.Meets (Speaks "A") program.statements 1 function :=
        ⟨atFunction, fun same => by cases same⟩
      have shown : ∃ view, function.functionView? = some view ∧ view.body = function.part 5 :=
        ⟨_, by rw [Node.functionView?, functionKind], rfl⟩
      obtain ⟨view, isFunction, body⟩ := shown
      constructor
      · exact ⟨view, .named met.any kind isName reached (.function functionKind name),
          ⟨function, (statements 1).trans atFunction, isFunction⟩, body ▸ hasBody⟩
      · intro place other
        exact not_component_of_head met kind isName ⟨atHead, fun _ j earlier => by omega⟩ headKind
          headName bodiless statements
    next => cases overloaded
  next => cases overloaded

end Site

-- The second of two variables, in parentheses, whose name is a type too.
def mergedText : String :=
  "interface A \x7b n: number \x7d const start = 1, A = ((async (ctx) => \x7b let n = start; "
    ++ "ctx.view(() => n); \x7d)); export default (A);"

def overloadedText : String :=
  "function A(a: string): void; function A(a) \x7b let x = 1; view(() => x); \x7d export default A;"

set_option maxRecDepth 100000 in
theorem default_export_rebuilt_merged :
    (∃ m place view b out, Module.parse mergedText = .ok m ∧
      checkNames Options.default.target m.tree = .ok () ∧ Site.Component .first m.tree place view ∧
      PromotedBody.ofBody view.parameters view.body.statements = .ok b ∧
      (compile .default "A.rsx" mergedText).result = .ok out ∧ out.transformed = true) ∧
    ∃ m view, Module.parse overloadedText = .ok m ∧
      checkNames Options.default.target m.tree = .ok () ∧ Site.Component .any m.tree [1, 1] view ∧
      (∀ place view, ¬ Site.Component .first m.tree place view) ∧
      (compile .default "A.rsx" overloadedText).result = .ok (.passthrough overloadedText) := by
  have taken : Options.default.takes "A.rsx" = true := by decide +kernel
  constructor
  · have passes : componentPasses .default "A.rsx" mergedText (fun parts =>
        (PromotedBody.ofBody parts.parameters parts.body.statements).isOk) = true := by decide +kernel
    obtain ⟨m, place, parts, has, allowed, promotes⟩ := exists_component passes
    obtain ⟨view, component, parameters, body⟩ :=
      Site.component_of_parts has.parsed has.found has.component
    rw [← parameters, ← body] at promotes
    cases promoted : PromotedBody.ofBody view.parameters view.body.statements with
    | error problem =>
      rw [promoted] at promotes
      cases promotes
    | ok b =>
      obtain ⟨-, -, rebuilt⟩ :=
        (default_export_rebuilt taken has.parsed allowed).1 place view component
      obtain ⟨out, _, _, _, _, _, compiled, transformed, _⟩ := rebuilt b promoted
      exact ⟨m, place, view, b, out, has.parsed, allowed, component, promoted, compiled, transformed⟩
  · have passes : parsedPasses (fun program => (checkNames Options.default.target program).isOk &&
        Site.isOverloaded program) overloadedText = true := by decide +kernel
    obtain ⟨m, parsed, passes⟩ := exists_parsed passes
    obtain ⟨accepted, overloaded⟩ := Bool.and_eq_true_iff.mp passes
    have allowed : checkNames Options.default.target m.tree = .ok () := by
      cases names : checkNames Options.default.target m.tree with
      | error problem =>
        rw [names] at accepted
        cases accepted
      | ok => rfl
    obtain ⟨⟨view, component⟩, hidden⟩ :=
      Site.hidden_of_isOverloaded (statements_parsed parsed) overloaded
    exact ⟨m, view, parsed, allowed, component, hidden,
      (default_export_rebuilt taken parsed allowed).2.1 hidden⟩

end Rsx
