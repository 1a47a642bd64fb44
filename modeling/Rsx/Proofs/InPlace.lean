import Rsx.Proofs.Independence
import Rsx.Proofs.Layout

set_option autoImplicit false

namespace Rsx

namespace Node

theorem atPlace?_updateAt_apart {n : Node} {f : Node → Node} {place elsewhere : Place}
    (outside : ¬ place <+: elsewhere) (beside : ¬ elsewhere <+: place) :
    (n.updateAt f place).atPlace? elsewhere = n.atPlace? elsewhere := by
  induction place generalizing n elsewhere with
  | nil => exact (outside List.nil_prefix).elim
  | cons i rest ih =>
    cases elsewhere with
    | nil => exact (beside List.nil_prefix).elim
    | cons j back =>
      rw [updateAt_cons, atPlace?_cons, atPlace?_cons, parts_mk]
      by_cases same : i = j
      · subst same
        have outside : ¬ rest <+: back := fun inside =>
          outside (List.cons_prefix_cons.mpr ⟨rfl, inside⟩)
        have beside : ¬ back <+: rest := fun above =>
          beside (List.cons_prefix_cons.mpr ⟨rfl, above⟩)
        rw [List.getElem?_modify_eq]
        cases n.parts[i]? with
        | none => rfl
        | some p => exact ih outside beside
      · rw [List.getElem?_modify_ne _ _ same]

def label (n : Node) : Kind × Span × Nat := (n.kind, n.span, n.parts.length)

theorem label_updateAt {n : Node} {f : Node → Node} {place elsewhere : Place}
    (above : elsewhere <+: place) (proper : elsewhere ≠ place) :
    ((n.updateAt f place).atPlace? elsewhere).map label = (n.atPlace? elsewhere).map label := by
  induction place generalizing n elsewhere with
  | nil => exact (proper (List.prefix_nil.mp above)).elim
  | cons i rest ih =>
    cases elsewhere with
    | nil => simp [updateAt_cons, label]
    | cons j back =>
      obtain ⟨rfl, below⟩ := List.cons_prefix_cons.mp above
      have proper : back ≠ rest := fun same => proper (same ▸ rfl)
      rw [updateAt_cons, atPlace?_cons, atPlace?_cons, parts_mk, List.getElem?_modify_eq]
      cases n.parts[j]? with
      | none => rfl
      | some p => exact ih below proper

end Node

structure FunctionView where
  form : Kind             -- without what is said of it below
  async : Bool
  generator : Bool
  isExpression : Bool     -- an arrow in front of its value
  name : Node
  typeParameters : Node
  thisParameter : Node
  parameters : Node
  returnType : Node
  body : Node

def Node.functionView? (n : Node) : Option FunctionView :=
  match n.kind with
  | .function info => some
    { form := .function { info with async := false, generator := false }
      async := info.async
      generator := info.generator
      isExpression := false
      name := n.part 0
      typeParameters := n.part 1
      thisParameter := n.part 2
      parameters := n.part 3
      returnType := n.part 4
      body := n.part 5 }
  | .arrow info => some
    { form := .arrow { info with async := false, expression := false }
      async := info.async
      generator := false
      isExpression := info.expression
      name := .absent
      typeParameters := n.part 0
      thisParameter := .absent
      parameters := n.part 1
      returnType := n.part 2
      body := n.part 3 }
  | _ => none

theorem Node.componentParts?_of_view {f : Node} {view : FunctionView}
    (isFunction : f.functionView? = some view) :
    ∃ parts, f.componentParts? = some parts ∧ parts.parameters = view.parameters ∧
      parts.body = view.body := by
  unfold functionView? at isFunction
  split at isFunction
  next kind =>
    cases isFunction
    exact ⟨_, by rw [componentParts?, kind], rfl, rfl⟩
  next kind =>
    cases isFunction
    exact ⟨_, by rw [componentParts?, kind], rfl, rfl⟩
  next => cases isFunction

theorem Node.atPlace?_part {n f : Node} {view : FunctionView} {i : Nat} {place : Place}
    (stands : (n.part i).atPlace? place = some f) (isFunction : f.functionView? = some view) :
    n.atPlace? (i :: place) = some f := by
  rw [part_eq] at stands
  cases part : n.parts[i]? with
  | some p =>
    rw [part] at stands
    exact atPlace?_cons_some.mpr ⟨p, part, stands⟩
  | none =>
    rw [part] at stands
    cases place with
    | nil =>
      cases stands
      cases isFunction
    | cons => cases stands

theorem Node.HoldsFunction.stands {n : Node} {place : Place} (holds : n.HoldsFunction place) :
    ∃ f view, n.atPlace? place = some f ∧ f.functionView? = some view := by
  induction holds with
  | function kind => exact ⟨_, _, rfl, by rw [functionView?, kind]⟩
  | arrow kind => exact ⟨_, _, rfl, by rw [functionView?, kind]⟩
  | paren _ ih => exact ih

namespace Site

theorem Declared.stands {s : Search} {name : String} {statement : Node} {place : Place}
    (declared : Declared s name statement place) :
    ∃ f view, statement.atPlace? place = some f ∧ f.functionView? = some view := by
  induction declared with
  | function kind => exact ⟨_, _, rfl, by rw [Node.functionView?, kind]⟩
  | declarator _ met _ holds =>
    obtain ⟨f, view, stands, isFunction⟩ := holds.stands
    exact ⟨f, view, Node.atPlace?_cons_some.mpr ⟨_, met.entry, Node.atPlace?_part stands isFunction⟩,
      isFunction⟩
  | exported _ _ _ ih =>
    obtain ⟨f, view, stands, isFunction⟩ := ih
    exact ⟨f, view, Node.atPlace?_part stands isFunction, isFunction⟩

theorem Exported.stands {s : Search} {program : Node} {place : Place}
    (statements : ∀ i, program.atPlace? [1, i] = program.statements[i]?)
    (exported : Exported s program place) :
    ∃ f view, program.atPlace? place = some f ∧ f.functionView? = some view := by
  have below : ∀ {i statement rest f}, program.statements[i]? = some statement →
      statement.atPlace? rest = some f → program.atPlace? (1 :: i :: rest) = some f := by
    intro i statement rest f entry inside
    rw [show 1 :: i :: rest = [1, i] ++ rest from rfl, Node.atPlace?_append, statements, entry]
    exact inside
  cases exported with
  | itself met _ holds =>
    obtain ⟨f, view, stands, isFunction⟩ := holds.stands
    exact ⟨f, view, below met.entry (Node.atPlace?_part stands isFunction), isFunction⟩
  | named _ _ _ reached declared =>
    obtain ⟨f, view, stands, isFunction⟩ := declared.stands
    exact ⟨f, view, below reached.entry stands, isFunction⟩

-- Looking for the component and going to it agree: what is found is a function.
theorem find?_stands {program : Node} {place : Place}
    (statements : ∀ i, program.atPlace? [1, i] = program.statements[i]?)
    (found : find? program = some place) :
    ∃ f view, program.atPlace? place = some f ∧ f.functionView? = some view :=
  (find?_eq_some_iff.mp found).stands statements

end Site

-- Where a node of the program stands in the output, where the import is the first statement.
def Place.behindImport : Place → Place
  | 1 :: i :: rest => 1 :: (i + 1) :: rest
  | place => place

-- The output is the program with another function at a place and an import in front of its
-- statements.
structure ReplacedIn (program : Node) (place : Place) (hostModule : String) (new output : Node) :
    Prop where
  imported : output.atPlace? [1, 0] = some (Instance.hostImport hostModule)
  component : output.atPlace? place.behindImport = some new
  elsewhere : ∀ p, ¬ place <+: p → ¬ p <+: place →
    output.atPlace? (Place.behindImport p) = program.atPlace? p
  above : ∀ p, p <+: place → p ≠ place → p ≠ [1] →
    (output.atPlace? (Place.behindImport p)).map Node.label = (program.atPlace? p).map Node.label
  statements : output.statements.length = program.statements.length + 1

structure Regenerated (b : PromotedBody) (old new : FunctionView) (forwards : Bool) (setup : Node) :
    Prop where
  kept : new = { old with
    async := false
    generator := false
    isExpression := false
    parameters := Instance.parameters forwards
    body := new.body }
  forwarding : forwards = true ↔
    1 < old.parameters.parts.length ∨ ∃ p ∈ old.parameters.parts, p.kind = .restParameter
  nested : (new.body.statements.filter fun n => n.declaredName? 0 == some Instance.setupName) = [setup]
  setup : setup = .functionNamed Instance.setupName old.parameters old.async old.generator
    (.mk .body old.body.span [old.body.part 0, .group b.statements])
  rewritten : b.statements = (PromotedBody.taken b.promotion old.body.statements).1.map
    ((PromotedBody.substitution old.parameters b.promotion .direct).apply [])

theorem Instance.forwards_iff (parameters : Node) : forwards parameters = true ↔
    1 < parameters.parts.length ∨ ∃ p ∈ parameters.parts, p.kind = .restParameter := by
  rw [forwards, Bool.or_eq_true, decide_eq_true_iff, List.any_eq_true]
  refine or_congr Iff.rfl (exists_congr fun p => and_congr_right fun _ => ?_)
  cases p.kind <;> simp

namespace Rebuilt

variable {o : Options} {path source : String} {out : Output} (r : Rebuilt o path source out)

theorem replacedIn : ReplacedIn r.read.tree r.place o.hostModule r.generated r.tree := by
  obtain ⟨l⟩ := r.layout
  have place := l.place
  refine ⟨?_, ?_, ?_, ?_, ?_⟩
  · rw [l.tree]
    rfl
  · have stands := r.component_stands
    rw [l.componentPlace] at stands
    rwa [place]
  · intro p outside beside
    match p with
    | [] => exact (beside List.nil_prefix).elim
    | 0 :: rest =>
      rw [l.tree, l.whole]
      rfl
    | [1] => exact (beside (by rw [place]; exact List.cons_prefix_cons.mpr ⟨rfl, List.nil_prefix⟩)).elim
    | 1 :: i :: rest =>
      rw [Place.behindImport, r.atPlace?_later]
      exact Node.atPlace?_updateAt_apart outside beside
    | (i + 2) :: rest =>
      rw [l.tree, l.whole]
      rfl
  · intro p above proper notGroup
    match p with
    | [] =>
      rw [l.tree, l.whole]
      rfl
    | [1] => exact (notGroup rfl).elim
    | 1 :: i :: rest =>
      rw [Place.behindImport, r.atPlace?_later]
      exact Node.label_updateAt above proper
    | 0 :: rest =>
      rw [place] at above
      cases (List.cons_prefix_cons.mp above).1
    | (i + 2) :: rest =>
      rw [place] at above
      cases (List.cons_prefix_cons.mp above).1
  · rw [l.tree, l.whole]
    simp [Node.statements, Node.part, Node.group]

end Rebuilt

def PromotedBody.setupFor (b : PromotedBody) (view : FunctionView) : Node :=
  .functionNamed Instance.setupName view.parameters view.async view.generator
    (.mk .body view.body.span [view.body.part 0, .group b.statements])

theorem Instance.setups_body (p : Promotion) (seeds : List Seed) (forwards : Bool)
    (b : PromotedBody) (view : FunctionView) :
    ((body p seeds forwards (b.setupFor view)).statements.filter
      fun n => n.declaredName? 0 == some setupName) = [b.setupFor view] := rfl

theorem functionView?_rebuildFunction {f : Node} {view : FunctionView} (b : PromotedBody)
    (isFunction : f.functionView? = some view) :
    (rebuildFunction b f).functionView? = some { view with
      async := false
      generator := false
      isExpression := false
      parameters := Instance.parameters (Instance.forwards view.parameters)
      body := Instance.body b.promotion b.seeds (Instance.forwards view.parameters)
        (b.setupFor view) } := by
  unfold Node.functionView? at isFunction
  split at isFunction
  next info kind =>
    cases isFunction
    simp only [rebuildFunction, Node.componentParts?, Instance.rebuild, kind]
    rfl
  next info kind =>
    cases isFunction
    simp only [rebuildFunction, Node.componentParts?, Instance.rebuild, kind]
    rfl
  next => cases isFunction

theorem span_rebuildFunction (b : PromotedBody) (f : Node) : (rebuildFunction b f).span = f.span := by
  unfold rebuildFunction
  split
  · unfold Instance.rebuild
    split <;> rfl
  · rfl

theorem regenerated_rebuildFunction {f : Node} {view : FunctionView} {b : PromotedBody}
    (isFunction : f.functionView? = some view)
    (promoted : PromotedBody.ofBody view.parameters view.body.statements = .ok b) :
    ∃ new, (rebuildFunction b f).functionView? = some new ∧
      Regenerated b view new (Instance.forwards view.parameters) (b.setupFor view) := by
  refine ⟨_, functionView?_rebuildFunction b isFunction, ?_⟩
  exact ⟨rfl, Instance.forwards_iff view.parameters, Instance.setups_body _ _ _ b view, rfl,
    (PromotedBody.ofBody_ok promoted).statements⟩

theorem statements_parsed {source : String} {m : Module} (parsed : Module.parse source = .ok m)
    (i : Nat) : m.tree.atPlace? [1, i] = m.tree.statements[i]? := by
  obtain ⟨hashbang, span, ds, ss, whole⟩ := Module.parse_ok parsed
  rw [whole]
  cases found : ss[i]? <;> simp [Node.atPlace?, Node.statements, Node.part, Node.group, found]

theorem compiled_of_promoted {o : Options} {path source : String} {m : Module} {place : Place}
    {f : Node} {parts : ComponentParts} {b : PromotedBody} (taken : o.takes path = true)
    (parsed : Module.parse source = .ok m) (allowed : checkNames o.target m.tree = .ok ())
    (found : Site.find? m.tree = some place) (stands : m.tree.atPlace? place = some f)
    (isComponent : f.componentParts? = some parts) (hasBody : parts.body.isAbsent = false)
    (promoted : PromotedBody.ofBody parts.parameters parts.body.statements = .ok b) :
    ∃ out, (compile o path source).result = .ok out ∧ out.transformed = true ∧
      out.code = (printed o.target path source
        { m with tree := rebuildProgram o.target m.tree place b }).1 := by
  have component : component? m.tree place = some parts := by
    simp [component?, stands, isComponent, hasBody]
  have placeable := PromotedBody.placeable (PromotedBody.ofBody_ok promoted)
  rw [compile_of_takes taken, transform_of_parsed parsed]
  simp only [transformModule, allowed, found, component, transformComponent, promoted,
    rebuildProgram?_eq placeable _ stands]
  exact ⟨_, rfl, rfl, rfl⟩

theorem replaced_of_promoted {o : Options} {path source : String} {m : Module} {place : Place}
    {f : Node} {view : FunctionView} {b : PromotedBody} (taken : o.takes path = true)
    (parsed : Module.parse source = .ok m) (allowed : checkNames o.target m.tree = .ok ())
    (found : Site.find? m.tree = some place) (stands : m.tree.atPlace? place = some f)
    (isFunction : f.functionView? = some view) (hasBody : view.body.isAbsent = false)
    (promoted : PromotedBody.ofBody view.parameters view.body.statements = .ok b) :
    ∃ out output g new forwards setup, (compile o path source).result = .ok out ∧
      out.transformed = true ∧
      out.code = (printed o.target path source { m with tree := output }).1 ∧
      ReplacedIn m.tree place o.hostModule g output ∧
      g.span = f.span ∧ g.functionView? = some new ∧ Regenerated b view new forwards setup := by
  obtain ⟨parts, isComponent, parameters, body⟩ := Node.componentParts?_of_view isFunction
  obtain ⟨new, generated, regenerated⟩ := regenerated_rebuildFunction isFunction promoted
  rw [← parameters, ← body] at promoted
  rw [← body] at hasBody
  obtain ⟨out, compiled, transformed, code⟩ :=
    compiled_of_promoted taken parsed allowed found stands isComponent hasBody promoted
  let r : Rebuilt o path source out :=
    ⟨m, place, f, parts, b, parsed, allowed, found, stands, isComponent, promoted, code⟩
  exact ⟨out, r.tree, r.generated, new, _, _, compiled, transformed, code, r.replacedIn,
    span_rebuildFunction b f, generated, regenerated⟩

theorem component_rebuilt_in_place {o : Options} {path source : String} {m : Module} {place : Place}
    (taken : o.takes path = true) (parsed : Module.parse source = .ok m)
    (allowed : checkNames o.target m.tree = .ok ()) (found : Site.find? m.tree = some place) :
    ∃ f view, m.tree.atPlace? place = some f ∧ f.functionView? = some view ∧
      ∀ b, view.body.isAbsent = false →
        PromotedBody.ofBody view.parameters view.body.statements = .ok b →
        ∃ out output g new forwards setup, (compile o path source).result = .ok out ∧
          out.transformed = true ∧
          out.code = (printed o.target path source { m with tree := output }).1 ∧
          ReplacedIn m.tree place o.hostModule g output ∧
          g.span = f.span ∧ g.functionView? = some new ∧ Regenerated b view new forwards setup := by
  obtain ⟨f, view, stands, isFunction⟩ := Site.find?_stands (statements_parsed parsed) found
  exact ⟨f, view, stands, isFunction, fun _ hasBody promoted =>
    replaced_of_promoted taken parsed allowed found stands isFunction hasBody promoted⟩

theorem Rebuilt.hasBody {o : Options} {path source : String} {out : Output}
    (r : Rebuilt o path source out) (done : (transform o.target path source).result = .ok out)
    (transformed : out.transformed = true) : r.parts.body.isAbsent = false := by
  refine Bool.eq_false_iff.mpr fun absent => ?_
  have component : component? r.read.tree r.place = none := by
    simp [component?, r.stands, r.isComponent, absent]
  rw [transform_of_parsed r.parsed] at done
  simp only [transformModule, r.allowed, r.found, component] at done
  cases done
  cases transformed

-- An asynchronous arrow in parentheses, under a name, with a second parameter and a directive.
def forwardingText : String :=
  "'use client'; const A = ((async (ctx, ref) => \x7b 'now'; let n = 1; ctx.view(() => n); \x7d)); "
    ++ "export default A; const after = 1;"

set_option maxRecDepth 100000 in
theorem component_rebuilt_in_place_arrow :
    ∃ m place f view b out output g new forwards setup,
      Options.default.takes "A.rsx" = true ∧ Module.parse forwardingText = .ok m ∧
      checkNames Options.default.target m.tree = .ok () ∧ Site.find? m.tree = some place ∧
      m.tree.atPlace? place = some f ∧ f.functionView? = some view ∧
      PromotedBody.ofBody view.parameters view.body.statements = .ok b ∧
      (compile .default "A.rsx" forwardingText).result = .ok out ∧
      ReplacedIn m.tree place "react" g output ∧ g.functionView? = some new ∧
      Regenerated b view new forwards setup := by
  have taken : Options.default.takes "A.rsx" = true := by decide +kernel
  obtain ⟨out, compiled, transformed⟩ :=
    ok_of_isTransformed (compile .default "A.rsx" forwardingText).result (by decide +kernel)
  obtain ⟨r⟩ := rebuilt_of_compile compiled transformed
  have hasBody := r.hasBody (compile_of_takes taken forwardingText ▸ compiled) transformed
  obtain ⟨f, view, stands, isFunction, rebuilt⟩ :=
    component_rebuilt_in_place taken r.parsed r.allowed r.found
  obtain ⟨parts, isComponent, parameters, body⟩ := Node.componentParts?_of_view isFunction
  have same : f = r.written := Option.some.inj (stands.symm.trans r.stands)
  have own : parts = r.parts := Option.some.inj (isComponent.symm.trans (same ▸ r.isComponent))
  have promoted := r.promoted
  rw [← own, parameters, body] at promoted
  rw [← own, body] at hasBody
  obtain ⟨out, output, g, new, forwards, setup, compiled, _, _, replaced, _, generated, whole⟩ :=
    rebuilt r.body hasBody promoted
  exact ⟨r.read, r.place, f, view, r.body, out, output, g, new, forwards, setup, taken, r.parsed,
    r.allowed, r.found, stands, isFunction, promoted, compiled, replaced, generated, whole⟩

end Rsx
