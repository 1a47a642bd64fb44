import Rsx.Proofs.Capture
import Rsx.Proofs.Template

set_option autoImplicit false

namespace Rsx

namespace Instance

variable {p : Promotion} {seeds : List Seed} {setup : Node}

theorem lexicalNames_body (forwards : Bool) :
    (body p seeds forwards setup).statements.flatMap Node.lexicalNames =
      ["__rsx_forceUpdate", instanceRefName, instanceName, "__rsx_render", "__rsx_ctx"]
        ++ setup.lexicalNames := by
  rw [← List.append_nil setup.lexicalNames]
  rfl

theorem parameterBound_parameters (forwards : Bool) :
    Node.parameterBound (parameters forwards) =
      "__rsx_props" :: if forwards then ["__rsx_ref", "__rsx_rest"] else [] := by
  cases forwards <;> rfl

theorem bound_of_componentNames {forwards : Bool} {y : String}
    (declares : setup.lexicalNames = [setupName]) (known : y ∈ componentNames forwards) :
    y ∈ Node.parameterBound (parameters forwards) ++
      Node.functionNames (body p seeds forwards setup).statements := by
  rw [Node.functionNames, lexicalNames_body, declares, parameterBound_parameters]
  simp only [componentNames, List.cons_append, List.nil_append, List.mem_cons,
    List.mem_append] at known ⊢
  grind

end Instance

namespace Node

theorem marked_split {bound used : List String} {n : Node} :
    n.Marked bound used ↔ ∀ m ∈ n.split, m.Marked bound used := by
  rcases n.split_cases with alone | ⟨kind, declare, declares⟩
  · simp [alone]
  · have each : ∀ d, (Node.single kind d).Marked bound used ↔ d.Marked bound used := by
      intro d
      rw [marked_iff_parts]
      simp [Node.single, isMarked, binding?, reference?]
    rw [marked_iff_parts]
    simp [split, declares, each, isMarked, binding?, reference?]

theorem hidesReserved_split {n : Node} : n.HidesReserved ↔ ∃ m ∈ n.split, m.HidesReserved :=
  somewhere_split fun m _ _ _ declares => by simp [reference?, declares]

end Node

theorem Grammar.programNode_ok {fuel : Nat} {hashbang : Option String} {s s' : ParserState}
    {tree : Node} (parsed : Grammar.programNode fuel hashbang s = .ok tree s') :
    ∃ span ds ss, tree = .mk (.program hashbang) span [.group ds, .group ss] := by
  simp only [Grammar.programNode, bind, EStateM.bind, pure, EStateM.pure] at parsed
  split at parsed
  · split at parsed
    · cases parsed
      exact ⟨_, _, _, rfl⟩
    · cases parsed
  · cases parsed

theorem Module.parse_ok {text : String} {m : Module} (parsed : Module.parse text = .ok m) :
    ∃ hashbang span ds ss, m.tree = .mk (.program hashbang) span [.group ds, .group ss] := by
  unfold Module.parse at parsed
  simp only at parsed
  split at parsed
  · cases parsed
  next tree s read =>
    split at parsed
    · cases parsed
    · split at parsed
      · cases parsed
      · cases parsed
        exact ⟨_, Grammar.programNode_ok read⟩

namespace Rebuilt

variable {o : Options} {path source : String} {out : Output} (r : Rebuilt o path source out)

def forwards : Bool := Instance.forwards r.parts.parameters

def isArrow : Bool :=
  match r.written.kind with
  | .arrow _ => true
  | _ => false

def bodyIndex : Nat := if r.isArrow then 3 else 5

def setup : Node :=
  let userBody := r.parts.body.withStatements .body r.body.statements
  match r.written.kind with
  | .function info =>
    .functionNamed Instance.setupName r.parts.parameters info.async info.generator userBody
  | .arrow info => .functionNamed Instance.setupName r.parts.parameters info.async false userBody
  | _ => .absent

def bodyNode : Node := Instance.body r.promotion r.body.seeds r.forwards r.setup

inductive Form : Prop where
  | function (info : FunctionInfo) (index : r.bodyIndex = 5)
      (whole : r.generated = .mk (.function info) r.written.span
        [r.written.part 0, r.written.part 1, r.written.part 2, Instance.parameters r.forwards,
          r.written.part 4, r.bodyNode])
  | arrow (info : ArrowInfo) (index : r.bodyIndex = 3)
      (whole : r.generated = .mk (.arrow info) r.written.span
        [r.written.part 0, Instance.parameters r.forwards, r.written.part 2, r.bodyNode])

theorem form : r.Form := by
  have isComponent := r.isComponent
  have component := r.isComponent
  unfold Node.componentParts? at component
  split at component
  next info kind =>
    have same := Option.some.inj component
    refine .function { info with async := false, generator := false } ?_ ?_
    · simp [bodyIndex, isArrow, kind]
    · simp only [generated, rebuildFunction, isComponent, Instance.rebuild, kind, bodyNode, forwards,
        setup, ← same]
  next info kind =>
    have same := Option.some.inj component
    refine .arrow { info with async := false, expression := false } ?_ ?_
    · simp [bodyIndex, isArrow, kind]
    · simp only [generated, rebuildFunction, isComponent, Instance.rebuild, kind, bodyNode, forwards,
        setup, ← same]
  next => cases component

theorem setup_eq : ∃ async generator, r.setup =
    .functionNamed Instance.setupName r.parts.parameters async generator
      (.mk .body r.parts.body.span [r.parts.body.part 0, .group r.body.statements]) := by
  have component := r.isComponent
  unfold Node.componentParts? at component
  split at component
  next info kind =>
    refine ⟨info.async, info.generator, ?_⟩
    simp only [setup, kind]
    rfl
  next info kind =>
    refine ⟨info.async, false, ?_⟩
    simp only [setup, kind]
    rfl
  next => cases component

theorem lexicalNames_setup : r.setup.lexicalNames = [Instance.setupName] := by
  obtain ⟨async, generator, same⟩ := r.setup_eq
  rw [same]
  rfl

theorem body_stands : r.generated.parts[r.bodyIndex]? = some r.bodyNode := by
  cases r.form with
  | function _ index whole =>
    rw [whole, index]
    rfl
  | arrow _ index whole =>
    rw [whole, index]
    rfl

theorem generated_parts {i : Nat} {p : Node} (part : r.generated.parts[i]? = some p) :
    (∃ j, p = r.written.part j) ∨ p = Instance.parameters r.forwards ∨
      i = r.bodyIndex ∧ p = r.bodyNode := by
  cases r.form with
  | function _ index whole =>
    rw [whole, Node.parts_mk] at part
    rcases i with _ | _ | _ | _ | _ | _ | i <;> simp at part <;> subst part
    · exact .inl ⟨_, rfl⟩
    · exact .inl ⟨_, rfl⟩
    · exact .inl ⟨_, rfl⟩
    · exact .inr (.inl rfl)
    · exact .inl ⟨_, rfl⟩
    · exact .inr (.inr ⟨index.symm, rfl⟩)
  | arrow _ index whole =>
    rw [whole, Node.parts_mk] at part
    rcases i with _ | _ | _ | _ | i <;> simp at part <;> subst part
    · exact .inl ⟨_, rfl⟩
    · exact .inr (.inl rfl)
    · exact .inl ⟨_, rfl⟩
    · exact .inr (.inr ⟨index.symm, rfl⟩)

theorem bound_by_generated {y : String} (known : y ∈ componentNames r.forwards) (rest : Place) :
    y ∈ r.generated.binds (r.bodyIndex :: rest) := by
  have bound : y ∈ Node.parameterBound (Instance.parameters r.forwards) ++
      Node.functionNames r.bodyNode.statements :=
    Instance.bound_of_componentNames r.lexicalNames_setup known
  cases r.form with
  | function info index whole =>
    rw [whole, index]
    simp [Node.binds, Node.functionBinds, Node.isDecoratorWay, Node.part] at bound ⊢
    grind
  | arrow info index whole =>
    rw [whole, index]
    exact bound

theorem marked_code {bound : List String} :
    ∀ n ∈ r.code, n.Marked bound (hookNames ++ componentNames r.forwards) := by
  intro n member
  refine Node.marked_split.mpr fun piece split => ?_
  obtain ⟨step, inSteps, emits⟩ := r.step_of_emitted (List.mem_flatMap.mpr ⟨n, member, split⟩)
  have applied : ∀ a, ((r.substitution a).apply [] step.code).Marked bound
      (hookNames ++ componentNames r.forwards) := fun a =>
    Substitution.marked_apply _ (Instance.root_mem a r.forwards) (r.clean_step inSteps)
  have slot : ∀ (a : RecordAccess) x, (a.slot x).Marked bound
      (hookNames ++ componentNames r.forwards) := fun a x =>
    a.marked_slot x (Instance.root_mem a r.forwards)
  cases emits with
  | moved x span value => exact Node.marked_assigned.mpr ⟨slot .viaRef x, applied .viaRef⟩
  | assigned x span value => exact Node.marked_assigned.mpr ⟨slot .direct x, applied .direct⟩
  | kept m => exact applied .direct

theorem seed_in_code {seed : Seed} (member : seed ∈ r.body.seeds) :
    RecordAccess.viaRef.assignment .nowhere seed.name seed.value ∈ r.code := by
  rw [r.code_eq]
  exact List.mem_append_left _ (List.mem_map_of_mem member)

theorem statement_in_code {n : Node} (member : n ∈ r.body.statements) : n ∈ r.code := by
  rw [r.code_eq]
  exact List.mem_append_right _ member

theorem clean_parameters : r.parts.parameters.Clean ∧ (r.parts.body.part 0).Clean := by
  have component := r.isComponent
  have clean := r.clean_written
  unfold Node.componentParts? at component
  split at component
  · rw [← Option.some.inj component]
    exact ⟨clean.part 3, (clean.part 5).part 0⟩
  · rw [← Option.some.inj component]
    exact ⟨clean.part 1, (clean.part 3).part 0⟩
  · cases component

theorem fits_setup : r.setup.Fits r.forwards := by
  obtain ⟨parameters, directives⟩ := r.clean_parameters
  obtain ⟨async, generator, same⟩ := r.setup_eq
  have name : (Node.boundName Instance.setupName).Fits r.forwards := by
    refine Node.marked_of_all ?_
    cases r.forwards <;> decide +kernel
  have nothing : Node.absent.Fits r.forwards := Node.marked_of_all rfl
  have userBody : (Node.mk .body r.parts.body.span [r.parts.body.part 0,
      .group r.body.statements]).Fits r.forwards :=
    Node.marked_body.mpr ⟨directives.marked, fun n member =>
      r.marked_code n (r.statement_in_code member)⟩
  rw [same, Node.Fits, Node.functionNamed, Node.functionWith, Node.generated, Node.marked_iff_parts]
  refine ⟨rfl, ?_⟩
  simpa using ⟨name, nothing, parameters.marked, nothing, userBody⟩

theorem fits_generated : r.generated.Fits r.forwards := by
  have own : r.generated.isMarked (componentNames r.forwards)
      (hookNames ++ componentNames r.forwards) = true := by
    cases r.form with
    | function _ _ whole =>
      rw [whole]
      rfl
    | arrow _ _ whole =>
      rw [whole]
      rfl
  refine Node.marked_iff_parts.mpr ⟨own, fun p member => ?_⟩
  obtain ⟨i, part⟩ := List.mem_iff_getElem?.mp member
  rcases r.generated_parts part with ⟨j, rfl⟩ | rfl | ⟨_, rfl⟩
  · exact (r.clean_written.part j).marked
  · exact (Instance.marked_parameters r.forwards).mono (fun _ => id) (by simp)
  · refine Instance.fits_body (fun seed member => ?_) r.fits_setup
    exact (Node.marked_assigned.mp (r.marked_code _ (r.seed_in_code member))).2

theorem hidesReserved_setup :
    r.setup.HidesReserved ↔ ∃ n ∈ r.body.statements, n.HidesReserved := by
  obtain ⟨parameters, directives⟩ := r.clean_parameters
  obtain ⟨async, generator, same⟩ := r.setup_eq
  have unreserved : ∀ way, ∀ y ∈ r.setup.binds way, isReserved y = false := by
    intro way y bound
    rw [same] at bound
    rcases Node.binds_cases bound with declared | member
    · change y ∈ "arguments" :: ([] ++ Node.parameterBound r.parts.parameters
        ++ Node.functionNames r.body.statements) at declared
      simp only [List.nil_append, List.mem_cons, List.mem_append] at declared
      rcases declared with rfl | bound | declared
      · exact isReserved_arguments
      · exact parameters.hasBinding (Node.hasBinding_of_parameterBound bound)
      · obtain ⟨n, member, l, below, binds⟩ := Node.hasBinding_of_functionNames declared
        refine Bool.eq_false_iff.mpr fun reserved => ?_
        have marked : n.Marked [] (hookNames ++ componentNames r.forwards) :=
          r.marked_code n (r.statement_in_code member)
        cases (marked.binding below binds reserved).2
    · cases member
  have name : ¬ (Node.boundName Instance.setupName).HidesReserved :=
    Node.not_hidesReserved_of_quiet (by decide +kernel)
  rw [Node.hidesReserved_iff_parts unreserved, same]
  simp [Node.functionNamed, Node.functionWith, Node.generated, name, Node.not_hidesReserved_absent,
    parameters.not_hidesReserved, Node.hidesReserved_body, directives.not_hidesReserved]

theorem hidesReserved_bodyNode : r.bodyNode.HidesReserved ↔ ∃ n ∈ r.code, n.HidesReserved := by
  rw [bodyNode, Instance.hidesReserved_body, Instance.hidesReserved_creation, r.hidesReserved_setup]
  constructor
  · rintro ((⟨slot, inRecord, hides⟩ | ⟨n, seeded, hides⟩) | ⟨n, member, hides⟩)
    · rcases Instance.mem_recordSlots inRecord with ⟨seed, member, same⟩ | fixed
      · rw [same, ← RecordAccess.viaRef.hidesReserved_assignment seed.name .nowhere] at hides
        exact ⟨_, r.seed_in_code member, hides⟩
      · exact (Node.not_hidesReserved_of_quiet (Instance.quiet_plainValues _ fixed) hides).elim
    · obtain ⟨seed, member, rfl⟩ := List.mem_map.mp seeded
      exact ⟨_, r.seed_in_code (List.mem_of_mem_filter member), hides⟩
    · exact ⟨n, r.statement_in_code member, hides⟩
  · rintro ⟨n, member, hides⟩
    rw [code, generated, Instance.recordCode_rebuilt r.isComponent,
      Instance.seedCode_rebuilt r.isComponent, Instance.setupCode_rebuilt r.isComponent,
      List.mem_append, List.mem_append] at member
    rcases member with (inRecord | seeded) | inSetup
    · obtain ⟨slot, early, rfl⟩ := List.mem_map.mp inRecord
      exact .inl (.inl ⟨slot, List.mem_of_mem_filter early,
        (RecordAccess.hidesReserved_assignment _ _ _ _).mp hides⟩)
    · exact .inl (.inr ⟨n, seeded, hides⟩)
    · exact .inr ⟨n, inSetup, hides⟩

structure Layout where
  hashbang : Option String
  span : Span
  directives : List Node
  statements : List Node
  index : Nat
  statement : Node        -- the one that the component stands in
  rest : Place
  whole : r.read.tree = .mk (.program hashbang) span [.group directives, .group statements]
  place : r.place = 1 :: index :: rest
  stands : statements[index]? = some statement
  isOpen : statement.isOpenWay rest = true
  inside : statement.atPlace? rest = some r.written

theorem layout : Nonempty r.Layout := by
  obtain ⟨hashbang, span, ds, ss, whole⟩ := Module.parse_ok r.parsed
  obtain ⟨i, statement, rest, place, stands, isOpen⟩ := Site.find?_at r.found
  rw [whole] at stands
  have stands : ss[i]? = some statement := stands
  have inside := r.stands
  rw [whole, place] at inside
  have inside : statement.atPlace? rest = some r.written := by
    simpa [Node.atPlace?_cons, Node.group, stands] using inside
  exact ⟨⟨hashbang, span, ds, ss, i, statement, rest, whole, place, stands, isOpen, inside⟩⟩

-- The component stands one statement further down in the output, behind the import.
def componentPlace : Place :=
  match r.place with
  | i :: j :: rest => i :: (j + 1) :: rest
  | place => place

namespace Layout

variable {r} (l : r.Layout)

theorem componentPlace : r.componentPlace = 1 :: (l.index + 1) :: l.rest := by
  rw [Rebuilt.componentPlace, l.place]

theorem tree : r.tree = .mk (.program l.hashbang) l.span [.group l.directives,
    .group (Instance.hostImport o.target.hostModule ::
      l.statements.modify l.index fun n => n.updateAt (rebuildFunction r.body) l.rest)] := by
  rw [Rebuilt.tree, rebuildProgram, l.whole, l.place]
  rfl

theorem statement_rebuilt : (r.tree.part 1).parts[l.index + 1]? =
    some (l.statement.updateAt (rebuildFunction r.body) l.rest) := by
  rw [l.tree]
  simp [Node.part, Node.group, l.stands]

-- Nothing is bound between the program and the component.
theorem boundOnWay_component (place : Place) :
    (r.tree.part 1).boundOnWay ((l.index + 1) :: (l.rest ++ place)) =
      r.generated.boundOnWay place := by
  have stands := Node.atPlace?_updateAt l.inside (rebuildFunction r.body) []
  rw [List.append_nil] at stands
  have group : ∀ way, (r.tree.part 1).binds way = [] := by
    rw [l.tree]
    exact fun _ => rfl
  rw [Node.boundOnWay, Node.part_of_getElem? l.statement_rebuilt, group, List.append_nil]
  exact Node.boundOnWay_of_isOpenWay ((Node.isOpenWay_updateAt l.inside _).trans l.isOpen) stands

end Layout

theorem atPlace?_later (j : Nat) (place : Place) : r.tree.atPlace? (1 :: (j + 1) :: place) =
    (r.read.tree.updateAt (rebuildFunction r.body) r.place).atPlace? (1 :: j :: place) := by
  obtain ⟨l⟩ := r.layout
  rw [l.tree, l.whole, l.place]
  rfl

theorem atPlace?_component (place : Place) :
    r.tree.atPlace? (r.componentPlace ++ place) = r.generated.atPlace? place := by
  obtain ⟨l⟩ := r.layout
  have stands := r.stands
  rw [l.componentPlace, List.cons_append, List.cons_append, r.atPlace?_later]
  rw [l.place] at stands ⊢
  exact Node.atPlace?_updateAt stands (rebuildFunction r.body) place

theorem component_stands : r.tree.atPlace? r.componentPlace = some r.generated := by
  have stands := r.atPlace?_component []
  rwa [List.append_nil] at stands

-- Where a node of the output comes from: it is one of the program that was read, but for what is
-- below it, or it belongs to the import or to the generated component.
theorem regions {place : Place} {m : Node} (stands : r.tree.atPlace? place = some m) :
    (∃ m' ∈ r.read.tree.preorder, m.kind = m'.kind) ∨
      m ∈ (Instance.hostImport o.target.hostModule).preorder ∨
      ∃ below, place = r.componentPlace ++ below ∧ r.generated.atPlace? below = some m := by
  obtain ⟨l⟩ := r.layout
  have same : ∀ {e n}, r.read.tree.atPlace? e = some n → m.kind = n.kind →
      ∃ m' ∈ r.read.tree.preorder, m.kind = m'.kind := fun found kind =>
    ⟨_, Node.mem_preorder_of_atPlace? found, kind⟩
  match place with
  | [] =>
    cases stands
    refine .inl ⟨r.read.tree, Node.self_mem_preorder _, ?_⟩
    rw [l.tree, l.whole]
    rfl
  | 0 :: rest =>
    rw [l.tree] at stands
    refine .inl (same (e := 0 :: rest) ?_ rfl)
    rw [l.whole]
    exact stands
  | [1] =>
    rw [l.tree] at stands
    cases stands
    refine .inl (same (e := [1]) (n := .group l.statements) ?_ rfl)
    rw [l.whole]
    rfl
  | 1 :: 0 :: rest =>
    rw [l.tree] at stands
    exact .inr (.inl (Node.mem_preorder_of_atPlace? stands))
  | 1 :: (j + 1) :: rest =>
    rw [r.atPlace?_later] at stands
    by_cases within : r.place <+: 1 :: j :: rest
    · obtain ⟨below, split⟩ := within
      refine .inr (.inr ⟨below, ?_, ?_⟩)
      · rw [l.place] at split
        rw [l.componentPlace]
        cases split
        rfl
      · rw [← split, Node.atPlace?_updateAt r.stands] at stands
        exact stands
    · obtain ⟨m', found, kind⟩ := Node.atPlace?_updateAt_other within stands
      exact .inl (same found kind)
  | (i + 2) :: rest =>
    rw [l.tree] at stands
    cases stands

end Rebuilt

end Rsx
