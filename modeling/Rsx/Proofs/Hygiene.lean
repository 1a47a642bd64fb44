import Rsx.Proofs.Layout

set_option autoImplicit false

namespace Rsx

namespace Rebuilt

variable {o : Options} {path source : String} {out : Output} (r : Rebuilt o path source out)
  {place : Place} {m : Node} {y : String}

theorem reserved_marked (stands : r.tree.atPlace? place = some m)
    (names : m.binding? = some y ∨ m.reference? = some y) (reserved : isReserved y = true) :
    m.span = .nowhere ∧ y ∈ hookNames ++ componentNames r.forwards := by
  rcases r.regions stands with ⟨m', below, kind⟩ | below | ⟨rest, _, stands⟩
  · have clean := r.clean.below below
    have unreserved : isReserved y = false := by
      rcases names with binds | refers
      · exact clean.binding (by simpa [Node.binding?, kind] using binds)
      · exact clean.reference (by simpa [Node.reference?, kind] using refers)
    simp [unreserved] at reserved
  · have marked := Instance.marked_hostImport o.target.hostModule
    rcases names with binds | refers
    · obtain ⟨span, hook⟩ := marked.binding below binds reserved
      exact ⟨span, List.mem_append_left _ hook⟩
    · cases (marked.reference below refers reserved).2
  · have below := Node.mem_preorder_of_atPlace? stands
    rcases names with binds | refers
    · obtain ⟨span, own⟩ := r.fits_generated.binding below binds reserved
      exact ⟨span, List.mem_append_right _ own⟩
    · exact r.fits_generated.reference below refers reserved

theorem reserved_in_body (stands : r.tree.atPlace? place = some m)
    (refers : m.reference? = some y) (reserved : isReserved y = true) :
    ∃ rest, place = r.componentPlace ++ r.bodyIndex :: rest ∧ r.bodyNode.atPlace? rest = some m := by
  rcases r.regions stands with ⟨m', below, kind⟩ | below | ⟨rest, split, stands⟩
  · have unreserved := (r.clean.below below).reference (x := y)
      (by simpa [Node.reference?, kind] using refers)
    simp [unreserved] at reserved
  · cases ((Instance.marked_hostImport o.target.hostModule).reference below refers reserved).2
  · cases rest with
    | nil =>
      cases stands
      cases r.form with
      | function _ _ whole =>
        rw [whole] at refers
        cases refers
      | arrow _ _ whole =>
        rw [whole] at refers
        cases refers
    | cons i rest =>
      obtain ⟨p, part, below⟩ := Node.atPlace?_cons_some.mp stands
      have inside := Node.mem_preorder_of_atPlace? below
      rcases r.generated_parts part with ⟨j, rfl⟩ | rfl | ⟨rfl, rfl⟩
      · have unreserved := ((r.clean_written.part j).below inside).reference refers
        simp [unreserved] at reserved
      · cases ((Instance.marked_parameters r.forwards).reference inside refers reserved).2
      · exact ⟨rest, split, below⟩

def homeOf (y : String) : Place := if y ∈ hookNames then [] else r.componentPlace

theorem generated_home {back inner : Place} (found : r.generated.home? y back = some inner) :
    r.tree.home? y (r.componentPlace ++ back) = some (r.componentPlace ++ inner) := by
  exact Node.home?_append r.component_stands found

-- The component binds none of the hooks, so they are found around it.
theorem hook_home {rest : Place} (hook : y ∈ hookNames) (free : y ∉ r.bodyNode.boundOnWay rest) :
    r.tree.home? y (r.componentPlace ++ r.bodyIndex :: rest) = some [] := by
  have reserved := isReserved_hook hook
  have unbound : y ∉ r.generated.binds (r.bodyIndex :: rest) := by
    intro bound
    rcases Node.binds_cases bound with declared | member
    · rcases Node.hasBinding_of_declaresBelow declared with rfl | ⟨l, below, binds⟩
      · simp [isReserved_arguments] at reserved
      · exact componentName_not_hook (r.fits_generated.binding below binds reserved).2 hook
    · cases r.form with
      | function _ _ whole =>
        rw [whole] at member
        cases member
      | arrow _ _ whole =>
        rw [whole] at member
        cases member
  have free : y ∉ r.generated.boundOnWay (r.bodyIndex :: rest) := by
    rw [Node.boundOnWay, Node.part_of_getElem? r.body_stands, List.mem_append]
    exact not_or.mpr ⟨free, unbound⟩
  have imported : y ∈ (Instance.hostImport o.target.hostModule).lexicalNames := hook
  obtain ⟨l⟩ := r.layout
  rw [l.componentPlace, List.cons_append, List.cons_append]
  refine Node.home?_here ?_ ?_
  · rwa [l.boundOnWay_component]
  · rw [l.tree]
    exact List.mem_append_left _ (List.mem_flatMap.mpr ⟨_, List.mem_cons_self, imported⟩)

theorem home_of_seen {rest : Place} (known : y ∈ hookNames ++ componentNames r.forwards)
    (free : y ∉ r.bodyNode.boundOnWay rest) :
    r.tree.home? y (r.componentPlace ++ r.bodyIndex :: rest) = some (r.homeOf y) := by
  rcases List.mem_append.mp known with hook | own
  · rw [homeOf, if_pos hook]
    exact r.hook_home hook free
  · have here : r.generated.home? y (r.bodyIndex :: rest) = some [] := by
      refine Node.home?_here ?_ (r.bound_by_generated own rest)
      rwa [Node.part_of_getElem? r.body_stands]
    rw [homeOf, if_neg (componentName_not_hook own), r.generated_home here, List.append_nil]

theorem home_of_hidden {rest : Place} (hidden : y ∈ r.bodyNode.boundOnWay rest) :
    r.tree.home? y (r.componentPlace ++ r.bodyIndex :: rest) ≠ some (r.homeOf y) := by
  cases found : r.bodyNode.home? y rest with
  | none => exact (Node.home?_eq_none.mp found hidden).elim
  | some inner =>
    have below : r.generated.home? y (r.bodyIndex :: rest) = some (r.bodyIndex :: inner) :=
      Node.home?_of_part (by rwa [Node.part_of_getElem? r.body_stands])
    rw [r.generated_home below]
    unfold homeOf
    split <;> simp

def ResolvesReserved : Prop :=
  ∀ place m y, r.tree.atPlace? place = some m → m.reference? = some y → isReserved y = true →
    r.tree.home? y place = some (r.homeOf y)

theorem resolvesReserved_iff : r.ResolvesReserved ↔ ¬ ∃ n ∈ r.code, n.HidesReserved := by
  rw [← r.hidesReserved_bodyNode]
  constructor
  · rintro resolves ⟨rest, m, stands, y, refers, reserved, hidden⟩
    refine r.home_of_hidden hidden (resolves _ m y ?_ refers reserved)
    rw [r.atPlace?_component, Node.atPlace?_cons_some]
    exact ⟨_, r.body_stands, stands⟩
  · intro unhidden place m y stands refers reserved
    obtain ⟨rest, rfl, inside⟩ := r.reserved_in_body stands refers reserved
    refine r.home_of_seen (r.reserved_marked stands (.inr refers) reserved).2 fun hidden => ?_
    exact unhidden ⟨rest, m, inside, y, refers, reserved, hidden⟩

def Overshadows (a : RecordAccess) (step : Step) : Prop :=
  ∃ x ∈ r.promotion.names, ∃ place, step.code.Overshadowed a.root x place

theorem hidesReserved_apply {step : Step} (member : step ∈ r.steps) (a : RecordAccess) :
    ((r.substitution a).apply [] step.code).HidesReserved ↔ r.Overshadows a step := by
  rw [Substitution.hidesReserved_apply _ (r.clean_step member)]
  constructor
  · rintro ⟨x, place, replaces, hidden⟩
    exact ⟨x, Substitution.promoted_of_replaces _ replaces, place, hidden⟩
  · rintro ⟨x, promoted, place, hidden⟩
    exact ⟨x, place, r.replaces promoted a, hidden⟩

theorem hidesReserved_inPlace {step : Step} (member : step ∈ r.steps) :
    ((r.substitution .direct).apply [] step.inPlace).HidesReserved ↔ r.Overshadows .direct step := by
  rw [← r.hidesReserved_apply member .direct]
  cases step with
  | set x span value =>
    rw [Step.inPlace, Substitution.apply_assignment, RecordAccess.hidesReserved_assignment]
    rfl
  | keep n => rfl

theorem hidesReserved_pieces :
    (∃ n ∈ r.code, n.HidesReserved) ↔ ∃ n ∈ r.code.flatMap Node.split, n.HidesReserved := by
  constructor
  · rintro ⟨n, member, hides⟩
    obtain ⟨piece, split, hides⟩ := Node.hidesReserved_split.mp hides
    exact ⟨piece, List.mem_flatMap.mpr ⟨n, member, split⟩, hides⟩
  · rintro ⟨piece, member, hides⟩
    obtain ⟨n, member, split⟩ := List.mem_flatMap.mp member
    exact ⟨n, member, Node.hidesReserved_split.mpr ⟨piece, split, hides⟩⟩

-- Values that are moved reach the record through its reference, all other code by its own name.
theorem hidesReserved_code : ∃ opening rest, r.steps = opening ++ rest ∧
    (∀ step ∈ opening, step.opens = true) ∧
    (PromotedBody.taken r.promotion r.parts.body.statements).2.map Seed.assigned =
      opening.filterMap Step.assigned? ∧
    ((∃ n ∈ r.code, n.HidesReserved) ↔
      (∃ step ∈ opening.filter (·.isSet), r.Overshadows .viaRef step) ∨
        ∃ step ∈ opening.filter (!·.isSet) ++ rest, r.Overshadows .direct step) := by
  obtain ⟨opening, rest, whole, opens, moved, pieces⟩ := r.pieces
  refine ⟨opening, rest, whole, opens, moved, ?_⟩
  have later : ∀ step ∈ opening.filter (!·.isSet) ++ rest, step ∈ r.steps := by
    intro step member
    rw [whole]
    simp only [List.mem_append, List.mem_filter] at member ⊢
    exact member.imp_left And.left
  rw [r.hidesReserved_pieces, pieces, Step.kept_inPlace, ← List.map_append, List.map_map]
  constructor
  · rintro ⟨n, member, hides⟩
    rcases List.mem_append.mp member with moved | stays
    · obtain ⟨pair, assigns, rfl⟩ := List.mem_map.mp moved
      obtain ⟨step, inOpening, assigned⟩ := List.mem_filterMap.mp assigns
      cases step with
      | keep n => cases assigned
      | set x span value =>
        cases assigned
        have inSteps : .set x span value ∈ r.steps := whole ▸ List.mem_append_left _ inOpening
        refine .inl ⟨_, List.mem_filter.mpr ⟨inOpening, rfl⟩, ?_⟩
        rw [RecordAccess.hidesReserved_assignment] at hides
        exact (r.hidesReserved_apply inSteps .viaRef).mp hides
    · obtain ⟨step, among, rfl⟩ := List.mem_map.mp stays
      exact .inr ⟨step, among, (r.hidesReserved_inPlace (later step among)).mp hides⟩
  · rintro (⟨step, member, hides⟩ | ⟨step, member, hides⟩)
    · obtain ⟨inOpening, isSet⟩ := List.mem_filter.mp member
      cases step with
      | keep n => cases isSet
      | set x span value =>
        have inSteps : .set x span value ∈ r.steps := whole ▸ List.mem_append_left _ inOpening
        refine ⟨_, List.mem_append_left _ (List.mem_map_of_mem (a := (x, value)) ?_), ?_⟩
        · exact List.mem_filterMap.mpr ⟨_, inOpening, rfl⟩
        · rw [RecordAccess.hidesReserved_assignment]
          exact (r.hidesReserved_apply inSteps .viaRef).mpr hides
    · exact ⟨_, List.mem_append_right _ (List.mem_map_of_mem member),
        (r.hidesReserved_inPlace (later step member)).mpr hides⟩

def setupPlace : Place := r.componentPlace ++ [r.bodyIndex, 1, 9]

theorem setup_stands : r.tree.atPlace? r.setupPlace = some r.setup := by
  rw [setupPlace, r.atPlace?_component, Node.atPlace?_cons_some]
  exact ⟨r.bodyNode, r.body_stands, rfl⟩

def declaredInSetup : Place → List String
  | 5 :: _ => Node.parameterBound r.parts.parameters ++ Node.functionNames r.body.statements
  | _ => Node.parameterBound r.parts.parameters

-- The setup function has `arguments` of its own, which an arrow has not.
structure TakesArguments (place home : Place) (y : String) : Prop where
  isArrow : r.isArrow = true
  implicit : y = "arguments"
  setup : home = r.setupPlace
  undeclared : ∃ way, place = r.setupPlace ++ way ∧ y ∉ r.declaredInSetup way

def Introduced (place home : Place) (y : String) : Prop :=
  home = [] ∧ y ∈ hookNames ∨ home = r.componentPlace ∧ y ∈ componentNames r.forwards ∨
    (∃ b, r.tree.atPlace? home = some b ∧ ∀ m ∈ b.preorder, m.span = .nowhere) ∨
    r.TakesArguments place home y

theorem takesArguments_of_introduced {home : Place} (stands : r.tree.atPlace? place = some m)
    (refers : m.reference? = some y) (written : m.span ≠ .nowhere)
    (found : r.tree.home? y place = some home) (introduced : r.Introduced place home y) :
    r.TakesArguments place home y := by
  have unreserved : isReserved y ≠ true := fun reserved =>
    written (r.reserved_marked stands (.inr refers) reserved).1
  rcases introduced with ⟨_, hook⟩ | ⟨_, own⟩ | ⟨b, generated, nowhere⟩ | takes
  · exact (unreserved (isReserved_hook hook)).elim
  · exact (unreserved (isReserved_componentName own)).elim
  · obtain ⟨b', i, rest, same, below, _⟩ := Node.home?_split stands found
    cases generated.symm.trans same
    exact (written (nowhere m (Node.mem_preorder_of_atPlace? below))).elim
  · exact takes

-- The code of an arrow refers to `arguments` that neither it nor a function in it has.
def MeansArguments : Prop :=
  r.isArrow = true ∧ ∃ way m, r.setup.atPlace? way = some m ∧ m.reference? = some "arguments" ∧
    m.span ≠ .nowhere ∧ r.setup.home? "arguments" way = some [] ∧
    "arguments" ∉ r.declaredInSetup way

theorem introduced_iff :
    (∃ place m y home, r.tree.atPlace? place = some m ∧ m.reference? = some y ∧
      m.span ≠ .nowhere ∧ r.tree.home? y place = some home ∧ r.Introduced place home y) ↔
    r.MeansArguments := by
  constructor
  · rintro ⟨place, m, y, home, stands, refers, written, found, introduced⟩
    obtain ⟨isArrow, rfl, rfl, way, rfl, undeclared⟩ :=
      r.takesArguments_of_introduced stands refers written found introduced
    obtain ⟨b, i, rest, same, below, split, here⟩ := Node.home?_split stands found
    cases r.setup_stands.symm.trans same
    cases List.append_cancel_left split
    exact ⟨isArrow, _, m, below, refers, written, here, undeclared⟩
  · rintro ⟨isArrow, way, m, stands, refers, written, here, undeclared⟩
    have found := Node.home?_append r.setup_stands here
    rw [List.append_nil] at found
    refine ⟨r.setupPlace ++ way, m, "arguments", r.setupPlace, ?_, refers, written, found, ?_⟩
    · rw [Node.atPlace?_append, r.setup_stands]
      exact stands
    · exact .inr (.inr (.inr ⟨isArrow, rfl, rfl, way, rfl, undeclared⟩))

end Rebuilt

/-- Names with the reserved start are generated. They mean the generated variables unless a slot is
put where a member of an enumeration has the record's name, and a written name means no generated
variable unless it is the `arguments` around an arrow. -/
theorem generated_names_hygienic {o : Options} {path source : String} {out : Output}
    (compiled : (compile o path source).result = .ok out) (transformed : out.transformed = true) :
    ∃ r : Rebuilt o path source out,
      r.tree.atPlace? r.componentPlace = some r.generated ∧
      r.tree.atPlace? r.setupPlace = some r.setup ∧
      (∀ place m y, r.tree.atPlace? place = some m →
        m.binding? = some y ∨ m.reference? = some y → isReserved y = true →
          m.span = .nowhere ∧ y ∈ hookNames ++ componentNames r.forwards) ∧
      (∃ opening rest, r.steps = opening ++ rest ∧ (∀ step ∈ opening, step.opens = true) ∧
        (PromotedBody.taken r.promotion r.parts.body.statements).2.map Seed.assigned =
          opening.filterMap Step.assigned? ∧
        ((∀ place m y, r.tree.atPlace? place = some m → m.reference? = some y →
            isReserved y = true → r.tree.home? y place = some (r.homeOf y)) ↔
          (∀ step ∈ opening.filter (·.isSet), ¬ r.Overshadows .viaRef step) ∧
            ∀ step ∈ opening.filter (!·.isSet) ++ rest, ¬ r.Overshadows .direct step)) ∧
      ((∀ place m y home, r.tree.atPlace? place = some m → m.reference? = some y →
          m.span ≠ .nowhere → r.tree.home? y place = some home → ¬ r.Introduced place home y) ↔
        ¬ r.MeansArguments) := by
  obtain ⟨r⟩ := rebuilt_of_compile compiled transformed
  refine ⟨r, r.component_stands, r.setup_stands, ?_, ?_, ?_⟩
  · exact fun place m y stands names reserved => r.reserved_marked stands names reserved
  · obtain ⟨opening, rest, whole, opens, moved, hides⟩ := r.hidesReserved_code
    refine ⟨opening, rest, whole, opens, moved, r.resolvesReserved_iff.trans ?_⟩
    rw [hides]
    simp only [not_or, not_exists, not_and]
  · rw [← r.introduced_iff]
    simp only [not_exists, not_and]

-- `B` is set to a slot of the member `__rsx_instance`, not of the record.
def enumText : String :=
  "export default function A() \x7b let x = 1; enum E \x7b __rsx_instance = 5, B = x \x7d \x7d"

set_option maxRecDepth 100000 in
theorem generated_names_hygienic_enum :
    ∃ out, (compile .default "A.rsx" enumText).result = .ok out ∧ out.transformed = true ∧
      ∃ r : Rebuilt .default "A.rsx" enumText out, "x" ∈ r.promotion.names ∧
        (∃ step ∈ r.steps, step.code.Overshadowed instanceName "x" [1, 1, 1]) ∧
        ¬ ∀ place m y, r.tree.atPlace? place = some m → m.reference? = some y →
          isReserved y = true → r.tree.home? y place = some (r.homeOf y) := by
  obtain ⟨out, compiled, transformed⟩ :=
    ok_of_isTransformed (compile .default "A.rsx" enumText).result (by decide +kernel)
  obtain ⟨r, _, _, _, ⟨opening, rest, whole, _, _, resolves⟩, _⟩ :=
    generated_names_hygienic compiled transformed
  have passes : rebuiltPasses (fun _ b steps => decide ("x" ∈ b.promotion.names ∧
      ∃ step ∈ steps, step.isSet = false ∧
        step.code.Overshadowed instanceName "x" [1, 1, 1])) enumText = true := by decide +kernel
  obtain ⟨promoted, step, member, kept, hidden⟩ := of_decide_eq_true (r.test_of_passes passes)
  refine ⟨out, compiled, transformed, r, promoted, ⟨step, member, hidden⟩, fun all => ?_⟩
  have later : step ∈ opening.filter (!·.isSet) ++ rest := by
    have member : step ∈ opening ++ rest := whole ▸ member
    simp only [List.mem_append, List.mem_filter] at member ⊢
    exact member.imp_left fun inOpening => ⟨inOpening, by simp [kept]⟩
  exact (resolves.mp all).2 step later ⟨"x", promoted, _, hidden⟩

end Rsx
