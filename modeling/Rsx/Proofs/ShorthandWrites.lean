import Rsx.Proofs.Refusals

set_option autoImplicit false

namespace Rsx

structure ShorthandWrite (statements : List Node) (n : Node) (x : String) (place : Place) : Prop where
  member : n ∈ statements
  writes : ∃ m, n.atPlace? place = some m ∧ m.kind = .targetShorthand ∧
    (m.part 0).reference? = some x

variable {o : Options} {path source : String} {m : Module} {place : Place} {parts : ComponentParts}
  {p : Promotion}

theorem exists_shorthandWrite {statements : List Node} {P : String → Prop} :
    (∃ n x place, ShorthandWrite statements n x place ∧ P x) ↔
      ∃ m ∈ Node.preorderList statements, m.kind = .targetShorthand ∧
        ∃ x, (m.part 0).reference? = some x ∧ P x := by
  rw [Node.preorderList_eq]
  constructor
  · rintro ⟨n, x, place, ⟨member, m, stands, shorthand, written⟩, holds⟩
    exact ⟨m, List.mem_flatMap.mpr ⟨n, member, Node.mem_preorder_of_atPlace? stands⟩, shorthand, x,
      written, holds⟩
  · rintro ⟨m, below, shorthand, x, written, holds⟩
    obtain ⟨n, member, below⟩ := List.mem_flatMap.mp below
    obtain ⟨place, stands⟩ := Node.exists_place_of_mem_preorder below
    exact ⟨n, x, place, ⟨member, m, stands, shorthand, written⟩, holds⟩

-- No promoted name is kept or reserved, so only what is around a name can save it from being replaced.
theorem Promotion.replaces_iff {parameters : Node} {shadowed : List String} {x : String}
    (sound : p.Sound (parameterNames parameters))
    (unreserved : ∀ x ∈ p.names, isReserved x = false) (a : RecordAccess) :
    (PromotedBody.substitution parameters p a).replaces shadowed x = true ↔
      x ∈ p.names ∧ x ∉ shadowed := by
  constructor
  · intro replaces
    refine ⟨Substitution.promoted_of_replaces _ replaces, fun hidden => ?_⟩
    rw [Substitution.replaces_eq] at replaces
    simp [hidden] at replaces
  · rintro ⟨promoted, seen⟩
    obtain ⟨free, other⟩ := sound.allowed x promoted
    simp [PromotedBody.substitution, Substitution.replaces, promoted, unreserved x promoted, free,
      other, seen]

theorem Offends.shorthand {b : PropsBinding} {n : Node} {problem : Located Problem}
    (offends : Offends b p n problem)
    (unwritten : ∀ path field offset, ¬Offends b p n ⟨.propsWrite path field, offset⟩) :
    ∃ x, problem = ⟨.shorthandWrite x, n.span.start⟩ ∧ n.kind = .targetShorthand ∧
      (n.part 0).reference? = some x ∧ x ∈ p.names := by
  cases offends with
  | propsWrite span member object key field front accessed reached touched =>
    exact absurd (.propsWrite span member object key field front accessed reached touched)
      (unwritten _ _ _)
  | shorthandWrite n x shorthand written promoted => exact ⟨x, rfl, shorthand, written, promoted⟩

theorem exists_firstOffence?_shorthand {b : PropsBinding} {statements : List Node}
    (unwritten : ∀ n ∈ Node.preorderList statements, ∀ path field offset,
      ¬Offends b p n ⟨.propsWrite path field, offset⟩) :
    (∃ problem, firstOffence? b p statements = some problem) ↔
      ∃ n x place, ShorthandWrite statements n x place ∧ x ∈ p.names := by
  rw [exists_firstOffence?, exists_shorthandWrite]
  constructor
  · rintro ⟨m, below, problem, offends⟩
    obtain ⟨x, -, shorthand, written, promoted⟩ := offends.shorthand (unwritten m below)
    exact ⟨m, below, shorthand, x, written, promoted⟩
  · rintro ⟨m, below, shorthand, x, written, promoted⟩
    exact ⟨m, below, _, .shorthandWrite m x shorthand written promoted⟩

/-- A body that writes nothing through props is refused for the names of its shorthand writes. All
of them that would be replaced are among these, and it is refused for no other exactly if a promoted
name that is not hidden is written whenever any promoted name is. -/
theorem shorthand_writes_refused (has : HasComponent o path source m place parts)
    (allowed : checkNames o.target m.tree = .ok ())
    (scanned : Promotion.scan (parameterNames parts.parameters) parts.body.statements = .ok p)
    (unwritten : ∀ n ∈ Node.preorderList parts.body.statements, ∀ path field offset,
      ¬Offends parts.props p n ⟨.propsWrite path field, offset⟩) (a : RecordAccess) :
    let checked := (checkBody parts.props p parts.body.statements []).1
    let result := (compile o path source).result
    let writes := ShorthandWrite parts.body.statements
    let hidden := fun (n : Node) (place : Place) => n.hiddenOnWay (place ++ [0])
    let replaced := fun n x place =>
      (PromotedBody.substitution parts.parameters p a).replaces (hidden n place) x = true
    ((∃ problem, checked = .error problem) ↔ ∃ n x place, writes n x place ∧ x ∈ p.names) ∧
      (∀ problem, checked = .error problem → (∃ x, problem.what = .shorthandWrite x) ∧
        ∃ d, result = .error d ∧ d.code = "RSX-E005") ∧
      (checked = .ok () → ∃ out, result = .ok out ∧ out.transformed = true) ∧
      (∀ n x place, replaced n x place ↔ x ∈ p.names ∧ x ∉ hidden n place) ∧
      (((∃ problem, checked = .error problem) ↔ ∃ n x place, writes n x place ∧ replaced n x place) ↔
        ((∃ n x place, writes n x place ∧ x ∈ p.names) →
          ∃ n x place, writes n x place ∧ x ∈ p.names ∧ x ∉ hidden n place)) := by
  intro checked result writes hidden replaced
  have unreserved := PromotedBody.unreserved_of_scan scanned (has.clean_statements allowed)
  have rule (n : Node) (x : String) (place : Place) :
      replaced n x place ↔ x ∈ p.names ∧ x ∉ hidden n place :=
    Promotion.replaces_iff (Promotion.sound_of_scan scanned) unreserved a
  have failed (problem : Located Problem) : checked = .error problem ↔
      firstOffence? parts.props p parts.body.statements = some problem := by
    cases first : firstOffence? parts.props p parts.body.statements <;>
      simp [checked, checkBody_eq, first]
  have refused : (∃ problem, checked = .error problem) ↔
      ∃ n x place, writes n x place ∧ x ∈ p.names := by
    simp only [failed]
    exact exists_firstOffence?_shorthand unwritten
  refine ⟨refused, ?_, ?_, rule, ?_⟩
  · intro problem fails
    have first := (failed problem).mp fails
    obtain ⟨before, n, after, split, offends, -⟩ := firstOffence?_eq_some.mp first
    have below : n ∈ Node.preorderList parts.body.statements := by simp [split]
    obtain ⟨x, rfl, -⟩ := offends.shorthand (unwritten n below)
    exact ⟨⟨x, rfl⟩, _, has.refused_of_offence allowed scanned first, rfl⟩
  · intro passes
    refine has.compiled_of_no_offence allowed scanned (Option.eq_none_iff_forall_ne_some.mpr ?_)
    intro problem first
    rw [(failed problem).mpr first] at passes
    cases passes
  · have covered : (∃ n x place, writes n x place ∧ replaced n x place) →
        ∃ n x place, writes n x place ∧ x ∈ p.names := by
      rintro ⟨n, x, place, write, replaces⟩
      exact ⟨n, x, place, write, ((rule n x place).mp replaces).1⟩
    simp only [refused, ← rule]
    exact ⟨fun agree => agree.mp, fun seen => ⟨seen, covered⟩⟩

-- The `x` that is written belongs to `f`.
def innerText : String :=
  "export default function A() \x7b let x = 1; "
    ++ "function f(o) \x7b let x; (\x7b x \x7d = o); return x; \x7d \x7d"

def innerPlace : Place := [5, 1, 1, 0, 0, 0, 0]

def writesInner (parts : ComponentParts) : Bool :=
  match Promotion.scan (parameterNames parts.parameters) parts.body.statements,
    parts.body.statements with
  | .ok p, [first, f] =>
    p.contains "x" && (Node.preorderList [first, f]).all (fun n => (writtenPath? n).isNone) &&
      (f.hiddenOnWay (innerPlace ++ [0])).contains "x" &&
      (f.atPlace? innerPlace).any fun m =>
        decide (m.kind = .targetShorthand ∧ (m.part 0).reference? = some "x")
  | _, _ => false

set_option maxRecDepth 100000 in
theorem shorthand_writes_refused_inner :
    ∃ m place parts p f, HasComponent .default "A.rsx" innerText m place parts ∧
      Promotion.scan (parameterNames parts.parameters) parts.body.statements = .ok p ∧
      ShorthandWrite parts.body.statements f "x" innerPlace ∧
      (PromotedBody.substitution parts.parameters p .direct).replaces
        (f.hiddenOnWay (innerPlace ++ [0])) "x" = false ∧
      ∃ d, (compile .default "A.rsx" innerText).result = .error d ∧ d.code = "RSX-E005" := by
  have passes : componentPasses .default "A.rsx" innerText writesInner = true := by decide +kernel
  obtain ⟨m, place, parts, has, allowed, passes⟩ := exists_component passes
  unfold writesInner at passes
  split at passes
  next p first f scanned statements =>
    simp only [Bool.and_eq_true, List.all_eq_true, Option.any_eq_true, Option.isNone_iff_eq_none,
      decide_eq_true_eq, List.contains_iff_mem, Promotion.contains_iff, ← statements] at passes
    obtain ⟨⟨⟨promoted, unwritten⟩, hidden⟩, target, stands, shorthand, written⟩ := passes
    have write : ShorthandWrite parts.body.statements f "x" innerPlace :=
      ⟨by simp [statements], target, stands, shorthand, written⟩
    obtain ⟨refused, reported, -, replaced, -⟩ := shorthand_writes_refused has allowed scanned
      (fun n below path field offset offends => by
        have none := unwritten n below
        cases offends with
        | propsWrite span member object key field front accessed reached touched =>
          simp [writtenPath?_of_member? accessed, reached] at none) .direct
    obtain ⟨problem, fails⟩ := refused.mpr ⟨f, "x", innerPlace, write, promoted⟩
    refine ⟨m, place, parts, p, f, has, scanned, write, ?_, (reported problem fails).2⟩
    exact Bool.eq_false_iff.mpr fun replaces => ((replaced f "x" innerPlace).mp replaces).2 hidden
  next => cases passes

end Rsx
