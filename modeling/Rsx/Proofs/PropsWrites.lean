import Rsx.Proofs.PropsRoots
import Rsx.Proofs.Refusals

set_option autoImplicit false

namespace Rsx

open Grammar (innermost)

variable {o : Options} {path source : String} {m : Module} {place : Place} {parts : ComponentParts}

namespace Node

variable {n object : Node} {key : String}

theorem innermost_of_member? (accessed : n.member? = some (object, key)) : innermost n = n := by
  unfold member? at accessed
  split at accessed <;> first | rfl | cases accessed

theorem path?_ne_nil (n : Node) : n.path? ≠ some [] := by
  fun_induction path? n <;> simp_all

end Node

namespace ComponentParts

def declarators (parts : ComponentParts) : List Node :=
  parts.body.statements.flatMap Node.declarators

-- A target that is, under all marks and parentheses, a member of something that starts at props.
inductive WritesProps (parts : ComponentParts) : Node → Prop where
  | member (span : Span) (written object : Node) (key : String) (path : List String)
      (accessed : (innermost written).member? = some (object, key))
      (reached : object.chain? = some path)
      (starts : Sight.full.StartsAtProps parts.parameters parts.declarators path) :
      WritesProps parts (.mk .target span [written])

-- A target that is not seen to be a write through props.
inductive Overlooked (parts : ComponentParts) : Node → Prop where
  | marked (span : Span) (written : Node) (marks : innermost written ≠ written) :
      Overlooked parts (.mk .target span [written])
  | cast (span : Span) (written object : Node) (key : String)
      (accessed : written.member? = some (object, key)) (cast : object.isCast = true) :
      Overlooked parts (.mk .target span [written])
  | unknown (span : Span) (written : Node) (path : List String) (reached : written.path? = some path)
      (unknown : ¬Sight.guard.StartsAtProps parts.parameters parts.declarators path) :
      Overlooked parts (.mk .target span [written])

theorem startsAtProps_cons {v : Sight} {x y : String} {rest : List String} :
    v.StartsAtProps parts.parameters parts.declarators (x :: y :: rest) ↔
      v.PropsRoot parts.parameters parts.declarators x ∨
        (parts.parameters.contextName? = some x ∧ y = "props") := by
  constructor
  · rintro (⟨_, _, root⟩ | ⟨_, _, context⟩)
    · exact .inl root
    · exact .inr ⟨context, rfl⟩
  · rintro (root | ⟨context, rfl⟩)
    · exact .root x _ root
    · exact .context x rest context

-- A member's path is refused as soon as it starts at a name of props that the walk goes by.
theorem field?_eq_none {front : List String} (nonempty : front ≠ []) (key : String) :
    parts.props.field? (front ++ [key]) = none ↔
      ¬Sight.guard.StartsAtProps parts.parameters parts.declarators (front ++ [key]) := by
  obtain ⟨x, front, rfl⟩ := List.exists_cons_of_ne_nil nonempty
  obtain ⟨y, rest, whole⟩ : ∃ y rest, front ++ [key] = y :: rest :=
    List.exists_cons_of_ne_nil (by simp)
  have direct : x ∈ parts.props.direct ↔
      Sight.guard.PropsRoot parts.parameters parts.declarators x :=
    PropsBinding.mem_bindStatements _ _ _
  have context : parts.props.context = parts.parameters.contextName? :=
    PropsBinding.context_bindStatements _ _
  rw [List.cons_append, whole, startsAtProps_cons, ← direct, ← context]
  by_cases root : x ∈ parts.props.direct
  · simp [PropsBinding.field?, root]
  · by_cases bound : parts.props.context = some x
    · by_cases props : y = "props" <;> simp [PropsBinding.field?, root, bound, props]
    · simp [PropsBinding.field?, root, bound]

theorem offence?_target (b : PropsBinding) (p : Promotion) (span : Span) (written : Node) :
    offence? b p (.mk .target span [written]) =
      (writtenPath? (.mk .target span [written])).bind fun path =>
        (b.field? path).map fun field => ⟨.propsWrite path field, written.span.start⟩ := by
  cases found : writtenPath? (.mk .target span [written]) <;> simp [offence?, found]

theorem overlooked_iff {t : Node} (writes : parts.WritesProps t) (p : Promotion) :
    parts.Overlooked t ↔ offence? parts.props p t = none := by
  obtain ⟨span, written, object, key, path, accessed, chain, -⟩ := writes
  rw [offence?_target]
  by_cases marks : innermost written = written
  · rw [marks] at accessed
    rw [writtenPath?_of_member? accessed]
    have whole := Node.path?_of_member? accessed
    cases inside : object.path? with
    | none =>
      have cast := (Node.path?_eq_none chain).mp inside
      exact iff_of_true (.cast span written object key accessed cast) rfl
    | some front =>
      rw [inside] at whole
      have nonempty : front ≠ [] := fun empty => object.path?_ne_nil (empty ▸ inside)
      simp only [Option.map_some, Option.bind_some, Option.map_eq_none_iff, field?_eq_none nonempty]
      constructor
      · rintro (⟨_, _, other⟩ | ⟨_, _, object', key', accessed', cast⟩ |
          ⟨_, _, path', reached, unknown⟩)
        · exact absurd marks other
        · rw [accessed] at accessed'
          cases accessed'
          simp [(Node.path?_eq_none chain).mpr cast] at inside
        · rw [whole] at reached
          cases reached
          exact unknown
      · exact .unknown span written _ whole
  · refine iff_of_true (.marked span written marks) ?_
    cases found : writtenPath? (.mk .target span [written]) with
    | none => rfl
    | some path =>
      obtain ⟨span', written', object', key', same, accessed'⟩ := member?_of_writtenPath? found
      cases same
      exact absurd (Node.innermost_of_member? accessed') marks

end ComponentParts

/-- A component with a write through props is refused, unless the write is overlooked. That is how
it is with a write whose target or whose object has a mark for types, and with one that starts at a
name that is not known to stand for props. All names that are known to, do. -/
theorem props_writes_refused (has : HasComponent o path source m place parts) :
    (∀ t ∈ Node.preorderList parts.body.statements, parts.WritesProps t → ¬parts.Overlooked t →
        ∃ d, (compile o path source).result = .error d) ∧
      (∀ t p, parts.WritesProps t → (parts.Overlooked t ↔ offence? parts.props p t = none)) ∧
      ∀ x ∈ parts.props.direct, Sight.full.PropsRoot parts.parameters parts.declarators x := by
  refine ⟨fun t inBody writes seen => ?_, fun t p writes => ComponentParts.overlooked_iff writes p, ?_⟩
  · exact has.refused_of_node inBody fun p none => seen ((ComponentParts.overlooked_iff writes p).mpr none)
  · intro x known
    exact ((PropsBinding.mem_bindStatements _ _ x).mp known).full

def assignsToProps (test : ComponentParts → Node → Bool) (parts : ComponentParts) : Bool :=
  match parts.body.statements with
  | [n] =>
    match n.atPlace? [0, 0] with
    | some (.mk .target span [written]) =>
      match (innermost written).member? with
      | some (object, _) => decide (object.chain? = some ["props"] ∧ "props" ∈ parts.props.direct) &&
          test parts (.mk .target span [written])
      | none => false
    | _ => false
  | _ => false

theorem exists_writesProps {test : ComponentParts → Node → Bool}
    (passes : assignsToProps test parts = true) :
    ∃ t ∈ Node.preorderList parts.body.statements, parts.WritesProps t ∧ test parts t = true := by
  unfold assignsToProps at passes
  split at passes
  next n statements =>
    split at passes
    next span written stands =>
      split at passes
      next object key accessed =>
        simp only [Bool.and_eq_true, decide_eq_true_eq] at passes
        obtain ⟨⟨reached, known⟩, holds⟩ := passes
        have root := ((PropsBinding.mem_bindStatements _ _ _).mp known).full
        refine ⟨_, ?_, .member span written object key _ accessed reached (.root "props" [] root),
          holds⟩
        rw [statements, Node.preorderList_eq]
        exact List.mem_flatMap.mpr
          ⟨n, List.mem_cons_self, Node.mem_preorder_of_atPlace? stands⟩
      next => cases passes
    next => cases passes
  next => cases passes

def seenText : String := "export default function A(\x7b props \x7d) \x7b props.count = 1; \x7d"

def markedText : String :=
  "export default function A(\x7b props \x7d) \x7b (props as any).count = 1; \x7d"

set_option maxRecDepth 100000 in
theorem props_writes_refused_marked :
    (∃ m place parts, HasComponent .default "A.rsx" seenText m place parts ∧
      (∃ t ∈ Node.preorderList parts.body.statements, parts.WritesProps t ∧ ¬parts.Overlooked t) ∧
      ∃ d, (compile .default "A.rsx" seenText).result = .error d) ∧
    ∃ m place parts, HasComponent .default "A.rsx" markedText m place parts ∧
      (∃ t ∈ Node.preorderList parts.body.statements, parts.WritesProps t ∧ parts.Overlooked t) ∧
      ∃ out, (compile .default "A.rsx" markedText).result = .ok out ∧ out.transformed = true := by
  have seen : componentPasses .default "A.rsx" seenText
      (assignsToProps fun parts t => (offence? parts.props .none t).isSome) = true := by
    decide +kernel
  have marked : componentPasses .default "A.rsx" markedText
      (assignsToProps fun parts t => (offence? parts.props .none t).isNone) = true := by
    decide +kernel
  constructor
  · obtain ⟨m, place, parts, has, -, passes⟩ := exists_component seen
    obtain ⟨t, inBody, writes, offends⟩ := exists_writesProps passes
    obtain ⟨refused, overlooked, -⟩ := props_writes_refused has
    have notOverlooked : ¬parts.Overlooked t := fun missed => by
      simp [(overlooked t .none writes).mp missed] at offends
    exact ⟨m, place, parts, has, ⟨t, inBody, writes, notOverlooked⟩,
      refused t inBody writes notOverlooked⟩
  · obtain ⟨m, place, parts, has, -, passes⟩ := exists_component marked
    obtain ⟨t, inBody, writes, passed⟩ := exists_writesProps passes
    obtain ⟨-, overlooked, -⟩ := props_writes_refused has
    have missed := (overlooked t .none writes).mpr (Option.isNone_iff_eq_none.mp passed)
    exact ⟨m, place, parts, has, ⟨t, inBody, writes, missed⟩,
      ok_of_isTransformed _ (by decide +kernel)⟩

end Rsx
