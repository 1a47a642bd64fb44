import Mathlib.Data.List.Induction
import Rsx.Proofs.Places
import Rsx.Props

set_option autoImplicit false

namespace Rsx

namespace Node

-- As `path?`, but no mark that is only there for types counts either.
def chain? : Node → Option (List String)
  | mk (.name .value x) _ _ => some [x]
  | mk (.member _) _ [object, mk (.name _ x) _ _] => object.chain?.map (· ++ [x])
  | mk (.index _) _ [object, mk (.stringLit value _) _ _] =>
    object.chain?.map (· ++ [CodePoints.toString value])
  | mk (.index _) _ [object, _] => object.chain?.map (· ++ ["[]"])
  | mk .paren _ [inner] => inner.chain?
  | mk .nonNull _ [inner] => inner.chain?
  | mk .asType _ [inner, _] => inner.chain?
  | mk .satisfies _ [inner, _] => inner.chain?
  | _ => none

def isCast : Node → Bool
  | mk (.member _) _ [object, _] => object.isCast
  | mk (.index _) _ [object, _] => object.isCast
  | mk .paren _ [inner] => inner.isCast
  | mk .nonNull _ [inner] => inner.isCast
  | mk .asType _ [_, _] => true
  | mk .satisfies _ [_, _] => true
  | _ => false

theorem chain?_of_path? {n : Node} {path : List String} (found : n.path? = some path) :
    n.chain? = some path := by
  fun_induction path? n generalizing path with
  | case1 x => simpa [chain?] using found
  | case2 _ _ object _ x _ _ ih =>
    obtain ⟨front, reached, rfl⟩ := Option.map_eq_some_iff.mp found
    simp [chain?, ih reached]
  | case3 _ _ object value _ _ _ ih =>
    obtain ⟨front, reached, rfl⟩ := Option.map_eq_some_iff.mp found
    simp [chain?, ih reached]
  | case4 _ _ object key _ ih =>
    obtain ⟨front, reached, rfl⟩ := Option.map_eq_some_iff.mp found
    simp_all [chain?]
  | case5 _ inner ih => simpa [chain?] using ih found
  | case6 _ inner ih => simpa [chain?] using ih found
  | case7 => cases found

theorem path?_eq_none {n : Node} {path : List String} (found : n.chain? = some path) :
    n.path? = none ↔ n.isCast = true := by
  fun_induction chain? n generalizing path with
  | case1 x => simp [path?, isCast]
  | case2 _ _ object _ x _ _ ih =>
    obtain ⟨front, reached, rfl⟩ := Option.map_eq_some_iff.mp found
    simp [path?, isCast, ih reached]
  | case3 _ _ object value _ _ _ ih =>
    obtain ⟨front, reached, rfl⟩ := Option.map_eq_some_iff.mp found
    simp [path?, isCast, ih reached]
  | case4 _ _ object key _ ih =>
    obtain ⟨front, reached, rfl⟩ := Option.map_eq_some_iff.mp found
    simp_all [path?, isCast]
  | case5 _ inner ih => simpa [path?, isCast] using ih found
  | case6 _ inner ih => simpa [path?, isCast] using ih found
  | case7 _ inner _ _ => simp [path?, isCast]
  | case8 _ inner _ _ => simp [path?, isCast]
  | case9 => cases found

def propertyLocal? (property : Node) : Option String :=
  match (property.part 1).kind with
  | .defaultPattern => ((property.part 1).part 0).binding?
  | _ => (property.part 1).binding?

def hasPropsKey (property : Node) : Bool :=
  match property.kind, (property.part 0).kind with
  | .bindingProperty false _, .name _ key => key == "props"
  | .bindingProperty false _, .stringLit value _ => CodePoints.toString value == "props"
  | _, _ => false

def propsLocals (objectPattern : Node) : List String :=
  (objectPattern.parts.filter hasPropsKey).filterMap propertyLocal?

def withoutDefault : Node → Node
  | mk .defaultPattern _ [pattern, _] => pattern.withoutDefault
  | n => n

def firstPattern? (parameters : Node) : Option Node :=
  match parameters.parts with
  | .mk (.parameter _) _ [_, pattern, _, _] :: _ => some pattern.withoutDefault
  | _ => none

def contextName? (parameters : Node) : Option String := parameters.firstPattern?.bind binding?

end Node

theorem PropsBinding.propsLocal?_mem {objectPattern : Node} {x : String}
    (found : propsLocal? objectPattern = some x) : x ∈ objectPattern.propsLocals := by
  unfold propsLocal? at found
  split at found
  · cases found
  next p first =>
    have keyed : p.hasPropsKey = true := by
      have key := List.find?_some first
      unfold isPropsKey at key
      unfold Node.hasPropsKey
      split at key <;> simp_all
    refine List.mem_filterMap.mpr ⟨p, List.mem_filter.mpr ⟨List.mem_of_find?_eq_some first, keyed⟩, ?_⟩
    exact found

structure Sight where
  path? : Node → Option (List String)
  locals : Node → List String

namespace Sight

-- What the walk over a body sees: one key `props` of a pattern, not in quotes, and no type marks.
def guard : Sight := ⟨Node.path?, fun pattern => (PropsBinding.propsLocal? pattern).toList⟩

def full : Sight := ⟨Node.chain?, Node.propsLocals⟩

inductive PropsRoot (v : Sight) (parameters : Node) : List Node → String → Prop where
  | always : PropsRoot v parameters [] "props"
  | parameter (pattern : Node) (x : String) (first : parameters.firstPattern? = some pattern)
      (object : pattern.kind = .objectPattern) (bound : x ∈ v.locals pattern) :
      PropsRoot v parameters [] x
  | later (ds : List Node) (d : Node) (x : String) (known : PropsRoot v parameters ds x) :
      PropsRoot v parameters (ds ++ [d]) x
  | destructured (ds : List Node) (d : Node) (c x : String)
      (object : (d.part 0).kind = .objectPattern) (context : parameters.contextName? = some c)
      (value : v.path? (d.part 2) = some [c]) (bound : x ∈ v.locals (d.part 0)) :
      PropsRoot v parameters (ds ++ [d]) x
  | renamed (ds : List Node) (d : Node) (x y : String) (named : (d.part 0).binding? = some x)
      (value : v.path? (d.part 2) = some [y]) (known : PropsRoot v parameters ds y) :
      PropsRoot v parameters (ds ++ [d]) x
  | taken (ds : List Node) (d : Node) (c x : String) (named : (d.part 0).binding? = some x)
      (context : parameters.contextName? = some c)
      (value : v.path? (d.part 2) = some [c, "props"]) : PropsRoot v parameters (ds ++ [d]) x

inductive StartsAtProps (v : Sight) (parameters : Node) (ds : List Node) : List String → Prop where
  | root (x : String) (rest : List String) (root : v.PropsRoot parameters ds x) :
      StartsAtProps v parameters ds (x :: rest)
  | context (c : String) (rest : List String) (context : parameters.contextName? = some c) :
      StartsAtProps v parameters ds (c :: "props" :: rest)

variable {v : Sight} {parameters : Node} {ds : List Node} {d : Node} {x : String}

theorem propsRoot_nil : v.PropsRoot parameters [] x ↔
    x = "props" ∨ ∃ pattern, parameters.firstPattern? = some pattern ∧
      pattern.kind = .objectPattern ∧ x ∈ v.locals pattern := by
  constructor
  · generalize whole : ([] : List Node) = ds
    rintro (_ | ⟨pattern, _, first, object, bound⟩ | _ | _ | _ | _)
    · exact .inl rfl
    · exact .inr ⟨pattern, first, object, bound⟩
    all_goals simp at whole
  · rintro (rfl | ⟨pattern, first, object, bound⟩)
    · exact .always
    · exact .parameter pattern x first object bound

theorem propsRoot_snoc : v.PropsRoot parameters (ds ++ [d]) x ↔
    v.PropsRoot parameters ds x ∨
      ((d.part 0).kind = .objectPattern ∧ (∃ c, parameters.contextName? = some c ∧
        v.path? (d.part 2) = some [c]) ∧ x ∈ v.locals (d.part 0)) ∨
      ((d.part 0).binding? = some x ∧
        ((∃ y, v.path? (d.part 2) = some [y] ∧ v.PropsRoot parameters ds y) ∨
          ∃ c, parameters.contextName? = some c ∧ v.path? (d.part 2) = some [c, "props"])) := by
  constructor
  · generalize whole : ds ++ [d] = all
    rintro (_ | _ | ⟨ds', d', _, known⟩ | ⟨ds', d', c, _, object, context, value, bound⟩ |
      ⟨ds', d', _, y, named, value, known⟩ | ⟨ds', d', c, _, named, context, value⟩)
    · simp at whole
    · simp at whole
    all_goals
      obtain ⟨rfl, same⟩ := List.append_inj' whole rfl
      cases same
    · exact .inl known
    · exact .inr (.inl ⟨object, ⟨c, context, value⟩, bound⟩)
    · exact .inr (.inr ⟨named, .inl ⟨y, value, known⟩⟩)
    · exact .inr (.inr ⟨named, .inr ⟨c, context, value⟩⟩)
  · rintro (known | ⟨object, ⟨c, context, value⟩, bound⟩ |
      ⟨named, ⟨y, value, known⟩ | ⟨c, context, value⟩⟩)
    · exact .later ds d x known
    · exact .destructured ds d c x object context value bound
    · exact .renamed ds d x y named value known
    · exact .taken ds d c x named context value

theorem PropsRoot.mono {w : Sight} (path : ∀ n path, v.path? n = some path → w.path? n = some path)
    (locals : ∀ n, ∀ x ∈ v.locals n, x ∈ w.locals n) (root : v.PropsRoot parameters ds x) :
    w.PropsRoot parameters ds x := by
  induction root with
  | always => exact .always
  | parameter pattern x first object bound =>
    exact .parameter pattern x first object (locals _ _ bound)
  | later ds d x _ ih => exact .later ds d x ih
  | destructured ds d c x object context value bound =>
    exact .destructured ds d c x object context (path _ _ value) (locals _ _ bound)
  | renamed ds d x y named value _ ih => exact .renamed ds d x y named (path _ _ value) ih
  | taken ds d c x named context value => exact .taken ds d c x named context (path _ _ value)

theorem PropsRoot.full (root : guard.PropsRoot parameters ds x) :
    Sight.full.PropsRoot parameters ds x :=
  root.mono (fun _ _ => Node.chain?_of_path?)
    fun _ _ bound => PropsBinding.propsLocal?_mem (Option.mem_toList.mp bound)

end Sight

namespace PropsBinding

variable {b : PropsBinding} {parameters : Node} {ds : List Node} {d n : Node} {x y : String}

theorem mem_addDirect : x ∈ (b.addDirect y).direct ↔ x ∈ b.direct ∨ x = y := by
  unfold addDirect
  split
  next known =>
    have known : y ∈ b.direct := by simpa using known
    exact ⟨.inl, Or.rec id fun same => same ▸ known⟩
  next => simp

@[simp] theorem context_addDirect : (b.addDirect y).context = b.context := by
  unfold addDirect
  split <;> rfl

theorem mem_bindKey : x ∈ (b.bindKey n).direct ↔ x ∈ b.direct ∨ x ∈ Sight.guard.locals n := by
  have locals : Sight.guard.locals n = (propsLocal? n).toList := rfl
  rw [locals, bindKey]
  cases propsLocal? n with
  | none => simp
  | some y => simp [mem_addDirect]

@[simp] theorem context_bindKey : (b.bindKey n).context = b.context := by
  unfold bindKey
  split <;> simp

theorem bindPattern_eq (b : PropsBinding) (pattern : Node) :
    b.bindPattern pattern =
      match pattern.withoutDefault.kind with
      | .name .binding x => { b with context := some x }
      | .objectPattern => b.bindKey pattern.withoutDefault
      | _ => b := by
  fun_induction bindPattern b pattern with
  | case1 => rfl
  | case2 => rfl
  | case3 _ pattern _ ih => simpa [Node.withoutDefault] using ih
  | case4 n named object wrapped =>
    obtain ⟨k, span, ps⟩ := n
    have plain : (Node.mk k span ps).withoutDefault = .mk k span ps := by
      unfold Node.withoutDefault
      split
      next same => exact absurd same (wrapped _ _ _)
      next => rfl
    rw [plain, Node.kind_mk]
    split
    next x => exact absurd rfl (named x span ps)
    next => exact absurd rfl (object span ps)
    next => rfl

theorem mem_bindPattern : x ∈ (b.bindPattern n).direct ↔
    x ∈ b.direct ∨
      (n.withoutDefault.kind = .objectPattern ∧ x ∈ Sight.guard.locals n.withoutDefault) := by
  rw [bindPattern_eq]
  split
  next kind => simp [kind]
  next kind => simp [mem_bindKey, kind]
  next other => exact ⟨.inl, Or.rec id fun object => absurd object.1 other⟩

theorem context_bindPattern :
    (b.bindPattern n).context = n.withoutDefault.binding?.or b.context := by
  rw [bindPattern_eq]
  unfold Node.binding?
  split
  next kind => simp [kind]
  next kind => simp [kind]
  next other _ => split <;> simp_all

theorem ofParameters_cases (parameters : Node) :
    (parameters.firstPattern? = none ∧ ofParameters parameters = ⟨["props"], none⟩) ∨
      ∃ pattern, parameters.firstPattern? = some pattern.withoutDefault ∧
        ofParameters parameters = bindPattern ⟨["props"], none⟩ pattern := by
  unfold ofParameters Node.firstPattern?
  generalize parameters.parts = ps
  split
  next pattern _ _ _ => exact .inr ⟨pattern, rfl, rfl⟩
  next other => exact .inl ⟨rfl, by simp only⟩

theorem mem_ofParameters :
    x ∈ (ofParameters parameters).direct ↔ Sight.guard.PropsRoot parameters [] x := by
  rw [Sight.propsRoot_nil]
  obtain ⟨first, bound⟩ | ⟨pattern, first, bound⟩ := ofParameters_cases parameters
  · simp [first, bound]
  · simp [first, bound, mem_bindPattern]

theorem context_ofParameters : (ofParameters parameters).context = parameters.contextName? := by
  obtain ⟨first, bound⟩ | ⟨pattern, first, bound⟩ := ofParameters_cases parameters
  · simp [Node.contextName?, first, bound]
  · simp [Node.contextName?, first, bound, context_bindPattern]

@[simp] theorem context_bindDeclarator : (b.bindDeclarator d).context = b.context := by
  simp only [bindDeclarator]
  split
  · split <;> simp
  · split <;> simp
  · rfl

theorem isContext_iff : b.isContext n = true ↔ ∃ c, b.context = some c ∧ n.path? = some [c] := by
  unfold isContext
  split <;> simp_all

theorem isRoot_iff : b.isRoot n = true ↔
    (∃ y, n.path? = some [y] ∧ y ∈ b.direct) ∨
      ∃ c, b.context = some c ∧ n.path? = some [c, "props"] := by
  unfold isRoot
  split
  next y path => simp [path]
  next c y path =>
    simp only [path, Bool.and_eq_true, beq_iff_eq, Option.some.injEq, List.cons.injEq, and_true]
    constructor
    · rintro ⟨bound, rfl⟩
      exact .inr ⟨c, bound, rfl, rfl⟩
    · rintro (⟨_, ⟨_, impossible⟩, _⟩ | ⟨_, bound, rfl, rfl⟩)
      · cases impossible
      · exact ⟨bound, rfl⟩
  next single pair => simp_all

theorem mem_bindDeclarator :
    x ∈ (b.bindDeclarator d).direct ↔
      x ∈ b.direct ∨
        ((d.part 0).kind = .objectPattern ∧ b.isContext (d.part 2) = true ∧
          x ∈ Sight.guard.locals (d.part 0)) ∨
        ((d.part 0).binding? = some x ∧ b.isRoot (d.part 2) = true) := by
  simp only [bindDeclarator, Node.binding?]
  split
  next kind => split <;> simp_all [mem_bindKey]
  next y kind =>
    have same : x = y ↔ y = x := eq_comm
    split <;> simp_all [mem_addDirect]
  next => simp_all

theorem context_foldl (b : PropsBinding) (ds : List Node) :
    (ds.foldl bindDeclarator b).context = b.context := by
  induction ds generalizing b with
  | nil => rfl
  | cons d rest ih => rw [List.foldl_cons, ih, context_bindDeclarator]

theorem context_bindStatements (parameters : Node) (ns : List Node) :
    ((ofParameters parameters).bindStatements ns).context = parameters.contextName? := by
  rw [bindStatements, context_foldl, context_ofParameters]

theorem mem_bindStatements (parameters : Node) (ns : List Node) (x : String) :
    x ∈ ((ofParameters parameters).bindStatements ns).direct ↔
      Sight.guard.PropsRoot parameters (ns.flatMap Node.declarators) x := by
  unfold bindStatements
  induction ns.flatMap Node.declarators using List.reverseRecOn generalizing x with
  | nil => exact mem_ofParameters
  | append_singleton ds d ih =>
    rw [List.foldl_append, Sight.propsRoot_snoc]
    simp only [List.foldl_cons, List.foldl_nil, mem_bindDeclarator, isContext_iff, isRoot_iff, ih,
      context_foldl, context_ofParameters]
    rfl

end PropsBinding

end Rsx
