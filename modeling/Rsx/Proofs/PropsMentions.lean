import Rsx.Proofs.PropsWrites

set_option autoImplicit false

namespace Rsx

variable {b b' : PropsBinding} {c x : String} {n m d value : Node} {ds : List Node}

namespace Node

theorem references_mk (k : Kind) (s : Span) (ps : List Node) :
    (mk k s ps).references = (mk k s ps).reference?.toList ++ ps.flatMap references := by
  have parts : ps.flatMap references = (ps.flatMap preorder).filterMap reference? := by
    rw [List.filterMap_flatMap]
    rfl
  rw [references, preorder_mk, List.filterMap_cons, parts]
  cases (mk k s ps).reference? <;> rfl

theorem references_around {k : Kind} {s : Span} {inner : Node}
    (unnamed : (mk k s [inner]).reference? = none) :
    (mk k s [inner]).references = inner.references := by
  simp [references_mk, unnamed]

theorem path?_snoc {object : Node} {key last : String} (front : List String)
    (reached : object.path?.map (· ++ [key]) = some (front ++ [last])) :
    object.path? = some front ∧ key = last := by
  obtain ⟨start, same, whole⟩ := Option.map_eq_some_iff.mp reached
  obtain ⟨rfl, final⟩ := List.append_inj' whole rfl
  cases final
  exact ⟨same, rfl⟩

theorem path?_start {object : Node} {key : String} {path : List String}
    (reached : object.path?.map (· ++ [key]) = some (x :: path)) :
    ∃ rest, object.path? = some (x :: rest) := by
  obtain ⟨start, same, whole⟩ := Option.map_eq_some_iff.mp reached
  cases start with
  | nil => exact absurd same object.path?_ne_nil
  | cons y rest =>
    cases whole
    exact ⟨rest, same⟩

theorem mem_references_of_path? {path : List String} (found : n.path? = some (x :: path)) :
    x ∈ n.references := by
  fun_induction path? n generalizing path with
  | case1 y s ps =>
    cases found
    exact List.mem_filterMap.mpr ⟨_, self_mem_preorder _, rfl⟩
  | case2 _ _ object _ _ _ _ ih =>
    obtain ⟨rest, reached⟩ := path?_start found
    exact references_of_part List.mem_cons_self x (ih reached)
  | case3 _ _ object _ _ _ _ ih =>
    obtain ⟨rest, reached⟩ := path?_start found
    exact references_of_part List.mem_cons_self x (ih reached)
  | case4 _ _ object _ _ ih =>
    obtain ⟨rest, reached⟩ := path?_start found
    exact references_of_part List.mem_cons_self x (ih reached)
  | case5 _ inner ih => exact references_of_part List.mem_cons_self x (ih found)
  | case6 _ inner ih => exact references_of_part List.mem_cons_self x (ih found)
  | case7 => cases found

-- The property `props` of `c`, but not as `c.props`: its key is in quotes, or there is something
-- around `c`.
inductive Respelled (c : String) : Node → Prop where
  | quoted (optional : Bool) (s s' : Span) (ps : List Node) (object : Node) (value : CodePoints)
      (raw : String) (reached : object.path? = some [c]) (key : CodePoints.toString value = "props") :
      Respelled c (.mk (.index optional) s [object, .mk (.stringLit value raw) s' ps])
  | wrapped (optional : Bool) (role : NameRole) (s s' : Span) (ps : List Node) (object : Node)
      (reached : object.path? = some [c]) (around : ∀ s ps, object ≠ .mk (.name .value c) s ps) :
      Respelled c (.mk (.member optional) s [object, .mk (.name role "props") s' ps])
  | paren (s : Span) (inner : Node) (below : Respelled c inner) : Respelled c (.mk .paren s [inner])
  | nonNull (s : Span) (inner : Node) (below : Respelled c inner) :
      Respelled c (.mk .nonNull s [inner])

theorem Respelled.path? (respelled : n.Respelled c) : n.path? = some [c, "props"] := by
  induction respelled with
  | quoted optional s s' ps object value raw reached key => simp [Node.path?, reached, key]
  | wrapped optional role s s' ps object reached around => simp [Node.path?, reached]
  | paren s inner _ ih => rw [Node.path?, ih]
  | nonNull s inner _ ih => rw [Node.path?, ih]

end Node

namespace PropsBinding

theorem isReadIn_of_preorder (below : m ∈ value.preorder) (read : b.isReadIn m = true) :
    b.isReadIn value = true := by
  obtain ⟨l, inside, mentions⟩ := isReadIn_iff.mp read
  exact isReadIn_iff.mpr ⟨l, Node.preorder_trans below inside, mentions⟩

theorem isReadIn_of_mem_references (refers : x ∈ n.references) (direct : x ∈ b.direct) :
    b.isReadIn n = true := by
  obtain ⟨m, below, named⟩ := List.mem_filterMap.mp refers
  exact isReadIn_iff.mpr ⟨m, below, .byName m x named direct⟩

theorem Mentions.exists_reference (mentions : b.Mentions n) : ∃ y, y ∈ n.references := by
  rcases mentions with ⟨_, y, named, -⟩ | ⟨o, role, y, s, s', s'', ps, ps', -⟩
  · exact ⟨y, List.mem_filterMap.mpr ⟨n, n.self_mem_preorder, named⟩⟩
  · exact ⟨y, by simp [Node.references_mk, Node.reference?]⟩

theorem isReadIn_of_references_nil (none : n.references = []) : b.isReadIn n = false := by
  refine Bool.eq_false_iff.mpr fun read => ?_
  obtain ⟨m, below, mentions⟩ := isReadIn_iff.mp read
  obtain ⟨y, named⟩ := mentions.exists_reference
  obtain ⟨l, inside, refers⟩ := List.mem_filterMap.mp named
  have referred : y ∈ n.references :=
    List.mem_filterMap.mpr ⟨l, Node.preorder_trans below inside, refers⟩
  simp [none] at referred

theorem isReadIn_mk (k : Kind) (s : Span) (ps : List Node) :
    b.isReadIn (.mk k s ps) = (b.readAt (.mk k s ps) || ps.any b.isReadIn) := by
  rw [isReadIn, Node.preorder_mk, List.any_cons, List.any_flatMap]
  rfl

theorem isReadIn_around {k : Kind} {s : Span} {inner : Node}
    (unnamed : (Node.mk k s [inner]).reference? = none) :
    b.isReadIn (.mk k s [inner]) = b.isReadIn inner := by
  simp [isReadIn_mk, readAt, unnamed]

theorem isReadIn_of_path? (other : c ∉ b.direct) (reached : n.path? = some [c])
    (single : n.references = [c]) : b.isReadIn n = false := by
  have longer {object : Node} {key : String} : object.path?.map (· ++ [key]) ≠ some [c] :=
    fun short => object.path?_ne_nil (Node.path?_snoc [] short).1
  fun_induction Node.path? n with
  | case1 y s ps =>
    cases reached
    rw [Node.references_mk] at single
    have below : ps.flatMap Node.references = [] := by simpa [Node.reference?] using single
    simp only [isReadIn_mk, Bool.or_eq_false_iff, List.any_eq_false, Bool.not_eq_true]
    refine ⟨by simpa [readAt, Node.reference?] using other, fun p part => ?_⟩
    exact isReadIn_of_references_nil (List.flatMap_eq_nil_iff.mp below p part)
  | case2 | case3 | case4 => exact absurd reached longer
  | case5 s inner ih | case6 s inner ih =>
    rw [Node.references_around rfl] at single
    rw [isReadIn_around rfl]
    exact ih reached single
  | case7 => cases reached

-- The context's property, in a form that the search does not know.
def Overlooks (b : PropsBinding) (n : Node) : Prop :=
  ∃ c, b.context = some c ∧ c ∉ b.direct ∧ n.Respelled c

theorem mentions_or_respelled (bound : b.context = some c) (reached : n.path? = some [c, "props"]) :
    b.isReadIn n = true ∨ n.Respelled c := by
  fun_induction Node.path? n with
  | case1 => simp at reached
  | case2 o s object role y s' ps ih =>
    obtain ⟨start, rfl⟩ := Node.path?_snoc [c] reached
    by_cases plain : ∃ s'' ps', object = .mk (.name .value c) s'' ps'
    · obtain ⟨s'', ps', rfl⟩ := plain
      exact .inl (isReadIn_iff.mpr ⟨_, Node.self_mem_preorder _, .ofContext _ _ c _ _ _ _ _ bound⟩)
    · exact .inr (.wrapped o role s s' ps object start fun s'' ps' same => plain ⟨s'', ps', same⟩)
  | case3 o s object text raw s' ps ih =>
    obtain ⟨start, key⟩ := Node.path?_snoc [c] reached
    exact .inr (.quoted o s s' ps object text raw start key)
  | case4 o s object key other ih => exact absurd (Node.path?_snoc [c] reached).2 (by decide)
  | case5 s inner ih =>
    rw [isReadIn_around rfl]
    exact (ih reached).imp_right (.paren s inner)
  | case6 s inner ih =>
    rw [isReadIn_around rfl]
    exact (ih reached).imp_right (.nonNull s inner)
  | case7 => cases reached

theorem isReadIn_or_overlooks (root : b.isRoot n = true) : b.isReadIn n = true ∨ b.Overlooks n := by
  obtain ⟨y, reached, direct⟩ | ⟨c, bound, reached⟩ := isRoot_iff.mp root
  · exact .inl (isReadIn_of_mem_references (Node.mem_references_of_path? reached) direct)
  · by_cases direct : c ∈ b.direct
    · exact .inl (isReadIn_of_mem_references (Node.mem_references_of_path? reached) direct)
    · exact (mentions_or_respelled bound reached).imp_right fun respelled =>
        ⟨c, bound, direct, respelled⟩

theorem not_isReadIn_parts {object key : Node} (other : c ∉ b.direct)
    (reached : object.path? = some [c]) (single : object.references ++ key.references = [c]) :
    b.isReadIn object = false ∧ b.isReadIn key = false := by
  have first := Node.mem_references_of_path? reached
  obtain ⟨none, -⟩ | ⟨whole, rest⟩ := List.append_eq_singleton_iff.mp single
  · simp [none] at first
  · exact ⟨isReadIn_of_path? other reached whole, isReadIn_of_references_nil rest⟩

theorem Overlooks.isRoot (overlooks : b.Overlooks n) : b.isRoot n = true := by
  obtain ⟨c, bound, -, respelled⟩ := overlooks
  exact isRoot_iff.mpr (.inr ⟨c, bound, respelled.path?⟩)

theorem Overlooks.not_read (overlooks : b.Overlooks n) (single : n.references.length = 1) :
    b.isReadIn n = false := by
  obtain ⟨c, bound, other, respelled⟩ := overlooks
  have same : n.references = [c] := by
    obtain ⟨y, only⟩ := List.length_eq_one_iff.mp single
    have first := Node.mem_references_of_path? respelled.path?
    rw [only, List.mem_singleton] at first
    rw [only, first]
  clear single
  induction respelled with
  | quoted o s s' ps object value raw reached key =>
    have single : object.references ++ (Node.mk (.stringLit value raw) s' ps).references = [c] := by
      simpa [Node.references_mk, Node.reference?] using same
    obtain ⟨first, second⟩ := not_isReadIn_parts other reached single
    rw [isReadIn_mk]
    simp [readAt, Node.reference?, first, second]
  | wrapped o role s s' ps object reached around =>
    have single : object.references ++ (Node.mk (.name role "props") s' ps).references = [c] := by
      simpa [Node.references_mk, Node.reference?] using same
    obtain ⟨first, second⟩ := not_isReadIn_parts other reached single
    have here : b.readAt (.mk (.member o) s [object, .mk (.name role "props") s' ps]) = false := by
      refine Bool.eq_false_iff.mpr fun read => ?_
      rcases readAt_iff.mp read with ⟨_, _, named, -⟩ | ⟨_, _, y, _, s'', _, ps', _, bound'⟩
      · cases named
      · cases bound.symm.trans bound'
        exact around s'' ps' rfl
    rw [isReadIn_mk]
    simp [here, first, second]
  | paren s inner _ ih | nonNull s inner _ ih =>
    rw [Node.references_around rfl] at same
    rw [isReadIn_around rfl]
    exact ih same

inductive Records (b : PropsBinding) (d : Node) (x : String) : Prop where
  | named (named : (d.part 0).binding? = some x) (root : b.isRoot (d.part 2) = true)
  | destructured (object : (d.part 0).kind = .objectPattern)
      (context : b.isContext (d.part 2) = true) (bound : propsLocal? (d.part 0) = some x)

theorem mem_bindDeclarator_records :
    x ∈ (b.bindDeclarator d).direct ↔ x ∈ b.direct ∨ b.Records d x := by
  rw [mem_bindDeclarator]
  refine or_congr_right ⟨?_, ?_⟩
  · rintro (⟨object, context, bound⟩ | ⟨named, root⟩)
    · exact .destructured object context (Option.mem_toList.mp bound)
    · exact .named named root
  · rintro (⟨named, root⟩ | ⟨object, context, bound⟩)
    · exact .inr ⟨named, root⟩
    · exact .inl ⟨object, context, Option.mem_toList.mpr bound⟩

theorem mem_foldl_of_mem (known : x ∈ b.direct) : x ∈ (ds.foldl bindDeclarator b).direct := by
  induction ds generalizing b with
  | nil => exact known
  | cons d rest ih => exact ih (mem_bindDeclarator_records.mpr (.inl known))

theorem isRoot_foldl (root : b.isRoot n = true) : (ds.foldl bindDeclarator b).isRoot n = true := by
  refine isRoot_iff.mpr ?_
  rw [context_foldl]
  exact (isRoot_iff.mp root).imp_left fun ⟨y, reached, direct⟩ => ⟨y, reached, mem_foldl_of_mem direct⟩

end PropsBinding

variable {o : Options} {path source : String} {m : Module} {place : Place} {parts : ComponentParts}
  {p : Promotion} {out : Output} {caution : Located Caution}

def ComponentParts.propsAfter (parts : ComponentParts) (ds : List Node) : PropsBinding :=
  ds.foldl PropsBinding.bindDeclarator (PropsBinding.ofParameters parts.parameters)

theorem ComponentParts.props_of_split {before after : List Node}
    (split : parts.declarators = before ++ after) :
    parts.props = after.foldl PropsBinding.bindDeclarator (parts.propsAfter before) := by
  rw [propsAfter, ← List.foldl_append, ← split]
  rfl

namespace PromotedBody

theorem cautions_ofBody {body : PromotedBody}
    (scanned : Promotion.scan (parameterNames parts.parameters) parts.body.statements = .ok p)
    (promoted : ofBody parts.parameters parts.body.statements = .ok body) :
    body.cautions = parts.body.statements.flatMap (statementCautions parts.props p) ++
      (discardReturns parts.body.statements).2 := by
  cases first : firstOffence? parts.props p parts.body.statements with
  | some problem =>
    rw [ofBody_of_offence scanned first] at promoted
    cases promoted
  | none =>
    rw [ComponentParts.props] at first ⊢
    simp only [ofBody, scanned, checkBody_eq, first, bind, Except.bind, pure, Except.pure,
      Except.ok.injEq] at promoted
    subst promoted
    rfl

end PromotedBody

namespace HasComponent

theorem exists_warnings (has : HasComponent o path source m place parts)
    (compiled : (compile o path source).result = .ok out) :
    ∃ body, PromotedBody.ofBody parts.parameters parts.body.statements = .ok body ∧
      out.warnings = body.cautions.map fun c => c.what.warn path source c.offset := by
  rw [has.result_eq] at compiled
  cases allowed : checkNames o.target m.tree with
  | error problem => simp [allowed] at compiled
  | ok _ =>
    simp only [allowed, transformComponent] at compiled
    cases promoted : PromotedBody.ofBody parts.parameters parts.body.statements with
    | error problem => simp [promoted] at compiled
    | ok body =>
      refine ⟨body, rfl, ?_⟩
      simp only [promoted] at compiled
      cases rebuilt : rebuildProgram? o.target m.tree place body with
      | none => simp [rebuilt] at compiled
      | some tree =>
        simp only [rebuilt, Except.ok.injEq] at compiled
        subst compiled
        rfl

theorem warned_of_declarator (has : HasComponent o path source m place parts)
    (compiled : (compile o path source).result = .ok out)
    (scanned : Promotion.scan (parameterNames parts.parameters) parts.body.statements = .ok p)
    (declared : d ∈ parts.declarators) (found : declaratorCaution? parts.props p d = some caution) :
    caution.what.warn path source caution.offset ∈ out.warnings := by
  obtain ⟨body, promoted, warnings⟩ := has.exists_warnings compiled
  obtain ⟨statement, listed, inside⟩ := List.mem_flatMap.mp declared
  have given : caution ∈ statementCautions parts.props p statement :=
    List.mem_append_left _ (List.mem_filterMap.mpr ⟨d, inside, found⟩)
  rw [warnings, PromotedBody.cautions_ofBody scanned promoted]
  exact List.mem_map.mpr ⟨caution,
    List.mem_append_left _ (List.mem_flatMap.mpr ⟨statement, listed, given⟩), rfl⟩

theorem warned_of_records (has : HasComponent o path source m place parts)
    (compiled : (compile o path source).result = .ok out)
    (scanned : Promotion.scan (parameterNames parts.parameters) parts.body.statements = .ok p)
    {before after : List Node} (split : parts.declarators = before ++ d :: after)
    (promoted : x ∈ p.names) (records : (parts.propsAfter before).Records d x)
    (notObject : (d.part 0).kind ≠ .objectPattern) (seen : ¬parts.props.Overlooks (d.part 2)) :
    (Caution.staleState x).warn path source d.span.start ∈ out.warnings := by
  obtain ⟨named, root⟩ | ⟨object, -, -⟩ := records
  · have known : parts.props.isRoot (d.part 2) = true := by
      rw [ComponentParts.props_of_split split]
      exact PropsBinding.isRoot_foldl root
    have read := (PropsBinding.isReadIn_or_overlooks known).resolve_right seen
    have found : declaratorCaution? parts.props p d = some ⟨.staleState x, d.span.start⟩ :=
      declaratorCaution?_eq_some.mpr
        (.declared d x named promoted (PropsBinding.isReadIn_iff.mp read))
    exact has.warned_of_declarator compiled scanned (by simp [split]) found
  · exact absurd object notObject

end HasComponent

theorem declaratorCaution?_eq_none_of_object (object : (d.part 0).kind = .objectPattern) :
    declaratorCaution? b p d = none := by
  simp [declaratorCaution?, Node.binding?, object]

theorem declaratorCaution?_eq_none_of_unread (unread : b.isReadIn (d.part 2) = false) :
    declaratorCaution? b p d = none := by
  unfold declaratorCaution?
  split <;> simp [unread]

/-- What is props by its path counts as a mention of props in every value that it is a part of,
unless it is overlooked. So a promoted variable whose declaration makes it one of the names of props
is warned of, but for a declaration that takes it out of the context's properties and for one whose
value is overlooked. These two are not. -/
theorem props_roots_mentioned (b : PropsBinding) (value : Node) :
    (∀ m ∈ value.preorder, b.isRoot m = true → b.isReadIn value = true ∨ b.Overlooks m) ∧
    (b.Overlooks value → b.isRoot value = true ∧
      (value.references.length = 1 → b.isReadIn value = false)) ∧
    (∀ d x, x ∈ (b.bindDeclarator d).direct ↔ x ∈ b.direct ∨ b.Records d x) ∧
    ∀ o path source m place parts p out, HasComponent o path source m place parts →
      Promotion.scan (parameterNames parts.parameters) parts.body.statements = .ok p →
      (compile o path source).result = .ok out →
      ∀ before d after x, parts.declarators = before ++ d :: after → x ∈ p.names →
        (parts.propsAfter before).Records d x →
          ((d.part 0).kind ≠ .objectPattern → ¬parts.props.Overlooks (d.part 2) →
            (Caution.staleState x).warn path source d.span.start ∈ out.warnings) ∧
          ((d.part 0).kind = .objectPattern ∨
              parts.props.Overlooks (d.part 2) ∧ (d.part 2).references.length = 1 →
            declaratorCaution? parts.props p d = none) := by
  refine ⟨?_, fun overlooks => ⟨overlooks.isRoot, overlooks.not_read⟩,
    fun d x => PropsBinding.mem_bindDeclarator_records, ?_⟩
  · intro m below root
    exact (PropsBinding.isReadIn_or_overlooks root).imp_left (PropsBinding.isReadIn_of_preorder below)
  · intro o path source m place parts p out has scanned compiled before d after x split promoted records
    refine ⟨fun notObject seen => ?_, ?_⟩
    · exact has.warned_of_records compiled scanned split promoted records notObject seen
    · rintro (object | ⟨overlooks, single⟩)
      · exact declaratorCaution?_eq_none_of_object object
      · exact declaratorCaution?_eq_none_of_unread (overlooks.not_read single)

def declaresProps (read : Bool) (parts : ComponentParts) : Bool :=
  match parts.declarators,
    Promotion.scan (parameterNames parts.parameters) parts.body.statements with
  | [d], .ok p => decide ((d.part 0).binding? = some "p" ∧ p.contains "p" = true ∧
      (parts.propsAfter []).isRoot (d.part 2) = true ∧ (d.part 2).references.length = 1 ∧
        parts.props.isReadIn (d.part 2) = read)
  | _, _ => false

structure DeclaresProps (parts : ComponentParts) (d : Node) (p : Promotion) : Prop where
  scanned : Promotion.scan (parameterNames parts.parameters) parts.body.statements = .ok p
  only : parts.declarators = [d]
  promoted : "p" ∈ p.names
  named : (d.part 0).binding? = some "p"
  root : (parts.propsAfter []).isRoot (d.part 2) = true
  notObject : (d.part 0).kind ≠ .objectPattern
  single : (d.part 2).references.length = 1

theorem exists_declaresProps {read : Bool} (passes : declaresProps read parts = true) :
    ∃ d p, DeclaresProps parts d p ∧ parts.props.isReadIn (d.part 2) = read := by
  unfold declaresProps at passes
  split at passes
  next d p only scanned =>
    obtain ⟨named, promoted, root, single, read⟩ := of_decide_eq_true passes
    have notObject : (d.part 0).kind ≠ .objectPattern := fun object => by
      simp [Node.binding?, object] at named
    exact ⟨d, p, ⟨scanned, only, by simpa [Promotion.contains] using promoted, named, root, notObject,
      single⟩, read⟩
  next => cases passes

def compilesQuietly (result : Except Diagnostic Output) : Bool :=
  match result with
  | .ok out => out.transformed && out.warnings.isEmpty
  | .error _ => false

theorem exists_quiet (result : Except Diagnostic Output) (quiet : compilesQuietly result = true) :
    ∃ out, result = .ok out ∧ out.transformed = true ∧ out.warnings = [] := by
  unfold compilesQuietly at quiet
  split at quiet
  next out =>
    obtain ⟨transformed, empty⟩ := Bool.and_eq_true_iff.mp quiet
    exact ⟨out, rfl, transformed, List.isEmpty_iff.mp empty⟩
  next => cases quiet

def dottedText : String := "export default function A(ctx) \x7b let p = ctx.props; \x7d"

def bracketsText : String := "export default function A(ctx) \x7b let p = ctx[\"props\"]; \x7d"

set_option maxRecDepth 100000 in
theorem props_roots_mentioned_brackets :
    (∃ m place parts d p, HasComponent .default "A.rsx" dottedText m place parts ∧
      DeclaresProps parts d p ∧ ¬parts.props.Overlooks (d.part 2) ∧
      ∃ out, (compile .default "A.rsx" dottedText).result = .ok out ∧
        (Caution.staleState "p").warn "A.rsx" dottedText d.span.start ∈ out.warnings) ∧
    ∃ m place parts d p, HasComponent .default "A.rsx" bracketsText m place parts ∧
      DeclaresProps parts d p ∧ parts.props.Overlooks (d.part 2) ∧
      declaratorCaution? parts.props p d = none ∧
      ∃ out, (compile .default "A.rsx" bracketsText).result = .ok out ∧ out.transformed = true ∧
        out.warnings = [] := by
  have dotted : componentPasses .default "A.rsx" dottedText (declaresProps true) = true := by
    decide +kernel
  have brackets : componentPasses .default "A.rsx" bracketsText (declaresProps false) = true := by
    decide +kernel
  constructor
  · obtain ⟨m, place, parts, has, -, passes⟩ := exists_component dotted
    obtain ⟨d, p, declares, read⟩ := exists_declaresProps passes
    obtain ⟨-, overlooked, -, warned⟩ := props_roots_mentioned parts.props (d.part 2)
    have seen : ¬parts.props.Overlooks (d.part 2) := fun overlooks => by
      simp [(overlooked overlooks).2 declares.single] at read
    obtain ⟨out, compiled, -⟩ :=
      ok_of_isTransformed (compile .default "A.rsx" dottedText).result (by decide +kernel)
    obtain ⟨given, -⟩ := warned _ _ _ m place parts p out has declares.scanned compiled [] d [] "p"
      declares.only declares.promoted (.named declares.named declares.root)
    exact ⟨m, place, parts, d, p, has, declares, seen, out, compiled, given declares.notObject seen⟩
  · obtain ⟨m, place, parts, has, -, passes⟩ := exists_component brackets
    obtain ⟨d, p, declares, unread⟩ := exists_declaresProps passes
    have only : parts.declarators = [] ++ [d] := declares.only
    have root : parts.props.isRoot (d.part 2) = true := by
      rw [ComponentParts.props_of_split only]
      exact PropsBinding.isRoot_foldl declares.root
    obtain ⟨mentioned, -, -, warned⟩ := props_roots_mentioned parts.props (d.part 2)
    have missed := (mentioned _ (d.part 2).self_mem_preorder root).resolve_left (by simp [unread])
    obtain ⟨out, compiled, transformed, quiet⟩ :=
      exists_quiet (compile .default "A.rsx" bracketsText).result (by decide +kernel)
    obtain ⟨-, none⟩ := warned _ _ _ m place parts p out has declares.scanned compiled [] d [] "p"
      declares.only declares.promoted (.named declares.named declares.root)
    exact ⟨m, place, parts, d, p, has, declares, missed, none (.inr ⟨missed, declares.single⟩), out,
      compiled, transformed, quiet⟩

end Rsx
