import Rsx.HostImports
import Rsx.Site
import Rsx.Substitution

set_option autoImplicit false

namespace Rsx

namespace Node

@[elab_as_elim]
theorem induction {motive : Node → Prop}
    (node : ∀ k s ps, (∀ p ∈ ps, motive p) → motive (mk k s ps)) (n : Node) : motive n := by
  refine @Node.rec motive (fun ps => ∀ p ∈ ps, motive p) ?_ ?_ ?_ n
  · intro k s ps ih
    exact node k s ps ih
  · intro p member
    cases member
  · intro head tail headHolds tailHolds p member
    cases member with
    | head => exact headHolds
    | tail _ rest => exact tailHolds p rest

@[elab_as_elim]
theorem unwrapped_induction {motive : Node → Prop}
    (paren : ∀ s inner, motive inner → motive (mk .paren s [inner]))
    (plain : ∀ n, n.unwrapped = n → motive n) (n : Node) : motive n := by
  fun_induction unwrapped n with
  | case1 s inner ih => exact paren s inner ih
  | case2 n other => exact plain n (by unfold unwrapped; split <;> simp_all)

@[simp] theorem kind_mk (k : Kind) (s : Span) (ps : List Node) : (mk k s ps).kind = k := rfl

@[simp] theorem span_mk (k : Kind) (s : Span) (ps : List Node) : (mk k s ps).span = s := rfl

@[simp] theorem parts_mk (k : Kind) (s : Span) (ps : List Node) : (mk k s ps).parts = ps := rfl

theorem eta (n : Node) : mk n.kind n.span n.parts = n := by
  cases n
  rfl

-- Code and the same code with parentheses around it, as many as there are.
inductive Parenthesizes : Node → Node → Prop where
  | bare (n : Node) : Parenthesizes n n
  | paren (span : Span) {outer n : Node} (inside : Parenthesizes outer n) :
      Parenthesizes (mk .paren span [outer]) n

theorem parenthesizes_unwrapped (n : Node) : n.Parenthesizes n.unwrapped := by
  induction n using unwrapped_induction with
  | paren s inner ih =>
    rw [unwrapped]
    exact .paren s ih
  | plain n plain =>
    rw [plain]
    exact .bare n

theorem unwrapped_of_kind {n : Node} (notParen : n.kind ≠ .paren) : n.unwrapped = n := by
  unfold unwrapped
  split
  next => exact absurd rfl notParen
  next => rfl

theorem unwrapped_eq_iff {outer n : Node} (notParen : n.kind ≠ .paren) :
    outer.unwrapped = n ↔ outer.Parenthesizes n := by
  constructor
  · rintro rfl
    exact parenthesizes_unwrapped outer
  · intro around
    induction around with
    | bare n => exact unwrapped_of_kind notParen
    | paren span _ ih => rw [unwrapped, ih notParen]

theorem part_eq (n : Node) (i : Nat) : n.part i = (n.parts[i]?).getD absent := by
  simp [part, List.getD_eq_getElem?_getD]

theorem part_of_getElem? {n m : Node} {i : Nat} (found : n.parts[i]? = some m) : n.part i = m := by
  rw [part_eq, found]
  rfl

theorem eq_flatMap {α : Type} {f : Node → List α} {fs : List Node → List α} (nil : fs [] = [])
    (cons : ∀ p ps, fs (p :: ps) = f p ++ fs ps) (ps : List Node) : fs ps = ps.flatMap f := by
  induction ps with
  | nil => exact nil
  | cons p rest ih => rw [cons, ih, List.flatMap_cons]

theorem boundNamesList_eq (ps : List Node) : boundNamesList ps = ps.flatMap boundNames :=
  eq_flatMap (by rw [boundNamesList]) (fun _ _ => by rw [boundNamesList]) ps

theorem preorderList_eq (ps : List Node) : preorderList ps = ps.flatMap preorder :=
  eq_flatMap (by rw [preorderList]) (fun _ _ => by rw [preorderList]) ps

theorem preorder_mk (k : Kind) (s : Span) (ps : List Node) :
    (mk k s ps).preorder = mk k s ps :: ps.flatMap preorder := by
  rw [preorder, preorderList_eq]

theorem self_mem_preorder (n : Node) : n ∈ n.preorder := by
  cases n
  simp [preorder]

theorem preorder_of_mem_parts {n p m : Node} (part : p ∈ n.parts) (below : m ∈ p.preorder) :
    m ∈ n.preorder := by
  cases n with
  | mk k s ps =>
    rw [preorder_mk]
    exact List.mem_cons_of_mem _ (List.mem_flatMap.mpr ⟨p, part, below⟩)

theorem preorder_trans {n m l : Node} (below : m ∈ n.preorder) (deeper : l ∈ m.preorder) :
    l ∈ n.preorder := by
  induction n using induction with
  | node k s ps ih =>
    rw [preorder_mk] at below
    rcases List.mem_cons.mp below with rfl | inside
    · exact deeper
    · obtain ⟨p, part, under⟩ := List.mem_flatMap.mp inside
      exact preorder_of_mem_parts (n := mk k s ps) part (ih p part under)

theorem references_of_part {n p : Node} (part : p ∈ n.parts) :
    ∀ y ∈ p.references, y ∈ n.references := by
  intro y refers
  obtain ⟨m, below, named⟩ := List.mem_filterMap.mp refers
  exact List.mem_filterMap.mpr ⟨m, preorder_of_mem_parts part below, named⟩

theorem preorder_absent : absent.preorder = [absent] := by
  simp [absent, preorder, preorderList]

theorem part_mem_or (n : Node) (i : Nat) : n.part i ∈ n.parts ∨ n.part i = absent := by
  rw [part_eq]
  cases found : n.parts[i]? with
  | none => exact .inr rfl
  | some m => exact .inl (List.mem_of_getElem? found)

theorem mem_preorder_of_part {n m : Node} {i : Nat} (below : m ∈ (n.part i).parts) :
    m ∈ n.preorder := by
  rcases n.part_mem_or i with part | missing
  · exact preorder_of_mem_parts part (preorder_of_mem_parts below m.self_mem_preorder)
  · rw [missing] at below
    cases below

theorem mem_preorder_of_mem_statements {n m : Node} (member : m ∈ n.statements) : m ∈ n.preorder := by
  unfold statements at member
  split at member
  · exact mem_preorder_of_part member
  · exact mem_preorder_of_part member
  · exact mem_preorder_of_part member
  · exact preorder_of_mem_parts member m.self_mem_preorder
  · cases member

@[simp] theorem atPlace?_nil (n : Node) : n.atPlace? [] = some n := rfl

theorem atPlace?_cons (n : Node) (i : Nat) (rest : Place) :
    n.atPlace? (i :: rest) = (n.parts[i]?).bind fun p => p.atPlace? rest := by
  cases found : n.parts[i]? <;> simp [atPlace?, found]

theorem atPlace?_cons_some {n m : Node} {i : Nat} {rest : Place} :
    n.atPlace? (i :: rest) = some m ↔ ∃ p, n.parts[i]? = some p ∧ p.atPlace? rest = some m := by
  rw [atPlace?_cons, Option.bind_eq_some_iff]

theorem atPlace?_append (n : Node) (front back : Place) :
    n.atPlace? (front ++ back) = (n.atPlace? front).bind fun m => m.atPlace? back := by
  induction front generalizing n with
  | nil => rfl
  | cons i rest ih =>
    rw [List.cons_append, atPlace?_cons, atPlace?_cons]
    cases n.parts[i]? with
    | none => rfl
    | some p => exact ih p

theorem mem_preorder_of_atPlace? {n m : Node} {place : Place} (stands : n.atPlace? place = some m) :
    m ∈ n.preorder := by
  induction place generalizing n with
  | nil =>
    cases stands
    exact self_mem_preorder m
  | cons i rest ih =>
    obtain ⟨p, found, below⟩ := atPlace?_cons_some.mp stands
    exact preorder_of_mem_parts (List.mem_of_getElem? found) (ih below)

theorem exists_place_of_mem_preorder {n m : Node} (below : m ∈ n.preorder) :
    ∃ place, n.atPlace? place = some m := by
  induction n using induction with
  | node k s ps ih =>
    rw [preorder_mk] at below
    rcases List.mem_cons.mp below with rfl | inside
    · exact ⟨[], rfl⟩
    · obtain ⟨p, part, under⟩ := List.mem_flatMap.mp inside
      obtain ⟨i, found⟩ := List.getElem?_of_mem part
      obtain ⟨place, stands⟩ := ih p part under
      exact ⟨i :: place, atPlace?_cons_some.mpr ⟨p, found, stands⟩⟩

theorem updateAt_cons (n : Node) (f : Node → Node) (i : Nat) (rest : Place) :
    n.updateAt f (i :: rest) =
      mk n.kind n.span (n.parts.modify i fun p => p.updateAt f rest) := rfl

theorem atPlace?_updateAt {n m : Node} {place : Place} (stands : n.atPlace? place = some m)
    (f : Node → Node) (below : Place) :
    (n.updateAt f place).atPlace? (place ++ below) = (f m).atPlace? below := by
  induction place generalizing n with
  | nil =>
    cases stands
    rfl
  | cons i rest ih =>
    obtain ⟨p, found, stands⟩ := atPlace?_cons_some.mp stands
    rw [updateAt_cons, List.cons_append, atPlace?_cons, parts_mk, List.getElem?_modify_eq, found]
    exact ih stands

theorem updateAt_congr {n m : Node} {f g : Node → Node} {place : Place}
    (stands : n.atPlace? place = some m) (same : f m = g m) :
    n.updateAt f place = n.updateAt g place := by
  induction place generalizing n with
  | nil =>
    cases stands
    exact same
  | cons i rest ih =>
    obtain ⟨p, found, stands⟩ := atPlace?_cons_some.mp stands
    rw [updateAt_cons, updateAt_cons]
    congr 1
    refine List.ext_getElem? fun j => ?_
    rw [List.getElem?_modify, List.getElem?_modify]
    by_cases here : i = j
    · subst here
      simp [found, ih stands]
    · simp [here]

-- Away from the place that is updated nothing changes but what is below a node.
theorem atPlace?_updateAt_other {n m : Node} {f : Node → Node} {place elsewhere : Place}
    (other : ¬ place <+: elsewhere) (stands : (n.updateAt f place).atPlace? elsewhere = some m) :
    ∃ m', n.atPlace? elsewhere = some m' ∧ m.kind = m'.kind := by
  induction place generalizing n elsewhere with
  | nil => exact (other List.nil_prefix).elim
  | cons i rest ih =>
    cases elsewhere with
    | nil =>
      cases stands
      exact ⟨n, rfl, rfl⟩
    | cons j back =>
      rw [updateAt_cons, atPlace?_cons_some, parts_mk] at stands
      obtain ⟨p, found, below⟩ := stands
      by_cases same : i = j
      · subst same
        rw [List.getElem?_modify_eq] at found
        obtain ⟨p', part, rfl⟩ := Option.map_eq_some_iff.mp found
        have apart : ¬ rest <+: back := fun inside =>
          other (List.cons_prefix_cons.mpr ⟨rfl, inside⟩)
        obtain ⟨m', stands, kind⟩ := ih apart below
        exact ⟨m', atPlace?_cons_some.mpr ⟨p', part, stands⟩, kind⟩
      · rw [List.getElem?_modify_ne _ _ same] at found
        exact ⟨m, atPlace?_cons_some.mpr ⟨p, found, below⟩, rfl⟩

end Node

end Rsx
