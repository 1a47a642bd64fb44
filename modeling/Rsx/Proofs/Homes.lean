import Rsx.Proofs.Binders
import Rsx.Proofs.Sites

set_option autoImplicit false

namespace Rsx

def Kind.isOpen : Kind → Bool
  | .exportDefault | .paren | .variableList _ _ | .declarator _ => true
  | _ => false

namespace Node

-- The place of the innermost node that binds a name on the way to a place.
def home? (n : Node) (x : String) : Place → Option Place
  | [] => none
  | i :: rest =>
    match (n.part i).home? x rest with
    | some front => some (i :: front)
    | none => if x ∈ n.binds (i :: rest) then some [] else none

theorem home?_eq_none {n : Node} {x : String} {place : Place} :
    n.home? x place = none ↔ x ∉ n.boundOnWay place := by
  induction place generalizing n with
  | nil => simp [home?, boundOnWay]
  | cons i rest ih =>
    have below := ih (n := n.part i)
    cases found : (n.part i).home? x rest with
    | some front =>
      have bound : x ∈ (n.part i).boundOnWay rest := by
        by_contra unbound
        simp [below.mpr unbound] at found
      simp [home?, found, boundOnWay, bound]
    | none =>
      have unbound := below.mp found
      by_cases here : x ∈ n.binds (i :: rest) <;> simp [home?, found, boundOnWay, unbound, here]

theorem home?_of_part {n : Node} {x : String} {i : Nat} {rest front : Place}
    (found : (n.part i).home? x rest = some front) : n.home? x (i :: rest) = some (i :: front) := by
  simp [home?, found]

theorem home?_here {n : Node} {x : String} {i : Nat} {rest : Place}
    (free : x ∉ (n.part i).boundOnWay rest) (here : x ∈ n.binds (i :: rest)) :
    n.home? x (i :: rest) = some [] := by
  simp [home?, home?_eq_none.mpr free, here]

theorem home?_append {n m : Node} {x : String} {front back inner : Place}
    (stands : n.atPlace? front = some m) (found : m.home? x back = some inner) :
    n.home? x (front ++ back) = some (front ++ inner) := by
  induction front generalizing n with
  | nil =>
    cases stands
    exact found
  | cons i rest ih =>
    obtain ⟨p, part, below⟩ := atPlace?_cons_some.mp stands
    exact home?_of_part (by rw [part_of_getElem? part]; exact ih below)

theorem home?_split {n m : Node} {x : String} {place front : Place}
    (stands : n.atPlace? place = some m) (found : n.home? x place = some front) :
    ∃ b i rest, n.atPlace? front = some b ∧ b.atPlace? (i :: rest) = some m ∧
      place = front ++ i :: rest ∧ b.home? x (i :: rest) = some [] := by
  induction place generalizing n front with
  | nil => cases found
  | cons i rest ih =>
    obtain ⟨p, part, below⟩ := atPlace?_cons_some.mp stands
    have inner := found
    rw [home?, part_of_getElem? part] at inner
    split at inner
    next front' deeper =>
      cases inner
      obtain ⟨b, j, back, first, second, split, here⟩ := ih below deeper
      exact ⟨b, j, back, atPlace?_cons_some.mpr ⟨p, part, first⟩, second, by simp [split], here⟩
    next =>
      split at inner
      · cases inner
        exact ⟨n, i, rest, rfl, stands, rfl, found⟩
      · cases inner

def isOpenWay (n : Node) : Place → Bool
  | [] => true
  | i :: rest => n.kind.isOpen && (n.part i).isOpenWay rest

theorem binds_of_isOpen {n : Node} (isOpen : n.kind.isOpen = true) (way : Place) :
    n.binds way = [] := by
  unfold Kind.isOpen at isOpen
  split at isOpen <;> simp_all [binds]

theorem isOpenWay_updateAt {n m : Node} {place : Place} (stands : n.atPlace? place = some m)
    (f : Node → Node) : (n.updateAt f place).isOpenWay place = n.isOpenWay place := by
  induction place generalizing n with
  | nil => rfl
  | cons i rest ih =>
    obtain ⟨p, part, below⟩ := atPlace?_cons_some.mp stands
    have updated : (n.updateAt f (i :: rest)).part i = p.updateAt f rest := by
      refine part_of_getElem? ?_
      rw [updateAt_cons, parts_mk, List.getElem?_modify_eq, part]
      rfl
    rw [isOpenWay, isOpenWay, updated, ih below, part_of_getElem? part]
    rfl

theorem boundOnWay_of_isOpenWay {n m : Node} {place back : Place} (isOpen : n.isOpenWay place = true)
    (stands : n.atPlace? place = some m) :
    n.boundOnWay (place ++ back) = m.boundOnWay back := by
  induction place generalizing n with
  | nil =>
    cases stands
    rfl
  | cons i rest ih =>
    obtain ⟨p, part, below⟩ := atPlace?_cons_some.mp stands
    obtain ⟨here, later⟩ := Bool.and_eq_true_iff.mp isOpen
    rw [part_of_getElem? part] at later
    rw [List.cons_append, boundOnWay, binds_of_isOpen here, List.append_nil, part_of_getElem? part]
    exact ih later below

theorem HoldsFunction.isOpenWay {n : Node} {place : Place} (holds : n.HoldsFunction place) :
    n.isOpenWay place = true := by
  induction holds with
  | function => rfl
  | arrow => rfl
  | paren _ ih => exact ih

end Node

namespace Site

structure At (program : Node) (place : Place) (i : Nat) (statement : Node) (rest : Place) : Prop where
  split : place = 1 :: i :: rest
  stands : program.statements[i]? = some statement
  isOpen : statement.isOpenWay rest = true

theorem isOpenWay_of_declares {name : String} {d : Node} {place : Place} (named : declares name d = true)
    (holds : (d.part 2).HoldsFunction place) : d.isOpenWay (2 :: place) = true := by
  unfold declares at named
  split at named
  next kind =>
    rw [Node.isOpenWay, kind, holds.isOpenWay]
    rfl
  next => cases named

theorem Declared.isOpenWay {name : String} {statement : Node} {place : Place}
    (declared : Declared .first name statement place) : statement.isOpenWay place = true := by
  cases declared with
  | function => rfl
  | declarator kind met named holds =>
    rw [Node.isOpenWay, Node.part_of_getElem? met.entry, isOpenWay_of_declares named holds, kind]
    rfl
  | exported throughout => cases throughout

theorem find?_at {program : Node} {place : Place} (found : find? program = some place) :
    ∃ i statement rest, At program place i statement rest := by
  cases find?_eq_some_iff.mp found with
  | itself met kind holds =>
    refine ⟨_, _, _, rfl, met.entry, ?_⟩
    rw [Node.isOpenWay, kind, holds.isOpenWay]
    rfl
  | named _ _ _ reached declared => exact ⟨_, _, _, rfl, reached.entry, declared.isOpenWay⟩

end Site

end Rsx
