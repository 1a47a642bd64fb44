import Rsx.Tree.Build
import Rsx.Writes

set_option autoImplicit false

namespace Rsx

inductive TopStep where
  | run (statement : Node)
  | evaluate (value : Node)

namespace Node

def topStep (n : Node) : TopStep :=
  match n.kind with
  | .expression => .evaluate (n.part 0)
  | _ => .run n

def returned (n : Node) : List TopStep :=
  if (n.part 0).isAbsent then [] else [.evaluate (n.part 0)]

end Node

-- All that a body does at its top, which ends with the first return.
def topTrace : List Node → List TopStep
  | [] => []
  | n :: rest => if isReturn n then n.returned else n.topStep :: topTrace rest

variable {front statements : List Node} {r : Node}

theorem topTrace_append (reached : ∀ n ∈ front, isReturn n = false) (back : List Node) :
    topTrace (front ++ back) = front.map Node.topStep ++ topTrace back := by
  induction front with
  | nil => rfl
  | cons n rest ih =>
    have first := reached n List.mem_cons_self
    have later := ih fun m member => reached m (List.mem_cons_of_mem _ member)
    simp [topTrace, first, later]

theorem topTrace_of_no_return (reached : ∀ n ∈ statements, isReturn n = false) :
    topTrace statements = statements.map Node.topStep := by
  simpa [topTrace] using topTrace_append reached []

theorem not_isReturn_of_discardReturns (statements : List Node) :
    ∀ n ∈ (discardReturns statements).1, isReturn n = false := by
  intro n member
  simpa using (List.mem_filter.mp member).2

theorem discardReturns_of_no_return (reached : ∀ n ∈ front, isReturn n = false) :
    (discardReturns front).1 = front :=
  List.filter_eq_self.mpr fun n member => by simp [reached n member]

theorem topTrace_discardReturns (statements : List Node) :
    topTrace (discardReturns statements).1 = (discardReturns statements).1.map Node.topStep :=
  topTrace_of_no_return (not_isReturn_of_discardReturns statements)

theorem topTrace_discardReturns_first (reached : ∀ n ∈ front, isReturn n = false)
    (first : isReturn r = true) (back : List Node) :
    topTrace (front ++ r :: back) = front.map Node.topStep ++ r.returned ∧
      topTrace (discardReturns (front ++ r :: back)).1 =
        front.map Node.topStep ++ (discardReturns back).1.map Node.topStep := by
  constructor
  · rw [topTrace_append reached]
    simp [topTrace, first]
  · rw [topTrace_discardReturns, ← List.map_append]
    have kept := discardReturns_of_no_return reached
    simp only [discardReturns] at kept ⊢
    rw [List.filter_append, kept, List.filter_cons_of_neg (by simp [first])]

theorem exists_first_return (statements : List Node) :
    (∀ n ∈ statements, isReturn n = false) ∨
      ∃ front r back, statements = front ++ r :: back ∧ isReturn r = true ∧
        ∀ n ∈ front, isReturn n = false := by
  cases found : statements.find? isReturn with
  | none => exact .inl fun n member => by simpa using List.find?_eq_none.mp found n member
  | some r =>
    obtain ⟨first, front, back, split, before⟩ := List.find?_eq_some_iff_append.mp found
    exact .inr ⟨front, r, back, split, first, by simpa using before⟩

theorem topTrace_discardReturns_eq_iff (statements : List Node) :
    topTrace (discardReturns statements).1 = topTrace statements ↔
      ∀ front r back, statements = front ++ r :: back → isReturn r = true →
        (∀ n ∈ front, isReturn n = false) →
          (discardReturns back).1.map Node.topStep = r.returned := by
  constructor
  · rintro same front r back rfl first reached
    obtain ⟨before, after⟩ := topTrace_discardReturns_first reached first back
    rw [before, after] at same
    exact List.append_cancel_left same
  · intro instead
    rcases exists_first_return statements with reached | ⟨front, r, back, rfl, first, reached⟩
    · rw [discardReturns_of_no_return reached]
    · obtain ⟨before, after⟩ := topTrace_discardReturns_first reached first back
      rw [before, after, instead front r back rfl first reached]

theorem cautions_of_discardReturns (statements : List Node) :
    (discardReturns statements).2 =
      (statements.filter fun n => isReturn n && !(n.part 0).isAbsent).map
        fun n => ⟨.returnDiscarded, n.span.start⟩ := by
  simp only [discardReturns]
  induction statements with
  | nil => rfl
  | cons n rest ih =>
    cases valued : isReturn n && !(n.part 0).isAbsent <;>
      simp [returnCaution?, valued, ih]

/-- Every statement but the returns is evaluated, also behind a return, and no returned value is.
That is what the body itself does only if what stands behind its first return does the same as its
value. -/
theorem returns_dropped_with_values (statements : List Node) :
    (discardReturns statements).1 = statements.filter (!isReturn ·) ∧
      topTrace (discardReturns statements).1 =
        (statements.filter (!isReturn ·)).map Node.topStep ∧
      (topTrace (discardReturns statements).1 = topTrace statements ↔
        ∀ front r back, statements = front ++ r :: back → isReturn r = true →
          (∀ n ∈ front, isReturn n = false) →
            (back.filter (!isReturn ·)).map Node.topStep = r.returned) ∧
      (discardReturns statements).2 =
        ((statements.filter fun n => isReturn n && !(n.part 0).isAbsent).map
          fun n => ⟨.returnDiscarded, n.span.start⟩) ∧
      ∀ span value, topTrace (discardReturns [.mk .expression span [value]]).1 = [.evaluate value] ∧
        topTrace (discardReturns [.mk .returnWith span [value]]).1 = [] :=
  ⟨rfl, topTrace_discardReturns statements, topTrace_discardReturns_eq_iff statements,
    cautions_of_discardReturns statements, fun _ _ => ⟨rfl, rfl⟩⟩

-- In `return view();` the call is lost, and in `return; use();` one is made that was not.
theorem topTrace_changed_by_returns :
    let viewed := Node.generated .returnWith [.callOf (.value "view") []]
    let ended := Node.generated .returnWith [.absent]
    let used := Node.statement (.callOf (.value "use") [])
    topTrace (discardReturns [viewed]).1 ≠ topTrace [viewed] ∧
      topTrace (discardReturns [ended, used]).1 ≠ topTrace [ended, used] := by
  intro viewed ended used
  refine ⟨fun same => ?_, fun same => ?_⟩
  · have lost : topTrace (discardReturns [viewed]).1 = [] := rfl
    rw [lost] at same
    cases same
  · have reached : topTrace [ended, used] = [] := rfl
    rw [reached] at same
    cases same

end Rsx
