import Rsx.Position
import Mathlib.Algebra.Ring.Nat
import Mathlib.Data.List.TakeWhile

set_option autoImplicit false

namespace Rsx

theorem utf8ByteSize_cons (c : Char) (cs : List Char) :
    (String.ofList (c :: cs)).utf8ByteSize = c.utf8Size + (String.ofList cs).utf8ByteSize := by
  rw [← List.singleton_append, String.ofList_append, String.utf8ByteSize_append]
  simp

theorem splitAtByte_append (before after : List Char) :
    splitAtByte (before ++ after) (String.ofList before).utf8ByteSize = some (before, after) := by
  induction before with
  | nil => cases after <;> simp [splitAtByte]
  | cons c before ih =>
    have positive := c.utf8Size_pos
    obtain ⟨n, size⟩ : ∃ n, (String.ofList (c :: before)).utf8ByteSize = n + 1 :=
      Nat.exists_eq_add_one.mpr (by rw [utf8ByteSize_cons]; omega)
    have rest : n + 1 - c.utf8Size = (String.ofList before).utf8ByteSize := by
      rw [← size, utf8ByteSize_cons]
      omega
    rw [size, List.cons_append, splitAtByte, if_pos (by rw [← size, utf8ByteSize_cons]; omega), rest, ih]
    rfl

theorem append_of_splitAtByte {cs before after : List Char} {n : Nat}
    (split : splitAtByte cs n = some (before, after)) :
    cs = before ++ after ∧ (String.ofList before).utf8ByteSize = n := by
  induction cs generalizing n before with
  | nil =>
    cases n with
    | zero =>
      cases split
      simp
    | succ n => cases split
  | cons c cs ih =>
    cases n with
    | zero =>
      cases split
      simp
    | succ n =>
      rw [splitAtByte] at split
      split at split
      next fits =>
        obtain ⟨⟨front, back⟩, inner, same⟩ := Option.map_eq_some_iff.mp split
        cases same
        obtain ⟨rfl, size⟩ := ih inner
        refine ⟨rfl, ?_⟩
        rw [utf8ByteSize_cons, size]
        omega
      next => cases split

theorem exists_splitAtByte (source : String) (n : Nat) :
    (∃ halves, splitAtByte source.toList n = some halves) ↔ (String.Pos.Raw.mk n).IsValid source := by
  rw [String.Pos.Raw.isValid_iff_exists_append]
  constructor
  · rintro ⟨⟨before, after⟩, split⟩
    obtain ⟨whole, size⟩ := append_of_splitAtByte split
    refine ⟨String.ofList before, String.ofList after, ?_, ?_⟩
    · rw [← String.ofList_append, ← whole, String.ofList_toList]
    · exact String.Pos.Raw.ext size.symm
  · rintro ⟨before, after, rfl, same⟩
    have size : n = before.utf8ByteSize := congrArg String.Pos.Raw.byteIdx same
    refine ⟨(before.toList, after.toList), ?_⟩
    rw [size, String.toList_append]
    simpa using splitAtByte_append before.toList after.toList

namespace Position

def linesOf (source : String) : List (List Char) := source.toList.splitOn '\n'

-- The bytes of the lines in front of a line, each with its line feed, and of the characters in front
-- of a column of that line.
def bytesBefore (lines : List (List Char)) (line column : Nat) : Nat :=
  ((lines.take (line - 1)).map fun l => (String.ofList l).utf8ByteSize + 1).sum +
    (String.ofList ((lines.getD (line - 1) []).take (column - 1))).utf8ByteSize

theorem lastLine_nil : lastLine [] = [] := rfl

theorem lastLine_eq_self {cs : List Char} (plain : '\n' ∉ cs) : lastLine cs = cs := by
  have whole : cs.reverse.takeWhile (· ≠ '\n') = cs.reverse := by
    rw [List.takeWhile_eq_self_iff]
    intro c member
    have other : c ≠ '\n' := fun same => plain (same ▸ List.mem_reverse.mp member)
    simpa using other
  rw [lastLine, whole, List.reverse_reverse]

theorem lastLine_cons (c : Char) {cs : List Char} (feed : '\n' ∈ cs) :
    lastLine (c :: cs) = lastLine cs := by
  have stops : (cs.reverse.takeWhile (· ≠ '\n')).length ≠ cs.reverse.length := by
    intro whole
    have same := (List.takeWhile_prefix _).eq_of_length whole
    have clear := List.mem_takeWhile_imp (same ▸ List.mem_reverse.mpr feed)
    simp at clear
  rw [lastLine, lastLine, List.reverse_cons, List.takeWhile_append, if_neg stops]

theorem lastLine_append {front back : List Char} (plain : '\n' ∉ back) :
    lastLine (front ++ back) = lastLine front ++ back := by
  have clear : ∀ c ∈ back.reverse, decide (c ≠ '\n') = true := by
    intro c member
    have other : c ≠ '\n' := fun same => plain (same ▸ List.mem_reverse.mp member)
    simpa using other
  rw [lastLine, List.reverse_append, List.takeWhile_append_of_pos clear]
  simp [lastLine]

theorem splitOn_head (cs : List Char) :
    ∃ more, cs.splitOn '\n' = cs.takeWhile (· ≠ '\n') :: more := by
  induction cs with
  | nil => exact ⟨[], by simp⟩
  | cons c cs ih =>
    obtain ⟨more, known⟩ := ih
    rw [List.splitOn_cons_eq_if_modifyHead, known]
    by_cases feed : c = '\n' <;> simp [feed]

theorem splitOn_append (before after : List Char) :
    ∃ front more, (before ++ after).splitOn '\n' =
        front ++ (lastLine before ++ after.takeWhile (· ≠ '\n')) :: more ∧
      front.length = before.count '\n' ∧
      (front.map fun l => (String.ofList l).utf8ByteSize + 1).sum +
        (String.ofList (lastLine before)).utf8ByteSize = (String.ofList before).utf8ByteSize := by
  induction before with
  | nil =>
    obtain ⟨more, known⟩ := splitOn_head after
    exact ⟨[], more, by simpa [lastLine_nil] using known, rfl, rfl⟩
  | cons c before ih =>
    obtain ⟨front, more, known, count, size⟩ := ih
    rw [List.cons_append, List.splitOn_cons_eq_if_modifyHead, known, utf8ByteSize_cons]
    by_cases feed : c = '\n'
    next =>
      subst feed
      have last : lastLine ('\n' :: before) = lastLine before := by
        by_cases inside : '\n' ∈ before
        · exact lastLine_cons '\n' inside
        · have kept : lastLine (['\n'] ++ before) = lastLine ['\n'] ++ before := lastLine_append inside
          rw [lastLine_eq_self inside]
          simpa [lastLine] using kept
      have one : '\n'.utf8Size = 1 := rfl
      have empty : (String.ofList []).utf8ByteSize = 0 := rfl
      refine ⟨[] :: front, more, by simp [last], by simp [count], ?_⟩
      simp only [last, one, empty, List.map_cons, List.sum_cons]
      omega
    next =>
      cases front with
      | nil =>
        have plain : '\n' ∉ before := List.count_eq_zero.mp count.symm
        have whole : lastLine (c :: before) = c :: before := lastLine_eq_self (by grind)
        refine ⟨[], more, ?_, by simp [feed, ← count], ?_⟩
        · simp [feed, whole, lastLine_eq_self plain]
        · simp [whole]
      | cons line front =>
        have inside : '\n' ∈ before := by
          rw [← List.count_pos_iff, ← count]
          simp
        refine ⟨(c :: line) :: front, more, ?_, ?_, ?_⟩
        · simp [feed, lastLine_cons c inside]
        · simpa [feed] using count
        · simp only [lastLine_cons c inside, List.map_cons, List.sum_cons, utf8ByteSize_cons] at size ⊢
          omega

theorem withoutReturns_append (cs : List Char) :
    ∃ n, cs = withoutReturns cs ++ List.replicate n '\r' := by
  have returns : ∀ c ∈ (cs.reverse.takeWhile (· == '\r')).reverse, c = '\r' := by
    intro c member
    simpa using List.mem_takeWhile_imp (List.mem_reverse.mp member)
  refine ⟨(cs.reverse.takeWhile (· == '\r')).reverse.length, ?_⟩
  rw [← List.eq_replicate_of_mem returns, withoutReturns, ← List.reverse_append,
    List.takeWhile_append_dropWhile, List.reverse_reverse]

theorem getLast?_withoutReturns (cs : List Char) : (withoutReturns cs).getLast? ≠ some '\r' := by
  intro ends
  rw [withoutReturns, List.getLast?_reverse] at ends
  have other := List.head?_dropWhile_not (· == '\r') cs.reverse
  rw [ends] at other
  simp at other

-- What a position says of the text, and of an offset in it.
structure Marks (p : Position) (source : String) (offset : Nat) : Prop where
  line : 1 ≤ p.line ∧ p.line ≤ (linesOf source).length
  column : 1 ≤ p.column ∧ p.column - 1 ≤ ((linesOf source).getD (p.line - 1) []).length
  found : bytesBefore (linesOf source) p.line p.column = offset
  text : ∃ returns, (linesOf source)[p.line - 1]? =
    some (p.lineText.toList ++ List.replicate returns '\r')
  trimmed : p.lineText.toList.getLast? ≠ some '\r'
  fits : p.line < 2 ^ 32 ∧ p.column < 2 ^ 32

theorem length_le_utf8ByteSize (cs : List Char) : cs.length ≤ (String.ofList cs).utf8ByteSize := by
  induction cs with
  | nil => simp
  | cons c cs ih =>
    have positive := c.utf8Size_pos
    rw [utf8ByteSize_cons, List.length_cons]
    omega

theorem marks_ofSplit {source : String} {before after : List Char}
    (short : source.utf8ByteSize < 2 ^ 32 - 1) (whole : source.toList = before ++ after) :
    (ofSplit before after).Marks source (String.ofList before).utf8ByteSize := by
  obtain ⟨front, more, lines, count, size⟩ := splitOn_append before after
  have own : (linesOf source)[before.count '\n']? =
      some (lastLine before ++ after.takeWhile (· ≠ '\n')) := by
    rw [linesOf, whole, lines, ← count, List.getElem?_append_right (Nat.le_refl _)]
    simp
  have number : linesOf source = front ++ (lastLine before ++ after.takeWhile (· ≠ '\n')) :: more := by
    rw [linesOf, whole, lines]
  refine ⟨⟨?_, ?_⟩, ⟨?_, ?_⟩, ?_, ?_, ?_, ?_⟩
  · simp [ofSplit]
  · rw [number]
    simp [ofSplit, ← count]
  · simp [ofSplit]
  · simp [ofSplit, List.getD, own]
  · rw [bytesBefore, number]
    simpa [ofSplit, ← count, List.getD] using size
  · obtain ⟨returns, same⟩ := withoutReturns_append (lastLine before ++ after.takeWhile (· ≠ '\n'))
    refine ⟨returns, ?_⟩
    simpa [ofSplit, own] using same
  · simpa [ofSplit] using getLast?_withoutReturns _
  · have shorter : (String.ofList before).utf8ByteSize ≤ source.utf8ByteSize := by
      rw [← String.ofList_toList (s := source), whole, String.ofList_append,
        String.utf8ByteSize_append]
      omega
    have feeds : before.count '\n' ≤ _ := List.count_le_length.trans (length_le_utf8ByteSize before)
    have characters := length_le_utf8ByteSize (lastLine before)
    simp only [ofSplit]
    omega

theorem ofSplit_later {before between after after' : List Char} (more : between ≠ []) :
    let p := ofSplit before after
    let q := ofSplit (before ++ between) after'
    p.line < q.line ∨ p.line = q.line ∧ p.column < q.column := by
  intro p q
  have length : 0 < between.length := List.length_pos_iff.mpr more
  by_cases feed : '\n' ∈ between
  next =>
    have counted : 0 < between.count '\n' := List.count_pos_iff.mpr feed
    left
    simp only [p, q, ofSplit, List.count_append]
    omega
  next =>
    right
    have none : between.count '\n' = 0 := List.count_eq_zero.mpr feed
    simp only [p, q, ofSplit, List.count_append, lastLine_append feed, List.length_append]
    omega

theorem locate_of_isValid {source : String} {offset : Nat}
    (between : (String.Pos.Raw.mk (min offset source.utf8ByteSize)).IsValid source) :
    ∃ before after, source.toList = before ++ after ∧
      (String.ofList before).utf8ByteSize = min offset source.utf8ByteSize ∧
      locate source offset = ofSplit before after := by
  obtain ⟨⟨before, after⟩, split⟩ := (exists_splitAtByte source _).mpr between
  obtain ⟨whole, size⟩ := append_of_splitAtByte split
  exact ⟨before, after, whole, size, by rw [locate, split]⟩

theorem locate_of_not_isValid {source : String} {offset : Nat}
    (inside : ¬ (String.Pos.Raw.mk (min offset source.utf8ByteSize)).IsValid source) :
    locate source offset = ⟨1, 1, ""⟩ := by
  rw [locate]
  split
  next before after split => exact absurd ((exists_splitAtByte source _).mp ⟨_, split⟩) inside
  next => rfl

theorem exists_between {cs before after before' after' : List Char} (whole : cs = before ++ after)
    (whole' : cs = before' ++ after')
    (less : (String.ofList before).utf8ByteSize < (String.ofList before').utf8ByteSize) :
    ∃ between, between ≠ [] ∧ before' = before ++ between := by
  rcases List.append_eq_append_iff.mp (whole.symm.trans whole') with
    ⟨between, same, -⟩ | ⟨between, same, -⟩
  · refine ⟨between, ?_, same⟩
    rintro rfl
    rw [same, List.append_nil] at less
    omega
  · rw [same, String.ofList_append, String.utf8ByteSize_append] at less
    omega

/-- Every offset is taken to a place of the text: one between two characters to the line and the
column from which it is counted again, so that the order is kept, and all others to the start. -/
theorem locate_keeps_order {source : String} (short : source.utf8ByteSize < 2 ^ 32 - 1) :
    (∀ offset, (String.Pos.Raw.mk (min offset source.utf8ByteSize)).IsValid source →
      (locate source offset).Marks source (min offset source.utf8ByteSize)) ∧
    (∀ a b, (String.Pos.Raw.mk (min a source.utf8ByteSize)).IsValid source →
      (String.Pos.Raw.mk (min b source.utf8ByteSize)).IsValid source →
      min a source.utf8ByteSize < min b source.utf8ByteSize →
      (locate source a).line < (locate source b).line ∨
        (locate source a).line = (locate source b).line ∧
          (locate source a).column < (locate source b).column) ∧
    (∀ offset, ¬ (String.Pos.Raw.mk (min offset source.utf8ByteSize)).IsValid source →
      locate source offset = ⟨1, 1, ""⟩) := by
  refine ⟨fun offset between => ?_, fun a b between between' less => ?_, fun offset inside => ?_⟩
  · obtain ⟨before, after, whole, size, located⟩ := locate_of_isValid between
    rw [located, ← size]
    exact marks_ofSplit short whole
  · obtain ⟨before, after, whole, size, located⟩ := locate_of_isValid between
    obtain ⟨before', after', whole', size', located'⟩ := locate_of_isValid between'
    obtain ⟨middle, more, rfl⟩ := exists_between whole whole' (by omega)
    rw [located, located']
    exact ofSplit_later more
  · exact locate_of_not_isValid inside

-- The second byte of a character has no position, and a return before a line feed is no text of its line.
theorem locate_keeps_order_returns :
    "é\r\n= 2".utf8ByteSize < 2 ^ 32 - 1 ∧ (locate "é\r\n= 2" 3).Marks "é\r\n= 2" 3 ∧
      ((locate "é\r\n= 2" 3).line < (locate "é\r\n= 2" 9).line ∨
        (locate "é\r\n= 2" 3).line = (locate "é\r\n= 2" 9).line ∧
          (locate "é\r\n= 2" 3).column < (locate "é\r\n= 2" 9).column) ∧
      locate "é\r\n= 2" 1 = ⟨1, 1, ""⟩ := by
  have short : "é\r\n= 2".utf8ByteSize < 2 ^ 32 - 1 := by decide
  obtain ⟨marks, order, inside⟩ := locate_keeps_order short
  exact ⟨short, marks 3 (by decide +kernel), order 3 9 (by decide +kernel) (by decide +kernel) (by decide),
    inside 1 (by decide +kernel)⟩

end Position

end Rsx
