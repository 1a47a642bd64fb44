import Rsx.Proofs.Bytes
import Rsx.Proofs.Files

set_option autoImplicit false

namespace Rsx

namespace Path

def isName (name : String) : Bool :=
  name ≠ "" && name ≠ "." && name ≠ ".." && !name.toList.contains '/'

theorem isName_iff {name : String} : isName name = true ↔
    name ≠ "" ∧ name ≠ "." ∧ name ≠ ".." ∧ '/' ∉ name.toList := by
  simp [isName, and_assoc]

-- Only at the start does `.` count.
def withoutDots : List String → List String
  | [] => []
  | first :: rest => first :: rest.filter (· ≠ ".")

def components (text : String) : List String := withoutDots (ofText text)

-- Part by part, the parts by their bytes.
def Precedes (a b : String) : Prop :=
  (components a).map Options.utf8 < (components b).map Options.utf8

def partsOf (cs : List Char) : List String :=
  ((pieces cs).filter fun p => !p.isEmpty).map String.ofList

theorem pieces_ne_nil (cs : List Char) : pieces cs ≠ [] := by
  cases cs with
  | nil => simp [pieces]
  | cons c cs =>
    rw [pieces]
    split
    · simp
    · split <;> simp

theorem pieces_append (front back : List Char) :
    pieces (front ++ '/' :: back) = pieces front ++ pieces back := by
  induction front with
  | nil => simp [pieces]
  | cons c front ih =>
    by_cases slash : c = '/'
    · simp [pieces, slash, ih]
    · obtain ⟨p, ps, known⟩ := List.exists_cons_of_ne_nil (pieces_ne_nil front)
      simp [pieces, slash, ih, known]

theorem pieces_plain {cs : List Char} (plain : '/' ∉ cs) : pieces cs = [cs] := by
  induction cs with
  | nil => rfl
  | cons c cs ih =>
    have slash : c ≠ '/' := by grind
    simp [pieces, slash, ih (by grind)]

theorem partsOf_append (front back : List Char) :
    partsOf (front ++ '/' :: back) = partsOf front ++ partsOf back := by
  simp [partsOf, pieces_append]

theorem partsOf_nil : partsOf [] = [] := rfl

theorem partsOf_name {name : String} (named : isName name = true) : partsOf name.toList = [name] := by
  obtain ⟨nonempty, -, -, plain⟩ := isName_iff.mp named
  simp [partsOf, pieces_plain plain, nonempty]

theorem partsOf_names {names : List String} (named : ∀ name ∈ names, isName name = true) :
    partsOf ("/".intercalate names).toList = names := by
  induction names with
  | nil => rfl
  | cons name names ih =>
    have first := partsOf_name (named name (by simp))
    cases names with
    | nil => simpa using first
    | cons next rest =>
      rw [String.intercalate_cons_cons, String.toList_append, String.toList_append]
      have slash : "/".toList = ['/'] := rfl
      rw [slash, List.append_assoc, List.singleton_append, partsOf_append, first,
        ih fun name member => named name (by simp [member]), List.singleton_append]

theorem partsOf_join (root : String) {below : List String} (more : below ≠ [])
    (named : ∀ name ∈ below, isName name = true) :
    partsOf (join root below).toList = partsOf root.toList ++ below := by
  have joined : (join root below).toList = root.toList ++
      (if root.toList.getLast? = some '/' then [] else ['/']) ++ ("/".intercalate below).toList := by
    by_cases slash : root.toList.getLast? = some '/' <;> simp [join, more, slash]
  rw [joined]
  by_cases slash : root.toList.getLast? = some '/'
  next =>
    obtain ⟨front, ends⟩ := List.getLast?_eq_some_iff.mp slash
    rw [if_pos slash, ends, List.append_nil, List.append_assoc, List.singleton_append,
      partsOf_append, partsOf_append, partsOf_names named, partsOf_nil, List.append_nil]
  next =>
    rw [if_neg slash, List.append_assoc, List.singleton_append, partsOf_append, partsOf_names named]

theorem withoutDots_append {front : List String} (nonempty : front ≠ []) (back : List String) :
    withoutDots (front ++ back) = withoutDots front ++ back.filter (· ≠ ".") := by
  cases front with
  | nil => exact absurd rfl nonempty
  | cons first rest => simp [withoutDots]

-- A text in two: its start and its names, and what a slash at its end stands for.
theorem ofText_eq (text : String) : ∃ dots : List String, (∀ part ∈ dots, part = ".") ∧
    ofText text = (if text.toList.head? = some '/' then ["/"] else []) ++ partsOf text.toList ++ dots := by
  refine ⟨_, ?_, by simp only [ofText, partsOf, beq_iff_eq]; rfl⟩
  intro part member
  split at member
  · exact List.mem_singleton.mp member
  · cases member

theorem opening_ne_nil {root : String} (rooted : root ≠ "") :
    (if root.toList.head? = some '/' then ["/"] else []) ++ partsOf root.toList ≠ [] := by
  by_cases slash : root.toList.head? = some '/'
  next => simp [slash]
  next =>
    obtain ⟨c, cs, known⟩ := List.exists_cons_of_ne_nil (fun none => rooted (String.toList_eq_nil_iff.mp none))
    have other : c ≠ '/' := by simpa [known] using slash
    obtain ⟨piece, member, inside⟩ : ∃ piece ∈ pieces (c :: cs), c ∈ piece :=
      mem_pieces List.mem_cons_self other
    have part : String.ofList piece ∈ partsOf root.toList := by
      rw [known]
      exact List.mem_map_of_mem (List.mem_filter.mpr ⟨member, by simp [List.ne_nil_of_mem inside]⟩)
    simp [List.ne_nil_of_mem part]

theorem components_join {root : String} (rooted : root ≠ "") {below : List String}
    (named : ∀ name ∈ below, isName name = true) :
    components (join root below) = components root ++ below := by
  by_cases more : below = []
  next => simp [join, more]
  next =>
    obtain ⟨dots, only, whole⟩ := ofText_eq root
    obtain ⟨dots', only', whole'⟩ := ofText_eq (join root below)
    have start : (join root below).toList.head? = root.toList.head? := by
      cases known : root.toList with
      | nil => exact absurd (String.toList_eq_nil_iff.mp known) rooted
      | cons c cs => simp [join, more, known]
    have cleared : ∀ parts : List String, (∀ part ∈ parts, part = ".") →
        parts.filter (· ≠ ".") = [] := by
      intro parts only
      simpa using only
    have names : below.filter (· ≠ ".") = below := by
      rw [List.filter_eq_self]
      intro name member
      simpa using (isName_iff.mp (named name member)).2.1
    have opening := opening_ne_nil rooted
    rw [components, components, whole, whole', start, partsOf_join root more named, ← List.append_assoc,
      List.append_assoc _ below, withoutDots_append opening, withoutDots_append opening,
      List.filter_append, names, cleared dots only, cleared dots' only', List.append_nil, List.append_nil]

theorem map_utf8_lt {a b : List String} (less : a < b) : a.map Options.utf8 < b.map Options.utf8 := by
  induction a generalizing b with
  | nil =>
    cases b with
    | nil => exact absurd less (List.not_lt_nil _)
    | cons => exact List.nil_lt_cons _ _
  | cons x a ih =>
    cases b with
    | nil => exact absurd less (List.not_lt_nil _)
    | cons y b =>
      rw [List.map_cons, List.map_cons, List.cons_lt_cons_iff]
      rcases List.cons_lt_cons_iff.mp less with first | ⟨rfl, later⟩
      · exact .inl (Options.utf8_lt first)
      · exact .inr ⟨rfl, ih later⟩

theorem precedes_join {root : String} (rooted : root ≠ "") {a b : List String}
    (namedA : ∀ name ∈ a, isName name = true) (namedB : ∀ name ∈ b, isName name = true)
    (less : a < b) : Precedes (join root a) (join root b) := by
  rw [Precedes, components_join rooted namedA, components_join rooted namedB, List.map_append,
    List.map_append]
  exact List.append_left_lt (map_utf8_lt less)

theorem atMost_iff {a b : List String} : atMost a b = true ↔ ¬ b < a := by
  induction a generalizing b with
  | nil => simp [atMost]
  | cons x a ih =>
    cases b with
    | nil => simp [atMost]
    | cons y b =>
      rw [atMost, List.cons_lt_cons_iff]
      by_cases same : x = y
      · simp [same, ih]
      · rw [if_neg (by simpa using same), decide_eq_true_iff]
        constructor
        · rintro less (back | ⟨equal, -⟩)
          · exact lt_asymm less back
          · exact same equal.symm
        · exact fun none => lt_of_le_of_ne (not_lt.mp fun back => none (.inl back)) same

end Path

end Rsx
