import Rsx.Project
import Rsx.Proofs.Paths
import Mathlib.Data.List.Nodup

set_option autoImplicit false

namespace Rsx

namespace FileTree

inductive WellNamed : FileTree → Prop where
  | file (content : ByteArray) : WellNamed (file content)
  | folder {entries : List (String × FileTree)} (distinct : (entries.map Prod.fst).Nodup)
      (named : ∀ entry ∈ entries, Path.isName entry.1 = true)
      (below : ∀ entry ∈ entries, WellNamed entry.2) : WellNamed (folder entries)

-- Trees that differ in the order of the entries in their folders only.
inductive Reordered : FileTree → FileTree → Prop where
  | file (content : ByteArray) : Reordered (file content) (file content)
  | folder {entries others : List (String × FileTree)}
      (names : (entries.map Prod.fst).Perm (others.map Prod.fst))
      (below : ∀ name t t', (name, t) ∈ entries → (name, t') ∈ others → Reordered t t') :
      Reordered (folder entries) (folder others)

variable {t t' : FileTree} {enter : String → Bool} {below : List String}

theorem lookup_eq_some_iff_mem {entries : List (String × FileTree)} {name : String}
    (distinct : (entries.map Prod.fst).Nodup) :
    entries.lookup name = some t ↔ (name, t) ∈ entries := by
  induction entries with
  | nil => simp
  | cons entry rest ih =>
    obtain ⟨first, found⟩ := entry
    obtain ⟨other, distinct⟩ := List.nodup_cons.mp distinct
    by_cases same : name = first
    next =>
      subst same
      have absent : (name, t) ∉ rest := fun member => other (List.mem_map.mpr ⟨_, member, rfl⟩)
      simp [absent, eq_comm]
    next =>
      simp [List.lookup_cons, beq_false_of_ne same, ih distinct, same]

theorem mem_filesIn {entries : List (String × FileTree)} : below ∈ filesIn enter entries ↔
    ∃ name t rest, (name, t) ∈ entries ∧ (t.isFolder = true → enter name = true) ∧
      rest ∈ filesBelow enter t ∧ below = name :: rest := by
  induction entries with
  | nil => simp [filesIn]
  | cons entry rest ih =>
    obtain ⟨name, t⟩ := entry
    have here : below ∈ (if t.isFolder && !enter name then [] else (filesBelow enter t).map (name :: ·)) ↔
        (t.isFolder = true → enter name = true) ∧ ∃ rest ∈ filesBelow enter t, below = name :: rest := by
      cases t.isFolder <;> cases enter name <;> simp [eq_comm]
    rw [filesIn, List.mem_append, ih, here]
    constructor
    · rintro (⟨entered, back, member, rfl⟩ | ⟨other, x, back, present, entered, member, rfl⟩)
      · exact ⟨name, t, back, List.mem_cons_self, entered, member, rfl⟩
      · exact ⟨other, x, back, List.mem_cons_of_mem _ present, entered, member, rfl⟩
    · rintro ⟨other, x, back, present, entered, member, rfl⟩
      rcases List.mem_cons.mp present with same | later
      · cases same
        exact .inl ⟨entered, back, member, rfl⟩
      · exact .inr ⟨other, x, back, later, entered, member, rfl⟩

theorem entered_iff {name : String} {rest : List String}
    (stands : ∃ content, t.get? rest = some (file content)) :
    (∀ folder ∈ (name :: rest).dropLast, enter folder = true) ↔
      (t.isFolder = true → enter name = true) ∧ ∀ folder ∈ rest.dropLast, enter folder = true := by
  obtain ⟨content, stands⟩ := stands
  cases rest with
  | nil =>
    cases stands
    simp [isFolder]
  | cons next more =>
    cases t with
    | file _ => cases stands
    | folder entries => simp [isFolder]

theorem mem_filesBelow (named : t.WellNamed) : below ∈ filesBelow enter t ↔
    (∃ content, t.get? below = some (file content)) ∧ ∀ name ∈ below.dropLast, enter name = true := by
  induction named generalizing below with
  | file content =>
    cases below with
    | nil => simp [filesBelow, get?]
    | cons name rest => simp [filesBelow, get?, child?]
  | folder distinct _ wellNamed ih =>
    rw [filesBelow, mem_filesIn]
    cases below with
    | nil => simp [get?]
    | cons name rest =>
      rw [get?_cons_folder]
      constructor
      · rintro ⟨_, t, _, present, entered, member, same⟩
        cases same
        obtain ⟨stands, inner⟩ := (ih _ present).mp member
        rw [(lookup_eq_some_iff_mem distinct).mpr present]
        exact ⟨stands, (entered_iff stands).mpr ⟨entered, inner⟩⟩
      · rintro ⟨⟨content, stands⟩, allowed⟩
        obtain ⟨t, known, stands⟩ := Option.bind_eq_some_iff.mp stands
        have present := (lookup_eq_some_iff_mem distinct).mp known
        obtain ⟨entered, inner⟩ := (entered_iff ⟨content, stands⟩).mp allowed
        exact ⟨name, t, rest, present, entered, (ih _ present).mpr ⟨⟨content, stands⟩, inner⟩, rfl⟩

theorem nodup_filesBelow (named : t.WellNamed) : (filesBelow enter t).Nodup := by
  induction named with
  | file content => simp [filesBelow]
  | @folder entries distinct named wellNamed ih =>
    rw [filesBelow]
    clear wellNamed
    induction entries with
    | nil => simp [filesIn]
    | cons entry rest inner =>
      obtain ⟨name, t⟩ := entry
      obtain ⟨other, distinct⟩ := List.nodup_cons.mp distinct
      have own : ((filesBelow enter t).map (name :: ·)).Nodup :=
        (ih (name, t) List.mem_cons_self).map List.cons_injective
      have apart : ∀ a ∈ (filesBelow enter t).map (name :: ·), ∀ b ∈ filesIn enter rest, a ≠ b := by
        rintro a mapped b member rfl
        obtain ⟨back, _, rfl⟩ := List.mem_map.mp mapped
        obtain ⟨_, x, _, present, _, _, same⟩ := mem_filesIn.mp member
        cases same
        exact other (List.mem_map.mpr ⟨_, present, rfl⟩)
      have later := inner distinct (fun e member => named e (List.mem_cons_of_mem _ member))
        fun e member => ih e (List.mem_cons_of_mem _ member)
      rw [filesIn]
      split
      · simpa using later
      · exact List.nodup_append.mpr ⟨own, later, apart⟩

theorem names_filesBelow (named : t.WellNamed) (member : below ∈ filesBelow enter t) :
    ∀ name ∈ below, Path.isName name = true := by
  induction named generalizing below with
  | file content =>
    cases List.mem_singleton.mp member
    simp
  | folder _ named _ ih =>
    rw [filesBelow, mem_filesIn] at member
    obtain ⟨first, t, rest, present, _, member, rfl⟩ := member
    intro name inside
    rcases List.mem_cons.mp inside with rfl | later
    · exact named _ present
    · exact ih _ present member name later

theorem wellNamed_of_get? {place : List String} {x : FileTree} (named : t.WellNamed)
    (stands : t.get? place = some x) : x.WellNamed := by
  induction place generalizing t with
  | nil =>
    cases stands
    exact named
  | cons name names ih =>
    cases named with
    | file content => cases stands
    | folder distinct _ below =>
      rw [get?_cons_folder] at stands
      obtain ⟨t, known, stands⟩ := Option.bind_eq_some_iff.mp stands
      exact ih (below _ ((lookup_eq_some_iff_mem distinct).mp known)) stands

theorem exists_entry {entries others : List (String × FileTree)}
    (names : (entries.map Prod.fst).Perm (others.map Prod.fst)) {name : String}
    (member : (name, t') ∈ others) : ∃ t, (name, t) ∈ entries := by
  have listed : name ∈ others.map Prod.fst := List.mem_map.mpr ⟨_, member, rfl⟩
  simpa using names.mem_iff.mpr listed

theorem Reordered.refl (named : t.WellNamed) : Reordered t t := by
  induction named with
  | file content => exact .file content
  | @folder entries distinct _ _ ih =>
    refine .folder (.refl _) fun name t t' member member' => ?_
    have known := (lookup_eq_some_iff_mem distinct).mpr member
    cases known.symm.trans ((lookup_eq_some_iff_mem distinct).mpr member')
    exact ih _ member

-- The entries of one folder in another order.
theorem reordered_of_perm {entries others : List (String × FileTree)}
    (named : (folder entries).WellNamed) (order : entries.Perm others) :
    Reordered (folder entries) (folder others) := by
  cases Reordered.refl named with
  | folder _ below =>
    exact .folder (order.map _) fun name t t' member member' =>
      below name t t' member (order.mem_iff.mpr member')

theorem Reordered.wellNamed (reordered : Reordered t t') (named : t.WellNamed) : t'.WellNamed := by
  induction reordered with
  | file content => exact .file content
  | folder names _ ih =>
    cases named with
    | folder distinct named below =>
      refine .folder (names.nodup_iff.mp distinct) (fun entry member => ?_) fun entry member => ?_
      · obtain ⟨t, before⟩ := exists_entry names member
        exact named (entry.1, t) before
      · obtain ⟨t, before⟩ := exists_entry names member
        exact ih _ _ _ before member (below _ before)

theorem Reordered.stands (reordered : Reordered t t') (named : t.WellNamed) (place : List String) :
    (t.get? place = none ∧ t'.get? place = none) ∨
      ∃ x x', t.get? place = some x ∧ t'.get? place = some x' ∧ Reordered x x' := by
  induction place generalizing t t' with
  | nil => exact .inr ⟨t, t', rfl, rfl, reordered⟩
  | cons name rest ih =>
    cases reordered with
    | file content => exact .inl ⟨rfl, rfl⟩
    | @folder entries others names below =>
      cases named with
      | folder distinct named wellNamed =>
        have distinct' := names.nodup_iff.mp distinct
        rw [get?_cons_folder, get?_cons_folder]
        cases known : entries.lookup name with
        | some x =>
          have present := (lookup_eq_some_iff_mem distinct).mp known
          obtain ⟨x', present'⟩ := exists_entry names.symm present
          rw [(lookup_eq_some_iff_mem distinct').mpr present']
          exact ih (below name x x' present present') (wellNamed _ present)
        | none =>
          cases known' : others.lookup name with
          | some x' =>
            obtain ⟨x, present⟩ := exists_entry names ((lookup_eq_some_iff_mem distinct').mp known')
            rw [(lookup_eq_some_iff_mem distinct).mpr present] at known
            cases known
          | none => exact .inl ⟨rfl, rfl⟩

theorem Reordered.follow (reordered : Reordered t t') (named : t.WellNamed) (here path : List String) :
    FileTree.follow t' here path = FileTree.follow t here path := by
  induction path generalizing here with
  | nil => rfl
  | cons part parts ih =>
    rw [FileTree.follow, FileTree.follow]
    rcases reordered.stands named here with ⟨none, none'⟩ | ⟨x, x', known, known', inner⟩
    · rw [none, none']
    · rw [known, known']
      cases inner with
      | file content => rfl
      | @folder entries others names below =>
        have missing : (others.lookup part).isNone = (entries.lookup part).isNone := by
          have next := reordered.stands named (here ++ [part])
          rw [get?_append, get?_append, known, known', Option.bind_some, Option.bind_some,
            get?_cons_folder, get?_cons_folder] at next
          have whole : ∀ o : Option FileTree, (o.bind fun x => x.get? []) = o := by
            intro o
            cases o <;> rfl
          rw [whole, whole] at next
          rcases next with ⟨none, none'⟩ | ⟨y, y', found, found', -⟩
          · rw [none, none']
          · rw [found, found']
            rfl
        simp only [missing, ih]

theorem Reordered.find (reordered : Reordered t t') (named : t.WellNamed) {path : List String}
    {x : FileTree} (found : t.find path = .ok x) : ∃ x', t'.find path = .ok x' ∧ Reordered x x' := by
  obtain ⟨checked, place, followed, known⟩ := find_ok.mp found
  rcases reordered.stands named place with ⟨none, -⟩ | ⟨y, x', same, known', inner⟩
  · rw [known] at none
    cases none
  · cases known.symm.trans same
    exact ⟨x', find_ok.mpr ⟨checked, place, (reordered.follow named [] path).trans followed, known'⟩, inner⟩

theorem Reordered.file_iff (reordered : Reordered t t') (named : t.WellNamed) (place : List String) :
    (∃ content, t'.get? place = some (.file content)) ↔ ∃ content, t.get? place = some (.file content) := by
  rcases reordered.stands named place with ⟨none, none'⟩ | ⟨x, x', known, known', inner⟩
  · rw [none, none']
  · rw [known, known']
    cases inner <;> simp

end FileTree

namespace Project

variable {filter : FileFilter} {root : String} {top top' : FileTree} {below : List String}

theorem isEntered_iff {name : String} :
    isEntered name = true ↔ name ∉ ["node_modules", ".git", "dist", "target"] := by
  simp [isEntered, skippedFolders]

theorem mem_sourcesOf (named : top.WellNamed) : below ∈ sourcesOf filter root top ↔
    (∃ content, top.get? below = some (.file content)) ∧
      (∀ folder ∈ below.dropLast, folder ∉ ["node_modules", ".git", "dist", "target"]) ∧
      filter.accepts (Path.join root below) = true := by
  simp only [sourcesOf, List.mem_mergeSort, List.mem_filter, FileTree.mem_filesBelow named,
    isEntered_iff, and_assoc]

theorem sourcesOf_increasing (named : top.WellNamed) :
    (sourcesOf filter root top).Pairwise (· < ·) := by
  have sorted : (sourcesOf filter root top).Pairwise fun a b => Path.atMost a b = true := by
    refine List.pairwise_mergeSort (fun a b c first later => ?_) (fun a b => ?_) _
    · rw [Path.atMost_iff, not_lt] at *
      exact le_trans first later
    · rw [Bool.or_eq_true, Path.atMost_iff, Path.atMost_iff, not_lt, not_lt]
      exact le_total a b
  have distinct : (sourcesOf filter root top).Nodup :=
    (List.mergeSort_perm _ _).nodup_iff.mpr ((FileTree.nodup_filesBelow named).filter _)
  refine (sorted.and distinct).imp ?_
  rintro a b ⟨ordered, other⟩
  exact lt_of_le_of_ne (not_lt.mp (Path.atMost_iff.mp ordered)) other

theorem sourcesOf_reordered (reordered : FileTree.Reordered top top') (named : top.WellNamed) :
    sourcesOf filter root top' = sourcesOf filter root top := by
  have named' := reordered.wellNamed named
  have increasing : (sourcesOf filter root top).Pairwise (· < ·) := sourcesOf_increasing named
  have increasing' : (sourcesOf filter root top').Pairwise (· < ·) := sourcesOf_increasing named'
  refine List.Perm.eq_of_pairwise (fun a b _ _ less back => absurd less (lt_asymm back)) increasing'
    increasing ((List.perm_ext_iff_of_nodup ?_ ?_).mpr fun below => ?_)
  · exact increasing'.imp ne_of_lt
  · exact increasing.imp ne_of_lt
  · rw [mem_sourcesOf named, mem_sourcesOf named', reordered.file_iff named]

theorem discover_eq_ok {o : Options} {tree : FileTree} (rooted : root ≠ "")
    (found : tree.find (Path.ofText root) = .ok top) (compiled : FileFilter.ofOptions o = .ok filter) :
    discover o root tree = .ok (sourcesOf filter root top) := by
  have nonempty : root.isEmpty = false := by simpa using rooted
  simp [discover, found, nonempty, compiled, Bind.bind, Except.bind, pure, Except.pure]

/-- The paths that are found, for a root that leads somewhere and patterns that can be read. -/
theorem discovered_exactly {o : Options} {tree : FileTree} (rooted : root ≠ "")
    (named : tree.WellNamed) (found : tree.find (Path.ofText root) = .ok top)
    (compiled : FileFilter.ofOptions o = .ok filter) :
    ∃ sources, discover o root tree = .ok sources ∧
      (∀ below, below ∈ sources ↔ (∃ content, top.get? below = some (.file content)) ∧
        (∀ folder ∈ below.dropLast, folder ∉ ["node_modules", ".git", "dist", "target"]) ∧
        filter.accepts (Path.join root below) = true) ∧
      (sources.map (Path.join root)).Pairwise Path.Precedes ∧
      (sources.map (Path.join root)).Nodup ∧
      ∀ tree', tree.Reordered tree' → discover o root tree' = .ok sources := by
  obtain ⟨_, place, _, stands⟩ := FileTree.find_ok.mp found
  have inside : top.WellNamed := FileTree.wellNamed_of_get? named stands
  have names : ∀ below ∈ sourcesOf filter root top, ∀ name ∈ below, Path.isName name = true :=
    fun below member => FileTree.names_filesBelow inside
      (List.mem_filter.mp (List.mem_mergeSort.mp member)).1
  have ordered : ((sourcesOf filter root top).map (Path.join root)).Pairwise Path.Precedes := by
    refine List.pairwise_map.mpr ((sourcesOf_increasing inside).imp_of_mem ?_)
    exact fun member member' less => Path.precedes_join rooted (names _ member) (names _ member') less
  refine ⟨_, discover_eq_ok rooted found compiled, fun below => mem_sourcesOf inside, ordered, ?_, ?_⟩
  · refine ordered.imp fun before same => ?_
    subst same
    exact List.lt_irrefl _ before
  · intro tree' reordered
    obtain ⟨top', found', below⟩ := reordered.find named found
    rw [discover_eq_ok rooted found' compiled, sourcesOf_reordered below inside]

-- Names around `a`, in the order of their parts, and a folder that is not entered.
def listed : List (String × FileTree) :=
  [("a.rsx", .file .empty), ("node_modules", .folder [("d.rsx", .file .empty)]),
    ("a b.rsx", .file .empty), ("a", .folder [("z.rsx", .file .empty)])]

theorem discovered_exactly_relisted :
    ∃ sources, discover .default "." (.folder listed) = .ok sources ∧
      ["a", "z.rsx"] ∈ sources ∧ ["node_modules", "d.rsx"] ∉ sources ∧
      (sources.map (Path.join ".")).Pairwise Path.Precedes ∧
      discover .default "." (.folder listed.reverse) = .ok sources := by
  have named : (FileTree.folder listed).WellNamed := by
    refine .folder (by decide) (by decide) ?_
    simp only [listed, List.forall_mem_cons, List.not_mem_nil, false_imp_iff, implies_true, and_true]
    refine ⟨.file _, .folder (by decide) (by decide) ?_, .file _, .folder (by decide) (by decide) ?_⟩
    · simpa using .file _
    · simpa using .file _
  have rooted : "." ≠ "" := by decide
  have top : (FileTree.folder listed).find (Path.ofText ".") = .ok (.folder listed) := rfl
  have compiled : FileFilter.ofOptions .default = .ok ⟨[".rsx"], none, none⟩ := rfl
  obtain ⟨sources, found, exact, ordered, _, same⟩ := discovered_exactly rooted named top compiled
  have reordered := FileTree.reordered_of_perm named (List.reverse_perm listed).symm
  refine ⟨sources, found, (exact _).mpr ⟨⟨_, rfl⟩, by decide, by decide⟩, fun member => ?_, ordered,
    same _ reordered⟩
  exact ((exact _).mp member).2.1 "node_modules" (by decide) (by decide)

end Project

end Rsx
