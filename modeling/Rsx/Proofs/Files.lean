import Rsx.FileTree
import Mathlib.Data.List.Basic

set_option autoImplicit false

namespace Rsx

namespace Path

theorem mem_pieces {cs : List Char} {c : Char} (present : c ∈ cs) (other : c ≠ '/') :
    ∃ piece ∈ pieces cs, c ∈ piece := by
  induction cs with
  | nil => cases present
  | cons d cs ih =>
    rw [pieces]
    by_cases slash : (d == '/') = true
    · rw [if_pos slash]
      rcases List.mem_cons.mp present with rfl | later
      · exact absurd (eq_of_beq slash) other
      · obtain ⟨piece, member, inside⟩ := ih later
        exact ⟨piece, List.mem_cons_of_mem _ member, inside⟩
    · rw [if_neg slash]
      rcases List.mem_cons.mp present with rfl | later
      · cases pieces cs with
        | nil => exact ⟨[c], by simp, by simp⟩
        | cons p ps => exact ⟨c :: p, by simp, by simp⟩
      · obtain ⟨piece, member, inside⟩ := ih later
        cases known : pieces cs with
        | nil =>
          rw [known] at member
          cases member
        | cons p ps =>
          rw [known] at member
          rcases List.mem_cons.mp member with rfl | behind
          · exact ⟨d :: piece, by simp, by simp [inside]⟩
          · exact ⟨piece, by simp [behind], inside⟩

theorem mem_ofText {text : String} {c : Char} (present : c ∈ text.toList) (other : c ≠ '/') :
    ∃ part ∈ ofText text, c ∈ part.toList := by
  obtain ⟨piece, member, inside⟩ := mem_pieces present other
  refine ⟨String.ofList piece, ?_, by simpa using inside⟩
  have nonempty : piece ≠ [] := List.ne_nil_of_mem inside
  simp only [ofText, List.mem_append, List.mem_map, List.mem_filter]
  exact .inl (.inr ⟨piece, ⟨member, by simp [nonempty]⟩, rfl⟩)

theorem plain_of_check_part {path : List String} (checked : check path = .ok ()) {part : String}
    (member : part ∈ path) : '\x00' ∉ part.toList := by
  intro inside
  have found : (path.any fun p => p.toList.contains '\x00') = true := by
    rw [List.any_eq_true]
    exact ⟨part, member, by simpa using inside⟩
  rw [check, if_pos found] at checked
  cases checked

theorem plain_of_check {text : String} (checked : check (ofText text) = .ok ()) :
    '\x00' ∉ text.toList := by
  intro present
  obtain ⟨part, member, inside⟩ := mem_ofText present (by decide)
  exact plain_of_check_part checked member inside

theorem size_append (front rest : List String) : size front ≤ size (front ++ rest) := by
  have grows : ∀ n, n ≤ rest.foldl (fun n p => n + p.utf8ByteSize + 1) n := by
    induction rest with
    | nil => exact fun n => Nat.le_refl n
    | cons p rest ih =>
      intro n
      have later := ih (n + p.utf8ByteSize + 1)
      rw [List.foldl_cons]
      omega
  rw [size, size, List.foldl_append]
  exact grows _

theorem check_front {front rest : List String} (checked : check (front ++ rest) = .ok ()) :
    check front = .ok () := by
  unfold check at checked ⊢
  split at checked
  next => cases checked
  next clear =>
    split at checked
    next => cases checked
    next short =>
      have shorter := size_append front rest
      have plain : ¬ (front.any fun p => p.toList.contains '\x00') = true := by
        intro found
        exact clear (by rw [List.any_append, found, Bool.true_or])
      rw [if_neg plain, if_neg (by omega)]

end Path

namespace FileTree

variable {t : FileTree}

theorem lookup_setEntry_same (name : String) (new : FileTree) (entries : List (String × FileTree)) :
    (setEntry name (some new) entries).lookup name = some new := by
  induction entries with
  | nil => simp [setEntry]
  | cons entry rest ih =>
    obtain ⟨n, x⟩ := entry
    by_cases same : (n == name) = true
    · simp [setEntry, same]
    · have other : (name == n) = false := by grind
      simp [setEntry, same, List.lookup_cons, other, ih]

theorem lookup_setEntry_other {name other : String} (differs : other ≠ name) (new : Option FileTree)
    (entries : List (String × FileTree)) :
    (setEntry name new entries).lookup other = entries.lookup other := by
  have apart : (other == name) = false := by simpa using differs
  induction entries with
  | nil => cases new <;> simp [setEntry, List.lookup_cons, apart]
  | cons entry rest ih =>
    obtain ⟨n, x⟩ := entry
    by_cases same : (n == name) = true
    · cases eq_of_beq same
      cases new <;> simp [setEntry, List.lookup_cons, apart]
    · simp [setEntry, same, List.lookup_cons, ih]

theorem mem_setEntry {name : String} {new : Option FileTree} {entries : List (String × FileTree)}
    {entry : String × FileTree} (member : entry ∈ setEntry name new entries) :
    entry ∈ entries ∨ ∃ x, new = some x ∧ entry = (name, x) := by
  induction entries with
  | nil => cases new <;> simp_all [setEntry]
  | cons first rest ih =>
    obtain ⟨n, x⟩ := first
    by_cases same : (n == name) = true
    · cases new <;> simp_all [setEntry]
      grind
    · rw [setEntry.eq_def] at member
      simp only [same] at member
      grind

def isFolderAt (t : FileTree) (place : List String) : Prop :=
  ∃ entries, t.get? place = some (folder entries)

theorem get?_append (t : FileTree) (front rest : List String) :
    t.get? (front ++ rest) = (t.get? front).bind fun x => x.get? rest := by
  induction front generalizing t with
  | nil => rfl
  | cons name names ih =>
    rw [List.cons_append, get?, get?]
    cases t.child? name with
    | none => rfl
    | some x => exact ih x

theorem set_cons_folder (new : Option FileTree) (name : String) {names : List String}
    (more : names ≠ []) (entries : List (String × FileTree)) :
    set new (name :: names) (folder entries) =
      match entries.lookup name with
      | some t => folder (setEntry name (some (set new names t)) entries)
      | none => folder entries := by
  cases names with
  | nil => cases more rfl
  | cons => rfl

theorem get?_set {inside : List String} {name : String} {entries : List (String × FileTree)}
    (new : Option FileTree) (stands : t.get? inside = some (folder entries)) :
    (t.set new (inside ++ [name])).get? inside = some (folder (setEntry name new entries)) := by
  induction inside generalizing t with
  | nil =>
    cases stands
    rfl
  | cons first names ih =>
    cases t with
    | file content => cases stands
    | folder top =>
      rw [get?, child?] at stands
      cases known : top.lookup first with
      | none =>
        rw [known] at stands
        cases stands
      | some below =>
        rw [known] at stands
        rw [List.cons_append, set_cons_folder new first (by simp), known, get?, child?,
          lookup_setEntry_same]
        exact ih stands

theorem get?_cons_folder (name : String) (names : List String) (entries : List (String × FileTree)) :
    (folder entries).get? (name :: names) = (entries.lookup name).bind fun x => x.get? names := by
  rw [get?, child?]
  cases entries.lookup name <;> rfl

theorem isFolderAt_front (front : List String) {rest : List String}
    (stands : t.isFolderAt (front ++ rest)) : t.isFolderAt front := by
  obtain ⟨entries, found⟩ := stands
  rw [get?_append] at found
  obtain ⟨x, first, later⟩ := Option.bind_eq_some_iff.mp found
  cases x with
  | folder below => exact ⟨below, first⟩
  | file content => cases rest <;> cases later

theorem exists_set_folder (new : Option FileTree) (name : String) (names : List String)
    (top : List (String × FileTree)) : ∃ entries, (folder top).set new (name :: names) = folder entries := by
  cases names with
  | nil => exact ⟨_, rfl⟩
  | cons next rest =>
    rw [set_cons_folder new name (by simp)]
    cases top.lookup name with
    | none => exact ⟨_, rfl⟩
    | some below => exact ⟨_, rfl⟩

theorem get?_set_other (new : Option FileTree) {name first : String} (differs : first ≠ name)
    (names others : List String) (top : List (String × FileTree)) :
    ((folder top).set new (name :: names)).get? (first :: others) =
      (folder top).get? (first :: others) := by
  have elsewhere : ∀ x, (folder (setEntry name x top)).get? (first :: others) =
      (folder top).get? (first :: others) := fun x => by
    rw [get?_cons_folder, get?_cons_folder, lookup_setEntry_other differs]
  cases names with
  | nil => exact elsewhere new
  | cons next rest =>
    rw [set_cons_folder new name (by simp)]
    cases top.lookup name with
    | none => rfl
    | some below => exact elsewhere _

theorem get?_set_same (new : Option FileTree) {name : String} {names : List String} (more : names ≠ [])
    {top : List (String × FileTree)} {below : FileTree} (known : top.lookup name = some below)
    (others : List String) :
    ((folder top).set new (name :: names)).get? (name :: others) = (below.set new names).get? others := by
  rw [set_cons_folder new name more, known, get?_cons_folder, lookup_setEntry_same, Option.bind_some]

theorem not_isFolderAt_below {name : String} {names : List String} {top : List (String × FileTree)}
    {below : FileTree} (known : top.lookup name = some below)
    (notFolder : ¬ (folder top).isFolderAt (name :: names)) : ¬ below.isFolderAt names := by
  rintro ⟨entries, there⟩
  refine notFolder ⟨entries, ?_⟩
  rw [get?_cons_folder, known, Option.bind_some, there]

theorem isFolderAt_set {place : List String} (new : Option FileTree) (notFolder : ¬ t.isFolderAt place)
    {other : List String} (stands : t.isFolderAt other) : (t.set new place).isFolderAt other := by
  induction place generalizing t other with
  | nil => exact absurd (isFolderAt_front [] stands) notFolder
  | cons name names ih =>
    cases t with
    | file content => exact stands
    | folder top =>
      cases other with
      | nil =>
        obtain ⟨entries, same⟩ := exists_set_folder new name names top
        exact ⟨entries, by rw [same, get?]⟩
      | cons first others =>
        obtain ⟨entries, found⟩ := stands
        by_cases same : first = name
        · subst same
          have more : names ≠ [] := by
            rintro rfl
            exact notFolder (isFolderAt_front [first] ⟨entries, found⟩)
          rw [get?_cons_folder] at found
          obtain ⟨below, known, found⟩ := Option.bind_eq_some_iff.mp found
          obtain ⟨inside, there⟩ := ih (not_isFolderAt_below known notFolder) ⟨entries, found⟩
          exact ⟨inside, by rwa [get?_set_same new more known]⟩
        · exact ⟨entries, by rwa [get?_set_other new same]⟩

theorem get?_file (content : ByteArray) {names : List String} (more : names ≠ []) :
    (file content).get? names = none := by
  cases names with
  | nil => exact absurd rfl more
  | cons => rfl

theorem file_set_iff {place : List String} (new : ByteArray) (notFolder : ¬ t.isFolderAt place)
    {other : List String} (differs : other ≠ place) (content : ByteArray) :
    (t.set (some (file new)) place).get? other = some (file content) ↔
      t.get? other = some (file content) := by
  induction place generalizing t other with
  | nil =>
    cases t with
    | file old => rw [set, Option.getD_some, get?_file new differs, get?_file old differs]
    | folder entries => exact absurd ⟨entries, rfl⟩ notFolder
  | cons name names ih =>
    cases t with
    | file old => cases names <;> rfl
    | folder top =>
      cases other with
      | nil =>
        obtain ⟨entries, same⟩ := exists_set_folder (some (file new)) name names top
        simp [same, get?]
      | cons first others =>
        by_cases same : first = name
        next =>
          subst same
          cases known : top.lookup first with
          | none =>
            cases names with
            | nil =>
              have more : others ≠ [] := fun none => differs (by rw [none])
              simp [set, get?_cons_folder, lookup_setEntry_same, known, get?_file new more]
            | cons next rest => rw [set_cons_folder _ first (by simp), known]
          | some below =>
            have inner := not_isFolderAt_below known notFolder
            have apart : others ≠ names := fun same => differs (by rw [same])
            rw [get?_cons_folder, known, Option.bind_some, ← ih inner apart]
            cases names with
            | nil => simp [set, get?_cons_folder, lookup_setEntry_same]
            | cons next rest => rw [get?_set_same _ (by simp) known]
        next => rw [get?_set_other _ same]

theorem isFolderAt_of_follow {here path place : List String} (found : follow t here path = .ok place)
    (stands : t.isFolderAt place) : t.isFolderAt here := by
  cases path with
  | nil =>
    cases found
    exact stands
  | cons part parts =>
    rw [follow] at found
    split at found
    next entries known => exact ⟨entries, known⟩
    next => cases found
    next => cases found

theorem follow_of_folders {t' : FileTree} (kept : ∀ place, t.isFolderAt place → t'.isFolderAt place)
    {here path place : List String} (found : follow t here path = .ok place)
    (stands : t.isFolderAt place) : follow t' here path = .ok place := by
  induction path generalizing here with
  | nil => exact found
  | cons part parts ih =>
    obtain ⟨entries, known⟩ := isFolderAt_of_follow found stands
    obtain ⟨entries', known'⟩ := kept here ⟨entries, known⟩
    rw [follow, known] at found
    rw [follow, known']
    simp only at found ⊢
    by_cases dot : (part == ".") = true
    · rw [if_pos dot] at found ⊢
      exact ih found
    rw [if_neg dot] at found ⊢
    by_cases dots : (part == "..") = true
    · rw [if_pos dots] at found ⊢
      exact ih found
    rw [if_neg dots] at found ⊢
    split_ifs at found with long missing
    -- The next place is a folder in both trees, so its name is still there.
    obtain ⟨below, there⟩ := kept _ (isFolderAt_of_follow found stands)
    rw [get?_append, known', Option.bind_some, get?_cons_folder] at there
    obtain ⟨x, present, -⟩ := Option.bind_eq_some_iff.mp there
    rw [if_neg long, present, Option.isNone_some, if_neg (by decide)]
    exact ih found

theorem follow_append (here front : List String) (part : String) :
    follow t here (front ++ [part]) = follow t here front >>= fun inside => follow t inside [part] := by
  induction front generalizing here with
  | nil => rfl
  | cons first rest ih =>
    rw [List.cons_append, follow, follow]
    split
    next entries known =>
      split_ifs
      · exact ih here
      · exact ih here.dropLast
      · rfl
      · rfl
      · exact ih _
    next => rfl
    next => rfl

theorem follow_name {inside : List String} {name : String} {place : List String}
    (isName : name ≠ "." ∧ name ≠ "..") (found : follow t inside [name] = .ok place) :
    place = inside ++ [name] ∧ ∃ entries, t.get? inside = some (folder entries) := by
  rw [follow] at found
  split at found
  next entries known =>
    simp only [beq_iff_eq, isName.1, isName.2, if_false] at found
    split_ifs at found
    cases found
    exact ⟨rfl, entries, known⟩
  next => cases found
  next => cases found

theorem find_ok {path : List String} {found : FileTree} :
    t.find path = .ok found ↔
      Path.check path = .ok () ∧ ∃ place, follow t [] path = .ok place ∧ t.get? place = some found := by
  unfold find
  cases Path.check path with
  | error e => simp [Bind.bind, Except.bind]
  | ok =>
    cases follow t [] path with
    | error e => simp [Bind.bind, Except.bind]
    | ok place => cases known : t.get? place <;> simp [Bind.bind, Except.bind, known, pure, Except.pure,
        throw, throwThe, MonadExceptOf.throw]

theorem readText_of_find {path : List String} {content : ByteArray} {text : String}
    (found : t.find path = .ok (.file content)) (decoded : String.fromUTF8? content = some text) :
    t.readText path = .ok text := by
  simp [readText, found, decoded, Bind.bind, Except.bind, pure, Except.pure]

theorem exists_find_of_readText {path : List String} {text : String}
    (read : t.readText path = .ok text) : ∃ found, t.find path = .ok found := by
  unfold readText at read
  cases found : t.find path with
  | error e =>
    rw [found] at read
    cases read
  | ok x => exact ⟨x, rfl⟩

theorem find_entry {path : List String} {name : String} {found : FileTree}
    (isName : name ≠ "." ∧ name ≠ "..") (there : t.find (path ++ [name]) = .ok found) :
    ∃ inside entries, Path.check path = .ok () ∧ follow t [] path = .ok inside ∧
      t.get? inside = some (folder entries) ∧ follow t [] (path ++ [name]) = .ok (inside ++ [name]) ∧
      entries.lookup name = some found := by
  obtain ⟨checked, place, followed, stands⟩ := find_ok.mp there
  have split := followed
  rw [follow_append] at split
  cases first : follow t [] path with
  | error e =>
    rw [first] at split
    cases split
  | ok inside =>
    rw [first] at split
    obtain ⟨rfl, entries, known⟩ := follow_name isName split
    rw [get?_append, known, Option.bind_some, get?_cons_folder] at stands
    obtain ⟨x, present, same⟩ := Option.bind_eq_some_iff.mp stands
    cases same
    exact ⟨inside, entries, Path.check_front checked, rfl, known, followed, present⟩

def entriesAt (path : List String) (t : FileTree) : List (String × FileTree) :=
  match t.find path with
  | .ok (folder entries) => entries
  | _ => []

theorem entriesAt_eq {path inside : List String} {entries : List (String × FileTree)}
    (checked : Path.check path = .ok ()) (followed : follow t [] path = .ok inside)
    (stands : t.get? inside = some (folder entries)) : t.entriesAt path = entries := by
  rw [entriesAt, find_ok.mpr ⟨checked, inside, followed, stands⟩]

theorem mem_entriesAt {path : List String} {name : String} {found : FileTree}
    (isName : name ≠ "." ∧ name ≠ "..") (there : t.find (path ++ [name]) = .ok found) :
    (name, found) ∈ t.entriesAt path := by
  obtain ⟨inside, entries, checked, followed, stands, -, present⟩ := find_entry isName there
  rw [entriesAt_eq checked followed stands]
  obtain ⟨front, rest, split, -⟩ := List.lookup_eq_some_iff.mp present
  simp [split]

theorem entriesAt_set {path inside : List String} {name : String}
    {entries : List (String × FileTree)} (new : Option FileTree)
    (checked : Path.check path = .ok ()) (followed : follow t [] path = .ok inside)
    (stands : t.get? inside = some (folder entries)) (notFolder : ¬ t.isFolderAt (inside ++ [name])) :
    (t.set new (inside ++ [name])).entriesAt path = setEntry name new entries := by
  refine entriesAt_eq checked ?_ (get?_set new stands)
  exact follow_of_folders (fun place => isFolderAt_set new notFolder) followed ⟨entries, stands⟩

theorem placeForFile_ok {path : List String} {name : String} {place : List String}
    (placed : t.placeForFile (path ++ [name]) = .ok place) :
    (Path.check (path ++ [name]) = .ok () ∧ name.utf8ByteSize ≤ longestName) ∧
      ∃ inside entries, follow t [] path = .ok inside ∧ t.get? inside = some (folder entries) ∧
        place = inside ++ [name] ∧ ¬ t.isFolderAt (inside ++ [name]) := by
  unfold placeForFile at placed
  rw [List.dropLast_concat, List.getLast?_concat] at placed
  cases checked : Path.check (path ++ [name]) with
  | error e =>
    rw [checked] at placed
    cases placed
  | ok =>
    rw [checked] at placed
    cases followed : follow t [] path with
    | error e =>
      rw [followed] at placed
      cases placed
    | ok inside =>
      rw [followed] at placed
      simp only [Bind.bind, Except.bind] at placed
      split at placed
      next name' entries last stands =>
        cases last
        split_ifs at placed with special long taken
        cases placed
        refine ⟨⟨rfl, Nat.le_of_not_lt long⟩, inside, entries, rfl, stands, rfl, ?_⟩
        rintro ⟨below, found⟩
        rw [get?_append, stands, Option.bind_some, get?_cons_folder] at found
        obtain ⟨x, present, same⟩ := Option.bind_eq_some_iff.mp found
        cases same
        exact taken (by rw [present]; rfl)
      next => cases placed
      next => cases placed

theorem find_of_entry {path inside : List String} {name : String} {found : FileTree}
    {entries : List (String × FileTree)} (isName : name ≠ "." ∧ name ≠ "..")
    (checked : Path.check (path ++ [name]) = .ok ()) (short : name.utf8ByteSize ≤ longestName)
    (followed : follow t [] path = .ok inside) (stands : t.get? inside = some (folder entries))
    (present : entries.lookup name = some found) : t.find (path ++ [name]) = .ok found := by
  refine find_ok.mpr ⟨checked, inside ++ [name], ?_, ?_⟩
  · rw [follow_append, followed]
    change follow t inside [name] = _
    rw [follow, stands]
    simp [isName.1, isName.2, present, Nat.not_lt.mpr short, follow]
  · rw [get?_append, stands, Option.bind_some, get?_cons_folder, present]
    rfl

theorem mem_entriesAt_writeFile {path : List String} {name : String} {content : ByteArray}
    {t' : FileTree} (written : t.writeFile (path ++ [name]) content = .ok t')
    {entry : String × FileTree} (member : entry ∈ t'.entriesAt path) :
    entry ∈ t.entriesAt path ∨ entry = (name, .file content) := by
  unfold writeFile at written
  cases placed : t.placeForFile (path ++ [name]) with
  | error e =>
    rw [placed] at written
    cases written
  | ok place =>
    obtain ⟨⟨usable, -⟩, inside, entries, followed, stands, rfl, notFolder⟩ := placeForFile_ok placed
    have checked := Path.check_front usable
    rw [placed] at written
    cases written
    rw [entriesAt_set _ checked followed stands notFolder] at member
    rw [entriesAt_eq checked followed stands]
    rcases mem_setEntry member with old | ⟨x, same, rfl⟩
    · exact .inl old
    · cases same
      exact .inr rfl

theorem mem_entriesAt_removeFile {path : List String} {name : String} {t' : FileTree}
    (isName : name ≠ "." ∧ name ≠ "..") (removed : t.removeFile (path ++ [name]) = .ok t')
    {entry : String × FileTree} (member : entry ∈ t'.entriesAt path) :
    entry ∈ t.entriesAt path := by
  unfold removeFile at removed
  cases there : t.find (path ++ [name]) with
  | error e =>
    rw [there] at removed
    cases removed
  | ok found =>
    obtain ⟨inside, entries, checked, followed, stands, whole, present⟩ := find_entry isName there
    rw [there] at removed
    cases found with
    | folder below => cases removed
    | file content =>
      rw [whole] at removed
      cases removed
      have notFolder : ¬ t.isFolderAt (inside ++ [name]) := by
        rintro ⟨below, found⟩
        rw [get?_append, stands, Option.bind_some, get?_cons_folder, present] at found
        cases found
      rw [entriesAt_set none checked followed stands notFolder] at member
      rw [entriesAt_eq checked followed stands]
      rcases mem_setEntry member with old | ⟨x, impossible, -⟩
      · exact old
      · cases impossible

end FileTree

end Rsx
