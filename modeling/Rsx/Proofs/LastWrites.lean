import Rsx.Sha256
import Rsx.Proofs.Paths
import Rsx.Proofs.Transparency

set_option autoImplicit false

namespace Rsx

namespace Sha256

theorem plain_toDigits (n : Nat) : '\x00' ∉ Nat.toDigits 16 n := by
  have plain : ∀ k, Nat.digitChar k ≠ '\x00' := fun k => Nat.digitChar_ne '\x00' (by decide)
  induction n using Nat.strongRecOn with
  | ind n ih =>
    rw [Nat.toDigits_eq_if (by decide)]
    split
    · rw [List.mem_singleton]
      exact fun same => plain n same.symm
    · have smaller : n / 16 < n := by omega
      rw [List.mem_append, List.mem_singleton]
      rintro (before | last)
      · exact ih _ smaller before
      · exact plain _ last.symm

theorem plain_hex (bytes : List UInt8) : '\x00' ∉ (hex bytes).toList := by
  rw [hex, String.toList_ofList, List.mem_flatMap]
  rintro ⟨w, _, inside⟩
  rcases List.mem_append.mp inside with zeros | digits
  · exact absurd (List.eq_of_mem_replicate zeros) (by decide)
  · exact plain_toDigits _ digits

end Sha256

namespace Cache

def entryName (path : String) : String := flatten path ++ ".json"

-- A cache that has been opened on a folder, at any time and with any options.
def OpenedOn (digest : List UInt8 → String) (folder : String) (c : Cache) : Prop :=
  ∃ (o : Options) (tree : FileTree), (openAt digest folder o tree).2 = .ok c

variable {digest : List UInt8 → String} {folder : String} {c d : Cache} {path source : String}

theorem OpenedOn.folder_eq (opened : c.OpenedOn digest folder) : c.folder = Path.ofText folder := by
  obtain ⟨o, tree, made⟩ := opened
  unfold openAt at made
  split at made <;> cases made
  rfl

theorem OpenedOn.entryPath_eq (opened : c.OpenedOn digest folder) (path : String) :
    c.entryPath path = Path.ofText folder ++ [entryName path] := by
  rw [entryPath, opened.folder_eq, entryName]

theorem OpenedOn.fingerprint_eq (opened : c.OpenedOn digest folder) :
    ∃ o : Options, c.fingerprint = o.fingerprint digest := by
  obtain ⟨o, tree, made⟩ := opened
  unfold openAt at made
  split at made <;> cases made
  exact ⟨o, rfl⟩

theorem flatten_eq_iff {p q : String} : flatten p = flatten q ↔ entryName p = entryName q := by
  simp [entryName, String.ext_iff]

theorem isName_entryName (path : String) : Path.isName (entryName path) = true := by
  have plain : '/' ∉ (flatten path).toList := by
    intro inside
    rw [flatten, String.toList_ofList] at inside
    obtain ⟨c, _, same⟩ := List.mem_map.mp inside
    split_ifs at same with mark
    · exact absurd same (by decide)
    · exact mark (by simp [same])
  obtain ⟨dot, dots⟩ := isName_flatten path
  refine Path.isName_iff.mpr ⟨?_, dot, dots, ?_⟩
  · intro none
    have letters := congrArg String.toList none
    rw [entryName, String.toList_append] at letters
    exact absurd (List.append_eq_nil_iff.mp letters).2 (by decide)
  · rw [entryName, String.toList_append, List.mem_append]
    rintro (inside | inside)
    · exact plain inside
    · exact absurd inside (by decide)

theorem nul_mem_flatten {path : String} : '\x00' ∈ (flatten path).toList ↔ '\x00' ∈ path.toList := by
  simp only [flatten, String.toList_ofList, List.mem_map]
  constructor
  · rintro ⟨c, present, same⟩
    split_ifs at same
    · exact absurd same (by decide)
    · rwa [← same]
  · exact fun present => ⟨'\x00', present, by decide⟩

theorem hashBytes_eq {p q s t : String} (plainC : '\x00' ∉ c.fingerprint.toList)
    (plainD : '\x00' ∉ d.fingerprint.toList) (plainP : '\x00' ∉ p.toList) (plainQ : '\x00' ∉ q.toList)
    (same : c.hashBytes p s = d.hashBytes q t) : c.fingerprint = d.fingerprint ∧ p = q ∧ s = t := by
  have behindVersion := (List.cons.inj (List.append_cancel_left same)).2
  obtain ⟨fingerprints, behind⟩ := split_at_mark (by rwa [Options.zero_mem_utf8])
    (by rwa [Options.zero_mem_utf8]) behindVersion
  obtain ⟨paths, sources⟩ := split_at_mark (by rwa [Options.zero_mem_utf8])
    (by rwa [Options.zero_mem_utf8]) behind
  exact ⟨Options.utf8_injective fingerprints, Options.utf8_injective paths,
    Options.utf8_injective sources⟩

structure Write where
  cache : Cache
  path : String
  source : String
  output : Output

namespace Write

def hash (digest : List UInt8 → String) (w : Write) : String := w.cache.hash digest w.path w.source

def entry (digest : List UInt8 → String) (w : Write) : CacheEntry := ⟨w.hash digest, w.output⟩

def latest? (writes : List Write) (path : String) : Option Write :=
  writes.find? fun w => flatten w.path == flatten path

end Write

-- The files after some calls of caches that are open on a folder, and what has been stored on the way.
-- Every write has succeeded, and lines and columns are numbers of 32 bits.
inductive Run (digest : List UInt8 → String) (folder : String) (start : FileTree) :
    List Write → FileTree → Prop where
  | start : Run digest folder start [] start
  | get {writes : List Write} {tree : FileTree} (run : Run digest folder start writes tree)
      {c : Cache} (opened : c.OpenedOn digest folder) (path source : String) :
      Run digest folder start writes (c.get digest path source tree).1
  | set {writes : List Write} {tree : FileTree} (run : Run digest folder start writes tree)
      {c : Cache} (opened : c.OpenedOn digest folder) (path source : String) {output : Output}
      (fits : output.fits = true) (written : (c.set digest path source output tree).2 = []) :
      Run digest folder start (⟨c, path, source, output⟩ :: writes)
        (c.set digest path source output tree).1

-- What a run leaves in the folder at a place, and what it leaves alone.
structure Keeps (digest : List UInt8 → String) (folder : String) (place : List String)
    (start tree : FileTree) (writes : List Write) : Prop where
  folders : ∀ p, start.isFolderAt p → tree.isFolderAt p
  entries : ∃ entries, tree.get? place = some (.folder entries) ∧ ∀ path,
    entries.lookup (entryName path) =
      (Write.latest? writes path).map fun w => .file (w.entry digest).toJson.toUTF8
  elsewhere : ∀ p content, (∀ path, p ≠ place ++ [entryName path]) →
    (tree.get? p = some (.file content) ↔ start.get? p = some (.file content))
  usable : ∀ w ∈ writes, Path.check (Path.ofText folder ++ [entryName w.path]) = .ok () ∧
    (entryName w.path).utf8ByteSize ≤ FileTree.longestName
  opened : ∀ w ∈ writes, w.cache.OpenedOn digest folder
  fits : ∀ w ∈ writes, w.output.fits = true

variable {place : List String} {start tree : FileTree} {writes : List Write}

theorem latest?_mem {w : Write} (last : Write.latest? writes path = some w) :
    w ∈ writes ∧ entryName w.path = entryName path := by
  refine ⟨List.mem_of_find?_eq_some last, flatten_eq_iff.mp ?_⟩
  simpa using List.find?_some last

namespace Keeps

theorem follows (keeps : Keeps digest folder place start tree writes)
    (leads : FileTree.follow start [] (Path.ofText folder) = .ok place)
    (stands : start.isFolderAt place) : FileTree.follow tree [] (Path.ofText folder) = .ok place :=
  FileTree.follow_of_folders keeps.folders leads stands

theorem get_eq (keeps : Keeps digest folder place start tree writes)
    (leads : FileTree.follow start [] (Path.ofText folder) = .ok place)
    (stands : start.isFolderAt place) (opened : c.OpenedOn digest folder) (path source : String) :
    c.get digest path source tree = (tree, ⟨[], (Write.latest? writes path).bind fun w =>
      if w.hash digest = c.hash digest path source then some w.output else none⟩) := by
  obtain ⟨entries, inFolder, lookup⟩ := keeps.entries
  have known := lookup path
  have there := opened.entryPath_eq path
  cases last : Write.latest? writes path with
  | none =>
    rw [last, Option.map_none] at known
    cases read : tree.readText (c.entryPath path) with
    | error e =>
      rw [get, read]
      rfl
    | ok json =>
      obtain ⟨found, present⟩ := FileTree.exists_find_of_readText read
      rw [there] at present
      obtain ⟨inside, others, _, followed, standing, _, listed⟩ :=
        FileTree.find_entry (isName_flatten path) present
      cases followed.symm.trans (keeps.follows leads stands)
      cases standing.symm.trans inFolder
      rw [entryName] at known
      rw [known] at listed
      cases listed
  | some w =>
    rw [last, Option.map_some] at known
    obtain ⟨member, sameName⟩ := latest?_mem last
    obtain ⟨checked, short⟩ := keeps.usable w member
    rw [sameName] at checked short
    have found : tree.find (c.entryPath path) = .ok (.file (w.entry digest).toJson.toUTF8) := by
      rw [there]
      exact FileTree.find_of_entry (isName_flatten path) checked short
        (keeps.follows leads stands) inFolder known
    have decoded := CacheEntry.decode_toJson (w.entry digest)
    have fits : (w.entry digest).output.fits = true := keeps.fits w member
    rw [if_pos fits] at decoded
    rw [get, FileTree.readText_of_find found (fromUTF8?_toUTF8 _)]
    simp only [decoded]
    rfl

theorem start_keeps (empty : start.get? place = some (.folder [])) :
    Keeps digest folder place start start [] where
  folders _ stands := stands
  entries := ⟨[], empty, fun _ => rfl⟩
  elsewhere _ _ _ := Iff.rfl
  usable := by simp
  opened := by simp
  fits := by simp

theorem set_keeps (keeps : Keeps digest folder place start tree writes)
    (leads : FileTree.follow start [] (Path.ofText folder) = .ok place)
    (stands : start.isFolderAt place) (opened : c.OpenedOn digest folder) {output : Output}
    (fits : output.fits = true) (written : (c.set digest path source output tree).2 = []) :
    Keeps digest folder place start (c.set digest path source output tree).1
      (⟨c, path, source, output⟩ :: writes) := by
  have there := opened.entryPath_eq path
  obtain ⟨entries, inFolder, lookup⟩ := keeps.entries
  unfold set at written ⊢
  simp only [there] at written ⊢
  cases wrote : tree.writeFile (Path.ofText folder ++ [entryName path])
      (CacheEntry.toJson ⟨c.hash digest path source, output⟩).toUTF8 with
  | error e =>
    rw [wrote] at written
    cases written
  | ok left =>
    unfold FileTree.writeFile at wrote
    cases placed : tree.placeForFile (Path.ofText folder ++ [entryName path]) with
    | error e =>
      rw [placed] at wrote
      cases wrote
    | ok into =>
      rw [placed] at wrote
      cases wrote
      obtain ⟨usable, inside, others, followed, standing, rfl, notFolder⟩ :=
        FileTree.placeForFile_ok placed
      cases followed.symm.trans (keeps.follows leads stands)
      cases standing.symm.trans inFolder
      refine ⟨fun p before => FileTree.isFolderAt_set _ notFolder (keeps.folders p before),
        ⟨_, FileTree.get?_set _ inFolder, fun other => ?_⟩, fun p content apart => ?_, ?_, ?_, ?_⟩
      · by_cases same : flatten other = flatten path
        · rw [flatten_eq_iff.mp same, FileTree.lookup_setEntry_same, Write.latest?,
            List.find?_cons_of_pos (by simpa using same.symm)]
          rfl
        · rw [FileTree.lookup_setEntry_other (mt flatten_eq_iff.mpr same), lookup, Write.latest?,
            Write.latest?, List.find?_cons_of_neg (by simpa using Ne.symm same)]
      · rw [FileTree.file_set_iff _ notFolder (apart path)]
        exact keeps.elsewhere p content apart
      · exact List.forall_mem_cons.mpr ⟨usable, keeps.usable⟩
      · exact List.forall_mem_cons.mpr ⟨opened, keeps.opened⟩
      · exact List.forall_mem_cons.mpr ⟨fits, keeps.fits⟩

end Keeps

theorem Run.keeps (run : Run digest folder start writes tree)
    (leads : FileTree.follow start [] (Path.ofText folder) = .ok place)
    (empty : start.get? place = some (.folder [])) :
    Keeps digest folder place start tree writes := by
  induction run with
  | start => exact .start_keeps empty
  | get _ opened path source ih =>
    rw [ih.get_eq leads ⟨_, empty⟩ opened]
    exact ih
  | set _ opened path source fits written ih => exact ih.set_keeps leads ⟨_, empty⟩ opened fits written

-- A path that has been written has no NUL in it, and so has no other that shares its file.
theorem Keeps.plain (keeps : Keeps digest folder place start tree writes) {w : Write}
    (last : Write.latest? writes path = some w) : '\x00' ∉ w.path.toList ∧ '\x00' ∉ path.toList := by
  obtain ⟨member, sameName⟩ := latest?_mem last
  have plain : '\x00' ∉ (entryName w.path).toList :=
    Path.plain_of_check_part (keeps.usable w member).1 (by simp)
  have flattened : ∀ p, entryName p = entryName w.path → '\x00' ∉ p.toList := by
    intro p same inside
    refine plain ?_
    rw [← same, entryName, String.toList_append]
    exact List.mem_append_left _ (nul_mem_flatten.mpr inside)
  exact ⟨flattened _ rfl, flattened _ sameName.symm⟩

theorem Keeps.entry_stands (keeps : Keeps digest folder place start tree writes)
    (leads : FileTree.follow start [] (Path.ofText folder) = .ok place)
    (stands : start.isFolderAt place) (opened : c.OpenedOn digest folder) {p : List String}
    (used : FileTree.follow tree [] (c.entryPath path) = .ok p ∨
      tree.placeForFile (c.entryPath path) = .ok p) : p = place ++ [entryName path] := by
  have there := opened.entryPath_eq path
  rw [there] at used
  rcases used with read | written
  · rw [FileTree.follow_append, keeps.follows leads stands] at read
    exact (FileTree.follow_name (isName_flatten path) read).1
  · obtain ⟨-, inside, _, followed, _, rfl, _⟩ := FileTree.placeForFile_ok written
    cases followed.symm.trans (keeps.follows leads stands)
    rfl

/-- Whatever has been asked and stored, what is found for a path is what was stored last under its
name, if the hash is the same; nothing is changed by asking, and all files that are used stand in
the folder. -/
theorem last_write_found {digest : List UInt8 → String} {folder : String} {start tree : FileTree}
    {writes : List Write} (empty : start.find (Path.ofText folder) = .ok (.folder []))
    (run : Run digest folder start writes tree) :
    (∀ c : Cache, c.OpenedOn digest folder → ∀ path source,
      ∃ answer, c.get digest path source tree = (tree, ⟨[], answer⟩) ∧
        (∀ output, answer = some output ↔ ∃ w, Write.latest? writes path = some w ∧
          w.hash digest = c.hash digest path source ∧ w.output = output) ∧
        ((∀ bytes, '\x00' ∉ (digest bytes).toList) →
          (∀ w ∈ writes, w.hash digest = c.hash digest path source →
            w.cache.hashBytes w.path w.source = c.hashBytes path source) →
          ∀ output, answer = some output → ∃ w ∈ writes, w.output = output ∧
            w.path = path ∧ w.source = source ∧ w.cache.fingerprint = c.fingerprint)) ∧
    ∃ place, FileTree.follow start [] (Path.ofText folder) = .ok place ∧
      (∀ c : Cache, c.OpenedOn digest folder → ∀ path, Path.isName (entryName path) = true ∧
        ∀ p, FileTree.follow tree [] (c.entryPath path) = .ok p ∨
          tree.placeForFile (c.entryPath path) = .ok p → p = place ++ [entryName path]) ∧
      ∀ p content, (∀ path, p ≠ place ++ [entryName path]) →
        (tree.get? p = some (.file content) ↔ start.get? p = some (.file content)) := by
  obtain ⟨_, place, leads, stands⟩ := FileTree.find_ok.mp empty
  have keeps := run.keeps leads stands
  refine ⟨fun c opened path source => ?_, place, leads, fun c opened path =>
    ⟨isName_entryName path, fun p => keeps.entry_stands leads ⟨_, stands⟩ opened⟩, keeps.elsewhere⟩
  refine ⟨_, keeps.get_eq leads ⟨_, stands⟩ opened path source, fun output => ?_, ?_⟩
  · simp only [Option.bind_eq_some_iff, Option.ite_none_right_eq_some, Option.some.injEq]
  · intro plain distinguished output answered
    obtain ⟨w, last, found⟩ := Option.bind_eq_some_iff.mp answered
    obtain ⟨sameHash, sameOutput⟩ := Option.ite_none_right_eq_some.mp found
    have member := (latest?_mem last).1
    obtain ⟨plainStored, plainAsked⟩ := keeps.plain last
    have hexadecimal : ∀ d : Cache, d.OpenedOn digest folder → '\x00' ∉ d.fingerprint.toList := by
      intro d opened
      obtain ⟨o, same⟩ := opened.fingerprint_eq
      rw [same]
      exact plain _
    obtain ⟨options, samePath, sameSource⟩ := hashBytes_eq (hexadecimal _ (keeps.opened w member))
      (hexadecimal c opened) plainStored plainAsked (distinguished w member sameHash)
    exact ⟨w, member, Option.some.inj sameOutput, samePath, sameSource, options⟩

def keptOptions (hostModule : String) : Options := ⟨[".rsx"], none, none, hostModule, [], true, none⟩

def keptCache (hostModule : String) : Cache :=
  ⟨Path.ofText "kept", (keptOptions hostModule).fingerprint Sha256.hex⟩

def keptTree : FileTree := .folder [("kept", .folder [])]

def keptOutput : Output := ⟨"é\n", some "\x7b\x7d", [⟨"RSX-W002", "\"", "a_b.rsx", 1, 2, none⟩], true⟩

theorem last_write_found_shared :
    ∃ writes tree, keptTree.find (Path.ofText "kept") = .ok (.folder []) ∧
      Run Sha256.hex "kept" keptTree writes tree ∧
      (keptCache "preact").get Sha256.hex "a_b.rsx" "let y" tree = (tree, ⟨[], some keptOutput⟩) ∧
      (keptCache "react").get Sha256.hex "a/b.rsx" "let x" tree = (tree, ⟨[], none⟩) ∧
      ∃ w ∈ writes, w.path = "a_b.rsx" ∧ w.source = "let y" ∧
        w.cache.fingerprint = (keptCache "preact").fingerprint := by
  have opened : ∀ hostModule, (keptCache hostModule).OpenedOn Sha256.hex "kept" :=
    fun hostModule => ⟨keptOptions hostModule, keptTree, rfl⟩
  have empty : keptTree.find (Path.ofText "kept") = .ok (.folder []) := by rfl
  have first : Run Sha256.hex "kept" keptTree
      [⟨keptCache "react", "a/b.rsx", "let x", .passthrough "let x"⟩] _ :=
    .set .start (opened "react") "a/b.rsx" "let x" (by decide) (by decide +kernel)
  have run : Run Sha256.hex "kept" keptTree [⟨keptCache "preact", "a_b.rsx", "let y", keptOutput⟩,
      ⟨keptCache "react", "a/b.rsx", "let x", .passthrough "let x"⟩] _ :=
    .set first (opened "preact") "a_b.rsx" "let y" (by decide) (by decide +kernel)
  have answers := (last_write_found empty run).1
  obtain ⟨answer, got, exact, tells⟩ := answers _ (opened "preact") "a_b.rsx" "let y"
  have hit : answer = some keptOutput := (exact _).mpr ⟨_, rfl, rfl, rfl⟩
  obtain ⟨other, missed, exact', _⟩ := answers _ (opened "react") "a/b.rsx" "let x"
  have miss : other = none := by
    refine Option.eq_none_iff_forall_ne_some.mpr fun output found => ?_
    obtain ⟨w, last, sameHash, _⟩ := (exact' output).mp found
    cases (rfl : Write.latest? _ _ = some _).symm.trans last
    exact absurd sameHash (by decide +kernel)
  have distinguished : ∀ w ∈ [(⟨keptCache "preact", "a_b.rsx", "let y", keptOutput⟩ : Write),
      ⟨keptCache "react", "a/b.rsx", "let x", .passthrough "let x"⟩],
      w.hash Sha256.hex = (keptCache "preact").hash Sha256.hex "a_b.rsx" "let y" →
        w.cache.hashBytes w.path w.source = (keptCache "preact").hashBytes "a_b.rsx" "let y" := by
    intro w member
    simp only [List.mem_cons, List.not_mem_nil, or_false] at member
    rcases member with rfl | rfl
    · exact fun _ => rfl
    · exact fun same => absurd same (by decide +kernel)
  obtain ⟨w, member, _, samePath, sameSource, options⟩ :=
    tells Sha256.plain_hex distinguished keptOutput hit
  rw [hit] at got
  rw [miss] at missed
  exact ⟨_, _, empty, run, got, missed, w, member, samePath, sameSource, options⟩

end Cache

end Rsx
