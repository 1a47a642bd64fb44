import Rsx.Project
import Rsx.Proofs.Bytes
import Rsx.Proofs.EntryReading
import Rsx.Proofs.Files
import Mathlib.Logic.Relation

set_option autoImplicit false

namespace Rsx

open Project

def FileTree.decoded? : FileTree → Option CacheEntry
  | .folder _ => none
  | .file content =>
    match String.fromUTF8? content with
    | none => none
    | some json => (CacheEntry.decode json).toOption

namespace Cache

def stored (c : Cache) (t : FileTree) : List CacheEntry :=
  (t.entriesAt c.folder).filterMap fun file => file.2.decoded?

variable {digest : List UInt8 → String} {c : Cache} {t : FileTree} {path source : String}

theorem mem_stored {e : CacheEntry} :
    e ∈ c.stored t ↔ ∃ file ∈ t.entriesAt c.folder, file.2.decoded? = some e := List.mem_filterMap

theorem isName_flatten (path : String) :
    flatten path ++ ".json" ≠ "." ∧ flatten path ++ ".json" ≠ ".." := by
  have long : ∀ short : String, short.toList.length < 5 → flatten path ++ ".json" ≠ short := by
    rintro short few rfl
    simp at few
  exact ⟨long "." (by decide), long ".." (by decide)⟩

theorem mem_stored_of_read {json : String} {e : CacheEntry}
    (read : t.readText (c.entryPath path) = .ok json) (decoded : CacheEntry.decode json = .ok e) :
    e ∈ c.stored t := by
  unfold FileTree.readText at read
  cases there : t.find (c.entryPath path) with
  | error e =>
    rw [there] at read
    cases read
  | ok found =>
    have member := FileTree.mem_entriesAt (isName_flatten path) there
    rw [there] at read
    refine mem_stored.mpr ⟨_, member, ?_⟩
    cases found with
    | folder below => cases read
    | file content =>
      simp only [Bind.bind, Except.bind] at read
      cases text : String.fromUTF8? content with
      | none =>
        rw [text] at read
        cases read
      | some json' =>
        rw [text] at read
        cases read
        simp [FileTree.decoded?, text, decoded, Except.toOption]

theorem hit_stored {output : Output} (hit : (c.get digest path source t).2.result = some output) :
    ⟨c.hash digest path source, output⟩ ∈ c.stored t := by
  unfold get at hit
  split at hit
  next => cases hit
  next json read =>
    split at hit
    next => cases hit
    next e decoded =>
      split_ifs at hit with same
      cases hit
      rw [← same]
      exact mem_stored_of_read read decoded

theorem stored_get {e : CacheEntry} (member : e ∈ c.stored (c.get digest path source t).1) :
    e ∈ c.stored t := by
  unfold get at member
  split at member
  next => exact member
  next json read =>
    split at member
    next fault undecoded =>
      split at member
      next left removed =>
        obtain ⟨file, present, held⟩ := mem_stored.mp member
        exact mem_stored.mpr
          ⟨file, FileTree.mem_entriesAt_removeFile (isName_flatten path) removed present, held⟩
      next => exact member
    next => exact member

theorem stored_set {output : Output} {e : CacheEntry}
    (member : e ∈ c.stored (c.set digest path source output t).1) :
    e ∈ c.stored t ∨ e = ⟨c.hash digest path source, output⟩ := by
  unfold set at member
  simp only at member
  split at member
  next left written =>
    obtain ⟨file, present, held⟩ := mem_stored.mp member
    rcases FileTree.mem_entriesAt_writeFile written present with old | rfl
    · exact .inl (mem_stored.mpr ⟨file, old, held⟩)
    · right
      rw [FileTree.decoded?, fromUTF8?_toUTF8] at held
      simp only at held
      cases decoded : CacheEntry.decode (CacheEntry.toJson ⟨c.hash digest path source, output⟩) with
      | error fault =>
        rw [decoded] at held
        cases held
      | ok found =>
        rw [decoded] at held
        cases held
        exact CacheEntry.eq_of_decode_toJson decoded
  next => exact .inl member

end Cache

def ProjectEntry.Reports (entry : ProjectEntry) (result : Except Diagnostic Output) : Prop :=
  match result with
  | .ok output => entry.output = some output ∧ entry.error = none
  | .error d => entry.output = none ∧ entry.error = some d

-- A call of `compileFile` on its way. Between two of its steps anything may happen to the files.
inductive Call where
  | started (path : String)
  | read (path source : String)
  | missed (path source : String)      -- the cache had nothing for it
  | returned (path : String) (source : Option String) (entry : ProjectEntry)
deriving DecidableEq

namespace Call

def step (digest : List UInt8 → String) (o : Options) (c : Cache) : Call → FileTree → FileTree × Call
  | started path, tree =>
    match tree.readText (Path.ofText path) with
    | .ok source => (tree, read path source)
    | .error e =>
      let d := Diagnostic.unlocated Rule.files.code ("Failed to read file: " ++ e.message) path
      (tree, returned path none ⟨path, none, some d, false⟩)
  | read path source, tree =>
    match c.get digest path source tree with
    | (tree, ⟨_, some output⟩) =>
      (tree, returned path (some source) ⟨path, some output, none, true⟩)
    | (tree, ⟨_, none⟩) => (tree, missed path source)
  | missed path source, tree =>
    let (tree, report) := compileAnew digest o (some c) path source tree
    (tree, returned path (some source) report.result)
  | returned path source entry, tree => (tree, returned path source entry)

def steps (digest : List UInt8 → String) (o : Options) (c : Cache) :
    Nat → Call → FileTree → FileTree × Call
  | 0, call, tree => (tree, call)
  | n + 1, call, tree =>
    let (tree, call) := call.step digest o c tree
    call.steps digest o c n tree

def text? : Call → Option (String × String)
  | started _ => none
  | read path source => some (path, source)
  | missed path source => some (path, source)
  | returned path source _ => source.map fun text => (path, text)

variable {digest : List UInt8 → String} {o : Options} {c : Cache}

theorem steps_eq_compileFile (path : String) (tree : FileTree) :
    steps digest o c 3 (started path) tree =
      ((compileFile digest o (some c) path tree).1,
        returned path (tree.readText (Path.ofText path)).toOption
          (compileFile digest o (some c) path tree).2.result) := by
  cases found : tree.readText (Path.ofText path) with
  | error e => simp [steps, step, compileFile, found, Except.toOption]
  | ok source =>
    simp only [steps, step, compileFile, found, compileSource, Except.toOption]
    rcases c.get digest path source tree with ⟨left, ⟨events, _ | output⟩⟩
    · rfl
    · rfl

theorem step_keeps_text {call : Call} {tree : FileTree} {x : String × String}
    (known : call.text? = some x) : (call.step digest o c tree).2.text? = some x := by
  cases call with
  | started path => cases known
  | read path source =>
    rw [step]
    split
    next => exact known
    next => exact known
  | missed path source => exact known
  | returned path source entry => exact known

theorem step_text {call : Call} {tree : FileTree} {x : String × String}
    (known : (call.step digest o c tree).2.text? = some x) :
    call.text? = some x ∨ '\x00' ∉ x.1.toList := by
  cases call with
  | started path =>
    rw [step] at known
    split at known
    next source found =>
      cases known
      right
      unfold FileTree.readText at found
      cases there : tree.find (Path.ofText path) with
      | error e =>
        rw [there] at found
        cases found
      | ok => exact Path.plain_of_check (FileTree.find_ok.mp there).1
    next => cases known
  | read path source =>
    rw [step] at known
    split at known
    next => exact .inl known
    next => exact .inl known
  | missed path source => exact .inl known
  | returned path source entry => exact .inl known

theorem step_stored {call : Call} {tree : FileTree} {e : CacheEntry}
    (member : e ∈ c.stored (call.step digest o c tree).1) :
    e ∈ c.stored tree ∨ ∃ x, call.text? = some x ∧ e.hash = c.hash digest x.1 x.2 ∧
      (compile o x.1 x.2).result = .ok e.output := by
  cases call with
  | started path =>
    rw [step] at member
    split at member
    next => exact .inl member
    next => exact .inl member
  | read path source =>
    have kept : e ∈ c.stored (c.get digest path source tree).1 → e ∈ c.stored tree := Cache.stored_get
    rw [step] at member
    split at member
    next got =>
      rw [got] at kept
      exact .inl (kept member)
    next got =>
      rw [got] at kept
      exact .inl (kept member)
  | missed path source =>
    change e ∈ c.stored (compileAnew digest o (some c) path source tree).1 at member
    unfold compileAnew at member
    simp only at member
    split at member
    next => exact .inl member
    next output compiled =>
      rcases Cache.stored_set member with old | rfl
      · exact .inl old
      · exact .inr ⟨(path, source), rfl, rfl, compiled⟩
  | returned path source entry => exact .inl member

theorem compileAnew_reports (digest : List UInt8 → String) (o : Options) (c : Cache)
    (path source : String) (tree : FileTree) :
    (compileAnew digest o (some c) path source tree).2.result.path = path ∧
      (compileAnew digest o (some c) path source tree).2.result.Reports (compile o path source).result := by
  unfold compileAnew
  simp only
  cases (compile o path source).result with
  | error d => exact ⟨rfl, rfl, rfl⟩
  | ok output => exact ⟨rfl, rfl, rfl⟩

theorem step_returned {call : Call} {tree : FileTree} {path source : String} {entry : ProjectEntry}
    (last : (call.step digest o c tree).2 = returned path (some source) entry) :
    call = returned path (some source) entry ∨ call.text? = some (path, source) ∧ entry.path = path ∧
      ((∃ output, ⟨c.hash digest path source, output⟩ ∈ c.stored tree ∧ entry.Reports (.ok output)) ∨
        entry.Reports (compile o path source).result) := by
  cases call with
  | started path' =>
    rw [step] at last
    split at last <;> cases last
  | read path' source' =>
    have hit : ∀ {output}, (c.get digest path' source' tree).2.result = some output →
      ⟨c.hash digest path' source', output⟩ ∈ c.stored tree := Cache.hit_stored
    rw [step] at last
    split at last
    next left events output got =>
      cases last
      rw [got] at hit
      exact .inr ⟨rfl, rfl, .inl ⟨output, hit rfl, rfl, rfl⟩⟩
    next => cases last
  | missed path' source' =>
    cases last
    obtain ⟨named, reports⟩ := compileAnew_reports digest o c path source tree
    exact .inr ⟨rfl, named, .inr reports⟩
  | returned path' source' entry' => exact .inl last

end Call

structure Calls where
  tree : FileTree
  calls : List Call

namespace Calls

def texts (s : Calls) : List (String × String) := s.calls.filterMap Call.text?

-- One thing that happens. An edit of the files may take entries of the cache away or put there what
-- cannot be decoded.
inductive Step (digest : List UInt8 → String) (o : Options) (c : Cache) : Calls → Calls → Prop where
  | call {s : Calls} (path : String) : Step digest o c s ⟨s.tree, .started path :: s.calls⟩
  | step (tree : FileTree) (front rest : List Call) (call : Call) :
      Step digest o c ⟨tree, front ++ call :: rest⟩
        ⟨(call.step digest o c tree).1, front ++ (call.step digest o c tree).2 :: rest⟩
  | edit {s : Calls} (tree : FileTree) (undisturbed : ∀ e ∈ c.stored tree, e ∈ c.stored s.tree) :
      Step digest o c s ⟨tree, s.calls⟩

-- What holds whatever the digest does: an answer belongs to some text with the same hash.
structure Sound (digest : List UInt8 → String) (o : Options) (c : Cache) (s : Calls) : Prop where
  stored : ∀ e ∈ c.stored s.tree, ∃ x ∈ s.texts,
    e.hash = c.hash digest x.1 x.2 ∧ (compile o x.1 x.2).result = .ok e.output
  plain : ∀ x ∈ s.texts, '\x00' ∉ x.1.toList
  returned : ∀ path source entry, .returned path (some source) entry ∈ s.calls →
    entry.path = path ∧ ∃ x ∈ s.texts, c.hash digest x.1 x.2 = c.hash digest path source ∧
      entry.Reports (compile o x.1 x.2).result

variable {digest : List UInt8 → String} {o : Options} {c : Cache} {s s' : Calls}

theorem mem_replaced {α : Type} {front rest : List α} {a b x : α} (member : x ∈ front ++ b :: rest) :
    x = b ∨ x ∈ front ++ a :: rest := by
  grind

theorem texts_step {x : String × String} (step : Step digest o c s s') (known : x ∈ s.texts) :
    x ∈ s'.texts := by
  obtain ⟨call, member, has⟩ := List.mem_filterMap.mp known
  refine List.mem_filterMap.mpr ?_
  cases step with
  | call path => exact ⟨call, List.mem_cons_of_mem _ member, has⟩
  | edit tree undisturbed => exact ⟨call, member, has⟩
  | step tree front rest moved =>
    rcases mem_replaced member with rfl | other
    · exact ⟨_, List.mem_append_right _ List.mem_cons_self, Call.step_keeps_text has⟩
    · exact ⟨call, other, has⟩

theorem plain_step (step : Step digest o c s s') (plain : ∀ x ∈ s.texts, '\x00' ∉ x.1.toList) :
    ∀ x ∈ s'.texts, '\x00' ∉ x.1.toList := by
  intro x known
  obtain ⟨call, member, has⟩ := List.mem_filterMap.mp known
  cases step with
  | call path =>
    rcases List.mem_cons.mp member with rfl | old
    · cases has
    · exact plain x (List.mem_filterMap.mpr ⟨call, old, has⟩)
  | edit tree undisturbed => exact plain x known
  | step tree front rest moved =>
    rcases mem_replaced (a := moved) member with rfl | old
    · rcases Call.step_text has with before | free
      · exact plain x (List.mem_filterMap.mpr ⟨moved, by simp, before⟩)
      · exact free
    · exact plain x (List.mem_filterMap.mpr ⟨call, old, has⟩)

theorem stored_step (step : Step digest o c s s') (sound : Sound digest o c s) {e : CacheEntry}
    (member : e ∈ c.stored s'.tree) : ∃ x ∈ s.texts,
      e.hash = c.hash digest x.1 x.2 ∧ (compile o x.1 x.2).result = .ok e.output := by
  cases step with
  | call path => exact sound.stored e member
  | edit tree undisturbed => exact sound.stored e (undisturbed e member)
  | step tree front rest moved =>
    rcases Call.step_stored member with old | ⟨x, has, made⟩
    · exact sound.stored e old
    · exact ⟨x, List.mem_filterMap.mpr ⟨moved, by simp, has⟩, made⟩

theorem returned_step (step : Step digest o c s s') (sound : Sound digest o c s)
    {path source : String} {entry : ProjectEntry}
    (member : .returned path (some source) entry ∈ s'.calls) :
    entry.path = path ∧ ∃ x ∈ s.texts, c.hash digest x.1 x.2 = c.hash digest path source ∧
      entry.Reports (compile o x.1 x.2).result := by
  cases step with
  | call path' =>
    rcases List.mem_cons.mp member with impossible | old
    · cases impossible
    · exact sound.returned path source entry old
  | edit tree undisturbed => exact sound.returned path source entry member
  | step tree front rest moved =>
    rcases mem_replaced (a := moved) member with last | old
    · rcases Call.step_returned last.symm with same | ⟨has, named, stored | compiled⟩
      · exact sound.returned path source entry (by rw [← same]; simp)
      · -- The entry was found in the cache: it is the answer to some text of the same hash.
        obtain ⟨output, present, reports⟩ := stored
        obtain ⟨x, known, sameHash, made⟩ := sound.stored _ present
        exact ⟨named, x, known, sameHash.symm, by rw [made]; exact reports⟩
      · exact ⟨named, (path, source), List.mem_filterMap.mpr ⟨moved, by simp, has⟩, rfl, compiled⟩
    · exact sound.returned path source entry old

theorem Sound.step (sound : Sound digest o c s) (step : Step digest o c s s') :
    Sound digest o c s' where
  stored e member := by
    obtain ⟨x, known, made⟩ := stored_step step sound member
    exact ⟨x, texts_step step known, made⟩
  plain := plain_step step sound.plain
  returned path source entry member := by
    obtain ⟨named, x, known, answer⟩ := returned_step step sound member
    exact ⟨named, x, texts_step step known, answer⟩

theorem sound_of_run {start final : Calls} (empty : c.stored start.tree = []) (none : start.calls = [])
    (run : Relation.ReflTransGen (Step digest o c) start final) : Sound digest o c final := by
  induction run with
  | refl =>
    refine ⟨fun e member => ?_, fun x known => ?_, fun path source entry member => ?_⟩
    · rw [empty] at member
      cases member
    · rw [texts, none] at known
      cases known
    · rw [none] at member
      cases member
  | tail _ step ih => exact ih.step step

def advance (digest : List UInt8 → String) (o : Options) (c : Cache) (s : Calls) (i : Nat) : Calls :=
  match s.calls[i]? with
  | none => s
  | some call =>
    ⟨(call.step digest o c s.tree).1,
      s.calls.take i ++ (call.step digest o c s.tree).2 :: s.calls.drop (i + 1)⟩

def schedule (digest : List UInt8 → String) (o : Options) (c : Cache) (s : Calls) (order : List Nat) :
    Calls :=
  order.foldl (advance digest o c) s

theorem run_schedule (digest : List UInt8 → String) (o : Options) (c : Cache) (s : Calls)
    (order : List Nat) :
    Relation.ReflTransGen (Step digest o c) s (schedule digest o c s order) := by
  induction order generalizing s with
  | nil => exact .refl
  | cons i order ih =>
    refine .trans ?_ (ih (advance digest o c s i))
    unfold advance
    cases known : s.calls[i]? with
    | none => exact .refl
    | some call =>
      obtain ⟨inside, same⟩ := List.getElem?_eq_some_iff.mp known
      have split : s = ⟨s.tree, s.calls.take i ++ call :: s.calls.drop (i + 1)⟩ := by
        rw [← same, ← List.drop_eq_getElem_cons inside, List.take_append_drop]
      refine .single ?_
      nth_rewrite 1 [split]
      exact .step s.tree _ _ call

def Distinguished (digest : List UInt8 → String) (c : Cache) (s : Calls) : Prop :=
  ∀ x ∈ s.texts, ∀ y ∈ s.texts,
    c.hash digest x.1 x.2 = c.hash digest y.1 y.2 → c.hashBytes x.1 x.2 = c.hashBytes y.1 y.2

end Calls

/-- Calls that take their steps in any order, whatever is done to the files in between: every entry
reports what its path and the text that was read compile to. Nothing is asked of the paths, and two
of them may share a file of the cache. -/
theorem cache_transparent {digest : List UInt8 → String} {o : Options} {c : Cache} {start : FileTree}
    {final : Calls} (empty : c.stored start = [])
    (run : Relation.ReflTransGen (Calls.Step digest o c) ⟨start, []⟩ final)
    (distinguished : final.Distinguished digest c) :
    (∀ path tree, Call.steps digest o c 3 (.started path) tree =
      ((compileFile digest o (some c) path tree).1,
        .returned path (tree.readText (Path.ofText path)).toOption
          (compileFile digest o (some c) path tree).2.result)) ∧
    ∀ path source entry, .returned path (some source) entry ∈ final.calls →
      entry.path = path ∧ entry.Reports (compile o path source).result := by
  refine ⟨Call.steps_eq_compileFile, fun path source entry member => ?_⟩
  have sound := Calls.sound_of_run empty rfl run
  obtain ⟨named, x, known, sameHash, reports⟩ := sound.returned path source entry member
  have read : (path, source) ∈ final.texts := List.mem_filterMap.mpr ⟨_, member, rfl⟩
  have sameBytes := distinguished x known (path, source) read sameHash
  obtain ⟨samePath, sameSource⟩ := Cache.hashBytes_injective (sound.plain x known)
    (sound.plain (path, source) read) sameBytes
  exact ⟨named, by rwa [samePath, sameSource] at reports⟩

-- Two files that share a file of the cache: the second call overwrites what the first one stored.
def sharedTree : FileTree :=
  .folder [("a", .folder [("b.rsx", .file "let x".toUTF8)]), ("a_b.rsx", .file "let y".toUTF8),
    ("kept", .folder [])]

def sharedOptions : Options := ⟨[".rsx"], none, none, "react", [], false, some "kept"⟩

def sharedCache : Cache := ⟨["kept"], sharedOptions.fingerprint Sha256.hex⟩

def sharedCalls : Calls :=
  Calls.schedule Sha256.hex sharedOptions sharedCache
    ⟨sharedTree, [.started "a/b.rsx", .started "a/b.rsx", .started "a_b.rsx"]⟩ [2, 1, 2, 1, 2, 1, 0, 0]

theorem cache_transparent_shared :
    ∃ entry, .returned "a/b.rsx" (some "let x") entry ∈ sharedCalls.calls ∧ entry.cached = true ∧
      entry.path = "a/b.rsx" ∧ entry.Reports (compile sharedOptions "a/b.rsx" "let x").result := by
  have outcome : sharedCalls.calls = [
      .returned "a/b.rsx" (some "let x") ⟨"a/b.rsx", some ⟨"let x", none, [], false⟩, none, true⟩,
      .returned "a/b.rsx" (some "let x") ⟨"a/b.rsx", some ⟨"let x", none, [], false⟩, none, false⟩,
      .returned "a_b.rsx" (some "let y") ⟨"a_b.rsx", some ⟨"let y", none, [], false⟩, none, false⟩] := by
    decide +kernel
  have empty : sharedCache.stored sharedTree = [] := by decide +kernel
  have apart : sharedCache.hash Sha256.hex "a/b.rsx" "let x" ≠
      sharedCache.hash Sha256.hex "a_b.rsx" "let y" := by
    decide +kernel
  have distinguished : sharedCalls.Distinguished Sha256.hex sharedCache := by
    have texts : sharedCalls.texts =
        [("a/b.rsx", "let x"), ("a/b.rsx", "let x"), ("a_b.rsx", "let y")] := by
      rw [Calls.texts, outcome]
      rfl
    intro x known y known' same
    rw [texts] at known known'
    simp only [List.mem_cons, List.not_mem_nil, or_false, or_self_left] at known known'
    rcases known with rfl | rfl <;> rcases known' with rfl | rfl
    · rfl
    · exact absurd same apart
    · exact absurd same.symm apart
    · rfl
  have run : Relation.ReflTransGen (Calls.Step Sha256.hex sharedOptions sharedCache) ⟨sharedTree, []⟩
      sharedCalls :=
    .trans (.tail (.tail (.single (.call "a_b.rsx")) (.call "a/b.rsx")) (.call "a/b.rsx"))
      (Calls.run_schedule ..)
  have member : .returned "a/b.rsx" (some "let x")
      ⟨"a/b.rsx", some ⟨"let x", none, [], false⟩, none, true⟩ ∈ sharedCalls.calls := by
    simp [outcome]
  exact ⟨_, member, rfl, (cache_transparent empty run distinguished).2 _ _ _ member⟩

end Rsx
