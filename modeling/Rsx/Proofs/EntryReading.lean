import Rsx.Cache.Entry
import Rsx.Proofs.JsonReading

set_option autoImplicit false

namespace Rsx

open Decoder

def Warning.fits (w : Warning) : Bool :=
  decide (w.line < Nat.pow 2 32) && decide (w.column < Nat.pow 2 32)

def Output.fits (o : Output) : Bool := o.warnings.all Warning.fits

namespace Decoder

theorem toList_jsonField (name value : String) :
    (jsonField name value).toList = (Text.quoted name).toList ++ ':' :: value.toList := by
  simp [jsonField]

theorem toList_jsonObject (x : String) (xs : List String) :
    (jsonObject (x :: xs)).toList =
      '\x7b' :: (x.toList ++ (xs.flatMap fun y => ',' :: y.toList) ++ ['\x7d']) := by
  simp only [jsonObject, String.toList_append, toList_commas]
  rfl

theorem reads_text (s : String) (rest : List Char) :
    Reads text ((Text.quoted s).toList ++ rest) (some (s, rest)) := reads_string _ s rest

theorem reads_text? (s : Option String) (rest : List Char) :
    Reads (nullable text) ((jsonText? s).toList ++ rest) (some (s, rest)) := by
  cases s with
  | none => exact reads_null text rest
  | some s =>
    have quoted := reads_text s rest
    rw [toList_quoted, List.cons_append] at quoted
    rw [jsonText?, toList_quoted, List.cons_append]
    exact reads_nullable (by decide) (by decide) quoted

theorem reads_fitting32 (n : Nat) (rest : List Char) :
    Reads natural32 ((toString n).toList ++ ',' :: rest)
      (if decide (n < Nat.pow 2 32) then some (n, ',' :: rest) else none) := by
  simpa using reads_natural32 n rest

theorem written_warning : Written warning (fun w => w.toJson.toList) Warning.fits where
  opens w := ⟨'\x7b', _, toList_jsonObject _ _, by decide, by decide⟩
  reads w rest := by
    simp only [Warning.toJson, toList_jsonObject, toList_jsonField, List.flatMap_cons,
      List.flatMap_nil, List.append_nil, List.append_assoc, List.cons_append, List.nil_append]
    have whole : w.fits = (true && (true && (true && (decide (w.line < Nat.pow 2 32) &&
        (decide (w.column < Nat.pow 2 32) && (true && true)))))) := by
      simp [Warning.fits]
    rw [whole]
    refine reads_record (n := 7) (s := ⟨some w.code, some w.message, some w.file, some w.line,
      some w.column, some w.context⟩) (by simp; omega) (fun fuel => ?_) rfl
    refine reads_fields_step (reads_moreKeys_first _ _) rfl (.always (reads_text w.code _)) ?_
    refine reads_fields_step (reads_moreKeys_later _ _) rfl (.always (reads_text w.message _)) ?_
    refine reads_fields_step (reads_moreKeys_later _ _) rfl (.always (reads_text w.file _)) ?_
    refine reads_fields_step (reads_moreKeys_later _ _) rfl (reads_fitting32 w.line _) ?_
    refine reads_fields_step (reads_moreKeys_later _ _) rfl (reads_fitting32 w.column _) ?_
    refine reads_fields_step (reads_moreKeys_later _ _) rfl (.always (reads_text? w.context _)) ?_
    exact reads_fields_end _ fuel _ rest

theorem reads_output (o : Output) (rest : List Char) :
    Reads output (o.toJson.toList ++ rest) (if o.fits then some (o, rest) else none) := by
  have whole : o.fits = (true && (true && (o.warnings.all Warning.fits && (true && true)))) := by
    simp [Output.fits]
  simp only [Output.toJson, toList_jsonObject, toList_jsonField, List.flatMap_cons,
    List.flatMap_nil, List.append_nil, List.append_assoc, List.cons_append, List.nil_append]
  rw [whole]
  refine reads_record (n := 5)
    (s := ⟨some o.code, some o.map, some o.warnings, some o.transformed⟩) (by simp; omega)
    (fun fuel => ?_) rfl
  refine reads_fields_step (reads_moreKeys_first _ _) rfl (.always (reads_text o.code _)) ?_
  refine reads_fields_step (reads_moreKeys_later _ _) rfl (.always (reads_text? o.map _)) ?_
  refine reads_fields_step (reads_moreKeys_later _ _) rfl (written_warning.list o.warnings _) ?_
  refine reads_fields_step (reads_moreKeys_later _ _) rfl (.always (reads_boolean o.transformed _)) ?_
  exact reads_fields_end _ fuel _ rest

end Decoder

theorem CacheEntry.decode_toJson (e : CacheEntry) :
    if e.output.fits then decode e.toJson = .ok e else ∃ fault, decode e.toJson = .error fault := by
  have reads : Reads (record PartlyEntry.shape PartlyEntry.finish) e.toJson.toList
      (if e.output.fits then some (e, []) else none) := by
    have whole : e.output.fits = (true && (e.output.fits && true)) := by simp
    simp only [toJson, toList_jsonObject, toList_jsonField, List.flatMap_cons,
      List.flatMap_nil, List.append_nil, List.append_assoc, List.cons_append]
    rw [whole]
    refine reads_record (n := 3) (s := ⟨some e.hash, some e.output⟩) (by simp; omega)
      (fun fuel => ?_) rfl
    refine reads_fields_step (reads_moreKeys_first _ _) rfl (.always (reads_text e.hash _)) ?_
    refine reads_fields_step (reads_moreKeys_later _ _) rfl (reads_output e.output _) ?_
    exact reads_fields_end _ fuel _ []
  by_cases fits : e.output.fits = true
  · rw [if_pos fits] at reads ⊢
    exact reads.run
  · rw [if_neg fits] at reads ⊢
    exact reads.run_none

theorem CacheEntry.eq_of_decode_toJson {e found : CacheEntry} (read : decode e.toJson = .ok found) :
    found = e := by
  have known := decode_toJson e
  split at known
  next => rw [known] at read; exact (Except.ok.inj read).symm
  next =>
    obtain ⟨fault, refused⟩ := known
    rw [refused] at read
    cases read

end Rsx
