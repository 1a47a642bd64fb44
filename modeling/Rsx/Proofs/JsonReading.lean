import Rsx.Json.Decoder
import Rsx.Text.Quoted
import Mathlib.Data.Nat.Digits.Defs

set_option autoImplicit false

namespace Rsx

namespace Decoder

variable {α β σ : Type}

def outcome : EStateM.Result JsonFault Reader α → Option (α × List Char)
  | .ok a r => some (a, r.rest)
  | .error _ _ => none

-- The value that a decoder takes from a text and what it leaves of the text, or `none` if it fails.
def Reads (d : Decoder α) (cs : List Char) (v : Option (α × List Char)) : Prop :=
  ∀ offset, outcome (d ⟨cs, offset⟩) = v

namespace Reads

theorem pure (a : α) (cs : List Char) : Reads (Pure.pure a) cs (some (a, cs)) := fun _ => rfl

theorem bind {d : Decoder α} {f : α → Decoder β} {cs mid : List Char} {a : α}
    {v : Option (β × List Char)} (first : Reads d cs (some (a, mid))) (second : Reads (f a) mid v) :
    Reads (d >>= f) cs v := by
  intro offset
  have first := first offset
  simp only [Bind.bind, EStateM.bind]
  cases read : d ⟨cs, offset⟩ with
  | ok b r =>
    rw [read] at first
    cases first
    exact second r.offset
  | error fault r =>
    rw [read] at first
    cases first

theorem bind_none {d : Decoder α} {f : α → Decoder β} {cs : List Char} (first : Reads d cs none) :
    Reads (d >>= f) cs none := by
  intro offset
  have first := first offset
  simp only [Bind.bind, EStateM.bind]
  cases read : d ⟨cs, offset⟩ with
  | ok b r =>
    rw [read] at first
    cases first
  | error fault r => rfl

theorem placed {d : Decoder α} {cs : List Char} {v : Option (α × List Char)} (reads : Reads d cs v) :
    Reads (Decoder.placed d) cs v := by
  intro offset
  rw [← reads offset, Decoder.placed]
  cases d ⟨cs, offset⟩ <;> rfl

theorem closing {d : Decoder α} {close : Decoder Unit} {cs mid rest : List Char} {a : α}
    (first : Reads d cs (some (a, mid))) (second : Reads close mid (some ((), rest))) :
    Reads (Decoder.closing d close) cs (some (a, rest)) := by
  intro offset
  have first := first offset
  unfold Decoder.closing
  cases read : d ⟨cs, offset⟩ with
  | ok b r =>
    rw [read] at first
    cases first
    have second := second r.offset
    simp only
    cases closed : close r with
    | ok u r' =>
      rw [show (⟨r.rest, r.offset⟩ : Reader) = r from rfl, closed] at second
      cases second
      rfl
    | error fault r' =>
      rw [show (⟨r.rest, r.offset⟩ : Reader) = r from rfl, closed] at second
      cases second
  | error fault r =>
    rw [read] at first
    cases first

theorem closing_none {d : Decoder α} {close : Decoder Unit} {cs : List Char}
    (first : Reads d cs none) : Reads (Decoder.closing d close) cs none := by
  intro offset
  have first := first offset
  unfold Decoder.closing
  cases read : d ⟨cs, offset⟩ with
  | ok b r =>
    rw [read] at first
    cases first
  | error fault r =>
    simp only
    cases close r <;> rfl

theorem always {d : Decoder α} {cs : List Char} {v : α × List Char} (reads : Reads d cs (some v)) :
    Reads d cs (if true then some v else none) := reads

theorem run {d : Decoder α} {text : String} {a : α} (reads : Reads d text.toList (some (a, []))) :
    Decoder.run d text = .ok a := by
  have reads := reads 0
  unfold Decoder.run
  simp only [Bind.bind, EStateM.bind]
  cases read : d ⟨text.toList, 0⟩ with
  | ok b r =>
    rw [read] at reads
    obtain ⟨cs, offset⟩ := r
    cases reads
    rfl
  | error fault r =>
    rw [read] at reads
    cases reads

theorem run_none {d : Decoder α} {text : String} (reads : Reads d text.toList none) :
    ∃ fault, Decoder.run d text = .error fault := by
  have reads := reads 0
  unfold Decoder.run
  simp only [Bind.bind, EStateM.bind]
  cases read : d ⟨text.toList, 0⟩ with
  | ok b r =>
    rw [read] at reads
    cases reads
  | error fault r => exact ⟨fault, rfl⟩

end Reads

theorem reads_failContent (issue : JsonIssue) (cs : List Char) :
    Reads (failContent issue : Decoder α) cs none := fun _ => rfl

theorem reads_peek (cs : List Char) : Reads peek cs (some (cs.head?, cs)) := fun _ => rfl

theorem reads_left (cs : List Char) : Reads left cs (some (cs.length, cs)) := fun _ => rfl

theorem reads_advance (c : Char) (cs : List Char) : Reads advance (c :: cs) (some ((), cs)) :=
  fun _ => rfl

theorem reads_next {c : Char} (shown : isSpace c = false) (cs : List Char) :
    Reads next (c :: cs) (some (some c, c :: cs)) := by
  intro offset
  have stays : (Reader.takeWhile isSpace ⟨c :: cs, offset⟩).2 = ⟨c :: cs, offset⟩ := by
    simp [Reader.takeWhile, shown, byteLength]
  change outcome (.ok (Reader.takeWhile isSpace ⟨c :: cs, offset⟩).2.peek
    (Reader.takeWhile isSpace ⟨c :: cs, offset⟩).2) = _
  rw [stays]
  rfl

theorem reads_expectNext {c : Char} (shown : isSpace c = false) (cs : List Char) :
    Reads expectNext (c :: cs) (some (c, c :: cs)) :=
  .bind (reads_next shown cs) (.pure c _)

theorem length_le_byteLength (cs : List Char) : cs.length ≤ byteLength cs := by
  have grows : ∀ n, n + cs.length ≤ cs.foldl (fun n c => n + c.utf8Size) n := by
    induction cs with
    | nil => intro n; simp
    | cons c rest ih =>
      intro n
      have step := ih (n + c.utf8Size)
      have positive := c.utf8Size_pos
      simp only [List.length_cons, List.foldl_cons]
      omega
  simpa [byteLength] using grows 0

theorem reads_hexEscape {a b c d : Char} {n : Nat} (value : hexNumber [a, b, c, d] = some n)
    (cs : List Char) : Reads hexEscape (a :: b :: c :: d :: cs) (some (n, cs)) := by
  intro offset
  have enough : ¬ byteLength (a :: b :: c :: d :: cs) < 4 := by
    have := length_le_byteLength (a :: b :: c :: d :: cs)
    simp only [List.length_cons] at this
    omega
  simp [hexEscape, enough, value, outcome, Reader.skipMany, Reader.skip]

theorem hexValue?_hexDigit : ∀ n < 16, hexValue? (Text.hexDigit n) = some n := by decide

theorem hexNumber_control {c : Char} (control : c.toNat < 32) :
    hexNumber ['0', '0', Text.hexDigit (c.toNat / 16), Text.hexDigit (c.toNat % 16)] =
      some c.toNat := by
  have high := hexValue?_hexDigit (c.toNat / 16) (by omega)
  have low := hexValue?_hexDigit (c.toNat % 16) (by omega)
  have zero : hexValue? '0' = some 0 := by decide
  simp only [hexNumber, zero, high, low, Option.some.injEq]
  omega

theorem reads_simpleEscape {c d : Char} (simple : simpleEscape? c = some d) (other : c ≠ 'u')
    (cs : List Char) : Reads escape (c :: cs) (some (d, cs)) := by
  refine .bind (reads_peek _) (.bind (reads_advance c cs) ?_)
  simp only [beq_iff_eq, other, if_false, simple]
  exact .pure d cs

theorem reads_controlEscape {c : Char} (control : c.toNat < 32) (cs : List Char) :
    Reads escape ('u' :: '0' :: '0' :: Text.hexDigit (c.toNat / 16) ::
      Text.hexDigit (c.toNat % 16) :: cs) (some (c, cs)) := by
  refine .bind (reads_peek _) (.bind (reads_advance 'u' _) ?_)
  refine .bind (reads_hexEscape (hexNumber_control control) cs) ?_
  have low : isLow c.toNat = false := by simp [isLow]; omega
  have high : isHigh c.toNat = false := by simp [isHigh]; omega
  simp only [low, high, Char.ofNat_toNat]
  exact .pure c cs

theorem reads_stringTail_escape {d : Char} {cs : List Char} {fuel : Nat} {acc : List Char}
    {more : List Char} {v : Option (String × List Char)}
    (escaped : Reads escape cs (some (d, more)))
    (later : Reads (stringTail fuel (d :: acc)) more v) :
    Reads (stringTail (fuel + 1) acc) ('\\' :: cs) v :=
  .bind (reads_peek _) (.bind (reads_advance '\\' cs) (.bind escaped later))

theorem reads_stringTail_char {c : Char} {more : List Char} {fuel : Nat} {acc : List Char}
    {v : Option (String × List Char)} (later : Reads (stringTail fuel (c :: acc)) more v) :
    Reads (stringTail (fuel + 1) acc) (Text.escaped c ++ more) v := by
  have simple : ∀ x, simpleEscape? x = some c → x ≠ 'u' →
      Reads (stringTail (fuel + 1) acc) ('\\' :: x :: more) v := fun x known other =>
    reads_stringTail_escape (reads_simpleEscape known other more) later
  have ofCode : ∀ n, c.toNat = n → c = Char.ofNat n := fun n same => by
    rw [← same, Char.ofNat_toNat]
  unfold Text.escaped
  split_ifs with quote backslash feed back tab eight twelve control
  · exact simple '"' (by rw [eq_of_beq quote]; rfl) (by decide)
  · exact simple '\\' (by rw [eq_of_beq backslash]; rfl) (by decide)
  · exact simple 'n' (by rw [eq_of_beq feed]; rfl) (by decide)
  · exact simple 'r' (by rw [eq_of_beq back]; rfl) (by decide)
  · exact simple 't' (by rw [eq_of_beq tab]; rfl) (by decide)
  · exact simple 'b' (by rw [ofCode 8 (eq_of_beq eight)]; rfl) (by decide)
  · exact simple 'f' (by rw [ofCode 12 (eq_of_beq twelve)]; rfl) (by decide)
  · exact reads_stringTail_escape (reads_controlEscape control more) later
  · refine .bind (reads_peek _) (.bind (reads_advance c more) ?_)
    rw [if_neg quote, if_neg backslash, if_neg control]
    exact later

theorem reads_stringTail (cs rest : List Char) (fuel : Nat) (enough : cs.length < fuel)
    (acc : List Char) : Reads (stringTail fuel acc) (cs.flatMap Text.escaped ++ '"' :: rest)
      (some (String.ofList (acc.reverse ++ cs), rest)) := by
  induction cs generalizing fuel acc with
  | nil =>
    obtain ⟨fuel, rfl⟩ : ∃ k, fuel = k + 1 := ⟨fuel - 1, by simp at enough; omega⟩
    rw [List.append_nil]
    exact .bind (reads_peek _) (.bind (reads_advance '"' rest) (.pure _ _))
  | cons c cs ih =>
    obtain ⟨fuel, rfl⟩ : ∃ k, fuel = k + 1 := ⟨fuel - 1, by simp at enough; omega⟩
    rw [List.flatMap_cons, List.append_assoc]
    refine reads_stringTail_char ?_
    have later := ih fuel (by simpa using enough) (c :: acc)
    simpa using later

theorem length_le_flatMap {f : α → List β} (nonempty : ∀ a, f a ≠ []) (as : List α) :
    as.length ≤ (as.flatMap f).length := by
  induction as with
  | nil => simp
  | cons a rest ih =>
    have positive := List.length_pos_iff.mpr (nonempty a)
    simp only [List.flatMap_cons, List.length_append, List.length_cons]
    omega

theorem escaped_ne_nil (c : Char) : Text.escaped c ≠ [] := by
  unfold Text.escaped
  split_ifs <;> simp

theorem toList_quoted (s : String) :
    (Text.quoted s).toList = '"' :: (s.toList.flatMap Text.escaped ++ ['"']) := by
  rw [Text.quoted, String.toList_ofList]
  rfl

theorem reads_quotedString (s : String) (rest : List Char) :
    Reads quotedString ((Text.quoted s).toList ++ rest) (some (s, rest)) := by
  rw [toList_quoted, List.cons_append, List.append_assoc]
  refine .bind (reads_advance '"' _) ?_
  have enough : s.toList.length < (s.toList.flatMap Text.escaped ++ '"' :: rest).length + 1 := by
    have written := length_le_flatMap escaped_ne_nil s.toList
    simp only [List.length_append, List.length_cons]
    omega
  have tail := reads_stringTail s.toList rest _ enough []
  simp only [List.reverse_nil, List.nil_append, String.ofList_toList] at tail
  exact fun offset => tail offset

theorem reads_string (wanted s : String) (rest : List Char) :
    Reads (string wanted) ((Text.quoted s).toList ++ rest) (some (s, rest)) := by
  have quoted := reads_quotedString s rest
  rw [toList_quoted, List.cons_append] at quoted ⊢
  exact .bind (reads_expectNext (by decide) _) quoted

theorem reads_nullable {d : Decoder α} {cs : List Char} {c : Char} {a : α} {rest : List Char}
    (shown : isSpace c = false) (other : c ≠ 'n') (reads : Reads d (c :: cs) (some (a, rest))) :
    Reads (nullable d) (c :: cs) (some (some a, rest)) := by
  refine .bind (reads_next shown cs) ?_
  rw [if_neg (by simpa using other)]
  exact .bind reads (.pure _ _)

theorem reads_null (d : Decoder α) (rest : List Char) :
    Reads (nullable d) ('n' :: 'u' :: 'l' :: 'l' :: rest) (some (none, rest)) := fun _ => rfl

theorem reads_boolean (b : Bool) (rest : List Char) :
    Reads boolean ((if b then "true" else "false").toList ++ rest) (some (b, rest)) := by
  cases b
  · exact fun _ => rfl
  · exact fun _ => rfl

theorem digit?_of_isDigit {c : Char} (isDigit : c.isDigit = true) :
    digit? (some c) = some (c.toNat - 48) := by
  simp [digit?, isDigit]

theorem le_ofDigitChars (ds : List Char) (n : Nat) : n ≤ Nat.ofDigitChars 10 ds n := by
  rw [Nat.ofDigitChars_eq_ofDigitChars_zero]
  have grows : n ≤ 10 ^ ds.length * n := Nat.le_mul_of_pos_left n (by positivity)
  omega

theorem reads_takeDigits {ds : List Char} {n : Nat} (fuel k : Nat)
    (areDigits : ∀ c ∈ ds, c.isDigit = true) (enough : ds.length ≤ fuel)
    (fits : Nat.ofDigitChars 10 ds n ≤ largestNatural) (rest : List Char) : Reads (takeDigits fuel n k) (ds ++ ',' :: rest)
      (some ((Nat.ofDigitChars 10 ds n, k + ds.length, false), ',' :: rest)) := by
  induction ds generalizing fuel n k with
  | nil =>
    cases fuel with
    | zero => exact .pure _ _
    | succ fuel => exact .bind (reads_peek _) (.pure _ _)
  | cons c ds ih =>
    obtain ⟨fuel, rfl⟩ : ∃ m, fuel = m + 1 := ⟨fuel - 1, by simp at enough; omega⟩
    rw [Nat.ofDigitChars_cons, Nat.mul_comm] at fits ⊢
    have fitsHere : fitsNatural n (c.toNat - 48) = true := by
      have grows := le_ofDigitChars ds (n * 10 + (c.toNat - '0'.toNat))
      exact decide_eq_true (grows.trans fits)
    have later := ih fuel (k + 1) (fun x member => areDigits x (List.mem_cons_of_mem _ member))
      (by simpa using enough) fits
    refine .bind (reads_peek _) ?_
    simp only [List.cons_append, List.head?_cons, digit?_of_isDigit (areDigits c (by simp)),
      fitsHere, if_true]
    refine .bind (reads_advance c _) ?_
    rw [show k + (c :: ds).length = k + 1 + ds.length by simp; omega]
    exact later

theorem reads_takeDigits_many {ds : List Char} {n : Nat} (fuel k : Nat)
    (areDigits : ∀ c ∈ ds, c.isDigit = true) (enough : ds.length ≤ fuel) (small : n ≤ largestNatural)
    (large : largestNatural < Nat.ofDigitChars 10 ds n) (rest : List Char) :
    ∃ n' k' ds', (∀ c ∈ ds', c.isDigit = true) ∧
      Reads (takeDigits fuel n k) (ds ++ ',' :: rest) (some ((n', k', true), ds' ++ ',' :: rest)) := by
  induction ds generalizing fuel n k with
  | nil =>
    rw [Nat.ofDigitChars_nil] at large
    omega
  | cons c ds ih =>
    obtain ⟨fuel, rfl⟩ : ∃ m, fuel = m + 1 := ⟨fuel - 1, by simp at enough; omega⟩
    rw [Nat.ofDigitChars_cons, Nat.mul_comm] at large
    have areDigits' : ∀ x ∈ ds, x.isDigit = true := fun x member =>
      areDigits x (List.mem_cons_of_mem _ member)
    by_cases fitsHere : n * 10 + (c.toNat - 48) ≤ largestNatural
    · obtain ⟨n', k', ds', digits, later⟩ :=
        ih fuel (k + 1) areDigits' (by simpa using enough) fitsHere large
      refine ⟨n', k', ds', digits, .bind (reads_peek _) ?_⟩
      simp only [List.cons_append, List.head?_cons, digit?_of_isDigit (areDigits c (by simp)),
        fitsNatural, fitsHere, decide_true, if_true]
      exact .bind (reads_advance c _) later
    · refine ⟨n, k, c :: ds, areDigits, .bind (reads_peek _) ?_⟩
      simp only [List.cons_append, List.head?_cons, digit?_of_isDigit (areDigits c (by simp)),
        fitsNatural, fitsHere, decide_false]
      exact .pure _ _

theorem toDigits_cons {n : Nat} (positive : 0 < n) :
    ∃ c ds, Nat.toDigits 10 n = c :: ds ∧ c.toNat - 48 ≠ 0 := by
  induction n using Nat.strongRecOn with
  | ind n ih =>
    rw [Nat.toDigits_eq_if (by decide)]
    split
    next small =>
      refine ⟨_, [], rfl, ?_⟩
      have nonzero : ∀ d < 10, 0 < d → (Nat.digitChar d).toNat - 48 ≠ 0 := by decide
      exact nonzero n small positive
    next =>
      obtain ⟨c, ds, digits, nonzero⟩ := ih (n / 10) (by omega) (by omega)
      exact ⟨c, ds ++ [(n % 10).digitChar], by rw [digits]; rfl, nonzero⟩

theorem reads_numberRest (n : Nat) (e : Int) (rest : List Char) :
    Reads (numberRest false n e true) (',' :: rest) (some (.integer n, ',' :: rest)) := fun _ => rfl

theorem reads_numberRest_float (n : Nat) (e : Int) (rest : List Char) :
    Reads (numberRest false n e false) (',' :: rest)
      ((scaledFloat 8 (.ofNat n) e).map fun x => (.float false x, ',' :: rest)) := by
  intro offset
  change outcome (floatOf false n e ⟨',' :: rest, offset⟩) = _
  unfold floatOf
  cases scaledFloat 8 (.ofNat n) e <;> rfl

theorem reads_countDigits {ds : List Char} (areDigits : ∀ c ∈ ds, c.isDigit = true)
    (rest : List Char) :
    Reads countDigits (ds ++ ',' :: rest) (some (ds.length, ',' :: rest)) := by
  intro offset
  have taken : (ds ++ ',' :: rest).takeWhile Char.isDigit = ds := by
    rw [List.takeWhile_append_of_pos areDigits]
    simp
  change outcome (.ok _ _) = _
  simp [outcome, Reader.takeWhile, taken]

theorem reads_number (n : Nat) (rest : List Char) :
    ∃ v, Reads (number false) (Nat.toDigits 10 n ++ ',' :: rest) v ∧
      (n ≤ largestNatural → v = some (.integer n, ',' :: rest)) ∧
      (largestNatural < n → ∀ x rest', v = some (x, rest') → ∃ y, x = .float false y) := by
  by_cases zero : n = 0
  · subst zero
    exact ⟨_, fun _ => rfl, fun _ => rfl, fun large => absurd large (by decide)⟩
  · obtain ⟨c, ds, digits, nonzero⟩ := toDigits_cons (Nat.pos_of_ne_zero zero)
    have areDigits : ∀ x ∈ c :: ds, x.isDigit = true := fun x member =>
      Nat.isDigit_of_mem_toDigits (by decide) (by decide) (digits ▸ member)
    have value : Nat.ofDigitChars 10 ds (c.toNat - 48) = n := by
      have whole := Nat.ofDigitChars_ten_toDigits (n := n)
      rwa [digits, Nat.ofDigitChars_cons, Nat.mul_zero, Nat.zero_add] at whole
    have small : c.toNat - 48 ≤ largestNatural := by
      have range := areDigits c (by simp)
      simp only [Char.isDigit, Bool.and_eq_true, decide_eq_true_eq, ge_iff_le,
        UInt32.le_iff_toNat_le] at range
      have top : 9 ≤ largestNatural := by decide
      have upper : c.toNat ≤ 57 := range.2
      omega
    have inner : ∀ x ∈ ds, x.isDigit = true := fun x member => areDigits x (by simp [member])
    -- What is left to do once the first digit is known not to be zero.
    have start : ∀ {m k more mid v}, Reads (takeDigits (ds ++ ',' :: rest).length (c.toNat - 48) 0)
          (ds ++ ',' :: rest) (some ((m, k, more), mid)) →
        Reads (if more then countDigits >>= fun e => numberRest false m e false
          else numberRest false m 0 true) mid v →
        Reads (number false) (c :: ds ++ ',' :: rest) v := by
      intro m k more mid v taken later
      refine .bind (reads_peek _) (.bind (reads_advance c _) ?_)
      simp only [digit?_of_isDigit (areDigits c (by simp))]
      obtain ⟨d, first⟩ := Nat.exists_eq_succ_of_ne_zero nonzero
      rw [first] at taken ⊢
      exact .bind (reads_left _) (.bind taken later)
    rw [digits]
    by_cases fits : n ≤ largestNatural
    · have taken := reads_takeDigits (ds ++ ',' :: rest).length 0 inner (by simp)
        (value.le.trans fits) rest
      rw [value] at taken
      exact ⟨_, start taken (reads_numberRest n 0 rest), fun _ => rfl,
        fun large => absurd fits (by omega)⟩
    · obtain ⟨m, k, ds', digits', taken⟩ := reads_takeDigits_many (ds ++ ',' :: rest).length 0 inner
        (by simp) small (by omega) rest
      refine ⟨_, start taken (.bind (reads_countDigits digits' rest)
        (reads_numberRest_float m ds'.length rest)), fun fitting => absurd fitting fits, ?_⟩
      rintro _ x rest' read
      obtain ⟨y, _, same⟩ := Option.map_eq_some_iff.mp read
      exact ⟨y, (Prod.mk.inj same).1.symm⟩

theorem toList_natural (n : Nat) : (toString n).toList = Nat.toDigits 10 n := by
  rw [Nat.toString_eq_ofList_toDigits, String.toList_ofList]

theorem reads_natural32 (n : Nat) (rest : List Char) :
    Reads natural32 ((toString n).toList ++ ',' :: rest)
      (if n < Nat.pow 2 32 then some (n, ',' :: rest) else none) := by
  obtain ⟨v, read, fitting, large⟩ := reads_number n rest
  rw [toList_natural]
  obtain ⟨c, ds, digits⟩ := List.exists_cons_of_ne_nil (Nat.toDigits_ne_nil (n := n) (b := 10))
  have isDigit : c.isDigit = true :=
    Nat.isDigit_of_mem_toDigits (by decide) (by decide) (digits ▸ List.mem_cons_self)
  have shown : isSpace c = false := by
    refine Bool.eq_false_iff.mpr fun space => ?_
    simp only [isSpace, Bool.or_eq_true, beq_iff_eq] at space
    rcases space with ((rfl | rfl) | rfl) | rfl <;> cases isDigit
  have unsigned : (c == '-') = false := by
    refine Bool.eq_false_iff.mpr fun minus => ?_
    rw [eq_of_beq minus] at isDigit
    cases isDigit
  rw [digits] at read ⊢
  refine .placed (.bind (reads_expectNext shown _) ?_)
  simp only [unsigned, isDigit, if_true]
  by_cases fits : n ≤ largestNatural
  · rw [fitting fits] at read
    refine .bind read ?_
    change Reads (if n < Nat.pow 2 32 then Pure.pure n else failContent _) _ _
    split
    · exact .pure _ _
    · exact reads_failContent _ _
  · have above : ¬ n < Nat.pow 2 32 := by
      have top : Nat.pow 2 32 ≤ largestNatural := by decide
      omega
    rw [if_neg above]
    cases v with
    | none => exact .bind_none read
    | some pair =>
      obtain ⟨y, isFloat⟩ := large (by omega) pair.1 pair.2 rfl
      refine .bind read ?_
      rw [isFloat]
      exact reads_failContent _ _

theorem toList_commas (x : String) (xs : List String) :
    (",".intercalate (x :: xs)).toList = x.toList ++ xs.flatMap fun y => ',' :: y.toList := by
  induction xs generalizing x with
  | nil => simp
  | cons y ys ih => simp [String.intercalate_cons_cons, ih]

theorem reads_moreElements_end (first : Bool) (rest : List Char) :
    Reads (moreElements first) (']' :: rest) (some (false, ']' :: rest)) := fun _ => rfl

theorem reads_moreElements_first {c : Char} (shown : isSpace c = false) (other : c ≠ ']')
    (cs : List Char) : Reads (moreElements true) (c :: cs) (some (true, c :: cs)) := by
  refine .bind (reads_next shown cs) ?_
  simp only [beq_iff_eq, other, if_false, if_true]
  exact .pure _ _

theorem reads_moreElements_later {c : Char} (shown : isSpace c = false) (other : c ≠ ']')
    (cs : List Char) : Reads (moreElements false) (',' :: c :: cs) (some (true, c :: cs)) := by
  refine .bind (reads_next (by decide) _) (.bind (reads_advance ',' _) ?_)
  refine .bind (reads_next shown cs) ?_
  split
  next same => cases same
  next same => exact absurd (Option.some.inj same) other
  next => exact .pure _ _

-- How the values of a type are written and read. A value that does not fit is refused.
structure Written (d : Decoder α) (write : α → List Char) (fits : α → Bool) : Prop where
  opens : ∀ a, ∃ c cs, write a = c :: cs ∧ isSpace c = false ∧ c ≠ ']'
  reads : ∀ a rest, Reads d (write a ++ rest) (if fits a then some (a, rest) else none)

theorem Written.element {d : Decoder α} {write : α → List Char} {fits : α → Bool}
    (written : Written d write fits) {as : List α} {a : α} {first : Bool} {fuel : Nat}
    {cs mid rest : List Char} (more : Reads (moreElements first) cs (some (true, write a ++ mid)))
    (later : Reads (elements d fuel false) mid (if as.all fits then some (as, rest) else none)) :
    Reads (elements d (fuel + 1) first) cs
      (if (a :: as).all fits then some (a :: as, rest) else none) := by
  have value := written.reads a mid
  refine .bind more ?_
  by_cases fitsHere : fits a = true
  · rw [if_pos fitsHere] at value
    refine .bind value ?_
    by_cases fitsLater : as.all fits = true
    · rw [if_pos fitsLater] at later
      have whole : (a :: as).all fits = true := by simp [fitsHere, fitsLater]
      rw [if_pos whole]
      exact .bind later (.pure _ _)
    · rw [if_neg fitsLater] at later
      have whole : ¬ (a :: as).all fits = true := by simpa [fitsHere] using fitsLater
      rw [if_neg whole]
      exact .bind_none later
  · rw [if_neg fitsHere] at value
    have whole : ¬ (a :: as).all fits = true := by simp [fitsHere]
    rw [if_neg whole]
    exact .bind_none value

theorem Written.elements {d : Decoder α} {write : α → List Char} {fits : α → Bool}
    (written : Written d write fits) (as : List α) (rest : List Char) (fuel : Nat)
    (enough : as.length < fuel) :
    Reads (elements d fuel false) ((as.flatMap fun a => ',' :: write a) ++ ']' :: rest)
      (if as.all fits then some (as, ']' :: rest) else none) := by
  induction as generalizing fuel with
  | nil =>
    obtain ⟨fuel, rfl⟩ : ∃ m, fuel = m + 1 := ⟨fuel - 1, by simp at enough; omega⟩
    exact .bind (reads_moreElements_end false rest) (.pure _ _)
  | cons a as ih =>
    obtain ⟨fuel, rfl⟩ : ∃ m, fuel = m + 1 := ⟨fuel - 1, by simp at enough; omega⟩
    obtain ⟨c, cs, opening, shown, other⟩ := written.opens a
    have later := ih fuel (by simpa using enough)
    refine written.element ?_ later
    rw [List.flatMap_cons, List.append_assoc, List.cons_append, opening, List.cons_append]
    exact reads_moreElements_later shown other _

theorem Written.list {d : Decoder α} {write : α → String} {fits : α → Bool}
    (written : Written d (fun a => (write a).toList) fits) (as : List α) (rest : List Char) :
    Reads (Decoder.list d) (("[" ++ ",".intercalate (as.map write) ++ "]").toList ++ rest)
      (if as.all fits then some (as, rest) else none) := by
  have items : ∀ fuel, as.length < fuel → Reads (Decoder.elements d fuel true)
      ((",".intercalate (as.map write)).toList ++ ']' :: rest)
      (if as.all fits then some (as, ']' :: rest) else none) := by
    intro fuel enough
    obtain ⟨fuel, rfl⟩ : ∃ m, fuel = m + 1 := ⟨fuel - 1, by omega⟩
    cases as with
    | nil => exact .bind (reads_moreElements_end true rest) (.pure _ _)
    | cons a as =>
      obtain ⟨c, cs, opening, shown, other⟩ := written.opens a
      have later := written.elements as rest fuel (by simpa using enough)
      refine written.element ?_ later
      rw [List.map_cons, toList_commas, List.flatMap_map, List.append_assoc, opening]
      exact reads_moreElements_first shown other _
  have text : ("[" ++ ",".intercalate (as.map write) ++ "]").toList ++ rest =
      '[' :: ((",".intercalate (as.map write)).toList ++ ']' :: rest) := by
    simp
  have enough : as.length < ((",".intercalate (as.map write)).toList ++ ']' :: rest).length + 1 := by
    cases as with
    | nil => simp
    | cons a as =>
      have later := length_le_flatMap (f := fun b => ',' :: (write b).toList) (by simp) as
      rw [List.map_cons, toList_commas, List.flatMap_map]
      simp only [List.length_append, List.length_cons]
      omega
  have closes : Reads endList (']' :: rest) (some ((), rest)) := fun _ => rfl
  have inside := items _ enough
  rw [text]
  refine .bind (reads_expectNext (by decide) _) (.bind (reads_advance '[' _) ?_)
  refine .bind (reads_left _) (.placed ?_)
  by_cases fit : as.all fits = true
  · rw [if_pos fit] at inside ⊢
    exact .closing inside closes
  · rw [if_neg fit] at inside ⊢
    exact .closing_none inside

theorem reads_colon (rest : List Char) : Reads colon (':' :: rest) (some ((), rest)) := fun _ => rfl

theorem reads_moreKeys_first (name : String) (rest : List Char) :
    Reads (moreKeys true) ((Text.quoted name).toList ++ rest)
      (some (true, (Text.quoted name).toList ++ rest)) := by
  rw [toList_quoted]
  exact fun _ => rfl

theorem reads_moreKeys_later (name : String) (rest : List Char) :
    Reads (moreKeys false) (',' :: ((Text.quoted name).toList ++ rest))
      (some (true, (Text.quoted name).toList ++ rest)) := by
  rw [toList_quoted]
  exact fun _ => rfl

theorem reads_fieldOnce {d : Decoder α} {set : α → σ} {cs mid : List Char} {a : α} (name : String)
    (value : Reads d cs (some (a, mid))) :
    Reads (fieldOnce name none d set) (':' :: cs) (some (set a, mid)) :=
  .bind (reads_colon cs) (.bind value (.pure _ _))

theorem reads_fieldOnce_none {d : Decoder α} {set : α → σ} {cs : List Char} (name : String)
    (value : Reads d cs none) : Reads (fieldOnce name none d set) (':' :: cs) none :=
  .bind (reads_colon cs) (.bind_none value)

-- One field of an object. The whole is refused if the field's value is, or if a later one is.
theorem reads_fields_step {shape : Shape σ} {d : Decoder α} {set : α → σ} {s : σ} {name : String}
    {fuel : Nat} {first fits fitsLater : Bool} {cs inner mid rest : List Char} {a : α} {last : σ}
    (more : Reads (moreKeys first) cs (some (true, (Text.quoted name).toList ++ ':' :: inner)))
    (known : shape.field name s = some (fieldOnce name none d set))
    (value : Reads d inner (if fits then some (a, mid) else none))
    (later : Reads (fields shape fuel false (set a)) mid
      (if fitsLater then some (last, rest) else none)) :
    Reads (fields shape (fuel + 1) first s) cs
      (if fits && fitsLater then some (last, rest) else none) := by
  refine .bind more (.bind (reads_quotedString name _) ?_)
  simp only [known]
  cases fits with
  | false => exact .bind_none (reads_fieldOnce_none name value)
  | true => exact .bind (reads_fieldOnce name value) later

theorem reads_fields_end (shape : Shape σ) (fuel : Nat) (s : σ) (rest : List Char) :
    Reads (fields shape (fuel + 1) false s) ('\x7d' :: rest)
      (if true then some (s, '\x7d' :: rest) else none) :=
  fun _ => rfl

theorem reads_record {shape : Shape σ} {finish : σ → Decoder α} {cs rest : List Char} {s : σ}
    {a : α} {fits : Bool} {n : Nat} (enough : n ≤ cs.length + 1)
    (inside : ∀ fuel, Reads (fields shape (fuel + n) true shape.start) cs
      (if fits then some (s, '\x7d' :: rest) else none))
    (finished : finish s = Pure.pure a) :
    Reads (record shape finish) ('\x7b' :: cs) (if fits then some (a, rest) else none) := by
  have inside := inside (cs.length + 1 - n)
  rw [Nat.sub_add_cancel enough] at inside
  refine .bind (reads_expectNext (by decide) _) (.bind (reads_advance _ cs) (.placed ?_))
  have closes : Reads endObject ('\x7d' :: rest) (some ((), rest)) := fun _ => rfl
  cases fits with
  | false => exact .closing_none (.bind (reads_left cs) (.bind_none inside))
  | true =>
    refine .closing (.bind (reads_left cs) (.bind inside ?_)) closes
    rw [finished]
    exact .pure a _

end Decoder

end Rsx
