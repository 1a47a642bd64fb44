import Rsx.Cache
import Mathlib.Data.List.Basic
import Mathlib.Data.String.Basic

set_option autoImplicit false

namespace Rsx

theorem bytes_loop (bs : ByteArray) (i : Nat) (taken : List UInt8) :
    ByteArray.toList.loop bs i taken = taken.reverse ++ bs.data.toList.drop i := by
  fun_induction ByteArray.toList.loop bs i taken with
  | case1 i taken inside ih =>
    have present : i < bs.data.toList.length := inside
    rw [ih, List.drop_eq_getElem_cons present]
    simp [ByteArray.get!, inside]
  | case2 i taken outside =>
    have beyond : bs.data.toList.length ≤ i := Nat.le_of_not_lt outside
    rw [List.drop_eq_nil_of_le beyond, List.append_nil]

theorem byte_cases {c : Char} {b : UInt8} (member : b ∈ String.utf8EncodeChar c) :
    (c.val.toNat ≤ 127 ∧ b.toNat = c.val.toNat) ∨
      (127 < c.val.toNat ∧ 128 ≤ b.toNat ∧ b.toNat < 248) := by
  rw [String.utf8EncodeChar.eq_1] at member
  split_ifs at member with one two three <;>
    simp only [List.mem_cons, List.not_mem_nil, or_false] at member
  · left
    subst member
    simp only [UInt8.toNat_ofNat']
    omega
  · right
    rcases member with rfl | rfl <;> simp only [UInt8.toNat_ofNat'] <;> omega
  · right
    rcases member with rfl | rfl | rfl <;> simp only [UInt8.toNat_ofNat'] <;> omega
  · right
    rcases member with rfl | rfl | rfl | rfl <;> simp only [UInt8.toNat_ofNat'] <;> omega

theorem code_lt (c : Char) : c.val.toNat < 0x110000 := by
  rcases c.valid with below | ⟨-, above⟩
  · exact Nat.lt_trans below (by decide)
  · exact above

-- Of two codes the smaller has the smaller digit in base 64 where they first differ.
theorem digits_lt {v w : Nat} (less : v < w) (bound : w < 0x110000) :
    v / 262144 % 8 < w / 262144 % 8 ∨ v / 262144 % 8 = w / 262144 % 8 ∧
      (v / 4096 % 64 < w / 4096 % 64 ∨ v / 4096 % 64 = w / 4096 % 64 ∧
        (v / 64 % 64 < w / 64 % 64 ∨ v / 64 % 64 = w / 64 % 64 ∧ v % 64 < w % 64)) := by
  have first : v / 262144 % 8 = v / 262144 ∧ w / 262144 % 8 = w / 262144 := by omega
  have low : v / 64 < w / 64 ∨ v / 64 = w / 64 ∧ v % 64 < w % 64 := by omega
  have middle : v / 64 < w / 64 → v / 4096 < w / 4096 ∨
      v / 4096 = w / 4096 ∧ v / 64 % 64 < w / 64 % 64 := by omega
  have high : v / 4096 < w / 4096 → v / 262144 < w / 262144 ∨
      v / 262144 = w / 262144 ∧ v / 4096 % 64 < w / 4096 % 64 := by omega
  omega

theorem encode_lt {c d : Char} (less : c < d) (x y : List UInt8) :
    String.utf8EncodeChar c ++ x < String.utf8EncodeChar d ++ y := by
  have smaller : c.val.toNat < d.val.toNat := less
  have bound := code_lt d
  have digits := digits_lt smaller bound
  rw [String.utf8EncodeChar.eq_1, String.utf8EncodeChar.eq_1]
  split_ifs <;>
    simp only [List.cons_append, List.nil_append, List.cons_lt_cons_iff, UInt8.lt_iff_toNat_lt,
      ← UInt8.toNat_inj, UInt8.toNat_ofNat'] <;>
    simp (disch := omega) only [Nat.mod_eq_of_lt (b := 256)] <;>
    omega

theorem flatMap_encode_lt {cs ds : List Char} (less : cs < ds) :
    cs.flatMap String.utf8EncodeChar < ds.flatMap String.utf8EncodeChar := by
  induction cs generalizing ds with
  | nil =>
    cases ds with
    | nil => exact absurd less (List.not_lt_nil _)
    | cons d ds =>
      obtain ⟨b, bs, first⟩ := List.exists_cons_of_ne_nil (String.utf8EncodeChar_ne_nil (c := d))
      rw [List.flatMap_nil, List.flatMap_cons, first, List.cons_append]
      exact List.nil_lt_cons _ _
  | cons c cs ih =>
    cases ds with
    | nil => exact absurd less (List.not_lt_nil _)
    | cons d ds =>
      rw [List.flatMap_cons, List.flatMap_cons]
      rcases List.cons_lt_cons_iff.mp less with first | ⟨rfl, later⟩
      · exact encode_lt first _ _
      · exact List.append_left_lt (ih later)

theorem split_at_mark {α : Type} {mark : α} {x y u v : List α} (plainX : mark ∉ x)
    (plainY : mark ∉ y) (same : x ++ mark :: u = y ++ mark :: v) : x = y ∧ u = v := by
  induction x generalizing y with
  | nil =>
    cases y with
    | nil => exact ⟨rfl, (List.cons.inj same).2⟩
    | cons b y => exact absurd (List.cons.inj same).1 (by grind)
  | cons a x ih =>
    cases y with
    | nil => exact absurd (List.cons.inj same).1 (by grind)
    | cons b y =>
      obtain ⟨first, later⟩ := List.cons.inj same
      obtain ⟨rest, behind⟩ := ih (by grind) (by grind) later
      exact ⟨by rw [first, rest], behind⟩

theorem fromUTF8?_toUTF8 (s : String) : String.fromUTF8? s.toUTF8 = some s := by
  have valid : s.toUTF8.IsValidUTF8 := s.isValidUTF8
  rw [String.fromUTF8?, dif_pos valid]
  rfl

namespace Options

theorem utf8_eq (s : String) : utf8 s = s.toList.flatMap String.utf8EncodeChar := by
  rw [utf8, ByteArray.toList, bytes_loop, List.reverse_nil, List.nil_append, List.drop_zero]
  change s.toByteArray.data.toList = _
  rw [← String.utf8Encode_toList, List.utf8Encode.eq_1, List.toList_data_toByteArray]

theorem utf8_injective {s t : String} (same : utf8 s = utf8 t) : s = t := by
  rw [utf8_eq, utf8_eq] at same
  rw [← String.toByteArray_inj, ← String.utf8Encode_toList, ← String.utf8Encode_toList,
    List.utf8Encode.eq_1, List.utf8Encode.eq_1, same]

theorem mark_notMem_utf8 (s : String) : 0xff ∉ utf8 s := by
  rw [utf8_eq, List.mem_flatMap]
  rintro ⟨c, -, member⟩
  have cases := byte_cases member
  have mark : (0xff : UInt8).toNat = 255 := rfl
  omega

theorem zero_mem_utf8 {s : String} : 0 ∈ utf8 s ↔ '\x00' ∈ s.toList := by
  rw [utf8_eq, List.mem_flatMap]
  constructor
  · rintro ⟨c, present, member⟩
    have cases := byte_cases member
    have zero : (0 : UInt8).toNat = 0 := rfl
    have nul : c = '\x00' := Char.ext (UInt32.toNat_inj.mp (by
      change c.val.toNat = 0
      omega))
    rwa [← nul]
  · exact fun present => ⟨'\x00', present, by decide⟩

theorem utf8_lt {s t : String} (less : s < t) : utf8 s < utf8 t := by
  rw [utf8_eq, utf8_eq]
  exact flatMap_encode_lt (String.lt_iff_toList_lt.mp less)

end Options

theorem Cache.hashBytes_injective {c : Cache} {p q s t : String} (plainP : '\x00' ∉ p.toList)
    (plainQ : '\x00' ∉ q.toList) (same : c.hashBytes p s = c.hashBytes q t) : p = q ∧ s = t := by
  have behindVersion := (List.cons.inj (List.append_cancel_left same)).2
  have behindFingerprint := (List.cons.inj (List.append_cancel_left behindVersion)).2
  obtain ⟨paths, sources⟩ := split_at_mark (by rwa [Options.zero_mem_utf8])
    (by rwa [Options.zero_mem_utf8]) behindFingerprint
  exact ⟨Options.utf8_injective paths, Options.utf8_injective sources⟩

end Rsx
