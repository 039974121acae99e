import Mathlib
import GracefulDrain.Proofs.Numerals
import GracefulDrain.Text.Percent

namespace GracefulDrain.Text
open Number

theorem toList_loop (bs : ByteArray) (i : Nat) (r : List UInt8) :
    ByteArray.toList.loop bs i r = r.reverse ++ bs.data.toList.drop i := by
  fun_induction ByteArray.toList.loop bs i r with
  | case1 i r hi ih =>
    have hlen : i < bs.data.toList.length := by simpa using hi
    have hget : bs.get! i = bs.data.toList[i] := by
      rw [ByteArray.get!, Array.getElem_toList, getElem!_pos bs.data i (by simpa using hi)]
    rw [ih, List.drop_eq_getElem_cons hlen, hget]
    simp
  | case2 i r hi =>
    rw [List.drop_eq_nil_of_le (by simpa using hi), List.append_nil]

theorem utf8Bytes_eq_data (s : String) : utf8Bytes s = s.toByteArray.data.toList := by
  rw [utf8Bytes, ByteArray.toList, toList_loop]
  rfl

theorem utf8Bytes_ofList (cs : List Char) :
    utf8Bytes (String.ofList cs) = cs.flatMap String.utf8EncodeChar := by
  rw [utf8Bytes_eq_data, String.toByteArray_ofList, List.utf8Encode, List.toList_data_toByteArray]

theorem utf8EncodeChar_of_lt {c : Char} (h : c.toNat < 128) :
    String.utf8EncodeChar c = [UInt8.ofNat c.toNat] := by
  rw [String.utf8EncodeChar]
  exact if_pos (Nat.le_of_lt_succ h)

theorem le_of_mem_utf8EncodeChar {c : Char} {b : UInt8} (h : 128 ≤ c.toNat)
    (hb : b ∈ String.utf8EncodeChar c) : 128 ≤ b.toNat := by
  have hv : ¬c.val.toNat ≤ 127 := Nat.not_le.2 h
  simp only [String.utf8EncodeChar, if_neg hv] at hb
  split_ifs at hb <;>
  · simp only [List.mem_cons, List.not_mem_nil, or_false] at hb
    rcases hb with rfl | rfl | rfl | rfl <;> simp <;> omega

/-- The byte of an ASCII character is part of no other character. -/
theorem mem_utf8EncodeChar_iff {c d : Char} (hc : c.toNat < 128) :
    UInt8.ofNat c.toNat ∈ String.utf8EncodeChar d ↔ d = c := by
  have htoNat : (UInt8.ofNat c.toNat).toNat = c.toNat := by simp; omega
  constructor
  · intro h
    have hd : d.toNat < 128 := by
      by_contra hd
      have := le_of_mem_utf8EncodeChar (Nat.not_lt.1 hd) h
      omega
    rw [utf8EncodeChar_of_lt hd, List.mem_singleton, ← UInt8.toNat_inj, htoNat,
      UInt8.toNat_ofNat', Nat.mod_eq_of_lt (by omega)] at h
    exact Char.toNat_inj.1 h.symm
  · rintro rfl
    simp [utf8EncodeChar_of_lt hc]

theorem fromUTF8?_eq_some_iff {bs : List UInt8} {s : String} :
    String.fromUTF8? bs.toByteArray = some s ↔ utf8Bytes s = bs := by
  rw [utf8Bytes_eq_data]
  constructor
  · intro h
    rw [String.fromUTF8?] at h
    split at h
    · obtain rfl := Option.some.inj h
      exact List.toList_data_toByteArray
    · cases h
  · rintro rfl
    have hbytes : s.toByteArray.data.toList.toByteArray = s.toByteArray := by
      refine ByteArray.ext (Array.ext' ?_)
      rw [List.toList_data_toByteArray]
    rw [hbytes, String.fromUTF8?, dif_pos s.isValidUTF8]
    rfl

/-- Two digits that write a byte. -/
def EscapeOf (high low b : UInt8) : Prop :=
  Numeral 16 b.toNat [Char.ofNat high.toNat, Char.ofNat low.toNat]

theorem hexValue?_eq (b : UInt8) :
    hexValue? b = (digitValue? 16 (Char.ofNat b.toNat)).map UInt8.ofNat := by
  have hall : ∀ n < 256, hexValue? (UInt8.ofNat n) =
      (digitValue? 16 (Char.ofNat n)).map UInt8.ofNat := by decide +kernel
  simpa using hall b.toNat b.toNat_lt

/-- Every escape is decoded, and only escapes are. -/
inductive PercentDecoded : List UInt8 → List UInt8 → Prop
  | nil : PercentDecoded [] []
  | escape {high low b : UInt8} {bs ds : List UInt8} (hb : EscapeOf high low b)
      (h : PercentDecoded bs ds) : PercentDecoded (0x25 :: high :: low :: bs) (b :: ds)
  | plain {b : UInt8} {bs ds : List UInt8}
      (hb : ∀ high low c rest, b :: bs = 0x25 :: high :: low :: rest → ¬EscapeOf high low c)
      (h : PercentDecoded bs ds) : PercentDecoded (b :: bs) (b :: ds)

theorem escapeOf_iff {high low b : UInt8} :
    EscapeOf high low b ↔
      ∃ x y, hexValue? high = some x ∧ hexValue? low = some y ∧ x * 16 + y = b := by
  simp only [EscapeOf, numeral_iff (le_refl 16), hexValue?_eq, Option.map_eq_some_iff]
  constructor
  · rintro ⟨-, hdigits, hvalue⟩
    obtain ⟨v, hv⟩ := Option.isSome_iff_exists.1 (hdigits (Char.ofNat high.toNat) (by simp))
    obtain ⟨w, hw⟩ := Option.isSome_iff_exists.1 (hdigits (Char.ofNat low.toNat) (by simp))
    have hlt : v < 16 ∧ w < 16 := ⟨lt_of_digitValue? hv, lt_of_digitValue? hw⟩
    refine ⟨_, _, ⟨v, hv, rfl⟩, ⟨w, hw, rfl⟩, ?_⟩
    simp only [valueOf, List.foldl_cons, List.foldl_nil, hv, hw, Option.getD_some] at hvalue
    rw [← UInt8.toNat_inj, ← hvalue]
    simp
    omega
  · rintro ⟨_, _, ⟨v, hv, rfl⟩, ⟨w, hw, rfl⟩, rfl⟩
    have hlt : v < 16 ∧ w < 16 := ⟨lt_of_digitValue? hv, lt_of_digitValue? hw⟩
    refine ⟨by simp, by simp [isDigitOf, hv, hw], ?_⟩
    simp only [valueOf, List.foldl_cons, List.foldl_nil, hv, hw, Option.getD_some]
    simp
    omega

theorem percentDecoded_percentDecode (bs : List UInt8) : PercentDecoded bs (percentDecode bs) := by
  fun_induction percentDecode bs with
  | case1 high low rest x y hy hx ih => exact .escape (escapeOf_iff.2 ⟨x, y, hx, hy, rfl⟩) ih
  | case2 high low rest hno ih =>
    refine .plain ?_ ih
    rintro high' low' c rest' heq hc
    cases heq
    obtain ⟨x, y, hx, hy, -⟩ := escapeOf_iff.1 hc
    exact hno x y hx hy
  | case3 b rest hno ih =>
    refine .plain ?_ ih
    rintro high low c rest' heq -
    cases heq
    exact hno high low rest' rfl rfl
  | case4 => exact .nil

theorem percentDecoded_iff {bs ds : List UInt8} : PercentDecoded bs ds ↔ percentDecode bs = ds := by
  constructor
  · intro h
    induction h with
    | nil => rfl
    | @escape high low b bs ds hb h ih =>
      obtain ⟨x, y, hx, hy, rfl⟩ := escapeOf_iff.1 hb
      simp only [percentDecode, hx, hy, ih]
    | @plain b bs ds hb h ih =>
      generalize hcs : b :: bs = cs at hb ⊢
      fun_cases percentDecode cs with
      | case1 high low rest x y hy hx =>
        exact absurd (escapeOf_iff.2 ⟨x, y, hx, hy, rfl⟩) (hb high low _ rest rfl)
      | case2 | case3 =>
        cases hcs
        rw [ih]
      | case4 => cases hcs
  · rintro rfl
    exact percentDecoded_percentDecode bs

theorem percentDecodeText?_eq_some_iff {s text : String} :
    percentDecodeText? s = some text ↔ PercentDecoded (utf8Bytes s) (utf8Bytes text) := by
  rw [percentDecodeText?, fromUTF8?_eq_some_iff, percentDecoded_iff, eq_comm]

end GracefulDrain.Text
