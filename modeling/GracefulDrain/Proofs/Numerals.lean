import Mathlib
import GracefulDrain.Number.Reading
import GracefulDrain.Text.Split

namespace GracefulDrain.Number

/-- A digit of value `v`. -/
def DigitOf (v : Nat) (c : Char) : Prop := c = v.digitChar ∨ c = v.digitChar.toUpper

instance (v : Nat) (c : Char) : Decidable (DigitOf v c) := inferInstanceAs (Decidable (_ ∨ _))

/-- Digits in base `radix` that write `n`. -/
def Numeral (radix n : Nat) (ds : List Char) : Prop :=
  ∃ vs : List Nat, vs ≠ [] ∧ (∀ v ∈ vs, v < radix) ∧ List.Forall₂ DigitOf vs ds ∧
    Nat.ofDigits radix vs.reverse = n

/-- No digit stands in front. -/
def NoDigit (radix : Nat) (cs : List Char) : Prop := ∀ c ∈ cs.head?, isDigitOf radix c = false

theorem noDigit_nil (radix : Nat) : NoDigit radix [] := by simp [NoDigit]

theorem noDigit_cons {radix : Nat} {c : Char} {cs : List Char} :
    NoDigit radix (c :: cs) ↔ isDigitOf radix c = false := by simp [NoDigit]

variable {radix : Nat}

theorem digitOf_of_digitValue? {v : Nat} {c : Char} (h : digitValue? radix c = some v) :
    DigitOf v c := by
  have hv := (Option.filter_eq_some_iff.1 h).1
  simp only [Char.isDigit, Char.le_def, UInt32.le_iff_toNat_le, Bool.and_eq_true,
    decide_eq_true_eq, ge_iff_le, Char.toNat_val] at hv
  rw [← Char.ofNat_toNat c]
  generalize c.toNat = n at hv ⊢
  split_ifs at hv with hdigit hlower hupper
  · obtain ⟨hlo, hhi⟩ : 48 ≤ n ∧ n ≤ 57 := hdigit
    obtain rfl := Option.some.inj hv
    interval_cases n <;> decide
  · obtain ⟨hlo, hhi⟩ : 97 ≤ n ∧ n ≤ 102 := hlower
    obtain rfl := Option.some.inj hv
    interval_cases n <;> decide
  · obtain ⟨hlo, hhi⟩ : 65 ≤ n ∧ n ≤ 70 := hupper
    obtain rfl := Option.some.inj hv
    interval_cases n <;> decide

theorem lt_of_digitValue? {v : Nat} {c : Char} (h : digitValue? radix c = some v) : v < radix :=
  of_decide_eq_true (Option.filter_eq_some_iff.1 h).2

theorem digitValue?_of_digitOf (hr : radix ≤ 16) {v : Nat} {c : Char} (hv : v < radix)
    (h : DigitOf v c) : digitValue? radix c = some v := by
  have hv16 : v < 16 := by omega
  rw [digitValue?, Option.filter_eq_some_iff]
  refine ⟨?_, decide_eq_true hv⟩
  clear hv hr
  rcases h with rfl | rfl <;> interval_cases v <;> rfl

/-- A digit of a small base is one of every larger base. -/
theorem isDigitOf_mono {larger : Nat} (h : radix ≤ larger) (hl : larger ≤ 16) {c : Char}
    (hc : isDigitOf radix c = true) : isDigitOf larger c = true := by
  obtain ⟨v, hv⟩ := Option.isSome_iff_exists.1 hc
  have hlt : v < larger := (lt_of_digitValue? hv).trans_le h
  rw [isDigitOf, digitValue?_of_digitOf hl hlt (digitOf_of_digitValue? hv)]
  rfl

theorem noDigit_mono {larger : Nat} (h : radix ≤ larger) (hl : larger ≤ 16) {cs : List Char}
    (hcs : NoDigit larger cs) : NoDigit radix cs := by
  intro c hc
  by_contra hdigit
  have := isDigitOf_mono h hl (Bool.eq_true_of_not_eq_false hdigit)
  exact absurd (hcs c hc) (by simp [this])

/-- The digits' values, read off one by one, make up the value of the numeral. -/
theorem valueOf_of_forall₂ (hr : radix ≤ 16) {vs : List Nat} {ds : List Char}
    (hvs : ∀ v ∈ vs, v < radix) (h : List.Forall₂ DigitOf vs ds) :
    valueOf radix ds = Nat.ofDigits radix vs.reverse := by
  have hfold (n : Nat) : ds.foldl (fun n d => n * radix + (digitValue? radix d).getD 0) n =
      n * radix ^ ds.length + Nat.ofDigits radix vs.reverse := by
    induction h generalizing n with
    | nil => simp
    | @cons v d vs ds hd hrest ih =>
      have hv : digitValue? radix d = some v :=
        digitValue?_of_digitOf hr (hvs v List.mem_cons_self) hd
      rw [List.foldl_cons, ih fun x hx => hvs x (List.mem_cons_of_mem v hx), hv]
      rw [Nat.ofDigits_reverse_cons, hrest.length_eq, List.length_cons, Option.getD_some]
      ring
  simpa [valueOf] using hfold 0

theorem numeral_iff (hr : radix ≤ 16) {n : Nat} {ds : List Char} :
    Numeral radix n ds ↔ ds ≠ [] ∧ (∀ d ∈ ds, isDigitOf radix d = true) ∧ valueOf radix ds = n := by
  constructor
  · rintro ⟨vs, hne, hvs, hds, rfl⟩
    refine ⟨?_, ?_, valueOf_of_forall₂ hr hvs hds⟩
    · rintro rfl
      exact hne (List.forall₂_nil_right_iff.1 hds)
    · intro d hd
      obtain ⟨i, hi, rfl⟩ := List.getElem_of_mem hd
      have hiv : i < vs.length := hds.length_eq ▸ hi
      have hdigit : DigitOf vs[i] ds[i] := by simpa using hds.get hiv hi
      rw [isDigitOf, digitValue?_of_digitOf hr (hvs _ (List.getElem_mem hiv)) hdigit]
      rfl
  · rintro ⟨hne, hds, rfl⟩
    have hvalue (d : Char) (hd : d ∈ ds) :
        digitValue? radix d = some ((digitValue? radix d).getD 0) := by
      obtain ⟨v, hv⟩ := Option.isSome_iff_exists.1 (hds d hd)
      rw [hv]
      rfl
    have hvs : ∀ v ∈ ds.map fun d => (digitValue? radix d).getD 0, v < radix := by
      intro v hv
      obtain ⟨d, hd, rfl⟩ := List.mem_map.1 hv
      exact lt_of_digitValue? (hvalue d hd)
    have hall : List.Forall₂ DigitOf (ds.map fun d => (digitValue? radix d).getD 0) ds := by
      rw [List.forall₂_map_left_iff]
      exact List.forall₂_same.2 fun d hd => digitOf_of_digitValue? (hvalue d hd)
    exact ⟨_, by simpa using hne, hvs, hall, (valueOf_of_forall₂ hr hvs hall).symm⟩

theorem isDigitOf_of_numeral {n : Nat} (hr : radix ≤ 16) {ds : List Char}
    (h : Numeral radix n ds) : ∀ d ∈ ds, isDigitOf radix d = true := ((numeral_iff hr).1 h).2.1

theorem ne_nil_of_numeral {n : Nat} (hr : radix ≤ 16) {ds : List Char}
    (h : Numeral radix n ds) : ds ≠ [] := ((numeral_iff hr).1 h).1

theorem not_noDigit_of_numeral {n : Nat} (hr : radix ≤ 16) {ds rest : List Char}
    (h : Numeral radix n ds) : ¬NoDigit radix (ds ++ rest) := by
  obtain ⟨hne, hdigits, -⟩ := (numeral_iff hr).1 h
  obtain ⟨d, ds, rfl⟩ := List.exists_cons_of_ne_nil hne
  rw [List.cons_append, noDigit_cons, hdigits d List.mem_cons_self]
  exact Bool.noConfusion

theorem takeWhile_digits {ds rest : List Char} (hds : ∀ d ∈ ds, isDigitOf radix d = true)
    (hrest : NoDigit radix rest) : (ds ++ rest).takeWhile (isDigitOf radix) = ds :=
  Text.takeWhile_append_of_head hds hrest

theorem dropWhile_digits {ds rest : List Char} (hds : ∀ d ∈ ds, isDigitOf radix d = true)
    (hrest : NoDigit radix rest) : (ds ++ rest).dropWhile (isDigitOf radix) = rest :=
  Text.dropWhile_append_of_head hds hrest

theorem noDigit_dropWhile (radix : Nat) (cs : List Char) :
    NoDigit radix (cs.dropWhile (isDigitOf radix)) := by
  intro c hc
  have := List.head?_dropWhile_not (isDigitOf radix) cs
  simp_all

/-- A number is read off exactly the numeral in front. -/
theorem readNumber_eq_some_iff (hr : radix ≤ 16) {maxDigits limit n : Nat} {cs rest : List Char} :
    readNumber radix maxDigits limit cs = some (n, rest) ↔
      ∃ ds, cs = ds ++ rest ∧ Numeral radix n ds ∧ ds.length ≤ maxDigits ∧ n ≤ limit ∧
        NoDigit radix rest := by
  constructor
  · intro h
    rw [readNumber] at h
    split at h
    · cases h
    · next hfits =>
      obtain ⟨rfl, rfl⟩ := Prod.mk.inj (Option.some.inj h)
      obtain ⟨hne, hlen, hlimit⟩ := not_or.1 hfits |>.imp_right not_or.1
      have hdigits : ∀ d ∈ cs.takeWhile (isDigitOf radix), isDigitOf radix d = true :=
        fun d hd => List.mem_takeWhile_imp hd
      exact ⟨_, List.takeWhile_append_dropWhile.symm, (numeral_iff hr).2 ⟨hne, hdigits, rfl⟩,
        not_lt.1 hlen, not_lt.1 hlimit, noDigit_dropWhile radix cs⟩
  · rintro ⟨ds, rfl, hnum, hlen, hlimit, hrest⟩
    obtain ⟨hne, hdigits, hvalue⟩ := (numeral_iff hr).1 hnum
    rw [readNumber]
    simp only [takeWhile_digits hdigits hrest, dropWhile_digits hdigits hrest, hvalue]
    rw [if_neg]
    simp only [hne, not_or, not_lt]
    exact ⟨not_false, hlen, hlimit⟩

theorem readDecimal_eq_some_iff {limit n : Nat} {cs rest : List Char} :
    readDecimal limit cs = some (n, rest) ↔
      ∃ ds, cs = ds ++ rest ∧ Numeral 10 n ds ∧ n ≤ limit ∧ NoDigit 10 rest := by
  rw [readDecimal, readNumber_eq_some_iff (by decide)]
  refine exists_congr fun ds => and_congr_right fun hcs => and_congr_right fun _ => ?_
  have hlen : ds.length ≤ cs.length := by simp [hcs]
  exact and_iff_right hlen

theorem numeral_toDigits (hr : 1 < radix) (n : Nat) : Numeral radix n (Nat.toDigits radix n) := by
  induction n using Nat.strong_induction_on with
  | _ n ih =>
    by_cases hn : n < radix
    · rw [Nat.toDigits_of_lt_base hn]
      exact ⟨[n], by simp, by simpa using hn, by simp [DigitOf], by simp⟩
    · -- the last digit comes off the end
      have hbase : radix ≤ n := not_lt.1 hn
      obtain ⟨vs, hne, hvs, hall, hvalue⟩ := ih (n / radix) (Nat.div_lt_self (by omega) hr)
      rw [Nat.toDigits_of_base_le hr hbase]
      refine ⟨vs ++ [n % radix], by simp, ?_, List.rel_append hall (by simp [DigitOf]), ?_⟩
      · simp only [List.mem_append, List.mem_singleton]
        rintro v (hv | rfl)
        · exact hvs v hv
        · exact Nat.mod_lt n (by omega)
      · rw [List.reverse_append, List.reverse_singleton, List.singleton_append]
        rw [Nat.ofDigits_cons, hvalue]
        exact Nat.mod_add_div n radix

theorem digitChar_ne_zero {v : Nat} (h0 : v ≠ 0) (h : v < 16) : v.digitChar ≠ '0' := by
  interval_cases v <;> first | exact absurd rfl h0 | decide

/-- Only zero is written with a zero in front. -/
theorem toDigits_of_head?_zero (hr : 1 < radix) (hr' : radix ≤ 16) {n : Nat}
    (h : (Nat.toDigits radix n).head? = some '0') : Nat.toDigits radix n = ['0'] := by
  suffices hn : n = 0 by rw [hn, Nat.toDigits_zero]
  induction n using Nat.strong_induction_on with
  | _ n ih =>
    by_contra h0
    by_cases hn : n < radix
    · rw [Nat.toDigits_of_lt_base hn] at h
      exact digitChar_ne_zero h0 (by omega) (Option.some.inj h)
    · have hbase : radix ≤ n := not_lt.1 hn
      rw [Nat.toDigits_of_base_le hr hbase, List.head?_append_of_ne_nil _ Nat.toDigits_ne_nil] at h
      have := ih (n / radix) (Nat.div_lt_self (by omega) hr) h
      exact absurd ((Nat.div_eq_zero_iff_lt (by omega)).1 this) hn

theorem digits_toDigits (n : Nat) : ∀ c ∈ Nat.toDigits 10 n, c.isDigit = true :=
  fun _ hc => Nat.isDigit_of_mem_toDigits (by decide) (by decide) hc

theorem valueOf_toDigits (n : Nat) : valueOf 10 (Nat.toDigits 10 n) = n :=
  ((numeral_iff (by decide)).1 (numeral_toDigits (by decide) n)).2.2

theorem splitSign_of_isDigit {cs : List Char} (h : ∀ c ∈ cs, c.isDigit = true) :
    splitSign cs = (false, cs) := by
  unfold splitSign
  split
  · exact absurd (h _ List.mem_cons_self) (by decide)
  · exact absurd (h _ List.mem_cons_self) (by decide)
  · rfl

theorem integer?_toDigits (n : Nat) : integer? (Nat.toDigits 10 n) = some (n : Int) := by
  have hall : (Nat.toDigits 10 n).all Char.isDigit = true := List.all_eq_true.2 (digits_toDigits n)
  rw [integer?, splitSign_of_isDigit (digits_toDigits n)]
  simp [natural?, Nat.toDigits_ne_nil, hall, valueOf_toDigits]

theorem signed64?_toDigits {n : Nat} (hn : n < 2 ^ 63) :
    signed64? (Nat.toDigits 10 n) = some (n : Int) := by
  have hpow : Int.pow 2 63 = 2 ^ 63 := rfl
  rw [signed64?, integer?_toDigits, Option.filter_some, hpow, if_pos]
  rw [decide_eq_true_eq]
  omega

end GracefulDrain.Number
