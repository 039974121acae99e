import Mathlib
import GracefulDrain.Proofs.DistinctKeys
import GracefulDrain.Proofs.Numerals

/-! A document of sections whose fields hold numbers and texts is written line by line, a text
between double quotes with escapes for what cannot stand there. Reading it gives the same sections
and fields in the same order. -/
namespace GracefulDrain

/-- What a field of a document is given. -/
inductive Datum
  | number (n : Nat)
  | text (s : String)
  deriving DecidableEq, Repr

def Datum.value : Datum → Value
  | number n => .integer n
  | text s => .text s

/-- A number has to fit a signed 64-bit word. -/
def Datum.Fits : Datum → Prop
  | number n => n < 2 ^ 63
  | text _ => True

instance : (d : Datum) → Decidable d.Fits
  | .number n => inferInstanceAs (Decidable (n < 2 ^ 63))
  | .text _ => .isTrue trivial

namespace Toml

def escapeChar (c : Char) : List Char :=
  if c = '"' ∨ c = '\\' then ['\\', c]
  else if isPlain c then [c]
  else ['\\', 'u', '0', '0', (c.toNat / 16).digitChar, (c.toNat % 16).digitChar]

def written : Datum → List Char
  | .number n => Nat.toDigits 10 n
  | .text s => '"' :: s.toList.flatMap escapeChar ++ ['"']

theorem spanBasic_cons {c : Char} (hquote : c ≠ '"') (hslash : c ≠ '\\') (hc : isPlain c = true)
    (cs : List Char) :
    spanBasic (c :: cs) = (spanBasic cs).map fun (raw, rest) => (c :: raw, rest) := by
  rw [spanBasic]
  · rw [if_pos hc]
  · exact hquote
  · exact fun d rest h => absurd h hslash

theorem spanBasic_escape {c : Char} (hc : isPlain c = true) (cs : List Char) :
    spanBasic ('\\' :: c :: cs) = (spanBasic cs).map fun (raw, rest) => ('\\' :: c :: raw, rest) := by
  rw [spanBasic, if_pos hc]

/-- A character that has no visible form is below 128. -/
theorem toNat_lt_of_not_isPlain {c : Char} (h : ¬ isPlain c = true) : c.toNat < 128 := by
  simp only [isPlain, Bool.or_eq_true, Bool.and_eq_true, decide_eq_true_eq, not_or, not_and,
    not_not] at h
  by_cases hc : ' ' ≤ c
  · rw [h.2 hc]
    decide
  · have hlt : c.toNat < ' '.toNat := Char.lt_def.1 (not_le.1 hc)
    exact hlt.trans (by decide)

theorem isPlain_digitChar {v : Nat} (h : v < 16) :
    v.digitChar ≠ '"' ∧ v.digitChar ≠ '\\' ∧ isPlain v.digitChar = true := by
  interval_cases v <;> decide

theorem codePoint?_of_lt {c : Char} (h : c.toNat < 128) :
    codePoint? ['0', '0', (c.toNat / 16).digitChar, (c.toNat % 16).digitChar] = some c := by
  have hall : ∀ n < 128, codePoint? ['0', '0', (n / 16).digitChar, (n % 16).digitChar] =
      some (Char.ofNat n) := by decide
  rw [hall c.toNat h, Char.ofNat_toNat]

theorem spanBasic_escapeChar (c : Char) (cs : List Char) :
    spanBasic (escapeChar c ++ cs) =
      (spanBasic cs).map fun (raw, rest) => (escapeChar c ++ raw, rest) := by
  unfold escapeChar
  split
  · next h =>
    have hc : isPlain c = true := by rcases h with rfl | rfl <;> decide
    exact spanBasic_escape hc cs
  · next h =>
    obtain ⟨hquote, hslash⟩ := not_or.1 h
    split
    · next hc => exact spanBasic_cons hquote hslash hc cs
    · next hc =>
      have hlt := toNat_lt_of_not_isPlain hc
      obtain ⟨hq₁, hs₁, hp₁⟩ := isPlain_digitChar (v := c.toNat / 16) (by omega)
      obtain ⟨hq₂, hs₂, hp₂⟩ := isPlain_digitChar (v := c.toNat % 16) (by omega)
      simp only [List.cons_append, List.nil_append]
      rw [spanBasic_escape (by decide), spanBasic_cons (by decide) (by decide) (by decide),
        spanBasic_cons (by decide) (by decide) (by decide), spanBasic_cons hq₁ hs₁ hp₁,
        spanBasic_cons hq₂ hs₂ hp₂]
      simp only [Option.map_map, Function.comp_def]

theorem unescape_escapeChar (c : Char) (cs : List Char) :
    unescape (escapeChar c ++ cs) = (unescape cs).map (c :: ·) := by
  unfold escapeChar
  split
  · next h => rcases h with rfl | rfl <;> simp [unescape, shortEscape?, Option.map_eq_bind]
  · next h =>
    obtain ⟨hquote, hslash⟩ := not_or.1 h
    split
    · rw [List.singleton_append, unescape]
      · rw [if_neg hslash]
      all_goals intros; contradiction
    · next hc =>
      simp only [List.cons_append, List.nil_append]
      rw [unescape, codePoint?_of_lt (toNat_lt_of_not_isPlain hc)]
      cases unescape cs <;> rfl

theorem spanBasic_escaped (s rest : List Char) :
    spanBasic (s.flatMap escapeChar ++ '"' :: rest) = some (s.flatMap escapeChar, rest) := by
  induction s with
  | nil => rfl
  | cons c s ih =>
    rw [List.flatMap_cons, List.append_assoc, spanBasic_escapeChar, ih]
    rfl

theorem unescape_escaped (s : List Char) : unescape (s.flatMap escapeChar) = some s := by
  induction s with
  | nil => rfl
  | cons c s ih =>
    rw [List.flatMap_cons, unescape_escapeChar, ih]
    rfl

/-- No escape begins with a quote. -/
theorem exists_escapeChar (c : Char) : ∃ d ds, escapeChar c = d :: ds ∧ d ≠ '"' := by
  unfold escapeChar
  split
  · exact ⟨_, _, rfl, by decide⟩
  · next h =>
    split
    · exact ⟨_, _, rfl, (not_or.1 h).1⟩
    · exact ⟨_, _, rfl, by decide⟩

/-- A text between double quotes, and what follows it if that is no third quote. -/
theorem readText_written (s : String) {rest : List Char} (hrest : rest.head? ≠ some '"') :
    readText (written (.text s) ++ rest) = some (s.toList, rest) := by
  have hquoted : readQuoted (written (.text s) ++ rest) = some (s.toList, rest) := by
    simp only [written, List.cons_append, List.append_assoc, List.nil_append, readQuoted,
      spanBasic_escaped, Option.bind_eq_bind, Option.bind_some, unescape_escaped]
  rw [← hquoted]
  unfold readText
  split
  · next heq =>
    simp only [written, List.cons_append, List.append_assoc, List.cons.injEq, true_and] at heq
    cases hs : s.toList with
    | nil =>
      rw [hs] at heq
      obtain rfl := (List.cons.inj heq).2
      exact absurd rfl hrest
    | cons c cs =>
      obtain ⟨d, ds, hd, hne⟩ := exists_escapeChar c
      rw [hs, List.flatMap_cons, hd] at heq
      exact absurd (List.cons.inj heq).1 hne
  · next heq => cases heq
  · rfl

theorem wholeDigits?_toDigits (n : Nat) :
    wholeDigits? (Nat.toDigits 10 n) = some (Nat.toDigits 10 n) := by
  have hscore : '_' ∉ Nat.toDigits 10 n := fun h => by
    have := Number.digits_toDigits n _ h
    contradiction
  have hall : (Nat.toDigits 10 n).all Char.isDigit = true :=
    List.all_eq_true.2 (Number.digits_toDigits n)
  have hungroup : ungroup? Char.isDigit (Nat.toDigits 10 n) = some (Nat.toDigits 10 n) := by
    simp [ungroup?, Text.splitOn_of_not_mem hscore, Nat.toDigits_ne_nil, hall]
  rw [wholeDigits?, hungroup, Option.filter_some, if_pos]
  by_cases hzero : (Nat.toDigits 10 n).head? = some '0'
  · simp [Number.toDigits_of_head?_zero (by decide) (by decide) hzero]
  · simp [hzero]

theorem inSigned64?_natCast {n : Nat} (hn : n < 2 ^ 63) :
    inSigned64? (n : Int) = some (.integer n) := by
  have hpow : Int.pow 2 63 = 2 ^ 63 := rfl
  rw [inSigned64?, hpow, if_pos]
  omega

theorem integer?_toDigits {n : Nat} (hn : n < 2 ^ 63) :
    integer? (Nat.toDigits 10 n) = some (.integer n) := by
  have hbase (c : Char) (ds : List Char) : Nat.toDigits 10 n ≠ '0' :: c :: ds := by
    intro h
    have hzero : Nat.toDigits 10 n = ['0'] :=
      Number.toDigits_of_head?_zero (by decide) (by decide) (by rw [h]; rfl)
    rw [hzero] at h
    cases h
  unfold integer?
  split
  · next heq => exact absurd heq (hbase 'x' _)
  · next heq => exact absurd heq (hbase 'o' _)
  · next heq => exact absurd heq (hbase 'b' _)
  · simp only [Number.splitSign_of_isDigit (Number.digits_toDigits n), wholeDigits?_toDigits]
    rw [Option.bind_eq_bind, Option.bind_some, Number.valueOf_toDigits]
    exact inSigned64?_natCast hn

theorem isWordChar_of_isDigit {c : Char} (h : c.isDigit = true) : isWordChar c = true := by
  simp [isWordChar, Char.isAlphanum, h]

theorem wordValue?_toDigits {n : Nat} (hn : n < 2 ^ 63) :
    wordValue? (Nat.toDigits 10 n) = some (.integer n) := by
  have hword {word : List Char} (h : ∃ c ∈ word, c.isDigit = false) :
      Nat.toDigits 10 n ≠ word := by
    rintro rfl
    obtain ⟨c, hc, hdigit⟩ := h
    rw [Number.digits_toDigits n c hc] at hdigit
    cases hdigit
  rw [wordValue?, if_neg (hword ⟨'t', by decide⟩), if_neg (hword ⟨'f', by decide⟩),
    integer?_toDigits hn]

theorem readScalar_written {d : Datum} (hd : d.Fits) (rest : List Char) :
    readScalar (written d ++ '\n' :: rest) = some (d.value, '\n' :: rest) := by
  cases d with
  | number n =>
    have hchars : ∀ c ∈ Nat.toDigits 10 n, isWordChar c = true :=
      fun c hc => isWordChar_of_isDigit (Number.digits_toDigits n c hc)
    have hrest : ∀ c ∈ ('\n' :: rest).head?, isWordChar c = false := by
      rintro c ⟨⟩
      decide
    have hspan : spanWord (Nat.toDigits 10 n ++ '\n' :: rest) =
        (Nat.toDigits 10 n, '\n' :: rest) := by
      simp only [spanWord, Text.takeWhile_append_of_head hchars hrest,
        Text.dropWhile_append_of_head hchars hrest]
      rfl
    obtain ⟨c, cs, hcs⟩ := List.exists_cons_of_ne_nil (Nat.toDigits_ne_nil (n := n) (b := 10))
    have hc : c.isDigit = true := Number.digits_toDigits n c (by simp [hcs])
    unfold readScalar
    split
    · next heq =>
      rw [written, hcs] at heq
      obtain ⟨rfl, -⟩ := List.cons.inj heq
      exact absurd hc (by decide)
    · next heq =>
      rw [written, hcs] at heq
      obtain ⟨rfl, -⟩ := List.cons.inj heq
      exact absurd hc (by decide)
    · simp only [written, hspan, wordValue?_toDigits hd]
      rfl
  | text s =>
    have hread : readText (written (.text s) ++ '\n' :: rest) = some (s.toList, '\n' :: rest) :=
      readText_written s (by simp)
    have hquote : written (.text s) ++ '\n' :: rest =
        '"' :: (s.toList.flatMap escapeChar ++ '"' :: '\n' :: rest) := by simp [written]
    rw [hquote] at hread ⊢
    rw [readScalar, hread]
    simp [Datum.value]

/-- No datum begins with a blank or opens a list or a table. -/
theorem exists_written (d : Datum) :
    ∃ c cs, written d = c :: cs ∧ isBlank c = false ∧ c ≠ '[' ∧ c ≠ '\x7b' := by
  cases d with
  | number n =>
    obtain ⟨c, cs, hcs⟩ := List.exists_cons_of_ne_nil (Nat.toDigits_ne_nil (n := n) (b := 10))
    have hc : c.isDigit = true := Number.digits_toDigits n c (by simp [hcs])
    refine ⟨c, cs, hcs, ?_, ?_, ?_⟩
    · rw [isBlank, Bool.or_eq_false_iff, decide_eq_false_iff_not, decide_eq_false_iff_not]
      constructor <;> rintro rfl <;> exact absurd hc (by decide)
    · rintro rfl
      exact absurd hc (by decide)
    · rintro rfl
      exact absurd hc (by decide)
  | text s => exact ⟨'"', _, rfl, by decide, by decide, by decide⟩

theorem readValue_written {d : Datum} (hd : d.Fits) (depth : Nat) (rest : List Char) :
    readValue depth (written d ++ '\n' :: rest) = some (d.value, '\n' :: rest) := by
  rw [← readScalar_written hd]
  obtain ⟨c, cs, hcs, -, hlist, htable⟩ := exists_written d
  rw [hcs, List.cons_append]
  unfold readValue
  split
  · next heq => exact absurd (List.cons.inj heq).1 hlist
  · next heq => exact absurd (List.cons.inj heq).1 htable
  · rfl

/-- A name that needs no quotes as a key. -/
structure Bare (name : String) : Prop where
  ne_nil : name.toList ≠ []
  chars : ∀ c ∈ name.toList, isBareKeyChar c = true

instance (name : String) : Decidable (Bare name) :=
  decidable_of_iff (name.toList ≠ [] ∧ name.toList.all isBareKeyChar = true)
    ⟨fun h => ⟨h.1, List.all_eq_true.1 h.2⟩, fun h => ⟨h.ne_nil, List.all_eq_true.2 h.chars⟩⟩

variable {name : String}

theorem ne_of_isBareKeyChar {c d : Char} (hc : isBareKeyChar c = true)
    (hd : isBareKeyChar d = false) : c ≠ d := by
  rintro rfl
  rw [hc] at hd
  cases hd

theorem Bare.exists_cons (h : Bare name) :
    ∃ c cs, name.toList = c :: cs ∧ isBareKeyChar c = true := by
  obtain ⟨c, cs, hcs⟩ := List.exists_cons_of_ne_nil h.ne_nil
  exact ⟨c, cs, hcs, h.chars c (by simp [hcs])⟩

theorem isBlank_of_isBareKeyChar {c : Char} (h : isBareKeyChar c = true) : isBlank c = false := by
  rw [isBlank, Bool.or_eq_false_iff, decide_eq_false_iff_not, decide_eq_false_iff_not]
  exact ⟨ne_of_isBareKeyChar h (by decide), ne_of_isBareKeyChar h (by decide)⟩

theorem Bare.readKey (h : Bare name) {rest : List Char}
    (hrest : ∀ c ∈ rest.head?, isBareKeyChar c = false) :
    readKey (name.toList ++ rest) = some (name, rest) := by
  obtain ⟨c, cs, hcs, hc⟩ := h.exists_cons
  unfold Toml.readKey
  split
  · next heq =>
    rw [hcs] at heq
    exact absurd (List.cons.inj heq).1 (ne_of_isBareKeyChar hc (by decide))
  · next heq =>
    rw [hcs] at heq
    exact absurd (List.cons.inj heq).1 (ne_of_isBareKeyChar hc (by decide))
  · simp only [Text.takeWhile_append_of_head h.chars hrest,
      Text.dropWhile_append_of_head h.chars hrest, String.ofList_toList]
    simp [h.ne_nil]

theorem skipBlanks_cons {c : Char} (hc : isBlank c = false) (cs : List Char) :
    skipBlanks (c :: cs) = c :: cs := by
  rw [skipBlanks, List.dropWhile_cons_of_neg (by simp [hc])]

/-- A single key, and what follows it up to a character that is neither blank nor a point. -/
theorem Bare.readKeyPath (h : Bare name) (fuel : Nat) {c : Char} {rest more : List Char}
    (hrest : ∀ c ∈ rest.head?, isBareKeyChar c = false) (hmore : skipBlanks rest = c :: more)
    (hc : c ≠ '.') :
    readKeyPath (fuel + 1) (name.toList ++ rest) = some (⟨[], name⟩, c :: more) := by
  have hskip : skipBlanks (name.toList ++ rest) = name.toList ++ rest := by
    obtain ⟨d, ds, hds, hd⟩ := h.exists_cons
    rw [hds, List.cons_append, skipBlanks_cons (isBlank_of_isBareKeyChar hd)]
  simp only [Toml.readKeyPath, hskip, h.readKey hrest, hmore, Option.bind_eq_bind,
    Option.bind_some]
  split
  · next heq => exact absurd (List.cons.inj heq).1 hc
  · rfl

def headerLine (name : String) : List Char := '[' :: name.toList ++ [']', '\n']

def assignmentLine (a : String × Datum) : List Char :=
  a.1.toList ++ [' ', '=', ' '] ++ written a.2 ++ ['\n']

/-- The line says `s`, whatever follows it. -/
structure Says (line : List Char) (s : Statement) : Prop where
  ne_nil : line ≠ []
  skipLayout : ∀ rest, skipLayout false (line ++ rest) = some (line ++ rest)
  read : ∀ rest, readStatement (line ++ rest) = some (s, rest)

theorem skipLayout_cons {c : Char} (hfeed : c ≠ '\n') (hreturn : c ≠ '\r')
    (hblank : isBlank c = false) (hcomment : c ≠ '#') (cs : List Char) :
    skipLayout false (c :: cs) = some (c :: cs) := by
  rw [skipLayout]
  · simp [hfeed, hblank, hcomment]
  · exact fun rest h => absurd h hreturn

theorem says_headerLine (h : Bare name) : Says (headerLine name) (.header (.table ⟨[], name⟩)) where
  ne_nil := by simp [headerLine]
  skipLayout rest := skipLayout_cons (by decide) (by decide) (by decide) (by decide) _
  read rest := by
    have hpath (fuel : Nat) : Toml.readKeyPath (fuel + 1) (name.toList ++ ']' :: '\n' :: rest) =
        some (⟨[], name⟩, ']' :: '\n' :: rest) :=
      h.readKeyPath fuel (by rintro c ⟨⟩; decide) (skipBlanks_cons (by decide) _) (by decide)
    have hline : headerLine name ++ rest = '[' :: (name.toList ++ ']' :: '\n' :: rest) := by
      simp [headerLine]
    obtain ⟨c, cs, hcs, hc⟩ := h.exists_cons
    rw [hline]
    unfold readStatement
    split
    · next heq =>
      rw [hcs, List.cons_append] at heq
      obtain ⟨rfl, -⟩ := List.cons.inj (List.cons.inj heq).2
      exact absurd hc (by decide)
    · next heq =>
      obtain rfl := (List.cons.inj heq).2
      simp only [hpath, Option.bind_eq_bind, Option.bind_some, Text.readChar_self]
      rfl
    · next hno => exact absurd rfl (hno _)

theorem says_assignmentLine (h : Bare name) {d : Datum} (hd : d.Fits) :
    Says (assignmentLine (name, d)) (.assignment ⟨[], name⟩ d.value) where
  ne_nil := by simp [assignmentLine, h.ne_nil]
  skipLayout rest := by
    obtain ⟨c, cs, hcs, hc⟩ := h.exists_cons
    rw [assignmentLine, hcs]
    exact skipLayout_cons (ne_of_isBareKeyChar hc (by decide)) (ne_of_isBareKeyChar hc (by decide))
      (isBlank_of_isBareKeyChar hc) (ne_of_isBareKeyChar hc (by decide)) _
  read rest := by
    obtain ⟨c, cs, hcs, hc⟩ := h.exists_cons
    have hline : assignmentLine (name, d) ++ rest =
        name.toList ++ ' ' :: '=' :: ' ' :: (written d ++ '\n' :: rest) := by
      simp [assignmentLine]
    have hpath (fuel : Nat) :
        Toml.readKeyPath (fuel + 1) (assignmentLine (name, d) ++ rest) =
          some (⟨[], name⟩, '=' :: ' ' :: (written d ++ '\n' :: rest)) := by
      rw [hline]
      exact h.readKeyPath fuel (by rintro c ⟨⟩; decide) rfl (by decide)
    have hvalue : skipBlanks (' ' :: (written d ++ '\n' :: rest)) = written d ++ '\n' :: rest := by
      obtain ⟨e, es, hes, he, -⟩ := exists_written d
      rw [hes, List.cons_append]
      exact skipBlanks_cons he _
    have hassignment : readAssignment (readValue maxDepth) (assignmentLine (name, d) ++ rest) =
        some ((⟨[], name⟩, d.value), '\n' :: rest) := by
      simp only [readAssignment, hpath, Option.bind_eq_bind, Option.bind_some, Text.readChar_self,
        hvalue, readValue_written hd]
    unfold readStatement
    split
    · next heq =>
      rw [hline, hcs] at heq
      exact absurd (List.cons.inj heq).1 (ne_of_isBareKeyChar hc (by decide))
    · next heq =>
      rw [hline, hcs] at heq
      exact absurd (List.cons.inj heq).1 (ne_of_isBareKeyChar hc (by decide))
    · rw [hassignment]
      rfl

theorem length_le_length_flatten {lines : List (List Char)} {statements : List Statement}
    (h : List.Forall₂ Says lines statements) : lines.length ≤ lines.flatten.length := by
  induction h with
  | nil => exact le_rfl
  | @cons line s lines statements hline _ ih =>
    have hpos : 0 < line.length := List.length_pos_iff.2 hline.ne_nil
    simp only [List.length_cons, List.flatten_cons, List.length_append]
    omega

theorem readStatements_flatten {lines : List (List Char)} {statements : List Statement}
    (h : List.Forall₂ Says lines statements) {fuel : Nat} (hfuel : lines.length < fuel) :
    readStatements fuel lines.flatten = some statements := by
  induction h generalizing fuel with
  | nil =>
    obtain ⟨fuel, rfl⟩ := Nat.exists_eq_add_of_lt hfuel
    rfl
  | @cons line s lines statements hline _ ih =>
    cases fuel with
    | zero => cases hfuel
    | succ fuel =>
      have hrest := ih (Nat.lt_of_succ_lt_succ hfuel)
      have hne : line ++ lines.flatten ≠ [] := by simp [hline.ne_nil]
      rw [List.flatten_cons, readStatements, hline.skipLayout]
      simp only [Option.bind_eq_bind, Option.bind_some]
      rw [hline.read, Option.bind_some, hrest]
      rfl

namespace Entries

theorem put_of_not_mem {key : String} {n : Node} {es : Entries} (h : key ∉ es.map Prod.fst) :
    put key n es = es ++ [(key, n)] := by
  induction es with
  | nil => rfl
  | cons e rest ih =>
    obtain ⟨hne, hrest⟩ := not_or.1 (mt List.mem_cons.2 h)
    rw [put, if_neg (Ne.symm hne), ih hrest, List.cons_append]

theorem lookup_of_not_mem {key : String} {es : Entries} (h : key ∉ es.map Prod.fst) :
    es.lookup key = none := by
  refine List.lookup_eq_none_iff.2 fun e he => bne_iff_ne.2 ?_
  rintro rfl
  exact h (List.mem_map_of_mem he)

/-- Where every step adds the entry of its item at the end, its key being new, all items become
entries in their order. -/
theorem foldlM_eq_append {α : Type} {f : Entries → α → Option Entries} {key : α → String}
    {node : α → Node} {items : List α} {es : Entries}
    (hf : ∀ a ∈ items, ∀ es : Entries, key a ∉ es.map Prod.fst →
      f es a = some (es ++ [(key a, node a)]))
    (hkeys : (es.map Prod.fst ++ items.map key).Nodup) :
    items.foldlM f es = some (es ++ items.map fun a => (key a, node a)) := by
  induction items generalizing es with
  | nil => simp
  | cons a rest ih =>
    have hnew : key a ∉ es.map Prod.fst := fun hmem =>
      (List.nodup_append.1 hkeys).2.2 _ hmem _ List.mem_cons_self rfl
    rw [List.foldlM_cons, hf a List.mem_cons_self es hnew]
    have hrest : ((es ++ [(key a, node a)]).map Prod.fst ++ rest.map key).Nodup := by
      simpa using hkeys
    simpa using ih (fun b hb => hf b (List.mem_cons_of_mem a hb)) hrest

end Entries

/-- Sections in order, each with its fields. -/
abbrev Outline := List (String × List (String × Datum))

namespace Outline

/-- Keys need no quotes and are distinct where they stand, and numbers fit. -/
@[mk_iff]
structure Proper (doc : Outline) : Prop where
  names : (doc.map Prod.fst).Nodup
  bare : ∀ s ∈ doc, Bare s.1
  fields : ∀ s ∈ doc, (s.2.map Prod.fst).Nodup
  assignments : ∀ s ∈ doc, ∀ a ∈ s.2, Bare a.1 ∧ a.2.Fits

instance (doc : Outline) : Decidable doc.Proper := decidable_of_iff' _ (proper_iff doc)

def lines (doc : Outline) : List (List Char) :=
  doc.flatMap fun s => headerLine s.1 :: s.2.map assignmentLine

def text (doc : Outline) : List Char := doc.lines.flatten

def entries (doc : Outline) : List (String × Value) :=
  doc.map fun s => (s.1, .table (s.2.map fun a => (a.1, a.2.value)))

def assignment (a : String × Datum) : KeyPath × Value := (⟨[], a.1⟩, a.2.value)

def statements (doc : Outline) : List Statement :=
  doc.flatMap fun s => .header (.table ⟨[], s.1⟩) ::
    s.2.map fun a => .assignment ⟨[], a.1⟩ a.2.value

def sections (doc : Outline) : List Section :=
  doc.map fun s => ⟨.table ⟨[], s.1⟩, s.2.map assignment⟩

theorem group_statements (doc : Outline) : group (statements doc) = ([], sections doc) := by
  have hfields (fields : List (String × Datum)) (rest : List Statement) :
      group ((fields.map fun a => .assignment ⟨[], a.1⟩ a.2.value) ++ rest) =
        (fields.map assignment ++ (group rest).1, (group rest).2) := by
    induction fields with
    | nil => rfl
    | cons a fields ih => simp only [List.map_cons, List.cons_append, group, ih, assignment]
  induction doc with
  | nil => rfl
  | cons s doc ih =>
    have hstatements : statements (s :: doc) = .header (.table ⟨[], s.1⟩) ::
        ((s.2.map fun a => .assignment ⟨[], a.1⟩ a.2.value) ++ statements doc) := rfl
    rw [hstatements, group, hfields, ih, List.append_nil]
    rfl

variable {doc : Outline}

theorem Proper.says (h : Proper doc) : List.Forall₂ Says (lines doc) (statements doc) := by
  refine List.rel_flatMap (R := fun s t => s = t ∧ s ∈ doc) ?_ ?_
  · exact List.forall₂_same.2 fun s hs => ⟨rfl, hs⟩
  · rintro s _ ⟨rfl, hs⟩
    refine .cons (says_headerLine (h.bare s hs)) ?_
    rw [List.forall₂_map_left_iff, List.forall₂_map_right_iff]
    exact List.forall₂_same.2 fun a ha =>
      says_assignmentLine (h.assignments s hs a ha).1 (h.assignments s hs a ha).2

theorem assignAll_fields {fields : List (String × Datum)} (h : (fields.map Prod.fst).Nodup) :
    assignAll (fields.map assignment) [] = some (fields.map fun a => (a.1, .leaf a.2.value)) := by
  rw [assignAll, List.foldlM_map]
  refine Entries.foldlM_eq_append (fun a _ es hnew => ?_) (by simpa using h)
  rw [assignment, Entries.assign, Entries.lookup_of_not_mem hnew]
  exact congrArg some (Entries.put_of_not_mem hnew)

theorem Proper.addTo (h : Proper doc) :
    (sections doc).foldlM Section.addTo [] =
      some (doc.map fun s => (s.1, .table .defined (s.2.map fun a => (a.1, .leaf a.2.value)))) := by
  rw [sections, List.foldlM_map]
  refine Entries.foldlM_eq_append (fun s hs es hnew => ?_) (by simpa using h.names)
  rw [Section.addTo]
  simp only [Entries.below, Entries.openTable, Entries.lookup_of_not_mem hnew,
    assignAll_fields (h.fields s hs), Option.map_some, Entries.put_of_not_mem hnew]

theorem head?_text_ne (doc : Outline) : (text doc).head? ≠ some '\uFEFF' := by
  cases doc with
  | nil => simp [text, lines]
  | cons s doc => simp [text, lines, headerLine]

theorem Proper.parse_text (h : Proper doc) : parse (text doc) = some (entries doc) := by
  have hread : readStatements ((text doc).length + 1) (text doc) = some (statements doc) :=
    readStatements_flatten h.says (Nat.lt_succ_of_le (length_le_length_flatten h.says))
  have hassign : assignAll [] [] = some [] := rfl
  unfold parse
  split
  · next heq => exact absurd (by rw [heq]; rfl) (head?_text_ne doc)
  · simp only [hread, Option.bind_eq_bind, Option.bind_some, group_statements, hassign, h.addTo]
    simp only [entryValues_eq, entries, List.map_map, Function.comp_def, Node.value]

end Outline

end Toml

end GracefulDrain
