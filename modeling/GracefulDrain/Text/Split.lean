namespace GracefulDrain.Text

/-- What follows the character, if it stands in front. -/
def readChar (c : Char) : List Char → Option (List Char)
  | d :: rest => if d = c then some rest else none
  | [] => none

/-- What follows the characters, if they stand in front in this order. -/
def readChars (expected cs : List Char) : Option (List Char) :=
  expected.foldlM (fun cs c => readChar c cs) cs

theorem readChar_eq_some_iff {c : Char} {cs rest : List Char} :
    readChar c cs = some rest ↔ cs = c :: rest := by
  cases cs with
  | nil => simp [readChar]
  | cons d cs =>
    by_cases h : d = c
    · simp [readChar, h]
    · simp [readChar, h]

theorem readChar_self (c : Char) (cs : List Char) : readChar c (c :: cs) = some cs :=
  readChar_eq_some_iff.2 rfl

theorem readChars_cons (c : Char) (expected cs : List Char) :
    readChars (c :: expected) cs = (readChar c cs).bind (readChars expected) := rfl

theorem readChars_eq_some_iff {expected cs rest : List Char} :
    readChars expected cs = some rest ↔ cs = expected ++ rest := by
  induction expected generalizing cs with
  | nil => simp [readChars, eq_comm]
  | cons c expected ih =>
    simp only [readChars_cons, Option.bind_eq_some_iff, readChar_eq_some_iff, ih]
    constructor
    · rintro ⟨_, rfl, rfl⟩
      rfl
    · rintro rfl
      exact ⟨_, rfl, rfl⟩

/-- The pieces between the separators: one more than there are separators. -/
def splitOn [DecidableEq α] (sep : α) : List α → List (List α)
  | [] => [[]]
  | a :: rest =>
    if a = sep then [] :: splitOn sep rest
    else
      match splitOn sep rest with
      | piece :: pieces => (a :: piece) :: pieces
      | [] => [[a]]

theorem splitOn_ne_nil [DecidableEq α] (sep : α) (l : List α) : splitOn sep l ≠ [] := by
  cases l with
  | nil => simp [splitOn]
  | cons a rest =>
    unfold splitOn
    split
    · simp
    · split <;> simp

theorem splitOn_append_cons [DecidableEq α] (sep : α) (l r : List α) :
    splitOn sep (l ++ sep :: r) = splitOn sep l ++ splitOn sep r := by
  induction l with
  | nil => simp [splitOn]
  | cons a l ih =>
    by_cases h : a = sep
    · simp [splitOn, h, ih]
    · cases hs : splitOn sep l with
      | nil => exact absurd hs (splitOn_ne_nil sep l)
      | cons p ps => simp [splitOn, h, ih, hs]

theorem splitOn_of_not_mem [DecidableEq α] {sep : α} {l : List α} (h : sep ∉ l) :
    splitOn sep l = [l] := by
  induction l with
  | nil => rfl
  | cons a l ih =>
    have ha : a ≠ sep := fun e => h (by simp [e])
    have hl : sep ∉ l := fun hm => h (List.mem_cons_of_mem a hm)
    simp [splitOn, ha, ih hl]

theorem splitOn_append_of_not_mem [DecidableEq α] {sep : α} {front rest piece : List α}
    {pieces : List (List α)} (h : sep ∉ front) (hrest : splitOn sep rest = piece :: pieces) :
    splitOn sep (front ++ rest) = (front ++ piece) :: pieces := by
  induction front with
  | nil => exact hrest
  | cons a front ih =>
    have ha : a ≠ sep := fun e => h (by simp [e])
    have hfront : sep ∉ front := fun hm => h (List.mem_cons_of_mem a hm)
    simp [splitOn, ha, ih hfront]

section
variable {p : α → Bool} {front rest : List α}

theorem takeWhile_append_of_head (hfront : ∀ a ∈ front, p a = true)
    (hrest : ∀ a ∈ rest.head?, p a = false) : (front ++ rest).takeWhile p = front := by
  rw [List.takeWhile_append_of_pos hfront]
  cases rest with
  | nil => simp
  | cons a rest => simp [hrest a rfl]

theorem dropWhile_append_of_head (hfront : ∀ a ∈ front, p a = true)
    (hrest : ∀ a ∈ rest.head?, p a = false) : (front ++ rest).dropWhile p = rest := by
  rw [List.dropWhile_append_of_pos hfront]
  cases rest with
  | nil => simp
  | cons a rest => simp [hrest a rfl]

end

section
variable [DecidableEq α] {a : α} {front : List α}

theorem all_ne_of_not_mem (h : a ∉ front) : ∀ b ∈ front, decide (b ≠ a) = true :=
  fun _ hb => decide_eq_true fun e => h (e ▸ hb)

theorem takeWhile_append_cons (h : a ∉ front) (rest : List α) :
    (front ++ a :: rest).takeWhile (· ≠ a) = front :=
  takeWhile_append_of_head (all_ne_of_not_mem h) (by simp)

theorem dropWhile_append_cons (h : a ∉ front) (rest : List α) :
    (front ++ a :: rest).dropWhile (· ≠ a) = a :: rest :=
  dropWhile_append_of_head (all_ne_of_not_mem h) (by simp)

end

end GracefulDrain.Text
