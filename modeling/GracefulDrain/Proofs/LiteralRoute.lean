import Mathlib
import GracefulDrain.Routing.Table

/-! A template without braces fits its own text, and no other template that fits this text goes
before it. So the first route of a table, if it is literal, gets every request to its path. -/
namespace GracefulDrain.Routing

/-- Without braces. -/
def Plain (cs : List Char) : Prop := '\x7b' ∉ cs ∧ '\x7d' ∉ cs

theorem plain_cons {c : Char} {cs : List Char} :
    Plain (c :: cs) ↔ (c ≠ '\x7b' ∧ c ≠ '\x7d') ∧ Plain cs := by
  simp only [Plain, List.mem_cons, not_or, ne_eq, eq_comm (a := c)]
  tauto

theorem marks_of_plain {cs : List Char} (h : Plain cs) :
    marks cs = cs.map fun c => ⟨c, false⟩ := by
  induction cs with
  | nil => simp [marks]
  | cons c cs ih =>
    obtain ⟨⟨hopen, hclose⟩, hrest⟩ := plain_cons.1 h
    rw [marks, ih hrest, List.map_cons]
    · rintro rest rfl
      exact absurd rfl hopen
    · rintro rest rfl
      exact absurd rfl hclose

theorem readPieces_of_plain {cs : List Char} (h : Plain cs) {fuel : Nat} (hf : cs.length < fuel) :
    readPieces fuel (cs.map fun c => ⟨c, false⟩) = some (cs.map .char) := by
  induction cs generalizing fuel with
  | nil =>
    obtain ⟨fuel, rfl⟩ := Nat.exists_eq_succ_of_ne_zero hf.ne'
    rfl
  | cons c cs ih =>
    obtain ⟨fuel, rfl⟩ := Nat.exists_eq_succ_of_ne_zero (Nat.ne_zero_of_lt hf)
    obtain ⟨⟨hopen, hclose⟩, hrest⟩ := plain_cons.1 h
    have hlen : cs.length < fuel := Nat.lt_of_succ_lt_succ hf
    simp [readPieces, closes, opens, hopen, hclose, ih hrest hlen]

/-- What is read after an opening brace is a parameter. -/
theorem readParam_ne_char (ms rest : List Mark) (c : Char) : readParam ms ≠ some (.char c, rest) := by
  intro h
  cases ms with
  | nil => cases h
  | cons m ms =>
    rw [readParam] at h
    split at h
    · cases h
    · obtain ⟨⟨name, after⟩, -, h⟩ := Option.bind_eq_some_iff.1 h
      simp only at h
      split at h
      · split at h <;> cases h
      · split at h <;> cases h

namespace Template

theorem parse?_eq_of_plain {path : String} (h : Plain path.toList) :
    parse? path = if isRoutePath path.toList then some (path.toList.map .char) else none := by
  have hparams : (path.toList.map Piece.char).filter isParam = [] := by
    simp [List.filter_eq_nil_iff, isParam]
  simp only [parse?]
  rw [marks_of_plain h, readPieces_of_plain h (Nat.lt_succ_self _), Option.filter_some, hparams]
  rfl

theorem parse?_of_plain {path : String} (h : Plain path.toList) {t : Template}
    (ht : parse? path = some t) : t = path.toList.map .char := by
  rw [parse?_eq_of_plain h] at ht
  split at ht
  · exact (Option.some.inj ht).symm
  · cases ht

/-- A template of characters alone is the text of its marks. -/
theorem map_char_of_readPieces {fuel : Nat} {ms : List Mark} {cs : List Char}
    (h : readPieces fuel ms = some (cs.map .char)) : ms.map Mark.char = cs := by
  induction fuel generalizing ms cs with
  | zero => cases h
  | succ fuel ih =>
    cases ms with
    | nil =>
      cases cs with
      | nil => rfl
      | cons c cs => cases h
    | cons m rest =>
      rw [readPieces] at h
      split at h
      · cases h
      · split at h
        · -- a parameter is no character
          obtain ⟨⟨piece, after⟩, hparam, hpieces⟩ := Option.bind_eq_some_iff.1 h
          obtain ⟨pieces, -, heq⟩ := Option.bind_eq_some_iff.1 hpieces
          cases cs with
          | nil => cases heq
          | cons c cs =>
            obtain ⟨rfl, -⟩ := List.cons.inj (Option.some.inj heq)
            exact absurd hparam (readParam_ne_char _ _ _)
        · obtain ⟨pieces, hpieces, heq⟩ := Option.map_eq_some_iff.1 h
          cases cs with
          | nil => cases heq
          | cons c cs =>
            obtain ⟨hc, rfl⟩ := List.cons.inj heq
            rw [List.map_cons, ih hpieces, Piece.char.inj hc]

theorem eq_of_map_char_marks {cs ds : List Char} (h : (marks cs).map Mark.char = ds)
    (hplain : Plain ds) : cs = ds := by
  induction cs using marks.induct generalizing ds with
  | case1 rest =>
    subst h
    rw [marks] at hplain
    exact absurd (List.mem_cons_self) hplain.1
  | case2 rest =>
    subst h
    rw [marks] at hplain
    exact absurd (List.mem_cons_self) hplain.2
  | case3 c rest h₁ h₂ ih =>
    subst h
    rw [marks] at hplain ⊢
    · rw [List.map_cons] at hplain ⊢
      rw [← ih rfl (plain_cons.1 hplain).2]
    all_goals assumption
  | case4 =>
    subst h
    rfl

theorem eq_of_parse?_literal {path : String} {cs : List Char} (hplain : Plain cs)
    (h : parse? path = some (cs.map .char)) : path.toList = cs := by
  rw [parse?] at h
  split at h
  · have hpieces := (Option.filter_eq_some_iff.1 h).1
    exact eq_of_map_char_marks (map_char_of_readPieces hpieces) hplain
  · cases h

theorem conflicts_comm (t u : Template) : t.conflicts u = u.conflicts t := by
  induction t generalizing u with
  | nil =>
    cases u with
    | nil => rfl
    | cons q u => cases q <;> rfl
  | cons p t ih =>
    cases u with
    | nil => cases p <;> rfl
    | cons q u =>
      cases p <;> cases q <;> simp [conflicts, ih, eq_comm]

theorem eq_of_conflicts_literal {t : Template} {cs : List Char}
    (h : t.conflicts (cs.map .char) = true) : t = cs.map .char := by
  induction t generalizing cs with
  | nil =>
    cases cs with
    | nil => rfl
    | cons c cs => cases h
  | cons p t ih =>
    cases cs with
    | nil => cases p <;> cases h
    | cons c cs =>
      cases p with
      | char d =>
        simp only [List.map_cons, conflicts, Bool.and_eq_true, decide_eq_true_eq] at h
        rw [h.1, ih h.2, List.map_cons]
      | param | rest => cases h

theorem match?_literal (cs : List Char) : match? (cs.map .char) cs = some [] := by
  induction cs with
  | nil => rfl
  | cons c cs ih => simpa [match?] using ih

/-- At the first place where they differ, the literal one has a character. -/
theorem precedes_literal {t : Template} {cs : List Char} {captures : List (String × List Char)}
    (h : t.match? cs = some captures) : t.precedes (cs.map .char) = false := by
  induction t generalizing cs captures with
  | nil => rfl
  | cons p t ih =>
    cases cs with
    | nil => cases p <;> simp [match?] at h
    | cons d cs =>
      cases p with
      | char c =>
        rw [match?] at h
        split at h
        · simp [precedes, ih h]
        · cases h
      | param | rest => rfl

end Template

namespace Table
variable {H : Type} {r : Route H} {rest t : Table H} {path : String} {slot : Slot} {h : H}

theorem find?_literal {cs : List Char} (hr : r.template = cs.map .char) :
    find? (r :: rest) cs = some (r, []) := by
  rw [find?, List.foldl_cons, hr, Template.match?_literal]
  refine List.foldl_fixed' (fun other => ?_) rest
  cases hmatch : other.template.match? cs with
  | none => rfl
  | some captures => simp [hr, Template.precedes_literal hmatch]

theorem extend?_eq_none (hne : ∀ r ∈ t, r.path ≠ path) : extend? path slot h t = none := by
  induction t with
  | nil => rfl
  | cons r rest ih =>
    rw [extend?, if_neg (hne r List.mem_cons_self)]
    rw [ih fun r hr => hne r (List.mem_cons_of_mem _ hr)]
    rfl

/-- A new path needs a template that can be told apart from all others. -/
theorem add?_of_path_ne (hne : ∀ r ∈ t, r.path ≠ path) :
    t.add? path slot h = (Template.parse? path).bind fun template =>
      if t.any fun r => r.template.conflicts template then none
      else some (t ++ [.single path template slot h]) := by
  rw [add?, extend?_eq_none hne]
  rfl

theorem add?_nil_eq (path : String) (slot : Slot) (h : H) :
    add? [] path slot h =
      (Template.parse? path).map fun template => [.single path template slot h] := by
  rw [add?_of_path_ne (by simp)]
  cases Template.parse? path <;> rfl

theorem add?_nil (ht : add? [] path slot h = some t) :
    ∃ template, Template.parse? path = some template ∧ t = [.single path template slot h] := by
  rw [add?_nil_eq] at ht
  obtain ⟨template, hparse, rfl⟩ := Option.map_eq_some_iff.1 ht
  exact ⟨template, hparse, rfl⟩

theorem add?_cons_self (ht : add? (r :: rest) r.path slot h = some t) :
    ∃ r', r.add? slot h = some r' ∧ t = r' :: rest := by
  obtain ⟨template, -, hadd⟩ := Option.bind_eq_some_iff.1 ht
  simp only [extend?, if_true] at hadd
  obtain ⟨r', hr', rfl⟩ := Option.map_eq_some_iff.1 hadd
  exact ⟨r', hr', rfl⟩

theorem add?_cons_of_ne (hne : r.path ≠ path) (ht : add? (r :: rest) path slot h = some t) :
    ∃ rest', t = r :: rest' := by
  obtain ⟨template, -, hadd⟩ := Option.bind_eq_some_iff.1 ht
  simp only [extend?, if_neg hne] at hadd
  cases hext : extend? path slot h rest with
  | none =>
    simp only [hext, Option.map_none] at hadd
    split at hadd
    · cases hadd
    · exact ⟨_, (Option.some.inj hadd).symm⟩
  | some rest? =>
    simp only [hext, Option.map_some] at hadd
    obtain ⟨rest', -, rfl⟩ := Option.map_eq_some_iff.1 hadd
    exact ⟨rest', rfl⟩

end Table

end GracefulDrain.Routing
