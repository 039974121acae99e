import GracefulDrain.Number.Binary64

namespace GracefulDrain

inductive Value
  | nil
  | boolean (b : Bool)
  | integer (i : Int)
  | real (x : Binary64)
  | text (s : String)
  | list (items : List Value)
  | table (entries : List (String × Value))
  deriving Repr

namespace Value

def emptyTable : Value := table []

def lookup (key : String) (entries : List (String × Value)) : Option Value :=
  entries.lookup key

/-- Replaces what is under `key`, or adds it at the end. -/
def insert (key : String) (v : Value) : List (String × Value) → List (String × Value)
  | [] => [(key, v)]
  | (k, old) :: rest => if k = key then (k, v) :: rest else (k, old) :: insert key v rest

theorem lookup_insert (key k : String) (v : Value) (es : List (String × Value)) :
    lookup k (insert key v es) = if k = key then some v else lookup k es := by
  induction es with
  | nil =>
    by_cases h : k = key
    · simp [insert, lookup, h]
    · simp [insert, lookup, List.lookup_cons, beq_eq_false_iff_ne.2 h, h]
  | cons e rest ih =>
    obtain ⟨k', old⟩ := e
    simp only [lookup] at ih
    by_cases h : k' = key
    · subst h
      by_cases hk : k = k'
      · simp [insert, lookup, hk]
      · simp [insert, lookup, List.lookup_cons, beq_eq_false_iff_ne.2 hk, hk]
    · by_cases hk : k = k'
      · subst hk; simp [insert, lookup, h]
      · simp [insert, lookup, h, List.lookup_cons, beq_eq_false_iff_ne.2 hk, ih]

end Value

end GracefulDrain
