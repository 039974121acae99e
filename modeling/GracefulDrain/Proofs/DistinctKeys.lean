import Mathlib
import GracefulDrain.Config.Layers
import GracefulDrain.Toml.Document

namespace GracefulDrain

/-- If the value is a table, its keys are distinct. -/
def Value.KeysDistinct (v : Value) : Prop := (v.entriesOf.map Prod.fst).Nodup

theorem Value.keysDistinct_of_entriesOf {v : Value} (h : v.entriesOf = []) : v.KeysDistinct := by
  rw [KeysDistinct, h]
  exact List.nodup_nil

namespace Toml

/-- Tables that may still grow have distinct keys, and so do values. -/
inductive Node.Distinct : Node → Prop
  | leaf {v : Value} (h : v.KeysDistinct) : Distinct (.leaf v)
  | table {kind : TableKind} {es : Entries} (hkeys : (es.map Prod.fst).Nodup)
      (h : ∀ e ∈ es, Distinct e.2) : Distinct (.table kind es)
  | tables {last : Entries} {earlier : List Entries} (hkeys : (last.map Prod.fst).Nodup)
      (h : ∀ e ∈ last, Distinct e.2) : Distinct (.tables last earlier)

namespace Entries

structure Distinct (es : Entries) : Prop where
  keys : (es.map Prod.fst).Nodup
  nodes : ∀ e ∈ es, e.2.Distinct

theorem distinct_nil : Distinct [] := ⟨List.nodup_nil, nofun⟩

variable {es es' : Entries} {key : String} {n : Node}

theorem Distinct.node (h : es.Distinct) (kind : TableKind) : (Node.table kind es).Distinct :=
  .table h.keys h.nodes

theorem Distinct.element (h : es.Distinct) (earlier : List Entries) :
    (Node.tables es earlier).Distinct :=
  .tables h.keys h.nodes

theorem Distinct.lookup (h : es.Distinct) (hn : es.lookup key = some n) : n.Distinct := by
  obtain ⟨before, after, rfl, -⟩ := List.lookup_eq_some_iff.1 hn
  exact h.nodes (key, n) (by simp)

theorem map_fst_put (key : String) (n : Node) (es : Entries) :
    (put key n es).map Prod.fst =
      if key ∈ es.map Prod.fst then es.map Prod.fst else es.map Prod.fst ++ [key] := by
  induction es with
  | nil => rfl
  | cons e rest ih =>
    obtain ⟨k, old⟩ := e
    by_cases hk : k = key
    · simp [put, hk]
    · simp only [put, if_neg hk, List.map_cons, ih, List.mem_cons, Ne.symm hk, false_or]
      split <;> rfl

theorem mem_put {e : String × Node} (h : e ∈ put key n es) : e.2 = n ∨ e ∈ es := by
  induction es with
  | nil => exact .inl (by rw [List.mem_singleton.1 h])
  | cons first rest ih =>
    obtain ⟨k, old⟩ := first
    rw [put] at h
    split at h
    · rcases List.mem_cons.1 h with rfl | h
      · exact .inl rfl
      · exact .inr (List.mem_cons_of_mem _ h)
    · rcases List.mem_cons.1 h with rfl | h
      · exact .inr List.mem_cons_self
      · exact (ih h).imp_right (List.mem_cons_of_mem _)

theorem Distinct.put (h : es.Distinct) (hn : n.Distinct) (key : String) : (put key n es).Distinct := by
  refine ⟨?_, fun e he => ?_⟩
  · rw [map_fst_put]
    split
    · exact h.keys
    · next hkey =>
      exact h.keys.append (List.nodup_singleton key) (List.disjoint_singleton.2 hkey)
  · rcases mem_put he with rfl | he
    · exact hn
    · exact h.nodes e he

/-- Something that is done to entries leaves their keys distinct. -/
def Keeps (change : Entries → Option Entries) : Prop :=
  ∀ es es', es.Distinct → change es = some es' → es'.Distinct

theorem keeps_assign {v : Value} (hv : v.KeysDistinct) (key : String) (ks : List String) :
    Keeps (assign key v ks) := by
  induction ks with
  | nil =>
    intro es es' h hassign
    rw [assign] at hassign
    split at hassign
    · cases hassign
      exact h.put (.leaf hv) key
    · cases hassign
  | cons k ks ih =>
    intro es es' h hassign
    rw [assign] at hassign
    split at hassign
    · obtain ⟨inner, hinner, rfl⟩ := Option.map_eq_some_iff.1 hassign
      exact h.put ((ih _ _ distinct_nil hinner).node _) k
    · next hk =>
      obtain ⟨inner, hinner, rfl⟩ := Option.map_eq_some_iff.1 hassign
      cases h.lookup hk with
      | table hkeys hnodes => exact h.put ((ih _ _ ⟨hkeys, hnodes⟩ hinner).node _) k
    · next hk =>
      split at hassign
      · cases hassign
      · obtain ⟨inner, hinner, rfl⟩ := Option.map_eq_some_iff.1 hassign
        cases h.lookup hk with
        | table hkeys hnodes => exact h.put ((ih _ _ ⟨hkeys, hnodes⟩ hinner).node _) k
    · next hk =>
      split at hassign
      · cases hassign
      · obtain ⟨inner, hinner, rfl⟩ := Option.map_eq_some_iff.1 hassign
        cases h.lookup hk with
        | tables hkeys hnodes => exact h.put ((ih _ _ ⟨hkeys, hnodes⟩ hinner).element _) k
    · cases hassign
    · cases hassign

theorem keeps_below {change : Entries → Option Entries} (hchange : Keeps change)
    (ks : List String) : Keeps (below change ks) := by
  induction ks with
  | nil => exact hchange
  | cons k ks ih =>
    intro es es' h hbelow
    rw [below] at hbelow
    split at hbelow
    · obtain ⟨inner, hinner, rfl⟩ := Option.map_eq_some_iff.1 hbelow
      exact h.put ((ih _ _ distinct_nil hinner).node _) k
    · next hk =>
      obtain ⟨inner, hinner, rfl⟩ := Option.map_eq_some_iff.1 hbelow
      cases h.lookup hk with
      | table hkeys hnodes => exact h.put ((ih _ _ ⟨hkeys, hnodes⟩ hinner).node _) k
    · next hk =>
      obtain ⟨inner, hinner, rfl⟩ := Option.map_eq_some_iff.1 hbelow
      cases h.lookup hk with
      | tables hkeys hnodes => exact h.put ((ih _ _ ⟨hkeys, hnodes⟩ hinner).element _) k
    · cases hbelow

theorem keeps_openTable {fill : Entries → Option Entries} (hfill : Keeps fill) (key : String) :
    Keeps (openTable key fill) := by
  intro es es' h hopen
  rw [openTable] at hopen
  split at hopen
  · obtain ⟨inner, hinner, rfl⟩ := Option.map_eq_some_iff.1 hopen
    exact h.put ((hfill _ _ distinct_nil hinner).node _) key
  · next hk =>
    obtain ⟨inner, hinner, rfl⟩ := Option.map_eq_some_iff.1 hopen
    cases h.lookup hk with
    | table hkeys hnodes => exact h.put ((hfill _ _ ⟨hkeys, hnodes⟩ hinner).node _) key
  · cases hopen

theorem keeps_openElement {fill : Entries → Option Entries} (hfill : Keeps fill) (key : String) :
    Keeps (openElement key fill) := by
  intro es es' h hopen
  rw [openElement] at hopen
  split at hopen
  · obtain ⟨inner, hinner, rfl⟩ := Option.map_eq_some_iff.1 hopen
    exact h.put ((hfill _ _ distinct_nil hinner).element _) key
  · obtain ⟨inner, hinner, rfl⟩ := Option.map_eq_some_iff.1 hopen
    exact h.put ((hfill _ _ distinct_nil hinner).element _) key
  · cases hopen

theorem keeps_foldlM {α : Type} {f : Entries → α → Option Entries} {items : List α}
    (hf : ∀ a ∈ items, Keeps (f · a)) : Keeps (items.foldlM f) := by
  induction items with
  | nil =>
    intro es es' h hfold
    cases hfold
    exact h
  | cons a rest ih =>
    intro es es' h hfold
    obtain ⟨es₁, hfirst, hrest⟩ := Option.bind_eq_some_iff.1 hfold
    exact ih (fun b hb => hf b (List.mem_cons_of_mem a hb)) _ _
      (hf a List.mem_cons_self _ _ h hfirst) hrest

end Entries

theorem entryValues_eq (es : Entries) : entryValues es = es.map fun e => (e.1, e.2.value) := by
  induction es with
  | nil => rfl
  | cons e rest ih =>
    obtain ⟨k, n⟩ := e
    simp [entryValues, entryValue, ih]

theorem map_fst_entryValues (es : Entries) : (entryValues es).map Prod.fst = es.map Prod.fst := by
  simp [entryValues_eq]

theorem Node.Distinct.value {n : Node} (h : n.Distinct) : n.value.KeysDistinct := by
  cases h with
  | leaf h => exact h
  | table hkeys _ =>
    rw [Node.value, Value.KeysDistinct, Value.entriesOf, map_fst_entryValues]
    exact hkeys
  | tables => exact Value.keysDistinct_of_entriesOf rfl

theorem keeps_assignAll {assignments : List (KeyPath × Value)}
    (h : ∀ a ∈ assignments, a.2.KeysDistinct) : Entries.Keeps (assignAll assignments) :=
  Entries.keeps_foldlM fun a ha => Entries.keeps_assign (h a ha) a.1.key a.1.parents

theorem inSigned64?_eq_some {i : Int} {v : Value} (h : inSigned64? i = some v) :
    v = .integer i := by
  unfold inSigned64? at h
  split at h
  · exact (Option.some.inj h).symm
  · cases h

theorem entriesOf_integer? {cs : List Char} {v : Value} (h : integer? cs = some v) :
    v.entriesOf = [] := by
  have hbased {radix : Nat} {ds : List Char} (hd : basedInteger? radix ds = some v) :
      v.entriesOf = [] := by
    obtain ⟨_, -, hd⟩ := Option.bind_eq_some_iff.1 hd
    rw [inSigned64?_eq_some hd]
    rfl
  unfold integer? at h
  split at h
  · exact hbased h
  · exact hbased h
  · exact hbased h
  · obtain ⟨_, -, h⟩ := Option.bind_eq_some_iff.1 h
    rw [inSigned64?_eq_some h]
    rfl

theorem entriesOf_real? {cs : List Char} {v : Value} (h : real? cs = some v) :
    v.entriesOf = [] := by
  simp only [real?] at h
  split at h
  · cases h
    rfl
  · split at h
    · cases h
      rfl
    · obtain ⟨_, -, h⟩ := Option.bind_eq_some_iff.1 h
      obtain ⟨⟨_, _⟩, -, h⟩ := Option.bind_eq_some_iff.1 h
      simp only at h
      split at h
      · cases h
      · cases h
        rfl

theorem entriesOf_readScalar {cs rest : List Char} {v : Value}
    (h : readScalar cs = some (v, rest)) : v.entriesOf = [] := by
  have hword {word : List Char} (hw : wordValue? word = some v) : v.entriesOf = [] := by
    unfold wordValue? at hw
    split at hw
    · cases hw
      rfl
    · split at hw
      · cases hw
        rfl
      · split at hw
        · next hi =>
          cases hw
          exact entriesOf_integer? hi
        · split at hw
          · next hr =>
            cases hw
            exact entriesOf_real? hr
          · obtain ⟨_, -, rfl⟩ := Option.map_eq_some_iff.1 hw
            rfl
  unfold readScalar at h
  split at h
  · obtain ⟨_, -, heq⟩ := Option.map_eq_some_iff.1 h
    cases heq
    rfl
  · obtain ⟨_, -, heq⟩ := Option.map_eq_some_iff.1 h
    cases heq
    rfl
  · obtain ⟨_, hw, heq⟩ := Option.map_eq_some_iff.1 h
    cases heq
    exact hword hw

/-- What holds of every item that can be read holds of all items of a list. -/
theorem forall_readSeparated {α : Type} {item : List Char → Option (α × List Char)} {P : α → Prop}
    (hitem : ∀ cs a rest, item cs = some (a, rest) → P a) (close : Char) (fuel : Nat)
    {cs rest : List Char} {items : List α}
    (h : readSeparated item close fuel cs = some (items, rest)) : ∀ a ∈ items, P a := by
  induction fuel generalizing cs rest items with
  | zero => cases h
  | succ fuel ih =>
    obtain ⟨cs₁, -, h⟩ := Option.bind_eq_some_iff.1 h
    split at h
    · cases h
      nofun
    · obtain ⟨⟨a, cs₂⟩, ha, h⟩ := Option.bind_eq_some_iff.1 h
      obtain ⟨cs₃, -, h⟩ := Option.bind_eq_some_iff.1 h
      have hfirst := hitem _ _ _ ha
      split at h
      · obtain ⟨⟨as, _⟩, has, h⟩ := Option.bind_eq_some_iff.1 h
        cases h
        exact List.forall_mem_cons.2 ⟨hfirst, ih has⟩
      · split at h
        · cases h
          simpa using hfirst
        · cases h
      · cases h

theorem readAssignment_snd {value : List Char → Option (Value × List Char)} {P : Value → Prop}
    (hvalue : ∀ cs v rest, value cs = some (v, rest) → P v) (cs : List Char)
    (a : KeyPath × Value) (rest : List Char) (h : readAssignment value cs = some (a, rest)) :
    P a.2 := by
  obtain ⟨⟨path, cs₁⟩, -, h⟩ := Option.bind_eq_some_iff.1 h
  obtain ⟨cs₂, -, h⟩ := Option.bind_eq_some_iff.1 h
  obtain ⟨⟨v, cs₃⟩, hv, h⟩ := Option.bind_eq_some_iff.1 h
  cases h
  exact hvalue _ _ _ hv

theorem keysDistinct_readValue (depth : Nat) (cs : List Char) (v : Value) (rest : List Char)
    (h : readValue depth cs = some (v, rest)) : v.KeysDistinct := by
  induction depth generalizing cs v rest with
  | zero =>
    rw [readValue] at h
    · exact Value.keysDistinct_of_entriesOf (entriesOf_readScalar h)
    all_goals nofun
  | succ depth ih =>
    unfold readValue at h
    split at h
    · obtain ⟨_, -, heq⟩ := Option.map_eq_some_iff.1 h
      cases heq
      exact Value.keysDistinct_of_entriesOf rfl
    · next hdepth =>
      cases hdepth
      obtain ⟨⟨assignments, _⟩, hread, h⟩ := Option.bind_eq_some_iff.1 h
      obtain ⟨es, hes, h⟩ := Option.bind_eq_some_iff.1 h
      cases h
      have hall := forall_readSeparated (readAssignment_snd ih) _ _ hread
      have hdistinct := keeps_assignAll hall _ _ Entries.distinct_nil hes
      exact (hdistinct.node .defined).value
    · exact Value.keysDistinct_of_entriesOf (entriesOf_readScalar h)

/-- A statement assigns only values with distinct keys. -/
def Statement.KeysDistinct : Statement → Prop
  | .header _ => True
  | .assignment _ v => v.KeysDistinct

theorem keysDistinct_readStatement {cs rest : List Char} {s : Statement}
    (h : readStatement cs = some (s, rest)) : s.KeysDistinct := by
  unfold readStatement at h
  split at h
  · obtain ⟨⟨path, _⟩, -, h⟩ := Option.bind_eq_some_iff.1 h
    obtain ⟨_, -, h⟩ := Option.bind_eq_some_iff.1 h
    obtain ⟨_, -, h⟩ := Option.bind_eq_some_iff.1 h
    obtain ⟨_, hs, h⟩ := Option.bind_eq_some_iff.1 h
    obtain ⟨_, -, h⟩ := Option.bind_eq_some_iff.1 h
    cases hs
    cases h
    trivial
  · obtain ⟨⟨path, _⟩, -, h⟩ := Option.bind_eq_some_iff.1 h
    obtain ⟨_, -, h⟩ := Option.bind_eq_some_iff.1 h
    obtain ⟨_, hs, h⟩ := Option.bind_eq_some_iff.1 h
    obtain ⟨_, -, h⟩ := Option.bind_eq_some_iff.1 h
    cases hs
    cases h
    trivial
  · obtain ⟨⟨⟨path, v⟩, _⟩, ha, h⟩ := Option.bind_eq_some_iff.1 h
    obtain ⟨_, hs, h⟩ := Option.bind_eq_some_iff.1 h
    obtain ⟨_, -, h⟩ := Option.bind_eq_some_iff.1 h
    cases hs
    cases h
    exact readAssignment_snd (keysDistinct_readValue maxDepth) _ _ _ ha

theorem keysDistinct_readStatements {fuel : Nat} {cs : List Char} {statements : List Statement}
    (h : readStatements fuel cs = some statements) : ∀ s ∈ statements, s.KeysDistinct := by
  induction fuel generalizing cs statements with
  | zero => cases h
  | succ fuel ih =>
    obtain ⟨cs₁, -, h⟩ := Option.bind_eq_some_iff.1 h
    split at h
    · cases h
      nofun
    · obtain ⟨⟨s, _⟩, hs, h⟩ := Option.bind_eq_some_iff.1 h
      obtain ⟨rest, hrest, h⟩ := Option.bind_eq_some_iff.1 h
      cases h
      exact List.forall_mem_cons.2 ⟨keysDistinct_readStatement hs, ih hrest⟩

theorem keysDistinct_group {statements : List Statement} (h : ∀ s ∈ statements, s.KeysDistinct) :
    (∀ a ∈ (group statements).1, a.2.KeysDistinct) ∧
      ∀ s ∈ (group statements).2, ∀ a ∈ s.assignments, a.2.KeysDistinct := by
  induction statements with
  | nil => exact ⟨nofun, nofun⟩
  | cons s rest ih =>
    obtain ⟨hfirst, hrest⟩ := List.forall_mem_cons.1 h
    obtain ⟨hassignments, hsections⟩ := ih hrest
    cases s with
    | header => exact ⟨nofun, List.forall_mem_cons.2 ⟨hassignments, hsections⟩⟩
    | assignment path v => exact ⟨List.forall_mem_cons.2 ⟨hfirst, hassignments⟩, hsections⟩

theorem keeps_addTo {s : Section} (h : ∀ a ∈ s.assignments, a.2.KeysDistinct) :
    Entries.Keeps s.addTo := by
  have hfill := keeps_assignAll h
  intro es es' hes hadd
  unfold Section.addTo at hadd
  split at hadd
  · exact Entries.keeps_below (Entries.keeps_openTable hfill _) _ _ _ hes hadd
  · exact Entries.keeps_below (Entries.keeps_openElement hfill _) _ _ _ hes hadd

/-- A document's keys are distinct, and so are those of every table at its top. -/
theorem keysDistinct_parse {cs : List Char} {entries : List (String × Value)}
    (h : parse cs = some entries) :
    (entries.map Prod.fst).Nodup ∧ ∀ e ∈ entries, e.2.KeysDistinct := by
  obtain ⟨statements, hstatements, h⟩ := Option.bind_eq_some_iff.1 h
  obtain ⟨hassignments, hsections⟩ := keysDistinct_group (keysDistinct_readStatements hstatements)
  obtain ⟨es₁, hes₁, h⟩ := Option.bind_eq_some_iff.1 h
  obtain ⟨es₂, hes₂, h⟩ := Option.bind_eq_some_iff.1 h
  cases h
  have hdistinct₁ := keeps_assignAll hassignments _ _ Entries.distinct_nil hes₁
  have hdistinct₂ := Entries.keeps_foldlM (fun s hs => keeps_addTo (hsections s hs)) _ _
    hdistinct₁ hes₂
  refine ⟨by rw [map_fst_entryValues]; exact hdistinct₂.keys, fun e he => ?_⟩
  rw [entryValues_eq] at he
  obtain ⟨node, hnode, rfl⟩ := List.mem_map.1 he
  exact (hdistinct₂.nodes node hnode).value

end Toml

end GracefulDrain
