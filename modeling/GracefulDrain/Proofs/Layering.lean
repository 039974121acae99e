import Mathlib
import GracefulDrain.Proofs.ConfigSources

/-! What the sources leave under a key is the value of its variable, or else what the profile's file
or the file of defaults holds there. -/
namespace GracefulDrain

namespace Value

def isTable : Value → Bool
  | table _ => true
  | _ => false

theorem merge_of_not_isTable {v : Value} (h : v.isTable = false) (base : Value) :
    merge base v = v := by
  cases v <;> first | rfl | cases h

theorem entryOf_insert (key k : String) (v : Value) (es : List (String × Value)) :
    entryOf k (insert key v es) = if k = key then v else entryOf k es := by
  rw [entryOf, lookup_insert]
  split <;> rfl

theorem lookup_cons (key k : String) (v : Value) (es : List (String × Value)) :
    lookup k ((key, v) :: es) = if k = key then some v else lookup k es := by
  by_cases h : k = key
  · simp [lookup, h]
  · simp [lookup, List.lookup_cons, beq_eq_false_iff_ne.2 h, h]

theorem lookup_eq_none_of_not_mem {key : String} {es : List (String × Value)}
    (h : key ∉ es.map Prod.fst) : lookup key es = none := by
  refine List.lookup_eq_none_iff.2 fun e he => bne_iff_ne.2 ?_
  rintro rfl
  exact h (List.mem_map_of_mem he)

/-- Scalars replace what stands under their keys and leave the rest. -/
theorem lookup_mergeEntries {es : List (String × Value)} (hkeys : (es.map Prod.fst).Nodup)
    (hflat : ∀ e ∈ es, e.2.isTable = false) (base : List (String × Value)) (k : String) :
    lookup k (mergeEntries base es) = (lookup k es).or (lookup k base) := by
  induction es generalizing base with
  | nil => rfl
  | cons e rest ih =>
    obtain ⟨key, v⟩ := e
    obtain ⟨hnew, hrest⟩ := List.nodup_cons.1 hkeys
    rw [mergeEntries, mergeEntry, merge_of_not_isTable (hflat (key, v) List.mem_cons_self),
      ih hrest fun e he => hflat e (List.mem_cons_of_mem _ he), lookup_insert, lookup_cons]
    by_cases h : k = key
    · subst h
      rw [lookup_eq_none_of_not_mem hnew]
      simp
    · simp only [if_neg h]

end Value

namespace Layers
open Value (Step)

/-- The fields of the key's section. -/
def fieldsAt (root : Value) (k : Setting) : List (String × Value) :=
  (Value.entryOf k.sectionName root.entriesOf).entriesOf

/-- What a table of sections holds under the key. -/
def valueAt (root : Value) (k : Setting) : Option Value := k.entry? root.entriesOf

theorem valueAt_eq (root : Value) (k : Setting) :
    valueAt root k = Value.lookup k.fieldName (fieldsAt root k) := by
  rw [valueAt, Setting.entry?, fieldsAt, Value.entryOf]
  cases Value.lookup k.sectionName root.entriesOf <;> rfl

theorem fieldsAt_congr {root : Value} {k s : Setting} (hs : s.sectionName = k.sectionName) :
    fieldsAt root s = fieldsAt root k := by
  rw [fieldsAt, fieldsAt, hs]

/-- A table in which the key's section is a table if it is there. -/
structure Tabled (k : Setting) (root : Value) : Prop where
  whole : root.isTable = true
  ofSection : ∀ v, Value.lookup k.sectionName root.entriesOf = some v → v.isTable = true

theorem Tabled.congr {root : Value} {k s : Setting} (h : Tabled k root)
    (hs : s.sectionName = k.sectionName) : Tabled s root :=
  ⟨h.whole, by rw [hs]; exact h.ofSection⟩

theorem tabled_emptyTable (k : Setting) : Tabled k .emptyTable := ⟨rfl, nofun⟩

variable {root v : Value} {first : String} {more : List Step} {k : Setting}

theorem lookup_mergeAt {name : String} :
    Value.lookup name (v.mergeAt (.key first :: more) root).entriesOf =
      if name = first then some (v.mergeAt more (Value.entryOf first root.entriesOf))
      else Value.lookup name root.entriesOf := by
  rw [Value.mergeAt, Value.entriesOf, Value.lookup_insert]

theorem fieldsAt_mergeAt_of_ne (h : k.sectionName ≠ first) :
    fieldsAt (v.mergeAt (.key first :: more) root) k = fieldsAt root k := by
  rw [fieldsAt, fieldsAt, Value.mergeAt, Value.entriesOf, Value.entryOf_insert, if_neg h]

theorem fieldsAt_mergeAt_section :
    fieldsAt (v.mergeAt (.key k.sectionName :: more) root) k =
      (v.mergeAt more (Value.entryOf k.sectionName root.entriesOf)).entriesOf := by
  rw [fieldsAt, Value.mergeAt, Value.entriesOf, Value.entryOf_insert, if_pos rfl]

/-- The section stays a table unless something else than a table is laid over it or an item of it. -/
theorem Tabled.mergeAt (h : Tabled k root)
    (hv : coversSection k.sectionName (.key first :: more) = true →
      more = [] ∧ v.isTable = true) : Tabled k (v.mergeAt (.key first :: more) root) := by
  refine ⟨rfl, fun w hw => ?_⟩
  rw [lookup_mergeAt] at hw
  split at hw
  · next hfirst =>
    subst hfirst
    obtain rfl := Option.some.inj hw
    cases more with
    | nil =>
      obtain ⟨-, htable⟩ := hv (coversSection_section _)
      cases v <;> first | rfl | cases htable
    | cons step more =>
      cases step with
      | key field => rfl
      | item i => cases (hv (decide_eq_true rfl)).1
  · exact h.ofSection w hw

theorem valueAt_mergeAt_of_ne (h : k.sectionName ≠ first) :
    valueAt (v.mergeAt (.key first :: more) root) k = valueAt root k := by
  rw [valueAt_eq, valueAt_eq, fieldsAt_mergeAt_of_ne h]

theorem valueAt_mergeAt_section {es : List (String × Value)} (hkeys : (es.map Prod.fst).Nodup)
    (hflat : ∀ e ∈ es, e.2.isTable = false) :
    valueAt ((Value.table es).mergeAt [.key k.sectionName] root) k =
      (Value.lookup k.fieldName es).or (valueAt root k) := by
  rw [valueAt_eq, valueAt_eq, fieldsAt_mergeAt_section, Value.mergeAt, Value.merge, Value.entriesOf,
    Value.lookup_mergeEntries hkeys hflat, fieldsAt]

/-- Something laid within the key's section, but not at the section itself. -/
theorem valueAt_mergeAt_field {field : String} :
    valueAt (v.mergeAt (.key k.sectionName :: .key field :: more) root) k =
      if k.fieldName = field then some (v.mergeAt more (Value.entryOf field (fieldsAt root k)))
      else valueAt root k := by
  rw [valueAt_eq, valueAt_eq, fieldsAt_mergeAt_section, Value.mergeAt, Value.entriesOf,
    Value.lookup_insert, fieldsAt]

/-- What the source lays over the key's section or an item of it are tables, over the whole. -/
def LeavesTable (k : Setting) (source : List (String × Value)) : Prop :=
  ∀ e ∈ source, coversSection k.sectionName (pathOf e.1) = true →
    e.1 = k.sectionName ∧ e.2.isTable = true

theorem LeavesTable.tail {e : String × Value} {source : List (String × Value)}
    (h : LeavesTable k (e :: source)) : LeavesTable k source :=
  fun f hf => h f (List.mem_cons_of_mem e hf)

theorem Tabled.mergeEntry (h : Tabled k root) {e : String × Value}
    (he : coversSection k.sectionName (pathOf e.1) = true →
      e.1 = k.sectionName ∧ e.2.isTable = true) : Tabled k (e.2.mergeAt (pathOf e.1) root) := by
  obtain ⟨first, more, hpath⟩ := exists_pathOf_eq e.1
  rw [hpath]
  refine h.mergeAt fun hcovers => ?_
  obtain ⟨hname, htable⟩ := he (hpath ▸ hcovers)
  rw [hname, k.pathOf_sectionName] at hpath
  exact ⟨(List.cons.inj hpath).2.symm, htable⟩

theorem Tabled.addSource {source : List (String × Value)} (h : Tabled k root)
    (hsource : LeavesTable k source) : Tabled k (addSource root source) := by
  induction source generalizing root with
  | nil => exact h
  | cons e rest ih => exact ih (h.mergeEntry (hsource e List.mem_cons_self)) hsource.tail

/-- Where a file's keys lead into a section, they are the section's name, and a table of scalars
stands there. -/
def PlainFile (entries : List (String × Value)) : Prop :=
  ∀ e ∈ entries, ∀ k : Setting, (pathOf e.1).head? = some (.key k.sectionName) →
    e.1 = k.sectionName ∧ e.2.isTable = true ∧ ∀ f ∈ e.2.entriesOf, f.2.isTable = false

instance (entries : List (String × Value)) : Decidable (PlainFile entries) :=
  inferInstanceAs (Decidable (∀ e ∈ entries, ∀ k : Setting,
    (pathOf e.1).head? = some (.key k.sectionName) →
      e.1 = k.sectionName ∧ e.2.isTable = true ∧ ∀ f ∈ e.2.entriesOf, f.2.isTable = false))

theorem PlainFile.tail {e : String × Value} {entries : List (String × Value)}
    (h : PlainFile (e :: entries)) : PlainFile entries :=
  fun f hf => h f (List.mem_cons_of_mem e hf)

theorem valueAt_mergeEntry {e : String × Value} (hkeys : e.2.KeysDistinct)
    (hplain : PlainFile [e]) :
    valueAt (e.2.mergeAt (pathOf e.1) root) k = (k.entry? [e]).or (valueAt root k) := by
  obtain ⟨key, v⟩ := e
  rw [Setting.entry?, Value.lookup_cons]
  by_cases hkey : k.sectionName = key
  · subst hkey
    obtain ⟨-, htable, hflat⟩ := hplain _ List.mem_cons_self k (by rw [k.pathOf_sectionName]; rfl)
    cases v with
    | table es =>
      rw [if_pos rfl, k.pathOf_sectionName]
      exact valueAt_mergeAt_section hkeys hflat
    | _ => cases htable
  · obtain ⟨first, more, hpath⟩ := exists_pathOf_eq key
    have hfirst : k.sectionName ≠ first := by
      rintro rfl
      exact hkey (hplain _ List.mem_cons_self k (by rw [hpath]; rfl)).1.symm
    rw [if_neg hkey, hpath]
    exact valueAt_mergeAt_of_ne hfirst

theorem PlainFile.leavesTable {entries : List (String × Value)} (hplain : PlainFile entries) :
    LeavesTable k entries := by
  intro e he hcovers
  obtain ⟨first, more, hpath⟩ := exists_pathOf_eq e.1
  have hfirst : k.sectionName = first := by
    by_contra hne
    rw [hpath, coversSection_of_ne hne] at hcovers
    cases hcovers
  obtain ⟨hname, htable, -⟩ := hplain e he k (by rw [hpath, hfirst]; rfl)
  exact ⟨hname, htable⟩

theorem valueAt_addFile {entries : List (String × Value)}
    (hnodup : (entries.map Prod.fst).Nodup) (hkeys : ∀ e ∈ entries, e.2.KeysDistinct)
    (hplain : PlainFile entries) :
    valueAt (addSource root entries) k = (k.entry? entries).or (valueAt root k) := by
  induction entries generalizing root with
  | nil => rfl
  | cons e rest ih =>
    obtain ⟨hnew, hrest⟩ := List.nodup_cons.1 hnodup
    have hfirst : PlainFile [e] := fun f hf =>
      hplain f (List.mem_singleton.1 hf ▸ List.mem_cons_self)
    have hentry : k.entry? (e :: rest) = (k.entry? rest).or (k.entry? [e]) := by
      obtain ⟨key, v⟩ := e
      simp only [Setting.entry?, Value.lookup_cons]
      split
      · next h =>
        subst h
        rw [Value.lookup_eq_none_of_not_mem hnew]
        rfl
      · exact (Option.or_none).symm
    rw [hentry, Option.or_assoc, ← valueAt_mergeEntry (hkeys e List.mem_cons_self) hfirst]
    exact ih hrest (fun f hf => hkeys f (List.mem_cons_of_mem e hf)) hplain.tail

end Layers

namespace Environment

/-- Each key is spelled by one variable at most, and no variable stands for a whole section, an item of
one, or something below a key. -/
@[mk_iff]
structure Plain (e : Environment) : Prop where
  once : ∀ k : Setting, ∀ b ∈ e.bindings, ∀ b' ∈ e.bindings,
    k.spelledBy b.1 = true → k.spelledBy b'.1 = true → b = b'
  notSection : ∀ b ∈ e.bindings, ∀ key ∈ key? b.1, ∀ k : Setting,
    Layers.coversSection k.sectionName (Layers.pathOf key) = false
  notBelow : ∀ b ∈ e.bindings, ∀ key ∈ key? b.1, ∀ k : Setting,
    k.keyPath <+: Layers.pathOf key → Layers.pathOf key = k.keyPath

instance (e : Environment) : Decidable e.Plain := decidable_of_iff' _ (plain_iff e)

theorem Plain.tail {b : String × String} {bs : List (String × String)}
    (h : Plain ⟨b :: bs⟩) : Plain ⟨bs⟩ where
  once k b₁ h₁ b₂ h₂ := h.once k b₁ (List.mem_cons_of_mem b h₁) b₂ (List.mem_cons_of_mem b h₂)
  notSection b' hb := h.notSection b' (List.mem_cons_of_mem b hb)
  notBelow b' hb := h.notBelow b' (List.mem_cons_of_mem b hb)

theorem settings_cons (b : String × String) (bs : List (String × String)) :
    settings ⟨b :: bs⟩ =
      ((key? b.1).map fun key => (key, guess b.2)).toList ++ settings ⟨bs⟩ := by
  cases hkey : key? b.1 <;> simp [settings, hkey]

theorem mem_settings {e : Environment} {s : String × Value} (h : s ∈ e.settings) :
    ∃ b ∈ e.bindings, key? b.1 = some s.1 := by
  obtain ⟨b, hb, hs⟩ := List.mem_filterMap.1 h
  obtain ⟨key, hkey, rfl⟩ := Option.map_eq_some_iff.1 hs
  exact ⟨b, hb, hkey⟩

theorem isTable_guess (s : String) : (guess s).isTable = false := by
  unfold guess
  split
  · rfl
  · rfl
  · split
    · rfl
    · split <;> rfl

end Environment

namespace Layers

variable {root : Value} {k : Setting}

theorem valueAt_mergeVariable {e : Environment} (h : e.Plain) {b : String × String}
    (hb : b ∈ e.bindings) {key : String} (hkey : Environment.key? b.1 = some key) :
    valueAt ((Environment.guess b.2).mergeAt (pathOf key) root) k =
      if k.spelledBy b.1 then some (Environment.guess b.2) else valueAt root k := by
  have hspelled : k.spelledBy b.1 = true ↔ pathOf key = k.keyPath := by
    rw [← k.key?_eq_some_iff, hkey, k.pathOf_eq_iff, Option.some.injEq]
  by_cases hk : k.spelledBy b.1 = true
  · rw [if_pos hk, hspelled.1 hk, Setting.keyPath, valueAt_mergeAt_field, if_pos rfl, Value.mergeAt,
      Value.merge_of_not_isTable (Environment.isTable_guess _)]
  · rw [if_neg hk]
    obtain ⟨first, more, hpath⟩ := exists_pathOf_eq key
    have hcovers := h.notSection b hb key hkey k
    rw [hpath] at hcovers ⊢
    by_cases hfirst : k.sectionName = first
    · subst hfirst
      obtain ⟨second, more, rfl⟩ := exists_field_of_not_coversSection hcovers
      rw [valueAt_mergeAt_field, if_neg]
      rintro rfl
      refine hk (hspelled.2 (h.notBelow b hb key hkey k ?_))
      rw [hpath]
      exact ⟨more, rfl⟩
    · exact valueAt_mergeAt_of_ne hfirst

theorem leavesTable_settings {e : Environment}
    (h : ∀ b ∈ e.bindings, ∀ key ∈ Environment.key? b.1,
      coversSection k.sectionName (pathOf key) = false) : LeavesTable k e.settings := by
  intro s hs hcovers
  obtain ⟨b, hb, hkey⟩ := Environment.mem_settings hs
  rw [h b hb s.1 hkey] at hcovers
  cases hcovers

/-- The environment overrides the keys that its variables spell. -/
theorem valueAt_addVariables {e : Environment} (h : e.Plain) :
    valueAt (addSource root e.settings) k =
      ((k.assigned? e).map Environment.guess).or (valueAt root k) := by
  obtain ⟨bs⟩ := e
  induction bs generalizing root with
  | nil => rfl
  | cons b rest ih =>
    have hassigned : k.assigned? ⟨b :: rest⟩ =
        if k.spelledBy b.1 then some b.2 else k.assigned? ⟨rest⟩ := by
      rw [Setting.assigned?, List.find?_cons]
      cases k.spelledBy b.1 <;> rfl
    rw [hassigned, Environment.settings_cons]
    cases hkey : Environment.key? b.1 with
    | none =>
      have hk : ¬ k.spelledBy b.1 = true := by
        rw [← k.key?_eq_some_iff, hkey]
        nofun
      rw [if_neg hk]
      exact ih h.tail
    | some key =>
      have hrest : valueAt (addSource ((Environment.guess b.2).mergeAt (pathOf key) root)
          (Environment.settings ⟨rest⟩)) k = _ := ih h.tail
      rw [valueAt_mergeVariable h List.mem_cons_self hkey] at hrest
      refine hrest.trans ?_
      by_cases hk : k.spelledBy b.1 = true
      · -- a later variable of this key would be the same one
        simp only [if_pos hk]
        cases hlater : k.assigned? ⟨rest⟩ with
        | none => rfl
        | some value =>
          obtain ⟨b', hfind, rfl⟩ := Option.map_eq_some_iff.1 hlater
          rw [h.once k b List.mem_cons_self b' (List.mem_cons_of_mem b (List.mem_of_find?_eq_some hfind))
            hk (List.find?_some (p := fun b : String × String => k.spelledBy b.1) hfind)]
          rfl
      · simp only [if_neg hk]

end Layers

end GracefulDrain
