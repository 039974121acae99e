import Mathlib
import GracefulDrain.Proofs.LayeredLoad

/-! Two merges whose sources are the same but for one key agree in everything else, and under the
key each holds what its own sources say of it there. -/
namespace GracefulDrain

namespace Setting

/-- The name leads to the key, to its whole section or an item of that, or to something below the
key. -/
def TouchedBy (k : Setting) (name : String) : Prop :=
  Layers.coversSection k.sectionName (Layers.pathOf name) = true ∨ k.keyPath <+: Layers.pathOf name

instance (k : Setting) (name : String) : Decidable (k.TouchedBy name) :=
  inferInstanceAs (Decidable (_ ∨ _))

theorem touchedBy_of_key {k : Setting} {name : String} (h : Layers.pathOf name = k.keyPath) :
    k.TouchedBy name :=
  .inr (by rw [h])

theorem touchedBy_of_section {k : Setting} {name : String}
    (h : Layers.pathOf name = [.key k.sectionName]) : k.TouchedBy name :=
  .inl (by rw [h, Layers.coversSection_section])

theorem head?_of_touchedBy {k : Setting} {name : String} (h : k.TouchedBy name) :
    (Layers.pathOf name).head? = some (.key k.sectionName) := by
  obtain ⟨first, more, hpath⟩ := Layers.exists_pathOf_eq name
  rw [TouchedBy, hpath] at h
  rw [hpath, List.head?_cons]
  rcases h with h | h
  · by_contra hne
    have hfirst : k.sectionName ≠ first := by
      rintro rfl
      exact hne rfl
    rw [Layers.coversSection_of_ne hfirst] at h
    cases h
  · rw [(List.cons_prefix_cons.1 h).1]

/-- An entry without the key; a section that has no other field is left out. -/
def strip (k : Setting) (e : String × Value) : Option (String × Value) :=
  if e.1 = k.sectionName then
    match e.2 with
    | .table fields =>
      let others := fields.filter (·.1 ≠ k.fieldName)
      if others.isEmpty then none else some (e.1, .table others)
    | v => some (e.1, v)
  else some e

/-- What a file holds besides the key. -/
def without (k : Setting) (entries : List (String × Value)) : List (String × Value) :=
  entries.filterMap k.strip

theorem strip_of_ne {k : Setting} {name : String} (h : name ≠ k.sectionName) (v : Value) :
    k.strip (name, v) = some (name, v) := if_neg h

theorem strip_of_not_isTable (k : Setting) (name : String) {v : Value} (h : v.isTable = false) :
    k.strip (name, v) = some (name, v) := by
  unfold strip
  split
  · cases v <;> first | rfl | cases h
  · rfl

theorem fst_of_strip {k : Setting} {e e' : String × Value} (h : k.strip e = some e') : e'.1 = e.1 := by
  obtain ⟨name, v⟩ := e
  unfold strip at h
  split at h
  · split at h
    · obtain ⟨-, h⟩ := Option.ite_none_left_eq_some.1 h
      cases h
      rfl
    · cases h
      rfl
  · cases h
    rfl

theorem isTable_of_strip {k : Setting} {e e' : String × Value} (h : k.strip e = some e')
    (he : e.2.isTable = true) : e'.2.isTable = true := by
  obtain ⟨name, v⟩ := e
  unfold strip at h
  split at h
  · split at h
    · obtain ⟨-, h⟩ := Option.ite_none_left_eq_some.1 h
      cases h
      rfl
    · cases h
      exact he
  · cases h
    exact he

theorem strip_table (k : Setting) (fields : List (String × Value)) :
    k.strip (k.sectionName, .table fields) =
      if (fields.filter (·.1 ≠ k.fieldName)).isEmpty then none
      else some (k.sectionName, .table (fields.filter (·.1 ≠ k.fieldName))) := if_pos rfl

end Setting

namespace Value

variable {key : String} {es : List (String × Value)}

theorem entryOf_congr {base : List (String × Value)} (h : lookup key es = lookup key base) :
    entryOf key es = entryOf key base := congrArg (·.getD nil) h

theorem lookup_of_mem {v : Value} (hkeys : (es.map Prod.fst).Nodup) (h : (key, v) ∈ es) :
    lookup key es = some v := by
  induction es with
  | nil => cases h
  | cons e rest ih =>
    obtain ⟨hnew, hrest⟩ := List.nodup_cons.1 hkeys
    rcases List.mem_cons.1 h with rfl | hmem
    · rw [lookup_cons, if_pos rfl]
    · rw [lookup_cons, if_neg, ih hrest hmem]
      rintro rfl
      exact hnew (List.mem_map.2 ⟨_, hmem, rfl⟩)

/-- Where entries of one key are all the same scalar, it replaces what stood there. -/
theorem lookup_mergeEntries_of_said {said : Option Value} (hsaid : ∀ v ∈ said, v.isTable = false)
    (h : ∀ e ∈ es, e.1 = key → some e.2 = said) (base : List (String × Value)) :
    lookup key (mergeEntries base es) = if key ∈ es.map Prod.fst then said else lookup key base := by
  induction es generalizing base with
  | nil => rfl
  | cons e rest ih =>
    obtain ⟨k, v⟩ := e
    rw [mergeEntries, mergeEntry, ih fun e he => h e (List.mem_cons_of_mem _ he), lookup_insert]
    by_cases hk : key = k
    · have hv : some v = said := h (k, v) List.mem_cons_self hk.symm
      rw [if_pos hk, merge_of_not_isTable (hsaid v hv.symm), hv]
      simp [hk]
    · simp only [List.map_cons, List.mem_cons, hk, false_or, if_false]

/-- Entries of one key, and what stood under it before, make no difference to the others. -/
theorem lookup_mergeEntries_filter {base base' : List (String × Value)}
    (h : ∀ name ≠ key, lookup name base = lookup name base') {name : String} (hname : name ≠ key) :
    lookup name (mergeEntries base es) =
      lookup name (mergeEntries base' (es.filter (·.1 ≠ key))) := by
  induction es generalizing base base' with
  | nil => exact h name hname
  | cons e rest ih =>
    obtain ⟨k, v⟩ := e
    by_cases hk : k = key
    · rw [List.filter_cons_of_neg (by simpa using hk), mergeEntries, mergeEntry]
      refine ih fun other hother => ?_
      rw [lookup_insert, if_neg (hk ▸ hother)]
      exact h other hother
    · rw [List.filter_cons_of_pos (by simpa using hk), mergeEntries, mergeEntry, mergeEntries,
        mergeEntry]
      refine ih fun other hother => ?_
      rw [lookup_insert, lookup_insert, entryOf_congr (h k hk), h other hother]

end Value

namespace Layers

open Value (Step)

variable {k : Setting} {root root' root'' v : Value}

/-- The two hold the same but for the key. -/
structure AgreeOff (k : Setting) (root root' : Value) : Prop where
  left : Tabled k root
  right : Tabled k root'
  sections : ∀ name ≠ k.sectionName,
    Value.lookup name root.entriesOf = Value.lookup name root'.entriesOf
  fields : ∀ name ≠ k.fieldName,
    Value.lookup name (fieldsAt root k) = Value.lookup name (fieldsAt root' k)

theorem Tabled.refl (h : Tabled k root) : AgreeOff k root root :=
  ⟨h, h, fun _ _ => rfl, fun _ _ => rfl⟩

theorem AgreeOff.symm (h : AgreeOff k root root') : AgreeOff k root' root :=
  ⟨h.right, h.left, fun name hname => (h.sections name hname).symm,
    fun name hname => (h.fields name hname).symm⟩

theorem AgreeOff.trans (h : AgreeOff k root root') (h' : AgreeOff k root' root'') :
    AgreeOff k root root'' :=
  ⟨h.left, h'.right, fun name hname => (h.sections name hname).trans (h'.sections name hname),
    fun name hname => (h.fields name hname).trans (h'.fields name hname)⟩

/-- The same is laid over both, but not over the section or an item of it. -/
theorem AgreeOff.mergeAt (h : AgreeOff k root root') {key : String}
    (hcovers : coversSection k.sectionName (pathOf key) = false) :
    AgreeOff k (v.mergeAt (pathOf key) root) (v.mergeAt (pathOf key) root') := by
  obtain ⟨first, more, hpath⟩ := exists_pathOf_eq key
  rw [hpath] at hcovers ⊢
  have hv : coversSection k.sectionName (.key first :: more) = true → more = [] ∧ v.isTable = true :=
    fun h => absurd h (Bool.eq_false_iff.1 hcovers)
  refine ⟨h.left.mergeAt hv, h.right.mergeAt hv, fun name hname => ?_, fun name hname => ?_⟩
  · rw [lookup_mergeAt, lookup_mergeAt]
    split
    · next hfirst => rw [← hfirst, Value.entryOf_congr (h.sections name hname)]
    · exact h.sections name hname
  · by_cases hfirst : k.sectionName = first
    · subst hfirst
      obtain ⟨second, more, rfl⟩ := exists_field_of_not_coversSection hcovers
      have hfield := h.fields name hname
      rw [fieldsAt_mergeAt_section, fieldsAt_mergeAt_section, lookup_mergeAt, lookup_mergeAt]
      split
      · next hsecond =>
        have hentry : Value.entryOf name (fieldsAt root k) = Value.entryOf name (fieldsAt root' k) :=
          Value.entryOf_congr hfield
        rw [fieldsAt, fieldsAt] at hentry
        rw [← hsecond, hentry]
      · exact hfield
    · rw [fieldsAt_mergeAt_of_ne hfirst, fieldsAt_mergeAt_of_ne hfirst]
      exact h.fields name hname

/-- Fields are laid over one section, and over the other the same fields but for the key's own. -/
theorem AgreeOff.mergeAt_section (h : AgreeOff k root root') (es : List (String × Value)) :
    AgreeOff k ((Value.table es).mergeAt [.key k.sectionName] root)
      ((Value.table (es.filter (·.1 ≠ k.fieldName))).mergeAt [.key k.sectionName] root') := by
  refine ⟨h.left.mergeAt fun _ => ⟨rfl, rfl⟩, h.right.mergeAt fun _ => ⟨rfl, rfl⟩,
    fun name hname => ?_, fun name hname => ?_⟩
  · rw [lookup_mergeAt, lookup_mergeAt, if_neg hname, if_neg hname]
    exact h.sections name hname
  · rw [fieldsAt_mergeAt_section, fieldsAt_mergeAt_section]
    exact Value.lookup_mergeEntries_filter h.fields hname

theorem Tabled.mergeAt_nothing (h : Tabled k root) :
    AgreeOff k ((Value.table []).mergeAt [.key k.sectionName] root) root := by
  refine ⟨h.mergeAt fun _ => ⟨rfl, rfl⟩, h, fun name hname => ?_, fun name _ => ?_⟩
  · rw [lookup_mergeAt, if_neg hname]
  · rw [fieldsAt_mergeAt_section]
    rfl

/-- What is laid at the key itself makes no difference but there. -/
theorem Tabled.mergeAt_key (h : Tabled k root) (v : Value) :
    AgreeOff k (v.mergeAt k.keyPath root) root := by
  refine ⟨h.mergeAt (by simp [coversSection]), h, fun name hname => ?_, fun name hname => ?_⟩
  · rw [Setting.keyPath, lookup_mergeAt, if_neg hname]
  · rw [Setting.keyPath, fieldsAt_mergeAt_section, lookup_mergeAt, if_neg hname]
    rfl

variable {source source' : List (String × Value)}

/-- What is no table over the section is not left out. -/
theorem leavesTable_of_without (h : LeavesTable k source')
    (heq : k.without source = k.without source') : LeavesTable k source := by
  intro e he hcovers
  by_contra hnot
  have hkept : k.strip e = some e := by
    obtain ⟨name, v⟩ := e
    by_cases hname : name = k.sectionName
    · exact k.strip_of_not_isTable name (Bool.eq_false_iff.2 fun hv => hnot ⟨hname, hv⟩)
    · exact Setting.strip_of_ne hname v
  have hmem : e ∈ k.without source' := heq ▸ List.mem_filterMap.2 ⟨e, he, hkept⟩
  obtain ⟨e', he', hstrip⟩ := List.mem_filterMap.1 hmem
  have hfst := Setting.fst_of_strip hstrip
  obtain ⟨hname, htable⟩ := h e' he' (hfst ▸ hcovers)
  exact hnot ⟨hfst.trans hname, Setting.isTable_of_strip hstrip htable⟩

theorem AgreeOff.addSource_without (hsource : LeavesTable k source) (h : AgreeOff k root root') :
    AgreeOff k (addSource root source) (addSource root' (k.without source)) := by
  induction source generalizing root root' with
  | nil => exact h
  | cons e rest ih =>
    obtain ⟨name, v⟩ := e
    have hrest : LeavesTable k rest := hsource.tail
    by_cases hname : name = k.sectionName
    · subst hname
      obtain ⟨-, hv⟩ := hsource _ List.mem_cons_self
        (by rw [k.pathOf_sectionName, coversSection_section])
      cases v with
      | table fields =>
        have hfirst := h.mergeAt_section fields
        have hstrip := k.strip_table fields
        split at hstrip
        · next hnone =>
          rw [List.isEmpty_iff.1 hnone] at hfirst
          have hskip := hfirst.trans h.right.mergeAt_nothing
          rw [← k.pathOf_sectionName] at hskip
          rw [Setting.without, List.filterMap_cons_none hstrip]
          exact ih hrest hskip
        · rw [← k.pathOf_sectionName] at hfirst
          rw [Setting.without, List.filterMap_cons_some hstrip]
          exact ih hrest hfirst
      | _ => cases hv
    · rw [Setting.without, List.filterMap_cons_some (Setting.strip_of_ne hname v)]
      refine ih hrest (h.mergeAt (Bool.eq_false_iff.2 fun hcovers => hname ?_))
      exact (hsource _ List.mem_cons_self hcovers).1

theorem AgreeOff.addFile (h : AgreeOff k root root') (hsource : LeavesTable k source')
    (heq : k.without source = k.without source') :
    AgreeOff k (addSource root source) (addSource root' source') := by
  have hleft := h.addSource_without (leavesTable_of_without hsource heq)
  rw [heq] at hleft
  exact hleft.trans (h.right.refl.addSource_without hsource).symm

/-- The variables that spell the key make no difference to the others. -/
theorem AgreeOff.addVariables {bs : List (String × String)}
    (hsection : ∀ b ∈ bs, ∀ key ∈ Environment.key? b.1,
      coversSection k.sectionName (pathOf key) = false)
    (h : AgreeOff k root root') :
    AgreeOff k (addSource root (Environment.settings ⟨bs⟩))
      (addSource root' (Environment.settings ⟨bs.filter fun b => !k.spelledBy b.1⟩)) := by
  induction bs generalizing root root' with
  | nil => exact h
  | cons b rest ih =>
    have hrest := fun b hb => hsection b (List.mem_cons_of_mem _ hb)
    rw [Environment.settings_cons]
    by_cases hk : k.spelledBy b.1 = true
    · have hstep : AgreeOff k ((Environment.guess b.2).mergeAt
          (pathOf k.name) root) root' := by
        rw [(k.pathOf_eq_iff _).2 rfl]
        exact (h.left.mergeAt_key _).trans h
      rw [List.filter_cons_of_neg (by simp [hk]), (k.key?_eq_some_iff b.1).2 hk]
      exact ih hrest hstep
    · rw [List.filter_cons_of_pos (by simp [hk]), Environment.settings_cons]
      cases hkey : Environment.key? b.1 with
      | none => exact ih hrest h
      | some key =>
        exact ih hrest (h.mergeAt (hsection b List.mem_cons_self key hkey))

theorem AgreeOff.addEnvironment {e e' : Environment} (h : AgreeOff k root root')
    (he : ∀ b ∈ e.bindings, ∀ key ∈ Environment.key? b.1,
      coversSection k.sectionName (pathOf key) = false)
    (he' : ∀ b ∈ e'.bindings, ∀ key ∈ Environment.key? b.1,
      coversSection k.sectionName (pathOf key) = false)
    (heq : e.bindings.filter (fun b => !k.spelledBy b.1) =
      e'.bindings.filter fun b => !k.spelledBy b.1) :
    AgreeOff k (addSource root e.settings) (addSource root' e'.settings) := by
  have hleft := h.addVariables he
  rw [heq] at hleft
  exact hleft.trans (h.right.refl.addVariables he').symm

/-- The source says nothing of the key but `said`: nothing at all if that is missing. -/
def Gives (k : Setting) (said : Option Value) (source : List (String × Value)) : Prop :=
  ∀ e ∈ source, k.TouchedBy e.1 →
    pathOf e.1 = k.keyPath ∧ some e.2 = said ∨
      pathOf e.1 = [.key k.sectionName] ∧ e.2.isTable = true ∧
        ∀ f ∈ e.2.entriesOf, f.1 = k.fieldName → some f.2 = said

/-- The entry says something of the key. -/
def Names (k : Setting) (e : String × Value) : Prop :=
  pathOf e.1 = k.keyPath ∨
    pathOf e.1 = [.key k.sectionName] ∧ k.fieldName ∈ e.2.entriesOf.map Prod.fst

instance (k : Setting) (e : String × Value) : Decidable (Names k e) :=
  inferInstanceAs (Decidable (_ ∨ _))

theorem exists_names_of_entry? {said : Value} (h : k.entry? source = some said) :
    ∃ e ∈ source, Names k e := by
  obtain ⟨v, hsection, hfield⟩ := Option.bind_eq_some_iff.1 h
  obtain ⟨before, after, rfl, -⟩ := List.lookup_eq_some_iff.1 hsection
  obtain ⟨fields, others, hfields, -⟩ := List.lookup_eq_some_iff.1 hfield
  exact ⟨(k.sectionName, v), by simp, .inr ⟨k.pathOf_sectionName, by simp [hfields]⟩⟩

variable {said : Option Value}

theorem Gives.tail {e : String × Value} (h : Gives k said (e :: source)) : Gives k said source :=
  fun f hf => h f (List.mem_cons_of_mem e hf)

theorem Gives.leavesTable (h : Gives k said source) : LeavesTable k source := by
  intro e he hcovers
  rcases h e he (.inl hcovers) with ⟨hkey, -⟩ | ⟨hsection, htable, -⟩
  · rw [hkey] at hcovers
    cases hcovers
  · exact ⟨eq_of_pathOf hsection, htable⟩

theorem valueAt_mergeAt_of_not_touchedBy {name : String} (h : ¬ k.TouchedBy name) :
    valueAt (v.mergeAt (pathOf name) root) k = valueAt root k := by
  obtain ⟨hcovers, hbelow⟩ := not_or.1 h
  obtain ⟨first, more, hpath⟩ := exists_pathOf_eq name
  rw [hpath] at hcovers hbelow ⊢
  by_cases hfirst : k.sectionName = first
  · subst hfirst
    obtain ⟨second, more, rfl⟩ := exists_field_of_not_coversSection (Bool.eq_false_iff.2 hcovers)
    rw [valueAt_mergeAt_field, if_neg]
    rintro rfl
    exact hbelow ⟨more, rfl⟩
  · exact valueAt_mergeAt_of_ne hfirst

theorem valueAt_mergeGiven {e : String × Value} (hsaid : ∀ v ∈ said, v.isTable = false)
    (h : Gives k said [e]) :
    valueAt (e.2.mergeAt (pathOf e.1) root) k = if Names k e then said else valueAt root k := by
  obtain ⟨name, v⟩ := e
  by_cases htouched : k.TouchedBy name
  · rcases h _ List.mem_cons_self htouched with ⟨hpath, hv⟩ | ⟨hpath, htable, hfields⟩
    · have hnames : Names k (name, v) := .inl hpath
      rw [if_pos hnames, ← hv, hpath, Setting.keyPath, valueAt_mergeAt_field, if_pos rfl,
        Value.mergeAt, Value.merge_of_not_isTable (hsaid v hv.symm)]
    · cases v with
      | table fields =>
        have hnames : Names k (name, .table fields) ↔ k.fieldName ∈ fields.map Prod.fst := by
          rw [Names, hpath]
          simp [Setting.keyPath, Value.entriesOf]
        simp only [hnames, hpath]
        rw [valueAt_eq, valueAt_eq, fieldsAt_mergeAt_section, Value.mergeAt, Value.merge,
          Value.entriesOf]
        exact Value.lookup_mergeEntries_of_said hsaid hfields _
      | _ => cases htable
  · have hnames : ¬ Names k (name, v) := by
      rintro (hpath | ⟨hpath, -⟩)
      · exact htouched (Setting.touchedBy_of_key hpath)
      · exact htouched (Setting.touchedBy_of_section hpath)
    rw [if_neg hnames]
    exact valueAt_mergeAt_of_not_touchedBy htouched

theorem valueAt_addGiven (hsaid : ∀ v ∈ said, v.isTable = false) (h : Gives k said source) :
    valueAt (addSource root source) k =
      if ∃ e ∈ source, Names k e then said else valueAt root k := by
  induction source generalizing root with
  | nil => simp [addSource]
  | cons e rest ih =>
    have hfirst : Gives k said [e] := fun f hf =>
      h f (List.mem_singleton.1 hf ▸ List.mem_cons_self)
    have hstep : valueAt (addSource root (e :: rest)) k =
        if ∃ f ∈ rest, Names k f then said else valueAt (e.2.mergeAt (pathOf e.1) root) k :=
      ih h.tail
    rw [hstep, valueAt_mergeGiven hsaid hfirst]
    by_cases hrest : ∃ f ∈ rest, Names k f
    · rw [if_pos hrest, if_pos (hrest.imp fun f hf => ⟨List.mem_cons_of_mem e hf.1, hf.2⟩)]
    · simp only [List.exists_mem_cons_iff, hrest, or_false, if_false]

/-- A file that holds plain sections says of the key what it holds there. -/
theorem gives_of_plainFile (hnodup : (source.map Prod.fst).Nodup)
    (hkeys : ∀ e ∈ source, e.2.KeysDistinct) (hplain : PlainFile source) :
    Gives k (k.entry? source) source := by
  intro e he htouched
  obtain ⟨hsection, htable, -⟩ := hplain e he k (Setting.head?_of_touchedBy htouched)
  have hentry : Value.lookup k.sectionName source = some e.2 :=
    Value.lookup_of_mem hnodup (hsection ▸ he)
  refine .inr ⟨by rw [hsection, k.pathOf_sectionName], htable, fun f hf hfield => ?_⟩
  rw [Setting.entry?, hentry]
  exact (Value.lookup_of_mem (hkeys e he) (hfield ▸ hf)).symm

theorem Gives.keeps (hsaid : ∀ v ∈ said, v.isTable = false) (h : Gives k said source)
    (hroot : valueAt root k = said) : valueAt (addSource root source) k = said := by
  rw [valueAt_addGiven hsaid h, hroot, ite_self]

/-- A source that says nothing of the key leaves it as it was. -/
theorem Gives.valueAt_of_none (h : Gives k none source) :
    valueAt (addSource root source) k = valueAt root k := by
  have hnames : ¬ ∃ e ∈ source, Names k e := by
    rintro ⟨e, he, hpath | ⟨hpath, hfield⟩⟩
    · rcases h e he (Setting.touchedBy_of_key hpath) with ⟨-, hv⟩ | ⟨hsection, -⟩
      · cases hv
      · rw [hpath] at hsection
        cases hsection
    · rcases h e he (Setting.touchedBy_of_section hpath) with ⟨-, hv⟩ | ⟨-, -, hfields⟩
      · cases hv
      · obtain ⟨f, hf, hname⟩ := List.mem_map.1 hfield
        cases hfields f hf hname
  rw [valueAt_addGiven (by simp) h, if_neg hnames]

end Layers

namespace Environment

variable {k : Setting} {said : Option String} {e : Environment}

/-- The variables that lead to the key, its section or something below the key are the key's own, and
their value is `said`. -/
def Gives (k : Setting) (said : Option String) (e : Environment) : Prop :=
  ∀ b ∈ e.bindings, ∀ key ∈ key? b.1, k.TouchedBy key →
    Layers.pathOf key = k.keyPath ∧ some b.2 = said

instance (k : Setting) (said : Option String) (e : Environment) : Decidable (Gives k said e) :=
  inferInstanceAs (Decidable (∀ b ∈ e.bindings, ∀ key ∈ key? b.1, k.TouchedBy key →
    Layers.pathOf key = k.keyPath ∧ some b.2 = said))

theorem Gives.settings (h : Gives k said e) : Layers.Gives k (said.map guess) e.settings := by
  intro s hs htouched
  obtain ⟨b, hb, hmap⟩ := List.mem_filterMap.1 hs
  obtain ⟨key, hkey, rfl⟩ := Option.map_eq_some_iff.1 hmap
  obtain ⟨hpath, hv⟩ := h b hb key hkey htouched
  exact .inl ⟨hpath, by rw [← hv]; rfl⟩

theorem exists_names_of_spelledBy (h : ∃ b ∈ e.bindings, k.spelledBy b.1 = true) :
    ∃ s ∈ e.settings, Layers.Names k s := by
  obtain ⟨b, hb, hspelled⟩ := h
  have hkey := (k.key?_eq_some_iff b.1).2 hspelled
  exact ⟨(k.name, guess b.2),
    List.mem_filterMap.2 ⟨b, hb, Option.map_eq_some_iff.2 ⟨_, hkey, rfl⟩⟩,
    .inl ((k.pathOf_eq_iff _).2 rfl)⟩

theorem Gives.notSection (h : Gives k said e) :
    ∀ b ∈ e.bindings, ∀ key ∈ key? b.1,
      Layers.coversSection k.sectionName (Layers.pathOf key) = false := by
  intro b hb key hkey
  refine Bool.eq_false_iff.2 fun hcovers => ?_
  obtain ⟨hown, -⟩ := h b hb key hkey (.inl hcovers)
  rw [hown] at hcovers
  cases hcovers

end Environment

end GracefulDrain
