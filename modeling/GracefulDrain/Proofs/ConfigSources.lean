import Mathlib
import GracefulDrain.Config.Load
import GracefulDrain.Proofs.DistinctKeys

namespace GracefulDrain

namespace Dotenv

/-- The assignments up to the first malformed line, when `p` is what has been read before. -/
def Progress.assignments (p : Progress) : List (Option (List Char)) → List Assignment
  | [] => []
  | none :: _ => []
  | some line :: rest =>
    match readLine p.lookup line with
    | none => []
    | some .empty => p.assignments rest
    | some (.assignment a) => a :: (p.assign a).assignments rest

/-- The assignments of a file up to its first malformed line. -/
def assignments (e : Environment) (text : String) : List Assignment :=
  let cs := match text.toList with
    | '\uFEFF' :: rest => rest
    | cs => cs
  Progress.assignments ⟨e, []⟩ (logicalLines .complete [] (physicalLines cs))

/-- The first value that is assigned to a name. -/
def firstValue? (as : List Assignment) (name : String) : Option String :=
  (as.find? (·.name = name)).map Assignment.value

theorem get?_setAbsent (e : Environment) (name value other : String) :
    (e.setAbsent name value).get? other =
      (e.get? other).or (if name = other then some value else none) := by
  unfold Environment.setAbsent
  split
  · next old hold =>
    by_cases h : name = other
    · subst h
      rw [hold]
      rfl
    · rw [if_neg h, Option.or_none]
  · next hnone =>
    rw [Environment.get?, List.lookup_append, Environment.get?]
    by_cases h : name = other
    · simp [h, List.lookup]
    · have hbeq : (other == name) = false := beq_eq_false_iff_ne.2 (Ne.symm h)
      simp [h, List.lookup, hbeq]

theorem get?_run (p : Progress) (lines : List (Option (List Char))) (name : String) :
    (p.run lines).environment.get? name =
      (p.environment.get? name).or (firstValue? (p.assignments lines) name) := by
  induction lines generalizing p with
  | nil => exact (Option.or_none).symm
  | cons line rest ih =>
    cases line with
    | none => exact (Option.or_none).symm
    | some line =>
      rw [Progress.run, Progress.assignments]
      cases hline : readLine p.lookup line with
      | none => exact (Option.or_none).symm
      | some content =>
        cases content with
        | empty => exact ih p
        | assignment a =>
          have hfirst : firstValue? (a :: (p.assign a).assignments rest) name =
              (if a.name = name then some a.value else none).or
                (firstValue? ((p.assign a).assignments rest) name) := by
            by_cases h : a.name = name <;> simp [firstValue?, h]
          have hassign : (p.assign a).environment.get? name =
              (p.environment.get? name).or (if a.name = name then some a.value else none) :=
            get?_setAbsent _ _ _ _
          simp only [ih, hfirst, hassign, Option.or_assoc]

/-- What is set stays, and what is not takes the first value that the file assigns. -/
theorem get?_extend (e : Environment) (text name : String) :
    (extend e text).get? name = (e.get? name).or (firstValue? (assignments e text) name) :=
  get?_run _ _ name

end Dotenv

namespace Setting

instance : Fintype Setting where
  elems := {host, port, mode, path, shutdownTimeout, pollInterval, quiescenceWindow, logLevel,
    logFormat, metricsEnabled, metricsPath}
  complete k := by cases k <;> decide

theorem mem_all (k : Setting) : k ∈ all := by cases k <;> decide

theorem mem_ofSection {k : Setting} {name : String} : k ∈ ofSection name ↔ k.sectionName = name := by
  simp [ofSection, mem_all]

theorem exists_sectionName_eq {name : String} (h : name ∈ sectionNames) :
    ∃ k : Setting, k.sectionName = name := by
  revert name
  decide

theorem fieldName_injective : Function.Injective fieldName := by decide

def keyPath (k : Setting) : List Value.Step := [.key k.sectionName, .key k.fieldName]

/-- What the name of a variable for this key is in lower case, `separator` standing between the
section and the field. -/
def variableName (k : Setting) (separator : List Char) : List Char :=
  Environment.variablePrefix ++ k.sectionName.toList ++ separator ++ k.fieldName.toList

/-- A variable of that name sets the key: two underscores or a point part section and field. -/
def spelledBy (k : Setting) (name : String) : Bool :=
  name.toList.map Char.toLower = k.variableName ['_', '_'] ||
    name.toList.map Char.toLower = k.variableName ['.']

/-- The value of the variable for this key. -/
def assigned? (k : Setting) (e : Environment) : Option String :=
  (e.bindings.find? fun b => k.spelledBy b.1).map Prod.snd

/-- What a file's entries hold under this key. -/
def entry? (k : Setting) (entries : List (String × Value)) : Option Value :=
  (Value.lookup k.sectionName entries).bind fun v => Value.lookup k.fieldName v.entriesOf

end Setting

namespace Text

theorem intercalate_splitOn {α : Type} [DecidableEq α] (sep : α) (l : List α) :
    List.intercalate [sep] (splitOn sep l) = l := by
  induction l with
  | nil => rfl
  | cons a rest ih =>
    rw [splitOn]
    split
    · next h =>
      subst h
      cases hs : splitOn a rest with
      | nil => exact absurd hs (splitOn_ne_nil a rest)
      | cons piece pieces =>
        rw [hs] at ih
        simpa [List.intercalate] using ih
    · cases hs : splitOn sep rest with
      | nil => exact absurd hs (splitOn_ne_nil sep rest)
      | cons piece pieces =>
        rw [hs] at ih
        cases pieces with
        | nil => simpa [List.intercalate] using ih
        | cons next pieces => simpa [List.intercalate] using ih

end Text

namespace Layers
open Value (Step)

/-- Every part of a path begins with its name, and is no more than that if it has no items. -/
theorem exists_of_steps? {part : List Char} {steps : List Step} (h : steps? part = some steps) :
    ∃ (name : List Char) (indices : List Int),
      steps = .key (String.ofList name) :: indices.map .item ∧ (indices = [] → part = name) := by
  unfold steps? at h
  split at h
  · next name pieces hsplit =>
    obtain ⟨-, hindices⟩ := Option.ite_none_right_eq_some.1 h
    obtain ⟨indices, hread, rfl⟩ := Option.map_eq_some_iff.1 hindices
    refine ⟨name, indices, rfl, ?_⟩
    rintro rfl
    cases pieces with
    | nil =>
      rw [← Text.intercalate_splitOn '[' part, hsplit]
      simp [List.intercalate]
    | cons piece pieces =>
      rw [List.mapM_cons] at hread
      obtain ⟨i, -, hread⟩ := Option.bind_eq_some_iff.1 hread
      obtain ⟨is, -, hread⟩ := Option.bind_eq_some_iff.1 hread
      cases hread
  · cases h

theorem exists_of_mapM_steps? {part : List Char} {parts : List (List Char)}
    {paths : List (List Step)} (h : (part :: parts).mapM steps? = some paths) :
    ∃ steps rest, steps? part = some steps ∧ parts.mapM steps? = some rest ∧ paths = steps :: rest := by
  rw [List.mapM_cons] at h
  obtain ⟨steps, hsteps, h⟩ := Option.bind_eq_some_iff.1 h
  obtain ⟨rest, hrest, h⟩ := Option.bind_eq_some_iff.1 h
  exact ⟨steps, rest, hsteps, hrest, (Option.some.inj h).symm⟩

/-- At the top there is a table. -/
theorem exists_pathOf_eq (key : String) : ∃ name more, pathOf key = .key name :: more := by
  unfold pathOf
  split
  · next paths hpaths =>
    cases hparts : Text.splitOn '.' key.toList with
    | nil => exact absurd hparts (Text.splitOn_ne_nil '.' key.toList)
    | cons part parts =>
      rw [hparts] at hpaths
      obtain ⟨steps, rest, hsteps, -, rfl⟩ := exists_of_mapM_steps? hpaths
      obtain ⟨name, indices, rfl, -⟩ := exists_of_steps? hsteps
      exact ⟨_, _, rfl⟩
  · exact ⟨_, _, rfl⟩

theorem map_ofList_eq_of_flatten {parts : List (List Char)} {paths : List (List Step)}
    {names : List String} (h : parts.mapM steps? = some paths)
    (hnames : paths.flatten = names.map .key) : parts.map String.ofList = names := by
  induction parts generalizing paths names with
  | nil =>
    cases h
    exact (List.map_eq_nil_iff.1 hnames.symm).symm
  | cons part parts ih =>
    obtain ⟨steps, rest, hsteps, hrest, rfl⟩ := exists_of_mapM_steps? h
    obtain ⟨name, indices, rfl, hpart⟩ := exists_of_steps? hsteps
    obtain ⟨first, names, rfl, hfirst, hmore⟩ := List.map_eq_cons_iff.1 hnames.symm
    cases indices with
    | nil => rw [List.map_cons, hpart rfl, ih hrest hmore.symm, Step.key.inj hfirst]
    | cons i indices =>
      obtain ⟨_, _, -, hitem, -⟩ := List.map_eq_cons_iff.1 hmore
      cases hitem

/-- A path of names alone is these names with points between them. -/
theorem toList_of_pathOf {key : String} (names : List String) (h : pathOf key = names.map .key) :
    key.toList = List.intercalate ['.'] (names.map String.toList) := by
  unfold pathOf at h
  split at h
  · next paths hpaths =>
    rw [← map_ofList_eq_of_flatten hpaths h, List.map_map]
    have hid : String.toList ∘ String.ofList = id := funext fun _ => String.toList_ofList
    rw [hid, List.map_id, Text.intercalate_splitOn]
  · obtain ⟨name, rest, rfl, hname, hnil⟩ := List.map_eq_cons_iff.1 h.symm
    obtain rfl := List.map_eq_nil_iff.1 hnil
    rw [Step.key.inj hname]
    simp [List.intercalate]

theorem eq_of_pathOf {key name : String} (h : pathOf key = [.key name]) : key = name := by
  rw [← String.toList_inj, toList_of_pathOf [name] h]
  simp [List.intercalate]

/-- The path leads to the section as a whole, or to an item of it. -/
def coversSection (name : String) : List Step → Bool
  | [.key first] => first = name
  | .key first :: .item _ :: _ => first = name
  | _ => false

theorem coversSection_section (name : String) : coversSection name [.key name] = true :=
  decide_eq_true rfl

theorem coversSection_of_ne {name first : String} (h : name ≠ first) (more : List Step) :
    coversSection name (.key first :: more) = false := by
  unfold coversSection
  split <;> grind

/-- A path into a section leads to one of its fields if it does not cover the section. -/
theorem exists_field_of_not_coversSection {name : String} {more : List Step}
    (h : coversSection name (.key name :: more) = false) :
    ∃ field rest, more = .key field :: rest := by
  cases more with
  | nil => exact absurd (coversSection_section name) (Bool.eq_false_iff.1 h)
  | cons step rest =>
    cases step with
    | key field => exact ⟨field, rest, rfl⟩
    | item i => exact absurd h (by simp [coversSection])

end Layers

namespace Environment

theorem eq_of_pointed {cs : List Char} (h : '.' ∉ pointed cs) : pointed cs = cs := by
  induction cs using pointed.induct with
  | case1 rest => simp [pointed] at h
  | case2 c rest hc ih =>
    rw [pointed] at h ⊢
    · rw [ih fun hm => h (List.mem_cons_of_mem c hm)]
    all_goals exact hc
  | case3 => rfl

/-- A single point has come from two underscores or from a point. -/
theorem pointed_eq_iff {a b rest : List Char} (ha : '.' ∉ a ∧ '_' ∉ a)
    (hb : '.' ∉ b ∧ pointed b = b) :
    pointed rest = a ++ '.' :: b ↔ rest = a ++ '_' :: '_' :: b ∨ rest = a ++ '.' :: b := by
  have hrest (r : List Char) : pointed r = b ↔ r = b := by
    refine ⟨fun h => ?_, fun h => h ▸ hb.2⟩
    rw [← h, eq_of_pointed (h ▸ hb.1)]
  induction a generalizing rest with
  | nil =>
    fun_cases pointed rest with
    | case1 r => simp [hrest]
    | case2 c r hc =>
      have hno : c :: r ≠ '_' :: '_' :: b := by
        rintro ⟨⟩
        exact hc b rfl rfl
      simp [hrest, hno]
    | case3 => simp
  | cons d a ih =>
    have hdot : d ≠ '.' := fun h => ha.1 (by simp [h])
    have hscore : d ≠ '_' := fun h => ha.2 (by simp [h])
    have ha' : '.' ∉ a ∧ '_' ∉ a :=
      ⟨fun h => ha.1 (List.mem_cons_of_mem d h), fun h => ha.2 (List.mem_cons_of_mem d h)⟩
    fun_cases pointed rest with
    | case1 r => simp [hdot.symm, hscore.symm]
    | case2 c r hc =>
      simp only [List.cons_append, List.cons.injEq, ih ha']
      tauto
    | case3 => simp

end Environment

namespace Setting

/-- The name of a variable, after its prefix, stands for a key just as it is spelled. -/
theorem key?_eq_some_iff (k : Setting) (name : String) :
    Environment.key? name = some k.name ↔ k.spelledBy name = true := by
  have hsection : '.' ∉ k.sectionName.toList ∧ '_' ∉ k.sectionName.toList := by
    cases k <;> decide
  have hfield : '.' ∉ k.fieldName.toList ∧
      Environment.pointed k.fieldName.toList = k.fieldName.toList := by
    cases k <;> decide
  have hpath : k.name.toList = k.sectionName.toList ++ '.' :: k.fieldName.toList := by
    simp [Setting.name]
  have hkey (rest : List Char) :
      String.ofList (Environment.pointed rest) = k.name ↔
        rest = k.sectionName.toList ++ '_' :: '_' :: k.fieldName.toList ∨
          rest = k.sectionName.toList ++ '.' :: k.fieldName.toList := by
    rw [← Environment.pointed_eq_iff hsection hfield, ← hpath, ← String.toList_inj,
      String.toList_ofList]
  simp only [Environment.key?, Option.map_eq_some_iff, Text.readChars_eq_some_iff, hkey,
    spelledBy, variableName, Bool.or_eq_true, decide_eq_true_iff, List.append_assoc]
  constructor
  · rintro ⟨rest, hname, rfl | rfl⟩
    · exact .inl hname
    · exact .inr hname
  · rintro (hname | hname)
    · exact ⟨_, hname, .inl rfl⟩
    · exact ⟨_, hname, .inr rfl⟩

theorem pathOf_sectionName (k : Setting) : Layers.pathOf k.sectionName = [.key k.sectionName] := by
  cases k <;> decide

theorem pathOf_eq_iff (k : Setting) (key : String) : Layers.pathOf key = k.keyPath ↔ key = k.name := by
  constructor
  · intro h
    rw [← String.toList_inj, Layers.toList_of_pathOf [k.sectionName, k.fieldName] h]
    simp [List.intercalate, Setting.name]
  · rintro rfl
    cases k <;> decide

end Setting

end GracefulDrain
