import Mathlib
import GracefulDrain.Proofs.Layering

/-! A load converts and checks one value for each key, that of its variable, of the profile's file
or of the file of defaults, and nothing that these override. -/
namespace GracefulDrain

namespace Value

theorem sectionOf_of_isTable {root : Value} (h : root.isTable = true) (name : String) :
    root.sectionOf name = lookup name root.entriesOf := by
  cases root <;> first | rfl | cases h

theorem fieldOf_of_isTable {v : Value} (h : v.isTable = true) (k : Setting) :
    v.fieldOf k = lookup k.fieldName v.entriesOf := by
  cases v <;> first | rfl | cases h

theorem nameOf_of_isTable {v : Value} (h : v.isTable = true) (k : Setting) :
    v.nameOf k = k.name := by
  cases v <;> first | rfl | cases h

theorem settingOf_of_tabled {root : Value} {k : Setting} (h : Layers.Tabled k root) :
    root.settingOf k = Layers.valueAt root k := by
  rw [settingOf, sectionOf_of_isTable h.whole, Layers.valueAt, Setting.entry?]
  refine Option.bind_congr fun v hv => ?_
  exact fieldOf_of_isTable (h.ofSection v hv) k

end Value

namespace Conversions

variable (c : Conversions) (value? : Setting → Option Value)

/-- Those of the keys that cannot be converted. -/
def faultsIn (ks : List Setting) : List String :=
  (ks.filter fun k => (c.read? k (value? k)).isNone).map Setting.name

/-- The configuration with these values, and the defaults where there is none. -/
def ofValues : Except (List String) AppConfig :=
  if (c.faultsIn value? Setting.all).isEmpty then .ok (.ofFields fun k => c.readD k (value? k))
  else .error (c.faultsIn value? Setting.all)

variable {c} {root : Value}

theorem isSection_of_isTable {v : Value} (h : v.isTable = true) (size : ℕ) :
    c.isSection size v = true := by
  cases v <;> first | rfl | cases h

/-- A section that is missing is read like an empty table. -/
theorem faults_section (k : Setting) (h : Layers.Tabled k root) :
    ((root.sectionOf k.sectionName).map (c.sectionFaults k.sectionName)).getD [] =
      c.faultsIn (fun s => Value.lookup s.fieldName (Layers.fieldsAt root k))
        (Setting.ofSection k.sectionName) := by
  rw [Value.sectionOf_of_isTable h.whole, Layers.fieldsAt, Value.entryOf]
  cases hsection : Value.lookup k.sectionName root.entriesOf with
  | none => simp [faultsIn, Value.entriesOf, Value.lookup, read?]
  | some v =>
    have hv := h.ofSection v hsection
    rw [Option.map_some, Option.getD_some, sectionFaults, if_pos (isSection_of_isTable hv _)]
    simp only [Value.fieldOf_of_isTable hv, Value.nameOf_of_isTable hv]
    rfl

theorem faults_of_isTable (h : root.isTable = true) :
    c.faults root = Setting.sectionNames.flatMap fun name =>
      ((root.sectionOf name).map (c.sectionFaults name)).getD [] :=
  if_pos (isSection_of_isTable h _)

theorem faultsIn_congr {other? : Setting → Option Value} {ks : List Setting}
    (h : ∀ k ∈ ks, (c.read? k (value? k)).isNone = (c.read? k (other? k)).isNone) :
    c.faultsIn value? ks = c.faultsIn other? ks :=
  congrArg (List.map Setting.name) (List.filter_congr h)

theorem faultsIn_flatMap {α : Type} (l : List α) (f : α → List Setting) :
    c.faultsIn value? (l.flatMap f) = l.flatMap fun a => c.faultsIn value? (f a) := by
  simp only [faultsIn, List.filter_flatMap, List.map_flatMap]

theorem app_of_tabled (h : ∀ k, Layers.Tabled k root) :
    c.app root = c.ofValues (Layers.valueAt root) := by
  have hfaults : c.faults root = c.faultsIn (Layers.valueAt root) Setting.all := by
    rw [faults_of_isTable (h .host).whole, ← Setting.flatMap_ofSection, faultsIn_flatMap]
    refine List.flatMap_congr fun name hname => ?_
    obtain ⟨k, rfl⟩ := Setting.exists_sectionName_eq hname
    rw [faults_section k (h k)]
    refine faultsIn_congr _ fun s hs => ?_
    rw [Layers.valueAt_eq, Layers.fieldsAt_congr (Setting.mem_ofSection.1 hs)]
  have hfields : (fun k => c.readD k (root.settingOf k)) =
      fun k => c.readD k (Layers.valueAt root k) :=
    funext fun k => by rw [Value.settingOf_of_tabled (h k)]
  rw [app, hfaults, hfields, ofValues]

end Conversions

namespace FileTree

/-- Every format reads tables without a key twice, as one that collects them in maps does. -/
def Keyed (t : FileTree) : Prop :=
  ∀ f ∈ t.formats, ∀ text entries, f.read text = some entries →
    (entries.map Prod.fst).Nodup ∧ ∀ e ∈ entries, e.2.KeysDistinct

theorem keyed_of_toml {t : FileTree} (h : ∀ f ∈ t.formats, f = .toml) : t.Keyed := by
  intro f hf text entries hread
  rw [h f hf] at hread
  exact Toml.keysDistinct_parse hread

theorem keyed_ofPaths (files : List (String × String)) : (ofPaths files).Keyed :=
  keyed_of_toml fun _ hf => List.mem_singleton.1 hf

theorem mem_formats_of_configFile? {t : FileTree} {path text : String} {f : FileFormat}
    (h : t.configFile? path = some (f, text)) : f ∈ t.formats := by
  unfold configFile? at h
  split at h
  · obtain ⟨f', hfind, heq⟩ := Option.map_eq_some_iff.1 h
    cases heq
    exact List.mem_of_find?_eq_some hfind
  · obtain ⟨f', hf', hfile⟩ := List.exists_of_findSome?_eq_some h
    obtain ⟨text', -, heq⟩ := Option.map_eq_some_iff.1 hfile
    cases heq
    exact hf'

theorem configFile?_ofPaths {files : List (String × String)} {path text : String}
    (h : ((ofPaths files).configFile? path).map Prod.snd = some text) :
    (ofPaths files).configFile? path = some (.toml, text) := by
  obtain ⟨⟨f, text⟩, hfile, rfl⟩ := Option.map_eq_some_iff.1 h
  rw [hfile, List.mem_singleton.1 (mem_formats_of_configFile? hfile)]

example : (ofPaths [("/etc/prod.toml", "")]).configFile? "../../etc/prod" = some (.toml, "") :=
  configFile?_ofPaths (by decide +kernel)

end FileTree

namespace Load

theorem conclude_ne_malformedFile (reading : Except (List String) AppConfig) :
    conclude reading ≠ .error .malformedFile := by
  cases reading with
  | error keys => nofun
  | ok config =>
    rw [conclude]
    split <;> nofun

section

variable {files : FileTree} {path : String}

theorem eq_malformedFile {e : LoadError} (h : fileEntries files path = .error e) :
    e = .malformedFile := by
  unfold fileEntries at h
  split at h
  · cases h
  · split at h <;> cases h
    rfl

theorem keysDistinct_fileEntries (hkeyed : files.Keyed) {entries : List (String × Value)}
    (h : fileEntries files path = .ok entries) :
    (entries.map Prod.fst).Nodup ∧ ∀ e ∈ entries, e.2.KeysDistinct := by
  unfold fileEntries at h
  split at h
  · cases h
    exact ⟨List.nodup_nil, nofun⟩
  · next hfile =>
    split at h
    · next hread =>
      cases h
      exact hkeyed _ (FileTree.mem_formats_of_configFile? hfile) _ _ hread
    · cases h

theorem fileEntries_of_missing (h : files.configFile? path = none) :
    fileEntries files path = .ok [] := by
  rw [fileEntries, h]

theorem fileEntries_ofPaths {files : List (String × String)} (text : String)
    (h : ((FileTree.ofPaths files).configFile? path).map Prod.snd = some text) :
    fileEntries (.ofPaths files) path =
      match Toml.parse text.toList with
      | some entries => .ok entries
      | none => .error .malformedFile := by
  rw [fileEntries, FileTree.configFile?_ofPaths h]
  rfl

end

/-- What a load from a directory reads. -/
structure Sources where
  files : FileTree
  environment : Environment
  directory : String

namespace Sources

def defaultsFile (s : Sources) : Except LoadError (List (String × Value)) :=
  fileEntries s.files (FileTree.join s.directory "default")

/-- The environment names the profile. -/
def profileFile (s : Sources) : Except LoadError (List (String × Value)) :=
  fileEntries s.files
    (FileTree.join s.directory ((s.environment.get? profileVariable).getD defaultProfile))

def merged (s : Sources) : Except LoadError Value := do
  let defaults ← s.defaultsFile
  let profiled ← s.profileFile
  return Layers.combine [defaults, profiled, s.environment.settings]

/-- The configuration before it is checked. -/
def reading (s : Sources) : Except LoadError (Except (List String) AppConfig) :=
  s.merged.map Conversions.lenient.app

def load (s : Sources) : Except LoadError AppConfig :=
  fromDirectory s.files s.environment s.directory

/-- The value that the sources give a key: its variable comes first, then the profile's file, then
the file of defaults. -/
def chosen (s : Sources) (k : Setting) : Option Value :=
  ((k.assigned? s.environment).map Environment.guess).or
    ((s.profileFile.toOption.bind k.entry?).or (s.defaultsFile.toOption.bind k.entry?))

structure Plain (s : Sources) : Prop where
  keyed : s.files.Keyed
  environment : s.environment.Plain
  defaults : ∀ entries ∈ s.defaultsFile.toOption, Layers.PlainFile entries
  profile : ∀ entries ∈ s.profileFile.toOption, Layers.PlainFile entries

@[mk_iff]
structure WellFormed (s : Sources) : Prop where
  defaults : s.defaultsFile.isOk = true
  profile : s.profileFile.isOk = true

instance (s : Sources) : Decidable s.WellFormed := decidable_of_iff' _ (wellFormed_iff s)

variable {s : Sources} {defaults profiled : List (String × Value)}

theorem load_eq_bind (s : Sources) : s.load = s.reading >>= conclude := by
  have hload : s.load = (do
      let defaults ← s.defaultsFile
      let profiled ← s.profileFile
      accept (Layers.combine [defaults, profiled, s.environment.settings])) := rfl
  rw [hload, reading, merged]
  cases s.defaultsFile with
  | error e => rfl
  | ok defaults => cases s.profileFile <;> rfl

theorem reading_of_ok (hd : s.defaultsFile = .ok defaults) (hp : s.profileFile = .ok profiled) :
    s.reading = .ok (Conversions.lenient.app
      (Layers.combine [defaults, profiled, s.environment.settings])) := by
  rw [reading, merged, hd, hp]
  rfl

theorem load_eq_malformedFile_iff (s : Sources) :
    s.load = .error .malformedFile ↔
      s.defaultsFile = .error .malformedFile ∨ s.profileFile = .error .malformedFile := by
  rw [load_eq_bind]
  cases hd : s.defaultsFile with
  | error e =>
    obtain rfl := eq_malformedFile hd
    rw [reading, merged, hd]
    exact iff_of_true rfl (.inl rfl)
  | ok defaults =>
    cases hp : s.profileFile with
    | error e =>
      obtain rfl := eq_malformedFile hp
      rw [reading, merged, hd, hp]
      exact iff_of_true rfl (.inr rfl)
    | ok profiled =>
      rw [reading_of_ok hd hp]
      exact iff_of_false (conclude_ne_malformedFile _) (by rintro (h | h) <;> cases h)

/-- The merged sources, and what is left under each key. -/
theorem Plain.combine (h : s.Plain) (hd : s.defaultsFile = .ok defaults)
    (hp : s.profileFile = .ok profiled) :
    (∀ k, Layers.Tabled k (Layers.combine [defaults, profiled, s.environment.settings])) ∧
      Layers.valueAt (Layers.combine [defaults, profiled, s.environment.settings]) = s.chosen := by
  have hdefaults := h.defaults defaults (by rw [hd]; rfl)
  have hprofiled := h.profile profiled (by rw [hp]; rfl)
  obtain ⟨hdkeys, hdinner⟩ := keysDistinct_fileEntries h.keyed hd
  obtain ⟨hpkeys, hpinner⟩ := keysDistinct_fileEntries h.keyed hp
  have hcombine : Layers.combine [defaults, profiled, s.environment.settings] =
      Layers.addSource (Layers.addSource (Layers.addSource .emptyTable defaults) profiled)
        s.environment.settings := rfl
  have hempty (k : Setting) : Layers.valueAt .emptyTable k = none := rfl
  rw [hcombine]
  constructor
  · intro k
    have hsettings : Layers.LeavesTable k s.environment.settings :=
      Layers.leavesTable_settings fun b hb key hkey => h.environment.notSection b hb key hkey k
    exact (((Layers.tabled_emptyTable k).addSource hdefaults.leavesTable).addSource
      hprofiled.leavesTable).addSource hsettings
  · funext k
    rw [Layers.valueAt_addVariables h.environment, Layers.valueAt_addFile hpkeys hpinner hprofiled,
      Layers.valueAt_addFile hdkeys hdinner hdefaults, hempty, Option.or_none, chosen, hd, hp]
    rfl

theorem Plain.load_eq_conclude (h : s.Plain) (hs : s.WellFormed) :
    s.load = conclude (Conversions.lenient.ofValues s.chosen) := by
  obtain ⟨hd, hp⟩ := hs
  cases hdefaults : s.defaultsFile with
  | error e =>
    rw [hdefaults] at hd
    cases hd
  | ok defaults =>
    cases hprofiled : s.profileFile with
    | error e =>
      rw [hprofiled] at hp
      cases hp
    | ok profiled =>
      obtain ⟨htabled, hvalues⟩ := h.combine hdefaults hprofiled
      rw [load_eq_bind, reading_of_ok hdefaults hprofiled, Conversions.app_of_tabled htabled, hvalues]
      rfl

/-- What the file of defaults holds under a key that a later source sets is not chosen. -/
theorem chosen_eq_of_overridden {s s' : Sources} (henvironment : s'.environment = s.environment)
    (hprofile : s'.profileFile = s.profileFile)
    (h : ∀ k : Setting, k.assigned? s.environment = none →
      s.profileFile.toOption.bind k.entry? = none →
        s'.defaultsFile.toOption.bind k.entry? = s.defaultsFile.toOption.bind k.entry?) :
    s'.chosen = s.chosen := by
  funext k
  rw [chosen, chosen, henvironment, hprofile]
  cases hassigned : k.assigned? s.environment with
  | some value => simp only [Option.map_some, Option.some_or]
  | none =>
    cases hentry : s.profileFile.toOption.bind k.entry? with
    | some value => simp only [Option.some_or]
    | none => rw [h k hassigned hentry]

end Sources

/-- All that a load from the usual directory reads. -/
structure Setup where
  files : FileTree
  environment : Environment
  /-- The text of the file of assignments. -/
  assignments : String

namespace Setup

def extended (s : Setup) : Environment := Dotenv.extend s.environment s.assignments

def sources (s : Setup) : Sources := ⟨s.files, s.extended, defaultDirectory⟩

def load (s : Setup) : Except LoadError AppConfig := standard s.files s.environment s.assignments

theorem load_eq (s : Setup) : s.load = s.sources.load := rfl

/-- The environment keeps what it has and takes the first assignment of every other name; a file
that exists has to be well formed; and where both are, a load is decided by the values that are
chosen, whatever they override. -/
theorem load_layers (s : Setup) :
    (∀ name, s.extended.get? name =
      (s.environment.get? name).or
        (Dotenv.firstValue? (Dotenv.assignments s.environment s.assignments) name)) ∧
    (s.load = .error .malformedFile ↔
      s.sources.defaultsFile = .error .malformedFile ∨
        s.sources.profileFile = .error .malformedFile) ∧
    (s.sources.Plain → s.sources.WellFormed →
      s.load = conclude (Conversions.lenient.ofValues s.sources.chosen)) ∧
    ∀ s' : Setup, s.sources.Plain → s'.sources.Plain → s.sources.WellFormed →
      s'.sources.WellFormed → s'.sources.chosen = s.sources.chosen → s'.load = s.load := by
  refine ⟨Dotenv.get?_extend s.environment s.assignments, s.sources.load_eq_malformedFile_iff,
    Sources.Plain.load_eq_conclude, fun s' h h' hs hs' hchosen => ?_⟩
  rw [load_eq, load_eq, h'.load_eq_conclude hs', hchosen, h.load_eq_conclude hs]

/-- The file of assignments names a profile in another directory, and a variable that is set keeps its
value; a port that is no number, or not a port, is overridden by the profile's. -/
theorem load_layers_profile :
    let setup (defaults : String) : Setup :=
      ⟨.ofPaths [("config/default.toml", defaults),
          ("/etc/lbdrain/prod.toml", "[server]\nport = 9000\n")],
        ⟨[("LBDRAIN__HEALTH__PATH", "/e")]⟩,
        "LBDRAIN_PROFILE=/etc/lbdrain/prod\nLBDRAIN__HEALTH__PATH=/f\n"⟩
    let s := setup "[server]\nport = \"many\"\n[health]\npath = \"/d\"\n"
    let s' := setup "[server]\nport = 0\n"
    s.sources.Plain ∧ s'.sources.Plain ∧ s.sources.WellFormed ∧ s'.sources.WellFormed ∧
      s'.sources.chosen = s.sources.chosen ∧ s'.load = s.load ∧
      s.load = .ok { AppConfig.default with
        server := { ServerConfig.default with port := 9000 }
        health := { HealthConfig.default with path := "/e" } } := by
  intro setup s s'
  have hs : s.sources.Plain :=
    ⟨FileTree.keyed_ofPaths _, by decide +kernel, by decide +kernel, by decide +kernel⟩
  have hs' : s'.sources.Plain :=
    ⟨FileTree.keyed_ofPaths _, by decide +kernel, by decide +kernel, by decide +kernel⟩
  have hw : s.sources.WellFormed := by decide +kernel
  have hw' : s'.sources.WellFormed := by decide +kernel
  have hset (k : Setting) : (k.assigned? s.extended).isSome ∨
      (s.sources.profileFile.toOption.bind k.entry?).isSome ∨
      (s'.sources.defaultsFile.toOption.bind k.entry?).isNone ∧
        (s.sources.defaultsFile.toOption.bind k.entry?).isNone := by
    revert k
    decide +kernel
  have hprofile : s'.sources.profileFile = s.sources.profileFile :=
    (fileEntries_ofPaths "[server]\nport = 9000\n" (by decide +kernel)).trans
      (fileEntries_ofPaths "[server]\nport = 9000\n" (by decide +kernel)).symm
  have hchosen : s'.sources.chosen = s.sources.chosen := by
    refine Sources.chosen_eq_of_overridden rfl hprofile fun k hassigned hentry => ?_
    rcases hset k with h | h | ⟨h', h⟩
    · rw [show k.assigned? s.extended = none from hassigned] at h
      cases h
    · rw [hentry] at h
      cases h
    · rw [Option.isNone_iff_eq_none.1 h', Option.isNone_iff_eq_none.1 h]
  obtain ⟨-, -, -, hload⟩ := load_layers s
  exact ⟨hs, hs', hw, hw', hchosen, hload s' hs hs' hw hw' hchosen, by decide +kernel⟩

/-- A point also parts the names of a path: in a variable's name, and in a quoted key of a file. No
variable has the name of a key here, and no file holds a section. -/
theorem load_of_points :
    let s : Setup :=
      ⟨.ofPaths [("config/default.toml", "\"health.path\" = \"/x\"\n")],
        ⟨[("LBDRAIN__SERVER.PORT", "9000")]⟩, ""⟩
    s.sources.WellFormed ∧
      (∀ k : Setting, ∀ b ∈ s.extended.bindings,
        b.1.toList.map Char.toLower ≠ k.variableName ['_', '_']) ∧
      (∀ k : Setting, ∀ entries ∈ s.sources.defaultsFile.toOption,
        (Value.lookup k.sectionName entries).isNone = true) ∧
      (∀ entries ∈ s.sources.profileFile.toOption, entries.isEmpty = true) ∧
      conclude (Conversions.lenient.ofValues fun _ => none) = .ok AppConfig.default ∧
      s.load = .ok { AppConfig.default with
        server := { ServerConfig.default with port := 9000 }
        health := { HealthConfig.default with path := "/x" } } := by
  decide +kernel

end Setup

end Load

end GracefulDrain
