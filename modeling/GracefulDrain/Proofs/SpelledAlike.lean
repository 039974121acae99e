import Mathlib
import GracefulDrain.Proofs.SetKey

namespace GracefulDrain

/-- How a variable's value spells the datum. -/
def Datum.plain : Datum → String
  | number n => toString n
  | text s => s

namespace Environment

/-- A text that begins with no letter is tried as a number first. -/
theorem guess_of_head? {s : String} {c : Char} (hs : s.toList.head? = some c)
    (hc : c.isAlpha = false) :
    guess s =
      match Number.signed64? s.toList with
      | some i => .integer i
      | none =>
        match Number.binary64? s.toList with
        | some x => .real x
        | none => .text s := by
  have hword {word : String} (h : String.ofList (s.toList.map Char.toLower) = word) :
      ∀ d ∈ word.toList.head?, d.isAlpha = false := by
    rw [← h, String.toList_ofList, List.head?_map, hs]
    rintro d ⟨⟩
    rw [Char.isAlpha_toLower_eq_isAlpha, hc]
  unfold guess
  split
  · next h => exact absurd (hword h 't' rfl) (by decide)
  · next h => exact absurd (hword h 'f' rfl) (by decide)
  · rfl

theorem guess_number {n : Nat} (hn : n < 2 ^ 63) : guess (toString n) = .integer n := by
  have hlist : (toString n).toList = Nat.toDigits 10 n := by simp
  obtain ⟨c, cs, hcs⟩ := List.exists_cons_of_ne_nil (Nat.toDigits_ne_nil (n := n) (b := 10))
  have hdigit : c.isDigit = true := Number.digits_toDigits n c (by simp [hcs])
  have hletter : c.isAlpha = false := by
    grind [Char.isDigit, Char.isAlpha, Char.isUpper, Char.isLower]
  rw [guess_of_head? (by rw [hlist, hcs]; rfl) hletter, hlist, Number.signed64?_toDigits hn]

theorem binary64?_slash (cs : List Char) : Number.binary64? ('/' :: cs) = none := by
  have hword (word : String) (h : word.toList.head? ≠ some '/') :
      String.ofList (('/' :: cs).map Char.toLower) ≠ word := by
    rintro rfl
    exact h (by rw [String.toList_ofList]; rfl)
  have hsplit : Number.splitSign ('/' :: cs) = (false, '/' :: cs) := rfl
  have hfraction : Number.fraction? false ('/' :: cs) = none := rfl
  simp only [Number.binary64?, hsplit, hfraction]
  rw [if_neg (hword _ (by decide)), if_neg]
  rintro (h | h)
  · exact hword _ (by decide) h
  · exact hword _ (by decide) h

theorem guess_absolute {s : String} (hs : s.toList.head? = some '/') : guess s = .text s := by
  obtain ⟨cs, hcs⟩ := List.head?_eq_some_iff.1 hs
  have hsigned : Number.signed64? ('/' :: cs) = none := rfl
  rw [guess_of_head? hs (by decide), hcs, hsigned, binary64?_slash]

theorem guess_plain {k : Setting} {d : Datum} (h : k.Takes d) : guess d.plain = d.value := by
  cases d with
  | number n => exact guess_number h.lt
  | text s => exact guess_absolute h.absolute

end Environment

namespace Toml.Outline

variable {doc : Outline} {k : Setting} {d : Datum}

/-- The document gives the key's field the datum. -/
def Sets (doc : Outline) (k : Setting) (d : Datum) : Prop :=
  ∃ s ∈ doc, s.1 = k.sectionName ∧ (k.fieldName, d) ∈ s.2

theorem Proper.entry?_entries (h : doc.Proper) (hsets : doc.Sets k d) :
    k.entry? doc.entries = some d.value := by
  obtain ⟨⟨name, fields⟩, hs, rfl, hd⟩ := hsets
  obtain ⟨hnodup, hkeys⟩ := keysDistinct_parse h.parse_text
  have hmem : (k.sectionName, .table (fields.map fun a => (a.1, a.2.value))) ∈ doc.entries :=
    List.mem_map.2 ⟨_, hs, rfl⟩
  rw [Setting.entry?, Value.lookup_of_mem hnodup hmem]
  exact Value.lookup_of_mem (hkeys _ hmem) (List.mem_map.2 ⟨_, hd, rfl⟩)

theorem pathOf_bare {name : String} (h : Bare name) : Layers.pathOf name = [.key name] := by
  have hpoint : '.' ∉ name.toList := fun hmem => absurd (h.chars _ hmem) (by decide)
  have hbracket : '[' ∉ name.toList := fun hmem => absurd (h.chars _ hmem) (by decide)
  simp only [Layers.pathOf, Text.splitOn_of_not_mem hpoint, List.mapM_cons, List.mapM_nil,
    Layers.steps?, Text.splitOn_of_not_mem hbracket]
  by_cases hname : (!name.toList.isEmpty && name.toList.all Layers.isNameChar) = true
  · rw [if_pos hname]
    simp
  · rw [if_neg hname]
    rfl

theorem Proper.plainFile_entries (h : doc.Proper) : Layers.PlainFile doc.entries := by
  intro e he k hhead
  obtain ⟨⟨name, fields⟩, hs, rfl⟩ := List.mem_map.1 he
  rw [pathOf_bare (h.bare _ hs)] at hhead
  refine ⟨Value.Step.key.inj (Option.some.inj hhead), rfl, fun f hf => ?_⟩
  obtain ⟨a, -, rfl⟩ := List.mem_map.1 hf
  exact a.2.isTable_value

theorem Proper.gives_entries (h : doc.Proper) (k : Setting) :
    Layers.Gives k (k.entry? doc.entries) doc.entries := by
  obtain ⟨hnodup, hkeys⟩ := keysDistinct_parse h.parse_text
  exact Layers.gives_of_plainFile hnodup hkeys h.plainFile_entries

end Toml.Outline

namespace Load

theorem eq_ok_of_conclude {reading : Except (List String) AppConfig} {c : AppConfig}
    (h : conclude reading = .ok c) : reading = .ok c := by
  cases reading with
  | error keys => cases h
  | ok config =>
    rw [conclude] at h
    split at h
    · cases h
    · rw [Except.ok.inj h]

namespace Sources

theorem defaultsFile_of_outline {s : Sources} {doc : Toml.Outline} (h : doc.Proper)
    (hfile : s.files.configFile? (FileTree.join s.directory "default") =
      some (.toml, String.ofList doc.text)) : s.defaultsFile = .ok doc.entries := by
  rw [defaultsFile, fileEntries, hfile]
  simp only [FileFormat.toml, String.toList_ofList, h.parse_text]

theorem reading_of_merged {s : Sources} {root : Value} (h : s.merged = .ok root) :
    s.reading = .ok (Conversions.lenient.app root) := by
  rw [reading, h]
  rfl

theorem reading_of_error {s : Sources} {e : LoadError} (h : s.merged = .error e) :
    s.reading = .error e := by
  rw [reading, h]
  rfl

/-- Both read the same but for the key: other variables, and what the files hold besides. -/
structure SameBut (k : Setting) (s t : Sources) : Prop where
  environment : s.environment.bindings.filter (fun b => !k.spelledBy b.1) =
    t.environment.bindings.filter fun b => !k.spelledBy b.1
  defaults : s.defaultsFile.map k.without = t.defaultsFile.map k.without
  profile : s.profileFile.map k.without = t.profileFile.map k.without

/-- A variable sets the key to the datum's text, and no other variable leads there; what the files
say of the key is overridden. -/
structure ByVariable (k : Setting) (d : Datum) (s : Sources) : Prop where
  spelled : ∃ b ∈ s.environment.bindings, k.spelledBy b.1 = true
  only : s.environment.Gives k (some d.plain)

/-- The file of defaults sets the key to the datum, and no other source sets it to something else. -/
structure ByFile (k : Setting) (d : Datum) (s : Sources) : Prop where
  given : ∃ entries ∈ s.defaultsFile.toOption, k.entry? entries = some d.value
  defaults : ∀ entries ∈ s.defaultsFile.toOption, Layers.Gives k (some d.value) entries
  profile : ∀ entries ∈ s.profileFile.toOption, Layers.Gives k (some d.value) entries
  environment : s.environment.Gives k none

/-- No source says anything of the key. -/
structure Unset (k : Setting) (s : Sources) : Prop where
  defaults : ∀ entries ∈ s.defaultsFile.toOption, Layers.Gives k none entries
  profile : ∀ entries ∈ s.profileFile.toOption, Layers.Gives k none entries
  environment : s.environment.Gives k none

variable {k : Setting} {d : Datum} {s t : Sources} {root : Value}

theorem exists_of_merged (h : s.merged = .ok root) :
    ∃ defaults ∈ s.defaultsFile.toOption, ∃ profiled ∈ s.profileFile.toOption,
      root = Layers.addSource (Layers.addSource (Layers.addSource .emptyTable defaults) profiled)
        s.environment.settings := by
  rw [merged] at h
  cases hdefaults : s.defaultsFile with
  | error e =>
    rw [hdefaults] at h
    cases h
  | ok defaults =>
    cases hprofile : s.profileFile with
    | error e =>
      rw [hdefaults, hprofile] at h
      cases h
    | ok profiled =>
      rw [hdefaults, hprofile] at h
      exact ⟨defaults, rfl, profiled, rfl, (Except.ok.inj h).symm⟩

theorem ByVariable.valueAt (h : s.ByVariable k d) (ht : k.Takes d) (hroot : s.merged = .ok root) :
    Layers.valueAt root k = some d.value := by
  obtain ⟨defaults, -, profiled, -, rfl⟩ := exists_of_merged hroot
  have hgives : Layers.Gives k (some d.value) s.environment.settings := by
    have := h.only.settings
    rwa [Option.map_some, Environment.guess_plain ht] at this
  rw [Layers.valueAt_addGiven d.said_isTable hgives,
    if_pos (Environment.exists_names_of_spelledBy h.spelled)]

theorem ByFile.valueAt (h : s.ByFile k d) (hroot : s.merged = .ok root) :
    Layers.valueAt root k = some d.value := by
  obtain ⟨defaults, hdefaults, profiled, hprofiled, rfl⟩ := exists_of_merged hroot
  obtain ⟨entries, hentries, hentry⟩ := h.given
  obtain rfl := Option.mem_unique hentries hdefaults
  rw [h.environment.settings.valueAt_of_none]
  refine (h.profile profiled hprofiled).keeps d.said_isTable ?_
  rw [Layers.valueAt_addGiven d.said_isTable (h.defaults entries hdefaults),
    if_pos (Layers.exists_names_of_entry? hentry)]

theorem Unset.valueAt (h : s.Unset k) (hroot : s.merged = .ok root) :
    Layers.valueAt root k = none := by
  obtain ⟨defaults, hdefaults, profiled, hprofiled, rfl⟩ := exists_of_merged hroot
  rw [h.environment.settings.valueAt_of_none, (h.profile profiled hprofiled).valueAt_of_none,
    (h.defaults defaults hdefaults).valueAt_of_none]
  rfl

theorem eq_of_map_eq {ε α β : Type} {f : α → β} {x y : Except ε α} (h : x.map f = y.map f) :
    (∃ e, x = .error e ∧ y = .error e) ∨ ∃ a b, x = .ok a ∧ y = .ok b ∧ f a = f b := by
  cases x with
  | error e =>
    cases y with
    | error e' =>
      cases h
      exact .inl ⟨e, rfl, rfl⟩
    | ok b => cases h
  | ok a =>
    cases y with
    | error e' => cases h
    | ok b => exact .inr ⟨a, b, rfl, rfl, Except.ok.inj h⟩

/-- Either a file is malformed for both, or what they merge agrees but for the key. -/
theorem SameBut.agreeOff (h : SameBut k s t) {said : Option String}
    (hs : s.environment.Gives k said) (ht : t.ByFile k d) :
    (∃ e, s.merged = .error e ∧ t.merged = .error e) ∨
      ∃ root root', s.merged = .ok root ∧ t.merged = .ok root' ∧ Layers.AgreeOff k root root' := by
  rcases eq_of_map_eq h.defaults with ⟨e, hse, hte⟩ | ⟨ds, ds', hsd, htd, hdefaults⟩
  · exact .inl ⟨e, by rw [merged, hse]; rfl, by rw [merged, hte]; rfl⟩
  rcases eq_of_map_eq h.profile with ⟨e, hse, hte⟩ | ⟨ps, ps', hsp, htp, hprofile⟩
  · exact .inl ⟨e, by rw [merged, hsd, hse]; rfl, by rw [merged, htd, hte]; rfl⟩
  have hfirst : Layers.LeavesTable k ds' := (ht.defaults ds' (by rw [htd]; rfl)).leavesTable
  have hsecond : Layers.LeavesTable k ps' := (ht.profile ps' (by rw [htp]; rfl)).leavesTable
  refine .inr ⟨_, _, by rw [merged, hsd, hsp]; rfl, by rw [merged, htd, htp]; rfl, ?_⟩
  exact (((Layers.tabled_emptyTable k).refl.addFile hfirst hdefaults).addFile hsecond
    hprofile).addEnvironment hs.notSection ht.environment.notSection h.environment

theorem SameBut.load_eq (h : SameBut k s t) (ht : k.Takes d) (hs : s.ByVariable k d)
    (hfile : t.ByFile k d) : s.load = t.load := by
  rw [load_eq_bind, load_eq_bind]
  rcases h.agreeOff hs.only hfile with ⟨e, hse, hte⟩ | ⟨root, root', hsroot, htroot, hagree⟩
  · rw [reading_of_error hse, reading_of_error hte]
  · have hvalue : Layers.valueAt root k = Layers.valueAt root' k :=
      (hs.valueAt ht hsroot).trans (hfile.valueAt htroot).symm
    rw [reading_of_merged hsroot, reading_of_merged htroot, Conversions.app_congr hagree hvalue]

theorem ByFile.datum?_of_load (h : t.ByFile k d) (ht : k.Takes d) {c : AppConfig}
    (hload : t.load = .ok c) : k.datum? (c.field k) = some d := by
  have hrefl : SameBut k t t := ⟨rfl, rfl, rfl⟩
  rw [load_eq_bind] at hload
  rcases hrefl.agreeOff h.environment h with ⟨e, he, -⟩ | ⟨root, root', hroot, -, hagree⟩
  · rw [reading_of_error he] at hload
    cases hload
  · rw [reading_of_merged hroot] at hload
    have hfield := Conversions.convert?_of_app hagree.left (h.valueAt hroot)
      (eq_ok_of_conclude hload)
    exact Setting.datum?_of_ofDatum? ht ((Setting.convert?_value ht).symm.trans hfield)

theorem SameBut.load_eq_set (h : SameBut k s t) (ht : k.Takes d) (hs : s.Unset k)
    (hfile : t.ByFile k d) {x : k.Field} (hx : k.ofDatum? d = some x) :
    t.load = s.reading >>= fun reading => conclude (reading.map (·.set k x)) := by
  rw [load_eq_bind]
  rcases h.agreeOff hs.environment hfile with ⟨e, hse, hte⟩ | ⟨bare, root, hbare, hroot, hagree⟩
  · rw [reading_of_error hte, reading_of_error hse]
    rfl
  · rw [reading_of_merged hroot, reading_of_merged hbare, Conversions.app_of_given hagree.symm
      (hfile.valueAt hroot) (hs.valueAt hbare) ((Setting.convert?_value ht).trans hx)]
    rfl

theorem SameBut.exists_load_eq_error (h : SameBut k s t) (ht : k.Takes d) (hs : s.Unset k)
    (hfile : t.ByFile k d) (hx : k.ofDatum? d = none) :
    ∃ keys, k.name ∈ keys ∧
      t.load = s.reading >>= fun _ => .error (@LoadError.unreadableValue keys) := by
  rw [load_eq_bind]
  rcases h.agreeOff hs.environment hfile with ⟨e, hse, hte⟩ | ⟨bare, root, hbare, hroot, hagree⟩
  · refine ⟨[k.name], List.mem_singleton_self _, ?_⟩
    rw [reading_of_error hte, reading_of_error hse]
    rfl
  · have hconvert := (Setting.convert?_value ht).trans hx
    refine ⟨_, Conversions.mem_faults_of_given hagree.right (hfile.valueAt hroot) hconvert, ?_⟩
    rw [reading_of_merged hroot, reading_of_merged hbare,
      Conversions.app_eq_error_of_given hagree.right (hfile.valueAt hroot) hconvert]
    rfl

/-- A variable or the file of defaults may set a key: the load is the same, and a configuration that is
loaded holds the value. What is checked is what is read without the key, with the value put in its
field; if the field cannot hold it, the key is reported. -/
theorem load_spelled_alike (ht : k.Takes d) :
    (∀ doc : Toml.Outline, doc.Proper → doc.Sets k d → ∀ s : Sources,
      s.files.configFile? (FileTree.join s.directory "default") =
          some (.toml, String.ofList doc.text) →
        ∃ entries, s.defaultsFile = .ok entries ∧ k.entry? entries = some d.value ∧
          Layers.Gives k (some d.value) entries) ∧
    ∀ named filed : Sources, named.ByVariable k d → filed.ByFile k d → SameBut k named filed →
      named.load = filed.load ∧ (∀ c, named.load = .ok c → k.datum? (c.field k) = some d) ∧
        ∀ base : Sources, base.Unset k → SameBut k base filed →
          (∀ x, k.ofDatum? d = some x →
            named.load = base.reading >>= fun reading => conclude (reading.map (·.set k x))) ∧
          (k.ofDatum? d = none → ∃ keys, k.name ∈ keys ∧
            named.load = base.reading >>= fun _ => .error (@LoadError.unreadableValue keys)) := by
  constructor
  · intro doc hdoc hsets s hfile
    have hentry := hdoc.entry?_entries hsets
    exact ⟨doc.entries, defaultsFile_of_outline hdoc hfile, hentry, hentry ▸ hdoc.gives_entries k⟩
  · intro named filed hnamed hfiled hsame
    have hload := hsame.load_eq ht hnamed hfiled
    rw [hload]
    exact ⟨rfl, fun c hc => hfiled.datum?_of_load ht hc, fun base hbase hbsame =>
      ⟨fun x hx => hbsame.load_eq_set ht hbase hfiled hx,
        fun hx => hbsame.exists_load_eq_error ht hbase hfiled hx⟩⟩

/-- A port in a variable, and in a document that also says something else. -/
theorem load_spelled_alike_port :
    let health : Toml.Outline := [("health", [("path", .text "/up")])]
    let doc : Toml.Outline := ("server", [("port", .number 9000)]) :: health
    let sources (doc : Toml.Outline) (bindings : List (String × String)) : Sources :=
      ⟨.ofPaths [("/etc/lbdrain/default.toml", String.ofList doc.text)], ⟨bindings⟩, "/etc/lbdrain"⟩
    let named := sources health [("LBDRAIN__SERVER__PORT", "9000")]
    let filed := sources doc []
    let base := sources health []
    Setting.port.Takes (.number 9000) ∧ doc.Proper ∧ doc.Sets .port (.number 9000) ∧
      named.ByVariable .port (.number 9000) ∧ filed.ByFile .port (.number 9000) ∧
      SameBut .port named filed ∧ base.Unset .port ∧ SameBut .port base filed ∧
      named.load = filed.load ∧
      (named.load = base.reading >>= fun reading => conclude (reading.map (·.set .port 9000))) ∧
      named.load = .ok { AppConfig.default with
        server := { ServerConfig.default with port := 9000 }
        health := { HealthConfig.default with path := "/up" } } := by
  intro health doc sources named filed base
  have ht : Setting.port.Takes (.number 9000) := (by decide : 9000 < 2 ^ 63)
  have hhealth : health.Proper := by decide +kernel
  have hdoc : doc.Proper := by decide +kernel
  have hsets : doc.Sets .port (.number 9000) := ⟨_, List.mem_cons_self, rfl, List.mem_cons_self⟩
  have hdocument : filed.files.configFile? (FileTree.join filed.directory "default") =
      some (.toml, String.ofList doc.text) := FileTree.configFile?_ofPaths (by decide +kernel)
  have hnamed : named.defaultsFile = .ok health.entries :=
    defaultsFile_of_outline hhealth (FileTree.configFile?_ofPaths (by decide +kernel))
  have hfiled : filed.defaultsFile = .ok doc.entries := defaultsFile_of_outline hdoc hdocument
  have hbase : base.defaultsFile = .ok health.entries := hnamed
  have hnprofile : named.profileFile = .ok [] :=
    fileEntries_of_missing (Option.isNone_iff_eq_none.1 (by decide +kernel))
  have hfprofile : filed.profileFile = .ok [] :=
    fileEntries_of_missing (Option.isNone_iff_eq_none.1 (by decide +kernel))
  have hbprofile : base.profileFile = .ok [] := hnprofile
  have hbyVariable : named.ByVariable .port (.number 9000) :=
    ⟨⟨_, List.mem_cons_self, by decide +kernel⟩, by decide +kernel⟩
  obtain ⟨hwritten, hspelled⟩ := load_spelled_alike ht
  have hbyFile : filed.ByFile .port (.number 9000) := by
    obtain ⟨entries, hentries, hentry, hgives⟩ := hwritten doc hdoc hsets filed hdocument
    refine ⟨⟨entries, by rw [hentries]; rfl, hentry⟩, ?_, ?_, nofun⟩
    · rw [hentries]
      rintro entries ⟨⟩
      exact hgives
    · rw [hfprofile]
      rintro entries ⟨⟩
      nofun
  have hsame : SameBut .port named filed :=
    ⟨by decide +kernel, by rw [hnamed, hfiled]; rfl, by rw [hnprofile, hfprofile]⟩
  have hunset : base.Unset .port := by
    refine ⟨?_, ?_, nofun⟩
    · rw [hbase]
      rintro entries ⟨⟩
      exact hhealth.gives_entries .port
    · rw [hbprofile]
      rintro entries ⟨⟩
      nofun
  have hbsame : SameBut .port base filed :=
    ⟨by decide +kernel, by rw [hbase, hfiled]; rfl, by rw [hbprofile, hfprofile]⟩
  obtain ⟨hload, -, hput⟩ := hspelled named filed hbyVariable hbyFile hsame
  exact ⟨ht, hdoc, hsets, hbyVariable, hbyFile, hsame, hunset, hbsame, hload,
    (hput base hunset hbsame).1 9000 rfl, by decide +kernel⟩

end Sources

end Load

end GracefulDrain
