import Mathlib
import GracefulDrain.Proofs.SingleKey
import GracefulDrain.Proofs.WrittenDocument

namespace GracefulDrain

namespace AppConfig

/-- The configuration with another value in one field. -/
def set (c : AppConfig) (k : Setting) (x : k.Field) : AppConfig :=
  .ofFields (Function.update c.field k x)

end AppConfig

namespace Conversions
open Layers

variable {c : Conversions} {k : Setting} {root root' bare v : Value} {x : k.Field}

theorem settingOf_of_ne (h : AgreeOff k root root') {s : Setting} (hs : s ≠ k) :
    root.settingOf s = root'.settingOf s := by
  by_cases hsection : s.sectionName = k.sectionName
  · rw [Value.settingOf_of_tabled (h.left.congr hsection),
      Value.settingOf_of_tabled (h.right.congr hsection), valueAt_eq, valueAt_eq,
      fieldsAt_congr hsection, fieldsAt_congr hsection]
    exact h.fields _ (Setting.fieldName_injective.ne hs)
  · rw [Value.settingOf, Value.settingOf, Value.sectionOf_of_isTable h.left.whole,
      Value.sectionOf_of_isTable h.right.whole, h.sections _ hsection]

/-- The same cannot be converted, if that holds of the key. -/
theorem faults_congr (h : AgreeOff k root root')
    (hk : (c.read? k (valueAt root k)).isNone = (c.read? k (valueAt root' k)).isNone) :
    c.faults root = c.faults root' := by
  rw [faults_of_isTable h.left.whole, faults_of_isTable h.right.whole]
  refine List.flatMap_congr fun name _ => ?_
  by_cases hname : name = k.sectionName
  · subst hname
    rw [faults_section k h.left, faults_section k h.right]
    refine faultsIn_congr _ fun s hs => ?_
    by_cases hsk : s = k
    · subst hsk
      rw [← valueAt_eq, ← valueAt_eq]
      exact hk
    · rw [h.fields _ (Setting.fieldName_injective.ne hsk)]
  · rw [Value.sectionOf_of_isTable h.left.whole, Value.sectionOf_of_isTable h.right.whole,
      h.sections name hname]

theorem app_congr (h : AgreeOff k root root') (hk : valueAt root k = valueAt root' k) :
    c.app root = c.app root' := by
  have hfields : (fun s => c.readD s (root.settingOf s)) = fun s => c.readD s (root'.settingOf s) := by
    funext s
    by_cases hs : s = k
    · subst hs
      rw [Value.settingOf_of_tabled h.left, Value.settingOf_of_tabled h.right, hk]
    · rw [settingOf_of_ne h hs]
  rw [app, app, hfields, faults_congr h (by rw [hk])]

/-- A value that can be converted is put in the field and changes nothing else. -/
theorem app_of_given (h : AgreeOff k root bare) (hgiven : valueAt root k = some v)
    (hnone : valueAt bare k = none) (hx : c.convert? k v = some x) :
    c.app root = (c.app bare).map (·.set k x) := by
  have hread : c.read? k (some v) = some x := hx
  have hfields : (fun s => c.readD s (root.settingOf s)) =
      Function.update (fun s => c.readD s (bare.settingOf s)) k x := by
    funext s
    by_cases hs : s = k
    · subst hs
      rw [Value.settingOf_of_tabled h.left, hgiven, Function.update_self, readD, hread]
      rfl
    · rw [settingOf_of_ne h hs, Function.update_of_ne hs]
  have hfield : (AppConfig.ofFields fun s => c.readD s (bare.settingOf s)).field =
      fun s => c.readD s (bare.settingOf s) := funext (AppConfig.field_ofFields _)
  rw [app, app, hfields, faults_congr h (by rw [hgiven, hnone, hread]; rfl)]
  split
  · rw [Except.map, AppConfig.set, hfield]
  · rfl

theorem mem_faults_of_given (h : Tabled k root) (hgiven : valueAt root k = some v)
    (hv : c.convert? k v = none) : k.name ∈ c.faults root := by
  have hsection : k.sectionName ∈ Setting.sectionNames := by cases k <;> decide
  have hmem : k ∈ Setting.ofSection k.sectionName := Setting.mem_ofSection.2 rfl
  have hread : (c.read? k (Value.lookup k.fieldName (fieldsAt root k))).isNone = true := by
    rw [← valueAt_eq, hgiven, read?, hv]
    rfl
  rw [faults_of_isTable h.whole]
  refine List.mem_flatMap.2 ⟨_, hsection, ?_⟩
  rw [faults_section k h]
  exact List.mem_map_of_mem (List.mem_filter.2 ⟨hmem, hread⟩)

/-- A value that cannot be converted is reported with its key. -/
theorem app_eq_error_of_given (h : Tabled k root) (hgiven : valueAt root k = some v)
    (hv : c.convert? k v = none) : c.app root = .error (c.faults root) := by
  refine if_neg fun hempty => ?_
  have hmem := mem_faults_of_given h hgiven hv
  rw [List.isEmpty_iff.1 hempty] at hmem
  cases hmem

theorem convert?_of_app {config : AppConfig} (h : Tabled k root) (hgiven : valueAt root k = some v)
    (happ : c.app root = .ok config) : c.convert? k v = some (config.field k) := by
  cases hv : c.convert? k v with
  | none =>
    rw [app_eq_error_of_given h hgiven hv] at happ
    cases happ
  | some x =>
    have hread : c.read? k (some v) = some x := hv
    rw [app] at happ
    split at happ
    · cases happ
      rw [AppConfig.field_ofFields, Value.settingOf_of_tabled h, hgiven, readD, hread]
      rfl
    · cases happ

end Conversions

namespace Datum

theorem isTable_value (d : Datum) : d.value.isTable = false := by
  cases d <;> rfl

theorem said_isTable (d : Datum) : ∀ v ∈ some d.value, v.isTable = false := by
  rintro v ⟨⟩
  exact d.isTable_value

end Datum

namespace Setting

/-- Keys of numbers take those of a signed word, keys of paths the absolute ones. -/
def Takes : Setting → Datum → Prop
  | port, .number n | shutdownTimeout, .number n | pollInterval, .number n
  | quiescenceWindow, .number n => n < 2 ^ 63
  | path, .text s | metricsPath, .text s => s.toList.head? = some '/'
  | _, _ => False

/-- The datum as the key's field holds it; a port has sixteen bits. -/
def ofDatum? : (k : Setting) → Datum → Option k.Field
  | port, .number n => if n < 2 ^ 16 then some (.ofNat n) else none
  | shutdownTimeout, .number n | pollInterval, .number n | quiescenceWindow, .number n =>
    some (.ofNat n)
  | path, .text s | metricsPath, .text s => some s
  | _, _ => none

/-- What the key's field holds, where that is a number or a text. -/
def datum? : (k : Setting) → k.Field → Option Datum
  | port, n => some (.number n.toNat)
  | shutdownTimeout, n | pollInterval, n | quiescenceWindow, n => some (.number n.toNat)
  | path, s | logLevel, s | logFormat, s | metricsPath, s => some (.text s)
  | host, _ | mode, _ | metricsEnabled, _ => none

variable {k : Setting} {d : Datum} {x : k.Field}

theorem Takes.lt {n : Nat} (h : k.Takes (.number n)) : n < 2 ^ 63 := by
  cases k
  case port | shutdownTimeout | pollInterval | quiescenceWindow => exact h
  all_goals cases h

theorem Takes.absolute {s : String} (h : k.Takes (.text s)) : s.toList.head? = some '/' := by
  cases k
  case path | metricsPath => exact h
  all_goals cases h

theorem convert?_value (h : k.Takes d) :
    Conversions.lenient.convert? k d.value = k.ofDatum? d := by
  cases d with
  | number n =>
    have hn := h.lt
    cases k
    case port =>
      have hword : Conversions.lenient.convert? port (Datum.number n).value =
          (Conversions.naturalUpTo 0xFFFF n).map UInt16.ofNat := rfl
      rw [hword, Conversions.naturalUpTo, ofDatum?]
      by_cases hport : n < 2 ^ 16
      · rw [if_pos hport, if_pos (by omega), Option.map_some]
      · rw [if_neg hport, if_neg (by omega), Option.map_none]
    case shutdownTimeout | pollInterval | quiescenceWindow =>
      have hle : n ≤ 0xFFFFFFFFFFFFFFFF := by omega
      exact congrArg (Option.map UInt64.ofNat) (if_pos hle)
    all_goals cases h
  | text s =>
    cases k
    case path | metricsPath => rfl
    all_goals cases h

theorem datum?_of_ofDatum? (h : k.Takes d) (hx : k.ofDatum? d = some x) : k.datum? x = some d := by
  cases d with
  | number n =>
    have hword : (UInt64.ofNat n).toNat = n :=
      UInt64.toNat_ofNat_of_lt' (h.lt.trans (by decide))
    cases k
    case port =>
      obtain ⟨hn, hvalue⟩ := Option.ite_none_right_eq_some.1 hx
      cases hvalue
      exact congrArg (some ∘ Datum.number) (UInt16.toNat_ofNat_of_lt' hn)
    case shutdownTimeout | pollInterval | quiescenceWindow =>
      cases hx
      exact congrArg (some ∘ Datum.number) hword
    all_goals cases h
  | text s =>
    cases k
    case path | metricsPath =>
      cases hx
      rfl
    all_goals cases h

end Setting

end GracefulDrain
