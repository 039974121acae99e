import GracefulDrain.Proofs.AcceptedRoutes

/-! A health section is judged on whole milliseconds, the drain settings that it stands for on
durations. Everything that takes a health section accepts the same ones, and reports the same broken
rule of one that it refuses. -/
namespace GracefulDrain

/-- The path is absolute, the polls come before the limit, and nothing is zero. -/
structure HealthConfig.Valid (c : HealthConfig) : Prop where
  absolute : c.path.toList.head? = some '/'
  pollInterval_pos : 0 < c.pollIntervalMs.toNat
  pollInterval_lt : c.pollIntervalMs.toNat < c.shutdownTimeoutMs.toNat
  quiescenceWindow_pos : 0 < c.quiescenceWindowMs.toNat

inductive HealthRule
  | absolutePath
  | positive (name : DurationName)
  | pollShorter
  deriving DecidableEq, Repr

namespace HealthRule

/-- The order in which broken rules are reported. -/
def order : List HealthRule :=
  [absolutePath, positive .shutdownTimeout, positive .pollInterval, positive .quiescenceWindow,
    pollShorter]

def millis (c : HealthConfig) : DurationName → Nat
  | .shutdownTimeout => c.shutdownTimeoutMs.toNat
  | .pollInterval => c.pollIntervalMs.toNat
  | .quiescenceWindow => c.quiescenceWindowMs.toNat

def MetBy (c : HealthConfig) : HealthRule → Prop
  | absolutePath => c.path.toList.head? = some '/'
  | positive name => 0 < millis c name
  | pollShorter => c.pollIntervalMs.toNat < c.shutdownTimeoutMs.toNat

instance (c : HealthConfig) : DecidablePred (MetBy c)
  | absolutePath => inferInstanceAs (Decidable (_ = _))
  | positive _ => inferInstanceAs (Decidable (_ < _))
  | pollShorter => inferInstanceAs (Decidable (_ < _))

/-- What is said of a rule that the section breaks. -/
def fault (c : HealthConfig) : HealthRule → SettingsFault
  | absolutePath => .relativePath c.path
  | positive name => .notPositive name
  | pollShorter => .pollNotShorter

def firstBroken? (c : HealthConfig) : Option HealthRule := order.find? (¬ MetBy c ·)

theorem firstBroken?_eq_none_iff {c : HealthConfig} : firstBroken? c = none ↔ c.Valid := by
  have hmet : firstBroken? c = none ↔ ∀ r ∈ order, MetBy c r := by simp [firstBroken?]
  simp only [hmet, order, List.forall_mem_cons, MetBy, millis]
  constructor
  · rintro ⟨hpath, -, hpoll, hwindow, hlt, -⟩
    exact ⟨hpath, hpoll, hlt, hwindow⟩
  · intro h
    have := h.pollInterval_lt
    exact ⟨h.absolute, by omega, h.pollInterval_pos, h.quiescenceWindow_pos, h.pollInterval_lt,
      nofun⟩

/-- A duration is zero, or not longer than another, as its milliseconds are. -/
theorem fault?_drainSettings (c : HealthConfig) :
    c.drainSettings.fault? = (firstBroken? c).map (fault c) := by
  have hpositive {ms : Nat} : Nanos.ofMillis ms = 0 ↔ ¬ 0 < ms := by
    rw [Nanos.ofMillis_eq_zero, Nat.not_lt, Nat.le_zero]
  have hshorter {a b : Nat} : Nanos.ofMillis a ≤ Nanos.ofMillis b ↔ ¬ b < a := by
    rw [← Nanos.ofMillis_lt_ofMillis, Nat.not_lt]
  have hfind (r : HealthRule) (rs : List HealthRule) :
      ((r :: rs).find? (¬ MetBy c ·)).map (fault c) =
        if ¬ MetBy c r then some (fault c r) else (rs.find? (¬ MetBy c ·)).map (fault c) := by
    by_cases h : MetBy c r <;> simp [h]
  simp only [firstBroken?, order, hfind]
  simp only [DrainSettings.fault?, HealthConfig.drainSettings, hpositive, hshorter]
  rfl

end HealthRule

theorem HealthConfig.valid_drainSettings_iff {c : HealthConfig} :
    c.drainSettings.Valid ↔ c.Valid := by
  rw [← DrainSettings.fault?_eq_none_iff, HealthRule.fault?_drainSettings, Option.map_eq_none_iff,
    HealthRule.firstBroken?_eq_none_iff]

instance (c : HealthConfig) : Decidable c.Valid :=
  decidable_of_iff _ HealthConfig.valid_drainSettings_iff

theorem Coordinator.create_of_fault? {settings : DrainSettings} {f : SettingsFault}
    (h : settings.fault? = some f) (clock : ClockSource) : create settings clock = .error f := by
  unfold create
  split
  · next fault hsome =>
    rw [h] at hsome
    cases hsome
    rfl
  · next hnone =>
    rw [h] at hnone
    cases hnone

theorem Policy.ofHealth_of_fault? {c : HealthConfig} {f : SettingsFault}
    (h : c.drainSettings.fault? = some f) (clock : ClockSource) : ofHealth c clock = .error f := by
  rw [ofHealth, Coordinator.create_of_fault? h]
  rfl

theorem AppConfig.fault?_of_health {config : AppConfig} {f : SettingsFault}
    (hport : config.server.port ≠ 0) (h : config.health.drainSettings.fault? = some f) :
    config.fault? = some (.health f) := by
  rw [fault?, if_neg hport, h]

namespace HealthConfig
open HealthRule

/-- A health section makes a policy, a coordinator and, with the port and the metrics in order, an
accepted configuration just when it is valid; of one that is not, all report the first broken rule. -/
theorem gates_agree (c : HealthConfig) (clock : ClockSource) :
    ((∃ p, Policy.ofHealth c clock = .ok p) ↔ c.Valid) ∧
    (c.Valid → (∃ k, Coordinator.create c.drainSettings clock = .ok k) ∧
      ∃ p, Policy.ofHealth c clock = .ok p ∧ p.path = c.path) ∧
    (¬ c.Valid → ∃ r f, firstBroken? c = some r ∧ r.fault c = f ∧
      c.drainSettings.fault? = some f ∧
      Coordinator.create c.drainSettings clock = .error f ∧ Policy.ofHealth c clock = .error f ∧
      ∀ server observability, server.port ≠ 0 →
        (AppConfig.mk server c observability).fault?.map ConfigFault.message =
          some ("health: " ++ f.error.message)) ∧
    ∀ server observability, (AppConfig.mk server c observability).fault? = none ↔
      server.port ≠ 0 ∧ c.Valid ∧
        ¬ (observability.metricsEnabled ∧ observability.metricsPath = c.path) := by
  have hvalid (h : c.Valid) : ∃ p, Policy.ofHealth c clock = .ok p ∧ p.path = c.path :=
    Policy.exists_ofHealth (valid_drainSettings_iff.2 h) clock
  have hfault (h : ¬ c.Valid) :
      ∃ r, firstBroken? c = some r ∧ c.drainSettings.fault? = some (r.fault c) := by
    rw [← firstBroken?_eq_none_iff] at h
    obtain ⟨r, hr⟩ := Option.ne_none_iff_exists'.1 h
    exact ⟨r, hr, by rw [fault?_drainSettings, hr]; rfl⟩
  refine ⟨⟨?_, ?_⟩, ?_, ?_, ?_⟩
  · rintro ⟨p, hp⟩
    by_contra h
    obtain ⟨r, -, hr⟩ := hfault h
    rw [Policy.ofHealth_of_fault? hr] at hp
    cases hp
  · intro h
    obtain ⟨p, hp, -⟩ := hvalid h
    exact ⟨p, hp⟩
  · intro h
    have hnone := DrainSettings.fault?_eq_none_iff.2 (valid_drainSettings_iff.2 h)
    exact ⟨Coordinator.exists_create hnone clock, hvalid h⟩
  · intro h
    obtain ⟨r, hr, hf⟩ := hfault h
    refine ⟨r, r.fault c, hr, rfl, hf, Coordinator.create_of_fault? hf clock,
      Policy.ofHealth_of_fault? hf clock, fun server observability hport => ?_⟩
    have hconfig : (AppConfig.mk server c observability).fault? = some (.health (r.fault c)) :=
      AppConfig.fault?_of_health hport hf
    rw [hconfig]
    rfl
  · intro server observability
    rw [AppConfig.fault?_eq_none_iff, valid_drainSettings_iff]

/-- Polls that are not shorter than the limit and a window of zero: the window is reported. -/
theorem gates_agree_two_faults :
    let c : HealthConfig :=
      { HealthConfig.default with pollIntervalMs := 200000, quiescenceWindowMs := 0 }
    ¬ c.Valid ∧ Policy.ofHealth c .steady = .error (.notPositive .quiescenceWindow) ∧
      (AppConfig.mk .default c .default).fault?.map ConfigFault.message =
        some "health: Invalid drain configuration: quiescence_window must be positive" := by
  intro c
  have hc : ¬ c.Valid := by decide
  obtain ⟨-, -, hbroken, -⟩ := gates_agree c .steady
  obtain ⟨r, f, hr, rfl, -, -, hpolicy, hconfig⟩ := hbroken hc
  have hwindow : firstBroken? c = some (.positive .quiescenceWindow) := by decide
  obtain rfl := Option.some.inj (hr.symm.trans hwindow)
  exact ⟨hc, hpolicy, hconfig .default .default (by decide)⟩

end HealthConfig

end GracefulDrain
