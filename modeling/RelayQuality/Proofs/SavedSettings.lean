import RelayQuality.Proofs.Filing
import RelayQuality.Proofs.SettingLines
import RelayQuality.Storage

/-!
# Saved settings

Settings come back from a file with lengths of time in whole milliseconds, of which 64 bits are kept (`load_saved`).
They are checked again then: a length that was accepted can have no whole millisecond.
-/

namespace RelayQuality

namespace Config

open Document
open Toml (Setting)

/-! ### Reading back -/

/-- The settings with other lengths of time. -/
def mapDurations (change : Duration → Duration) (c : Config) : Config :=
  { c with
    probeTimeout := change c.probeTimeout
    refreshInterval := change c.refreshInterval
    initialDelay := change c.initialDelay
    progressDelay := change c.progressDelay }

def durations (c : Config) : List Duration := [c.probeTimeout, c.refreshInterval, c.initialDelay, c.progressDelay]

/-- A length of time as a file keeps it. -/
def filed (d : Duration) : Duration := .ofMillis (Millis.wrap d.wholeMillis)

theorem boolean?_value (b : Bool) : boolean? (Setting.boolean b).value = some b := rfl

theorem text?_value (s : String) : text? (Setting.text s).value = some s := rfl

theorem protocol?_value (p : Protocol) : protocol? (Setting.text p.word).value = some p := Protocol.ofWord?_word p

theorem count?_value {limit n : Nat} (bounded : n ≤ limit) : count? limit (Setting.integer n).value = some n := by
  refine if_pos ⟨?_, ?_⟩ <;> omega

theorem duration?_value (d : Duration) : duration? (millisSetting d).value = some (filed d) := by
  have bounded : Millis.wrap d.wholeMillis ≤ Millis.last := Nat.le_of_lt_succ (Nat.mod_lt _ (Nat.succ_pos _))
  exact congrArg (Option.map Duration.ofMillis) (count?_value bounded)

/-- The settings fit into the integers that are read for them. -/
structure Fits (c : Config) : Prop where
  maxParallel : c.maxParallel ≤ Millis.last
  maxRetries : c.maxRetries ≤ 255
  redundancyThreshold : c.redundancyThreshold ≤ Millis.last
  excellentLatency : c.excellentLatency ≤ Millis.last
  tcpPort : c.tcpPort ≤ 65535

theorem logging?_settings (l : Logging) : logging? (.table (Toml.settingMembers (loggingSettings l))) = some l := by
  simp [logging?, loggingSettings, Toml.settingMembers, setting, text?_value, boolean?_value]

theorem config?_settings {c : Config} (fits : c.Fits) :
    config? (Toml.settingMembers (ownSettings c) ++
      [("logging", .table (Toml.settingMembers (loggingSettings c.logging)))]) = some (c.mapDurations filed) := by
  have logged := logging?_settings c.logging
  generalize Toml.Value.table (Toml.settingMembers (loggingSettings c.logging)) = table at logged ⊢
  simp [config?, ownSettings, Toml.settingMembers, setting, boolean?_value, duration?_value, protocol?_value,
    count?_value fits.maxParallel, count?_value fits.maxRetries, count?_value fits.redundancyThreshold,
    count?_value fits.excellentLatency, count?_value fits.tcpPort, logged, mapDurations]

/-! ### Limits -/

theorem violation?_eq_none {c : Config} :
    c.violation? = none ↔
      (c.maxParallel ≠ 0 ∧ c.maxParallel ≤ parallelCeiling) ∧ c.maxRetries ≤ retryCeiling ∧
        c.probeTimeout.isZero = false ∧ c.refreshInterval.isZero = false ∧ c.tcpPort ≠ 0 := by
  grind [violation?]

theorem isZero_ofMillis (ms : Nat) : (Duration.ofMillis ms).isZero = false ↔ ms ≠ 0 := by
  simp only [Duration.isZero, Duration.ofMillis, Bool.and_eq_false_iff, beq_eq_false_iff_ne]
  omega

theorem checked_eq_ok {c d : Config} : c.checked = .ok d ↔ c.violation? = none ∧ c = d := by
  unfold checked
  cases c.violation? with
  | none => simp
  | some v => simp

/-! ### Names -/

theorem ownSettings_names (c : Config) : (ownSettings c).map Prod.fst =
    ["enabled", "probe_timeout", "max_parallel", "max_retries", "refresh_interval", "initial_delay", "progress_delay",
      "redundancy_threshold", "excellent_latency_ms", "protocol", "tcp_port"] := rfl

theorem loggingSettings_names (l : Logging) : (loggingSettings l).map Prod.fst = ["level", "format", "color"] := rfl

theorem isName_of_listed {settings : List (String × Setting)} {names : List String}
    (same : settings.map Prod.fst = names) (all : ∀ name ∈ names, Toml.IsName name) {entry : String × Setting}
    (listed : entry ∈ settings) : Toml.IsName entry.1 :=
  all entry.1 (same ▸ List.mem_map_of_mem listed)

/-! ### Writing and reading -/

theorem assignments?_largest {settings : List (String × Setting)} {out : List Char}
    (written : Toml.assignments? settings = some out) {name : String} {n : Nat}
    (listed : (name, Setting.integer n) ∈ settings) : n ≤ Setting.largest := by
  induction settings generalizing out with
  | nil => exact absurd listed List.not_mem_nil
  | cons entry settings ih =>
    obtain ⟨text, lines, value, others, _⟩ := Toml.assignments?_cons written
    rcases List.mem_cons.mp listed with rfl | later
    · by_contra large
      exact nomatch (if_neg large).symm.trans value
    · exact ih others later

theorem document_ok {c : Config} {text : String} (written : c.document = .ok text) :
    ∃ own logging, Toml.assignments? (ownSettings c) = some own ∧
      Toml.assignments? (loggingSettings c.logging) = some logging ∧
      text = String.ofList (own ++ Toml.headerLine "logging" ++ logging) := by
  unfold document at written
  split at written
  next own logging first second =>
    cases written
    exact ⟨own, logging, first, second, rfl⟩
  next => exact nomatch written

theorem fits_of_document {c : Config} {text : String} (accepted : c.violation? = none) (port : c.tcpPort ≤ 65535)
    (written : c.document = .ok text) : c.Fits := by
  obtain ⟨own, _, first, _, _⟩ := document_ok written
  have below : Setting.largest ≤ Millis.last := by decide
  have threshold : ("redundancy_threshold", Setting.integer c.redundancyThreshold) ∈ ownSettings c := by simp [ownSettings]
  have excellent : ("excellent_latency_ms", Setting.integer c.excellentLatency) ∈ ownSettings c := by simp [ownSettings]
  have parallel : ("max_parallel", Setting.integer c.maxParallel) ∈ ownSettings c := by simp [ownSettings]
  have redundancyThreshold := assignments?_largest first threshold
  have excellentLatency := assignments?_largest first excellent
  have maxParallel := assignments?_largest first parallel
  have maxRetries : c.maxRetries ≤ retryCeiling := (violation?_eq_none.mp accepted).2.1
  have small : retryCeiling ≤ 255 := by decide
  exact ⟨by omega, by omega, by omega, by omega, port⟩

theorem ofText_document {c : Config} {text : String} (accepted : c.violation? = none) (port : c.tcpPort ≤ 65535)
    (written : c.document = .ok text) : ofText text = (c.mapDurations filed).checked := by
  have fits := fits_of_document accepted port written
  obtain ⟨own, logging, first, second, rfl⟩ := document_ok written
  have header : Toml.IsName "logging" := by decide
  have ownDistinct : ((ownSettings c).map Prod.fst ++ ["logging"]).Nodup := by
    rw [ownSettings_names]
    decide
  have innerDistinct : ((loggingSettings c.logging).map Prod.fst).Nodup := by
    rw [loggingSettings_names]
    decide
  have read := Toml.read?_written first second (fun _ => isName_of_listed (ownSettings_names c) (by decide))
    (fun _ => isName_of_listed (loggingSettings_names c.logging) (by decide)) header ownDistinct innerDistinct
  rw [ofText, read, Option.bind_eq_bind, Option.bind_some, config?_settings fits]

theorem load_saved {c : Config} {before after : Files} {directory name : String} (accepted : c.violation? = none)
    (port : c.tcpPort ≤ 65535) (proper : Files.IsFileName name) (saved : c.save before directory name = .ok after) :
    Config.load (after.read (directory ++ "/" ++ name)) = (c.mapDurations filed).checked := by
  unfold save at saved
  split at saved
  · exact nomatch saved
  next text document =>
    cases written : before.write directory name text with
    | error reason =>
      rw [written] at saved
      exact nomatch saved
    | ok files =>
      rw [written] at saved
      cases saved
      rw [Files.read_write proper written]
      exact ofText_document accepted port document

theorem filed_eq_iff {d : Duration} : filed d = .ofMillis d.wholeMillis ↔ d.wholeMillis ≤ Millis.last := by
  constructor
  · intro same
    have wrapped := congrArg Duration.wholeMillis same
    rw [filed, Duration.wholeMillis_ofMillis, Duration.wholeMillis_ofMillis] at wrapped
    have bounded : Millis.wrap d.wholeMillis ≤ Millis.last := Nat.le_of_lt_succ (Nat.mod_lt _ (Nat.succ_pos _))
    omega
  · intro bounded
    rw [filed, Millis.wrap_eq bounded]

theorem mapDurations_eq_iff {c : Config} {f g : Duration → Duration} :
    c.mapDurations f = c.mapDurations g ↔ ∀ d ∈ c.durations, f d = g d := by
  simp [mapDurations, durations]

/-- Settings return from their file, in whole milliseconds, exactly if timeout and refresh interval have a whole
millisecond and no length has more of them than 64 bits can count. -/
theorem saved_settings_return_iff {c : Config} {before after : Files} {directory name : String}
    (accepted : c.violation? = none) (port : c.tcpPort ≤ 65535) (proper : Files.IsFileName name)
    (saved : c.save before directory name = .ok after) :
    Config.load (after.read (directory ++ "/" ++ name)) = .ok (c.mapDurations fun d => .ofMillis d.wholeMillis) ↔
      1 ≤ c.probeTimeout.wholeMillis ∧ 1 ≤ c.refreshInterval.wholeMillis ∧
        ∀ d ∈ c.durations, d.wholeMillis ≤ Millis.last := by
  rw [load_saved accepted port proper saved, checked_eq_ok, mapDurations_eq_iff]
  simp only [filed_eq_iff]
  constructor
  · rintro ⟨valid, short⟩
    -- what was saved passes the check again, so its whole milliseconds are not zero
    obtain ⟨_, _, timeout, interval, _⟩ := violation?_eq_none.mp valid
    have probe := (isZero_ofMillis _).mp timeout
    have refresh := (isZero_ofMillis _).mp interval
    rw [Millis.wrap_eq (short _ (by simp [durations]))] at probe refresh
    exact ⟨Nat.pos_of_ne_zero probe, Nat.pos_of_ne_zero refresh, short⟩
  · rintro ⟨probe, refresh, short⟩
    obtain ⟨parallel, retries, _, _, port⟩ := violation?_eq_none.mp accepted
    have timeout : Millis.wrap c.probeTimeout.wholeMillis ≠ 0 := by
      rw [Millis.wrap_eq (short _ (by simp [durations]))]
      exact Nat.ne_of_gt probe
    have interval : Millis.wrap c.refreshInterval.wholeMillis ≠ 0 := by
      rw [Millis.wrap_eq (short _ (by simp [durations]))]
      exact Nat.ne_of_gt refresh
    refine ⟨violation?_eq_none.mpr ⟨parallel, retries, ?_, ?_, port⟩, short⟩
    · exact (isZero_ofMillis _).mpr timeout
    · exact (isZero_ofMillis _).mpr interval

theorem save_here {c : Config} (written : c.document.toOption.isSome = true) (name : String) :
    ∃ after, c.save {} "." name = .ok after := by
  cases document : c.document with
  | error fault =>
    rw [document] at written
    exact nomatch written
  | ok text =>
    rw [save, document]
    dsimp only
    rw [Files.write_here rfl]
    exact ⟨_, rfl⟩

theorem isFileName_config : Files.IsFileName "config.toml" := ⟨by decide, by decide, by decide, by decide⟩

/-- Lengths of time with fractions of a millisecond, and a level with quotes of both kinds. -/
def fineSettings : Config :=
  { probeTimeout := ⟨2, 1999999⟩, initialDelay := ⟨0, 500000⟩, protocol := .icmp
    logging := { level := "it's \"loud\"" } }

theorem fineSettings_return :
    fineSettings.violation? = none ∧ fineSettings.tcpPort ≤ 65535 ∧ Files.IsFileName "config.toml" ∧
    ∃ after, fineSettings.save {} "." "config.toml" = .ok after ∧
      Config.load (after.read ("." ++ "/" ++ "config.toml")) =
        .ok { fineSettings with probeTimeout := .ofMillis 2001, initialDelay := .ofMillis 0 } := by
  have accepted : fineSettings.violation? = none := by decide
  have port : fineSettings.tcpPort ≤ 65535 := by simp [fineSettings]
  obtain ⟨after, saved⟩ := save_here (c := fineSettings) (by decide +kernel) "config.toml"
  refine ⟨accepted, port, isFileName_config, after, saved, ?_⟩
  exact (saved_settings_return_iff accepted port isFileName_config saved).mpr (by decide +kernel)

/-- A timeout below a millisecond is accepted and saved, but not accepted when it is read. -/
theorem short_timeout_refused :
    let c : Config := { probeTimeout := ⟨0, 500000⟩ }
    c.violation? = none ∧ c.tcpPort ≤ 65535 ∧ Files.IsFileName "config.toml" ∧
    ∃ after, c.save {} "." "config.toml" = .ok after ∧
      Config.load (after.read ("." ++ "/" ++ "config.toml")) = .error (.ofViolation .probeTimeout) := by
  intro c
  have accepted : c.violation? = none := by decide
  have port : c.tcpPort ≤ 65535 := by simp [c]
  obtain ⟨after, saved⟩ := save_here (c := c) (by decide +kernel) "config.toml"
  refine ⟨accepted, port, isFileName_config, after, saved, ?_⟩
  rw [load_saved accepted port isFileName_config saved]
  decide +kernel

end Config

end RelayQuality
