import FreightAP.Notifications.Health
import FreightAP.Python
import Mathlib.Data.List.Induction

/-!
# Readiness

`readiness` puts together five probes of the moment and what the background
tasks have recorded of themselves, the *outcomes* in `RuntimeHealth`.  A probe
ends by returning, by its time limit, by a `LookupError` or by another
exception.  The Gmail token and the API key are inspected beside them.

An outcome is what its events made of it: `ofEvents` replays a history, and
`ofEvents_reasonCode` and `lastSuccessAt_of_lastEnd?` read the two fields that
the verdict depends on off the last end in the history (`lastEnd?`).  With them
`runtimeCapability_available_iff` says when a capability is available.
Timestamps are in microseconds, and the settings keep the bounds they are
validated with.
-/

namespace FreightAP

/-! ## The schema -/

inductive OverallStatus where
  | ready
  | degraded
  | unavailable
deriving DecidableEq

inductive ProcessPhase where
  | starting
  | running
  | stopping
deriving DecidableEq

inductive CheckStatus where
  | available
  | starting
  | unavailable
deriving DecidableEq

inductive CapabilityStatus where
  | available
  | degraded
  | starting
  | unavailable
deriving DecidableEq

inductive VerificationKind where
  | configurationOnly
  | observedRuntime
  | configurationAndObservedRuntime
deriving DecidableEq

structure DependencyCheck where
  status : CheckStatus
  reasonCode : Option String
  latencyMs : Option ℚ
deriving DecidableEq

structure CapabilityCheck where
  status : CapabilityStatus
  reasonCode : Option String
  verification : VerificationKind
  lastAttemptAt : Option Int
  lastSuccessAt : Option Int
  lastFailureAt : Option Int
  lastResultCount : Option Nat
  stale : Bool
deriving DecidableEq

structure DependencyChecks where
  postgresql : DependencyCheck
  checkpoints : DependencyCheck
  redis : DependencyCheck
  invoiceWorker : DependencyCheck

structure CapabilityChecks where
  gmailIngestion : CapabilityCheck
  claudeProcessing : CapabilityCheck
  notifications : CapabilityCheck
  scheduledSlaScanning : CapabilityCheck

structure ReadinessResponse where
  status : OverallStatus
  ready : Bool
  phase : ProcessPhase
  observedAt : Int
  dependencies : DependencyChecks
  capabilities : CapabilityChecks

/-- `dependency_values`. -/
def DependencyChecks.values (d : DependencyChecks) : List DependencyCheck :=
  [d.postgresql, d.checkpoints, d.redis, d.invoiceWorker]

/-- `capability_values`. -/
def CapabilityChecks.values (c : CapabilityChecks) : List CapabilityCheck :=
  [c.gmailIngestion, c.claudeProcessing, c.notifications, c.scheduledSlaScanning]

/-! ## Outcomes and their histories -/

/-- A call of `started`, `succeeded` or `failed`. -/
inductive OutcomeEvent where
  | started (now : Int)
  | succeeded (now : Int) (count : Option Nat)
  | failed (now : Int) (reasonCode : String)
deriving DecidableEq

namespace OutcomeEvent

/-- The event is the end of an attempt. -/
def isEnd : OutcomeEvent → Bool
  | started _ => false
  | succeeded _ _ => true
  | failed _ _ => true

/-- The reason an attempt failed with. -/
def reason? : OutcomeEvent → Option String
  | failed _ reasonCode => some reasonCode
  | _ => none

end OutcomeEvent

/-- The last end of an attempt. -/
def lastEnd? (es : List OutcomeEvent) : Option OutcomeEvent := (es.filter OutcomeEvent.isEnd).getLast?

theorem lastEnd?_concat (es : List OutcomeEvent) (e : OutcomeEvent) :
    lastEnd? (es ++ [e]) = if e.isEnd then some e else lastEnd? es := by
  rw [lastEnd?, List.filter_append]
  cases he : e.isEnd with
  | true => simp [he]
  | false => simp [he, lastEnd?]

namespace BackgroundOutcome

/-- The call an event stands for. -/
def apply (outcome : BackgroundOutcome) : OutcomeEvent → BackgroundOutcome
  | .started now => outcome.started now
  | .succeeded now count => outcome.succeeded now count
  | .failed now reasonCode => outcome.failed now reasonCode

/-- The outcome a history makes. -/
def ofEvents (es : List OutcomeEvent) : BackgroundOutcome := es.foldl apply new

theorem ofEvents_concat (es : List OutcomeEvent) (e : OutcomeEvent) :
    ofEvents (es ++ [e]) = (ofEvents es).apply e := by
  rw [ofEvents, List.foldl_append]
  rfl

/-- The reason that is reported is that of the last end. -/
theorem ofEvents_reasonCode (es : List OutcomeEvent) :
    (ofEvents es).reasonCode = (lastEnd? es).bind OutcomeEvent.reason? := by
  induction es using List.reverseRecOn with
  | nil => rfl
  | append_singleton es e ih =>
      rw [ofEvents_concat, lastEnd?_concat]
      cases e with
      | started now => simpa [apply, started, OutcomeEvent.isEnd] using ih
      | succeeded now count => rfl
      | failed now reasonCode => rfl

/-- After an end that was a success, that success is the last one. -/
theorem lastSuccessAt_of_lastEnd? {es : List OutcomeEvent} {now : Int} {count : Option Nat}
    (h : lastEnd? es = some (.succeeded now count)) :
    (ofEvents es).lastSuccessAt = some now := by
  induction es using List.reverseRecOn with
  | nil => cases h
  | append_singleton es e ih =>
      rw [lastEnd?_concat] at h
      rw [ofEvents_concat]
      cases e with
      | started t => exact ih h
      | succeeded t n =>
          cases h
          rfl
      | failed t reasonCode => cases h

/-- A history without a failure at its end has no success or ends with one. -/
theorem lastSuccessAt_eq_none {es : List OutcomeEvent} (hreason : (ofEvents es).reasonCode = none)
    (h : ∀ now count, lastEnd? es ≠ some (.succeeded now count)) :
    (ofEvents es).lastSuccessAt = none := by
  induction es using List.reverseRecOn with
  | nil => rfl
  | append_singleton es e ih =>
      rw [ofEvents_concat] at hreason ⊢
      simp only [lastEnd?_concat] at h
      cases e with
      | started t => exact ih hreason h
      | succeeded t n => exact absurd rfl (h t n)
      | failed t reasonCode => cases hreason

end BackgroundOutcome

/-! ## The probes -/

/-- The settings that readiness reads, as they are validated. -/
structure HealthSettings where
  healthProbeTimeoutSeconds : ℚ
  gmailPollIntervalSeconds : Nat
  missingDocumentScanIntervalSeconds : Nat
  healthStaleAfterMultiplier : ℚ
  anthropicApiKey : String
  timeout_pos : 0 < healthProbeTimeoutSeconds
  pollInterval_pos : 0 < gmailPollIntervalSeconds
  scanInterval_pos : 0 < missingDocumentScanIntervalSeconds
  multiplier_gt : 1 < healthStaleAfterMultiplier

/-- How a probe of a dependency ends, with the seconds that passed. -/
inductive ProbeEnd where
  | returned (elapsed : ℚ)
  | timeout
  | lookupError (elapsed : ℚ)
  | raised (elapsed : ℚ)

/-- `round(q)`: to the nearest integer, and to the even one of two. -/
def roundHalfEven (q : ℚ) : Int :=
  if q - q.floor < 1 / 2 then q.floor
  else if 1 / 2 < q - q.floor then q.floor + 1
  else if q.floor % 2 = 0 then q.floor else q.floor + 1

/-- `round(seconds * 1000, 1)`. -/
def latencyMs (seconds : ℚ) : ℚ := roundHalfEven (seconds * 10000) / 10

/-- `_bounded_probe`. -/
def boundedProbe (timeout : ℚ) : ProbeEnd → DependencyCheck
  | .returned elapsed => ⟨.available, none, some (latencyMs elapsed)⟩
  | .timeout => ⟨.unavailable, some "probe_timeout", some (latencyMs timeout)⟩
  | .lookupError elapsed =>
      ⟨.unavailable, some "checkpoint_schema_missing", some (latencyMs elapsed)⟩
  | .raised elapsed => ⟨.unavailable, some "connection_failed", some (latencyMs elapsed)⟩

/-- How the thread of an inspection ends: by returning what it found, by its
time limit, or by an exception. -/
inductive InspectionEnd where
  | returned
  | timeout
  | raised

/-- `_bounded_configuration_probe`, of what the inspection finds. -/
def boundedConfigurationProbe (found : Option String) (unavailableCode : String) :
    InspectionEnd → Option String
  | .returned => found
  | .timeout => some "probe_timeout"
  | .raised => some unavailableCode

/-- What `inspect_gmail_token` finds at the path of the token: no file or an
empty one, a file that is not a token, or credentials. -/
inductive TokenFile where
  | missing
  | unreadable
  | credentials (valid hasRefreshToken : Bool)

/-- `inspect_gmail_token`. -/
def inspectGmailToken : TokenFile → Option String
  | .missing => some "gmail_token_missing"
  | .unreadable => some "gmail_token_invalid"
  | .credentials valid hasRefreshToken =>
      if !valid && !hasRefreshToken then some "gmail_token_invalid" else none

/-- `inspect_anthropic_configuration`. -/
def inspectAnthropicConfiguration [PyRuntime] (settings : HealthSettings) : Option String :=
  let key := strip settings.anthropicApiKey
  if key = "" ∨ key = "sk-ant-your-key-here" then some "anthropic_not_configured" else none

/-! ## The verdict -/

/-- `RuntimeHealth`. -/
structure RuntimeHealth where
  phase : ProcessPhase
  startedAt : Int
  invoiceWorkerStatus : CheckStatus
  invoiceWorkerReason : Option String
  gmail : BackgroundOutcome
  notifications : BackgroundOutcome
  slaScanner : BackgroundOutcome

namespace RuntimeHealth

/-- A new one. -/
def new (startedAt : Int) : RuntimeHealth :=
  ⟨.starting, startedAt, .starting, none, .new, .new, .new⟩

def workerStarted (runtime : RuntimeHealth) : RuntimeHealth :=
  { runtime with invoiceWorkerStatus := .available, invoiceWorkerReason := none }

def workerFailed (runtime : RuntimeHealth) (reasonCode : String) : RuntimeHealth :=
  { runtime with invoiceWorkerStatus := .unavailable, invoiceWorkerReason := some reasonCode }

end RuntimeHealth

/-- The reference of an outcome lies more than the limit back. -/
def BackgroundOutcome.stale (outcome : BackgroundOutcome) (now : Int)
    (staleAfterSeconds : Option ℚ) : Bool :=
  match staleAfterSeconds, outcome.lastSuccessAt.or outcome.lastAttemptAt with
  | some limit, some reference => limit < ((now - reference : Int) : ℚ) / 1000000
  | _, _ => false

/-- `_runtime_capability`. -/
def runtimeCapability (outcome : BackgroundOutcome) (now : Int) (staleAfterSeconds : Option ℚ)
    (verification : VerificationKind) (configurationReason : Option String) : CapabilityCheck :=
  let check (status : CapabilityStatus) (reason : Option String) (kind : VerificationKind)
      (stale : Bool) : CapabilityCheck :=
    ⟨status, reason, kind, outcome.lastAttemptAt, outcome.lastSuccessAt, outcome.lastFailureAt,
      outcome.lastResultCount, stale⟩
  match configurationReason with
  | some reason => check .unavailable (some reason) .configurationOnly false
  | none =>
      let stale := outcome.stale now staleAfterSeconds
      match outcome.reasonCode with
      | some reason =>
          check (if outcome.lastSuccessAt.isSome then .degraded else .unavailable) (some reason)
            verification stale
      | none =>
          if stale then check .degraded (some "background_success_stale") verification stale
          else if outcome.lastSuccessAt = none then check .starting none verification stale
          else check .available none verification stale

/-- What the probes of one request find. -/
structure Probes where
  postgresql : ProbeEnd
  checkpoints : ProbeEnd
  redis : ProbeEnd
  gmailToken : TokenFile
  gmailInspection : InspectionEnd
  anthropicInspection : InspectionEnd

/-- `gmail_reason`. -/
def Probes.gmailReason (probes : Probes) : Option String :=
  boundedConfigurationProbe (inspectGmailToken probes.gmailToken) "gmail_token_invalid"
    probes.gmailInspection

/-- `anthropic_reason`. -/
def Probes.anthropicReason [PyRuntime] (probes : Probes) (settings : HealthSettings) :
    Option String :=
  boundedConfigurationProbe (inspectAnthropicConfiguration settings) "anthropic_not_configured"
    probes.anthropicInspection

/-- The dependencies: no checkpoint is there without its database. -/
def dependencyChecks (runtime : RuntimeHealth) (settings : HealthSettings) (probes : Probes) :
    DependencyChecks :=
  let timeout := settings.healthProbeTimeoutSeconds
  let postgresql := boundedProbe timeout probes.postgresql
  { postgresql
    checkpoints :=
      if postgresql.status = .unavailable then
        ⟨.unavailable, some "postgresql_unavailable", none⟩
      else boundedProbe timeout probes.checkpoints
    redis := boundedProbe timeout probes.redis
    invoiceWorker := ⟨runtime.invoiceWorkerStatus, runtime.invoiceWorkerReason, none⟩ }

/-- After how many seconds a task that runs every `interval` is stale. -/
def HealthSettings.staleAfter (settings : HealthSettings) (interval : Nat) : ℚ :=
  interval * settings.healthStaleAfterMultiplier

/-- The capability of sending notifications: configured, until one is tried. -/
def notificationCapability (runtime : RuntimeHealth) (now : Int) (gmailReason : Option String) :
    CapabilityCheck :=
  if gmailReason = none ∧ runtime.notifications.lastAttemptAt = none then
    ⟨.available, none, .configurationOnly, none, none, none, none, false⟩
  else
    runtimeCapability runtime.notifications now none .configurationAndObservedRuntime gmailReason

/-- The capability of scanning, which needs the database. -/
def slaCapability (runtime : RuntimeHealth) (settings : HealthSettings) (now : Int)
    (postgresql : DependencyCheck) : CapabilityCheck :=
  let sla := runtimeCapability runtime.slaScanner now
    (some (settings.staleAfter settings.missingDocumentScanIntervalSeconds)) .observedRuntime none
  if postgresql.status = .unavailable then
    { sla with
      status := if runtime.slaScanner.lastSuccessAt.isSome then .degraded else .unavailable
      reasonCode := some "postgresql_unavailable" }
  else sla

/-- The capabilities. -/
def capabilityChecks [PyRuntime] (runtime : RuntimeHealth) (settings : HealthSettings) (now : Int)
    (probes : Probes) : CapabilityChecks :=
  let anthropicReason := probes.anthropicReason settings
  { gmailIngestion := runtimeCapability runtime.gmail now
      (some (settings.staleAfter settings.gmailPollIntervalSeconds))
      .configurationAndObservedRuntime probes.gmailReason
    claudeProcessing :=
      ⟨if anthropicReason.getD "" ≠ "" then .unavailable else .available, anthropicReason,
        .configurationOnly, none, none, none, none, false⟩
    notifications := notificationCapability runtime now probes.gmailReason
    scheduledSlaScanning := slaCapability runtime settings now
      (boundedProbe settings.healthProbeTimeoutSeconds probes.postgresql) }

/-- `readiness`. -/
def readiness [PyRuntime] (runtime : RuntimeHealth) (settings : HealthSettings) (now : Int)
    (probes : Probes) : ReadinessResponse :=
  let dependencies := dependencyChecks runtime settings probes
  let capabilities := capabilityChecks runtime settings now probes
  let coreReady := runtime.phase = .running ∧
    dependencies.values.all fun check => check.status = .available
  { status :=
      if ¬ coreReady then .unavailable
      else if capabilities.values.any fun capability => capability.status ≠ .available then
        .degraded
      else .ready
    ready := coreReady
    phase := runtime.phase
    observedAt := now
    dependencies
    capabilities }

/-! ## What the verdict says -/

/-- A history whose last end is a success, not more than the limit back. -/
def Healthy (es : List OutcomeEvent) (now : Int) (staleAfterSeconds : Option ℚ) : Prop :=
  ∃ t count, lastEnd? es = some (.succeeded t count) ∧
    ∀ limit ∈ staleAfterSeconds, ((now - t : Int) : ℚ) / 1000000 ≤ limit

/-- A capability is available exactly when it is configured and its history healthy. -/
theorem runtimeCapability_available_iff {es : List OutcomeEvent} {now : Int} {limit : Option ℚ}
    {kind : VerificationKind} {reason : Option String} :
    (runtimeCapability (.ofEvents es) now limit kind reason).status = .available ↔
      reason = none ∧ Healthy es now limit := by
  cases reason with
  | some reason => simp [runtimeCapability]
  | none =>
      have hreason := BackgroundOutcome.ofEvents_reasonCode es
      cases hcode : (BackgroundOutcome.ofEvents es).reasonCode with
      | some code =>
          have hnot : ¬ Healthy es now limit := by
            rintro ⟨t, count, hlast, _⟩
            rw [hlast, hcode] at hreason
            cases hreason
          simp only [runtimeCapability, hcode, hnot, and_false, iff_false]
          split <;> simp
      | none =>
          by_cases hlast : ∃ t count, lastEnd? es = some (.succeeded t count)
          · obtain ⟨t, count, hlast⟩ := hlast
            have hsuccess := BackgroundOutcome.lastSuccessAt_of_lastEnd? hlast
            have hhealthy : Healthy es now limit ↔
                (BackgroundOutcome.ofEvents es).stale now limit = false := by
              simp only [Healthy, hlast, BackgroundOutcome.stale, hsuccess]
              cases limit with
              | none => simp
              | some limit => simp
            simp only [runtimeCapability, hcode, hsuccess, hhealthy, true_and, reduceCtorEq, if_false]
            cases (BackgroundOutcome.ofEvents es).stale now limit <;> simp
          · have hnot : ¬ Healthy es now limit := fun ⟨t, count, hend, _⟩ => hlast ⟨t, count, hend⟩
            have hnone := BackgroundOutcome.lastSuccessAt_eq_none hcode fun t count hend =>
              hlast ⟨t, count, hend⟩
            simp only [runtimeCapability, hcode, hnone, hnot, and_false, iff_false, if_true]
            split <;> simp

/-- A check is explained: a reason is given exactly for what is neither
available nor starting. -/
def DependencyCheck.Explained (check : DependencyCheck) : Prop :=
  check.reasonCode = none ↔ check.status ≠ .unavailable

@[inherit_doc DependencyCheck.Explained]
def CapabilityCheck.Explained (check : CapabilityCheck) : Prop :=
  check.reasonCode = none ↔ check.status = .available ∨ check.status = .starting

theorem boundedProbe_explained (timeout : ℚ) (p : ProbeEnd) :
    (boundedProbe timeout p).Explained := by
  cases p <;> simp [boundedProbe, DependencyCheck.Explained]

theorem runtimeCapability_explained (outcome : BackgroundOutcome) (now : Int) (limit : Option ℚ)
    (kind : VerificationKind) (reason : Option String) :
    (runtimeCapability outcome now limit kind reason).Explained := by
  cases reason with
  | some reason => simp [runtimeCapability, CapabilityCheck.Explained]
  | none =>
      cases hcode : outcome.reasonCode with
      | some code =>
          simp only [runtimeCapability, hcode, CapabilityCheck.Explained, reduceCtorEq, false_iff]
          split <;> simp
      | none =>
          simp only [runtimeCapability, hcode, CapabilityCheck.Explained]
          split
          · simp
          · split <;> simp

/-- The probe returned within its time limit. -/
def ProbeEnd.InTime (p : ProbeEnd) : Prop := ∃ elapsed, p = .returned elapsed

@[simp] theorem boundedProbe_available_iff {timeout : ℚ} {p : ProbeEnd} :
    (boundedProbe timeout p).status = .available ↔ p.InTime := by
  cases p <;> simp [boundedProbe, ProbeEnd.InTime]

theorem boundedProbe_unavailable_iff {timeout : ℚ} {p : ProbeEnd} :
    (boundedProbe timeout p).status = .unavailable ↔ ¬ p.InTime := by
  cases p <;> simp [boundedProbe, ProbeEnd.InTime]

/-- The three probes of stores returned in time. -/
structure Probes.StoresInTime (probes : Probes) : Prop where
  postgresql : probes.postgresql.InTime
  checkpoints : probes.checkpoints.InTime
  redis : probes.redis.InTime

section

variable [PyRuntime] {runtime : RuntimeHealth} {settings : HealthSettings} {now : Int}
  {probes : Probes}

theorem anthropicReason_ne_empty : probes.anthropicReason settings ≠ some "" := by
  rw [Probes.anthropicReason]
  cases probes.anthropicInspection with
  | returned =>
      simp only [boundedConfigurationProbe, inspectAnthropicConfiguration]
      split <;> simp
  | timeout => simp [boundedConfigurationProbe]
  | raised => simp [boundedConfigurationProbe]

omit [PyRuntime] in
theorem dependencyChecks_available_iff :
    (∀ check ∈ (dependencyChecks runtime settings probes).values, check.status = .available) ↔
      probes.StoresInTime ∧ runtime.invoiceWorkerStatus = .available := by
  simp only [DependencyChecks.values, dependencyChecks, List.forall_mem_cons,
    boundedProbe_available_iff]
  constructor
  · rintro ⟨hpostgresql, hcheckpoints, hredis, hworker, -⟩
    have hup : (boundedProbe settings.healthProbeTimeoutSeconds probes.postgresql).status ≠
        .unavailable := mt boundedProbe_unavailable_iff.mp (not_not.mpr hpostgresql)
    rw [if_neg hup, boundedProbe_available_iff] at hcheckpoints
    exact ⟨⟨hpostgresql, hcheckpoints, hredis⟩, hworker⟩
  · rintro ⟨⟨hpostgresql, hcheckpoints, hredis⟩, hworker⟩
    have hup : (boundedProbe settings.healthProbeTimeoutSeconds probes.postgresql).status ≠
        .unavailable := mt boundedProbe_unavailable_iff.mp (not_not.mpr hpostgresql)
    rw [if_neg hup, boundedProbe_available_iff]
    exact ⟨hpostgresql, hcheckpoints, hredis, hworker, by simp⟩

/-- The process takes requests exactly when it runs, its stores answer and its
worker is up. -/
theorem readiness_ready_iff : (readiness runtime settings now probes).ready = true ↔
    runtime.phase = .running ∧ probes.StoresInTime ∧ runtime.invoiceWorkerStatus = .available := by
  have hall : (∀ check ∈ (readiness runtime settings now probes).dependencies.values,
      check.status = .available) ↔ _ := dependencyChecks_available_iff
  rw [← hall]
  simp [readiness]

theorem readiness_unavailable_iff : (readiness runtime settings now probes).status = .unavailable ↔
    (readiness runtime settings now probes).ready = false := by
  simp only [readiness]
  split
  case isTrue hready => simpa using hready
  case isFalse hready =>
      have hready' := not_not.mp hready
      constructor
      · intro h
        split at h <;> cases h
      · intro h
        simp_all

theorem readiness_status_ready_iff : (readiness runtime settings now probes).status = .ready ↔
    (readiness runtime settings now probes).ready = true ∧
      ∀ capability ∈ (capabilityChecks runtime settings now probes).values,
        capability.status = .available := by
  simp only [readiness]
  split
  case isTrue hready => simp_all
  case isFalse hready =>
      have hready' := not_not.mp hready
      simp only [hready', decide_true, true_and]
      split
      case isTrue hany => simp_all
      case isFalse hany => simpa using hany

omit [PyRuntime] in
/-- Notifications are available while none was tried, and then when their
history is healthy. -/
theorem notificationCapability_available_iff {es : List OutcomeEvent}
    (h : runtime.notifications = .ofEvents es) {reason : Option String} :
    (notificationCapability runtime now reason).status = .available ↔
      reason = none ∧ (runtime.notifications.lastAttemptAt = none ∨ Healthy es now none) := by
  rw [notificationCapability]
  split
  case isTrue hnew => simp [hnew]
  case isFalse hnew =>
      rw [h] at hnew ⊢
      rw [runtimeCapability_available_iff]
      constructor
      · rintro ⟨hreason, hhealthy⟩
        exact ⟨hreason, .inr hhealthy⟩
      · rintro ⟨hreason, hnone | hhealthy⟩
        · exact absurd ⟨hreason, hnone⟩ hnew
        · exact ⟨hreason, hhealthy⟩

omit [PyRuntime] in
theorem slaCapability_available_iff {es : List OutcomeEvent} (h : runtime.slaScanner = .ofEvents es)
    {postgresql : DependencyCheck} (hup : postgresql.status ≠ .unavailable) :
    (slaCapability runtime settings now postgresql).status = .available ↔
      Healthy es now (some (settings.staleAfter settings.missingDocumentScanIntervalSeconds)) := by
  rw [slaCapability, if_neg hup, h, runtimeCapability_available_iff]
  simp

/-- Every check of a response explains itself, once the worker's does. -/
theorem readiness_explained
    (hworker : runtime.invoiceWorkerReason = none ↔ runtime.invoiceWorkerStatus ≠ .unavailable) :
    (∀ check ∈ (readiness runtime settings now probes).dependencies.values, check.Explained) ∧
      ∀ check ∈ (readiness runtime settings now probes).capabilities.values,
        check.Explained := by
  constructor
  · simp only [readiness, DependencyChecks.values, dependencyChecks, List.forall_mem_cons]
    refine ⟨boundedProbe_explained .., ?_, boundedProbe_explained .., hworker, by simp⟩
    split
    case isTrue => simp [DependencyCheck.Explained]
    case isFalse => exact boundedProbe_explained ..
  · simp only [readiness, CapabilityChecks.values, capabilityChecks, List.forall_mem_cons]
    refine ⟨runtimeCapability_explained .., ?_, ?_, ?_, by simp⟩
    · have hne : probes.anthropicReason settings ≠ some "" := anthropicReason_ne_empty
      cases hreason : probes.anthropicReason settings with
      | none => simp [CapabilityCheck.Explained]
      | some reason => simp_all [CapabilityCheck.Explained]
    · rw [notificationCapability]
      split
      case isTrue => simp [CapabilityCheck.Explained]
      case isFalse => exact runtimeCapability_explained ..
    · rw [slaCapability]
      split
      case isTrue =>
          simp only [CapabilityCheck.Explained, reduceCtorEq, false_iff]
          split <;> simp
      case isFalse => exact runtimeCapability_explained ..

end

end FreightAP
