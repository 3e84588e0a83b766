/-
The agent's update journal (`journal.json`): the job it is working on, the plan, port plan, port policy candidates and
stage failure bound to that job, the report cursor and the reports not yet acknowledged.

`validateJournalData` is the check every reader makes before it trusts a journal; `validateJournalSoftwarePendingForRestart`
is the further check a restart makes before it keeps the reports of a software job. `persisted` is what a file holds of a
journal: JSON leaves the in-memory fields of the active job out and keeps everything else.
-/
import AutostreamUpdater.Contract.Agent

namespace AutostreamUpdater.Agent

open Contract

/-- `journalData` -/
structure JournalData where
  activeJob : Option UpdateJob := none
  activePlan : Option MutationPlan := none
  activePortPlan : Option SystemdPortReconfigurePlan := none
  activePortPolicy : Option PortAgentPolicyState := none
  activeStageFailure : Option StageFailureRecord := none
  nextSeq : ℕ := 1
  pending : List PendingReport := []
  deployedVersions : List (String × String) := []
  deriving DecidableEq, Repr

/-- the fields that belong to the active job -/
structure ActiveFields where
  job : Option UpdateJob := none
  plan : Option MutationPlan := none
  portPlan : Option SystemdPortReconfigurePlan := none
  portPolicy : Option PortAgentPolicyState := none
  stageFailure : Option StageFailureRecord := none
  deriving DecidableEq, Repr

namespace JournalData

variable (d : JournalData)

/-- the journal as a file holds it -/
def persisted : JournalData := { d with activeJob := d.activeJob.map (·.persisted) }

def active : ActiveFields :=
  ⟨d.activeJob, d.activePlan, d.activePortPlan, d.activePortPolicy, d.activeStageFailure⟩

/-- the journal `ClearActive` writes -/
def cleared : JournalData :=
  { d with activeJob := none, activePlan := none, activePortPlan := none, activePortPolicy := none,
           activeStageFailure := none }

/-- the cleared journal that `reconcileActiveClearMarkerLocked` expects; the stage failure is not among the fields it
resets -/
def clearedByMarker : JournalData :=
  { d with activeJob := none, activePlan := none, activePortPlan := none, activePortPolicy := none }

/-- what `OpenJournal` makes of a decoded journal before it validates it -/
def normalized : JournalData := { d with nextSeq := if d.nextSeq = 0 then 1 else d.nextSeq }

end JournalData

section Validators

variable (X : AgentContracts)

/-- `validateJournalSoftwareJob` -/
def validateJournalSoftwareJob (job : UpdateJob) : Except String Unit :=
  match job.softwareUpdate with
  | none =>
    if job.softwareClaimRejected || (job.isV2SoftwareJob && job.policyRevision < 1) then
      .error "update journal software claim lacks its saved intent"
    else .ok ()
  | some binding =>
    if !job.isV2SoftwareJob || !binding.validateIntent then .error "update journal software claim binding is invalid"
    else if binding.validate then
      if job.policyRevision != binding.projectionRevision then
        .error "update journal software projection revision is invalid"
      else .ok ()
    else if !job.softwareClaimRejected || job.policyRevision != 0 then
      .error "update journal unbound software claim must remain rejected"
    else .ok ()

/-- `validateJournalSoftwarePlan` -/
def validateJournalSoftwarePlan (job : UpdateJob) (plan : MutationPlan) (currentLease : Bool) : Except String Unit :=
  if !job.isV2SoftwareJob then .ok ()
  else if job.softwareClaimRejected || plan.jobID != job.id || plan.hostID != job.hostID ||
      plan.targetID != job.targetID || plan.serviceType != job.effectiveType ||
      plan.deploymentMode != job.deploymentMode || plan.currentVersion != job.currentVersion ||
      plan.targetVersion != job.effectiveVersion || plan.leaseGeneration > job.leaseGeneration ||
      (currentLease && plan.leaseGeneration != job.leaseGeneration) ||
      (job.softwareUpdate.any fun b => plan.configSHA256 != b.executorPolicySHA256) then
    .error "update journal software plan does not match its saved authority"
  else .ok ()

/-- the results a v2 port job keeps -/
def validateJournalPortResults (job : UpdateJob) : Except String Unit :=
  match job.isPortContractV2, job.portReconfigure with
  | true, some binding =>
    if job.portResult.any fun r => !X.isAcceptedPortResult r || !X.validatePortResult binding.sharedPortPlan r then
      .error "update journal accepted port result is invalid"
    else if job.lastRecoveryObservation.any fun r => r.result != .rollbackFailed ||
        !X.validatePortResult binding.sharedPortPlan r then
      .error "update journal port recovery observation is invalid"
    else .ok ()
  | _, _ => .ok ()

/-- the part of `validateJournalData` that reads the active job alone -/
def validateJournalJob : Option UpdateJob → Except String Unit
  | none => .ok ()
  | some job =>
    if !job.validateOperationUnion X.toContracts then .error "update journal active job operation is invalid"
    else do
      validateJournalSoftwareJob job
      validateJournalPortResults X job

/-- the plan bound to the active job: a software plan or a port plan, never both -/
def activePlanBound (job : UpdateJob) (plan : Option MutationPlan) (portPlan : Option SystemdPortReconfigurePlan) : Bool :=
  !(plan.isSome && portPlan.isSome) &&
    (plan.all fun p => job.effectiveOperation == updateJobOperationSoftwareUpdate && p.jobID == job.id &&
      p.validate X.mutationPlanPayloadSHA256) &&
    (portPlan.all fun p => job.effectiveOperation == updateJobOperationPortReconfigure && p.jobID == job.id &&
      p.validate X.toContracts)

/-- the part of `validateJournalData` about the active plans -/
def validateJournalPlans (job : Option UpdateJob) (plan : Option MutationPlan)
    (portPlan : Option SystemdPortReconfigurePlan) : Except String Unit :=
  if plan.isNone && portPlan.isNone then .ok ()
  else match job with
    | none => .error "update journal active plan binding is invalid"
    | some job =>
      if !activePlanBound X job plan portPlan then .error "update journal active plan binding is invalid"
      else match plan with
        | none => .ok ()
        | some p => validateJournalSoftwarePlan job p false

/-- the part of `validateJournalData` about the stage failure -/
def validateJournalStageFailure (job : Option UpdateJob) : Option StageFailureRecord → Except String Unit
  | none => .ok ()
  | some failure =>
    if !(job.any fun j => failure.jobID == j.id) then
      .error "update journal active stage failure binding is invalid"
    else match failure.validate with
      | .error reason => .error ("update journal active stage failure is invalid: " ++ reason)
      | .ok () => .ok ()

/-- `validateJournalData` -/
def validateJournalData (d : JournalData) : Except String Unit := do
  validateJournalJob X d.activeJob
  validateJournalPlans X d.activeJob d.activePlan d.activePortPlan
  validateJournalStageFailure d.activeJob d.activeStageFailure
  match d.activePortPolicy with
  | none => .ok ()
  | some policy => policy.validate X d.activeJob d.activePortPlan

/-! ## The restart check on pending reports -/

/-- the cursor a restart may keep reports for -/
def pendingCursorValid (d : JournalData) (job : UpdateJob) : Bool :=
  job.isV2SoftwareJob && !job.softwareClaimRejected && job.transportMode == hostTransportPullV2 &&
    1 ≤ job.ownershipEpoch && job.leaseGeneration != 0 && identifierPattern job.id && identifierPattern job.commandID &&
    identifierPattern job.agentServiceID && validExecutionHostID job.hostID && identifierPattern job.targetID &&
    job.leaseToken == "" && job.releaseToken == "" && d.activePortPlan.isNone && d.activePortPolicy.isNone

/-- one pending report against the cursor; `previous` is the sequence number of the report before it -/
def pendingReportValid (d : JournalData) (job : UpdateJob) (previous : ℕ) (p : PendingReport) : Bool :=
  p.jobID == job.id && p.report.leaseGeneration == job.leaseGeneration && p.report.serviceID == job.agentServiceID &&
    p.report.sequence != 0 && previous < p.report.sequence && p.report.sequence < d.nextSeq &&
    p.report.leaseToken == "" && p.report.portReconfigure.isNone &&
    (isProgressStatus p.report.status || isTerminalUpdateStatus p.report.status) && 0 ≤ p.report.progress &&
    p.report.progress ≤ 100 && (p.report.artifactDigest == "" || canonicalReportDigest p.report.artifactDigest != "") &&
    (p.report.previousDigest == "" || canonicalReportDigest p.report.previousDigest != "")

/-- the loop over the pending reports -/
def pendingReportsValid (d : JournalData) (job : UpdateJob) : ℕ → List PendingReport → Bool
  | _, [] => true
  | previous, p :: rest => pendingReportValid d job previous p && pendingReportsValid d job p.report.sequence rest

/-- the authority the reports were made under: the frozen binding, or the plan of a journal that predates bindings -/
def validatePendingAuthority (d : JournalData) (job : UpdateJob) : Except String Unit :=
  match job.softwareUpdate with
  | some binding =>
    if !binding.validate || !(validateJournalSoftwareJob job).isOk then
      .error "update journal software pending authority is incomplete"
    else .ok ()
  | none =>
    if job.policyRevision < 1 || !(d.activePlan.any fun p => p.validate X.mutationPlanPayloadSHA256 &&
        (validateJournalSoftwarePlan job p false).isOk) then
      .error "update journal legacy software pending lacks its original plan"
    else .ok ()

/-- `validateJournalSoftwarePendingForRestart` -/
def validateJournalSoftwarePendingForRestart (d : JournalData) : Except String Unit :=
  match d.activeJob with
  | none => .error "update journal software pending cursor is ambiguous"
  | some job =>
    if !pendingCursorValid d job then .error "update journal software pending cursor is ambiguous"
    else match validatePendingAuthority X d job with
      | .error reason => .error reason
      | .ok () =>
        if !pendingReportsValid d job 0 d.pending then
          .error "update journal software pending report does not match its saved cursor"
        else .ok ()

/-! ## What the checks do not read -/

/-- The in-memory fields of the active job are invisible to validation. -/
theorem validateJournalData_persisted (d : JournalData) :
    validateJournalData X d.persisted = validateJournalData X d := by
  obtain ⟨job, plan, portPlan, portPolicy, failure, nextSeq, pending, deployed⟩ := d
  cases job with
  | none => rfl
  | some job =>
    have hjob : validateJournalJob X (some job.persisted) = validateJournalJob X (some job) := rfl
    have hplans : validateJournalPlans X (some job.persisted) plan portPlan =
        validateJournalPlans X (some job) plan portPlan := by
      cases plan <;> cases portPlan <;> rfl
    have hfailure : validateJournalStageFailure (some job.persisted) failure =
        validateJournalStageFailure (some job) failure := by
      cases failure <;> rfl
    have hpolicy : ∀ s : PortAgentPolicyState, s.validate X (some job.persisted) portPlan =
        s.validate X (some job) portPlan := by
      intro s
      cases portPlan <;> rfl
    simp only [validateJournalData, JournalData.persisted, Option.map_some, hjob, hplans, hfailure, hpolicy]

/-- Validation reads the active fields alone. -/
theorem validateJournalData_active {d e : JournalData} (h : d.active = e.active) :
    validateJournalData X d = validateJournalData X e := by
  simp only [JournalData.active, ActiveFields.mk.injEq] at h
  obtain ⟨hj, hp, hq, hr, hf⟩ := h
  simp only [validateJournalData, hj, hp, hq, hr, hf]

/-- A journal without active fields is valid. -/
theorem validateJournalData_none {d : JournalData} (h : d.active = {}) : validateJournalData X d = .ok () := by
  rw [validateJournalData_active X (e := {}) h]
  rfl

end Validators

namespace JournalData

@[simp] theorem persisted_persisted (d : JournalData) : d.persisted.persisted = d.persisted := by
  obtain ⟨job, plan, portPlan, portPolicy, failure, nextSeq, pending, deployed⟩ := d
  cases job with
  | none => rfl
  | some job => rfl

theorem normalized_of_ne_zero {d : JournalData} (h : d.nextSeq ≠ 0) : d.normalized = d := by
  simp [normalized, h]

/-- The two cleared journals agree exactly when there was no stage failure to reset. -/
theorem clearedByMarker_eq_cleared {d : JournalData} : d.clearedByMarker = d.cleared ↔ d.activeStageFailure = none := by
  simp [clearedByMarker, cleared]

end JournalData
end AutostreamUpdater.Agent
