/-
Adopting a recovered software lease into the journal: `AdoptRecoveredSoftwareClaim` for the ordinary loop,
`AdoptRecoveredSoftwareClaimAfterGenerationRead` after an operator's reread of the generation, and
`SetTerminalSoftwareClaimRecovery` for terminal-only recovery. Each has its own long guard; all three end in
`saveSoftwareRecoveryAdoptionLocked`, which replaces the active job and drops the reports of its old lease.

  * `recovered_lease_adoption`: whichever of them changes the journal, only the active job, the report cursor and the pending
    reports change; the generation grows, the job and a complete saved authority stay, the dropped reports are those of the
    old lease; and after an error the data is what it was.

What they read of the outside (the clock, the safety of the directory, the durable intent, the outcome of the save) is one
argument, `AdoptionAnswers`. A generation is a `uint64`: its successor wraps.
-/
import AutostreamUpdater.Agent.Store
import AutostreamUpdater.Recovery.Laws

namespace AutostreamUpdater.Agent

open Contract Recovery

/-- `Journal` with the lease tokens it keeps in memory for pending reports -/
structure LeasedJournal extends Journal where
  leaseTokens : List (String × String) := []
  deriving DecidableEq, Repr

/-- `pendingLeaseKey` -/
def pendingLeaseKey (jobID : String) (sequence : ℕ) : String := jobID ++ ":" ++ toString sequence

/-- `n + 1` on `uint64` -/
def incrU64 (n : ℕ) : ℕ := (n + 1) % 2 ^ 64

/-- what the adoption functions read of the outside -/
structure AdoptionAnswers where
  now : Instant
  /-- `validateManagedDirectoryChain` of the state directory -/
  directorySafe : Bool
  /-- `loadSoftwareClaimRecoveryIntent` -/
  intent : Except String (Option SoftwareClaimRecoveryIntent)
  /-- `saveDataLocked` -/
  saved : Except String Unit

/-- one second and `localExecutorClientTimeout`, in nanoseconds -/
def second : ℤ := 10 ^ 9
def localExecutorClientTimeout : ℤ := 5 * second

/-! ## Jobs and their leases -/

/-- `sameSoftwareJobIdentity` -/
def sameSoftwareJobIdentity (left right : UpdateJob) : Bool :=
  left.isV2SoftwareJob && right.isV2SoftwareJob && left.id == right.id && left.operation == right.operation &&
    left.agentServiceID == right.agentServiceID && left.hostID == right.hostID &&
    left.transportMode == right.transportMode && left.ownershipEpoch == right.ownershipEpoch &&
    left.targetID == right.targetID && left.targetType == right.targetType && left.serviceType == right.serviceType &&
    left.deploymentMode == right.deploymentMode && left.currentVersion == right.currentVersion &&
    left.targetVersion == right.targetVersion && left.version == right.version && left.portReconfigure.isNone &&
    right.portReconfigure.isNone

section Guards

variable (X : RecoveryContracts)

variable (w : AdoptionAnswers) (j : LeasedJournal) (d : JournalData) (job : UpdateJob)
  (request : SoftwareClaimRecoveryRequest) (proof : SoftwareClaimRecoveryProof)

/-- an expiry that parses and is not the zero time -/
def expiryValid (value : String) : Bool := (X.parseTime value).any fun t => t != 0

/-- `sameRecoveredJobLease` -/
def sameRecoveredJobLease (active recovered : UpdateJob) : Bool :=
  if active.protocolVersion != 2 || recovered.protocolVersion != 2 ||
      ((!active.isPortContractV2 || !recovered.isPortContractV2) &&
        (!active.isV2SoftwareJob || !recovered.isV2SoftwareJob)) then
    active.commandID == recovered.commandID
  else if active.leaseGeneration == recovered.leaseGeneration then
    active.commandID == recovered.commandID && active.leaseExpiresAt == recovered.leaseExpiresAt
  else recovered.recoveryRequired && active.leaseGeneration != 0 && (active.leaseGeneration : ℤ) < maxInt64 &&
    recovered.leaseGeneration == incrU64 active.leaseGeneration && active.commandID != recovered.commandID &&
    identifierPattern active.commandID && identifierPattern recovered.commandID &&
    expiryValid X active.leaseExpiresAt && expiryValid X recovered.leaseExpiresAt

/-- the frozen authority of a software job, complete and of its own policy revision -/
def frozenAuthority : Bool :=
  job.softwareUpdate.any fun b => b.validate && job.policyRevision == b.projectionRevision

/-- the fields that `sameRecoveredJobIntent` compares for every operation -/
def sameRecoveredJobFields (active recovered : UpdateJob) : Bool :=
  active.protocolVersion == recovered.protocolVersion && sameRecoveredJobLease X active recovered &&
    active.id == recovered.id && active.operation == recovered.operation &&
    active.agentServiceID == recovered.agentServiceID && active.hostID == recovered.hostID &&
    active.transportMode == recovered.transportMode && active.ownershipEpoch == recovered.ownershipEpoch &&
    active.policyRevision == recovered.policyRevision && active.targetID == recovered.targetID &&
    active.targetType == recovered.targetType && active.serviceType == recovered.serviceType &&
    active.deploymentMode == recovered.deploymentMode && active.currentVersion == recovered.currentVersion &&
    active.targetVersion == recovered.targetVersion && active.version == recovered.version

/-- `sameRecoveredJobIntent`; the bindings of two port jobs are compared by value -/
def sameRecoveredJobIntent (active recovered : UpdateJob) : Bool :=
  if !sameRecoveredJobFields X active recovered then false
  else if active.effectiveOperation == updateJobOperationSoftwareUpdate then
    if active.softwareClaimRejected != recovered.softwareClaimRejected || active.portReconfigure.isSome ||
        recovered.portReconfigure.isSome then false
    else if active.isV2SoftwareJob && (active.leaseGeneration != recovered.leaseGeneration ||
        active.commandID != recovered.commandID) &&
        (active.softwareClaimRejected || !frozenAuthority active || !frozenAuthority recovered) then false
    else active.softwareUpdate == recovered.softwareUpdate
  else active.portReconfigure == recovered.portReconfigure

/-- `journalLegacySoftwareBindingMatches` -/
def journalLegacySoftwareBindingMatches (active recovered : UpdateJob) (plan : Option MutationPlan) : Bool :=
  active.softwareUpdate.isNone && (recovered.softwareUpdate.any fun b => b.validate &&
    active.policyRevision == b.configRevision && active.softwareClaimRejected == recovered.softwareClaimRejected &&
    active.leaseGeneration != recovered.leaseGeneration && sameRecoveredJobLease X active recovered &&
    sameSoftwareJobIdentity active recovered && plan.any fun p => p.validate X.mutationPlanPayloadSHA256 &&
      (validateJournalSoftwarePlan active p false).isOk && p.configSHA256 == b.executorPolicySHA256)

/-- the only reports a terminal-only recovery may find pending: the first progress of a retained cursor -/
def softwareClaimRecoveryPendingAllowed : Bool :=
  if d.pending.length == 0 then true
  else match d.activeJob, d.pending with
    | some active, [pending] =>
      active.isV2SoftwareJob && !active.softwareClaimRejected && (active.softwareUpdate.any fun b => b.validate) &&
        (validateJournalSoftwareJob active).isOk && active.reportSequence ≤ 1 && active.sequence == 0 &&
        d.nextSeq == 2 && identifierPattern active.commandID && active.leaseToken == "" && active.releaseToken == "" &&
        active.portReconfigure.isNone && active.status == "claimed" && active.progress == 0 && active.code == "" &&
        active.artifactDigest == "" && active.previousDigest == "" && d.activePlan.isNone && d.activePortPlan.isNone &&
        d.activePortPolicy.isNone && d.activeStageFailure.isNone && pending.jobID == active.id &&
        pending.report.serviceID == active.agentServiceID && pending.report.leaseGeneration == active.leaseGeneration &&
        pending.report.sequence == 1 && pending.report.status == "claimed" && pending.report.progress == 5 &&
        pending.report.code == "" && pending.report.leaseToken == "" && pending.report.artifactDigest == "" &&
        pending.report.previousDigest == "" && pending.report.portReconfigure.isNone
    | _, _ => false

/-! ## The shared save -/

/-- a report of the active job's lease, without credentials -/
def discardable (active : Option UpdateJob) (p : PendingReport) : Bool :=
  active.any fun a => p.jobID == a.id && p.report.leaseGeneration == a.leaseGeneration &&
    p.report.serviceID == a.agentServiceID && p.report.sequence != 0 && p.report.leaseToken == "" &&
    p.report.portReconfigure.isNone

/-- the journal that adopts `job` -/
def JournalData.adopting : JournalData :=
  { d with activeJob := some job, nextSeq := job.reportSequence, pending := [] }

/-- `saveSoftwareRecoveryAdoptionLocked`; with reports pending there is an active job -/
def saveSoftwareRecoveryAdoptionLocked : Except String Unit × LeasedJournal :=
  if !j.data.pending.all (discardable j.data.activeJob) then
    (.error "recovered software claim cannot discard unrelated pending reports", j)
  else match w.saved with
    | .error reason =>
      let poisoned := j.poisonLocked ("persist recovered software lease and pending report handoff: " ++ reason)
      (poisoned.1, { j with toJournal := poisoned.2 })
    | .ok () =>
      let dropped := j.data.pending.map fun p => pendingLeaseKey p.jobID p.report.sequence
      (.ok (), { j with data := j.data.adopting job
                        leaseTokens := j.leaseTokens.filter fun t => !dropped.contains t.1 })

/-! ## The three entries -/

/-- `checkMutableLocked`, and what a function does to a journal that is not poisoned -/
def whenMutable (act : Except String Unit × LeasedJournal) : Except String Unit × LeasedJournal :=
  match j.poisoned with
  | some reason => (.error reason, j)
  | none => act

/-- the guard of `AdoptRecoveredSoftwareClaim` -/
def ordinaryClaimAdmissible (active job : UpdateJob) : Bool :=
  active.isV2SoftwareJob && job.isV2SoftwareJob && (job.softwareUpdate.any fun b => b.validate) &&
    !active.softwareClaimRejected && !job.softwareClaimRejected && !job.recoveryClear && job.recoveryRequired &&
    job.validateOperationUnion X.toContracts && (validateJournalSoftwareJob job).isOk &&
    (sameRecoveredJobIntent X active job || journalLegacySoftwareBindingMatches X active job d.activePlan) &&
    job.leaseGeneration == incrU64 active.leaseGeneration && active.commandID != job.commandID &&
    job.reportSequence != 0 && active.leaseToken == "" && active.releaseToken == "" && job.leaseToken == "" &&
    job.releaseToken == "" && (validateJournalData X.toAgentContracts d).isOk && d.activePortPlan.isNone &&
    d.activePortPolicy.isNone

/-- `AdoptRecoveredSoftwareClaim` -/
def adoptRecoveredSoftwareClaim : Except String Unit × LeasedJournal :=
  whenMutable j <| match j.data.activeJob with
    | none => (.error "recovered software claim does not match the saved ordinary lease and authority", j)
    | some active =>
      if !ordinaryClaimAdmissible X j.data active job then
        (.error "recovered software claim does not match the saved ordinary lease and authority", j)
      else match j.data.activePlan.elim (.ok ()) fun plan => validateJournalSoftwarePlan job plan false with
        | .error reason => (.error reason, j)
        | .ok () => saveSoftwareRecoveryAdoptionLocked w j job

/-- the recovered job is the one the operator asked for -/
def jobMatchesRequest : Bool :=
  job.id == request.jobID && job.targetID == request.targetID && job.currentVersion == request.currentVersion &&
    job.effectiveVersion == request.targetVersion &&
    (job.softwareUpdate.any fun b => b.configRevision == request.configRevision) &&
    job.ownershipEpoch == request.ownershipEpoch

/-- the guard of `AdoptRecoveredSoftwareClaimAfterGenerationRead` -/
def rereadClaimAdmissible (d : JournalData) (active : UpdateJob) (plan : MutationPlan) (job : UpdateJob)
    (request : SoftwareClaimRecoveryRequest) : Bool :=
  request.validate && plan.validate X.mutationPlanPayloadSHA256 && sameSoftwareJobIdentity active job &&
    !active.softwareClaimRejected && !job.softwareClaimRejected && (job.softwareUpdate.any fun b => b.validate) &&
    job.validateOperationUnion X.toContracts && (validateJournalSoftwareJob job).isOk && active.leaseGeneration != 0 &&
    active.leaseGeneration ≤ request.leaseGeneration && job.leaseGeneration == incrU64 request.leaseGeneration &&
    job.recoveryRequired && !job.recoveryClear && job.reportSequence != 0 && active.commandID != job.commandID &&
    identifierPattern active.commandID && identifierPattern job.commandID && active.leaseToken == "" &&
    active.releaseToken == "" && job.leaseToken == "" && job.releaseToken == "" && jobMatchesRequest job request &&
    (validateJournalData X.toAgentContracts d).isOk && d.activePortPlan.isNone && d.activePortPolicy.isNone &&
    (validateJournalSoftwarePlan job plan false).isOk

/-- the authority of the reread cursor: frozen and unchanged, or the one its original plan was made under -/
def rereadAuthorityMatches (active : UpdateJob) (plan : MutationPlan) (job : UpdateJob)
    (request : SoftwareClaimRecoveryRequest) : Except String Unit :=
  match active.softwareUpdate with
  | some b =>
    if !b.validate || some b != job.softwareUpdate || active.policyRevision != job.policyRevision then
      .error "explicit software reconciliation cannot replace frozen policy authority"
    else .ok ()
  | none =>
    if active.policyRevision != request.configRevision ||
        !(job.softwareUpdate.any fun b => plan.configSHA256 == b.executorPolicySHA256) then
      .error "explicit software reconciliation legacy cursor lacks its original trusted policy plan"
    else .ok ()

/-- no terminal-only intent is unsettled -/
def noUnsettledIntent : Except String (Option SoftwareClaimRecoveryIntent) → Bool
  | .error _ => false
  | .ok found => found.all fun i => i.settled

/-- `AdoptRecoveredSoftwareClaimAfterGenerationRead` -/
def adoptRecoveredSoftwareClaimAfterGenerationRead : Except String Unit × LeasedJournal :=
  whenMutable j <| match j.data.activeJob, j.data.activePlan with
    | some active, some plan =>
      if !rereadClaimAdmissible X j.data active plan job request then
        (.error "explicit software reconciliation does not match its original trusted plan and exact generation request", j)
      else match rereadAuthorityMatches active plan job request with
        | .error reason => (.error reason, j)
        | .ok () =>
          if !expiryValid X active.leaseExpiresAt || !expiryValid X job.leaseExpiresAt then
            (.error "explicit software reconciliation lease expiry binding is invalid", j)
          else if !w.directorySafe then
            (.error "explicit software reconciliation state directory is unsafe", j)
          else if !noUnsettledIntent w.intent then
            (.error "explicit software reconciliation cannot replace a terminal-only recovery intent", j)
          else saveSoftwareRecoveryAdoptionLocked w j job
    | _, _ =>
      (.error "explicit software reconciliation does not match its original trusted plan and exact generation request", j)

/-- the absence proof belongs to the request and is fresh -/
def proofFresh (now : Instant) (request : SoftwareClaimRecoveryRequest) (proof : SoftwareClaimRecoveryProof) : Bool :=
  request.validate && proof.validate && proof.noMutation && proof.requestSHA256 == request.sha256 X &&
    proof.observedAt ≤ now + second && now - proof.observedAt ≤ localExecutorClientTimeout

/-- the authority of a job is the one the proof was made under -/
def jobMatchesProof : Bool :=
  job.agentServiceID == proof.updaterID && job.hostID == proof.hostID && job.ownershipEpoch == proof.ownershipEpoch &&
    job.softwareUpdate.any fun b => b.sourcePolicyRevision == proof.sourcePolicyRevision &&
      b.projectionRevision == proof.projectionRevision && b.executorPolicyRevision == proof.executorPolicyRevision &&
      b.executorPolicySHA256 == proof.executorPolicySHA256

/-- the guard of `SetTerminalSoftwareClaimRecovery` on its arguments -/
def terminalClaimAdmissible (now : Instant) (job : UpdateJob) (request : SoftwareClaimRecoveryRequest)
    (proof : SoftwareClaimRecoveryProof) : Bool :=
  proofFresh X now request proof && job.isV2SoftwareJob && job.validateOperationUnion X.toContracts &&
    (validateJournalSoftwareJob job).isOk && (job.softwareUpdate.any fun b => b.validate) && !job.softwareClaimRejected &&
    jobMatchesRequest job request && job.recoveryRequired && !job.recoveryClear &&
    job.leaseGeneration == incrU64 request.leaseGeneration && job.reportSequence != 0 && identifierPattern job.commandID &&
    job.leaseToken == "" && job.releaseToken == "" && ((X.parseTime job.leaseExpiresAt).any fun t => now < t) &&
    jobMatchesProof job proof

/-- the journal that `SetTerminalSoftwareClaimRecovery` may change -/
def terminalJournalValid : Bool :=
  (validateJournalData X.toAgentContracts d).isOk && d.activePlan.isNone && d.activePortPlan.isNone &&
    d.activePortPolicy.isNone && d.activeStageFailure.isNone && softwareClaimRecoveryPendingAllowed d

/-- the unsettled intent of exactly this request and job -/
def terminalIntentMatches : Except String (Option SoftwareClaimRecoveryIntent) → Bool
  | .ok (some i) => !i.settled && i.request == request && softwareClaimRecoveryJobMatches i job
  | _ => false

/-- what `SetTerminalSoftwareClaimRecovery` does with a retained cursor: refuse it, or say whether it is already the fresh
one -/
def checkRetainedCursor (active job : UpdateJob) (request : SoftwareClaimRecoveryRequest) : Except String Bool :=
  if !sameSoftwareJobIdentity active job || active.leaseGeneration == 0 || !identifierPattern active.commandID ||
      active.leaseToken != "" || active.releaseToken != "" then
    .error "terminal software recovery cannot replace another retained cursor"
  else
    let authority : Except String Unit := match active.softwareUpdate, job.softwareUpdate with
      | some a, some b =>
        if a.validate then
          if a != b || active.policyRevision != job.policyRevision then
            .error "terminal software recovery cannot replace saved software authority"
          else .ok ()
        else if !active.softwareClaimRejected || active.policyRevision != 0 || !a.validateIntent ||
            a.configRevision != b.configRevision || a.commandSHA256 != b.commandSHA256 ||
            (a.configSHA256 != "" && a.configSHA256 != b.configSHA256) then
          .error "terminal software recovery cannot replace saved software authority"
        else .ok ()
      | some _, none => .error "terminal software recovery cannot replace saved software authority"
      | none, _ =>
        if active.policyRevision != request.configRevision then
          .error "terminal software recovery legacy cursor does not retain its original configuration revision"
        else .ok ()
    match authority with
    | .error reason => .error reason
    | .ok () =>
      if active.leaseGeneration == job.leaseGeneration && active.commandID == job.commandID &&
          active.leaseExpiresAt == job.leaseExpiresAt && !active.softwareClaimRejected && active.softwareUpdate.isSome &&
          active.softwareUpdate == job.softwareUpdate && active.policyRevision == job.policyRevision then
        .ok true
      else if active.leaseGeneration > request.leaseGeneration || active.commandID == job.commandID then
        .error "terminal software recovery requires the exact supplied fresh lease"
      else .ok false

/-- `SetTerminalSoftwareClaimRecovery` -/
def setTerminalSoftwareClaimRecovery : Except String Unit × LeasedJournal :=
  whenMutable j <|
    if !terminalClaimAdmissible X w.now job request proof then
      (.error "terminal software recovery lease or root absence proof is invalid", j)
    else if !terminalJournalValid X j.data then
      (.error "terminal software recovery cannot replace execution or pending report state", j)
    else if !w.directorySafe then (.error "terminal software recovery state directory is unsafe", j)
    else if !terminalIntentMatches job request w.intent then
      (.error "terminal software recovery durable request compare-and-swap failed", j)
    else match j.data.activeJob with
      | none => saveSoftwareRecoveryAdoptionLocked w j job
      | some active => match checkRetainedCursor active job request with
        | .error reason => (.error reason, j)
        | .ok true => (.ok (), j)
        | .ok false => saveSoftwareRecoveryAdoptionLocked w j job

end Guards

/-! ## What an adoption changes -/

/-- the three entries -/
inductive Adoption where
  | ordinary
  | reread (request : SoftwareClaimRecoveryRequest)
  | terminal (request : SoftwareClaimRecoveryRequest) (proof : SoftwareClaimRecoveryProof)
  deriving DecidableEq, Repr

/-- the entry called -/
def adopt (X : RecoveryContracts) (w : AdoptionAnswers) (j : LeasedJournal) (job : UpdateJob) :
    Adoption → Except String Unit × LeasedJournal
  | .ordinary => adoptRecoveredSoftwareClaim X w j job
  | .reread request => adoptRecoveredSoftwareClaimAfterGenerationRead X w j job request
  | .terminal request proof => setTerminalSoftwareClaimRecovery X w j job request proof

/-- the recovered lease against the one it replaces -/
structure Succeeds (active job : UpdateJob) : Prop where
  generation : active.leaseGeneration < job.leaseGeneration
  identity : sameSoftwareJobIdentity active job = true
  authority : ∀ b, active.softwareUpdate = some b → b.validate = true →
    job.softwareUpdate = some b ∧ job.policyRevision = active.policyRevision

/-- a journal that has adopted a lease: what changed, and what was dropped -/
structure Adopted (j j' : LeasedJournal) (job : UpdateJob) : Prop where
  data : j'.data = { j.data with activeJob := some job, nextSeq := job.reportSequence, pending := [] }
  poisoned : j'.poisoned = j.poisoned
  tokens : ∀ t, t ∈ j'.leaseTokens ↔ t ∈ j.leaseTokens ∧
    ∀ p ∈ j.data.pending, t.1 ≠ pendingLeaseKey p.jobID p.report.sequence
  lease : ∀ active, j.data.activeJob = some active → Succeeds active job
  dropped : ∀ p ∈ j.data.pending, ∃ active, j.data.activeJob = some active ∧ p.jobID = active.id ∧
    p.report.leaseGeneration = active.leaseGeneration ∧ p.report.serviceID = active.agentServiceID

/-- what a call may leave -/
def Sound (j : LeasedJournal) (job : UpdateJob) (w : AdoptionAnswers) (r : Except String Unit × LeasedJournal) : Prop :=
  (r.1 = .ok () → r.2 = j ∨ Adopted j r.2 job) ∧
    ∀ reason, r.1 = .error reason → r.2.data = j.data ∧ r.2.leaseTokens = j.leaseTokens ∧
      (r.2 = j ∨ w.saved ≠ .ok ())

section Laws

variable {X : RecoveryContracts} {w : AdoptionAnswers} {j : LeasedJournal} {active job : UpdateJob}
  {request : SoftwareClaimRecoveryRequest} {proof : SoftwareClaimRecoveryProof} {plan : MutationPlan}

theorem sound_refused (reason : String) : Sound j job w (.error reason, j) :=
  ⟨nofun, fun _ _ => ⟨rfl, rfl, .inl rfl⟩⟩

theorem sound_whenMutable {act : Except String Unit × LeasedJournal} (h : Sound j job w act) :
    Sound j job w (whenMutable j act) := by
  unfold whenMutable
  cases j.poisoned with
  | none => exact h
  | some reason => exact sound_refused reason

/-- the shared save drops reports of the active lease only -/
theorem sound_save (hlease : ∀ active, j.data.activeJob = some active → Succeeds active job) :
    Sound j job w (saveSoftwareRecoveryAdoptionLocked w j job) := by
  unfold saveSoftwareRecoveryAdoptionLocked
  split
  · exact sound_refused _
  · rename_i hpending
    simp only [Bool.not_eq_true', Bool.not_eq_false, List.all_eq_true] at hpending
    cases hsaved : w.saved with
    | error reason =>
      refine ⟨nofun, fun _ _ => ⟨rfl, rfl, .inr ?_⟩⟩
      rw [hsaved]
      nofun
    | ok u =>
      refine ⟨fun _ => .inr ⟨rfl, rfl, ?_, hlease, ?_⟩, nofun⟩
      · intro t
        simp only [List.mem_filter, Bool.not_eq_true', List.contains_eq_mem, decide_eq_false_iff_not, List.mem_map,
          not_exists, not_and]
        exact and_congr_right fun _ => forall₂_congr fun p _ => ne_comm
      · intro p hp
        have hdiscard := hpending p hp
        simp only [discardable, Option.any_eq_true, Bool.and_eq_true, beq_iff_eq, and_assoc] at hdiscard
        obtain ⟨active, hactive, hid, hgeneration, hservice, _⟩ := hdiscard
        exact ⟨active, hactive, hid, hgeneration, hservice⟩

/-- a successor below the bound does not wrap -/
theorem lt_incrU64 {n : ℕ} (h : (n : ℤ) < maxInt64) : incrU64 n = n + 1 := by
  unfold incrU64
  unfold maxInt64 at h
  omega

/-- a different lease of one v2 software job is the next one -/
theorem lease_advances (hactive : active.isV2SoftwareJob = true) (hjob : job.isV2SoftwareJob = true)
    (h : sameRecoveredJobLease X active job = true) (hne : active.leaseGeneration ≠ job.leaseGeneration) :
    active.leaseGeneration < job.leaseGeneration := by
  have hp : active.protocolVersion = 2 ∧ job.protocolVersion = 2 := by
    simp only [UpdateJob.isV2SoftwareJob, Bool.and_eq_true, beq_iff_eq] at hactive hjob
    exact ⟨hactive.1, hjob.1⟩
  unfold sameRecoveredJobLease at h
  simp only [hp.1, hp.2, hactive, hjob, bne_self_eq_false, Bool.not_true, Bool.or_self, Bool.and_false,
    Bool.false_eq_true, if_false, beq_iff_eq, hne, Bool.and_eq_true, decide_eq_true_eq, and_assoc] at h
  obtain ⟨_, _, hbound, hnext, _⟩ := h
  rw [hnext, lt_incrU64 hbound]
  omega

/-! ## The guards -/

/-- the unchanged intent of a software job -/
theorem succeeds_sameIntent (hactive : active.isV2SoftwareJob = true) (hjob : job.isV2SoftwareJob = true)
    (h : sameRecoveredJobIntent X active job = true) (hne : active.leaseGeneration ≠ job.leaseGeneration) :
    Succeeds active job := by
  have hop : (active.effectiveOperation == updateJobOperationSoftwareUpdate) = true := by
    simp only [UpdateJob.isV2SoftwareJob, Bool.and_eq_true] at hactive
    exact hactive.2
  unfold sameRecoveredJobIntent at h
  split_ifs at h with hfields hport
  simp only [Bool.not_eq_true', Bool.not_eq_false, sameRecoveredJobFields, Bool.and_eq_true, beq_iff_eq,
    and_assoc] at hfields
  obtain ⟨_, hlease, hid, hoper, hagent, hhost, htransport, hepoch, hpolicy, htarget, htype, hservice, hmode, hcurrent,
    hversion, hver⟩ := hfields
  simp only [Bool.or_eq_true, not_or, Option.not_isSome_iff_eq_none] at hport
  have hsoftware : active.softwareUpdate = job.softwareUpdate := by simpa using h
  refine ⟨lease_advances hactive hjob hlease hne, ?_, ?_⟩
  · simp [sameSoftwareJobIdentity, hactive, hjob, hid, hoper, hagent, hhost, htransport, hepoch, htarget, htype, hservice,
      hmode, hcurrent, hversion, hver, hport.1.2, hport.2]
  · intro b hb _
    exact ⟨hsoftware ▸ hb, hpolicy.symm⟩

/-- a journal that predates bindings has no authority to keep -/
theorem succeeds_legacy {plan : Option MutationPlan} (h : journalLegacySoftwareBindingMatches X active job plan = true)
    (hactive : active.isV2SoftwareJob = true) (hjob : job.isV2SoftwareJob = true) : Succeeds active job := by
  simp only [journalLegacySoftwareBindingMatches, Bool.and_eq_true, Option.isNone_iff_eq_none, Option.any_eq_true,
    bne_iff_ne] at h
  obtain ⟨hnone, b, _, ⟨⟨⟨⟨_, _⟩, hne⟩, hlease⟩, hidentity⟩, _⟩ := h
  refine ⟨lease_advances hactive hjob hlease hne, hidentity, ?_⟩
  intro b hb
  rw [hnone] at hb
  cases hb

theorem succeeds_ordinary {d : JournalData} (h : ordinaryClaimAdmissible X d active job = true) : Succeeds active job := by
  simp only [ordinaryClaimAdmissible, Bool.and_eq_true, Bool.or_eq_true, beq_iff_eq, and_assoc] at h
  obtain ⟨hactive, hjob, _, _, _, _, _, _, _, hintent, hnext, _⟩ := h
  rcases hintent with hintent | hlegacy
  · refine succeeds_sameIntent hactive hjob hintent ?_
    intro heq
    rw [heq, incrU64] at hnext
    omega
  · exact succeeds_legacy hlegacy hactive hjob

/-- the generation an operator asked for is below the one of the fresh lease -/
theorem request_advances (hrequest : request.validate = true) (hnext : job.leaseGeneration = incrU64 request.leaseGeneration)
    (hle : active.leaseGeneration ≤ request.leaseGeneration) : active.leaseGeneration < job.leaseGeneration := by
  simp only [SoftwareClaimRecoveryRequest.validate, Bool.and_eq_true, decide_eq_true_eq] at hrequest
  rw [hnext, lt_incrU64 hrequest.1.1.2]
  omega

theorem succeeds_reread {d : JournalData} (h : rereadClaimAdmissible X d active plan job request = true)
    (hauthority : rereadAuthorityMatches active plan job request = .ok ()) : Succeeds active job := by
  simp only [rereadClaimAdmissible, Bool.and_eq_true, beq_iff_eq, decide_eq_true_eq, and_assoc] at h
  obtain ⟨hrequest, _, hidentity, _, _, _, _, _, _, hle, hnext, _⟩ := h
  refine ⟨request_advances hrequest hnext hle, hidentity, ?_⟩
  intro b hb _
  unfold rereadAuthorityMatches at hauthority
  rw [hb] at hauthority
  dsimp only at hauthority
  split_ifs at hauthority with hbad
  simp only [Bool.or_eq_true, Bool.not_eq_true', bne_iff_ne, not_or, ne_eq, Decidable.not_not] at hbad
  exact ⟨hbad.1.2.symm, hbad.2.symm⟩

theorem succeeds_terminal (h : terminalClaimAdmissible X w.now job request proof = true)
    (hcursor : checkRetainedCursor active job request = .ok false) : Succeeds active job := by
  have hgeneration : request.validate = true ∧ job.leaseGeneration = incrU64 request.leaseGeneration := by
    simp only [terminalClaimAdmissible, proofFresh, Bool.and_eq_true, beq_iff_eq, and_assoc] at h
    obtain ⟨hrequest, _, _, _, _, _, _, _, _, _, _, _, _, _, hnext, _⟩ := h
    exact ⟨hrequest, hnext⟩
  unfold checkRetainedCursor at hcursor
  split at hcursor
  · cases hcursor
  · rename_i hretained
    simp only [Bool.or_eq_true, Bool.not_eq_true', not_or, Bool.not_eq_false] at hretained
    dsimp only at hcursor
    split at hcursor
    · cases hcursor
    · rename_i hauthority
      split at hcursor
      · cases hcursor
      · split at hcursor
        · cases hcursor
        · rename_i hstale
          simp only [Bool.or_eq_true, decide_eq_true_eq, not_or, not_lt] at hstale
          refine ⟨request_advances hgeneration.1 hgeneration.2 hstale.1, hretained.1.1.1.1, ?_⟩
          intro a ha hvalid
          rw [ha] at hauthority
          cases hb : job.softwareUpdate with
          | none =>
            rw [hb] at hauthority
            cases hauthority
          | some b =>
            rw [hb] at hauthority
            simp only [hvalid, if_true] at hauthority
            split_ifs at hauthority with hbad
            simp only [Bool.or_eq_true, bne_iff_ne, not_or, ne_eq, Decidable.not_not] at hbad
            exact ⟨by rw [hbad.1], hbad.2.symm⟩

/-- **Recovered lease adoption.** For every journal, recovered job, entry and answer of the outside: a call that succeeds
leaves the journal as it was or adopts the lease; then only the active job, the report cursor and the pending reports change
(with the tokens of the dropped reports), the generation strictly increases, the job's identity and a complete saved authority
are unchanged, and every dropped report belonged to the old lease of the same job. A call that fails leaves the data and the
tokens unchanged; only a failed save poisons the journal. -/
theorem recovered_lease_adoption (X : RecoveryContracts) (w : AdoptionAnswers) (j : LeasedJournal) (job : UpdateJob)
    (entry : Adoption) :
    ((adopt X w j job entry).1 = .ok () → (adopt X w j job entry).2 = j ∨ Adopted j (adopt X w j job entry).2 job) ∧
      ∀ reason, (adopt X w j job entry).1 = .error reason → (adopt X w j job entry).2.data = j.data ∧
        (adopt X w j job entry).2.leaseTokens = j.leaseTokens ∧
        ((adopt X w j job entry).2 = j ∨ w.saved ≠ .ok ()) := by
  change Sound j job w (adopt X w j job entry)
  cases entry with
  | ordinary =>
    refine sound_whenMutable ?_
    cases hactive : j.data.activeJob with
    | none => exact sound_refused _
    | some active =>
      dsimp only
      split
      · exact sound_refused _
      · rename_i hadmissible
        split
        · exact sound_refused _
        · refine sound_save ?_
          intro a ha
          cases hactive.symm.trans ha
          exact succeeds_ordinary (by simpa using hadmissible)
  | reread request =>
    refine sound_whenMutable ?_
    split
    · rename_i active plan hactive hplan
      split
      · exact sound_refused _
      · rename_i hadmissible
        cases hauthority : rereadAuthorityMatches active plan job request with
        | error reason => exact sound_refused _
        | ok u =>
          dsimp only
          split_ifs
          · exact sound_refused _
          · exact sound_refused _
          · exact sound_refused _
          · refine sound_save ?_
            intro a ha
            cases hactive.symm.trans ha
            exact succeeds_reread (by simpa using hadmissible) hauthority
    · exact sound_refused _
  | terminal request proof =>
    refine sound_whenMutable ?_
    split_ifs with hadmissible
    · exact sound_refused _
    · exact sound_refused _
    · exact sound_refused _
    · exact sound_refused _
    · cases hactive : j.data.activeJob with
      | none =>
        refine sound_save ?_
        intro a ha
        cases hactive.symm.trans ha
      | some active =>
        dsimp only
        cases hcursor : checkRetainedCursor active job request with
        | error reason => exact sound_refused _
        | ok same =>
          cases same with
          | true => exact ⟨fun _ => .inl rfl, nofun⟩
          | false =>
            refine sound_save ?_
            intro a ha
            cases hactive.symm.trans ha
            exact succeeds_terminal (by simpa using hadmissible) hcursor

end Laws

namespace Leased

/-- the recovery sample, where every time parses -/
def contracts : RecoveryContracts := { Recovery.Sample.contracts with parseTime := fun _ => some 1 }

def job (commandID : String) (generation : ℕ) : UpdateJob where
  protocolVersion := 2
  commandID := commandID
  id := "job-1"
  operation := "software_update"
  agentServiceID := "updater-1"
  hostID := "host-1"
  transportMode := "pull_v2"
  ownershipEpoch := 1
  policyRevision := 1
  softwareUpdate := some
    { configRevision := 1, commandSHA256 := Recovery.Sample.policyDigest, sourcePolicyRevision := 1, projectionRevision := 1,
      executorPolicyRevision := 1, executorPolicySHA256 := Recovery.Sample.policyDigest }
  targetID := "worker-1"
  serviceType := "worker"
  deploymentMode := "systemd"
  currentVersion := "v1.0.0"
  targetVersion := "v1.1.0"
  leaseExpiresAt := "2026-09-01T00:00:00Z"
  reportSequence := 2
  leaseGeneration := generation
  recoveryRequired := true

/-- an interrupted job with one report of its lease pending -/
def journal : LeasedJournal where
  data :=
    { activeJob := some (job "command-1" 3)
      nextSeq := 3
      pending := [⟨"job-1", { serviceID := "updater-1", sequence := 2, leaseGeneration := 3, status := "downloading" }⟩] }
  leaseTokens := [("job-1:2", "token")]

def answers : AdoptionAnswers := ⟨0, true, .ok none, .ok ()⟩

theorem adopts : (adopt contracts answers journal (job "command-2" 4) .ordinary).1 = .ok () ∧
    (adopt contracts answers journal (job "command-2" 4) .ordinary).2 ≠ journal := by decide +kernel

end Leased

/-- The theorem applies: the sample adopts the next lease of its job and drops the report of the old one. -/
theorem sample_lease_adopted :
    (adopt Leased.contracts Leased.answers Leased.journal (Leased.job "command-2" 4) .ordinary).1 = .ok () ∧
    Adopted Leased.journal (adopt Leased.contracts Leased.answers Leased.journal (Leased.job "command-2" 4) .ordinary).2
      (Leased.job "command-2" 4) := by
  obtain ⟨hok, hchanged⟩ := Leased.adopts
  have hadopted := (recovered_lease_adoption Leased.contracts Leased.answers Leased.journal (Leased.job "command-2" 4)
    .ordinary).1 hok
  exact ⟨hok, hadopted.resolve_left hchanged⟩

end AutostreamUpdater.Agent
