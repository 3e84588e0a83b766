/-
The mutation ledger of a software update: one durable record per target that says which job is under way, what was staged
for it, how far its mutation got and, once it is over, with which result.

Schema version and time stamp of the record are left out: every save rewrites them and nothing reads them back. A path is
the list of its components below the root directory; the executor builds all its paths with `filepath.Join` from absolute
configured ones, so they are clean and absolute.
-/
import AutostreamUpdater.Contract.Job

namespace AutostreamUpdater.Software

open Contract

/-- an absolute, clean path -/
abbrev Path := List String

/-- `pathWithin` -/
def pathWithin (root candidate : Path) : Bool := root.isPrefixOf candidate

/-- the operations of a software request -/
inductive Operation where
  | stage | apply | reconcile
  deriving DecidableEq, Repr

/-! ## Results -/

/-- the statuses of an `ApplyResult` -/
inductive ApplyStatus where
  | succeeded | rolledBack | failed
  deriving DecidableEq, Repr

/-- `ApplyResult` -/
structure ApplyResult where
  status : ApplyStatus
  artifactDigest : String := ""
  previousDigest : String := ""
  rolledBack : Bool := false
  message : String := ""
  deriving DecidableEq, Repr

/-- the two statuses a job can end with -/
def ApplyResult.settled (r : ApplyResult) : Bool := r.status == .succeeded || r.status == .rolledBack

/-- `sanitizeRemoteApplyResult` -/
def sanitizeRemoteApplyResult (result : ApplyResult) : ApplyResult where
  status := result.status
  artifactDigest := normalizeDigest result.artifactDigest
  previousDigest := normalizeDigest result.previousDigest
  rolledBack := result.rolledBack
  message := match result.status with
    | .succeeded => "target update completed and was verified"
    | .rolledBack => "previous target state was restored and verified"
    | .failed => ""

/-- `ResultArtifactDigest` -/
def resultArtifactDigest (plan : MutationPlan) : String :=
  if plan.deploymentMode == modeDocker then normalizeDigest plan.expectedImageDigest
  else normalizeDigest plan.artifactDigest

/-- `bindRemoteApplyResult` -/
def bindRemoteApplyResult (plan : MutationPlan) (result : ApplyResult) : Option ApplyResult :=
  let expected := normalizeDigest (resultArtifactDigest plan)
  if expected == "" || (result.artifactDigest != "" && normalizeDigest result.artifactDigest != expected) then none
  else some (sanitizeRemoteApplyResult { result with artifactDigest := expected })

/-! ## Intent and stage -/

/-- `remoteMutationIntent` -/
structure RemoteMutationIntent where
  hostID : String
  targetID : String
  serviceType : String
  deploymentMode : String
  currentVersion : String
  configSHA256 : String
  targetVersion : String
  artifactDigest : String
  expectedVersion : String
  expectedImageDigest : String
  expectedPlatformDigest : String
  deriving DecidableEq, Repr

/-- `newRemoteMutationIntent` -/
def newRemoteMutationIntent (plan : MutationPlan) : RemoteMutationIntent where
  hostID := plan.hostID
  targetID := plan.targetID
  serviceType := plan.serviceType
  deploymentMode := plan.deploymentMode
  currentVersion := plan.currentVersion
  configSHA256 := plan.configSHA256
  targetVersion := plan.targetVersion
  artifactDigest := normalizeDigest plan.artifactDigest
  expectedVersion := plan.expectedVersion
  expectedImageDigest := normalizeDigest plan.expectedImageDigest
  expectedPlatformDigest := normalizeDigest plan.expectedPlatformDigest

/-- `remoteMutationIntent.matches` -/
def RemoteMutationIntent.matches (i : RemoteMutationIntent) (plan : MutationPlan) : Bool :=
  i == newRemoteMutationIntent plan

/-- `dockerMutationBaseline` -/
structure DockerMutationBaseline where
  versionEnvSHA256 : String
  versionEnvMode : ℕ
  versionEnvExisted : Bool
  bundleVersion : String
  manifestDigest : String
  sourceVersion : String
  containerID : String
  imageID : String
  repositoryDigest : String
  deriving DecidableEq, Repr

/-- a container id is short and has no white space or zero byte in it -/
def containerIDValid (id : String) : Bool :=
  id.toList.length ≤ 128 && id.toList.all fun c => !([' ', '\t', '\r', '\n', '\x00'].contains c)

/-- `dockerMutationBaseline.validate` -/
def DockerMutationBaseline.validate (b : DockerMutationBaseline) : Bool :=
  digestPattern b.versionEnvSHA256 && b.versionEnvMode ≤ 0o777 && versionPattern b.bundleVersion &&
    digestPattern b.manifestDigest && versionPattern b.sourceVersion && b.containerID != "" &&
    containerIDValid b.containerID && digestPattern b.imageID && digestPattern b.repositoryDigest

/-- `remoteStage` -/
structure RemoteStage where
  rootDir : Path
  artifactDigest : String
  expectedVersion : String := ""
  expectedImageDigest : String := ""
  expectedPlatformDigest : String := ""
  imageID : String := ""
  newRelease : Option Path := none
  previousRelease : Option Path := none
  previousDigest : String := ""
  previousVersion : String := ""
  dockerBaseline : Option DockerMutationBaseline := none
  deriving DecidableEq, Repr

/-! ## The ledger -/

/-- the states of a mutation ledger -/
inductive LedgerState where
  | staged | grantConsuming | grantConsumed | mutating | ambiguous | terminal
  deriving DecidableEq, Repr

/-- `executorMutationLedger` -/
structure ExecutorMutationLedger where
  jobID : String
  targetID : String
  planSHA256 : String
  sessionID : String
  leaseGeneration : ℕ
  intent : RemoteMutationIntent
  operation : Operation
  state : LedgerState
  stage : Option RemoteStage := none
  result : Option ApplyResult := none
  deriving DecidableEq, Repr

namespace ExecutorMutationLedger

variable (l : ExecutorMutationLedger)

/-- the identity of the record -/
def identityValid (targetID : String) : Bool :=
  l.targetID == targetID && identifierPattern l.jobID && identifierPattern l.targetID &&
    mutationPlanHashPattern l.planSHA256 && mutationSessionPattern l.sessionID && l.leaseGeneration != 0 &&
    l.intent.targetID == l.targetID && versionPattern l.intent.currentVersion && digestPattern l.intent.configSHA256 &&
    normalizeDigest l.intent.configSHA256 == l.intent.configSHA256 && digestPattern l.intent.artifactDigest

/-- what each state asks of the operation, the stage and the result -/
def stateValid : Bool :=
  match l.state with
  | .staged => l.operation == .stage && l.stage.isSome && l.result.isNone
  | .grantConsuming | .grantConsumed | .mutating | .ambiguous => l.result.isNone && l.stage.isSome
  | .terminal => l.result.any ApplyResult.settled && l.stage.isSome

/-- what the stage has to bind -/
def stageValid : Bool :=
  l.stage.all fun stage => digestPattern (normalizeDigest stage.artifactDigest) &&
    stage.dockerBaseline.all DockerMutationBaseline.validate &&
    !(l.intent.deploymentMode == modeDocker && stage.dockerBaseline.isNone) &&
    !(l.intent.deploymentMode == modeSystemd && stage.dockerBaseline.isSome)

/-- `executorMutationLedger.validate` -/
def validate (targetID : String) : Bool :=
  l.identityValid targetID && l.stateValid && l.stageValid

/-- the record as a request rewrites it: operation, session, plan hash and lease generation are the request's -/
def rebound (plan : MutationPlan) (operation : Operation) (state : LedgerState)
    (result : Option ApplyResult) : ExecutorMutationLedger :=
  { l with operation := operation, sessionID := plan.sessionID, planSHA256 := plan.planSHA256
           leaseGeneration := plan.leaseGeneration, state := state, result := result }

end ExecutorMutationLedger

/-- the record a stage request opens -/
def stagedLedger (plan : MutationPlan) (stage : RemoteStage) : ExecutorMutationLedger where
  jobID := plan.jobID
  targetID := plan.targetID
  planSHA256 := plan.planSHA256
  sessionID := plan.sessionID
  leaseGeneration := plan.leaseGeneration
  intent := newRemoteMutationIntent plan
  operation := .stage
  state := .staged
  stage := some stage

/-! ## Outcomes -/

/-- the codes of `executorFailure` -/
inductive FailureCode where
  | invalidRequest | targetMismatch | configMismatch | targetUnavailable | targetBusy | stateUnavailable | stateInvalid
  | stageFailed | stageRequired | stageInvalid | planConflict | reconcileRequired | alreadyTerminal
  | mutationPreconditionFailed
  deriving DecidableEq, Repr

/-- the message of each code -/
def FailureCode.message : FailureCode → String
  | .invalidRequest => "remote request was rejected"
  | .targetMismatch => "request does not match this host target"
  | .configMismatch => "request does not match the current helper policy"
  | .targetUnavailable => "configured target is unavailable"
  | .targetBusy => "another target operation is active"
  | .stateUnavailable => "durable host state is unavailable"
  | .stateInvalid => "durable host state requires operator review"
  | .stageFailed => "release staging failed"
  | .stageRequired => "no durable mutation ledger or apply-authorized state exists for the immutable release plan"
  | .stageInvalid => "the staged release no longer matches the plan"
  | .planConflict => "job identity was reused with a different plan"
  | .reconcileRequired => "host state is ambiguous and requires reconcile"
  | .alreadyTerminal => "the update plan is already terminal"
  | .mutationPreconditionFailed => "target precondition validation failed"

/-- `MutationStageResult`; its status is always `staged` -/
structure MutationStageResult where
  sessionID : String
  planSHA256 : String
  artifactDigest : String
  deriving DecidableEq, Repr

/-- `executorMutationOutcome` -/
inductive Outcome where
  | stage (result : MutationStageResult)
  | result (result : ApplyResult) (sessionID planSHA256 : String)
  | failure (code : FailureCode) (message : String)
  deriving DecidableEq, Repr

/-- `executorFailure` -/
def executorFailure (code : FailureCode) : Outcome := .failure code code.message

/-- `executorFailureWithMessage` -/
def executorFailureWithMessage (code : FailureCode) (message : String) : Outcome :=
  .failure code (if safeExecutorMessage message then message else code.message)

/-- the outcome that carries a result bound to the plan -/
def resultOutcome (plan : MutationPlan) (result : ApplyResult) : Outcome := .result result plan.sessionID plan.planSHA256

/-- the digest without its algorithm -/
def bareDigest (digest : String) : String :=
  let d := (normalizeDigest digest).toList
  String.ofList (if d.take 7 == "sha256:".toList then d.drop 7 else d)

/-- `remoteStageResult` -/
def remoteStageResult (plan : MutationPlan) (stage : RemoteStage) : MutationStageResult where
  sessionID := plan.sessionID
  planSHA256 := plan.planSHA256
  artifactDigest := bareDigest stage.artifactDigest

/-- `remoteLedgerRequestFailure` -/
def remoteLedgerRequestFailure (l : ExecutorMutationLedger) (plan : MutationPlan) (operation : Operation) :
    Option FailureCode :=
  if l.jobID != plan.jobID then some (if l.state != .terminal then .reconcileRequired else .stageRequired)
  else if !l.intent.matches plan then some .planConflict
  else match operation with
    | .apply =>
      if l.planSHA256 != plan.planSHA256 || l.sessionID != plan.sessionID || l.leaseGeneration != plan.leaseGeneration then
        some .planConflict
      else none
    | .reconcile => if plan.leaseGeneration < l.leaseGeneration then some .planConflict else none
    | .stage => some .invalidRequest

/-! ## Small laws -/

section Laws

variable {l : ExecutorMutationLedger} {plan : MutationPlan} {operation : Operation} {state : LedgerState}
  {result : Option ApplyResult} {t : String}

@[simp] theorem rebound_jobID : (l.rebound plan operation state result).jobID = l.jobID := rfl
@[simp] theorem rebound_targetID : (l.rebound plan operation state result).targetID = l.targetID := rfl
@[simp] theorem rebound_intent : (l.rebound plan operation state result).intent = l.intent := rfl
@[simp] theorem rebound_stage : (l.rebound plan operation state result).stage = l.stage := rfl
@[simp] theorem rebound_state : (l.rebound plan operation state result).state = state := rfl
@[simp] theorem rebound_result : (l.rebound plan operation state result).result = result := rfl
@[simp] theorem rebound_planSHA256 : (l.rebound plan operation state result).planSHA256 = plan.planSHA256 := rfl
@[simp] theorem rebound_sessionID : (l.rebound plan operation state result).sessionID = plan.sessionID := rfl
@[simp] theorem rebound_leaseGeneration :
    (l.rebound plan operation state result).leaseGeneration = plan.leaseGeneration := rfl

/-- A passing request belongs to the job, matches its intent, and does not lower the lease generation. -/
theorem requestFailure_none (h : remoteLedgerRequestFailure l plan operation = none) :
    l.jobID = plan.jobID ∧ l.intent = newRemoteMutationIntent plan ∧ l.leaseGeneration ≤ plan.leaseGeneration ∧
      operation ≠ .stage ∧ (operation = .apply → l.planSHA256 = plan.planSHA256 ∧ l.sessionID = plan.sessionID ∧
        l.leaseGeneration = plan.leaseGeneration) := by
  unfold remoteLedgerRequestFailure at h
  split at h
  · cases h
  split at h
  · cases h
  rename_i hjob hintent
  have hjob : l.jobID = plan.jobID := by simpa using hjob
  have hintent : l.intent = newRemoteMutationIntent plan := by simpa [RemoteMutationIntent.matches] using hintent
  cases operation with
  | stage => cases h
  | apply =>
    simp only [ite_eq_right_iff, reduceCtorEq, imp_false, Bool.or_eq_true, bne_iff_ne, ne_eq, not_or, not_not] at h
    exact ⟨hjob, hintent, h.2.le, by simp, fun _ => ⟨h.1.1, h.1.2, h.2⟩⟩
  | reconcile =>
    simp only [ite_eq_right_iff, reduceCtorEq, imp_false, not_lt] at h
    exact ⟨hjob, hintent, h, by simp, by simp⟩

end Laws
end AutostreamUpdater.Software
