/-
The three requests of a software update: stage, apply and reconcile, with the gate that every mutation passes, and the
handler that admits a request and loads the ledger of its target.

The handler checks the plan against the configured target before it touches anything; the policy checks that come before
that (revisions, policy digest, grant binding) are the caller's.
-/
import AutostreamUpdater.Software.Docker

namespace AutostreamUpdater.Software

open Contract Base

variable (E : SoftwareEnv)

variable (r : SoftwareRequest) (plan : MutationPlan) (operation : Operation) (ledger : Option ExecutorMutationLedger)
  (l : ExecutorMutationLedger) (stage : RemoteStage)

/-! ## Stage -/

/-- `verifyMutationPlanCurrentVersion` -/
def verifyMutationPlanCurrentVersion : Soft Unit := do
  let planned := trimSpace plan.currentVersion
  Fallible.require (planned != "") "remote plan is missing its current version baseline"
  requireManagedVersion E planned

/-- the failures of staging that `remoteStageFailureMessage` tells apart -/
def stageFailureMarkers : List (String × String) :=
  [("systemd release digest mismatch", "release artifact digest mismatch"),
    ("staged systemd artifact path is invalid", "staged release path validation failed"),
    ("staged systemd artifact checksum verification failed", "staged release checksum verification failed"),
    ("staged systemd artifact is incomplete", "staged release is incomplete"),
    ("staged systemd binary smoke execution failed", "candidate binary smoke execution failed"),
    ("staged systemd binary version output mismatch", "candidate binary version output mismatch"),
    ("staged systemd binary smoke check failed", "candidate binary smoke check failed"),
    ("managed systemd release bootstrap is required", "managed current release is unavailable"),
    ("managed target current version does not match the immutable plan", "current version does not match the update plan"),
    ("backup configured systemd target", "configured target backup failed"),
    ("previous systemd release is not rollback-safe", "current release rollback check failed"),
    ("previous systemd release is incomplete", "current release is incomplete"),
    ("previous systemd release is not healthy", "current service health or process verification failed"),
    ("systemd release path is invalid", "new release path validation failed")]

/-- `remoteStageFailureMessage` -/
def remoteStageFailureMessage (e : String) : String :=
  match stageFailureMarkers.find? fun m => decide (m.1.toList <:+: e.toList) with
  | some m => m.2
  | none => "release staging failed"

/-- `remoteStageRoot`: the same for every lease generation of one plan -/
def remoteStageRoot : Path :=
  E.stagesRoot ++ [E.stableKey plan.jobID
    (E.payloadSHA256 mutationPlanSchemaVersion { plan with leaseGeneration := 1 }.payload)]

/-- the Docker part of a stage fits the plan -/
def RemoteStage.fitsDocker (stage : RemoteStage) (plan : MutationPlan) : Bool :=
  stage.expectedVersion == plan.expectedVersion &&
    normalizeDigest stage.expectedImageDigest == normalizeDigest plan.expectedImageDigest &&
    normalizeDigest stage.expectedPlatformDigest == normalizeDigest plan.expectedPlatformDigest &&
    digestPattern stage.imageID && stage.dockerBaseline.any fun b =>
      b.validate && requirePlannedCurrentVersion plan.currentVersion b.bundleVersion

/-- the systemd part of a stage fits the plan -/
def RemoteStage.fitsSystemd (stage : RemoteStage) (plan : MutationPlan) : Bool :=
  stage.expectedVersion == plan.expectedVersion && stage.newRelease.isSome && stage.previousRelease.isSome &&
    digestPattern (normalizeDigest stage.previousDigest) && versionPattern stage.previousVersion &&
    requirePlannedCurrentVersion plan.currentVersion stage.previousVersion

/-- `validateExecutorStage` -/
def validateExecutorStage : Soft Unit := do
  Fallible.require (pathWithin E.stagesRoot stage.rootDir &&
    normalizeDigest stage.artifactDigest == normalizeDigest plan.artifactDigest) "staged release binding is invalid"
  orFail "staged release is unavailable" (check (.stageDirectory stage.rootDir))
  onlyIf (E.target.deploymentMode == modeDocker)
    (Fallible.require (stage.fitsDocker plan) "staged Docker release binding is invalid")
  onlyIf (E.target.deploymentMode == modeSystemd)
    (Fallible.require (stage.fitsSystemd plan) "staged systemd release binding is invalid")

/-- `preflightRemoteSystemdStage`; the new release directory is always inside the release root -/
def preflightRemoteSystemdStage (plan : MutationPlan) (artifactRoot : Path) (stage : RemoteStage) : Soft RemoteStage := do
  orFail "staged systemd artifact path is invalid" (check (.artifactPath artifactRoot))
  orFail "staged systemd artifact checksum verification failed" (check (.artifactChecksums artifactRoot))
  orFail "staged systemd artifact is incomplete" (check (.artifactComplete artifactRoot))
  let output ← got "staged systemd binary smoke execution failed" (issue (.smoke artifactRoot))
  Fallible.require (versionMatches output plan.targetVersion) "staged systemd binary version output mismatch"
  match ← attempt (currentRelease E) with
  | .ok (some previous) => do
    Fallible.require (requirePlannedCurrentVersion plan.currentVersion previous.version)
      "managed target current version does not match the immutable plan"
    orFail "backup configured systemd target" (check .backup)
    orFail "previous systemd release is not rollback-safe" (issue (.verifyChecksums previous.dir))
    verifyRequiredPaths "previous systemd release is incomplete" previous.dir
    let process ← attempt (verifySystemdProcess previous.dir)
    let health ← attempt (verifyTarget previous.version)
    match ← attempt (firstError [process, health]) with
    | .error _ => throw "previous systemd release is not healthy"
    | .ok _ =>
      pure { stage with newRelease := some (releaseDirectory E.target plan), previousRelease := some previous.dir
                        previousDigest := normalizeDigest previous.digest, previousVersion := previous.version }
  | _ => throw "managed systemd release bootstrap is required"

/-- the systemd part of `prepareExecutorStage` -/
def prepareSystemdStage (root : Path) : Soft RemoteStage := do
  let downloaded ← got "systemd release digest mismatch" (issue (.download plan.targetVersion))
  Fallible.require (normalizeDigest downloaded.sha256 == normalizeDigest plan.artifactDigest)
    "systemd release digest mismatch"
  preflightRemoteSystemdStage E plan downloaded.root
    { rootDir := root ++ downloaded.root, artifactDigest := downloaded.sha256, expectedVersion := plan.expectedVersion }

/-- the resolved release is the planned one -/
def DockerRelease.isPlanned (r : DockerRelease) (plan : MutationPlan) : Bool :=
  r.sourceVersion == plan.expectedVersion && normalizeDigest r.manifestDigest == normalizeDigest plan.expectedImageDigest &&
    normalizeDigest r.platformDigest == normalizeDigest plan.expectedPlatformDigest &&
    normalizeDigest r.manifestSHA256 == normalizeDigest plan.artifactDigest

/-- the Docker part of `prepareExecutorStage` -/
def prepareDockerStage (root : Path) : Soft RemoteStage := do
  let resolved ← got "Docker release binding mismatch" (issue (.resolveDocker plan.targetVersion))
  Fallible.require (resolved.isPlanned plan) "Docker release binding mismatch"
  orFail "base compose configuration validation failed" (check .composeModel)
  let image := E.target.imageRepo ++ "@" ++ plan.expectedPlatformDigest
  orFail "write Docker override" (check (.writeOverride image))
  orFail "compose configuration validation failed" (check (.composeConfig image))
  let observation ← observeDockerMutationBaseline E
  Fallible.require (requirePlannedCurrentVersion plan.currentVersion observation.baseline.bundleVersion)
    "managed target current version does not match the immutable plan"
  orFail "backup configured Docker target" (check .backup)
  orFail "pull trusted Docker image" (check (.pull image))
  let out ← got "inspect trusted Docker image" (issue (.inspectImage image))
  let imageID := toLower (trimSpace out)
  Fallible.require (digestPattern imageID) "inspect trusted Docker image"
  let raw ← got "trusted Docker image digest mismatch" (issue (.inspectRepoDigests image))
  Fallible.require (repositoryHasDigest (E.decodeStrings raw) E.target.imageRepo plan.expectedPlatformDigest)
    "trusted Docker image digest mismatch"
  pure { rootDir := root, artifactDigest := resolved.manifestSHA256, expectedVersion := resolved.sourceVersion
         expectedImageDigest := resolved.manifestDigest, expectedPlatformDigest := resolved.platformDigest
         imageID := imageID, dockerBaseline := some observation.baseline }

/-- the part of `prepareExecutorStage` that depends on the deployment mode -/
def prepareModeStage (root : Path) : Soft RemoteStage :=
  if E.target.deploymentMode == modeSystemd then prepareSystemdStage E plan root else prepareDockerStage E plan root

/-- `prepareExecutorStage` -/
def prepareExecutorStage : Soft RemoteStage := do
  verifyMutationPlanCurrentVersion E plan
  let root := remoteStageRoot E plan
  orFail "create stage" (check (.openStage root))
  let stage ← prepareModeStage E plan root
  orFail "commit release stage" (check (.commitStage root))
  pure stage

/-- a fresh stage, recorded in a new ledger -/
def stageFresh (previous : Option RemoteStage) : SoftwareProg Outcome := do
  match ← (prepareExecutorStage E plan).run with
  | .error e => return executorFailureWithMessage .stageFailed (remoteStageFailureMessage e)
  | .ok stage =>
    if !(← saveExecutorMutationLedger (stagedLedger plan stage)) then return executorFailure .stateUnavailable
    match previous with
    | none => return .stage (remoteStageResult plan stage)
    | some old =>
      let _ ← check (.terminalStage old.rootDir)
      return .stage (remoteStageResult plan stage)

/-- a staged release that is still there is reported again -/
def stageReplay : SoftwareProg Outcome := do
  match ← (validateExecutorStage E plan stage).run with
  | .error _ => return executorFailure .reconcileRequired
  | .ok _ =>
    match ← (verifyMutationPlanCurrentVersion E plan).run with
    | .error e => return executorFailureWithMessage .stageFailed (remoteStageFailureMessage e)
    | .ok _ => return .stage (remoteStageResult plan stage)

/-- a second stage request of the job whose ledger is there -/
def stageAgain : SoftwareProg Outcome :=
  match l.state with
  | .staged => stageReplay E plan stage
  | .terminal => return executorFailure .alreadyTerminal
  | _ => return executorFailure .reconcileRequired

/-- `executorStageRequest` -/
def executorStageRequest : SoftwareProg Outcome :=
  match ledger with
  | none => stageFresh E plan none
  | some l =>
    if l.jobID == plan.jobID then
      if l.planSHA256 != plan.planSHA256 then return executorFailure .planConflict
      else match l.stage with
        | some stage => stageAgain E plan l stage
        -- a loaded ledger always has its stage
        | none => return executorFailure .reconcileRequired
    else if l.state != .terminal then return executorFailure .reconcileRequired
    else stageFresh E plan l.stage

/-! ## The gate -/

/-- an error of a mutation, and whether its gate had been called -/
structure Failure where
  gateCalled : Bool
  message : String
  deriving DecidableEq, Repr

/-- a mutation that knows about its gate -/
abbrev Gate := Fallible HostOp HostRes Failure

/-- the part of a mutation before its gate (`called = false`) or behind it -/
def atGate {α : Type} (called : Bool) (p : Soft α) : Gate α :=
  Fallible.ofProg (p.run >>= fun r => pure (r.mapError (Failure.mk called)))

/-- the gate: the fence, the grant, and the two records that the mutation may begin -/
def gate : Gate Unit := do
  orFail ⟨false, "mutation grant preflight deadline exceeded"⟩ (check .gateTime)
  orFail ⟨true, "persist grant consumption fence"⟩
    (saveExecutorMutationLedger (l.rebound plan operation .grantConsuming none))
  orFail ⟨true, "mutation grant rejected"⟩ (issue (.consumeGrant plan operation))
  orFail ⟨true, "persist consumed mutation grant"⟩
    (saveExecutorMutationLedger (l.rebound plan operation .grantConsumed none))
  orFail ⟨true, "persist mutation fence"⟩ (saveExecutorMutationLedger (l.rebound plan operation .mutating none))

/-- apply: what comes before the gate, the gate, what comes behind it -/
def applyStaged : Gate ApplyResult :=
  let p := applyPlan plan stage
  if E.target.deploymentMode == modeSystemd then do
    let checkpoint ← atGate false (systemdPreflight E p stage)
    gate plan .apply l
    atGate true (systemdMutation E p stage checkpoint)
  else do
    let prepared ← atGate false (dockerPreflight E p stage)
    gate plan .apply l
    atGate true (dockerMutation E p stage prepared)

/-- reconcile: the grant is consumed before the inspection -/
def reconcileStaged : Gate ApplyResult := do
  let p := applyPlan plan stage
  gate plan .reconcile l
  atGate true (if E.target.deploymentMode == modeSystemd then reconcileSystemd E p else reconcileDocker E p)

/-- the mutation of a request -/
def mutation : Gate ApplyResult :=
  if operation = .apply then applyStaged E plan l stage else reconcileStaged E plan l stage

/-! ## Apply and reconcile -/

/-- the ledger of a mutation whose outcome is not known -/
def markAmbiguous : SoftwareProg Outcome := do
  let _ ← saveExecutorMutationLedger (l.rebound plan operation .ambiguous none)
  return executorFailure .reconcileRequired

/-- the end of a mutation: the result is bound to the plan and recorded -/
def recordResult (result : ApplyResult) : SoftwareProg Outcome :=
  match bindRemoteApplyResult plan result with
  | none => markAmbiguous plan operation l
  | some bound =>
    if !bound.settled then markAmbiguous plan operation l
    else do
      if !(← saveExecutorMutationLedger (l.rebound plan operation .terminal (some bound))) then
        return executorFailure .reconcileRequired
      return resultOutcome plan bound

/-- the mutation of a ledger that may be mutated -/
def runMutation : SoftwareProg Outcome := do
  match ← (mutation E plan operation l stage).run with
  | .error e =>
    if e.gateCalled then markAmbiguous plan operation l else return executorFailure .mutationPreconditionFailed
  | .ok result => recordResult plan operation l result

/-- a stage that was never applied is rolled back without a grant -/
def abandonStaged : SoftwareProg Outcome :=
  match bindRemoteApplyResult plan { status := .rolledBack, rolledBack := true, message := "staged release was not applied" } with
  -- the source saves the empty result then, which the ledger's validator refuses
  | none => return executorFailure .stateUnavailable
  | some result => do
    if !(← saveExecutorMutationLedger (l.rebound plan .reconcile .terminal (some result))) then
      return executorFailure .stateUnavailable
    return resultOutcome plan result

/-- orphaned stage roots of the plan are removed before the failure is reported -/
def cleanOrphan (failure : FailureCode) : SoftwareProg Outcome := do
  if !(← check .orphanStage) then return executorFailure .stateUnavailable
  return executorFailure failure

/-- `executorMutationRequest` for a ledger that passed the request's own checks and is not terminal -/
def mutateLedger : SoftwareProg Outcome := do
  match ← (validateExecutorStage E plan stage).run with
  | .error _ => return executorFailure .stageInvalid
  | .ok _ =>
    if operation = .apply ∧ l.state ≠ .staged then return executorFailure .reconcileRequired
    else if operation = .reconcile ∧ l.state = .staged then abandonStaged plan l
    else runMutation E plan operation l stage

/-- the stored result of a terminal ledger, bound to the plan of the request -/
def replayResult : Outcome :=
  match l.result.bind (bindRemoteApplyResult plan) with
  | none => executorFailure .stateInvalid
  | some result => resultOutcome plan result

/-- `executorMutationRequest` -/
def executorMutationRequest : SoftwareProg Outcome :=
  match ledger with
  | none => if operation = .reconcile then cleanOrphan .stageRequired else return executorFailure .stageRequired
  | some l =>
    match remoteLedgerRequestFailure l plan operation with
    | some failure =>
      if failure = .stageRequired ∧ operation = .reconcile ∧ l.state = .terminal ∧ l.jobID ≠ plan.jobID then
        cleanOrphan failure
      else return executorFailure failure
    | none =>
      if l.state = .terminal then return replayResult plan l
      else match l.stage with
        | some stage => mutateLedger E plan operation l stage
        | none => return executorFailure .stageInvalid

/-! ## The handler -/

/-- a software request, as the executor receives it -/
structure SoftwareRequest where
  operation : Operation
  plan : MutationPlan
  deriving DecidableEq, Repr

/-- the plan is valid and names the configured target -/
def SoftwareRequest.fits : Bool :=
  r.plan.validate E.payloadSHA256 && r.plan.targetID == E.target.targetID &&
    r.plan.serviceType == E.target.serviceType && r.plan.deploymentMode == E.target.deploymentMode

/-- the request on the ledger that was loaded for it -/
def dispatch : SoftwareProg Outcome :=
  if r.operation = .stage then executorStageRequest E r.plan ledger
  else executorMutationRequest E r.plan r.operation ledger

/-- the software part of `handleLocalExecutorMutation` -/
def handle : SoftwareProg Outcome := do
  if !r.fits E then return executorFailure .configMismatch
  match ← issue .acceptRequest with
  | some code => return executorFailure code
  | none =>
    match ← loadExecutorMutationLedger E with
    | .error _ => return executorFailure .stateInvalid
    | .ok ledger => dispatch E r ledger

end AutostreamUpdater.Software
