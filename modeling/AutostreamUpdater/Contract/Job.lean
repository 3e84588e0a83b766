/-
Update jobs as the panel hands them out, the plan a software job mutates its target under, and the reports the agent sends
back: `UpdateJob`, `MutationPlan`, `JobReport` and the stage failure the agent remembers, each with its validator.

Fields tagged `json:"-"` in the source live in memory only; `UpdateJob.persisted` is the job as a file holds it.
-/
import AutostreamUpdater.Contract.PortPlan

namespace AutostreamUpdater.Contract

/-! ## The port part of a job -/

/-- `SystemdPortMutationGrantBinding`: the shared plan and the Docker part of a legacy job -/
structure SystemdPortMutationGrantBinding extends PortReconfiguration where
  docker : Option DockerPortMutationGrantBinding := none
  deriving DecidableEq, Repr

namespace SystemdPortMutationGrantBinding

variable (X : Contracts)

/-- `sharedPortPlan` -/
def sharedPortPlan (p : SystemdPortMutationGrantBinding) : PortReconfiguration := p.toPortReconfiguration

/-- the fields every legacy port job needs -/
def legacyFieldsValid (p : SystemdPortMutationGrantBinding) : Bool :=
  p.networkNamespace == "host" && p.protocol == "tcp" && 1 ≤ p.oldPort && p.oldPort ≤ 65535 && 1 ≤ p.newPort &&
    p.newPort ≤ 65535 && 1 ≤ p.expectedEndpointRevision &&
    p.targetEndpointRevision == incr64 p.expectedEndpointRevision && 1 ≤ p.expectedConfigRevision &&
    p.targetConfigRevision == incr64 p.expectedConfigRevision && digestPattern p.expectedConfigSHA256 &&
    digestPattern p.targetConfigSHA256 && p.expectedConfigSHA256 != p.targetConfigSHA256 &&
    1 ≤ p.expectedSourcePolicyRevision && 1 ≤ p.expectedUpdaterPolicyRevision && 1 ≤ p.expectedExecutorPolicyRevision &&
    digestPattern p.expectedExecutorPolicySHA256 && mutationPlanHashPattern p.portPlanSHA256

/-- `validatePortJobContract` -/
def validatePortJobContract (p : SystemdPortMutationGrantBinding) (deploymentMode : String) : Bool :=
  if p.portContractVersion != 0 then
    X.validatePortPlan p.sharedPortPlan && (deploymentMode == modeDocker) == p.dockerBaseline.isSome &&
      (deploymentMode == modeDocker || deploymentMode == modeSystemd)
  else if !p.legacyFieldsValid then false
  else if deploymentMode == modeSystemd then
    p.docker.isNone && validSystemdPort p.oldPort && validSystemdPort p.newPort && p.oldPort != p.newPort
  else if deploymentMode == modeDocker then
    dockerPortBindingValid p.docker p.expectedExecutorPolicyRevision && !dockerPortNoOp p.oldPort p.newPort p.docker
  else false

end SystemdPortMutationGrantBinding

/-! ## The software part of a job -/

/-- `SoftwareUpdateJobBinding` -/
structure SoftwareUpdateJobBinding where
  configRevision : ℤ
  configSHA256 : String := ""
  commandSHA256 : String
  sourcePolicyRevision : ℤ := 0
  projectionRevision : ℤ := 0
  executorPolicyRevision : ℤ := 0
  executorPolicySHA256 : String := ""
  deriving DecidableEq, Repr

namespace SoftwareUpdateJobBinding

/-- the application configuration and the command digest -/
def commandValid (b : SoftwareUpdateJobBinding) : Bool :=
  1 ≤ b.configRevision && digestPattern b.commandSHA256 && (b.configSHA256 == "" || digestPattern b.configSHA256)

/-- `Validate` -/
def validate (b : SoftwareUpdateJobBinding) : Bool :=
  b.commandValid && 1 ≤ b.sourcePolicyRevision && 1 ≤ b.projectionRevision && 1 ≤ b.executorPolicyRevision &&
    digestPattern b.executorPolicySHA256

/-- `validateIntent`: a rejected claim may keep its wire intent without a policy snapshot -/
def validateIntent (b : SoftwareUpdateJobBinding) : Bool :=
  b.commandValid && ((b.sourcePolicyRevision == 0 && b.projectionRevision == 0 && b.executorPolicyRevision == 0 &&
    b.executorPolicySHA256 == "") || b.validate)

end SoftwareUpdateJobBinding

/-! ## Jobs -/

def updateJobOperationSoftwareUpdate : String := "software_update"
def updateJobOperationPortReconfigure : String := "port_reconfigure"
def updateJobOperationBootstrap : String := "bootstrap"
def updateJobOperationHostSelfUpdate : String := "host_self_update"

/-- `UpdateJob` -/
structure UpdateJob where
  protocolVersion : ℤ := 0
  commandID : String := ""
  id : String
  operation : String := ""
  portReconfigure : Option SystemdPortMutationGrantBinding := none
  portResult : Option PortResultV2 := none
  lastRecoveryObservation : Option PortResultV2 := none
  agentServiceID : String := ""
  hostID : String := ""
  transportMode : String := ""
  ownershipEpoch : ℤ := 0
  policyRevision : ℤ := 0
  softwareUpdate : Option SoftwareUpdateJobBinding := none
  softwareClaimRejected : Bool := false
  targetID : String
  targetType : String := ""
  serviceType : String
  deploymentMode : String
  currentVersion : String := ""
  targetVersion : String
  version : String := ""
  leaseToken : String := ""
  releaseToken : String := ""
  leaseExpiresAt : String := ""
  status : String := ""
  progress : ℤ := 0
  code : String := ""
  message : String := ""
  artifactDigest : String := ""
  previousDigest : String := ""
  sequence : ℕ := 0
  reportSequence : ℕ := 0
  leaseGeneration : ℕ := 0
  recoveryRequired : Bool := false
  recoveryClear : Bool := false
  deriving DecidableEq, Repr

namespace UpdateJob

variable (X : Contracts)

variable (j : UpdateJob)

/-- the job without the fields that JSON leaves out -/
def persisted : UpdateJob := { j with releaseToken := "", reportSequence := 0, recoveryClear := false }

/-- `EffectiveOperation` -/
def effectiveOperation : String :=
  if trimSpace j.operation == "" then updateJobOperationSoftwareUpdate else trimSpace j.operation

/-- `EffectiveVersion` -/
def effectiveVersion : String :=
  if trimSpace j.targetVersion != "" then trimSpace j.targetVersion else trimSpace j.version

/-- `EffectiveType` -/
def effectiveType : String :=
  if trimSpace j.serviceType != "" then trimSpace j.serviceType else trimSpace j.targetType

/-- `validateOperationUnion` -/
def validateOperationUnion : Bool :=
  let operation := j.effectiveOperation
  if operation != updateJobOperationSoftwareUpdate && (j.softwareUpdate.isSome || j.softwareClaimRejected) then false
  else if operation == updateJobOperationSoftwareUpdate then j.portReconfigure.isNone
  else if operation == updateJobOperationPortReconfigure then
    j.operation == updateJobOperationPortReconfigure &&
      j.portReconfigure.any fun p => p.validatePortJobContract X j.deploymentMode
  else if operation == updateJobOperationBootstrap || operation == updateJobOperationHostSelfUpdate then
    j.protocolVersion == 2 && j.portReconfigure.isNone
  else false

/-- `isV2SoftwareJob` -/
def isV2SoftwareJob : Bool :=
  j.protocolVersion == 2 && j.effectiveOperation == updateJobOperationSoftwareUpdate

@[simp] theorem persisted_isV2SoftwareJob : j.persisted.isV2SoftwareJob = j.isV2SoftwareJob := rfl

/-- `isPortContractV2` -/
def isPortContractV2 : Bool :=
  j.protocolVersion == 2 && j.effectiveOperation == updateJobOperationPortReconfigure &&
    j.portReconfigure.any fun p => p.portContractVersion == 2

end UpdateJob

/-! ## Mutation plans -/

/-- `MutationPlan` -/
structure MutationPlan where
  jobID : String
  hostID : String
  targetID : String
  serviceType : String
  deploymentMode : String
  currentVersion : String
  configSHA256 : String
  targetVersion : String
  leaseGeneration : ℕ
  artifactDigest : String := ""
  expectedVersion : String := ""
  expectedImageDigest : String := ""
  expectedPlatformDigest : String := ""
  sessionID : String
  planSHA256 : String
  deriving DecidableEq, Repr

/-- `control_panel | worker | encoder_recorder | discord_bot | observability` -/
def validManagedServiceType (value : String) : Bool :=
  ["control_panel", "worker", "encoder_recorder", "discord_bot", "observability"].contains value

def mutationPlanSchemaVersion : ℤ := 2

namespace MutationPlan

/-- the payload `MutationPlanSHA256` digests: every field but the session and the digest itself, trimmed and normalised -/
def payload (p : MutationPlan) : MutationPlan where
  jobID := trimSpace p.jobID
  hostID := trimSpace p.hostID
  targetID := trimSpace p.targetID
  serviceType := trimSpace p.serviceType
  deploymentMode := trimSpace p.deploymentMode
  currentVersion := trimSpace p.currentVersion
  configSHA256 := trimSpace (toLower p.configSHA256)
  targetVersion := trimSpace p.targetVersion
  leaseGeneration := p.leaseGeneration
  artifactDigest := normalizeDigest p.artifactDigest
  expectedVersion := trimSpace p.expectedVersion
  expectedImageDigest := normalizeDigest p.expectedImageDigest
  expectedPlatformDigest := normalizeDigest p.expectedPlatformDigest
  sessionID := ""
  planSHA256 := ""

/-- the identity a plan needs before it can be digested -/
def identityComplete (p : MutationPlan) : Bool :=
  identifierPattern (trimSpace p.jobID) && identifierPattern (trimSpace p.hostID) &&
    identifierPattern (trimSpace p.targetID) && versionPattern (trimSpace p.targetVersion) &&
    versionPattern (trimSpace p.currentVersion) && trimSpace p.currentVersion == p.currentVersion &&
    digestPattern (trimSpace (toLower p.configSHA256)) && trimSpace (toLower p.configSHA256) == p.configSHA256 &&
    (p.deploymentMode == modeSystemd || p.deploymentMode == modeDocker) && p.leaseGeneration != 0

/-- `ComputePlanSHA256`; the payload digest is hex SHA-256 of the JSON payload with its schema version -/
def computePlanSHA256 (payloadSHA256 : ℤ → MutationPlan → String) (p : MutationPlan) : Option String :=
  if p.identityComplete then some (payloadSHA256 mutationPlanSchemaVersion p.payload) else none

/-- the release a plan is bound to, by deployment mode -/
def releaseBindingValid (p : MutationPlan) : Bool :=
  if p.deploymentMode == modeSystemd then
    mutationPlanHashPattern p.artifactDigest && p.expectedVersion == p.targetVersion && p.expectedImageDigest == "" &&
      p.expectedPlatformDigest == ""
  else
    mutationPlanHashPattern p.artifactDigest && versionPattern p.expectedVersion && digestPattern p.expectedImageDigest &&
      digestPattern p.expectedPlatformDigest

/-- `Validate` -/
def validate (payloadSHA256 : ℤ → MutationPlan → String) (p : MutationPlan) : Bool :=
  identifierPattern p.jobID && identifierPattern p.hostID && identifierPattern p.targetID &&
    validManagedServiceType p.serviceType && (p.deploymentMode == modeSystemd || p.deploymentMode == modeDocker) &&
    versionPattern (trimSpace p.targetVersion) && versionPattern (trimSpace p.currentVersion) &&
    trimSpace p.currentVersion == p.currentVersion && digestPattern (trimSpace (toLower p.configSHA256)) &&
    trimSpace (toLower p.configSHA256) == p.configSHA256 && p.leaseGeneration != 0 &&
    mutationSessionPattern p.sessionID && mutationPlanHashPattern p.planSHA256 && p.releaseBindingValid &&
    p.computePlanSHA256 payloadSHA256 == some p.planSHA256

end MutationPlan

/-! ## Reports and stage failures -/

/-- `JobReport` -/
structure JobReport where
  serviceID : String
  leaseToken : String := ""
  sequence : ℕ
  leaseGeneration : ℕ
  status : String
  progress : ℤ := 0
  code : String := ""
  message : String := ""
  artifactDigest : String := ""
  previousDigest : String := ""
  portReconfigure : Option PortResultV2 := none
  deriving DecidableEq, Repr

/-- `PendingReport` -/
structure PendingReport where
  jobID : String
  report : JobReport
  deriving DecidableEq, Repr

/-- the statuses `v2ProgressPhase` maps to a phase -/
def isProgressStatus (status : String) : Bool :=
  ["claimed", "downloading", "staging", "installing", "verifying", "health_checking", "rolling_back",
    "reconciling"].contains status

/-- `isTerminalUpdateStatus` -/
def isTerminalUpdateStatus (status : String) : Bool := ["succeeded", "rolled_back", "failed"].contains status

/-- `stageFailureRecord` -/
structure StageFailureRecord where
  jobID : String
  code : String
  message : String
  deriving DecidableEq, Repr

/-- the messages each stage failure code may carry -/
def stageFailureMessages : List (String × List String) :=
  [("release_staging_failed", ["release staging failed", "candidate binary smoke check failed"]),
    ("candidate_binary_smoke_execution_failed", ["candidate binary smoke execution failed"]),
    ("candidate_binary_version_mismatch", ["candidate binary version output mismatch"])]

/-- `validate`, with the reason it gives -/
def StageFailureRecord.validate (f : StageFailureRecord) : Except String Unit :=
  if !identifierPattern (trimSpace f.jobID) then .error "stage failure job identity is invalid"
  else match stageFailureMessages.lookup f.code with
    | none => .error "stage failure code is invalid"
    | some messages =>
      if !messages.contains f.message then
        .error (if f.code == "release_staging_failed" then "generic stage failure message is invalid"
          else if f.code == "candidate_binary_smoke_execution_failed" then "smoke execution failure message is invalid"
          else "version mismatch failure message is invalid")
      else if !safeExecutorMessage f.message then .error "stage failure message is invalid"
      else .ok ()

end AutostreamUpdater.Contract
