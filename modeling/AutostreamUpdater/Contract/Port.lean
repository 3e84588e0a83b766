/-
The port reconfiguration contract: the immutable plan of one port job (`SystemdPortReconfigurePlan`), the snapshots it
moves between (before, target, rollback), the grant binding carried by a claimed job, and the result that a job ends
with, each with its validator.

The shared contracts package, SHA-256 and the JSON codec are not part of the repository. They enter as the fields of
`Contracts`, and every result of the development holds for all of them. Validators are predicates: their callers only
ask whether an error came back.
-/
import AutostreamUpdater.Contract.Text

namespace AutostreamUpdater.Contract

/-- `a + 1` on `int64` -/
def incr64 (a : ℤ) : ℤ := (a + 1 + 2 ^ 63) % 2 ^ 64 - 2 ^ 63

def maxInt64 : ℤ := 2 ^ 63 - 1

def modeSystemd : String := "systemd"
def modeDocker : String := "docker"

/-! ## Snapshots and the shared plan -/

/-- `contracts.SystemUpdatePortDockerSnapshot` -/
structure PortDockerSnapshot where
  publishedHostIP : String
  publishedPort : ℤ
  containerPort : ℤ
  healthPort : ℤ
  composePolicySHA256 : String
  deriving DecidableEq, Repr

/-- `contracts.SystemUpdatePortSnapshotRef`, the fields this repository reads -/
structure PortSnapshotRef where
  snapshotID : String
  snapshotSHA256 : String
  sourcePolicyRevision : ℤ
  projectionRevision : ℤ
  executorPolicyRevision : ℤ
  executorPolicySHA256 : String
  endpointRevision : ℤ
  appliedEndpointRevision : ℤ
  configRevision : ℤ
  configSHA256 : String
  advertisedPort : ℤ
  advertisedEndpointSHA256 : String
  localListenPort : ℤ
  docker : Option PortDockerSnapshot
  deriving DecidableEq, Repr

/-- `contracts.SystemUpdatePortDockerBaseline` -/
structure PortDockerBaseline where
  expectedContainerID : String
  expectedImageID : String
  expectedRepositoryDigest : String
  expectedVersionEnvSHA256 : String
  approvedComposeConfigSHA256 : String
  deriving DecidableEq, Repr

/-- `DockerPortMutationGrantBinding`: the Docker part of a legacy port job -/
structure DockerPortMutationGrantBinding where
  publishedHostIP : String
  oldPublishedPort : ℤ
  newPublishedPort : ℤ
  oldContainerPort : ℤ
  newContainerPort : ℤ
  oldHealthPort : ℤ
  newHealthPort : ℤ
  approvedComposeConfigSHA256 : String
  approvedComposeRevision : ℤ
  expectedVersionEnvSHA256 : String
  expectedContainerID : String
  expectedImageID : String
  expectedRepositoryDigest : String
  deriving DecidableEq, Repr

/-- `contracts.SystemUpdatePortReconfiguration` -/
structure PortReconfiguration where
  portContractVersion : ℤ
  mode : String
  before : Option PortSnapshotRef
  target : Option PortSnapshotRef
  rollback : Option PortSnapshotRef
  dockerBaseline : Option PortDockerBaseline
  networkNamespace : String
  protocol : String
  portPlanSHA256 : String
  oldPort : ℤ := 0
  newPort : ℤ := 0
  expectedEndpointRevision : ℤ := 0
  targetEndpointRevision : ℤ := 0
  expectedConfigRevision : ℤ := 0
  targetConfigRevision : ℤ := 0
  expectedConfigSHA256 : String := ""
  targetConfigSHA256 : String := ""
  expectedSourcePolicyRevision : ℤ := 0
  expectedUpdaterPolicyRevision : ℤ := 0
  expectedExecutorPolicyRevision : ℤ := 0
  expectedExecutorPolicySHA256 : String := ""
  deriving DecidableEq, Repr

/-! ## Results -/

/-- `applied | rolled_back | unchanged | rollback_failed` -/
inductive PortResultKind where
  | applied | rolledBack | unchanged | rollbackFailed
  deriving DecidableEq, Repr

/-- the report status of a port result -/
inductive PortStatus where
  | succeeded | rolledBack | failed
  deriving DecidableEq, Repr

/-- `contracts.SystemUpdatePortObservation`; the zero time is 0 -/
structure PortObservation where
  policyDiskVerified : Bool := false
  policyMemoryVerified : Bool := false
  agentProjectionVerified : Bool := false
  listenerVerified : Bool := false
  observedAt : ℕ := 0
  deriving DecidableEq, Repr

/-- `contracts.SystemUpdatePortRuntimeInstance` -/
structure PortRuntimeInstance where
  containerID : String
  imageID : String
  repositoryDigest : String
  deriving DecidableEq, Repr

/-- `contracts.SystemUpdatePortResultV2` -/
structure PortResultV2 where
  result : PortResultKind
  observedSnapshotID : String := ""
  observedSnapshotSHA256 : String := ""
  observedConfigRevision : ℤ := 0
  observedConfigSHA256 : String := ""
  observedExecutorPolicyRevision : ℤ := 0
  observedExecutorPolicySHA256 : String := ""
  observation : PortObservation := {}
  runtimeInstance : Option PortRuntimeInstance := none
  deriving DecidableEq, Repr

/-- `DockerPortReconfigureResultState` -/
structure DockerPortResultState where
  appliedPublishedPort : ℤ
  appliedContainerPort : ℤ
  appliedHealthPort : ℤ
  composeConfigSHA256 : String
  deriving DecidableEq, Repr

/-- `SystemdPortReconfigureResult` -/
structure SystemdPortReconfigureResult where
  portContractVersion : ℤ := 0
  portResult : Option PortResultV2 := none
  recoveryRequired : Bool := false
  deploymentMode : String := ""
  status : PortStatus
  result : PortResultKind
  stateKnown : Bool := false
  oldPort : ℤ := 0
  newPort : ℤ := 0
  appliedPort : ℤ := 0
  endpointRevision : ℤ := 0
  configRevision : ℤ := 0
  configSHA256 : String := ""
  message : String
  docker : Option DockerPortResultState := none
  deriving DecidableEq, Repr

def validSystemdPort (value : ℤ) : Bool := 1024 ≤ value && value ≤ 65535

def validSystemdPortServiceType (value : String) : Bool :=
  ["worker", "encoder_recorder", "discord_bot", "observability"].contains value

namespace SystemdPortReconfigureResult

variable (r : SystemdPortReconfigureResult)

/-- `validatePortV2` -/
def validatePortV2 : Bool :=
  r.portContractVersion == 2 && safeExecutorMessage r.message &&
    match r.portResult with
    | none => false
    | some pr => pr.result == r.result && pr.observation.observedAt != 0 &&
      if r.result == .rollbackFailed then
        r.status == .failed && !r.stateKnown && r.recoveryRequired && pr.observedSnapshotID == "" &&
          pr.observedSnapshotSHA256 == "" && pr.observedConfigRevision == 0 && pr.observedConfigSHA256 == "" &&
          pr.observedExecutorPolicyRevision == 0 && pr.observedExecutorPolicySHA256 == "" && pr.runtimeInstance.isNone
      else
        r.stateKnown && !r.recoveryRequired &&
          (r.result != .rolledBack || r.status == .rolledBack) && (r.result == .rolledBack || r.status == .succeeded) &&
          pr.observation.policyDiskVerified && pr.observation.policyMemoryVerified && pr.observation.listenerVerified &&
          digestPattern pr.observedConfigSHA256 && digestPattern pr.observedExecutorPolicySHA256 &&
          1 ≤ pr.observedConfigRevision && 1 ≤ pr.observedExecutorPolicyRevision

/-- the mapping part of a legacy result, by deployment mode -/
def validateLegacyMode : Bool :=
  let trimmed := trimSpace r.deploymentMode
  let mode := if trimmed == "" then modeSystemd else trimmed
  if mode == modeSystemd then
    r.docker.isNone && validSystemdPort r.oldPort && validSystemdPort r.newPort && r.oldPort != r.newPort
  else if mode == modeDocker then
    r.deploymentMode == modeDocker &&
      if r.result == .rollbackFailed then r.docker.isNone
      else match r.docker with
        | none => false
        | some d => validSystemdPort d.appliedPublishedPort && validSystemdPort d.appliedContainerPort &&
          d.appliedHealthPort == d.appliedPublishedPort && mutationPlanHashPattern d.composeConfigSHA256
  else false

/-- what a legacy result of each kind has to report -/
def validateLegacyKind : Bool :=
  let known := r.stateKnown && 1 ≤ r.endpointRevision && 1 ≤ r.configRevision && digestPattern r.configSHA256
  match r.result with
  | .applied => r.status == .succeeded && known && r.appliedPort == r.newPort
  | .rolledBack => r.status == .rolledBack && known && r.appliedPort == r.oldPort
  | .unchanged => r.status == .succeeded && known && r.appliedPort == r.oldPort
  | .rollbackFailed => r.status == .failed && !r.stateKnown && r.appliedPort == 0 && 1 ≤ r.endpointRevision &&
      r.configRevision == 0 && r.configSHA256 == ""

/-- `Validate` -/
def validate : Bool :=
  if r.portContractVersion != 0 then r.validatePortV2
  else r.portResult.isNone && !r.recoveryRequired && 1 ≤ r.oldPort && r.oldPort ≤ 65535 && 1 ≤ r.newPort &&
    r.newPort ≤ 65535 && safeExecutorMessage r.message && r.validateLegacyMode && r.validateLegacyKind

end SystemdPortReconfigureResult
end AutostreamUpdater.Contract
