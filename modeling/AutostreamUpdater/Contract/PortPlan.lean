/-
The plan of one port job and the grant binding of a claimed one.

`SystemdPortReconfigurePlan.validate` is the validator both contract versions share: version 0 is the legacy plan with
old and new port, version 2 the plan over three snapshots. `sameSystemdPortIntent` says when two plans describe the same
job under different leases; `portV2ResultSnapshot` names the snapshot a result stands for.
-/
import AutostreamUpdater.Contract.Port

namespace AutostreamUpdater.Contract

/-- `SystemdPortReconfigurePlan` -/
structure SystemdPortReconfigurePlan where
  portContractVersion : ℤ := 0
  mode : String := ""
  before : Option PortSnapshotRef := none
  target : Option PortSnapshotRef := none
  rollback : Option PortSnapshotRef := none
  dockerBaseline : Option PortDockerBaseline := none
  portIntentSHA256 : String := ""
  deploymentMode : String := ""
  jobID : String
  hostID : String
  targetID : String
  serviceType : String
  networkNamespace : String
  protocol : String
  oldPort : ℤ := 0
  newPort : ℤ := 0
  expectedEndpointRevision : ℤ := 0
  targetEndpointRevision : ℤ := 0
  expectedConfigRevision : ℤ := 0
  targetConfigRevision : ℤ := 0
  expectedConfigSHA256 : String := ""
  targetConfigSHA256 : String := ""
  expectedSourcePolicyRevision : ℤ := 0
  expectedUpdaterPolicyRevision : ℤ := 0
  expectedExecutorPolicyRevision : ℤ := 0
  expectedExecutorPolicySHA256 : String := ""
  ownershipEpoch : ℤ
  leaseGeneration : ℕ
  sessionID : String
  portPlanSHA256 : String
  docker : Option DockerPortMutationGrantBinding := none
  deriving DecidableEq, Repr

/-- `contracts.NodeListenerConfig` -/
structure NodeListenerConfig where
  schemaVersion : ℤ
  serviceType : String
  bindAddress : String
  configRevision : ℤ
  deriving DecidableEq, Repr

/-- the shared contracts package, SHA-256 and the JSON codec -/
structure Contracts where
  validatePortPlan : PortReconfiguration → Bool
  validatePortResult : PortReconfiguration → PortResultV2 → Bool
  isAcceptedPortResult : PortResultV2 → Bool
  /-- plan, job, host, target, service type, ownership epoch, lease generation, session -/
  portRuntimePlanSHA256 : PortReconfiguration → String → String → String → String → ℤ → ℕ → String → Option String
  applyPortPolicyDelta : Bytes → String → PortSnapshotRef → PortSnapshotRef → Option Bytes
  marshalNodeListenerConfig : NodeListenerConfig → Option Bytes
  /-- hex SHA-256 of the JSON payload of a legacy plan: its schema version and every plan field but the digest itself -/
  portPlanPayloadSHA256 : ℤ → SystemdPortReconfigurePlan → String
  /-- hex SHA-256 of a byte string -/
  sha256 : Bytes → String
  deriving Inhabited

variable (X : Contracts)

/-- `DockerPortMutationGrantBinding.validate`, nil included -/
def dockerPortBindingValid (d : Option DockerPortMutationGrantBinding) (expectedExecutorPolicyRevision : ℤ) : Bool :=
  match d with
  | none => false
  | some d => d.publishedHostIP == "127.0.0.1" && validSystemdPort d.oldPublishedPort &&
      validSystemdPort d.newPublishedPort && validSystemdPort d.oldContainerPort && validSystemdPort d.newContainerPort &&
      d.oldHealthPort == d.oldPublishedPort && d.newHealthPort == d.newPublishedPort &&
      mutationPlanHashPattern d.approvedComposeConfigSHA256 &&
      d.approvedComposeRevision == expectedExecutorPolicyRevision && digestPattern d.expectedVersionEnvSHA256 &&
      dockerContainerIDPattern d.expectedContainerID && digestPattern d.expectedImageID &&
      digestPattern d.expectedRepositoryDigest

/-- neither the advertised nor a published nor a container port changes -/
def dockerPortNoOp (oldPort newPort : ℤ) (d : Option DockerPortMutationGrantBinding) : Bool :=
  oldPort == newPort && match d with
    | none => true
    | some d => d.oldPublishedPort == d.newPublishedPort && d.oldContainerPort == d.newContainerPort

namespace SystemdPortReconfigurePlan

variable (p : SystemdPortReconfigurePlan)

/-- `SharedPortPlan` -/
def sharedPortPlan : PortReconfiguration :=
  { portContractVersion := p.portContractVersion, mode := p.mode, before := p.before, target := p.target,
    rollback := p.rollback, dockerBaseline := p.dockerBaseline, networkNamespace := p.networkNamespace,
    protocol := p.protocol, portPlanSHA256 := p.portIntentSHA256 }

def effectiveDeploymentMode : String :=
  if trimSpace p.deploymentMode == "" && p.docker.isNone then modeSystemd else trimSpace p.deploymentMode

/-- the identity, ports, revisions and fences a legacy plan needs before it can be digested -/
def legacyComplete : Bool :=
  identifierPattern p.jobID && validExecutionHostID p.hostID && identifierPattern p.targetID &&
    validSystemdPortServiceType p.serviceType && p.networkNamespace == "host" && p.protocol == "tcp" &&
    1 ≤ p.oldPort && p.oldPort ≤ 65535 && 1 ≤ p.newPort && p.newPort ≤ 65535 &&
    1 ≤ p.expectedEndpointRevision && p.expectedEndpointRevision < maxInt64 - 1 &&
    p.targetEndpointRevision == p.expectedEndpointRevision + 1 && 1 ≤ p.expectedConfigRevision &&
    p.targetConfigRevision == incr64 p.expectedConfigRevision && digestPattern p.expectedConfigSHA256 &&
    digestPattern p.targetConfigSHA256 && 1 ≤ p.expectedSourcePolicyRevision && 1 ≤ p.expectedUpdaterPolicyRevision &&
    1 ≤ p.expectedExecutorPolicyRevision && digestPattern p.expectedExecutorPolicySHA256 && 1 ≤ p.ownershipEpoch &&
    p.leaseGeneration != 0 && mutationSessionPattern p.sessionID

/-- the fields of a legacy plan that its deployment mode constrains -/
def legacyModeValid : Bool :=
  if p.effectiveDeploymentMode == modeSystemd then
    p.docker.isNone && validSystemdPort p.oldPort && validSystemdPort p.newPort && p.oldPort != p.newPort
  else if p.effectiveDeploymentMode == modeDocker then
    p.deploymentMode == modeDocker && dockerPortBindingValid p.docker p.expectedExecutorPolicyRevision &&
      !dockerPortNoOp p.oldPort p.newPort p.docker
  else false

/-- `ComputePortPlanSHA256`: schema version 1 for systemd and 2 for Docker -/
def computePortPlanSHA256 : Option String :=
  if p.portContractVersion == 2 then
    X.portRuntimePlanSHA256 p.sharedPortPlan p.jobID p.hostID p.targetID p.serviceType p.ownershipEpoch
      p.leaseGeneration p.sessionID
  else if p.legacyComplete && p.legacyModeValid then
    some (X.portPlanPayloadSHA256 (if p.effectiveDeploymentMode == modeDocker then 2 else 1)
      { p with portPlanSHA256 := "" })
  else none

/-- `validatePortV2` -/
def validatePortV2 : Bool :=
  p.portContractVersion == 2 && identifierPattern p.jobID && validExecutionHostID p.hostID &&
    identifierPattern p.targetID && validSystemdPortServiceType p.serviceType && 1 ≤ p.ownershipEpoch &&
    p.leaseGeneration != 0 && mutationSessionPattern p.sessionID && p.oldPort == 0 && p.newPort == 0 &&
    p.expectedEndpointRevision == 0 && p.targetEndpointRevision == 0 && p.expectedConfigRevision == 0 &&
    p.targetConfigRevision == 0 && p.expectedConfigSHA256 == "" && p.targetConfigSHA256 == "" &&
    p.expectedSourcePolicyRevision == 0 && p.expectedUpdaterPolicyRevision == 0 &&
    p.expectedExecutorPolicyRevision == 0 && p.expectedExecutorPolicySHA256 == "" && p.docker.isNone &&
    X.validatePortPlan p.sharedPortPlan && (p.deploymentMode == modeSystemd || p.deploymentMode == modeDocker) &&
    (p.deploymentMode == modeDocker) == (p.before.any fun b => b.docker.isSome) &&
    p.computePortPlanSHA256 X == some p.portPlanSHA256

/-- `Validate` -/
def validate : Bool :=
  if p.portContractVersion != 0 then p.validatePortV2 X
  else p.before.isNone && p.target.isNone && p.rollback.isNone && p.dockerBaseline.isNone && p.mode == "" &&
    p.portIntentSHA256 == "" && p.legacyComplete && p.expectedConfigSHA256 != p.targetConfigSHA256 &&
    mutationPlanHashPattern p.portPlanSHA256 && p.legacyModeValid && p.computePortPlanSHA256 X == some p.portPlanSHA256

end SystemdPortReconfigurePlan

/-- the plan without what a new lease may change -/
def portIntent (p q : SystemdPortReconfigurePlan) : SystemdPortReconfigurePlan :=
  if p.portContractVersion == 2 && q.portContractVersion == 2 then
    { p with leaseGeneration := 0, portPlanSHA256 := "", sessionID := "" }
  else { p with leaseGeneration := 0, portPlanSHA256 := "" }

def sameSystemdPortIntent (left right : SystemdPortReconfigurePlan) : Bool :=
  portIntent left right == portIntent right left

def portV2ResultSnapshot (plan : SystemdPortReconfigurePlan) : PortResultKind → Option PortSnapshotRef
  | .applied => plan.target
  | .unchanged => plan.before
  | .rolledBack => plan.rollback
  | .rollbackFailed => none

/-- Plans of one intent belong to the same job. -/
theorem sameSystemdPortIntent_job {p q : SystemdPortReconfigurePlan} (h : sameSystemdPortIntent p q = true) :
    p.targetID = q.targetID ∧ p.jobID = q.jobID := by
  have h : portIntent p q = portIntent q p := by simpa [sameSystemdPortIntent] using h
  have ht := congrArg (·.targetID) h
  have hj := congrArg (·.jobID) h
  unfold portIntent at ht hj
  split_ifs at ht hj <;> exact ⟨ht, hj⟩

/-- Plans of one intent stand for the same snapshots, so a result names the same snapshot under every lease. -/
theorem sameSystemdPortIntent_snapshot {p q : SystemdPortReconfigurePlan} (h : sameSystemdPortIntent p q = true)
    (k : PortResultKind) : portV2ResultSnapshot p k = portV2ResultSnapshot q k := by
  have h : portIntent p q = portIntent q p := by simpa [sameSystemdPortIntent] using h
  have hb := congrArg (·.before) h
  have ht := congrArg (·.target) h
  have hr := congrArg (·.rollback) h
  unfold portIntent at hb ht hr
  cases k <;> simp only [portV2ResultSnapshot] <;> split_ifs at hb ht hr <;> assumption

end AutostreamUpdater.Contract
