/-
The durable records of a port transaction: the per-job ledger, the version 2 transition state inside it, and the applied
record of a target, for both deployment modes.

The systemd and the Docker ledger share every field but the runtime baseline, so one structure `PortLedger β` carries
the shared fields and `β` the rest (`SystemdBaseline`, `DockerBaseline`). Validators follow the source's, the legacy and
the version 2 form of each.
-/
import AutostreamUpdater.Port.Policy

namespace AutostreamUpdater.Port

open Contract

variable (E : PortEnv)

/-! ## Runtime configuration files -/

/-- `net.JoinHostPort` -/
def joinHostPort (host : String) (port : ℤ) : String :=
  if host.toList.contains ':' then "[" ++ host ++ "]:" ++ toString port else host ++ ":" ++ toString port

/-- `systemdPortSidecarBytes`; an encoding error leaves the empty payload -/
def systemdPortSidecarBytes (serviceType host : String) (port configRevision : ℤ) : Bytes :=
  if serviceType == "control_panel" then
    textBytes ("AUTOSTREAM_BIND_ADDR=" ++ joinHostPort host port ++ "\nAUTOSTREAM_CONFIG_REVISION=" ++
      toString configRevision ++ "\n")
  else (E.marshalNodeListenerConfig ⟨2, serviceType, joinHostPort host port, configRevision⟩).getD []

/-- `systemdPortSidecarSHA256` and `dockerPortEnvSHA256` -/
def payloadSHA256 (body : Bytes) : String := "sha256:" ++ E.sha256 body

/-- `systemdPortAdapter` -/
structure SystemdPortAdapter where
  unit : String
  sidecarPath : String
  serviceType : String
  deriving DecidableEq, Repr

/-- the fixed unit and sidecar of each service type -/
def systemdAdapterTable : List SystemdPortAdapter :=
  [⟨"autostream-worker.service", "/opt/autostream/local-executor/ports/worker.json", "worker"⟩,
   ⟨"autostream-encoder-recorder.service", "/opt/autostream/local-executor/ports/encoder-recorder.json",
     "encoder_recorder"⟩,
   ⟨"autostream-discord-bot.service", "/opt/autostream/local-executor/ports/discord-bot.json", "discord_bot"⟩,
   ⟨"autostream-observability.service", "/opt/autostream/local-executor/ports/observability.json", "observability"⟩]

def systemdPortAdapterFor (serviceType policyUnit : String) : Option SystemdPortAdapter :=
  (systemdAdapterTable.find? fun a => a.serviceType == serviceType).filter fun a => a.unit == policyUnit

/-- `dockerPortAdapter` -/
structure DockerPortAdapter where
  service : String
  publishedVariable : String
  containerVariable : String
  portEnvFile : String
  deriving DecidableEq, Repr

/-- the Compose service and the two port variables of each service type -/
def dockerAdapterTable : List (String × DockerPortAdapter) :=
  [("worker", ⟨"worker", "AUTOSTREAM_WORKER_PORT", "AUTOSTREAM_WORKER_CONTAINER_PORT",
     "/opt/autostream/local-executor/docker/ports/worker.env"⟩),
   ("encoder_recorder", ⟨"encoder-recorder", "AUTOSTREAM_ENCODER_RECORDER_PORT",
     "AUTOSTREAM_ENCODER_RECORDER_CONTAINER_PORT",
     "/opt/autostream/local-executor/docker/ports/encoder-recorder.env"⟩),
   ("discord_bot", ⟨"discord-bot", "AUTOSTREAM_DISCORD_BOT_PORT", "AUTOSTREAM_DISCORD_BOT_CONTAINER_PORT",
     "/opt/autostream/local-executor/docker/ports/discord-bot.env"⟩),
   ("observability", ⟨"observability", "AUTOSTREAM_OBSERVABILITY_PORT", "AUTOSTREAM_OBSERVABILITY_CONTAINER_PORT",
     "/opt/autostream/local-executor/docker/ports/observability.env"⟩)]

def dockerPortAdapterFor (serviceType : String) (target : Option DockerTarget) : Option DockerPortAdapter := do
  let adapter ← (dockerAdapterTable.find? fun a => a.1 == serviceType).map (·.2)
  let target ← target
  guard (target.service == adapter.service && target.portEnvFile == adapter.portEnvFile &&
    1 ≤ target.portComposeRevision && mutationPlanHashPattern target.portComposePolicySHA256)
  return adapter

/-- `^[A-Z][A-Z0-9_]*$` -/
def envNamePattern (s : String) : Bool :=
  match s.toList with
  | [] => false
  | c :: cs => ('A' ≤ c && c ≤ 'Z') && cs.all fun c => ('A' ≤ c && c ≤ 'Z') || isDigit c || c == '_'

def dockerPortEnvBytes (adapter : DockerPortAdapter) (publishedPort containerPort configRevision : ℤ) : Option Bytes :=
  if envNamePattern adapter.publishedVariable && envNamePattern adapter.containerVariable &&
      validSystemdPort publishedPort && validSystemdPort containerPort && 1 ≤ configRevision then
    some (textBytes (adapter.publishedVariable ++ "=" ++ toString publishedPort ++ "\n" ++ adapter.containerVariable ++
      "=" ++ toString containerPort ++ "\nAUTOSTREAM_CONFIG_REVISION=" ++ toString configRevision ++ "\n"))
  else none

/-- `systemdPortSidecarCheckpoint` and `dockerPortMappingCheckpoint` -/
structure PortCheckpoint where
  existed : Bool
  mode : ℕ
  bytes : Bytes
  sha256 : String
  deriving DecidableEq, Repr

/-- the two `validate` methods; they differ in the file mode they accept -/
def PortCheckpoint.validateMode (c : PortCheckpoint) (modeOK : ℕ → Bool) : Bool :=
  c.sha256 == payloadSHA256 E c.bytes &&
    if c.existed then modeOK c.mode && !c.bytes.isEmpty && c.bytes.length ≤ 65536
    else c.mode == 0 && c.bytes.isEmpty

/-- `systemdPortSidecarCheckpoint.validate`: a mode without group or other write -/
def PortCheckpoint.validateSidecar (c : PortCheckpoint) : Bool :=
  c.validateMode E fun m => m != 0 && m &&& 0o022 == 0

/-- `dockerPortMappingCheckpoint.validate`: exactly 0600 -/
def PortCheckpoint.validateMapping (c : PortCheckpoint) : Bool := c.validateMode E fun m => m == 0o600

/-! ## The transition state of version 2 -/

/-- `portPolicyTransitionState` -/
structure PortPolicyTransition where
  version : ℤ
  beforePolicy : Bytes
  targetPolicy : Bytes
  rollbackPolicy : Bytes
  rollbackRuntimeBytes : Bytes
  rollbackComposeSHA256 : String := ""
  rollbackLatched : Bool := false
  recoveryRequired : Bool := false
  consumed : Bool := false
  lastRecoveryObservation : Option SystemdPortReconfigureResult := none
  deriving DecidableEq, Repr

def PortPolicyTransition.candidates (s : PortPolicyTransition) : PortPolicyCandidates :=
  ⟨s.beforePolicy, s.targetPolicy, s.rollbackPolicy⟩

/-- `portPolicyTransitionState.validate` -/
def PortPolicyTransition.validate (s : PortPolicyTransition) (plan : SystemdPortReconfigurePlan) : Bool :=
  s.version == 1 && s.candidates.validate E plan && !s.rollbackRuntimeBytes.isEmpty &&
    (plan.rollback.any fun r => payloadSHA256 E s.rollbackRuntimeBytes == r.configSHA256) &&
    match s.lastRecoveryObservation with
    | none => true
    | some o => o.validate && o.result == .rollbackFailed && s.rollbackLatched && s.recoveryRequired

/-! ## Ledgers -/

/-- the ledger states of both deployment modes and both contract versions -/
inductive LedgerState where
  | staged | grantConsuming | grantConsumed | sidecarWritten | restarted | envWritten | recreated | ambiguous
  | committing | terminal | policyWritePending | policyWritten | policyLoaded | rollbackLatched
  deriving DecidableEq, Repr

/-- the fields a systemd and a Docker port ledger share, with the mode's own baseline -/
structure PortLedger (β : Type) where
  schemaVersion : ℤ
  plan : SystemdPortReconfigurePlan
  state : LedgerState
  checkpoint : PortCheckpoint
  targetBytes : Bytes
  baseline : β
  result : Option SystemdPortReconfigureResult := none
  policyTransition : Option PortPolicyTransition := none
  deriving DecidableEq, Repr

/-- what `systemdPortLedger` records of the running service -/
structure SystemdBaseline where
  currentVersion : String
  deriving DecidableEq, Repr

/-- `dockerPortRuntimeBaseline` -/
structure DockerRuntimeBaseline where
  versionEnvSHA256 : String
  containerID : String
  imageID : String
  repositoryDigest : String
  currentVersion : String
  deriving DecidableEq, Repr

/-- what `dockerPortLedger` records of the running container and its two Compose models -/
structure DockerBaseline where
  runtime : DockerRuntimeBaseline
  oldComposeSHA256 : String
  targetComposeSHA256 : String
  deriving DecidableEq, Repr

abbrev SystemdPortLedger := PortLedger SystemdBaseline
abbrev DockerPortLedger := PortLedger DockerBaseline

def DockerRuntimeBaseline.validate (b : DockerRuntimeBaseline) : Bool :=
  digestPattern b.versionEnvSHA256 && dockerContainerIDPattern b.containerID && digestPattern b.imageID &&
    digestPattern b.repositoryDigest && versionPattern b.currentVersion

def validPortV2LedgerState (state : LedgerState) (transition : Option PortPolicyTransition)
    (result : Option SystemdPortReconfigureResult) : Bool :=
  match transition with
  | none => false
  | some t => match state with
    | .staged | .grantConsuming | .grantConsumed | .policyWritePending | .policyWritten | .policyLoaded
    | .rollbackLatched | .sidecarWritten | .restarted | .ambiguous => result.isNone
    | .committing | .terminal =>
      (result.any fun r => r.validate && r.result != .rollbackFailed) && !t.recoveryRequired
    | .envWritten | .recreated => false

/-- the states of a legacy ledger, where `working` are the ones between staging and commit that have no result -/
def validLegacyLedgerState (working : LedgerState → Bool) (state : LedgerState)
    (result : Option SystemdPortReconfigureResult) : Bool :=
  match state with
  | .committing => result.any fun r => r.validate && r.result != .rollbackFailed
  | .terminal => result.any fun r => r.validate
  | s => working s && result.isNone

def portV2SnapshotPayloadMatches (payload : Bytes) (ref : PortSnapshotRef) : Bool :=
  !payload.isEmpty && payload.length ≤ 65536 && payloadSHA256 E payload == ref.configSHA256

def portV2AcceptedResultMatchesPlan (plan : SystemdPortReconfigurePlan) (result : SystemdPortReconfigureResult) : Bool :=
  match result.portResult with
  | none => false
  | some proof => result.result != .rollbackFailed &&
      E.validatePortResult plan.sharedPortPlan
        { proof with observation := { proof.observation with agentProjectionVerified := true } }

/-- the version 2 conditions both ledgers share -/
def PortLedger.validatePortV2Shared {β : Type} (l : PortLedger β) (targetID mode : String)
    (checkpointOK : PortCheckpoint → Bool) : Bool :=
  l.schemaVersion == 2 && l.plan.targetID == targetID && l.plan.deploymentMode == mode &&
    l.plan.validate E.toContracts && checkpointOK l.checkpoint && l.checkpoint.existed && l.checkpoint.mode == 0o600 &&
    (l.plan.before.any fun b => l.checkpoint.sha256 == b.configSHA256) &&
    (l.plan.target.any fun t => portV2SnapshotPayloadMatches E l.targetBytes t) &&
    (l.policyTransition.any fun t => t.validate E l.plan) &&
    validPortV2LedgerState l.state l.policyTransition l.result &&
    (l.result.all fun r => portV2AcceptedResultMatchesPlan E l.plan r)

/-- `systemdPortLedger.validate` -/
def validateSystemdPortLedger (l : SystemdPortLedger) (targetID : String) : Bool :=
  if l.plan.portContractVersion == 2 then
    l.validatePortV2Shared E targetID modeSystemd (·.validateSidecar E) && versionPattern l.baseline.currentVersion
  else l.schemaVersion == 1 && l.plan.targetID == targetID && l.plan.validate E.toContracts &&
    l.checkpoint.validateSidecar E && l.plan.expectedConfigSHA256 == l.checkpoint.sha256 &&
    payloadSHA256 E l.targetBytes == l.plan.targetConfigSHA256 && versionPattern l.baseline.currentVersion &&
    validLegacyLedgerState
      [.staged, .grantConsuming, .grantConsumed, .sidecarWritten, .restarted, .ambiguous].contains l.state l.result

/-- `dockerPortLedger.validate` -/
def validateDockerPortLedger (l : DockerPortLedger) (targetID : String) : Bool :=
  let composeOK := mutationPlanHashPattern l.baseline.oldComposeSHA256 &&
    mutationPlanHashPattern l.baseline.targetComposeSHA256
  if l.plan.portContractVersion == 2 then
    l.validatePortV2Shared E targetID modeDocker (·.validateMapping E) && l.baseline.runtime.validate && composeOK &&
      (l.policyTransition.any fun t => mutationPlanHashPattern t.rollbackComposeSHA256)
  else l.schemaVersion == 1 && l.plan.targetID == targetID && l.plan.effectiveDeploymentMode == modeDocker &&
    l.plan.validate E.toContracts && l.checkpoint.validateMapping E && l.baseline.runtime.validate &&
    l.checkpoint.sha256 == l.plan.expectedConfigSHA256 && payloadSHA256 E l.targetBytes == l.plan.targetConfigSHA256 &&
    composeOK && validLegacyLedgerState
      [.staged, .grantConsuming, .grantConsumed, .envWritten, .recreated, .ambiguous].contains l.state l.result

/-! ## Applied records -/

/-- `systemdPortAppliedState` -/
structure SystemdPortAppliedState where
  schemaVersion : ℤ
  targetID : String
  serviceType : String
  port : ℤ
  endpointRevision : ℤ
  configRevision : ℤ
  configSHA256 : String
  sourcePolicyRevision : ℤ
  updaterPolicyRevision : ℤ
  executorPolicyRevision : ℤ
  executorPolicySHA256 : String
  ownershipEpoch : ℤ
  deriving DecidableEq, Repr

/-- the checks of `fileSystemdPortStateStore.SaveApplied` -/
def SystemdPortAppliedState.savable (a : SystemdPortAppliedState) : Bool :=
  a.schemaVersion == 1 && identifierPattern a.targetID && validSystemdPortServiceType a.serviceType &&
    validSystemdPort a.port && 1 ≤ a.endpointRevision && 1 ≤ a.configRevision && digestPattern a.configSHA256 &&
    1 ≤ a.sourcePolicyRevision && 1 ≤ a.updaterPolicyRevision && 1 ≤ a.executorPolicyRevision &&
    digestPattern a.executorPolicySHA256 && 1 ≤ a.ownershipEpoch

/-- `systemdPortAppliedStateForResult`; a version 2 result without a snapshot leaves the zero record -/
def systemdPortAppliedStateForResult (plan : SystemdPortReconfigurePlan) (result : SystemdPortReconfigureResult) :
    SystemdPortAppliedState :=
  if plan.portContractVersion == 2 then
    match portV2ResultSnapshot plan result.result with
    | none => ⟨0, "", "", 0, 0, 0, "", 0, 0, 0, "", 0⟩
    | some ref => ⟨1, plan.targetID, plan.serviceType, ref.localListenPort, ref.appliedEndpointRevision,
        ref.configRevision, ref.configSHA256, ref.sourcePolicyRevision, ref.projectionRevision,
        ref.executorPolicyRevision, ref.executorPolicySHA256, plan.ownershipEpoch⟩
  else ⟨1, plan.targetID, plan.serviceType, result.appliedPort, result.endpointRevision, result.configRevision,
    result.configSHA256, plan.expectedSourcePolicyRevision, plan.expectedUpdaterPolicyRevision,
    plan.expectedExecutorPolicyRevision, plan.expectedExecutorPolicySHA256, plan.ownershipEpoch⟩

/-- `dockerPortAppliedState` -/
structure DockerPortAppliedState where
  portContractVersion : ℤ := 0
  portJobID : String := ""
  schemaVersion : ℤ
  targetID : String
  serviceType : String
  publishedPort : ℤ
  containerPort : ℤ
  healthPort : ℤ
  endpointRevision : ℤ
  configRevision : ℤ
  configSHA256 : String
  composeConfigSHA256 : String
  sourcePolicyRevision : ℤ
  updaterPolicyRevision : ℤ
  executorPolicyRevision : ℤ
  executorPolicySHA256 : String
  ownershipEpoch : ℤ
  deriving DecidableEq, Repr

/-- `dockerPortAppliedState.validate` -/
def DockerPortAppliedState.validate (a : DockerPortAppliedState) (targetID : String) : Bool :=
  (if a.portContractVersion == 0 then a.portJobID == ""
    else a.portContractVersion == 2 && identifierPattern a.portJobID) &&
    a.schemaVersion == 1 && a.targetID == targetID && identifierPattern a.targetID &&
    validSystemdPortServiceType a.serviceType && validSystemdPort a.publishedPort && validSystemdPort a.containerPort &&
    a.healthPort == a.publishedPort && 1 ≤ a.endpointRevision && 1 ≤ a.configRevision && digestPattern a.configSHA256 &&
    mutationPlanHashPattern a.composeConfigSHA256 && 1 ≤ a.sourcePolicyRevision && 1 ≤ a.updaterPolicyRevision &&
    1 ≤ a.executorPolicyRevision && digestPattern a.executorPolicySHA256 && 1 ≤ a.ownershipEpoch

end AutostreamUpdater.Port
