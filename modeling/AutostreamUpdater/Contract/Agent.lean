/-
The agent policy a control panel publishes for one host, and the three policy candidates the agent keeps beside the port
job it is working on (`portAgentPolicyState`).

URL parsing, the endpoint digest of the shared contracts package, the length of a policy's JSON and the validators of the
lifecycle directives (runtime requirement, self-update, token rotation) are fields of `AgentContracts`. A candidate never
carries a directive, so `validateForService` decides it without the last of these.
-/
import AutostreamUpdater.Contract.Job

namespace AutostreamUpdater.Contract

def hostTransportPullV2 : String := "pull_v2"

def hostAgentPolicyResponseMaxBytes : ℕ := 2 ^ 20

/-- `HostAgentEndpoint` -/
structure HostAgentEndpoint where
  host : String
  port : ℤ
  sslEnabled : Bool
  publicURL : String
  deriving DecidableEq, Repr

/-- `HostAgentPolicyTarget` -/
structure HostAgentPolicyTarget where
  serviceID : String
  serviceType : String
  deploymentMode : String
  endpointRevision : ℤ := 0
  appliedEndpointRevision : ℤ := 0
  appliedConfigRevision : ℤ := 0
  appliedConfigSHA256 : String := ""
  desiredEndpoint : Option HostAgentEndpoint := none
  appliedEndpoint : Option HostAgentEndpoint := none
  localListenEndpoint : Option HostAgentEndpoint := none
  localHealthEndpoint : Option HostAgentEndpoint := none
  deriving DecidableEq, Repr

/-- `HostAgentPolicy`; the three lifecycle directives are kept as their JSON text -/
structure HostAgentPolicy where
  serviceID : String
  transportMode : String
  executionHostID : String
  ownershipEpoch : ℤ
  revision : ℤ
  sourcePolicyRevision : ℤ
  localExecutorPolicyRevision : ℤ := 0
  observeOnly : Bool := false
  localExecutorPolicySHA256 : String := ""
  runtimeRequirement : Option String := none
  selfUpdate : Option String := none
  selfUpdateID : String := ""
  selfUpdateRevision : ℤ := 0
  selfUpdateStatus : String := ""
  runtimeTokenRotation : Option String := none
  targets : List HostAgentPolicyTarget
  deriving DecidableEq, Repr

/-- what the agent's policy checks use from outside the repository's own logic -/
structure AgentContracts extends Contracts where
  /-- `url.Parse`: scheme and host -/
  parseURL : String → Option (String × String)
  /-- `contracts.ComputeSystemUpdatePortEndpointSHA256` -/
  endpointSHA256 : HostAgentEndpoint → Option String
  /-- the length of the policy's JSON, `none` where marshalling fails -/
  policyJSONLength : HostAgentPolicy → Option ℕ
  /-- the directive checks of `validateForService`, for a policy that carries a self-update or a token rotation -/
  directivesValid : HostAgentPolicy → Bool
  /-- hex SHA-256 of the JSON payload of a mutation plan -/
  mutationPlanPayloadSHA256 : ℤ → MutationPlan → String
  deriving Inhabited

variable (X : AgentContracts)

/-- `validateOptionalHostAgentEndpoint` -/
def validateOptionalHostAgentEndpoint : Option HostAgentEndpoint → Bool
  | none => true
  | some e => trimSpace e.host == e.host && trimSpace e.publicURL == e.publicURL && e.host != "" && 1 ≤ e.port &&
      e.port ≤ 65535 && match X.parseURL e.publicURL with
        | none => false
        | some (scheme, host) => host != "" && (scheme == "http" || scheme == "https")

/-- the checks `validateForService` makes on one target -/
def HostAgentPolicyTarget.validate (t : HostAgentPolicyTarget) : Bool :=
  trimSpace t.serviceID == t.serviceID && trimSpace t.serviceType == t.serviceType &&
    trimSpace t.deploymentMode == t.deploymentMode && identifierPattern t.serviceID &&
    validManagedServiceType t.serviceType && (t.deploymentMode == modeSystemd || t.deploymentMode == modeDocker) &&
    0 ≤ t.endpointRevision && 0 ≤ t.appliedEndpointRevision && 0 ≤ t.appliedConfigRevision &&
    (t.appliedConfigSHA256 == "" || digestPattern t.appliedConfigSHA256) &&
    validateOptionalHostAgentEndpoint X t.desiredEndpoint && validateOptionalHostAgentEndpoint X t.appliedEndpoint &&
    validateOptionalHostAgentEndpoint X t.localListenEndpoint && (t.localListenEndpoint.all fun e => 1024 ≤ e.port) &&
    validateOptionalHostAgentEndpoint X t.localHealthEndpoint

namespace HostAgentPolicy

/-- `HostAgentBinding.validateForService` on the binding a policy names -/
def bindingValid (p : HostAgentPolicy) (serviceID : String) : Bool :=
  trimSpace p.serviceID == p.serviceID && trimSpace p.executionHostID == p.executionHostID &&
    p.serviceID == trimSpace serviceID && p.transportMode == hostTransportPullV2 &&
    validExecutionHostID p.executionHostID && 0 ≤ p.ownershipEpoch

/-- the local executor policy a policy is bound to; an observing host may have none -/
def localExecutorValid (p : HostAgentPolicy) : Bool :=
  if p.ownershipEpoch == 0 then
    (p.localExecutorPolicyRevision == 0) == (p.localExecutorPolicySHA256 == "") && 0 ≤ p.localExecutorPolicyRevision &&
      (p.localExecutorPolicySHA256 == "" || digestPattern p.localExecutorPolicySHA256)
  else 1 ≤ p.localExecutorPolicyRevision && digestPattern p.localExecutorPolicySHA256

/-- the lifecycle directives; without a self-update only a cancellation may keep metadata -/
def lifecycleValid (p : HostAgentPolicy) : Bool :=
  if p.selfUpdate.isSome || p.runtimeTokenRotation.isSome then X.directivesValid p
  else if p.selfUpdateStatus == "cancel_requested" then
    identifierPattern p.selfUpdateID && 1 ≤ p.selfUpdateRevision && p.runtimeRequirement.isNone
  else p.selfUpdateID == "" && p.selfUpdateRevision == 0 && p.selfUpdateStatus == "" && p.runtimeRequirement.isNone

/-- `validateForService` -/
def validateForService (p : HostAgentPolicy) (serviceID : String) (currentRevision : ℤ) : Bool :=
  p.bindingValid serviceID && 1 ≤ p.revision && currentRevision ≤ p.revision && 1 ≤ p.sourcePolicyRevision &&
    p.observeOnly == (p.ownershipEpoch == 0) && p.localExecutorValid && p.lifecycleValid X &&
    p.targets.all (·.validate X) && decide (p.targets.map (·.serviceID)).Nodup

/-- `hostPullPolicyTarget` -/
def hostPullPolicyTarget (p : HostAgentPolicy) (serviceID : String) : Option HostAgentPolicyTarget :=
  p.targets.find? fun t => t.serviceID == serviceID

end HostAgentPolicy

/-- `portAgentPolicyMatchesSnapshot` -/
def portAgentPolicyMatchesSnapshot (p : HostAgentPolicy) (targetID : String) (ref : PortSnapshotRef) : Bool :=
  p.sourcePolicyRevision == ref.sourcePolicyRevision && p.revision == ref.projectionRevision &&
    p.localExecutorPolicyRevision == ref.executorPolicyRevision &&
    p.localExecutorPolicySHA256 == ref.executorPolicySHA256 &&
    match p.hostPullPolicyTarget targetID with
    | none => false
    | some t => t.appliedConfigRevision == ref.configRevision && t.appliedConfigSHA256 == ref.configSHA256 &&
      t.appliedEndpointRevision == ref.appliedEndpointRevision &&
      (t.appliedEndpoint.any fun e => e.port == ref.advertisedPort &&
        X.endpointSHA256 e == some ref.advertisedEndpointSHA256) &&
      if t.deploymentMode == modeSystemd then
        ref.docker.isNone && t.localListenEndpoint.any fun e => e.port == ref.localListenPort
      else t.deploymentMode == modeDocker && ref.docker.any fun d => t.localHealthEndpoint.any fun e =>
        e.host == d.publishedHostIP && e.port == d.healthPort

/-- `portAgentPolicyState` -/
structure PortAgentPolicyState where
  jobID : String
  portIntentSHA256 : String
  before : HostAgentPolicy
  target : HostAgentPolicy
  rollback : HostAgentPolicy
  activeSnapshotID : String
  deriving DecidableEq, Repr

namespace PortAgentPolicyState

/-- the job, the plan and the candidates belong together -/
def identityValid (s : PortAgentPolicyState) (job : UpdateJob) (plan : SystemdPortReconfigurePlan)
    (before target rollback : PortSnapshotRef) (binding : SystemdPortMutationGrantBinding) : Bool :=
  job.isPortContractV2 && plan.portContractVersion == 2 && plan.validate X.toContracts && job.hostID == plan.hostID &&
    job.targetID == plan.targetID && job.ownershipEpoch == plan.ownershipEpoch &&
    job.policyRevision == before.projectionRevision && job.effectiveType == plan.serviceType &&
    job.deploymentMode == plan.deploymentMode && s.jobID == job.id && s.jobID == plan.jobID &&
    s.portIntentSHA256 == binding.portPlanSHA256 && s.portIntentSHA256 == plan.portIntentSHA256 &&
    binding.before == some before && binding.target == some target && binding.rollback == some rollback

/-- the checks on one candidate -/
def candidateValid (job : UpdateJob) (policy : HostAgentPolicy) (ref : PortSnapshotRef) : Bool :=
  policy.validateForService X job.agentServiceID 0 &&
    ((X.policyJSONLength policy).any fun n => n ≤ hostAgentPolicyResponseMaxBytes) &&
    ((policy.hostPullPolicyTarget job.targetID).any fun t => t.endpointRevision == ref.endpointRevision) &&
    policy.runtimeTokenRotation.isNone && policy.selfUpdate.isNone && policy.executionHostID == job.hostID &&
    policy.ownershipEpoch == job.ownershipEpoch && portAgentPolicyMatchesSnapshot X policy job.targetID ref

/-- `validate` -/
def validate (s : PortAgentPolicyState) (job : Option UpdateJob) (plan : Option SystemdPortReconfigurePlan) :
    Except String Unit :=
  match job, plan with
  | some job, some plan =>
    match plan.before, plan.target, plan.rollback, job.portReconfigure with
    | some before, some target, some rollback, some binding =>
      if !s.identityValid X job plan before target rollback binding then
        .error "active port policy identity is invalid"
      else if !(candidateValid X job s.before before && candidateValid X job s.target target &&
          candidateValid X job s.rollback rollback) then
        .error "active port policy candidate is invalid"
      else if s.activeSnapshotID != before.snapshotID && s.activeSnapshotID != target.snapshotID &&
          s.activeSnapshotID != rollback.snapshotID then
        .error "active port policy snapshot is invalid"
      else .ok ()
    | _, _, _, _ => .error "active port policy identity is invalid"
  | _, _ => .error "active port policy identity is invalid"

end PortAgentPolicyState
end AutostreamUpdater.Contract
