/-
The root-owned executor policy as the port transactions see it, the request that names a port job, and the three policy
payloads (before, target, rollback) that a version 2 transaction moves between.

`PortEnv` adds to the shared contracts what the host provides: the policy's own validator and JSON codec, and the
grant-binding validator. Every result holds for all of them; `PolicyCodec` says what the codec is.
-/
import AutostreamUpdater.Contract.PortPlan

namespace AutostreamUpdater.Port

open Contract

/-- `LocalExecutorEndpoint` -/
structure LocalExecutorEndpoint where
  host : String
  port : ℤ
  deriving DecidableEq, Repr, Inhabited

/-- `SystemdTarget`; the port code reads the unit -/
structure SystemdTarget where
  systemctlPath : String := ""
  runuserPath : String := ""
  smokeUser : String := ""
  unit : String
  releaseRoot : String := ""
  currentLink : String := ""
  binaryPath : String := ""
  requiredPaths : List String := []
  deriving DecidableEq, Repr, Inhabited

/-- `DockerTarget`; the port code reads the service, the port env file and the Compose fields -/
structure DockerTarget where
  dockerPath : String := ""
  composeProject : String := ""
  projectDir : String := ""
  composeFiles : List String := []
  service : String
  imageRepo : String := ""
  imageVariable : String := ""
  baseEnvFile : String := ""
  versionEnvFile : String := ""
  portEnvFile : String
  composeConfigSHA256 : String
  portComposePolicySHA256 : String
  portComposeRevision : ℤ
  currentVersion : String := ""
  channel : String := ""
  deriving DecidableEq, Repr, Inhabited

/-- `LocalExecutorTarget` -/
structure LocalExecutorTarget where
  serviceID : String
  serviceType : String
  deploymentMode : String
  databaseName : String := ""
  endpointRevision : ℤ
  configRevision : ℤ
  configSHA256 : String
  localListen : LocalExecutorEndpoint
  systemd : Option SystemdTarget
  docker : Option DockerTarget
  deriving DecidableEq, Repr, Inhabited

/-- `LocalExecutorPolicy`; `mutation` is the panel URL of the mutation section -/
structure LocalExecutorPolicy where
  schemaVersion : ℤ
  protocolVersion : ℤ
  hostID : String
  agentUID : ℤ
  agentGID : ℤ
  socketPath : String
  sourcePolicyRevision : ℤ
  projectionRevision : ℤ
  policyRevision : ℤ
  mutation : Option String
  targets : List LocalExecutorTarget
  deriving DecidableEq, Repr, Inhabited

/-- `LocalExecutorPolicy.Target` -/
def LocalExecutorPolicy.target (p : LocalExecutorPolicy) (serviceID : String) : Option LocalExecutorTarget :=
  p.targets.find? fun t => t.serviceID == serviceID

/-- `contracts.UpdaterMutationGrantBinding`, flattened to the fields this repository reads -/
structure MutationGrantV2Binding where
  operation : String
  sessionID : String
  leaseGeneration : ℤ
  leaseExpiresAt : ℕ
  portReconfigure : Option PortReconfiguration
  jobID : String
  hostID : String
  fence : ℤ
  desiredRevision : ℤ
  authorizationExpiresAt : ℕ
  targetServiceID : String
  targetServiceType : String
  targetDeploymentMode : String
  targetIsApplication : Bool
  targetExpectedConfigRevision : ℤ
  deriving DecidableEq, Repr

/-- the operations a port request can carry; any other text is refused by the request validator -/
inductive PortOperation where
  | portReconfigure | portReconfigureReconcile | other
  deriving DecidableEq, Repr

/-- the operation's text on the wire -/
def PortOperation.text : PortOperation → String
  | .portReconfigure => "port_reconfigure"
  | .portReconfigureReconcile => "port_reconfigure_reconcile"
  | .other => ""

/-- `LocalExecutorRequest`, the fields of its port variant -/
structure LocalExecutorRequest where
  version : ℤ
  operation : PortOperation
  serviceID : String
  portPlan : Option SystemdPortReconfigurePlan
  sourcePolicyRevision : ℤ
  ownershipEpoch : ℤ
  ownershipPolicyRevision : ℤ
  executorPolicyRevision : ℤ
  mutationGrant : String
  mutationGrantV2Binding : Option MutationGrantV2Binding
  deriving DecidableEq, Repr

/-- the shared contracts together with the host's policy validator, codec and grant-binding validator -/
structure PortEnv extends Contracts where
  policyValid : LocalExecutorPolicy → Bool
  encodePolicy : LocalExecutorPolicy → Bytes
  decodePolicy : Bytes → Option LocalExecutorPolicy
  validateGrantBinding : ℕ → MutationGrantV2Binding → Bool
  portPlanIsNoOp : PortReconfiguration → Bool

variable (E : PortEnv)

/-- `SHA256` of a policy; marshalling one does not fail -/
def PortEnv.policySHA256 (policy : LocalExecutorPolicy) : Option String :=
  some ("sha256:" ++ E.sha256 (E.encodePolicy policy))

def mutationProtocolVersion : ℤ := 2
def mutationPolicySchemaVersion : ℤ := 2

/-- a revision of a plan: the before snapshot's for version 2, the legacy field otherwise -/
def planRevision (p : SystemdPortReconfigurePlan) (snapshot : PortSnapshotRef → ℤ) (legacy : ℤ) : ℤ :=
  match p.portContractVersion == 2, p.before with
  | true, some b => snapshot b
  | _, _ => legacy

/-- `LocalExecutorRequest.Validate`, its port branch -/
def LocalExecutorRequest.validate (r : LocalExecutorRequest) : Bool :=
  r.serviceID == trimSpace r.serviceID && identifierPattern r.serviceID && r.operation != .other &&
    r.version == mutationProtocolVersion &&
    match r.portPlan with
    | none => false
    | some p => p.targetID == r.serviceID &&
      r.sourcePolicyRevision == planRevision p (·.sourcePolicyRevision) p.expectedSourcePolicyRevision &&
      r.ownershipEpoch == p.ownershipEpoch &&
      r.ownershipPolicyRevision == planRevision p (·.projectionRevision) p.expectedUpdaterPolicyRevision &&
      r.executorPolicyRevision == planRevision p (·.executorPolicyRevision) p.expectedExecutorPolicyRevision &&
      p.validate E.toContracts &&
      (validBoundedSecret r.mutationGrant ||
        (r.mutationGrant == "" && r.mutationGrantV2Binding.isSome && E.portPlanIsNoOp p.sharedPortPlan))

/-! ## Snapshots in a policy -/

def portPolicySnapshotMatches (policy : LocalExecutorPolicy) (target : LocalExecutorTarget) (ref : PortSnapshotRef) :
    Bool :=
  E.policySHA256 policy == some ref.executorPolicySHA256 && policy.sourcePolicyRevision == ref.sourcePolicyRevision &&
    policy.projectionRevision == ref.projectionRevision && policy.policyRevision == ref.executorPolicyRevision &&
    target.endpointRevision == ref.appliedEndpointRevision && target.configRevision == ref.configRevision &&
    target.configSHA256 == ref.configSHA256 && target.localListen.port == ref.localListenPort

/-- `decodePortPolicy`: a bounded payload that decodes to a valid policy and is that policy's own encoding -/
def decodePortPolicy (payload : Bytes) : Option LocalExecutorPolicy :=
  if payload.isEmpty || 1048576 < payload.length then none
  else match E.decodePolicy payload with
    | none => none
    | some policy => if E.policyValid policy && E.encodePolicy policy == payload then some policy else none

/-- `portPolicyCandidates` -/
structure PortPolicyCandidates where
  before : Bytes
  target : Bytes
  rollback : Bytes
  deriving DecidableEq, Repr

/-- one saved payload is the policy of the snapshot it is saved for -/
def candidateMatches (plan : SystemdPortReconfigurePlan) (payload : Bytes) (ref : Option PortSnapshotRef) : Bool :=
  match decodePortPolicy E payload, ref with
  | some policy, some ref => policy.hostID == plan.hostID &&
      (policy.target plan.targetID).any fun target => portPolicySnapshotMatches E policy target ref
  | _, _ => false

/-- one saved payload is exactly the authorised delta of the before payload -/
def candidateDelta (plan : SystemdPortReconfigurePlan) (before payload : Bytes) (ref : Option PortSnapshotRef) : Bool :=
  match plan.before, ref with
  | some b, some ref => E.applyPortPolicyDelta before plan.targetID b ref == some payload
  | _, _ => false

/-- `portPolicyCandidates.validate` -/
def PortPolicyCandidates.validate (c : PortPolicyCandidates) (plan : SystemdPortReconfigurePlan) : Bool :=
  candidateMatches E plan c.before plan.before && candidateMatches E plan c.target plan.target &&
    candidateMatches E plan c.rollback plan.rollback && candidateDelta E plan c.before c.target plan.target &&
    candidateDelta E plan c.before c.rollback plan.rollback

def buildSystemUpdatePortPolicyCandidates (policy : LocalExecutorPolicy) (plan : SystemdPortReconfigurePlan) :
    Option PortPolicyCandidates := do
  let b ← plan.before
  let t ← plan.target
  let r ← plan.rollback
  let target ← policy.target plan.targetID
  guard (plan.validate E.toContracts && E.policyValid policy && portPolicySnapshotMatches E policy target b)
  let before := E.encodePolicy policy
  let targetBytes ← E.applyPortPolicyDelta before plan.targetID b t
  let rollback ← E.applyPortPolicyDelta before plan.targetID b r
  let candidates : PortPolicyCandidates := ⟨before, targetBytes, rollback⟩
  guard (candidates.validate E plan)
  return candidates

theorem buildSystemUpdatePortPolicyCandidates_valid {policy : LocalExecutorPolicy} {plan : SystemdPortReconfigurePlan}
    {c : PortPolicyCandidates} (h : buildSystemUpdatePortPolicyCandidates E policy plan = some c) :
    c.validate E plan = true := by
  simp only [buildSystemUpdatePortPolicyCandidates, Option.bind_eq_bind, Option.bind_eq_some_iff, guard,
    Option.pure_def] at h
  obtain ⟨b, -, t, -, r, -, target, -, -, -, tb, -, rb, -, u, hu, hc⟩ := h
  cases hc
  by_contra hv
  simp [hv] at hu

/-- `validatePortV2GrantBinding` with the fence of the request and the root policy and target present -/
def validatePortV2GrantBinding (now : ℕ) (binding : MutationGrantV2Binding) (request : LocalExecutorRequest)
    (plan : SystemdPortReconfigurePlan) (policy : LocalExecutorPolicy) (target : LocalExecutorTarget) : Bool :=
  E.validateGrantBinding now binding && plan.validate E.toContracts && request.operation != .other &&
    binding.operation == request.operation.text && binding.sessionID == plan.sessionID &&
    binding.portReconfigure == some plan.sharedPortPlan &&
    match plan.before, plan.target, plan.rollback with
    | some b, some t, some r =>
      binding.jobID == plan.jobID && binding.hostID == plan.hostID && binding.fence == plan.ownershipEpoch &&
        binding.desiredRevision == t.configRevision && binding.targetServiceID == plan.targetID &&
        binding.targetServiceType == plan.serviceType && binding.targetDeploymentMode == plan.deploymentMode &&
        binding.targetIsApplication && binding.targetExpectedConfigRevision == b.configRevision &&
        binding.leaseGeneration == plan.leaseGeneration && request.sourcePolicyRevision == b.sourcePolicyRevision &&
        request.ownershipPolicyRevision == b.projectionRevision &&
        request.executorPolicyRevision == b.executorPolicyRevision && request.ownershipEpoch == plan.ownershipEpoch &&
        E.policyValid policy && policy.hostID == plan.hostID && target.serviceID == plan.targetID &&
        target.serviceType == plan.serviceType && target.deploymentMode == plan.deploymentMode &&
        (portPolicySnapshotMatches E policy target b ||
          (request.operation == .portReconfigureReconcile &&
            (portPolicySnapshotMatches E policy target t || portPolicySnapshotMatches E policy target r)))
    | _, _, _ => false

/-- `portStartDeadline`: thirty seconds after `m0`, or the earlier expiry of the lease or its authorisation -/
def portStartDeadline (m0 : ℕ) (binding : MutationGrantV2Binding) : ℕ :=
  min (m0 + 30) (min binding.leaseExpiresAt binding.authorizationExpiresAt)

end AutostreamUpdater.Port
