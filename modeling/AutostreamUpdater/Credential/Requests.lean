/-
The requests of a credential rotation: prepare, stage, proof-ready, activate, cancel and finalize, the handler that runs
one of them on the reconciled record, the pass of the expiry loop, and the recovery after an operator replaced the active
identity.
-/
import AutostreamUpdater.Credential.Reconcile

namespace AutostreamUpdater.Credential

open Contract Base

/-- `RuntimeCredentialMutation` -/
structure RuntimeCredentialMutation where
  rotationID : String
  executionHostID : String
  previousTokenID : String
  stagedTokenID : String
  rotationRevision : ℤ
  runtimeToken : String := ""
  deriving DecidableEq, Repr

/-- the operations `runtime_credential_*` -/
inductive Operation where
  | status | prepare | stage | proofReady | activate | cancel | finalize
  deriving DecidableEq, Repr

/-- `validate` -/
def RuntimeCredentialMutation.validate (m : RuntimeCredentialMutation) (operation : Operation) : Bool :=
  identifierPattern m.rotationID && validExecutionHostID m.executionHostID && identifierPattern m.previousTokenID &&
    identifierPattern m.stagedTokenID && m.previousTokenID != m.stagedTokenID && 1 ≤ m.rotationRevision &&
    ([m.rotationID, m.executionHostID, m.previousTokenID, m.stagedTokenID].all fun v => trimSpace v == v) &&
    if operation == .stage then validBoundedSecret m.runtimeToken else m.runtimeToken == ""

/-- `LocalExecutorRequest`, its credential part; `foreign` says that it carries a section of another operation -/
structure CredentialRequest where
  version : ℤ := localExecutorMutationProtocolVersion
  operation : Operation
  serviceID : String
  mutation : Option RuntimeCredentialMutation := none
  sourcePolicyRevision : ℤ := 0
  ownershipEpoch : ℤ := 0
  ownershipPolicyRevision : ℤ := 0
  executorPolicyRevision : ℤ := 0
  foreign : Bool := false
  deriving DecidableEq, Repr

/-- `LocalExecutorRequest.Validate`, its credential branches -/
def CredentialRequest.validate (r : CredentialRequest) : Bool :=
  trimSpace r.serviceID == r.serviceID && identifierPattern r.serviceID && !r.foreign &&
    r.version == localExecutorMutationProtocolVersion &&
    if r.operation == .status then
      r.mutation.isNone && r.sourcePolicyRevision == 0 && r.ownershipEpoch == 0 && r.ownershipPolicyRevision == 0 &&
        r.executorPolicyRevision == 0
    else 1 ≤ r.sourcePolicyRevision && 1 ≤ r.ownershipEpoch && 1 ≤ r.ownershipPolicyRevision &&
      1 ≤ r.executorPolicyRevision && r.mutation.any fun m => m.validate r.operation

/-- `LocalExecutorPolicy`, what the credential code reads of it; `valid` says that it passes its own validator with the
mutation versions and has a mutation section -/
structure CredentialPolicy where
  valid : Bool := true
  hostID : String
  sourcePolicyRevision : ℤ
  projectionRevision : ℤ
  policyRevision : ℤ
  panelURL : String
  sha256 : Option String
  executorVersion : String
  deriving DecidableEq, Repr

/-- the two clock readings of one request: at the reconciliation, and at the operation after it -/
structure Clock where
  now : ℕ
  later : ℕ
  le : now ≤ later
  deriving DecidableEq, Repr

/-- `runtimeCredentialRequestMatchesStatus` -/
def requestMatchesStatus (r : CredentialRequest) (m : RuntimeCredentialMutation) (s : RuntimeCredentialStatus) : Bool :=
  r.serviceID == s.serviceID && m.rotationID == s.rotationID && m.executionHostID == s.executionHostID &&
    m.previousTokenID == s.previousTokenID && m.stagedTokenID == s.stagedTokenID &&
    r.ownershipEpoch == s.ownershipEpoch && r.sourcePolicyRevision == s.sourcePolicyRevision &&
    r.ownershipPolicyRevision == s.projectionRevision && r.executorPolicyRevision == s.localExecutorPolicyRevision

/-- `validateRuntimeCredentialPanelTransition` -/
def panelTransitionValid (rotation : HostAgentRuntimeTokenRotation) (s : RuntimeCredentialStatus)
    (status : RotationStatus) (revision : ℤ) : Bool :=
  rotation.validate && rotation.id == s.rotationID && rotation.serviceID == s.serviceID &&
    rotation.executionHostID == s.executionHostID && rotation.previousTokenID == s.previousTokenID &&
    rotation.stagedTokenID == s.stagedTokenID && rotation.expectedOwnershipEpoch == s.ownershipEpoch &&
    rotation.expectedSourcePolicyRevision == s.sourcePolicyRevision &&
    rotation.expectedProjectionRevision == s.projectionRevision &&
    rotation.expectedLocalExecutorPolicyRevision == s.localExecutorPolicyRevision && rotation.status == status &&
    rotation.revision == revision

section Operations

variable (E : CredentialEnv) (policy : CredentialPolicy) (request : CredentialRequest) (m : RuntimeCredentialMutation)

variable (later : ℕ) (active : Identity) (data : Bytes) (current : Option RuntimeCredentialStatus)
  (status : RuntimeCredentialStatus)

/-- the record a request opens, in the phase and with the staged digests it starts from -/
def newStatus (phase : Phase) (active : Identity) (policySHA256 stagedSHA256 stagedTokenSHA256 : String) (later : ℕ) :
    RuntimeCredentialStatus where
  phase := phase
  rotationID := m.rotationID
  serviceID := request.serviceID
  executionHostID := m.executionHostID
  previousTokenID := m.previousTokenID
  stagedTokenID := m.stagedTokenID
  rotationRevision := m.rotationRevision
  ownershipEpoch := request.ownershipEpoch
  sourcePolicyRevision := request.sourcePolicyRevision
  projectionRevision := request.ownershipPolicyRevision
  localExecutorPolicyRevision := request.executorPolicyRevision
  stagedIdentitySHA256 := stagedSHA256
  previousIdentitySHA256 := runtimeCredentialDigest E active.data
  localExecutorPolicySHA256 := policySHA256
  executorVersion := policy.executorVersion
  stagedExpiresAt := later + runtimeCredentialStagedMaxAge
  previousRuntimeTokenSHA256 := runtimeCredentialTokenDigest E active.config.runtimeToken
  stagedRuntimeTokenSHA256 := stagedTokenSHA256
  serviceName := active.config.serviceName

/-- the digest of the executor policy -/
def policySHA256 : Cred String :=
  match policy.sha256 with
  | none => throw (.other "runtime credential policy digest")
  | some digest => pure digest

/-- `prepare` -/
def prepare : Cred RuntimeCredentialStatus := do
  Fallible.require (m.rotationRevision == 1) (.precondition "initial rotation revision is required")
  match current with
  | some status =>
    if status.phase = .claimPrepared ∧ status.rotationRevision = m.rotationRevision then pure status else throw .busy
  | none => do
    let stagedExists ← lstat (.other "stat staged runtime credential before claim preparation") .staged
    Fallible.require (!stagedExists) .busy
    let digest ← policySHA256 policy
    let status := newStatus E policy request m .claimPrepared active digest (runtimeCredentialDigest E []) "" later
    saveStatus E status
    pure status

/-! ## stage -/

/-- the identity with the claimed token -/
def stagedBytes : Cred Bytes := do
  Fallible.require (active.config.runtimeToken != m.runtimeToken) (.precondition "staged token equals active token")
  match E.marshalIdentity { active.config with runtimeToken := m.runtimeToken } with
  | none => throw (.other "Agent identity is invalid")
  | some data => do
    Fallible.require (data != active.data) (.precondition "staged identity is unchanged")
    pure data

/-- a replay stages exactly what the record is bound to -/
def replayBound : Bool :=
  current.all fun s => !(s.phase == .stageBound || s.phase == .staged) ||
    (s.stagedIdentitySHA256 == runtimeCredentialDigest E data &&
      s.stagedRuntimeTokenSHA256 == runtimeCredentialTokenDigest E m.runtimeToken &&
      s.previousIdentitySHA256 == runtimeCredentialDigest E active.data &&
      s.previousRuntimeTokenSHA256 == runtimeCredentialTokenDigest E active.config.runtimeToken &&
      s.serviceName == active.config.serviceName)

/-- whether the staged file is already there, with these bytes -/
def stageInstalled : Cred Bool := do
  let wipingExists ← lstat (.other "runtime credential cleanup is incomplete before staging") .wiping
  Fallible.require (!wipingExists) (.other "runtime credential cleanup is incomplete before staging")
  let stagedExists ← lstat (.other "stat staged runtime credential before install") .staged
  if !stagedExists then pure false
  else do
    let staged ← loadIdentityOr (.other "orphaned staged runtime credential does not match claim replay") .staged
    Fallible.require (staged.data == data) (.other "orphaned staged runtime credential does not match claim replay")
    pure true

/-- the prepared record, bound to the claimed identity -/
def bindPrepared (status : RuntimeCredentialStatus) (data : Bytes) : RuntimeCredentialStatus :=
  { status with phase := .stageBound, rotationRevision := m.rotationRevision
                stagedIdentitySHA256 := runtimeCredentialDigest E data
                stagedRuntimeTokenSHA256 := runtimeCredentialTokenDigest E m.runtimeToken }

/-- the record is bound to the identity before the staged file is created -/
def bindStage : Cred RuntimeCredentialStatus :=
  match current with
  | none => do
    let digest ← policySHA256 policy
    let status := newStatus E policy request m .stageBound active digest (runtimeCredentialDigest E data)
      (runtimeCredentialTokenDigest E m.runtimeToken) later
    saveStatus E status
    pure status
  | some status =>
    if status.phase = .stageBound ∨ status.phase = .staged then pure status
    else do
      saveStatus E (bindPrepared E m status data)
      pure (bindPrepared E m status data)

/-- the staged file holds these bytes -/
def verifyStaged : Cred Unit := do
  let staged ← loadIdentityOr (.other "staged runtime credential secure reread failed") .staged
  Fallible.require (staged.data == data) (.other "staged runtime credential secure reread failed")

def installStaged (installed : Bool) (data : Bytes) : Cred Unit :=
  if installed then verifyStaged data
  else do
    act (.writeIdentity .staged data false)
    verifyStaged data

/-- a bound record becomes a staged one -/
def promoteStaged : Cred RuntimeCredentialStatus :=
  if status.phase = .stageBound then do
    saveStatus E { status with phase := .staged }
    pure { status with phase := .staged }
  else pure status

/-- the last part of `stage`: the panel acknowledges the staged credential -/
def acknowledgeStage : Cred RuntimeCredentialStatus := do
  let staged ← loadIdentityOr (.other "staged runtime credential no longer matches durable state") .staged
  Fallible.require (runtimeCredentialDigest E staged.data == status.stagedIdentitySHA256)
    (.other "staged runtime credential no longer matches durable state")
  let rotation ← panel (.acknowledgeStage status.rotationID status.rotationRevision m.runtimeToken)
  Fallible.require (panelTransitionValid rotation status .localStaged (incr64 status.rotationRevision))
    (.precondition "panel transition binding is invalid")
  let next := { status with phase := .localStaged, rotationRevision := rotation.revision
                            localStageReceiptID := rotation.localStageReceiptID }
  saveStatus E next
  pure next

/-- `stage`, from the phases that still have something to stage -/
def stageFrom : Cred RuntimeCredentialStatus := do
  let data ← stagedBytes E m active
  Fallible.require (replayBound E m active data current)
    (.precondition "staged credential replay changed its root binding")
  let installed ← stageInstalled data
  let bound ← bindStage E policy request m later active data current
  installStaged installed data
  let staged ← promoteStaged E bound
  acknowledgeStage E m staged

/-- `stage` -/
def stage : Cred RuntimeCredentialStatus := do
  Fallible.require (m.rotationRevision == 2) (.precondition "claim revision is required")
  match current with
  | none => stageFrom E policy request m later active none
  | some status => match status.phase with
    | .claimPrepared => do
      Fallible.require (incr64 status.rotationRevision == m.rotationRevision)
        (.precondition "prepared claim revision changed")
      stageFrom E policy request m later active (some status)
    | .localStaged | .proofReady | .activated => pure status
    | .stageBound | .staged => do
      Fallible.require (status.rotationRevision == m.rotationRevision) (.precondition "staged revision changed")
      stageFrom E policy request m later active (some status)
    | .cancelReady | .cancelled | .expired | .manualRecovered => throw .busy

/-! ## proof-ready and activate -/

/-- `markProofReady` -/
def markProofReady : Cred RuntimeCredentialStatus :=
  match current with
  | none => throw (.precondition "staged credential is unavailable")
  | some status =>
    if status.phase = .proofReady ∨ status.phase = .activated then do
      Fallible.require (m.rotationRevision == status.rotationRevision) (.precondition "proof revision changed")
      pure status
    else do
      Fallible.require (status.phase == .localStaged && m.rotationRevision == incr64 status.rotationRevision)
        (.precondition "heartbeat proof revision is invalid")
      let staged ← loadIdentityOr (.other "staged runtime credential proof input changed") .staged
      Fallible.require (runtimeCredentialDigest E staged.data == status.stagedIdentitySHA256)
        (.other "staged runtime credential proof input changed")
      let next := { status with phase := .proofReady, rotationRevision := m.rotationRevision }
      saveStatus E next
      pure next

/-- the last part of `activateCredential`: the panel has activated the staged token -/
def installActivated (status : RuntimeCredentialStatus) (data : Bytes) (revision : ℤ) : Cred RuntimeCredentialStatus := do
  act .layout
  act (.writeIdentity .active data true)
  act .layout
  let active ← loadIdentityOr (.other "activated runtime credential secure reread failed") .active
  Fallible.require (runtimeCredentialDigest E active.data == status.stagedIdentitySHA256)
    (.other "activated runtime credential secure reread failed")
  saveStatus E (status.activate revision)
  wipeAndRemoveIdentity E status.stagedIdentitySHA256
  pure (status.activate revision)

/-- `activateCredential` -/
def activateCredential : Cred RuntimeCredentialStatus :=
  match current with
  | none => throw (.precondition "staged credential is unavailable")
  | some status =>
    if status.phase = .activated then pure status
    else do
      Fallible.require (status.phase == .proofReady && m.rotationRevision == status.rotationRevision)
        (.precondition "heartbeat proof is required")
      let staged ← loadIdentityOr (.other "staged runtime credential activation input changed") .staged
      Fallible.require (staged.config.nodeID == status.serviceID && staged.config.panelURL == policy.panelURL &&
          runtimeCredentialDigest E staged.data == status.stagedIdentitySHA256)
        (.other "staged runtime credential activation input changed")
      let rotation ← panel (.activate status.rotationID status.rotationRevision staged.config.runtimeToken)
      Fallible.require (panelTransitionValid rotation status .activated (incr64 status.rotationRevision))
        (.precondition "panel transition binding is invalid")
      installActivated E status staged.data rotation.revision

/-! ## cancel and finalize -/

/-- the record of a cancelled rotation, before the panel acknowledged it -/
def cancelReady : RuntimeCredentialStatus :=
  { status with phase := .cancelReady, rotationRevision := m.rotationRevision
                activeIdentitySHA256 := status.previousIdentitySHA256
                activeRuntimeTokenSHA256 := status.previousRuntimeTokenSHA256 }

/-- the first cancel of a rotation: persisted before the staged secret is destroyed -/
def cancelOpen : Cred RuntimeCredentialStatus := do
  Fallible.require (m.rotationRevision == incr64 status.rotationRevision)
    (.precondition "cancel request revision is invalid")
  let _ ← requireActive E (.other "previous Host Agent identity changed before cancel") status.previousIdentitySHA256
  saveStatus E (cancelReady m status)
  wipeAndRemoveIdentity E status.stagedIdentitySHA256
  pure (cancelReady m status)

/-- `cancel` -/
def cancel : Cred RuntimeCredentialStatus :=
  match current with
  | none => throw (.precondition "tracked runtime credential state is unavailable")
  | some status => do
    Fallible.require (status.phase != .activated) (.precondition "activated credential cannot be cancelled")
    Fallible.require (status.rotationRevision ≤ m.rotationRevision) (.precondition "cancel revision is stale")
    match status.phase with
    | .cancelReady =>
      if m.rotationRevision = status.rotationRevision then pure status
      else do
        Fallible.require (m.rotationRevision == incr64 status.rotationRevision)
          (.precondition "cancel acknowledgement revision is invalid")
        act .removeState
        pure { status with phase := .cancelled, rotationRevision := m.rotationRevision }
    | .claimPrepared | .stageBound | .staged | .localStaged | .proofReady | .expired => cancelOpen E m status
    | .activated | .cancelled | .manualRecovered => throw (.precondition "rotation cannot be cancelled from this phase")

/-- `finalize` -/
def finalize : Cred RuntimeCredentialStatus :=
  match current with
  | none => throw (.precondition "terminal runtime credential state is unavailable")
  | some status => do
    Fallible.require ((status.phase == .activated || status.phase == .manualRecovered) &&
        m.rotationRevision == status.rotationRevision)
      (.precondition "terminal runtime credential state is unavailable")
    let _ ← requireActive E (.other "terminal runtime credential active identity changed") status.activeIdentitySHA256
    identityCleanupComplete (.other "terminal runtime credential staged cleanup is incomplete")
    act .removeState
    pure status

/-! ## The handler -/

/-- `LocalExecutorResponse`, its credential part -/
inductive Response where
  | failure (code : String)
  | status (s : RuntimeCredentialStatus)
  deriving DecidableEq, Repr

/-- `runtimeCredentialResponse` -/
def runtimeCredentialResponse (s : RuntimeCredentialStatus) : Response :=
  if s.validate E then .status s else .failure "internal_error"

/-- the code of an operation's error -/
def CredError.code : CredError → String
  | .busy => "target_busy"
  | .precondition _ | .panel => "mutation_precondition_failed"
  | .unavailable => "state_unavailable"
  | .other _ => "state_invalid"

/-- the operation of a request on the reconciled record -/
def runOperation : Cred RuntimeCredentialStatus :=
  match request.operation with
  | .prepare => prepare E policy request m later active current
  | .stage => stage E policy request m later active current
  | .proofReady => markProofReady E m current
  | .activate => activateCredential E policy m current
  | .cancel => cancel E m current
  | .finalize => finalize E m current
  | .status => throw (.other "unsupported runtime credential operation")

end Operations

section Handler

variable (E : CredentialEnv) (policy : CredentialPolicy)

/-- a procedure, with the response for its error -/
def responding {α : Type} (code : CredError → String) (p : Cred α) (k : α → Prog CredOp CredRes Response) :
    Prog CredOp CredRes Response := do
  match ← p.run with
  | .error e => pure (.failure (code e))
  | .ok a => k a

/-- the mutation part of `handleLocalExecutorRuntimeCredential` -/
def handleMutation (clock : Clock) (request : CredentialRequest) (m : RuntimeCredentialMutation)
    (current : Option RuntimeCredentialStatus) : Prog CredOp CredRes Response :=
  responding (fun _ => "config_mismatch") (loadIdentity .active) fun active =>
    if active.config.nodeID ≠ request.serviceID ∨ active.config.panelURL ≠ policy.panelURL ∨
        ¬ (current.all fun s => requestMatchesStatus request m s) then pure (.failure "config_mismatch")
    else responding CredError.code (do
        let next ← runOperation E policy request m clock.later active current
        act .layout
        pure next) fun next => pure (runtimeCredentialResponse E next)

/-- `handleLocalExecutorRuntimeCredential` -/
def handleLocalExecutorRuntimeCredential (clock : Clock) (request : CredentialRequest) : Prog CredOp CredRes Response :=
  if !request.validate then pure (.failure "invalid_request")
  else if !policy.valid then pure (.failure "policy_invalid")
  else responding (fun _ => "state_invalid") (act .layout) fun _ =>
    responding (fun _ => "state_invalid") (loadAndReconcileStatus E clock.now) fun current =>
      match request.operation, request.mutation with
      | .status, _ => match current with
        | none => pure (.failure "target_not_found")
        | some s => if s.serviceID ≠ request.serviceID then pure (.failure "config_mismatch")
          else pure (runtimeCredentialResponse E s)
      | _, none => pure (.failure "config_mismatch")
      | _, some m =>
        if m.executionHostID ≠ policy.hostID ∨ request.sourcePolicyRevision ≠ policy.sourcePolicyRevision ∨
            request.ownershipPolicyRevision ≠ policy.projectionRevision ∨
            request.executorPolicyRevision ≠ policy.policyRevision then pure (.failure "config_mismatch")
        else handleMutation E policy clock request m current

/-- `reconcileRuntimeCredentialExpiry`: one pass of the expiry loop -/
def reconcileRuntimeCredentialExpiry (now : ℕ) : Cred Unit := do
  act .layout
  let _ ← loadAndReconcileStatus E now
  act .layout

/-! ## Emergency recovery -/

/-- the record and the policy of a recovery belong together -/
def recoveryMatches (rotationID : String) (s : RuntimeCredentialStatus) : Bool :=
  s.rotationID == rotationID && s.executionHostID == policy.hostID &&
    s.sourcePolicyRevision == policy.sourcePolicyRevision && s.projectionRevision == policy.projectionRevision &&
    s.localExecutorPolicyRevision == policy.policyRevision && policy.sha256 == some s.localExecutorPolicySHA256

/-- the record once its staged file is bound; unlike `loadAndReconcileStatus` the caller goes on with the bound record -/
def bindForRecovery (s : RuntimeCredentialStatus) : Cred RuntimeCredentialStatus :=
  if s.phase = .claimPrepared then do
    let (bound, _) ← bindClaimPreparedStagedIdentity E s policy.panelURL
    pure bound
  else if s.phase = .stageBound then do
    let (bound, _) ← bindStageBoundInstalledIdentity E s policy.panelURL
    pure bound
  else pure s

/-- `finishEmergencyStagedCleanup` -/
def finishEmergencyStagedCleanup (digest : String) : Cred Unit := do
  act .layout
  wipeAndRemoveIdentity E digest
  act .layout

/-- a record that may be recovered: settled, not yet staged, or past its expiry -/
def recoverable (now : ℕ) (s : RuntimeCredentialStatus) : Bool :=
  match s.phase with
  | .claimPrepared | .stageBound | .activated | .cancelReady | .expired => true
  | .staged | .localStaged | .proofReady => s.stagedExpiresAt ≤ now
  | .cancelled | .manualRecovered => false

/-- the record of a manual recovery -/
def manuallyRecovered (s : RuntimeCredentialStatus) (active : Identity) : RuntimeCredentialStatus :=
  { s with phase := .manualRecovered, activeIdentitySHA256 := runtimeCredentialDigest E active.data
           activeRuntimeTokenSHA256 := runtimeCredentialTokenDigest E active.config.runtimeToken }

/-- the replacement uses neither of the revoked credentials -/
def freshReplacement (s : RuntimeCredentialStatus) (active : Identity) : Bool :=
  runtimeCredentialDigest E active.data != s.previousIdentitySHA256 &&
    runtimeCredentialDigest E active.data != s.stagedIdentitySHA256 &&
    runtimeCredentialTokenDigest E active.config.runtimeToken != s.previousRuntimeTokenSHA256 &&
    (s.stagedRuntimeTokenSHA256 == "" ||
      runtimeCredentialTokenDigest E active.config.runtimeToken != s.stagedRuntimeTokenSHA256)

/-- the part of the recovery behind the replaced identity -/
def recoverWith (now : ℕ) (s : RuntimeCredentialStatus) (active : Identity) : Cred Unit :=
  if s.phase = .manualRecovered then do
    Fallible.require (runtimeCredentialDigest E active.data == s.activeIdentitySHA256 &&
        runtimeCredentialTokenDigest E active.config.runtimeToken == s.activeRuntimeTokenSHA256)
      (.other "manually recovered Host Agent identity changed")
    finishEmergencyStagedCleanup E s.stagedIdentitySHA256
  else do
    Fallible.require (recoverable now s) (.other "runtime credential emergency recovery TTL has not elapsed")
    Fallible.require (freshReplacement E s active)
      (.other "replacement Host Agent identity still uses a revoked credential slot")
    act .layout
    saveStatus E (manuallyRecovered E s active)
    finishEmergencyStagedCleanup E s.stagedIdentitySHA256

/-- `recoverAfterEmergencyManualReconfigure` -/
def recoverAfterEmergencyManualReconfigure (now : ℕ) (rotationID : String) : Cred Unit := do
  Fallible.require (trimSpace rotationID == rotationID && identifierPattern rotationID && policy.valid)
    (.other "runtime credential emergency recovery binding is invalid")
  act .layout
  match ← loadStatus with
  | none => throw (.other "runtime credential emergency recovery state does not match policy")
  | some s => do
    Fallible.require (recoveryMatches policy rotationID s)
      (.other "runtime credential emergency recovery state does not match policy")
    let bound ← bindForRecovery E policy s
    act .layout
    let active ← loadIdentityOr (.other "replacement Host Agent identity does not match recovery state") .active
    Fallible.require (active.config.nodeID == bound.serviceID && active.config.panelURL == policy.panelURL &&
        active.config.serviceName == bound.serviceName && validBoundedSecret active.config.runtimeToken)
      (.other "replacement Host Agent identity does not match recovery state")
    recoverWith E now bound active

/-! ## Events -/

/-- what happens on the host, one after another; an operator may replace the active identity -/
inductive Event where
  | request (policy : CredentialPolicy) (r : CredentialRequest) (clock : Clock)
  | expiryPass (now : ℕ)
  | recover (policy : CredentialPolicy) (rotationID : String) (now : ℕ)
  | replaceIdentity (data : Bytes)
  deriving DecidableEq, Repr

end Handler

/-- the program of an event -/
def handleEvent (E : CredentialEnv) : Event → Prog CredOp CredRes Unit
  | .request policy r clock => do
    let _ ← handleLocalExecutorRuntimeCredential E policy clock r
    pure ()
  | .expiryPass now => do
    let _ ← (reconcileRuntimeCredentialExpiry E now).run
    pure ()
  | .recover policy rotationID now => do
    let _ ← (recoverAfterEmergencyManualReconfigure E policy now rotationID).run
    pure ()
  | .replaceIdentity data => do
    let _ ← Prog.op (CredOp.act (.replaceIdentity data))
    pure ()
end AutostreamUpdater.Credential
