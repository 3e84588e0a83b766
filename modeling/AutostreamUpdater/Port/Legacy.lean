/-
The legacy port transaction (contract version 0) of both deployment modes, and the two entry points
`executeSystemdPortRequest` and `executeDockerPortRequest` that hand a version 2 plan to the coordinator.

The two flows share their policy fence (`legacyFence`), the save of an ambiguous ledger (`markAmbiguous`), the two-write
commit (`commitLedger`) and the quarantined end (`closeRollbackFailed`). Everything else follows each source file.
-/
import AutostreamUpdater.Port.Drivers

namespace AutostreamUpdater.Port

open Contract Base

variable (E : PortEnv)

/-! ## Shared parts -/

/-- the request, plan and policy checks both `validate…PortPolicyBinding` functions make -/
def legacyFence (policy : LocalExecutorPolicy) (request : LocalExecutorRequest) (plan : SystemdPortReconfigurePlan) :
    Bool :=
  request.validate E && plan.validate E.toContracts && request.serviceID == plan.targetID &&
    request.sourcePolicyRevision == plan.expectedSourcePolicyRevision &&
    request.ownershipEpoch == plan.ownershipEpoch &&
    request.ownershipPolicyRevision == plan.expectedUpdaterPolicyRevision &&
    request.executorPolicyRevision == plan.expectedExecutorPolicyRevision && E.policyValid policy &&
    policy.schemaVersion == mutationPolicySchemaVersion && policy.protocolVersion == mutationProtocolVersion &&
    policy.mutation.isSome && policy.hostID == plan.hostID &&
    policy.sourcePolicyRevision == plan.expectedSourcePolicyRevision &&
    policy.projectionRevision == plan.expectedUpdaterPolicyRevision &&
    policy.policyRevision == plan.expectedExecutorPolicyRevision &&
    E.policySHA256 policy == some plan.expectedExecutorPolicySHA256

section Shared

variable {β A : Type} (M : PortMode β A)

variable (plan : SystemdPortReconfigurePlan) (l : PortLedger β)

/-- the outcome is unknown: note it, whatever the save says, and ask for a reconcile -/
def markAmbiguous : PortProg β A PortResponse := do
  let _ ← saveLedger M { l with state := .ambiguous }
  return .failure .reconcileRequired

/-- the result is saved before the applied record, the ledger closed after it -/
def commitLedger (result : SystemdPortReconfigureResult) (applied : A) : PortProg β A PortResponse := do
  let l := { l with plan := plan, state := .committing, result := some result }
  if !(← saveLedger M l) then return .failure .stateUnavailable
  if !(← saveApplied M applied) then return .failure .stateUnavailable
  if !(← crashPoint "after_applied_state_save") then return .failure .reconcileRequired
  if !(← saveLedger M { l with state := .terminal }) then return .failure .stateUnavailable
  return localExecutorPortResponse plan result

/-- the last writes of a repaired commit: the applied record, then the terminal ledger -/
def repairLedger (result : SystemdPortReconfigureResult) (applied : A) : PortProg β A PortResponse := do
  if !(← saveApplied M applied) then return .failure .stateUnavailable
  if !(← saveLedger M { l with plan := plan, state := .terminal, result := some result }) then
    return .failure .stateUnavailable
  return localExecutorPortResponse plan result

/-- a failed rollback is terminal but quarantined: no applied record is written -/
def closeRollbackFailed (mode message : String) : PortProg β A PortResponse := do
  let result : SystemdPortReconfigureResult :=
    { deploymentMode := mode, status := .failed, result := .rollbackFailed, oldPort := plan.oldPort,
      newPort := plan.newPort, endpointRevision := plan.targetEndpointRevision, message := message }
  if !(← saveLedger M { l with plan := plan, state := .terminal, result := some result }) then
    return .failure .stateUnavailable
  return localExecutorPortResponse plan result

/-- a terminal ledger answers with its result; the validator gives it one -/
def terminalResponse : PortResponse :=
  (l.result.map (localExecutorPortResponse plan)).getD (.failure .internalError)

/-- the ledger a request continues: its own job's, or the active one when that names the same job -/
def continuedLedger (historical active : Option (PortLedger β)) (jobID : String) : Option (PortLedger β) :=
  historical.or (active.filter fun a => a.plan.jobID == jobID)

end Shared

/-- endpoint, configuration and port that a legacy result of each kind reports; `rollback_failed` reports none -/
def legacyResult (plan : SystemdPortReconfigurePlan) (mode message : String) (kind : PortResultKind)
    (docker : Option DockerPortResultState) : SystemdPortReconfigureResult :=
  let applied := kind == .applied
  { deploymentMode := mode, oldPort := plan.oldPort, newPort := plan.newPort,
    status := if kind == .rolledBack then .rolledBack else .succeeded
    result := kind
    stateKnown := true
    appliedPort := if applied then plan.newPort else plan.oldPort
    -- the panel has spent the target revision, so closing without it moves one further
    endpointRevision := if applied then plan.targetEndpointRevision else plan.targetEndpointRevision + 1
    configRevision := if applied then plan.targetConfigRevision else plan.expectedConfigRevision
    configSHA256 := if applied then plan.targetConfigSHA256 else plan.expectedConfigSHA256
    message := message
    docker := docker }

/-! ## systemd -/

section Systemd

variable (policy : LocalExecutorPolicy) (request : LocalExecutorRequest) (plan : SystemdPortReconfigurePlan)
  (target : LocalExecutorTarget) (adapter : SystemdPortAdapter)

abbrev SystemdProg := PortProg SystemdBaseline SystemdPortAppliedState

/-- `validateSystemdPortPolicyBinding` -/
def validateSystemdPortPolicyBinding : Option (LocalExecutorTarget × SystemdPortAdapter) := do
  guard (legacyFence E policy request plan)
  let target ← policy.target plan.targetID
  let systemd ← target.systemd
  guard (target.deploymentMode == modeSystemd && target.serviceType == plan.serviceType)
  let adapter ← systemdPortAdapterFor target.serviceType systemd.unit
  guard (payloadSHA256 E (systemdPortSidecarBytes E adapter.serviceType target.localListen.host plan.newPort
    plan.targetConfigRevision) == plan.targetConfigSHA256)
  return (target, adapter)

/-- `systemdPortTargetMatchesExpected`: a forward-only gap in the endpoint revision is safe -/
def systemdPortTargetMatchesExpected (target : LocalExecutorTarget) (plan : SystemdPortReconfigurePlan) : Bool :=
  target.localListen.port == plan.oldPort && 0 < target.endpointRevision &&
    target.endpointRevision ≤ plan.expectedEndpointRevision && target.configRevision == plan.expectedConfigRevision &&
    target.configSHA256 == plan.expectedConfigSHA256

/-- `systemdPortTargetAfter` -/
def systemdPortTargetAfter (target : LocalExecutorTarget) (plan : SystemdPortReconfigurePlan) : LocalExecutorTarget :=
  { target with
    localListen := { target.localListen with port := plan.newPort }
    endpointRevision := plan.targetEndpointRevision
    configRevision := plan.targetConfigRevision
    configSHA256 := plan.targetConfigSHA256 }

/-- the message of each result kind -/
def systemdResultMessage : PortResultKind → String
  | .applied => "requested systemd port is running and verified"
  | .rolledBack => "previous systemd port was restored and verified"
  | .unchanged => "systemd port mutation had not changed the verified previous state"
  | .rollbackFailed => ""

/-- `commitSystemdPortResult` -/
def commitSystemdPortResult (l : SystemdPortLedger) (kind : PortResultKind) : SystemdProg PortResponse :=
  if kind == .rollbackFailed then return .failure .internalError
  else
    let result := legacyResult plan "" (systemdResultMessage kind) kind none
    commitLedger (systemdMode E) plan l result (systemdPortAppliedStateForResult plan result)

/-- `rollbackSystemdPortRequest` -/
def rollbackSystemdPortRequest (oldTarget : LocalExecutorTarget) (l : SystemdPortLedger) :
    SystemdProg PortResponse := do
  if ← restoreConfig l.checkpoint l.targetBytes then
    if ← restart oldTarget then
      if (← verifyRuntime policy oldTarget).isSome then
        return ← commitSystemdPortResult E plan l .rolledBack
  closeRollbackFailed (systemdMode E) plan l "" "local rollback could not determine a verified effective port"

/-- the staged ledger of a legacy systemd job -/
def legacySystemdLedger (cp : PortCheckpoint) (targetBytes : Bytes) (version : String) : SystemdPortLedger :=
  ⟨1, plan, .staged, cp, targetBytes, ⟨version⟩, none, none⟩

/-- consume the grant between two saves; `none` means it is consumed and saved -/
def consumeSystemdGrant (l : SystemdPortLedger) : SystemdProg (Option PortResponse) := do
  if !(← saveLedger (systemdMode E) { l with state := .grantConsuming }) then return some (.failure .stateUnavailable)
  if !(← consumeGrant plan request.operation l.baseline.currentVersion request.mutationGrant) then
    return some (← markAmbiguous (systemdMode E) l)
  if !(← saveLedger (systemdMode E) { l with state := .grantConsumed }) then
    return some (.failure .reconcileRequired)
  return none

/-- `reconcileUnstartedSystemdPortRequest`: nothing was ever staged, so the unchanged old state is the result -/
def reconcileUnstartedSystemdPortRequest : SystemdProg PortResponse := do
  let bytesOf := systemdPortSidecarBytes E adapter.serviceType target.localListen.host
  match ← checkpoint with
  | none => return .failure .mutationPreconditionFailed
  | some cp =>
    if !cp.validateSidecar E || !cp.existed || cp.mode != 0o600 || cp.sha256 != plan.expectedConfigSHA256 ||
        cp.bytes != bytesOf plan.oldPort plan.expectedConfigRevision then
      return .failure .mutationPreconditionFailed
    match ← verifyRuntime policy target with
    | none => return .failure .mutationPreconditionFailed
    | some version =>
      if !versionPattern version then return .failure .mutationPreconditionFailed
      let targetBytes := bytesOf plan.newPort plan.targetConfigRevision
      if payloadSHA256 E targetBytes != plan.targetConfigSHA256 then return .failure .configMismatch
      let working := legacySystemdLedger plan cp targetBytes version
      if !(← stageLedger (systemdMode E) working) then return .failure .stateUnavailable
      match ← consumeSystemdGrant E request plan working with
      | some response => return response
      | none => commitSystemdPortResult E plan { working with state := .grantConsumed } .unchanged

/-- the service runs under `target`, asked only when the sidecar already fits -/
def verifiedIf (fits : Bool) (policy : LocalExecutorPolicy) (target : LocalExecutorTarget) : SystemdProg Bool := do
  if !fits then return false
  return (← verifyRuntime policy target).isSome

/-- `reconcileSystemdPortRequest` -/
def reconcileSystemdPortRequest (l : SystemdPortLedger) : SystemdProg PortResponse := do
  let working := { l with plan := plan, result := none }
  match ← consumeSystemdGrant E request plan working with
  | some response => return response
  | none =>
    let working := { working with state := .grantConsumed }
    let current ← checkpoint
    if ← verifiedIf (current.any fun cp => cp.sha256 == plan.targetConfigSHA256) policy
        (systemdPortTargetAfter target plan) then return ← commitSystemdPortResult E plan working .applied
    if ← verifiedIf (current == some working.checkpoint) policy target then
      return ← commitSystemdPortResult E plan working .unchanged
    rollbackSystemdPortRequest E policy plan target working

/-- the sidecar is private and holds exactly what the committed result reports -/
def sidecarIsResult (cp : PortCheckpoint) (result : SystemdPortReconfigureResult) (expected : Bytes) : Bool :=
  cp.existed && cp.mode == 0o600 && cp.sha256 == result.configSHA256 &&
    payloadSHA256 E expected == result.configSHA256 && cp.bytes == expected

/-- `repairSystemdPortCommit` -/
def repairSystemdPortCommit (policy : LocalExecutorPolicy) (request : LocalExecutorRequest)
    (plan : SystemdPortReconfigurePlan) (policyTarget : LocalExecutorTarget) (adapter : SystemdPortAdapter)
    (l : SystemdPortLedger) : SystemdProg PortResponse := do
  match l.result with
  | none => return .failure .stateInvalid
  | some result =>
    if l.state != .committing || !result.validate || result.result == .rollbackFailed then
      return .failure .stateInvalid
    if !(← consumeGrant plan request.operation l.baseline.currentVersion request.mutationGrant) then
      return .failure .reconcileRequired
    let effective : LocalExecutorTarget := { policyTarget with
      localListen := { policyTarget.localListen with port := result.appliedPort }
      endpointRevision := result.endpointRevision
      configRevision := result.configRevision
      configSHA256 := result.configSHA256 }
    let expected := systemdPortSidecarBytes E adapter.serviceType effective.localListen.host effective.localListen.port
      effective.configRevision
    if !(← checkpoint).any fun cp => sidecarIsResult E cp result expected then return .failure .stateInvalid
    if (← verifyRuntime policy effective).isNone then return .failure .reconcileRequired
    repairLedger (systemdMode E) plan l result (systemdPortAppliedStateForResult plan result)

/-- the observation and the bytes a legacy systemd job is staged with; `none` and a code on refusal -/
def stageSystemdLedger : SystemdProg (Except PortFailure SystemdPortLedger) := do
  let bytesOf := systemdPortSidecarBytes E adapter.serviceType target.localListen.host
  match ← checkpoint with
  | none => return .error .mutationPreconditionFailed
  | some cp =>
    if !cp.validateSidecar E || cp.sha256 != plan.expectedConfigSHA256 ||
        (cp.existed && cp.bytes != bytesOf plan.oldPort plan.expectedConfigRevision) ||
        (!cp.existed && cp.sha256 != payloadSHA256 E []) then return .error .mutationPreconditionFailed
    match ← verifyRuntime policy target with
    | none => return .error .mutationPreconditionFailed
    | some version =>
      if !versionPattern version then return .error .mutationPreconditionFailed
      if !(← ensureAvailable { target with localListen := { target.localListen with port := plan.newPort } }) then
        return .error .mutationPreconditionFailed
      let targetBytes := bytesOf plan.newPort plan.targetConfigRevision
      if payloadSHA256 E targetBytes != plan.targetConfigSHA256 then return .error .configMismatch
      let record := legacySystemdLedger plan cp targetBytes version
      if !(← stageLedger (systemdMode E) record) then return .error .stateUnavailable
      return .ok record

/-- the forward part of a legacy systemd request, from the consumed grant on -/
def forwardSystemdPort (working : SystemdPortLedger) : SystemdProg PortResponse := do
  if !(← crashPoint "after_grant_consume") then return ← markAmbiguous (systemdMode E) working
  if !(← writeConfig working.checkpoint working.targetBytes) then return ← rollbackSystemdPortRequest E policy plan target working
  let working := { working with state := .sidecarWritten }
  if !(← saveLedger (systemdMode E) working) then return .failure .reconcileRequired
  if !(← crashPoint "after_sidecar_write") then return ← markAmbiguous (systemdMode E) working
  let newTarget := systemdPortTargetAfter target plan
  if !(← restart newTarget) then return ← rollbackSystemdPortRequest E policy plan target working
  let working := { working with state := .restarted }
  if !(← saveLedger (systemdMode E) working) then return .failure .reconcileRequired
  if !(← crashPoint "after_restart") then return ← markAmbiguous (systemdMode E) working
  if (← verifyRuntime policy newTarget).isNone then
    return ← rollbackSystemdPortRequest E policy plan target working
  commitSystemdPortResult E plan working .applied

/-- a forward request on its ledger: recheck the baseline, consume, then write and restart -/
def startSystemdPort (l : SystemdPortLedger) : SystemdProg PortResponse := do
  if l.state != .staged then return .failure .reconcileRequired
  if (← checkpoint) != some l.checkpoint then return .failure .reconcileRequired
  if !(← ensureAvailable { target with localListen := { target.localListen with port := plan.newPort } }) then
    return .failure .mutationPreconditionFailed
  let working := { l with plan := plan }
  match ← consumeSystemdGrant E request plan working with
  | some response => return response
  | none => forwardSystemdPort E policy plan target { working with state := .grantConsumed }

/-- a legacy systemd request whose ledger, if any, is neither terminal nor committing -/
def advanceSystemdPort (policy : LocalExecutorPolicy) (request : LocalExecutorRequest)
    (plan : SystemdPortReconfigurePlan) (policyTarget : LocalExecutorTarget) (adapter : SystemdPortAdapter)
    (ledger : Option SystemdPortLedger) : SystemdProg PortResponse := do
  match ← resolveSystemdPortAppliedTarget E policy policyTarget with
  | none => return .failure .configMismatch
  | some target =>
    if !systemdPortTargetMatchesExpected target plan then return .failure .configMismatch
    match request.operation, ledger with
    | .portReconfigureReconcile, none => reconcileUnstartedSystemdPortRequest E policy request plan target adapter
    | .portReconfigureReconcile, some l => reconcileSystemdPortRequest E policy request plan target l
    | .portReconfigure, none =>
      match ← stageSystemdLedger E policy plan target adapter with
      | .error code => return .failure code
      | .ok l => startSystemdPort E policy request plan target l
    | .portReconfigure, some l => startSystemdPort E policy request plan target l
    | .other, _ => return .failure .invalidRequest

/-- `executeSystemdPortRequest` -/
def executeSystemdPortRequest : SystemdProg PortResponse := do
  match request.portPlan with
  | none => return .failure .internalError
  | some plan =>
    if plan.portContractVersion == 2 then return ← executeSystemdPortV2Request E policy request
    match validateSystemdPortPolicyBinding E policy request plan with
    | none => return .failure .configMismatch
    | some (policyTarget, adapter) =>
      match ← loadJob (systemdMode E) plan.targetID plan.jobID with
      | .error _ => return .failure .stateInvalid
      | .ok historical =>
        if historical.any fun l => !sameSystemdPortIntent l.plan plan then return .failure .planConflict
        match historical.filter fun l => l.state == .terminal with
        | some l => return terminalResponse plan l
        | none =>
          match ← loadActive (systemdMode E) plan.targetID with
          | .error _ => return .failure .stateInvalid
          | .ok active =>
            if busyWith active plan.jobID then return .failure .targetBusy
            let ledger := continuedLedger historical active plan.jobID
            match ledger.filter fun l => l.state == .committing with
            | some l =>
              if request.operation != .portReconfigureReconcile then return .failure .reconcileRequired
              repairSystemdPortCommit E policy request plan policyTarget adapter l
            | none => advanceSystemdPort E policy request plan policyTarget adapter ledger

end Systemd

/-! ## Docker -/

section Docker

variable (policy : LocalExecutorPolicy) (request : LocalExecutorRequest) (plan : SystemdPortReconfigurePlan)
  (binding : DockerPortMutationGrantBinding) (target : LocalExecutorTarget)

abbrev DockerProg := PortProg DockerBaseline DockerPortAppliedState

/-- `dockerContainerIDsMatch`: one identifier abbreviates the other -/
def dockerContainerIDsMatch (left right : String) : Bool :=
  dockerContainerIDPattern left && dockerContainerIDPattern right &&
    (right.toList.isPrefixOf left.toList || left.toList.isPrefixOf right.toList)

/-- `validateDockerPortPolicyBinding`: the target, its adapter, the plan's Docker part and the target payload -/
def validateDockerPortPolicyBinding :
    Option (LocalExecutorTarget × DockerPortAdapter × DockerPortMutationGrantBinding × Bytes) := do
  guard (legacyFence E policy request plan && plan.effectiveDeploymentMode == modeDocker)
  let target ← policy.target plan.targetID
  let docker ← target.docker
  let binding ← plan.docker
  guard (target.deploymentMode == modeDocker && target.serviceType == plan.serviceType &&
    target.localListen.host == binding.publishedHostIP &&
    docker.portComposePolicySHA256 == binding.approvedComposeConfigSHA256 &&
    docker.portComposeRevision == binding.approvedComposeRevision)
  let adapter ← dockerPortAdapterFor target.serviceType target.docker
  let targetBytes ← dockerPortEnvBytes adapter binding.newPublishedPort binding.newContainerPort
    plan.targetConfigRevision
  guard (payloadSHA256 E targetBytes == plan.targetConfigSHA256)
  return (target, adapter, binding, targetBytes)

/-- `dockerPortTargetMatchesExpected` -/
def dockerPortTargetMatchesExpected (target : LocalExecutorTarget) (plan : SystemdPortReconfigurePlan)
    (binding : DockerPortMutationGrantBinding) : Bool :=
  target.localListen.port == binding.oldHealthPort && 0 < target.endpointRevision &&
    target.endpointRevision ≤ plan.expectedEndpointRevision && target.configRevision == plan.expectedConfigRevision &&
    target.configSHA256 == plan.expectedConfigSHA256 &&
    target.docker.any fun d => d.portComposePolicySHA256 == binding.approvedComposeConfigSHA256 &&
      d.portComposeRevision == binding.approvedComposeRevision

/-- `dockerPortTargetAfter` -/
def dockerPortTargetAfter (target : LocalExecutorTarget) (plan : SystemdPortReconfigurePlan)
    (binding : DockerPortMutationGrantBinding) (composeSHA256 : String) : LocalExecutorTarget :=
  { target with
    localListen := { target.localListen with port := binding.newHealthPort }
    endpointRevision := plan.targetEndpointRevision
    configRevision := plan.targetConfigRevision
    configSHA256 := plan.targetConfigSHA256
    docker := target.docker.map fun d => { d with composeConfigSHA256 := composeSHA256 } }

/-- the mapping of one side of the plan: published, container and health port -/
def dockerSidePorts (targetSide : Bool) : ℤ × ℤ × ℤ :=
  if targetSide then (binding.newPublishedPort, binding.newContainerPort, binding.newHealthPort)
  else (binding.oldPublishedPort, binding.oldContainerPort, binding.oldHealthPort)

/-- `dockerPortObservationMatchesPlanBaseline` -/
def dockerPortObservationMatchesPlanBaseline (o : DockerPortObservation) (plan : SystemdPortReconfigurePlan)
    (binding : DockerPortMutationGrantBinding) : Bool :=
  o.validate E && o.publishedHostIP == binding.publishedHostIP &&
    (o.publishedPort, o.containerPort, o.healthPort) == dockerSidePorts binding false &&
    o.configRevision == plan.expectedConfigRevision && o.configSHA256 == plan.expectedConfigSHA256 &&
    o.composePolicySHA256 == binding.approvedComposeConfigSHA256 &&
    o.runtime.versionEnvSHA256 == binding.expectedVersionEnvSHA256 &&
    dockerContainerIDsMatch o.runtime.containerID binding.expectedContainerID &&
    o.runtime.imageID == binding.expectedImageID && o.runtime.repositoryDigest == binding.expectedRepositoryDigest

/-- `dockerPortPreparedMatchesPlan` -/
def dockerPortPreparedMatchesPlan (m : DockerPortPreparedModel) (binding : DockerPortMutationGrantBinding) : Bool :=
  m.validate && m.composePolicySHA256 == binding.approvedComposeConfigSHA256 &&
    m.publishedHostIP == binding.publishedHostIP &&
    (m.publishedPort, m.containerPort, m.healthPort) == dockerSidePorts binding true

/-- `dockerPortObservationMatchesTarget`; only the target side asks for a new container -/
def dockerPortObservationMatchesTarget (o : DockerPortObservation) (plan : SystemdPortReconfigurePlan)
    (binding : DockerPortMutationGrantBinding) (l : DockerPortLedger) (targetSide : Bool) : Bool :=
  let saved := l.baseline.runtime
  o.validate E && o.composePolicySHA256 == binding.approvedComposeConfigSHA256 &&
    o.runtime.versionEnvSHA256 == saved.versionEnvSHA256 && o.runtime.imageID == saved.imageID &&
    o.runtime.repositoryDigest == saved.repositoryDigest && o.runtime.currentVersion == saved.currentVersion &&
    o.publishedHostIP == binding.publishedHostIP &&
    (o.publishedPort, o.containerPort, o.healthPort) == dockerSidePorts binding targetSide &&
    if targetSide then
      o.configRevision == plan.targetConfigRevision && o.configSHA256 == plan.targetConfigSHA256 &&
        o.composeConfigSHA256 == l.baseline.targetComposeSHA256 &&
        !dockerContainerIDsMatch o.runtime.containerID saved.containerID
    else o.configRevision == plan.expectedConfigRevision && o.configSHA256 == plan.expectedConfigSHA256 &&
      o.composeConfigSHA256 == l.baseline.oldComposeSHA256

/-- the message of each result kind -/
def dockerResultMessage : PortResultKind → String
  | .applied => "requested Docker port mapping is running and verified"
  | .rolledBack => "previous Docker port mapping was restored and verified"
  | .unchanged => "Docker port mutation had not changed the verified previous mapping"
  | .rollbackFailed => ""

/-- the applied record of a legacy Docker result -/
def legacyDockerApplied (result : SystemdPortReconfigureResult) (d : DockerPortResultState) : DockerPortAppliedState :=
  ⟨0, "", 1, plan.targetID, plan.serviceType, d.appliedPublishedPort, d.appliedContainerPort, d.appliedHealthPort,
    result.endpointRevision, result.configRevision, result.configSHA256, d.composeConfigSHA256,
    plan.expectedSourcePolicyRevision, plan.expectedUpdaterPolicyRevision, plan.expectedExecutorPolicyRevision,
    plan.expectedExecutorPolicySHA256, plan.ownershipEpoch⟩

/-- `commitDockerPortResult` -/
def commitDockerPortResult (l : DockerPortLedger) (kind : PortResultKind) (composeSHA256 : String) :
    DockerProg PortResponse :=
  let (published, container, health) := dockerSidePorts binding (kind == .applied)
  let d : DockerPortResultState := ⟨published, container, health, composeSHA256⟩
  let result := legacyResult plan modeDocker (dockerResultMessage kind) kind (some d)
  if kind == .rollbackFailed || !result.validate then return .failure .internalError
  else commitLedger (dockerMode E) plan l result (legacyDockerApplied plan result d)

/-- observe one side of the job; the observation if it is exactly that side -/
def observeSide (policy : LocalExecutorPolicy) (target : LocalExecutorTarget) (plan : SystemdPortReconfigurePlan)
    (binding : DockerPortMutationGrantBinding) (l : DockerPortLedger) (targetSide : Bool) :
    DockerProg (Option DockerPortObservation) := do
  return (← observe policy target).filter fun o => dockerPortObservationMatchesTarget E o plan binding l targetSide

/-- `rollbackDockerPortRequest`: an old state that was never left is unchanged, not a failed rollback -/
def rollbackDockerPortRequest (oldTarget : LocalExecutorTarget) (l : DockerPortLedger) : DockerProg PortResponse := do
  match ← observeSide E policy oldTarget l.plan binding l false with
  | some o => commitDockerPortResult E l.plan binding l .unchanged o.composeConfigSHA256
  | none =>
    if ← restoreConfig l.checkpoint l.targetBytes then
      if ← restart oldTarget then
        match ← observeSide E policy oldTarget l.plan binding l false with
        | some o => return ← commitDockerPortResult E l.plan binding l .rolledBack o.composeConfigSHA256
        | none => pure ()
    closeRollbackFailed (dockerMode E) l.plan l modeDocker
      "local rollback could not determine a verified Docker port mapping"

/-- `stageDockerPortLedger`: the ledger to stage, `none` on refusal -/
def stageDockerPortLedger (policy : LocalExecutorPolicy) (target : LocalExecutorTarget) (adapter : DockerPortAdapter)
    (plan : SystemdPortReconfigurePlan) (binding : DockerPortMutationGrantBinding) (targetBytes : Bytes) :
    DockerProg (Option DockerPortLedger) := do
  match ← observe policy target with
  | none => return none
  | some o =>
    if !dockerPortObservationMatchesPlanBaseline E o plan binding || !o.mappingEnv.existed ||
        dockerPortEnvBytes adapter binding.oldPublishedPort binding.oldContainerPort plan.expectedConfigRevision !=
          some o.mappingEnv.bytes then return none
    match ← prepare target targetBytes with
    | none => return none
    | some m =>
      if !dockerPortPreparedMatchesPlan m binding then return none
      if !(← ensureAvailable target) then return none
      return some ⟨1, plan, .staged, o.mappingEnv, targetBytes,
        ⟨o.runtime, o.composeConfigSHA256, m.composeConfigSHA256⟩, none, none⟩

/-- `recheckDockerPortStagedInputs` -/
def recheckDockerPortStagedInputs (policy : LocalExecutorPolicy) (target : LocalExecutorTarget)
    (binding : DockerPortMutationGrantBinding) (l : DockerPortLedger) : DockerProg Bool := do
  match ← observe policy target with
  | none => return false
  | some o =>
    if !dockerPortObservationMatchesPlanBaseline E o l.plan binding || o.mappingEnv != l.checkpoint ||
        o.composeConfigSHA256 != l.baseline.oldComposeSHA256 || o.runtime != l.baseline.runtime then return false
    match ← prepare target l.targetBytes with
    | none => return false
    | some m =>
      if !dockerPortPreparedMatchesPlan m binding || m.composeConfigSHA256 != l.baseline.targetComposeSHA256 then
        return false
      ensureAvailable target

/-- the observation of a repaired commit: the side its result reports, under the result's own mapping -/
def repairObservation (policyTarget : LocalExecutorTarget) (l : DockerPortLedger)
    (result : SystemdPortReconfigureResult) (d : DockerPortResultState) : DockerProg (Option DockerPortObservation) :=
  let effective : LocalExecutorTarget := { policyTarget with
    localListen := { policyTarget.localListen with port := d.appliedHealthPort }
    endpointRevision := result.endpointRevision
    configRevision := result.configRevision
    configSHA256 := result.configSHA256
    docker := policyTarget.docker.map fun t => { t with composeConfigSHA256 := d.composeConfigSHA256 } }
  observeSide E policy effective plan binding l (result.result == .applied)

/-- `repairDockerPortCommit` -/
def repairDockerPortCommit (policyTarget : LocalExecutorTarget) (l : DockerPortLedger) : DockerProg PortResponse := do
  match l.result, l.result.bind (·.docker) with
  | some result, some d =>
    if !result.validate || result.result == .rollbackFailed then return .failure .stateInvalid
    match ← repairObservation E policy plan binding policyTarget l result d with
    | none => return .failure .reconcileRequired
    | some o =>
      if !(← consumeGrant plan request.operation o.runtime.currentVersion request.mutationGrant) then
        return .failure .reconcileRequired
      repairLedger (dockerMode E) plan l result (legacyDockerApplied plan result d)
  | _, _ => return .failure .stateInvalid

/-- a reconcile without a ledger: stage it, consume, and report the unchanged old mapping -/
def reconcileUnstartedDockerPort (adapter : DockerPortAdapter) (targetBytes : Bytes) : DockerProg PortResponse := do
  match ← stageDockerPortLedger E policy target adapter plan binding targetBytes with
  | none => return .failure .mutationPreconditionFailed
  | some staged =>
    if !(← stageLedger (dockerMode E) staged) then return .failure .stateUnavailable
    if !(← consumeGrant plan request.operation staged.baseline.runtime.currentVersion request.mutationGrant) then
      return ← markAmbiguous (dockerMode E) staged
    commitDockerPortResult E plan binding staged .unchanged staged.baseline.oldComposeSHA256

/-- `reconcileDockerPortRequest` on a saved ledger -/
def reconcileDockerPortRequest (l : DockerPortLedger) : DockerProg PortResponse := do
  match ← observeSide E policy target plan binding l false with
  | some o => commitDockerPortResult E plan binding l .rolledBack o.composeConfigSHA256
  | none =>
    let newTarget := dockerPortTargetAfter target plan binding l.baseline.targetComposeSHA256
    match ← observeSide E policy newTarget plan binding l true with
    | some o => commitDockerPortResult E plan binding l .applied o.composeConfigSHA256
    | none => rollbackDockerPortRequest E policy binding target l

/-- the forward part of a legacy Docker request, from the consumed grant on -/
def forwardDockerPort (working : DockerPortLedger) : DockerProg PortResponse := do
  if !(← crashPoint "after_grant_consume") then return ← markAmbiguous (dockerMode E) working
  if !(← recheckDockerPortStagedInputs E policy target binding working) then
    return ← rollbackDockerPortRequest E policy binding target working
  if !(← writeConfig working.checkpoint working.targetBytes) then
    return ← rollbackDockerPortRequest E policy binding target working
  let working := { working with state := .envWritten }
  if !(← saveLedger (dockerMode E) working) then return .failure .reconcileRequired
  if !(← crashPoint "after_port_env_write") then return ← markAmbiguous (dockerMode E) working
  let newTarget := dockerPortTargetAfter target plan binding working.baseline.targetComposeSHA256
  if !(← restart newTarget) then return ← rollbackDockerPortRequest E policy binding target working
  let working := { working with state := .recreated }
  if !(← saveLedger (dockerMode E) working) then return .failure .reconcileRequired
  if !(← crashPoint "after_docker_recreate") then return ← markAmbiguous (dockerMode E) working
  match ← observeSide E policy newTarget plan binding working true with
  | none => rollbackDockerPortRequest E policy binding target working
  | some o => commitDockerPortResult E plan binding working .applied o.composeConfigSHA256

/-- a forward request on its ledger: recheck the baseline, consume, then write and recreate -/
def startDockerPort (l : DockerPortLedger) : DockerProg PortResponse := do
  if l.state != .staged then return .failure .reconcileRequired
  if !(← recheckDockerPortStagedInputs E policy target binding l) then return .failure .mutationPreconditionFailed
  let working := { l with plan := plan, state := .grantConsuming }
  if !(← saveLedger (dockerMode E) working) then return .failure .stateUnavailable
  if !(← consumeGrant plan request.operation working.baseline.runtime.currentVersion request.mutationGrant) then
    return ← markAmbiguous (dockerMode E) working
  let working := { working with state := .grantConsumed }
  if !(← saveLedger (dockerMode E) working) then return .failure .reconcileRequired
  forwardDockerPort E policy plan binding target working

/-- a legacy Docker request whose ledger, if any, is neither terminal nor committing -/
def advanceDockerPort (policyTarget : LocalExecutorTarget) (adapter : DockerPortAdapter) (targetBytes : Bytes)
    (ledger : Option DockerPortLedger) : DockerProg PortResponse := do
  -- past the staged state the env file may already hold the target payload
  let verifySidecar := ledger.all fun l => l.state == .staged
  match ← resolveDockerPortAppliedTargetBound E policy policyTarget verifySidecar with
  | none => return .failure .configMismatch
  | some target =>
    if !dockerPortTargetMatchesExpected target plan binding then return .failure .configMismatch
    match request.operation, ledger with
    | .portReconfigureReconcile, none =>
      reconcileUnstartedDockerPort E policy request plan binding target adapter targetBytes
    | .portReconfigureReconcile, some l => reconcileDockerPortRequest E policy plan binding target l
    | .portReconfigure, none =>
      match ← stageDockerPortLedger E policy target adapter plan binding targetBytes with
      | none => return .failure .mutationPreconditionFailed
      | some l =>
        if !(← stageLedger (dockerMode E) l) then return .failure .stateUnavailable
        startDockerPort E policy request plan binding target l
    | .portReconfigure, some l => startDockerPort E policy request plan binding target l
    | .other, _ => return .failure .invalidRequest

/-- `executeDockerPortRequest` -/
def executeDockerPortRequest : DockerProg PortResponse := do
  match request.portPlan with
  | none => return .failure .internalError
  | some plan =>
    if plan.portContractVersion == 2 then return ← executeDockerPortV2Request E policy request
    match validateDockerPortPolicyBinding E policy request plan with
    | none => return .failure .configMismatch
    | some (policyTarget, adapter, binding, targetBytes) =>
      match ← loadJob (dockerMode E) plan.targetID plan.jobID with
      | .error _ => return .failure .stateInvalid
      | .ok historical =>
        if historical.any fun l => !sameSystemdPortIntent l.plan plan then return .failure .planConflict
        match historical.filter fun l => l.state == .terminal with
        | some l => return terminalResponse plan l
        | none =>
          match ← loadActive (dockerMode E) plan.targetID with
          | .error _ => return .failure .stateInvalid
          | .ok active =>
            if busyWith active plan.jobID then return .failure .targetBusy
            let ledger := continuedLedger historical active plan.jobID
            match ledger.filter fun l => l.state == .committing with
            | some l =>
              if request.operation != .portReconfigureReconcile then return .failure .reconcileRequired
              repairDockerPortCommit E policy request plan binding policyTarget l
            | none => advanceDockerPort E policy request plan binding policyTarget adapter targetBytes ledger

end Docker
end AutostreamUpdater.Port
