/-
The two drivers of the version 2 coordinator: systemd (a sidecar file and a unit) and Docker (an env file and a Compose
service), and the two entry points `executeSystemdPortV2Request` and `executeDockerPortV2Request`.

Both drivers write the runtime configuration the same way: only over one of the three saved payloads, and only a payload
with the digest of the snapshot it stands for. `writeRuntime` is that shared part.
-/
import AutostreamUpdater.Port.Applied

namespace AutostreamUpdater.Port

open Contract Base

variable (E : PortEnv)

variable (adapter : DockerPortAdapter) (l : DockerPortLedger) (policy : LocalExecutorPolicy) (ref : PortSnapshotRef)
  (plan : SystemdPortReconfigurePlan) (candidates : PortPolicyCandidates)

/-! ## The shared runtime write -/

/-- `portV2RuntimeBytesAllowed` over the saved payloads of the ledger -/
def portV2RuntimeBytesAllowed {β : Type} (l : PortLedger β) (current : Bytes) : Bool :=
  current == l.checkpoint.bytes || current == l.targetBytes ||
    l.policyTransition.any fun t => current == t.rollbackRuntimeBytes

/-- the common body of the two `write` methods; `payload` is the mode's encoding of `ref` -/
def writeRuntime {β A : Type} (checkpointOK : PortCheckpoint → Bool) (l : PortLedger β) (payload : Option Bytes)
    (ref : PortSnapshotRef) : PortProg β A (Except DriverError Unit) := do
  if ← contextExpired then return .error .deadline
  match ← checkpoint with
  | none => return .error .other
  | some current =>
    if !checkpointOK current || !current.existed || current.mode != 0o600 ||
        !portV2RuntimeBytesAllowed l current.bytes then return .error .other
    match payload with
    | none => return .error .other
    | some payload =>
      if !portV2SnapshotPayloadMatches E payload ref then return .error .other
      if current.bytes == payload then return .ok ()
      return if ← writeConfig current payload then .ok () else .error .other

/-- a failed restart is either the context's end or an error of its own -/
def restartService {β A : Type} (target : LocalExecutorTarget) : PortProg β A (Except DriverError Unit) := do
  if ← restart target then return .ok ()
  return if ← contextExpired then .error .deadline else .error .other

/-- probe the new endpoint; one the service already holds is not probed -/
def ensureAvailableIf {β A : Type} (changes : Bool) (target : LocalExecutorTarget) : PortProg β A Bool :=
  if changes then ensureAvailable target else pure true

/-! ## systemd -/

/-- the sidecar on disk is private and is exactly the payload of the snapshot -/
def sidecarShows (cp : PortCheckpoint) (serviceType host : String) (ref : PortSnapshotRef) : Bool :=
  cp.validateSidecar E && cp.existed && cp.mode == 0o600 && cp.sha256 == ref.configSHA256 &&
    cp.bytes == systemdPortSidecarBytes E serviceType host ref.localListenPort ref.configRevision

/-- the staged ledger of a systemd job -/
def systemdStagedLedger (cp : PortCheckpoint) (targetBytes rollbackBytes : Bytes) (version : String) : SystemdPortLedger where
  schemaVersion := 2
  plan := plan
  state := .staged
  checkpoint := cp
  targetBytes := targetBytes
  baseline := ⟨version⟩
  policyTransition := some
    { version := 1, beforePolicy := candidates.before, targetPolicy := candidates.target,
      rollbackPolicy := candidates.rollback, rollbackRuntimeBytes := rollbackBytes }

/-- `systemdPortV2Driver.prepare` -/
def systemdPrepare : PortProg SystemdBaseline SystemdPortAppliedState (Option SystemdPortLedger) := do
  match policy.target plan.targetID, plan.before, plan.target, plan.rollback with
  | some target, some b, some t, some r =>
    match ← checkpoint with
    | none => return none
    | some cp =>
      if !sidecarShows E cp plan.serviceType target.localListen.host b then return none
      match ← verifyRuntime policy target with
      | none => return none
      | some version =>
        if !versionPattern version then return none
        if !(← ensureAvailableIf (b.localListenPort != t.localListenPort)
            { target with localListen := { target.localListen with port := t.localListenPort } }) then return none
        let bytesOf (ref : PortSnapshotRef) :=
          systemdPortSidecarBytes E plan.serviceType target.localListen.host ref.localListenPort ref.configRevision
        if !portV2SnapshotPayloadMatches E (bytesOf t) t || !portV2SnapshotPayloadMatches E (bytesOf r) r then
          return none
        return some (systemdStagedLedger plan candidates cp (bytesOf t) (bytesOf r) version)
  | _, _, _, _ => return none

/-- `systemdPortV2Driver.verify` -/
def systemdVerify (l : SystemdPortLedger) (policy : LocalExecutorPolicy) (ref : PortSnapshotRef) :
    PortProg SystemdBaseline SystemdPortAppliedState (Option (Option PortRuntimeInstance)) := do
  match policy.target l.plan.targetID with
  | none => return none
  | some target =>
    if !portPolicySnapshotMatches E policy target ref then return none
    match ← checkpoint with
    | none => return none
    | some cp =>
      if !sidecarShows E cp target.serviceType target.localListen.host ref then return none
      return if (← verifyRuntime policy target) == some l.baseline.currentVersion then some none else none

/-- `systemdPortV2Driver.write` -/
def systemdWrite (l : SystemdPortLedger) (policy : LocalExecutorPolicy) (ref : PortSnapshotRef) :
    PortProg SystemdBaseline SystemdPortAppliedState (Except DriverError Unit) :=
  writeRuntime E (·.validateSidecar E) l ((policy.target l.plan.targetID).map fun target =>
    systemdPortSidecarBytes E target.serviceType target.localListen.host ref.localListenPort ref.configRevision) ref

/-- `systemdPortV2Driver.restart` -/
def systemdRestart (l : SystemdPortLedger) (policy : LocalExecutorPolicy) (ref : PortSnapshotRef) :
    PortProg SystemdBaseline SystemdPortAppliedState (Except DriverError Unit) :=
  match policy.target l.plan.targetID with
  | none => return .error .other
  | some target => if portPolicySnapshotMatches E policy target ref then restartService target else return .error .other

/-- `systemdPortV2Driver` -/
def systemdPortV2Driver : PortV2Driver SystemdBaseline SystemdPortAppliedState where
  mode := systemdMode E
  prepare := systemdPrepare E
  appliedFor := fun l r => some (systemdPortAppliedStateForResult l.plan r)
  verify := systemdVerify E
  write := systemdWrite E
  restart := systemdRestart E
  currentVersion := (·.currentVersion)

/-- `executeSystemdPortV2Request` -/
def executeSystemdPortV2Request (request : LocalExecutorRequest) :
    PortProg SystemdBaseline SystemdPortAppliedState PortResponse := do
  match request.portPlan with
  | none => return .failure .stateUnavailable
  | some plan =>
    match (policy.target plan.targetID).bind fun target => target.systemd.bind fun s =>
        systemdPortAdapterFor target.serviceType s.unit with
    | none => return .failure .configMismatch
    | some _ => executePortV2 E (systemdPortV2Driver E) policy request

/-! ## Docker -/

/-- `dockerPortObservation.validate` -/
def DockerPortObservation.validate (o : DockerPortObservation) : Bool :=
  o.mappingEnv.validateMapping E && o.publishedHostIP == "127.0.0.1" && validSystemdPort o.publishedPort &&
    validSystemdPort o.containerPort && o.healthPort == o.publishedPort && 1 ≤ o.configRevision &&
    digestPattern o.configSHA256 && o.configSHA256 == o.mappingEnv.sha256 &&
    mutationPlanHashPattern o.composePolicySHA256 && mutationPlanHashPattern o.composeConfigSHA256 && o.runtime.validate

/-- `dockerPortPreparedModel.validate` -/
def DockerPortPreparedModel.validate (m : DockerPortPreparedModel) : Bool :=
  mutationPlanHashPattern m.composePolicySHA256 && mutationPlanHashPattern m.composeConfigSHA256 &&
    m.publishedHostIP == "127.0.0.1" && validSystemdPort m.publishedPort && validSystemdPort m.containerPort &&
    m.healthPort == m.publishedPort

def dockerPortV2ObservationMatches (o : DockerPortObservation) (ref : PortSnapshotRef) : Bool :=
  ref.docker.any fun d => o.publishedHostIP == d.publishedHostIP && o.publishedPort == d.publishedPort &&
    o.containerPort == d.containerPort && o.healthPort == d.healthPort && o.configRevision == ref.configRevision &&
    o.configSHA256 == ref.configSHA256 && o.composePolicySHA256 == trimSHA256 d.composePolicySHA256

def dockerPortV2PreparedMatches (m : DockerPortPreparedModel) (ref : PortSnapshotRef) : Bool :=
  m.validate && ref.docker.any fun d => m.publishedHostIP == d.publishedHostIP && m.publishedPort == d.publishedPort &&
    m.containerPort == d.containerPort && m.healthPort == d.healthPort &&
    m.composePolicySHA256 == trimSHA256 d.composePolicySHA256

/-- the env payload of a snapshot -/
def dockerSnapshotBytes : Option Bytes :=
  ref.docker.bind fun d => dockerPortEnvBytes adapter d.publishedPort d.containerPort ref.configRevision

/-- the container the plan was made for is still the running one -/
def dockerBaselineHolds (o : DockerPortObservation) (plan : SystemdPortReconfigurePlan) : Bool :=
  plan.dockerBaseline.any fun d => o.runtime.containerID == d.expectedContainerID &&
    o.runtime.imageID == d.expectedImageID && o.runtime.repositoryDigest == d.expectedRepositoryDigest &&
    o.runtime.versionEnvSHA256 == d.expectedVersionEnvSHA256 && o.composeConfigSHA256 == d.approvedComposeConfigSHA256

/-- the canonical model of one candidate: its policy's target with its env payload; `none` is an error -/
def dockerPrepareSnapshot (plan : SystemdPortReconfigurePlan) (policyBytes payload : Bytes) (ref : PortSnapshotRef) :
    PortProg DockerBaseline DockerPortAppliedState (Option DockerPortPreparedModel) := do
  match (decodePortPolicy E policyBytes).bind fun p => p.target plan.targetID with
  | none => return none
  | some target =>
    match ← prepare target payload with
    | none => return none
    | some m => return if dockerPortV2PreparedMatches m ref then some m else none

/-- the staged ledger of a Docker job -/
def dockerStagedLedger (before : DockerPortObservation) (targetBytes rollbackBytes : Bytes)
    (targetModel rollbackModel : DockerPortPreparedModel) : DockerPortLedger where
  schemaVersion := 2
  plan := plan
  state := .staged
  checkpoint := before.mappingEnv
  targetBytes := targetBytes
  baseline := ⟨before.runtime, before.composeConfigSHA256, targetModel.composeConfigSHA256⟩
  policyTransition := some
    { version := 1, beforePolicy := candidates.before, targetPolicy := candidates.target,
      rollbackPolicy := candidates.rollback, rollbackRuntimeBytes := rollbackBytes,
      rollbackComposeSHA256 := rollbackModel.composeConfigSHA256 }

/-- `dockerPortV2Driver.prepare` -/
def dockerPrepare : PortProg DockerBaseline DockerPortAppliedState (Option DockerPortLedger) := do
  match policy.target plan.targetID, plan.before, plan.target, plan.rollback with
  | some policyTarget, some b, some t, some r =>
    match ← resolveDockerPortAppliedTarget E policy policyTarget with
    | none => return none
    | some target =>
      match ← observe policy target with
      | none => return none
      | some before =>
        if !before.validate E || !dockerPortV2ObservationMatches before b || !dockerBaselineHolds before plan then
          return none
        match dockerSnapshotBytes adapter t, dockerSnapshotBytes adapter r with
        | some targetBytes, some rollbackBytes =>
          if !portV2SnapshotPayloadMatches E targetBytes t || !portV2SnapshotPayloadMatches E rollbackBytes r then
            return none
          match ← dockerPrepareSnapshot E plan candidates.target targetBytes t with
          | none => return none
          | some targetModel =>
            match ← dockerPrepareSnapshot E plan candidates.rollback rollbackBytes r with
            | none => return none
            | some rollbackModel =>
              if !(← ensureAvailableIf (b != t) target) then return none
              return some (dockerStagedLedger plan candidates before targetBytes rollbackBytes targetModel rollbackModel)
        | _, _ => return none
  | _, _, _, _ => return none

/-- `effectiveTarget`: the policy's target with the resolved Compose digest of the snapshot -/
def dockerEffectiveTarget : Option LocalExecutorTarget := do
  let target ← policy.target l.plan.targetID
  let docker ← target.docker
  guard (portPolicySnapshotMatches E policy target ref && mutationPlanHashPattern (composeHash l ref))
  return { target with docker := some { docker with composeConfigSHA256 := composeHash l ref } }

/-- the observed container runs the saved image and version under the snapshot's mapping -/
def dockerRuntimeShows (l : DockerPortLedger) (o : DockerPortObservation) (ref : PortSnapshotRef) : Bool :=
  let saved := l.baseline.runtime
  o.validate E && dockerPortV2ObservationMatches o ref && o.composeConfigSHA256 == composeHash l ref &&
    o.runtime.currentVersion == saved.currentVersion && o.runtime.versionEnvSHA256 == saved.versionEnvSHA256 &&
    o.runtime.imageID == saved.imageID && o.runtime.repositoryDigest == saved.repositoryDigest &&
    !(l.plan.before == some ref && o.runtime.containerID != saved.containerID)

/-- `dockerPortV2Driver.verify` -/
def dockerVerify : PortProg DockerBaseline DockerPortAppliedState (Option (Option PortRuntimeInstance)) := do
  match dockerEffectiveTarget E l policy ref with
  | none => return none
  | some target =>
    match ← observe policy target with
    | none => return none
    | some o =>
      return if dockerRuntimeShows E l o ref then
        some (some ⟨o.runtime.containerID, o.runtime.imageID, o.runtime.repositoryDigest⟩) else none

/-- `dockerPortV2Driver.restart` -/
def dockerRestart : PortProg DockerBaseline DockerPortAppliedState (Except DriverError Unit) := do
  match dockerEffectiveTarget E l policy ref, dockerSnapshotBytes adapter ref with
  | some target, some payload =>
    match ← prepare target payload with
    | none => return .error .other
    | some m =>
      if !dockerPortV2PreparedMatches m ref || m.composeConfigSHA256 != composeHash l ref then return .error .other
      restartService target
  | _, _ => return .error .other

/-- the record `dockerPortV2Driver.save` hands to `SaveApplied` -/
def dockerAppliedFor (r : SystemdPortReconfigureResult) : Option DockerPortAppliedState := do
  let ref ← portV2ResultSnapshot l.plan r.result
  let docker ← ref.docker
  return ⟨2, l.plan.jobID, 1, l.plan.targetID, l.plan.serviceType, docker.publishedPort, docker.containerPort,
    docker.healthPort, ref.appliedEndpointRevision, ref.configRevision, ref.configSHA256, composeHash l ref,
    ref.sourcePolicyRevision, ref.projectionRevision, ref.executorPolicyRevision, ref.executorPolicySHA256,
    l.plan.ownershipEpoch⟩

/-- `dockerPortV2Driver` -/
def dockerPortV2Driver : PortV2Driver DockerBaseline DockerPortAppliedState where
  mode := dockerMode E
  prepare := dockerPrepare E adapter
  appliedFor := dockerAppliedFor
  verify := dockerVerify E
  write := fun l _ ref => writeRuntime E (·.validateMapping E) l (dockerSnapshotBytes adapter ref) ref
  restart := dockerRestart E adapter
  currentVersion := (·.runtime.currentVersion)

/-- `executeDockerPortV2Request` -/
def executeDockerPortV2Request (request : LocalExecutorRequest) :
    PortProg DockerBaseline DockerPortAppliedState PortResponse := do
  match request.portPlan with
  | none => return .failure .stateUnavailable
  | some plan =>
    match (policy.target plan.targetID).bind fun target => dockerPortAdapterFor target.serviceType target.docker with
    | none => return .failure .configMismatch
    | some adapter => executePortV2 E (dockerPortV2Driver E adapter) policy request

end AutostreamUpdater.Port
