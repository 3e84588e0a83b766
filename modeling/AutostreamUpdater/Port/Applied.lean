/-
The applied record of a target and the effective target it makes: how a request reads the ports that are really in force
(`resolveSystemdPortAppliedTarget`, `resolveDockerPortAppliedTarget`), with the lineage checks that decide whether the
record overlays the installed policy, and the check of the configuration file against it.
-/
import AutostreamUpdater.Port.V2

namespace AutostreamUpdater.Port

open Contract Base

variable (E : PortEnv)

variable (policy : LocalExecutorPolicy) (target : LocalExecutorTarget) (a : DockerPortAppliedState)

/-- `strings.TrimPrefix` with the digest prefix -/
def trimSHA256 (s : String) : String :=
  if s.toList.take 7 == "sha256:".toList then String.ofList (s.toList.drop 7) else s

/-- the applied record was written under the installed policy's own lineage -/
def lineageMatches (source updater executor : ℤ) (sha : String) : Bool :=
  source == policy.sourcePolicyRevision && updater == policy.projectionRevision && executor == policy.policyRevision &&
    E.policySHA256 policy == some sha

/-- the configuration file is private and holds exactly the expected payload -/
def configIs (cp : PortCheckpoint) (expected : Bytes) (sha : String) : Bool :=
  cp.existed && cp.mode == 0o600 && !expected.isEmpty && expected.length ≤ 65536 && cp.bytes == expected &&
    payloadSHA256 E cp.bytes == sha

/-! ## systemd -/

namespace SystemdPortAppliedState

def validateRecord (a : SystemdPortAppliedState) (target : LocalExecutorTarget) : Bool :=
  a.schemaVersion == 1 && a.targetID == target.serviceID && a.serviceType == target.serviceType &&
    target.deploymentMode == modeSystemd && validSystemdPort a.port && 1 ≤ a.endpointRevision &&
    1 ≤ a.configRevision && digestPattern a.configSHA256 && 1 ≤ a.sourcePolicyRevision &&
    1 ≤ a.updaterPolicyRevision && 1 ≤ a.executorPolicyRevision && digestPattern a.executorPolicySHA256 &&
    1 ≤ a.ownershipEpoch && digestPattern target.configSHA256 &&
    match target.systemd.bind fun s => systemdPortAdapterFor target.serviceType s.unit with
    | none => false
    | some adapter => a.configSHA256 ==
        payloadSHA256 E (systemdPortSidecarBytes E adapter.serviceType target.localListen.host a.port a.configRevision)

def matchesTarget (a : SystemdPortAppliedState) (target : LocalExecutorTarget) : Bool :=
  a.targetID == target.serviceID && a.serviceType == target.serviceType && a.port == target.localListen.port &&
    a.endpointRevision == target.endpointRevision && a.configRevision == target.configRevision &&
    a.configSHA256 == target.configSHA256

/-- `validateForPolicy`: `none` is an error, otherwise whether the record overlays the policy -/
def validateForPolicy (a : SystemdPortAppliedState) (policy : LocalExecutorPolicy) (target : LocalExecutorTarget) :
    Option Bool :=
  if !a.validateRecord E target || (E.policySHA256 policy).isNone then none
  else if !lineageMatches E policy a.sourcePolicyRevision a.updaterPolicyRevision a.executorPolicyRevision
      a.executorPolicySHA256 then
    if a.matchesTarget target then some false else none
  else if a.endpointRevision < target.endpointRevision || a.configRevision < target.configRevision then none
  else if a.endpointRevision == target.endpointRevision && (a.port != target.localListen.port ||
      a.configRevision != target.configRevision || a.configSHA256 != target.configSHA256) then none
  else if a.configRevision == target.configRevision && (a.port != target.localListen.port ||
      a.configSHA256 != target.configSHA256) then none
  else some true

end SystemdPortAppliedState

/-- `VerifyAppliedSidecar` -/
def verifyAppliedSidecar (a : SystemdPortAppliedState) : PortProg SystemdBaseline SystemdPortAppliedState Bool := do
  if !a.validateRecord E target then return false
  match ← checkpoint with
  | none => return false
  | some cp =>
    return configIs E cp (systemdPortSidecarBytes E target.serviceType target.localListen.host a.port a.configRevision)
      a.configSHA256

/-- `resolveSystemdPortAppliedTarget`; `none` is an error -/
def resolveSystemdPortAppliedTarget (policyTarget : LocalExecutorTarget) :
    PortProg SystemdBaseline SystemdPortAppliedState (Option LocalExecutorTarget) := do
  match ← loadApplied (systemdMode E) policyTarget.serviceID with
  | .error _ => return none
  | .ok none => return some policyTarget
  | .ok (some a) => match a.validateForPolicy E policy policyTarget with
    | none => return none
    | some overlay =>
      if !(← verifyAppliedSidecar E policyTarget a) then return none
      return some <| if !overlay then policyTarget else
        { policyTarget with
          localListen := { policyTarget.localListen with port := a.port }
          endpointRevision := a.endpointRevision
          configRevision := a.configRevision
          configSHA256 := a.configSHA256 }

/-! ## Docker -/

namespace DockerPortAppliedState

def validateRecord (a : DockerPortAppliedState) (target : LocalExecutorTarget) : Bool :=
  a.validate target.serviceID && a.serviceType == target.serviceType && target.deploymentMode == modeDocker &&
    digestPattern target.configSHA256 &&
    match dockerPortAdapterFor target.serviceType target.docker with
    | none => false
    | some adapter => (dockerPortEnvBytes adapter a.publishedPort a.containerPort a.configRevision).any
        fun expected => payloadSHA256 E expected == a.configSHA256

def matchesTarget (a : DockerPortAppliedState) (target : LocalExecutorTarget) : Bool :=
  (target.docker.any fun d => a.composeConfigSHA256 == d.composeConfigSHA256) && a.targetID == target.serviceID &&
    a.serviceType == target.serviceType && a.healthPort == target.localListen.port &&
    a.endpointRevision == target.endpointRevision && a.configRevision == target.configRevision &&
    a.configSHA256 == target.configSHA256

/-- `validateForPolicy`: `none` is an error, otherwise whether the record overlays the policy -/
def validateForPolicy (a : DockerPortAppliedState) (policy : LocalExecutorPolicy) (target : LocalExecutorTarget) :
    Option Bool :=
  let composeDiffers := !(target.docker.any fun d => a.composeConfigSHA256 == d.composeConfigSHA256)
  if !a.validateRecord E target || (E.policySHA256 policy).isNone then none
  else if !lineageMatches E policy a.sourcePolicyRevision a.updaterPolicyRevision a.executorPolicyRevision
      a.executorPolicySHA256 then
    if a.matchesTarget target then some false else none
  else if a.endpointRevision < target.endpointRevision || a.configRevision < target.configRevision then none
  else if a.endpointRevision == target.endpointRevision && (a.healthPort != target.localListen.port ||
      a.configRevision != target.configRevision || a.configSHA256 != target.configSHA256 || composeDiffers) then none
  else if a.configRevision == target.configRevision && (a.healthPort != target.localListen.port ||
      a.configSHA256 != target.configSHA256 || composeDiffers) then none
  else some true

end DockerPortAppliedState

/-- `composeHash`: the resolved Compose digest of the first snapshot that equals `ref` -/
def composeHash (l : DockerPortLedger) (ref : PortSnapshotRef) : String :=
  if l.plan.before == some ref then l.baseline.oldComposeSHA256
  else if l.plan.target == some ref then l.baseline.targetComposeSHA256
  else if l.plan.rollback == some ref then (l.policyTransition.map (·.rollbackComposeSHA256)).getD ""
  else ""

/-- the record carries exactly the snapshot `ref` of the saved job -/
def appliedIsSnapshot (l : DockerPortLedger) (ref : PortSnapshotRef) : Bool :=
  a.sourcePolicyRevision == ref.sourcePolicyRevision && a.updaterPolicyRevision == ref.projectionRevision &&
    a.executorPolicyRevision == ref.executorPolicyRevision && a.executorPolicySHA256 == ref.executorPolicySHA256 &&
    (ref.docker.any fun d => a.publishedPort == d.publishedPort && a.containerPort == d.containerPort &&
      a.healthPort == d.healthPort) &&
    a.endpointRevision == ref.appliedEndpointRevision && a.configRevision == ref.configRevision &&
    a.configSHA256 == ref.configSHA256 && a.composeConfigSHA256 == composeHash l ref &&
    a.ownershipEpoch == l.plan.ownershipEpoch

/-- `validateDockerPortV2AppliedAuthority`: `none` is an error -/
def validateDockerPortV2AppliedAuthority : PortProg DockerBaseline DockerPortAppliedState (Option Bool) := do
  if !a.validateRecord E target || !E.policyValid policy then return none
  if a.matchesTarget target then return some false
  match ← loadJob (dockerMode E) target.serviceID a.portJobID with
  | .ok (some l) =>
    match l.result.bind fun r => portV2ResultSnapshot l.plan r.result with
    | none => return none
    | some ref =>
      let saved := (decodePortPolicy E (portV2PolicyBytes l ref)).bind fun p => p.target target.serviceID
      return if l.plan.portContractVersion == 2 && l.plan.hostID == policy.hostID && saved == some target &&
        appliedIsSnapshot a l ref then some true else none
  | _ => return none

/-- `VerifyAppliedDockerSidecar` -/
def verifyAppliedDockerSidecar : PortProg DockerBaseline DockerPortAppliedState Bool := do
  if !a.validateRecord E target then return false
  match (dockerPortAdapterFor target.serviceType target.docker).bind fun adapter =>
      dockerPortEnvBytes adapter a.publishedPort a.containerPort a.configRevision with
  | none => return false
  | some expected => match ← checkpoint with
    | none => return false
    | some cp => return configIs E cp expected a.configSHA256

/-- the check of the env file, left out while a transaction may have replaced it -/
def verifyAppliedDockerSidecarIf (verifySidecar : Bool) (target : LocalExecutorTarget) (a : DockerPortAppliedState) :
    PortProg DockerBaseline DockerPortAppliedState Bool :=
  if verifySidecar then verifyAppliedDockerSidecar E target a else pure true

/-- whether the record overlays the policy, by the contract version that wrote it; `none` is an error -/
def dockerUseOverlay : PortProg DockerBaseline DockerPortAppliedState (Option Bool) :=
  if a.portContractVersion == 2 then validateDockerPortV2AppliedAuthority E policy target a
  else pure (a.validateForPolicy E policy target)

/-- `resolveDockerPortAppliedTargetBound`; `none` is an error -/
def resolveDockerPortAppliedTargetBound (policyTarget : LocalExecutorTarget) (verifySidecar : Bool) :
    PortProg DockerBaseline DockerPortAppliedState (Option LocalExecutorTarget) := do
  match ← loadApplied (dockerMode E) policyTarget.serviceID with
  | .error _ => return none
  | .ok none => return some policyTarget
  | .ok (some a) =>
    match ← dockerUseOverlay E policy policyTarget a with
    | none => return none
    | some overlay =>
      if !(← verifyAppliedDockerSidecarIf E verifySidecar policyTarget a) then return none
      return some <| if !overlay then policyTarget else
        { policyTarget with
          localListen := { policyTarget.localListen with port := a.healthPort }
          endpointRevision := a.endpointRevision
          configRevision := a.configRevision
          configSHA256 := a.configSHA256
          docker := policyTarget.docker.map fun d => { d with composeConfigSHA256 := a.composeConfigSHA256 } }

/-- `resolveDockerPortAppliedTarget` -/
def resolveDockerPortAppliedTarget (policyTarget : LocalExecutorTarget) :
    PortProg DockerBaseline DockerPortAppliedState (Option LocalExecutorTarget) :=
  resolveDockerPortAppliedTargetBound E policy policyTarget true

end AutostreamUpdater.Port
