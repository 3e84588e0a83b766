/-
The version 2 port coordinator (`executePortV2`), shared by the systemd and the Docker driver.

A driver keeps the job's ledger in memory; the journal the coordinator edits is a view of the ledger's plan, state,
transition and result, and `save` copies those fields back before it writes. One value `l : PortLedger β` carries both
here. `PortV2Driver` collects what the two drivers do differently. Diagnostic logging is left out, and so is the
single-step `Replace` of a policy store that cannot write and reload separately: the installed file store can.
-/
import AutostreamUpdater.Port.World

namespace AutostreamUpdater.Port

open Contract Base

/-- the failure codes of a port response -/
inductive PortFailure where
  | internalError | configMismatch | stateInvalid | stateUnavailable | planConflict | targetBusy | invalidRequest
  | reconcileRequired | mutationPreconditionFailed | policyInvalid | targetNotFound
  deriving DecidableEq, Repr

/-- the response: a failure code, or a result bound to the plan's session and digest -/
inductive PortResponse where
  | failure (code : PortFailure)
  | result (sessionID planSHA256 : String) (r : SystemdPortReconfigureResult)
  deriving DecidableEq, Repr

def localExecutorPortResponse (plan : SystemdPortReconfigurePlan) (result : SystemdPortReconfigureResult) :
    PortResponse :=
  if mutationSessionPattern plan.sessionID && mutationPlanHashPattern plan.portPlanSHA256 && result.validate then
    .result plan.sessionID plan.portPlanSHA256 result
  else .failure .internalError

/-- why a driver step failed: its deadline, or anything else -/
inductive DriverError where
  | deadline | other
  deriving DecidableEq, Repr

/-- what the two drivers do differently -/
structure PortV2Driver (β A : Type) where
  mode : PortMode β A
  /-- `prepare`: observe the baseline and build the staged ledger -/
  prepare : LocalExecutorPolicy → SystemdPortReconfigurePlan → PortPolicyCandidates → PortProg β A (Option (PortLedger β))
  /-- the record `save` hands to `SaveApplied`; `none` when the result names no usable snapshot -/
  appliedFor : PortLedger β → SystemdPortReconfigureResult → Option A
  /-- `verify`; `none` is an error -/
  verify : PortLedger β → LocalExecutorPolicy → PortSnapshotRef → PortProg β A (Option (Option PortRuntimeInstance))
  write : PortLedger β → LocalExecutorPolicy → PortSnapshotRef → PortProg β A (Except DriverError Unit)
  restart : PortLedger β → LocalExecutorPolicy → PortSnapshotRef → PortProg β A (Except DriverError Unit)
  currentVersion : β → String

namespace PortLedger

variable {β : Type}

def rollbackIsLatched (l : PortLedger β) : Bool := l.policyTransition.any (·.rollbackLatched)
def isConsumed (l : PortLedger β) : Bool := l.policyTransition.any (·.consumed)
def needsRecovery (l : PortLedger β) : Bool := l.policyTransition.any (·.recoveryRequired)

/-- edit the transition in place -/
def withTransition (l : PortLedger β) (f : PortPolicyTransition → PortPolicyTransition) : PortLedger β :=
  { l with policyTransition := l.policyTransition.map f }

end PortLedger

section Coordinator

variable {β A : Type} (E : PortEnv) (D : PortV2Driver β A)

variable (l : PortLedger β) (request : LocalExecutorRequest) (plan : SystemdPortReconfigurePlan)
  (binding : MutationGrantV2Binding) (b t r : PortSnapshotRef)

/-- `driver.load` -/
def portV2Load : PortProg β A (Except Unit (Option (PortLedger β))) := do
  match ← loadActive D.mode plan.targetID with
  | .error _ => return .error ()
  | .ok active =>
    if busyWith active plan.jobID then return .error ()
    match ← loadJob D.mode plan.targetID plan.jobID with
    | .error _ => return .error ()
    | .ok none => return .ok none
    | .ok (some l) =>
      return if l.plan.portContractVersion == 2 && D.mode.validateLedger l plan.targetID then .ok (some l)
        else .error ()

/-- the store method `save` calls -/
def stageOrSave (stage : Bool) : PortProg β A Bool :=
  if stage then stageLedger D.mode l else saveLedger D.mode l

/-- `driver.save`: the ledger first, then, once there is a result, the applied record -/
def portV2Save (stage : Bool) : PortProg β A Bool := do
  match ← loadJob D.mode l.plan.targetID l.plan.jobID with
  | .error _ => return false
  | .ok previous =>
    -- an accepted result is immutable
    if (previous.bind (·.result)).any fun r => l.result != some r then return false
    if !(← stageOrSave D l stage) then return false
    match l.result with
    | none => return true
    | some r => match D.appliedFor l r with
      | none => return false
      | some a => saveApplied D.mode a

/-- `portV2PolicyBytes`: the payload saved for the first snapshot that equals `ref` -/
def portV2PolicyBytes (ref : PortSnapshotRef) : Bytes :=
  match l.policyTransition with
  | none => []
  | some t =>
    if l.plan.before == some ref then t.beforePolicy
    else if l.plan.target == some ref then t.targetPolicy
    else if l.plan.rollback == some ref then t.rollbackPolicy
    else []

/-- the policy and the runtime both show `ref`; the reply of `verify` on success -/
def verifyPortV2 (ref : PortSnapshotRef) : PortProg β A (Option (Option PortRuntimeInstance)) := do
  let payload := portV2PolicyBytes l ref
  match decodePortPolicy E payload with
  | none => return none
  | some policy =>
    if !(← policyVerify payload) then return none
    D.verify l policy ref

/-- `verifyPortV2Root` -/
def verifyPortV2Root (ref : PortSnapshotRef) : PortProg β A Bool := do
  return (← verifyPortV2 E D l ref).isSome

/-- why `applyPortV2Policy` stopped -/
inductive ApplyError where
  | simulatedCrash | startExpired | other
  deriving DecidableEq, Repr

/-- the deadline, where there is one, has passed -/
def deadlinePassed : Option ℕ → PortProg β A Bool
  | none => return false
  | some deadline => do return decide (deadline ≤ (← now))

/-- the policy file moves to `ref`: pending, written, loaded, each saved before the next step -/
def applyPortV2Policy (ref : PortSnapshotRef) (firstWriteDeadline : Option ℕ) :
    PortProg β A (Except ApplyError Unit × PortLedger β) := do
  let payload := portV2PolicyBytes l ref
  if payload.isEmpty then return (.error .other, l)
  let l := { l with state := .policyWritePending }
  if !(← portV2Save D l false) then return (.error .other, l)
  if !(← crashPoint "before_policy_write") then return (.error .simulatedCrash, l)
  -- the deadline is checked at the first privileged write, against the time before the consume
  if ← deadlinePassed firstWriteDeadline then return (.error .startExpired, l)
  if !(← policyWrite E ((l.policyTransition.map (·.candidates)).getD ⟨[], [], []⟩) payload) then
    return (.error .other, l)
  let l := { l with state := .policyWritten }
  if !(← portV2Save D l false) then return (.error .other, l)
  if !(← crashPoint "after_policy_write") then return (.error .simulatedCrash, l)
  if !(← policyReload payload) then return (.error .other, l)
  let l := { l with state := .policyLoaded }
  if !(← portV2Save D l false) then return (.error .other, l)
  if !(← crashPoint "after_policy_reload") then return (.error .simulatedCrash, l)
  if !(← policyVerify payload) then return (.error .other, l)
  return (.ok (), l)

/-- the observation that proves `kind` at the snapshot `ref`, made at `t` -/
def portV2Proof (kind : PortResultKind) (ref : PortSnapshotRef) (inst : Option PortRuntimeInstance) (t : ℕ) :
    PortResultV2 where
  result := kind
  observedSnapshotID := ref.snapshotID
  observedSnapshotSHA256 := ref.snapshotSHA256
  observedConfigRevision := ref.configRevision
  observedConfigSHA256 := ref.configSHA256
  observedExecutorPolicyRevision := ref.executorPolicyRevision
  observedExecutorPolicySHA256 := ref.executorPolicySHA256
  observation := ⟨true, true, false, true, t⟩
  runtimeInstance := inst

/-- the result that `finishPortV2` commits for `kind` -/
def portV2Result (kind : PortResultKind) (ref : PortSnapshotRef) (inst : Option PortRuntimeInstance) (t : ℕ) :
    SystemdPortReconfigureResult where
  portContractVersion := 2
  deploymentMode := plan.deploymentMode
  status := if kind == .rolledBack then .rolledBack else .succeeded
  result := kind
  stateKnown := true
  appliedPort := ref.localListenPort
  oldPort := (plan.before.map (·.localListenPort)).getD 0
  newPort := (plan.target.map (·.localListenPort)).getD 0
  endpointRevision := ref.appliedEndpointRevision
  configRevision := ref.configRevision
  configSHA256 := ref.configSHA256
  message := "local port policy and runtime are verified"
  portResult := some (portV2Proof kind ref inst t)

/-- `finishPortV2` -/
def finishPortV2 (kind : PortResultKind) : PortProg β A PortResponse := do
  match portV2ResultSnapshot plan kind with
  | none => return .failure .stateInvalid
  | some ref =>
    if (kind == .unchanged && plan.before != plan.target) || (l.rollbackIsLatched && kind != .rolledBack) then
      return .failure .stateInvalid
    match ← verifyPortV2 E D l ref with
    | none => return .failure .reconcileRequired
    | some inst =>
      let t ← now
      let fresh := portV2Result plan kind ref inst t
      if l.result.any fun r => r.portResult != fresh.portResult then return .failure .stateInvalid
      let result := l.result.getD fresh
      let cleared := l.withTransition fun t => { t with recoveryRequired := false, lastRecoveryObservation := none }
      let l := { cleared with result := some result, state := .committing }
      if !(← portV2Save D l false) then return .failure .stateUnavailable
      if !(← crashPoint "after_result_save") then return .failure .reconcileRequired
      let l := { l with state := .terminal }
      if !(← portV2Save D l false) then return .failure .stateUnavailable
      return localExecutorPortResponse plan result

/-- the observation of a recovery that could not complete; it is never an accepted result -/
def portV2RecoveryFailed (t : ℕ) : SystemdPortReconfigureResult where
  portContractVersion := 2
  deploymentMode := plan.deploymentMode
  status := .failed
  result := .rollbackFailed
  recoveryRequired := true
  message := "local recovery remains incomplete and requires the same job to reconcile"
  portResult := some { result := .rollbackFailed, observation := { observedAt := t } }

/-- `failPortV2Recovery` -/
def failPortV2Recovery : PortProg β A PortResponse := do
  let t ← now
  let result := portV2RecoveryFailed plan t
  let noted := l.withTransition fun t => { t with recoveryRequired := true, lastRecoveryObservation := some result }
  let l := { noted with state := .rollbackLatched, result := none }
  if !(← portV2Save D l false) then return .failure .stateUnavailable
  return localExecutorPortResponse plan result

/-- the deadline passed, or the context is done -/
def budgetSpent (deadline : ℕ) : PortProg β A Bool := do
  let t ← now
  if deadline ≤ t then return true
  contextExpired

/-- a saved payload decoded; like the source, a payload that does not decode leaves the zero policy -/
def savedPolicy (payload : PortPolicyTransition → Bytes) : LocalExecutorPolicy :=
  (l.policyTransition.bind fun t => decodePortPolicy E (payload t)).getD default

/-- the runtime part of a rollback; `none` means it ran through. An exact `R` is neither rewritten nor restarted. -/
def rollbackRuntime (r : PortSnapshotRef) (rollbackPolicy : LocalExecutorPolicy) (deadline : ℕ) :
    PortProg β A (Option PortResponse) := do
  if ← verifyPortV2Root E D l r then return none
  if ← budgetSpent deadline then return some (.failure .reconcileRequired)
  match ← D.write l rollbackPolicy r with
  | .error .deadline => return some (.failure .reconcileRequired)
  | .error .other => return some (← failPortV2Recovery D l plan)
  | .ok _ =>
    if !(← crashPoint "after_rollback_runtime_write") then return some (.failure .reconcileRequired)
    if ← budgetSpent deadline then return some (.failure .reconcileRequired)
    match ← D.restart l rollbackPolicy r with
    | .error .deadline => return some (.failure .reconcileRequired)
    | .error .other => return some (← failPortV2Recovery D l plan)
    | .ok _ => return none

/-- `rollbackPortV2`: latch first, then policy and runtime towards `R` -/
def rollbackPortV2 (r : PortSnapshotRef) : PortProg β A PortResponse := do
  let latched := l.withTransition fun t => { t with rollbackLatched := true, recoveryRequired := true }
  let l := { latched with state := .rollbackLatched }
  if !(← portV2Save D l false) then return .failure .stateUnavailable
  if !(← crashPoint "after_rollback_latch") then return .failure .reconcileRequired
  let t ← now
  let deadline := t + 120
  match ← applyPortV2Policy E D l r none with
  | (.error .simulatedCrash, _) => return .failure .reconcileRequired
  | (.error _, l) => failPortV2Recovery D l plan
  | (.ok _, l) =>
    let rollbackPolicy := savedPolicy E l (·.rollbackPolicy)
    match ← rollbackRuntime E D l plan r rollbackPolicy deadline with
    | some response => return response
    | none =>
      if ← budgetSpent deadline then return .failure .reconcileRequired
      if !(← verifyPortV2Root E D l r) then return .failure .reconcileRequired
      finishPortV2 E D l plan .rolledBack

/-- note that recovery is required, whatever the save says, and hand the job back -/
def deferRecovery : PortProg β A PortResponse := do
  let _ ← portV2Save D (l.withTransition fun t => { t with recoveryRequired := true }) false
  return .failure .reconcileRequired

/-- the runtime part of a forward request: write, restart, verify `T`, finish -/
def forwardRuntime (t r : PortSnapshotRef) (forwardDeadline : ℕ) : PortProg β A PortResponse := do
  let targetPolicy := savedPolicy E l (·.targetPolicy)
  if ← budgetSpent forwardDeadline then return ← rollbackPortV2 E D l plan r
  match ← D.write l targetPolicy t with
  | .error _ => rollbackPortV2 E D l plan r
  | .ok _ =>
    let l := { l with state := .sidecarWritten }
    if !(← portV2Save D l false) then return .failure .reconcileRequired
    if !(← crashPoint "after_sidecar_write") then return .failure .reconcileRequired
    if ← budgetSpent forwardDeadline then return ← rollbackPortV2 E D l plan r
    match ← D.restart l targetPolicy t with
    | .error _ => rollbackPortV2 E D l plan r
    | .ok _ =>
      let l := { l with state := .restarted }
      if !(← portV2Save D l false) then return .failure .reconcileRequired
      if !(← crashPoint "after_restart") then return .failure .reconcileRequired
      if ← budgetSpent forwardDeadline then return ← rollbackPortV2 E D l plan r
      if !(← verifyPortV2Root E D l t) then return ← rollbackPortV2 E D l plan r
      if !(← crashPoint "after_target_verify") then return .failure .reconcileRequired
      finishPortV2 E D l plan .applied

/-- the ledger lets a forward request start: staged, and nothing consumed, latched or left to recover -/
def PortLedger.startable : Bool :=
  l.state == .staged && !l.isConsumed && !l.rollbackIsLatched && !l.needsRecovery

/-- a forward request on a startable ledger: fence, consume, then policy and runtime towards `T` -/
def forwardPortV2 : PortProg β A PortResponse := do
  let l := { l with plan := plan, state := .grantConsuming }
  if !(← portV2Save D l false) then return .failure .stateUnavailable
  let m0 ← now
  let startDeadline := portStartDeadline m0 binding
  if !(← consumeGrant plan request.operation (D.currentVersion l.baseline) request.mutationGrant) then
    return ← deferRecovery D { l with state := .ambiguous }
  let l := { (l.withTransition fun s => { s with consumed := true }) with state := .grantConsumed }
  if !(← portV2Save D l false) then return .failure .reconcileRequired
  if !(← crashPoint "after_grant_consume") then return .failure .reconcileRequired
  let t1 ← now
  if startDeadline ≤ t1 then return ← deferRecovery D l
  -- the baseline is observed again: authorising may have taken most of the window
  if !(← verifyPortV2Root E D l b) then return ← deferRecovery D l
  let t2 ← now
  match ← applyPortV2Policy E D l t (some startDeadline) with
  | (.error .simulatedCrash, _) => return .failure .reconcileRequired
  | (.error .startExpired, l) => deferRecovery D l
  | (.error .other, l) => rollbackPortV2 E D l plan r
  | (.ok _, l) => forwardRuntime E D l plan t r (t2 + 120)

/-- a consumed forward grant may have reached `T` before its response was lost -/
def observedTarget (t : PortSnapshotRef) : PortProg β A Bool :=
  if !l.rollbackIsLatched && l.isConsumed then verifyPortV2Root E D l t else pure false

/-- a reconcile request: an exact `T` that was paid for may be observed, every new write goes towards `R` -/
def reconcilePortV2 (t r : PortSnapshotRef) : PortProg β A PortResponse := do
  if ← observedTarget E D l t then return ← finishPortV2 E D l plan .applied
  let l := { l with plan := plan }
  if !(← consumeGrant plan request.operation (D.currentVersion l.baseline) request.mutationGrant) then
    return ← deferRecovery D l
  rollbackPortV2 E D (l.withTransition fun s => { s with consumed := true }) plan r

/-- a ledger that already has its result: re-verify the snapshot it names, then make sure the ledger is terminal -/
def resumePortV2 (result : SystemdPortReconfigureResult) : PortProg β A PortResponse := do
  if result.result == .rollbackFailed then return .failure .stateInvalid
  match portV2ResultSnapshot plan result.result with
  | none => return .failure .reconcileRequired
  | some ref =>
    if !(← verifyPortV2Root E D l ref) then return .failure .reconcileRequired
    if l.state != .terminal then
      if !(← portV2Save D { l with state := .terminal } false) then return .failure .stateUnavailable
    return localExecutorPortResponse plan result

/-- a ledger without a result, just loaded or just staged -/
def advancePortV2 : PortProg β A PortResponse := do
  if b == t then
    if l.isConsumed || l.rollbackIsLatched || b != r then return .failure .stateInvalid
    finishPortV2 E D l plan .unchanged
  else match request.operation with
    | .portReconfigureReconcile => reconcilePortV2 E D l request plan t r
    | .portReconfigure =>
      if l.startable then forwardPortV2 E D l request plan binding b t r else return .failure .reconcileRequired
    | .other => return .failure .reconcileRequired

/-- the first request of a job: build the candidates, observe the baseline, stage the ledger -/
def stagePortV2 (policy : LocalExecutorPolicy) (request : LocalExecutorRequest) (plan : SystemdPortReconfigurePlan)
    (binding : MutationGrantV2Binding) (b t r : PortSnapshotRef) : PortProg β A PortResponse := do
  -- no durable intent is no proof that the panel never saw a grant consumed
  if request.operation == .portReconfigureReconcile && b != t then return .failure .reconcileRequired
  match buildSystemUpdatePortPolicyCandidates E policy plan with
  | none => return .failure .configMismatch
  | some candidates =>
    if !(← policyVerify candidates.before) then return .failure .configMismatch
    match ← D.prepare policy plan candidates with
    | none => return .failure .mutationPreconditionFailed
    | some l =>
      if !(← portV2Save D l true) then return .failure .stateUnavailable
      advancePortV2 E D l request plan binding b t r

/-- `executePortV2`; a plan that passes its validator has all three snapshots -/
def executePortV2 (policy : LocalExecutorPolicy) (request : LocalExecutorRequest) : PortProg β A PortResponse := do
  match request.portPlan, request.mutationGrantV2Binding with
  | some plan, some binding =>
    if plan.portContractVersion != 2 || !request.validate E then return .failure .configMismatch
    let t0 ← now
    match policy.target plan.targetID, plan.before, plan.target, plan.rollback with
    | some rootTarget, some b, some t, some r =>
      if !validatePortV2GrantBinding E t0 binding request plan policy rootTarget then return .failure .configMismatch
      match ← portV2Load D plan with
      | .error _ => return .failure .stateInvalid
      | .ok none => stagePortV2 E D policy request plan binding b t r
      | .ok (some l) =>
        if !sameSystemdPortIntent l.plan plan || !(l.policyTransition.any fun s => s.validate E plan) then
          return .failure .planConflict
        match l.result with
        | some result => resumePortV2 E D l plan result
        | none => advancePortV2 E D l request plan binding b t r
    | _, _, _, _ => return .failure .configMismatch
  | _, _ => return .failure .configMismatch

end Coordinator
end AutostreamUpdater.Port
