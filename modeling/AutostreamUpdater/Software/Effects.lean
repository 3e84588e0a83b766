/-
What each part of a software request does to the host: which parts only look at it (`inspects`), and that nothing below
the request touches the ledger or the grant (`onTarget`).
-/
import AutostreamUpdater.Software.Requests

namespace AutostreamUpdater.Software

open Contract Base Fallible

/-- the operation belongs to the request: its admission, its ledger or its grant -/
def HostOp.ofRequest : HostOp → Bool
  | .acceptRequest | .readLedger | .writeLedger _ | .consumeGrant _ _ => true
  | _ => false

/-- the operation is one of the target's -/
abbrev HostOp.onTarget (o : HostOp) : Prop := o.ofRequest = false

/-- the operation only looks at the target -/
abbrev HostOp.inspects (o : HostOp) : Prop := o.ofRequest = false ∧ o.changesTarget = false

variable {E : SoftwareEnv} {α β ε : Type} {P : HostOp → Prop}

theorem issues_orFail {e : ε} {p : SoftwareProg Bool} (h : p.Only P fun _ => True) : issues P (orFail e p) :=
  issues_bind (issues_total h) fun _ => issues_require

theorem issues_got {e : ε} {p : SoftwareProg (Option α)} (h : p.Only P fun _ => True) : issues P (got e p) := by
  refine issues_bind (issues_total h) ?_
  intro a
  cases a with
  | none => exact issues_throw
  | some a => exact issues_pure

theorem issues_attempt {p : Soft α} (h : issues P p) : issues P (attempt p) := issues_total (issues_iff.1 h)

theorem issues_onlyIf {b : Bool} {p : Soft Unit} (h : issues P p) : issues P (onlyIf b p) := issues_ite h issues_pure

theorem issues_firstError {rs : List (Except String Unit)} : issues P (firstError rs) := by
  induction rs with
  | nil => exact issues_pure
  | cons r rs ih =>
    cases r with
    | ok a => exact ih
    | error e => exact issues_throw

/-- one operation -/
theorem acts {o : HostOp} (h : P o) : (issue o).Only P fun _ => True := ⟨h, fun _ => trivial⟩

/-- the checks of a list are made one after another -/
theorem issues_checkAll {p q : Soft Unit} {f : Except String Unit → Except String Unit → List (Except String Unit)}
    (hp : issues P p) (hq : issues P q) : issues P (do let a ← attempt p; let b ← attempt q; firstError (f a b)) := by
  refine issues_bind (issues_attempt hp) ?_
  intro a
  refine issues_bind (issues_attempt hq) ?_
  intro b
  exact issues_firstError

/-- a program of the target that only looks at it -/
abbrev Inspects (p : Soft α) : Prop := issues HostOp.inspects p

/-- a program of the target -/
abbrev OnTarget (p : Soft α) : Prop := issues HostOp.onTarget p

theorem Inspects.onTarget {p : Soft α} (h : Inspects p) : OnTarget p := issues_mono h fun _ h => h.1

theorem looks {o : HostOp} (h : o.inspects) : (issue o).Only HostOp.inspects fun _ => True := acts h

/-! ## systemd -/

theorem loadCheckpoint_inspects : Inspects (loadCheckpoint E) := by
  refine issues_bind (issues_total (looks ⟨rfl, rfl⟩)) ?_
  intro r
  rcases r with _ | _ | c
  · exact issues_throw
  · exact issues_pure
  · exact issues_bind issues_require fun _ => issues_pure

theorem currentRelease_inspects : Inspects (currentRelease E) := by
  refine issues_bind (issues_total (looks ⟨rfl, rfl⟩)) ?_
  intro r
  rcases r with _ | _ | dir
  · exact issues_throw
  · exact issues_pure
  · refine issues_bind issues_require fun _ => issues_bind (issues_got (looks ⟨rfl, rfl⟩)) fun markers => ?_
    exact issues_bind issues_require fun _ => issues_bind issues_require fun _ => issues_pure

theorem verifySystemdProcess_inspects {dir : Path} : Inspects (verifySystemdProcess dir) :=
  issues_bind (issues_got (looks ⟨rfl, rfl⟩)) fun _ => issues_require

theorem readHealthyTargetVersion_inspects : Inspects readHealthyTargetVersion := issues_got (looks ⟨rfl, rfl⟩)

theorem verifyTarget_inspects {expected : String} : Inspects (verifyTarget expected) :=
  issues_bind (issues_got (looks ⟨rfl, rfl⟩)) fun _ => issues_require

theorem verifyManagedReleaseChecksums_inspects {dir : Path} : Inspects (verifyManagedReleaseChecksums dir) :=
  issues_orFail (looks ⟨rfl, rfl⟩)

theorem verifyRequiredPaths_inspects {e : String} {dir : Path} : Inspects (verifyRequiredPaths e dir) :=
  issues_orFail (looks ⟨rfl, rfl⟩)

theorem verifyRunningRelease_inspects {dir : Path} {version : String} : Inspects (verifyRunningRelease dir version) :=
  issues_bind (issues_attempt verifyManagedReleaseChecksums_inspects) fun _ =>
    issues_checkAll verifySystemdProcess_inspects verifyTarget_inspects

theorem verifyRemoteHealthyVersionExact_inspects {expected : String} :
    Inspects (verifyRemoteHealthyVersionExact expected) :=
  issues_bind readHealthyTargetVersion_inspects fun _ => issues_require

variable {stage : RemoteStage}

theorem verifyRemoteSystemdStagedArtifact_inspects : Inspects (verifyRemoteSystemdStagedArtifact stage) :=
  issues_bind issues_require fun _ => issues_bind (issues_orFail (looks ⟨rfl, rfl⟩)) fun _ =>
    issues_bind (issues_got (looks ⟨rfl, rfl⟩)) fun _ => issues_require

theorem verifyRemoteSystemdBaseline_inspects : Inspects (verifyRemoteSystemdBaseline E stage) := by
  refine issues_bind verifyRemoteSystemdStagedArtifact_inspects fun _ => issues_bind currentRelease_inspects fun r => ?_
  cases r with
  | none => exact issues_throw
  | some r =>
    refine issues_bind issues_require fun _ => issues_bind (issues_attempt verifyManagedReleaseChecksums_inspects) ?_
    intro _
    exact issues_checkAll verifySystemdProcess_inspects verifyRemoteHealthyVersionExact_inspects

variable {plan : ApplyPlan}

theorem systemdPreflight_inspects : Inspects (systemdPreflight E plan stage) :=
  issues_bind issues_require fun _ => issues_bind issues_require fun _ =>
    issues_bind verifyRemoteSystemdBaseline_inspects fun _ => issues_bind loadCheckpoint_inspects fun _ =>
      issues_bind issues_require fun _ => issues_pure

theorem requireCheckpoint_inspects {expected : Option UpdateCheckpoint} {e : String} :
    Inspects (requireCheckpoint E expected e) := by
  refine issues_bind (issues_attempt loadCheckpoint_inspects) ?_
  intro r
  cases r with
  | error _ => exact issues_throw
  | ok found => exact issues_require

theorem requireBaseline_inspects {e : String} : Inspects (requireBaseline E stage e) := by
  refine issues_bind (issues_attempt verifyRemoteSystemdBaseline_inspects) ?_
  intro r
  cases r with
  | error _ => exact issues_throw
  | ok _ => exact issues_pure

theorem healthyRelease_inspects : Inspects (healthyRelease E) := by
  refine issues_bind (issues_attempt currentRelease_inspects) ?_
  intro r
  rcases r with _ | _ | r
  · exact issues_pure
  · exact issues_pure
  · refine issues_bind (issues_attempt verifyRunningRelease_inspects) ?_
    intro h
    cases h <;> exact issues_pure

variable {c : UpdateCheckpoint}

theorem saveCheckpoint_onTarget {e : String} : OnTarget (saveCheckpoint e c) :=
  issues_orFail (acts rfl)

theorem clearCheckpoint_onTarget : OnTarget clearCheckpoint := issues_orFail (acts rfl)

theorem rollbackSystemd_onTarget {previous : Path} {version : String} : OnTarget (rollbackSystemd previous version) :=
  issues_bind issues_require fun _ => issues_bind (issues_orFail (acts rfl)) fun _ =>
    issues_bind (issues_orFail (acts rfl)) fun _ => issues_bind (issues_orFail (acts rfl)) fun _ =>
      issues_checkAll verifySystemdProcess_inspects.onTarget verifyTarget_inspects.onTarget

theorem verifyStarted_inspects {dir : Path} {start saved : Except String Unit} :
    Inspects (verifyStarted plan dir start saved) := by
  cases start with
  | error _ => exact issues_pure
  | ok _ => exact issues_attempt (issues_checkAll verifySystemdProcess_inspects verifyTarget_inspects)

theorem commitRemoteSystemdMutation_onTarget {new previous : Path} :
    OnTarget (commitRemoteSystemdMutation E plan stage new previous) := by
  refine issues_bind saveCheckpoint_onTarget fun _ => issues_bind (issues_orFail (acts rfl)) fun _ => ?_
  refine issues_bind (issues_attempt saveCheckpoint_onTarget) ?_
  intro stopped
  cases stopped with
  | error _ => exact issues_bind (issues_attempt (issues_orFail (acts rfl))) fun _ => issues_throw
  | ok _ =>
    refine issues_bind (issues_attempt (issues_orFail (acts rfl))) ?_
    intro switched
    cases switched with
    | error _ => exact issues_bind (issues_attempt (issues_orFail (acts rfl))) fun _ => issues_throw
    | ok _ =>
      refine issues_bind saveCheckpoint_onTarget fun _ => ?_
      refine issues_bind (issues_attempt (issues_orFail (acts rfl))) fun start => ?_
      refine issues_bind (issues_attempt saveCheckpoint_onTarget) fun saved => ?_
      refine issues_bind verifyStarted_inspects.onTarget ?_
      intro verified
      cases verified with
      | ok _ => exact issues_bind saveCheckpoint_onTarget fun _ => issues_pure
      | error _ =>
        refine issues_bind (issues_attempt rollbackSystemd_onTarget) ?_
        intro rolledBack
        cases rolledBack with
        | error _ => exact issues_throw
        | ok _ => exact issues_bind saveCheckpoint_onTarget fun _ => issues_pure

variable {checkpoint : Option UpdateCheckpoint}

theorem systemdMutation_onTarget : OnTarget (systemdMutation E plan stage checkpoint) := by
  refine issues_bind requireCheckpoint_inspects.onTarget fun _ => issues_bind requireBaseline_inspects.onTarget fun _ => ?_
  refine issues_bind requireCheckpoint_inspects.onTarget fun _ => issues_bind (issues_onlyIf clearCheckpoint_onTarget) fun _ => ?_
  cases stage.newRelease with
  | none => exact issues_throw
  | some new =>
    cases stage.previousRelease with
    | none => exact issues_throw
    | some previous =>
      refine issues_bind (issues_orFail (acts rfl)) fun _ => issues_bind (issues_orFail (acts rfl)) fun _ => ?_
      refine issues_bind verifyRequiredPaths_inspects.onTarget fun _ => ?_
      refine issues_bind requireCheckpoint_inspects.onTarget fun _ => ?_
      refine issues_bind requireBaseline_inspects.onTarget fun _ => ?_
      exact issues_bind requireCheckpoint_inspects.onTarget fun _ => commitRemoteSystemdMutation_onTarget

theorem rollbackFromCheckpoint_onTarget : OnTarget (rollbackFromCheckpoint E checkpoint) := by
  unfold rollbackFromCheckpoint
  split
  · exact issues_throw
  · exact issues_bind issues_require fun _ => issues_bind (issues_orFail (acts rfl)) fun _ =>
      issues_bind rollbackSystemd_onTarget fun _ => issues_bind clearCheckpoint_onTarget fun _ => issues_pure

theorem classifyRelease_onTarget {r : CurrentRelease} : OnTarget (classifyRelease E plan checkpoint r) := by
  unfold classifyRelease
  refine issues_ite ?_ (issues_ite issues_pure (issues_ite ?_ rollbackFromCheckpoint_onTarget))
  · exact issues_bind issues_require fun _ => issues_bind (issues_onlyIf clearCheckpoint_onTarget) fun _ => issues_pure
  · exact issues_bind clearCheckpoint_onTarget fun _ => issues_pure

theorem reconcileSystemd_onTarget : OnTarget (reconcileSystemd E plan) := by
  refine issues_bind loadCheckpoint_inspects.onTarget fun _ => issues_bind issues_require fun _ => ?_
  refine issues_bind healthyRelease_inspects.onTarget ?_
  intro r
  cases r with
  | some r => exact classifyRelease_onTarget
  | none => exact rollbackFromCheckpoint_onTarget

/-! ## Docker -/

theorem readVersionEnv_inspects : Inspects readVersionEnv := by
  refine issues_bind (issues_total (looks ⟨rfl, rfl⟩)) ?_
  intro r
  rcases r with _ | _ | file
  · exact issues_throw
  · exact issues_pure
  · exact issues_bind issues_require fun _ => issues_pure

theorem managedContainerID_inspects : Inspects managedContainerID := by
  refine issues_bind (issues_got (looks ⟨rfl, rfl⟩)) ?_
  intro ids
  rcases ids with _ | ⟨id, _ | _⟩
  · exact issues_throw
  · exact issues_pure
  · exact issues_throw

theorem containerImage_inspects {e id : String} : Inspects (containerImage e id) :=
  issues_bind (issues_got (looks ⟨rfl, rfl⟩)) fun _ => issues_pure

theorem managedRemoteCurrentVersion_inspects : Inspects (managedRemoteCurrentVersion E) := by
  refine issues_ite (issues_bind currentRelease_inspects ?_) (issues_bind readVersionEnv_inspects ?_)
  · intro r
    cases r with
    | none => exact issues_throw
    | some r => exact issues_bind issues_require fun _ => issues_pure
  · intro file
    cases file with
    | none => exact issues_bind issues_require fun _ => issues_pure
    | some file =>
      dsimp only
      split
      · exact issues_pure
      · exact issues_throw

theorem observedPin_inspects {file : Option EnvFile} : Inspects (observedPin E file) := by
  unfold observedPin
  cases file with
  | none => exact issues_pure
  | some f =>
    dsimp only
    split
    · exact issues_pure
    · exact issues_throw

theorem observeDockerMutationBaseline_inspects : Inspects (observeDockerMutationBaseline E) := by
  refine issues_bind readVersionEnv_inspects fun file => issues_bind observedPin_inspects fun pin => ?_
  refine issues_bind issues_require fun _ => issues_bind readHealthyTargetVersion_inspects fun reported => ?_
  refine issues_bind issues_require fun _ => issues_bind managedContainerID_inspects fun id => ?_
  refine issues_bind issues_require fun _ => issues_bind containerImage_inspects fun imageID => ?_
  refine issues_bind issues_require fun _ => issues_bind (issues_got (looks ⟨rfl, rfl⟩)) fun raw => ?_
  split
  · exact issues_throw
  · exact issues_bind issues_require fun _ => issues_pure

theorem verifyTrustedStagedDockerInputs_inspects : Inspects (verifyTrustedStagedDockerInputs E plan) :=
  issues_bind (issues_orFail (looks ⟨rfl, rfl⟩)) fun _ => issues_bind (issues_got (looks ⟨rfl, rfl⟩)) fun _ =>
    issues_bind issues_require fun _ => issues_bind (issues_got (looks ⟨rfl, rfl⟩)) fun _ =>
      issues_bind issues_require fun _ => issues_pure

theorem requireManagedVersion_inspects {planned : String} : Inspects (requireManagedVersion E planned) := by
  refine issues_bind (issues_attempt managedRemoteCurrentVersion_inspects) ?_
  intro r
  cases r with
  | error _ => exact issues_throw
  | ok _ => exact issues_require

theorem dockerPreflight_inspects : Inspects (dockerPreflight E plan stage) := by
  refine issues_bind issues_require fun _ => issues_bind (issues_onlyIf requireManagedVersion_inspects) fun _ => ?_
  refine issues_bind observeDockerMutationBaseline_inspects fun o => issues_bind issues_require fun _ => ?_
  refine issues_bind issues_require fun _ => issues_bind (issues_orFail (looks ⟨rfl, rfl⟩)) fun _ => ?_
  split
  · exact issues_throw
  · refine issues_bind issues_require fun _ => issues_bind verifyTrustedStagedDockerInputs_inspects fun _ => ?_
    exact issues_bind issues_require fun _ => issues_pure

theorem restoreVersionEnv_onTarget {original : EnvFile} {existed : Bool} : OnTarget (restoreVersionEnv original existed) :=
  issues_ite (issues_orFail (acts rfl)) (issues_orFail (acts rfl))

theorem dockerEnvPhase_onTarget {env : Bytes} {mode : ℕ} : OnTarget (dockerEnvPhase c env mode) :=
  issues_bind (issues_orFail (acts rfl)) fun _ => issues_bind saveCheckpoint_onTarget fun _ =>
    issues_bind saveCheckpoint_onTarget fun _ => issues_orFail (acts rfl)

theorem verifyComposed_inspects {newID : String} {saved : Except String Unit} :
    Inspects (verifyComposed plan newID saved) := by
  refine issues_bind (issues_attempt managedContainerID_inspects) ?_
  intro id
  cases saved with
  | error _ => exact issues_throw
  | ok _ =>
    cases id with
    | error _ => exact issues_throw
    | ok id =>
      exact issues_bind (issues_got (looks ⟨rfl, rfl⟩)) fun _ =>
        issues_bind issues_require fun _ => verifyTarget_inspects

theorem dockerStart_onTarget {newID : String} : OnTarget (dockerStart E plan c newID) := by
  refine issues_bind (issues_attempt (issues_orFail (acts rfl))) ?_
  intro r
  cases r with
  | error _ => exact issues_pure
  | ok _ =>
    exact issues_attempt (issues_bind (issues_attempt saveCheckpoint_onTarget) fun _ => verifyComposed_inspects.onTarget)

theorem verifyRolledBack_inspects {imageID version : String} : Inspects (verifyRolledBack imageID version) :=
  issues_bind managedContainerID_inspects fun _ => issues_bind containerImage_inspects fun _ =>
    issues_bind issues_require fun _ => verifyTarget_inspects

theorem dockerRollback_onTarget {o : DockerMutationObservation} : OnTarget (dockerRollback E o) := by
  refine issues_bind (issues_attempt (issues_orFail (acts rfl))) fun _ => ?_
  refine issues_bind (issues_attempt (issues_orFail (acts rfl))) fun _ => issues_bind issues_firstError fun _ => ?_
  refine issues_bind (issues_orFail (acts rfl)) fun _ => issues_bind (issues_orFail (acts rfl)) fun _ => ?_
  refine issues_bind (issues_orFail (acts rfl)) fun _ => issues_bind (issues_orFail (acts rfl)) fun _ => ?_
  exact verifyRolledBack_inspects.onTarget

theorem dockerServicePhase_onTarget {o : DockerMutationObservation} {newID : String} :
    OnTarget (dockerServicePhase E plan o c newID) := by
  refine issues_bind dockerStart_onTarget ?_
  intro started
  cases started with
  | ok _ => exact issues_bind saveCheckpoint_onTarget fun _ => issues_pure
  | error _ =>
    refine issues_bind (issues_attempt dockerRollback_onTarget) ?_
    intro rolledBack
    cases rolledBack with
    | error _ => exact issues_throw
    | ok _ => exact issues_bind saveCheckpoint_onTarget fun _ => issues_pure

theorem dockerRestore_onTarget {o : DockerMutationObservation} {mutated : Bool} : OnTarget (dockerRestore o mutated) := by
  refine issues_bind (issues_attempt restoreVersionEnv_onTarget) ?_
  intro restored
  cases restored with
  | error _ => exact issues_pure
  | ok _ =>
    exact issues_onlyIf (issues_bind (issues_attempt clearCheckpoint_onTarget) fun _ => issues_pure)

theorem dockerCutover_onTarget {p : DockerPrepared} : OnTarget (dockerCutover E plan p) := by
  refine issues_bind saveCheckpoint_onTarget fun _ => issues_bind (issues_attempt dockerEnvPhase_onTarget) ?_
  intro written
  cases written with
  | error _ => exact issues_bind dockerRestore_onTarget fun _ => issues_throw
  | ok _ =>
    refine issues_bind (issues_attempt dockerServicePhase_onTarget) ?_
    intro result
    cases result with
    | error _ => exact issues_bind dockerRestore_onTarget fun _ => issues_throw
    | ok _ => exact issues_bind (issues_onlyIf dockerRestore_onTarget) fun _ => issues_pure

theorem requireSameBaseline_inspects {b : DockerMutationBaseline} : Inspects (requireSameBaseline E b) := by
  refine issues_bind (issues_attempt observeDockerMutationBaseline_inspects) ?_
  intro r
  cases r with
  | error _ => exact issues_throw
  | ok _ => exact issues_require

theorem requireSameInputs_inspects {newID : String} : Inspects (requireSameInputs E plan stage newID) := by
  refine issues_bind (issues_attempt verifyTrustedStagedDockerInputs_inspects) ?_
  intro r
  cases r with
  | error _ => exact issues_throw
  | ok _ => exact issues_require

theorem dockerMutation_onTarget {p : DockerPrepared} : OnTarget (dockerMutation E plan stage p) :=
  issues_bind requireSameBaseline_inspects.onTarget fun _ => issues_bind requireSameInputs_inspects.onTarget fun _ =>
    issues_bind (issues_orFail (acts rfl)) fun _ => issues_bind (issues_orFail (acts rfl)) fun _ =>
      dockerCutover_onTarget

theorem runningImage_inspects : Inspects runningImage := by
  refine issues_bind (issues_attempt managedContainerID_inspects) ?_
  intro id
  cases id with
  | error _ => exact issues_pure
  | ok id =>
    refine issues_bind (issues_attempt containerImage_inspects) ?_
    intro imageID
    cases imageID <;> exact issues_pure

variable {imageID : String}

theorem runningRepoDigests_inspects : Inspects (runningRepoDigests imageID) :=
  issues_ite issues_pure (issues_total (looks ⟨rfl, rfl⟩))

theorem pinBase_inspects : Inspects (pinBase checkpoint) := by
  cases checkpoint with
  | none => exact issues_bind readVersionEnv_inspects fun _ => issues_pure
  | some c => exact issues_pure

theorem keepRequested_onTarget : OnTarget (keepRequested E plan checkpoint imageID) := by
  refine issues_bind pinBase_inspects.onTarget ?_
  intro base
  split
  · exact issues_throw
  · refine issues_bind (issues_orFail (acts rfl)) fun _ => ?_
    exact issues_bind (issues_onlyIf clearCheckpoint_onTarget) fun _ => issues_pure

theorem pinnedBundle_inspects : Inspects (pinnedBundle E) := by
  refine issues_bind (issues_attempt readVersionEnv_inspects) ?_
  intro r
  rcases r with _ | _ | file <;> exact issues_pure

theorem settleUntouched_inspects {raw : Option String} : Inspects (settleUntouched E plan imageID raw) :=
  issues_bind pinnedBundle_inspects fun _ => issues_bind (issues_attempt readHealthyTargetVersion_inspects) fun _ =>
    issues_ite issues_pure issues_throw

theorem keepPrevious_onTarget : OnTarget (keepPrevious c imageID) :=
  issues_bind restoreVersionEnv_onTarget fun _ => issues_bind clearCheckpoint_onTarget fun _ => issues_pure

theorem rollbackDocker_onTarget : OnTarget (rollbackDocker E plan c) := by
  refine issues_bind (issues_attempt (issues_orFail (acts rfl))) fun _ => ?_
  refine issues_bind (issues_attempt (issues_orFail (acts rfl))) fun _ => issues_bind issues_firstError fun _ => ?_
  refine issues_bind (issues_orFail (acts rfl)) fun _ => issues_bind (issues_orFail (acts rfl)) fun _ => ?_
  refine issues_bind (issues_orFail (acts rfl)) fun _ => issues_bind (issues_orFail (acts rfl)) fun _ => ?_
  refine issues_bind (issues_orFail (acts rfl)) fun _ => issues_bind verifyRolledBack_inspects.onTarget fun _ => ?_
  refine issues_bind (issues_onlyIf restoreVersionEnv_onTarget) fun _ => ?_
  exact issues_bind clearCheckpoint_onTarget fun _ => issues_pure

theorem settleDocker_onTarget {raw : Option String} : OnTarget (settleDocker E plan checkpoint imageID raw) := by
  cases checkpoint with
  | none => exact settleUntouched_inspects.onTarget
  | some c =>
    exact issues_bind (issues_attempt readHealthyTargetVersion_inspects.onTarget) fun _ =>
      issues_ite keepPrevious_onTarget rollbackDocker_onTarget

theorem reconcileDocker_onTarget : OnTarget (reconcileDocker E plan) := by
  refine issues_bind loadCheckpoint_inspects.onTarget fun checkpoint => issues_bind issues_require fun _ => ?_
  refine issues_bind runningImage_inspects.onTarget fun imageID => ?_
  refine issues_bind runningRepoDigests_inspects.onTarget fun raw => issues_ite ?_ settleDocker_onTarget
  refine issues_bind (issues_attempt verifyTarget_inspects.onTarget) ?_
  intro verified
  cases verified with
  | ok _ => exact keepRequested_onTarget
  | error _ => exact settleDocker_onTarget

/-! ## Requests -/

variable {plan : MutationPlan}

theorem verifyMutationPlanCurrentVersion_inspects : Inspects (verifyMutationPlanCurrentVersion E plan) :=
  issues_bind issues_require fun _ => requireManagedVersion_inspects

theorem validateExecutorStage_inspects : Inspects (validateExecutorStage E plan stage) :=
  issues_bind issues_require fun _ => issues_bind (issues_orFail (looks ⟨rfl, rfl⟩)) fun _ =>
    issues_bind (issues_onlyIf issues_require) fun _ => issues_onlyIf issues_require

theorem preflightRemoteSystemdStage_inspects {root : Path} :
    Inspects (preflightRemoteSystemdStage E plan root stage) := by
  refine issues_bind (issues_orFail (looks ⟨rfl, rfl⟩)) fun _ => issues_bind (issues_orFail (looks ⟨rfl, rfl⟩)) fun _ => ?_
  refine issues_bind (issues_orFail (looks ⟨rfl, rfl⟩)) fun _ => issues_bind (issues_got (looks ⟨rfl, rfl⟩)) fun _ => ?_
  refine issues_bind issues_require fun _ => issues_bind (issues_attempt currentRelease_inspects) ?_
  intro current
  rcases current with _ | _ | previous
  · exact issues_throw
  · exact issues_throw
  · refine issues_bind issues_require fun _ => issues_bind (issues_orFail (looks ⟨rfl, rfl⟩)) fun _ => ?_
    refine issues_bind (issues_orFail (looks ⟨rfl, rfl⟩)) fun _ => issues_bind verifyRequiredPaths_inspects fun _ => ?_
    refine issues_bind (issues_attempt verifySystemdProcess_inspects) fun _ => ?_
    refine issues_bind (issues_attempt verifyTarget_inspects) fun _ => issues_bind (issues_attempt issues_firstError) ?_
    intro healthy
    cases healthy with
    | error _ => exact issues_throw
    | ok _ => exact issues_pure

theorem prepareSystemdStage_inspects {root : Path} : Inspects (prepareSystemdStage E plan root) :=
  issues_bind (issues_got (looks ⟨rfl, rfl⟩)) fun _ => issues_bind issues_require fun _ =>
    preflightRemoteSystemdStage_inspects

theorem prepareDockerStage_inspects {root : Path} : Inspects (prepareDockerStage E plan root) := by
  refine issues_bind (issues_got (looks ⟨rfl, rfl⟩)) fun _ => issues_bind issues_require fun _ => ?_
  refine issues_bind (issues_orFail (looks ⟨rfl, rfl⟩)) fun _ => issues_bind (issues_orFail (looks ⟨rfl, rfl⟩)) fun _ => ?_
  refine issues_bind (issues_orFail (looks ⟨rfl, rfl⟩)) fun _ => ?_
  refine issues_bind observeDockerMutationBaseline_inspects fun _ => issues_bind issues_require fun _ => ?_
  refine issues_bind (issues_orFail (looks ⟨rfl, rfl⟩)) fun _ => issues_bind (issues_orFail (looks ⟨rfl, rfl⟩)) fun _ => ?_
  refine issues_bind (issues_got (looks ⟨rfl, rfl⟩)) fun _ => issues_bind issues_require fun _ => ?_
  exact issues_bind (issues_got (looks ⟨rfl, rfl⟩)) fun _ => issues_bind issues_require fun _ => issues_pure

theorem prepareModeStage_inspects {root : Path} : Inspects (prepareModeStage E plan root) :=
  issues_ite prepareSystemdStage_inspects prepareDockerStage_inspects

theorem prepareExecutorStage_inspects : Inspects (prepareExecutorStage E plan) := by
  refine issues_bind verifyMutationPlanCurrentVersion_inspects fun _ => ?_
  refine issues_bind (issues_orFail (looks ⟨rfl, rfl⟩)) fun _ => ?_
  refine issues_bind prepareModeStage_inspects fun _ => ?_
  exact issues_bind (issues_orFail (looks ⟨rfl, rfl⟩)) fun _ => issues_pure

end AutostreamUpdater.Software
