/-
Software updates of a systemd target: reading the current release, the baseline an apply insists on, the cutover with its
checkpoint after every durable step, the rollback, and the reconcile that decides what an interrupted cutover became.

`applyRemoteStagedSystemd` is split at its gate: `systemdPreflight` is the part before it, `systemdMutation` the part
after it.
-/
import AutostreamUpdater.Software.Host

namespace AutostreamUpdater.Software

open Contract Base

variable (E : SoftwareEnv)

variable (plan : ApplyPlan) (stage : RemoteStage) (checkpoint : Option UpdateCheckpoint)

/-! ## Observations -/

/-- what `currentRelease` returns of an existing link -/
structure CurrentRelease where
  dir : Path
  digest : String
  version : String
  deriving DecidableEq, Repr

/-- `currentRelease` -/
def currentRelease : Soft (Option CurrentRelease) := do
  match ← Fallible.total (issue .readLink) with
  | .error _ => throw "current_link must be a symlink managed by autostream-updater"
  | .ok none => pure none
  | .ok (some dir) => do
    Fallible.require (pathWithin E.target.releaseRoot dir) "current_link target is outside release_root"
    let markers ← got "current release markers are invalid" (issue (.readMarkers dir))
    let digest := toLower (trimSpace markers.1)
    let version := trimSpace markers.2
    Fallible.require (digest.toList.length == 64 && versionPattern version) "current release markers are invalid"
    Fallible.require (digest.toList.all isHex) "current release digest marker is invalid"
    pure (some ⟨dir, digest, version⟩)

/-- `verifySystemdProcess` -/
def verifySystemdProcess (dir : Path) : Soft Unit := do
  let running ← got "systemd service has no MainPID" (issue .mainProcess)
  Fallible.require (running == dir) "systemd MainPID is not executing the selected release binary"

/-- `readHealthyTargetVersion` -/
def readHealthyTargetVersion : Soft String := got "health endpoint is unavailable" (issue .probe)

/-- `verifyTarget`: polls until the reported version fits or the deadline passes -/
def verifyTarget (expected : String) : Soft Unit := do
  let actual ← got "post-update verification failed" (issue .probe)
  Fallible.require (versionsEqual actual expected) "post-update verification failed"

/-- `verifyManagedReleaseChecksums` -/
def verifyManagedReleaseChecksums (dir : Path) : Soft Unit :=
  orFail "inner checksum mismatch" (issue (.verifyChecksums dir))

/-- the binary and the required paths of a release exist -/
def verifyRequiredPaths (e : String) (dir : Path) : Soft Unit := orFail e (issue (.requiredPaths dir))

/-- checksums, process and reported version of a release; all three are looked at -/
def verifyRunningRelease (dir : Path) (version : String) : Soft Unit := do
  let checksums ← attempt (verifyManagedReleaseChecksums dir)
  let process ← attempt (verifySystemdProcess dir)
  let health ← attempt (verifyTarget version)
  firstError [checksums, process, health]

/-- `verifyRemoteHealthyVersionExact` -/
def verifyRemoteHealthyVersionExact (expected : String) : Soft Unit := do
  let actual ← readHealthyTargetVersion
  Fallible.require (trimSpace actual == expected) "managed target health version does not exactly match its release marker"

/-! ## The baseline of an apply -/

/-- `verifyRemoteSystemdStagedArtifact` -/
def verifyRemoteSystemdStagedArtifact : Soft Unit := do
  Fallible.require (versionPattern stage.expectedVersion) "staged systemd artifact binding is invalid"
  orFail "staged systemd artifact integrity changed" (check (.stagedArtifact stage.rootDir))
  let output ← got "staged systemd binary smoke check changed" (issue (.smoke stage.rootDir))
  Fallible.require (versionMatches output stage.expectedVersion) "staged systemd binary smoke check changed"

/-- the current release is the one recorded at staging -/
def isStagedPrevious (r : CurrentRelease) : Bool :=
  stage.previousRelease == some r.dir && normalizeDigest r.digest == normalizeDigest stage.previousDigest &&
    r.version == stage.previousVersion

/-- `verifyRemoteSystemdBaseline` -/
def verifyRemoteSystemdBaseline : Soft Unit := do
  verifyRemoteSystemdStagedArtifact stage
  match ← currentRelease E with
  | none => throw "systemd target changed after staging"
  | some r => do
    Fallible.require (isStagedPrevious stage r) "systemd target changed after staging"
    let checksums ← attempt (verifyManagedReleaseChecksums r.dir)
    let process ← attempt (verifySystemdProcess r.dir)
    let health ← attempt (verifyRemoteHealthyVersionExact r.version)
    firstError [checksums, process, health]

/-- `applyRemoteStagedSystemdWithVerifier` up to its gate; returns the checkpoint it found -/
def systemdPreflight : Soft (Option UpdateCheckpoint) := do
  Fallible.require (plan.stageDir == stage.rootDir && plan.artifactDigest.toList.length == 64)
    "remote systemd stage is incomplete"
  Fallible.require (requirePlannedCurrentVersion plan.currentVersion stage.previousVersion)
    "managed target current version does not match the immutable plan"
  verifyRemoteSystemdBaseline E stage
  let checkpoint ← loadCheckpoint E
  Fallible.require (checkpoint.all UpdateCheckpoint.over) "an interrupted systemd checkpoint requires reconcile"
  pure checkpoint

/-! ## The cutover -/

/-- `rollbackSystemd` -/
def rollbackSystemd (previous : Path) (previousVersion : String) : Soft Unit := do
  Fallible.require (versionPattern previousVersion) "no valid previous managed release is available"
  orFail "stop failed during rollback" (issue (.systemctl .stop))
  orFail "switch current link" (issue (.switchLink previous))
  orFail "start systemd service" (issue (.systemctl .start))
  let process ← attempt (verifySystemdProcess previous)
  let health ← attempt (verifyTarget previousVersion)
  firstError [process, health]

/-- the checkpoint of a cutover, in its first phase -/
def systemdCheckpoint : UpdateCheckpoint where
  jobID := plan.jobID
  targetID := E.target.targetID
  deploymentMode := modeSystemd
  phase := .prepared
  targetVersion := plan.targetVersion
  targetDigest := normalizeDigest plan.artifactDigest
  newRelease := stage.newRelease
  previousRelease := stage.previousRelease
  previousDigest := normalizeDigest stage.previousDigest
  previousVersion := stage.previousVersion

/-- the result of a cutover -/
def systemdResult (status : ApplyStatus) : ApplyResult where
  status := status
  artifactDigest := normalizeDigest plan.artifactDigest
  previousDigest := normalizeDigest stage.previousDigest
  rolledBack := status == .rolledBack
  message := if status == .rolledBack then "systemd update was rolled back" else ""

/-- the started service runs the new release; every check is made once the start succeeded -/
def verifyStarted (newRelease : Path) (start checkpoint : Except String Unit) : Soft (Except String Unit) :=
  match start with
  | .error e => pure (.error e)
  | .ok _ => attempt do
    let process ← attempt (verifySystemdProcess newRelease)
    let health ← attempt (verifyTarget plan.targetVersion)
    firstError [checkpoint, process, health]

/-- `commitRemoteSystemdMutation` -/
def commitRemoteSystemdMutation (newRelease previousRelease : Path) : Soft ApplyResult := do
  let checkpoint := systemdCheckpoint E plan stage
  saveCheckpoint "persist systemd update checkpoint" checkpoint
  orFail "stop systemd service" (issue (.systemctl .stop))
  match ← attempt (saveCheckpoint "persist stopped systemd checkpoint" { checkpoint with phase := .stopped }) with
  | .error e => do
    let _ ← attempt (orFail "start systemd service" (issue (.systemctl .start)))
    throw e
  | .ok _ => do
    match ← attempt (orFail "switch current link" (issue (.switchLink newRelease))) with
    | .error e => do
      let _ ← attempt (orFail "start systemd service" (issue (.systemctl .start)))
      throw e
    | .ok _ => do
      saveCheckpoint "persist switched systemd checkpoint" { checkpoint with phase := .switched }
      let start ← attempt (orFail "start systemd service" (issue (.systemctl .start)))
      let saved ← attempt (saveCheckpoint "persist started systemd checkpoint" { checkpoint with phase := .started })
      match ← verifyStarted plan newRelease start saved with
      | .ok _ => do
        saveCheckpoint "persist terminal systemd checkpoint" { checkpoint with phase := .succeeded }
        pure (systemdResult plan stage .succeeded)
      | .error _ => do
        match ← attempt (rollbackSystemd previousRelease stage.previousVersion) with
        | .error _ => throw "systemd update and rollback failed"
        | .ok _ => do
          saveCheckpoint "persist rolled-back systemd checkpoint" { checkpoint with phase := .rolledBack }
          pure (systemdResult plan stage .rolledBack)

/-- the checkpoint is still the one found before -/
def requireCheckpoint (expected : Option UpdateCheckpoint) (e : String) : Soft Unit := do
  match ← attempt (loadCheckpoint E) with
  | .error _ => throw e
  | .ok found => Fallible.require (found == expected) e

/-- the baseline still holds -/
def requireBaseline (e : String) : Soft Unit := do
  match ← attempt (verifyRemoteSystemdBaseline E stage) with
  | .error _ => throw e
  | .ok _ => pure ()

/-- `applyRemoteStagedSystemdWithVerifier` behind its gate -/
def systemdMutation : Soft ApplyResult := do
  requireCheckpoint E checkpoint "systemd checkpoint changed while consuming the mutation grant"
  requireBaseline E stage "systemd target changed while consuming the mutation grant"
  requireCheckpoint E checkpoint "systemd checkpoint changed while verifying the mutation baseline"
  onlyIf checkpoint.isSome clearCheckpoint
  match stage.newRelease, stage.previousRelease with
  | some newRelease, some previousRelease => do
    orFail "install release" (issue (.installRelease plan.stageDir newRelease plan.artifactDigest plan.targetVersion))
    orFail "installed systemd release integrity check failed" (issue (.verifyChecksums newRelease))
    verifyRequiredPaths "installed systemd release is incomplete" newRelease
    requireCheckpoint E none "systemd checkpoint changed before service mutation"
    requireBaseline E stage "systemd target changed before service mutation"
    requireCheckpoint E none "systemd checkpoint changed during final baseline verification"
    commitRemoteSystemdMutation E plan stage newRelease previousRelease
  -- the staged paths are absolute ones: `validateExecutorStage` checked them
  | _, _ => throw "installed systemd release is incomplete"

/-! ## Reconcile -/

/-- the checkpoint belongs to the recovered job -/
def UpdateCheckpoint.recoversSystemd (c : UpdateCheckpoint) : Bool :=
  c.jobID == plan.jobID && c.targetVersion == plan.targetVersion && c.newRelease.isSome && c.previousRelease.isSome &&
    requirePlannedCurrentVersion plan.currentVersion c.previousVersion

/-- `systemdRequestedReleaseDigestMatches` -/
def systemdRequestedReleaseDigestMatches (actual planned : String) : Bool :=
  checkpoint.isSome || normalizeDigest actual == normalizeDigest planned

/-- the release runs the requested version -/
def runsRequested (r : CurrentRelease) : Bool :=
  versionsEqual r.version plan.targetVersion && systemdRequestedReleaseDigestMatches checkpoint r.digest plan.artifactDigest

/-- the release is the one the checkpoint installs -/
def UpdateCheckpoint.isNew (c : UpdateCheckpoint) (r : CurrentRelease) : Bool :=
  c.newRelease == some r.dir && normalizeDigest r.digest == c.targetDigest

/-- the release is the one the checkpoint falls back to -/
def UpdateCheckpoint.isPrevious (c : UpdateCheckpoint) (r : CurrentRelease) : Bool :=
  c.previousRelease == some r.dir && normalizeDigest r.digest == c.previousDigest &&
    versionsEqual r.version c.previousVersion

/-- the release is the one the plan started from -/
def runsPlanned (r : CurrentRelease) : Bool :=
  versionPattern (trimSpace plan.currentVersion) && r.version == trimSpace plan.currentVersion

/-- the current release, if its checksums, its process and its reported version are in order -/
def healthyRelease : Soft (Option CurrentRelease) := do
  match ← attempt (currentRelease E) with
  | .ok (some r) => do
    match ← attempt (verifyRunningRelease r.dir r.version) with
    | .ok _ => pure (some r)
    | .error _ => pure none
  | _ => pure none

/-- the rollback an interrupted cutover ends with -/
def rollbackFromCheckpoint : Soft ApplyResult :=
  match checkpoint.bind fun c => c.previousRelease.map fun p => (c, p) with
  | none => throw "interrupted systemd update has no trustworthy rollback checkpoint"
  | some (c, previous) => do
    Fallible.require (pathWithin E.target.releaseRoot previous && c.previousDigest != "" && versionPattern c.previousVersion)
      "interrupted systemd update has no trustworthy rollback checkpoint"
    orFail "checkpoint rollback release failed integrity validation" (issue (.verifyChecksums previous))
    rollbackSystemd previous c.previousVersion
    clearCheckpoint
    pure { status := .rolledBack, artifactDigest := c.targetDigest, previousDigest := c.previousDigest, rolledBack := true
           message := "interrupted systemd cutover was rolled back from its durable checkpoint" }

/-- what reconcile makes of a healthy release -/
def classifyRelease (r : CurrentRelease) : Soft ApplyResult :=
  if runsRequested plan checkpoint r then do
    Fallible.require (checkpoint.all fun c => c.isNew r) "running target release does not match the durable checkpoint"
    onlyIf checkpoint.isSome clearCheckpoint
    pure { status := .succeeded, artifactDigest := normalizeDigest r.digest
           message := "interrupted update is running the requested release" }
  else if checkpoint.isNone && runsPlanned plan r then
    pure { status := .rolledBack, previousDigest := normalizeDigest r.digest, rolledBack := true
           message := "apply had not changed the verified previous managed release" }
  else if checkpoint.any fun c => c.isPrevious r then do
    clearCheckpoint
    pure { status := .rolledBack, previousDigest := normalizeDigest r.digest, rolledBack := true
           message := "previous managed release is healthy" }
  else rollbackFromCheckpoint E checkpoint

/-- `reconcileSystemdWithGate`, whose gate was passed before -/
def reconcileSystemd : Soft ApplyResult := do
  let checkpoint ← loadCheckpoint E
  Fallible.require (checkpoint.all fun c => c.recoversSystemd plan) "systemd checkpoint does not match the recovered job"
  match ← healthyRelease E with
  | some r => classifyRelease E plan checkpoint r
  | none => rollbackFromCheckpoint E checkpoint

end AutostreamUpdater.Software
