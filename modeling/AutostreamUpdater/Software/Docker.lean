/-
Software updates of a Docker target: the baseline that is observed before and after the grant, the cutover of version pin
and container with its checkpoints and its deferred restore, and the reconcile of an interrupted one.

`applyDockerWithListenerStore` runs here as the executor calls it: with a staged image, a baseline and a gate. It is split
at the gate into `dockerPreflight` and `dockerMutation`.
-/
import AutostreamUpdater.Software.Systemd

namespace AutostreamUpdater.Software

open Contract Base

variable (E : SoftwareEnv)

variable (plan : ApplyPlan) (stage : RemoteStage) (checkpoint : Option UpdateCheckpoint)

/-! ## Observations -/

/-- `readVersionEnv`: none when the file does not exist -/
def readVersionEnv : Soft (Option EnvFile) := do
  match ← Fallible.total (issue .readVersionEnv) with
  | .error _ => throw "version_env_file must be a small regular file"
  | .ok none => pure none
  | .ok (some file) => do
    Fallible.require (file.data.length ≤ maxVersionEnvSize) "version_env_file must be a small regular file"
    pure (some file)

/-- content and mode of the file, or of one that is not there yet -/
def envOrEmpty (file : Option EnvFile) : EnvFile := file.getD ⟨[], 0o600⟩

/-- `managedContainerID` -/
def managedContainerID : Soft String := do
  match ← got "expected exactly one managed Docker container" (issue .containers) with
  | [id] => pure id
  | _ => throw "expected exactly one managed Docker container"

/-- the image of a container, in lower case -/
def containerImage (e id : String) : Soft String := do
  let out ← got e (issue (.inspectContainer id))
  pure (toLower (trimSpace out))

/-- `managedRemoteCurrentVersion` -/
def managedRemoteCurrentVersion : Soft String := do
  if E.target.deploymentMode == modeSystemd then
    match ← currentRelease E with
    | some r => do
      Fallible.require (versionPattern r.version) "managed systemd current release is unavailable"
      pure r.version
    | none => throw "managed systemd current release is unavailable"
  else
    match ← readVersionEnv with
    | some file => match parseVersionEnvPin file.data E.target.imageVariable with
      | some pin => pure pin.1
      | none => throw "Docker version pin is invalid"
    | none => do
      let version := trimSpace E.target.currentVersion
      Fallible.require (versionPattern version) "Docker current version is unavailable"
      pure version

/-- what a baseline was observed with -/
structure DockerMutationObservation where
  baseline : DockerMutationBaseline
  versionEnv : EnvFile
  deriving DecidableEq, Repr

/-- the pinned bundle and manifest, or the configured bundle when there is no pin yet -/
def observedPin (file : Option EnvFile) : Soft (String × String) :=
  match file with
  | none => pure (trimSpace E.target.currentVersion, "")
  | some f => match parseVersionEnvPin f.data E.target.imageVariable with
    | some pin => pure pin
    | none => throw "version_env_file must contain a canonical bundle@sha256 pin"

/-- `observeDockerMutationBaseline` -/
def observeDockerMutationBaseline : Soft DockerMutationObservation := do
  let file ← readVersionEnv
  let pin ← observedPin E file
  Fallible.require (versionPattern pin.1) "current Docker bundle version is unavailable"
  let reported ← readHealthyTargetVersion
  Fallible.require (versionPattern (trimSpace reported)) "current Docker source version is unavailable"
  let id ← managedContainerID
  Fallible.require (containerIDValid id) "managed compose service has no stable running container"
  let imageID ← containerImage "current container image ID is not a canonical SHA256 digest" id
  Fallible.require (digestPattern imageID) "current container image ID is not a canonical SHA256 digest"
  let raw ← got "could not resolve the current image repository digest" (issue (.inspectRepoDigests imageID))
  match repositoryDigest (E.decodeStrings raw) E.target.imageRepo with
  | none => throw "current image does not have a digest for the fixed image repository"
  | some repoDigest => do
    let env := envOrEmpty file
    let baseline : DockerMutationBaseline :=
      { versionEnvSHA256 := E.sha256 env.data, versionEnvMode := env.mode, versionEnvExisted := file.isSome
        bundleVersion := pin.1, manifestDigest := toLower (if file.isSome then pin.2 else repoDigest)
        sourceVersion := trimSpace reported, containerID := id, imageID := imageID, repositoryDigest := toLower repoDigest }
    Fallible.require baseline.validate "Docker rollback baseline is invalid"
    pure ⟨baseline, env⟩

/-- the reference of the requested image -/
def digestRef : String := E.target.imageRepo ++ "@" ++ plan.expectedPlatformDigest

/-- `verifyTrustedStagedDockerInputsWithOwnerCheck` -/
def verifyTrustedStagedDockerInputs : Soft String := do
  orFail "trusted frozen compose is invalid" (check (.frozenCompose (digestRef E plan)))
  let out ← got "staged Docker image ID is not a canonical SHA256 digest" (issue (.inspectImage (digestRef E plan)))
  let newID := toLower (trimSpace out)
  Fallible.require (digestPattern newID) "staged Docker image ID is not a canonical SHA256 digest"
  let raw ← got "staged Docker image RepoDigest does not match trusted release manifest"
    (issue (.inspectRepoDigests (digestRef E plan)))
  Fallible.require (repositoryHasDigest (E.decodeStrings raw) E.target.imageRepo plan.expectedPlatformDigest)
    "staged Docker image RepoDigest does not match trusted release manifest"
  pure newID

/-- `restoreVersionEnv` -/
def restoreVersionEnv (original : EnvFile) (existed : Bool) : Soft Unit :=
  if existed then orFail "restore version env" (issue (.writeVersionEnv original))
  else orFail "remove version env" (issue .removeVersionEnv)

/-! ## The cutover -/

/-- what `applyDockerWithListenerStore` has settled when it reaches its gate -/
structure DockerPrepared where
  observation : DockerMutationObservation
  newID : String
  newEnv : Bytes
  deriving DecidableEq, Repr

/-- the planned current version is the managed one -/
def requireManagedVersion (planned : String) : Soft Unit := do
  match ← attempt (managedRemoteCurrentVersion E) with
  | .error _ => throw "could not verify the planned current version"
  | .ok current =>
    Fallible.require (requirePlannedCurrentVersion planned current)
      "managed target current version does not match the immutable plan"

/-- `applyDockerWithListenerStore` up to its gate -/
def dockerPreflight : Soft DockerPrepared := do
  Fallible.require (versionPattern plan.expectedVersion && digestPattern plan.expectedImageDigest &&
    digestPattern plan.expectedPlatformDigest) "trusted Docker release metadata is missing"
  onlyIf (trimSpace plan.currentVersion != "") (requireManagedVersion E (trimSpace plan.currentVersion))
  let observation ← observeDockerMutationBaseline E
  Fallible.require (stage.dockerBaseline.all fun staged => staged.validate && staged == observation.baseline)
    "Docker target changed after staging"
  Fallible.require (requirePlannedCurrentVersion plan.currentVersion observation.baseline.bundleVersion)
    "managed target current version does not match the immutable plan"
  orFail "write Docker override" (check (.writeOverride (digestRef E plan)))
  match updateVersionEnv observation.versionEnv.data E.target.imageVariable
      (plan.targetVersion ++ "@" ++ plan.expectedImageDigest) with
  | none => throw "version env update is invalid"
  | some newEnv => do
    Fallible.require (digestPattern stage.imageID) "staged Docker image binding is missing"
    let newID ← verifyTrustedStagedDockerInputs E plan
    Fallible.require (newID == normalizeDigest stage.imageID) "staged Docker image ID changed after staging"
    pure ⟨observation, newID, newEnv⟩

variable (o : DockerMutationObservation)

/-- the checkpoint of a cutover, in its first phase -/
def dockerCheckpoint : UpdateCheckpoint where
  jobID := plan.jobID
  targetID := E.target.targetID
  deploymentMode := modeDocker
  phase := .prepared
  targetVersion := plan.targetVersion
  targetDigest := plan.expectedImageDigest
  targetPlatform := plan.expectedPlatformDigest
  targetSourceVersion := plan.expectedVersion
  previousDigest := o.baseline.imageID
  previousVersion := o.baseline.sourceVersion
  previousImageID := o.baseline.imageID
  previousRepoDigest := o.baseline.repositoryDigest
  previousBundleVersion := o.baseline.bundleVersion
  previousManifestDigest := o.baseline.manifestDigest
  versionEnvExisted := o.baseline.versionEnvExisted
  versionEnvMode := o.versionEnv.mode
  previousVersionEnv := o.versionEnv.data

/-- the result of a cutover -/
def dockerResult (status : ApplyStatus) (message : String) : ApplyResult where
  status := status
  artifactDigest := normalizeDigest plan.expectedImageDigest
  previousDigest := normalizeDigest o.baseline.imageID
  rolledBack := status == .rolledBack
  message := message

/-- from the pin to the point where the service may have changed -/
def dockerEnvPhase (checkpoint : UpdateCheckpoint) (newEnv : Bytes) (mode : ℕ) : Soft Unit := do
  orFail "write version env" (issue (.writeVersionEnv ⟨newEnv, mode⟩))
  saveCheckpoint "persist Docker env checkpoint" { checkpoint with phase := .envWritten }
  saveCheckpoint "persist Docker starting checkpoint" { checkpoint with phase := .starting }
  orFail "Docker frozen model changed" (check .validateFrozen)

/-- the started container runs the staged image and reports the expected version -/
def verifyComposed (newID : String) (saved : Except String Unit) : Soft Unit := do
  let id ← attempt managedContainerID
  match saved, id with
  | .error e, _ => throw e
  | .ok _, .error _ => throw "updated compose service has no running container"
  | .ok _, .ok id => do
    let out ← got "updated container is not running the trusted image ID" (issue (.inspectContainer id))
    Fallible.require (trimSpace out == newID) "updated container is not running the trusted image ID"
    verifyTarget plan.expectedVersion

/-- `compose up` of the new image, with everything that is checked afterwards -/
def dockerStart (checkpoint : UpdateCheckpoint) (newID : String) : Soft (Except String Unit) := do
  match ← attempt (orFail "compose up" (issue (.composeUp (digestRef E plan)))) with
  | .error e => pure (.error e)
  | .ok _ => attempt do
    let saved ← attempt (saveCheckpoint "persist started Docker checkpoint" { checkpoint with phase := .started })
    verifyComposed plan newID saved

/-- the pin a rollback writes: the previous file, or a pin to the previous bundle when there was none -/
def rollbackEnv (existed : Bool) (previous : EnvFile) (bundle manifest : String) : EnvFile :=
  if existed then previous
  else ⟨(updateVersionEnv [] E.target.imageVariable (bundle ++ "@" ++ manifest)).getD [], previous.mode⟩

/-- the container runs the image and reports the version -/
def verifyRolledBack (imageID version : String) : Soft Unit := do
  let id ← managedContainerID
  let image ← containerImage "rollback container is not running the preserved image ID" id
  Fallible.require (image == imageID) "rollback container is not running the preserved image ID"
  verifyTarget version

/-- the rollback of a failed cutover -/
def dockerRollback : Soft Unit := do
  let b := o.baseline
  let env ← attempt (orFail "write version env"
    (issue (.writeVersionEnv (rollbackEnv E b.versionEnvExisted o.versionEnv b.bundleVersion b.manifestDigest))))
  let override ← attempt (orFail "write Docker override" (check (.writeOverride b.imageID)))
  firstError [env, override]
  orFail "compose configuration validation failed" (check (.composeConfig b.imageID))
  orFail "freeze validated compose model" (check .freeze)
  orFail "Docker frozen model changed" (check .validateFrozen)
  orFail "compose up" (issue (.composeUp b.imageID))
  verifyRolledBack b.imageID b.sourceVersion

/-- the cutover once the service may have changed -/
def dockerServicePhase (checkpoint : UpdateCheckpoint) (newID : String) :
    Soft ApplyResult := do
  match ← dockerStart E plan checkpoint newID with
  | .ok _ => do
    saveCheckpoint "updated Docker target is healthy but terminal checkpoint failed" { checkpoint with phase := .succeeded }
    pure (dockerResult plan o .succeeded "")
  | .error e => do
    match ← attempt (dockerRollback E o) with
    | .error _ => throw "new image failed; rollback failed"
    | .ok _ => do
      saveCheckpoint "rollback succeeded but terminal checkpoint failed" { checkpoint with phase := .rolledBack }
      pure (dockerResult plan o .rolledBack e)

/-- the deferred restore: the old pin, and no checkpoint if the service was never touched -/
def dockerRestore (serviceMayHaveMutated : Bool) : Soft Unit := do
  match ← attempt (restoreVersionEnv o.versionEnv o.baseline.versionEnvExisted) with
  | .error _ => pure ()
  | .ok _ => onlyIf (!serviceMayHaveMutated) do
    let _ ← attempt clearCheckpoint

/-- the cutover from its first checkpoint on -/
def dockerCutover (p : DockerPrepared) : Soft ApplyResult := do
  let o := p.observation
  let checkpoint := dockerCheckpoint E plan o
  saveCheckpoint "persist Docker update checkpoint" checkpoint
  match ← attempt (dockerEnvPhase checkpoint p.newEnv o.versionEnv.mode) with
  | .error e => do
    dockerRestore o false
    throw e
  | .ok _ => do
    match ← attempt (dockerServicePhase E plan o checkpoint p.newID) with
    | .error e => do
      dockerRestore o true
      throw e
    | .ok result => do
      onlyIf (result.status != .succeeded) (dockerRestore o true)
      pure result

/-- the baseline is still the one observed before the grant -/
def requireSameBaseline (baseline : DockerMutationBaseline) : Soft Unit := do
  match ← attempt (observeDockerMutationBaseline E) with
  | .error _ => throw "Docker target changed while consuming the mutation grant"
  | .ok afterGrant =>
    Fallible.require (baseline == afterGrant.baseline) "Docker target changed while consuming the mutation grant"

/-- the staged image is still the one verified before the grant -/
def requireSameInputs (newID : String) : Soft Unit := do
  match ← attempt (verifyTrustedStagedDockerInputs E plan) with
  | .error _ => throw "staged Docker inputs changed while consuming the mutation grant"
  | .ok afterGrantID =>
    Fallible.require (afterGrantID == newID && afterGrantID == normalizeDigest stage.imageID)
      "staged Docker inputs changed while consuming the mutation grant"

/-- `applyDockerWithListenerStore` behind its gate -/
def dockerMutation (p : DockerPrepared) : Soft ApplyResult := do
  requireSameBaseline E p.observation.baseline
  requireSameInputs E plan stage p.newID
  orFail "trusted frozen compose port mapping is unavailable" (check (.publishedPorts p.observation.baseline.containerID))
  orFail "freeze validated compose model" (check .freeze)
  dockerCutover E plan p

/-! ## Reconcile -/

/-- the checkpoint belongs to the recovered job -/
def UpdateCheckpoint.recoversDocker (c : UpdateCheckpoint) : Bool :=
  c.jobID == plan.jobID && c.targetVersion == plan.targetVersion && c.targetDigest == plan.expectedImageDigest &&
    c.targetPlatform == plan.expectedPlatformDigest && c.targetSourceVersion == plan.expectedVersion &&
    versionPattern c.targetSourceVersion && digestPattern c.previousImageID && versionPattern c.previousBundleVersion &&
    digestPattern c.previousManifestDigest && requirePlannedCurrentVersion plan.currentVersion c.previousBundleVersion

/-- the image of the managed container, or the empty text -/
def runningImage : Soft String := do
  match ← attempt managedContainerID with
  | .error _ => pure ""
  | .ok id => do
    match ← attempt (containerImage "inspect container" id) with
    | .error _ => pure ""
    | .ok imageID => pure (if digestPattern imageID then imageID else "")

/-- the repository digests of the running image: none when they could not be read -/
def runningRepoDigests (imageID : String) : Soft (Option String) :=
  if imageID == "" then pure (some "") else Fallible.total (issue (.inspectRepoDigests imageID))

/-- the decoded repository digests -/
def decodedDigests (raw : Option String) : Option (List String) := raw.bind E.decodeStrings

/-- the file the pin is written into: the checkpoint's copy, or the file as it is -/
def pinBase : Soft EnvFile :=
  match checkpoint with
  | some c => pure ⟨c.previousVersionEnv, checkpointMode checkpoint⟩
  | none => do
    let file ← readVersionEnv
    pure (envOrEmpty file)

/-- the requested image runs: its pin is written again -/
def keepRequested (imageID : String) : Soft ApplyResult := do
  let base ← pinBase checkpoint
  match updateVersionEnv base.data E.target.imageVariable (plan.targetVersion ++ "@" ++ plan.expectedImageDigest) with
  | none => throw "requested image is running but its durable version pin could not be restored"
  | some pinned => do
    orFail "requested image is running but its durable version pin could not be restored"
      (issue (.writeVersionEnv ⟨pinned, base.mode⟩))
    onlyIf checkpoint.isSome clearCheckpoint
    pure { status := .succeeded, artifactDigest := normalizeDigest plan.expectedImageDigest
           previousDigest := normalizeDigest imageID, message := "interrupted update is running the requested image" }

/-- the bundle of the pin in the version env file, if it can be read -/
def pinnedBundle : Soft (Option String) := do
  match ← attempt readVersionEnv with
  | .ok (some file) => pure ((parseVersionEnvPin file.data E.target.imageVariable).map Prod.fst)
  | _ => pure none

/-- without a checkpoint only an untouched target can be settled -/
def settleUntouched (imageID : String) (raw : Option String) : Soft ApplyResult := do
  let bundle ← pinnedBundle E
  let health ← attempt readHealthyTargetVersion
  let planned := trimSpace plan.currentVersion
  if imageID != "" && raw.isSome && (repositoryDigest (decodedDigests E raw) E.target.imageRepo).isSome &&
      versionPattern planned && bundle == some planned && health.toBool then
    pure { status := .rolledBack, previousDigest := normalizeDigest imageID, rolledBack := true
           message := "apply had not changed the verified previous Docker target" }
  else throw "interrupted Docker update has no trustworthy rollback checkpoint"

/-- the previous image is up: only the pin goes back -/
def keepPrevious (c : UpdateCheckpoint) (imageID : String) : Soft ApplyResult := do
  restoreVersionEnv ⟨c.previousVersionEnv, c.versionEnvMode⟩ c.versionEnvExisted
  clearCheckpoint
  pure { status := .rolledBack, previousDigest := normalizeDigest imageID, rolledBack := true
         message := "previous Docker image is healthy" }

/-- the rollback an interrupted cutover ends with -/
def rollbackDocker (c : UpdateCheckpoint) : Soft ApplyResult := do
  let previous : EnvFile := ⟨c.previousVersionEnv, c.versionEnvMode⟩
  let env ← attempt (orFail "write version env" (issue (.writeVersionEnv
    (rollbackEnv E c.versionEnvExisted previous c.previousBundleVersion c.previousManifestDigest))))
  let override ← attempt (orFail "write Docker override" (check (.writeOverride c.previousImageID)))
  firstError [env, override]
  orFail "base compose configuration validation failed" (check .composeModel)
  orFail "compose configuration validation failed" (check (.composeConfig c.previousImageID))
  orFail "freeze validated compose model" (check .freeze)
  orFail "Docker frozen model changed" (check .validateFrozen)
  orFail "compose up" (issue (.composeUp c.previousImageID))
  verifyRolledBack c.previousImageID c.previousVersion
  onlyIf (!c.versionEnvExisted) (restoreVersionEnv ⟨[], c.versionEnvMode⟩ false)
  clearCheckpoint
  pure { status := .rolledBack, artifactDigest := plan.expectedImageDigest, previousDigest := c.previousImageID
         rolledBack := true, message := "interrupted Docker cutover was rolled back from its durable checkpoint" }

/-- the previous image runs and reports the previous version -/
def UpdateCheckpoint.runsPrevious (c : UpdateCheckpoint) (imageID : String) (health : Except String String) : Bool :=
  match health with
  | .ok version => imageID == c.previousImageID && versionsEqual version c.previousVersion
  | .error _ => false

/-- what reconcile does when the requested image does not run -/
def settleDocker (imageID : String) (raw : Option String) : Soft ApplyResult :=
  match checkpoint with
  | none => settleUntouched E plan imageID raw
  | some c => do
    let health ← attempt readHealthyTargetVersion
    if c.runsPrevious imageID health then keepPrevious c imageID else rollbackDocker E plan c

/-- `reconcileDockerWithListenerStore`, whose gate was passed before -/
def reconcileDocker : Soft ApplyResult := do
  let checkpoint ← loadCheckpoint E
  Fallible.require (checkpoint.all fun c => c.recoversDocker plan) "Docker checkpoint does not match the recovered job"
  let imageID ← runningImage
  let raw ← runningRepoDigests imageID
  if imageID != "" && raw.isSome &&
      repositoryHasDigest (decodedDigests E raw) E.target.imageRepo plan.expectedPlatformDigest then
    match ← attempt (verifyTarget plan.expectedVersion) with
    | .ok _ => keepRequested E plan checkpoint imageID
    | .error _ => settleDocker E plan checkpoint imageID raw
  else settleDocker E plan checkpoint imageID raw

end AutostreamUpdater.Software
