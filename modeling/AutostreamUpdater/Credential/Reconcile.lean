/-
Reading the rotation record. `loadAndReconcileStatus` brings the record in line with the identity files before any request
looks at it: it binds a staged file that an older executor left unrecorded, completes an activation that stopped before its
record, expires a rotation whose staged credential is too old, and finishes an interrupted wipe.

The clock is an argument: each of these procedures reads it at most once.
-/
import AutostreamUpdater.Credential.Host

namespace AutostreamUpdater.Credential

open Contract Base

variable (E : CredentialEnv)

variable (now : ℕ) (status : RuntimeCredentialStatus)

/-- `saveStatus` -/
def saveStatus : Cred Unit := do
  Fallible.require (status.validate E) (.other "runtime credential state binding is invalid")
  Fallible.require status.validateRootTokenBindings (.other "runtime credential root token binding is invalid")
  act (.saveStatus status)

/-! ## Wiping the staged identity -/

/-- the wipe of the quarantined file: it is unlinked even when the overwrite failed -/
def eraseQuarantined : Cred Unit := do
  let _ ← lstat (.other "quarantined Host Agent identity is unsafe") .wiping
  let overwritten ← Fallible.total (Prog.op (CredOp.act .overwrite))
  let truncated ← Fallible.total (Prog.op (CredOp.act .truncate))
  act .removeWiping
  Fallible.require (overwritten.isOk && truncated.isOk) (.other "overwrite staged Host Agent identity during cleanup")

/-- the quarantine of a staged file with the expected digest -/
def quarantineStaged (expectedDigest : String) : Cred Unit := do
  let data ← Fallible.ofProgOr (.other "staged Host Agent identity changed before cleanup") (Prog.op (CredOp.read .staged))
  Fallible.require (runtimeCredentialDigest E data == expectedDigest)
    (.other "staged Host Agent identity digest changed before cleanup")
  act .quarantine

/-- `wipeAndRemoveIdentity` -/
def wipeAndRemoveIdentity (expectedDigest : String) : Cred Unit := do
  let stagedExists ← lstat (.other "stat staged Host Agent identity for cleanup") .staged
  let wipingExists ← lstat (.other "stat quarantined Host Agent identity for cleanup") .wiping
  Fallible.require (!(stagedExists && wipingExists))
    (.other "staged and quarantined Host Agent identities both exist")
  if wipingExists then eraseQuarantined
  else if stagedExists then do
    quarantineStaged E expectedDigest
    eraseQuarantined
  else pure ()

/-- `identityCleanupComplete` -/
def identityCleanupComplete (e : CredError) : Cred Unit := do
  let stagedExists ← lstat e .staged
  let wipingExists ← lstat e .wiping
  Fallible.require (!stagedExists && !wipingExists) e

/-! ## Binding a staged file -/

/-- the record of a staged file that the ledger did not know -/
def boundToStaged (staged : Identity) : RuntimeCredentialStatus :=
  { status with phase := .staged, rotationRevision := incr64 status.rotationRevision
                stagedIdentitySHA256 := runtimeCredentialDigest E staged.data
                stagedRuntimeTokenSHA256 := runtimeCredentialTokenDigest E staged.config.runtimeToken }

/-- what both binders do: the staged file, if there is one and the phase accepts it, is put on record -/
def bindStagedFile (phase : Phase) (phaseText wipeText statText fileText : String) (accepts : Identity → Bool)
    (bound : Identity → RuntimeCredentialStatus) : Cred (RuntimeCredentialStatus × Bool) := do
  Fallible.require (status.phase == phase) (.other phaseText)
  let wipingExists ← lstat (.other wipeText) .wiping
  Fallible.require (!wipingExists) (.other wipeText)
  let stagedExists ← lstat (.other statText) .staged
  if !stagedExists then pure (status, false)
  else do
    let staged ← loadIdentityOr (.other fileText) .staged
    Fallible.require (accepts staged) (.other fileText)
    saveStatus E (bound staged)
    pure (bound staged, true)

/-- `bindClaimPreparedStagedIdentity` -/
def bindClaimPreparedStagedIdentity (panelURL : String) : Cred (RuntimeCredentialStatus × Bool) :=
  bindStagedFile E status .claimPrepared "runtime credential claim binding phase is invalid"
    "claim-prepared runtime credential has an unfinished identity wipe" "stat claim-prepared staged runtime credential"
    "claim-prepared staged runtime credential is unsafe"
    (fun staged => staged.config.panelURL == panelURL && staged.config.nodeID == status.serviceID &&
      staged.config.serviceName == status.serviceName && validBoundedSecret staged.config.runtimeToken &&
      runtimeCredentialTokenDigest E staged.config.runtimeToken != status.previousRuntimeTokenSHA256)
    (boundToStaged E status)

/-- `bindStageBoundInstalledIdentity` -/
def bindStageBoundInstalledIdentity (panelURL : String) : Cred (RuntimeCredentialStatus × Bool) :=
  bindStagedFile E status .stageBound "runtime credential stage-bound phase is invalid"
    "stage-bound runtime credential has an unfinished identity wipe" "stat stage-bound runtime credential"
    "stage-bound runtime credential file changed"
    (fun staged => staged.config.nodeID == status.serviceID && staged.config.serviceName == status.serviceName &&
      (panelURL == "" || staged.config.panelURL == panelURL) &&
      runtimeCredentialDigest E staged.data == status.stagedIdentitySHA256 &&
      runtimeCredentialTokenDigest E staged.config.runtimeToken == status.stagedRuntimeTokenSHA256)
    fun _ => { status with phase := .staged }

/-- `cleanupExpiredOrphanedStagedIdentity`, after an unfinished wipe was completed -/
def cleanupOrphanedStaged : Cred Unit := do
  let stagedExists ← lstat (.other "stat orphaned staged Host Agent identity") .staged
  if !stagedExists then pure ()
  else do
    let staged ← loadIdentity .staged
    if now < staged.modTime + runtimeCredentialStagedMaxAge then pure ()
    else do
      let active ← loadIdentityOr (.other "expired orphaned staged Host Agent identity is unsafe") .active
      Fallible.require (staged.config.panelURL == active.config.panelURL && staged.config.nodeID == active.config.nodeID &&
          staged.config.serviceName == active.config.serviceName &&
          staged.config.runtimeToken != active.config.runtimeToken)
        (.other "expired orphaned staged Host Agent identity is unsafe")
      wipeAndRemoveIdentity E (runtimeCredentialDigest E staged.data)

/-- `cleanupExpiredOrphanedStagedIdentity` -/
def cleanupExpiredOrphanedStagedIdentity : Cred Unit := do
  let wipingExists ← lstat (.other "stat orphaned Host Agent identity wipe") .wiping
  if wipingExists then do
    wipeAndRemoveIdentity E ""
    cleanupOrphanedStaged E now
  else cleanupOrphanedStaged E now

/-! ## The cases of loadAndReconcileStatus -/

/-- the record once its staged credential is too old: persisted before the staged secret is removed -/
def expireIfDue (stagedExists : Bool) : Cred RuntimeCredentialStatus :=
  if now < status.stagedExpiresAt then pure status
  else do
    saveStatus E status.expire
    if stagedExists then do
      wipeAndRemoveIdentity E status.stagedIdentitySHA256
      pure status.expire
    else pure status.expire

/-- the active identity has the expected bytes -/
def requireActive (e : CredError) (digest : String) : Cred Identity := do
  let active ← loadIdentityOr e .active
  Fallible.require (runtimeCredentialDigest E active.data == digest) e
  pure active

/-- the claim-prepared case. The source declares a new `status` for the bound record, so the caller keeps the old one. -/
def reconcileClaimPrepared : Cred RuntimeCredentialStatus := do
  let active ← requireActive E (.other "claim-prepared runtime credential active identity changed")
    status.previousIdentitySHA256
  let wipingExists ← lstat (.other "claim-prepared runtime credential has an unfinished identity wipe") .wiping
  Fallible.require (!wipingExists) (.other "claim-prepared runtime credential has an unfinished identity wipe")
  let (bound, stagedExists) ← bindClaimPreparedStagedIdentity E status active.config.panelURL
  let _ ← expireIfDue E now bound stagedExists
  pure status

/-- the stage-bound case, with the same second `status` -/
def reconcileStageBound : Cred RuntimeCredentialStatus := do
  let _ ← requireActive E (.other "active runtime credential changed before stage-bound replay")
    status.previousIdentitySHA256
  let (bound, stagedExists) ← bindStageBoundInstalledIdentity E status ""
  let _ ← expireIfDue E now bound stagedExists
  pure status

/-- the staged file, if it is there, is the recorded one -/
def stagedAsRecorded : Cred Bool := do
  let stagedExists ← lstat (.other "stat staged runtime credential during replay") .staged
  if !stagedExists then pure false
  else do
    let staged ← loadIdentityOr (.other "staged runtime credential state is inconsistent") .staged
    Fallible.require (runtimeCredentialDigest E staged.data == status.stagedIdentitySHA256)
      (.other "staged runtime credential state is inconsistent")
    pure true

/-- the staged case -/
def reconcileStaged : Cred RuntimeCredentialStatus := do
  let _ ← requireActive E (.other "active runtime credential changed before staged replay") status.previousIdentitySHA256
  let stagedExists ← stagedAsRecorded E status
  let wipingExists ← lstat (.other "staged runtime credential has an unfinished identity wipe") .wiping
  Fallible.require (!wipingExists) (.other "staged runtime credential has an unfinished identity wipe")
  expireIfDue E now status stagedExists

/-- the acknowledged cases: an activation that stopped before its record is completed, otherwise the record may expire -/
def reconcileAcknowledged : Cred RuntimeCredentialStatus := do
  let staged ← loadIdentityOr (.other "staged runtime credential state is inconsistent") .staged
  Fallible.require (runtimeCredentialDigest E staged.data == status.stagedIdentitySHA256)
    (.other "staged runtime credential state is inconsistent")
  let active ← loadIdentity .active
  if status.phase = .proofReady ∧ runtimeCredentialDigest E active.data = status.stagedIdentitySHA256 then do
    saveStatus E (status.activate (incr64 status.rotationRevision))
    wipeAndRemoveIdentity E status.stagedIdentitySHA256
    pure (status.activate (incr64 status.rotationRevision))
  else do
    Fallible.require (runtimeCredentialDigest E active.data == status.previousIdentitySHA256)
      (.other "active runtime credential changed before staged expiry")
    expireIfDue E now status true

/-- a settled record: the active identity is the expected one and the staged one is wiped -/
def reconcileSettled (e : CredError) (digest : String) (status : RuntimeCredentialStatus) : Cred RuntimeCredentialStatus := do
  let _ ← requireActive E e digest
  wipeAndRemoveIdentity E status.stagedIdentitySHA256
  pure status

/-- the switch of `loadAndReconcileStatus` -/
def reconcileStatus : Cred RuntimeCredentialStatus :=
  match status.phase with
  | .claimPrepared => reconcileClaimPrepared E now status
  | .stageBound => reconcileStageBound E now status
  | .staged => reconcileStaged E now status
  | .localStaged | .proofReady => reconcileAcknowledged E now status
  | .activated => reconcileSettled E (.other "active runtime credential state is inconsistent")
      status.activeIdentitySHA256 status
  | .cancelReady => do
    let settled ← reconcileSettled E (.other "cancel-ready runtime credential active identity changed")
      status.previousIdentitySHA256 status
    identityCleanupComplete (.other "cancel-ready runtime credential cleanup is incomplete")
    pure settled
  | .expired => reconcileSettled E (.other "expired runtime credential active identity changed")
      status.previousIdentitySHA256 status
  | .manualRecovered => reconcileSettled E (.other "manually recovered runtime credential active identity changed")
      status.activeIdentitySHA256 status
  | .cancelled => pure status

/-- `loadAndReconcileStatus` -/
def loadAndReconcileStatus : Cred (Option RuntimeCredentialStatus) := do
  match ← loadStatus with
  | none => do
    cleanupExpiredOrphanedStagedIdentity E now
    pure none
  | some status => do
    let reconciled ← reconcileStatus E now status
    pure (some reconciled)

end AutostreamUpdater.Credential
