/-
The host a credential rotation runs on: the rotation record, the three fixed identity files (active, staged, and the
quarantined one that is being wiped) and the control panel, with every operation the executor makes on them.

A choice decides what an operation does: it takes effect, fails, or fails after it took effect. A panel call is refused,
accepted with its reply, or accepted with the reply lost. `owed` is a ghost: the token of the last activation that the
panel accepted, as long as its rotation has not been recorded as expired, cancelled or manually recovered and no operator
has replaced the active identity.
-/
import AutostreamUpdater.Base.Fallible
import AutostreamUpdater.Credential.Status

namespace AutostreamUpdater.Credential

open Contract Base

/-- a point in time as the panel sends it; `utc` says that its location is UTC -/
structure Stamp where
  instant : ℕ
  utc : Bool := true
  deriving DecidableEq, Repr

/-- the statuses of a rotation directive -/
inductive RotationStatus where
  | staged | localStaged | heartbeatProved | activated | cancelRequested | canceled
  deriving DecidableEq, Repr

/-- `HostAgentRuntimeTokenRotation` -/
structure HostAgentRuntimeTokenRotation where
  id : String
  serviceID : String
  executionHostID : String
  status : RotationStatus
  revision : ℤ
  expectedOwnershipEpoch : ℤ
  expectedSourcePolicyRevision : ℤ
  expectedProjectionRevision : ℤ
  expectedLocalExecutorPolicyRevision : ℤ
  previousTokenID : String
  stagedTokenID : String
  credentialClaimedAt : Option Stamp := none
  localStageReceiptID : String := ""
  localStageAcknowledgedAt : Option Stamp := none
  localStagedAt : Option Stamp := none
  heartbeatProvedAt : Option Stamp := none
  activatedAt : Option Stamp := none
  cancelRequestedAt : Option Stamp := none
  canceledAt : Option Stamp := none
  emergencyRevokedTokenID : String := ""
  emergencyRevokedAt : Option Stamp := none
  createdAt : Option Stamp := none
  updatedAt : Option Stamp := none
  deriving DecidableEq, Repr

namespace HostAgentRuntimeTokenRotation

/-- what each status asks of the timestamps -/
def statusValid (r : HostAgentRuntimeTokenRotation) : Bool :=
  match r.status with
  | .staged | .canceled => true
  | .localStaged | .heartbeatProved | .activated => r.credentialClaimedAt.isSome && r.localStageReceiptID != "" &&
      r.localStageAcknowledgedAt.isSome
  | .cancelRequested => r.credentialClaimedAt.isSome && r.cancelRequestedAt.isSome

/-- the acknowledgement does not precede the claim -/
def stampsOrdered (r : HostAgentRuntimeTokenRotation) : Bool :=
  match r.credentialClaimedAt, r.localStageAcknowledgedAt with
  | some claimed, some acknowledged => claimed.instant ≤ acknowledged.instant
  | _, _ => true

/-- `Validate` -/
def validate (r : HostAgentRuntimeTokenRotation) : Bool :=
  identifierPattern r.id && identifierPattern r.serviceID && validExecutionHostID r.executionHostID &&
    identifierPattern r.previousTokenID && identifierPattern r.stagedTokenID && r.previousTokenID != r.stagedTokenID &&
    1 ≤ r.revision && 1 ≤ r.expectedOwnershipEpoch && 1 ≤ r.expectedSourcePolicyRevision &&
    1 ≤ r.expectedProjectionRevision && 1 ≤ r.expectedLocalExecutorPolicyRevision &&
    ([r.id, r.serviceID, r.executionHostID, r.previousTokenID, r.stagedTokenID].all fun v => trimSpace v == v) &&
    r.statusValid && (r.localStageReceiptID == "") == r.localStageAcknowledgedAt.isNone &&
    (r.localStageReceiptID == "" || identifierPattern r.localStageReceiptID) &&
    (r.emergencyRevokedTokenID == "") == r.emergencyRevokedAt.isNone &&
    (r.emergencyRevokedTokenID == "" || r.emergencyRevokedTokenID == r.previousTokenID ||
      r.emergencyRevokedTokenID == r.stagedTokenID) &&
    ([r.credentialClaimedAt, r.localStageAcknowledgedAt, r.localStagedAt, r.heartbeatProvedAt, r.activatedAt,
      r.cancelRequestedAt, r.canceledAt, r.emergencyRevokedAt, r.createdAt, r.updatedAt].all fun v =>
        v.all fun t => t.instant != 0 && t.utc) && r.stampsOrdered

end HostAgentRuntimeTokenRotation

/-! ## Files and operations -/

/-- an identity file -/
structure IdentityFile where
  data : Bytes
  modTime : ℕ
  deriving DecidableEq, Repr

/-- the fixed identity paths -/
inductive Slot where
  | active | staged | wiping
  deriving DecidableEq, Repr

/-- `loadIdentity`: the decoded identity, its bytes and its modification time -/
structure Identity where
  config : Config
  data : Bytes
  modTime : ℕ
  deriving DecidableEq, Repr

structure Host where
  state : Option RuntimeCredentialStatus := none
  active : Option IdentityFile := none
  staged : Option IdentityFile := none
  wiping : Option IdentityFile := none
  owed : Option (String × String) := none
  deriving DecidableEq, Repr

def Host.slot (h : Host) : Slot → Option IdentityFile
  | .active => h.active
  | .staged => h.staged
  | .wiping => h.wiping

/-- the errors the request handler tells apart -/
inductive CredError where
  | busy
  | precondition (text : String)
  | unavailable
  | panel
  | other (text : String)
  deriving DecidableEq, Repr

/-- operations that change something, and the layout check -/
inductive Act where
  | layout
  | saveStatus (status : RuntimeCredentialStatus)
  | removeState
  | writeIdentity (slot : Slot) (data : Bytes) (replace : Bool)
  | quarantine
  | overwrite
  | truncate
  | removeWiping
  | replaceIdentity (data : Bytes)
  deriving DecidableEq, Repr

/-- the two panel transitions of the executor -/
inductive PanelCall where
  | acknowledgeStage (rotationID : String) (revision : ℤ) (token : String)
  | activate (rotationID : String) (revision : ℤ) (token : String)
  deriving DecidableEq, Repr

def PanelCall.rotationID : PanelCall → String
  | .acknowledgeStage id _ _ | .activate id _ _ => id

/-- the credential a call is made with -/
def PanelCall.token : PanelCall → String
  | .acknowledgeStage _ _ token | .activate _ _ token => token

inductive CredOp where
  | act (a : Act)
  | loadStatus
  | lstat (slot : Slot)
  | read (slot : Slot)
  | loadIdentity (slot : Slot)
  | panel (call : PanelCall)
  deriving DecidableEq, Repr

abbrev CredRes : CredOp → Type
  | .act _ => Except CredError Unit
  | .loadStatus => Except CredError (Option RuntimeCredentialStatus)
  | .lstat _ => Except CredError Bool
  | .read _ => Except CredError Bytes
  | .loadIdentity _ => Except CredError Identity
  | .panel _ => Except CredError HostAgentRuntimeTokenRotation

/-- what the outside decides about one operation; `time` is the time a file is written at -/
inductive Choice where
  | done (time : ℕ)
  | failed (error : CredError)
  | failedDone (error : CredError) (time : ℕ)
  | replied (rotation : HostAgentRuntimeTokenRotation)
  deriving DecidableEq, Repr

section World

variable (E : CredentialEnv)

/-- the effect of an operation, or why it cannot take effect -/
def Act.effect (time : ℕ) (h : Host) : Act → Except CredError Host
  | .layout => .ok h
  | .saveStatus status =>
    .ok { h with state := some status
                 owed := if status.phase.ended then h.owed.filter (·.1 != status.rotationID) else h.owed }
  | .removeState => .ok { h with state := none }
  | .writeIdentity slot data replace =>
    if (h.slot slot).isSome && !replace then .error .busy
    else if data.isEmpty || data.length > configMaxBytes then .error (.other "runtime credential identity payload is invalid")
    else match slot with
      | .active => .ok { h with active := some ⟨data, time⟩ }
      | .staged => .ok { h with staged := some ⟨data, time⟩ }
      | .wiping => .ok { h with wiping := some ⟨data, time⟩ }
  | .quarantine => match h.staged with
    | none => .error (.other "quarantine staged Host Agent identity for cleanup")
    | some file => .ok { h with staged := none, wiping := some file }
  | .overwrite => .ok { h with wiping := h.wiping.map fun f => ⟨f.data.map fun _ => 0, time⟩ }
  | .truncate => .ok { h with wiping := h.wiping.map fun _ => ⟨[], time⟩ }
  | .removeWiping => .ok { h with wiping := none }
  | .replaceIdentity data => .ok { h with active := some ⟨data, time⟩, owed := none }

/-- what the panel does when it accepts a call -/
def PanelCall.accept (h : Host) : PanelCall → Host
  | .acknowledgeStage _ _ _ => h
  | .activate rotationID _ token => { h with owed := some (rotationID, token) }

/-- `loadStatus` on a readable record -/
def readStatus : Option RuntimeCredentialStatus → Except CredError (Option RuntimeCredentialStatus)
  | none => .ok none
  | some status => if status.sound E then .ok (some status) else .error (.other "runtime credential state binding is invalid")

/-- a bounded file that is not empty -/
def readFile : Option IdentityFile → Except CredError Bytes
  | none => .error (.other "read Host Agent identity")
  | some file =>
    if file.data.isEmpty || file.data.length > configMaxBytes then .error (.other "read Host Agent identity")
    else .ok file.data

/-- `loadIdentity` on a file with safe owner and mode -/
def readIdentity (file : Option IdentityFile) : Except CredError Identity :=
  match file, readFile file with
  | some f, .ok data => match E.decodeIdentity data with
    | none => .error (.other "Agent identity is invalid")
    | some config => .ok ⟨config, data, f.modTime⟩
  | _, _ => .error (.other "Host Agent identity must be a bounded root:agent-group 0640 regular file")

/-- what an operation that changes something replies and leaves behind -/
def actNext (h : Host) (a : Act) (c : Choice) : Except CredError Unit × Host :=
  match c with
  | .failed e => (.error e, h)
  | .replied _ => (.error .unavailable, h)
  | .done time => match a.effect time h with
    | .ok h' => (.ok (), h')
    | .error e => (.error e, h)
  | .failedDone e time => match a.effect time h with
    | .ok h' => (.error e, h')
    | .error _ => (.error e, h)

/-- a read, unless it fails -/
def reading {α : Type} (r : Except CredError α) : Choice → Except CredError α
  | .done _ => r
  | .failed e => .error e
  | .failedDone e _ => .error e
  | .replied _ => .error .unavailable

/-- what a panel call replies and leaves behind -/
def panelNext (h : Host) (call : PanelCall) : Choice → Except CredError HostAgentRuntimeTokenRotation × Host
  | .replied rotation => (.ok rotation, call.accept h)
  | .failedDone e _ => (.error e, call.accept h)
  | .failed e => (.error e, h)
  | .done _ => (.error .panel, h)

/-- what an operation replies and leaves behind -/
def credNext (h : Host) : (o : CredOp) → Choice → CredRes o × Host
  | .act a, c => actNext h a c
  | .loadStatus, c => (reading (readStatus E h.state) c, h)
  | .lstat slot, c => (reading (.ok (h.slot slot).isSome) c, h)
  | .read slot, c => (reading (readFile (h.slot slot)) c, h)
  | .loadIdentity slot, c => (reading (readIdentity E (h.slot slot)) c, h)
  | .panel call, c => panelNext h call c

end World

/-! ## Programs -/

/-- a procedure of the executor -/
abbrev Cred := Fallible CredOp CredRes CredError

def act (a : Act) : Cred Unit := Fallible.ofProg (Prog.op (CredOp.act a))
def lstat (e : CredError) (slot : Slot) : Cred Bool := Fallible.ofProgOr e (Prog.op (CredOp.lstat slot))
def loadIdentity (slot : Slot) : Cred Identity := Fallible.ofProg (Prog.op (CredOp.loadIdentity slot))
def loadIdentityOr (e : CredError) (slot : Slot) : Cred Identity :=
  Fallible.ofProgOr e (Prog.op (CredOp.loadIdentity slot))
def panel (call : PanelCall) : Cred HostAgentRuntimeTokenRotation := Fallible.ofProg (Prog.op (CredOp.panel call))
def loadStatus : Cred (Option RuntimeCredentialStatus) := Fallible.ofProg (Prog.op CredOp.loadStatus)

end AutostreamUpdater.Credential
