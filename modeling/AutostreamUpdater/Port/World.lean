/-
The world a port request acts on, and the file-backed stores over it.

`PortWorld` holds the durable files of the port state (job ledgers, one active pointer and one applied record per
target), the installed policy file with the copy in memory, and the runtime configuration file. `PortOp` lists every
operation a request issues on them and on the running service; `portNext` answers it. A durable write is atomic: it
succeeds, fails without effect, or reports an error after the new content became visible. What the service, Docker, the
panel and the clock answer is free.

On top of it stand the store methods `LoadJob`, `LoadActive`, `Stage`, `Save`, `LoadApplied`, `SaveApplied`, one
definition for both deployment modes over the mode's own validators (`PortMode`), and the policy file's `Verify`, `Write`
and `Reload`.
-/
import AutostreamUpdater.Base.Prog
import AutostreamUpdater.Port.Ledger

namespace AutostreamUpdater.Port

open Contract Base

/-- `dockerPortObservation` -/
structure DockerPortObservation where
  mappingEnv : PortCheckpoint
  publishedHostIP : String
  publishedPort : ℤ
  containerPort : ℤ
  healthPort : ℤ
  configRevision : ℤ
  configSHA256 : String
  composePolicySHA256 : String
  composeConfigSHA256 : String
  runtime : DockerRuntimeBaseline
  deriving DecidableEq, Repr

/-- `dockerPortPreparedModel` -/
structure DockerPortPreparedModel where
  composePolicySHA256 : String
  composeConfigSHA256 : String
  publishedHostIP : String
  publishedPort : ℤ
  containerPort : ℤ
  healthPort : ℤ
  deriving DecidableEq, Repr

/-- the operations of a port request -/
inductive PortOp (β A : Type) where
  | readJob (targetID jobID : String)
  | readActive (targetID : String)
  | readApplied (targetID : String)
  | writeJob (l : PortLedger β)
  | writeActive (targetID jobID : String)
  | writeApplied (targetID : String) (a : A)
  | readPolicy
  | writePolicy (payload : Bytes)
  | loadPolicy (payload : Bytes)
  | checkpoint
  | verifyRuntime (policy : LocalExecutorPolicy) (target : LocalExecutorTarget)
  | observe (policy : LocalExecutorPolicy) (target : LocalExecutorTarget)
  | prepare (target : LocalExecutorTarget) (payload : Bytes)
  | ensureAvailable (target : LocalExecutorTarget)
  | consumeGrant (plan : SystemdPortReconfigurePlan) (operation : PortOperation) (version grant : String)
  | writeConfig (checkpoint : PortCheckpoint) (payload : Bytes)
  | restoreConfig (checkpoint : PortCheckpoint) (target : Bytes)
  | restart (target : LocalExecutorTarget)
  | crashPoint (phase : String)
  | now
  | contextExpired

/-- the reply of each operation; a plain `Bool` says whether no error came back -/
abbrev PortRes {β A : Type} : PortOp β A → Type
  | .readJob _ _ => Except Unit (Option (PortLedger β))
  | .readActive _ => Except Unit (Option String)
  | .readApplied _ => Except Unit (Option A)
  | .readPolicy => Option (Bytes × Bytes)
  | .checkpoint => Option PortCheckpoint
  | .verifyRuntime _ _ => Option String
  | .observe _ _ => Option DockerPortObservation
  | .prepare _ _ => Option DockerPortPreparedModel
  | .now => ℕ
  | _ => Bool

/-- the durable files, the policy copy in memory and the runtime configuration file -/
structure PortWorld (β A : Type) where
  jobs : String → String → Option (PortLedger β)
  active : String → Option String
  applied : String → Option A
  policyDisk : Bytes
  policyMemory : Bytes
  config : PortCheckpoint

/-- what the world decides about one operation -/
inductive PortChoice where
  | ok | fail | failWritten
  | time (t : ℕ)
  | version (v : String)
  | observed (o : DockerPortObservation)
  | prepared (m : DockerPortPreparedModel)
  | edited (c : PortCheckpoint)
  deriving DecidableEq, Repr

section Next

variable {β A : Type}

/-- an atomic write that would turn `s` into `s'` -/
def writeOutcome (c : PortChoice) (s s' : PortWorld β A) : Bool × PortWorld β A :=
  match c with
  | .ok => (true, s')
  | .failWritten => (false, s')
  | _ => (false, s)

def PortWorld.setJob (s : PortWorld β A) (l : PortLedger β) : PortWorld β A :=
  { s with jobs := fun t j => if t = l.plan.targetID ∧ j = l.plan.jobID then some l else s.jobs t j }

def PortWorld.setActive (s : PortWorld β A) (targetID jobID : String) : PortWorld β A :=
  { s with active := fun t => if t = targetID then some jobID else s.active t }

def PortWorld.setApplied (s : PortWorld β A) (targetID : String) (a : A) : PortWorld β A :=
  { s with applied := fun t => if t = targetID then some a else s.applied t }

variable (E : PortEnv)

/-- the checkpoint of a private file with the given content -/
def privateFile (payload : Bytes) : PortCheckpoint := ⟨true, 0o600, payload, payloadSHA256 E payload⟩

/-- one answer of the world -/
def portNext (s : PortWorld β A) : (o : PortOp β A) → PortChoice → PortRes o × PortWorld β A
  | .readJob t j, c => (if c = .ok then .ok (s.jobs t j) else .error (), s)
  | .readActive t, c => (if c = .ok then .ok (s.active t) else .error (), s)
  | .readApplied t, c => (if c = .ok then .ok (s.applied t) else .error (), s)
  | .writeJob l, c => writeOutcome c s (s.setJob l)
  | .writeActive t j, c => writeOutcome c s (s.setActive t j)
  | .writeApplied t a, c => writeOutcome c s (s.setApplied t a)
  | .readPolicy, c => (if c = .ok then some (s.policyDisk, s.policyMemory) else none, s)
  | .writePolicy p, c => writeOutcome c s { s with policyDisk := p }
  | .loadPolicy p, _ => (true, { s with policyMemory := p })
  | .checkpoint, c => match c with
    | .ok => (some s.config, s)
    | .edited cp => (some cp, { s with config := cp })
    | _ => (none, s)
  | .verifyRuntime _ _, c => (match c with | .version v => some v | _ => none, s)
  | .observe _ _, c => (match c with | .observed o => some o | _ => none, s)
  | .prepare _ _, c => (match c with | .prepared m => some m | _ => none, s)
  | .ensureAvailable _, c => (c == .ok, s)
  | .consumeGrant _ _ _ _, c => (c == .ok, s)
  -- `Write` replaces the file it was handed, `Restore` the target bytes that were written; any other file is left alone
  | .writeConfig cp p, c => if s.config = cp then writeOutcome c s { s with config := privateFile E p } else (false, s)
  | .restoreConfig cp p, c =>
    if s.config = privateFile E p ∧ (cp.existed = true → cp.mode = 0o600) then writeOutcome c s { s with config := cp }
    else (false, s)
  | .restart _, c => (c == .ok, s)
  | .crashPoint _, c => (c == .ok, s)
  | .now, c => (match c with | .time t => t | _ => 0, s)
  | .contextExpired, c => (c != .ok, s)

/-- a restarted process loads the policy file it finds -/
def PortWorld.restart (s : PortWorld β A) : PortWorld β A := { s with policyMemory := s.policyDisk }

end Next

/-! ## The stores -/

/-- what a deployment mode contributes to the shared store and coordinator: its validators and its applied record -/
structure PortMode (β A : Type) where
  validateLedger : PortLedger β → String → Bool
  savable : A → Bool
  loadable : A → String → Bool
  appliedTarget : A → String

/-- a program of port operations -/
abbrev PortProg (β A : Type) := Prog (PortOp β A) PortRes

section Calls

variable {β A : Type}

abbrev readJob (targetID jobID : String) : PortProg β A (Except Unit (Option (PortLedger β))) :=
  Prog.op (PortOp.readJob targetID jobID)
abbrev readActive (targetID : String) : PortProg β A (Except Unit (Option String)) := Prog.op (PortOp.readActive targetID)
abbrev readApplied (targetID : String) : PortProg β A (Except Unit (Option A)) := Prog.op (PortOp.readApplied targetID)
abbrev writeJob (l : PortLedger β) : PortProg β A Bool := Prog.op (PortOp.writeJob l)
abbrev writeActive (targetID jobID : String) : PortProg β A Bool := Prog.op (PortOp.writeActive targetID jobID)
abbrev writeApplied (targetID : String) (a : A) : PortProg β A Bool := Prog.op (PortOp.writeApplied targetID a)
abbrev readPolicy : PortProg β A (Option (Bytes × Bytes)) := Prog.op PortOp.readPolicy
abbrev writePolicy (payload : Bytes) : PortProg β A Bool := Prog.op (PortOp.writePolicy payload)
abbrev loadPolicy (payload : Bytes) : PortProg β A Bool := Prog.op (PortOp.loadPolicy payload)
abbrev checkpoint : PortProg β A (Option PortCheckpoint) := Prog.op PortOp.checkpoint
abbrev verifyRuntime (policy : LocalExecutorPolicy) (target : LocalExecutorTarget) : PortProg β A (Option String) :=
  Prog.op (PortOp.verifyRuntime policy target)
abbrev observe (policy : LocalExecutorPolicy) (target : LocalExecutorTarget) :
    PortProg β A (Option DockerPortObservation) := Prog.op (PortOp.observe policy target)
abbrev prepare (target : LocalExecutorTarget) (payload : Bytes) : PortProg β A (Option DockerPortPreparedModel) :=
  Prog.op (PortOp.prepare target payload)
abbrev ensureAvailable (target : LocalExecutorTarget) : PortProg β A Bool := Prog.op (PortOp.ensureAvailable target)
abbrev consumeGrant (plan : SystemdPortReconfigurePlan) (operation : PortOperation) (version grant : String) :
    PortProg β A Bool := Prog.op (PortOp.consumeGrant plan operation version grant)
abbrev writeConfig (current : PortCheckpoint) (payload : Bytes) : PortProg β A Bool :=
  Prog.op (PortOp.writeConfig current payload)
abbrev restoreConfig (saved : PortCheckpoint) (target : Bytes) : PortProg β A Bool :=
  Prog.op (PortOp.restoreConfig saved target)
abbrev restart (target : LocalExecutorTarget) : PortProg β A Bool := Prog.op (PortOp.restart target)
abbrev crashPoint (phase : String) : PortProg β A Bool := Prog.op (PortOp.crashPoint phase)
abbrev now : PortProg β A ℕ := Prog.op PortOp.now
abbrev contextExpired : PortProg β A Bool := Prog.op PortOp.contextExpired

end Calls

section Store

variable {β A : Type} (M : PortMode β A)

/-- `LoadJob` -/
def loadJob (targetID jobID : String) : PortProg β A (Except Unit (Option (PortLedger β))) := do
  if !identifierPattern targetID || !identifierPattern jobID then return .error ()
  match ← readJob targetID jobID with
  | .error _ => return .error ()
  | .ok none => return .ok none
  | .ok (some l) => return if M.validateLedger l targetID && l.plan.jobID == jobID then .ok (some l) else .error ()

/-- `LoadActive` -/
def loadActive (targetID : String) : PortProg β A (Except Unit (Option (PortLedger β))) := do
  if !identifierPattern targetID then return .error ()
  match ← readActive targetID with
  | .error _ => return .error ()
  | .ok none => return .ok none
  | .ok (some jobID) =>
    if !identifierPattern jobID then return .error ()
    match ← loadJob M targetID jobID with
    | .ok (some l) => return .ok (some l)
    -- a pointer to a missing ledger is refused
    | _ => return .error ()

/-- `Save` -/
def saveLedger (l : PortLedger β) : PortProg β A Bool := do
  if !M.validateLedger l l.plan.targetID then return false
  writeJob l

/-- another job of the target is unfinished -/
def busyWith (active : Option (PortLedger β)) (jobID : String) : Bool :=
  active.any fun a => a.plan.jobID != jobID && a.state != .terminal

/-- `Stage`: the job ledger first, then the active pointer -/
def stageLedger (l : PortLedger β) : PortProg β A Bool := do
  if !M.validateLedger l l.plan.targetID then return false
  match ← loadActive M l.plan.targetID with
  | .error _ => return false
  | .ok active =>
    if busyWith active l.plan.jobID then return false
    if !(← saveLedger M l) then return false
    writeActive l.plan.targetID l.plan.jobID

/-- `LoadApplied` and `LoadDockerApplied` -/
def loadApplied (targetID : String) : PortProg β A (Except Unit (Option A)) := do
  if !identifierPattern targetID then return .error ()
  match ← readApplied targetID with
  | .error _ => return .error ()
  | .ok none => return .ok none
  | .ok (some a) => return if M.loadable a targetID then .ok (some a) else .error ()

/-- `SaveApplied` -/
def saveApplied (a : A) : PortProg β A Bool := do
  if !M.savable a then return false
  writeApplied (M.appliedTarget a) a

end Store

/-- the systemd store -/
def systemdMode (E : PortEnv) : PortMode SystemdBaseline SystemdPortAppliedState where
  validateLedger := validateSystemdPortLedger E
  savable := SystemdPortAppliedState.savable
  loadable := fun a t => a.targetID == t
  appliedTarget := fun a => a.targetID

/-- the Docker store -/
def dockerMode (E : PortEnv) : PortMode DockerBaseline DockerPortAppliedState where
  validateLedger := validateDockerPortLedger E
  savable := fun a => a.validate a.targetID
  loadable := DockerPortAppliedState.validate
  appliedTarget := fun a => a.targetID

/-! ## The policy file -/

section Policy

variable {β A : Type} (E : PortEnv)

/-- `filePortPolicyStore.Verify`: the file on disk and the copy in memory are the expected bytes -/
def policyVerify (expected : Bytes) : PortProg β A Bool := do
  match ← readPolicy with
  | none => return false
  | some (disk, memory) => return disk == expected && memory == expected

/-- the payload is one of the three saved ones -/
def PortPolicyCandidates.allows (c : PortPolicyCandidates) (payload : Bytes) : Bool :=
  payload == c.before || payload == c.target || payload == c.rollback

/-- `filePortPolicyStore.Write` -/
def policyWrite (allowed : PortPolicyCandidates) (next : Bytes) : PortProg β A Bool := do
  match ← readPolicy with
  | none => return false
  | some (disk, memory) =>
    if !allowed.allows disk || !allowed.allows memory || !allowed.allows next then return false
    if (decodePortPolicy E next).isNone then return false
    if disk == next then return true
    writePolicy next

/-- `filePortPolicyStore.Reload` -/
def policyReload (next : Bytes) : PortProg β A Bool := do
  match ← readPolicy with
  | none => return false
  | some (disk, _) =>
    if disk != next then return false
    loadPolicy next

end Policy
end AutostreamUpdater.Port
