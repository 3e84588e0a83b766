/-
The host a software update runs on: the ledger and the checkpoint of the target, the release directories with the current
link and the running service (systemd), the version env file and the managed container (Docker), with every operation the
executor makes on them.

A durable write is atomic: it takes effect, fails, or fails after it took effect. Reads and checks may fail at any time.
What the panel, the download and the commands answer is free; a service that comes up reports whatever version it likes.
Within one request nothing else writes the target: the executor holds its lock. `origin` is a ghost: the digest of what
was running when the ledger left `staged`, that is, when the apply that opened the gate began its mutation.
-/
import AutostreamUpdater.Base.Fallible
import AutostreamUpdater.Software.Release

namespace AutostreamUpdater.Software

open Contract Base

/-- a managed release directory: its two marker files, whether its checksums hold and its required paths exist -/
structure Release where
  artifactSHA256 : String
  version : String
  intact : Bool := true
  complete : Bool := true
  deriving DecidableEq, Repr

/-- the managed container -/
structure Container where
  id : String
  image : String
  deriving DecidableEq, Repr

/-- a downloaded release: its digest and where it was unpacked, below the stage -/
structure Downloaded where
  sha256 : String
  root : Path
  deriving DecidableEq, Repr

/-- a resolved Docker release -/
structure DockerRelease where
  sourceVersion : String
  manifestDigest : String
  platformDigest : String
  manifestSHA256 : String
  deriving DecidableEq, Repr

structure Host where
  ledger : Option ExecutorMutationLedger := none
  checkpoint : Option UpdateCheckpoint := none
  link : Option Path := none
  releases : Path → Option Release := fun _ => none
  running : Option Path := none
  versionEnv : Option EnvFile := none
  container : Option Container := none
  images : String → Option String := fun _ => none
  repoDigests : String → Option String := fun _ => none
  answer : Option String := none
  origin : Option String := none

/-- what the executor is configured with, and the digests and codecs of other packages -/
structure SoftwareEnv where
  target : Target
  stagesRoot : Path
  stableKey : String → String → String
  payloadSHA256 : ℤ → MutationPlan → String
  sha256 : Bytes → String
  decodeStrings : String → Option (List String)

/-! ## Operations -/

/-- checks and preparations that leave the target alone -/
inductive Check where
  | stateDirectories | gateTime | orphanStage | backup | composeModel | freeze | validateFrozen
  | stageDirectory (root : Path)
  | openStage (root : Path)
  | commitStage (root : Path)
  | terminalStage (root : Path)
  | artifactPath (root : Path)
  | artifactChecksums (root : Path)
  | artifactComplete (root : Path)
  | stagedArtifact (root : Path)
  | composeConfig (image : String)
  | writeOverride (image : String)
  | frozenCompose (image : String)
  | pull (image : String)
  | publishedPorts (containerID : String)
  deriving DecidableEq, Repr

inductive Verb where
  | start | stop
  deriving DecidableEq, Repr

/-- the operations of a software request -/
inductive HostOp where
  | acceptRequest
  | check (c : Check)
  | readLedger
  | writeLedger (l : ExecutorMutationLedger)
  | consumeGrant (plan : MutationPlan) (operation : Operation)
  | download (version : String)
  | resolveDocker (version : String)
  | smoke (dir : Path)
  | readCheckpoint
  | writeCheckpoint (c : UpdateCheckpoint)
  | removeCheckpoint
  | readLink
  | readMarkers (dir : Path)
  | verifyChecksums (dir : Path)
  | requiredPaths (dir : Path)
  | mainProcess
  | probe
  | installRelease (source dest : Path) (digest version : String)
  | systemctl (verb : Verb)
  | switchLink (dest : Path)
  | readVersionEnv
  | writeVersionEnv (file : EnvFile)
  | removeVersionEnv
  | containers
  | inspectContainer (id : String)
  | inspectImage (image : String)
  | inspectRepoDigests (image : String)
  | composeUp (image : String)

/-- the reply of each operation; a plain `Bool` says whether no error came back -/
abbrev HostRes : HostOp → Type
  | .acceptRequest => Option FailureCode
  | .readLedger => Except Unit (Option ExecutorMutationLedger)
  | .download _ => Option Downloaded
  | .resolveDocker _ => Option DockerRelease
  | .smoke _ => Option String
  | .readCheckpoint => Except Unit (Option UpdateCheckpoint)
  | .readLink => Except Unit (Option Path)
  | .readMarkers _ => Option (String × String)
  | .mainProcess => Option Path
  | .probe => Option String
  | .readVersionEnv => Except Unit (Option EnvFile)
  | .containers => Option (List String)
  | .inspectContainer _ => Option String
  | .inspectImage _ => Option String
  | .inspectRepoDigests _ => Option String
  | _ => Bool

/-- what `compose up` leaves of the container -/
inductive Composed where
  | kept | gone
  | replaced (id : String)
  deriving DecidableEq, Repr

/-- what the host decides about one operation -/
inductive Choice where
  | ok | fail | failWritten
  | refused (code : FailureCode)
  | text (s : String)
  | downloaded (d : Downloaded)
  | resolved (r : DockerRelease)
  | service (ok up : Bool) (answer : Option String)
  | composed (ok : Bool) (left : Composed) (answer : Option String)
  deriving DecidableEq, Repr

/-! ## Answers -/

/-- an atomic write that would turn `s` into `s'` -/
def writeOutcome (c : Choice) (s s' : Host) : Bool × Host :=
  match c with
  | .ok => (true, s')
  | .failWritten => (false, s')
  | _ => (false, s)

/-- the digest of the release the current link points at, as it is reported -/
def Host.releaseDigest (s : Host) : Option String :=
  (s.link.bind s.releases).map fun r => normalizeDigest (toLower (trimSpace r.artifactSHA256))

/-- the image of the managed container, as it is reported -/
def Host.imageDigest (s : Host) : Option String := s.container.map fun c => toLower (trimSpace c.image)

/-- the digest of what runs -/
def Host.runningDigest (s : Host) (target : Target) : Option String :=
  if target.deploymentMode == modeDocker then s.imageDigest else s.releaseDigest

/-- the ledger with its mutation under way -/
def ExecutorMutationLedger.begun (l : ExecutorMutationLedger) : Bool := l.state != .staged && l.state != .terminal

/-- the ledger file is replaced; `origin` is noted when the ledger leaves `staged` for a mutation -/
def Host.setLedger (s : Host) (target : Target) (l : ExecutorMutationLedger) : Host :=
  { s with ledger := some l
           origin := if s.ledger.any (·.state == .staged) && l.begun then s.runningDigest target else s.origin }

def Host.setRelease (s : Host) (dest : Path) (r : Release) : Host :=
  { s with releases := fun p => if p = dest then some r else s.releases p }

/-- `installReleaseTree`: an existing directory has to be the same release, a missing one is copied -/
def install (s : Host) (dest : Path) (digest version : String) (c : Choice) : Bool × Host :=
  match s.releases dest with
  | some r => (c == .ok && r.intact && trimSpace r.artifactSHA256 == toLower digest && trimSpace r.version == version, s)
  | none => writeOutcome c s (s.setRelease dest ⟨toLower digest, version, true, true⟩)

/-- `systemctl start`: a service that comes up runs the release the link points at -/
def startService (s : Host) (up : Bool) (answer : Option String) : Host :=
  if s.running.isSome then s else if up then { s with running := s.link, answer := answer } else s

/-- the container after `compose up` of the image -/
def compose (s : Host) (image : String) (left : Composed) (answer : Option String) : Host :=
  match left with
  | .kept => s
  | .gone => { s with container := none, answer := none }
  | .replaced id => match s.images image with
    | none => { s with container := none, answer := none }
    | some imageID => { s with container := some ⟨id, imageID⟩, answer := answer }

/-- one answer of the host -/
def hostNext (E : SoftwareEnv) (s : Host) : (o : HostOp) → Choice → HostRes o × Host
  | .acceptRequest, c => (match c with | .refused code => some code | _ => none, s)
  | .check _, c => (c == .ok, s)
  | .readLedger, c => (if c = .ok then .ok s.ledger else .error (), s)
  | .writeLedger l, c => writeOutcome c s (s.setLedger E.target l)
  | .consumeGrant _ _, c => (c == .ok, s)
  | .download _, c => (match c with | .downloaded d => some d | _ => none, s)
  | .resolveDocker _, c => (match c with | .resolved r => some r | _ => none, s)
  | .smoke _, c => (match c with | .text t => some t | _ => none, s)
  | .readCheckpoint, c => (if c = .ok then .ok s.checkpoint else .error (), s)
  | .writeCheckpoint cp, c => writeOutcome c s { s with checkpoint := some cp }
  | .removeCheckpoint, c => writeOutcome c s { s with checkpoint := none }
  | .readLink, c => (if c = .ok then (match s.link with
      | none => .ok none
      | some p => if (s.releases p).isSome then .ok (some p) else .error ()) else .error (), s)
  | .readMarkers dir, c => (if c = .ok then (s.releases dir).map fun r => (r.artifactSHA256, r.version) else none, s)
  | .verifyChecksums dir, c => (c == .ok && (s.releases dir).any Release.intact, s)
  | .requiredPaths dir, c => (c == .ok && (s.releases dir).any Release.complete, s)
  | .mainProcess, c => (if c = .ok then s.running else none, s)
  | .probe, c => (if c = .ok then s.answer else none, s)
  | .installRelease _ dest digest version, c => install s dest digest version c
  | .systemctl .stop, c => writeOutcome c s { s with running := none, answer := none }
  | .systemctl .start, c => match c with
    | .service ok up answer => (ok, startService s up answer)
    | _ => (false, s)
  | .switchLink dest, c => writeOutcome c s { s with link := some dest }
  | .readVersionEnv, c => (if c = .ok then .ok s.versionEnv else .error (), s)
  | .writeVersionEnv file, c => writeOutcome c s { s with versionEnv := some file }
  | .removeVersionEnv, c => writeOutcome c s { s with versionEnv := none }
  | .containers, c => (if c = .ok then some (s.container.toList.map Container.id) else none, s)
  | .inspectContainer id, c =>
    (if c = .ok then (s.container.filter fun k => k.id == id).map Container.image else none, s)
  | .inspectImage image, c => (if c = .ok then s.images image else none, s)
  | .inspectRepoDigests image, c => (if c = .ok then s.repoDigests image else none, s)
  | .composeUp image, c => match c with
    | .composed ok left answer => (ok, compose s image left answer)
    | _ => (false, s)

/-- the operation changes the target: its checkpoint, its releases, its link, its service, its pin or its container -/
def HostOp.changesTarget : HostOp → Bool
  | .writeCheckpoint _ | .removeCheckpoint | .installRelease _ _ _ _ | .systemctl _ | .switchLink _ | .writeVersionEnv _
  | .removeVersionEnv | .composeUp _ => true
  | _ => false

/-- the operation changes nothing at all -/
def HostOp.reads : HostOp → Bool
  | .writeLedger _ => false
  | o => !o.changesTarget

/-- What only reads leaves the host as it is. -/
theorem hostNext_reads {E : SoftwareEnv} {s : Host} {o : HostOp} {c : Choice} (h : o.reads = true) :
    (hostNext E s o c).2 = s := by
  cases o <;> first | rfl | simp [HostOp.reads, HostOp.changesTarget] at h

/-! ## Programs -/

/-- a program of host operations -/
abbrev SoftwareProg := Prog HostOp HostRes

/-- a program of host operations that stops at its first error -/
abbrev Soft := Fallible HostOp HostRes String

/-- one operation -/
abbrev issue (o : HostOp) : SoftwareProg (HostRes o) := Prog.op o

section Combinators

variable {ε α : Type}

/-- an operation that reports an error or not -/
def orFail (e : ε) (p : SoftwareProg Bool) : Fallible HostOp HostRes ε Unit := do
  let ok ← Fallible.total p
  Fallible.require ok e

/-- an operation whose missing answer is an error -/
def got (e : ε) (p : SoftwareProg (Option α)) : Fallible HostOp HostRes ε α := do
  match ← Fallible.total p with
  | some a => pure a
  | none => throw e

/-- a step that is made only if the condition holds -/
def onlyIf (b : Bool) (p : Soft Unit) : Soft Unit := if b then p else pure ()

/-- run a program for its outcome -/
def attempt (p : Soft α) : Soft (Except String α) := Fallible.total p.run

/-- `firstError`, over checks that were all made -/
def firstError : List (Except String Unit) → Soft Unit
  | [] => pure ()
  | .ok _ :: rest => firstError rest
  | .error e :: _ => throw e

/-- a check that leaves the target alone -/
def check (c : Check) : SoftwareProg Bool := issue (.check c)

end Combinators

/-! ## Stores -/

section Stores

variable (E : SoftwareEnv)

/-- `saveExecutorMutationLedger` -/
def saveExecutorMutationLedger (l : ExecutorMutationLedger) : SoftwareProg Bool := do
  if !(← check .stateDirectories) then return false
  if !l.validate l.targetID then return false
  issue (.writeLedger l)

/-- `loadExecutorMutationLedger` -/
def loadExecutorMutationLedger : SoftwareProg (Except Unit (Option ExecutorMutationLedger)) := do
  match ← issue .readLedger with
  | .error _ => return .error ()
  | .ok none => return .ok none
  | .ok (some l) => return if l.validate E.target.targetID then .ok (some l) else .error ()

/-- `loadCheckpoint` -/
def loadCheckpoint : Soft (Option UpdateCheckpoint) := do
  match ← Fallible.total (issue .readCheckpoint) with
  | .error _ => throw "update checkpoint is not a private regular file"
  | .ok none => pure none
  | .ok (some c) => do
    Fallible.require (c.loadable E.target) "update checkpoint is invalid"
    pure (some c)

/-- `saveCheckpoint`, with the error its caller reports -/
def saveCheckpoint (e : String) (c : UpdateCheckpoint) : Soft Unit := orFail e (issue (.writeCheckpoint c))

/-- `clearCheckpoint` -/
def clearCheckpoint : Soft Unit := orFail "remove update checkpoint" (issue .removeCheckpoint)

end Stores
end AutostreamUpdater.Software
