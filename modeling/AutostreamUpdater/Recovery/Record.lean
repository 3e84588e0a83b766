/-
The records of terminal-only software recovery: the operator's request, the absence proof of the root executor, the durable
intent with its attempts, the receipt that settles it, and the history of settled records that a later intent builds on.

An intent names the job it was opened for (`original`), the request of the attempt under way (`request`), the authority both
were admitted under, and every attempt so far. A settled intent of schema 2 carries the receipt of the clear that settled it,
and the first intent of the next job names the digest of the settled record's bytes. JSON, SHA-256 and `time.Parse` are fields
of `RecoveryContracts`. An instant is the number of nanoseconds since the zero time, so two equal ones are the same UTC value
of `time.Time`.
-/
import AutostreamUpdater.Contract.Agent
import AutostreamUpdater.Base.Chain

namespace AutostreamUpdater.Recovery

open Contract Base

abbrev Instant := ℤ

/-- `HostPullClaimRequest` -/
structure HostPullClaimRequest where
  updaterID : String
  hostID : String
  leaseGeneration : ℤ
  fence : ℤ
  activeJobID : String
  deriving DecidableEq, Repr

/-! ## Requests and proofs -/

/-- `SoftwareClaimRecoveryRequest` -/
structure SoftwareClaimRecoveryRequest where
  jobID : String
  leaseGeneration : ℕ
  targetID : String
  currentVersion : String
  targetVersion : String
  configRevision : ℤ
  ownershipEpoch : ℤ
  deriving DecidableEq, Repr

namespace SoftwareClaimRecoveryRequest

/-- `Validate` -/
def validate (r : SoftwareClaimRecoveryRequest) : Bool :=
  r.jobID == trimSpace r.jobID && identifierPattern r.jobID && r.targetID == trimSpace r.targetID &&
    identifierPattern r.targetID && r.currentVersion == trimSpace r.currentVersion && versionPattern r.currentVersion &&
    r.targetVersion == trimSpace r.targetVersion && versionPattern r.targetVersion && r.leaseGeneration != 0 &&
    (r.leaseGeneration : ℤ) < maxInt64 && 1 ≤ r.configRevision && 1 ≤ r.ownershipEpoch

/-- `sameIntent`: the requests differ in the generation at most -/
def sameIntent (r other : SoftwareClaimRecoveryRequest) : Bool :=
  { r with leaseGeneration := 0 } == { other with leaseGeneration := 0 }

end SoftwareClaimRecoveryRequest

/-- `hex.DecodeString` accepts these -/
def isHexDigit (c : Char) : Bool := isHex c || ('A' ≤ c && c ≤ 'F')

/-- `softwareClaimRecoveryRawDigestValid`: 32 bytes in lower-case hex -/
def softwareClaimRecoveryRawDigestValid (value : String) : Bool :=
  value.toList.all isHexDigit && value.toList.length == 64 && value == toLower value

/-- `SoftwareClaimRecoveryProof` -/
structure SoftwareClaimRecoveryProof where
  requestSHA256 : String
  updaterID : String
  hostID : String
  sourcePolicyRevision : ℤ
  projectionRevision : ℤ
  executorPolicyRevision : ℤ
  executorPolicySHA256 : String
  ownershipEpoch : ℤ
  runtimeVersion : String
  noMutation : Bool
  observedAt : Instant
  priorSettledRawSHA256 : String := ""
  deriving DecidableEq, Repr

/-- `Validate` -/
def SoftwareClaimRecoveryProof.validate (p : SoftwareClaimRecoveryProof) : Bool :=
  digestPattern p.requestSHA256 && identifierPattern p.updaterID && validExecutionHostID p.hostID &&
    1 ≤ p.sourcePolicyRevision && 1 ≤ p.projectionRevision && 1 ≤ p.executorPolicyRevision &&
    digestPattern p.executorPolicySHA256 && 1 ≤ p.ownershipEpoch && p.runtimeVersion == trimSpace p.runtimeVersion &&
    versionPattern p.runtimeVersion && p.noMutation && p.observedAt != 0 &&
    (p.priorSettledRawSHA256 == "" || softwareClaimRecoveryRawDigestValid p.priorSettledRawSHA256)

/-! ## Intents -/

/-- `softwareClaimRecoveryAttempt` -/
structure SoftwareClaimRecoveryAttempt where
  leaseGeneration : ℕ
  startedAt : Instant
  confirmedReread : Bool := false
  deriving DecidableEq, Repr

/-- `softwareClaimRecoveryWireResult` -/
structure SoftwareClaimRecoveryWireResult where
  status : String
  code : String
  deriving DecidableEq, Repr

/-- `softwareClaimRecoveryTerminalClearReceipt` -/
structure SoftwareClaimRecoveryTerminalClearReceipt where
  claimRequest : HostPullClaimRequest
  rootNoMutation : SoftwareClaimRecoveryProof
  observedAt : Instant
  acceptedResult : Option SoftwareClaimRecoveryWireResult := none
  deriving DecidableEq, Repr

/-- `softwareClaimRecoveryIntent` -/
structure SoftwareClaimRecoveryIntent where
  schemaVersion : ℤ
  original : SoftwareClaimRecoveryRequest
  request : SoftwareClaimRecoveryRequest
  updaterID : String
  hostID : String
  sourcePolicyRevision : ℤ
  projectionRevision : ℤ
  executorPolicyRevision : ℤ
  executorPolicySHA256 : String
  attempts : List SoftwareClaimRecoveryAttempt := []
  settled : Bool := false
  settledAt : Instant := 0
  terminalClear : Option SoftwareClaimRecoveryTerminalClearReceipt := none
  previousSettledRawSHA256 : String := ""
  deriving DecidableEq, Repr

/-- the JSON encodings and the time parser, next to what job validation needs -/
structure RecoveryContracts extends AgentContracts where
  requestJSON : SoftwareClaimRecoveryRequest → Bytes
  /-- `json.Marshal`, which refuses a time outside the years it can print -/
  intentJSON : SoftwareClaimRecoveryIntent → Option Bytes
  /-- the strict decoder: one value with known fields and nothing behind it -/
  decodeIntent : Bytes → Option SoftwareClaimRecoveryIntent
  /-- `time.Parse(time.RFC3339Nano, _)` -/
  parseTime : String → Option Instant
  deriving Inhabited

def softwareClaimRecoveryIntentMaxBytes : ℕ := 32 * 2 ^ 10
def softwareClaimRecoveryMaxAttempts : ℕ := 32
def softwareClaimRecoveryHistoryMaxFiles : ℕ := 32
def softwareClaimRecoveryHistoryMaxBytes : ℕ := 2 ^ 20

section Validators

variable (X : RecoveryContracts)

/-- `SoftwareClaimRecoveryRequest.sha256` -/
def SoftwareClaimRecoveryRequest.sha256 (r : SoftwareClaimRecoveryRequest) : String :=
  "sha256:" ++ X.sha256 (X.requestJSON r)

/-- `softwareClaimRecoveryProofMatchesIntent` -/
def softwareClaimRecoveryProofMatchesIntent (p : SoftwareClaimRecoveryProof) (i : SoftwareClaimRecoveryIntent) : Bool :=
  p.validate && p.requestSHA256 == i.request.sha256 X && p.updaterID == i.updaterID && p.hostID == i.hostID &&
    p.sourcePolicyRevision == i.sourcePolicyRevision && p.projectionRevision == i.projectionRevision &&
    p.executorPolicyRevision == i.executorPolicyRevision && p.executorPolicySHA256 == i.executorPolicySHA256 &&
    p.ownershipEpoch == i.original.ownershipEpoch && p.priorSettledRawSHA256 == i.previousSettledRawSHA256

/-- `softwareClaimRecoveryTerminalClearReceipt.validate` -/
def SoftwareClaimRecoveryTerminalClearReceipt.validate (r : SoftwareClaimRecoveryTerminalClearReceipt)
    (i : SoftwareClaimRecoveryIntent) : Bool :=
  let claim := r.claimRequest
  claim.activeJobID == i.original.jobID && claim.updaterID == i.updaterID && claim.hostID == i.hostID &&
    claim.fence == i.original.ownershipEpoch && 1 ≤ claim.leaseGeneration &&
    (claim.leaseGeneration == i.request.leaseGeneration || claim.leaseGeneration == i.request.leaseGeneration + 1) &&
    softwareClaimRecoveryProofMatchesIntent X r.rootNoMutation i && r.observedAt != 0 &&
    r.rootNoMutation.observedAt ≤ r.observedAt &&
    r.acceptedResult.all fun w => w.status == "failed" && w.code == "execution_failed"

/-- the loop over the attempts: a generation is repeated only after a confirmed reread -/
def attemptsValid (original : ℕ) : List ℕ → List SoftwareClaimRecoveryAttempt → Bool
  | _, [] => true
  | seen, a :: rest => original ≤ a.leaseGeneration && (a.leaseGeneration : ℤ) < maxInt64 && a.startedAt != 0 &&
      (!seen.contains a.leaseGeneration || a.confirmedReread) && attemptsValid original (a.leaseGeneration :: seen) rest

namespace SoftwareClaimRecoveryIntent

variable (s : SoftwareClaimRecoveryIntent)

/-- the part of `validate` that reads neither the receipt nor the attempts one by one -/
def fieldsValid : Bool :=
  (s.schemaVersion == 1 || s.schemaVersion == 2) && s.original.validate && s.request.validate &&
    s.original.sameIntent s.request && identifierPattern s.updaterID && validExecutionHostID s.hostID &&
    1 ≤ s.sourcePolicyRevision && 1 ≤ s.projectionRevision && 1 ≤ s.executorPolicyRevision &&
    digestPattern s.executorPolicySHA256 && s.attempts.length != 0 &&
    s.attempts.length ≤ softwareClaimRecoveryMaxAttempts && s.settled == (s.settledAt != 0)

/-- the receipt and the link to the record before, by schema -/
def receiptValid : Bool :=
  if s.schemaVersion == 1 then s.terminalClear.isNone && s.previousSettledRawSHA256 == ""
  else (if s.settled then s.terminalClear.any fun r => r.validate X s else s.terminalClear.isNone) &&
    (s.previousSettledRawSHA256 == "" || softwareClaimRecoveryRawDigestValid s.previousSettledRawSHA256)

/-- the first attempt is the original request, the last one the current request -/
def cursorValid : Bool :=
  (s.attempts.head?.any fun a => a.leaseGeneration == s.original.leaseGeneration) &&
    s.attempts.getLast?.any fun a => a.leaseGeneration == s.request.leaseGeneration

/-- `validate` -/
def validate : Except String Unit :=
  if !s.fieldsValid then .error "software claim recovery durable intent is invalid"
  else if !s.receiptValid X then .error "software claim recovery settled receipt or raw history is invalid"
  else if !attemptsValid s.original.leaseGeneration [] s.attempts then
    .error "software claim recovery durable attempt is invalid"
  else if !s.cursorValid then .error "software claim recovery durable attempt cursor is invalid"
  else .ok ()

end SoftwareClaimRecoveryIntent

/-- `softwareClaimRecoveryIntentSHA256`; a failed marshal leaves nothing to digest -/
def softwareClaimRecoveryIntentSHA256 (i : SoftwareClaimRecoveryIntent) : String :=
  X.sha256 ((X.intentJSON i).getD [])

/-- `sameSoftwareClaimRecoveryAuthority` -/
def sameSoftwareClaimRecoveryAuthority (a b : SoftwareClaimRecoveryIntent) : Bool :=
  a.updaterID == b.updaterID && a.hostID == b.hostID && a.original.ownershipEpoch == b.original.ownershipEpoch &&
    a.sourcePolicyRevision == b.sourcePolicyRevision && a.projectionRevision == b.projectionRevision &&
    a.executorPolicyRevision == b.executorPolicyRevision && a.executorPolicySHA256 == b.executorPolicySHA256

/-! ## Jobs against an intent -/

/-- `softwareClaimRecoveryJobMatches` -/
def softwareClaimRecoveryJobMatches (i : SoftwareClaimRecoveryIntent) (job : UpdateJob) : Bool :=
  match job.softwareUpdate with
  | none => false
  | some b => job.id == i.original.jobID && job.protocolVersion == 2 &&
      job.effectiveOperation == updateJobOperationSoftwareUpdate && job.agentServiceID == i.updaterID &&
      job.hostID == i.hostID && job.transportMode == hostTransportPullV2 &&
      job.ownershipEpoch == i.original.ownershipEpoch && job.targetID == i.original.targetID &&
      job.currentVersion == i.original.currentVersion && job.effectiveVersion == i.original.targetVersion &&
      b.configRevision == i.original.configRevision && job.policyRevision == i.projectionRevision &&
      b.sourcePolicyRevision == i.sourcePolicyRevision && b.projectionRevision == i.projectionRevision &&
      b.executorPolicyRevision == i.executorPolicyRevision && b.executorPolicySHA256 == i.executorPolicySHA256

/-! ## The history -/

/-- `softwareClaimRecoverySnapshot` without its archives: a record and the bytes it was read from -/
structure RawRecord where
  intent : SoftwareClaimRecoveryIntent
  raw : Bytes
  deriving DecidableEq, Repr

/-- the archived records under the digests of their bytes -/
abbrev Archives := List (String × RawRecord)

/-- `softwareClaimRecoveryArchiveIntents` -/
def softwareClaimRecoveryArchiveIntents (archives : Archives) : List SoftwareClaimRecoveryIntent :=
  archives.map fun e => e.2.intent

/-- the record that `PreviousSettledRawSHA256` names -/
def predecessor (archives : Archives) (i : SoftwareClaimRecoveryIntent) : Link SoftwareClaimRecoveryIntent :=
  if i.previousSettledRawSHA256 == "" then .root
  else match archives.lookup i.previousSettledRawSHA256 with
    | none => .missing
    | some r => .behind r.intent

/-- an archive that a link of `start` may lead to -/
def archiveLinkable (start i : SoftwareClaimRecoveryIntent) : Bool :=
  sameSoftwareClaimRecoveryAuthority start i && i.settled && i.schemaVersion == 2 && i.terminalClear.isSome

/-- the checks of `validateSoftwareClaimRecoveryHistory` on one record and the links from it -/
def validateHistoryFrom (head : SoftwareClaimRecoveryIntent) (archives : Archives) (start : SoftwareClaimRecoveryIntent) :
    Except String Unit :=
  if !sameSoftwareClaimRecoveryAuthority head start then
    .error "software claim recovery immutable archive authority differs from current history"
  else if !walk (predecessor archives) (fun i => i.original.jobID) (archiveLinkable start)
      softwareClaimRecoveryHistoryMaxFiles start [start.original.jobID] then
    .error "software claim recovery immutable history link is invalid"
  else .ok ()

/-- `validateSoftwareClaimRecoveryHistory` -/
def validateSoftwareClaimRecoveryHistory (head : SoftwareClaimRecoveryIntent) (archives : Archives) : Except String Unit :=
  (head :: softwareClaimRecoveryArchiveIntents archives).forM (validateHistoryFrom head archives)

end Validators
end AutostreamUpdater.Recovery
