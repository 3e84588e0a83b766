/-
The recovery intent on disk: `software-claim-recovery.json`, and the directory of settled records beside it.

`loadSoftwareClaimRecoverySnapshot` is the strict reader: it accepts the current record only together with the whole history
directory. `saveSoftwareClaimRecoveryIntent` replaces the record of the same job, `transitionSoftwareClaimRecoveryIntent`
opens the record of another job after it has archived the settled one. Both are `Prog`s over the file operations they make.
Replacing the current record is atomic; an archive is created exclusively and then written in place, so a write may leave any
first part of it behind.

A read succeeds on a directory whose entries have the owner, the mode and the kind the reader asks for; where one has not, the
choice of the operation makes it fail. The directory is a list of file names with their bytes.
-/
import AutostreamUpdater.Base.Prog
import AutostreamUpdater.Recovery.Record

namespace AutostreamUpdater.Recovery

open Contract Base

/-! ## Reading -/

/-- the state directory, as far as recovery uses it -/
structure RecoveryDisk where
  head : Option Bytes := none
  history : Option (List (String × Bytes)) := none
  deriving DecidableEq, Repr

/-- `softwareClaimRecoverySnapshot` of the current record -/
structure SoftwareClaimRecoverySnapshot extends RawRecord where
  /-- `none` where there is no history directory -/
  archives : Option Archives
  deriving DecidableEq, Repr

/-- the file name of an archive -/
def archiveFile (digest : String) : String := digest ++ ".json"

/-- the digest that an archive's file name stands for -/
def archiveDigest (file : String) : Option String :=
  let chars := file.toList
  let name := String.ofList (chars.take (chars.length - 5))
  if chars.drop (chars.length - 5) == ".json".toList && softwareClaimRecoveryRawDigestValid name then some name else none

section Read

variable (X : RecoveryContracts)

/-- `softwareClaimRecoveryRawSHA256` -/
def softwareClaimRecoveryRawSHA256 (payload : Bytes) : String := X.sha256 payload

/-- `readSoftwareClaimRecoveryRaw` on the bytes of a safe file -/
def readSoftwareClaimRecoveryRaw (payload : Bytes) : Except String RawRecord :=
  if payload.length == 0 || payload.length > softwareClaimRecoveryIntentMaxBytes then
    .error "software claim recovery raw record is unsafe"
  else match X.decodeIntent payload with
    | none => .error "decode software claim recovery raw record"
    | some intent =>
      if !(intent.validate X).isOk then .error "decode software claim recovery raw record" else .ok ⟨intent, payload⟩

/-- one entry of the history directory -/
def readSoftwareClaimRecoveryArchive (entry : String × Bytes) : Except String (String × RawRecord) :=
  match archiveDigest entry.1 with
  | none => .error "software claim recovery history contains an unknown entry"
  | some name => match readSoftwareClaimRecoveryRaw X entry.2 with
    | .error _ => .error "software claim recovery raw archive is invalid"
    | .ok archive =>
      if softwareClaimRecoveryRawSHA256 X archive.raw != name || archive.intent.schemaVersion != 2 ||
          !archive.intent.settled || archive.intent.terminalClear.isNone then
        .error "software claim recovery raw archive is invalid"
      else .ok (name, archive)

/-- the bytes of all archives -/
def archivesSize (archives : Archives) : ℕ := (archives.map fun e => e.2.raw.length).sum

/-- `readSoftwareClaimRecoveryArchives` -/
def readSoftwareClaimRecoveryArchives : Option (List (String × Bytes)) → Except String (Option Archives)
  | none => .ok none
  | some entries =>
    if entries.length > softwareClaimRecoveryHistoryMaxFiles then
      .error "software claim recovery history exceeds the fixed entry bound"
    else match entries.mapM (readSoftwareClaimRecoveryArchive X) with
      | .error reason => .error reason
      | .ok archives =>
        if archivesSize archives > softwareClaimRecoveryHistoryMaxBytes then
          .error "software claim recovery history exceeds the fixed byte bound"
        else .ok (some archives)

/-- `loadSoftwareClaimRecoverySnapshot`; `none` where there is no record -/
def loadSoftwareClaimRecoverySnapshot (d : RecoveryDisk) : Except String (Option SoftwareClaimRecoverySnapshot) :=
  match d.head with
  | none => match readSoftwareClaimRecoveryArchives X d.history with
    | .ok none => .ok none
    | _ => .error "software claim recovery history has no safe current record"
  | some payload => match readSoftwareClaimRecoveryRaw X payload with
    | .error reason => .error reason
    | .ok head => match readSoftwareClaimRecoveryArchives X d.history with
      | .error _ => .error "software claim recovery history has no safe current record"
      | .ok archives => match validateSoftwareClaimRecoveryHistory head.intent (archives.getD []) with
        | .error reason => .error reason
        | .ok () => .ok (some ⟨head, archives⟩)

end Read

/-! ## File operations -/

/-- the file operations of the two writers -/
inductive DiskOp where
  | checkParent
  | load
  | mkdirHistory
  | checkHistoryParent
  | checkHistory
  | createArchive (file : String)
  | readArchive (file : String)
  | openArchive (file : String)
  | writeArchive (file : String) (payload : Bytes)
  | syncArchive
  | syncHistory
  | syncState
  | writeCurrent (payload : Bytes)
  deriving DecidableEq, Repr

/-- the answer to an exclusive creation -/
inductive CreateReply where
  | created | present | failed
  deriving DecidableEq, Repr

/-- an operation succeeds, fails, fails after it took effect, or is a write that stops after some bytes -/
inductive Outcome where
  | ok | fail | failDone
  | short (n : ℕ)
  deriving DecidableEq, Repr

/-- the reply of an operation; `true` stands for no error -/
abbrev DiskRes : DiskOp → Type
  | .load => Except String (Option SoftwareClaimRecoverySnapshot)
  | .createArchive _ => CreateReply
  | .readArchive _ => Except String (Option RawRecord)
  | _ => Bool

/-- the bytes of one file replaced -/
def setFile (file : String) (payload : Bytes) (entries : List (String × Bytes)) : List (String × Bytes) :=
  entries.map fun e => if e.1 == file then (e.1, payload) else e

section World

variable (X : RecoveryContracts)

/-- an operation that only answers -/
def answered (d : RecoveryDisk) : Outcome → Bool × RecoveryDisk
  | .ok => (true, d)
  | _ => (false, d)

/-- an operation with one effect -/
def performed (d d' : RecoveryDisk) : Outcome → Bool × RecoveryDisk
  | .ok => (true, d')
  | .failDone => (false, d')
  | _ => (false, d)

/-- an exclusive creation of a file that is there -/
def present : Outcome → CreateReply
  | .ok => .present
  | _ => .failed

/-- an exclusive creation of a file that is not there -/
def created (d : RecoveryDisk) (file : String) (entries : List (String × Bytes)) : Outcome → CreateReply × RecoveryDisk
  | .ok => (.created, { d with history := some (entries ++ [(file, [])]) })
  | .failDone => (.failed, { d with history := some (entries ++ [(file, [])]) })
  | _ => (.failed, d)

/-- a write in place; it may stop anywhere -/
def wrote (d : RecoveryDisk) (file : String) (payload : Bytes) (entries : List (String × Bytes)) :
    Outcome → Bool × RecoveryDisk
  | .ok => (true, { d with history := some (setFile file payload entries) })
  | .failDone => (false, { d with history := some (setFile file payload entries) })
  | .short n => (false, { d with history := some (setFile file (payload.take n) entries) })
  | .fail => (false, d)

/-- a file of the history directory -/
def archiveBytes (d : RecoveryDisk) (file : String) : Option Bytes := d.history.bind fun entries => entries.lookup file

/-- what an operation replies and leaves behind -/
def diskNext (d : RecoveryDisk) : (o : DiskOp) → Outcome → DiskRes o × RecoveryDisk
  | .load, .ok => (loadSoftwareClaimRecoverySnapshot X d, d)
  | .load, _ => (.error "software claim recovery raw record is unsafe", d)
  | .createArchive file, c => match d.history with
    | none => (.failed, d)
    | some entries => if (entries.lookup file).isSome then (present c, d) else created d file entries c
  | .readArchive file, .ok => match archiveBytes d file with
    | none => (.ok none, d)
    | some payload => ((readSoftwareClaimRecoveryRaw X payload).map some, d)
  | .readArchive _, _ => (.error "software claim recovery raw record is unsafe", d)
  | .writeArchive file payload, c => match d.history with
    | none => (false, d)
    | some entries => wrote d file payload entries c
  | .mkdirHistory, c => performed d { d with history := some (d.history.getD []) } c
  | .writeCurrent payload, c => performed d { d with head := some payload } c
  | .checkParent, c => answered d c
  | .checkHistoryParent, c => answered d c
  | .checkHistory, c => answered d c
  | .openArchive _, c => answered d c
  | .syncArchive, c => answered d c
  | .syncHistory, c => answered d c
  | .syncState, c => answered d c

end World

/-! ## Writers -/

abbrev DiskProg := Prog DiskOp DiskRes

section Programs

variable (X : RecoveryContracts)

variable (previousRawSHA256 : String) (next : SoftwareClaimRecoveryIntent)

/-- issue an operation -/
abbrev disk (o : DiskOp) : DiskProg (DiskRes o) := Prog.op o

/-- the checks of `saveSoftwareClaimRecoveryIntent` on the record it replaces -/
def checkReplaced (previous next : SoftwareClaimRecoveryIntent) : Except String Unit :=
  if previous.schemaVersion != next.schemaVersion || previous.previousSettledRawSHA256 != next.previousSettledRawSHA256 ||
      !previous.original.sameIntent next.original || previous.original != next.original ||
      previous.updaterID != next.updaterID || previous.hostID != next.hostID ||
      previous.sourcePolicyRevision != next.sourcePolicyRevision ||
      previous.projectionRevision != next.projectionRevision ||
      previous.executorPolicyRevision != next.executorPolicyRevision ||
      previous.executorPolicySHA256 != next.executorPolicySHA256 || previous.settled ||
      next.attempts.length < previous.attempts.length || next.attempts.length > previous.attempts.length + 1 then
    .error "software claim recovery CAS cannot replace immutable history"
  else if next.attempts.take previous.attempts.length != previous.attempts then
    .error "software claim recovery CAS cannot rewrite previous attempts"
  else .ok ()

/-- the compare-and-swap of `saveSoftwareClaimRecoveryIntent` on the record it found -/
def checkSave (found : Except String (Option SoftwareClaimRecoverySnapshot)) (previousSHA256 : String)
    (next : SoftwareClaimRecoveryIntent) : Except String Unit :=
  match found with
  | .error _ => .error "software claim recovery durable intent compare-and-swap failed"
  | .ok none =>
    if previousSHA256 != "" then .error "software claim recovery durable intent compare-and-swap failed" else .ok ()
  | .ok (some previous) =>
    if softwareClaimRecoveryIntentSHA256 X previous.intent != previousSHA256 then
      .error "software claim recovery durable intent compare-and-swap failed"
    else checkReplaced previous.intent next

/-- the bytes of a record, with the newline behind it -/
def encodeIntent (i : SoftwareClaimRecoveryIntent) : Option Bytes :=
  match X.intentJSON i with
  | none => none
  | some payload => if payload.length + 1 > softwareClaimRecoveryIntentMaxBytes then none else some (payload ++ [10])

/-- `saveSoftwareClaimRecoveryIntent` -/
def saveSoftwareClaimRecoveryIntent (previousSHA256 : String) (next : SoftwareClaimRecoveryIntent) :
    DiskProg (Except String Unit) :=
  if !(next.validate X).isOk then pure (.error "software claim recovery intent or parent is unsafe")
  else do
    if ! (← disk .checkParent) then pure (.error "software claim recovery intent or parent is unsafe")
    else
      match checkSave X (← disk .load) previousSHA256 next with
      | .error reason => pure (.error reason)
      | .ok () => match encodeIntent X next with
        | none => pure (.error "encode software claim recovery durable intent")
        | some payload =>
          if ← disk (.writeCurrent payload) then pure (.ok ())
          else pure (.error "persist software claim recovery durable intent; outcome remains uncertain")

variable (old : SoftwareClaimRecoverySnapshot)

/-- the room for one more archive -/
def archiveFits : Bool :=
  let archives := old.archives.getD []
  archives.length < softwareClaimRecoveryHistoryMaxFiles &&
    old.raw.length + archivesSize archives ≤ softwareClaimRecoveryHistoryMaxBytes

/-- the checks of `preserveSoftwareClaimRecoveryRawArchive` before it touches the directory -/
def checkArchive : Except String Unit :=
  match (old.archives.getD []).lookup (softwareClaimRecoveryRawSHA256 X old.raw) with
  | some existing =>
    if existing.raw != old.raw then
      .error "software claim recovery immutable archive differs from the current original" else .ok ()
  | none =>
    if !archiveFits old then .error "software claim recovery immutable archive capacity is exhausted" else .ok ()

/-- the end of `preserveSoftwareClaimRecoveryRawArchive`: the archive and both directories made durable -/
def syncArchive : DiskProg (Except String Unit) := do
  let failed : Except String Unit :=
    .error "persist software claim recovery immutable archive; current original remains"
  if ! (← disk .syncArchive) then pure failed
  else if ! (← disk .syncHistory) then pure failed
  else if ! (← disk .syncState) then pure failed
  else pure (.ok ())

/-- the middle of `preserveSoftwareClaimRecoveryRawArchive`: a new file with the old bytes, or one that already has them -/
def writeArchive (raw : Bytes) : DiskProg (Except String Unit) := do
  let digest := softwareClaimRecoveryRawSHA256 X raw
  match ← disk (.createArchive (archiveFile digest)) with
  | .failed => pure (.error "open software claim recovery immutable archive")
  | .created =>
    if ← disk (.writeArchive (archiveFile digest) raw) then syncArchive
    else pure (.error "write software claim recovery immutable archive")
  | .present =>
    match ← disk (.readArchive (archiveFile digest)) with
    | .ok (some archive) =>
      if softwareClaimRecoveryRawSHA256 X archive.raw != digest || archive.raw != raw then
        pure (.error "software claim recovery existing raw archive is unsafe or different")
      else if ← disk (.openArchive (archiveFile digest)) then syncArchive
      else pure (.error "open software claim recovery immutable archive")
    | _ => pure (.error "software claim recovery existing raw archive is unsafe or different")

/-- `preserveSoftwareClaimRecoveryRawArchive` -/
def preserveSoftwareClaimRecoveryRawArchive : DiskProg (Except String Unit) :=
  match checkArchive X old with
  | .error reason => pure (.error reason)
  | .ok () => do
    if ! (← disk .mkdirHistory) then pure (.error "create software claim recovery history directory")
    else if ! (← disk .checkHistoryParent) then pure (.error "software claim recovery history parent is unsafe")
    else if ! (← disk .checkHistory) then pure (.error "software claim recovery history directory is unsafe")
    else writeArchive X old.raw

/-- the checks of `transitionSoftwareClaimRecoveryIntent` on its arguments -/
def transitionAdmissible (proof : SoftwareClaimRecoveryProof) : Bool :=
  softwareClaimRecoveryRawDigestValid previousRawSHA256 && next.schemaVersion == 2 && (next.validate X).isOk &&
    !next.settled && next.terminalClear.isNone && next.attempts.length == 1 &&
    next.previousSettledRawSHA256 == previousRawSHA256 && softwareClaimRecoveryProofMatchesIntent X proof next

/-- the settled record that a transition to `next` may archive -/
def headReplaceable (previousRawSHA256 : String)
    (next : SoftwareClaimRecoveryIntent) : Bool :=
  softwareClaimRecoveryRawSHA256 X old.raw == previousRawSHA256 && old.intent.schemaVersion == 2 && old.intent.settled &&
    old.intent.terminalClear.isSome && old.intent.original.jobID != next.original.jobID &&
    sameSoftwareClaimRecoveryAuthority old.intent next

/-- the checks of `transitionSoftwareClaimRecoveryIntent` on the record it found -/
def checkTransition (found : Except String (Option SoftwareClaimRecoverySnapshot)) (previousRawSHA256 : String)
    (next : SoftwareClaimRecoveryIntent) : Except String SoftwareClaimRecoverySnapshot :=
  match found with
  | .ok (some old) =>
    if !headReplaceable X old previousRawSHA256 next then
      .error "software claim recovery raw head compare-and-swap failed"
    else if (old.archives.getD []).any fun e => e.2.intent.original.jobID == next.original.jobID then
      .error "software claim recovery cannot reuse a historical job identity"
    else .ok old
  | _ => .error "software claim recovery raw head compare-and-swap failed"

/-- the checks of `transitionSoftwareClaimRecoveryIntent` behind the durable archive, and the bytes of the new record -/
def checkArchived (found : Except String (Option SoftwareClaimRecoverySnapshot)) (old : SoftwareClaimRecoverySnapshot)
    (previousRawSHA256 : String) (next : SoftwareClaimRecoveryIntent) : Except String Bytes :=
  match found with
  | .ok (some current) =>
    if softwareClaimRecoveryRawSHA256 X current.raw != previousRawSHA256 || current.raw != old.raw then
      .error "software claim recovery raw head changed after durable archive; no claim was sent"
    else if !(validateSoftwareClaimRecoveryHistory next (current.archives.getD [])).isOk then
      .error "software claim recovery new head has incomplete immutable history"
    else match encodeIntent X next with
      | none => .error "encode software claim recovery history head"
      | some payload => .ok payload
  | _ => .error "software claim recovery raw head changed after durable archive; no claim was sent"

/-- the part of `transitionSoftwareClaimRecoveryIntent` behind the durable archive -/
def replaceHead (previousRawSHA256 : String) (next : SoftwareClaimRecoveryIntent) :
    DiskProg (Except String Unit) := do
  match checkArchived X (← disk .load) old previousRawSHA256 next with
  | .error reason => pure (.error reason)
  | .ok payload =>
    if ← disk (.writeCurrent payload) then pure (.ok ())
    else pure (.error
      "persist software claim recovery history head; outcome remains uncertain and no claim was sent")

/-- `transitionSoftwareClaimRecoveryIntent` -/
def transitionSoftwareClaimRecoveryIntent (proof : SoftwareClaimRecoveryProof) : DiskProg (Except String Unit) := do
  if ! (← disk .checkParent) then
    pure (.error "software claim recovery history transition lacks an exact root proof")
  else if !transitionAdmissible X previousRawSHA256 next proof then
    pure (.error "software claim recovery history transition lacks an exact root proof")
  else
    match checkTransition X (← disk .load) previousRawSHA256 next with
    | .error reason => pure (.error reason)
    | .ok old =>
      match ← preserveSoftwareClaimRecoveryRawArchive X old with
      | .error reason => pure (.error reason)
      | .ok () => replaceHead X old previousRawSHA256 next

end Programs
end AutostreamUpdater.Recovery
