/-
The journal on disk and the two procedures that meet at a crash: `ClearActive`, which retires the active job behind a
durable fence (`journal.clear-active.pending.json`), and `OpenJournal`, which reads the journal back and settles a fence
it finds.

A file holds the value its JSON decodes to, without the fields JSON leaves out; the encodings enter through
`JournalContracts`, for their digest and their length. `ClearActive` is a `Prog` over the file operations it makes, so it
can be cut before and after each of them, and each may fail with or without having taken effect. `OpenJournal` is a
function of the disk: the reopening process is given working file operations.
-/
import AutostreamUpdater.Base.Prog
import AutostreamUpdater.Agent.Journal

namespace AutostreamUpdater.Agent

open Contract Base

/-- `journalActiveClearMarker` -/
structure JournalActiveClearMarker where
  schemaVersion : ℤ
  previousSHA256 : String
  previous : JournalData
  deriving DecidableEq, Repr

/-- the marker as its file holds it -/
def JournalActiveClearMarker.persisted (m : JournalActiveClearMarker) : JournalActiveClearMarker :=
  { m with previous := m.previous.persisted }

/-- the marker without its port policy candidates, whose size is bounded apart from them -/
def JournalActiveClearMarker.withoutCandidates (m : JournalActiveClearMarker) : JournalActiveClearMarker :=
  ⟨m.schemaVersion, m.previousSHA256, { m.previous with activePortPolicy := none }⟩

/-- the JSON encodings, next to what validation needs -/
structure JournalContracts extends AgentContracts where
  journalJSON : JournalData → Bytes
  markerJSON : JournalActiveClearMarker → Bytes

def journalActiveClearMarkerVersion : ℤ := 1
def journalActiveClearMarkerMaxSize : ℕ := 2 ^ 20
def journalPortActiveClearMarkerMaxSize : ℕ := 2 ^ 22

section Marker

variable (E : JournalContracts)

/-- `journalDataSHA256` -/
def journalDataSHA256 (d : JournalData) : String := "sha256:" ++ E.sha256 (E.journalJSON d.persisted)

/-- the length of a marker's JSON with its newline -/
def markerLength (m : JournalActiveClearMarker) : ℕ := (E.markerJSON m.persisted).length + 1

/-- `activeClearMarkerSizeLimit` -/
def activeClearMarkerSizeLimit (m : JournalActiveClearMarker) : ℕ :=
  if m.previous.activePortPolicy.isSome then journalPortActiveClearMarkerMaxSize else journalActiveClearMarkerMaxSize

/-- the job or a report still carries an execution credential -/
def jobCredential (d : JournalData) : Bool := d.activeJob.any fun j => j.leaseToken != "" || j.releaseToken != ""
def reportCredential (d : JournalData) : Bool := d.pending.any fun p => p.report.leaseToken != ""

/-- `validateActiveClearMarker` -/
def validateActiveClearMarker (m : JournalActiveClearMarker) : Except String Unit :=
  if m.schemaVersion != journalActiveClearMarkerVersion || !digestPattern m.previousSHA256 ||
      m.previous.activeJob.isNone then
    .error "active journal clear fence is invalid"
  else match validateJournalData E.toAgentContracts m.previous with
    | .error reason => .error ("active journal clear fence previous state is invalid: " ++ reason)
    | .ok () =>
      if markerLength E m.withoutCandidates > journalActiveClearMarkerMaxSize then
        .error "active journal clear fence metadata exceeds its bound"
      else if jobCredential m.previous then .error "active journal clear fence contains an execution credential"
      else if reportCredential m.previous then .error "active journal clear fence contains a report credential"
      else if journalDataSHA256 E m.previous != m.previousSHA256 then
        .error "active journal clear fence digest is invalid"
      else .ok ()

/-- the marker that binds `previous` -/
def activeClearMarker (previous : JournalData) : JournalActiveClearMarker :=
  ⟨journalActiveClearMarkerVersion, journalDataSHA256 E previous, previous⟩

/-- the checks `installActiveClearMarkerLocked` makes before it touches the disk -/
def checkActiveClearMarker (previous : JournalData) : Except String Unit :=
  if previous.activeJob.isNone || jobCredential previous then .error "active journal state is not credential-free"
  else if reportCredential previous then .error "pending journal report is not credential-free"
  else validateActiveClearMarker E (activeClearMarker E previous)

end Marker

/-! ## The disk -/

/-- the contents of a fence file; `none` is a file that does not decode -/
abbrev FenceFile := Option JournalActiveClearMarker

/-- the state directory: `journal.json`, the fence and its temporary file -/
structure Disk where
  main : Option JournalData
  marker : Option FenceFile := none
  temp : Option FenceFile := none
  deriving DecidableEq, Repr

/-- the file operations of `ClearActive` -/
inductive FileOp where
  | removeTemp
  | discardTemp
  | createTemp
  | writeTemp (m : JournalActiveClearMarker)
  | statTemp
  | renameTemp
  | syncDir
  | saveJournal (d : JournalData)
  | removeMarker
  deriving DecidableEq, Repr

/-- a read of the fence, or a file operation -/
inductive StoreOp where
  | loadMarker
  | file (f : FileOp)
  deriving DecidableEq, Repr

/-- an operation succeeds, fails, or fails after it took effect -/
inductive Outcome where
  | ok | fail | failDone
  deriving DecidableEq, Repr

/-- the reply of an operation -/
abbrev StoreRes : StoreOp → Type
  | .loadMarker => Except String (Option JournalActiveClearMarker)
  | .file _ => Except String Unit

section World

variable (E : JournalContracts)

/-- `loadActiveClearMarkerLocked` on a readable file -/
def loadActiveClearMarker : Option FenceFile → Except String (Option JournalActiveClearMarker)
  | none => .ok none
  | some none => .error "decode active journal clear fence"
  | some (some m) =>
    if markerLength E m > journalPortActiveClearMarkerMaxSize then .error "active journal clear fence is unsafe"
    else if markerLength E m > activeClearMarkerSizeLimit m then .error "active journal clear fence exceeds its bound"
    else match validateActiveClearMarker E m with
      | .error reason => .error reason
      | .ok () => .ok (some m)

/-- a write: its effect and its reply under each outcome -/
def written (s s' : Disk) (reason : String) : Outcome → Except String Unit × Disk
  | .ok => (.ok (), s')
  | .fail => (.error reason, s)
  | .failDone => (.error reason, s')

/-- what a file operation replies and leaves behind -/
def fileNext (s : Disk) (c : Outcome) : FileOp → Except String Unit × Disk
  | .removeTemp => written s { s with temp := none } "active journal clear fence temporary file is unsafe" c
  | .discardTemp => written s { s with temp := none } "remove" c
  | .createTemp =>
    -- the file is created exclusively
    if s.temp.isSome then (.error "file exists", s) else written s { s with temp := some none } "open" c
  | .writeTemp m => written s { s with temp := some (some m.persisted) } "write" c
  | .statTemp => written s s "stat" c
  | .renameTemp => match s.temp with
    | none => (.error "no such file", s)
    | some file => written s { s with marker := some file, temp := none } "rename" c
  | .syncDir => written s s "sync" c
  | .saveJournal d => written s { s with main := some d.persisted } "install update journal" c
  | .removeMarker =>
    if s.marker.isNone then (.error "active journal clear fence changed before cleanup", s)
    else written s { s with marker := none } "remove active journal clear fence" c

/-- what an operation replies and leaves behind -/
def storeNext (s : Disk) : (o : StoreOp) → Outcome → StoreRes o × Disk
  | .loadMarker, .ok => (loadActiveClearMarker E s.marker, s)
  | .loadMarker, _ => (.error "active journal clear fence is unsafe", s)
  | .file f, c => fileNext s c f

end World

/-! ## ClearActive -/

/-- `Journal`: the data in memory, and the error that froze it -/
structure Journal where
  data : JournalData
  poisoned : Option String := none
  deriving DecidableEq, Repr

/-- `poisonLocked`: the first cause stays -/
def Journal.poisonLocked (j : Journal) (cause : String) : Except String Unit × Journal :=
  let reason := j.poisoned.getD ("update journal durability is uncertain; restart required: " ++ cause)
  (.error reason, { j with poisoned := some reason })

section Programs

variable (E : JournalContracts)

abbrev StoreProg := Prog StoreOp StoreRes

/-- issue a file operation -/
abbrev file (f : FileOp) : StoreProg (Except String Unit) := Prog.op (StoreOp.file f)

/-- read the fence -/
abbrev loadMarker : StoreProg (Except String (Option JournalActiveClearMarker)) := Prog.op StoreOp.loadMarker

/-- a reply, with the caller's words before the error -/
def wrapped (text : String) : Except String Unit → Except String Unit
  | .ok () => .ok ()
  | .error reason => .error (text ++ reason)

/-- the last part of `installActiveClearMarkerLocked`: a rename error may be reported after the marker became visible -/
def renameActiveClearMarker (m : JournalActiveClearMarker) : StoreProg (Except String Unit) := do
  match ← file .renameTemp with
  | .error reason =>
    match ← loadMarker with
    | .ok (some installed) =>
      if installed.previousSHA256 = m.previousSHA256 then
        let _ ← file .syncDir
        pure (.error ("install active journal clear fence reported an error: " ++ reason))
      else
        let _ ← file .removeTemp
        pure (.error ("install active journal clear fence: " ++ reason))
    | _ =>
      let _ ← file .removeTemp
      pure (.error ("install active journal clear fence: " ++ reason))
  | .ok () =>
    let synced ← file .syncDir
    pure (wrapped "sync active journal clear fence parent: " synced)

/-- the middle part of `installActiveClearMarkerLocked`: the temporary file -/
def writeActiveClearMarker (m : JournalActiveClearMarker) : StoreProg (Except String Unit) :=
  if markerLength E m > activeClearMarkerSizeLimit m then pure (.error "encode active journal clear fence")
  else do
    match ← file .createTemp with
    | .error _ => pure (.error "create active journal clear fence")
    | .ok () =>
      match ← file (.writeTemp m) with
      | .error reason =>
        let _ ← file .discardTemp
        pure (.error ("write active journal clear fence: " ++ reason))
      | .ok () =>
        match ← file .statTemp with
        | .error _ =>
          let _ ← file .discardTemp
          pure (.error "active journal clear fence temporary file is unsafe")
        | .ok () => renameActiveClearMarker m

/-- `installActiveClearMarkerLocked` -/
def installActiveClearMarkerLocked (previous : JournalData) : StoreProg (Except String Unit) :=
  match checkActiveClearMarker E previous with
  | .error reason => pure (.error reason)
  | .ok () => do
    match ← loadMarker with
    | .error reason => pure (.error reason)
    | .ok (some existing) =>
      if existing.previousSHA256 ≠ journalDataSHA256 E previous then
        pure (.error "active journal clear fence already has another binding")
      else
        let synced ← file .syncDir
        pure (wrapped "sync existing active journal clear fence: " synced)
    | .ok none =>
      match ← file .removeTemp with
      | .error reason => pure (.error reason)
      | .ok () => writeActiveClearMarker E (activeClearMarker E previous)

/-- the part of `ClearActive` behind the installed fence -/
def saveClearedActive (j : Journal) : StoreProg (Except String Unit × Journal) := do
  match ← file (.saveJournal j.data.cleared) with
  | .error reason => pure (j.poisonLocked ("persist cleared active journal: " ++ reason))
  | .ok () =>
    let next : Journal := { j with data := j.data.cleared }
    match ← file .removeMarker with
    | .error reason => pure (next.poisonLocked ("remove active journal clear fence: " ++ reason))
    | .ok () => pure (.ok (), next)

/-- `ClearActive` -/
def clearActive (j : Journal) : StoreProg (Except String Unit × Journal) :=
  match j.poisoned with
  | some reason => pure (.error reason, j)
  | none =>
    if j.data.activeJob.isNone then pure (.ok (), j)
    else do
      match ← installActiveClearMarkerLocked E j.data with
      | .error reason => pure (j.poisonLocked ("install active journal clear fence: " ++ reason))
      | .ok () => saveClearedActive j

/-! ## OpenJournal -/

/-- `reconcileActiveClearMarkerLocked`: the disk without its temporary file and without a fence that matches the journal -/
def reconcileActiveClearMarkerLocked (s : Disk) (current : Option JournalData) : Except String Disk :=
  match loadActiveClearMarker E s.marker with
  | .error reason => .error reason
  | .ok none => .ok { s with temp := none }
  | .ok (some m) => match current with
    | none => .error "active journal clear fence exists without the main journal"
    | some d =>
      if journalDataSHA256 E d ≠ m.previousSHA256 ∧
          journalDataSHA256 E d ≠ journalDataSHA256 E m.previous.clearedByMarker then
        .error "active journal clear fence does not match the main journal"
      else .ok { s with temp := none, marker := none }

/-- whether the restart keeps the pending reports -/
def retainSoftwarePending (d : JournalData) : Except String Bool :=
  if d.pending ≠ [] ∧ d.activeJob.any (·.isV2SoftwareJob) then
    match validateJournalSoftwarePendingForRestart E.toAgentContracts d with
    | .error reason => .error reason
    | .ok () => .ok true
  else .ok false

/-- the journal without credentials, and without reports unless they are retained -/
def scrubbed (retain : Bool) (d : JournalData) : JournalData :=
  { d with activeJob := d.activeJob.map fun j => { j with leaseToken := "", releaseToken := "" }
           pending := if retain then d.pending else [] }

/-- `OpenJournal` -/
def openJournal (s : Disk) : Except String (Journal × Disk) :=
  match s.main with
  | none => do
    let s ← reconcileActiveClearMarkerLocked E s none
    .ok (⟨{}, none⟩, s)
  | some main => do
    let d := main.normalized
    validateJournalData E.toAgentContracts d
    let s ← reconcileActiveClearMarkerLocked E s (some d)
    let retain ← retainSoftwarePending E d
    let opened := scrubbed retain d
    .ok (⟨opened, none⟩, if opened = d then s else { s with main := some opened.persisted })

end Programs
end AutostreamUpdater.Agent
