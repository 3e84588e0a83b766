/-
Every state in which a writer of the recovery intent can be stopped.

`save_spec` and `transition_spec` hold of each execution, whatever fails and wherever it is cut. A save leaves the disk as it
found it or has replaced the current record under its checks. A transition first archives: it leaves the archive absent,
partly written or complete (`Archiving`), and only behind a complete one that the strict reader accepted does it replace the
current record.
-/
import AutostreamUpdater.Recovery.Laws

namespace AutostreamUpdater.Recovery

open Contract Base Prog

abbrev DiskStep := Step RecoveryDisk DiskRes

/-- some step has left the record it wrote as the current one -/
def recordedIn (tr : List DiskStep) : Bool := tr.any fun x => match x.op with
  | .writeCurrent payload => x.post.head == some payload
  | _ => false

theorem recordedIn_append (a b : List DiskStep) : recordedIn (a ++ b) = (recordedIn a || recordedIn b) :=
  List.any_append

section Writers

variable {X : RecoveryContracts} {d s : RecoveryDisk} {tr : List DiskStep} {C : List DiskStep → RecoveryDisk → Prop}
  {A : RecoveryDisk → Prop}

/-- the operations that write no current record -/
def Sparing : DiskOp → Prop
  | .writeCurrent _ => False
  | _ => True

theorem recordedIn_sparing {o : DiskOp} (ho : Sparing o) (c : Outcome) (h : recordedIn tr = false) :
    recordedIn (tr ++ [stepOf (diskNext X) s o c]) = false := by
  rw [recordedIn_append, h]
  cases o with
  | writeCurrent payload => exact ho.elim
  | _ => rfl

/-- an operation that only answers, before any record is written -/
theorem wp_answered {o : DiskOp} {β : Type} {f : DiskRes o → DiskProg β} {Q : β → List DiskStep → RecoveryDisk → Prop}
    (hC : ∀ tr, recordedIn tr = false → C tr s) (ho : Sparing o) (hsame : ∀ c, (diskNext X s o c).2 = s)
    (htr : recordedIn tr = false)
    (hf : ∀ c tr, recordedIn tr = false → (f (diskNext X s o c).1).wp (diskNext X) C Q tr s) :
    (disk o >>= f).wp (diskNext X) C Q tr s := by
  refine wp_op_bind (hC tr htr) ?_
  intro c
  rw [hsame c]
  exact hf c _ (recordedIn_sparing ho c htr)

theorem load_same (c : Outcome) : (diskNext X s .load c).2 = s := by cases c <;> rfl

/-- a check that passes on the reply passes on the record: a failed load is refused -/
theorem load_checked {α : Type} {g : Except String (Option SoftwareClaimRecoverySnapshot) → Except String α}
    (hg : ∀ reason, (g (.error reason)).isOk = false) {c : Outcome} {a : α}
    (h : g (diskNext X s .load c).1 = .ok a) : g (loadSoftwareClaimRecoverySnapshot X s) = .ok a := by
  cases c with
  | ok => exact h
  | _ =>
    have hfail := hg "software claim recovery raw record is unsafe"
    rw [show g (.error _) = .ok a from h] at hfail
    cases hfail

/-- a refusal promises nothing -/
theorem wp_refused {reason : String} (hC : C tr s) :
    (pure (.error reason) : DiskProg (Except String Unit)).wp (diskNext X) C
      (fun r tr _ => r = .ok () → recordedIn tr = true) tr s :=
  ⟨hC, fun h => by cases h⟩

/-- the replacement of the current record -/
theorem wp_writeCurrent {payload : Bytes} {text : String} {Q : Except String Unit → List DiskStep → RecoveryDisk → Prop}
    (hC : ∀ tr, recordedIn tr = false → C tr s)
    (hdone : ∀ tr, recordedIn tr = true → C tr { s with head := some payload } ∧
      ∀ r, Q r tr { s with head := some payload })
    (hfail : ∀ tr, recordedIn tr = false → ∀ reason, Q (.error reason) tr s) (htr : recordedIn tr = false) :
    (disk (.writeCurrent payload) >>= fun done => if done then pure (.ok ()) else pure (.error text)).wp (diskNext X) C Q
      tr s := by
  refine wp_op_bind (hC tr htr) fun c => ?_
  have hrec : recordedIn (tr ++ [stepOf (diskNext X) s (.writeCurrent payload) c]) =
      ((diskNext X s (.writeCurrent payload) c).2.head == some payload) := by
    rw [recordedIn_append, htr]
    simp [recordedIn, stepOf]
  by_cases hpost : (diskNext X s (.writeCurrent payload) c).2 = { s with head := some payload }
  · have hdone := hdone (tr ++ [stepOf (diskNext X) s (.writeCurrent payload) c]) (by rw [hrec, hpost]; simp)
    rw [hpost]
    split
    · exact ⟨hdone.1, hdone.2 _⟩
    · exact ⟨hdone.1, hdone.2 _⟩
  · -- the write has failed over another record; over the same one it could not be told from one that took effect
    have hnext : diskNext X s (.writeCurrent payload) c = (false, s) := by
      cases c with
      | ok => exact absurd rfl hpost
      | failDone => exact absurd rfl hpost
      | _ => rfl
    have hnot : recordedIn (tr ++ [stepOf (diskNext X) s (.writeCurrent payload) c]) = false := by
      rw [hnext] at hpost
      rw [hrec, hnext, beq_eq_false_iff_ne]
      exact fun h => hpost (by rw [← h])
    rw [hnext]
    exact ⟨hC _ hnot, hfail _ hnot _⟩

/-! ## Saves -/

/-- what a save admits before it writes -/
def SaveAdmitted (X : RecoveryContracts) (d : RecoveryDisk) (previousSHA256 : String) (next : SoftwareClaimRecoveryIntent)
    (payload : Bytes) : Prop :=
  next.validate X = .ok () ∧ checkSave X (loadSoftwareClaimRecoverySnapshot X d) previousSHA256 next = .ok () ∧
    encodeIntent X next = some payload

/-- what a save leaves -/
def SaveLeft (X : RecoveryContracts) (d : RecoveryDisk) (previousSHA256 : String) (next : SoftwareClaimRecoveryIntent)
    (tr : List DiskStep) (s : RecoveryDisk) : Prop :=
  recordedIn tr = false ∧ s = d ∨
    recordedIn tr = true ∧ ∃ payload, SaveAdmitted X d previousSHA256 next payload ∧ s = { d with head := some payload }

/-- **Saves.** Wherever a save stops, it has left the disk alone or replaced the current record under its checks; it
reports success only in the second case. -/
theorem save_spec (d : RecoveryDisk) (previousSHA256 : String) (next : SoftwareClaimRecoveryIntent) (cs : List Outcome) :
    SaveLeft X d previousSHA256 next
        ((saveSoftwareClaimRecoveryIntent X previousSHA256 next).exec (diskNext X) d cs).steps
        ((saveSoftwareClaimRecoveryIntent X previousSHA256 next).exec (diskNext X) d cs).st ∧
      (((saveSoftwareClaimRecoveryIntent X previousSHA256 next).exec (diskNext X) d cs).out = some (.ok ()) →
        recordedIn ((saveSoftwareClaimRecoveryIntent X previousSHA256 next).exec (diskNext X) d cs).steps = true) := by
  have hleft : ∀ tr, recordedIn tr = false → SaveLeft X d previousSHA256 next tr d := fun tr h => .inl ⟨h, rfl⟩
  have hwp : (saveSoftwareClaimRecoveryIntent X previousSHA256 next).wp (diskNext X) (SaveLeft X d previousSHA256 next)
      (fun r tr _ => r = .ok () → recordedIn tr = true) [] d := by
    unfold saveSoftwareClaimRecoveryIntent
    refine wp_ite (fun _ => wp_refused (hleft _ rfl)) fun hvalid => ?_
    have hvalid : next.validate X = .ok () := Checked.isOk_unit.1 (by simpa using hvalid)
    refine wp_answered hleft trivial (fun c => by cases c <;> rfl) rfl fun c tr htr => ?_
    refine wp_ite (fun _ => wp_refused (hleft _ htr)) fun _ => ?_
    refine wp_answered hleft trivial load_same htr fun c tr htr => ?_
    cases hcheck : checkSave X (diskNext X d .load c).1 previousSHA256 next with
    | error reason => exact wp_refused (hleft _ htr)
    | ok u =>
      have hload := load_checked (g := fun found => checkSave X found previousSHA256 next) (fun _ => rfl) hcheck
      cases henc : encodeIntent X next with
      | none => exact wp_refused (hleft _ htr)
      | some payload =>
        refine wp_writeCurrent hleft ?_ (fun tr htr reason h => by cases h) htr
        intro tr htr
        exact ⟨.inr ⟨htr, payload, ⟨hvalid, hload, henc⟩, rfl⟩, fun _ _ => htr⟩
  have hexec := wp_exec hwp cs
  simp only [List.nil_append] at hexec
  exact ⟨hexec.1, fun hout => hexec.2 _ hout rfl⟩

/-! ## Transitions -/

/-- the history directory while `raw` is being archived: untouched, made, or with the first `n` bytes in a new file -/
inductive Archiving (d : RecoveryDisk) (file : String) (raw : Bytes) : RecoveryDisk → Prop where
  | same : Archiving d file raw d
  | made : Archiving d file raw { d with history := some (d.history.getD []) }
  | part (n : ℕ) : (d.history.getD []).lookup file = none →
      Archiving d file raw { d with history := some (d.history.getD [] ++ [(file, raw.take n)]) }

theorem Archiving.head {file : String} {raw : Bytes} (h : Archiving d file raw s) : s.head = d.head := by
  cases h <;> rfl

theorem setFile_appended {file : String} {entries : List (String × Bytes)} (h : entries.lookup file = none)
    (old payload : Bytes) : setFile file payload (entries ++ [(file, old)]) = entries ++ [(file, payload)] := by
  have hothers : setFile file payload entries = entries := by
    induction entries with
    | nil => rfl
    | cons e rest ih =>
      obtain ⟨name, bytes⟩ := e
      rw [List.lookup_cons] at h
      by_cases hname : file = name
      · simp [hname] at h
      · rw [beq_false_of_ne hname] at h
        have hrest := ih h
        have hne : (name == file) = false := beq_false_of_ne (Ne.symm hname)
        simp only [setFile, List.map_cons, hne] at hrest ⊢
        rw [hrest]
        rfl
  simp only [setFile, List.map_append, List.map_cons, List.map_nil] at hothers ⊢
  rw [hothers]
  simp

theorem lookup_appended {file : String} {entries : List (String × Bytes)} (h : entries.lookup file = none)
    (payload : Bytes) : (entries ++ [(file, payload)]).lookup file = some payload := by
  rw [List.lookup_append, h]
  simp

/-- the archive and the directories made durable: nothing changes -/
theorem syncArchive_wp (hC : ∀ tr, recordedIn tr = false → C tr s) (htr : recordedIn tr = false) :
    syncArchive.wp (diskNext X) C (fun _ tr s' => recordedIn tr = false ∧ s' = s) tr s := by
  have hsame : ∀ o, o = DiskOp.syncArchive ∨ o = .syncHistory ∨ o = .syncState → ∀ c, (diskNext X s o c).2 = s := by
    rintro o (rfl | rfl | rfl) c <;> cases c <;> rfl
  unfold syncArchive
  refine wp_answered hC trivial (hsame _ (.inl rfl)) htr fun c tr htr => ?_
  refine wp_ite (fun _ => ⟨hC _ htr, htr, rfl⟩) fun _ => ?_
  refine wp_answered hC trivial (hsame _ (.inr (.inl rfl))) htr fun c tr htr => ?_
  refine wp_ite (fun _ => ⟨hC _ htr, htr, rfl⟩) fun _ => ?_
  refine wp_answered hC trivial (hsame _ (.inr (.inr rfl))) htr fun c tr htr => ?_
  exact wp_ite (fun _ => ⟨hC _ htr, htr, rfl⟩) fun _ => ⟨hC _ htr, htr, rfl⟩

/-- the file a record is archived in -/
abbrev archiveOf (X : RecoveryContracts) (raw : Bytes) : String := archiveFile (softwareClaimRecoveryRawSHA256 X raw)

/-- what the archiving of `raw` leaves: one of the states of `Archiving`, and the whole of it on success -/
def ArchiveLeft (X : RecoveryContracts) (d : RecoveryDisk) (raw : Bytes) (r : Except String Unit) (tr : List DiskStep)
    (s : RecoveryDisk) : Prop :=
  recordedIn tr = false ∧ Archiving d (archiveOf X raw) raw s ∧ (r = .ok () → archiveBytes s (archiveOf X raw) = some raw)

section Archive

variable {raw : Bytes} (hC : ∀ tr s, recordedIn tr = false → Archiving d (archiveOf X raw) raw s → C tr s)

include hC

theorem archive_stopped {reason : String} (htr : recordedIn tr = false) (hs : Archiving d (archiveOf X raw) raw s) :
    (pure (.error reason) : DiskProg (Except String Unit)).wp (diskNext X) C (ArchiveLeft X d raw) tr s :=
  ⟨hC _ _ htr hs, htr, hs, fun h => by cases h⟩

/-- the archive file: while it is written it is one of the states of `Archiving`, and success means the whole of it -/
theorem writeArchive_wp (htr : recordedIn tr = false) :
    (writeArchive X raw).wp (diskNext X) C (ArchiveLeft X d raw) tr { d with history := some (d.history.getD []) } := by
  set file := archiveFile (softwareClaimRecoveryRawSHA256 X raw) with hfile
  set entries := d.history.getD [] with hentries
  have hsync : ∀ tr s, recordedIn tr = false → Archiving d file raw s → archiveBytes s file = some raw →
      syncArchive.wp (diskNext X) C (ArchiveLeft X d raw) tr s := by
    intro tr s htr hs hbytes
    refine wp_post (syncArchive_wp (fun tr h => hC tr s h hs) htr) ?_
    rintro r tr' s' _ ⟨htr', rfl⟩
    exact ⟨htr', hs, fun _ => hbytes⟩
  unfold writeArchive
  refine wp_op_bind (hC _ _ htr .made) ?_
  intro c
  have htr' := recordedIn_sparing (X := X) (s := { d with history := some entries }) (o := .createArchive file) trivial c htr
  by_cases hpresent : (entries.lookup file).isSome
  · -- an archive of this name is there: it is read, and must be the same bytes
    have hnext : diskNext X { d with history := some entries } (.createArchive file) c =
        (present c, { d with history := some entries }) := by
      simp [diskNext, hpresent]
    rw [hnext]
    cases c with
    | ok =>
      refine wp_answered (fun tr h => hC tr _ h .made) trivial ?_ htr' fun c tr htr => ?_
      · intro c
        cases c with
        | ok => simp only [diskNext]; split <;> rfl
        | _ => rfl
      cases c with
      | ok =>
        obtain ⟨payload, hpayload⟩ := Option.isSome_iff_exists.1 hpresent
        have hbytes : archiveBytes { d with history := some entries } file = some payload := hpayload
        have hreply : (diskNext X { d with history := some entries } (.readArchive file) .ok).1 =
            (readSoftwareClaimRecoveryRaw X payload).map some := by
          simp only [diskNext, hbytes]
        rw [hreply]
        cases hr : readSoftwareClaimRecoveryRaw X payload with
        | error reason => exact archive_stopped hC htr .made
        | ok r =>
          have hraw : r.raw = payload := (readRaw_ok.1 hr).2.2.2.2
          refine wp_ite (fun _ => archive_stopped hC htr .made) fun hsame => ?_
          simp only [Bool.or_eq_true, bne_iff_ne, not_or, ne_eq, Decidable.not_not] at hsame
          refine wp_answered (fun tr h => hC tr _ h .made) trivial (fun c => by cases c <;> rfl) htr fun c tr htr => ?_
          refine wp_ite (fun _ => hsync _ _ htr .made ?_) fun _ => archive_stopped hC htr .made
          rw [hbytes, ← hraw, hsame.2]
      | _ => exact archive_stopped hC htr .made
    | _ => exact archive_stopped hC htr' .made
  · have habsent : entries.lookup file = none := Option.not_isSome_iff_eq_none.1 hpresent
    have hempty : Archiving d file raw { d with history := some (entries ++ [(file, [])]) } := by
      have hnone : Archiving d file raw { d with history := some (entries ++ [(file, raw.take 0)]) } := .part 0 habsent
      simpa using hnone
    have hnext : diskNext X { d with history := some entries } (.createArchive file) c =
        created { d with history := some entries } file entries c := by
      simp [diskNext, habsent]
    rw [hnext]
    cases c with
    | ok =>
      refine wp_op_bind (hC _ _ htr' hempty) ?_
      intro c
      have htr'' := recordedIn_sparing (X := X) (s := { d with history := some (entries ++ [(file, [])]) })
        (o := .writeArchive file raw) trivial c htr'
      have hwhole : Archiving d file raw { d with history := some (entries ++ [(file, raw)]) } := by
        have hall : Archiving d file raw { d with history := some (entries ++ [(file, raw.take raw.length)]) } :=
          .part raw.length habsent
        simpa using hall
      have hwritten : Archiving d file raw
            (wrote { d with history := some (entries ++ [(file, [])]) } file raw (entries ++ [(file, [])]) c).2 ∧
          ((wrote { d with history := some (entries ++ [(file, [])]) } file raw (entries ++ [(file, [])]) c).1 = true →
            archiveBytes (wrote { d with history := some (entries ++ [(file, [])]) } file raw
              (entries ++ [(file, [])]) c).2 file = some raw) := by
        cases c with
        | ok =>
          simp only [wrote, setFile_appended habsent]
          exact ⟨hwhole, fun _ => lookup_appended habsent raw⟩
        | failDone =>
          simp only [wrote, setFile_appended habsent]
          exact ⟨hwhole, fun h => by cases h⟩
        | short n =>
          simp only [wrote, setFile_appended habsent]
          exact ⟨.part n habsent, fun h => by cases h⟩
        | fail => exact ⟨hempty, fun h => by cases h⟩
      exact wp_ite (fun h => hsync _ _ htr'' hwritten.1 (hwritten.2 h)) fun _ => archive_stopped hC htr'' hwritten.1
    | failDone => exact archive_stopped hC htr' hempty
    | fail => exact archive_stopped hC htr' .made
    | short n => exact archive_stopped hC htr' .made

theorem preserve_wp {old : SoftwareClaimRecoverySnapshot} (hraw : old.raw = raw) (hcheck : checkArchive X old = .ok ())
    (htr : recordedIn tr = false) :
    (preserveSoftwareClaimRecoveryRawArchive X old).wp (diskNext X) C (ArchiveLeft X d raw) tr d := by
  unfold preserveSoftwareClaimRecoveryRawArchive
  rw [hcheck, hraw]
  refine wp_op_bind (hC _ _ htr .same) ?_
  intro c
  have htr' := recordedIn_sparing (X := X) (s := d) (o := .mkdirHistory) trivial c htr
  have hmade : ∀ tr, recordedIn tr = false → C tr { d with history := some (d.history.getD []) } :=
    fun tr h => hC tr _ h .made
  cases c with
  | ok =>
    refine wp_answered hmade trivial (fun c => by cases c <;> rfl) htr' fun c tr htr => ?_
    refine wp_ite (fun _ => archive_stopped hC htr .made) fun _ => ?_
    refine wp_answered hmade trivial (fun c => by cases c <;> rfl) htr fun c tr htr => ?_
    exact wp_ite (fun _ => archive_stopped hC htr .made) fun _ => writeArchive_wp hC htr
  | failDone => exact archive_stopped hC htr' .made
  | fail => exact archive_stopped hC htr' .same
  | short n => exact archive_stopped hC htr' .same

end Archive

/-- what a transition admits before it archives -/
structure TransitionAdmitted (X : RecoveryContracts) (d : RecoveryDisk) (previousRawSHA256 : String)
    (next : SoftwareClaimRecoveryIntent) (proof : SoftwareClaimRecoveryProof) (old : SoftwareClaimRecoverySnapshot) :
    Prop where
  admissible : transitionAdmissible X previousRawSHA256 next proof = true
  loaded : loadSoftwareClaimRecoverySnapshot X d = .ok (some old)
  replaceable : checkTransition X (.ok (some old)) previousRawSHA256 next = .ok old
  archivable : checkArchive X old = .ok ()

/-- what a transition has reached before it replaces the current record -/
structure TransitionReady (X : RecoveryContracts) (d : RecoveryDisk) (previousRawSHA256 : String)
    (next : SoftwareClaimRecoveryIntent) (proof : SoftwareClaimRecoveryProof) (old : SoftwareClaimRecoverySnapshot)
    (s : RecoveryDisk) (payload : Bytes) : Prop extends TransitionAdmitted X d previousRawSHA256 next proof old where
  archiving : Archiving d (archiveOf X old.raw) old.raw s
  archived : archiveBytes s (archiveOf X old.raw) = some old.raw
  checked : checkArchived X (loadSoftwareClaimRecoverySnapshot X s) old previousRawSHA256 next = .ok payload

/-- what a transition leaves -/
def TransitionLeft (X : RecoveryContracts) (d : RecoveryDisk) (previousRawSHA256 : String)
    (next : SoftwareClaimRecoveryIntent) (proof : SoftwareClaimRecoveryProof) (tr : List DiskStep) (s : RecoveryDisk) :
    Prop :=
  recordedIn tr = false ∧ (s = d ∨ ∃ old, TransitionAdmitted X d previousRawSHA256 next proof old ∧
      Archiving d (archiveOf X old.raw) old.raw s) ∨
    recordedIn tr = true ∧ ∃ old s' payload, TransitionReady X d previousRawSHA256 next proof old s' payload ∧
      s = { s' with head := some payload }

/-- **Transitions.** Wherever a transition stops, it has left the disk alone, has archived some first part of the settled
record, or has replaced the current record behind the whole of it; it reports success only in the last case. -/
theorem transition_spec (d : RecoveryDisk) (previousRawSHA256 : String) (next : SoftwareClaimRecoveryIntent)
    (proof : SoftwareClaimRecoveryProof) (cs : List Outcome) :
    TransitionLeft X d previousRawSHA256 next proof
        ((transitionSoftwareClaimRecoveryIntent X previousRawSHA256 next proof).exec (diskNext X) d cs).steps
        ((transitionSoftwareClaimRecoveryIntent X previousRawSHA256 next proof).exec (diskNext X) d cs).st ∧
      (((transitionSoftwareClaimRecoveryIntent X previousRawSHA256 next proof).exec (diskNext X) d cs).out =
          some (.ok ()) →
        recordedIn
          ((transitionSoftwareClaimRecoveryIntent X previousRawSHA256 next proof).exec (diskNext X) d cs).steps = true) := by
  have hleft : ∀ tr, recordedIn tr = false → TransitionLeft X d previousRawSHA256 next proof tr d :=
    fun tr h => .inl ⟨h, .inl rfl⟩
  have hwp : (transitionSoftwareClaimRecoveryIntent X previousRawSHA256 next proof).wp (diskNext X)
      (TransitionLeft X d previousRawSHA256 next proof) (fun r tr _ => r = .ok () → recordedIn tr = true) [] d := by
    unfold transitionSoftwareClaimRecoveryIntent
    refine wp_answered hleft trivial (fun c => by cases c <;> rfl) rfl fun c tr htr => ?_
    refine wp_ite (fun _ => wp_refused (hleft _ htr)) fun _ => ?_
    refine wp_ite (fun _ => wp_refused (hleft _ htr)) fun hadm => ?_
    refine wp_answered hleft trivial load_same htr fun c tr htr => ?_
    cases hcheck : checkTransition X (diskNext X d .load c).1 previousRawSHA256 next with
    | error reason => exact wp_refused (hleft _ htr)
    | ok old =>
      have hold : loadSoftwareClaimRecoverySnapshot X d = .ok (some old) ∧
          checkTransition X (.ok (some old)) previousRawSHA256 next = .ok old := by
        have hload := load_checked (g := fun found => checkTransition X found previousRawSHA256 next) (fun _ => rfl) hcheck
        rcases hl : loadSoftwareClaimRecoverySnapshot X d with reason | _ | snap <;> rw [hl] at hload
        · cases hload
        · cases hload
        obtain rfl : snap = old := by
          have hold := hload
          simp only [checkTransition] at hold
          split_ifs at hold
          exact Except.ok.inj hold
        exact ⟨rfl, hload⟩
      cases harch : checkArchive X old with
      | error reason =>
        have hpreserve : preserveSoftwareClaimRecoveryRawArchive X old = pure (.error reason) := by
          rw [preserveSoftwareClaimRecoveryRawArchive, harch]
        dsimp only
        rw [hpreserve]
        exact wp_refused (hleft _ htr)
      | ok u =>
        have hadmitted : TransitionAdmitted X d previousRawSHA256 next proof old :=
          ⟨by simpa using hadm, hold.1, hold.2, harch⟩
        have hcut : ∀ tr s, recordedIn tr = false → Archiving d (archiveOf X old.raw) old.raw s →
            TransitionLeft X d previousRawSHA256 next proof tr s :=
          fun tr s h hs => .inl ⟨h, .inr ⟨old, hadmitted, hs⟩⟩
        refine wp_seq (preserve_wp hcut rfl harch htr) ?_
        intro r tr s _ ⟨htr, hs, hbytes⟩
        cases r with
        | error reason => exact wp_refused (hcut _ _ htr hs)
        | ok u =>
          have hcut' : ∀ tr, recordedIn tr = false → TransitionLeft X d previousRawSHA256 next proof tr s :=
            fun tr h => hcut tr s h hs
          refine wp_answered hcut' trivial load_same htr fun c tr htr => ?_
          cases hchecked : checkArchived X (diskNext X s .load c).1 old previousRawSHA256 next with
          | error reason => exact wp_refused (hcut _ _ htr hs)
          | ok payload =>
            have hload := load_checked (g := fun found => checkArchived X found old previousRawSHA256 next) (fun _ => rfl)
              hchecked
            refine wp_writeCurrent hcut' ?_ (fun tr htr reason h => by cases h) htr
            intro tr htr
            exact ⟨.inr ⟨htr, old, s, payload, ⟨hadmitted, hs, hbytes rfl, hload⟩, rfl⟩, fun _ _ => htr⟩
  have hexec := wp_exec hwp cs
  simp only [List.nil_append] at hexec
  exact ⟨hexec.1, fun hout => hexec.2 _ hout rfl⟩

end Writers
end AutostreamUpdater.Recovery
