/-
The recovery history as a chain of settled records.

`recovery_history_chain`: in every history the strict reader accepts, the links from the current record and from each archive
end after at most 32 steps, over records of different jobs and of one authority; and a current record that a transition wrote
is accepted by the next load, with the chain of the record it replaced behind it and a job that no record names.
-/
import AutostreamUpdater.Base.Yields
import AutostreamUpdater.Recovery.Writers

namespace AutostreamUpdater.Recovery

open Contract Base

section History

variable {X : RecoveryContracts} {d s : RecoveryDisk} {previousRawSHA256 : String} {next : SoftwareClaimRecoveryIntent}
  {proof : SoftwareClaimRecoveryProof} {old : SoftwareClaimRecoverySnapshot}

/-- the jobs of the current record and of its archives -/
def SoftwareClaimRecoverySnapshot.jobs (snap : SoftwareClaimRecoverySnapshot) : List String :=
  (snap.intent :: softwareClaimRecoveryArchiveIntents (snap.archives.getD [])).map fun i => i.original.jobID

/-- the links of a snapshot -/
def SoftwareClaimRecoverySnapshot.behind (snap : SoftwareClaimRecoverySnapshot) :
    SoftwareClaimRecoveryIntent → Link SoftwareClaimRecoveryIntent := predecessor (snap.archives.getD [])

theorem predecessor_root {archives : Archives} {i : SoftwareClaimRecoveryIntent} (h : predecessor archives i = .root) :
    i.previousSettledRawSHA256 = "" := by
  unfold predecessor at h
  split at h
  · rename_i hempty
    simpa using hempty
  · split at h <;> cases h

/-- more archives keep the links that lead somewhere -/
theorem predecessor_append {archives extra : Archives} {i : SoftwareClaimRecoveryIntent}
    (h : predecessor archives i ≠ .missing) : predecessor (archives ++ extra) i = predecessor archives i := by
  unfold predecessor at h ⊢
  by_cases hroot : (i.previousSettledRawSHA256 == "") = true
  · simp only [hroot, if_true]
  · simp only [hroot, Bool.false_eq_true, if_false] at h ⊢
    cases hl : archives.lookup i.previousSettledRawSHA256 with
    | none => simp [hl] at h
    | some r => rw [List.lookup_append, hl]; rfl

/-- While a record is being archived, the archives that were there stay. -/
theorem archives_grow {file : String} {raw : Bytes} {a b : Option Archives} (h : Archiving d file raw s)
    (ha : readSoftwareClaimRecoveryArchives X d.history = .ok a)
    (hb : readSoftwareClaimRecoveryArchives X s.history = .ok b) : ∃ extra, b.getD [] = a.getD [] ++ extra := by
  cases h with
  | same =>
    rw [ha] at hb
    cases hb
    exact ⟨[], by simp⟩
  | made =>
    cases hd : d.history with
    | none =>
      rw [hd] at ha
      cases ha
      exact ⟨b.getD [], rfl⟩
    | some entries =>
      rw [hd] at ha
      rw [hd, Option.getD_some, ha] at hb
      cases hb
      exact ⟨[], by simp⟩
  | part n _ =>
    obtain ⟨list, rfl, _, hall, _⟩ := readArchives_some.1 hb
    cases hd : d.history with
    | none =>
      rw [hd] at ha
      cases ha
      exact ⟨list, rfl⟩
    | some entries =>
      rw [hd] at ha
      rw [hd, Option.getD_some] at hall
      obtain ⟨first, rfl, _, hfirst, _⟩ := readArchives_some.1 ha
      -- the first part of the longer directory reads as the shorter one
      have htake := List.forall₂_take entries.length hall
      rw [List.take_left] at htake
      have heq : list.take entries.length = first := by
        have h1 := Checked.mapM_ok.2 htake
        rw [Checked.mapM_ok.2 hfirst] at h1
        exact (Except.ok.inj h1).symm
      refine ⟨list.drop entries.length, ?_⟩
      simp only [Option.getD_some]
      rw [← heq, List.take_append_drop]

/-- the settled record and the jobs that a transition has checked -/
theorem checkTransition_ok (h : checkTransition X (.ok (some old)) previousRawSHA256 next = .ok old) :
    softwareClaimRecoveryRawSHA256 X old.raw = previousRawSHA256 ∧ old.intent.schemaVersion = 2 ∧
      old.intent.settled = true ∧ old.intent.terminalClear.isSome = true ∧
      sameSoftwareClaimRecoveryAuthority old.intent next = true ∧ next.original.jobID ∉ old.jobs := by
  unfold checkTransition at h
  dsimp only at h
  split_ifs at h with hhead hjobs
  simp only [headReplaceable, Bool.not_eq_true', Bool.not_eq_false, Bool.and_eq_true, beq_iff_eq, bne_iff_ne,
    and_assoc] at hhead
  obtain ⟨hsha, hschema, hsettled, hclear, hjob, hauth⟩ := hhead
  refine ⟨hsha, hschema, hsettled, hclear, hauth, ?_⟩
  intro hmem
  simp only [SoftwareClaimRecoverySnapshot.jobs, softwareClaimRecoveryArchiveIntents, List.map_cons, List.map_map,
    List.mem_cons, List.mem_map, Function.comp] at hmem
  rcases hmem with heq | ⟨e, he, heq⟩
  · exact hjob heq.symm
  · apply hjobs
    rw [List.any_eq_true]
    exact ⟨e, he, by simpa using heq⟩

theorem checkArchived_ok {found : Except String (Option SoftwareClaimRecoverySnapshot)} {payload : Bytes}
    (h : checkArchived X found old previousRawSHA256 next = .ok payload) :
    ∃ current, found = .ok (some current) ∧ current.raw = old.raw ∧
      validateSoftwareClaimRecoveryHistory next (current.archives.getD []) = .ok () ∧
      encodeIntent X next = some payload := by
  unfold checkArchived at h
  split at h
  · rename_i current
    split_ifs at h with hraw hhistory
    simp only [Bool.or_eq_true, bne_iff_ne, not_or, ne_eq, Decidable.not_not] at hraw
    have hhistory := Checked.isOk_unit.1 (by simpa using hhistory)
    cases henc : encodeIntent X next with
    | none => rw [henc] at h; cases h
    | some bytes =>
      rw [henc] at h
      cases h
      exact ⟨current, rfl, hraw.2, hhistory, rfl⟩
  · cases h

theorem transitionAdmissible_iff : transitionAdmissible X previousRawSHA256 next proof = true ↔
    softwareClaimRecoveryRawDigestValid previousRawSHA256 = true ∧ next.schemaVersion = 2 ∧ next.validate X = .ok () ∧
      next.settled = false ∧ next.terminalClear.isNone = true ∧ next.attempts.length = 1 ∧
      next.previousSettledRawSHA256 = previousRawSHA256 ∧ softwareClaimRecoveryProofMatchesIntent X proof next = true := by
  simp only [transitionAdmissible, Bool.and_eq_true, beq_iff_eq, Bool.not_eq_true', Checked.isOk_unit, and_assoc]

theorem rawDigest_ne_empty {digest : String} (h : softwareClaimRecoveryRawDigestValid digest = true) : digest ≠ "" := by
  rintro rfl
  revert h
  decide

/-- **A written head.** Behind a complete archive the new record is accepted, one link before the settled one. -/
theorem ready_loads (hX : X.Lawful) {payload : Bytes}
    (h : TransitionReady X d previousRawSHA256 next proof old s payload) :
    ∃ snap, loadSoftwareClaimRecoverySnapshot X { s with head := some payload } = .ok (some snap) ∧ snap.intent = next ∧
      snap.behind next = .behind old.intent ∧ (∀ i, old.behind i ≠ .missing → snap.behind i = old.behind i) ∧
      ∃ extra, snap.archives.getD [] = old.archives.getD [] ++ extra := by
  obtain ⟨current, hcurrent, hraw, hhistory, henc⟩ := checkArchived_ok h.checked
  obtain ⟨hdigest, _, hvalid, _, _, _, hprev, _⟩ := transitionAdmissible_iff.1 h.admissible
  obtain ⟨_, _, hcurrentArchives, _⟩ := load_some.1 hcurrent
  obtain ⟨_, holdRead, holdArchives, _⟩ := load_some.1 h.loaded
  obtain ⟨extra, hextra⟩ := archives_grow h.archiving holdArchives hcurrentArchives
  refine ⟨⟨⟨next, payload⟩, current.archives⟩, ?_, rfl, ?_, ?_, extra, hextra⟩
  · exact load_some.2 ⟨rfl, readRaw_encoded hX hvalid henc, hcurrentArchives, hhistory⟩
  · -- the settled record is found under the digest that the new one names
    have hnext : next.previousSettledRawSHA256 = softwareClaimRecoveryRawSHA256 X old.raw := by
      rw [hprev, (checkTransition_ok h.replaceable).1]
    obtain ⟨entries, hentries, hlookup⟩ := Option.bind_eq_some_iff.1 h.archived
    rw [hentries] at hcurrentArchives
    obtain ⟨list, hlist, _, hall, _⟩ := readArchives_some.1 hcurrentArchives
    obtain ⟨r, hr, hread⟩ := lookup_archives (rawSHA256_valid hX old.raw) hall hlookup
    rw [holdRead] at hread
    have hne : (softwareClaimRecoveryRawSHA256 X old.raw == "") = false := by
      rw [← hnext, hprev]
      simpa using rawDigest_ne_empty hdigest
    simp only [SoftwareClaimRecoverySnapshot.behind, predecessor, hlist, Option.getD_some, hnext, hne, hr]
    simp only [Bool.false_eq_true, if_false, ← Except.ok.inj hread]
  · intro i hi
    simp only [SoftwareClaimRecoverySnapshot.behind, hextra]
    exact predecessor_append hi

/-! ## A transition that completes -/

/-- what a run of the transition leaves, cut where its script ends -/
abbrev transitionRun (X : RecoveryContracts) (d : RecoveryDisk) (previousRawSHA256 : String)
    (next : SoftwareClaimRecoveryIntent) (proof : SoftwareClaimRecoveryProof) (cs : List Outcome) :
    Exec RecoveryDisk DiskRes (Except String Unit) :=
  (transitionSoftwareClaimRecoveryIntent X previousRawSHA256 next proof).exec (diskNext X) d cs

/-- the new record fits behind the archives that are there -/
def Fits (X : RecoveryContracts) (old : SoftwareClaimRecoverySnapshot) (next : SoftwareClaimRecoveryIntent) : Prop :=
  (∃ payload, encodeIntent X next = some payload) ∧
    validateSoftwareClaimRecoveryHistory next (old.archives.getD []) = .ok ()

/-- a directory that has the file is not changed by archiving it again -/
theorem archiving_present {file : String} {raw : Bytes} (h : archiveBytes d file = some raw)
    (hs : Archiving d file raw s) : s = d := by
  obtain ⟨entries, hentries, hlookup⟩ := Option.bind_eq_some_iff.1 h
  cases hs with
  | same => rfl
  | made => rw [hentries, Option.getD_some, ← hentries]
  | part n habsent =>
    rw [hentries, Option.getD_some, hlookup] at habsent
    cases habsent

/-- a file of an accepted directory is an archive -/
theorem checkArchive_present (hX : X.Lawful) (hload : loadSoftwareClaimRecoverySnapshot X d = .ok (some old))
    (h : archiveBytes d (archiveOf X old.raw) = some old.raw) : checkArchive X old = .ok () := by
  obtain ⟨_, hread, harchives, _⟩ := load_some.1 hload
  obtain ⟨entries, hentries, hlookup⟩ := Option.bind_eq_some_iff.1 h
  rw [hentries] at harchives
  obtain ⟨list, hlist, _, hall, _⟩ := readArchives_some.1 harchives
  obtain ⟨r, hr, hread'⟩ := lookup_archives (rawSHA256_valid hX old.raw) hall hlookup
  rw [hread] at hread'
  unfold checkArchive
  rw [hlist, Option.getD_some, hr, ← Except.ok.inj hread']
  simp

/-- the syncs of a complete archive -/
theorem syncArchive_yields : Yields (diskNext X) syncArchive s [.ok, .ok, .ok] s (.ok ()) :=
  .op_bind rfl (.op_bind rfl (.op_bind rfl .ret))

/-- an archive that has the bytes already -/
theorem writeArchive_yields (h : archiveBytes d (archiveOf X old.raw) = some old.raw)
    (hread : readSoftwareClaimRecoveryRaw X old.raw = .ok old.toRawRecord) :
    Yields (diskNext X) (writeArchive X old.raw) d (List.replicate 6 .ok) d (.ok ()) := by
  obtain ⟨entries, hentries, hlookup⟩ := Option.bind_eq_some_iff.1 h
  have hcreate : diskNext X d (.createArchive (archiveOf X old.raw)) .ok = (.present, d) := by
    simp [diskNext, hentries, hlookup, present]
  have hreply : diskNext X d (.readArchive (archiveOf X old.raw)) .ok = (.ok (some old.toRawRecord), d) := by
    simp only [diskNext, h, hread]
    rfl
  refine .op_bind hcreate (.op_bind hreply ?_)
  dsimp only
  rw [if_neg (by simp)]
  exact .op_bind rfl syncArchive_yields

/-- the script of a run that finds its archive: every operation succeeds -/
def completing : List Outcome := List.replicate 13 .ok

/-- **Completion.** Where the archive is there and the new record fits, a transition whose operations succeed completes. -/
theorem transition_completes (h : TransitionAdmitted X d previousRawSHA256 next proof old)
    (harchived : archiveBytes d (archiveOf X old.raw) = some old.raw) (hfits : Fits X old next) :
    (transitionRun X d previousRawSHA256 next proof completing).out = some (.ok ()) := by
  obtain ⟨⟨payload, henc⟩, hhistory⟩ := hfits
  obtain ⟨entries, hentries, hlookup⟩ := Option.bind_eq_some_iff.1 harchived
  have hload : diskNext X d .load .ok = (.ok (some old), d) := by
    simp only [diskNext, h.loaded]
  have hmkdir : diskNext X d .mkdirHistory .ok = (true, d) := by
    simp only [diskNext, performed, hentries, Option.getD_some]
    rw [← hentries]
  have hchecked : checkArchived X (.ok (some old)) old previousRawSHA256 next = .ok payload := by
    simp [checkArchived, (checkTransition_ok h.replaceable).1, hhistory, henc, Except.isOk, Except.toBool]
  have hpreserve : Yields (diskNext X) (preserveSoftwareClaimRecoveryRawArchive X old) d (List.replicate 9 .ok) d
      (.ok ()) := by
    unfold preserveSoftwareClaimRecoveryRawArchive
    rw [h.archivable]
    exact .op_bind hmkdir (.op_bind rfl (.op_bind rfl (writeArchive_yields harchived (load_some.1 h.loaded).2.1)))
  have hreplace : Yields (diskNext X) (replaceHead X old previousRawSHA256 next) d [.ok, .ok]
      { d with head := some payload } (.ok ()) := by
    unfold replaceHead
    refine .op_bind hload ?_
    rw [hchecked]
    exact .op_bind rfl .ret
  have hrun : Yields (diskNext X) (transitionSoftwareClaimRecoveryIntent X previousRawSHA256 next proof) d completing
      { d with head := some payload } (.ok ()) := by
    unfold transitionSoftwareClaimRecoveryIntent
    refine .op_bind (r := true) rfl ?_
    rw [if_neg (by simp), if_neg (by simp [h.admissible])]
    refine .op_bind hload ?_
    rw [h.replaceable]
    exact hpreserve.bind hreplace
  exact hrun.exec.2

/-! ## Chains -/

/-- the chains of an accepted history -/
theorem accepted_chain {head start : SoftwareClaimRecoveryIntent} {archives : Archives}
    (h : validateSoftwareClaimRecoveryHistory head archives = .ok ())
    (hstart : start ∈ head :: softwareClaimRecoveryArchiveIntents archives) :
    ∃ l, Chain (predecessor archives) start l ∧ l.length ≤ softwareClaimRecoveryHistoryMaxFiles + 1 ∧
      (∃ z, l.getLast? = some z ∧ z.previousSettledRawSHA256 = "") ∧ (l.map fun i => i.original.jobID).Nodup ∧
      ∀ i ∈ l, sameSoftwareClaimRecoveryAuthority head i = true := by
  obtain ⟨hauth, l, hchain, hlen, hlink, hnodup⟩ := validateHistory_ok.1 h start hstart
  obtain ⟨z, hz, hroot⟩ := hchain.last_root
  refine ⟨start :: l, hchain, by simpa using hlen, ⟨z, hz, predecessor_root hroot⟩, hnodup, ?_⟩
  intro i hi
  rcases List.mem_cons.1 hi with rfl | hi
  · exact hauth
  · exact sameAuthority_trans hauth (archiveLinkable_iff.1 (hlink i hi)).1

/-- **Recovery history.** In every accepted history the links from the current record and from every archive end after at
most 32 steps at a record without predecessor, over records of different jobs and of one authority. Every current record that
a transition writes from an accepted snapshot is accepted by the next load; its chain is the old one with the new record in
front, and its job is named by no record of the old history. -/
theorem recovery_history_chain (X : RecoveryContracts) (hX : X.Lawful) :
    (∀ head archives, validateSoftwareClaimRecoveryHistory head archives = .ok () →
      ∀ start ∈ head :: softwareClaimRecoveryArchiveIntents archives,
        ∃ l, Chain (predecessor archives) start l ∧ l.length ≤ softwareClaimRecoveryHistoryMaxFiles + 1 ∧
          (∃ z, l.getLast? = some z ∧ z.previousSettledRawSHA256 = "") ∧ (l.map fun i => i.original.jobID).Nodup ∧
          ∀ i ∈ l, sameSoftwareClaimRecoveryAuthority head i = true) ∧
    (∀ d snap previousRawSHA256 next proof cs, loadSoftwareClaimRecoverySnapshot X d = .ok (some snap) →
      recordedIn
        ((transitionSoftwareClaimRecoveryIntent X previousRawSHA256 next proof).exec (diskNext X) d cs).steps = true →
      ∃ snap' l, loadSoftwareClaimRecoverySnapshot X
          ((transitionSoftwareClaimRecoveryIntent X previousRawSHA256 next proof).exec (diskNext X) d cs).st =
            .ok (some snap') ∧
        snap'.intent = next ∧ Chain snap.behind snap.intent l ∧ Chain snap'.behind next (next :: l) ∧
        next.original.jobID ∉ snap.jobs) := by
  refine ⟨fun head archives h start hstart => accepted_chain h hstart, ?_⟩
  intro d snap previousRawSHA256 next proof cs hload hrecorded
  rcases (transition_spec (X := X) d previousRawSHA256 next proof cs).1 with ⟨hnot, _⟩ | ⟨_, old, s', payload, hready, hst⟩
  · rw [hrecorded] at hnot
    cases hnot
  · obtain rfl : snap = old := by
      have hsame := hload.symm.trans hready.loaded
      exact Option.some.inj (Except.ok.inj hsame)
    obtain ⟨snap', hload', hintent, hlink, hkeep, _⟩ := ready_loads hX hready
    obtain ⟨_, _, _, hhistory⟩ := load_some.1 hload
    obtain ⟨l, hchain, _⟩ := accepted_chain hhistory List.mem_cons_self
    refine ⟨snap', l, hst ▸ hload', hintent, hchain, ?_, (checkTransition_ok hready.replaceable).2.2.2.2.2⟩
    exact .link hlink (hchain.mono hkeep)

end History

/-! ## The sample -/

namespace Sample

/-- the settled record is current; the second disk has archived it already -/
def freshDisk : RecoveryDisk := ⟨some [2, 10], none⟩
def archivedDisk : RecoveryDisk := ⟨some [2, 10], some [(archiveFile (digest [2, 10]), [2, 10])]⟩

def settledRecord : RawRecord := ⟨settled, [2, 10]⟩
def freshSnapshot : SoftwareClaimRecoverySnapshot := ⟨settledRecord, none⟩
def archivedSnapshot : SoftwareClaimRecoverySnapshot := ⟨settledRecord, some [(digest [2, 10], settledRecord)]⟩

theorem settled_read : readSoftwareClaimRecoveryRaw contracts [2, 10] = .ok settledRecord :=
  readRaw_ok.2 ⟨by decide, by decide, rfl, records_valid settled (by simp [records]), rfl⟩

theorem fresh_loads : loadSoftwareClaimRecoverySnapshot contracts freshDisk = .ok (some freshSnapshot) :=
  load_some.2 ⟨rfl, settled_read, rfl, by decide⟩

theorem archived_loads : loadSoftwareClaimRecoverySnapshot contracts archivedDisk = .ok (some archivedSnapshot) := by
  refine load_some.2 ⟨rfl, settled_read, readArchives_some.2 ⟨_, rfl, by decide, ?_, by decide⟩, by decide⟩
  refine .cons (readArchive_ok.2 ⟨?_, settled_read, rfl, rfl, rfl, rfl⟩) .nil
  exact archiveDigest_file (lawful.digest [2, 10])

/-- the record of the next job may follow -/
theorem other_admissible : transitionAdmissible contracts (digest [2, 10]) other (proof (digest [2, 10])) = true :=
  transitionAdmissible_iff.2 ⟨lawful.digest [2, 10], rfl, records_valid other (by simp [records]), rfl, rfl, rfl, rfl,
    by decide⟩

theorem archived_admitted :
    TransitionAdmitted contracts archivedDisk (digest [2, 10]) other (proof (digest [2, 10])) archivedSnapshot :=
  ⟨other_admissible, archived_loads, by decide +kernel, checkArchive_present lawful archived_loads (by decide)⟩

theorem archived_fits : Fits contracts archivedSnapshot other := ⟨⟨[3, 10], by decide⟩, by decide⟩

/-- the first transition of the sample creates the archive and writes the new record -/
theorem fresh_recorded : recordedIn (transitionRun contracts freshDisk (digest [2, 10]) other (proof (digest [2, 10]))
    completing).steps = true ∧ (transitionRun contracts freshDisk (digest [2, 10]) other (proof (digest [2, 10]))
    completing).st.history = some [(archiveFile (digest [2, 10]), [2, 10])] := by
  decide +kernel

end Sample

/-- The theorem applies: the sample's second job follows its first one, which is archived on the way. -/
theorem sample_history_grows : Sample.contracts.Lawful ∧
    (transitionRun Sample.contracts Sample.freshDisk (Sample.digest [2, 10]) Sample.other
      (Sample.proof (Sample.digest [2, 10])) completing).st.history =
        some [(archiveFile (Sample.digest [2, 10]), [2, 10])] ∧
    ∃ snap l, loadSoftwareClaimRecoverySnapshot Sample.contracts
        (transitionRun Sample.contracts Sample.freshDisk (Sample.digest [2, 10]) Sample.other
          (Sample.proof (Sample.digest [2, 10])) completing).st = .ok (some snap) ∧
      snap.intent = Sample.other ∧ Chain Sample.freshSnapshot.behind Sample.settled l ∧
      Chain snap.behind Sample.other (Sample.other :: l) := by
  refine ⟨Sample.lawful, Sample.fresh_recorded.2, ?_⟩
  obtain ⟨snap, l, hload, hintent, hold, hnew, _⟩ :=
    (recovery_history_chain Sample.contracts Sample.lawful).2 _ _ _ _ _ _ Sample.fresh_loads Sample.fresh_recorded.1
  exact ⟨snap, l, hload, hintent, hold, hnew⟩

end AutostreamUpdater.Recovery
