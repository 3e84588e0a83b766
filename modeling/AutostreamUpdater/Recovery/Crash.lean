/-
A crash while the settled record is being archived.

`transition_crash_safe_iff`: a transition is safe to cut anywhere exactly where the settled record's bytes are in the history
directory already, and the new record fits behind them. Otherwise it creates the archive exclusively and writes it in place;
a crash between the two leaves a file whose bytes do not have the digest of its name, and the strict reader then refuses the
whole state, the current record included (`archive_cut_blocks_history`).
-/
import AutostreamUpdater.Recovery.History

namespace AutostreamUpdater.Recovery

open Contract Base

section Crash

variable {X : RecoveryContracts} {d s : RecoveryDisk} {previousRawSHA256 : String} {next : SoftwareClaimRecoveryIntent}
  {proof : SoftwareClaimRecoveryProof} {old : SoftwareClaimRecoverySnapshot}

/-- Wherever the transition is cut, the state loads with the old bytes or the new record as current, the old bytes are in a
file, and the new record is current or a repeated transition can complete. -/
def CrashSafe (X : RecoveryContracts) (d : RecoveryDisk) (previousRawSHA256 : String) (next : SoftwareClaimRecoveryIntent)
    (proof : SoftwareClaimRecoveryProof) (old : SoftwareClaimRecoverySnapshot) : Prop :=
  ∀ cs, let s := (transitionRun X d previousRawSHA256 next proof cs).st
    ∃ snap, loadSoftwareClaimRecoverySnapshot X s = .ok (some snap) ∧ (snap.raw = old.raw ∨ snap.intent = next) ∧
      (s.head = some old.raw ∨ archiveBytes s (archiveOf X old.raw) = some old.raw) ∧
      (snap.intent = next ∨ ∃ cs', (transitionRun X s previousRawSHA256 next proof cs').out = some (.ok ()))

/-! ## The archive is not there -/

/-- an empty archive makes the directory unreadable -/
theorem empty_archive_refused {entries : List (String × Bytes)} {file : String} {archives : Option Archives} :
    readSoftwareClaimRecoveryArchives X (some (entries ++ [(file, [])])) ≠ .ok archives := by
  intro h
  obtain ⟨list, _, _, hall, _⟩ := readArchives_some.1 h
  have hlast := List.forall₂_drop entries.length hall
  rw [List.drop_left, List.forall₂_cons_left_iff] at hlast
  obtain ⟨a, _, hread, _⟩ := hlast
  have hempty := (readRaw_ok.1 (readArchive_ok.1 hread).2.1).1
  simp at hempty

/-- **The cut.** Behind the exclusive creation the archive is an empty file. -/
theorem transition_cut (h : TransitionAdmitted X d previousRawSHA256 next proof old)
    (habsent : (d.history.getD []).lookup (archiveOf X old.raw) = none) :
    (transitionRun X d previousRawSHA256 next proof (List.replicate 6 .ok)).st =
      { d with history := some (d.history.getD [] ++ [(archiveOf X old.raw, [])]) } := by
  have hload : diskNext X d .load .ok = (.ok (some old), d) := by
    simp only [diskNext, h.loaded]
  have hcreate : diskNext X { d with history := some (d.history.getD []) } (.createArchive (archiveOf X old.raw)) .ok =
      (.created, { d with history := some (d.history.getD [] ++ [(archiveOf X old.raw, [])]) }) := by
    simp [diskNext, habsent, created]
  unfold transitionRun transitionSoftwareClaimRecoveryIntent
  rw [show List.replicate 6 Outcome.ok = [.ok, .ok, .ok, .ok, .ok, .ok] from rfl, exec_op_st (r := true) rfl]
  rw [if_neg (by simp), if_neg (by simp [h.admissible]), exec_op_st hload, h.replaceable]
  dsimp only
  unfold preserveSoftwareClaimRecoveryRawArchive
  rw [h.archivable]
  dsimp only
  rw [exec_op_seq_st (r := true) rfl, if_neg (by simp), exec_op_seq_st (r := true) rfl, if_neg (by simp),
    exec_op_seq_st (r := true) rfl, if_neg (by simp)]
  unfold writeArchive
  rw [exec_op_seq_st hcreate]
  exact Prog.exec_nil _ _ _

/-- a transition that completes was admitted, and has the archive of the settled record behind it -/
theorem ready_of_completes {cs : List Outcome}
    (h : (transitionRun X d previousRawSHA256 next proof cs).out = some (.ok ())) :
    ∃ old s payload, TransitionReady X d previousRawSHA256 next proof old s payload := by
  obtain ⟨hleft, hdone⟩ := transition_spec (X := X) d previousRawSHA256 next proof cs
  rcases hleft with ⟨hnot, _⟩ | ⟨_, old, s, payload, hready, _⟩
  · rw [hdone h] at hnot
    cases hnot
  · exact ⟨old, s, payload, hready⟩

/-- **Crash safety of the transition.** For every accepted settled head and every admissible record of another job: the
transition may be cut anywhere if and only if the settled record is in the history directory already and the new record fits
behind it. -/
theorem transition_crash_safe_iff (hX : X.Lawful) (hadmissible : transitionAdmissible X previousRawSHA256 next proof = true)
    (hload : loadSoftwareClaimRecoverySnapshot X d = .ok (some old))
    (hreplaceable : checkTransition X (.ok (some old)) previousRawSHA256 next = .ok old) :
    CrashSafe X d previousRawSHA256 next proof old ↔
      archiveBytes d (archiveOf X old.raw) = some old.raw ∧ Fits X old next := by
  constructor
  · intro hsafe
    -- uncut, nothing has happened, so a repeated transition has to be able to complete
    obtain ⟨snap, hsnap, _, _, hrepeat⟩ := hsafe []
    have hstart : (transitionRun X d previousRawSHA256 next proof []).st = d := Prog.exec_nil _ _ _
    rw [hstart] at hsnap hrepeat
    obtain rfl : old = snap := Option.some.inj (Except.ok.inj (hload.symm.trans hsnap))
    have hother := (checkTransition_ok hreplaceable).2.2.2.2.2
    have hnot : old.intent ≠ next := by
      intro heq
      apply hother
      rw [← heq]
      simp [SoftwareClaimRecoverySnapshot.jobs]
    obtain ⟨cs, hcs⟩ := hrepeat.resolve_left hnot
    obtain ⟨old', s, payload, hready⟩ := ready_of_completes hcs
    obtain rfl : old = old' := Option.some.inj (Except.ok.inj (hload.symm.trans hready.loaded))
    obtain ⟨_, hread, harchives, _⟩ := load_some.1 hload
    cases hfile : (d.history.getD []).lookup (archiveOf X old.raw) with
    | none =>
      -- the archive would be created: cut there
      obtain ⟨snap', hsnap', _⟩ := hsafe (List.replicate 6 .ok)
      rw [transition_cut hready.toTransitionAdmitted hfile] at hsnap'
      exact absurd (load_some.1 hsnap').2.2.1 empty_archive_refused
    | some bytes =>
      have hbytes : archiveBytes d (archiveOf X old.raw) = some bytes := by
        cases hd : d.history with
        | none => rw [hd] at hfile; cases hfile
        | some entries => rw [hd] at hfile; simpa [archiveBytes, hd] using hfile
      obtain ⟨entries, hentries, hlookup⟩ := Option.bind_eq_some_iff.1 hbytes
      rw [hentries] at harchives
      obtain ⟨list, hlist, _, hall, _⟩ := readArchives_some.1 harchives
      obtain ⟨r, hr, hreadr⟩ := lookup_archives (rawSHA256_valid hX old.raw) hall hlookup
      have hraw : bytes = old.raw := by
        have hcheck := hready.archivable
        unfold checkArchive at hcheck
        rw [hlist, Option.getD_some] at hcheck
        rw [hr] at hcheck
        dsimp only at hcheck
        split_ifs at hcheck with hne
        rw [← (readRaw_ok.1 hreadr).2.2.2.2]
        simpa using hne
      rw [hraw] at hbytes
      obtain rfl := archiving_present hbytes hready.archiving
      obtain ⟨current, hcurrent, _, hhistory, henc⟩ := checkArchived_ok hready.checked
      obtain rfl : old = current := Option.some.inj (Except.ok.inj (hload.symm.trans hcurrent))
      exact ⟨hbytes, ⟨payload, henc⟩, hhistory⟩
  · rintro ⟨harchived, hfits⟩ cs
    have hadmitted : TransitionAdmitted X d previousRawSHA256 next proof old :=
      ⟨hadmissible, hload, hreplaceable, checkArchive_present hX hload harchived⟩
    rcases (transition_spec (X := X) d previousRawSHA256 next proof cs).1 with
      ⟨_, hst⟩ | ⟨_, old', s, payload, hready, hst⟩
    · -- nothing but the archive was touched, and that was there
      have hsame : (transitionRun X d previousRawSHA256 next proof cs).st = d := by
        rcases hst with hst | ⟨old', hadmitted', harchiving⟩
        · exact hst
        · obtain rfl : old = old' := Option.some.inj (Except.ok.inj (hload.symm.trans hadmitted'.loaded))
          exact archiving_present harchived harchiving
      dsimp only
      rw [hsame]
      exact ⟨old, hload, .inl rfl, .inl (load_some.1 hload).1,
        .inr ⟨completing, transition_completes hadmitted harchived hfits⟩⟩
    · obtain rfl : old = old' := Option.some.inj (Except.ok.inj (hload.symm.trans hready.loaded))
      obtain ⟨snap, hsnap, hintent, _⟩ := ready_loads hX hready
      dsimp only
      rw [hst]
      exact ⟨snap, hsnap, .inr hintent, .inr hready.archived, .inl hintent⟩

end Crash

/-- The theorem applies: with its archive in place, the sample's transition may be cut anywhere. -/
theorem sample_crash_safe : CrashSafe Sample.contracts Sample.archivedDisk (Sample.digest [2, 10]) Sample.other
    (Sample.proof (Sample.digest [2, 10])) Sample.archivedSnapshot :=
  (transition_crash_safe_iff Sample.lawful Sample.other_admissible Sample.archived_loads
    Sample.archived_admitted.replaceable).2 ⟨by decide, Sample.archived_fits⟩

/-- **A cut archive blocks the history.** A settled record that is not archived yet, a transition that may follow it, and a
crash right behind the creation of the archive: every later load refuses the state. -/
theorem archive_cut_blocks_history :
    loadSoftwareClaimRecoverySnapshot Sample.contracts Sample.freshDisk = .ok (some Sample.freshSnapshot) ∧
      transitionAdmissible Sample.contracts (Sample.digest [2, 10]) Sample.other (Sample.proof (Sample.digest [2, 10])) =
        true ∧
      checkTransition Sample.contracts (.ok (some Sample.freshSnapshot)) (Sample.digest [2, 10]) Sample.other =
        .ok Sample.freshSnapshot ∧
      loadSoftwareClaimRecoverySnapshot Sample.contracts
        (transitionRun Sample.contracts Sample.freshDisk (Sample.digest [2, 10]) Sample.other
          (Sample.proof (Sample.digest [2, 10])) (List.replicate 6 .ok)).st =
        .error "software claim recovery history has no safe current record" ∧
      ¬ CrashSafe Sample.contracts Sample.freshDisk (Sample.digest [2, 10]) Sample.other
        (Sample.proof (Sample.digest [2, 10])) Sample.freshSnapshot := by
  have hreplaceable : checkTransition Sample.contracts (.ok (some Sample.freshSnapshot)) (Sample.digest [2, 10])
      Sample.other = .ok Sample.freshSnapshot := by decide +kernel
  have hrefused : loadSoftwareClaimRecoverySnapshot Sample.contracts
      (transitionRun Sample.contracts Sample.freshDisk (Sample.digest [2, 10]) Sample.other
        (Sample.proof (Sample.digest [2, 10])) (List.replicate 6 .ok)).st =
      .error "software claim recovery history has no safe current record" := by
    have hcut := transition_cut (X := Sample.contracts) (d := Sample.freshDisk)
      ⟨Sample.other_admissible, Sample.fresh_loads, hreplaceable, by decide⟩ rfl
    rw [hcut]
    unfold loadSoftwareClaimRecoverySnapshot
    dsimp only [Sample.freshDisk]
    rw [Sample.settled_read]
    decide
  refine ⟨Sample.fresh_loads, Sample.other_admissible, hreplaceable, hrefused, ?_⟩
  intro hsafe
  obtain ⟨snap, hload, _⟩ := hsafe (List.replicate 6 .ok)
  rw [hrefused] at hload
  cases hload

end AutostreamUpdater.Recovery
