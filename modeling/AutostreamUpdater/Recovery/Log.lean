/-
The attempts of one job, over every run of saves and transitions.

`attempt_log_append_only`: the records that saves of one job leave as current, in the order of the run, form a log. Each
extends the one before by at most one attempt, none follows a settled one, and their original request and authority are the
same. Saves of other jobs, transitions, failed writes and crashes may come between; the only way back to a job would be a
transition to it, and that is refused while its settled record is in the history (`Held`).
-/
import AutostreamUpdater.Recovery.History

namespace AutostreamUpdater.Recovery

open Contract Base

/-- a call of one of the two writers -/
inductive StoreRequest where
  | save (previousSHA256 : String) (next : SoftwareClaimRecoveryIntent)
  | transition (previousRawSHA256 : String) (next : SoftwareClaimRecoveryIntent) (proof : SoftwareClaimRecoveryProof)
  deriving DecidableEq, Repr

abbrev StoreEntry := Entry RecoveryDisk DiskRes (Except String Unit) StoreRequest

section Runs

variable (X : RecoveryContracts)

def handleStore : StoreRequest → DiskProg (Except String Unit)
  | .save previousSHA256 next => saveSoftwareClaimRecoveryIntent X previousSHA256 next
  | .transition previousRawSHA256 next proof => transitionSoftwareClaimRecoveryIntent X previousRawSHA256 next proof

/-- a run of calls, each cut or answered as its script says -/
def storeRun (d : RecoveryDisk) (reqs : List (StoreRequest × List Outcome)) : List StoreEntry :=
  serve (diskNext X) id (handleStore X) d reqs

/-- the record that a save of `jobID` left as current -/
def savedRecord (jobID : String) (e : StoreEntry) : Option SoftwareClaimRecoveryIntent :=
  match e.req with
  | .save _ next => if next.original.jobID = jobID ∧ recordedIn e.run.steps = true then some next else none
  | .transition _ _ _ => none

/-- the records that saves of `jobID` left, in order -/
def attemptLog (jobID : String) (d : RecoveryDisk) (reqs : List (StoreRequest × List Outcome)) :
    List SoftwareClaimRecoveryIntent := (storeRun X d reqs).filterMap (savedRecord jobID)

end Runs

/-- a later record of the same log -/
structure Later (a b : SoftwareClaimRecoveryIntent) : Prop where
  unsettled : a.settled = false
  original : b.original = a.original
  schemaVersion : b.schemaVersion = a.schemaVersion
  previous : b.previousSettledRawSHA256 = a.previousSettledRawSHA256
  updaterID : b.updaterID = a.updaterID
  hostID : b.hostID = a.hostID
  sourcePolicyRevision : b.sourcePolicyRevision = a.sourcePolicyRevision
  projectionRevision : b.projectionRevision = a.projectionRevision
  executorPolicyRevision : b.executorPolicyRevision = a.executorPolicyRevision
  executorPolicySHA256 : b.executorPolicySHA256 = a.executorPolicySHA256
  attempts : a.attempts <+: b.attempts

/-- the next record of the same log -/
structure Extends (a b : SoftwareClaimRecoveryIntent) : Prop extends Later a b where
  growth : b.attempts.length ≤ a.attempts.length + 1

theorem Later.trans {a b c : SoftwareClaimRecoveryIntent} (hab : Later a b) (hbc : Later b c) : Later a c where
  unsettled := hab.unsettled
  original := hbc.original.trans hab.original
  schemaVersion := hbc.schemaVersion.trans hab.schemaVersion
  previous := hbc.previous.trans hab.previous
  updaterID := hbc.updaterID.trans hab.updaterID
  hostID := hbc.hostID.trans hab.hostID
  sourcePolicyRevision := hbc.sourcePolicyRevision.trans hab.sourcePolicyRevision
  projectionRevision := hbc.projectionRevision.trans hab.projectionRevision
  executorPolicyRevision := hbc.executorPolicyRevision.trans hab.executorPolicyRevision
  executorPolicySHA256 := hbc.executorPolicySHA256.trans hab.executorPolicySHA256
  attempts := hab.attempts.trans hbc.attempts

instance : Trans Later Later Later := ⟨Later.trans⟩

/-- what a save checks of the record it replaces -/
theorem checkReplaced_ok {a b : SoftwareClaimRecoveryIntent} (h : checkReplaced a b = .ok ()) : Extends a b := by
  unfold checkReplaced at h
  split_ifs at h with hfields hprefix
  simp only [Bool.or_eq_true, bne_iff_ne, Bool.not_eq_true', decide_eq_true_eq, not_or, ne_eq, Decidable.not_not,
    Bool.not_eq_true, not_lt, and_assoc] at hfields hprefix
  obtain ⟨hschema, hprevious, _, horiginal, hupdater, hhost, hsource, hprojection, hexecutor, hdigest, hunsettled, _,
    hgrowth⟩ := hfields
  exact ⟨⟨hunsettled, horiginal.symm, hschema.symm, hprevious.symm, hupdater.symm, hhost.symm, hsource.symm,
    hprojection.symm, hexecutor.symm, hdigest.symm, List.prefix_iff_eq_take.2 hprefix.symm⟩, hgrowth⟩

section Log

variable {X : RecoveryContracts} {d s : RecoveryDisk} {i next : SoftwareClaimRecoveryIntent} {jobID : String}

/-! ## The record of a job on disk -/

/-- the current record reads as `i` -/
def Current (X : RecoveryContracts) (d : RecoveryDisk) (i : SoftwareClaimRecoveryIntent) : Prop :=
  ∃ raw, d.head = some raw ∧ readSoftwareClaimRecoveryRaw X raw = .ok ⟨i, raw⟩

/-- the current record is another job's, and a file of the history reads as a record of `jobID` -/
def Retired (X : RecoveryContracts) (d : RecoveryDisk) (jobID : String) : Prop :=
  (∃ i, Current X d i ∧ i.original.jobID ≠ jobID) ∧
    ∃ file raw i, (file, raw) ∈ d.history.getD [] ∧ readSoftwareClaimRecoveryRaw X raw = .ok ⟨i, raw⟩ ∧
      i.original.jobID = jobID

/-- the last record of a job: current, or retired -/
def Held (X : RecoveryContracts) (d : RecoveryDisk) (i : SoftwareClaimRecoveryIntent) : Prop :=
  Current X d i ∨ Retired X d i.original.jobID

theorem Current.unique (h : Current X d i) (h' : Current X d next) : i = next := by
  obtain ⟨raw, hhead, hread⟩ := h
  obtain ⟨raw', hhead', hread'⟩ := h'
  obtain rfl : raw = raw' := Option.some.inj (hhead.symm.trans hhead')
  rw [hread] at hread'
  cases hread'
  rfl

theorem current_of_load {snap : SoftwareClaimRecoverySnapshot}
    (h : loadSoftwareClaimRecoverySnapshot X d = .ok (some snap)) : Current X d snap.intent := by
  obtain ⟨hhead, hread, _⟩ := load_some.1 h
  exact ⟨snap.raw, hhead, hread⟩

theorem Current.of_head (h : Current X d i) (hhead : s.head = d.head) : Current X s i := by
  obtain ⟨raw, hd, hread⟩ := h
  exact ⟨raw, hhead.trans hd, hread⟩

variable {payload : Bytes}

/-- a written record is current -/
theorem current_written (hX : X.Lawful) (hv : next.validate X = .ok ()) (henc : encodeIntent X next = some payload) :
    Current X { d with head := some payload } next :=
  ⟨payload, rfl, readRaw_encoded hX hv henc⟩

/-- a file that reads as a record is archived in every snapshot -/
theorem mem_jobs_of_file {snap : SoftwareClaimRecoverySnapshot} {file : String} {raw : Bytes}
    (hload : loadSoftwareClaimRecoverySnapshot X d = .ok (some snap)) (hfile : (file, raw) ∈ d.history.getD [])
    (hread : readSoftwareClaimRecoveryRaw X raw = .ok ⟨i, raw⟩) : i.original.jobID ∈ snap.jobs := by
  obtain ⟨_, _, harchives, _⟩ := load_some.1 hload
  cases hd : d.history with
  | none =>
    rw [hd] at hfile
    cases hfile
  | some entries =>
    rw [hd] at harchives
    rw [hd, Option.getD_some] at hfile
    obtain ⟨list, hlist, _, hall, _⟩ := readArchives_some.1 harchives
    obtain ⟨n, hn, hget⟩ := List.getElem_of_mem hfile
    have hn' : n < list.length := hall.length_eq ▸ hn
    have hentry := (List.forall₂_iff_get.1 hall).2 n hn hn'
    simp only [List.get_eq_getElem] at hentry
    rw [hget] at hentry
    have hrecord := (readArchive_ok.1 hentry).2.1
    rw [hread] at hrecord
    simp only [SoftwareClaimRecoverySnapshot.jobs, softwareClaimRecoveryArchiveIntents, hlist, Option.getD_some,
      List.map_cons, List.map_map, List.mem_cons, List.mem_map]
    refine .inr ⟨list[n], List.getElem_mem hn', ?_⟩
    simp only [Function.comp, ← Except.ok.inj hrecord]

theorem archiving_keeps {file : String} {raw : Bytes} (h : Archiving d file raw s) {e : String × Bytes}
    (he : e ∈ d.history.getD []) : e ∈ s.history.getD [] := by
  cases h with
  | same => exact he
  | made => exact he
  | part n _ => exact List.mem_append_left _ he

theorem mem_of_archiveBytes {file : String} {raw : Bytes} (h : archiveBytes d file = some raw) :
    (file, raw) ∈ d.history.getD [] := by
  obtain ⟨entries, hentries, hlookup⟩ := Option.bind_eq_some_iff.1 h
  rw [hentries, Option.getD_some]
  obtain ⟨before, after, hsplit, _⟩ := List.lookup_eq_some_iff.1 hlookup
  simp [hsplit]

/-! ## One call -/

/-- a save that wrote extends the record it found -/
theorem SaveAdmitted.extends_current {previousSHA256 : String} (h : SaveAdmitted X d previousSHA256 next payload)
    (hi : Current X d i) : Extends i next := by
  obtain ⟨_, hcheck, _⟩ := h
  cases hload : loadSoftwareClaimRecoverySnapshot X d with
  | error reason =>
    rw [hload] at hcheck
    cases hcheck
  | ok found =>
    cases found with
    | none =>
      -- there is a current record, so the reader cannot have found none
      obtain ⟨raw, hhead, hread⟩ := hi
      unfold loadSoftwareClaimRecoverySnapshot at hload
      rw [hhead] at hload
      dsimp only at hload
      rw [hread] at hload
      dsimp only at hload
      split at hload
      · cases hload
      · split at hload <;> cases hload
    | some snap =>
      rw [hload] at hcheck
      unfold checkSave at hcheck
      dsimp only at hcheck
      split_ifs at hcheck
      rw [hi.unique (current_of_load hload)]
      exact checkReplaced_ok hcheck

/-- a save that wrote extends the last record of its job -/
theorem Held.extended {previousSHA256 : String} (h : Held X d i) (hsave : SaveAdmitted X d previousSHA256 next payload)
    (hjob : next.original.jobID = i.original.jobID) : Extends i next := by
  rcases h with h | ⟨⟨k, hk, hne⟩, _⟩
  · exact hsave.extends_current h
  · rw [(hsave.extends_current hk).original] at hjob
    exact absurd hjob hne

/-- a save of another job keeps it -/
theorem Held.saved_other {previousSHA256 : String} (h : Held X d i)
    (hsave : SaveAdmitted X d previousSHA256 next payload) (hcurrent : Current X { d with head := some payload } next)
    (hjob : next.original.jobID ≠ i.original.jobID) : Held X { d with head := some payload } i := by
  rcases h with h | ⟨_, hfile⟩
  · -- a save replaces a record of its own job only
    rw [(hsave.extends_current h).original] at hjob
    exact absurd rfl hjob
  · exact .inr ⟨⟨next, hcurrent, hjob⟩, hfile⟩

/-- archiving keeps it -/
theorem Held.archiving {file : String} {raw : Bytes} (h : Held X d i) (hs : Archiving d file raw s) : Held X s i := by
  rcases h with h | ⟨⟨j, hj, hne⟩, file', raw', i', hfile, hread, hjob⟩
  · exact .inl (h.of_head hs.head)
  · exact .inr ⟨⟨j, hj.of_head hs.head, hne⟩, file', raw', i', archiving_keeps hs hfile, hread, hjob⟩

/-- a transition that wrote retires it -/
theorem Held.transitioned (hX : X.Lawful) {previousRawSHA256 : String} {proof : SoftwareClaimRecoveryProof}
    {old : SoftwareClaimRecoverySnapshot} (h : Held X d i)
    (hready : TransitionReady X d previousRawSHA256 next proof old s payload) :
    Held X { s with head := some payload } i := by
  obtain ⟨_, _, hvalid, _⟩ := transitionAdmissible_iff.1 hready.admissible
  obtain ⟨_, _, _, _, henc⟩ := checkArchived_ok hready.checked
  have hcurrent := current_written (d := s) hX hvalid henc
  have hunused := (checkTransition_ok hready.replaceable).2.2.2.2.2
  right
  rcases h with h | ⟨_, file, raw, i', hfile, hread, hjob⟩
  · obtain rfl := h.unique (current_of_load hready.loaded)
    refine ⟨⟨next, hcurrent, ?_⟩, _, old.raw, old.intent, mem_of_archiveBytes hready.archived,
      (load_some.1 hready.loaded).2.1, rfl⟩
    intro hsame
    apply hunused
    rw [hsame]
    simp [SoftwareClaimRecoverySnapshot.jobs]
  · refine ⟨⟨next, hcurrent, ?_⟩, file, raw, i', archiving_keeps hready.archiving hfile, hread, hjob⟩
    intro hsame
    apply hunused
    rw [hsame, ← hjob]
    exact mem_jobs_of_file hready.loaded hfile hread

/-- the entry of one call -/
abbrev storeEntry (X : RecoveryContracts) (d : RecoveryDisk) (r : StoreRequest) (cs : List Outcome) : StoreEntry :=
  handled (diskNext X) (handleStore X) r d cs

/-- a save that left its record as current was admitted -/
theorem savedRecord_some (hX : X.Lawful) {r : StoreRequest} {cs : List Outcome}
    (h : savedRecord jobID (storeEntry X d r cs) = some next) :
    next.original.jobID = jobID ∧ next.validate X = .ok () ∧ Current X (storeEntry X d r cs).run.st next ∧
      ∃ previousSHA256 payload, SaveAdmitted X d previousSHA256 next payload := by
  cases r with
  | transition _ _ _ => cases h
  | save previousSHA256 record =>
    simp only [savedRecord, Option.ite_none_right_eq_some, Option.some.injEq] at h
    obtain ⟨⟨hjob, hrec⟩, rfl⟩ := h
    rcases (save_spec (X := X) d previousSHA256 record cs).1 with ⟨hnot, _⟩ | ⟨_, payload, hadmitted, hst⟩
    · cases hnot.symm.trans hrec
    · refine ⟨hjob, hadmitted.1, ?_, previousSHA256, payload, hadmitted⟩
      change Current X ((saveSoftwareClaimRecoveryIntent X previousSHA256 record).exec (diskNext X) d cs).st record
      rw [hst]
      exact current_written hX hadmitted.1 hadmitted.2.2

/-- **One call** that is not a save of the job keeps its last record. -/
theorem Held.step (hX : X.Lawful) (h : Held X d i) {r : StoreRequest} {cs : List Outcome}
    (hnone : savedRecord i.original.jobID (storeEntry X d r cs) = none) : Held X (storeEntry X d r cs).run.st i := by
  cases r with
  | save previousSHA256 record =>
    change Held X ((saveSoftwareClaimRecoveryIntent X previousSHA256 record).exec (diskNext X) d cs).st i
    rcases (save_spec (X := X) d previousSHA256 record cs).1 with ⟨_, hst⟩ | ⟨hrec, payload, hadmitted, hst⟩
    · rw [hst]
      exact h
    · rw [hst]
      refine h.saved_other hadmitted (current_written hX hadmitted.1 hadmitted.2.2) ?_
      intro hjob
      simp only [savedRecord, ite_eq_right_iff, reduceCtorEq, imp_false] at hnone
      exact hnone ⟨hjob, hrec⟩
  | transition previousRawSHA256 record proof =>
    change Held X ((transitionSoftwareClaimRecoveryIntent X previousRawSHA256 record proof).exec (diskNext X) d cs).st i
    rcases (transition_spec (X := X) d previousRawSHA256 record proof cs).1 with
      ⟨_, hst | ⟨old, _, harchiving⟩⟩ | ⟨_, old, s', payload, hready, hst⟩
    · rw [hst]
      exact h
    · exact h.archiving harchiving
    · rw [hst]
      exact h.transitioned hX hready

/-! ## Runs -/

theorem attemptLog_cons (r : StoreRequest) (cs : List Outcome) (rest : List (StoreRequest × List Outcome)) :
    attemptLog X jobID d ((r, cs) :: rest) = ((savedRecord jobID (storeEntry X d r cs)).toList ++
      attemptLog X jobID (storeEntry X d r cs).run.st rest) := by
  have hsettle : settle id (storeEntry X d r cs).run = (storeEntry X d r cs).run.st := by simp [settle]
  simp only [attemptLog, storeRun, serve, List.filterMap_cons]
  rw [show settle id ((handleStore X r).exec (diskNext X) d cs) = (storeEntry X d r cs).run.st from hsettle]
  cases savedRecord jobID (storeEntry X d r cs) <;> rfl

/-- the log behind the last record of a job extends it step by step -/
theorem Held.log (hX : X.Lawful) (reqs : List (StoreRequest × List Outcome)) (h : Held X d i) :
    (i :: attemptLog X i.original.jobID d reqs).IsChain Extends := by
  induction reqs generalizing d i with
  | nil => exact .singleton i
  | cons q rest ih =>
    obtain ⟨r, cs⟩ := q
    rw [attemptLog_cons]
    cases hsaved : savedRecord i.original.jobID (storeEntry X d r cs) with
    | none => exact ih (h.step hX hsaved)
    | some next =>
      obtain ⟨hjob, _, hcurrent, _, _, hadmitted⟩ := savedRecord_some hX hsaved
      have hrest := ih (.inl hcurrent)
      rw [hjob] at hrest
      exact .cons_cons (h.extended hadmitted hjob) hrest

theorem attemptLog_chain (hX : X.Lawful) (jobID : String) (d : RecoveryDisk)
    (reqs : List (StoreRequest × List Outcome)) : (attemptLog X jobID d reqs).IsChain Extends := by
  induction reqs generalizing d with
  | nil => exact .nil
  | cons q rest ih =>
    obtain ⟨r, cs⟩ := q
    rw [attemptLog_cons]
    cases hsaved : savedRecord jobID (storeEntry X d r cs) with
    | none => exact ih _
    | some next =>
      obtain ⟨hjob, _, hcurrent, _⟩ := savedRecord_some hX hsaved
      have hrest := Held.log hX rest (.inl hcurrent)
      rw [hjob] at hrest
      exact hrest

/-- every record of a log is valid and of its job -/
theorem attemptLog_valid (hX : X.Lawful) (jobID : String) (d : RecoveryDisk)
    (reqs : List (StoreRequest × List Outcome)) :
    ∀ i ∈ attemptLog X jobID d reqs, i.original.jobID = jobID ∧ i.validate X = .ok () := by
  induction reqs generalizing d with
  | nil =>
    intro i hi
    cases hi
  | cons q rest ih =>
    obtain ⟨r, cs⟩ := q
    intro i hi
    rw [attemptLog_cons, List.mem_append, Option.mem_toList] at hi
    rcases hi with hi | hi
    · obtain ⟨hjob, hvalid, _⟩ := savedRecord_some hX hi
      exact ⟨hjob, hvalid⟩
    · exact ih _ i hi

/-- the first attempt of a valid record is the original request, the last one the current request -/
theorem cursor_of_valid (h : i.validate X = .ok ()) :
    (∃ a, i.attempts.head? = some a ∧ a.leaseGeneration = i.original.leaseGeneration) ∧
      ∃ a, i.attempts.getLast? = some a ∧ a.leaseGeneration = i.request.leaseGeneration := by
  unfold SoftwareClaimRecoveryIntent.validate at h
  split_ifs at h with _ _ _ hcursor
  simp only [SoftwareClaimRecoveryIntent.cursorValid, Bool.not_eq_true', Bool.not_eq_false, Bool.and_eq_true,
    Option.any_eq_true, beq_iff_eq] at hcursor
  exact hcursor

/-- **The attempt log is append-only.** In every run of saves and transitions, from every disk and with every failure and
crash, the records that saves of one job left as current extend each other by at most one attempt, with the same original
request and authority, and none follows a settled one. In each of them the first attempt has the original generation and the
last one that of the current request. A save that reports success is among them. -/
theorem attempt_log_append_only (X : RecoveryContracts) (hX : X.Lawful) (jobID : String) (d : RecoveryDisk)
    (reqs : List (StoreRequest × List Outcome)) :
    (attemptLog X jobID d reqs).IsChain Extends ∧ (attemptLog X jobID d reqs).Pairwise Later ∧
      (∀ i ∈ attemptLog X jobID d reqs,
        (∃ a, i.attempts.head? = some a ∧ a.leaseGeneration = i.original.leaseGeneration) ∧
          ∃ a, i.attempts.getLast? = some a ∧ a.leaseGeneration = i.request.leaseGeneration) ∧
      ∀ e ∈ storeRun X d reqs, ∀ previousSHA256 next, e.req = .save previousSHA256 next → next.original.jobID = jobID →
        e.run.out = some (.ok ()) → savedRecord jobID e = some next := by
  have hchain := attemptLog_chain hX jobID d reqs
  refine ⟨hchain, List.isChain_iff_pairwise.1 (hchain.imp fun _ _ h => h.toLater), ?_, ?_⟩
  · intro i hi
    exact cursor_of_valid (attemptLog_valid hX jobID d reqs i hi).2
  · intro e he previousSHA256 next hreq hjob hout
    clear hchain
    induction reqs generalizing d with
    | nil => cases he
    | cons q rest ih =>
      obtain ⟨r, cs⟩ := q
      rcases List.mem_cons.1 he with rfl | he
      · cases hreq
        have hrecorded := (save_spec (X := X) d previousSHA256 next cs).2 hout
        simp only [savedRecord, hjob, true_and]
        exact if_pos hrecorded
      · exact ih _ he

end Log

namespace Sample

/-- the first record of a job, and its second attempt -/
def attempts : List (StoreRequest × List Outcome) :=
  [(.save "" first, [.ok, .ok, .ok]), (.save (digest [0]) second, [.ok, .ok, .ok])]

theorem attempts_logged : attemptLog contracts "job-1" {} attempts = [first, second] := by decide +kernel

end Sample

/-- The theorem applies: the sample's second record extends its first one. -/
theorem sample_log_grows : Sample.contracts.Lawful ∧ attemptLog Sample.contracts "job-1" {} Sample.attempts =
    [Sample.first, Sample.second] ∧ [Sample.first, Sample.second].Pairwise Later := by
  have hlog := (attempt_log_append_only Sample.contracts Sample.lawful "job-1" {} Sample.attempts).2.1
  rw [Sample.attempts_logged] at hlog
  exact ⟨Sample.lawful, Sample.attempts_logged, hlog⟩

end AutostreamUpdater.Recovery
