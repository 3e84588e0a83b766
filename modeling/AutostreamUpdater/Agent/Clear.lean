/-
What a restart finds after `ClearActive` was cut.

However `ClearActive` ends, the journal on disk is the one before or the cleared one, and a fence beside it is the one
that binds the journal before (`AtFence`). `OpenJournal` settles each of these four disks, under three conditions: the
active job carries no lease token, its pending reports pass the restart check, and a journal that can be fenced has a
report cursor and no stage failure. The last is where the two procedures differ: `ClearActive` resets the stage failure
and the recovery of the fence does not expect it.
-/
import AutostreamUpdater.Agent.Store

namespace AutostreamUpdater.Agent

open Contract Base Prog

section Clear

variable (E : JournalContracts)

/-- the fence for `d` passes its own checks -/
def Fenceable (d : JournalData) : Prop :=
  checkActiveClearMarker E d = .ok () ∧
    markerLength E (activeClearMarker E d) ≤ activeClearMarkerSizeLimit (activeClearMarker E d)

/-- the disks `ClearActive` passes through on its way from `d` -/
structure AtFence (d : JournalData) (s : Disk) : Prop where
  main : s.main = some d.persisted ∨ s.main = some d.cleared
  marker : s.marker = none ∨ s.marker = some (some (activeClearMarker E d).persisted) ∧ Fenceable E d

/-- reopening succeeds, with the active fields of `d` or with none -/
def Reopens (d : JournalData) (s : Disk) : Prop :=
  ∃ j s', openJournal E s = .ok (j, s') ∧ (j.data.active = d.persisted.active ∨ j.data.active = {})

/-- the journals a restart can bring back from every cut of `ClearActive` -/
structure Clearable (d : JournalData) : Prop where
  token : ∀ job ∈ d.activeJob, job.leaseToken = ""
  pending : d.pending ≠ [] → d.activeJob.any (·.isV2SoftwareJob) →
    validateJournalSoftwarePendingForRestart E.toAgentContracts d.persisted.normalized = .ok ()
  fence : Fenceable E d → d.nextSeq ≠ 0 ∧ d.activeStageFailure = none

variable {E} {d : JournalData} {s : Disk}

/-! ## Every cut is at the fence -/

/-- The temporary file does not matter. -/
theorem AtFence.of_eq {s' : Disk} (h : AtFence E d s) (hm : s'.main = s.main) (hk : s'.marker = s.marker) :
    AtFence E d s' := by
  refine ⟨?_, ?_⟩
  · rw [hm]
    exact h.main
  · rw [hk]
    exact h.marker

/-- operations that stay at the fence whatever their outcome -/
def Harmless (d : JournalData) : StoreOp → Prop
  | .file .renameTemp => False
  | .file (.saveJournal e) => e = d.cleared
  | _ => True

theorem harmless_step {o : StoreOp} (ho : Harmless d o) (h : AtFence E d s) (c : Outcome) :
    AtFence E d (storeNext E s o c).2 := by
  cases o with
  | loadMarker => cases c <;> exact h
  | file f =>
    cases f with
    | renameTemp => exact ho.elim
    | saveJournal e =>
      have he : e = d.cleared := ho
      subst he
      have hsaved : AtFence E d { s with main := some d.cleared.persisted } := ⟨.inr rfl, h.marker⟩
      cases c with
      | ok => exact hsaved
      | fail => exact h
      | failDone => exact hsaved
    | removeMarker =>
      simp only [storeNext, fileNext]
      split_ifs
      · exact h
      · cases c with
        | ok => exact ⟨h.main, .inl rfl⟩
        | fail => exact h
        | failDone => exact ⟨h.main, .inl rfl⟩
    | createTemp =>
      simp only [storeNext, fileNext]
      split_ifs
      · exact h
      · cases c <;> exact h.of_eq rfl rfl
    | removeTemp => cases c <;> exact h.of_eq rfl rfl
    | discardTemp => cases c <;> exact h.of_eq rfl rfl
    | writeTemp m => cases c <;> exact h.of_eq rfl rfl
    | statTemp => cases c <;> exact h
    | syncDir => cases c <;> exact h

/-- the crash condition of `ClearActive` -/
abbrev AtFenceC (E : JournalContracts) (d : JournalData) (_ : List (Step Disk StoreRes)) (s : Disk) : Prop := AtFence E d s

variable {tr : List (Step Disk StoreRes)}

/-- A program of harmless operations stays at the fence. -/
theorem harmless_wp {α : Type} {p : StoreProg α} (hp : p.Only (Harmless d) fun _ => True) (h : AtFence E d s) :
    p.wp (storeNext E) (AtFenceC E d) (fun _ _ s => AtFence E d s) tr s := by
  refine wp_post (only_wp hp (I := AtFenceC E d) ?_ (fun _ _ h => h) h) fun a tr s _ hq => hq.1
  intro tr s o c ho h
  exact harmless_step ho h c

/-- One harmless operation and a return. -/
theorem harmless_call {α : Type} {f : FileOp} {k : Except String Unit → α} (hf : Harmless d (.file f))
    (h : AtFence E d s) :
    (file f >>= fun r => pure (k r)).wp (storeNext E) (AtFenceC E d) (fun _ _ s => AtFence E d s) tr s := by
  refine harmless_wp ?_ h
  exact only_op_bind hf fun _ => trivial

/-- The rename installs the fence that was written, or nothing. -/
theorem renameActiveClearMarker_wp (h : AtFence E d s) (hd : Fenceable E d)
    (ht : s.temp = some (some (activeClearMarker E d).persisted)) :
    (renameActiveClearMarker (activeClearMarker E d)).wp (storeNext E) (AtFenceC E d) (fun _ _ s => AtFence E d s) tr s := by
  have hinstalled : AtFence E d { s with marker := some (some (activeClearMarker E d).persisted), temp := none } :=
    ⟨h.main, .inr ⟨rfl, hd⟩⟩
  unfold renameActiveClearMarker
  refine wp_op_bind h fun c => ?_
  simp only [storeNext, fileNext, ht]
  rcases c with _ | _ | _
  · exact harmless_call trivial hinstalled
  -- failed, with or without effect: what follows the rename touches no more than the temporary file
  all_goals
    refine harmless_wp ?_ (by assumption)
    refine only_op_bind trivial fun r => ?_
    rcases r with _ | _ | installed
    · exact only_op_bind trivial fun _ => trivial
    · exact only_op_bind trivial fun _ => trivial
    · exact only_ite (only_op_bind trivial fun _ => trivial) (only_op_bind trivial fun _ => trivial)

/-- Writing and renaming the fence stays at the fence. -/
theorem writeActiveClearMarker_wp (h : AtFence E d s) (hd : checkActiveClearMarker E d = .ok ()) :
    (writeActiveClearMarker E (activeClearMarker E d)).wp (storeNext E) (AtFenceC E d) (fun _ _ s => AtFence E d s) tr s := by
  unfold writeActiveClearMarker
  refine wp_ite (fun _ => ⟨h, h⟩) fun hlen => ?_
  have hfence : Fenceable E d := ⟨hd, Nat.not_lt.1 hlen⟩
  refine wp_seq (harmless_wp (p := file .createTemp) ⟨trivial, fun _ => trivial⟩ h) fun r tr s h _ => ?_
  cases r with
  | error _ => exact ⟨h, h⟩
  | ok _ =>
    refine wp_op_bind h fun c => ?_
    have hwrite := harmless_step (o := .file (.writeTemp (activeClearMarker E d))) trivial h c
    cases c with
    | ok =>
      refine wp_op_bind hwrite fun c => ?_
      cases c with
      | ok => exact renameActiveClearMarker_wp hwrite hfence rfl
      | fail => exact harmless_call trivial hwrite
      | failDone => exact harmless_call trivial hwrite
    | fail => exact harmless_call trivial hwrite
    | failDone => exact harmless_call trivial hwrite

theorem installActiveClearMarkerLocked_wp (h : AtFence E d s) :
    (installActiveClearMarkerLocked E d).wp (storeNext E) (AtFenceC E d) (fun _ _ s => AtFence E d s) tr s := by
  unfold installActiveClearMarkerLocked
  cases hd : checkActiveClearMarker E d with
  | error reason => exact ⟨h, h⟩
  | ok _ =>
    refine wp_seq (harmless_wp (p := loadMarker) ⟨trivial, fun _ => trivial⟩ h) fun r tr s h _ => ?_
    rcases r with reason | _ | existing
    · exact ⟨h, h⟩
    · refine wp_seq (harmless_wp (p := file .removeTemp) ⟨trivial, fun _ => trivial⟩ h) fun r tr s h _ => ?_
      cases r with
      | error reason => exact ⟨h, h⟩
      | ok _ => exact writeActiveClearMarker_wp h hd
    · refine wp_ite (fun _ => ⟨h, h⟩) fun _ => ?_
      exact harmless_call trivial h

/-- Wherever `ClearActive` is cut, and however it ends, the disk is at the fence. -/
theorem clearActive_wp (h : AtFence E d s) :
    (clearActive E ⟨d, none⟩).wp (storeNext E) (AtFenceC E d) (fun _ _ s => AtFence E d s) tr s := by
  unfold clearActive
  refine wp_ite (fun _ => ⟨h, h⟩) fun _ => ?_
  refine wp_seq (installActiveClearMarkerLocked_wp h) fun r tr s h _ => ?_
  cases r with
  | error reason => exact ⟨h, h⟩
  | ok _ =>
    refine harmless_wp ?_ h
    refine only_op_bind rfl fun r => ?_
    cases r with
    | error reason => trivial
    | ok _ =>
      refine only_op_bind trivial fun r => ?_
      cases r <;> trivial

/-! ## Reading the fence back -/

/-- what a marker that passes its checks satisfies -/
structure MarkerValid (E : JournalContracts) (m : JournalActiveClearMarker) : Prop where
  version : m.schemaVersion = journalActiveClearMarkerVersion
  pattern : digestPattern m.previousSHA256 = true
  job : m.previous.activeJob.isSome = true
  previous : validateJournalData E.toAgentContracts m.previous = .ok ()
  bound : markerLength E m.withoutCandidates ≤ journalActiveClearMarkerMaxSize
  jobToken : jobCredential m.previous = false
  reportToken : reportCredential m.previous = false
  digest : journalDataSHA256 E m.previous = m.previousSHA256

theorem validateActiveClearMarker_ok {m : JournalActiveClearMarker} :
    validateActiveClearMarker E m = .ok () ↔ MarkerValid E m := by
  constructor
  · intro h
    unfold validateActiveClearMarker at h
    cases hv : validateJournalData E.toAgentContracts m.previous with
    | error reason =>
      simp only [hv] at h
      split_ifs at h
    | ok _ =>
      simp only [hv] at h
      split_ifs at h with hhead hbound hjob hreport hdigest
      simp only [Bool.or_eq_true, bne_iff_ne, ne_eq, not_or, not_not, Bool.not_eq_true', Bool.not_eq_false,
        Option.isNone_iff_eq_none] at hhead
      exact ⟨hhead.1.1, hhead.1.2, Option.isSome_iff_ne_none.2 hhead.2, hv, by simpa using hbound, by simpa using hjob,
        by simpa using hreport, by simpa using hdigest⟩
  · intro h
    have hjob : m.previous.activeJob.isNone = false := by simpa using h.job
    simp [validateActiveClearMarker, h.version, h.pattern, hjob, h.previous, Nat.not_lt.2 h.bound, h.jobToken,
      h.reportToken, h.digest]

@[simp] theorem markerLength_persisted (m : JournalActiveClearMarker) : markerLength E m.persisted = markerLength E m := by
  simp [markerLength, JournalActiveClearMarker.persisted]

@[simp] theorem journalDataSHA256_persisted (d : JournalData) :
    journalDataSHA256 E d.persisted = journalDataSHA256 E d := by
  simp [journalDataSHA256]

/-- A valid marker is still valid when it is read back. -/
theorem MarkerValid.persisted {m : JournalActiveClearMarker} (h : MarkerValid E m) : MarkerValid E m.persisted where
  version := h.version
  pattern := h.pattern
  job := by simpa [JournalActiveClearMarker.persisted, JournalData.persisted] using h.job
  previous := by
    rw [← h.previous]
    exact validateJournalData_persisted _ _
  bound := by
    have hcomm : m.persisted.withoutCandidates = m.withoutCandidates.persisted := rfl
    rw [hcomm, markerLength_persisted]
    exact h.bound
  jobToken := by
    have hj := h.jobToken
    simp only [JournalActiveClearMarker.persisted, JournalData.persisted, jobCredential] at hj ⊢
    cases hjob : m.previous.activeJob with
    | none => rfl
    | some job =>
      rw [hjob] at hj
      simp only [Option.any_some, Bool.or_eq_false_iff] at hj
      simp [UpdateJob.persisted, hj.1]
  reportToken := h.reportToken
  digest := by
    rw [← show journalDataSHA256 E m.previous = m.persisted.previousSHA256 from h.digest]
    exact journalDataSHA256_persisted _

/-- The fence of a fenceable journal loads. -/
theorem loadActiveClearMarker_fence (h : Fenceable E d) :
    loadActiveClearMarker E (some (some (activeClearMarker E d).persisted)) =
      .ok (some (activeClearMarker E d).persisted) := by
  obtain ⟨hcheck, hlen⟩ := h
  have hvalid : MarkerValid E (activeClearMarker E d) := by
    apply validateActiveClearMarker_ok.1
    unfold checkActiveClearMarker at hcheck
    split_ifs at hcheck
    exact hcheck
  have hlimit : activeClearMarkerSizeLimit (activeClearMarker E d) ≤ journalPortActiveClearMarkerMaxSize := by
    unfold activeClearMarkerSizeLimit
    split_ifs
    · exact le_refl _
    · decide
  have hsame : activeClearMarkerSizeLimit (activeClearMarker E d).persisted =
      activeClearMarkerSizeLimit (activeClearMarker E d) := rfl
  have hok : validateActiveClearMarker E (activeClearMarker E d).persisted = .ok () :=
    validateActiveClearMarker_ok.2 hvalid.persisted
  have hmax : ¬ markerLength E (activeClearMarker E d) > journalPortActiveClearMarkerMaxSize := by omega
  have hfit : ¬ markerLength E (activeClearMarker E d) > activeClearMarkerSizeLimit (activeClearMarker E d) := by omega
  simp only [loadActiveClearMarker, markerLength_persisted, hsame, hok, if_neg hmax, if_neg hfit]

/-! ## Reopening -/

/-- `OpenJournal` on a disk whose journal is valid, whose fence can be settled and whose reports pass the restart check -/
theorem openJournal_ok {main : JournalData} {s' : Disk} {retain : Bool} (hm : s.main = some main)
    (hv : validateJournalData E.toAgentContracts main = .ok ())
    (hr : reconcileActiveClearMarkerLocked E s (some main.normalized) = .ok s')
    (hp : retainSoftwarePending E main.normalized = .ok retain) :
    ∃ s'', openJournal E s = .ok (⟨scrubbed retain main.normalized, none⟩, s'') := by
  have hv' : validateJournalData E.toAgentContracts main.normalized = .ok () := by
    rw [← hv]
    exact validateJournalData_active _ rfl
  refine ⟨if scrubbed retain main.normalized = main.normalized then s'
    else { s' with main := some (scrubbed retain main.normalized).persisted }, ?_⟩
  simp only [openJournal, hm, hv', hr, hp]
  rfl

/-- The fence is settled when the journal is one of the two it stands between. -/
theorem reconcile_ok {e : JournalData} (hk : s.marker = none ∨ s.marker = some (some (activeClearMarker E d).persisted) ∧
      Fenceable E d ∧ (journalDataSHA256 E e = journalDataSHA256 E d ∨
        journalDataSHA256 E e = journalDataSHA256 E d.clearedByMarker)) :
    ∃ s', reconcileActiveClearMarkerLocked E s (some e) = .ok s' := by
  unfold reconcileActiveClearMarkerLocked
  rcases hk with hk | ⟨hk, hd, hdigest⟩
  · exact ⟨{ s with temp := none }, by rw [hk]; rfl⟩
  · refine ⟨{ s with temp := none, marker := none }, ?_⟩
    rw [hk, loadActiveClearMarker_fence hd]
    have hprevious : (activeClearMarker E d).persisted.previousSHA256 = journalDataSHA256 E d := rfl
    have hcleared : journalDataSHA256 E (activeClearMarker E d).persisted.previous.clearedByMarker =
        journalDataSHA256 E d.clearedByMarker := rfl
    simp only [hprevious, hcleared]
    rw [if_neg]
    rintro ⟨h1, h2⟩
    exact hdigest.elim h1 h2

/-- From every disk at the fence of a clearable journal, the restart finds the journal before or the cleared one. -/
theorem reopens_of_atFence (hv : validateJournalData E.toAgentContracts d = .ok ()) (hc : Clearable E d)
    (h : AtFence E d s) : Reopens E d s := by
  rcases h.main with hm | hm
  · -- the journal before: the fence binds it as it is
    have hsettled : ∃ s', reconcileActiveClearMarkerLocked E s (some d.persisted.normalized) = .ok s' := by
      refine reconcile_ok (d := d) (h.marker.imp id fun hk => ⟨hk.1, hk.2, .inl ?_⟩)
      have hseq : d.persisted.normalized = d.persisted := JournalData.normalized_of_ne_zero (hc.fence hk.2).1
      rw [hseq, journalDataSHA256_persisted]
    have hretain : ∃ retain, retainSoftwarePending E d.persisted.normalized = .ok retain := by
      unfold retainSoftwarePending
      split_ifs with hp
      · have hjob : d.activeJob.any (·.isV2SoftwareJob) = true := by
          simpa [JournalData.normalized, JournalData.persisted, Option.any_map] using hp.2
        exact ⟨true, by rw [hc.pending hp.1 hjob]⟩
      · exact ⟨false, rfl⟩
    obtain ⟨s', hr⟩ := hsettled
    obtain ⟨retain, hp⟩ := hretain
    obtain ⟨s'', ho⟩ := openJournal_ok hm (by rw [validateJournalData_persisted, hv]) hr hp
    refine ⟨_, s'', ho, .inl ?_⟩
    -- nothing is left to scrub from the active job
    have htoken := hc.token
    simp only [scrubbed, JournalData.normalized, JournalData.persisted, JournalData.active, ActiveFields.mk.injEq, and_true]
    cases hjob : d.activeJob with
    | none => rfl
    | some job =>
      have ht : job.leaseToken = "" := htoken job (by simp [hjob])
      simp [UpdateJob.persisted, ht]
  · -- the cleared journal: the fence expects it when no stage failure was reset
    have hsettled : ∃ s', reconcileActiveClearMarkerLocked E s (some d.cleared.normalized) = .ok s' := by
      refine reconcile_ok (d := d) (h.marker.imp id fun hk => ⟨hk.1, hk.2, .inr ?_⟩)
      obtain ⟨hseq, hfailure⟩ := hc.fence hk.2
      have hnorm : d.cleared.normalized = d.cleared := JournalData.normalized_of_ne_zero hseq
      rw [hnorm, JournalData.clearedByMarker_eq_cleared.2 hfailure]
    obtain ⟨s', hr⟩ := hsettled
    have hretain : retainSoftwarePending E d.cleared.normalized = .ok false := by
      simp [retainSoftwarePending, JournalData.normalized, JournalData.cleared]
    obtain ⟨s'', ho⟩ := openJournal_ok hm (validateJournalData_none _ rfl) hr hretain
    exact ⟨_, s'', ho, .inr rfl⟩

/-! ## Where the restart fails -/

/-- the disk that a cut of `ClearActive` leaves behind; `temp` is a temporary file left over from before -/
def cutClear (E : JournalContracts) (d : JournalData) (temp : Option FenceFile) (cs : List Outcome) : Disk :=
  ((clearActive E ⟨d, none⟩).exec (storeNext E) ⟨some d.persisted, none, temp⟩ cs).st

/-- no two of the journals that a fence of `d` can meet share a digest -/
def NoCollision (E : JournalContracts) (d : JournalData) : Prop :=
  ∀ a ∈ [d, d.normalized, d.cleared, d.clearedByMarker], ∀ b ∈ [d, d.normalized, d.cleared, d.clearedByMarker],
    journalDataSHA256 E a = journalDataSHA256 E b → a.persisted = b.persisted

/-- A fence that matches neither side keeps the journal shut. -/
theorem not_reopens_of_mismatch {main : JournalData} (hm : s.main = some main)
    (hk : s.marker = some (some (activeClearMarker E d).persisted)) (hd : Fenceable E d)
    (h1 : journalDataSHA256 E main.normalized ≠ journalDataSHA256 E d)
    (h2 : journalDataSHA256 E main.normalized ≠ journalDataSHA256 E d.clearedByMarker) : ¬ Reopens E d s := by
  rintro ⟨j, s', ho, -⟩
  have hr : reconcileActiveClearMarkerLocked E s (some main.normalized) =
      .error "active journal clear fence does not match the main journal" := by
    unfold reconcileActiveClearMarkerLocked
    rw [hk, loadActiveClearMarker_fence hd]
    exact if_pos ⟨h1, h2⟩
  simp only [openJournal, hm, hr] at ho
  cases hv : validateJournalData E.toAgentContracts main.normalized <;> simp [hv, bind, Except.bind] at ho

/-- Cut before its first operation, `ClearActive` leaves the journal before, and the restart checks decide. -/
theorem restart_checks (ha : d.activeJob.isSome = true) (h : Reopens E d ⟨some d.persisted, none, none⟩) :
    (∀ job ∈ d.activeJob, job.leaseToken = "") ∧ (d.pending ≠ [] → d.activeJob.any (·.isV2SoftwareJob) →
      validateJournalSoftwarePendingForRestart E.toAgentContracts d.persisted.normalized = .ok ()) := by
  obtain ⟨j, s', ho, hactive⟩ := h
  obtain ⟨job, hjob⟩ := Option.isSome_iff_exists.1 ha
  have hload : reconcileActiveClearMarkerLocked E ⟨some d.persisted, none, none⟩ (some d.persisted.normalized) =
      .ok ⟨some d.persisted, none, none⟩ := rfl
  simp only [openJournal, hload] at ho
  cases hv : validateJournalData E.toAgentContracts d.persisted.normalized with
  | error reason => simp [hv, bind, Except.bind] at ho
  | ok _ =>
    cases hp : retainSoftwarePending E d.persisted.normalized with
    | error reason => simp [hv, hp, bind, Except.bind] at ho
    | ok retain =>
      simp only [hv, hp, bind, Except.bind, Except.ok.injEq, Prod.mk.injEq] at ho
      obtain ⟨rfl, -⟩ := ho
      refine ⟨?_, ?_⟩
      · intro job' hmem
        obtain rfl : job' = job := by simpa [hjob, eq_comm] using hmem
        rcases hactive with hactive | hactive
        · have := congrArg ActiveFields.job hactive
          simp only [scrubbed, JournalData.normalized, JournalData.persisted, JournalData.active, hjob, Option.map_some,
            Option.some.injEq] at this
          exact (congrArg UpdateJob.leaseToken this).symm
        · have := congrArg ActiveFields.job hactive
          simp [scrubbed, JournalData.normalized, JournalData.persisted, JournalData.active, hjob] at this
      · intro hne hsoft
        have hguard : d.persisted.normalized.pending ≠ [] ∧ d.persisted.normalized.activeJob.any (·.isV2SoftwareJob) := by
          refine ⟨hne, ?_⟩
          simpa [JournalData.normalized, JournalData.persisted, Option.any_map] using hsoft
        unfold retainSoftwarePending at hp
        rw [if_pos hguard] at hp
        cases hc : validateJournalSoftwarePendingForRestart E.toAgentContracts d.persisted.normalized with
        | error reason => simp [hc] at hp
        | ok _ => rfl

/-- After six operations the fence stands beside the journal before, after eight beside the cleared one. -/
theorem cutClear_fenced (ha : d.activeJob.isSome = true) (hd : Fenceable E d) :
    cutClear E d none (List.replicate 6 .ok) =
        ⟨some d.persisted, some (some (activeClearMarker E d).persisted), none⟩ ∧
      cutClear E d none (List.replicate 8 .ok) =
        ⟨some d.cleared, some (some (activeClearMarker E d).persisted), none⟩ := by
  obtain ⟨hcheck, hlen⟩ := hd
  have hjob : d.activeJob.isNone = false := by simpa using ha
  have hfit : ¬ markerLength E (activeClearMarker E d) > activeClearMarkerSizeLimit (activeClearMarker E d) :=
    Nat.not_lt.2 hlen
  constructor <;>
  · simp only [cutClear, clearActive, hjob, installActiveClearMarkerLocked, hcheck, writeActiveClearMarker, if_neg hfit]
    rfl

/-- **When a cut of `ClearActive` can be undone.** For every valid journal with an active job: if the job carries no lease
token, its pending reports pass the restart check, and a journal that can be fenced has a report cursor and no stage
failure, then after every cut the journal reopens with the active fields from before or with none. Conversely, unless two
of the journals involved share a digest, the restart survives every cut only under these conditions. -/
theorem clearActive_survives_cuts (hv : validateJournalData E.toAgentContracts d = .ok ())
    (ha : d.activeJob.isSome = true) :
    (Clearable E d → ∀ temp cs, Reopens E d (cutClear E d temp cs)) ∧
      (NoCollision E d → (∀ temp cs, Reopens E d (cutClear E d temp cs)) → Clearable E d) := by
  constructor
  · intro hc temp cs
    have hstart : AtFence E d ⟨some d.persisted, none, temp⟩ := ⟨.inl rfl, .inl rfl⟩
    have hwp : (clearActive E { data := d }).wp (storeNext E) (AtFenceC E d) (fun _ _ s => AtFence E d s) []
        ⟨some d.persisted, none, temp⟩ := clearActive_wp hstart
    exact reopens_of_atFence hv hc (Prog.wp_exec hwp cs).1
  · intro hsha h
    have hfirst : cutClear E d none [] = ⟨some d.persisted, none, none⟩ := by simp [cutClear]
    obtain ⟨htoken, hpending⟩ := restart_checks ha (hfirst ▸ h none [])
    refine ⟨htoken, hpending, ?_⟩
    intro hd
    obtain ⟨hbefore, hafter⟩ := cutClear_fenced ha hd
    have hjob : d.activeJob ≠ none := Option.isSome_iff_ne_none.1 ha
    have hseq : d.nextSeq ≠ 0 := by
      -- the restart gives the journal a cursor, and the fence binds the journal without one
      intro hzero
      have hread : journalDataSHA256 E d.persisted.normalized = journalDataSHA256 E d.normalized := by
        rw [← journalDataSHA256_persisted d.normalized]
        rfl
      refine not_reopens_of_mismatch rfl rfl hd ?_ ?_ (hbefore ▸ h none (List.replicate 6 .ok))
      · rw [hread]
        intro hdigest
        have := congrArg JournalData.nextSeq (hsha d.normalized (by simp) d (by simp) hdigest)
        simp [JournalData.normalized, JournalData.persisted, hzero] at this
      · rw [hread]
        intro hdigest
        have := congrArg JournalData.activeJob (hsha d.normalized (by simp) d.clearedByMarker (by simp) hdigest)
        simp [JournalData.normalized, JournalData.persisted, JournalData.clearedByMarker, hjob] at this
    refine ⟨hseq, ?_⟩
    by_contra hfailure
    have hnorm : d.cleared.normalized = d.cleared := JournalData.normalized_of_ne_zero hseq
    refine not_reopens_of_mismatch rfl rfl hd ?_ ?_ (hafter ▸ h none (List.replicate 8 .ok))
    · rw [hnorm]
      intro hdigest
      have := congrArg JournalData.activeJob (hsha d.cleared (by simp) d (by simp) hdigest)
      simp [JournalData.persisted, JournalData.cleared, hjob, eq_comm] at this
    · rw [hnorm]
      intro hdigest
      have := congrArg JournalData.activeStageFailure (hsha d.cleared (by simp) d.clearedByMarker (by simp) hdigest)
      simp [JournalData.persisted, JournalData.cleared, JournalData.clearedByMarker, eq_comm, hfailure] at this

end Clear

/-! ## A software job, with and without a stage failure -/

namespace Sample

def hex64 (c : Char) : String := String.ofList (List.replicate 64 c)

/-- encodings that keep apart what the job below changes: the active job, its stage failure and the cursor -/
def contracts : JournalContracts where
  toAgentContracts := { (default : AgentContracts) with
    sha256 := fun
      | [1, 1, 7] => hex64 'a'
      | [1, 0, 7] => hex64 'b'
      | [0, 1, 7] => hex64 'c'
      | _ => hex64 'd'
    mutationPlanPayloadSHA256 := fun _ _ => hex64 'e' }
  journalJSON d := [if d.activeJob.isSome then 1 else 0, if d.activeStageFailure.isSome then 1 else 0,
    UInt8.ofNat d.nextSeq]
  markerJSON m := [1, UInt8.ofNat m.previous.nextSeq]

def digest : String := "sha256:" ++ hex64 'f'

def plan : MutationPlan where
  jobID := "job-1"
  hostID := "host-1"
  targetID := "worker-1"
  serviceType := "worker"
  deploymentMode := "systemd"
  currentVersion := "v1.0.0"
  configSHA256 := digest
  targetVersion := "v1.1.0"
  leaseGeneration := 3
  artifactDigest := hex64 '1'
  expectedVersion := "v1.1.0"
  sessionID := "session-00000001"
  planSHA256 := hex64 'e'

def job : UpdateJob where
  protocolVersion := 2
  commandID := "command-1"
  id := "job-1"
  operation := "software_update"
  agentServiceID := "updater-1"
  hostID := "host-1"
  transportMode := "pull_v2"
  ownershipEpoch := 1
  policyRevision := 4
  softwareUpdate := some
    { configRevision := 1, commandSHA256 := digest, sourcePolicyRevision := 1, projectionRevision := 4,
      executorPolicyRevision := 1, executorPolicySHA256 := digest }
  targetID := "worker-1"
  serviceType := "worker"
  deploymentMode := "systemd"
  currentVersion := "v1.0.0"
  targetVersion := "v1.1.0"
  leaseGeneration := 3

/-- the job and its plan, after the final report was acknowledged -/
def journal : JournalData := { activeJob := some job, activePlan := some plan, nextSeq := 7 }

/-- the same journal, where staging had failed -/
def failedJournal : JournalData :=
  { journal with activeStageFailure := some ⟨"job-1", "release_staging_failed", "release staging failed"⟩ }

end Sample

/-- both journals are valid, and the restart after a cut behind the journal write refuses the one with a failure -/
theorem sample_journals :
    validateJournalData Sample.contracts.toAgentContracts Sample.journal = .ok () ∧
      validateJournalData Sample.contracts.toAgentContracts Sample.failedJournal = .ok () ∧
      openJournal Sample.contracts (cutClear Sample.contracts Sample.failedJournal none (List.replicate 8 .ok)) =
        .error "active journal clear fence does not match the main journal" := by
  decide +kernel

/-- The theorem applies: the journal without a stage failure survives every cut, and the digests involved differ. -/
theorem sample_survives_cuts :
    validateJournalData Sample.contracts.toAgentContracts Sample.journal = .ok () ∧
      NoCollision Sample.contracts Sample.journal ∧
      ∀ temp cs, Reopens Sample.contracts Sample.journal (cutClear Sample.contracts Sample.journal temp cs) := by
  have hv := sample_journals.1
  refine ⟨hv, by unfold NoCollision; decide, (clearActive_survives_cuts hv rfl).1 ⟨?_, ?_, ?_⟩⟩
  · intro job hjob
    obtain rfl : Sample.job = job := by simpa [Sample.journal] using hjob
    rfl
  · intro hne
    exact absurd rfl hne
  · exact fun _ => ⟨by decide, rfl⟩

/-- **A cut after the journal write shuts the journal.** With a recorded stage failure, the restart after a crash between
the write of the cleared journal and the removal of the fence refuses the journal. -/
theorem clearActive_cut_shuts_journal :
    validateJournalData Sample.contracts.toAgentContracts Sample.failedJournal = .ok () ∧
      Sample.failedJournal.activeJob.isSome = true ∧
      openJournal Sample.contracts (cutClear Sample.contracts Sample.failedJournal none (List.replicate 8 .ok)) =
        .error "active journal clear fence does not match the main journal" ∧
      ¬ ∀ temp cs, Reopens Sample.contracts Sample.failedJournal (cutClear Sample.contracts Sample.failedJournal temp cs) := by
  obtain ⟨-, hv, hshut⟩ := sample_journals
  refine ⟨hv, rfl, hshut, ?_⟩
  intro h
  obtain ⟨j, s, ho, -⟩ := h none (List.replicate 8 .ok)
  rw [hshut] at ho
  cases ho

end AutostreamUpdater.Agent
