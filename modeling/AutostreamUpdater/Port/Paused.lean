/-
What an interrupted legacy systemd request leaves behind.

A forward request may be cut before any of its operations. `Paused` lists what its job's files then say: the job has no
ledger or an unfinished one over the old applied record, or its result is already saved and the sidecar is the one the
result reports. `forward_paused` shows it for every cut.
-/
import AutostreamUpdater.Base.Within
import AutostreamUpdater.Port.Ownership

namespace AutostreamUpdater.Port

open Contract Base Prog

abbrev SystemdWorld := PortWorld SystemdBaseline SystemdPortAppliedState

variable {E : PortEnv} {plan : SystemdPortReconfigurePlan} {k : PortResultKind} {l : SystemdPortLedger}

/-! ## Legacy plans -/

/-- a valid legacy plan for a systemd service, whose target revision did not wrap around -/
structure LegacyPlan (E : PortEnv) (plan : SystemdPortReconfigurePlan) : Prop where
  legacy : plan.portContractVersion ≠ 2
  valid : plan.validate E.toContracts = true
  mode : plan.effectiveDeploymentMode = modeSystemd
  revision : 1 ≤ plan.targetConfigRevision

/-- the result of each kind that a systemd commit saves -/
abbrev systemdResult (plan : SystemdPortReconfigurePlan) (k : PortResultKind) : SystemdPortReconfigureResult :=
  legacyResult plan "" (systemdResultMessage k) k none

/-- the parts of a valid plan of contract version 0, whatever its deployment mode -/
theorem validate_legacy (hv : plan.validate E.toContracts = true) (h0 : plan.portContractVersion = 0) :
    plan.legacyComplete = true ∧ plan.expectedConfigSHA256 ≠ plan.targetConfigSHA256 ∧ plan.legacyModeValid = true := by
  simp only [SystemdPortReconfigurePlan.validate, h0, bne_self_eq_false, Bool.false_eq_true, if_false,
    Bool.and_eq_true, bne_iff_ne, and_assoc] at hv
  obtain ⟨-, -, -, -, -, -, hc, hne, -, hm, -⟩ := hv
  exact ⟨hc, hne, hm⟩

namespace LegacyPlan

theorem version (h : LegacyPlan E plan) : plan.portContractVersion = 0 := by
  by_contra hne
  have hv := h.valid
  simp only [SystemdPortReconfigurePlan.validate, bne_iff_ne, ne_eq, hne, not_false_eq_true, if_true,
    SystemdPortReconfigurePlan.validatePortV2, Bool.and_eq_true, beq_iff_eq, and_assoc] at hv
  exact h.legacy hv.1

theorem complete (h : LegacyPlan E plan) :
    plan.legacyComplete = true ∧ plan.expectedConfigSHA256 ≠ plan.targetConfigSHA256 ∧ plan.legacyModeValid = true :=
  validate_legacy h.valid h.version

theorem ports (h : LegacyPlan E plan) :
    validSystemdPort plan.oldPort = true ∧ validSystemdPort plan.newPort = true ∧ plan.oldPort ≠ plan.newPort := by
  have hm := h.complete.2.2
  simp only [SystemdPortReconfigurePlan.legacyModeValid, h.mode, beq_self_eq_true, if_true, Bool.and_eq_true,
    bne_iff_ne, and_assoc] at hm
  exact hm.2

/-- the identifiers a store method checks -/
theorem identifiers (h : LegacyPlan E plan) :
    identifierPattern plan.targetID = true ∧ identifierPattern plan.jobID = true := by
  have hc := h.complete.1
  simp only [SystemdPortReconfigurePlan.legacyComplete, Bool.and_eq_true, and_assoc] at hc
  obtain ⟨hj, -, ht, -⟩ := hc
  exact ⟨ht, hj⟩

/-- the service type, revisions and digests an applied record reports -/
structure Bounds (plan : SystemdPortReconfigurePlan) : Prop where
  serviceType : validSystemdPortServiceType plan.serviceType = true
  endpoint : 1 ≤ plan.targetEndpointRevision
  expectedRevision : 1 ≤ plan.expectedConfigRevision
  expectedDigest : digestPattern plan.expectedConfigSHA256 = true
  targetDigest : digestPattern plan.targetConfigSHA256 = true
  source : 1 ≤ plan.expectedSourcePolicyRevision
  updater : 1 ≤ plan.expectedUpdaterPolicyRevision
  executor : 1 ≤ plan.expectedExecutorPolicyRevision
  policyDigest : digestPattern plan.expectedExecutorPolicySHA256 = true
  epoch : 1 ≤ plan.ownershipEpoch

theorem Bounds.of_complete (hc : plan.legacyComplete = true) : Bounds plan := by
  simp only [SystemdPortReconfigurePlan.legacyComplete, Bool.and_eq_true, decide_eq_true_eq, beq_iff_eq,
    and_assoc] at hc
  obtain ⟨-, -, -, hs, -, -, -, -, -, -, he, -, hte, her, -, hed, htd, h1, h2, h3, hpd, hep, -⟩ := hc
  exact ⟨hs, by omega, her, hed, htd, h1, h2, h3, hpd, hep⟩

theorem bounds (h : LegacyPlan E plan) : Bounds plan := Bounds.of_complete h.complete.1

theorem validSystemdPort_range {n : ℤ} (h : validSystemdPort n = true) : 1 ≤ n ∧ n ≤ 65535 := by
  simp only [validSystemdPort, Bool.and_eq_true, decide_eq_true_eq] at h
  omega

/-- every result of the job but `rollback_failed` is valid -/
theorem result_valid (h : LegacyPlan E plan) (hk : k ≠ .rollbackFailed) : (systemdResult plan k).validate = true := by
  obtain ⟨hold, hnew, hne⟩ := h.ports
  have hr1 := validSystemdPort_range hold
  have hr2 := validSystemdPort_range hnew
  have hb := h.bounds
  have hmessage : safeExecutorMessage (systemdResultMessage k) = true := by
    cases k with
    | rollbackFailed => exact absurd rfl hk
    | _ => decide
  have hmode : (systemdResult plan k).validateLegacyMode = true := by
    have hempty : (trimSpace "" == "") = true := by decide
    simp [legacyResult, SystemdPortReconfigureResult.validateLegacyMode, hempty, hold, hnew, hne]
  have hkind : (systemdResult plan k).validateLegacyKind = true := by
    have hrevision := h.revision
    have hendpoint := hb.endpoint
    have hendpoint' : 1 ≤ plan.targetEndpointRevision + 1 := by omega
    cases k with
    | rollbackFailed => exact absurd rfl hk
    | _ => simp [legacyResult, SystemdPortReconfigureResult.validateLegacyKind, hb.expectedRevision, hb.expectedDigest,
        hb.targetDigest, hrevision, hendpoint, hendpoint']
  simp only [SystemdPortReconfigureResult.validate, hmode, hkind]
  simp [legacyResult, hr1, hr2, hmessage]

/-- the applied record of such a result can be saved -/
theorem applied_savable (h : LegacyPlan E plan) (hk : k ≠ .rollbackFailed) :
    (systemdPortAppliedStateForResult plan (systemdResult plan k)).savable = true := by
  obtain ⟨hold, hnew, -⟩ := h.ports
  have hb := h.bounds
  have hrevision := h.revision
  have hendpoint := hb.endpoint
  have hendpoint' : 1 ≤ plan.targetEndpointRevision + 1 := by omega
  have hids := h.identifiers
  have hv : (plan.portContractVersion == 2) = false := by simp [h.version]
  cases k with
  | rollbackFailed => exact absurd rfl hk
  | _ => simp [legacyResult, systemdPortAppliedStateForResult, SystemdPortAppliedState.savable, hv, hold, hnew, hids,
      hb.serviceType, hb.expectedRevision, hb.expectedDigest, hb.targetDigest, hb.source, hb.updater, hb.executor,
      hb.policyDigest, hb.epoch, hrevision, hendpoint, hendpoint']

end LegacyPlan

/-- Legacy plans of one intent differ in their lease only. -/
theorem sameSystemdPortIntent_lease {p q : SystemdPortReconfigurePlan} (hp : p.portContractVersion ≠ 2)
    (h : sameSystemdPortIntent p q = true) :
    q = { p with leaseGeneration := q.leaseGeneration, portPlanSHA256 := q.portPlanSHA256 } := by
  have hp' : (p.portContractVersion == 2) = false := by simpa using hp
  simp only [sameSystemdPortIntent, portIntent, hp', Bool.false_and, Bool.and_false, Bool.false_eq_true, if_false,
    beq_iff_eq] at h
  cases p
  cases q
  simp_all

theorem sameSystemdPortIntent_symm {p q : SystemdPortReconfigurePlan} (h : sameSystemdPortIntent p q = true) :
    sameSystemdPortIntent q p = true := by
  simp only [sameSystemdPortIntent, beq_iff_eq] at h ⊢
  exact h.symm

theorem sameSystemdPortIntent_trans {p q r : SystemdPortReconfigurePlan} (hq : q.portContractVersion ≠ 2)
    (h₁ : sameSystemdPortIntent p q = true) (h₂ : sameSystemdPortIntent q r = true) :
    sameSystemdPortIntent p r = true := by
  have hp := sameSystemdPortIntent_lease hq (sameSystemdPortIntent_symm h₁)
  have hr := sameSystemdPortIntent_lease hq h₂
  have hq' : (q.portContractVersion == 2) = false := by simpa using hq
  rw [hp, hr]
  simp [sameSystemdPortIntent, portIntent, hq']

/-! ## Ledgers of the job -/

/-- the states between staging and commit -/
def LedgerState.inProgress (st : LedgerState) : Bool :=
  [.staged, .grantConsuming, .grantConsumed, .sidecarWritten, .restarted, .ambiguous].contains st

/-- what a ledger of the job records about the old and the new configuration -/
structure Staged (E : PortEnv) (plan : SystemdPortReconfigurePlan) (l : SystemdPortLedger) : Prop where
  schema : l.schemaVersion = 1
  checkpoint : l.checkpoint.validateSidecar E = true
  expected : l.checkpoint.sha256 = plan.expectedConfigSHA256
  target : payloadSHA256 E l.targetBytes = plan.targetConfigSHA256
  version : versionPattern l.baseline.currentVersion = true

/-- the record does not depend on how far the job got -/
theorem Staged.at (h : Staged E plan l) (p : SystemdPortReconfigurePlan) (st : LedgerState)
    (r : Option SystemdPortReconfigureResult) : Staged E plan { l with plan := p, state := st, result := r } :=
  ⟨h.schema, h.checkpoint, h.expected, h.target, h.version⟩

/-- a ledger of the job that its store accepts -/
structure JobLedger (E : PortEnv) (plan : SystemdPortReconfigurePlan) (l : SystemdPortLedger) : Prop where
  intent : sameSystemdPortIntent l.plan plan = true
  valid : validateSystemdPortLedger E l plan.targetID = true

theorem Staged.valid (h : Staged E plan l) (hplan : LegacyPlan E plan) (hl : l.plan = plan)
    (hstate : validLegacyLedgerState
      [.staged, .grantConsuming, .grantConsumed, .sidecarWritten, .restarted, .ambiguous].contains l.state l.result =
        true) : validateSystemdPortLedger E l plan.targetID = true := by
  have hv : (plan.portContractVersion == 2) = false := by simp [hplan.version]
  simp only [validateSystemdPortLedger, hl, hv, Bool.false_eq_true, if_false, h.schema, hplan.valid, h.checkpoint,
    h.expected, h.target, h.version, hstate, beq_self_eq_true, Bool.and_self]

theorem Staged.saved (h : Staged E plan l) (hplan : LegacyPlan E plan) (hl : l.plan = plan)
    (hstate : l.state.inProgress = true) (hresult : l.result = none) : JobLedger E plan l where
  intent := by simp [sameSystemdPortIntent, hl]
  valid := by
    refine h.valid hplan hl ?_
    rw [hresult]
    revert hstate
    cases l.state <;> decide

/-- the same for a ledger that carries a result of the job -/
theorem Staged.saved_result (h : Staged E plan l) (hplan : LegacyPlan E plan) (hl : l.plan = plan)
    (hk : k ≠ .rollbackFailed) (hstate : l.state = .committing ∨ l.state = .terminal)
    (hresult : l.result = some (systemdResult plan k)) : JobLedger E plan l where
  intent := by simp [sameSystemdPortIntent, hl]
  valid := by
    have hkind : (systemdResult plan k).result = k := rfl
    refine h.valid hplan hl ?_
    rcases hstate with hstate | hstate <;>
      simp [hstate, hresult, validLegacyLedgerState, hplan.result_valid hk, hkind, hk]

theorem JobLedger.staged (h : JobLedger E plan l) (hplan : LegacyPlan E plan) : Staged E plan l := by
  have hl := sameSystemdPortIntent_lease hplan.legacy (sameSystemdPortIntent_symm h.intent)
  have hv := h.valid
  have hversion : (l.plan.portContractVersion == 2) = false := by rw [hl]; simp [hplan.version]
  simp only [validateSystemdPortLedger, hversion, Bool.false_eq_true, if_false, Bool.and_eq_true, beq_iff_eq,
    and_assoc] at hv
  obtain ⟨hschema, -, -, hcp, hexpected, htarget, hcurrent, -⟩ := hv
  rw [hl] at hexpected htarget
  exact ⟨hschema, hcp, hexpected.symm, htarget, hcurrent⟩

theorem JobLedger.jobID (h : JobLedger E plan l) : l.plan.jobID = plan.jobID := (sameSystemdPortIntent_job h.intent).2

/-! ## Worlds between the steps of a request -/

section Worlds

variable {ap : Option SystemdPortAppliedState} {s s' : SystemdWorld}

/-- the target's active pointer names a valid ledger, of this job or of a finished one -/
def Pointed (E : PortEnv) (plan : SystemdPortReconfigurePlan) (s : SystemdWorld) : Prop :=
  ∀ j, s.active plan.targetID = some j → ∃ a, s.jobs plan.targetID j = some a ∧
    validateSystemdPortLedger E a plan.targetID = true ∧ a.plan.jobID = j ∧ (j = plan.jobID ∨ a.state = .terminal)

/-- the job has no ledger or an unfinished one without a result, and the applied record is still `ap` -/
structure Unfinished (E : PortEnv) (plan : SystemdPortReconfigurePlan) (ap : Option SystemdPortAppliedState)
    (s : SystemdWorld) : Prop where
  pointer : Pointed E plan s
  own : ∀ l, s.jobs plan.targetID plan.jobID = some l →
    JobLedger E plan l ∧ l.state ≠ .committing ∧ l.state ≠ .terminal
  applied : s.applied plan.targetID = ap

/-- the job's result is saved, and the sidecar is the one it reports -/
structure Committing (E : PortEnv) (plan : SystemdPortReconfigurePlan) (s : SystemdWorld) : Prop where
  pointer : Pointed E plan s
  own : ∃ l k, s.jobs plan.targetID plan.jobID = some l ∧ JobLedger E plan l ∧ l.state = .committing ∧
    k ≠ .rollbackFailed ∧ l.result = some (systemdResult plan k) ∧ s.config.sha256 = (systemdResult plan k).configSHA256

/-- what an interrupted request leaves behind -/
def Paused (E : PortEnv) (plan : SystemdPortReconfigurePlan) (ap : Option SystemdPortAppliedState)
    (s : SystemdWorld) : Prop :=
  Unfinished E plan ap s ∨ Committing E plan s

theorem Pointed.congr (h : Pointed E plan s) (hj : s'.jobs = s.jobs) (ha : s'.active = s.active) :
    Pointed E plan s' := by
  unfold Pointed
  rw [hj, ha]
  exact h

theorem setJob_jobs_of_job (hl : JobLedger E plan l) (t j : String) :
    (s.setJob l).jobs t j = if t = plan.targetID ∧ j = plan.jobID then some l else s.jobs t j := by
  obtain ⟨ht, hj⟩ := sameSystemdPortIntent_job hl.intent
  simp [PortWorld.setJob, ht, hj]

theorem setJob_own (hl : JobLedger E plan l) : (s.setJob l).jobs plan.targetID plan.jobID = some l := by
  rw [setJob_jobs_of_job hl]
  simp

/-- a ledger of the job keeps the pointer meaningful -/
theorem Pointed.setJob (h : Pointed E plan s) (hl : JobLedger E plan l) : Pointed E plan (s.setJob l) := by
  intro j hj
  rw [setJob_jobs_of_job hl]
  by_cases hown : j = plan.jobID
  · exact ⟨l, by simp [hown], hl.valid, by rw [hown, hl.jobID], .inl hown⟩
  · simpa [hown] using h j hj

theorem Unfinished.congr (h : Unfinished E plan ap s) (hj : s'.jobs = s.jobs) (ha : s'.active = s.active)
    (hap : s'.applied = s.applied) : Unfinished E plan ap s' where
  pointer := h.pointer.congr hj ha
  own := by rw [hj]; exact h.own
  applied := by rw [hap]; exact h.applied

theorem Unfinished.setJob (h : Unfinished E plan ap s) (hl : JobLedger E plan l) (hc : l.state ≠ .committing)
    (ht : l.state ≠ .terminal) : Unfinished E plan ap (s.setJob l) where
  pointer := h.pointer.setJob hl
  own := by
    intro l' hl'
    rw [setJob_own hl] at hl'
    cases hl'
    exact ⟨hl, hc, ht⟩
  applied := h.applied

/-- the pointer may move to the job once its ledger is saved -/
theorem Unfinished.setActive (h : Unfinished E plan ap s) (hl : s.jobs plan.targetID plan.jobID = some l) :
    Unfinished E plan ap (s.setActive plan.targetID plan.jobID) where
  pointer := by
    intro j hj
    rw [setActive_self, Option.some.injEq] at hj
    subst hj
    have hown := (h.own l hl).1
    exact ⟨l, hl, hown.valid, hown.jobID, .inl rfl⟩
  own := h.own
  applied := h.applied

theorem Unfinished.commit (h : Unfinished E plan ap s) (hl : JobLedger E plan l) (hc : l.state = .committing)
    (hk : k ≠ .rollbackFailed) (hr : l.result = some (systemdResult plan k))
    (hconfig : s.config.sha256 = (systemdResult plan k).configSHA256) : Committing E plan (s.setJob l) where
  pointer := h.pointer.setJob hl
  own := ⟨l, k, setJob_own hl, hl, hc, hk, hr, hconfig⟩

theorem Committing.congr (h : Committing E plan s) (hj : s'.jobs = s.jobs) (ha : s'.active = s.active)
    (hcfg : s'.config = s.config) : Committing E plan s' where
  pointer := h.pointer.congr hj ha
  own := by rw [hj, hcfg]; exact h.own

end Worlds

/-! ## The forward request -/

section Forward

variable {α γ : Type} {ap : Option SystemdPortAppliedState} {s : SystemdWorld}

/-- cut anywhere the program leaves `Paused`, and it ends in `Q` -/
abbrev Pauses (E : PortEnv) (plan : SystemdPortReconfigurePlan) (ap : Option SystemdPortAppliedState)
    (p : SystemdProg α) (Q : α → SystemdWorld → Prop) (s : SystemdWorld) : Prop :=
  ∀ tr, p.within (portNext E) (fun _ _ _ => True) (Paused E plan ap) (fun a _ s => Q a s) tr s

theorem Pauses.ret {a : α} {Q : α → SystemdWorld → Prop} (h : Q a s) : Pauses E plan ap (pure a) Q s := fun _ => h

theorem Pauses.seq {p : SystemdProg α} {f : α → SystemdProg γ} {Q : α → SystemdWorld → Prop}
    {R : γ → SystemdWorld → Prop} (hp : Pauses E plan ap p Q s)
    (hf : ∀ a s, Q a s → Pauses E plan ap (f a) R s) : Pauses E plan ap (p >>= f) R s :=
  fun tr => within_seq (hp tr) fun a tr s h => hf a s h tr

theorem Pauses.ite {b : Prop} [Decidable b] {p q : SystemdProg α} {Q : α → SystemdWorld → Prop}
    (hp : b → Pauses E plan ap p Q s) (hq : ¬ b → Pauses E plan ap q Q s) : Pauses E plan ap (if b then p else q) Q s :=
  fun tr => within_ite (fun h => hp h tr) fun h => hq h tr

theorem Pauses.mono {p : SystemdProg α} {Q R : α → SystemdWorld → Prop} (hp : Pauses E plan ap p Q s)
    (h : ∀ a s, Q a s → R a s) : Pauses E plan ap p R s :=
  fun tr => within_mono (hp tr) fun a _ s => h a s

variable (h : Unfinished E plan ap s)

include h

/-- an operation that leaves the stores alone -/
theorem Unfinished.op {o : PortOp SystemdBaseline SystemdPortAppliedState} (ho : o.keepsStore = true) :
    Pauses E plan ap (Prog.op o) (fun r s' => Unfinished E plan ap s' ∧ ∃ c, r = (portNext E s o c).1 ∧
      s' = (portNext E s o c).2) s := by
  intro tr
  refine ⟨.inl h, fun c _ => ⟨?_, c, rfl, rfl⟩⟩
  obtain ⟨hj, ha, hap⟩ := portNext_keepsStore (E := E) (s := s) (c := c) ho
  exact h.congr hj ha hap

/-- a program of such operations -/
theorem Unfinished.only {p : SystemdProg α} {Q : α → Prop} (hp : p.Only (fun o => o.keepsStore = true) Q) :
    Pauses E plan ap p (fun a s' => Unfinished E plan ap s' ∧ Q a) s := by
  intro tr
  induction p generalizing tr s with
  | ret a => exact ⟨h, hp⟩
  | call o k ih =>
    refine ⟨.inl h, fun c _ => ?_⟩
    obtain ⟨hj, ha, hap⟩ := portNext_keepsStore (E := E) (s := s) (c := c) hp.1
    exact ih _ (h.congr hj ha hap) (hp.2 _) _

variable (hplan : LegacyPlan E plan)

include hplan

/-- the save of an unfinished ledger of the job -/
theorem Unfinished.save (hl : Staged E plan l)
    (heq : l.plan = plan) (hst : l.state.inProgress = true) (hr : l.result = none) :
    Pauses E plan ap (saveLedger (systemdMode E) l) (fun ok s' => Unfinished E plan ap s' ∧ s'.config = s.config ∧
      (ok = true → s'.jobs plan.targetID plan.jobID = some l)) s := by
  have hjob : JobLedger E plan l := hl.saved hplan heq hst hr
  have hc : l.state ≠ .committing := by intro hc; simp [hc, LedgerState.inProgress] at hst
  have ht : l.state ≠ .terminal := by intro ht; simp [ht, LedgerState.inProgress] at hst
  unfold saveLedger
  refine Pauses.ite (fun _ => Pauses.ret ⟨h, rfl, by simp⟩) fun _ tr => ⟨.inl h, fun c _ => ?_⟩
  rcases portNext_writeJob (E := E) (s := s) (c := c) l with heq' | ⟨hfail, heq'⟩
  · rw [heq']
    exact ⟨h.setJob hjob hc ht, rfl, fun _ => setJob_own hjob⟩
  · rw [heq']
    exact ⟨h, rfl, fun hok => by rw [hfail] at hok; cases hok⟩

theorem Unfinished.ambiguous (hl : Staged E plan l) (heq : l.plan = plan) (hr : l.result = none) :
    Pauses E plan ap (markAmbiguous (systemdMode E) l) (fun _ _ => True) s := by
  unfold markAmbiguous
  exact (h.save hplan (hl.at l.plan .ambiguous l.result) heq rfl hr).seq fun _ _ _ => Pauses.ret trivial

/-- the two-write commit of a result, over the sidecar the result reports -/
theorem Unfinished.commits (hl : Staged E plan l)
    (hk : k ≠ .rollbackFailed) (hconfig : s.config.sha256 = (systemdResult plan k).configSHA256) :
    Pauses E plan ap (commitSystemdPortResult E plan l k) (fun _ _ => True) s := by
  have hjob : JobLedger E plan { l with plan := plan, state := .committing, result := some (systemdResult plan k) } :=
    (hl.at plan .committing _).saved_result hplan rfl hk (.inl rfl) rfl
  unfold commitSystemdPortResult commitLedger saveLedger saveApplied
  refine Pauses.ite (fun _ => Pauses.ret trivial) fun _ => ?_
  refine Pauses.seq (Q := fun ok s' => ok = true → Committing E plan s') ?_ fun saved s1 h₁ => ?_
  · refine Pauses.ite (fun _ => Pauses.ret (by simp)) fun _ tr => ⟨.inl h, fun c _ hok => ?_⟩
    rcases portNext_writeJob (E := E) (s := s) (c := c) _ with heq | ⟨hfail, -⟩
    · rw [heq]
      exact h.commit hjob rfl hk rfl hconfig
    · rw [hfail] at hok
      cases hok
  cases saved with
  | false => exact Pauses.ret trivial
  | true =>
    have hcommitting := h₁ rfl
    refine Pauses.seq (Q := fun _ s' => Committing E plan s') ?_ fun ok s2 h₂ => Pauses.ite (fun _ => Pauses.ret trivial) ?_
    · refine Pauses.ite (fun _ => Pauses.ret hcommitting) fun _ tr => ⟨.inr hcommitting, fun c _ => ?_⟩
      rcases portNext_writeApplied (E := E) (s := s1) (c := c) _ _ with heq | ⟨-, heq⟩ <;> rw [heq]
      · exact hcommitting.congr rfl rfl rfl
      · exact hcommitting
    refine fun _ => Pauses.seq (Q := fun _ s' => Committing E plan s') (fun tr => ⟨.inr h₂, fun c _ => h₂⟩) ?_
    intro ok s3 h₃
    refine Pauses.ite (fun _ => Pauses.ret trivial) fun _ => Pauses.seq (Q := fun _ _ => True) ?_ ?_
    · exact Pauses.ite (fun _ => Pauses.ret trivial) fun _ tr => ⟨.inr h₃, fun _ _ => trivial⟩
    · exact fun ok _ _ => Pauses.ite (fun _ => Pauses.ret trivial) fun _ => Pauses.ret trivial

omit hplan in
theorem Unfinished.closes (mode message : String) :
    Pauses E plan ap (closeRollbackFailed (systemdMode E) plan l mode message) (fun _ _ => True) s := by
  unfold closeRollbackFailed saveLedger
  refine Pauses.seq (Q := fun _ _ => True) ?_ fun ok _ _ => Pauses.ite (fun _ => Pauses.ret trivial) fun _ =>
    Pauses.ret trivial
  exact Pauses.ite (fun _ => Pauses.ret trivial) fun _ tr => ⟨.inl h, fun _ _ => trivial⟩

/-- the rollback restores the old sidecar before it commits -/
theorem Unfinished.rollsBack (hl : Staged E plan l) (policy : LocalExecutorPolicy) (oldTarget : LocalExecutorTarget) :
    Pauses E plan ap (rollbackSystemdPortRequest E policy plan oldTarget l) (fun _ _ => True) s := by
  unfold rollbackSystemdPortRequest
  refine (h.op (o := .restoreConfig l.checkpoint l.targetBytes) rfl).seq fun restored s1 ⟨h₁, c, hrestored, hs1⟩ => ?_
  cases restored with
  | false => exact h₁.closes _ _
  | true =>
    have hconfig : s1.config = l.checkpoint := by
      rw [hs1]
      exact (portNext_restored hrestored.symm).2
    refine (h₁.op (o := .restart oldTarget) rfl).seq fun ok s2 ⟨h₂, c2, _, hs2⟩ => ?_
    cases ok with
    | false => exact h₂.closes _ _
    | true =>
      refine (h₂.op (o := .verifyRuntime policy oldTarget) rfl).seq fun version s3 ⟨h₃, c3, _, hs3⟩ => ?_
      cases version with
      | none => exact h₃.closes _ _
      | some v =>
        refine h₃.commits hplan hl (k := .rolledBack) (by decide) ?_
        have hkeep : s3.config = s1.config := by rw [hs3, hs2]; rfl
        rw [hkeep, hconfig, hl.expected]
        rfl

/-- the grant between its two saves; without an answer it is consumed -/
theorem Unfinished.consumes (hl : Staged E plan l)
    (heq : l.plan = plan) (hr : l.result = none) (request : LocalExecutorRequest) :
    Pauses E plan ap (consumeSystemdGrant E request plan l) (fun _ s' => Unfinished E plan ap s') s := by
  unfold consumeSystemdGrant
  refine (h.save hplan (hl.at l.plan .grantConsuming l.result) heq rfl hr).seq fun saved s1 ⟨h₁, _, _⟩ => ?_
  refine Pauses.ite (fun _ => Pauses.ret h₁) fun _ => ?_
  refine (h₁.op (o := .consumeGrant plan request.operation l.baseline.currentVersion request.mutationGrant)
    rfl).seq fun ok s2 ⟨h₂, _⟩ => Pauses.ite (fun _ => ?_) fun _ => ?_
  · refine (Pauses.mono (Q := fun _ s' => Unfinished E plan ap s') ?_ fun _ _ h => h).seq fun _ s3 h₃ => Pauses.ret h₃
    unfold markAmbiguous
    exact (h₂.save hplan (hl.at l.plan .ambiguous l.result) heq rfl hr).seq fun _ s3 h₃ => Pauses.ret h₃.1
  · refine (h₂.save hplan (hl.at l.plan .grantConsumed l.result) heq rfl hr).seq fun ok s3 h₃ => ?_
    exact Pauses.ite (fun _ => Pauses.ret h₃.1) fun _ => Pauses.ret h₃.1

/-- from the consumed grant on -/
theorem Unfinished.goesForward (hl : Staged E plan l)
    (heq : l.plan = plan) (hr : l.result = none) (policy : LocalExecutorPolicy) (target : LocalExecutorTarget) :
    Pauses E plan ap (forwardSystemdPort E policy plan target l) (fun _ _ => True) s := by
  unfold forwardSystemdPort
  refine (h.op (o := .crashPoint "after_grant_consume") rfl).seq fun ok s1 ⟨h₁, _⟩ => ?_
  refine Pauses.ite (fun _ => h₁.ambiguous hplan hl heq hr) fun _ => ?_
  refine (h₁.op (o := .writeConfig l.checkpoint l.targetBytes) rfl).seq fun written s2 ⟨h₂, c2, hwritten, hs2⟩ => ?_
  cases written with
  | false => exact h₂.rollsBack hplan hl policy target
  | true =>
    have hconfig : s2.config = privateFile E l.targetBytes := by
      rw [hs2]
      exact portNext_written hwritten.symm
    have hl2 := hl.at l.plan .sidecarWritten l.result
    refine (h₂.save hplan hl2 heq rfl hr).seq fun ok s3 ⟨h₃, hkeep3, _⟩ => ?_
    refine Pauses.ite (fun _ => Pauses.ret trivial) fun _ => ?_
    refine (h₃.op (o := .crashPoint "after_sidecar_write") rfl).seq fun ok s4 ⟨h4, c4, _, hs4⟩ => ?_
    refine Pauses.ite (fun _ => h4.ambiguous hplan hl2 heq hr) fun _ => ?_
    refine (h4.op (o := .restart (systemdPortTargetAfter target plan)) rfl).seq fun ok s5 ⟨h5, c5, _, hs5⟩ => ?_
    refine Pauses.ite (fun _ => h5.rollsBack hplan hl2 policy target) fun _ => ?_
    have hl3 := hl.at l.plan .restarted l.result
    refine (h5.save hplan hl3 heq rfl hr).seq fun ok s6 ⟨h6, hkeep6, _⟩ => ?_
    refine Pauses.ite (fun _ => Pauses.ret trivial) fun _ => ?_
    refine (h6.op (o := .crashPoint "after_restart") rfl).seq fun ok s7 ⟨h7, c7, _, hs7⟩ => ?_
    refine Pauses.ite (fun _ => h7.ambiguous hplan hl3 heq hr) fun _ => ?_
    refine (h7.op (o := .verifyRuntime policy (systemdPortTargetAfter target plan)) rfl).seq
      fun version s8 ⟨h8, c8, _, hs8⟩ => ?_
    refine Pauses.ite (fun _ => h8.rollsBack hplan hl3 policy target) fun _ => ?_
    -- since the write nothing has touched the sidecar
    have hkeep : s8.config = s2.config := by
      have h53 : s5.config = s3.config := by rw [hs5, hs4]; rfl
      have h86 : s8.config = s6.config := by rw [hs8, hs7]; rfl
      rw [h86, hkeep6, h53, hkeep3]
    refine h8.commits hplan hl3 (k := .applied) (by decide) ?_
    rw [hkeep, hconfig]
    exact hl.target

theorem Unfinished.starts (hl : l.state = .staged → Staged E plan l ∧ l.result = none) (policy : LocalExecutorPolicy)
    (request : LocalExecutorRequest) (target : LocalExecutorTarget) :
    Pauses E plan ap (startSystemdPort E policy request plan target l) (fun _ _ => True) s := by
  unfold startSystemdPort
  refine Pauses.ite (fun _ => Pauses.ret trivial) fun hstate => ?_
  obtain ⟨hstaged, hr⟩ := hl (by simpa using hstate)
  refine (h.op (o := .checkpoint) rfl).seq fun cp s1 ⟨h₁, _⟩ => Pauses.ite (fun _ => Pauses.ret trivial) fun _ => ?_
  refine (h₁.op (o := .ensureAvailable { target with localListen := { target.localListen with port := plan.newPort } })
    rfl).seq fun free s2 ⟨h₂, _⟩ => Pauses.ite (fun _ => Pauses.ret trivial) fun _ => ?_
  have hl1 := hstaged.at plan l.state l.result
  refine (h₂.consumes hplan hl1 rfl hr request).seq fun response s3 h₃ => ?_
  cases response with
  | some response => exact Pauses.ret trivial
  | none => exact h₃.goesForward hplan (hl1.at plan .grantConsumed l.result) rfl hr policy target

omit hplan in
omit h in
theorem paused_loads : Loads E (fun _ => False) (fun _ => Paused E plan ap) (systemdMode E) (systemdMode E) :=
  Loads.alone fun _ _ _ _ _ h => h

omit hplan in
/-- a load reads the ledger of the job or fails -/
theorem Unfinished.loadsJob (t j : String) :
    Pauses E plan ap (loadJob (systemdMode E) t j) (fun r s' => s' = s ∧ ∀ x, r = .ok x → s.jobs t j = x) s :=
  fun _ => within_mono (within_of_wp (loadJob_loads paused_loads (.inl h) t j).1) fun _ _ _ hr =>
    ⟨hr.1, fun x hx => (hr.2.2 x hx).1⟩

omit hplan in
theorem Unfinished.loadsActive (t : String) :
    Pauses E plan ap (loadActive (systemdMode E) t) (fun r s' => s' = s ∧ ∀ x, r = .ok x → ActiveIs t s x) s :=
  fun _ => within_mono (within_of_wp (loadActive_loads paused_loads (.inl h) t).1) fun _ _ _ hr =>
    ⟨hr.1, fun x hx => (hr.2.2 x hx).1⟩

theorem Unfinished.stages (hl : Staged E plan l)
    (heq : l.plan = plan) (hst : l.state = .staged) (hr : l.result = none) :
    Pauses E plan ap (stageLedger (systemdMode E) l) (fun _ s' => Unfinished E plan ap s') s := by
  unfold stageLedger
  refine Pauses.ite (fun _ => Pauses.ret h) fun _ => (h.loadsActive _).seq fun active s1 ⟨hs1, _⟩ => ?_
  subst hs1
  rcases active with _ | active
  · exact Pauses.ret h
  refine Pauses.ite (fun _ => Pauses.ret h) fun _ => ?_
  have hprogress : l.state.inProgress = true := by rw [hst]; rfl
  refine (h.save hplan hl heq hprogress hr).seq fun saved s2 ⟨h₂, _, hsaved⟩ => ?_
  cases saved with
  | false => exact Pauses.ret h₂
  | true =>
    intro tr
    refine ⟨.inl h₂, fun c _ => ?_⟩
    rcases portNext_writeActive (E := E) (s := s2) (c := c) l.plan.targetID l.plan.jobID with heq' | ⟨-, heq'⟩
    · rw [heq', heq]
      exact h₂.setActive (hsaved rfl)
    · rw [heq']
      exact h₂

theorem Unfinished.stagesLedger (policy : LocalExecutorPolicy)
    (target : LocalExecutorTarget) (adapter : SystemdPortAdapter) :
    Pauses E plan ap (stageSystemdLedger E policy plan target adapter)
      (fun r s' => Unfinished E plan ap s' ∧ ∀ l, r = .ok l → Staged E plan l ∧ l.result = none) s := by
  unfold stageSystemdLedger
  refine (h.op (o := .checkpoint) rfl).seq fun cp s1 ⟨h₁, _⟩ => ?_
  cases cp with
  | none => exact Pauses.ret ⟨h₁, by simp⟩
  | some cp =>
    refine Pauses.ite (fun _ => Pauses.ret ⟨h₁, by simp⟩) fun hcp => ?_
    simp only [Bool.or_eq_true, not_or, Bool.not_eq_true', Bool.not_eq_false, bne_iff_ne, ne_eq, not_not] at hcp
    refine (h₁.op (o := .verifyRuntime policy target) rfl).seq fun version s2 ⟨h₂, _⟩ => ?_
    cases version with
    | none => exact Pauses.ret ⟨h₂, by simp⟩
    | some version =>
      refine Pauses.ite (fun _ => Pauses.ret ⟨h₂, by simp⟩) fun hversion => ?_
      refine (h₂.op (o := .ensureAvailable { target with localListen := { target.localListen with port := plan.newPort } })
        rfl).seq fun free s3 ⟨h₃, _⟩ => Pauses.ite (fun _ => Pauses.ret ⟨h₃, by simp⟩) fun _ => ?_
      refine Pauses.ite (fun _ => Pauses.ret ⟨h₃, by simp⟩) fun htarget => ?_
      have hstaged : Staged E plan (legacySystemdLedger plan cp (systemdPortSidecarBytes E adapter.serviceType
          target.localListen.host plan.newPort plan.targetConfigRevision) version) :=
        ⟨rfl, hcp.1.1.1, hcp.1.1.2, by simpa [legacySystemdLedger] using htarget,
          by simpa [legacySystemdLedger] using hversion⟩
      refine (h₃.stages hplan hstaged rfl rfl rfl).seq fun ok s4 h4 => ?_
      refine Pauses.ite (fun _ => Pauses.ret ⟨h4, by simp⟩) fun _ => Pauses.ret ⟨h4, fun l hl => ?_⟩
      cases hl
      exact ⟨hstaged, rfl⟩

theorem Unfinished.advances {request : LocalExecutorRequest}
    (hop : request.operation = .portReconfigure) (policy : LocalExecutorPolicy) (target : LocalExecutorTarget)
    (adapter : SystemdPortAdapter) :
    Pauses E plan ap (advanceSystemdPort E policy request plan target adapter (s.jobs plan.targetID plan.jobID))
      (fun _ _ => True) s := by
  have hresolve := only_mono (resolveSystemdPortAppliedTarget_quiet (E := E) policy target)
    (fun o ho => PortOp.steady_keepsStore (PortOp.quiet_steady ho)) fun _ h => h
  have hown : ∀ l, s.jobs plan.targetID plan.jobID = some l → JobLedger E plan l := fun l hl => (h.own l hl).1
  unfold advanceSystemdPort
  refine (h.only hresolve).seq fun resolved s1 ⟨h₁, _⟩ => ?_
  cases resolved with
  | none => exact Pauses.ret trivial
  | some target' =>
    refine Pauses.ite (fun _ => Pauses.ret trivial) fun _ => ?_
    rw [hop]
    cases hl : s.jobs plan.targetID plan.jobID with
    | none =>
      refine (h₁.stagesLedger hplan policy target' adapter).seq fun staged s2 ⟨h₂, hstaged⟩ => ?_
      cases staged with
      | error code => exact Pauses.ret trivial
      | ok l => exact h₂.starts hplan (fun _ => hstaged l rfl) policy request target'
    | some l =>
      refine h₁.starts hplan (fun hst => ⟨(hown l hl).staged hplan, ?_⟩) policy request target'
      -- a valid staged ledger has no result
      have hv := (hown l hl).valid
      have hversion : (l.plan.portContractVersion == 2) = false := by
        rw [sameSystemdPortIntent_lease hplan.legacy (sameSystemdPortIntent_symm (hown l hl).intent)]
        simp [hplan.version]
      simp only [validateSystemdPortLedger, hversion, Bool.false_eq_true, if_false, Bool.and_eq_true, hst,
        validLegacyLedgerState] at hv
      simpa using hv.2.2

/-- **Interruption.** Cut before any of its operations, a forward request that finds its job unfinished leaves it
unfinished over the same applied record, or with a saved result whose sidecar is in place. -/
theorem forward_paused {request : LocalExecutorRequest}
    (hrequest : request.portPlan = some plan) (hop : request.operation = .portReconfigure)
    (policy : LocalExecutorPolicy) :
    Pauses E plan ap (executeSystemdPortRequest E policy request) (fun _ _ => True) s := by
  unfold executeSystemdPortRequest
  rw [hrequest]
  have hlegacy : ¬ (plan.portContractVersion == 2) = true := by simp [hplan.version]
  refine Pauses.ite (fun hv => absurd hv hlegacy) fun _ => ?_
  cases validateSystemdPortPolicyBinding E policy request plan with
  | none => exact Pauses.ret trivial
  | some bound =>
    obtain ⟨target, adapter⟩ := bound
    refine (h.loadsJob plan.targetID plan.jobID).seq fun historical s1 ⟨hs1, hh⟩ => ?_
    subst hs1
    rcases historical with _ | historical
    · exact Pauses.ret trivial
    obtain rfl := hh historical rfl
    refine Pauses.ite (fun _ => Pauses.ret trivial) fun _ => ?_
    split
    · exact Pauses.ret trivial
    refine (h.loadsActive plan.targetID).seq fun active s2 ⟨hs2, ha⟩ => ?_
    subst hs2
    rcases active with _ | active
    · exact Pauses.ret trivial
    refine Pauses.ite (fun _ => Pauses.ret trivial) fun _ => ?_
    dsimp only
    rw [continuedLedger_eq rfl (ha active rfl)]
    split
    · next l hl =>
      -- an unfinished job has no committing ledger
      obtain ⟨hown, hst⟩ := Option.filter_eq_some_iff.1 hl
      exact absurd (by simpa using hst) (h.own l hown).2.1
    · exact h.advances hplan hop policy target adapter

end Forward
end AutostreamUpdater.Port
