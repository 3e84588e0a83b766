/-
Reconcile after an interrupted legacy systemd request.

The reconcile request resolves the effective target from the applied record before it looks at the job's ledger, and that
resolution compares the sidecar with the record. So it converges when the target has no applied record, when the sidecar
still holds the old bytes, or when the result was already saved (`interrupted_reconcile_converges_iff`). With an applied
record and the new bytes in place it is refused, however often it is repeated (`applied_record_blocks_reconcile`); the
Docker request leaves the comparison out once its job is past `staged`.
-/
import AutostreamUpdater.Port.Granted
import AutostreamUpdater.Port.Paused

namespace AutostreamUpdater.Port

open Contract Base

variable {E : PortEnv} {plan : SystemdPortReconfigurePlan} {k : PortResultKind} {l : SystemdPortLedger}
  {ap : Option SystemdPortAppliedState} {s : SystemdWorld} {policy : LocalExecutorPolicy}
  {request : LocalExecutorRequest} {target policyTarget : LocalExecutorTarget} {adapter : SystemdPortAdapter}

/-! ## The favourable environment -/

/-- every read, write and restart succeeds, the grant is accepted, and the service verifies under a target whose
configuration is the sidecar's -/
def Favourable (s : SystemdWorld) : PortOp SystemdBaseline SystemdPortAppliedState → PortChoice → Prop
  | .verifyRuntime _ t, c => t.configSHA256 = s.config.sha256 → ∃ v, c = .version v ∧ versionPattern v = true
  | _, c => c = .ok

section Rules

variable {α γ : Type}

/-- in the favourable environment the program ends in `Q` -/
abbrev Resumes (E : PortEnv) (p : SystemdProg α) (Q : α → SystemdWorld → Prop) (s : SystemdWorld) : Prop :=
  ∀ tr, p.within (portNext E) Favourable (fun _ => True) (fun a _ s => Q a s) tr s

theorem Resumes.ret {a : α} {Q : α → SystemdWorld → Prop} (h : Q a s) : Resumes E (pure a) Q s := fun _ => h

theorem Resumes.seq {p : SystemdProg α} {f : α → SystemdProg γ} {Q : α → SystemdWorld → Prop}
    {R : γ → SystemdWorld → Prop} (hp : Resumes E p Q s) (hf : ∀ a s, Q a s → Resumes E (f a) R s) :
    Resumes E (p >>= f) R s :=
  fun tr => Prog.within_seq (hp tr) fun a tr s h => hf a s h tr

theorem Resumes.mono {p : SystemdProg α} {Q R : α → SystemdWorld → Prop} (hp : Resumes E p Q s)
    (h : ∀ a s, Q a s → R a s) : Resumes E p R s :=
  fun tr => Prog.within_mono (hp tr) fun a _ s => h a s

/-- the operation asks the running service -/
def PortOp.verifies {β A : Type} : PortOp β A → Bool
  | .verifyRuntime _ _ => true
  | _ => false

theorem favourable_ok {o : PortOp SystemdBaseline SystemdPortAppliedState} {c : PortChoice} (ho : o.verifies = false)
    (h : Favourable s o c) : c = .ok := by
  cases o with
  | verifyRuntime p t => cases ho
  | _ => exact h

/-- every other operation has one favourable outcome -/
theorem Resumes.step (o : PortOp SystemdBaseline SystemdPortAppliedState) (ho : o.verifies = false)
    {f : PortRes o → SystemdProg γ} {Q : γ → SystemdWorld → Prop}
    (h : Resumes E (f (portNext E s o .ok).1) Q (portNext E s o .ok).2) : Resumes E (Prog.op o >>= f) Q s := by
  intro tr
  refine ⟨trivial, fun c hc => ?_⟩
  rw [favourable_ok ho hc]
  exact h _

/-- the service verifies under the target the sidecar belongs to -/
theorem Resumes.verify {f : Option String → SystemdProg γ} {Q : γ → SystemdWorld → Prop}
    (hmatch : target.configSHA256 = s.config.sha256) (h : ∀ v, versionPattern v = true → Resumes E (f (some v)) Q s) :
    Resumes E (verifyRuntime policy target >>= f) Q s := by
  intro tr
  refine ⟨trivial, fun c hc => ?_⟩
  obtain ⟨v, rfl, hv⟩ := hc hmatch
  exact h v hv _

/-- a ledger of the job is saved -/
theorem Resumes.save {f : Bool → SystemdProg γ} {Q : γ → SystemdWorld → Prop} (hl : JobLedger E plan l)
    (h : Resumes E (f true) Q (s.setJob l)) : Resumes E (saveLedger (systemdMode E) l >>= f) Q s := by
  have ht := (sameSystemdPortIntent_job hl.intent).1
  have hvalid : (systemdMode E).validateLedger l l.plan.targetID = true := by rw [ht]; exact hl.valid
  unfold saveLedger
  simp only [hvalid, Bool.not_true, Bool.false_eq_true, if_false]
  exact Resumes.step (.writeJob l) rfl h

end Rules

/-! ## The stores of a paused job -/

/-- the job's ledger is terminal with a result of kind `k` -/
def Closed (plan : SystemdPortReconfigurePlan) (k : PortResultKind) (s : SystemdWorld) : Prop :=
  ∃ l, s.jobs plan.targetID plan.jobID = some l ∧ l.state = .terminal ∧ l.result = some (systemdResult plan k)

theorem Resumes.commit (hplan : LegacyPlan E plan) (hl : Staged E plan l) (hk : k ≠ .rollbackFailed) :
    Resumes E (commitSystemdPortResult E plan l k)
      (fun x s' => x = localExecutorPortResponse plan (systemdResult plan k) ∧ Closed plan k s') s := by
  have hk' : (k == .rollbackFailed) = false := by simpa using hk
  have hsavable : (systemdMode E).savable (systemdPortAppliedStateForResult plan (systemdResult plan k)) = true :=
    hplan.applied_savable hk
  have hterminal := (hl.at plan .terminal (some (systemdResult plan k))).saved_result hplan rfl hk (.inr rfl) rfl
  unfold commitSystemdPortResult commitLedger saveApplied
  simp only [hk', Bool.false_eq_true, if_false, hsavable, Bool.not_true]
  refine Resumes.save ((hl.at plan .committing _).saved_result hplan rfl hk (.inl rfl) rfl) ?_
  refine Resumes.step (.writeApplied _ _) rfl ?_
  refine Resumes.step (.crashPoint _) rfl ?_
  refine Resumes.save hterminal (Resumes.ret ⟨rfl, ?_⟩)
  exact ⟨_, setJob_own hterminal, rfl, rfl⟩

/-- a valid ledger is loaded as it is -/
theorem Resumes.loadsJob {t j : String} (ht : identifierPattern t = true) (hj : identifierPattern j = true)
    (hvalid : ∀ l, s.jobs t j = some l → validateSystemdPortLedger E l t = true ∧ l.plan.jobID = j) :
    Resumes E (loadJob (systemdMode E) t j) (fun r s' => s' = s ∧ r = .ok (s.jobs t j)) s := by
  unfold loadJob
  simp only [ht, hj, Bool.not_true, Bool.or_self, Bool.false_eq_true, if_false]
  refine Resumes.step (.readJob _ _) rfl ?_
  cases hl : s.jobs t j with
  | none =>
    simp only [portNext, if_true, hl]
    exact Resumes.ret ⟨rfl, rfl⟩
  | some l =>
    have haccept : ((systemdMode E).validateLedger l t && l.plan.jobID == j) = true := by
      simp only [Bool.and_eq_true, beq_iff_eq]
      exact hvalid l hl
    simp only [portNext, if_true, hl, haccept]
    exact Resumes.ret ⟨rfl, rfl⟩

theorem validLedger_jobID {t : String} (h : validateSystemdPortLedger E l t = true) :
    identifierPattern l.plan.jobID = true := by
  have hplan : l.plan.validate E.toContracts = true := by
    unfold validateSystemdPortLedger at h
    split at h
    · simp only [PortLedger.validatePortV2Shared, Bool.and_eq_true, and_assoc] at h
      exact h.2.2.2.1
    · simp only [Bool.and_eq_true, and_assoc] at h
      exact h.2.2.1
  unfold SystemdPortReconfigurePlan.validate at hplan
  split at hplan
  · simp only [SystemdPortReconfigurePlan.validatePortV2, Bool.and_eq_true, and_assoc] at hplan
    exact hplan.2.1
  · simp only [SystemdPortReconfigurePlan.legacyComplete, Bool.and_eq_true, and_assoc] at hplan
    obtain ⟨-, -, -, -, -, -, hid, -⟩ := hplan
    exact hid

/-- the active pointer is followed, and the target is not busy with another job -/
theorem Resumes.loadsActive (hplan : LegacyPlan E plan) (h : Pointed E plan s) :
    Resumes E (loadActive (systemdMode E) plan.targetID) (fun r s' => s' = s ∧ ∃ active, r = .ok active ∧
      busyWith active plan.jobID = false ∧ ActiveIs plan.targetID s active) s := by
  have ht := hplan.identifiers.1
  unfold loadActive
  simp only [ht, Bool.not_true, Bool.false_eq_true, if_false]
  refine Resumes.step (.readActive _) rfl ?_
  cases hj : s.active plan.targetID with
  | none =>
    simp only [portNext, if_true, hj]
    exact Resumes.ret ⟨rfl, none, rfl, rfl, .inl ⟨rfl, hj⟩⟩
  | some j =>
    obtain ⟨a, ha, hvalid, hid, hown⟩ := h j hj
    have hjid : identifierPattern j = true := by rw [← hid]; exact validLedger_jobID hvalid
    simp only [portNext, if_true, hj, hjid, Bool.not_true, Bool.false_eq_true, if_false]
    refine (Resumes.loadsJob ht hjid fun l hl => ?_).seq ?_
    · rw [ha] at hl
      cases hl
      exact ⟨hvalid, hid⟩
    · rintro r s1 ⟨hs1, hr⟩
      rw [hr, ha, hs1]
      refine Resumes.ret ⟨rfl, some a, rfl, ?_, .inr ⟨a, rfl, by rw [hid, hj], by rw [hid, ha]⟩⟩
      rcases hown with hown | hterminal
      · simp [busyWith, hid, hown]
      · simp [busyWith, hterminal]

/-! ## The effective target -/

/-- the target that the applied record makes of the policy's; the sidecar is not looked at -/
def effectiveTarget (E : PortEnv) (policy : LocalExecutorPolicy) (policyTarget : LocalExecutorTarget) :
    Option SystemdPortAppliedState → Option LocalExecutorTarget
  | none => some policyTarget
  | some a => (a.validateForPolicy E policy policyTarget).map fun overlay =>
      if !overlay then policyTarget else
        { policyTarget with
          localListen := { policyTarget.localListen with port := a.port }
          endpointRevision := a.endpointRevision
          configRevision := a.configRevision
          configSHA256 := a.configSHA256 }

/-- the sidecar bytes of the plan's old and new side -/
def oldSidecar (E : PortEnv) (target : LocalExecutorTarget) (plan : SystemdPortReconfigurePlan) : Bytes :=
  systemdPortSidecarBytes E target.serviceType target.localListen.host plan.oldPort plan.expectedConfigRevision

def newSidecar (E : PortEnv) (target : LocalExecutorTarget) (plan : SystemdPortReconfigurePlan) : Bytes :=
  systemdPortSidecarBytes E target.serviceType target.localListen.host plan.newPort plan.targetConfigRevision

/-- two different payloads with one SHA-256 -/
def Collides (E : PortEnv) (a b : Bytes) : Prop := a ≠ b ∧ payloadSHA256 E a = payloadSHA256 E b

/-- the sidecar is the private file of the old bytes, which is a valid one and the plan's expected one; a ledger of the job
checkpointed a private file whose bytes do not collide with them -/
structure HoldsOld (E : PortEnv) (target : LocalExecutorTarget) (plan : SystemdPortReconfigurePlan)
    (s : SystemdWorld) : Prop where
  file : s.config = privateFile E (oldSidecar E target plan)
  valid : s.config.validateSidecar E = true
  expected : s.config.sha256 = plan.expectedConfigSHA256
  saved : ∀ l, s.jobs plan.targetID plan.jobID = some l →
    l.checkpoint.mode = 0o600 ∧ ¬ Collides E l.checkpoint.bytes (oldSidecar E target plan)

/-- the old sidecar is the one the job checkpointed -/
theorem HoldsOld.checkpointed (h : HoldsOld E target plan s) (hl : Staged E plan l)
    (hjob : s.jobs plan.targetID plan.jobID = some l) : s.config = l.checkpoint := by
  obtain ⟨hmode, hdistinct⟩ := h.saved l hjob
  have hvalid := hl.checkpoint
  have hexpected := hl.expected.trans h.expected.symm
  generalize l.checkpoint = cp at hmode hdistinct hvalid hexpected ⊢
  obtain ⟨existed, mode, bytes, sha⟩ := cp
  simp only at hmode hdistinct hexpected
  simp only [PortCheckpoint.validateSidecar, PortCheckpoint.validateMode, hmode, Bool.and_eq_true, beq_iff_eq] at hvalid
  obtain ⟨hsha, hexisted⟩ := hvalid
  have hexisted : existed = true := by
    cases existed with
    | true => rfl
    | false => simp at hexisted
  rw [h.file] at hexpected ⊢
  have hbytes : bytes = oldSidecar E target plan := by
    by_contra hne
    exact hdistinct ⟨hne, hsha.symm.trans hexpected⟩
  simp only [privateFile, hmode, hexisted, hbytes, hexpected]

theorem validateForPolicy_record {a : SystemdPortAppliedState} {overlay : Bool}
    (h : a.validateForPolicy E policy policyTarget = some overlay) :
    a.validateRecord E policyTarget = true ∧ (overlay = false → a.matchesTarget policyTarget = true) := by
  unfold SystemdPortAppliedState.validateForPolicy at h
  split at h
  · cases h
  · next hrecord =>
    simp only [Bool.or_eq_true, Bool.not_eq_true', not_or, Bool.not_eq_false] at hrecord
    refine ⟨hrecord.1, fun hoverlay => ?_⟩
    subst hoverlay
    split at h
    · split at h
      · assumption
      · cases h
    · split_ifs at h
      cases h

/-- the effective target keeps the identity and the host of the policy's -/
theorem effectiveTarget_identity (h : effectiveTarget E policy policyTarget ap = some target) :
    target.serviceID = policyTarget.serviceID ∧ target.serviceType = policyTarget.serviceType ∧
      target.localListen.host = policyTarget.localListen.host := by
  cases ap with
  | none =>
    cases h
    exact ⟨rfl, rfl, rfl⟩
  | some a =>
    obtain ⟨overlay, -, rfl⟩ := Option.map_eq_some_iff.1 h
    cases overlay <;> exact ⟨rfl, rfl, rfl⟩

/-- the applied record under a matching effective target is the plan's old side -/
theorem effectiveTarget_record {a : SystemdPortAppliedState}
    (heff : effectiveTarget E policy policyTarget (some a) = some target)
    (hmatch : systemdPortTargetMatchesExpected target plan = true) :
    (a.validateRecord E policyTarget = true ∧ a.targetID = policyTarget.serviceID) ∧ a.port = plan.oldPort ∧
      a.configRevision = plan.expectedConfigRevision ∧ a.configSHA256 = plan.expectedConfigSHA256 := by
  obtain ⟨overlay, hoverlay, rfl⟩ := Option.map_eq_some_iff.1 heff
  obtain ⟨hvalid, hmatches⟩ := validateForPolicy_record hoverlay
  have hrecord : a.validateRecord E policyTarget = true ∧ a.targetID = policyTarget.serviceID := by
    refine ⟨hvalid, ?_⟩
    simp only [SystemdPortAppliedState.validateRecord, Bool.and_eq_true, and_assoc] at hvalid
    exact beq_iff_eq.1 hvalid.2.1
  simp only [systemdPortTargetMatchesExpected, Bool.and_eq_true, beq_iff_eq, and_assoc] at hmatch
  obtain ⟨hport, -, -, hrevision, hdigest⟩ := hmatch
  cases overlay with
  | true => exact ⟨hrecord, hport, hrevision, hdigest⟩
  | false =>
    have hm := hmatches rfl
    simp only [SystemdPortAppliedState.matchesTarget, Bool.and_eq_true, beq_iff_eq, and_assoc] at hm
    obtain ⟨-, -, hp, -, hr, hd⟩ := hm
    exact ⟨hrecord, hp.trans hport, hr.trans hrevision, hd.trans hdigest⟩

/-- over the old sidecar the record is confirmed -/
theorem HoldsOld.configIs (h : HoldsOld E policyTarget plan s) :
    configIs E s.config (oldSidecar E policyTarget plan) plan.expectedConfigSHA256 = true := by
  have hvalid := h.valid
  have hexpected := h.expected
  rw [h.file] at hvalid hexpected ⊢
  simp only [PortCheckpoint.validateSidecar, PortCheckpoint.validateMode, privateFile, if_true, Bool.and_eq_true] at hvalid
  simp only [privateFile] at hexpected
  simp only [Port.configIs, privateFile, hexpected, hvalid.2.1.2, beq_self_eq_true, Bool.and_true]
  exact hvalid.2.2

/-- the applied record is loaded as it is -/
theorem Resumes.loadsApplied {t : String} (ht : identifierPattern t = true) (happlied : s.applied t = ap)
    (hloadable : ∀ a, ap = some a → a.targetID = t) :
    Resumes E (loadApplied (systemdMode E) t) (fun r s' => s' = s ∧ r = .ok ap) s := by
  unfold loadApplied
  simp only [ht, Bool.not_true, Bool.false_eq_true, if_false]
  refine Resumes.step (.readApplied t) rfl ?_
  cases ap with
  | none =>
    simp only [portNext, if_true, happlied]
    exact Resumes.ret ⟨rfl, rfl⟩
  | some a =>
    have haccept : (systemdMode E).loadable a t = true := by simp [systemdMode, hloadable a rfl]
    simp only [portNext, if_true, happlied, haccept]
    exact Resumes.ret ⟨rfl, rfl⟩

/-- **Resolution.** Over the old sidecar, or without an applied record, the effective target is resolved. -/
theorem Resumes.resolves (hid : identifierPattern policyTarget.serviceID = true)
    (heff : effectiveTarget E policy policyTarget ap = some target)
    (hmatch : systemdPortTargetMatchesExpected target plan = true)
    (happlied : s.applied policyTarget.serviceID = ap) (hside : ap = none ∨ HoldsOld E policyTarget plan s) :
    Resumes E (resolveSystemdPortAppliedTarget E policy policyTarget) (fun r s' => s' = s ∧ r = some target) s := by
  unfold resolveSystemdPortAppliedTarget
  cases ap with
  | none =>
    refine (Resumes.loadsApplied hid happlied (by simp)).seq fun r s1 ⟨hs1, hr⟩ => ?_
    subst hs1 hr
    exact Resumes.ret ⟨rfl, heff⟩
  | some a =>
    have hold : HoldsOld E policyTarget plan s := hside.resolve_left (by simp)
    obtain ⟨⟨hrecord, hloadable⟩, hport, hrevision, hdigest⟩ := effectiveTarget_record heff hmatch
    obtain ⟨overlay, hoverlay, htarget⟩ := Option.map_eq_some_iff.1 heff
    refine (Resumes.loadsApplied hid happlied fun a' ha' => ?_).seq fun r s1 ⟨hs1, hr⟩ => ?_
    · cases ha'
      exact hloadable
    · subst hs1 hr
      simp only [hoverlay]
      refine Resumes.seq (Q := fun ok s' => s' = s1 ∧ ok = true) ?_ fun ok s2 ⟨hs2, hok⟩ => ?_
      · unfold verifyAppliedSidecar
        simp only [hrecord, Bool.not_true, Bool.false_eq_true, if_false]
        refine Resumes.step .checkpoint rfl (Resumes.ret ⟨rfl, ?_⟩)
        rw [hport, hrevision, hdigest]
        exact hold.configIs
      · subst hs2 hok
        exact Resumes.ret ⟨rfl, congrArg some htarget⟩

/-! ## The reconcile request -/

/-- the request ended with an accepted result of the job in its terminal ledger -/
def Converged (plan : SystemdPortReconfigurePlan) (x : PortResponse) (s : SystemdWorld) : Prop :=
  ∃ k, k ≠ .rollbackFailed ∧ x = localExecutorPortResponse plan (systemdResult plan k) ∧ Closed plan k s

section Reconciliation

variable (hplan : LegacyPlan E plan)

include hplan

theorem Resumes.converges (hl : Staged E plan l) (hk : k ≠ .rollbackFailed) :
    Resumes E (commitSystemdPortResult E plan l k) (Converged plan) s :=
  (Resumes.commit hplan hl hk).mono fun _ _ h => ⟨k, hk, h⟩

/-- the grant is consumed between its two saves -/
theorem Resumes.consumes (hl : Staged E plan l) (heq : l.plan = plan) (hr : l.result = none) :
    Resumes E (consumeSystemdGrant E request plan l)
      (fun r s' => r = none ∧ s'.config = s.config ∧ s'.applied = s.applied) s := by
  unfold consumeSystemdGrant
  refine Resumes.save ((hl.at l.plan .grantConsuming l.result).saved hplan heq rfl hr) ?_
  refine Resumes.step (.consumeGrant _ _ _ _) rfl ?_
  refine Resumes.save ((hl.at l.plan .grantConsumed l.result).saved hplan heq rfl hr) ?_
  exact Resumes.ret ⟨rfl, rfl, rfl⟩

omit hplan in
theorem Resumes.verifiedIf {fits : Bool} (hmatch : fits = true → target.configSHA256 = s.config.sha256) :
    Resumes E (verifiedIf fits policy target) (fun ok s' => s' = s ∧ ok = fits) s := by
  unfold Port.verifiedIf
  cases fits with
  | false => exact Resumes.ret ⟨rfl, rfl⟩
  | true => exact Resumes.verify (hmatch rfl) fun v _ => Resumes.ret ⟨rfl, rfl⟩

/-- a reconcile of a saved ledger ends with the side whose bytes are in place -/
theorem Resumes.reconciles (hl : Staged E plan l) (htarget : target.configSHA256 = plan.expectedConfigSHA256)
    (hside : s.config = l.checkpoint ∨ s.config.sha256 = plan.targetConfigSHA256) :
    Resumes E (reconcileSystemdPortRequest E policy request plan target l) (Converged plan) s := by
  unfold reconcileSystemdPortRequest
  have hl1 := hl.at plan l.state none
  refine (Resumes.consumes hplan hl1 rfl rfl).seq ?_
  rintro response s1 ⟨hresponse, hconfig, -⟩
  subst hresponse
  have hl2 := hl.at plan .grantConsumed none
  refine Resumes.step .checkpoint rfl ?_
  refine (Resumes.verifiedIf fun hfits => ?_).seq ?_
  · exact (by simpa [portNext] using hfits : s1.config.sha256 = plan.targetConfigSHA256).symm
  rintro ok s2 ⟨hs2, hok⟩
  subst hs2
  by_cases hnew : s2.config.sha256 = plan.targetConfigSHA256
  · have hok : ok = true := by simpa [portNext, hnew] using hok
    subst hok
    exact Resumes.converges hplan hl2 (k := .applied) (by decide)
  · have hok : ok = false := by
      rw [hok]
      simpa [portNext] using hnew
    subst hok
    have hold : s2.config = l.checkpoint := by
      rw [hconfig] at hnew ⊢
      exact hside.resolve_right hnew
    -- the checkpointed file is in place, so nothing is left to roll back
    refine (Resumes.verifiedIf fun _ => ?_).seq ?_
    · rw [hold]
      exact htarget.trans hl.expected.symm
    rintro ok s3 ⟨hs3, hok⟩
    subst hs3
    have hok : ok = true := by simpa [portNext, hold] using hok
    subst hok
    exact Resumes.converges hplan hl2 (k := .unchanged) (by decide)

/-- staging succeeds on a target that is not busy -/
theorem Resumes.stages (hl : JobLedger E plan l) (heq : l.plan = plan)
    (h : Pointed E plan s) : Resumes E (stageLedger (systemdMode E) l) (fun ok _ => ok = true) s := by
  have hvalid : (systemdMode E).validateLedger l plan.targetID = true := hl.valid
  unfold stageLedger
  simp only [heq, hvalid, Bool.not_true, Bool.false_eq_true, if_false]
  refine (Resumes.loadsActive hplan h).seq fun r s1 ⟨hs1, active, hr, hbusy, _⟩ => ?_
  subst hs1 hr
  simp only [hbusy, Bool.false_eq_true, if_false]
  exact Resumes.save hl (Resumes.step (.writeActive _ _) rfl (Resumes.ret rfl))

/-- a reconcile without a ledger ends unchanged over the old sidecar -/
theorem Resumes.reconcilesUnstarted (h : Pointed E plan s) (hadapter : adapter.serviceType = policyTarget.serviceType)
    (hhost : target.localListen.host = policyTarget.localListen.host)
    (htarget : target.configSHA256 = plan.expectedConfigSHA256)
    (hnew : payloadSHA256 E (newSidecar E policyTarget plan) = plan.targetConfigSHA256)
    (hold : HoldsOld E policyTarget plan s) :
    Resumes E (reconcileUnstartedSystemdPortRequest E policy request plan target adapter) (Converged plan) s := by
  unfold reconcileUnstartedSystemdPortRequest
  refine Resumes.step .checkpoint rfl ?_
  have hmode : s.config.existed = true ∧ s.config.mode = 0o600 ∧ s.config.bytes = oldSidecar E policyTarget plan := by
    rw [hold.file]
    exact ⟨rfl, rfl, rfl⟩
  have hold' : systemdPortSidecarBytes E adapter.serviceType target.localListen.host plan.oldPort
      plan.expectedConfigRevision = oldSidecar E policyTarget plan := by rw [hadapter, hhost]; rfl
  have hnew' : systemdPortSidecarBytes E adapter.serviceType target.localListen.host plan.newPort
      plan.targetConfigRevision = newSidecar E policyTarget plan := by rw [hadapter, hhost]; rfl
  simp only [portNext, hold.valid, hmode, hold.expected, hold', hnew', hnew, Bool.not_true, Bool.or_self, bne_self_eq_false,
    Bool.false_eq_true, if_false]
  refine Resumes.verify (htarget.trans hold.expected.symm) fun v hv => ?_
  simp only [hv, Bool.not_true, Bool.false_eq_true, if_false]
  have hl : Staged E plan (legacySystemdLedger plan s.config (newSidecar E policyTarget plan) v) :=
    ⟨rfl, hold.valid, hold.expected, hnew, hv⟩
  refine (Resumes.stages hplan (hl.saved hplan rfl rfl rfl) rfl h).seq fun ok s1 hok => ?_
  subst hok
  refine (Resumes.consumes hplan hl rfl rfl).seq ?_
  rintro response s2 ⟨hresponse, -⟩
  subst hresponse
  exact Resumes.converges hplan (hl.at plan .grantConsumed none) (k := .unchanged) (by decide)

/-- the sidecar is the private file of the plan's new bytes -/
def HoldsNew (E : PortEnv) (target : LocalExecutorTarget) (plan : SystemdPortReconfigurePlan) (s : SystemdWorld) :
    Prop := s.config = privateFile E (newSidecar E target plan)

/-- the sidecar with the digest of a result is the file the result reports -/
theorem sidecarIsResult_of_side (hnew : payloadSHA256 E (newSidecar E policyTarget plan) = plan.targetConfigSHA256)
    (hside : HoldsOld E policyTarget plan s ∨ HoldsNew E policyTarget plan s)
    (hconfig : s.config.sha256 = (systemdResult plan k).configSHA256) :
    sidecarIsResult E s.config (systemdResult plan k) (systemdPortSidecarBytes E policyTarget.serviceType
      policyTarget.localListen.host (systemdResult plan k).appliedPort (systemdResult plan k).configRevision) = true := by
  have hne := hplan.complete.2.1
  rcases hside with hold | hfile
  · have hk : k ≠ .applied := by
      intro hk
      rw [hk, hold.expected] at hconfig
      exact hne hconfig
    have hk' : (k == PortResultKind.applied) = false := by simpa using hk
    have hsha := hold.expected
    rw [hold.file] at hsha ⊢
    simp only [privateFile, oldSidecar] at hsha
    simp [sidecarIsResult, privateFile, legacyResult, hk', oldSidecar, hsha]
  · have hsha : s.config.sha256 = plan.targetConfigSHA256 := by rw [hfile]; exact hnew
    have hk : k = .applied := by
      by_contra hk
      have hk' : (k == PortResultKind.applied) = false := by simpa using hk
      rw [hsha] at hconfig
      simp only [legacyResult, hk', Bool.false_eq_true, if_false] at hconfig
      exact hne hconfig.symm
    subst hk
    unfold HoldsNew at hfile
    rw [hfile]
    simp only [newSidecar] at hnew
    simp [sidecarIsResult, privateFile, legacyResult, newSidecar, hnew]

/-- a saved result is finished over its sidecar -/
theorem Resumes.repairs (hadapter : adapter.serviceType = policyTarget.serviceType)
    (hnew : payloadSHA256 E (newSidecar E policyTarget plan) = plan.targetConfigSHA256)
    (hside : HoldsOld E policyTarget plan s ∨ HoldsNew E policyTarget plan s) (hl : Staged E plan l)
    (hstate : l.state = .committing) (hk : k ≠ .rollbackFailed) (hresult : l.result = some (systemdResult plan k))
    (hconfig : s.config.sha256 = (systemdResult plan k).configSHA256) :
    Resumes E (repairSystemdPortCommit E policy request plan policyTarget adapter l) (Converged plan) s := by
  have hkind : ((systemdResult plan k).result == .rollbackFailed) = false := by simpa [legacyResult] using hk
  have hsidecar := sidecarIsResult_of_side hplan hnew hside hconfig
  have hsavable : (systemdMode E).savable (systemdPortAppliedStateForResult plan (systemdResult plan k)) = true :=
    hplan.applied_savable hk
  have hterminal := (hl.at plan .terminal (some (systemdResult plan k))).saved_result hplan rfl hk (.inr rfl) rfl
  unfold repairSystemdPortCommit
  simp only [hresult, hstate, hplan.result_valid hk, hkind, bne_self_eq_false, Bool.not_true, Bool.or_self,
    Bool.false_eq_true, if_false]
  refine Resumes.step (.consumeGrant _ _ _ _) rfl ?_
  refine Resumes.step .checkpoint rfl ?_
  simp only [portNext, Option.any_some, hadapter, hsidecar, beq_self_eq_true, Bool.not_true, Bool.false_eq_true, if_false]
  refine Resumes.verify hconfig.symm fun v _ => ?_
  unfold repairLedger saveApplied
  simp only [hsavable, Bool.not_true, Bool.false_eq_true, if_false, Option.isNone_some]
  refine Resumes.step (.writeApplied _ _) rfl ?_
  exact Resumes.save hterminal (Resumes.ret ⟨k, hk, rfl, _, setJob_own hterminal, rfl, rfl⟩)

/-! ## The whole request -/

omit hplan in
/-- what the policy binding of a request says about its target -/
theorem policyBinding_facts (h : validateSystemdPortPolicyBinding E policy request plan = some (policyTarget, adapter)) :
    plan.validate E.toContracts = true ∧ policyTarget.serviceID = plan.targetID ∧
      adapter.serviceType = policyTarget.serviceType ∧
      payloadSHA256 E (newSidecar E policyTarget plan) = plan.targetConfigSHA256 := by
  simp only [validateSystemdPortPolicyBinding, Option.bind_eq_bind, Option.bind_eq_some_iff, guard, Option.pure_def] at h
  obtain ⟨_, hfence, target, htarget, systemd, -, _, -, adapter', hadapter, _, hdigest, heq⟩ := h
  cases heq
  have hfence : legacyFence E policy request plan = true := by
    by_contra hne
    simp [hne] at hfence
  have hdigest : (payloadSHA256 E (systemdPortSidecarBytes E adapter.serviceType policyTarget.localListen.host
      plan.newPort plan.targetConfigRevision) == plan.targetConfigSHA256) = true := by
    by_contra hne
    simp [hne] at hdigest
  have htype : adapter.serviceType = policyTarget.serviceType := by
    obtain ⟨hfind, -⟩ := Option.filter_eq_some_iff.1 hadapter
    simpa using List.find?_some hfind
  refine ⟨?_, by simpa using List.find?_some htarget, htype, ?_⟩
  · simp only [legacyFence, Bool.and_eq_true, and_assoc] at hfence
    exact hfence.2.1
  · rw [htype] at hdigest
    exact beq_iff_eq.1 hdigest

/-- a request up to its ledger: either the saved result is finished or the ledger is advanced -/
theorem Resumes.enters {Q : PortResponse → SystemdWorld → Prop}
    (hrequest : request.portPlan = some plan) (hop : request.operation = .portReconfigureReconcile)
    (hbind : validateSystemdPortPolicyBinding E policy request plan = some (policyTarget, adapter))
    (hpointer : Pointed E plan s)
    (hown : ∀ l, s.jobs plan.targetID plan.jobID = some l → JobLedger E plan l ∧ l.state ≠ .terminal)
    (hrepair : ∀ l, s.jobs plan.targetID plan.jobID = some l → l.state = .committing →
      Resumes E (repairSystemdPortCommit E policy request plan policyTarget adapter l) Q s)
    (hadvance : (∀ l, s.jobs plan.targetID plan.jobID = some l → l.state ≠ .committing) →
      Resumes E (advanceSystemdPort E policy request plan policyTarget adapter (s.jobs plan.targetID plan.jobID)) Q s) :
    Resumes E (executeSystemdPortRequest E policy request) Q s := by
  have hlegacy : (plan.portContractVersion == 2) = false := by simp [hplan.version]
  obtain ⟨ht, hj⟩ := hplan.identifiers
  unfold executeSystemdPortRequest
  simp only [hrequest, hlegacy, Bool.false_eq_true, if_false, hbind]
  refine (Resumes.loadsJob ht hj fun l hl => ⟨(hown l hl).1.valid, (hown l hl).1.jobID⟩).seq
    fun r s1 ⟨hs1, hr⟩ => ?_
  subst hs1 hr
  have hintent : ((s1.jobs plan.targetID plan.jobID).any fun l => !sameSystemdPortIntent l.plan plan) = false := by
    cases hl : s1.jobs plan.targetID plan.jobID with
    | none => rfl
    | some l => simp [(hown l hl).1.intent]
  have hterminal : (s1.jobs plan.targetID plan.jobID).filter (fun l => l.state == .terminal) = none := by
    cases hl : s1.jobs plan.targetID plan.jobID with
    | none => rfl
    | some l => simp [(hown l hl).2]
  simp only [hintent, hterminal, Bool.false_eq_true, if_false]
  refine (Resumes.loadsActive hplan hpointer).seq fun r s2 ⟨hs2, active, hr, hbusy, hactive⟩ => ?_
  subst hs2 hr
  simp only [hbusy, Bool.false_eq_true, if_false, continuedLedger_eq rfl hactive]
  cases hl : (s2.jobs plan.targetID plan.jobID).filter fun l => l.state == .committing with
  | some l =>
    obtain ⟨hl, hstate⟩ := Option.filter_eq_some_iff.1 hl
    simp only [hop, bne_self_eq_false, Bool.false_eq_true, if_false]
    exact hrepair l hl (by simpa using hstate)
  | none =>
    refine hadvance fun l hown hstate => ?_
    simp [hown, hstate] at hl

/-- the reconcile request can go on: the old bytes are in place, the result is saved, or no applied record contradicts
the new bytes of a staged job -/
def Resumable (E : PortEnv) (target : LocalExecutorTarget) (plan : SystemdPortReconfigurePlan) (s : SystemdWorld) :
    Prop :=
  HoldsOld E target plan s ∨ (∃ l, s.jobs plan.targetID plan.jobID = some l ∧ l.state = .committing) ∨
    s.applied plan.targetID = none ∧ (s.jobs plan.targetID plan.jobID).isSome

section Request

variable (hrequest : request.portPlan = some plan)
  (hop : request.operation = .portReconfigureReconcile)
  (hbind : validateSystemdPortPolicyBinding E policy request plan = some (policyTarget, adapter))
  (heff : effectiveTarget E policy policyTarget ap = some target)
  (hmatch : systemdPortTargetMatchesExpected target plan = true)
  (hside : HoldsOld E policyTarget plan s ∨ HoldsNew E policyTarget plan s)

include hbind heff hmatch hside hop in
/-- an unfinished job is closed over the old sidecar, or over the new one without an applied record -/
theorem Resumes.advances (h : Unfinished E plan ap s)
    (hresume : HoldsOld E policyTarget plan s ∨ ap = none ∧ (s.jobs plan.targetID plan.jobID).isSome) :
    Resumes E (advanceSystemdPort E policy request plan policyTarget adapter (s.jobs plan.targetID plan.jobID))
      (Converged plan) s := by
  obtain ⟨-, hid, hadapter, hnew⟩ := policyBinding_facts hbind
  have hresolve : Resumes E (resolveSystemdPortAppliedTarget E policy policyTarget)
      (fun r s' => s' = s ∧ r = some target) s := by
    refine Resumes.resolves ?_ heff hmatch ?_ ?_
    · rw [hid]; exact hplan.identifiers.1
    · rw [hid]; exact h.applied
    · exact hresume.symm.imp_left (·.1)
  have htarget : target.configSHA256 = plan.expectedConfigSHA256 := by
    simp only [systemdPortTargetMatchesExpected, Bool.and_eq_true, beq_iff_eq, and_assoc] at hmatch
    exact hmatch.2.2.2.2
  unfold advanceSystemdPort
  refine hresolve.seq fun r s1 ⟨hs1, hr⟩ => ?_
  subst hs1 hr
  simp only [hmatch, hop, Bool.not_true, Bool.false_eq_true, if_false]
  cases hl : s1.jobs plan.targetID plan.jobID with
  | none =>
    have hold : HoldsOld E policyTarget plan s1 := hresume.resolve_right (by simp [hl])
    exact Resumes.reconcilesUnstarted hplan h.pointer hadapter (effectiveTarget_identity heff).2.2 htarget hnew hold
  | some l =>
    have hstaged := (h.own l hl).1.staged hplan
    refine Resumes.reconciles hplan hstaged htarget ?_
    rcases hside with hold | hfile
    · exact .inl (hold.checkpointed hstaged hl)
    · refine .inr ?_
      rw [hfile]
      exact hnew

include hrequest hop hbind heff hmatch hside in
/-- **Convergence.** A resumable paused job is closed with an accepted result. -/
theorem Resumes.executes (h : Paused E plan ap s) (hresume : Resumable E policyTarget plan s) :
    Resumes E (executeSystemdPortRequest E policy request) (Converged plan) s := by
  obtain ⟨-, -, hadapter, hnew⟩ := policyBinding_facts hbind
  rcases h with h | h
  · refine Resumes.enters hplan hrequest hop hbind h.pointer (fun l hl => ⟨(h.own l hl).1, (h.own l hl).2.2⟩) ?_ ?_
    · intro l hl hstate
      exact absurd hstate (h.own l hl).2.1
    · intro hnone
      refine Resumes.advances hplan hop hbind heff hmatch hside h ?_
      rcases hresume with hold | ⟨l, hl, hstate⟩ | ⟨hap, hsome⟩
      · exact .inl hold
      · exact absurd hstate (hnone l hl)
      · exact .inr ⟨h.applied.symm.trans hap, hsome⟩
  · obtain ⟨l, k, hl, hjob, hstate, hk, hresult, hconfig⟩ := h.own
    have hown : ∀ l', s.jobs plan.targetID plan.jobID = some l' → l' = l := fun l' hl' => by
      rw [hl] at hl'
      exact (Option.some.inj hl').symm
    refine Resumes.enters hplan hrequest hop hbind h.pointer (fun l' hl' => ?_) (fun l' hl' _ => ?_) fun hnone => ?_
    · rw [hown l' hl', hstate]
      exact ⟨hjob, by decide⟩
    · rw [hown l' hl']
      exact Resumes.repairs hplan hadapter hnew hside (hjob.staged hplan) hstate hk hresult hconfig
    · exact absurd hstate (hnone l hl)

include hrequest hop hbind heff hmatch hside in
/-- **Refusal.** A paused job that is not resumable is refused, with nothing changed. -/
theorem Resumes.refuses (h : Paused E plan ap s) (hstuck : ¬ Resumable E policyTarget plan s) :
    Resumes E (executeSystemdPortRequest E policy request) (fun x s' => s' = s ∧ ∃ code, x = .failure code) s := by
  obtain ⟨-, hid, hadapter, hnew⟩ := policyBinding_facts hbind
  simp only [Resumable, not_or, not_exists, not_and] at hstuck
  obtain ⟨hnotOld, hnotCommitting, hblocked⟩ := hstuck
  have hfile : HoldsNew E policyTarget plan s := hside.resolve_left hnotOld
  have hdigest : s.config.sha256 = plan.targetConfigSHA256 := by rw [hfile]; exact hnew
  have hne := hplan.complete.2.1
  have h : Unfinished E plan ap s := by
    rcases h with h | h
    · exact h
    · obtain ⟨l, k, hl, -, hstate, -⟩ := h.own
      exact absurd hstate (hnotCommitting l hl)
  refine Resumes.enters hplan hrequest hop hbind h.pointer (fun l hl => ⟨(h.own l hl).1, (h.own l hl).2.2⟩) ?_ ?_
  · intro l hl hstate
    exact absurd hstate (hnotCommitting l hl)
  intro _
  have hsid : identifierPattern policyTarget.serviceID = true := by rw [hid]; exact hplan.identifiers.1
  have happlied : s.applied policyTarget.serviceID = ap := by rw [hid]; exact h.applied
  unfold advanceSystemdPort
  cases ap with
  | none =>
    have hnoLedger : s.jobs plan.targetID plan.jobID = none := by
      have := hblocked h.applied
      simpa using this
    refine (Resumes.resolves hsid heff hmatch happlied (.inl rfl)).seq ?_
    rintro r s1 ⟨hs1, hr⟩
    subst hs1 hr
    simp only [hmatch, hop, hnoLedger, Bool.not_true, Bool.false_eq_true, if_false]
    -- the reconcile of a job that never started asks for the old bytes
    unfold reconcileUnstartedSystemdPortRequest
    refine Resumes.step .checkpoint rfl ?_
    have hmismatch : (s1.config.sha256 != plan.expectedConfigSHA256) = true := by
      rw [hdigest, bne_iff_ne]
      exact hne.symm
    simp only [portNext, hmismatch, Bool.or_true, Bool.true_or, if_true]
    exact Resumes.ret ⟨rfl, _, rfl⟩
  | some a =>
    obtain ⟨⟨hrecord, hloadable⟩, -, -, hrecordDigest⟩ := effectiveTarget_record heff hmatch
    obtain ⟨overlay, hoverlay, -⟩ := Option.map_eq_some_iff.1 heff
    refine Resumes.seq (Q := fun r s' => s' = s ∧ r = none) ?_ ?_
    · unfold resolveSystemdPortAppliedTarget
      refine (Resumes.loadsApplied hsid happlied fun a' ha' => ?_).seq ?_
      · cases ha'
        exact hloadable
      rintro r s1 ⟨hs1, hr⟩
      subst hs1 hr
      simp only [hoverlay]
      refine Resumes.seq (Q := fun ok s' => s' = s1 ∧ ok = false) ?_ ?_
      · unfold verifyAppliedSidecar
        simp only [hrecord, Bool.not_true, Bool.false_eq_true, if_false]
        refine Resumes.step .checkpoint rfl (Resumes.ret ⟨rfl, ?_⟩)
        -- the sidecar's digest is the target's, the record's the expected one
        have hmismatch : (payloadSHA256 E s1.config.bytes == a.configSHA256) = false := by
          rw [hrecordDigest, beq_eq_false_iff_ne, hfile]
          simp only [privateFile, hnew]
          exact hne.symm
        simp only [configIs, hmismatch, Bool.and_false]
      · rintro ok s2 ⟨hs2, hok⟩
        subst hs2 hok
        exact Resumes.ret ⟨rfl, rfl⟩
    · rintro r s1 ⟨hs1, hr⟩
      subst hs1 hr
      exact Resumes.ret ⟨rfl, _, rfl⟩

end Request
end Reconciliation
/-- the files of a paused job mean the same under another lease -/
theorem Paused.lease {plan' : SystemdPortReconfigurePlan} (h : Paused E plan ap s) (hplan : LegacyPlan E plan)
    (hsame : sameSystemdPortIntent plan plan' = true) : Paused E plan' ap s := by
  have hjob : ∀ l, JobLedger E plan l → JobLedger E plan' l := fun l hl =>
    ⟨sameSystemdPortIntent_trans hplan.legacy hl.intent hsame, by
      rw [← (sameSystemdPortIntent_job hsame).1]; exact hl.valid⟩
  obtain ⟨g, d, rfl⟩ : ∃ g d, plan' = { plan with leaseGeneration := g, portPlanSHA256 := d } :=
    ⟨_, _, sameSystemdPortIntent_lease hplan.legacy hsame⟩
  rcases h with h | h
  · exact .inl ⟨h.pointer, fun l hl => ⟨hjob l (h.own l hl).1, (h.own l hl).2⟩, h.applied⟩
  · obtain ⟨l, k, hl, hown, hrest⟩ := h.own
    exact .inr ⟨h.pointer, l, k, hl, hjob l hown, hrest⟩

/-- a job that is not converged stays so when nothing changes -/
theorem Paused.not_closed {x : PortResponse} (h : Paused E plan ap s) : ¬ Converged plan x s := by
  rintro ⟨k, -, -, l, hl, hterminal, -⟩
  rcases h with h | h
  · exact (h.own l hl).2.2 hterminal
  · obtain ⟨l', k', hl', -, hstate, -⟩ := h.own
    rw [hl] at hl'
    cases hl'
    rw [hterminal] at hstate
    cases hstate

/-- an execution of a systemd request -/
abbrev SystemdExec :=
  Exec SystemdWorld (PortRes (β := SystemdBaseline) (A := SystemdPortAppliedState)) PortResponse

/-- what decides the outcome of each operation from the steps so far and the state -/
abbrev SystemdStrategy :=
  List (PortStep SystemdBaseline SystemdPortAppliedState) → SystemdWorld →
    PortOp SystemdBaseline SystemdPortAppliedState → PortChoice

/-- the request run to its end against a strategy -/
def resumedRun (E : PortEnv) (policy : LocalExecutorPolicy) (request : LocalExecutorRequest)
    (choose : SystemdStrategy) (s : SystemdWorld) : SystemdExec :=
  (executeSystemdPortRequest E policy request).exec (portNext E) s
    ((executeSystemdPortRequest E policy request).script (portNext E) choose [] s)

/-- **Reconcile after an interruption.** A forward request on a target with or without an applied record is cut anywhere,
the sidecar then holds the old or the new bytes, and the service verifies under whatever it holds. A reconcile request of
the same job in the favourable environment closes the ledger with an accepted result if and only if the job is
resumable: with an applied record and the new bytes in place it is refused unless its result was already saved. -/
theorem interrupted_reconcile_converges_iff (E : PortEnv) (policy : LocalExecutorPolicy)
    {plan plan' : SystemdPortReconfigurePlan} {forward reconcile : LocalExecutorRequest}
    {policyTarget target : LocalExecutorTarget} {adapter : SystemdPortAdapter}
    (hplan : LegacyPlan E plan) (hforward : forward.portPlan = some plan) (hfop : forward.operation = .portReconfigure)
    (hreconcile : reconcile.portPlan = some plan') (hrop : reconcile.operation = .portReconfigureReconcile)
    (hsame : sameSystemdPortIntent plan plan' = true)
    (hbind : validateSystemdPortPolicyBinding E policy reconcile plan' = some (policyTarget, adapter))
    (s₀ : SystemdWorld) (h₀ : Unfinished E plan (s₀.applied plan.targetID) s₀)
    (heff : effectiveTarget E policy policyTarget (s₀.applied plan.targetID) = some target)
    (hmatch : systemdPortTargetMatchesExpected target plan = true) (cs : List PortChoice)
    (hcut : ((executeSystemdPortRequest E policy forward).exec (portNext E) s₀ cs).out = none)
    {s : SystemdWorld} (hs : s = ((executeSystemdPortRequest E policy forward).exec (portNext E) s₀ cs).st.restart)
    (hside : HoldsOld E policyTarget plan s ∨ HoldsNew E policyTarget plan s)
    {choose : SystemdStrategy} (hchoose : ∀ tr s o, Favourable s o (choose tr s o)) :
    (∃ x, (resumedRun E policy reconcile choose s).out = some x ∧
      Converged plan' x (resumedRun E policy reconcile choose s).st) ↔ Resumable E policyTarget plan s := by
  have hpaused : Paused E plan (s₀.applied plan.targetID) s := by
    rw [hs]
    have h := (Prog.within_exec (forward_paused h₀ hplan hforward hfop policy []) cs).1 hcut
    exact h.imp (fun h => h.congr rfl rfl rfl) fun h => h.congr rfl rfl rfl
  have hpaused' := hpaused.lease hplan hsame
  obtain ⟨g, d, rfl⟩ : ∃ g d, plan' = { plan with leaseGeneration := g, portPlanSHA256 := d } :=
    ⟨_, _, sameSystemdPortIntent_lease hplan.legacy hsame⟩
  have hplan' : LegacyPlan E { plan with leaseGeneration := g, portPlanSHA256 := d } :=
    ⟨hplan.legacy, (policyBinding_facts hbind).1, hplan.mode, hplan.revision⟩
  -- the two sides of the sidecar and the condition itself do not depend on the lease
  have hside' : HoldsOld E policyTarget { plan with leaseGeneration := g, portPlanSHA256 := d } s ∨
      HoldsNew E policyTarget { plan with leaseGeneration := g, portPlanSHA256 := d } s :=
    hside.imp (fun h => ⟨h.file, h.valid, h.expected, h.saved⟩) id
  have hresume : Resumable E policyTarget { plan with leaseGeneration := g, portPlanSHA256 := d } s ↔
      Resumable E policyTarget plan s :=
    or_congr ⟨fun h => ⟨h.file, h.valid, h.expected, h.saved⟩, fun h => ⟨h.file, h.valid, h.expected, h.saved⟩⟩ Iff.rfl
  rw [← hresume]
  constructor
  · rintro ⟨x, hx, hconverged⟩
    by_contra hstuck
    obtain ⟨x', -, hst, -⟩ := Prog.within_script
      (Resumes.refuses hplan' hreconcile hrop hbind heff hmatch hside' hpaused' hstuck []) hchoose
    exact hpaused'.not_closed (hst ▸ hconverged)
  · intro h
    exact Prog.within_script (Resumes.executes hplan' hreconcile hrop hbind heff hmatch hside' hpaused' h []) hchoose

namespace Sample

/-- the reconcile request of the legacy job -/
def legacyReconcile : LocalExecutorRequest := legacyRequest .portReconfigureReconcile (legacyPlan "job-1")

/-- the outcomes of the forward request up to the saved restart, with `n` reads before the service is first verified -/
def restartedScript (n : ℕ) : List PortChoice :=
  List.replicate n .ok ++ .version "v1.0.0" :: List.replicate 16 .ok

/-- the forward request, cut there -/
def legacyCut (s : SystemdWorld) (n : ℕ) : SystemdExec :=
  (executeSystemdPortRequest env (Sample.policy 1) legacyForward.2).exec (portNext env) s (restartedScript n)

/-- the policy's own target -/
def legacyTarget : LocalExecutorTarget :=
  ⟨"svc-1", "worker", "systemd", "", 1, 1, digest 1, ⟨"127.0.0.1", 8001⟩, some { unit := "autostream-worker.service" },
    none⟩

/-- the applied record of an earlier job that left the target at port 8001 -/
def earlier : SystemdPortAppliedState := ⟨1, "svc-1", "worker", 8001, 1, 1, digest 1, 1, 1, 1, digest 1, 1⟩

/-- the target with that record -/
def recordedWorld : SystemdWorld :=
  { jobs := fun _ _ => none, active := fun _ => none, applied := fun t => if t = "svc-1" then some earlier else none,
    policyDisk := [1], policyMemory := [1], config := privateFile env [1] }

/-- everything succeeds -/
def smooth : SystemdStrategy
  | _, _, .verifyRuntime _ _ => .version "v1.0.0"
  | _, _, _ => .ok

theorem smooth_favourable (tr : List (PortStep SystemdBaseline SystemdPortAppliedState)) (s : SystemdWorld)
    (o : PortOp SystemdBaseline SystemdPortAppliedState) : Favourable s o (smooth tr s o) := by
  cases o with
  | verifyRuntime p t => exact fun _ => ⟨"v1.0.0", rfl, by decide⟩
  | _ => rfl

/-- the reconcile request after the crash, in the favourable environment -/
abbrev resumed (s : SystemdWorld) : SystemdExec := resumedRun env (Sample.policy 1) legacyReconcile smooth s

/-- without an applied record the new sidecar is in place after the crash and the ledger saved -/
theorem legacyCut_world :
    (legacyCut world 4).out = none ∧
      (legacyCut world 4).st.restart.config = privateFile env (newSidecar env legacyTarget (legacyPlan "job-1")) ∧
      (legacyCut world 4).st.restart.applied (legacyPlan "job-1").targetID = none ∧
      ((legacyCut world 4).st.restart.jobs (legacyPlan "job-1").targetID (legacyPlan "job-1").jobID).isSome := by
  decide +kernel

/-- the plan of the sample fits its policy and its target -/
theorem legacyPlan_fits :
    (legacyPlan "job-1").validate env.toContracts = true ∧
      validateSystemdPortPolicyBinding env (Sample.policy 1) legacyReconcile (legacyPlan "job-1") =
        some (legacyTarget, ⟨"autostream-worker.service", "/opt/autostream/local-executor/ports/worker.json", "worker"⟩) ∧
      sameSystemdPortIntent (legacyPlan "job-1") (legacyPlan "job-1") = true ∧
      systemdPortTargetMatchesExpected legacyTarget (legacyPlan "job-1") = true := by
  decide +kernel

theorem legacyPlan_legacy : LegacyPlan env (legacyPlan "job-1") :=
  ⟨by decide, legacyPlan_fits.1, by decide, by decide⟩

end Sample

theorem interrupted_sample_converges :
    ∃ x, (Sample.resumed (Sample.legacyCut Sample.world 4).st.restart).out = some x ∧
      Converged (Sample.legacyPlan "job-1") x (Sample.resumed (Sample.legacyCut Sample.world 4).st.restart).st := by
  have h₀ : Unfinished Sample.env (Sample.legacyPlan "job-1") none Sample.world :=
    ⟨by simp [Pointed, Sample.world], by simp [Sample.world], rfl⟩
  obtain ⟨-, hbind, hsame, hmatch⟩ := Sample.legacyPlan_fits
  have hforward : Sample.legacyForward.2.portPlan = some (Sample.legacyPlan "job-1") := rfl
  have hfop : Sample.legacyForward.2.operation = .portReconfigure := rfl
  have hreconcile : Sample.legacyReconcile.portPlan = some (Sample.legacyPlan "job-1") := rfl
  have hrop : Sample.legacyReconcile.operation = .portReconfigureReconcile := rfl
  have heff : effectiveTarget Sample.env (Sample.policy 1) Sample.legacyTarget none = some Sample.legacyTarget := rfl
  obtain ⟨hcut, hnew, hresumable⟩ := Sample.legacyCut_world
  -- from here on the crashed world is only what these facts say
  generalize hs : (Sample.legacyCut Sample.world 4).st.restart = s at hnew hresumable ⊢
  exact (interrupted_reconcile_converges_iff Sample.env (Sample.policy 1) Sample.legacyPlan_legacy hforward hfop
    hreconcile hrop hsame hbind Sample.world h₀ heff hmatch (Sample.restartedScript 4) hcut hs.symm (.inr hnew)
    Sample.smooth_favourable).2 (.inr (.inr hresumable))

/-- **The record blocks the reconcile.** The same request on a target that an earlier job left with an applied record: the
new sidecar is in place and the new service verifies, but the reconcile is refused before it looks at its ledger. -/
theorem applied_record_blocks_reconcile :
    (Sample.legacyCut Sample.recordedWorld 5).out = none ∧
      (Sample.legacyCut Sample.recordedWorld 5).st.config =
        privateFile Sample.env (newSidecar Sample.env Sample.legacyTarget (Sample.legacyPlan "job-1")) ∧
      (Sample.resumed (Sample.legacyCut Sample.recordedWorld 5).st.restart).out = some (.failure .configMismatch) ∧
      ((Sample.resumed (Sample.legacyCut Sample.recordedWorld 5).st.restart).st.jobs "svc-1" "job-1").map (·.state) =
        some .restarted := by
  decide +kernel

end AutostreamUpdater.Port
