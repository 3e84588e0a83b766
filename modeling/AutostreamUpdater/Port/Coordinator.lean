/-
Every program of the version 2 coordinator is a sound session.

`Working` is what the coordinator knows of the ledger it holds in memory: it belongs to the plan's job, its saved payloads
are the validated ones of the plan, and it is at least as latched as the durable one. Each lemma below takes one program
from a sound session with a working ledger to a sound session and an `Answer`: a result on a latched ledger is
`rolled_back` or `rollback_failed`, and an accepted result is durable, terminal and recorded as applied.
`session_rules` hands the steps to the pass over the coordinator, and `executePortV2_wp` puts all together.
-/
import AutostreamUpdater.Port.Pass

namespace AutostreamUpdater.Port

open Contract Base Prog

variable {β A : Type} {E : PortEnv} {request : LocalExecutorRequest} {plan : SystemdPortReconfigurePlan}
  {s₀ s : PortWorld β A} {tr : PortTrace β A} {l : PortLedger β}
  {app : PortLedger β → SystemdPortReconfigureResult → Option A}

/-! ## The ledger in memory -/

/-- the ledger the coordinator works on while `s` is durable -/
structure Working (E : PortEnv) (plan : SystemdPortReconfigurePlan) (s₀ s : PortWorld β A) (l : PortLedger β) :
    Prop where
  target : l.plan.targetID = plan.targetID
  job : l.plan.jobID = plan.jobID
  version : l.plan.portContractVersion = 2
  planVersion : plan.portContractVersion = 2
  snapshots : ∀ k, portV2ResultSnapshot l.plan k = portV2ResultSnapshot plan k
  transition : ∃ t, l.policyTransition = some t ∧ t.candidates.validate E plan = true
  latch : latched (ledgerOf plan s) = true → l.rollbackIsLatched = true
  result : l.result = none
  isOpen : closed (ledgerOf plan s₀) = false
  holds : HoldsTarget plan s₀ s

variable {tr' : PortTrace β A}

namespace Working

theorem unchanged (h : Working E plan s₀ s l) {s' : PortWorld β A} (hu : Unchanged tr s tr' s') :
    Working E plan s₀ s' l :=
  ⟨h.target, h.job, h.version, h.planVersion, h.snapshots, h.transition, by rw [hu.ledger]; exact h.latch, h.result,
    h.isOpen, hu.holds h.holds⟩

theorem withState (h : Working E plan s₀ s l) (st : LedgerState) : Working E plan s₀ s { l with state := st } :=
  ⟨h.target, h.job, h.version, h.planVersion, h.snapshots, h.transition, h.latch, h.result, h.isOpen, h.holds⟩

theorem clearResult (h : Working E plan s₀ s l) : Working E plan s₀ s { l with result := none } :=
  ⟨h.target, h.job, h.version, h.planVersion, h.snapshots, h.transition, h.latch, rfl, h.isOpen, h.holds⟩

theorem withPlan (h : Working E plan s₀ s l) : Working E plan s₀ s { l with plan := plan } :=
  ⟨rfl, rfl, h.planVersion, h.planVersion, fun _ => rfl, h.transition, h.latch, h.result, h.isOpen, h.holds⟩

theorem withTransition (h : Working E plan s₀ s l) (f : PortPolicyTransition → PortPolicyTransition)
    (hc : ∀ t, (f t).candidates = t.candidates) (hl : ∀ t, t.rollbackLatched = true → (f t).rollbackLatched = true) :
    Working E plan s₀ s (l.withTransition f) := by
  obtain ⟨t, ht, hv⟩ := h.transition
  refine ⟨h.target, h.job, h.version, h.planVersion, h.snapshots,
    ⟨f t, by simp [PortLedger.withTransition, ht], by rw [hc]; exact hv⟩, ?_, h.result, h.isOpen, h.holds⟩
  intro hs
  have := h.latch hs
  simp_all [PortLedger.rollbackIsLatched, PortLedger.withTransition]

/-- a working ledger that is not startable may be saved -/
theorem savable (h : Working E plan s₀ s l) (hf : l.startable = false) : Savable plan s₀ s l :=
  ⟨h.target, h.job, fun _ => hf, h.latch, fun _ _ r hr => by simp [h.result] at hr, h.isOpen, h.version,
    fun r hr => by simp [h.result] at hr, fun _ => h.holds⟩

theorem written (h : Working E plan s₀ s l) {D : PortV2Driver β A} {ok : Bool} {s' : PortWorld β A} {l' : PortLedger β}
    (hs : Saved D plan l' ok tr s tr' s') (hl : l'.rollbackIsLatched = true → l.rollbackIsLatched = true) :
    Working E plan s₀ s' l := by
  refine ⟨h.target, h.job, h.version, h.planVersion, h.snapshots, h.transition, ?_, h.result, h.isOpen, ?_⟩
  · rcases hs.ledger with heq | ⟨-, heq⟩
    · rw [heq]
      exact hl
    · rw [heq]
      exact h.latch
  · intro h0 hclaim
    rcases hs.pointer with heq | heq
    · rw [heq]
      exact h.holds h0 hclaim
    · exact heq

end Working

theorem startable_withState (l : PortLedger β) {st : LedgerState} (h : st ≠ .staged) :
    { l with state := st }.startable = false := by
  simp [PortLedger.startable, h]

theorem Paid.saved {D : PortV2Driver β A} {ok : Bool} {s' : PortWorld β A} (h : Paid request plan s₀ tr s)
    (hs : Saved D plan l ok tr s tr' s') (hf : l.startable = false) : Paid request plan s₀ tr' s' := by
  obtain ⟨hop, ⟨c, hc, hg⟩, h0, h1⟩ := h
  refine ⟨hop, ⟨c, hs.steps.subset hc, hg⟩, h0, ?_⟩
  rcases hs.ledger with heq | ⟨-, heq⟩
  · rw [heq]
    simp [spent, hf]
  · rw [heq]
    exact h1

/-! ## A session at work -/

/-- a sound session at work on `l`, which has paid for `T` if `paid` says so -/
structure AtWork (D : PortV2Driver β A) (E : PortEnv) (request : LocalExecutorRequest) (plan : SystemdPortReconfigurePlan)
    (s₀ : PortWorld β A) (paid : Prop) (l : PortLedger β) (tr : PortTrace β A) (s : PortWorld β A) : Prop where
  sound : Sound D.appliedFor E request plan s₀ tr s
  working : Working E plan s₀ s l
  pays : paid → Paid request plan s₀ tr s

namespace AtWork

variable {D : PortV2Driver β A} {paid : Prop} {α γ : Type} {p : PortProg β A α} {f : α → PortProg β A γ}
  {R : γ → PortTrace β A → PortWorld β A → Prop}

variable (w : AtWork D E request plan s₀ paid l tr s)

include w

theorem unchanged {s' : PortWorld β A} (h : Sound D.appliedFor E request plan s₀ tr' s') (hu : Unchanged tr s tr' s') :
    AtWork D E request plan s₀ paid l tr' s' :=
  ⟨h, w.working.unchanged hu, fun hp => (w.pays hp).unchanged hu⟩

/-- the ledger in memory may change -/
theorem on {l' : PortLedger β} (hw : Working E plan s₀ s l') :
    AtWork D E request plan s₀ paid l' tr s := ⟨w.sound, hw, w.pays⟩

/-- a program that only reads -/
theorem quietly {Q : α → Prop} (hp : Quietly p Q)
    (hf : ∀ a tr' s', AtWork D E request plan s₀ paid l tr' s' →
      (f a).wp (portNext E) (Sound D.appliedFor E request plan s₀) R tr' s') :
    (p >>= f).wp (portNext E) (Sound D.appliedFor E request plan s₀) R tr s :=
  quiet_seq hp w.sound fun a tr' s' h hu _ => hf a tr' s' (w.unchanged h hu)

/-- **Saving a working ledger.** -/
theorem saves (hD : D.Lawful E) (hf : l.startable = false) :
    (portV2Save D l false).wp (portNext E) (Sound D.appliedFor E request plan s₀)
      (fun ok tr' s' => AtWork D E request plan s₀ paid l tr' s' ∧ (ok = true → ledgerOf plan s' = some l)) tr s := by
  refine wp_post (portV2Save_wp hD false w.sound (w.working.savable hf)) fun ok tr' s' h hx => ?_
  obtain ⟨hs, -⟩ := hx
  refine ⟨⟨h, w.working.written hs id, fun hp => (w.pays hp).saved hs hf⟩, fun hok => ?_⟩
  rcases hs.ledger with heq | ⟨hno, -⟩
  · exact heq
  · simp [hok] at hno

end AtWork

/-! ## The policy file -/

variable {r : PortSnapshotRef}

section Policy

/-- among validated payloads, the first one saved for `ref` is a policy of `ref` -/
theorem portV2PolicyBytes_of_candidates {t : PortPolicyTransition} (ht : l.policyTransition = some t)
    (hv : t.candidates.validate E plan = true)
    (hsnap : ∀ k, portV2ResultSnapshot l.plan k = portV2ResultSnapshot plan k) {ref : PortSnapshotRef} {k : PortResultKind}
    (hk : portV2ResultSnapshot plan k = some ref) :
    candidateMatches E plan (portV2PolicyBytes l ref) (some ref) = true := by
  simp only [PortPolicyCandidates.validate, Bool.and_eq_true, PortPolicyTransition.candidates] at hv
  obtain ⟨⟨⟨⟨hb, ht'⟩, hr⟩, -⟩, -⟩ := hv
  have hsb := hsnap .unchanged
  have hst := hsnap .applied
  have hsr := hsnap .rolledBack
  simp only [portV2ResultSnapshot] at hsb hst hsr
  simp only [portV2PolicyBytes, ht, beq_iff_eq]
  split
  · next h => rw [← h, hsb]; exact hb
  split
  · next h => rw [← h, hst]; exact ht'
  split
  · next h => rw [← h, hsr]; exact hr
  · cases k <;> simp_all [portV2ResultSnapshot]

/-- the first saved payload of `ref` is a policy of `ref` -/
theorem portV2PolicyBytes_matches (hw : Working E plan s₀ s l) {ref : PortSnapshotRef} {k : PortResultKind}
    (hk : portV2ResultSnapshot plan k = some ref) :
    candidateMatches E plan (portV2PolicyBytes l ref) (some ref) = true := by
  obtain ⟨t, ht, hv⟩ := hw.transition
  exact portV2PolicyBytes_of_candidates ht hv hw.snapshots hk

/-- the payload saved for `R` is no write of `T` -/
theorem Working.rollback_noTarget (hw : Working E plan s₀ s l) (hr : plan.rollback = some r) :
    targetWrite (β := β) (A := A) E plan (.writePolicy (portV2PolicyBytes l r)) = false := by
  simp [targetWrite, hr, portV2PolicyBytes_matches hw (k := .rolledBack) hr]

theorem policyWrite_only (allowed : PortPolicyCandidates) (payload : Bytes) :
    (policyWrite E allowed payload : PortProg β A Bool).Only (fun o => o.quiet = true ∨ o = .writePolicy payload)
      fun _ => True := by
  unfold policyWrite
  refine only_op_bind (Or.inl rfl) fun r => ?_
  rcases r with _ | ⟨disk, memory⟩
  · trivial
  dsimp only
  split
  · trivial
  split
  · trivial
  split
  · trivial
  · exact ⟨Or.inr rfl, fun _ => trivial⟩

theorem policyReload_only (payload : Bytes) :
    (policyReload payload : PortProg β A Bool).Only (fun o => o.quiet = true ∨ o = .loadPolicy payload)
      fun _ => True := by
  unfold policyReload
  refine only_op_bind (Or.inl rfl) fun r => ?_
  rcases r with _ | ⟨disk, memory⟩
  · trivial
  dsimp only
  split
  · trivial
  · exact ⟨Or.inr rfl, fun _ => trivial⟩

theorem targetWrite_of_quiet {o : PortOp β A} (h : o.quiet = true) : targetWrite E plan o = false := by
  cases o <;> simp_all [PortOp.quiet, targetWrite]

theorem policyWrite_wp (allowed : PortPolicyCandidates) {payload : Bytes} (h : Sound app E request plan s₀ tr s)
    (hp : targetWrite (β := β) (A := A) E plan (.writePolicy payload) = true → Paid request plan s₀ tr s) :
    (policyWrite E allowed payload).wp (portNext E) (Sound app E request plan s₀)
      (fun _ tr' s' => Unchanged tr s tr' s') tr s := by
  refine wp_post (steady_wp (only_mono (policyWrite_only allowed payload) ?_ fun _ h => h) h)
    fun _ _ _ _ h => h.1
  rintro o (ho | rfl)
  · exact ⟨PortOp.quiet_steady ho, by simp [targetWrite_of_quiet ho]⟩
  · exact ⟨rfl, hp⟩

theorem policyReload_wp (payload : Bytes) (h : Sound app E request plan s₀ tr s) :
    (policyReload payload).wp (portNext E) (Sound app E request plan s₀) (fun _ tr' s' => Unchanged tr s tr' s') tr s := by
  refine wp_post (steady_wp (only_mono (policyReload_only payload) ?_ fun _ h => h) h) fun _ _ _ _ h => h.1
  rintro o (ho | rfl)
  · exact ⟨PortOp.quiet_steady ho, by simp [targetWrite_of_quiet ho]⟩
  · exact ⟨rfl, by simp [targetWrite]⟩

theorem driverWrite_wp {D : PortV2Driver β A} (hD : D.Lawful E) (policy : LocalExecutorPolicy) {ref : PortSnapshotRef}
    (h : Sound app E request plan s₀ tr s) (hp : plan.rollback = some ref ∨ Paid request plan s₀ tr s) :
    (D.write l policy ref).wp (portNext E) (Sound app E request plan s₀) (fun _ tr' s' => Unchanged tr s tr' s') tr s := by
  refine wp_post (steady_wp (only_mono (hD.write l policy ref) ?_ fun _ h => h) h) fun _ _ _ _ h => h.1
  rintro o (ho | ⟨_, payload, rfl, hm⟩)
  · exact ⟨PortOp.quiet_steady ho, by simp [targetWrite_of_quiet ho]⟩
  · refine ⟨rfl, fun ht => ?_⟩
    rcases hp with hr | hp
    · simp [targetWrite, hr, hm] at ht
    · exact hp

end Policy

/-! ## Answers -/

section Answers

/-- what a returned result says about the durable state -/
structure Answer (app : PortLedger β → SystemdPortReconfigureResult → Option A)
    (plan : SystemdPortReconfigurePlan) (s₀ : PortWorld β A) (response : PortResponse) (s : PortWorld β A) : Prop where
  latched : Settled (ledgerOf plan s₀) → ∀ i h r, response = .result i h r → latched (ledgerOf plan s) = true →
    r.result = .rolledBack ∨ r.result = .rollbackFailed
  accepted : ∀ i h r, response = .result i h r → r.result ≠ .rollbackFailed →
    Recorded app plan s r ∨ ∃ l, ledgerOf plan s₀ = some l ∧ Concluded l r

theorem Answer.failure (code : PortFailure) : Answer app plan s₀ (.failure code) s := ⟨by simp, by simp⟩

theorem Answer.ofResult {r : SystemdPortReconfigureResult}
    (hl : Settled (ledgerOf plan s₀) → Port.latched (ledgerOf plan s) = true →
      r.result = .rolledBack ∨ r.result = .rollbackFailed)
    (ha : r.result ≠ .rollbackFailed → Recorded app plan s r ∨ ∃ l, ledgerOf plan s₀ = some l ∧ Concluded l r) :
    Answer app plan s₀ (localExecutorPortResponse plan r) s := by
  unfold localExecutorPortResponse
  split
  · exact ⟨by rintro h0 i h r' hr; cases hr; exact hl h0, by rintro i h r' hr; cases hr; exact ha⟩
  · exact Answer.failure _

/-- every execution of the program is a sound session and ends in an answer -/
abbrev Answers (E : PortEnv) (request : LocalExecutorRequest) (plan : SystemdPortReconfigurePlan) (s₀ : PortWorld β A)
    (D : PortV2Driver β A) (p : PortProg β A PortResponse) (tr : PortTrace β A) (s : PortWorld β A) : Prop :=
  p.wp (portNext E) (Sound D.appliedFor E request plan s₀) (fun x _ s' => Answer D.appliedFor plan s₀ x s') tr s

/-- the session of one request -/
def session (D : PortV2Driver β A) (E : PortEnv) (request : LocalExecutorRequest) (plan : SystemdPortReconfigurePlan)
    (s₀ : PortWorld β A) : Pass β A where
  live _ := False
  sound := Sound D.appliedFor E request plan s₀
  holds := AtWork D E request plan s₀
  answer := Answer D.appliedFor plan s₀
  unspent := spent (ledgerOf plan s₀) = false
  known := (ledgerOf plan s₀).isSome = true

end Answers

/-! ## The programs -/

section Programs

variable {D : PortV2Driver β A} (hD : D.Lawful E)

include hD

variable {paid : Prop}

/-- **Finishing.** The result is saved, the applied record follows, the ledger is closed, and only then is it returned. -/
theorem finishPortV2_wp (w : AtWork D E request plan s₀ paid l tr s) (kind : PortResultKind) :
    Answers E request plan s₀ D (finishPortV2 E D l plan kind) tr s := by
  unfold finishPortV2
  cases hk : portV2ResultSnapshot plan kind with
  | none => exact ⟨w.sound, Answer.failure _⟩
  | some ref =>
  dsimp only
  refine wp_ite (fun _ => ⟨w.sound, Answer.failure _⟩) fun hguard => ?_
  have hkind : l.rollbackIsLatched = true → kind = .rolledBack := by
    intro hl
    simp only [hl, Bool.true_and, Bool.or_eq_true, not_or] at hguard
    simpa using hguard.2
  refine w.quietly (verifyPortV2_quiet hD l ref) fun inst tr s w => ?_
  rcases inst with _ | inst
  · exact ⟨w.sound, Answer.failure _⟩
  dsimp only
  refine w.quietly (quiet_op rfl) fun t tr s w => ?_
  refine wp_ite (fun _ => ⟨w.sound, Answer.failure _⟩) fun _ => ?_
  have hw := w.working
  simp only [hw.result, Option.getD_none]
  set cleared := l.withTransition fun t => { t with recoveryRequired := false, lastRecoveryObservation := none }
  set fresh := portV2Result plan kind ref inst t
  have hlat : cleared.rollbackIsLatched = l.rollbackIsLatched := by
    cases hpt : l.policyTransition <;> simp [cleared, PortLedger.rollbackIsLatched, PortLedger.withTransition, hpt]
  have hnamed : (portV2ResultSnapshot l.plan kind).isSome = true := by rw [hw.snapshots, hk]; rfl
  have hsav : ∀ {s'} st, st ≠ .staged → Working E plan s₀ s' l →
      Savable plan s₀ s' { cleared with result := some fresh, state := st } := fun st hst hw =>
    ⟨hw.target, hw.job, fun _ => startable_withState { cleared with result := some fresh } hst,
      fun hl => hlat.trans (hw.latch hl),
      fun _ hl r hr => by cases hr; exact hkind (hlat ▸ hl), hw.isOpen, hw.version, fun r hr => by cases hr; exact hnamed,
      fun _ => hw.holds⟩
  refine wp_seq (portV2Save_wp hD false w.sound (hsav .committing (by decide) hw)) fun ok tr1 s1 h₁ hpost => ?_
  obtain ⟨hs1, -⟩ := hpost
  have hw1 : Working E plan s₀ s1 l := hw.written hs1 fun hl => hlat ▸ hl
  refine wp_ite (fun _ => ⟨h₁, Answer.failure _⟩) fun _ => ?_
  refine quiet_seq (quiet_op rfl) h₁ fun ok tr2 s2 h2 hu2 _ => ?_
  refine wp_ite (fun _ => ⟨h2, Answer.failure _⟩) fun _ => ?_
  refine wp_seq (portV2Save_wp hD false h2 (hsav .terminal (by decide) (hw1.unchanged hu2)))
    fun ok tr3 s3 h3 hpost => ?_
  obtain ⟨hs3, -⟩ := hpost
  refine wp_ite (fun _ => ⟨h3, Answer.failure _⟩) fun hok => ?_
  have hok : ok = true := by simpa using hok
  have hled : ledgerOf plan s3 = some { cleared with result := some fresh, state := .terminal } := by
    rcases hs3.ledger with heq | ⟨hno, -⟩
    · exact heq
    · simp [hok] at hno
  refine ⟨h3, Answer.ofResult ?_ ?_⟩
  · intro _ hl
    rw [hled] at hl
    exact Or.inl (hkind (hlat ▸ hl))
  · intro _
    obtain ⟨a, ha, happ⟩ := hs3.applied hok fresh rfl
    exact Or.inl ⟨_, a, hled, ⟨rfl, rfl, hw.version, hnamed⟩, ha, happ⟩

theorem failPortV2Recovery_wp (w : AtWork D E request plan s₀ paid l tr s) :
    Answers E request plan s₀ D (failPortV2Recovery D l plan) tr s := by
  unfold failPortV2Recovery
  refine w.quietly (quiet_op rfl) fun t tr s w => ?_
  have hst : LedgerState.rollbackLatched ≠ .staged := by decide
  have hw := ((w.working.withTransition (fun s => { s with
    recoveryRequired := true, lastRecoveryObservation := some (portV2RecoveryFailed plan t) }) (fun _ => rfl)
    fun _ h => h).withState .rollbackLatched).clearResult
  refine wp_seq ((w.on hw).saves hD (startable_withState _ hst)) fun ok tr s h _ => ?_
  refine wp_ite (fun _ => ⟨h, Answer.failure _⟩) fun _ => ?_
  exact ⟨h, Answer.ofResult (fun _ _ => Or.inr rfl) fun hne => absurd rfl hne⟩

theorem deferRecovery_wp (w : AtWork D E request plan s₀ paid l tr s) :
    Answers E request plan s₀ D (deferRecovery D l) tr s := by
  unfold deferRecovery
  have hw := w.working.withTransition (fun t => { t with recoveryRequired := true }) (fun _ => rfl) fun _ h => h
  have hf : (l.withTransition fun t => { t with recoveryRequired := true }).startable = false := by
    obtain ⟨t, ht, -⟩ := w.working.transition
    simp [PortLedger.startable, PortLedger.needsRecovery, PortLedger.withTransition, ht]
  exact wp_seq ((w.on hw).saves hD hf) fun ok tr s h _ => ⟨h, Answer.failure _⟩

/-- **The steps of a session.** Every write of `T` is paid for, and saves never reopen the job. -/
theorem session_rules (hplan : request.portPlan = some plan) (hr : plan.rollback = some r) :
    (session D E request plan s₀).Rules E D request plan r where
  lawful := hD
  earlier _ _ := id
  refuses _ _ := Answer.failure _
  sound w := AtWork.sound w
  transition w := by
    obtain ⟨t, ht, -⟩ := (AtWork.working w).transition
    simp [ht]
  replans w := AtWork.on w (AtWork.working w).withPlan
  doubts w := AtWork.on w ((AtWork.working w).withState .ambiguous)
  consumes w := AtWork.on w ((AtWork.working w).withTransition _ (fun _ => rfl) fun _ h => h)
  latches w := AtWork.on w ((AtWork.working w).withTransition _ (fun _ => rfl) fun _ _ => rfl)
  mildly hp w := wp_post (mild_wp hp (AtWork.sound w)) fun _ _ _ h hu => ⟨AtWork.unchanged w h hu.1, hu.1.ledger⟩
  saves st hst w := by
    have hne : st ≠ .staged := by simpa using (Bool.and_eq_true_iff.1 hst).2
    exact ⟨(AtWork.on w ((AtWork.working w).withState st)).saves hD (startable_withState _ hne), fun _ => False.elim⟩
  writesPolicy := by
    intro paid l tr s ref hp w
    refine wp_post (policyWrite_wp _ (AtWork.sound w) fun ht => ?_) fun _ _ _ h hu => AtWork.unchanged w h hu
    rcases hp with rfl | hp
    · rw [(AtWork.working w).rollback_noTarget hr] at ht
      cases ht
    · exact AtWork.pays w hp
  reloads payload w := wp_post (policyReload_wp payload (AtWork.sound w)) fun _ _ _ h hu => AtWork.unchanged w h hu
  writes := by
    intro paid l tr s ref policy hp w
    have hpaid := hp.imp (fun h : ref = r => h ▸ hr) (AtWork.pays w)
    exact wp_post (driverWrite_wp hD policy (AtWork.sound w) hpaid) fun _ _ _ h hu => AtWork.unchanged w h hu
  pays := by
    intro paid l tr s version hop h0 hst hled w
    refine wp_post (consumeGrant_wp version (AtWork.sound w) hplan rfl rfl (by simp [hop])) fun ok tr' s' h hx => ?_
    obtain ⟨hu, hgrant⟩ := hx
    refine ⟨AtWork.unchanged w h hu, fun hok => ⟨h, (AtWork.working w).unchanged hu, fun _ => ⟨hop, hgrant hok, h0, ?_⟩⟩⟩
    rw [hu.ledger, hled]
    simp [spent, PortLedger.startable, hst]
  redeems version h0 w := wp_post (consumeGrant_wp version (AtWork.sound w) hplan rfl rfl fun _ => h0)
    fun _ _ _ h hx => AtWork.unchanged w h hx.1
  finishes kind w := ⟨finishPortV2_wp hD w kind, fun _ => False.elim⟩
  fails w _ := ⟨failPortV2Recovery_wp hD w, fun _ => False.elim⟩
  defers w := ⟨deferRecovery_wp hD w, fun _ => False.elim⟩

/-- a job that has its result is verified again and closed, never restarted -/
theorem resumePortV2_wp (h : Sound D.appliedFor E request plan s₀ tr s) {result : SystemdPortReconfigureResult}
    (hsame : sameSystemdPortIntent l.plan plan = true) (hv : l.plan.portContractVersion = 2)
    (hl : ledgerOf plan s₀ = some l) (hs : ledgerOf plan s = some l) (hres : l.result = some result) :
    Answers E request plan s₀ D (resumePortV2 E D l plan result) tr s := by
  unfold resumePortV2
  obtain ⟨ht, hj⟩ := sameSystemdPortIntent_job hsame
  have hset : Settled (ledgerOf plan s₀) → l.rollbackIsLatched = true → ∀ r, l.result = some r →
      r.result = .rolledBack := fun h0 => h.settled h0 l hs
  refine wp_ite (fun _ => ⟨h, Answer.failure _⟩) fun _ => ?_
  cases hk : portV2ResultSnapshot plan result.result with
  | none => exact ⟨h, Answer.failure _⟩
  | some ref =>
  have hnamed : (portV2ResultSnapshot l.plan result.result).isSome = true := by
    rw [sameSystemdPortIntent_snapshot hsame, hk]
    rfl
  dsimp only
  refine quiet_seq (verifyPortV2Root_quiet hD l ref) h fun ok tr1 s1 h₁ hu1 _ => ?_
  refine wp_ite (fun _ => ⟨h₁, Answer.failure _⟩) fun _ => ?_
  refine wp_ite (fun hopen => ?_) fun hclosed => ?_
  · have hsav : Savable plan s₀ s1 { l with state := .terminal } :=
      ⟨ht, hj, fun _ => startable_withState l (by decide), by rw [hu1.ledger, hs]; exact id, hset,
        by simpa [closed, hl] using hopen, hv, fun r hr => by simp_all, by simp [PortLedger.underWay]⟩
    refine wp_seq (portV2Save_wp hD false h₁ hsav) fun ok tr2 s2 h2 hpost => ?_
    obtain ⟨hs2, -⟩ := hpost
    refine wp_ite (fun _ => ⟨h2, Answer.failure _⟩) fun hok => ?_
    have hok : ok = true := by simpa using hok
    have hled : ledgerOf plan s2 = some { l with state := .terminal } := by
      rcases hs2.ledger with heq | ⟨hno, -⟩
      · exact heq
      · simp [hok] at hno
    refine ⟨h2, Answer.ofResult (fun h0 hlat => Or.inl (hset h0 ?_ _ hres)) fun _ => ?_⟩
    · rw [hled] at hlat
      exact hlat
    · obtain ⟨a, ha, happ⟩ := hs2.applied hok result hres
      exact Or.inl ⟨_, a, hled, ⟨rfl, hres, hv, hnamed⟩, ha, happ⟩
  · refine ⟨h₁, Answer.ofResult (fun h0 hlat => Or.inl (hset h0 ?_ _ hres)) fun _ => Or.inr ?_⟩
    · rw [hu1.ledger, hs] at hlat
      exact hlat
    · exact ⟨l, hl, by simpa using hclosed, hres, hv, hnamed⟩

theorem stagePortV2_wp (h : Sound D.appliedFor E request plan s₀ tr s) (hnone : ledgerOf plan s₀ = none)
    (hs : ledgerOf plan s = none) (hplan : request.portPlan = some plan) (hv : plan.portContractVersion = 2)
    {b t r : PortSnapshotRef}
    (hr : plan.rollback = some r) (policy : LocalExecutorPolicy) (binding : MutationGrantV2Binding) :
    Answers E request plan s₀ D (stagePortV2 E D policy request plan binding b t r) tr s := by
  unfold stagePortV2
  refine wp_ite (fun _ => ⟨h, Answer.failure _⟩) fun hrec => ?_
  cases hc : buildSystemUpdatePortPolicyCandidates E policy plan with
  | none => exact ⟨h, Answer.failure _⟩
  | some candidates =>
  dsimp only
  refine quiet_seq (policyVerify_quiet _) h fun ok tr1 s1 h₁ hu1 _ => ?_
  refine wp_ite (fun _ => ⟨h₁, Answer.failure _⟩) fun _ => ?_
  refine quiet_seq (hD.prepare policy plan candidates) h₁ fun staged tr2 s2 h2 hu2 hst => ?_
  rcases staged with _ | l
  · exact ⟨h2, Answer.failure _⟩
  dsimp only
  obtain ⟨hlp, hls, hlr, tt, htt, htc, htl⟩ := hst l rfl
  have hs2 : ledgerOf plan s2 = none := by rw [hu2.ledger, hu1.ledger, hs]
  have hnl : l.rollbackIsLatched = false := by simp [PortLedger.rollbackIsLatched, htt, htl]
  have hsav : Savable plan s₀ s2 l :=
    ⟨by rw [hlp], by rw [hlp], by simp [hs2, spent], by simp [hs2, latched], by simp [hnl],
      by simp [hnone, closed], by rw [hlp, hv], by simp [hlr], by simp [PortLedger.underWay, hls]⟩
  refine wp_seq (portV2Save_wp hD true h2 hsav) fun ok tr3 s3 h3 hpost => ?_
  obtain ⟨hs3, hptr⟩ := hpost
  refine wp_ite (fun _ => ⟨h3, Answer.failure _⟩) fun hok => ?_
  have hw : Working E plan s₀ s3 l := by
    refine ⟨by rw [hlp], by rw [hlp], by rw [hlp, hv], hv, by simp [hlp], ⟨tt, htt, ?_⟩, ?_, hlr, hsav.isOpen,
      fun _ _ => hptr rfl (by simpa using hok)⟩
    · rw [htc]
      exact buildSystemUpdatePortPolicyCandidates_valid E hc
    · rcases hs3.ledger with heq | ⟨-, heq⟩
      · rw [heq]
        exact id
      · simp [heq, hs2, latched]
  have w : AtWork D E request plan s₀ False l tr3 s3 := ⟨h3, hw, False.elim⟩
  refine ((session_rules hD hplan hr).advances w (fun _ => by simp [session, hnone, spent]) ?_ binding).1
  -- a reconcile of an unknown job was refused above
  intro hop hbt
  simp [hop, hbt] at hrec

/-- **A request is a sound session.** Whatever a version 2 request finds and wherever it is cut, it keeps the session
invariant of its own job, and its answer is what the durable ledger and applied record say. -/
theorem executePortV2_wp (policy : LocalExecutorPolicy) (hplan : request.portPlan = some plan) :
    Answers E request plan s₀ D (executePortV2 E D policy request) [] s₀ := by
  have h : Sound D.appliedFor E request plan s₀ [] s₀ := Sound.start
  unfold executePortV2
  rw [hplan]
  cases request.mutationGrantV2Binding with
  | none => exact ⟨h, Answer.failure _⟩
  | some binding =>
  dsimp only
  refine wp_ite (fun _ => ⟨h, Answer.failure _⟩) fun hchecked => ?_
  have hv : plan.portContractVersion = 2 := by
    simp only [Bool.or_eq_true, not_or] at hchecked
    simpa using hchecked.1
  refine quiet_seq (quiet_op rfl) h fun t0 tr1 s1 h₁ hu1 _ => ?_
  split
  case h_2 => exact ⟨h₁, Answer.failure _⟩
  next rootTarget b t r _ _ _ hr =>
  refine wp_ite (fun _ => ⟨h₁, Answer.failure _⟩) fun _ => ?_
  refine wp_seq (portV2Load_loads Sound.loads h₁ plan).1 fun x tr2 s2 h2 hx => ?_
  obtain ⟨rfl, hread, hx⟩ := hx
  have hu2 : Unchanged tr1 s2 tr2 s2 := Unchanged.ofReads hread
  rw [hu1.ledger] at hx
  have hs2 : ledgerOf plan s2 = ledgerOf plan s₀ := by rw [hu2.ledger, hu1.ledger]
  rcases x with _ | _ | l
  · exact ⟨h2, Answer.failure _⟩
  · have hn := (hx none rfl).1
    exact stagePortV2_wp hD h2 hn (hs2.trans hn) hplan hv hr policy binding
  · obtain ⟨hl, hloaded⟩ := hx (some l) rfl
    obtain ⟨hlv, hvalid⟩ := hloaded l rfl
    have hterm := hD.terminal l plan.targetID hvalid
    dsimp only
    refine wp_ite (fun _ => ⟨h2, Answer.failure _⟩) fun hsame => ?_
    simp only [Bool.or_eq_true, Bool.not_eq_true', not_or, Bool.not_eq_false] at hsame
    obtain ⟨hsame, hval⟩ := hsame
    cases hres : l.result with
    | some result => exact resumePortV2_wp hD h2 hsame hlv hl (hs2.trans hl) hres
    | none =>
      dsimp only
      have hopen : closed (ledgerOf plan s₀) = false := by
        simp only [hl, closed, Option.any_some, beq_eq_false_iff_ne]
        intro hst
        simpa [hres] using hterm hst
      have hw : Working E plan s₀ s2 l := by
        obtain ⟨ht, hj⟩ := sameSystemdPortIntent_job hsame
        refine ⟨ht, hj, hlv, hv, sameSystemdPortIntent_snapshot hsame, ?_, by rw [hs2, hl]; exact id, hres, hopen, ?_⟩
        · obtain ⟨tt, htt, hv⟩ := (Option.any_eq_true _ _).1 hval
          simp only [PortPolicyTransition.validate, Bool.and_eq_true] at hv
          exact ⟨tt, htt, hv.1.1.1.2⟩
        · intro h0 hclaim
          rw [hu1.active]
          exact h0.pointer hclaim hl fun hst => by simpa [hres] using hterm hst
      have w : AtWork D E request plan s₀ False l tr2 s2 := ⟨h2, hw, False.elim⟩
      exact ((session_rules hD hplan hr).advances w (fun hs => by simp [session, hl, spent, hs])
        (fun _ _ => by simp [session, hl]) binding).1

end Programs
end AutostreamUpdater.Port
