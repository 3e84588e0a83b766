/-
What the validators of a version 2 ledger ask for, in the parts the coordinator changes and the parts it does not, and
what a driver's `verify` has seen when it accepts a snapshot.

`blank` is a ledger with its flags, observation and result taken back, as `prepare` would have built it. A ledger is valid
when its blank form is and its own flags, observation and result are `Coherent`; the coordinator moves between ledgers
with one blank form. `ContractsSound` states what the shared contracts package promises: an accepted plan has well-formed
snapshots, and the proof of a verified snapshot is an accepted result. `Observed` and `Validated` collect what the two
drivers contribute.
-/
import AutostreamUpdater.Port.Pass

namespace AutostreamUpdater.Port

open Contract Base Prog

/-! ## Plans of one intent -/

/-- Plans of one intent share everything but the lease, the session and the digest. -/
theorem sameSystemdPortIntent_shared {p q : SystemdPortReconfigurePlan} (hp : p.portContractVersion = 2)
    (hq : q.portContractVersion = 2) (h : sameSystemdPortIntent p q = true) :
    p = { q with leaseGeneration := p.leaseGeneration, sessionID := p.sessionID, portPlanSHA256 := p.portPlanSHA256 } := by
  simp only [sameSystemdPortIntent, portIntent, hp, hq, beq_self_eq_true, Bool.and_self, if_true, beq_iff_eq] at h
  cases p
  cases q
  simp_all

theorem sameSystemdPortIntent_refl (p : SystemdPortReconfigurePlan) : sameSystemdPortIntent p p = true := by
  simp [sameSystemdPortIntent]

/-! ## The blank form of a ledger -/

variable {plan : SystemdPortReconfigurePlan} {r : SystemdPortReconfigureResult}

section Blank

variable {β : Type} {E : PortEnv}

/-- the transition as it is staged -/
def PortPolicyTransition.blank (t : PortPolicyTransition) : PortPolicyTransition :=
  { t with rollbackLatched := false, recoveryRequired := false, consumed := false, lastRecoveryObservation := none }

/-- a recovery observation is valid, and noted only on a latched transition that needs recovery -/
def PortPolicyTransition.observationOK (t : PortPolicyTransition) : Bool :=
  t.lastRecoveryObservation.all fun o =>
    o.validate && o.result == .rollbackFailed && t.rollbackLatched && t.recoveryRequired

/-- the ledger as it is staged -/
def PortLedger.blank (l : PortLedger β) : PortLedger β :=
  { l with state := .staged, result := none, policyTransition := l.policyTransition.map (·.blank) }

/-- the three policy payloads of the ledger -/
def PortLedger.candidates (l : PortLedger β) : PortPolicyCandidates :=
  (l.policyTransition.map (·.candidates)).getD ⟨[], [], []⟩

/-- state, flags, observation and result of the ledger fit together -/
structure PortLedger.Coherent (E : PortEnv) (l : PortLedger β) : Prop where
  state : validPortV2LedgerState l.state l.policyTransition l.result = true
  result : (l.result.all fun r => portV2AcceptedResultMatchesPlan E l.plan r) = true
  observation : l.policyTransition.all (·.observationOK) = true

theorem PortPolicyTransition.validate_split (t : PortPolicyTransition) (plan : SystemdPortReconfigurePlan) :
    t.validate E plan = true ↔ t.blank.validate E plan = true ∧ t.observationOK = true := by
  cases h : t.lastRecoveryObservation <;>
    simp [validate, blank, observationOK, candidates, h, and_assoc]

/-- **Splitting the validator.** The shared conditions of a version 2 ledger are those of its blank form and coherence. -/
theorem PortLedger.validatePortV2Shared_split (l : PortLedger β) (targetID mode : String) (ok : PortCheckpoint → Bool) :
    l.validatePortV2Shared E targetID mode ok = true ↔
      l.blank.validatePortV2Shared E targetID mode ok = true ∧ l.Coherent E := by
  cases ht : l.policyTransition with
  | none => simp [validatePortV2Shared, blank, ht]
  | some t =>
    have hcoh : l.Coherent E ↔ validPortV2LedgerState l.state (some t) l.result = true ∧
        (l.result.all fun r => portV2AcceptedResultMatchesPlan E l.plan r) = true ∧ t.observationOK = true :=
      ⟨fun h => ⟨ht ▸ h.state, h.result, by simpa [ht] using h.observation⟩,
        fun h => ⟨ht ▸ h.1, h.2.1, by simpa [ht] using h.2.2⟩⟩
    rw [hcoh]
    have hstaged : validPortV2LedgerState .staged (some t.blank) none = true := rfl
    simp only [validatePortV2Shared, blank, ht, Option.map_some, Option.any_some, t.validate_split, Bool.and_eq_true,
      hstaged, Option.all_none]
    tauto

variable {l : PortLedger β}

/-- a valid ledger has a valid plan of its mode, and a transition -/
theorem validatePortV2Shared_plan {targetID mode : String} {ok : PortCheckpoint → Bool}
    (h : l.validatePortV2Shared E targetID mode ok = true) :
    l.plan.validate E.toContracts = true ∧ l.plan.deploymentMode = mode ∧ l.policyTransition.isSome = true := by
  simp only [PortLedger.validatePortV2Shared, Bool.and_eq_true, beq_iff_eq, and_assoc] at h
  obtain ⟨-, -, hmode, hplan, -, -, -, -, -, htransition, -⟩ := h
  obtain ⟨t, ht, -⟩ := (Option.any_eq_true _ _).1 htransition
  exact ⟨hplan, hmode, by simp [ht]⟩

theorem PortLedger.blank_withTransition (l : PortLedger β) {f : PortPolicyTransition → PortPolicyTransition}
    (hf : ∀ t, (f t).blank = t.blank) : (l.withTransition f).blank = l.blank := by
  cases h : l.policyTransition <;> simp [blank, withTransition, h, hf]

theorem PortLedger.candidates_withTransition (l : PortLedger β) {f : PortPolicyTransition → PortPolicyTransition}
    (hf : ∀ t, (f t).blank = t.blank) : (l.withTransition f).candidates = l.candidates := by
  cases h : l.policyTransition with
  | none => simp [candidates, withTransition, h]
  | some t =>
    simp only [candidates, withTransition, h, Option.map_some, Option.getD_some]
    have hcand := congrArg PortPolicyTransition.candidates (hf t)
    exact hcand

/-- the ledger of a finished transaction -/
def PortLedger.concluded (l : PortLedger β) (r : SystemdPortReconfigureResult) (st : LedgerState) : PortLedger β :=
  { (l.withTransition fun t => { t with recoveryRequired := false, lastRecoveryObservation := none }) with
    result := some r, state := st }

theorem PortLedger.concluded_blank (l : PortLedger β) (r : SystemdPortReconfigureResult) (st : LedgerState) :
    (l.concluded r st).blank = l.blank :=
  l.blank_withTransition (f := fun t => { t with recoveryRequired := false, lastRecoveryObservation := none })
    fun _ => rfl

theorem PortLedger.concluded_candidates (l : PortLedger β) (r : SystemdPortReconfigureResult) (st : LedgerState) :
    (l.concluded r st).candidates = l.candidates :=
  l.candidates_withTransition (f := fun t => { t with recoveryRequired := false, lastRecoveryObservation := none })
    fun _ => rfl

theorem portV2PolicyBytes_concluded (l : PortLedger β) (r : SystemdPortReconfigureResult) (st : LedgerState)
    (ref : PortSnapshotRef) : portV2PolicyBytes (l.concluded r st) ref = portV2PolicyBytes l ref := by
  cases h : l.policyTransition <;> simp [portV2PolicyBytes, PortLedger.concluded, PortLedger.withTransition, h]

/-- **A fresh lease.** A blank ledger stays valid under another valid plan of the same intent. -/
theorem PortLedger.validatePortV2Shared_replan {targetID mode : String} {ok : PortCheckpoint → Bool}
    (hl : l.plan.portContractVersion = 2) (hp : plan.portContractVersion = 2)
    (hsame : sameSystemdPortIntent l.plan plan = true) (hplan : plan.validate E.toContracts = true)
    (hcand : (l.policyTransition.any fun s => s.candidates.validate E plan) = true)
    (h : l.blank.validatePortV2Shared E targetID mode ok = true) :
    { l with plan := plan }.blank.validatePortV2Shared E targetID mode ok = true := by
  obtain ⟨t, ht, hcand⟩ := (Option.any_eq_true _ _).1 hcand
  have hshared := sameSystemdPortIntent_shared hl hp hsame
  have htarget : l.plan.targetID = plan.targetID := by rw [hshared]
  have hmode : l.plan.deploymentMode = plan.deploymentMode := by rw [hshared]
  have hbefore : l.plan.before = plan.before := by rw [hshared]
  have htargetRef : l.plan.target = plan.target := by rw [hshared]
  have hrollback : l.plan.rollback = plan.rollback := by rw [hshared]
  simp only [validatePortV2Shared, blank, ht, Option.map_some, Option.any_some, PortPolicyTransition.validate,
    Bool.and_eq_true, htarget, hmode, hbefore, htargetRef, hrollback] at h ⊢
  have hcand' : t.blank.candidates.validate E plan = true := hcand
  tauto

/-- a ledger without a result is coherent in every unfinished state -/
theorem PortLedger.coherent_unfinished (ht : l.policyTransition.isSome = true) (hs : l.state.unfinished = true)
    (hr : l.result = none) (ho : l.policyTransition.all (·.observationOK) = true) : l.Coherent E := by
  obtain ⟨t, ht⟩ := Option.isSome_iff_exists.1 ht
  refine ⟨?_, by simp [hr], ho⟩
  rw [ht, hr]
  cases hst : l.state <;> simp_all [validPortV2LedgerState, LedgerState.unfinished]

/-- a ledger with a result may become terminal -/
theorem validPortV2LedgerState_close {st : LedgerState} {t : Option PortPolicyTransition}
    (h : validPortV2LedgerState st t (some r) = true) : validPortV2LedgerState .terminal t (some r) = true := by
  cases t <;> cases st <;> simp_all [validPortV2LedgerState]

theorem unfinished_of_coherent (h : l.Coherent E) (hr : l.result = none) : l.state.unfinished = true := by
  have hstate := h.state
  rw [hr] at hstate
  cases ht : l.policyTransition <;> cases hs : l.state <;> simp_all [validPortV2LedgerState, LedgerState.unfinished]

/-- a finished ledger is coherent with an accepted result -/
theorem PortLedger.concluded_coherent {st : LedgerState} (ht : l.policyTransition.isSome = true)
    (hst : st = .committing ∨ st = .terminal) (hr : r.validate = true) (hk : r.result ≠ .rollbackFailed)
    (ha : portV2AcceptedResultMatchesPlan E l.plan r = true) : (l.concluded r st).Coherent E := by
  obtain ⟨t, ht⟩ := Option.isSome_iff_exists.1 ht
  refine ⟨?_, by simpa [concluded, withTransition] using ha, ?_⟩
  · rcases hst with rfl | rfl <;> simp [concluded, withTransition, ht, validPortV2LedgerState, hr, hk]
  · simp [concluded, withTransition, ht, PortPolicyTransition.observationOK]

end Blank

/-! ## What the contracts package promises -/

section Contracts

/-- digests, revisions and ports of a snapshot are in range -/
def wellFormedSnapshot (ref : PortSnapshotRef) : Bool :=
  digestPattern ref.configSHA256 && digestPattern ref.executorPolicySHA256 && 1 ≤ ref.sourcePolicyRevision &&
    1 ≤ ref.projectionRevision && 1 ≤ ref.executorPolicyRevision && 1 ≤ ref.appliedEndpointRevision &&
    1 ≤ ref.configRevision && validSystemdPort ref.localListenPort &&
    ref.docker.all fun d => validSystemdPort d.publishedPort && validSystemdPort d.containerPort &&
      d.healthPort == d.publishedPort

/-- the observed container is named by well-formed identifiers -/
def wellFormedInstance (i : PortRuntimeInstance) : Bool :=
  dockerContainerIDPattern i.containerID && digestPattern i.imageID && digestPattern i.repositoryDigest

/-- the proof of a verified snapshot once the panel has seen the agent's projection -/
def acceptedProof (kind : PortResultKind) (ref : PortSnapshotRef) (inst : Option PortRuntimeInstance) (t : ℕ) :
    PortResultV2 :=
  { portV2Proof kind ref inst t with observation := ⟨true, true, true, true, t⟩ }

/-- what the contracts package promises of the plans and results it accepts -/
structure ContractsSound (E : PortEnv) : Prop where
  snapshot : ∀ p kind ref, E.validatePortPlan (SystemdPortReconfigurePlan.sharedPortPlan p) = true →
    portV2ResultSnapshot p kind = some ref →
    wellFormedSnapshot ref = true ∧ ref.docker.isSome = p.before.any fun b => b.docker.isSome
  result : ∀ p kind ref inst t, E.validatePortPlan (SystemdPortReconfigurePlan.sharedPortPlan p) = true →
    portV2ResultSnapshot p kind = some ref → (kind = .unchanged → p.before = p.target) → t ≠ 0 →
    inst.isSome = ref.docker.isSome → inst.all wellFormedInstance = true →
    E.validatePortResult p.sharedPortPlan (acceptedProof kind ref inst t) = true

variable {E : PortEnv} {plan : SystemdPortReconfigurePlan}

theorem validate_v2 (hv : plan.portContractVersion = 2) (h : plan.validate E.toContracts = true) :
    plan.validatePortV2 E.toContracts = true := by
  simpa [SystemdPortReconfigurePlan.validate, hv] using h

/-- the identity and the shared part of a valid version 2 plan -/
theorem validate_parts (hv : plan.portContractVersion = 2) (h : plan.validate E.toContracts = true) :
    identifierPattern plan.jobID = true ∧ identifierPattern plan.targetID = true ∧
      validSystemdPortServiceType plan.serviceType = true ∧ 1 ≤ plan.ownershipEpoch ∧
      E.validatePortPlan plan.sharedPortPlan = true ∧
      (plan.deploymentMode == modeDocker) = plan.before.any fun b => b.docker.isSome := by
  have h := validate_v2 hv h
  simp only [SystemdPortReconfigurePlan.validatePortV2, Bool.and_eq_true, decide_eq_true_eq, beq_iff_eq, and_assoc] at h
  obtain ⟨-, hjob, -, htarget, htype, hepoch, -, -, -, -, -, -, -, -, -, -, -, -, -, -, -, hshared, -, hdocker, -⟩ := h
  exact ⟨hjob, htarget, htype, hepoch, hshared, hdocker⟩

/-- the result of a verified snapshot passes its own validator -/
theorem portV2Result_validate {kind : PortResultKind} {ref : PortSnapshotRef} {inst : Option PortRuntimeInstance} {t : ℕ}
    (hk : kind ≠ .rollbackFailed) (hw : wellFormedSnapshot ref = true) (ht : t ≠ 0) :
    (portV2Result plan kind ref inst t).validate = true := by
  have hmsg : safeExecutorMessage "local port policy and runtime are verified" = true := by decide
  simp only [wellFormedSnapshot, Bool.and_eq_true, decide_eq_true_eq] at hw
  obtain ⟨⟨⟨⟨⟨⟨⟨⟨hc, he⟩, -⟩, -⟩, hp⟩, -⟩, hr⟩, -⟩, -⟩ := hw
  cases kind <;>
    simp_all [SystemdPortReconfigureResult.validate, SystemdPortReconfigureResult.validatePortV2, portV2Result, portV2Proof]

theorem portV2RecoveryFailed_validate {t : ℕ} (ht : t ≠ 0) : (portV2RecoveryFailed plan t).validate = true := by
  have hmsg : safeExecutorMessage "local recovery remains incomplete and requires the same job to reconcile" = true := by
    decide
  simp [SystemdPortReconfigureResult.validate, SystemdPortReconfigureResult.validatePortV2, portV2RecoveryFailed, hmsg, ht]

end Contracts

/-! ## Live answers -/

section Laws

variable {β A : Type}

/-- the clock shows a time, and an observed container has its mapping file -/
def liveStep : PortStep β A → Prop
  | ⟨_, .now, t, _⟩ => t ≠ (0 : ℕ)
  | ⟨_, .observe _ _, o, _⟩ => ∀ x : DockerPortObservation, o = some x → x.mappingEnv.existed = true
  | _ => True

/-- what a driver accepts as evidence of a snapshot: the steps of `verify` and the instance it returns -/
abbrev Evidence (β A : Type) :=
  PortLedger β → LocalExecutorPolicy → PortSnapshotRef → Option PortRuntimeInstance → PortTrace β A → Prop

/-- `verify` accepts a snapshot only on the evidence, which a finished ledger keeps -/
structure PortV2Driver.Observed (E : PortEnv) (D : PortV2Driver β A) (shows : Evidence β A) (mode : String) : Prop where
  verify : ∀ l policy ref tr s, (D.verify l policy ref).wp (portNext E) (fun _ _ => True)
    (fun r tr' _ => ∀ inst, r = some inst → ∃ ev, tr' = tr ++ ev ∧ shows l policy ref inst ev) tr s
  concluded : ∀ l policy ref inst ev r st, shows l policy ref inst ev → shows (l.concluded r st) policy ref inst ev
  instanceFits : ∀ l policy ref inst ev, shows l policy ref inst ev →
    inst.isSome = (mode == modeDocker) ∧ inst.all wellFormedInstance = true

/-- the driver's validators, for ledgers of version 2 -/
structure PortV2Driver.Validated (E : PortEnv) (D : PortV2Driver β A) (mode : String) : Prop where
  split : ∀ (l : PortLedger β) t, l.plan.portContractVersion = 2 →
    (D.mode.validateLedger l t = true ↔ D.mode.validateLedger l.blank t = true ∧ l.Coherent E)
  plan : ∀ (l : PortLedger β) t, l.plan.portContractVersion = 2 → D.mode.validateLedger l t = true →
    l.plan.validate E.toContracts = true ∧ l.plan.deploymentMode = mode ∧ l.policyTransition.isSome = true
  replan : ∀ (l : PortLedger β) plan t, l.plan.portContractVersion = 2 → plan.portContractVersion = 2 →
    sameSystemdPortIntent l.plan plan = true → plan.validate E.toContracts = true →
    (l.policyTransition.any fun s => s.candidates.validate E plan) = true →
    D.mode.validateLedger l.blank t = true → D.mode.validateLedger { l with plan := plan }.blank t = true
  prepare : ∀ policy plan candidates tr s, plan.portContractVersion = 2 → plan.validate E.toContracts = true →
    plan.deploymentMode = mode → candidates.validate E plan = true →
    (D.prepare policy plan candidates).wp (portNext E) (fun _ _ => True)
      (fun r tr' _ => ∀ l, r = some l → (∀ x ∈ tr', liveStep x) → D.mode.validateLedger l plan.targetID = true) tr s
  applied : ContractsSound E → ∀ (l : PortLedger β) t r ref, l.plan.portContractVersion = 2 →
    D.mode.validateLedger l.blank t = true →
    portV2ResultSnapshot l.plan r.result = some ref → ∃ a, D.appliedFor l r = some a ∧ D.mode.savable a = true

end Laws

/-! ## systemd -/

section Systemd

variable {E : PortEnv}

/-- the sidecar on disk is the snapshot's, and the service then answered with the version of the baseline -/
def systemdShows (E : PortEnv) : Evidence SystemdBaseline SystemdPortAppliedState := fun l policy ref inst ev =>
  inst = none ∧ ∃ target cp s1 s2 s3 s4, policy.target l.plan.targetID = some target ∧
    portPolicySnapshotMatches E policy target ref = true ∧
    sidecarShows E cp target.serviceType target.localListen.host ref = true ∧
    ev = [⟨s1, .checkpoint, some cp, s2⟩, ⟨s3, .verifyRuntime policy target, some l.baseline.currentVersion, s4⟩]

theorem systemdVerify_shows (l : SystemdPortLedger) (policy : LocalExecutorPolicy) (ref : PortSnapshotRef)
    (tr : List (PortStep SystemdBaseline SystemdPortAppliedState)) (s : PortWorld _ _) :
    (systemdVerify E l policy ref).wp (portNext E) (fun _ _ => True)
      (fun r tr' _ => ∀ inst, r = some inst → ∃ ev, tr' = tr ++ ev ∧ systemdShows E l policy ref inst ev) tr s := by
  unfold systemdVerify
  split
  · exact ⟨trivial, by simp⟩
  next target htarget =>
  refine wp_ite (fun _ => ⟨trivial, by simp⟩) fun hsnap => ?_
  refine wp_op_bind trivial fun c => ?_
  cases hcp : (portNext E s .checkpoint c).1 with
  | none => exact ⟨trivial, by simp⟩
  | some cp =>
    dsimp only
    refine wp_ite (fun _ => ⟨trivial, by simp⟩) fun hside => ?_
    refine wp_op_bind trivial fun c' => ⟨trivial, ?_⟩
    split
    · next hversion =>
      rintro inst ⟨⟩
      have hres := eq_of_beq hversion
      set s1 := (portNext E s .checkpoint c).2
      refine ⟨[stepOf (portNext E) s .checkpoint c, stepOf (portNext E) s1 (.verifyRuntime policy target) c'], by simp [s1],
        rfl, target, cp, s, s1, s1, (portNext E s1 (.verifyRuntime policy target) c').2, htarget, by simpa using hsnap,
        by simpa using hside, ?_⟩
      simp only [stepOf, hcp, hres]
      rfl
    · simp

theorem systemdPortV2Driver_observed : (systemdPortV2Driver E).Observed E (systemdShows E) modeSystemd where
  verify := systemdVerify_shows
  concluded := fun _ _ _ _ _ _ _ h => h
  instanceFits := by
    rintro l policy ref inst ev ⟨rfl, -⟩
    exact ⟨by decide, rfl⟩

/-- the staged ledger of a verified baseline is valid -/
theorem systemdStagedLedger_valid {candidates : PortPolicyCandidates} {cp : PortCheckpoint} {host version : String}
    {b t r : PortSnapshotRef} {targetBytes rollbackBytes : Bytes} (hv : plan.portContractVersion = 2)
    (hplan : plan.validate E.toContracts = true) (hmode : plan.deploymentMode = modeSystemd)
    (hc : candidates.validate E plan = true) (hb : plan.before = some b) (ht : plan.target = some t)
    (hr : plan.rollback = some r) (hside : sidecarShows E cp plan.serviceType host b = true)
    (hversion : versionPattern version = true) (htb : portV2SnapshotPayloadMatches E targetBytes t = true)
    (hrb : portV2SnapshotPayloadMatches E rollbackBytes r = true) :
    validateSystemdPortLedger E (systemdStagedLedger plan candidates cp targetBytes rollbackBytes version)
      plan.targetID = true := by
  simp only [sidecarShows, Bool.and_eq_true, beq_iff_eq] at hside
  obtain ⟨⟨⟨⟨hcp, hexists⟩, hprivate⟩, hsha⟩, -⟩ := hside
  have hrollback := hrb
  simp only [portV2SnapshotPayloadMatches, Bool.and_eq_true, beq_iff_eq] at hrollback
  have htransition : PortPolicyTransition.validate E
      { version := 1, beforePolicy := candidates.before, targetPolicy := candidates.target,
        rollbackPolicy := candidates.rollback, rollbackRuntimeBytes := rollbackBytes } plan = true := by
    simp only [PortPolicyTransition.validate, PortPolicyTransition.candidates, hr, Option.any_some, hrollback.2,
      hrollback.1.1, beq_self_eq_true, Bool.and_true, Bool.true_and]
    exact hc
  simp only [validateSystemdPortLedger, systemdStagedLedger, hv, beq_self_eq_true, if_true,
    PortLedger.validatePortV2Shared, hmode, hplan, hcp, hexists, hprivate, hb, ht, hsha, htb, htransition, hversion,
    validPortV2LedgerState, Option.any_some, Option.all_none, Option.isNone_none, Bool.and_self]

theorem systemdPrepare_valid (policy : LocalExecutorPolicy) (plan : SystemdPortReconfigurePlan)
    (candidates : PortPolicyCandidates) (hv : plan.portContractVersion = 2) (hplan : plan.validate E.toContracts = true)
    (hmode : plan.deploymentMode = modeSystemd) (hc : candidates.validate E plan = true) :
    Quietly (systemdPrepare E policy plan candidates) fun r =>
      ∀ l, r = some l → validateSystemdPortLedger E l plan.targetID = true := by
  unfold systemdPrepare
  split
  case h_2 => simp
  next target b t r htarget hb ht hr =>
  refine only_op_bind rfl fun cp => ?_
  rcases cp with _ | cp
  · simp
  dsimp only
  split
  · simp
  next hside =>
  refine only_op_bind rfl fun version => ?_
  rcases version with _ | version
  · simp
  dsimp only
  split
  · simp
  next hversion =>
  refine only_seq (ensureAvailableIf_quiet _ _) fun available _ => ?_
  split
  · simp
  split
  · simp
  next hbytes =>
  simp only [only_pure, Option.some.injEq, forall_eq']
  simp only [Bool.or_eq_true, not_or] at hbytes
  exact systemdStagedLedger_valid hv hplan hmode hc hb ht hr (by simpa using hside) (by simpa using hversion)
    (by simpa using hbytes.1) (by simpa using hbytes.2)

theorem systemdPortAppliedStateForResult_savable (hE : ContractsSound E) {ref : PortSnapshotRef}
    (hv : plan.portContractVersion = 2) (hplan : plan.validate E.toContracts = true)
    (href : portV2ResultSnapshot plan r.result = some ref) :
    (systemdPortAppliedStateForResult plan r).savable = true := by
  obtain ⟨-, htarget, htype, hepoch, hshared, -⟩ := validate_parts hv hplan
  have hwell := (hE.snapshot plan r.result ref hshared href).1
  simp only [wellFormedSnapshot, Bool.and_eq_true] at hwell
  simp only [systemdPortAppliedStateForResult, hv, beq_self_eq_true, if_true, href, SystemdPortAppliedState.savable,
    htarget, htype, hwell, hepoch, decide_true, Bool.and_self]

theorem systemdPortV2Driver_validated : (systemdPortV2Driver E).Validated E modeSystemd where
  split := by
    intro l t hv
    have hv' : l.blank.plan.portContractVersion = 2 := hv
    have hsplit := l.validatePortV2Shared_split (E := E) t modeSystemd (·.validateSidecar E)
    simp only [systemdPortV2Driver, systemdMode, validateSystemdPortLedger, hv, hv', beq_self_eq_true, if_true,
      Bool.and_eq_true, hsplit]
    exact and_right_comm
  plan := by
    intro l t hv h
    simp only [systemdPortV2Driver, systemdMode, validateSystemdPortLedger, hv, beq_self_eq_true, if_true] at h
    exact validatePortV2Shared_plan (Bool.and_eq_true _ _ ▸ h).1
  replan := by
    intro l plan t hl hp hsame hplan hcand h
    have hl' : l.blank.plan.portContractVersion = 2 := hl
    have hp' : { l with plan := plan }.blank.plan.portContractVersion = 2 := hp
    simp only [systemdPortV2Driver, systemdMode, validateSystemdPortLedger, hl', hp', beq_self_eq_true, if_true,
      Bool.and_eq_true] at h ⊢
    exact ⟨PortLedger.validatePortV2Shared_replan hl hp hsame hplan hcand h.1, h.2⟩
  prepare := by
    intro policy plan candidates tr s hv hplan hmode hc
    refine wp_post (only_wp (I := fun _ _ => True) (systemdPrepare_valid policy plan candidates hv hplan hmode
      hc) (fun _ _ _ _ _ _ => trivial) (fun _ _ h => h) trivial) ?_
    intro r tr' s' _ h l hr _
    exact h.2 l hr
  applied := by
    intro hE l t r ref hv h href
    have hv' : l.blank.plan.portContractVersion = 2 := hv
    simp only [systemdPortV2Driver, systemdMode, validateSystemdPortLedger, hv', beq_self_eq_true, if_true] at h
    have hplan := (validatePortV2Shared_plan (Bool.and_eq_true _ _ ▸ h).1).1
    exact ⟨_, rfl, systemdPortAppliedStateForResult_savable hE hv hplan href⟩

end Systemd

/-! ## Docker -/

section Docker

variable {E : PortEnv}

/-- the container was observed under the snapshot's mapping with the image and version of the baseline -/
def dockerShows (E : PortEnv) : Evidence DockerBaseline DockerPortAppliedState := fun l policy ref inst ev =>
  ∃ target o s1 s2, dockerEffectiveTarget E l policy ref = some target ∧ dockerRuntimeShows E l o ref = true ∧
    inst = some ⟨o.runtime.containerID, o.runtime.imageID, o.runtime.repositoryDigest⟩ ∧
    ev = [⟨s1, .observe policy target, some o, s2⟩]

theorem dockerVerify_shows (l : DockerPortLedger) (policy : LocalExecutorPolicy) (ref : PortSnapshotRef)
    (tr : List (PortStep DockerBaseline DockerPortAppliedState)) (s : PortWorld _ _) :
    (dockerVerify E l policy ref).wp (portNext E) (fun _ _ => True)
      (fun r tr' _ => ∀ inst, r = some inst → ∃ ev, tr' = tr ++ ev ∧ dockerShows E l policy ref inst ev) tr s := by
  unfold dockerVerify
  split
  · exact ⟨trivial, by simp⟩
  next target htarget =>
  refine wp_op_bind trivial fun c => ?_
  cases ho : (portNext E s (.observe policy target) c).1 with
  | none => exact ⟨trivial, by simp⟩
  | some o =>
    refine ⟨trivial, ?_⟩
    split
    · next hshows =>
      rintro inst ⟨⟩
      refine ⟨[stepOf (portNext E) s (.observe policy target) c], rfl, target, o, s,
        (portNext E s (.observe policy target) c).2, htarget, hshows, rfl, ?_⟩
      simp only [stepOf, ho]
    · simp

theorem composeHash_concluded (l : DockerPortLedger) (r : SystemdPortReconfigureResult) (st : LedgerState)
    (ref : PortSnapshotRef) : composeHash (l.concluded r st) ref = composeHash l ref := by
  cases h : l.policyTransition <;> simp [composeHash, PortLedger.concluded, PortLedger.withTransition, h]

theorem dockerPortV2Driver_observed (adapter : DockerPortAdapter) :
    (dockerPortV2Driver E adapter).Observed E (dockerShows E) modeDocker where
  verify := dockerVerify_shows
  concluded := by
    rintro l policy ref inst ev r st ⟨target, o, s1, s2, htarget, hshows, hinst, hev⟩
    have hhash := composeHash_concluded l r st ref
    have hplan : (l.concluded r st).plan = l.plan := rfl
    have hbaseline : (l.concluded r st).baseline = l.baseline := rfl
    refine ⟨target, o, s1, s2, ?_, ?_, hinst, hev⟩
    · simpa only [dockerEffectiveTarget, hhash, hplan] using htarget
    · simpa only [dockerRuntimeShows, hhash, hplan, hbaseline] using hshows
  instanceFits := by
    rintro l policy ref inst ev ⟨target, o, s1, s2, -, hshows, rfl, -⟩
    simp only [dockerRuntimeShows, DockerPortObservation.validate, DockerRuntimeBaseline.validate,
      Bool.and_eq_true] at hshows
    refine ⟨rfl, ?_⟩
    simp only [Option.all_some, wellFormedInstance, Bool.and_eq_true]
    tauto

/-- the staged ledger of an observed baseline is valid -/
theorem dockerStagedLedger_valid {candidates : PortPolicyCandidates} {o : DockerPortObservation}
    {b t r : PortSnapshotRef} {targetBytes rollbackBytes : Bytes} {targetModel rollbackModel : DockerPortPreparedModel}
    (hv : plan.portContractVersion = 2) (hplan : plan.validate E.toContracts = true)
    (hmode : plan.deploymentMode = modeDocker) (hc : candidates.validate E plan = true) (hb : plan.before = some b)
    (ht : plan.target = some t) (hr : plan.rollback = some r) (ho : o.validate E = true)
    (hmatch : dockerPortV2ObservationMatches o b = true) (hexists : o.mappingEnv.existed = true)
    (htb : portV2SnapshotPayloadMatches E targetBytes t = true)
    (hrb : portV2SnapshotPayloadMatches E rollbackBytes r = true) (htm : targetModel.validate = true)
    (hrm : rollbackModel.validate = true) :
    validateDockerPortLedger E (dockerStagedLedger plan candidates o targetBytes rollbackBytes targetModel rollbackModel)
      plan.targetID = true := by
  simp only [DockerPortObservation.validate, Bool.and_eq_true, beq_iff_eq, and_assoc] at ho
  obtain ⟨hmapping, -, -, -, -, -, -, hsha, -, hcompose, hruntime⟩ := ho
  have hprivate : o.mappingEnv.mode = 0o600 := by
    have h := hmapping
    simp only [PortCheckpoint.validateMapping, PortCheckpoint.validateMode, hexists, if_true, Bool.and_eq_true,
      beq_iff_eq] at h
    exact h.2.1.1
  have hbefore : o.mappingEnv.sha256 = b.configSHA256 := by
    obtain ⟨d, -, h⟩ := (Option.any_eq_true _ _).1 hmatch
    simp only [Bool.and_eq_true, beq_iff_eq] at h
    rw [← hsha]
    exact h.1.2
  have hrollback := hrb
  simp only [portV2SnapshotPayloadMatches, Bool.and_eq_true, beq_iff_eq] at hrollback
  simp only [DockerPortPreparedModel.validate, Bool.and_eq_true, and_assoc] at htm hrm
  have htransition : PortPolicyTransition.validate E
      { version := 1, beforePolicy := candidates.before, targetPolicy := candidates.target,
        rollbackPolicy := candidates.rollback, rollbackRuntimeBytes := rollbackBytes,
        rollbackComposeSHA256 := rollbackModel.composeConfigSHA256 } plan = true := by
    simp only [PortPolicyTransition.validate, PortPolicyTransition.candidates, hr, Option.any_some, hrollback.2,
      hrollback.1.1, beq_self_eq_true, Bool.and_true, Bool.true_and]
    exact hc
  simp only [validateDockerPortLedger, dockerStagedLedger, hv, beq_self_eq_true, if_true,
    PortLedger.validatePortV2Shared, hmode, hplan, hmapping, hexists, hprivate, hb, ht, hbefore, htb, htransition,
    hruntime, hcompose, htm.2.1, hrm.2.1, validPortV2LedgerState, Option.any_some, Option.all_none, Option.isNone_none,
    Bool.and_self]

theorem dockerPrepareSnapshot_valid (plan : SystemdPortReconfigurePlan) (policyBytes payload : Bytes)
    (ref : PortSnapshotRef) : Quietly (dockerPrepareSnapshot E plan policyBytes payload ref) fun r =>
      ∀ m, r = some m → m.validate = true := by
  unfold dockerPrepareSnapshot
  split
  · simp
  refine only_op_bind rfl fun m => ?_
  rcases m with _ | m
  · simp
  · simp only [only_pure]
    split
    · next h =>
      simp only [dockerPortV2PreparedMatches, Bool.and_eq_true] at h
      simpa using h.1
    · simp

theorem dockerPrepare_valid (adapter : DockerPortAdapter) (policy : LocalExecutorPolicy)
    (plan : SystemdPortReconfigurePlan) (candidates : PortPolicyCandidates)
    (tr : List (PortStep DockerBaseline DockerPortAppliedState)) (s : PortWorld _ _) (hv : plan.portContractVersion = 2)
    (hplan : plan.validate E.toContracts = true) (hmode : plan.deploymentMode = modeDocker)
    (hc : candidates.validate E plan = true) :
    (dockerPrepare E adapter policy plan candidates).wp (portNext E) (fun _ _ => True)
      (fun r tr' _ => ∀ l, r = some l → (∀ x ∈ tr', liveStep x) →
        validateDockerPortLedger E l plan.targetID = true) tr s := by
  unfold dockerPrepare
  split
  case h_2 => exact ⟨trivial, by simp⟩
  next policyTarget b t r hpolicyTarget hb ht hr =>
  refine wp_seq (only_wp (I := fun _ _ => True) (resolveDockerPortAppliedTargetBound_quiet _ _ _)
    (fun _ _ _ _ _ _ => trivial) (fun _ _ h => h) trivial) fun target tr1 s1 _ _ => ?_
  split
  · exact ⟨trivial, by simp⟩
  next target =>
  refine wp_op_bind trivial fun c => ?_
  cases ho : (portNext E s1 (.observe policy target) c).1 with
  | none => exact ⟨trivial, by simp⟩
  | some o =>
    dsimp only
    refine wp_ite (fun _ => ⟨trivial, by simp⟩) fun hobs => ?_
    simp only [Bool.or_eq_true, not_or] at hobs
    -- what follows only reads, so the observation stays in the trace that the ledger's validity depends on
    set st := stepOf (portNext E) s1 (.observe policy target) c with hst
    have hlive : ∀ tr' : List (PortStep DockerBaseline DockerPortAppliedState), st ∈ tr' → (∀ x ∈ tr', liveStep x) →
        o.mappingEnv.existed = true := by
      intro tr' hmem h
      have hl := h st hmem
      simp only [hst, stepOf, ho, liveStep] at hl
      exact hl o rfl
    refine wp_post (only_wp (P := fun x => x.quiet = true) (I := fun tr' _ => st ∈ tr') (Q := fun r =>
      ∀ l, r = some l → o.mappingEnv.existed = true → validateDockerPortLedger E l plan.targetID = true) ?_
      (fun tr' _ _ _ _ h => List.mem_append_left _ h) (fun _ _ _ => trivial)
      (List.mem_append_right _ (List.mem_singleton_self _))) ?_
    · split
      case h_2 => simp
      split
      · simp
      next hbytes =>
      simp only [Bool.or_eq_true, not_or] at hbytes
      refine only_seq (dockerPrepareSnapshot_valid _ _ _ _) fun targetModel htm => ?_
      split
      · simp
      next targetModel =>
      refine only_seq (dockerPrepareSnapshot_valid _ _ _ _) fun rollbackModel hrm => ?_
      split
      · simp
      next rollbackModel =>
      refine only_seq (ensureAvailableIf_quiet _ _) fun available _ => ?_
      split
      · simp
      simp only [only_pure, Option.some.injEq, forall_eq']
      intro hexists
      exact dockerStagedLedger_valid hv hplan hmode hc hb ht hr (by simpa using hobs.1.1) (by simpa using hobs.1.2)
        hexists (by simpa using hbytes.1) (by simpa using hbytes.2) (htm _ rfl) (hrm _ rfl)
    · intro r tr' s' _ h l hl halive
      exact h.2 l hl (hlive tr' h.1 halive)

/-- the resolved Compose digest of every snapshot of a valid ledger is well formed -/
theorem composeHash_pattern {l : DockerPortLedger} {t : String} {kind : PortResultKind} {ref : PortSnapshotRef}
    (hv : l.plan.portContractVersion = 2) (h : validateDockerPortLedger E l.blank t = true)
    (href : portV2ResultSnapshot l.plan kind = some ref) : mutationPlanHashPattern (composeHash l ref) = true := by
  have hv' : l.blank.plan.portContractVersion = 2 := hv
  simp only [validateDockerPortLedger, hv', beq_self_eq_true, if_true, Bool.and_eq_true] at h
  obtain ⟨⟨-, hold, htarget⟩, hrollback⟩ := h
  have hrollback' : mutationPlanHashPattern ((l.policyTransition.map (·.rollbackComposeSHA256)).getD "") = true := by
    cases ht : l.policyTransition with
    | none => simp [PortLedger.blank, ht] at hrollback
    | some s => simpa [PortLedger.blank, ht, PortPolicyTransition.blank] using hrollback
  simp only [composeHash, beq_iff_eq]
  split
  · exact hold
  split
  · exact htarget
  split
  · exact hrollback'
  · cases kind <;> simp_all [portV2ResultSnapshot]

theorem dockerAppliedFor_savable (hE : ContractsSound E) {l : DockerPortLedger} {t : String} {ref : PortSnapshotRef}
    (hv : l.plan.portContractVersion = 2) (h : validateDockerPortLedger E l.blank t = true)
    (hplan : l.plan.validate E.toContracts = true) (hmode : l.plan.deploymentMode = modeDocker)
    (href : portV2ResultSnapshot l.plan r.result = some ref) :
    ∃ a, dockerAppliedFor l r = some a ∧ a.validate a.targetID = true := by
  obtain ⟨hjob, htarget, htype, hepoch, hshared, hdocker⟩ := validate_parts hv hplan
  obtain ⟨hwell, hsome⟩ := hE.snapshot l.plan r.result ref hshared href
  have hcompose := composeHash_pattern hv h href
  have hd : ref.docker.isSome = true := by
    rw [hsome, ← hdocker, hmode]
    decide
  obtain ⟨d, hd⟩ := Option.isSome_iff_exists.1 hd
  simp only [wellFormedSnapshot, hd, Option.all_some, Bool.and_eq_true] at hwell
  simp only [dockerAppliedFor, href, hd, Option.bind_eq_bind, Option.bind_some, Option.pure_def]
  refine ⟨_, rfl, ?_⟩
  simp only [DockerPortAppliedState.validate, hjob, htarget, htype, hwell, hcompose, hepoch, decide_true,
    beq_self_eq_true, Bool.and_self]
  rfl

theorem dockerPortV2Driver_validated (adapter : DockerPortAdapter) :
    (dockerPortV2Driver E adapter).Validated E modeDocker where
  split := by
    intro l t hv
    have hv' : l.blank.plan.portContractVersion = 2 := hv
    have hsplit := l.validatePortV2Shared_split (E := E) t modeDocker (·.validateMapping E)
    have hcompose : (l.blank.policyTransition.any fun s => mutationPlanHashPattern s.rollbackComposeSHA256) =
        l.policyTransition.any fun s => mutationPlanHashPattern s.rollbackComposeSHA256 := by
      cases ht : l.policyTransition <;> simp [PortLedger.blank, ht, PortPolicyTransition.blank]
    have hbaseline : l.blank.baseline = l.baseline := rfl
    simp only [dockerPortV2Driver, dockerMode, validateDockerPortLedger, hv, hv', beq_self_eq_true, if_true,
      Bool.and_eq_true, hsplit, hcompose, hbaseline]
    tauto
  plan := by
    intro l t hv h
    simp only [dockerPortV2Driver, dockerMode, validateDockerPortLedger, hv, beq_self_eq_true, if_true,
      Bool.and_eq_true] at h
    exact validatePortV2Shared_plan h.1.1.1
  replan := by
    intro l plan t hl hp hsame hplan hcand h
    have hl' : l.blank.plan.portContractVersion = 2 := hl
    have hp' : { l with plan := plan }.blank.plan.portContractVersion = 2 := hp
    simp only [dockerPortV2Driver, dockerMode, validateDockerPortLedger, hl', hp', beq_self_eq_true, if_true,
      Bool.and_eq_true] at h ⊢
    exact ⟨⟨⟨PortLedger.validatePortV2Shared_replan hl hp hsame hplan hcand h.1.1.1, h.1.1.2⟩, h.1.2⟩, h.2⟩
  prepare := fun policy plan candidates tr s => dockerPrepare_valid adapter policy plan candidates tr s
  applied := by
    intro hE l t r ref hv h href
    have hv' : l.blank.plan.portContractVersion = 2 := hv
    have h' : validateDockerPortLedger E l.blank t = true := h
    simp only [validateDockerPortLedger, hv', beq_self_eq_true, if_true, Bool.and_eq_true] at h'
    obtain ⟨hplan, hmode, -⟩ := validatePortV2Shared_plan h'.1.1.1
    exact dockerAppliedFor_savable hE hv h hplan hmode href

end Docker
end AutostreamUpdater.Port
