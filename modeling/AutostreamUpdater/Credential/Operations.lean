/-
What the requests keep true: one lemma for each operation, from the record that the reconciliation returned to it.

`Ready` is the state in which `stage` works: the durable record is open, nothing is pending, and the record it was handed
is of the durable rotation and has not expired. The reconciliation gives it, except to a stage request that finds an
unstaged record past its expiry (`Prompt`): there the durable record has just become an expired one.
-/
import AutostreamUpdater.Credential.Reconciled

namespace AutostreamUpdater.Credential

open Contract Base Fallible

section Operations

variable {E : CredentialEnv} {w : Watch} {s s' s₀ : Host} {tr : List HostStep} {α β : Type}
  {R : β → List HostStep → Host → Prop} {status : RuntimeCredentialStatus} {current : Option RuntimeCredentialStatus}
  {policy : CredentialPolicy} {request : CredentialRequest} {m : RuntimeCredentialMutation} {active : Identity}

/-! ## Reading -/

theorem layout_reads : issues Reading (act .layout) := issues_iff.2 ⟨trivial, fun _ => trivial⟩

theorem layout_ensures {C : List HostStep → Host → Prop} [Watching C] (hC : C tr s) :
    ensures (credNext E) C (act .layout) (fun _ _ s' => s' = s) tr s := by
  refine act_rule hC (fun res => Watching.read res trivial hC) (fun time s' res heff => ?_) fun time s' tr' _ heff => ?_
  · cases heff
    exact Watching.read res trivial hC
  · cases heff
    rfl

theorem policySHA256_reads : issues Reading (policySHA256 policy) := by
  unfold policySHA256
  cases policy.sha256 with
  | none => exact issues_throw
  | some digest => exact issues_pure

theorem stagedBytes_reads : issues Reading (stagedBytes E m active) := by
  refine issues_bind issues_require fun _ => ?_
  cases E.marshalIdentity { active.config with runtimeToken := m.runtimeToken } with
  | none => exact issues_throw
  | some data => exact issues_bind issues_require fun _ => issues_pure

variable {data : Bytes}

theorem stageInstalled_reads : issues Reading (stageInstalled data) := by
  refine issues_bind (issues_ofProgOr ⟨trivial, fun _ => trivial⟩) fun wipingExists => ?_
  refine issues_bind issues_require fun _ => ?_
  refine issues_bind (issues_ofProgOr ⟨trivial, fun _ => trivial⟩) fun stagedExists => ?_
  refine issues_ite issues_pure ?_
  refine issues_bind (issues_ofProgOr ⟨trivial, fun _ => trivial⟩) fun staged => ?_
  exact issues_bind issues_require fun _ => issues_pure

/-! ## stage -/

/-- the durable record is open and nothing is pending -/
structure Unended (E : CredentialEnv) (w : Watch) (s : Host) : Prop where
  ongoing : w.steps → ∀ st, s.state = some st → st.phase.ended = false
  settled : w.tokens → Settled E s

/-- `status` is of the durable rotation, and neither record has expired -/
structure Ready (E : CredentialEnv) (w : Watch) (s : Host) (status : RuntimeCredentialStatus) : Prop
    extends Unended E w s where
  record : w.steps → ∃ d, s.state = some d ∧ d.rotationID = status.rotationID ∧ w.now < d.stagedExpiresAt
  fresh : w.steps → w.now < status.stagedExpiresAt

variable (hC : w.C E tr s)

include hC

theorem Unended.of_none (hs : s.state = none) : Unended E w s :=
  ⟨fun _ => by simp [hs], fun hw => (hC.2 hw).settled (by simp [hs])⟩

omit hC in
theorem Ready.of_frame (h : Ready E w s status) (hf : Frame s s') : Ready E w s' status where
  ongoing hw := by rw [hf.state]; exact h.ongoing hw
  settled hw := (h.settled hw).of_eq hf.active hf.owed
  record hw := by rw [hf.state]; exact h.record hw
  fresh := h.fresh

/-- An open record saved over an open one leaves `Ready`. -/
theorem saveOpen_bind {st : RuntimeCredentialStatus} {f : Unit → Cred β} (h : Unended E w s)
    (hst : st.phase.ended = false) (hfresh : w.steps → w.now < st.stagedExpiresAt)
    (hf : ∀ tr, w.C E tr (saved s st) → Ready E w (saved s st) st →
      w.Ensures E (f ()) R tr (saved s st)) : w.Ensures E (saveStatus E st >>= f) R tr s := by
  refine saveStatus_bind hC (fun hw => Follows.of_open (h.ongoing hw)) (fun hw => ((h.settled hw).saved st).held) ?_
  intro tr' hC' _
  refine hf tr' hC' ⟨⟨fun _ st' hst' => ?_, fun hw => (h.settled hw).saved st⟩, fun hw => ?_, hfresh⟩
  · obtain rfl := Option.some.inj hst'
    exact hst
  · exact ⟨st, rfl, rfl, hfresh hw⟩

variable {later : ℕ}

omit hC in
theorem newStatus_fresh (h : w.now ≤ later) : w.now < later + runtimeCredentialStagedMaxAge := by
  have hpos : 0 < runtimeCredentialStagedMaxAge := by decide
  omega

theorem prepare_ensures (hnone : current = none → s.state = none) (hlater : w.now ≤ later) :
    w.Ensures E (prepare E policy request m later active current) (fun _ _ _ => True) tr s := by
  unfold prepare
  refine ensures_require_bind hC fun _ => ?_
  cases current with
  | some status =>
    exact ensures_ite (fun _ => ensures_pure hC trivial) fun _ => ensures_throw hC
  | none =>
    refine lstat_bind hC fun tr1 hC1 => ensures_require_bind hC1 fun _ => ?_
    refine reads_bind policySHA256_reads hC1 fun digest tr2 hC2 => ?_
    refine saveOpen_bind hC2 (Unended.of_none hC2 (hnone rfl)) rfl (fun _ => ?_) fun tr3 hC3 _ => ?_
    · exact newStatus_fresh hlater
    · exact ensures_pure hC3 trivial

/-- what `stage` starts from -/
def StageReady (E : CredentialEnv) (w : Watch) (s : Host) : Option RuntimeCredentialStatus → Prop
  | none => Unended E w s
  | some status => Ready E w s status ∧ status.phase.ended = false

theorem bindStage_ensures (h : StageReady E w s current) (hlater : w.now ≤ later) :
    w.Ensures E (bindStage E policy request m later active data current)
      (fun r _ s' => Ready E w s' r) tr s := by
  cases current with
  | none =>
    refine reads_bind policySHA256_reads hC fun digest tr1 hC1 => ?_
    refine saveOpen_bind hC1 h rfl (fun _ => ?_) fun tr2 hC2 hready => ensures_pure hC2 hready
    exact newStatus_fresh hlater
  | some status =>
    refine ensures_ite (fun _ => ensures_pure hC h.1) fun _ => ?_
    exact saveOpen_bind hC h.1.toUnended rfl h.1.fresh fun tr1 hC1 hready => ensures_pure hC1 hready

omit hC in
theorem writeStaged_frame {replace : Bool} {time : ℕ}
    (h : (Act.writeIdentity .staged data replace).effect time s = .ok s') : Frame s s' := by
  simp only [Act.effect] at h
  split_ifs at h
  cases h
  exact ⟨rfl, rfl, rfl⟩

omit hC in
theorem verifyStaged_ensures {C : List HostStep → Host → Prop} [Watching C] (hC : C tr s) :
    ensures (credNext E) C (verifyStaged data) (fun _ _ s' => s' = s) tr s := by
  refine loadIdentityOr_bind hC fun staged tr1 hC1 _ => ?_
  exact ensures_require hC1 fun _ => rfl

theorem installStaged_ensures {installed : Bool} (h : Ready E w s status) :
    w.Ensures E (installStaged installed data) (fun _ _ s' => Ready E w s' status) tr s := by
  refine ensures_ite (fun _ => ?_) fun _ => ?_
  · exact ensures_mono (verifyStaged_ensures hC) fun _ _ _ _ hs => hs ▸ h
  · refine ensures_bind (Q := fun _ _ s' => Ready E w s' status) ?_ ?_
    · refine act_ensures hC (fun time s' heff => ?_) fun time s' tr' _ heff => h.of_frame (writeStaged_frame heff)
      have hframe := writeStaged_frame heff
      exact ⟨fun _ => Follows.of_state_eq hframe.state, fun hw => ((h.of_frame hframe).settled hw).held⟩
    · intro _ tr' s' hC' h'
      exact ensures_mono (verifyStaged_ensures hC') fun _ _ _ _ hs => hs ▸ h'

theorem promoteStaged_ensures (h : Ready E w s status) :
    w.Ensures E (promoteStaged E status) (fun r _ s' => Ready E w s' r) tr s := by
  refine ensures_ite (fun _ => ?_) fun _ => ensures_pure hC h
  exact saveOpen_bind hC h.toUnended rfl h.fresh fun tr1 hC1 hready => ensures_pure hC1 hready

theorem acknowledgeStage_ensures (h : Ready E w s status) :
    w.Ensures E (acknowledgeStage E m status) (fun _ _ _ => True) tr s := by
  refine loadIdentityOr_bind hC fun staged tr1 hC1 _ => ensures_require_bind hC1 fun _ => ?_
  refine panel_bind hC1 h.record hC1.2 fun rotation tr2 hC2 => ensures_require_bind hC2 fun _ => ?_
  exact saveOpen_bind hC2 h.toUnended rfl h.fresh fun tr3 hC3 _ => ensures_pure hC3 trivial

theorem stageFrom_ensures (h : StageReady E w s current) (hlater : w.now ≤ later) :
    w.Ensures E (stageFrom E policy request m later active current)
      (fun _ _ _ => True) tr s := by
  refine reads_bind stagedBytes_reads hC fun data tr1 hC1 => ensures_require_bind hC1 fun _ => ?_
  refine reads_bind stageInstalled_reads hC1 fun installed tr2 hC2 => ?_
  refine ensures_bind (bindStage_ensures hC2 h hlater) fun bound tr3 s3 hC3 h3 => ?_
  refine ensures_bind (installStaged_ensures hC3 h3) fun _ tr4 s4 hC4 h4 => ?_
  refine ensures_bind (promoteStaged_ensures hC4 h4) fun staged tr5 s5 hC5 h5 => ?_
  exact acknowledgeStage_ensures hC5 h5

/-- a stage request that finds an unstaged record is handled before the record expires -/
def Prompt (now : ℕ) (s₀ : Host) : Prop :=
  ∀ st ∈ s₀.state, st.phase.unstaged = true → now < st.stagedExpiresAt

instance (now : ℕ) (s₀ : Host) : Decidable (Prompt now s₀) := by
  unfold Prompt
  infer_instance

/-- The reconciliation hands `stage` what it needs, if the request is prompt. -/
theorem Loaded.stageReady (h : Loaded E w.now s₀ (some status) s) (hprompt : w.steps → Prompt w.now s₀)
    (hphase : status.phase.unstaged = true ∨ status.phase = .staged) : StageReady E w s (some status) := by
  rcases h with _ | ⟨hs₀, ⟨d, hd, -, houtcome⟩⟩
  have hproof : d.phase ≠ .proofReady := by
    intro hp
    have hsame := houtcome.proofReady hp
    subst hsame
    rcases hphase with h | h <;> simp [hp, Phase.unstaged] at h
  have hfresh : w.steps → w.now < status.stagedExpiresAt := by
    intro hw
    rcases hphase with h | h
    · exact houtcome.returned_eq h ▸ hprompt hw _ hs₀ (houtcome.returned_eq h ▸ h)
    · exact houtcome.fresh (by simp [h, Phase.staging])
  have hdurable : w.steps → d.phase.ended = false ∧ d.stagedExpiresAt = status.stagedExpiresAt := by
    intro hw
    rcases hphase with h | h
    · exact ⟨(houtcome.open_of_unstaged h (hfresh hw)).1, houtcome.expiry⟩
    · have hsame := houtcome.durable_eq (by simp [h, Phase.unstaged])
      exact ⟨by simp [hsame, h, Phase.ended], by rw [hsame]⟩
  refine ⟨⟨⟨fun hw st hst => ?_, hC.settled hd hproof⟩, fun hw => ⟨d, hd, ?_, ?_⟩, hfresh⟩, ?_⟩
  · obtain rfl := Option.some.inj (hd.symm.trans hst)
    exact (hdurable hw).1
  · exact houtcome.rotationID.2.trans houtcome.rotationID.1.symm
  · exact (hdurable hw).2 ▸ hfresh hw
  · rcases hphase with h | h
    · exact (Phase.unstaged_open h).1
    · simp [h, Phase.ended]

theorem stage_ensures (h : Loaded E w.now s₀ current s) (hprompt : w.steps → Prompt w.now s₀) (hlater : w.now ≤ later) :
    w.Ensures E (stage E policy request m later active current) (fun _ _ _ => True) tr s := by
  unfold stage
  refine ensures_require_bind hC fun _ => ?_
  cases current with
  | none =>
    cases h with
    | absent _ hs => exact stageFrom_ensures hC (Unended.of_none hC hs) hlater
  | some status =>
    have hfrom : status.phase.unstaged = true ∨ status.phase = .staged →
        w.Ensures E (stageFrom E policy request m later active (some status))
          (fun _ _ _ => True) tr s :=
      fun hp => stageFrom_ensures hC (h.stageReady hC hprompt hp) hlater
    dsimp only
    cases hp : status.phase with
    | claimPrepared =>
      exact ensures_require_bind hC fun _ => hfrom (.inl (by simp [hp, Phase.unstaged]))
    | stageBound =>
      exact ensures_require_bind hC fun _ => hfrom (.inl (by simp [hp, Phase.unstaged]))
    | staged => exact ensures_require_bind hC fun _ => hfrom (.inr hp)
    | localStaged => exact ensures_pure hC trivial
    | proofReady => exact ensures_pure hC trivial
    | activated => exact ensures_pure hC trivial
    | cancelReady => exact ensures_throw hC
    | cancelled => exact ensures_throw hC
    | expired => exact ensures_throw hC
    | manualRecovered => exact ensures_throw hC

/-! ## The other operations -/

omit hC in
/-- Behind the unstaged phases an operation sees the durable record. -/
theorem Loaded.durable (h : Loaded E w.now s₀ (some status) s) (hp : status.phase.unstaged = false) :
    s.state = some status := by
  rcases h with _ | ⟨hs₀, ⟨d, hd, -, houtcome⟩⟩
  exact hd.trans (congrArg some (houtcome.durable_eq hp))

omit hC in
theorem Loaded.fresh (h : Loaded E w.now s₀ (some status) s) (hp : status.phase.staging = true) :
    w.now < status.stagedExpiresAt := by
  rcases h with _ | ⟨hs₀, ⟨d, hd, -, houtcome⟩⟩
  exact houtcome.fresh hp

theorem markProofReady_ensures (h : Loaded E w.now s₀ current s) :
    w.Ensures E (markProofReady E m current) (fun _ _ _ => True) tr s := by
  cases current with
  | none => exact ensures_throw hC
  | some status =>
    refine ensures_ite (fun _ => ensures_require_bind hC fun _ => ensures_pure hC trivial) ?_
    refine fun _ => ensures_require_bind hC fun hreq => ?_
    have hp : status.phase = .localStaged := by simpa using (Bool.and_eq_true_iff.1 hreq).1
    have hd := h.durable (by simp [hp, Phase.unstaged])
    refine loadIdentityOr_bind hC fun staged tr1 hC1 _ => ensures_require_bind hC1 fun _ => ?_
    refine saveStatus_bind hC1 (fun _ => Follows.of_record hd (by simp [hp, Phase.ended])) (fun hw => ?_) ?_
    · exact ((hC1.settled hd (by simp [hp]) hw).saved _).held
    · exact fun tr2 hC2 _ => ensures_pure hC2 trivial

omit hC in
/-- Writing the activated identity puts the owed token into the active file. -/
theorem writeActive_settled {time : ℕ} {id : String} {c : Config} (howed : s.owed = some (id, c.runtimeToken))
    (hc : E.decodeIdentity data = some c) (h : (Act.writeIdentity .active data true).effect time s = .ok s') :
    s'.state = s.state ∧ Settled E s' := by
  simp only [Act.effect, Bool.not_true, Bool.and_false, Bool.false_eq_true, if_false] at h
  split_ifs at h
  cases h
  refine ⟨rfl, fun r token ho => ⟨⟨data, time⟩, c, rfl, hc, ?_⟩⟩
  cases howed.symm.trans ho
  rfl

theorem installActivated_ensures {revision : ℤ} {c : Config} (hs : s.state = some status)
    (hp : status.phase.ended = false) (howed : s.owed = some (status.rotationID, c.runtimeToken))
    (hc : E.decodeIdentity data = some c) :
    w.Ensures E (installActivated E status data revision) (fun _ _ _ => True) tr s := by
  refine reads_bind layout_reads hC fun _ tr1 hC1 => ?_
  refine ensures_bind (Q := fun _ _ s' => s'.state = some status ∧ Settled E s') ?_ ?_
  · refine act_ensures hC1 (fun time s' heff => ?_) fun time s' tr' _ heff => ?_
    · have hw := writeActive_settled howed hc heff
      exact ⟨fun _ => Follows.of_state_eq hw.1, fun _ => hw.2.held⟩
    · have hw := writeActive_settled howed hc heff
      exact ⟨hw.1.trans hs, hw.2⟩
  · rintro _ tr2 s2 hC2 ⟨hs2, hset⟩
    refine reads_bind layout_reads hC2 fun _ tr3 hC3 => ?_
    refine loadIdentityOr_bind hC3 fun active tr4 hC4 _ => ensures_require_bind hC4 fun _ => ?_
    refine saveStatus_bind hC4 (fun _ => Follows.of_record hs2 hp) (fun _ => (hset.saved _).held) fun tr5 hC5 _ => ?_
    refine ensures_bind (wipe_ensures hC5 fun _ => hset.saved _) fun _ tr6 s6 hC6 _ => ?_
    exact ensures_pure hC6 trivial

theorem activateCredential_ensures (h : Loaded E w.now s₀ current s) :
    w.Ensures E (activateCredential E policy m current) (fun _ _ _ => True) tr s := by
  cases current with
  | none => exact ensures_throw hC
  | some status =>
    refine ensures_ite (fun _ => ensures_pure hC trivial) fun _ => ?_
    refine ensures_require_bind hC fun hreq => ?_
    have hp : status.phase = .proofReady := by simpa using (Bool.and_eq_true_iff.1 hreq).1
    have hd := h.durable (by simp [hp, Phase.unstaged])
    refine loadIdentityOr_bind hC fun staged tr1 hC1 hstaged => ensures_require_bind hC1 fun hinput => ?_
    obtain ⟨f, hf, hdata, hc⟩ := readIdentity_ok hstaged
    have hdigest : runtimeCredentialDigest E f.data = status.stagedIdentitySHA256 := by
      simp only [Bool.and_eq_true, beq_iff_eq] at hinput
      exact hdata ▸ hinput.2
    refine panel_bind hC1 (fun _ => ⟨status, hd, rfl, h.fresh (by simp [hp, Phase.staging])⟩) (fun _ => ?_) ?_
    · -- the accepted token is the one of the recorded staged file
      intro r token ho
      cases ho
      exact .inr ⟨status, f, staged.config, hd, rfl, hp, hf, hdigest, hc, rfl⟩
    · intro rotation tr2 hC2
      refine ensures_require_bind hC2 fun _ => ?_
      exact installActivated_ensures hC2 hd (by simp [hp, Phase.ended]) rfl (hdata ▸ hc)

/-- Ending the durable rotation, then wiping: the debt is paid by the record. -/
theorem endThenWipe_ensures {st d : RuntimeCredentialStatus} {digest : String} {f : Unit → Cred β}
    (hd : s.state = some d) (hid : st.rotationID = d.rotationID) (hended : st.phase.ended = true)
    (hf : ∀ tr s, w.C E tr s → w.Ensures E (f ()) R tr s) :
    w.Ensures E (saveStatus E st >>= fun _ => wipeAndRemoveIdentity E digest >>= f) R tr s := by
  have hset : w.tokens → Settled E (saved s st) := fun hw => (hC.2 hw).saved_ended hd hid hended
  refine saveStatus_bind hC (fun _ d' hd' _ => ?_) (fun hw => (hset hw).held) fun tr1 hC1 _ => ?_
  · obtain rfl := Option.some.inj (hd.symm.trans hd')
    exact .inr ⟨st, rfl, hended, hid⟩
  · exact ensures_bind (wipe_ensures hC1 hset) fun _ tr2 s2 hC2 _ => hf tr2 s2 hC2

/-- the rule for the removal of a record that is not proof-ready -/
theorem removeState_ensures (hd : s.state = some status) (hp : status.phase ≠ .proofReady) :
    w.Ensures E (act .removeState) (fun _ _ _ => True) tr s := by
  refine act_ensures hC (fun time s' heff => ?_) fun _ _ _ _ _ => trivial
  cases heff
  refine ⟨fun _ _ _ _ => .inl rfl, fun hw => Settled.held ?_⟩
  exact (hC.settled hd hp hw).of_eq rfl rfl

theorem cancelOpen_ensures (h : Loaded E w.now s₀ (some status) s) :
    w.Ensures E (cancelOpen E m status) (fun _ _ _ => True) tr s := by
  refine ensures_require_bind hC fun _ => requireActive_bind hC fun active tr1 hC1 _ => ?_
  rcases h with _ | ⟨hs₀, ⟨d, hd, -, houtcome⟩⟩
  have hid : (cancelReady m status).rotationID = d.rotationID :=
    houtcome.rotationID.1.trans houtcome.rotationID.2.symm
  exact endThenWipe_ensures hC1 hd hid rfl fun tr2 s2 hC2 => ensures_pure hC2 trivial

theorem cancel_ensures (h : Loaded E w.now s₀ current s) :
    w.Ensures E (cancel E m current) (fun _ _ _ => True) tr s := by
  cases current with
  | none => exact ensures_throw hC
  | some status =>
    refine ensures_require_bind hC fun _ => ensures_require_bind hC fun _ => ?_
    have hopen := cancelOpen_ensures (m := m) hC h
    cases hp : status.phase with
    | cancelReady =>
      refine ensures_ite (fun _ => ensures_pure hC trivial) fun _ => ?_
      refine ensures_require_bind hC fun _ => ?_
      refine ensures_bind (removeState_ensures hC (h.durable (by simp [hp, Phase.unstaged])) (by simp [hp])) ?_
      exact fun _ tr1 s1 hC1 _ => ensures_pure hC1 trivial
    | claimPrepared => exact hopen
    | stageBound => exact hopen
    | staged => exact hopen
    | localStaged => exact hopen
    | proofReady => exact hopen
    | expired => exact hopen
    | activated => exact ensures_throw hC
    | cancelled => exact ensures_throw hC
    | manualRecovered => exact ensures_throw hC

theorem finalize_ensures (h : Loaded E w.now s₀ current s) :
    w.Ensures E (finalize E m current) (fun _ _ _ => True) tr s := by
  cases current with
  | none => exact ensures_throw hC
  | some status =>
    refine ensures_require_bind hC fun hreq => requireActive_bind hC fun active tr1 hC1 _ => ?_
    have hp : status.phase = .activated ∨ status.phase = .manualRecovered := by
      simpa using (Bool.and_eq_true_iff.1 hreq).1
    have hd := h.durable (by rcases hp with hp | hp <;> simp [hp, Phase.unstaged])
    refine identityCleanupComplete_bind hC1 fun tr2 hC2 => ?_
    refine ensures_bind (removeState_ensures hC2 hd (by rcases hp with hp | hp <;> simp [hp])) ?_
    exact fun _ tr3 s3 hC3 _ => ensures_pure hC3 trivial

theorem runOperation_ensures (h : Loaded E w.now s₀ current s)
    (hprompt : request.operation = .stage → w.steps → Prompt w.now s₀) (hlater : w.now ≤ later) :
    w.Ensures E (runOperation E policy request m later active current)
      (fun _ _ _ => True) tr s := by
  unfold runOperation
  cases hop : request.operation with
  | prepare =>
    refine prepare_ensures hC (fun hnone => ?_) hlater
    subst hnone
    cases h with
    | absent _ hs => exact hs
  | stage => exact stage_ensures hC h (hprompt hop) hlater
  | proofReady => exact markProofReady_ensures hC h
  | activate => exact activateCredential_ensures hC h
  | cancel => exact cancel_ensures hC h
  | finalize => exact finalize_ensures hC h
  | status => exact ensures_throw hC

end Operations
end AutostreamUpdater.Credential
