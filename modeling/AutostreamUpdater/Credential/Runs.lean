/-
Runs of a credential rotation: requests, passes of the expiry loop, recoveries and manual replacements in any order, each
cut anywhere.

  * `expired_rotation_stays_ended`: once a rotation is on record as expired, its later records are expired, cancel-ready
    or manually recovered until the record is removed, and the panel is never called for an expired rotation, in every run
    whose stage requests are prompt. `late_stage_revives_rotation` is a run with a late one.
  * `activated_token_kept`: a token whose activation the panel accepted stays in the active or the staged identity until it
    is superseded. `expiry_drops_activated_token` shows that the local expiry counts among the ways to be superseded.
-/
import AutostreamUpdater.Credential.Operations

namespace AutostreamUpdater.Credential

open Contract Base Fallible

section Events

variable {E : CredentialEnv} {w : Watch} {s s' s₀ : Host} {tr : List HostStep} {α β : Type}
  {policy : CredentialPolicy} {request : CredentialRequest} {status : RuntimeCredentialStatus}

/-! ## One event -/

theorem handleMutation_keeps {clock : Clock} {m : RuntimeCredentialMutation} {current : Option RuntimeCredentialStatus}
    (hnow : w.now = clock.now) (hload : Loaded E w.now s₀ current s) (hC : w.C E tr s)
    (hprompt : request.operation = .stage → w.steps → Prompt w.now s₀) :
    keeps (credNext E) (w.C E) (handleMutation E policy clock request m current) tr s := by
  refine responding_keeps (loadIdentity_ensures hC) ?_
  rintro active tr1 _ hC1 ⟨rfl, -⟩
  refine keeps_ite (fun _ => keeps_pure hC1) fun _ => ?_
  refine responding_keeps (Q := fun _ _ _ => True) ?_ fun next tr2 s2 hC2 _ => keeps_pure hC2
  refine ensures_bind (runOperation_ensures hC1 hload hprompt (hnow ▸ clock.le)) ?_
  intro next tr2 s2 hC2 _
  exact reads_bind layout_reads hC2 fun _ tr3 hC3 => ensures_pure hC3 trivial

theorem handleRequest_keeps {clock : Clock} (hinj : w.tokens → Function.Injective E.sha256) (hnow : w.now = clock.now)
    (hC : w.C E tr s) (hprompt : request.operation = .stage → w.steps → Prompt w.now s) :
    keeps (credNext E) (w.C E) (handleLocalExecutorRuntimeCredential E policy clock request) tr s := by
  unfold handleLocalExecutorRuntimeCredential
  refine keeps_ite (fun _ => keeps_pure hC) fun _ => ?_
  refine keeps_ite (fun _ => keeps_pure hC) fun _ => ?_
  refine responding_keeps (layout_ensures hC) ?_
  rintro _ tr1 _ hC1 rfl
  refine responding_keeps (loadAndReconcileStatus_ensures hinj hC1) ?_
  intro current tr2 s2 hC2 hload
  rw [← hnow] at hload
  have hfailed : ∀ response, keeps (credNext E) (w.C E) (pure response : Prog CredOp CredRes Response) tr2 s2 :=
    fun response => keeps_pure hC2
  split
  · split
    · exact hfailed _
    · exact keeps_ite (fun _ => hfailed _) fun _ => hfailed _
  · exact hfailed _
  · exact keeps_ite (fun _ => hfailed _) fun _ => handleMutation_keeps hnow hload hC2 hprompt

theorem expiryPass_ensures {now : ℕ} (hinj : w.tokens → Function.Injective E.sha256) (hC : w.C E tr s) :
    w.Ensures E (reconcileRuntimeCredentialExpiry E now) (fun _ _ _ => True) tr s := by
  refine reads_bind layout_reads hC fun _ tr1 hC1 => ?_
  refine ensures_bind (loadAndReconcileStatus_ensures hinj hC1) fun _ tr2 s2 hC2 _ => ?_
  exact ensures_mono (layout_ensures hC2) fun _ _ _ _ _ => trivial

/-! ## The recovery -/

theorem bindForRecovery_ensures (hC : w.C E tr s) (hs : s.state = some status) :
    w.Ensures E (bindForRecovery E policy status) (fun r _ s' => s'.state = some r) tr s := by
  have hbound : ∀ {r s'}, BindOutcome E s status r s' → s'.state = some r.1 := by
    intro r s' h
    cases h with
    | absent _ => exact hs
    | bound _ _ _ => rfl
  refine ensures_ite (fun hp => ?_) fun _ => ensures_ite (fun hp => ?_) fun _ => ?_
  · refine ensures_bind (bindStagedFile_ensures hC hs (by simp [hp, Phase.unstaged]) fun _ => ⟨rfl, rfl, rfl⟩) ?_
    rintro r tr1 s1 hC1 h
    exact ensures_pure hC1 (hbound h)
  · refine ensures_bind (bindStagedFile_ensures hC hs (by simp [hp, Phase.unstaged]) fun _ => ⟨rfl, rfl, rfl⟩) ?_
    rintro r tr1 s1 hC1 h
    exact ensures_pure hC1 (hbound h)
  · exact ensures_pure hC hs

theorem finishEmergency_ensures {digest : String} (hC : w.C E tr s) (hset : w.tokens → Settled E s) :
    w.Ensures E (finishEmergencyStagedCleanup E digest) (fun _ _ _ => True) tr s := by
  refine reads_bind layout_reads hC fun _ tr1 hC1 => ?_
  refine ensures_bind (wipe_ensures hC1 hset) fun _ tr2 s2 hC2 _ => ?_
  exact ensures_mono (layout_ensures hC2) fun _ _ _ _ _ => trivial

theorem recoverWith_ensures {now : ℕ} {active : Identity} (hC : w.C E tr s) (hs : s.state = some status) :
    w.Ensures E (recoverWith E now status active) (fun _ _ _ => True) tr s := by
  refine ensures_ite (fun hp => ?_) fun _ => ?_
  · exact ensures_require_bind hC fun _ => finishEmergency_ensures hC (hC.settled hs (by simp [hp]))
  · refine ensures_require_bind hC fun _ => ensures_require_bind hC fun _ => ?_
    refine reads_bind layout_reads hC fun _ tr1 hC1 => ?_
    have hset : w.tokens → Settled E (saved s (manuallyRecovered E status active)) := fun hw =>
      (hC.2 hw).saved_ended hs rfl rfl
    refine saveStatus_bind hC1 (fun _ d hd _ => ?_) (fun hw => (hset hw).held) fun tr2 hC2 _ =>
      finishEmergency_ensures hC2 hset
    obtain rfl := Option.some.inj (hs.symm.trans hd)
    exact .inr ⟨_, rfl, rfl, rfl⟩

theorem recover_ensures {now : ℕ} {rotationID : String} (hC : w.C E tr s) :
    w.Ensures E (recoverAfterEmergencyManualReconfigure E policy now rotationID)
      (fun _ _ _ => True) tr s := by
  refine ensures_require_bind hC fun _ => reads_bind layout_reads hC fun _ tr1 hC1 => ?_
  refine loadStatus_bind hC1 fun r tr2 hC2 hr => ?_
  obtain ⟨hs, -⟩ := readStatus_ok hr
  cases r with
  | none => exact ensures_throw hC2
  | some st =>
    refine ensures_require_bind hC2 fun _ => ?_
    refine ensures_bind (bindForRecovery_ensures hC2 hs) fun bound tr3 s3 hC3 hs3 => ?_
    refine reads_bind layout_reads hC3 fun _ tr4 hC4 => ?_
    refine loadIdentityOr_bind hC4 fun active tr5 hC5 _ => ensures_require_bind hC5 fun _ => ?_
    exact recoverWith_ensures hC5 hs3

theorem replaceIdentity_ensures {data : Bytes} (hC : w.C E tr s) :
    w.Ensures E (act (.replaceIdentity data)) (fun _ _ _ => True) tr s := by
  refine act_ensures hC (fun time s' heff => ?_) fun _ _ _ _ _ => trivial
  cases heff
  exact ⟨fun _ => Follows.of_state_eq rfl, fun _ r token ho => by cases ho⟩

/-- the time an event is handled at -/
def Event.now : Event → ℕ
  | .request _ _ clock => clock.now
  | .expiryPass now => now
  | .recover _ _ now => now
  | .replaceIdentity _ => 0

/-- an event is prompt if, as a stage request, it finds no unstaged record past its expiry -/
def Event.Prompt (s : Host) : Event → Prop
  | .request _ r clock => r.operation = .stage → Credential.Prompt clock.now s
  | _ => True

instance (s : Host) (e : Event) : Decidable (e.Prompt s) := by
  unfold Event.Prompt
  cases e <;> infer_instance

/-- **One event** keeps what is watched, wherever it is cut. -/
theorem handleEvent_keeps {e : Event} (hinj : w.tokens → Function.Injective E.sha256) (hnow : w.now = e.now)
    (hprompt : w.steps → e.Prompt s) (hC : w.C E tr s) : keeps (credNext E) (w.C E) (handleEvent E e) tr s := by
  have hrun : ∀ {p : Cred Unit}, w.Ensures E p (fun _ _ _ => True) tr s →
      keeps (credNext E) (w.C E) (do let _ ← p.run; pure ()) tr s := fun hp =>
    keeps_run hp (fun _ _ _ hC' => keeps_pure hC') fun _ _ _ hC' _ => keeps_pure hC'
  cases e with
  | request policy r clock =>
    refine keeps_seq (handleRequest_keeps hinj hnow hC fun hop hw => ?_) fun _ _ _ hC' => keeps_pure hC'
    rw [hnow]
    exact hprompt hw hop
  | expiryPass now => exact hrun (expiryPass_ensures hinj hC)
  | recover policy rotationID now => exact hrun (recover_ensures hC)
  | replaceIdentity data => exact hrun (replaceIdentity_ensures hC)

end Events

/-! ## Runs -/

/-- the events handled one after another, each under its own script -/
abbrev credRun (E : CredentialEnv) (s : Host) (events : List (Event × List Choice)) :=
  serve (credNext E) id (handleEvent E) s events

section Expiry

variable {E : CredentialEnv} {s : Host}

/-- Once a rotation is on record as expired, it is on record as ended until the record is removed. -/
def ExpiryFinal (s : Host) (tr : List HostStep) : Prop :=
  ∀ before between, before ++ between <+: tr → ∀ st, (after s before).state = some st → st.phase = .expired →
    (∃ x ∈ between, x.post.state = none) ∨
      ∃ st', (after s (before ++ between)).state = some st' ∧ st'.phase.ended = true ∧ st'.rotationID = st.rotationID

/-- The panel is called for the recorded rotation before its expiry, or with a token that is already active. -/
def PanelInTime (E : CredentialEnv) (now : ℕ) (x : HostStep) : Prop :=
  ∀ call, x.op = .panel call → ∃ st, x.pre.state = some st ∧ st.rotationID = call.rotationID ∧
    (now < st.stagedExpiresAt ∨ holds E x.pre.active call.token)

theorem ExpiryFinal.of_follows {tr : List HostStep} (hlinked : Linked s tr) (h : ∀ x ∈ tr, Follows x.pre x.post) :
    ExpiryFinal s tr := by
  rintro before between ⟨rest, rfl⟩ st hst hphase
  rw [List.append_assoc, linked_append] at hlinked
  have hbetween := (linked_append.1 hlinked.2).1
  rw [after_append]
  -- until the removal, the record is an ended one of this rotation
  refine hbetween.until (D := fun s => s.state = none)
    (I := fun s => ∃ st', s.state = some st' ∧ st'.phase.ended = true ∧ st'.rotationID = st.rotationID)
    ?_ ⟨st, hst, by simp [hphase, Phase.ended], rfl⟩
  rintro x hx ⟨st', hst', hended, hid⟩
  rcases h x (by simp [hx]) st' hst' hended with hnone | ⟨st'', hst'', hended', hid'⟩
  · exact .inl hnone
  · exact .inr ⟨st'', hst'', hended', hid'.trans hid⟩

/-- The steps of one prompt event are all in order. -/
theorem prompt_steps {e : Event} (hprompt : e.Prompt s) (cs : List Choice) :
    ∀ x ∈ ((handleEvent E e).exec (credNext E) s cs).steps, StepOk e.now x := by
  have hC : Watch.C E ⟨True, False, e.now⟩ [] s := ⟨fun _ => by simp, False.elim⟩
  have h := keeps_exec (handleEvent_keeps False.elim rfl (fun _ => hprompt) hC) cs
  exact h.1 trivial

end Expiry

/-- **An expired rotation stays ended.** In every run whose stage requests are prompt, a rotation on record as expired has
only ended records until its removal, and no event at or after the expiry calls the panel for it. -/
theorem expired_rotation_stays_ended (E : CredentialEnv) (s : Host) (events : List (Event × List Choice))
    (hprompt : ∀ x ∈ credRun E s events, x.req.Prompt x.pre) :
    ExpiryFinal s (trace (credRun E s events)) ∧
      ∀ x ∈ credRun E s events, ∀ y ∈ x.run.steps, PanelInTime E x.req.now y := by
  have hsteps : ∀ x ∈ credRun E s events, ∀ y ∈ x.run.steps, StepOk x.req.now y := by
    refine (serve_forall (I := fun _ => True) ?_ trivial events hprompt).1
    intro e s' cs _ hp
    exact ⟨prompt_steps hp cs, trivial⟩
  refine ⟨ExpiryFinal.of_follows (serve_linked s events) ?_, ?_⟩
  · intro y hy
    obtain ⟨x, hx, hyx⟩ := List.mem_flatMap.1 hy
    exact (hsteps x hx y hyx).follows
  · intro x hx y hy call hcall
    obtain ⟨st, hst, hid, hnow⟩ := (hsteps x hx y hy).panel call hcall
    exact ⟨st, hst, hid, .inl hnow⟩

/-! ## A late stage request -/

def samplePolicy : CredentialPolicy where
  hostID := "host-1"
  sourcePolicyRevision := 1
  projectionRevision := 1
  policyRevision := 1
  panelURL := "https://panel"
  sha256 := some (runtimeCredentialDigest sampleEnv [])
  executorVersion := "v1.0.0"

/-- a request of the sample rotation at time `now` -/
def sampleRequest (operation : Operation) (revision : ℤ) (token : String) (now : ℕ) : Event :=
  .request samplePolicy
    { operation := operation, serviceID := "svc-1"
      mutation := some ⟨"rotation-1", "host-1", "token-1", "token-2", revision, token⟩
      sourcePolicyRevision := 1, ownershipEpoch := 1, ownershipPolicyRevision := 1, executorPolicyRevision := 1 }
    ⟨now, now, le_rfl⟩

/-- the host before any rotation -/
def sampleStart : Host := { active := some ⟨[1], 1⟩ }

/-- the panel's reply to a transition of the sample rotation -/
def sampleReply (status : RotationStatus) (revision : ℤ) : HostAgentRuntimeTokenRotation where
  id := "rotation-1"
  serviceID := "svc-1"
  executionHostID := "host-1"
  status := status
  revision := revision
  expectedOwnershipEpoch := 1
  expectedSourcePolicyRevision := 1
  expectedProjectionRevision := 1
  expectedLocalExecutorPolicyRevision := 1
  previousTokenID := "token-1"
  stagedTokenID := "token-2"
  credentialClaimedAt := some ⟨10, true⟩
  localStageReceiptID := "receipt-1"
  localStageAcknowledgedAt := some ⟨10, true⟩

/-- the expiry of a rotation prepared at time 10 -/
def sampleExpiry : ℕ := 10 + runtimeCredentialStagedMaxAge

/-- the rotation is prepared at time 10 and staged at its expiry -/
def lateStage : List (Event × List Choice) :=
  [(sampleRequest .prepare 1 "" 10, List.replicate 8 (.done 10)),
    (sampleRequest .stage 2 "b" sampleExpiry,
      List.replicate 15 (.done sampleExpiry) ++ [.replied (sampleReply .localStaged 3), .done sampleExpiry])]

/-- the same rotation, staged at time 20 -/
def promptStage : List (Event × List Choice) :=
  [(sampleRequest .prepare 1 "" 10, List.replicate 8 (.done 10)),
    (sampleRequest .stage 2 "b" 20, List.replicate 14 (.done 20) ++ [.replied (sampleReply .localStaged 3), .done 20])]

/-- the rotation is staged and proved, the panel's answer to the activation is lost, and the rotation expires -/
def lostActivation : List (Event × List Choice) :=
  promptStage ++
    [(sampleRequest .proofReady 4 "" 30, List.replicate 8 (.done 30)),
      (sampleRequest .activate 4 "" 40, List.replicate 6 (.done 40) ++ [.failedDone .panel 40]),
      (.expiryPass sampleExpiry, List.replicate 14 (.done sampleExpiry))]

/-- The two sample runs. In the late one the record is expired after 15 steps and stage-bound after 19, with a record all the
time, and the stage is acknowledged at the expiry. The other one is prompt; its activation is accepted at step 38, the
rotation is on record as expired after 44 steps, nobody replaces the identity, and at the end only the previous identity is
left. -/
theorem sample_runs :
    ((∀ x ∈ credRun sampleEnv sampleStart lostActivation, x.req.Prompt x.pre) ∧
        (after sampleStart ((trace (credRun sampleEnv sampleStart lostActivation)).take 44)).state.map (·.phase) =
          some .expired) ∧
      ((after sampleStart ((trace (credRun sampleEnv sampleStart lateStage)).take 15)).state.map (·.phase) =
          some .expired ∧
        (after sampleStart ((trace (credRun sampleEnv sampleStart lateStage)).take (15 + 4))).state.map (·.phase) =
          some .stageBound ∧
        ¬ ∃ x ∈ ((trace (credRun sampleEnv sampleStart lateStage)).drop 15).take 4, x.post.state = none) ∧
      (∃ x ∈ credRun sampleEnv sampleStart lateStage, ∃ y ∈ x.run.steps,
        y.op = .panel (.acknowledgeStage "rotation-1" 2 "b") ∧ x.req.now = sampleExpiry ∧
          y.pre.state.map (·.stagedExpiresAt) = some sampleExpiry ∧ y.pre.active = some ⟨[1], 1⟩) ∧
      (∃ x ∈ ((trace (credRun sampleEnv sampleStart lostActivation)).drop 38).take 1,
        x.op = .panel (.activate "rotation-1" 4 "b") ∧ x.post.owed = some ("rotation-1", "b")) ∧
      (∀ y ∈ (trace (credRun sampleEnv sampleStart lostActivation)).drop 39,
        (match y.op with | .act (.replaceIdentity _) => false | _ => true) = true) ∧
      (after sampleStart (trace (credRun sampleEnv sampleStart lostActivation))).active = some ⟨[1], 1⟩ ∧
      (after sampleStart (trace (credRun sampleEnv sampleStart lostActivation))).staged = none := by
  decide +kernel

/-- the rotation of the lost activation expires, and stays ended -/
theorem lost_activation_stays_ended :
    (after sampleStart ((trace (credRun sampleEnv sampleStart lostActivation)).take 44)).state.map (·.phase) =
        some .expired ∧
      ExpiryFinal sampleStart (trace (credRun sampleEnv sampleStart lostActivation)) ∧
      ∀ x ∈ credRun sampleEnv sampleStart lostActivation, ∀ y ∈ x.run.steps, PanelInTime sampleEnv x.req.now y :=
  ⟨sample_runs.1.2, expired_rotation_stays_ended sampleEnv sampleStart lostActivation sample_runs.1.1⟩

theorem sample_decoded : sampleEnv.decodeIdentity [1] = some ⟨"https://panel", "svc-1", "a", "agent"⟩ := by
  simp [sampleEnv]

/-- **A late stage request revives an expired rotation.** The reconciliation records it as expired; the request goes on
with the prepared record, saves it as bound and staged, and has the stage acknowledged by the panel. -/
theorem late_stage_revives_rotation :
    ¬ ExpiryFinal sampleStart (trace (credRun sampleEnv sampleStart lateStage)) ∧
      ¬ ∀ x ∈ credRun sampleEnv sampleStart lateStage, ∀ y ∈ x.run.steps, PanelInTime sampleEnv x.req.now y := by
  constructor
  · have hrun := sample_runs.2.1
    revert hrun
    generalize trace (credRun sampleEnv sampleStart lateStage) = tr
    rintro ⟨hexpired, hbound, hpresent⟩ h
    obtain ⟨st, hst, hphase⟩ := Option.map_eq_some_iff.1 hexpired
    have hsub : tr.take 15 ++ (tr.drop 15).take 4 <+: tr := by
      rw [← List.take_add]
      exact List.take_prefix _ _
    rcases h _ _ hsub st hst hphase with h | ⟨st', hst', hended, -⟩
    · exact hpresent h
    · rw [← List.take_add] at hst'
      have hphase' : st'.phase = .stageBound := by simpa [hst'] using hbound
      simp [hphase', Phase.ended] at hended
  · intro h
    obtain ⟨x, hx, y, hy, hop, hreq, hstate, hactive⟩ := sample_runs.2.2.1
    obtain ⟨st, hst, -, hnow | ⟨f, c, hf, hc, htoken⟩⟩ := h x hx y hy _ hop
    · rw [hst] at hstate
      have hexpiry : st.stagedExpiresAt = sampleExpiry := by simpa using hstate
      rw [hexpiry, hreq] at hnow
      exact absurd hnow (lt_irrefl _)
    · cases hactive.symm.trans hf
      cases sample_decoded.symm.trans hc
      exact absurd htoken (by decide)

/-! ## The activated token -/

section Tokens

variable {E : CredentialEnv} {s : Host}

/-- an operator replaced the active identity -/
def Replaces (_rotationID _token : String) (x : HostStep) : Prop := ∃ data, x.op = .act (.replaceIdentity data)

/-- the active identity was replaced, the rotation is on record as ended, or the panel accepted another activation -/
def Supersedes (rotationID token : String) (x : HostStep) : Prop :=
  Replaces rotationID token x ∨ (∃ st, x.post.state = some st ∧ st.rotationID = rotationID ∧ st.phase.ended = true) ∨
    ∃ id revision token', x.op = .panel (.activate id revision token') ∧ (id, token') ≠ (rotationID, token) ∧
      x.post.owed = some (id, token')

/-- From an accepted activation on, up to a step in `D`, the token is in the active or in the staged identity. -/
def TokenKept (E : CredentialEnv) (D : String → String → HostStep → Prop) (s : Host) (tr : List HostStep) : Prop :=
  ∀ before x between, before ++ x :: between <+: tr → ∀ rotationID revision token,
    x.op = .panel (.activate rotationID revision token) → x.post.owed = some (rotationID, token) →
    (∀ y ∈ between, ¬ D rotationID token y) →
    holds E (after s (before ++ x :: between)).active token ∨ holds E (after s (before ++ x :: between)).staged token

theorem Held.present (h : Held E s) {rotationID token : String} (ho : s.owed = some (rotationID, token)) :
    holds E s.active token ∨ holds E s.staged token := by
  rcases h rotationID token ho with h | ⟨st, f, c, -, -, -, hf, -, hc, htoken⟩
  · exact .inl h
  · exact .inr ⟨f, c, hf, hc, htoken⟩

/-- Only a superseding step changes what the host owes. -/
theorem owed_kept {c : Choice} {o : CredOp} {rotationID token : String} (ho : s.owed = some (rotationID, token))
    (hnot : ¬ Supersedes rotationID token (stepOf (credNext E) s o c)) :
    (credNext E s o c).2.owed = some (rotationID, token) := by
  cases o with
  | loadStatus => exact ho
  | lstat _ => exact ho
  | read _ => exact ho
  | loadIdentity _ => exact ho
  | panel call =>
    have haccept : (call.accept s).owed = some (rotationID, token) ∨ ∃ id revision token',
        call = .activate id revision token' ∧ (id, token') ≠ (rotationID, token) ∧
          (call.accept s).owed = some (id, token') := by
      cases call with
      | acknowledgeStage _ _ _ => exact .inl ho
      | activate id revision token' =>
        by_cases hsame : (id, token') = (rotationID, token)
        · exact .inl (congrArg some hsame)
        · exact .inr ⟨id, revision, token', rfl, hsame, rfl⟩
    cases c with
    | done _ => exact ho
    | failed _ => exact ho
    | failedDone _ _ =>
      refine haccept.resolve_right ?_
      rintro ⟨id, revision, token', rfl, hne, howed⟩
      exact hnot (.inr (.inr ⟨id, revision, token', rfl, hne, howed⟩))
    | replied _ =>
      refine haccept.resolve_right ?_
      rintro ⟨id, revision, token', rfl, hne, howed⟩
      exact hnot (.inr (.inr ⟨id, revision, token', rfl, hne, howed⟩))
  | act a =>
    have heffect : ∀ time s', a.effect time s = .ok s' → (actNext s a c).2 = s' → s'.owed = some (rotationID, token) := by
      intro time s' heff hpost
      cases a with
      | layout => cases heff; exact ho
      | removeState => cases heff; exact ho
      | overwrite => cases heff; exact ho
      | truncate => cases heff; exact ho
      | removeWiping => cases heff; exact ho
      | replaceIdentity data => exact absurd (.inl ⟨data, rfl⟩) hnot
      | quarantine =>
        have hframe := (cleaning_frame (E := E) (o := .act .quarantine) trivial s c).owed
        simp only [credNext, hpost] at hframe
        exact hframe.trans ho
      | writeIdentity slot data replace =>
        simp only [Act.effect] at heff
        split_ifs at heff
        cases slot <;> cases heff <;> exact ho
      | saveStatus st =>
        cases heff
        by_cases hended : st.phase.ended = true
        · have hne : st.rotationID ≠ rotationID := fun hid =>
            hnot (.inr (.inl ⟨st, congrArg Host.state hpost, hid, hended⟩))
          simp [hended, ho, Option.filter, Ne.symm hne]
        · simpa [hended] using ho
    rcases actNext_cases s a c with ⟨e, hn⟩ | ⟨time, s', heff, ⟨e, hn⟩ | hn⟩
    · simpa [credNext, hn] using ho
    · simpa [credNext, hn] using heffect time s' heff (by rw [hn])
    · simpa [credNext, hn] using heffect time s' heff (by rw [hn])

end Tokens

/-- **An activated token is kept.** In every run from a host that owes nothing, a token whose activation the panel accepted
is in the active or in the staged identity at every later moment until it is superseded. Digests do not collide. -/
theorem activated_token_kept (E : CredentialEnv) (hinj : Function.Injective E.sha256) (s : Host) (hs : s.owed = none)
    (events : List (Event × List Choice)) : TokenKept E Supersedes s (trace (credRun E s events)) := by
  intro before x between hpre rotationID revision token _ howed hnot
  have hheld : Held E (after s (before ++ x :: between)) := by
    refine serve_visited (I := Held E) ?_ (fun r token h => by simp [hs] at h) events hpre
    intro e s' cs hs'
    have hC : Watch.C E ⟨False, True, e.now⟩ [] s' := ⟨False.elim, fun _ => hs'⟩
    exact (Fallible.keeps_exec (handleEvent_keeps (fun _ => hinj) rfl False.elim hC) cs).2 trivial
  obtain ⟨rest, htrace⟩ := hpre
  have hsteps : ∀ y ∈ trace (credRun E s events), ∃ s' o c, y = stepOf (credNext E) s' o c := serve_stepOf s events
  have hlinked : Linked s (trace (credRun E s events)) := serve_linked s events
  rw [← htrace] at hsteps hlinked
  rw [linked_append, linked_append] at hlinked
  have howed' : (after x.post between).owed = some (rotationID, token) := by
    refine (hlinked.1.2.2.until (D := fun _ => False) (I := fun s => s.owed = some (rotationID, token)) ?_ howed).resolve_left
      (by simp)
    intro y hy howes
    obtain ⟨s', o, c, rfl⟩ := hsteps y (by simp [hy])
    exact .inr (owed_kept howes (hnot _ hy))
  have hend : (after s (before ++ x :: between)).owed = some (rotationID, token) := by
    rw [after_append]
    exact howed'
  exact hheld.present hend

theorem byteChar_injective : Function.Injective fun b : UInt8 => Char.ofNat b.toNat := by
  intro a b h
  have hvalid : ∀ n < 256, (Char.ofNat n).toNat = n := by
    intro n hn
    have hchar : n.isValidChar := .inl (by omega)
    rw [Char.ofNat, dif_pos hchar]
    rfl
  have hnat := congrArg Char.toNat h
  rw [hvalid _ a.toNat_lt, hvalid _ b.toNat_lt] at hnat
  exact UInt8.toNat_inj.1 hnat

theorem sampleEnv_injective : Function.Injective sampleEnv.sha256 := by
  intro a b h
  have hlist := String.ofList_injective h
  have hdigit : ∀ (c : Char) (l : List Char), c ≠ 'x' → List.replicate 64 c ≠ 'x' :: l := by
    intro c l hc hl
    rw [List.replicate_succ, List.cons.injEq] at hl
    exact hc hl.1
  have hdigits : ∀ c d : Char, c ≠ d → List.replicate 64 c ≠ List.replicate 64 d := by
    intro c d hcd hl
    exact hcd (by simpa using hl)
  split_ifs at hlist
  all_goals first
    | exact List.map_injective_iff.2 byteChar_injective (List.cons.inj hlist).2
    | exact absurd hlist (hdigits _ _ (by decide))
    | exact absurd hlist (hdigit _ _ (by decide))
    | exact absurd hlist.symm (hdigit _ _ (by decide))
    | simp_all

theorem lost_activation_kept :
    TokenKept sampleEnv Supersedes sampleStart (trace (credRun sampleEnv sampleStart lostActivation)) :=
  activated_token_kept sampleEnv sampleEnv_injective sampleStart rfl lostActivation

/-- **The expiry drops an activated token.** The panel accepted the activation, nobody replaced the identity, and after the
expiry pass the token is in neither file. -/
theorem expiry_drops_activated_token :
    ¬ TokenKept sampleEnv Replaces sampleStart (trace (credRun sampleEnv sampleStart lostActivation)) := by
  have hrun := sample_runs.2.2.2
  revert hrun
  generalize trace (credRun sampleEnv sampleStart lostActivation) = tr
  rintro ⟨⟨x, hx, hop, howed⟩, hno, hactive, hstaged⟩ h
  have hsplit : tr.take 38 ++ x :: tr.drop 39 = tr := by
    obtain ⟨y, rest, hdrop⟩ : ∃ y rest, tr.drop 38 = y :: rest := by
      cases hd : tr.drop 38 with
      | nil => simp [hd] at hx
      | cons y rest => exact ⟨y, rest, rfl⟩
    obtain rfl : x = y := by simpa [hdrop] using hx
    have hrest : tr.drop 39 = rest := by
      rw [show 39 = 38 + 1 from rfl, ← List.drop_drop, hdrop]
      rfl
    rw [hrest, ← hdrop, List.take_append_drop]
  have hsub : tr.take 38 ++ x :: tr.drop 39 <+: tr := by
    rw [hsplit]
  have hkept := h _ x _ hsub _ _ _ hop howed ?_
  · rw [hsplit, hactive, hstaged] at hkept
    rcases hkept with ⟨f, c, hf, hc, htoken⟩ | ⟨f, c, hf, -⟩
    · cases hf
      cases sample_decoded.symm.trans hc
      exact absurd htoken (by decide)
    · cases hf
  · rintro y hy ⟨data, hdata⟩
    have hnot := hno y hy
    simp [hdata] at hnot

end AutostreamUpdater.Credential
