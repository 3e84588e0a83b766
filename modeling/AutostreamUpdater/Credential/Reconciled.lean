/-
What a reconciliation returns and what it leaves on disk.

`Outcome now s status returned durable` lists the ways a record `status` found on the host `s` comes out of the switch of
`loadAndReconcileStatus`. In all but three of them the returned record is the durable one. The three are the unstaged
phases, where the source assigns the bound or expired record to a second variable of the same name: the caller keeps the
record it had read, and `reconciled_record_is_durable` says exactly when that makes a difference.
-/
import AutostreamUpdater.Credential.Laws

namespace AutostreamUpdater.Credential

open Contract Base Fallible

/-- a record of the same rotation whose staged file is on record -/
structure BoundTo (status bound : RuntimeCredentialStatus) : Prop where
  phase : bound.phase = .staged
  rotationID : bound.rotationID = status.rotationID
  stagedExpiresAt : bound.stagedExpiresAt = status.stagedExpiresAt

/-- the returned and the durable record after the reconciliation of `status` -/
inductive Outcome (now : ℕ) (s : Host) (status : RuntimeCredentialStatus) :
    RuntimeCredentialStatus → RuntimeCredentialStatus → Prop
  | kept (hphase : status.phase.unstaged = false)
      (hfresh : status.phase.staging = true → now < status.stagedExpiresAt) : Outcome now s status status status
  | expired (hphase : status.phase.unstaged = false) : Outcome now s status status.expire status.expire
  | activated (hphase : status.phase.unstaged = false) (revision : ℤ) :
      Outcome now s status (status.activate revision) (status.activate revision)
  | waiting (hphase : status.phase.unstaged = true) (hstaged : s.staged = none) (hfresh : now < status.stagedExpiresAt) :
      Outcome now s status status status
  | lapsed (hphase : status.phase.unstaged = true) (hdue : ¬ now < status.stagedExpiresAt) :
      Outcome now s status status status.expire
  | bound (hphase : status.phase.unstaged = true) (hstaged : s.staged ≠ none) (hfresh : now < status.stagedExpiresAt)
      {b : RuntimeCredentialStatus} (hb : BoundTo status b) : Outcome now s status status b
  | boundLapsed (hphase : status.phase.unstaged = true) (hdue : ¬ now < status.stagedExpiresAt)
      {b : RuntimeCredentialStatus} (hb : BoundTo status b) : Outcome now s status status b.expire

section Outcomes

variable {E : CredentialEnv} {w : Watch} {s s' : Host} {tr : List HostStep} {now : ℕ}
  {status returned durable : RuntimeCredentialStatus}

theorem Outcome.rotationID (h : Outcome now s status returned durable) :
    returned.rotationID = status.rotationID ∧ durable.rotationID = status.rotationID := by
  cases h with
  | kept _ _ => exact ⟨rfl, rfl⟩
  | expired _ => exact ⟨rfl, rfl⟩
  | activated _ _ => exact ⟨rfl, rfl⟩
  | waiting _ _ _ => exact ⟨rfl, rfl⟩
  | lapsed _ _ => exact ⟨rfl, rfl⟩
  | bound _ _ _ hb => exact ⟨rfl, hb.rotationID⟩
  | boundLapsed _ _ hb => exact ⟨rfl, hb.rotationID⟩

theorem Outcome.expiry (h : Outcome now s status returned durable) :
    durable.stagedExpiresAt = returned.stagedExpiresAt := by
  cases h with
  | kept _ _ => rfl
  | expired _ => rfl
  | activated _ _ => rfl
  | waiting _ _ _ => rfl
  | lapsed _ _ => rfl
  | bound _ _ _ hb => exact hb.stagedExpiresAt
  | boundLapsed _ _ hb => exact hb.stagedExpiresAt

/-- Behind the unstaged phases the returned record is the durable one. -/
theorem Outcome.durable_eq (h : Outcome now s status returned durable) (hp : returned.phase.unstaged = false) :
    durable = returned := by
  cases h with
  | kept _ _ => rfl
  | expired _ => rfl
  | activated _ _ => rfl
  | waiting hphase _ _ => rfl
  | lapsed hphase _ => simp [hphase] at hp
  | bound hphase _ _ _ => simp [hphase] at hp
  | boundLapsed hphase _ _ => simp [hphase] at hp

/-- A record returned in an unstaged phase is the one that was read. -/
theorem Outcome.returned_eq (h : Outcome now s status returned durable) (hp : returned.phase.unstaged = true) :
    returned = status := by
  cases h with
  | kept _ _ => rfl
  | expired _ => cases hp
  | activated _ _ => cases hp
  | waiting _ _ _ => rfl
  | lapsed _ _ => rfl
  | bound _ _ _ _ => rfl
  | boundLapsed _ _ _ => rfl

/-- Where the returned record is unstaged and has not expired, the durable one is open. -/
theorem Outcome.open_of_unstaged (h : Outcome now s status returned durable) (hp : returned.phase.unstaged = true)
    (hnow : now < returned.stagedExpiresAt) : durable.phase.ended = false ∧ durable.phase ≠ .proofReady := by
  cases h with
  | kept hphase _ => simp [hphase] at hp
  | expired _ => cases hp
  | activated _ _ => cases hp
  | waiting _ _ _ => cases hst : status.phase <;> simp_all [Phase.unstaged, Phase.ended]
  | lapsed _ hdue => exact absurd hnow hdue
  | bound _ _ _ hb => simp [hb.phase, Phase.ended]
  | boundLapsed _ hdue _ => exact absurd hnow hdue

/-- A returned staged record has not expired. -/
theorem Outcome.fresh (h : Outcome now s status returned durable) (hp : returned.phase.staging = true) :
    now < returned.stagedExpiresAt := by
  cases h with
  | kept _ hfresh => exact hfresh hp
  | expired _ => cases hp
  | activated _ _ => cases hp
  | waiting _ _ hfresh => exact hfresh
  | lapsed hphase _ => cases hst : status.phase <;> simp_all [Phase.unstaged, Phase.staging]
  | bound _ _ hfresh _ => exact hfresh
  | boundLapsed hphase _ _ => cases hst : status.phase <;> simp_all [Phase.unstaged, Phase.staging]

/-- A proof-ready record is never behind the caller's back. -/
theorem Outcome.proofReady (h : Outcome now s status returned durable) (hp : durable.phase = .proofReady) :
    durable = returned := by
  cases h with
  | kept _ _ => rfl
  | expired _ => rfl
  | activated _ _ => rfl
  | waiting _ _ _ => rfl
  | lapsed _ _ => cases hp
  | bound _ _ _ hb => simp [hb.phase] at hp
  | boundLapsed _ _ _ => cases hp

/-- a reconciliation of `status` that returned `returned` and left `s'` -/
def Reconciled (E : CredentialEnv) (now : ℕ) (s : Host) (status returned : RuntimeCredentialStatus) (s' : Host) : Prop :=
  ∃ d, s'.state = some d ∧ d.sound E = true ∧ Outcome now s status returned d

/-! ## The steps of a reconciliation -/

theorem Watch.C.settled (hC : w.C E tr s) (hs : s.state = some status) (hp : status.phase ≠ .proofReady)
    (hw : w.tokens) : Settled E s := by
  refine (hC.2 hw).settled ?_
  intro st hst
  obtain rfl := Option.some.inj (hs.symm.trans hst)
  exact hp

theorem Follows.of_record (hs : s.state = some status) (hp : status.phase.ended = false) : Follows s s' := by
  refine Follows.of_open ?_
  intro st hst
  obtain rfl := Option.some.inj (hs.symm.trans hst)
  exact hp

theorem Phase.unstaged_open {p : Phase} (h : p.unstaged = true) : p.ended = false ∧ p ≠ .proofReady := by
  cases p <;> simp_all [Phase.unstaged, Phase.ended]

theorem readIdentity_ok {file : Option IdentityFile} {i : Identity} (h : readIdentity E file = .ok i) :
    ∃ f, file = some f ∧ f.data = i.data ∧ E.decodeIdentity f.data = some i.config := by
  cases file with
  | none => simp [readIdentity] at h
  | some f =>
    cases hd : E.decodeIdentity f.data with
    | none =>
      simp only [readIdentity, readFile] at h
      split_ifs at h
      simp [hd] at h
    | some config =>
      simp only [readIdentity, readFile] at h
      split_ifs at h
      simp only [hd, Except.ok.injEq] at h
      exact ⟨f, rfl, by rw [← h], by rw [← h]; exact hd⟩

/-- the rule for the check of the active identity -/
theorem requireActive_bind {C : List HostStep → Host → Prop} [Watching C] {β : Type} {e : CredError} {digest : String}
    {f : Identity → Cred β} {R : β → List HostStep → Host → Prop} (hC : C tr s)
    (hf : ∀ active tr, C tr s → activeIs E s digest → ensures (credNext E) C (f active) R tr s) :
    ensures (credNext E) C (requireActive E e digest >>= f) R tr s := by
  refine ensures_bind (Q := fun _ _ s' => s' = s ∧ activeIs E s digest) ?_ ?_
  · refine loadIdentityOr_bind hC fun active tr' hC' hread => ensures_require_bind hC' fun hdigest => ?_
    obtain ⟨file, hfile, hdata, -⟩ := readIdentity_ok hread
    exact ensures_pure hC' ⟨rfl, file, hfile, by rw [hdata]; exact beq_iff_eq.1 hdigest⟩
  · rintro active tr' _ hC' ⟨rfl, hactive⟩
    exact hf active tr' hC' hactive

theorem identityCleanupComplete_bind {C : List HostStep → Host → Prop} [Watching C] {β : Type} {e : CredError}
    {f : Unit → Cred β} {R : β → List HostStep → Host → Prop} (hC : C tr s)
    (hf : ∀ tr, C tr s → ensures (credNext E) C (f ()) R tr s) :
    ensures (credNext E) C (identityCleanupComplete e >>= f) R tr s := by
  refine ensures_bind (Q := fun _ _ s' => s' = s) ?_ ?_
  · refine lstat_bind hC fun tr1 hC1 => lstat_bind hC1 fun tr2 hC2 => ?_
    exact ensures_require hC2 fun _ => rfl
  · rintro _ tr' _ hC' rfl
    exact hf tr' hC'

theorem stagedAsRecorded_ensures {C : List HostStep → Host → Prop} [Watching C] (hC : C tr s) :
    ensures (credNext E) C (stagedAsRecorded E status) (fun b _ s' => s' = s ∧ (b = false → s.staged = none)) tr s := by
  unfold stagedAsRecorded
  refine lstat_bind hC fun tr1 hC1 => ensures_ite (fun h => ensures_pure hC1 ⟨rfl, fun _ => ?_⟩) fun _ => ?_
  · simpa [Host.slot] using h
  · refine loadIdentityOr_bind hC1 fun staged tr2 hC2 _ => ensures_require_bind hC2 fun _ => ?_
    exact ensures_pure hC2 ⟨rfl, fun h => by cases h⟩

theorem digest_injective (hinj : Function.Injective E.sha256) {a b : Bytes}
    (h : runtimeCredentialDigest E a = runtimeCredentialDigest E b) : a = b := by
  refine hinj ?_
  simpa [runtimeCredentialDigest] using h

/-- An active identity with the recorded staged digest has the pending token. -/
theorem Held.settled_of_digest (h : Held E s) (hinj : Function.Injective E.sha256) (hs : s.state = some status)
    {active : Identity} (ha : readIdentity E s.active = .ok active)
    (hd : runtimeCredentialDigest E active.data = status.stagedIdentitySHA256) : Settled E s := by
  intro r token ho
  rcases h r token ho with h | ⟨st, f, c, hst, -, -, -, hf, hc, htoken⟩
  · exact h
  · obtain rfl := Option.some.inj (hs.symm.trans hst)
    obtain ⟨g, hg, hdata, -⟩ := readIdentity_ok ha
    have hsame : g.data = f.data := digest_injective hinj (hdata ▸ hd.trans hf.symm)
    exact ⟨g, c, hg, hsame ▸ hc, htoken⟩

/-! ## The cases -/

/-- the result of binding a staged file to an unstaged record -/
inductive BindOutcome (E : CredentialEnv) (s : Host) (status : RuntimeCredentialStatus) :
    RuntimeCredentialStatus × Bool → Host → Prop
  | absent (hstaged : s.staged = none) : BindOutcome E s status (status, false) s
  | bound (hstaged : s.staged ≠ none) {b : RuntimeCredentialStatus} (hb : BoundTo status b) (hsound : b.sound E = true) :
      BindOutcome E s status (b, true) (saved s b)

/-- the program reconciles `status`, the record of the host -/
abbrev Reconciles (E : CredentialEnv) (w : Watch) (now : ℕ) (status : RuntimeCredentialStatus)
    (p : Cred RuntimeCredentialStatus) (tr : List HostStep) (s : Host) : Prop :=
  w.Ensures E p (fun r _ s' => Reconciled E now s status r s') tr s

section Cases

variable (hC : w.C E tr s) (hs : s.state = some status) (hsound : status.sound E = true)

include hC hs

/-- saving the bound record, at the end of both bindings -/
theorem bindStagedFile_ensures {phase : Phase} {e₁ e₂ e₃ e₄ : String} {accepts : Identity → Bool}
    {bound : Identity → RuntimeCredentialStatus} (hp : status.phase.unstaged = true)
    (hb : ∀ staged, BoundTo status (bound staged)) :
    w.Ensures E (bindStagedFile E status phase e₁ e₂ e₃ e₄ accepts bound)
      (fun r _ s' => BindOutcome E s status r s') tr s := by
  unfold bindStagedFile
  refine ensures_require_bind hC fun _ => lstat_bind hC fun tr1 hC1 => ?_
  refine ensures_require_bind hC1 fun _ => lstat_bind hC1 fun tr2 hC2 => ?_
  refine ensures_ite (fun h => ensures_pure hC2 (.absent ?_)) fun h => ?_
  · simpa [Host.slot] using h
  refine loadIdentityOr_bind hC2 fun staged tr3 hC3 _ => ensures_require_bind hC3 fun _ => ?_
  have hopen := Phase.unstaged_open hp
  refine saveStatus_bind hC3 (fun _ => Follows.of_record hs hopen.1) (fun hw => ?_) fun tr' hC' hsound => ?_
  · exact ((hC3.settled hs hopen.2 hw).saved _).held
  · exact ensures_pure hC' (.bound (by simpa [Host.slot, Option.isSome_iff_ne_none] using h) (hb staged) hsound)

include hsound

/-- An expiry that is due is recorded before anything is wiped. -/
theorem expireIfDue_ensures {stagedExists : Bool} (hopen : status.phase.ended = false) :
    w.Ensures E (expireIfDue E now status stagedExists)
      (fun r _ s' => s'.state = some r ∧ r.sound E = true ∧
        (now < status.stagedExpiresAt ∧ r = status ∨ ¬ now < status.stagedExpiresAt ∧ r = status.expire)) tr s := by
  refine ensures_ite (fun h => ensures_pure hC ⟨hs, hsound, .inl ⟨h, rfl⟩⟩) fun h => ?_
  have hset : w.tokens → Settled E (saved s status.expire) := fun hw => (hC.2 hw).saved_ended hs rfl rfl
  refine saveStatus_bind hC (fun _ => Follows.of_record hs hopen) (fun hw => (hset hw).held) fun tr' hC' hexp => ?_
  refine ensures_ite (fun _ => ?_) fun _ => ensures_pure hC' ⟨rfl, hexp, .inr ⟨h, rfl⟩⟩
  refine ensures_bind (wipe_ensures hC' hset) fun _ tr'' s'' hC'' hframe => ?_
  exact ensures_pure hC'' ⟨hframe.state, hexp, .inr ⟨h, rfl⟩⟩

omit hC in
/-- A binding and the expiry behind it, for a caller that keeps the unstaged record. -/
theorem bindThenExpire_ensures {bind : Cred (RuntimeCredentialStatus × Bool)} (hp : status.phase.unstaged = true)
    (hbind : w.Ensures E bind (fun r _ s' => BindOutcome E s status r s') tr s) :
    Reconciles E w now status
      (do
        let (bound, stagedExists) ← bind
        let _ ← expireIfDue E now bound stagedExists
        pure status) tr s := by
  refine ensures_bind hbind ?_
  rintro _ tr' s' hC' hb
  cases hb with
  | absent hstaged =>
    refine ensures_bind (expireIfDue_ensures hC' hs hsound (Phase.unstaged_open hp).1) ?_
    rintro d tr'' s'' hC'' ⟨hd, hdsound, ⟨hnow, rfl⟩ | ⟨hdue, rfl⟩⟩
    · exact ensures_pure hC'' ⟨_, hd, hdsound, .waiting hp hstaged hnow⟩
    · exact ensures_pure hC'' ⟨_, hd, hdsound, .lapsed hp hdue⟩
  | @bound hstaged b hb hbsound =>
    have hopen : b.phase.ended = false := by rw [hb.phase]; rfl
    refine ensures_bind (expireIfDue_ensures hC' rfl hbsound hopen) ?_
    rintro d tr'' s'' hC'' ⟨hd, hdsound, ⟨hnow, rfl⟩ | ⟨hdue, rfl⟩⟩
    · exact ensures_pure hC'' ⟨_, hd, hdsound, .bound hp hstaged (hb.stagedExpiresAt ▸ hnow) hb⟩
    · exact ensures_pure hC'' ⟨_, hd, hdsound, .boundLapsed hp (hb.stagedExpiresAt ▸ hdue) hb⟩

theorem reconcileClaimPrepared_ensures (hp : status.phase.unstaged = true) :
    Reconciles E w now status (reconcileClaimPrepared E now status) tr s := by
  unfold reconcileClaimPrepared
  refine requireActive_bind hC fun active tr1 hC1 _ => lstat_bind hC1 fun tr2 hC2 => ?_
  refine ensures_require_bind hC2 fun _ => ?_
  exact bindThenExpire_ensures hs hsound hp (bindStagedFile_ensures hC2 hs hp fun _ => ⟨rfl, rfl, rfl⟩)

theorem reconcileStageBound_ensures (hp : status.phase.unstaged = true) :
    Reconciles E w now status (reconcileStageBound E now status) tr s := by
  unfold reconcileStageBound
  refine requireActive_bind hC fun active tr1 hC1 _ => ?_
  exact bindThenExpire_ensures hs hsound hp (bindStagedFile_ensures hC1 hs hp fun _ => ⟨rfl, rfl, rfl⟩)

/-- the expiry at the end of the staged cases -/
theorem expireStaged_ensures {stagedExists : Bool} (hp : status.phase.staging = true) :
    Reconciles E w now status (expireIfDue E now status stagedExists) tr s := by
  have hphase : status.phase.unstaged = false ∧ status.phase.ended = false := by
    cases h : status.phase <;> simp_all [Phase.unstaged, Phase.staging, Phase.ended]
  refine ensures_mono (expireIfDue_ensures hC hs hsound hphase.2) ?_
  rintro r _ s' _ ⟨hd, hdsound, ⟨hnow, rfl⟩ | ⟨_, rfl⟩⟩
  · exact ⟨_, hd, hdsound, .kept hphase.1 fun _ => hnow⟩
  · exact ⟨_, hd, hdsound, .expired hphase.1⟩

theorem reconcileStaged_ensures (hp : status.phase.staging = true) :
    Reconciles E w now status (reconcileStaged E now status) tr s := by
  unfold reconcileStaged
  refine requireActive_bind hC fun active tr1 hC1 _ => ?_
  refine ensures_bind (stagedAsRecorded_ensures hC1) ?_
  rintro stagedExists tr2 _ hC2 ⟨rfl, -⟩
  refine lstat_bind hC2 fun tr3 hC3 => ensures_require_bind hC3 fun _ => ?_
  exact expireStaged_ensures hC3 hs hsound hp

theorem reconcileAcknowledged_ensures (hinj : w.tokens → Function.Injective E.sha256) (hp : status.phase.staging = true) :
    Reconciles E w now status (reconcileAcknowledged E now status) tr s := by
  have hphase : status.phase.unstaged = false ∧ status.phase.ended = false := by
    cases h : status.phase <;> simp_all [Phase.unstaged, Phase.staging, Phase.ended]
  unfold reconcileAcknowledged
  refine loadIdentityOr_bind hC fun staged tr1 hC1 _ => ensures_require_bind hC1 fun _ => ?_
  refine loadIdentity_bind hC1 fun active tr2 hC2 hactive => ?_
  refine ensures_ite (fun h => ?_) fun _ => ensures_require_bind hC2 fun _ =>
    expireStaged_ensures hC2 hs hsound hp
  have hset : w.tokens → Settled E s := fun hw => (hC2.2 hw).settled_of_digest (hinj hw) hs hactive h.2
  refine saveStatus_bind hC2 (fun _ => Follows.of_record hs hphase.2) (fun hw => ((hset hw).saved _).held) ?_
  intro tr3 hC3 hact
  refine ensures_bind (wipe_ensures hC3 fun hw => (hset hw).saved _) fun _ tr4 s4 hC4 hframe => ?_
  exact ensures_pure hC4 ⟨_, hframe.state, hact, .activated hphase.1 _⟩

theorem reconcileSettled_ensures {e : CredError} {digest : String} (hp : status.phase.unstaged = false)
    (hp' : status.phase.staging = false) : Reconciles E w now status (reconcileSettled E e digest status) tr s := by
  have hproof : status.phase ≠ .proofReady := by
    intro h
    simp [h, Phase.staging] at hp'
  unfold reconcileSettled
  refine requireActive_bind hC fun active tr1 hC1 _ => ?_
  refine ensures_bind (wipe_ensures hC1 (hC1.settled hs hproof)) fun _ tr2 s2 hC2 hframe => ?_
  exact ensures_pure hC2 ⟨_, hframe.state.trans hs, hsound, .kept hp fun h => by simp [hp'] at h⟩

/-- **The switch.** Every record comes out by one of the outcomes. -/
theorem reconcileStatus_ensures (hinj : w.tokens → Function.Injective E.sha256) :
    Reconciles E w now status (reconcileStatus E now status) tr s := by
  have hsettled : ∀ {e digest}, status.phase.unstaged = false → status.phase.staging = false →
      Reconciles E w now status (reconcileSettled E e digest status) tr s := reconcileSettled_ensures hC hs hsound
  unfold reconcileStatus
  cases hp : status.phase with
  | claimPrepared => exact reconcileClaimPrepared_ensures hC hs hsound (by simp [hp, Phase.unstaged])
  | stageBound => exact reconcileStageBound_ensures hC hs hsound (by simp [hp, Phase.unstaged])
  | staged => exact reconcileStaged_ensures hC hs hsound (by simp [hp, Phase.staging])
  | localStaged => exact reconcileAcknowledged_ensures hC hs hsound hinj (by simp [hp, Phase.staging])
  | proofReady => exact reconcileAcknowledged_ensures hC hs hsound hinj (by simp [hp, Phase.staging])
  | activated => exact hsettled (by simp [hp, Phase.unstaged]) (by simp [hp, Phase.staging])
  | expired => exact hsettled (by simp [hp, Phase.unstaged]) (by simp [hp, Phase.staging])
  | manualRecovered => exact hsettled (by simp [hp, Phase.unstaged]) (by simp [hp, Phase.staging])
  | cancelled =>
    exact ensures_pure hC ⟨_, hs, hsound, .kept (by simp [hp, Phase.unstaged]) (by simp [hp, Phase.staging])⟩
  | cancelReady =>
    refine ensures_bind (hsettled (by simp [hp, Phase.unstaged]) (by simp [hp, Phase.staging])) ?_
    intro r tr1 s1 hC1 hr
    exact identityCleanupComplete_bind hC1 fun tr2 hC2 => ensures_pure hC2 hr

end Cases

/-- Without a record the cleanup of an orphaned staged file creates none. -/
theorem cleanupExpiredOrphaned_ensures (hC : w.C E tr s) (hs : s.state = none) :
    w.Ensures E (cleanupExpiredOrphanedStagedIdentity E now)
      (fun _ _ s' => s'.state = none) tr s := by
  have horphan : issues Cleaning (cleanupOrphanedStaged E now) := by
    refine issues_bind (issues_ofProgOr ⟨trivial, fun _ => trivial⟩) fun stagedExists => ?_
    refine issues_ite issues_pure ?_
    refine issues_bind (issues_ofProg ⟨trivial, fun _ => trivial⟩) fun staged => ?_
    refine issues_ite issues_pure ?_
    refine issues_bind (issues_ofProgOr ⟨trivial, fun _ => trivial⟩) fun active => ?_
    exact issues_bind issues_require fun _ => wipeAndRemoveIdentity_cleaning _
  have hall : issues Cleaning (cleanupExpiredOrphanedStagedIdentity E now) := by
    refine issues_bind (issues_ofProgOr ⟨trivial, fun _ => trivial⟩) fun wipingExists => ?_
    exact issues_ite (issues_bind (wipeAndRemoveIdentity_cleaning _) fun _ => horphan) horphan
  have hset : w.tokens → Settled E s := fun hw => (hC.2 hw).settled (by simp [hs])
  exact ensures_mono (cleaning_ensures hall hC hset) fun _ _ _ _ h => h.state.trans hs

/-- what `loadAndReconcileStatus` returns and leaves: nothing on record, or a reconciled record -/
inductive Loaded (E : CredentialEnv) (now : ℕ) (s : Host) : Option RuntimeCredentialStatus → Host → Prop
  | absent (hs : s.state = none) {s' : Host} (hs' : s'.state = none) : Loaded E now s none s'
  | record {status r : RuntimeCredentialStatus} (hs : s.state = some status) {s' : Host}
      (h : Reconciled E now s status r s') : Loaded E now s (some r) s'

theorem readStatus_ok {r : Option RuntimeCredentialStatus} (h : readStatus E s.state = .ok r) :
    s.state = r ∧ ∀ st, r = some st → st.sound E = true := by
  cases hs : s.state with
  | none =>
    rw [hs] at h
    cases h
    exact ⟨rfl, by simp⟩
  | some st =>
    simp only [hs, readStatus] at h
    split_ifs at h with hsound
    cases h
    exact ⟨rfl, fun _ h => Option.some.inj h ▸ hsound⟩

theorem loadAndReconcileStatus_ensures (hinj : w.tokens → Function.Injective E.sha256) (hC : w.C E tr s) :
    w.Ensures E (loadAndReconcileStatus E now) (fun r _ s' => Loaded E now s r s') tr s := by
  unfold loadAndReconcileStatus
  refine loadStatus_bind hC fun r tr1 hC1 hr => ?_
  obtain ⟨hs, hsound⟩ := readStatus_ok hr
  cases r with
  | none =>
    refine ensures_bind (cleanupExpiredOrphaned_ensures hC1 hs) fun _ tr2 s2 hC2 hs2 => ?_
    exact ensures_pure hC2 (.absent hs hs2)
  | some status =>
    refine ensures_bind (reconcileStatus_ensures hC1 hs (hsound _ rfl) hinj) fun r tr2 s2 hC2 hr2 => ?_
    exact ensures_pure hC2 (.record hs hr2)

/-! ## The returned record -/

/-- a record in an unstaged phase has no staged file beside it and has not expired -/
def inStep (now : ℕ) (s : Host) : Bool :=
  s.state.all fun st => !st.phase.unstaged || (s.staged.isNone && now < st.stagedExpiresAt)

theorem inStep_record (hs : s.state = some status) :
    inStep now s = true ↔ (status.phase.unstaged = true → s.staged = none ∧ now < status.stagedExpiresAt) := by
  cases h : status.phase.unstaged <;> simp [inStep, hs, h]

theorem Outcome.durable_eq_iff (h : Outcome now s status returned durable) (hs : s.state = some status) :
    durable = returned ↔ inStep now s = true := by
  rw [inStep_record hs]
  -- an unstaged record differs from every bound and every expired one in its phase
  have hdiff : ∀ d : RuntimeCredentialStatus, status.phase.unstaged = true → d.phase.unstaged = false → d ≠ status := by
    rintro d hp hd rfl
    simp [hp] at hd
  cases h with
  | kept hp _ => simp [hp]
  | expired hp => simp [hp]
  | activated hp _ => simp [hp]
  | waiting hp hstaged hfresh => simp [hstaged, hfresh]
  | lapsed hp hdue => simp [hp, hdue, hdiff status.expire hp rfl]
  | bound hp hstaged _ hb => simp [hp, hstaged, hdiff _ hp (by rw [hb.phase]; rfl)]
  | @boundLapsed hp hdue b _ => simp [hp, hdue, hdiff b.expire hp rfl]

end Outcomes

/-- **When the caller sees the durable record.** Whenever `loadAndReconcileStatus` succeeds, a read of the record right
after it gives the returned record, unless it found an unstaged record with a staged file beside it or past its expiry. -/
theorem reconciled_record_is_durable (E : CredentialEnv) (now : ℕ) (s : Host) (cs : List Choice)
    (r : Option RuntimeCredentialStatus)
    (h : ((loadAndReconcileStatus E now).run.exec (credNext E) s cs).out = some (.ok r)) :
    readStatus E ((loadAndReconcileStatus E now).run.exec (credNext E) s cs).st.state = .ok r ↔ inStep now s = true := by
  have hC : Watch.C E ⟨False, False, now⟩ [] s := ⟨False.elim, False.elim⟩
  have hensures : Fallible.ensures (credNext E) (Watch.C E ⟨False, False, now⟩) (loadAndReconcileStatus E now)
      (fun r _ s' => Loaded E now s r s') [] s := loadAndReconcileStatus_ensures False.elim hC
  have hloaded := (Fallible.ensures_exec hensures cs).2 r h
  generalize ((loadAndReconcileStatus E now).run.exec (credNext E) s cs).st = s' at hloaded ⊢
  cases hloaded with
  | absent hs hs' => simp [hs', readStatus, inStep, hs]
  | record hs hrec =>
    obtain ⟨d, hd, hsound, houtcome⟩ := hrec
    rw [← houtcome.durable_eq_iff hs]
    simp [hd, readStatus, hsound]

/-! ## A rotation that was prepared -/

/-- a small environment: two identities, and a digest of 64 characters for them and their tokens -/
def sampleEnv : CredentialEnv where
  sha256 := fun data => String.ofList <|
    if data = [] then List.replicate 64 '0'
    else if data = [1] then List.replicate 64 '1'
    else if data = [2] then List.replicate 64 '2'
    else if data = [97] then List.replicate 64 'a'
    else if data = [98] then List.replicate 64 'b'
    else 'x' :: data.map fun b => Char.ofNat b.toNat
  decodeIdentity := fun data =>
    if data = [1] then some ⟨"https://panel", "svc-1", "a", "agent"⟩
    else if data = [2] then some ⟨"https://panel", "svc-1", "b", "agent"⟩
    else none
  marshalIdentity := fun config =>
    if config.runtimeToken = "a" then some [1] else if config.runtimeToken = "b" then some [2] else none

/-- the record of a prepared rotation from token `a` that expires at 100 -/
def sampleRecord : RuntimeCredentialStatus where
  phase := .claimPrepared
  rotationID := "rotation-1"
  serviceID := "svc-1"
  executionHostID := "host-1"
  previousTokenID := "token-1"
  stagedTokenID := "token-2"
  rotationRevision := 1
  ownershipEpoch := 1
  sourcePolicyRevision := 1
  projectionRevision := 1
  localExecutorPolicyRevision := 1
  stagedIdentitySHA256 := runtimeCredentialDigest sampleEnv []
  previousIdentitySHA256 := runtimeCredentialDigest sampleEnv [1]
  localExecutorPolicySHA256 := runtimeCredentialDigest sampleEnv []
  executorVersion := "v1.0.0"
  stagedExpiresAt := 100
  previousRuntimeTokenSHA256 := runtimeCredentialTokenDigest sampleEnv "a"
  serviceName := "agent"

def sampleHost : Host where
  state := some sampleRecord
  active := some ⟨[1], 1⟩

/-- Before its expiry the prepared record is returned as it stays on disk. -/
theorem sample_record_is_durable :
    readStatus sampleEnv ((loadAndReconcileStatus sampleEnv 50).run.exec (credNext sampleEnv) sampleHost
        (List.replicate 5 (.done 50))).st.state = .ok (some sampleRecord) ↔ inStep 50 sampleHost = true :=
  reconciled_record_is_durable sampleEnv 50 sampleHost (List.replicate 5 (.done 50)) (some sampleRecord)
    (by decide +kernel)

/-- **A stale record is returned.** At its expiry the prepared record is saved as expired and returned as prepared. -/
theorem stale_record_returned :
    ((loadAndReconcileStatus sampleEnv 100).run.exec (credNext sampleEnv) sampleHost
        (List.replicate 6 (.done 100))).out = some (.ok (some sampleRecord)) ∧
      readStatus sampleEnv ((loadAndReconcileStatus sampleEnv 100).run.exec (credNext sampleEnv) sampleHost
        (List.replicate 6 (.done 100))).st.state = .ok (some sampleRecord.expire) ∧
      sampleRecord.expire ≠ sampleRecord := by
  decide +kernel

end AutostreamUpdater.Credential
