/-
What warrants each change that the credential procedures make.

`Warranted` says, for every operation that changes something, what holds of the host when it is issued: a record is saved
only beside the active identity it names, the staged file is quarantined only when no record needs it, and the active
identity is written only under a proof-ready record, over the previous identity, after the panel answered the activation.
One lemma for each procedure shows that all its operations are warranted; the results about runs are read off `Warrants`.
-/
import AutostreamUpdater.Credential.Operations

namespace AutostreamUpdater.Credential

open Contract Base Fallible

/-- the phases whose staged secret is still needed -/
def Phase.needsStaged (p : Phase) : Bool := p.unstaged || p.staging

/-- the phases in which the staged secret is to be gone -/
def Phase.settled : Phase → Bool
  | .activated | .cancelReady | .expired | .manualRecovered => true
  | _ => false

theorem Phase.settled_unneeded {p : Phase} (h : p.settled = true) : p.needsStaged = false := by
  cases p <;> simp_all [Phase.settled, Phase.needsStaged, Phase.unstaged, Phase.staging]

/-- the digest of the active identity that a record is saved beside -/
def RuntimeCredentialStatus.activeDigest (st : RuntimeCredentialStatus) : String :=
  match st.phase with
  | .activated => st.stagedIdentitySHA256
  | .manualRecovered => st.activeIdentitySHA256
  | _ => st.previousIdentitySHA256

variable {st : RuntimeCredentialStatus}

theorem activeDigest_of_needs (h : st.phase.needsStaged = true) : st.activeDigest = st.previousIdentitySHA256 := by
  cases hp : st.phase <;> simp_all [RuntimeCredentialStatus.activeDigest, Phase.needsStaged, Phase.unstaged, Phase.staging]

/-- the panel's answer that activates the rotation of a record -/
def Activates (st : RuntimeCredentialStatus) (y : HostStep) : Prop :=
  ∃ pre post token rotation, y = ⟨pre, .panel (.activate st.rotationID st.rotationRevision token), .ok rotation, post⟩ ∧
    panelTransitionValid rotation st .activated (incr64 st.rotationRevision) = true

section Warrants

variable (E : CredentialEnv)

/-- what holds when an operation is issued on the host `s`, behind the steps `before` of the same event -/
inductive Warranted (before : List HostStep) (s : Host) : Act → Prop
  | layout : Warranted before s .layout
  | overwrite : Warranted before s .overwrite
  | truncate : Warranted before s .truncate
  | removeWiping : Warranted before s .removeWiping
  | removeState : Warranted before s .removeState
  | writeStaged {data : Bytes} {replace : Bool} : Warranted before s (.writeIdentity .staged data replace)
  | quarantine (h : ∀ st, s.state = some st → st.phase.needsStaged = false) : Warranted before s .quarantine
  | writeActive {st : RuntimeCredentialStatus} {data : Bytes} (hs : s.state = some st) (hphase : st.phase = .proofReady)
      (hprevious : activeIs E s st.previousIdentitySHA256) (hstaged : ¬ activeIs E s st.stagedIdentitySHA256)
      (hdata : runtimeCredentialDigest E data = st.stagedIdentitySHA256) (hpanel : ∃ y ∈ before, Activates st y) :
      Warranted before s (.writeIdentity .active data true)
  | save {st : RuntimeCredentialStatus} (hactive : activeIs E s st.activeDigest)
      (hroom : st.phase.needsStaged = true → s.wiping = none ∨ ∃ d, s.state = some d ∧ d.phase.needsStaged = true)
      (hmanual : st.phase = .manualRecovered → ∃ d, s.state = some d ∧ ¬ activeIs E s d.previousIdentitySHA256 ∧
        ¬ activeIs E s d.stagedIdentitySHA256) : Warranted before s (.saveStatus st)
  -- the staged file is bound to an unstaged record; the recovery does so before it looks at the active identity
  | bind {st d : RuntimeCredentialStatus} (hs : s.state = some d) (hd : d.phase.unstaged = true) (hphase : st.phase = .staged)
      (hprevious : st.previousIdentitySHA256 = d.previousIdentitySHA256) (hwiping : s.wiping = none) :
      Warranted before s (.saveStatus st)

/-- every operation of the steps was warranted -/
def Warrants (tr : List HostStep) (_ : Host) : Prop :=
  ∀ before x rest, tr = before ++ x :: rest → ∀ a, x.op = .act a → Warranted E before x.pre a

/-- every operation of `p` is warranted, and `p` ends in `Q` -/
abbrev Justified {α : Type} (p : Cred α) (Q : α → List HostStep → Host → Prop) : List HostStep → Host → Prop :=
  ensures (credNext E) (Warrants E) p Q

variable {E} {s s' : Host} {tr : List HostStep} {status : RuntimeCredentialStatus} {now : ℕ} {α β : Type}
  {R : β → List HostStep → Host → Prop} {policy : CredentialPolicy} {request : CredentialRequest}
  {m : RuntimeCredentialMutation} {current : Option RuntimeCredentialStatus} {active : Identity}

theorem Warrants.step (h : Warrants E tr s) {x : HostStep} (hx : ∀ a, x.op = .act a → Warranted E tr x.pre a) :
    Warrants E (tr ++ [x]) s' := by
  intro before y rest hsplit a ha
  rcases List.eq_nil_or_concat rest with rfl | ⟨rest, z, rfl⟩
  · obtain ⟨rfl, hxy⟩ := List.append_inj' hsplit rfl
    cases hxy
    exact hx a ha
  · have hsplit' : tr ++ [x] = (before ++ y :: rest) ++ [z] := by simpa using hsplit
    exact h before y rest (List.append_inj' hsplit' rfl).1 a ha

instance : Watching (Warrants E) where
  read {_ _ o} res ho hC := by
    refine hC.step fun a ha => ?_
    subst ha
    cases a with
    | layout => exact .layout
    | _ => exact ho.elim

variable (hC : Warrants E tr s)

include hC

/-- the rule for a warranted operation -/
theorem act_warranted {a : Act} {Q : Unit → List HostStep → Host → Prop} (hw : Warranted E tr s a)
    (hQ : ∀ time s' tr, Warrants E tr s' → a.effect time s = .ok s' → Q () tr s') : Justified E (act a) Q tr s := by
  have hstep : ∀ res s', Warrants E (tr ++ [⟨s, .act a, res, s'⟩]) s' := fun res s' =>
    hC.step fun b hb => by cases hb; exact hw
  exact act_rule hC (fun res => hstep res s) (fun _ s' res _ => hstep res s') hQ

/-- the rule for a warranted operation whose error does not stop the procedure -/
theorem total_warranted {a : Act} {f : Except CredError Unit → Cred β} (hw : Warranted E tr s a)
    (hf : ∀ r tr s', Warrants E tr s' → (s' = s ∨ ∃ time, a.effect time s = .ok s') →
      Justified E (f r) R tr s') : Justified E (Fallible.total (Prog.op (CredOp.act a)) >>= f) R tr s := by
  have hstep : ∀ res s', Warrants E (tr ++ [⟨s, .act a, res, s'⟩]) s' := fun res s' =>
    hC.step fun b hb => by cases hb; exact hw
  refine ensures_bind (Q := fun _ _ s' => s' = s ∨ ∃ time, a.effect time s = .ok s') ?_ hf
  refine ensures_total (Prog.wp_op.2 ⟨hC, fun c => ⟨hstep _ _, ?_⟩⟩)
  simp only [credNext]
  rcases actNext_cases s a c with ⟨e, h⟩ | ⟨time, s', heff, ⟨e, h⟩ | h⟩
  · exact .inl (by rw [h])
  · exact .inr ⟨time, by rw [h]; exact heff⟩
  · exact .inr ⟨time, by rw [h]; exact heff⟩

/-- the rule for a warranted save -/
theorem save_warranted {f : Unit → Cred β} (hw : Warranted E tr s (.saveStatus st))
    (hf : ∀ tr, Warrants E tr (saved s st) → Justified E (f ()) R tr (saved s st)) :
    Justified E (saveStatus E st >>= f) R tr s := by
  have hstep : ∀ res s', Warrants E (tr ++ [⟨s, .act (.saveStatus st), res, s'⟩]) s' := fun res s' =>
    hC.step fun b hb => by cases hb; exact hw
  exact saveStatus_rule hC (fun res => hstep res s) (fun res => hstep res _) fun tr' hC' _ => hf tr' hC'

omit hC in
theorem Warranted.settle (hphase : st.phase.needsStaged = false) (hmanual : st.phase ≠ .manualRecovered)
    (h : activeIs E s st.activeDigest) : Warranted E tr s (.saveStatus st) :=
  .save h (fun hneeds => absurd (hneeds.symm.trans hphase) (by decide)) fun hm => absurd hm hmanual

/-! ## Wiping -/

/-- the files of a finished wipe -/
structure Wiped (s s' : Host) : Prop where
  frame : Frame s s'
  staged : s'.staged = none
  wiping : s'.wiping = none

theorem erase_wiped (hstaged : s.staged = none) : Justified E eraseQuarantined (fun _ _ s' => Wiped s s') tr s := by
  unfold eraseQuarantined
  refine lstat_bind hC fun tr1 hC1 => total_warranted hC1 .overwrite fun overwritten tr2 s2 hC2 h2 => ?_
  have hframe2 : Frame s s2 ∧ s2.staged = none := by
    rcases h2 with rfl | ⟨time, heff⟩
    · exact ⟨Frame.refl s2, hstaged⟩
    · cases heff
      exact ⟨⟨rfl, rfl, rfl⟩, hstaged⟩
  refine total_warranted hC2 .truncate fun truncated tr3 s3 hC3 h3 => ?_
  have hframe3 : Frame s s3 ∧ s3.staged = none := by
    rcases h3 with rfl | ⟨time, heff⟩
    · exact hframe2
    · cases heff
      exact ⟨⟨hframe2.1.state, hframe2.1.active, hframe2.1.owed⟩, hframe2.2⟩
  refine ensures_bind (Q := fun _ _ s' => Wiped s s') (act_warranted hC3 .removeWiping ?_) ?_
  · intro time s' tr' _ heff
    cases heff
    exact ⟨⟨hframe3.1.state, hframe3.1.active, hframe3.1.owed⟩, hframe3.2, rfl⟩
  · intro _ tr4 s4 hC4 hwiped
    exact ensures_require hC4 fun _ => hwiped

variable {digest : String}

/-- A wipe that succeeds leaves neither file. -/
theorem wipe_wiped (hneeds : ∀ st, s.state = some st → st.phase.needsStaged = false) :
    Justified E (wipeAndRemoveIdentity E digest) (fun _ _ s' => Wiped s s') tr s := by
  unfold wipeAndRemoveIdentity
  refine lstat_bind hC fun tr1 hC1 => lstat_bind hC1 fun tr2 hC2 => ensures_require_bind hC2 fun hboth => ?_
  refine ensures_ite (fun hwiping => ?_) fun hwiping => ensures_ite (fun hstaged => ?_) fun hstaged => ?_
  · rw [hwiping, Bool.and_true] at hboth
    exact erase_wiped hC2 (by simpa [Host.slot] using hboth)
  · unfold quarantineStaged
    refine ensures_bind (Q := fun _ _ s' => Frame s s' ∧ s'.staged = none) ?_ ?_
    · refine read_bind hC2 fun data tr3 hC3 _ => ensures_require_bind hC3 fun _ => ?_
      refine act_warranted hC3 (.quarantine hneeds) fun time s' tr' _ heff => ?_
      simp only [Act.effect] at heff
      cases hfile : s.staged with
      | none => simp [hfile] at heff
      | some file =>
        simp only [hfile] at heff
        cases heff
        exact ⟨⟨rfl, rfl, rfl⟩, rfl⟩
    · rintro _ tr4 s4 hC4 ⟨hframe, hgone⟩
      refine ensures_mono (erase_wiped hC4 hgone) fun _ _ s' _ h => ⟨?_, h.staged, h.wiping⟩
      exact ⟨h.frame.state.trans hframe.state, h.frame.active.trans hframe.active, h.frame.owed.trans hframe.owed⟩
  · refine ensures_pure hC2 ⟨Frame.refl s, ?_, ?_⟩
    · simpa [Host.slot] using hstaged
    · simpa [Host.slot] using hwiping

omit hC in
theorem Wiped.trans_active (h : Wiped s s') (ha : activeIs E s digest) : activeIs E s' digest := by
  obtain ⟨f, hf, hd⟩ := ha
  exact ⟨f, h.frame.active.trans hf, hd⟩

/-- A settled record is saved, and then the staged secret wiped. -/
theorem settleThenWipe {f : Unit → Cred β} (hphase : st.phase.needsStaged = false)
    (hw : Warranted E tr s (.saveStatus st))
    (hf : ∀ tr s', Warrants E tr s' → Wiped (saved s st) s' → Justified E (f ()) R tr s') :
    Justified E (saveStatus E st >>= fun _ => wipeAndRemoveIdentity E digest >>= f) R tr s := by
  refine save_warranted hC hw fun tr1 hC1 => ?_
  refine ensures_bind (wipe_wiped hC1 fun st' hst' => ?_) fun _ tr2 s2 hC2 h2 => hf tr2 s2 hC2 h2
  cases hst'
  exact hphase

/-! ## Reconciliation -/

/-- what a reconciliation leaves under the record that it returns -/
structure Checked (E : CredentialEnv) (s : Host) (status : RuntimeCredentialStatus) : Prop where
  record : ∃ d, s.state = some d ∧ (status.phase.unstaged = false → d = status) ∧
    (d.phase.settled = true → s.staged = none ∧ s.wiping = none)
  active : status.phase ≠ .cancelled → activeIs E s status.activeDigest
  unwiped : status.phase.unstaged = true → s.wiping = none
  inactive : status.phase = .proofReady → ¬ activeIs E s status.stagedIdentitySHA256

omit hC in
theorem Checked.of_settled (hs : s.state = some status) (hp : status.phase.settled = true)
    (hactive : activeIs E s status.activeDigest) (hstaged : s.staged = none) (hwiping : s.wiping = none) :
    Checked E s status where
  record := ⟨status, hs, fun _ => rfl, fun _ => ⟨hstaged, hwiping⟩⟩
  active _ := hactive
  unwiped _ := hwiping
  inactive h := by
    rw [h] at hp
    cases hp

/-- what binding a staged file to an unstaged record leaves -/
inductive BindChecked (s : Host) (status : RuntimeCredentialStatus) : RuntimeCredentialStatus × Bool → Host → Prop
  | absent (hwiping : s.wiping = none) (hstaged : s.staged = none) : BindChecked s status (status, false) s
  | bound (hwiping : s.wiping = none) {b : RuntimeCredentialStatus} (hphase : b.phase = .staged)
      (hprevious : b.previousIdentitySHA256 = status.previousIdentitySHA256) : BindChecked s status (b, true) (saved s b)

theorem bindStagedFile_checked {phase : Phase} {e₁ e₂ e₃ e₄ : String} {accepts : Identity → Bool}
    {bound : Identity → RuntimeCredentialStatus} (hs : s.state = some status) (hp : status.phase.unstaged = true)
    (hb : ∀ staged, (bound staged).phase = .staged ∧
      (bound staged).previousIdentitySHA256 = status.previousIdentitySHA256) :
    Justified E (bindStagedFile E status phase e₁ e₂ e₃ e₄ accepts bound) (fun r _ s' => BindChecked s status r s') tr s := by
  unfold bindStagedFile
  refine ensures_require_bind hC fun _ => lstat_bind hC fun tr1 hC1 => ?_
  refine ensures_require_bind hC1 fun hwiping => lstat_bind hC1 fun tr2 hC2 => ?_
  have hwiping : s.wiping = none := by simpa [Host.slot] using hwiping
  refine ensures_ite (fun h => ensures_pure hC2 (.absent hwiping (by simpa [Host.slot] using h))) fun _ => ?_
  refine loadIdentityOr_bind hC2 fun staged tr3 hC3 _ => ensures_require_bind hC3 fun _ => ?_
  obtain ⟨hphase, hprevious⟩ := hb staged
  refine save_warranted hC3 (.bind hs hp hphase hprevious hwiping) fun tr' hC' => ?_
  exact ensures_pure hC' (.bound hwiping hphase hprevious)

/-- the record is the same, or it is on record as expired and the staged secret gone -/
inductive ExpireChecked (s : Host) (status : RuntimeCredentialStatus) : RuntimeCredentialStatus → Host → Prop
  | fresh : ExpireChecked s status status s
  | due {s' : Host} (hstate : s'.state = some status.expire) (hactive : s'.active = s.active) (hstaged : s'.staged = none)
      (hwiping : s'.wiping = none) : ExpireChecked s status status.expire s'

theorem expireIfDue_checked {stagedExists : Bool} (hactive : activeIs E s status.previousIdentitySHA256)
    (hgone : stagedExists = false → s.staged = none ∧ s.wiping = none) :
    Justified E (expireIfDue E now status stagedExists)
      (fun r _ s' => ExpireChecked s status r s') tr s := by
  refine ensures_ite (fun _ => ensures_pure hC .fresh) fun _ => ?_
  have hw : Warranted E tr s (.saveStatus status.expire) := .settle rfl (by simp [RuntimeCredentialStatus.expire]) hactive
  cases stagedExists with
  | true =>
    refine settleThenWipe hC rfl hw fun tr' s' hC' h => ensures_pure hC' ?_
    exact .due h.frame.state h.frame.active h.staged h.wiping
  | false =>
    refine save_warranted hC hw fun tr' hC' => ensures_pure hC' ?_
    exact .due rfl rfl (hgone rfl).1 (hgone rfl).2

section Cases

variable (hs : s.state = some status)

include hs

omit hC in
/-- An unstaged record is returned as it was read, whatever is on record behind it. -/
theorem bindThenExpire_checked {bind : Cred (RuntimeCredentialStatus × Bool)}
    (hp : status.phase.unstaged = true) (hactive : activeIs E s status.previousIdentitySHA256)
    (hbind : Justified E bind (fun r _ s' => BindChecked s status r s') tr s) :
    Justified E
      (do
        let (bound, stagedExists) ← bind
        let _ ← expireIfDue E now bound stagedExists
        pure status)
      (fun r _ s' => Checked E s' r) tr s := by
  have hneeds : status.phase.needsStaged = true := by simp [Phase.needsStaged, hp]
  have hchecked : ∀ {d : RuntimeCredentialStatus} {s' : Host}, s'.state = some d → s'.active = s.active → s'.wiping = none →
      (d.phase.settled = true → s'.staged = none) → Checked E s' status := by
    intro d s' hd ha hwiping hsettled
    refine ⟨⟨d, hd, fun h => absurd (h.symm.trans hp) (by decide), fun h => ⟨hsettled h, hwiping⟩⟩, fun _ => ?_,
      fun _ => hwiping, fun h => by rw [h] at hp; cases hp⟩
    rw [activeDigest_of_needs hneeds]
    obtain ⟨f, hf, hdigest⟩ := hactive
    exact ⟨f, ha.trans hf, hdigest⟩
  refine ensures_bind hbind ?_
  rintro _ tr1 s1 hC1 hb
  cases hb with
  | absent hwiping hstaged =>
    refine ensures_bind (expireIfDue_checked hC1 hactive fun _ => ⟨hstaged, hwiping⟩) fun d tr2 s2 hC2 hd => ?_
    cases hd with
    | fresh => exact ensures_pure hC2 (hchecked hs rfl hwiping fun _ => hstaged)
    | due hstate ha hgone hwiping => exact ensures_pure hC2 (hchecked hstate ha hwiping fun _ => hgone)
  | @bound hwiping b hphase hprevious =>
    have hbactive : activeIs E (saved s b) b.previousIdentitySHA256 := hprevious ▸ hactive
    refine ensures_bind (expireIfDue_checked hC1 hbactive fun h => by cases h) fun d tr2 s2 hC2 hd => ?_
    cases hd with
    | fresh => exact ensures_pure hC2 (hchecked rfl rfl hwiping fun h => by rw [hphase] at h; cases h)
    | due hstate ha hgone hwiping => exact ensures_pure hC2 (hchecked hstate ha hwiping fun _ => hgone)

theorem reconcileClaimPrepared_checked (hp : status.phase.unstaged = true) :
    Justified E (reconcileClaimPrepared E now status)
      (fun r _ s' => Checked E s' r) tr s := by
  unfold reconcileClaimPrepared
  refine requireActive_bind hC fun active tr1 hC1 hactive => lstat_bind hC1 fun tr2 hC2 => ?_
  refine ensures_require_bind hC2 fun _ => ?_
  exact bindThenExpire_checked hs hp hactive (bindStagedFile_checked hC2 hs hp fun _ => ⟨rfl, rfl⟩)

theorem reconcileStageBound_checked (hp : status.phase.unstaged = true) :
    Justified E (reconcileStageBound E now status)
      (fun r _ s' => Checked E s' r) tr s := by
  unfold reconcileStageBound
  refine requireActive_bind hC fun active tr1 hC1 hactive => ?_
  exact bindThenExpire_checked hs hp hactive (bindStagedFile_checked hC1 hs hp fun _ => ⟨rfl, rfl⟩)

/-- the expiry at the end of the staged cases -/
theorem expireStaged_checked {stagedExists : Bool}
    (hp : status.phase.staging = true) (hactive : activeIs E s status.previousIdentitySHA256)
    (hgone : stagedExists = false → s.staged = none ∧ s.wiping = none)
    (hinactive : status.phase = .proofReady → ¬ activeIs E s status.stagedIdentitySHA256) :
    Justified E (expireIfDue E now status stagedExists)
      (fun r _ s' => Checked E s' r) tr s := by
  refine ensures_mono (expireIfDue_checked hC hactive hgone) fun r _ s' _ h => ?_
  cases h with
  | fresh =>
    refine ⟨⟨status, hs, fun _ => rfl, fun h => ?_⟩, fun _ => ?_, fun h => ?_, hinactive⟩
    · cases hphase : status.phase <;> simp_all [Phase.staging, Phase.settled]
    · rw [activeDigest_of_needs (by simp [Phase.needsStaged, hp])]
      exact hactive
    · cases hphase : status.phase <;> simp_all [Phase.staging, Phase.unstaged]
  | due hstate ha hstaged hwiping =>
    obtain ⟨f, hf, hdigest⟩ := hactive
    exact .of_settled hstate rfl ⟨f, ha.trans hf, hdigest⟩ hstaged hwiping

theorem reconcileStaged_checked (hp : status.phase = .staged) :
    Justified E (reconcileStaged E now status) (fun r _ s' => Checked E s' r) tr s := by
  unfold reconcileStaged
  refine requireActive_bind hC fun active tr1 hC1 hactive => ?_
  refine ensures_bind (stagedAsRecorded_ensures hC1) ?_
  rintro stagedExists tr2 _ hC2 ⟨rfl, hstaged⟩
  refine lstat_bind hC2 fun tr3 hC3 => ensures_require_bind hC3 fun hwiping => ?_
  refine expireStaged_checked hC3 hs (by rw [hp]; rfl) hactive (fun h => ⟨hstaged h, by simpa [Host.slot] using hwiping⟩) ?_
  intro h
  rw [hp] at h
  cases h

theorem reconcileAcknowledged_checked (hp : status.phase.staging = true) :
    Justified E (reconcileAcknowledged E now status)
      (fun r _ s' => Checked E s' r) tr s := by
  unfold reconcileAcknowledged
  refine loadIdentityOr_bind hC fun staged tr1 hC1 _ => ensures_require_bind hC1 fun _ => ?_
  refine loadIdentity_bind hC1 fun active tr2 hC2 hread => ?_
  obtain ⟨file, hfile, hdata, -⟩ := readIdentity_ok hread
  have hfile : s.active = some file := hfile
  refine ensures_ite (fun h => ?_) fun h => ensures_require_bind hC2 fun hprevious => ?_
  · have hactive : activeIs E s status.stagedIdentitySHA256 := ⟨file, hfile, by rw [hdata]; exact h.2⟩
    refine settleThenWipe hC2 rfl (.settle rfl (by simp [RuntimeCredentialStatus.activate]) hactive) ?_
    intro tr3 s3 hC3 hwiped
    refine ensures_pure hC3 (.of_settled hwiped.frame.state rfl ?_ hwiped.staged hwiped.wiping)
    exact ⟨file, hwiped.frame.active.trans hfile, by rw [hdata]; exact h.2⟩
  · refine expireStaged_checked hC2 hs hp ⟨file, hfile, by rw [hdata]; exact beq_iff_eq.1 hprevious⟩ (fun h => by cases h) ?_
    rintro hphase ⟨file', hfile', hstaged⟩
    cases hfile.symm.trans hfile'
    exact h ⟨hphase, hdata ▸ hstaged⟩

theorem reconcileSettled_checked {e : CredError}
    (hp : status.phase.settled = true) (hdigest : digest = status.activeDigest) :
    Justified E (reconcileSettled E e digest status) (fun r _ s' => Checked E s' r) tr s := by
  unfold reconcileSettled
  refine requireActive_bind hC fun active tr1 hC1 hactive => ?_
  refine ensures_bind (wipe_wiped hC1 fun st hst => ?_) fun _ tr2 s2 hC2 hwiped => ?_
  · obtain rfl := Option.some.inj (hs.symm.trans hst)
    exact Phase.settled_unneeded hp
  · refine ensures_pure hC2 (.of_settled (hwiped.frame.state.trans hs) hp ?_ hwiped.staged hwiped.wiping)
    exact hdigest ▸ hwiped.trans_active hactive

omit hC hs in
/-- an activated record names its staged identity as the active one -/
theorem activated_digest (h : status.sound E = true) (hp : status.phase = .activated) :
    status.activeIdentitySHA256 = status.activeDigest := by
  simp only [RuntimeCredentialStatus.sound, RuntimeCredentialStatus.validate, RuntimeCredentialStatus.phaseValid, hp,
    Bool.and_eq_true, beq_iff_eq] at h
  rw [RuntimeCredentialStatus.activeDigest, hp]
  exact h.1.2.1

theorem reconcileStatus_checked (hsound : status.sound E = true) :
    Justified E (reconcileStatus E now status) (fun r _ s' => Checked E s' r) tr s := by
  have hsettled : ∀ {e digest}, status.phase.settled = true → digest = status.activeDigest →
      Justified E (reconcileSettled E e digest status) (fun r _ s' => Checked E s' r) tr s :=
    reconcileSettled_checked hC hs
  unfold reconcileStatus
  cases hp : status.phase with
  | claimPrepared => exact reconcileClaimPrepared_checked hC hs (by rw [hp]; rfl)
  | stageBound => exact reconcileStageBound_checked hC hs (by rw [hp]; rfl)
  | staged => exact reconcileStaged_checked hC hs hp
  | localStaged => exact reconcileAcknowledged_checked hC hs (by rw [hp]; rfl)
  | proofReady => exact reconcileAcknowledged_checked hC hs (by rw [hp]; rfl)
  | activated => exact hsettled (by rw [hp]; rfl) (activated_digest hsound hp)
  | expired => exact hsettled (by rw [hp]; rfl) (by rw [RuntimeCredentialStatus.activeDigest, hp])
  | manualRecovered => exact hsettled (by rw [hp]; rfl) (by rw [RuntimeCredentialStatus.activeDigest, hp])
  | cancelled =>
    refine ensures_pure hC ⟨⟨_, hs, fun _ => rfl, fun h => ?_⟩, fun h => absurd hp h, fun h => ?_, fun h => ?_⟩
    · rw [hp] at h
      cases h
    · rw [hp] at h
      cases h
    · rw [hp] at h
      cases h
  | cancelReady =>
    refine ensures_bind (hsettled (by rw [hp]; rfl) (by rw [RuntimeCredentialStatus.activeDigest, hp])) ?_
    intro r tr1 s1 hC1 hr
    exact identityCleanupComplete_bind hC1 fun tr2 hC2 => ensures_pure hC2 hr

end Cases

/-- what `loadAndReconcileStatus` leaves: no record and no unfinished wipe, or a checked record -/
def Prepared (E : CredentialEnv) (s : Host) : Option RuntimeCredentialStatus → Prop
  | none => s.state = none ∧ s.wiping = none
  | some status => Checked E s status

theorem cleanupOrphanedStaged_checked (hs : s.state = none) (hwiping : s.wiping = none) :
    Justified E (cleanupOrphanedStaged E now) (fun _ _ s' => Prepared E s' none) tr s := by
  unfold cleanupOrphanedStaged
  refine lstat_bind hC fun tr1 hC1 => ensures_ite (fun _ => ensures_pure hC1 ⟨hs, hwiping⟩) fun _ => ?_
  refine loadIdentity_bind hC1 fun staged tr2 hC2 _ => ensures_ite (fun _ => ensures_pure hC2 ⟨hs, hwiping⟩) ?_
  intro _
  refine loadIdentityOr_bind hC2 fun active tr3 hC3 _ => ensures_require_bind hC3 fun _ => ?_
  refine ensures_mono (wipe_wiped hC3 fun st hst => ?_) fun _ _ s' _ h => ⟨h.frame.state.trans hs, h.wiping⟩
  rw [hs] at hst
  cases hst

theorem cleanupExpiredOrphaned_checked (hs : s.state = none) :
    Justified E (cleanupExpiredOrphanedStagedIdentity E now)
      (fun _ _ s' => Prepared E s' none) tr s := by
  unfold cleanupExpiredOrphanedStagedIdentity
  refine lstat_bind hC fun tr1 hC1 => ensures_ite (fun _ => ?_) fun h => ?_
  · refine ensures_bind (wipe_wiped hC1 fun st hst => by rw [hs] at hst; cases hst) fun _ tr2 s2 hC2 h => ?_
    exact cleanupOrphanedStaged_checked hC2 (h.frame.state.trans hs) h.wiping
  · exact cleanupOrphanedStaged_checked hC1 hs (by simpa [Host.slot] using h)

theorem loadAndReconcileStatus_checked :
    Justified E (loadAndReconcileStatus E now) (fun r _ s' => Prepared E s' r) tr s := by
  unfold loadAndReconcileStatus
  refine loadStatus_bind hC fun r tr1 hC1 hr => ?_
  obtain ⟨hs, hsound⟩ := readStatus_ok hr
  cases r with
  | none =>
    refine ensures_bind (cleanupExpiredOrphaned_checked hC1 hs) fun _ tr2 s2 hC2 h => ?_
    exact ensures_pure hC2 h
  | some status =>
    refine ensures_bind (reconcileStatus_checked hC1 hs (hsound _ rfl)) fun r tr2 s2 hC2 h => ?_
    exact ensures_pure hC2 h

/-! ## Operations -/

/-- what the records of a rotation that is still being staged are saved beside -/
structure Staging (E : CredentialEnv) (s : Host) (status : RuntimeCredentialStatus) : Prop where
  active : activeIs E s status.previousIdentitySHA256
  room : s.wiping = none ∨ ∃ d, s.state = some d ∧ d.phase.needsStaged = true

omit hC in
theorem Staging.of_frame (h : Staging E s status) (hactive : s'.active = s.active) (hstate : s'.state = s.state)
    (hwiping : s'.wiping = s.wiping) : Staging E s' status where
  active := by
    obtain ⟨f, hf, hd⟩ := h.active
    exact ⟨f, hactive.trans hf, hd⟩
  room := by
    rw [hstate, hwiping]
    exact h.room

/-- A record that needs its staged secret is saved while the rotation is being staged. -/
theorem saveStaging {f : Unit → Cred β} (h : Staging E s status)
    (hneeds : st.phase.needsStaged = true) (hprevious : st.previousIdentitySHA256 = status.previousIdentitySHA256)
    (hf : ∀ tr, Warrants E tr (saved s st) → Staging E (saved s st) st → Justified E (f ()) R tr (saved s st)) :
    Justified E (saveStatus E st >>= f) R tr s := by
  have hactive : activeIs E s st.previousIdentitySHA256 := hprevious ▸ h.active
  refine save_warranted hC (.save ?_ (fun _ => h.room) ?_) fun tr' hC' => hf tr' hC' ⟨hactive, .inr ⟨st, rfl, hneeds⟩⟩
  · rw [activeDigest_of_needs hneeds]
    exact hactive
  · intro hmanual
    rw [hmanual] at hneeds
    cases hneeds

variable {later : ℕ}

omit hC in
theorem newStatus_staging {phase : Phase} {digest stagedSHA256 token : String} (hwiping : s.wiping = none)
    (hactive : activeIs E s (runtimeCredentialDigest E active.data)) :
    Staging E s (newStatus E policy request m phase active digest stagedSHA256 token later) := ⟨hactive, .inl hwiping⟩

theorem prepare_warranted (h : Prepared E s current) (hactive : activeIs E s (runtimeCredentialDigest E active.data)) :
    Justified E (prepare E policy request m later active current)
      (fun _ _ _ => True) tr s := by
  unfold prepare
  refine ensures_require_bind hC fun _ => ?_
  cases current with
  | some status =>
    exact ensures_ite (fun _ => ensures_pure hC trivial) fun _ => ensures_throw hC
  | none =>
    refine lstat_bind hC fun tr1 hC1 => ensures_require_bind hC1 fun _ => ?_
    refine reads_bind policySHA256_reads hC1 fun digest tr2 hC2 => ?_
    refine saveStaging hC2 (newStatus_staging h.2 hactive) rfl rfl fun tr3 hC3 _ => ?_
    exact ensures_pure hC3 trivial

/-- what `stage` starts from -/
def StagePrepared (E : CredentialEnv) (s : Host) : Option RuntimeCredentialStatus → Prop
  | none => s.wiping = none
  | some status => Staging E s status

theorem bindStage_warranted {data : Bytes} (h : StagePrepared E s current)
    (hactive : activeIs E s (runtimeCredentialDigest E active.data)) :
    Justified E (bindStage E policy request m later active data current)
      (fun r _ s' => Staging E s' r) tr s := by
  cases current with
  | none =>
    refine reads_bind policySHA256_reads hC fun digest tr1 hC1 => ?_
    exact saveStaging hC1 (newStatus_staging h hactive) rfl rfl fun tr2 hC2 h2 => ensures_pure hC2 h2
  | some status =>
    refine ensures_ite (fun _ => ensures_pure hC h) fun _ => ?_
    exact saveStaging hC h rfl rfl fun tr1 hC1 h1 => ensures_pure hC1 h1

omit hC in
theorem writeStaged_staging {data : Bytes} {replace : Bool} {time : ℕ} (h : Staging E s status)
    (heff : (Act.writeIdentity .staged data replace).effect time s = .ok s') : Staging E s' status := by
  simp only [Act.effect] at heff
  split_ifs at heff
  cases heff
  exact h.of_frame rfl rfl rfl

theorem installStaged_warranted {installed : Bool} {data : Bytes} (h : Staging E s status) :
    Justified E (installStaged installed data) (fun _ _ s' => Staging E s' status) tr s := by
  refine ensures_ite (fun _ => ?_) fun _ => ?_
  · exact ensures_mono (verifyStaged_ensures hC) fun _ _ _ _ hs => hs ▸ h
  · refine ensures_bind (Q := fun _ _ s' => Staging E s' status) ?_ ?_
    · exact act_warranted hC .writeStaged fun time s' tr' _ heff => writeStaged_staging h heff
    · intro _ tr' s' hC' h'
      exact ensures_mono (verifyStaged_ensures hC') fun _ _ _ _ hs => hs ▸ h'

theorem promoteStaged_warranted (h : Staging E s status) :
    Justified E (promoteStaged E status) (fun r _ s' => Staging E s' r) tr s := by
  refine ensures_ite (fun _ => ?_) fun _ => ensures_pure hC h
  exact saveStaging hC h rfl rfl fun tr1 hC1 h1 => ensures_pure hC1 h1

/-- the rule for a panel call -/
theorem panel_warranted {call : PanelCall} {f : HostAgentRuntimeTokenRotation → Cred β}
    (hf : ∀ r, Warrants E (tr ++ [⟨s, .panel call, .ok r, call.accept s⟩]) (call.accept s) →
      Justified E (f r) R (tr ++ [⟨s, .panel call, .ok r, call.accept s⟩]) (call.accept s)) :
    Justified E (panel call >>= f) R tr s := by
  have hstep : ∀ res s', Warrants E (tr ++ [⟨s, .panel call, res, s'⟩]) s' := fun res s' => hC.step fun b hb => by cases hb
  exact panel_rule hC (fun res => hstep res _) (fun res => hstep res s) fun r => hf r (hstep _ _)

theorem acknowledgeStage_warranted (h : Staging E s status) :
    Justified E (acknowledgeStage E m status) (fun _ _ _ => True) tr s := by
  refine loadIdentityOr_bind hC fun staged tr1 hC1 _ => ensures_require_bind hC1 fun _ => ?_
  refine panel_warranted hC1 fun rotation hC2 => ensures_require_bind hC2 fun _ => ?_
  refine saveStaging hC2 (h.of_frame rfl rfl rfl) rfl rfl fun tr3 hC3 _ => ?_
  exact ensures_pure hC3 trivial

theorem stageFrom_warranted (h : StagePrepared E s current)
    (hactive : activeIs E s (runtimeCredentialDigest E active.data)) :
    Justified E (stageFrom E policy request m later active current)
      (fun _ _ _ => True) tr s := by
  refine reads_bind stagedBytes_reads hC fun data tr1 hC1 => ensures_require_bind hC1 fun _ => ?_
  refine reads_bind stageInstalled_reads hC1 fun installed tr2 hC2 => ?_
  refine ensures_bind (bindStage_warranted hC2 h hactive) fun bound tr3 s3 hC3 h3 => ?_
  refine ensures_bind (installStaged_warranted hC3 h3) fun _ tr4 s4 hC4 h4 => ?_
  refine ensures_bind (promoteStaged_warranted hC4 h4) fun staged tr5 s5 hC5 h5 => ?_
  exact acknowledgeStage_warranted hC5 h5

omit hC in
/-- A checked record that is still being staged. -/
theorem Checked.staging (h : Checked E s status) (hneeds : status.phase.needsStaged = true) : Staging E s status := by
  have hcancelled : status.phase ≠ .cancelled := fun hp => by rw [hp] at hneeds; cases hneeds
  refine ⟨activeDigest_of_needs hneeds ▸ h.active hcancelled, ?_⟩
  obtain ⟨d, hd, hsame, -⟩ := h.record
  cases hp : status.phase.unstaged with
  | true => exact .inl (h.unwiped hp)
  | false => exact .inr ⟨d, hd, hsame hp ▸ hneeds⟩

omit hC in
theorem Checked.durable (h : Checked E s status) (hp : status.phase.unstaged = false) : s.state = some status := by
  obtain ⟨d, hd, hsame, -⟩ := h.record
  exact hd.trans (congrArg some (hsame hp))

theorem stage_warranted (h : Prepared E s current) (hactive : activeIs E s (runtimeCredentialDigest E active.data)) :
    Justified E (stage E policy request m later active current)
      (fun _ _ _ => True) tr s := by
  unfold stage
  refine ensures_require_bind hC fun _ => ?_
  cases current with
  | none => exact stageFrom_warranted hC h.2 hactive
  | some status =>
    have hfrom : status.phase.needsStaged = true →
        Justified E (stageFrom E policy request m later active (some status))
          (fun _ _ _ => True) tr s := fun hp => stageFrom_warranted hC (Checked.staging h hp) hactive
    dsimp only
    cases hp : status.phase with
    | claimPrepared => exact ensures_require_bind hC fun _ => hfrom (by rw [hp]; rfl)
    | stageBound => exact ensures_require_bind hC fun _ => hfrom (by rw [hp]; rfl)
    | staged => exact ensures_require_bind hC fun _ => hfrom (by rw [hp]; rfl)
    | localStaged => exact ensures_pure hC trivial
    | proofReady => exact ensures_pure hC trivial
    | activated => exact ensures_pure hC trivial
    | cancelReady => exact ensures_throw hC
    | cancelled => exact ensures_throw hC
    | expired => exact ensures_throw hC
    | manualRecovered => exact ensures_throw hC

theorem markProofReady_warranted (h : Prepared E s current) :
    Justified E (markProofReady E m current) (fun _ _ _ => True) tr s := by
  cases current with
  | none => exact ensures_throw hC
  | some status =>
    refine ensures_ite (fun _ => ensures_require_bind hC fun _ => ensures_pure hC trivial) ?_
    refine fun _ => ensures_require_bind hC fun hreq => ?_
    have hp : status.phase = .localStaged := by simpa using (Bool.and_eq_true_iff.1 hreq).1
    refine loadIdentityOr_bind hC fun staged tr1 hC1 _ => ensures_require_bind hC1 fun _ => ?_
    refine saveStaging hC1 (Checked.staging h (by rw [hp]; rfl)) rfl rfl fun tr2 hC2 _ => ?_
    exact ensures_pure hC2 trivial

/-- a step that is already behind stays behind a layout check -/
theorem layout_since {P : HostStep → Prop} (hy : ∃ y ∈ tr, P y) :
    Justified E (act .layout) (fun _ tr' s' => s' = s ∧ ∃ y ∈ tr', P y) tr s := by
  have hsince : ∀ res, Warrants E (tr ++ [⟨s, .act .layout, res, s⟩]) s ∧ ∃ y ∈ tr ++ [⟨s, .act .layout, res, s⟩], P y := by
    intro res
    obtain ⟨y, hmem, hP⟩ := hy
    exact ⟨Watching.read res trivial hC, y, List.mem_append_left _ hmem, hP⟩
  refine ensures_weaken (C := fun tr s => Warrants E tr s ∧ ∃ y ∈ tr, P y) ?_ fun _ _ h => h.1
  refine act_rule ⟨hC, hy⟩ hsince (fun time s' res heff => ?_) fun time s' tr' h heff => ?_
  · cases heff
    exact hsince res
  · cases heff
    exact ⟨rfl, h.2⟩

theorem installActivated_warranted {data : Bytes} {revision : ℤ} (h : Checked E s status)
    (hp : status.phase = .proofReady) (hdata : runtimeCredentialDigest E data = status.stagedIdentitySHA256)
    (hpanel : ∃ y ∈ tr, Activates status y) :
    Justified E (installActivated E status data revision) (fun _ _ _ => True) tr s := by
  have hneeds : status.phase.needsStaged = true := by rw [hp]; rfl
  refine ensures_bind (layout_since hC hpanel) ?_
  rintro _ tr1 _ hC1 ⟨rfl, hpanel1⟩
  refine ensures_bind (Q := fun _ _ s' => activeIs E s' status.stagedIdentitySHA256) ?_ ?_
  · refine act_warranted hC1 (.writeActive (h.durable (by rw [hp]; rfl)) hp (h.staging hneeds).active (h.inactive hp) hdata
      hpanel1) fun time s' tr' _ heff => ?_
    simp only [Act.effect, Bool.not_true, Bool.and_false, Bool.false_eq_true, if_false] at heff
    split_ifs at heff
    cases heff
    exact ⟨_, rfl, hdata⟩
  · intro _ tr2 s2 hC2 hactive
    refine reads_bind layout_reads hC2 fun _ tr3 hC3 => ?_
    refine loadIdentityOr_bind hC3 fun active tr4 hC4 _ => ensures_require_bind hC4 fun _ => ?_
    refine settleThenWipe hC4 rfl (.settle rfl (by simp [RuntimeCredentialStatus.activate]) hactive) fun tr5 s5 hC5 _ => ?_
    exact ensures_pure hC5 trivial

theorem activateCredential_warranted (h : Prepared E s current) :
    Justified E (activateCredential E policy m current) (fun _ _ _ => True) tr s := by
  cases current with
  | none => exact ensures_throw hC
  | some status =>
    refine ensures_ite (fun _ => ensures_pure hC trivial) fun _ => ?_
    refine ensures_require_bind hC fun hreq => ?_
    have hp : status.phase = .proofReady := by simpa using (Bool.and_eq_true_iff.1 hreq).1
    refine loadIdentityOr_bind hC fun staged tr1 hC1 _ => ensures_require_bind hC1 fun hinput => ?_
    simp only [Bool.and_eq_true, beq_iff_eq] at hinput
    refine panel_warranted hC1 fun rotation hC2 => ensures_require_bind hC2 fun hvalid => ?_
    have hchecked : Checked E (PanelCall.accept s (.activate status.rotationID status.rotationRevision
        staged.config.runtimeToken)) status := ⟨h.record, h.active, h.unwiped, h.inactive⟩
    exact installActivated_warranted hC2 hchecked hp hinput.2
      ⟨_, List.mem_append_right _ (List.mem_singleton_self _), _, _, _, _, rfl, hvalid⟩

theorem cancelOpen_warranted : Justified E (cancelOpen E m status) (fun _ _ _ => True) tr s := by
  refine ensures_require_bind hC fun _ => requireActive_bind hC fun active tr1 hC1 hactive => ?_
  refine settleThenWipe hC1 rfl (.settle rfl (by simp [cancelReady]) hactive) fun tr2 s2 hC2 _ => ?_
  exact ensures_pure hC2 trivial

theorem removeState_warranted : Justified E (act .removeState) (fun _ _ _ => True) tr s :=
  act_warranted hC .removeState fun _ _ _ _ _ => trivial

theorem cancel_warranted : Justified E (cancel E m current) (fun _ _ _ => True) tr s := by
  cases current with
  | none => exact ensures_throw hC
  | some status =>
    refine ensures_require_bind hC fun _ => ensures_require_bind hC fun _ => ?_
    have hopen : Justified E (cancelOpen E m status) (fun _ _ _ => True) tr s :=
      cancelOpen_warranted hC
    cases status.phase with
    | cancelReady =>
      refine ensures_ite (fun _ => ensures_pure hC trivial) fun _ => ?_
      refine ensures_require_bind hC fun _ => ensures_bind (removeState_warranted hC) ?_
      exact fun _ tr1 s1 hC1 _ => ensures_pure hC1 trivial
    | claimPrepared => exact hopen
    | stageBound => exact hopen
    | staged => exact hopen
    | localStaged => exact hopen
    | proofReady => exact hopen
    | expired => exact hopen
    | activated => exact ensures_throw hC
    | cancelled => exact ensures_throw hC
    | manualRecovered => exact ensures_throw hC

theorem finalize_warranted : Justified E (finalize E m current) (fun _ _ _ => True) tr s := by
  cases current with
  | none => exact ensures_throw hC
  | some status =>
    refine ensures_require_bind hC fun _ => requireActive_bind hC fun active tr1 hC1 _ => ?_
    refine identityCleanupComplete_bind hC1 fun tr2 hC2 => ensures_bind (removeState_warranted hC2) ?_
    exact fun _ tr3 s3 hC3 _ => ensures_pure hC3 trivial

theorem runOperation_warranted (h : Prepared E s current)
    (hactive : activeIs E s (runtimeCredentialDigest E active.data)) :
    Justified E (runOperation E policy request m later active current)
      (fun _ _ _ => True) tr s := by
  unfold runOperation
  cases request.operation with
  | prepare => exact prepare_warranted hC h hactive
  | stage => exact stage_warranted hC h hactive
  | proofReady => exact markProofReady_warranted hC h
  | activate => exact activateCredential_warranted hC h
  | cancel => exact cancel_warranted hC
  | finalize => exact finalize_warranted hC
  | status => exact ensures_throw hC

/-! ## Events -/

theorem handleMutation_warranted {clock : Clock} (h : Prepared E s current) :
    keeps (credNext E) (Warrants E) (handleMutation E policy clock request m current) tr s := by
  refine responding_keeps (loadIdentity_ensures hC) ?_
  rintro active tr1 _ hC1 ⟨rfl, hread⟩
  obtain ⟨file, hfile, hdata, -⟩ := readIdentity_ok hread
  refine keeps_ite (fun _ => keeps_pure hC1) fun _ => ?_
  refine responding_keeps (Q := fun _ _ _ => True) ?_ fun next tr2 s2 hC2 _ => keeps_pure hC2
  refine ensures_bind (runOperation_warranted hC1 h ⟨file, hfile, by rw [hdata]⟩) ?_
  intro next tr2 s2 hC2 _
  exact reads_bind layout_reads hC2 fun _ tr3 hC3 => ensures_pure hC3 trivial

theorem handleRequest_warranted {clock : Clock} :
    keeps (credNext E) (Warrants E) (handleLocalExecutorRuntimeCredential E policy clock request) tr s := by
  unfold handleLocalExecutorRuntimeCredential
  refine keeps_ite (fun _ => keeps_pure hC) fun _ => ?_
  refine keeps_ite (fun _ => keeps_pure hC) fun _ => ?_
  refine responding_keeps (layout_ensures hC) ?_
  rintro _ tr1 _ hC1 rfl
  refine responding_keeps (loadAndReconcileStatus_checked hC1) ?_
  intro current tr2 s2 hC2 hload
  have hanswered : ∀ response, keeps (credNext E) (Warrants E) (pure response : Prog CredOp CredRes Response) tr2 s2 :=
    fun response => keeps_pure hC2
  split
  · split
    · exact hanswered _
    · exact keeps_ite (fun _ => hanswered _) fun _ => hanswered _
  · exact hanswered _
  · exact keeps_ite (fun _ => hanswered _) fun _ => handleMutation_warranted hC2 hload

theorem expiryPass_warranted : Justified E (reconcileRuntimeCredentialExpiry E now) (fun _ _ _ => True) tr s := by
  refine reads_bind layout_reads hC fun _ tr1 hC1 => ?_
  refine ensures_bind (loadAndReconcileStatus_checked hC1) fun _ tr2 s2 hC2 _ => ?_
  exact ensures_mono (layout_ensures hC2) fun _ _ _ _ _ => trivial

theorem bindForRecovery_warranted (hs : s.state = some status) :
    Justified E (bindForRecovery E policy status) (fun r _ s' => s'.state = some r) tr s := by
  have hbound : ∀ {r s'}, BindChecked s status r s' → s'.state = some r.1 := by
    intro r s' h
    cases h with
    | absent _ _ => exact hs
    | bound _ _ _ => rfl
  refine ensures_ite (fun hp => ?_) fun _ => ensures_ite (fun hp => ?_) fun _ => ?_
  · refine ensures_bind (bindStagedFile_checked hC hs (by rw [hp]; rfl) fun _ => ⟨rfl, rfl⟩) ?_
    intro r tr1 s1 hC1 h
    exact ensures_pure hC1 (hbound h)
  · refine ensures_bind (bindStagedFile_checked hC hs (by rw [hp]; rfl) fun _ => ⟨rfl, rfl⟩) ?_
    intro r tr1 s1 hC1 h
    exact ensures_pure hC1 (hbound h)
  · exact ensures_pure hC hs

theorem finishEmergency_warranted (hneeds : ∀ st, s.state = some st → st.phase.needsStaged = false) :
    Justified E (finishEmergencyStagedCleanup E digest) (fun _ _ _ => True) tr s := by
  refine reads_bind layout_reads hC fun _ tr1 hC1 => ?_
  refine ensures_bind (wipe_wiped hC1 hneeds) fun _ tr2 s2 hC2 _ => ?_
  exact ensures_mono (layout_ensures hC2) fun _ _ _ _ _ => trivial

omit hC in
/-- A fresh replacement is neither of the two identities of the record. -/
theorem freshReplacement_inactive {file : IdentityFile} (hfile : s.active = some file) (hdata : file.data = active.data)
    (h : freshReplacement E status active = true) :
    ¬ activeIs E s status.previousIdentitySHA256 ∧ ¬ activeIs E s status.stagedIdentitySHA256 := by
  simp only [freshReplacement, Bool.and_eq_true, bne_iff_ne] at h
  have hnot : ∀ {digest : String}, runtimeCredentialDigest E active.data ≠ digest → ¬ activeIs E s digest := by
    rintro digest hne ⟨f, hf, hd⟩
    cases hfile.symm.trans hf
    exact hne (hdata ▸ hd)
  exact ⟨hnot h.1.1.1, hnot h.1.1.2⟩

theorem recoverWith_warranted (hs : s.state = some status) (hread : readIdentity E (s.slot .active) = .ok active) :
    Justified E (recoverWith E now status active) (fun _ _ _ => True) tr s := by
  refine ensures_ite (fun hp => ?_) fun _ => ?_
  · refine ensures_require_bind hC fun _ => finishEmergency_warranted hC fun st hst => ?_
    obtain rfl := Option.some.inj (hs.symm.trans hst)
    rw [hp]
    rfl
  · refine ensures_require_bind hC fun _ => ensures_require_bind hC fun hfresh => ?_
    refine reads_bind layout_reads hC fun _ tr1 hC1 => ?_
    obtain ⟨file, hfile, hdata, -⟩ := readIdentity_ok hread
    have hw : Warranted E tr1 s (.saveStatus (manuallyRecovered E status active)) := by
      refine .save ⟨file, hfile, ?_⟩ (fun h => by cases h) fun _ => ⟨status, hs, freshReplacement_inactive hfile hdata hfresh⟩
      rw [hdata]
      rfl
    refine save_warranted hC1 hw fun tr2 hC2 => finishEmergency_warranted hC2 fun st hst => ?_
    cases hst
    rfl

theorem recover_warranted {rotationID : String} :
    Justified E (recoverAfterEmergencyManualReconfigure E policy now rotationID)
      (fun _ _ _ => True) tr s := by
  refine ensures_require_bind hC fun _ => reads_bind layout_reads hC fun _ tr1 hC1 => ?_
  refine loadStatus_bind hC1 fun r tr2 hC2 hr => ?_
  obtain ⟨hs, -⟩ := readStatus_ok hr
  cases r with
  | none => exact ensures_throw hC2
  | some st =>
    refine ensures_require_bind hC2 fun _ => ?_
    refine ensures_bind (bindForRecovery_warranted hC2 hs) fun bound tr3 s3 hC3 hs3 => ?_
    refine reads_bind layout_reads hC3 fun _ tr4 hC4 => ?_
    refine loadIdentityOr_bind hC4 fun active tr5 hC5 hread => ensures_require_bind hC5 fun _ => ?_
    exact recoverWith_warranted hC5 hs3 hread

/-- **Every change is warranted**, in every event that is not an operator's and wherever it is cut. -/
theorem handleEvent_warranted {e : Event} (he : ∀ data, e ≠ .replaceIdentity data) :
    keeps (credNext E) (Warrants E) (handleEvent E e) tr s := by
  have hrun : ∀ {p : Cred Unit}, Justified E p (fun _ _ _ => True) tr s →
      keeps (credNext E) (Warrants E) (do let _ ← p.run; pure ()) tr s := fun hp =>
    keeps_run hp (fun _ _ _ hC' => keeps_pure hC') fun _ _ _ hC' _ => keeps_pure hC'
  cases e with
  | request policy r clock => exact keeps_seq (handleRequest_warranted hC) fun _ _ _ hC' => keeps_pure hC'
  | expiryPass now => exact hrun (expiryPass_warranted hC)
  | recover policy rotationID now => exact hrun (recover_warranted hC)
  | replaceIdentity data => exact absurd rfl (he data)

end Warrants
end AutostreamUpdater.Credential
