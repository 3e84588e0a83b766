/-
The identity files over whole runs of credential events, each cut anywhere.

  * `active_identity_integrity`: as long as no operator replaces it, the active identity is one of the two that the record
    names, and it changes only from the previous to the staged one, under a proof-ready record and behind the panel's answer.
  * `staged_secret_cleaned`: a reconciliation that ends with a settled record leaves neither the staged nor the quarantined
    file, whatever a cut wipe left behind; it touches no other file; and no record that needs the staged secret ever stands
    beside a quarantined one.

Both are read off `Warrants`: every operation of a run was warranted on the host it was issued on.
-/
import AutostreamUpdater.Credential.Warrants
import AutostreamUpdater.Credential.Runs

namespace AutostreamUpdater.Credential

open Contract Base Fallible

section Steps

variable {E : CredentialEnv} {s : Host} {before : List HostStep} {c : Choice}

/-- what a step of an operation can leave: the same host, or the effect of the operation -/
theorem act_post {a : Act} {P : Host → Prop} (hsame : P s) (heff : ∀ time s', a.effect time s = .ok s' → P s') :
    P (credNext E s (.act a) c).2 := by
  simp only [credNext]
  rcases actNext_cases s a c with ⟨e, h⟩ | ⟨time, s', hs', ⟨e, h⟩ | h⟩
  · rw [h]
    exact hsame
  · rw [h]
    exact heff time s' hs'
  · rw [h]
    exact heff time s' hs'

/-- a step that is no operation leaves the files and the record alone -/
theorem other_post {o : CredOp} (ho : ∀ a, o ≠ .act a) :
    (credNext E s o c).2.state = s.state ∧ (credNext E s o c).2.active = s.active ∧
      (credNext E s o c).2.wiping = s.wiping := by
  cases o with
  | act a => exact absurd rfl (ho a)
  | loadStatus => exact ⟨rfl, rfl, rfl⟩
  | lstat _ => exact ⟨rfl, rfl, rfl⟩
  | read _ => exact ⟨rfl, rfl, rfl⟩
  | loadIdentity _ => exact ⟨rfl, rfl, rfl⟩
  | panel call => cases call <;> cases c <;> exact ⟨rfl, rfl, rfl⟩

/-! ## The active identity -/

/-- the active identity is the previous one of the record, or the staged one of a record that is being activated -/
def Tracked (E : CredentialEnv) (s : Host) : Prop :=
  ∀ st, s.state = some st → st.phase ≠ .manualRecovered ∧
    (activeIs E s st.previousIdentitySHA256 ∨
      (st.phase = .proofReady ∨ st.phase = .activated) ∧ activeIs E s st.stagedIdentitySHA256)

theorem Tracked.of_frame {s' : Host} (h : Tracked E s) (hstate : s'.state = s.state) (hactive : s'.active = s.active) :
    Tracked E s' := by
  intro st hst
  obtain ⟨hphase, hst⟩ := h st (hstate ▸ hst)
  refine ⟨hphase, ?_⟩
  simp only [activeIs, hactive]
  exact hst

/-- A warranted record names the active identity. -/
theorem Tracked.saved {st : RuntimeCredentialStatus} (h : Tracked E s) (hw : Warranted E before s (.saveStatus st)) :
    Tracked E (saved s st) := by
  rintro _ ⟨⟩
  cases hw with
  | save hactive _ hmanual =>
    by_cases hm : st.phase = .manualRecovered
    · -- the record before it excludes a fresh replacement
      obtain ⟨d, hd, hprevious, hstaged⟩ := hmanual hm
      rcases (h d hd).2 with hp | ⟨-, hp⟩
      · exact absurd hp hprevious
      · exact absurd hp hstaged
    · refine ⟨hm, ?_⟩
      by_cases ha : st.phase = .activated
      · rw [RuntimeCredentialStatus.activeDigest, ha] at hactive
        exact .inr ⟨.inr ha, hactive⟩
      · have hdigest : st.activeDigest = st.previousIdentitySHA256 := by
          cases hp : st.phase <;> simp_all [RuntimeCredentialStatus.activeDigest]
        exact .inl (hdigest ▸ hactive)
  | @bind _ d hs hd hphase hprevious _ =>
    refine ⟨by rw [hphase]; decide, .inl ?_⟩
    rw [hprevious]
    rcases (h d hs).2 with hp | ⟨hp | hp, -⟩
    · exact hp
    · rw [hp] at hd
      cases hd
    · rw [hp] at hd
      cases hd

/-- **One step** of a warranted operation keeps the active identity tracked. -/
theorem Tracked.step {o : CredOp} (h : Tracked E s) (hw : ∀ a, o = .act a → Warranted E before s a) :
    Tracked E (credNext E s o c).2 := by
  by_cases ho : ∃ a, o = .act a
  · obtain ⟨a, rfl⟩ := ho
    refine act_post h fun time s' heff => ?_
    have hw := hw a rfl
    cases a with
    | saveStatus st =>
      cases heff
      exact h.saved hw
    | layout => cases heff; exact h
    | removeState => cases heff; rintro st ⟨⟩
    | overwrite => cases heff; exact h.of_frame rfl rfl
    | truncate => cases heff; exact h.of_frame rfl rfl
    | removeWiping => cases heff; exact h.of_frame rfl rfl
    | replaceIdentity data => cases hw
    | quarantine =>
      simp only [Act.effect] at heff
      split at heff
      · cases heff
      · cases heff
        exact h.of_frame rfl rfl
    | writeIdentity slot data replace =>
      simp only [Act.effect] at heff
      split_ifs at heff
      cases hw with
      | writeStaged =>
        cases heff
        exact h.of_frame rfl rfl
      | @writeActive st _ hs hphase _ _ hdata _ =>
        cases heff
        intro st' hst'
        obtain rfl := Option.some.inj (hs.symm.trans hst')
        exact ⟨by rw [hphase]; decide, .inr ⟨.inl hphase, _, rfl, hdata⟩⟩
  · have hpost := other_post (E := E) (s := s) (c := c) fun a ha => ho ⟨a, ha⟩
    exact h.of_frame hpost.1 hpost.2.1

/-- the active identity changes from the previous to the staged one of a proof-ready record, behind a validated answer of
the panel with the next revision -/
def Promotion (E : CredentialEnv) (before : List HostStep) (x : HostStep) : Prop :=
  ∃ st, x.pre.state = some st ∧ x.post.state = some st ∧ st.phase = .proofReady ∧
    activeIs E x.pre st.previousIdentitySHA256 ∧ ¬ activeIs E x.pre st.stagedIdentitySHA256 ∧
    activeIs E x.post st.stagedIdentitySHA256 ∧ ∃ y ∈ before, Activates st y

/-- A warranted operation that changes the active identity promotes the staged one. -/
theorem promotion_of_change {o : CredOp} (hw : ∀ a, o = .act a → Warranted E before s a)
    (hne : (credNext E s o c).2.active ≠ s.active) : Promotion E before (stepOf (credNext E) s o c) := by
  by_cases ho : ∃ a, o = .act a
  · obtain ⟨a, rfl⟩ := ho
    suffices hpost : (credNext E s (.act a) c).2.active = s.active ∨
        ∃ st, s.state = some st ∧ (credNext E s (.act a) c).2.state = some st ∧ st.phase = .proofReady ∧
          activeIs E s st.previousIdentitySHA256 ∧ ¬ activeIs E s st.stagedIdentitySHA256 ∧
          activeIs E (credNext E s (.act a) c).2 st.stagedIdentitySHA256 ∧ ∃ y ∈ before, Activates st y from
      hpost.resolve_left hne
    refine act_post (P := fun s' => s'.active = s.active ∨ ∃ st, s.state = some st ∧ s'.state = some st ∧
      st.phase = .proofReady ∧ activeIs E s st.previousIdentitySHA256 ∧ ¬ activeIs E s st.stagedIdentitySHA256 ∧
      activeIs E s' st.stagedIdentitySHA256 ∧ ∃ y ∈ before, Activates st y) (.inl rfl) fun time s' heff => ?_
    have hw := hw a rfl
    cases hw with
    | writeActive hs hphase hprevious hstaged hdata hpanel =>
      simp only [Act.effect] at heff
      split_ifs at heff
      cases heff
      exact .inr ⟨_, hs, hs, hphase, hprevious, hstaged, ⟨_, rfl, hdata⟩, hpanel⟩
    | writeStaged =>
      simp only [Act.effect] at heff
      split_ifs at heff
      cases heff
      exact .inl rfl
    | quarantine _ =>
      simp only [Act.effect] at heff
      split at heff
      · cases heff
      · cases heff
        exact .inl rfl
    | layout => cases heff; exact .inl rfl
    | overwrite => cases heff; exact .inl rfl
    | truncate => cases heff; exact .inl rfl
    | removeWiping => cases heff; exact .inl rfl
    | removeState => cases heff; exact .inl rfl
    | save _ _ _ => cases heff; exact .inl rfl
    | bind _ _ _ _ _ => cases heff; exact .inl rfl
  · exact absurd (other_post (E := E) (s := s) (c := c) fun a ha => ho ⟨a, ha⟩).2.1 hne

/-! ## The staged secret -/

/-- no record that needs the staged secret stands beside a quarantined one -/
def Unquarantined (s : Host) : Prop := ∀ st, s.state = some st → st.phase.needsStaged = true → s.wiping = none

theorem Unquarantined.step {o : CredOp} (h : Unquarantined s)
    (hw : ∀ a, o = .act a → (∃ data, a = .replaceIdentity data) ∨ Warranted E before s a) :
    Unquarantined (credNext E s o c).2 := by
  by_cases ho : ∃ a, o = .act a
  · obtain ⟨a, rfl⟩ := ho
    refine act_post h fun time s' heff => ?_
    rcases hw a rfl with ⟨data, rfl⟩ | hw
    · cases heff
      exact h
    · cases hw with
      | layout => cases heff; exact h
      | overwrite =>
        cases heff
        intro st hst hneeds
        have hwiping : s.wiping = none := h st hst hneeds
        simp [hwiping]
      | truncate =>
        cases heff
        intro st hst hneeds
        have hwiping : s.wiping = none := h st hst hneeds
        simp [hwiping]
      | removeWiping => cases heff; exact fun _ _ _ => rfl
      | removeState => cases heff; rintro st ⟨⟩
      | writeStaged =>
        simp only [Act.effect] at heff
        split_ifs at heff
        cases heff
        exact h
      | writeActive _ _ _ _ _ _ =>
        simp only [Act.effect] at heff
        split_ifs at heff
        cases heff
        exact h
      | quarantine hnone =>
        simp only [Act.effect] at heff
        split at heff
        · cases heff
        · cases heff
          intro st hst hneeds
          rw [hnone st hst] at hneeds
          cases hneeds
      | save _ hroom _ =>
        cases heff
        rintro _ ⟨⟩ hneeds
        rcases hroom hneeds with hwiping | ⟨d, hd, hdneeds⟩
        · exact hwiping
        · exact h d hd hdneeds
      | bind _ _ _ _ hwiping => cases heff; exact fun _ _ _ => hwiping
  · have hpost := other_post (E := E) (s := s) (c := c) fun a ha => ho ⟨a, ha⟩
    intro st hst hneeds
    rw [hpost.1] at hst
    exact hpost.2.2.trans (h st hst hneeds)

/-! ## The operations of a reconciliation -/

/-- reads, the operations of a wipe, and saves of the record -/
def Reconciling (o : CredOp) : Prop := Cleaning o ∨ ∃ st, o = .act (.saveStatus st)

/-- Such an operation leaves the active identity alone and removes no record. -/
theorem reconciling_frame {o : CredOp} (ho : Reconciling o) :
    (credNext E s o c).2.active = s.active ∧ (s.state.isSome → (credNext E s o c).2.state.isSome) := by
  rcases ho with ho | ⟨st, rfl⟩
  · have hframe := cleaning_frame (E := E) ho s c
    exact ⟨hframe.active, fun h => by rw [hframe.state]; exact h⟩
  · refine act_post (P := fun s' => s'.active = s.active ∧ (s.state.isSome → s'.state.isSome)) ⟨rfl, id⟩ ?_
    intro time s' heff
    cases heff
    exact ⟨rfl, fun _ => rfl⟩

theorem cleaning_reconciling {α : Type} {p : Cred α} (hp : issues Cleaning p) : issues Reconciling p :=
  issues_mono hp fun _ => .inl

theorem lstat_reconciling {e : CredError} {slot : Slot} : issues Reconciling (lstat e slot) :=
  issues_ofProgOr ⟨.inl trivial, fun _ => trivial⟩

theorem loadIdentityOr_reconciling {e : CredError} {slot : Slot} : issues Reconciling (loadIdentityOr e slot) :=
  issues_ofProgOr ⟨.inl trivial, fun _ => trivial⟩

theorem loadIdentity_reconciling {slot : Slot} : issues Reconciling (loadIdentity slot) :=
  issues_ofProg ⟨.inl trivial, fun _ => trivial⟩

theorem wipe_reconciling {digest : String} : issues Reconciling (wipeAndRemoveIdentity E digest) :=
  cleaning_reconciling (wipeAndRemoveIdentity_cleaning digest)

theorem saveStatus_reconciling {st : RuntimeCredentialStatus} : issues Reconciling (saveStatus E st) :=
  issues_bind issues_require fun _ => issues_bind issues_require fun _ =>
    issues_ofProg ⟨.inr ⟨st, rfl⟩, fun _ => trivial⟩

theorem requireActive_reconciling {e : CredError} {digest : String} : issues Reconciling (requireActive E e digest) :=
  issues_bind loadIdentityOr_reconciling fun _ => issues_bind issues_require fun _ =>
    issues_pure

variable {status : RuntimeCredentialStatus}

theorem expireIfDue_reconciling {now : ℕ} {stagedExists : Bool} :
    issues Reconciling (expireIfDue E now status stagedExists) := by
  refine issues_ite issues_pure (issues_bind saveStatus_reconciling fun _ => ?_)
  exact issues_ite (issues_bind wipe_reconciling fun _ => issues_pure) issues_pure

theorem bindStagedFile_reconciling {phase : Phase} {e₁ e₂ e₃ e₄ : String} {accepts : Identity → Bool}
    {bound : Identity → RuntimeCredentialStatus} :
    issues Reconciling (bindStagedFile E status phase e₁ e₂ e₃ e₄ accepts bound) := by
  refine issues_bind issues_require fun _ => issues_bind lstat_reconciling fun _ => ?_
  refine issues_bind issues_require fun _ => issues_bind lstat_reconciling fun _ => ?_
  refine issues_ite issues_pure (issues_bind loadIdentityOr_reconciling fun _ => ?_)
  refine issues_bind issues_require fun _ => issues_bind saveStatus_reconciling fun _ => ?_
  exact issues_pure

theorem reconcileAcknowledged_reconciling {now : ℕ} : issues Reconciling (reconcileAcknowledged E now status) := by
  refine issues_bind loadIdentityOr_reconciling fun _ => issues_bind issues_require fun _ => ?_
  refine issues_bind loadIdentity_reconciling fun _ => issues_ite ?_ ?_
  · refine issues_bind saveStatus_reconciling fun _ => issues_bind wipe_reconciling fun _ => ?_
    exact issues_pure
  · exact issues_bind issues_require fun _ => expireIfDue_reconciling

theorem stagedAsRecorded_reconciling : issues Reconciling (stagedAsRecorded E status) := by
  refine issues_bind lstat_reconciling fun _ => issues_ite issues_pure ?_
  refine issues_bind loadIdentityOr_reconciling fun _ => issues_bind issues_require fun _ => ?_
  exact issues_pure

theorem reconcileStatus_reconciling {now : ℕ} : issues Reconciling (reconcileStatus E now status) := by
  have hsettled : ∀ {e digest}, issues Reconciling (reconcileSettled E e digest status) :=
    issues_bind requireActive_reconciling fun _ => issues_bind wipe_reconciling fun _ =>
      issues_pure
  unfold reconcileStatus
  cases status.phase with
  | claimPrepared =>
    refine issues_bind requireActive_reconciling fun _ => issues_bind lstat_reconciling fun _ => ?_
    refine issues_bind issues_require fun _ => ?_
    refine issues_bind bindStagedFile_reconciling fun _ => issues_bind expireIfDue_reconciling fun _ => ?_
    exact issues_pure
  | stageBound =>
    refine issues_bind requireActive_reconciling fun _ => ?_
    refine issues_bind bindStagedFile_reconciling fun _ => issues_bind expireIfDue_reconciling fun _ => ?_
    exact issues_pure
  | staged =>
    refine issues_bind requireActive_reconciling fun _ => ?_
    refine issues_bind stagedAsRecorded_reconciling fun _ => issues_bind lstat_reconciling fun _ => ?_
    exact issues_bind issues_require fun _ => expireIfDue_reconciling
  | localStaged => exact reconcileAcknowledged_reconciling
  | proofReady => exact reconcileAcknowledged_reconciling
  | activated => exact hsettled
  | expired => exact hsettled
  | manualRecovered => exact hsettled
  | cancelled => exact issues_pure
  | cancelReady =>
    refine issues_bind hsettled fun _ => issues_bind ?_ fun _ => issues_pure
    refine issues_bind lstat_reconciling fun _ => issues_bind lstat_reconciling fun _ => ?_
    exact issues_require

theorem cleanupOrphaned_reconciling {now : ℕ} : issues Reconciling (cleanupExpiredOrphanedStagedIdentity E now) := by
  have hstaged : issues Reconciling (cleanupOrphanedStaged E now) := by
    refine issues_bind lstat_reconciling fun _ => issues_ite issues_pure ?_
    refine issues_bind loadIdentity_reconciling fun _ => issues_ite issues_pure ?_
    refine issues_bind loadIdentityOr_reconciling fun _ => ?_
    exact issues_bind issues_require fun _ => wipe_reconciling
  refine issues_bind lstat_reconciling fun _ => issues_ite ?_ hstaged
  exact issues_bind wipe_reconciling fun _ => hstaged

theorem loadAndReconcileStatus_reconciling {now : ℕ} : issues Reconciling (loadAndReconcileStatus E now) := by
  refine issues_bind (issues_ofProg ⟨.inl trivial, fun _ => trivial⟩) fun r => ?_
  cases r with
  | none => exact issues_bind cleanupOrphaned_reconciling fun _ => issues_pure
  | some status => exact issues_bind reconcileStatus_reconciling fun _ => issues_pure

end Steps

/-! ## Runs -/

section Runs

variable {E : CredentialEnv} {s : Host}

/-- The changes of an event that is not an operator's are warranted. -/
theorem event_warrants {e : Event} (he : ∀ data, e ≠ .replaceIdentity data) (cs : List Choice) :
    Warrants E ((handleEvent E e).exec (credNext E) s cs).steps ((handleEvent E e).exec (credNext E) s cs).st := by
  refine keeps_exec (handleEvent_warranted ?_ he) cs
  intro before x rest h
  simp at h

/-- Each step of an event is an operator's, or warranted behind the steps before it. -/
theorem event_sourced (e : Event) (cs : List Choice) :
    ∀ x ∈ ((handleEvent E e).exec (credNext E) s cs).steps, ∃ before, ∀ a, x.op = .act a →
      (∃ data, a = .replaceIdentity data) ∨ Warranted E before x.pre a := by
  intro x hx
  by_cases he : ∃ data, e = .replaceIdentity data
  · obtain ⟨data, rfl⟩ := he
    have honly : (handleEvent E (.replaceIdentity data)).Only (fun o => o = .act (.replaceIdentity data)) fun _ => True :=
      ⟨rfl, fun _ => trivial⟩
    obtain ⟨s', o, c, rfl, rfl⟩ := Prog.only_exec _ honly s cs x hx
    refine ⟨[], fun a ha => .inl ⟨data, ?_⟩⟩
    cases ha
    rfl
  · obtain ⟨before, rest, hsplit⟩ := List.append_of_mem hx
    refine ⟨before, fun a ha => .inr ?_⟩
    exact event_warrants (fun data h => he ⟨data, h⟩) cs before x rest hsplit a ha

/-- `event_sourced` over a run -/
theorem run_sourced (events : List (Event × List Choice)) :
    ∀ x ∈ trace (credRun E s events), ∃ before, ∀ a, x.op = .act a →
      (∃ data, a = .replaceIdentity data) ∨ Warranted E before x.pre a := by
  have h : ∀ e ∈ credRun E s events, ∀ x ∈ e.run.steps, ∃ before, ∀ a, x.op = .act a →
      (∃ data, a = .replaceIdentity data) ∨ Warranted E before x.pre a :=
    (serve_forall (I := fun _ => True) (A := fun _ => True) (fun e s' cs _ _ => ⟨event_sourced e cs, trivial⟩) trivial
      events fun _ _ => trivial).1
  intro x hx
  obtain ⟨e, he, hx⟩ := List.mem_flatMap.1 hx
  exact h e he x hx

end Runs

/-- **The active identity keeps its integrity.** In every run from a host without a record, cut anywhere and without an
operator's replacement, the active identity is the previous or the staged one of the record at every moment; and whenever it
changes, it changes from the previous to the staged one, never back. -/
theorem active_identity_integrity (E : CredentialEnv) (s : Host) (hs : s.state = none) (events : List (Event × List Choice))
    (hno : ∀ e ∈ credRun E s events, ∀ data, e.req ≠ .replaceIdentity data) :
    (∀ before, before <+: trace (credRun E s events) → ∀ st, (after s before).state = some st →
      activeIs E (after s before) st.previousIdentitySHA256 ∨ activeIs E (after s before) st.stagedIdentitySHA256) ∧
    ∀ e ∈ credRun E s events, ∀ before x rest, e.run.steps = before ++ x :: rest → x.post.active ≠ x.pre.active →
      Promotion E before x := by
  have hwarranted : ∀ e ∈ credRun E s events, Warrants E e.run.steps e.run.st :=
    (serve_forall (I := fun _ => True) (fun e s' cs _ he => ⟨event_warrants he cs, trivial⟩) trivial events hno).1
  constructor
  · intro before hbefore st hst
    have htracked : Tracked E (after s before) := by
      refine (serve_linked s events).visited ?_ (fun st hst => by simp [hs] at hst) hbefore
      intro x hx hpre
      obtain ⟨e, he, hxe⟩ := List.mem_flatMap.1 hx
      obtain ⟨earlier, rest, hsplit⟩ := List.append_of_mem hxe
      have hw := hwarranted e he earlier x rest hsplit
      obtain ⟨s', o, c, rfl⟩ := serve_stepOf s events x hx
      exact hpre.step hw
    rcases (htracked st hst).2 with h | ⟨-, h⟩
    · exact .inl h
    · exact .inr h
  · intro e he before x rest hsplit hne
    have hw := hwarranted e he before x rest hsplit
    have hx : x ∈ trace (credRun E s events) := List.mem_flatMap.2 ⟨e, he, by rw [hsplit]; simp⟩
    obtain ⟨s', o, c, rfl⟩ := serve_stepOf s events x hx
    exact promotion_of_change hw hne

/-- **The staged secret is cleaned up.** A reconciliation, from any host that a cut wipe may have left and cut anywhere,
leaves the active identity alone and removes no record; if it succeeds with a settled record, neither the staged nor the
quarantined file is left. And in every run from a host without a record, a record that needs the staged secret never stands
beside a quarantined one. -/
theorem staged_secret_cleaned (E : CredentialEnv) (s : Host) :
    (∀ now cs,
      (∀ x ∈ ((loadAndReconcileStatus E now).run.exec (credNext E) s cs).steps,
        x.post.active = x.pre.active ∧ (x.pre.state.isSome → x.post.state.isSome)) ∧
      ∀ r, ((loadAndReconcileStatus E now).run.exec (credNext E) s cs).out = some (.ok r) →
        ∀ st, r = some st ∨ ((loadAndReconcileStatus E now).run.exec (credNext E) s cs).st.state = some st →
          st.phase.settled = true →
          ((loadAndReconcileStatus E now).run.exec (credNext E) s cs).st.staged = none ∧
            ((loadAndReconcileStatus E now).run.exec (credNext E) s cs).st.wiping = none) ∧
    (s.state = none → ∀ events before, before <+: trace (credRun E s events) → Unquarantined (after s before)) := by
  refine ⟨fun now cs => ⟨fun x hx => ?_, fun r hr st hst hsettled => ?_⟩, fun hs events before hbefore => ?_⟩
  · obtain ⟨s', o, c, ho, rfl⟩ := Prog.only_exec _ (Fallible.issues_iff.1 loadAndReconcileStatus_reconciling) s cs x hx
    exact reconciling_frame ho
  · have hnil : Warrants E [] s := fun before x rest h => by simp at h
    have hchecked : Justified E (loadAndReconcileStatus E now)
        (fun r _ s' => Prepared E s' r) [] s := loadAndReconcileStatus_checked hnil
    have hprepared := (Fallible.ensures_exec hchecked cs).2 r hr
    cases r with
    | none => simp [hprepared.1] at hst
    | some status =>
      obtain ⟨d, hd, hsame, hgone⟩ := Checked.record hprepared
      refine hgone ?_
      rcases hst with h | h
      · cases h
        rw [hsame (by cases hp : st.phase <;> simp_all [Phase.settled, Phase.unstaged])]
        exact hsettled
      · rw [hd] at h
        cases h
        exact hsettled
  · refine (serve_linked s events).visited ?_ (fun st hst => by simp [hs] at hst) hbefore
    intro x hx hpre
    obtain ⟨earlier, hw⟩ := run_sourced events x hx
    obtain ⟨s', o, c, rfl⟩ := serve_stepOf s events x hx
    exact hpre.step hw

/-! ## Samples -/

/-- an expired rotation whose wipe was cut behind the truncation -/
def cutWipe : Host where
  state := some sampleRecord.expire
  active := some ⟨[1], 1⟩
  wiping := some ⟨[], 5⟩

/-- the rotation is staged, proved and activated -/
def activation : List (Event × List Choice) :=
  promptStage ++
    [(sampleRequest .proofReady 4 "" 30, List.replicate 8 (.done 30)),
      (sampleRequest .activate 4 "" 40,
        List.replicate 6 (.done 40) ++ .replied (sampleReply .activated 5) :: List.replicate 8 (.done 40))]

/-- The activation changes the identity, and a reconciliation of the cut wipe succeeds. -/
theorem sample_files :
    (∃ e ∈ credRun sampleEnv sampleStart activation, ∃ x ∈ e.run.steps, x.post.active ≠ x.pre.active) ∧
      ((loadAndReconcileStatus sampleEnv 100).run.exec (credNext sampleEnv) cutWipe (List.replicate 8 (.done 100))).out =
        some (.ok (some sampleRecord.expire)) := by
  decide +kernel

/-- no operator acts in the activation -/
theorem activation_unattended :
    ∀ e ∈ credRun sampleEnv sampleStart activation, ∀ data, e.req ≠ .replaceIdentity data := by
  intro e he data
  simp only [credRun, activation, promptStage, serve, List.cons_append, List.nil_append, List.mem_cons, List.not_mem_nil,
    or_false] at he
  rcases he with rfl | rfl | rfl | rfl <;> simp [sampleRequest]

/-- the activation promotes the staged identity -/
theorem activation_integrity :
    (∃ e ∈ credRun sampleEnv sampleStart activation, ∃ x ∈ e.run.steps, x.post.active ≠ x.pre.active) ∧
      (∀ st, (after sampleStart (trace (credRun sampleEnv sampleStart activation))).state = some st →
        activeIs sampleEnv (after sampleStart (trace (credRun sampleEnv sampleStart activation)))
            st.previousIdentitySHA256 ∨
          activeIs sampleEnv (after sampleStart (trace (credRun sampleEnv sampleStart activation)))
            st.stagedIdentitySHA256) ∧
      ∀ e ∈ credRun sampleEnv sampleStart activation, ∀ before x rest, e.run.steps = before ++ x :: rest →
        x.post.active ≠ x.pre.active → Promotion sampleEnv before x :=
  have h := active_identity_integrity sampleEnv sampleStart rfl activation activation_unattended
  ⟨sample_files.1, h.1 _ List.prefix_rfl, h.2⟩

theorem cut_wipe_cleaned :
    (((loadAndReconcileStatus sampleEnv 100).run.exec (credNext sampleEnv) cutWipe
        (List.replicate 8 (.done 100))).st.staged = none ∧
      ((loadAndReconcileStatus sampleEnv 100).run.exec (credNext sampleEnv) cutWipe
        (List.replicate 8 (.done 100))).st.wiping = none) ∧
    Unquarantined (after sampleStart (trace (credRun sampleEnv sampleStart promptStage))) :=
  ⟨((staged_secret_cleaned sampleEnv cutWipe).1 100 _).2 _ sample_files.2 _ (.inl rfl) rfl,
    (staged_secret_cleaned sampleEnv sampleStart).2 rfl promptStage _ List.prefix_rfl⟩

end AutostreamUpdater.Credential
