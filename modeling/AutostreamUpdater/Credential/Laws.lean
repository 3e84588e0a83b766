/-
What the credential procedures keep true, one lemma for each of them.

Two things are watched at every point where a procedure can be cut. `StepOk` is about the steps taken: a record that has
ended (expired, cancel-ready, manually recovered) is replaced by an ended record of the same rotation only, and the panel
is called only while the recorded credential has not expired. `Held` is about the state: the token the panel was last told
to activate is in the active identity, or still in the staged one under a proof-ready record. A `Watch` says which of the
two is asked for; with neither, the lemmas are plain postconditions.
-/
import AutostreamUpdater.Credential.Requests

namespace AutostreamUpdater.Credential

open Contract Base Fallible

/-- one step of an execution on the host -/
abbrev HostStep := Step Host CredRes

section Laws

variable (E : CredentialEnv)

/-- the file is an identity with this token -/
def holds (file : Option IdentityFile) (token : String) : Prop :=
  ∃ f c, file = some f ∧ E.decodeIdentity f.data = some c ∧ c.runtimeToken = token

/-- the active identity has this digest -/
def activeIs (s : Host) (digest : String) : Prop :=
  ∃ f, s.active = some f ∧ runtimeCredentialDigest E f.data = digest

/-- a proof-ready record of the rotation, and its staged identity with the token -/
def Pending (s : Host) (rotationID token : String) : Prop :=
  ∃ st f c, s.state = some st ∧ st.rotationID = rotationID ∧ st.phase = .proofReady ∧ s.staged = some f ∧
    runtimeCredentialDigest E f.data = st.stagedIdentitySHA256 ∧ E.decodeIdentity f.data = some c ∧ c.runtimeToken = token

/-- the owed token is in the active identity -/
def Settled (s : Host) : Prop := ∀ r token, s.owed = some (r, token) → holds E s.active token

/-- the owed token is in the active identity or still pending -/
def Held (s : Host) : Prop := ∀ r token, s.owed = some (r, token) → holds E s.active token ∨ Pending E s r token

/-- an ended record is followed by none or by an ended record of the same rotation -/
def Follows (a b : Host) : Prop :=
  ∀ st, a.state = some st → st.phase.ended = true →
    b.state = none ∨ ∃ st', b.state = some st' ∧ st'.phase.ended = true ∧ st'.rotationID = st.rotationID

/-- what is watched about one step of an event at time `now` -/
structure StepOk (now : ℕ) (x : HostStep) : Prop where
  follows : Follows x.pre x.post
  panel : ∀ call, x.op = .panel call →
    ∃ st, x.pre.state = some st ∧ st.rotationID = call.rotationID ∧ now < st.stagedExpiresAt

/-- which properties are watched, and the time of the event -/
structure Watch where
  steps : Prop
  tokens : Prop
  now : ℕ

/-- the condition at every cut -/
def Watch.C (w : Watch) (tr : List HostStep) (s : Host) : Prop :=
  (w.steps → ∀ x ∈ tr, StepOk w.now x) ∧ (w.tokens → Held E s)

/-- `p` keeps what is watched and ends in `Q` -/
abbrev Watch.Ensures (w : Watch) {α : Type} (p : Cred α) (Q : α → List HostStep → Host → Prop) :
    List HostStep → Host → Prop := ensures (credNext E) (w.C E) p Q

variable {E} {w : Watch} {s s' : Host} {tr : List HostStep}

/-! ## States -/

theorem Follows.of_state_eq (h : s'.state = s.state) : Follows s s' := by
  intro st hst hended
  exact .inr ⟨st, h.trans hst, hended, rfl⟩

theorem Follows.of_open (h : ∀ st, s.state = some st → st.phase.ended = false) : Follows s s' := by
  intro st hst hended
  rw [h st hst] at hended
  cases hended

theorem Settled.held (h : Settled E s) : Held E s := fun r token ho => .inl (h r token ho)

/-- Without a proof-ready record nothing is pending. -/
theorem Held.settled (h : Held E s) (hst : ∀ st, s.state = some st → st.phase ≠ .proofReady) : Settled E s := by
  intro r token ho
  rcases h r token ho with h | ⟨st, f, c, hstate, -, hphase, -⟩
  · exact h
  · exact absurd hphase (hst st hstate)

theorem Settled.of_eq (h : Settled E s) (ha : s'.active = s.active) (ho : s'.owed = s.owed) : Settled E s' := by
  intro r token hr
  rw [ha]
  exact h r token (ho ▸ hr)

/-- the host after a record was saved -/
def saved (s : Host) (st : RuntimeCredentialStatus) : Host :=
  { s with state := some st, owed := if st.phase.ended then s.owed.filter (·.1 != st.rotationID) else s.owed }

theorem saved_owed_of {st : RuntimeCredentialStatus} {o : String × String} (h : (saved s st).owed = some o) :
    s.owed = some o := by
  simp only [saved] at h
  split_ifs at h
  · exact (Option.filter_eq_some_iff.1 h).1
  · exact h

/-- Saving a record keeps the owed token in the active identity. -/
theorem Settled.saved (h : Settled E s) (st : RuntimeCredentialStatus) : Settled E (saved s st) := by
  intro r token ho
  exact h r token (saved_owed_of ho)

/-- Recording the end of the rotation whose token is pending pays the debt. -/
theorem Held.saved_ended (h : Held E s) {st st₀ : RuntimeCredentialStatus} (hs : s.state = some st₀)
    (hid : st.rotationID = st₀.rotationID) (hended : st.phase.ended = true) : Settled E (saved s st) := by
  intro r token ho
  rcases h r token (saved_owed_of ho) with h | ⟨st1, f, c, hstate, hr, -⟩
  · exact h
  · simp only [Credential.saved, hended, if_true] at ho
    have hne := (Option.filter_eq_some_iff.1 ho).2
    obtain rfl : st₀ = st1 := Option.some.inj (hs.symm.trans hstate)
    simp [hid, hr] at hne

/-! ## Operations -/

/-- A step that is not a panel call and keeps the record is unobjectionable. -/
theorem Watch.C.step (hC : w.C E tr s) {x : HostStep} (hstep : w.steps → StepOk w.now x)
    (hheld : w.tokens → Held E s') : w.C E (tr ++ [x]) s' := by
  refine ⟨?_, hheld⟩
  intro hw y hy
  rcases List.mem_append.1 hy with hy | hy
  · exact hC.1 hw y hy
  · obtain rfl := List.mem_singleton.1 hy
    exact hstep hw

/-- A read changes nothing. -/
theorem Watch.C.read (hC : w.C E tr s) {o : CredOp} (ho : ∀ call, o ≠ .panel call) (res : CredRes o) :
    w.C E (tr ++ [⟨s, o, res, s⟩]) s :=
  hC.step (fun _ => ⟨Follows.of_state_eq rfl, fun call h => absurd h (ho call)⟩) hC.2

theorem reading_ok {α : Type} {r : Except CredError α} {c : Choice} {a : α} (h : reading r c = .ok a) : r = .ok a := by
  cases c with
  | done _ => exact h
  | failed e => cases h
  | failedDone e _ => cases h
  | replied _ => cases h

/-! ## Rules -/

/-- the operations that change nothing -/
def Reading : CredOp → Prop
  | .act .layout | .loadStatus | .lstat _ | .read _ | .loadIdentity _ => True
  | .act _ | .panel _ => False

theorem reading_same {o : CredOp} (ho : Reading o) (s : Host) (c : Choice) : (credNext E s o c).2 = s := by
  cases o with
  | loadStatus => rfl
  | lstat _ => rfl
  | read _ => rfl
  | loadIdentity _ => rfl
  | panel _ => exact ho.elim
  | act a =>
    cases a with
    | layout => cases c <;> rfl
    | saveStatus _ => exact ho.elim
    | removeState => exact ho.elim
    | writeIdentity _ _ _ => exact ho.elim
    | quarantine => exact ho.elim
    | overwrite => exact ho.elim
    | truncate => exact ho.elim
    | removeWiping => exact ho.elim
    | replaceIdentity _ => exact ho.elim

/-- a condition at the cuts that a read keeps -/
class Watching (C : List HostStep → Host → Prop) : Prop where
  read : ∀ {tr : List HostStep} {s : Host} {o : CredOp} (res : CredRes o), Reading o → C tr s → C (tr ++ [⟨s, o, res, s⟩]) s

instance : Watching (w.C E) where
  read {_ _ o} res ho hC := hC.read (fun call h => by subst h; exact ho) res

section Rules

variable {C : List HostStep → Host → Prop} [Watching C] {α β : Type} {f : α → Cred β} {R : β → List HostStep → Host → Prop}

/-- the rule for a record read -/
theorem loadStatus_bind {f : Option RuntimeCredentialStatus → Cred β} (hC : C tr s)
    (hf : ∀ r tr, C tr s → readStatus E s.state = .ok r → ensures (credNext E) C (f r) R tr s) :
    ensures (credNext E) C (loadStatus >>= f) R tr s := by
  refine ensures_bind (Q := fun r _ s' => s' = s ∧ readStatus E s.state = .ok r) ?_ ?_
  · refine ensures_ofProg (Prog.wp_op.2 ⟨hC, fun c => ⟨Watching.read _ trivial hC, ?_⟩⟩)
    intro r hr
    exact ⟨rfl, reading_ok hr⟩
  · rintro r tr' _ hC' ⟨rfl, hr⟩
    exact hf r tr' hC' hr

/-- the rule for a file check -/
theorem lstat_bind {e : CredError} {slot : Slot} {f : Bool → Cred β} (hC : C tr s)
    (hf : ∀ tr, C tr s → ensures (credNext E) C (f (s.slot slot).isSome) R tr s) :
    ensures (credNext E) C (lstat e slot >>= f) R tr s := by
  refine ensures_bind (Q := fun b _ s' => s' = s ∧ b = (s.slot slot).isSome) ?_ ?_
  · refine ensures_ofProgOr (Prog.wp_op.2 ⟨hC, fun c => ⟨Watching.read _ trivial hC, ?_⟩⟩)
    intro b hb
    exact ⟨rfl, (Except.ok.inj (reading_ok hb)).symm⟩
  · rintro b tr' _ hC' ⟨rfl, rfl⟩
    exact hf tr' hC'

/-- the rule for a file read -/
theorem read_bind {e : CredError} {slot : Slot} {f : Bytes → Cred β} (hC : C tr s)
    (hf : ∀ data tr, C tr s → readFile (s.slot slot) = .ok data → ensures (credNext E) C (f data) R tr s) :
    ensures (credNext E) C (Fallible.ofProgOr e (Prog.op (CredOp.read slot)) >>= f) R tr s := by
  refine ensures_bind (Q := fun data _ s' => s' = s ∧ readFile (s.slot slot) = .ok data) ?_ ?_
  · refine ensures_ofProgOr (Prog.wp_op.2 ⟨hC, fun c => ⟨Watching.read _ trivial hC, ?_⟩⟩)
    intro data hd
    exact ⟨rfl, reading_ok hd⟩
  · rintro data tr' _ hC' ⟨rfl, hd⟩
    exact hf data tr' hC' hd

/-- the rule for an identity read whose error is replaced -/
theorem loadIdentityOr_bind {e : CredError} {slot : Slot} {f : Identity → Cred β} (hC : C tr s)
    (hf : ∀ i tr, C tr s → readIdentity E (s.slot slot) = .ok i → ensures (credNext E) C (f i) R tr s) :
    ensures (credNext E) C (loadIdentityOr e slot >>= f) R tr s := by
  refine ensures_bind (Q := fun i _ s' => s' = s ∧ readIdentity E (s.slot slot) = .ok i) ?_ ?_
  · refine ensures_ofProgOr (Prog.wp_op.2 ⟨hC, fun c => ⟨Watching.read _ trivial hC, ?_⟩⟩)
    intro i hi
    exact ⟨rfl, reading_ok hi⟩
  · rintro i tr' _ hC' ⟨rfl, hi⟩
    exact hf i tr' hC' hi

theorem loadIdentity_ensures {slot : Slot} (hC : C tr s) :
    ensures (credNext E) C (loadIdentity slot) (fun i _ s' => s' = s ∧ readIdentity E (s.slot slot) = .ok i) tr s := by
  refine ensures_ofProg (Prog.wp_op.2 ⟨hC, fun c => ⟨Watching.read _ trivial hC, ?_⟩⟩)
  intro i hi
  exact ⟨rfl, reading_ok hi⟩

/-- the rule for an identity read -/
theorem loadIdentity_bind {slot : Slot} {f : Identity → Cred β} (hC : C tr s)
    (hf : ∀ i tr, C tr s → readIdentity E (s.slot slot) = .ok i → ensures (credNext E) C (f i) R tr s) :
    ensures (credNext E) C (loadIdentity slot >>= f) R tr s := by
  refine ensures_bind (loadIdentity_ensures hC) ?_
  rintro i tr' _ hC' ⟨rfl, hi⟩
  exact hf i tr' hC' hi

/-- the rule for a procedure that only reads -/
theorem reads_bind {p : Cred α} {f : α → Cred β} (hp : issues Reading p) (hC : C tr s)
    (hf : ∀ a tr, C tr s → ensures (credNext E) C (f a) R tr s) : ensures (credNext E) C (p >>= f) R tr s := by
  refine ensures_bind (Q := fun _ tr' s' => C tr' s' ∧ s' = s) ?_ ?_
  · refine issues_ensures hp ?_ (fun _ _ h => h.1) ⟨hC, rfl⟩
    rintro tr' s1 o c ho ⟨hC', hs1⟩
    have hsame := reading_same (E := E) ho s1 c
    have hread := Watching.read (credNext E s1 o c).1 ho hC'
    rw [stepOf, hsame]
    exact ⟨hread, hs1⟩
  · rintro a tr' _ hC' ⟨-, rfl⟩
    exact hf a tr' hC'

/-- what an operation leaves behind: its effect, or nothing -/
theorem actNext_cases (s : Host) (a : Act) (c : Choice) :
    (∃ e, actNext s a c = (.error e, s)) ∨
      ∃ time s', a.effect time s = .ok s' ∧ ((∃ e, actNext s a c = (.error e, s')) ∨ actNext s a c = (.ok (), s')) := by
  cases c with
  | failed e => exact .inl ⟨e, rfl⟩
  | replied _ => exact .inl ⟨_, rfl⟩
  | done time =>
    cases h : a.effect time s with
    | error e => exact .inl ⟨e, by simp [actNext, h]⟩
    | ok s' => exact .inr ⟨time, s', h, .inr (by simp [actNext, h])⟩
  | failedDone e time =>
    cases h : a.effect time s with
    | error e' => exact .inl ⟨e, by simp [actNext, h]⟩
    | ok s' => exact .inr ⟨time, s', h, .inl ⟨e, by simp [actNext, h]⟩⟩

omit [Watching C] in
/-- the rule for an operation that changes something -/
theorem act_rule {a : Act} {Q : Unit → List HostStep → Host → Prop} (hC : C tr s)
    (hstay : ∀ res, C (tr ++ [⟨s, .act a, res, s⟩]) s)
    (hmove : ∀ time s' res, a.effect time s = .ok s' → C (tr ++ [⟨s, .act a, res, s'⟩]) s')
    (hQ : ∀ time s' tr, C tr s' → a.effect time s = .ok s' → Q () tr s') : ensures (credNext E) C (act a) Q tr s := by
  refine ensures_ofProg (Prog.wp_op.2 ⟨hC, fun c => ?_⟩)
  simp only [stepOf, credNext]
  rcases actNext_cases s a c with ⟨e, h⟩ | ⟨time, s', heff, ⟨e, h⟩ | h⟩
  · rw [h]
    exact ⟨hstay _, by simp⟩
  · rw [h]
    exact ⟨hmove _ _ _ heff, by simp⟩
  · rw [h]
    exact ⟨hmove _ _ _ heff, fun _ _ => hQ _ _ _ (hmove _ _ _ heff) heff⟩

theorem act_ensures {a : Act} {Q : Unit → List HostStep → Host → Prop} (hC : w.C E tr s)
    (hstep : ∀ time s', a.effect time s = .ok s' → (w.steps → Follows s s') ∧ (w.tokens → Held E s'))
    (hQ : ∀ time s' tr, w.C E tr s' → a.effect time s = .ok s' → Q () tr s') : w.Ensures E (act a) Q tr s :=
  act_rule hC (fun _ => hC.read (by simp) _)
    (fun time s' _ h => hC.step (fun hw => ⟨(hstep time s' h).1 hw, by simp⟩) (hstep time s' h).2) hQ

omit [Watching C] in
/-- the rule for a panel call -/
theorem panel_rule {call : PanelCall} {f : HostAgentRuntimeTokenRotation → Cred β} (hC : C tr s)
    (haccept : ∀ res, C (tr ++ [⟨s, .panel call, res, call.accept s⟩]) (call.accept s))
    (hrefuse : ∀ res, C (tr ++ [⟨s, .panel call, res, s⟩]) s)
    (hf : ∀ r, ensures (credNext E) C (f r) R (tr ++ [⟨s, .panel call, .ok r, call.accept s⟩]) (call.accept s)) :
    ensures (credNext E) C (panel call >>= f) R tr s := by
  refine ensures_bind
    (Q := fun r tr' s' => tr' = tr ++ [⟨s, .panel call, .ok r, call.accept s⟩] ∧ s' = call.accept s) ?_ ?_
  · refine ensures_ofProg (Prog.wp_op.2 ⟨hC, fun c => ?_⟩)
    cases c with
    | done _ => exact ⟨hrefuse _, by simp [credNext, panelNext]⟩
    | failed e => exact ⟨hrefuse _, by simp [credNext, panelNext]⟩
    | failedDone e _ => exact ⟨haccept _, by simp [credNext, panelNext]⟩
    | replied r =>
      refine ⟨haccept _, fun r' hr' => ?_⟩
      cases hr'
      exact ⟨rfl, rfl⟩
  · rintro r _ _ _ ⟨rfl, rfl⟩
    exact hf r

theorem panel_bind {call : PanelCall} {f : HostAgentRuntimeTokenRotation → Cred β} (hC : w.C E tr s)
    (hnow : w.steps → ∃ st, s.state = some st ∧ st.rotationID = call.rotationID ∧ w.now < st.stagedExpiresAt)
    (hheld : w.tokens → Held E (call.accept s))
    (hf : ∀ r tr, w.C E tr (call.accept s) → w.Ensures E (f r) R tr (call.accept s)) :
    w.Ensures E (panel call >>= f) R tr s := by
  have hsame : (call.accept s).state = s.state := by cases call <;> rfl
  have haccept : ∀ res, w.C E (tr ++ [⟨s, .panel call, res, call.accept s⟩]) (call.accept s) := fun res =>
    hC.step (fun hw => ⟨Follows.of_state_eq hsame, fun _ h => by cases h; exact hnow hw⟩) hheld
  refine panel_rule hC haccept (fun res => ?_) fun r => hf r _ (haccept _)
  exact hC.step (fun hw => ⟨Follows.of_state_eq rfl, fun _ h => by cases h; exact hnow hw⟩) hC.2

omit [Watching C] in
/-- the rule for a saved record -/
theorem saveStatus_rule {st : RuntimeCredentialStatus} {f : Unit → Cred β} (hC : C tr s)
    (hstay : ∀ res, C (tr ++ [⟨s, .act (.saveStatus st), res, s⟩]) s)
    (hmove : ∀ res, C (tr ++ [⟨s, .act (.saveStatus st), res, saved s st⟩]) (saved s st))
    (hf : ∀ tr, C tr (saved s st) → st.sound E = true → ensures (credNext E) C (f ()) R tr (saved s st)) :
    ensures (credNext E) C (saveStatus E st >>= f) R tr s := by
  refine ensures_bind (Q := fun _ _ s' => st.sound E = true ∧ s' = saved s st) ?_ ?_
  · unfold saveStatus
    refine ensures_require_bind hC fun hv => ensures_require_bind hC fun hb => ?_
    refine act_rule hC hstay (fun time s' res h => ?_) fun time s' tr _ h => ?_
    · cases h
      exact hmove res
    · cases h
      exact ⟨by simp [RuntimeCredentialStatus.sound, hv, hb], rfl⟩
  · rintro _ tr' _ hC' ⟨hsound, rfl⟩
    exact hf tr' hC' hsound

theorem saveStatus_bind {st : RuntimeCredentialStatus} {f : Unit → Cred β} (hC : w.C E tr s)
    (hfollow : w.steps → Follows s (saved s st)) (hheld : w.tokens → Held E (saved s st))
    (hf : ∀ tr, w.C E tr (saved s st) → st.sound E = true →
      w.Ensures E (f ()) R tr (saved s st)) : w.Ensures E (saveStatus E st >>= f) R tr s :=
  saveStatus_rule hC (fun _ => hC.read (by simp) _) (fun _ => hC.step (fun hw => ⟨hfollow hw, by simp⟩) hheld) hf

/-- the rule for a procedure whose error becomes a response -/
theorem responding_keeps {C : List HostStep → Host → Prop} {code : CredError → String} {p : Cred α}
    {k : α → Prog CredOp CredRes Response} {Q : α → List HostStep → Host → Prop} (hp : ensures (credNext E) C p Q tr s)
    (hk : ∀ a tr s, C tr s → Q a tr s → keeps (credNext E) C (k a) tr s) :
    keeps (credNext E) C (responding code p k) tr s :=
  keeps_run hp (fun _ _ _ hC => keeps_pure hC) hk

end Rules

/-! ## Wiping -/

/-- the record, the active identity and the debt are as before -/
structure Frame (s s' : Host) : Prop where
  state : s'.state = s.state
  active : s'.active = s.active
  owed : s'.owed = s.owed

theorem Frame.refl (s : Host) : Frame s s := ⟨rfl, rfl, rfl⟩

/-- reads, and what a wipe does to the staged and the quarantined file -/
def Cleaning : CredOp → Prop
  | .act .layout | .act .quarantine | .act .overwrite | .act .truncate | .act .removeWiping => True
  | .act _ | .panel _ => False
  | .loadStatus | .lstat _ | .read _ | .loadIdentity _ => True

/-- A cleaning operation leaves the frame alone. -/
theorem cleaning_frame {o : CredOp} (ho : Cleaning o) (s : Host) (c : Choice) : Frame s (credNext E s o c).2 := by
  have hact : ∀ a : Act, (∀ time s', a.effect time s = .ok s' → Frame s s') → Frame s (actNext s a c).2 := by
    intro a h
    rcases actNext_cases s a c with ⟨e, hn⟩ | ⟨time, s', heff, ⟨e, hn⟩ | hn⟩
    · rw [hn]
      exact Frame.refl s
    · rw [hn]
      exact h time s' heff
    · rw [hn]
      exact h time s' heff
  cases o with
  | loadStatus => exact Frame.refl s
  | lstat _ => exact Frame.refl s
  | read _ => exact Frame.refl s
  | loadIdentity _ => exact Frame.refl s
  | panel _ => exact ho.elim
  | act a =>
    refine hact a fun time s' heff => ?_
    cases a with
    | layout => cases heff; exact Frame.refl s
    | overwrite => cases heff; exact ⟨rfl, rfl, rfl⟩
    | truncate => cases heff; exact ⟨rfl, rfl, rfl⟩
    | removeWiping => cases heff; exact ⟨rfl, rfl, rfl⟩
    | quarantine =>
      simp only [Act.effect] at heff
      cases hst : s.staged with
      | none => simp [hst] at heff
      | some file =>
        simp only [hst] at heff
        cases heff
        exact ⟨rfl, rfl, rfl⟩
    | saveStatus _ => exact ho.elim
    | removeState => exact ho.elim
    | writeIdentity _ _ _ => exact ho.elim
    | replaceIdentity _ => exact ho.elim

/-- A cleaning procedure keeps the frame; what it removes was not needed. -/
theorem cleaning_ensures {α : Type} {p : Cred α} (hp : issues Cleaning p) (hC : w.C E tr s)
    (hset : w.tokens → Settled E s) : w.Ensures E p (fun _ _ s' => Frame s s') tr s := by
  refine ensures_mono (issues_ensures (I := fun tr s' => w.C E tr s' ∧ Frame s s') hp ?_
    (fun _ _ h => h.1) ⟨hC, Frame.refl s⟩) fun _ _ _ _ h => h.2
  rintro tr' s' o c ho ⟨hC', hframe⟩
  have hf := cleaning_frame (E := E) ho s' c
  have hframe' : Frame s (credNext E s' o c).2 :=
    ⟨hf.state.trans hframe.state, hf.active.trans hframe.active, hf.owed.trans hframe.owed⟩
  refine ⟨hC'.step (fun _ => ⟨Follows.of_state_eq hf.state, ?_⟩) fun hw => ?_, hframe'⟩
  · rintro call rfl
    exact ho.elim
  · exact ((hset hw).of_eq hframe'.active hframe'.owed).held

theorem eraseQuarantined_cleaning : issues Cleaning eraseQuarantined :=
  issues_bind (issues_ofProgOr ⟨trivial, fun _ => trivial⟩) fun _ =>
    issues_bind (issues_total ⟨trivial, fun _ => trivial⟩) fun _ =>
      issues_bind (issues_total ⟨trivial, fun _ => trivial⟩) fun _ =>
        issues_bind (issues_ofProg ⟨trivial, fun _ => trivial⟩) fun _ => issues_require

theorem wipeAndRemoveIdentity_cleaning (digest : String) : issues Cleaning (wipeAndRemoveIdentity E digest) := by
  unfold wipeAndRemoveIdentity
  refine issues_bind (issues_ofProgOr ⟨trivial, fun _ => trivial⟩) fun stagedExists => ?_
  refine issues_bind (issues_ofProgOr ⟨trivial, fun _ => trivial⟩) fun wipingExists => ?_
  refine issues_bind issues_require fun _ => ?_
  refine issues_ite eraseQuarantined_cleaning (issues_ite ?_ issues_pure)
  refine issues_bind ?_ fun _ => eraseQuarantined_cleaning
  unfold quarantineStaged
  refine issues_bind (issues_ofProgOr ⟨trivial, fun _ => trivial⟩) fun data => ?_
  refine issues_bind issues_require fun _ => ?_
  exact issues_ofProg ⟨trivial, fun _ => trivial⟩

/-- The wipe keeps the frame, provided nothing is pending. -/
theorem wipe_ensures {digest : String} (hC : w.C E tr s) (hset : w.tokens → Settled E s) :
    w.Ensures E (wipeAndRemoveIdentity E digest) (fun _ _ s' => Frame s s') tr s :=
  cleaning_ensures (wipeAndRemoveIdentity_cleaning digest) hC hset

end Laws
end AutostreamUpdater.Credential
