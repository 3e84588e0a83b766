/-
One version 2 request as a session on its job's durable ledger.

The abstract view of a job is how far its ledger has come: `spent` (the forward window is closed), `latched` (rollback is
decided), and the saved result. `Later x y` orders two ledgers by it. `Sound` is the invariant of every point of a
request, crash points included: the ledger only moves `Later`, the target snapshot is written only on a spent ledger
after the request's own forward grant was consumed, a latched ledger takes no result but `rolled_back`, and a terminal
job is left alone. It also keeps `Owned`: a job under way is the one its target's active pointer names. The lemmas here
say what one operation and one save preserve; the coordinator's programs follow in the next module.

Loads come first. They are stated once, for two modes that may differ in their validators (`agrees`), and used with the
invariant of every later module.
-/
import AutostreamUpdater.Base.Agree
import AutostreamUpdater.Port.Laws

namespace AutostreamUpdater.Port

open Contract Base Prog

/-! ## The abstract view of a job -/

section View

variable {β A : Type}

/-- the durable ledger of the plan's job -/
def ledgerOf (plan : SystemdPortReconfigurePlan) (s : PortWorld β A) : Option (PortLedger β) :=
  s.jobs plan.targetID plan.jobID

/-- a ledger exists and no forward request may start from it -/
def spent (x : Option (PortLedger β)) : Bool := x.any fun l => !l.startable

/-- a ledger exists and its rollback is latched -/
def latched (x : Option (PortLedger β)) : Bool := x.any (·.rollbackIsLatched)

/-- a ledger exists and is terminal -/
def closed (x : Option (PortLedger β)) : Bool := x.any fun l => l.state == .terminal

theorem closed_of_terminal {x : Option (PortLedger β)} {l : PortLedger β} (hx : x = some l) (hl : l.state = .terminal) :
    closed x = true := by
  simp [closed, hx, hl]

/-- `y` has come at least as far as `x` -/
structure Later (x y : Option (PortLedger β)) : Prop where
  spent : spent x = true → spent y = true
  latched : latched x = true → latched y = true
  result : ∀ r, x.bind (·.result) = some r → y.bind (·.result) = some r

theorem Later.refl (x : Option (PortLedger β)) : Later x x := ⟨id, id, fun _ => id⟩

theorem Later.trans {x y z : Option (PortLedger β)} (h : Later x y) (h' : Later y z) : Later x z :=
  ⟨h'.spent ∘ h.spent, h'.latched ∘ h.latched, fun r hr => h'.result r (h.result r hr)⟩

/-- a latched ledger has no result but `rolled_back` -/
def Settled (x : Option (PortLedger β)) : Prop :=
  ∀ l, x = some l → l.rollbackIsLatched = true → ∀ r, l.result = some r → r.result = .rolledBack

/-- the terminal version 2 ledger has the result, which names a snapshot of its plan -/
structure Concluded (l : PortLedger β) (r : SystemdPortReconfigureResult) : Prop where
  state : l.state = .terminal
  result : l.result = some r
  version : l.plan.portContractVersion = 2
  snapshot : (portV2ResultSnapshot l.plan r.result).isSome = true

/-- the result is the terminal ledger's, and its applied record is durable -/
def Recorded (app : PortLedger β → SystemdPortReconfigureResult → Option A) (plan : SystemdPortReconfigurePlan)
    (s : PortWorld β A) (r : SystemdPortReconfigureResult) : Prop :=
  ∃ l a, ledgerOf plan s = some l ∧ Concluded l r ∧ app l r = some a ∧ s.applied plan.targetID = some a

/-- a latched ledger is spent -/
theorem spent_of_latched {x : Option (PortLedger β)} (h : latched x = true) : spent x = true := by
  cases x with
  | none => exact absurd h (by simp [latched])
  | some l => simp_all [latched, spent, PortLedger.startable]

end View

/-! ## Who owns a target -/

section Ownership

variable {β A : Type} {s : PortWorld β A} {l : PortLedger β} {t j : String} {plan : SystemdPortReconfigurePlan}

/-- the job has left `staged` and is not terminal -/
def PortLedger.underWay (l : PortLedger β) : Bool := l.state != .staged && l.state != .terminal

/-- every job under way is the one its target's active pointer names -/
def Owned (s : PortWorld β A) : Prop := ∀ t j l, s.jobs t j = some l → l.underWay = true → s.active t = some j

/-- a `staged` ledger of the plan's job is the one the pointer names -/
def Claimed (plan : SystemdPortReconfigurePlan) (s : PortWorld β A) : Prop :=
  ∀ l, ledgerOf plan s = some l → l.state = .staged → s.active plan.targetID = some plan.jobID

theorem Owned.congr {s' : PortWorld β A} (h : Owned s) (hj : s'.jobs = s.jobs) (ha : s'.active = s.active) :
    Owned s' := by
  unfold Owned
  rw [hj, ha]
  exact h

/-- the ledger of the job that the pointer names may be rewritten freely -/
theorem Owned.setJob (h : Owned s) (ha : l.underWay = true → s.active l.plan.targetID = some l.plan.jobID) :
    Owned (s.setJob l) := by
  intro t' j' l' hl' hu
  simp only [PortWorld.setJob] at hl'
  split at hl'
  · next hk =>
    obtain ⟨rfl, rfl⟩ := hk
    cases hl'
    exact ha hu
  · exact h t' j' l' hl' hu

/-- the pointer may be moved to a job while no other job of the target is under way -/
theorem Owned.setActive (h : Owned s) (hothers : ∀ j' l', s.jobs t j' = some l' → l'.underWay = true → j' = j) :
    Owned (s.setActive t j) := by
  intro t' j' l' hj' hu
  simp only [PortWorld.setActive]
  split
  · next ht =>
    subst ht
    rw [hothers j' l' hj' hu]
  · exact h t' j' l' hj' hu

/-- the pointer names the job of every ledger a request may continue -/
theorem Owned.pointer (h : Owned s) (hc : Claimed plan s) (hl : s.jobs plan.targetID plan.jobID = some l)
    (hn : l.state ≠ .terminal) : s.active plan.targetID = some plan.jobID := by
  by_cases hst : l.state = .staged
  · exact hc l hl hst
  · exact h _ _ l hl (by simp [PortLedger.underWay, hst, hn])

/-- `x` is the durable ledger of the job that the pointer of `t` names -/
def ActiveIs (t : String) (s : PortWorld β A) (x : Option (PortLedger β)) : Prop :=
  (x = none ∧ s.active t = none) ∨ ∃ l, x = some l ∧ s.active t = some l.plan.jobID ∧ s.jobs t l.plan.jobID = some l

/-- while the target is not busy with another job, no other job of it is under way -/
theorem Owned.notBusy (h : Owned s) {x : Option (PortLedger β)} (hb : busyWith x j = false) (hx : ActiveIs t s x)
    {j' : String} {l' : PortLedger β} (hl : s.jobs t j' = some l') (hu : l'.underWay = true) : j' = j := by
  have hj' := h t j' l' hl hu
  rcases hx with ⟨rfl, hn⟩ | ⟨a, rfl, ha, hs⟩
  · simp [hn] at hj'
  · obtain rfl : a.plan.jobID = j' := by simpa [ha] using hj'
    obtain rfl : a = l' := by simpa [hs] using hl
    simp only [PortLedger.underWay, Bool.and_eq_true, bne_iff_ne] at hu
    simpa [busyWith, hu.2] using hb

end Ownership

/-! ## What a request does to the target snapshot -/

section Steps

variable {β A : Type}

/-- one carried-out port operation -/
abbrev PortStep (β A : Type) := Step (PortWorld β A) (PortRes (β := β) (A := A))

abbrev PortTrace (β A : Type) := List (PortStep β A)

/-- the payload is a policy of the snapshot `T` and not of `R`, or a runtime configuration of `T` and not of `R` -/
def targetWrite (E : PortEnv) (plan : SystemdPortReconfigurePlan) : PortOp β A → Bool
  | .writePolicy p => candidateMatches E plan p plan.target && !candidateMatches E plan p plan.rollback
  | .writeConfig _ p => (plan.target.any fun t => portV2SnapshotPayloadMatches E p t) &&
      !plan.rollback.any fun r => portV2SnapshotPayloadMatches E p r
  | _ => false

/-- the step consumed the request's own grant -/
def ownGrant (request : LocalExecutorRequest) : PortStep β A → Bool
  | ⟨_, .consumeGrant plan operation _ grant, accepted, _⟩ =>
    accepted && request.portPlan == some plan && operation == request.operation && grant == request.mutationGrant
  | _ => false

/-- whether the step leaves a terminal ledger waiting for its applied record, `b` before it -/
def unrecordedAfter (b : Bool) : PortStep β A → Bool
  | ⟨_, .writeJob l, _, _⟩ => b || l.state == .terminal
  | ⟨_, .writeApplied _ _, ok, _⟩ => b && !ok
  | _ => b

/-- a terminal ledger was written and no applied record was written successfully after it -/
def unrecorded (tr : PortTrace β A) : Bool := tr.foldl unrecordedAfter false

theorem unrecorded_snoc (tr : PortTrace β A) (st : PortStep β A) :
    unrecorded (tr ++ [st]) = unrecordedAfter (unrecorded tr) st := by
  simp [unrecorded]

theorem unrecordedAfter_keepsStore {E : PortEnv} {s : PortWorld β A} {o : PortOp β A} {c : PortChoice}
    (h : o.keepsStore = true) (b : Bool) : unrecordedAfter b (stepOf (portNext E) s o c) = b := by
  cases o <;> first | rfl | simp [PortOp.keepsStore] at h

end Steps

/-! ## Loads -/

section Loads

variable {β A : Type} {E : PortEnv} {s : PortWorld β A} {tr tr' : PortTrace β A} {o : PortOp β A} {c : PortChoice}

/-- the steps since `tr` read records and the clock -/
def ReadOnly (tr tr' : PortTrace β A) : Prop := ∃ reads, tr' = tr ++ reads ∧ ∀ x ∈ reads, x.op.reading = true

theorem ReadOnly.refl (tr : PortTrace β A) : ReadOnly tr tr := ⟨[], by simp, by simp⟩

theorem ReadOnly.steps (h : ReadOnly tr tr') : tr <+: tr' := by
  obtain ⟨reads, rfl, -⟩ := h
  exact List.prefix_append _ _

theorem ReadOnly.snoc (h : ReadOnly tr tr') (ho : o.reading = true) :
    ReadOnly tr (tr' ++ [stepOf (portNext E) s o c]) := by
  obtain ⟨reads, rfl, hr⟩ := h
  refine ⟨reads ++ [stepOf (portNext E) s o c], by simp, ?_⟩
  intro x hx
  rcases List.mem_append.1 hx with hx | hx
  · exact hr x hx
  · obtain rfl := List.mem_singleton.1 hx
    exact ho

theorem ReadOnly.trans {tr1 tr2 tr3 : PortTrace β A} (h : ReadOnly tr1 tr2) (h' : ReadOnly tr2 tr3) :
    ReadOnly tr1 tr3 := by
  obtain ⟨first, rfl, hfirst⟩ := h
  obtain ⟨second, rfl, hsecond⟩ := h'
  refine ⟨first ++ second, by rw [List.append_assoc], ?_⟩
  intro x hx
  exact (List.mem_append.1 hx).elim (hfirst x) (hsecond x)

/-- reads keep `C`, and while `L` holds the two modes accept the same stored ledgers -/
structure Loads (E : PortEnv) (L : PortTrace β A → Prop) (C : PortTrace β A → PortWorld β A → Prop)
    (M M' : PortMode β A) : Prop where
  earlier : ∀ tr tr', L (tr ++ tr') → L tr
  reads : ∀ tr s o c, o.reading = true → C tr s → C (tr ++ [stepOf (portNext E) s o c]) s
  same : ∀ tr s, L tr → C tr s → ∀ t j l, s.jobs t j = some l → M.validateLedger l t = M'.validateLedger l t

variable {L : PortTrace β A → Prop} {C : PortTrace β A → PortWorld β A → Prop} {M M' : PortMode β A}

/-- with one mode only the invariant matters -/
theorem Loads.alone (h : ∀ tr s o c, o.reading = true → C tr s → C (tr ++ [stepOf (portNext E) s o c]) s) :
    Loads E (fun _ => False) C M M := ⟨fun _ _ => id, h, by simp⟩

/-- a loaded ledger is the durable one, and valid -/
theorem loadJob_loads (hC : Loads E L C M M') (h : C tr s) (t j : String) :
    (loadJob M t j).agrees (portNext E) L C (loadJob M' t j) (fun r tr' s' => s' = s ∧ ReadOnly tr tr' ∧ ∀ x, r = .ok x →
      s.jobs t j = x ∧ ∀ l, x = some l → M.validateLedger l t = true ∧ l.plan.jobID = j) tr s := by
  unfold loadJob
  refine agrees_ite (fun _ => agrees_pure h ⟨rfl, ReadOnly.refl _, by simp⟩) fun _ => agrees_op_bind h fun c => ?_
  have hk : C (tr ++ [stepOf (portNext E) s (.readJob t j) c]) s := hC.reads _ _ _ c rfl h
  have hread : ReadOnly tr (tr ++ [stepOf (portNext E) s (.readJob t j) c]) := (ReadOnly.refl tr).snoc rfl
  by_cases hc : c = .ok
  · rw [show (portNext E s (.readJob t j) c).1 = .ok (s.jobs t j) by simp [portNext, hc]]
    cases hx : s.jobs t j with
    | none => exact agrees_pure hk ⟨rfl, hread, by rintro x ⟨⟩; simp⟩
    | some l =>
      refine agrees_return hk ⟨rfl, hread, fun x hx' => ?_⟩ fun hl => by rw [hC.same _ s hl hk t j l hx]
      split at hx'
      · next hv =>
        cases hx'
        simpa using hv
      · cases hx'
  · rw [show (portNext E s (.readJob t j) c).1 = .error () by simp [portNext, hc]]
    exact agrees_pure hk ⟨rfl, hread, by simp⟩

/-- the active ledger is the durable one of the job that the pointer names -/
theorem loadActive_loads (hC : Loads E L C M M') (h : C tr s) (t : String) :
    (loadActive M t).agrees (portNext E) L C (loadActive M' t) (fun r tr' s' => s' = s ∧ ReadOnly tr tr' ∧ ∀ x, r = .ok x →
      ActiveIs t s x ∧ ∀ l, x = some l → M.validateLedger l t = true) tr s := by
  unfold loadActive
  refine agrees_ite (fun _ => agrees_pure h ⟨rfl, ReadOnly.refl _, by simp⟩) fun _ => agrees_op_bind h fun c => ?_
  have hk : C (tr ++ [stepOf (portNext E) s (.readActive t) c]) s := hC.reads _ _ _ c rfl h
  have hread : ReadOnly tr (tr ++ [stepOf (portNext E) s (.readActive t) c]) := (ReadOnly.refl tr).snoc rfl
  by_cases hc : c = .ok
  · rw [show (portNext E s (.readActive t) c).1 = .ok (s.active t) by simp [portNext, hc]]
    cases hx : s.active t with
    | none => exact agrees_pure hk ⟨rfl, hread, by rintro x ⟨⟩; exact ⟨.inl ⟨rfl, hx⟩, by simp⟩⟩
    | some j =>
      refine agrees_ite (fun _ => agrees_pure hk ⟨rfl, hread, by simp⟩) fun _ => ?_
      refine agrees_seq hC.earlier (loadJob_loads hC hk t j) fun r tr2 s2 hk2 hr => ?_
      obtain ⟨rfl, hread2, hr⟩ := hr
      rcases r with _ | _ | l
      · exact agrees_pure hk2 ⟨rfl, hread.trans hread2, by simp⟩
      · exact agrees_pure hk2 ⟨rfl, hread.trans hread2, by simp⟩
      · obtain ⟨hl, hv⟩ := hr _ rfl
        obtain ⟨hvalid, rfl⟩ := hv l rfl
        refine agrees_pure hk2 ⟨rfl, hread.trans hread2, ?_⟩
        rintro x ⟨⟩
        exact ⟨.inr ⟨l, rfl, hx, hl⟩, by rintro l' ⟨⟩; exact hvalid⟩
  · rw [show (portNext E s (.readActive t) c).1 = .error () by simp [portNext, hc]]
    exact agrees_pure hk ⟨rfl, hread, by simp⟩

/-- what `load` returns is the durable version 2 ledger of the job -/
theorem portV2Load_loads {D D' : PortV2Driver β A} (hC : Loads E L C D.mode D'.mode) (h : C tr s)
    (plan : SystemdPortReconfigurePlan) :
    (portV2Load D plan).agrees (portNext E) L C (portV2Load D' plan) (fun r tr' s' => s' = s ∧ ReadOnly tr tr' ∧
      ∀ x, r = .ok x → ledgerOf plan s = x ∧ ∀ l, x = some l →
        l.plan.portContractVersion = 2 ∧ D.mode.validateLedger l plan.targetID = true) tr s := by
  unfold portV2Load
  refine agrees_seq hC.earlier (loadActive_loads hC h _) fun active tr1 s1 hk1 hr1 => ?_
  obtain ⟨rfl, hread1, -⟩ := hr1
  rcases active with _ | active
  · exact agrees_pure hk1 ⟨rfl, hread1, by simp⟩
  refine agrees_ite (fun _ => agrees_pure hk1 ⟨rfl, hread1, by simp⟩) fun _ => ?_
  refine agrees_seq hC.earlier (loadJob_loads hC hk1 _ _) fun r tr2 s2 hk2 hr2 => ?_
  obtain ⟨rfl, hread2, hr⟩ := hr2
  have hread := hread1.trans hread2
  rcases r with _ | _ | l
  · exact agrees_pure hk2 ⟨rfl, hread, by simp⟩
  · refine agrees_pure hk2 ⟨rfl, hread, ?_⟩
    rintro x ⟨⟩
    exact ⟨(hr _ rfl).1, by simp⟩
  · have hl := (hr _ rfl).1
    refine agrees_return hk2 ⟨rfl, hread, fun x hx => ?_⟩ fun hlive => by rw [hC.same _ s2 hlive hk2 _ _ l hl]
    split at hx
    · next hcond =>
      cases hx
      simp only [Bool.and_eq_true, beq_iff_eq] at hcond
      exact ⟨hl, by rintro l' ⟨⟩; exact hcond⟩
    · cases hx

end Loads

/-! ## The session invariant -/

section Session

variable {β A : Type} (app : PortLedger β → SystemdPortReconfigureResult → Option A) (E : PortEnv)
  (request : LocalExecutorRequest) (plan : SystemdPortReconfigurePlan) (s₀ : PortWorld β A)

/-- what holds at every point of a request that found the world in `s₀` -/
structure Sound (tr : PortTrace β A) (s : PortWorld β A) : Prop where
  begun : Later (ledgerOf plan s₀) (ledgerOf plan s)
  later : ∀ st ∈ tr, Later (ledgerOf plan st.post) (ledgerOf plan s)
  settled : Settled (ledgerOf plan s₀) → Settled (ledgerOf plan s)
  target : ∀ pre st, pre ++ [st] <+: tr → targetWrite E plan st.op = true →
    request.operation = .portReconfigure ∧ (∃ c ∈ pre, ownGrant request c = true) ∧
      spent (ledgerOf plan s₀) = false ∧ spent (ledgerOf plan st.post) = true
  reconcile : request.operation = .portReconfigureReconcile → (∃ c ∈ tr, ownGrant request c = true) →
    (ledgerOf plan s₀).isSome = true
  closed : closed (ledgerOf plan s₀) = true →
    ledgerOf plan s = ledgerOf plan s₀ ∧ s.applied plan.targetID = s₀.applied plan.targetID
  others : ∀ t j, ¬ (t = plan.targetID ∧ j = plan.jobID) → s.jobs t j = s₀.jobs t j
  elsewhere : ∀ t, t ≠ plan.targetID → s.applied t = s₀.applied t
  recorded : Port.closed (ledgerOf plan s₀) = false → Port.closed (ledgerOf plan s) = true →
    (∃ r, Recorded app plan s r) ∨ unrecorded tr = true
  owned : Owned s₀ → Claimed plan s₀ → Owned s

variable {app E request plan s₀} {tr : PortTrace β A} {s : PortWorld β A}

theorem Sound.start : Sound app E request plan s₀ [] s₀ where
  begun := Later.refl _
  later := by simp
  settled := id
  target := by simp
  reconcile := by simp
  closed := fun _ => ⟨rfl, rfl⟩
  others := fun _ _ _ => rfl
  elsewhere := fun _ _ => rfl
  recorded := fun ho hc => by simp [ho] at hc
  owned := fun h _ => h

/-- **One operation.** An operation that moves the ledger `Later`, keeps it settled, and writes `T` or consumes a grant
only where that is allowed, keeps a session sound. -/
theorem Sound.snoc {o : PortOp β A} {c : PortChoice} (h : Sound app E request plan s₀ tr s)
    (hl : Later (ledgerOf plan s) (ledgerOf plan (portNext E s o c).2))
    (hs : Settled (ledgerOf plan s₀) → Settled (ledgerOf plan (portNext E s o c).2))
    (ht : targetWrite E plan o = true → request.operation = .portReconfigure ∧ (∃ c ∈ tr, ownGrant request c = true) ∧
      spent (ledgerOf plan s₀) = false ∧ spent (ledgerOf plan (portNext E s o c).2) = true)
    (hr : request.operation = .portReconfigureReconcile → ownGrant request (stepOf (portNext E) s o c) = true →
      (ledgerOf plan s₀).isSome = true)
    (hc : Port.closed (ledgerOf plan s₀) = true → ledgerOf plan (portNext E s o c).2 = ledgerOf plan s ∧
      (portNext E s o c).2.applied plan.targetID = s.applied plan.targetID)
    (ho : ∀ t j, ¬ (t = plan.targetID ∧ j = plan.jobID) → (portNext E s o c).2.jobs t j = s.jobs t j)
    (he : ∀ t, t ≠ plan.targetID → (portNext E s o c).2.applied t = s.applied t)
    (hd : Port.closed (ledgerOf plan s₀) = false → Port.closed (ledgerOf plan (portNext E s o c).2) = true →
      (∃ r, Recorded app plan (portNext E s o c).2 r) ∨ unrecorded (tr ++ [stepOf (portNext E) s o c]) = true)
    (hn : Owned s₀ → Claimed plan s₀ → Owned s → Owned (portNext E s o c).2) :
    Sound app E request plan s₀ (tr ++ [stepOf (portNext E) s o c]) (portNext E s o c).2 where
  begun := h.begun.trans hl
  later := by
    intro st hst
    rcases List.mem_append.1 hst with hst | hst
    · exact (h.later st hst).trans hl
    · obtain rfl := List.mem_singleton.1 hst
      exact Later.refl _
  settled := hs
  target := by
    intro pre st hpre hst
    rcases List.prefix_concat_iff.1 hpre with heq | hpre
    · obtain ⟨rfl, heq⟩ := List.append_inj' heq rfl
      obtain rfl : st = stepOf (portNext E) s o c := by simpa using heq
      exact ht hst
    · exact h.target pre st hpre hst
  reconcile := by
    rintro hop ⟨st, hst, hg⟩
    rcases List.mem_append.1 hst with hst | hst
    · exact h.reconcile hop ⟨st, hst, hg⟩
    · obtain rfl := List.mem_singleton.1 hst
      exact hr hop hg
  closed := by
    intro hcl
    obtain ⟨h1, h2⟩ := h.closed hcl
    obtain ⟨h3, h4⟩ := hc hcl
    exact ⟨h3.trans h1, h4.trans h2⟩
  others := fun t j htj => (ho t j htj).trans (h.others t j htj)
  elsewhere := fun t ht => (he t ht).trans (h.elsewhere t ht)
  recorded := hd
  owned := fun h0 hclaim => hn h0 hclaim (h.owned h0 hclaim)

variable {s' : PortWorld β A}

/-- a step that leaves the ledger and the applied record alone leaves the record as good as it was -/
theorem Sound.recorded_kept {st : PortStep β A} (h : Sound app E request plan s₀ tr s)
    (hl : ledgerOf plan s' = ledgerOf plan s) (ha : s'.applied plan.targetID = s.applied plan.targetID)
    (hu : unrecorded tr = true → unrecordedAfter (unrecorded tr) st = true) :
    Port.closed (ledgerOf plan s₀) = false → Port.closed (ledgerOf plan s') = true →
      (∃ r, Recorded app plan s' r) ∨ unrecorded (tr ++ [st]) = true := by
  intro ho hc
  rw [hl] at hc
  rw [unrecorded_snoc]
  refine (h.recorded ho hc).imp ?_ hu
  rintro ⟨r, l, a, hled, hcon, happ, hset⟩
  exact ⟨r, l, a, hl.trans hled, hcon, happ, ha.trans hset⟩

/-- the request has paid for `T`: a forward request whose grant is consumed, on a ledger that was open and is now spent -/
def Paid (request : LocalExecutorRequest) (plan : SystemdPortReconfigurePlan) (s₀ : PortWorld β A)
    (tr : PortTrace β A) (s : PortWorld β A) : Prop :=
  request.operation = .portReconfigure ∧ (∃ c ∈ tr, ownGrant request c = true) ∧
    spent (ledgerOf plan s₀) = false ∧ spent (ledgerOf plan s) = true

/-- the steps since `tr` left the stores as they were in `s` -/
structure Unchanged (tr : PortTrace β A) (s : PortWorld β A) (tr' : PortTrace β A) (s' : PortWorld β A) :
    Prop where
  steps : tr <+: tr'
  jobs : s'.jobs = s.jobs
  active : s'.active = s.active
  applied : s'.applied = s.applied

theorem Unchanged.refl (tr : PortTrace β A) (s : PortWorld β A) : Unchanged tr s tr s :=
  ⟨List.prefix_rfl, rfl, rfl, rfl⟩

variable {tr' : PortTrace β A}

theorem Unchanged.ledger (h : Unchanged tr s tr' s') : ledgerOf plan s' = ledgerOf plan s := by
  simp [ledgerOf, h.jobs]

theorem Unchanged.snoc {o : PortOp β A} {c : PortChoice} (h : Unchanged tr s tr' s') (ho : o.keepsStore = true) :
    Unchanged tr s (tr' ++ [stepOf (portNext E) s' o c]) (portNext E s' o c).2 := by
  obtain ⟨h1, h2, h3⟩ := portNext_keepsStore (E := E) (s := s') (c := c) ho
  exact ⟨h.steps.trans (List.prefix_append _ _), h1.trans h.jobs, h2.trans h.active, h3.trans h.applied⟩

theorem Paid.unchanged (h : Paid request plan s₀ tr s) (hu : Unchanged tr s tr' s') : Paid request plan s₀ tr' s' := by
  obtain ⟨h1, ⟨c, hc, hg⟩, h2, h3⟩ := h
  exact ⟨h1, ⟨c, hu.steps.subset hc, hg⟩, h2, by rw [hu.ledger]; exact h3⟩

theorem ownGrant_of_steady {o : PortOp β A} {c : PortChoice} (h : o.steady = true) :
    ownGrant request (stepOf (portNext E) s o c) = false := by
  cases o <;> first | rfl | simp [PortOp.steady] at h

/-- a program that leaves the stores alone, consumes no grant, and writes `T` only when that is paid for -/
theorem steady_wp {α : Type} {p : PortProg β A α} {Q : α → Prop}
    (hp : p.Only (fun o => o.steady = true ∧ (targetWrite E plan o = true → Paid request plan s₀ tr s)) Q)
    (h : Sound app E request plan s₀ tr s) :
    p.wp (portNext E) (Sound app E request plan s₀) (fun a tr' s' => Unchanged tr s tr' s' ∧ Q a) tr s := by
  have hI : Sound app E request plan s₀ tr s ∧ Unchanged tr s tr s := ⟨h, Unchanged.refl _ _⟩
  refine wp_post (only_wp (I := fun tr' s' => Sound app E request plan s₀ tr' s' ∧ Unchanged tr s tr' s') hp
    ?_ (fun _ _ h => h.1) hI) fun a tr' s' _ h => ⟨h.1.2, h.2⟩
  rintro tr' s' o c ⟨ho, ht⟩ ⟨hs, hu⟩
  have hk := PortOp.steady_keepsStore ho
  have hu' := hu.snoc (E := E) (c := c) hk
  have hj : ledgerOf plan (portNext E s' o c).2 = ledgerOf plan s' := hu'.ledger.trans hu.ledger.symm
  refine ⟨hs.snoc ?_ ?_ ?_ ?_ ?_ ?_ ?_ ?_ ?_, hu'⟩
  · rw [hj]
    exact Later.refl _
  · rw [hj]
    exact hs.settled
  · intro hw
    have hpaid := (ht hw).unchanged hu
    exact ⟨hpaid.1, hpaid.2.1, hpaid.2.2.1, by rw [hj]; exact hpaid.2.2.2⟩
  · intro _ hg
    exact absurd hg (by simp [ownGrant_of_steady ho])
  · intro _
    exact ⟨hj, by rw [(portNext_keepsStore hk).2.2]⟩
  · intro t j _
    rw [(portNext_keepsStore hk).1]
  · intro t _
    rw [(portNext_keepsStore hk).2.2]
  · exact hs.recorded_kept hj (by rw [(portNext_keepsStore hk).2.2]) (by rw [unrecordedAfter_keepsStore hk]; exact id)
  · intro _ _ ho'
    exact ho'.congr (portNext_keepsStore hk).1 (portNext_keepsStore hk).2.1

theorem mild_wp {α : Type} {p : PortProg β A α} {Q : α → Prop} (hp : p.Only (fun o => o.mild = true) Q)
    (h : Sound app E request plan s₀ tr s) :
    p.wp (portNext E) (Sound app E request plan s₀) (fun a tr' s' => Unchanged tr s tr' s' ∧ Q a) tr s :=
  steady_wp (only_mono hp (fun o ho => ⟨PortOp.mild_steady ho, fun hw => absurd hw (by
    cases o <;> simp_all [PortOp.mild, PortOp.quiet, targetWrite])⟩) fun _ h => h) h

theorem quiet_wp {α : Type} {p : PortProg β A α} {Q : α → Prop} (hp : Quietly p Q)
    (h : Sound app E request plan s₀ tr s) :
    p.wp (portNext E) (Sound app E request plan s₀) (fun a tr' s' => Unchanged tr s tr' s' ∧ Q a) tr s :=
  mild_wp (only_mono hp (fun _ => PortOp.quiet_mild) fun _ h => h) h

/-- `quiet_wp` in sequence -/
theorem quiet_seq {α γ : Type} {p : PortProg β A α} {f : α → PortProg β A γ} {Q : α → Prop}
    {R : γ → PortTrace β A → PortWorld β A → Prop} (hp : Quietly p Q) (h : Sound app E request plan s₀ tr s)
    (hf : ∀ a tr' s', Sound app E request plan s₀ tr' s' → Unchanged tr s tr' s' → Q a →
      (f a).wp (portNext E) (Sound app E request plan s₀) R tr' s') :
    (p >>= f).wp (portNext E) (Sound app E request plan s₀) R tr s :=
  wp_seq (quiet_wp hp h) fun a tr' s' h' hq => hf a tr' s' h' hq.1 hq.2

theorem quiet_op {o : PortOp β A} (h : o.quiet = true) : Quietly (Prog.op o) fun _ => True := ⟨h, fun _ => trivial⟩

/-! ## Loading and saving the ledger -/

/-- a session is none the worse for a read -/
theorem Sound.loads {M : PortMode β A} : Loads E (fun _ => False) (Sound app E request plan s₀) M M :=
  Loads.alone fun tr s o c ho h => by
    have hstep := wp_crash ((quiet_wp (p := Prog.op o) ⟨PortOp.reading_quiet ho, fun _ => trivial⟩ h).2 c)
    rwa [portNext_reading ho] at hstep

theorem Unchanged.ofReads (h : ReadOnly tr tr') : Unchanged tr s tr' s := ⟨h.steps, rfl, rfl, rfl⟩

theorem consumeGrant_wp {p : SystemdPortReconfigurePlan} {o : PortOperation} {g : String} (version : String)
    (h : Sound app E request plan s₀ tr s) (hp : request.portPlan = some p) (ho : o = request.operation)
    (hg : g = request.mutationGrant)
    (hr : request.operation = .portReconfigureReconcile → (ledgerOf plan s₀).isSome = true) :
    (consumeGrant p o version g).wp (portNext E) (Sound app E request plan s₀) (fun ok tr' s' => Unchanged tr s tr' s' ∧
      (ok = true → ∃ c ∈ tr', ownGrant request c = true)) tr s := by
  refine ⟨h, fun c => ⟨?_, (Unchanged.refl tr s).snoc rfl, ?_⟩⟩
  · exact h.snoc (Later.refl _) h.settled (by simp [targetWrite]) (fun hop _ => hr hop) (fun _ => ⟨rfl, rfl⟩)
      (fun _ _ _ => rfl) (fun _ _ => rfl) (h.recorded_kept rfl rfl id) (fun _ _ h => h)
  · intro hok
    refine ⟨_, List.mem_append_right _ (List.mem_singleton_self _), ?_⟩
    simp [ownGrant, stepOf, hp, ho, hg, hok]

/-- the pointer names the plan's job, if it did for every ledger the request may have continued -/
def HoldsTarget (plan : SystemdPortReconfigurePlan) (s₀ s : PortWorld β A) : Prop :=
  Owned s₀ → Claimed plan s₀ → s.active plan.targetID = some plan.jobID

/-- the ledger may be handed to `save` while `s` is durable -/
structure Savable (plan : SystemdPortReconfigurePlan) (s₀ s : PortWorld β A) (l : PortLedger β) : Prop where
  target : l.plan.targetID = plan.targetID
  job : l.plan.jobID = plan.jobID
  fence : spent (ledgerOf plan s) = true → l.startable = false
  latch : latched (ledgerOf plan s) = true → l.rollbackIsLatched = true
  settled : Settled (ledgerOf plan s₀) → l.rollbackIsLatched = true → ∀ r, l.result = some r → r.result = .rolledBack
  isOpen : closed (ledgerOf plan s₀) = false
  version : l.plan.portContractVersion = 2
  named : ∀ r, l.result = some r → (portV2ResultSnapshot l.plan r.result).isSome = true
  holds : l.underWay = true → HoldsTarget plan s₀ s

/-- the ledger may be written over the durable one of `s`: `save` has also compared the results -/
structure Writable (plan : SystemdPortReconfigurePlan) (s₀ s : PortWorld β A) (l : PortLedger β) : Prop extends
    Savable plan s₀ s l where
  result : ∀ r, (ledgerOf plan s).bind (·.result) = some r → l.result = some r

theorem Unchanged.holds (hu : Unchanged tr s tr' s') (h : HoldsTarget plan s₀ s) : HoldsTarget plan s₀ s' := by
  unfold HoldsTarget
  rw [hu.active]
  exact h

variable {l : PortLedger β}

theorem Savable.unchanged (h : Savable plan s₀ s l) (hu : Unchanged tr s tr' s') : Savable plan s₀ s' l :=
  ⟨h.target, h.job, by rw [hu.ledger]; exact h.fence, by rw [hu.ledger]; exact h.latch, h.settled, h.isOpen, h.version,
    h.named, fun hw => hu.holds (h.holds hw)⟩

theorem Writable.unchanged (h : Writable plan s₀ s l) (hu : Unchanged tr s tr' s') : Writable plan s₀ s' l :=
  ⟨h.toSavable.unchanged hu, by rw [hu.ledger]; exact h.result⟩

theorem Writable.later (h : Writable plan s₀ s l) : Later (ledgerOf plan s) (some l) where
  spent := fun hs => by simp [spent, h.fence hs]
  latched := fun hl => by simp [latched, h.latch hl]
  result := fun r hr => by simpa using h.result r hr

theorem ledgerOf_setJob (ht : l.plan.targetID = plan.targetID) (hj : l.plan.jobID = plan.jobID) :
    ledgerOf plan (s.setJob l) = some l := by
  simp [ledgerOf, PortWorld.setJob, ht, hj]

/-- the outcome of a ledger write: the new ledger, or the old one and an error; a pointer that moved names the job -/
structure Written (plan : SystemdPortReconfigurePlan) (l : PortLedger β) (ok : Bool) (tr : PortTrace β A)
    (s : PortWorld β A) (tr' : PortTrace β A) (s' : PortWorld β A) : Prop where
  steps : tr <+: tr'
  ledger : ledgerOf plan s' = some l ∨ (ok = false ∧ ledgerOf plan s' = ledgerOf plan s)
  pointer : s'.active = s.active ∨ s'.active plan.targetID = some plan.jobID

theorem Written.failed (hu : Unchanged tr s tr' s') : Written plan l false tr s tr' s' :=
  ⟨hu.steps, .inr ⟨rfl, hu.ledger⟩, .inl hu.active⟩

theorem writeJob_sound (c : PortChoice) (h : Sound app E request plan s₀ tr s) (hw : Writable plan s₀ s l) :
    Sound app E request plan s₀ (tr ++ [stepOf (portNext E) s (.writeJob l) c]) (portNext E s (.writeJob l) c).2 ∧
      Written plan l (portNext E s (.writeJob l) c).1 tr s (tr ++ [stepOf (portNext E) s (.writeJob l) c])
        (portNext E s (.writeJob l) c).2 := by
  have hp : tr <+: tr ++ [stepOf (portNext E) s (.writeJob l) c] := List.prefix_append _ _
  have hclosed : ∀ {P : Prop}, Port.closed (ledgerOf plan s₀) = true → P := fun hc => by simp [hw.isOpen] at hc
  rcases portNext_writeJob (E := E) (s := s) (c := c) l with heq | ⟨hok, heq⟩
  · have hl : ledgerOf plan (portNext E s (.writeJob l) c).2 = some l := by
      rw [heq, ledgerOf_setJob hw.target hw.job]
    refine ⟨h.snoc ?_ ?_ ?_ ?_ hclosed ?_ ?_ ?_ ?_, hp, Or.inl hl, .inl (by rw [heq]; rfl)⟩
    · rw [hl]
      exact hw.later
    · rw [hl]
      intro h0 l' hl'
      cases hl'
      exact hw.settled h0
    · simp [targetWrite]
    · simp [ownGrant, stepOf]
    · intro t j htj
      rw [heq]
      simp only [PortWorld.setJob, hw.target, hw.job, htj, if_false]
    · intro t _
      rw [heq]
      rfl
    · intro _ hc
      rw [hl] at hc
      right
      rw [unrecorded_snoc]
      simp_all [unrecordedAfter, stepOf, Port.closed]
    · intro h0 hclaim ho
      rw [heq]
      refine ho.setJob fun hway => ?_
      rw [hw.target, hw.job]
      exact hw.holds hway h0 hclaim
  · refine ⟨h.snoc ?_ ?_ ?_ ?_ hclosed ?_ ?_ ?_ ?_, hp, Or.inr ⟨hok, by rw [heq]⟩, .inl (by rw [heq])⟩
    · rw [heq]
      exact Later.refl _
    · rw [heq]
      exact h.settled
    · simp [targetWrite]
    · simp [ownGrant, stepOf]
    · intro t j _
      rw [heq]
    · intro t _
      rw [heq]
    · exact h.recorded_kept (by rw [heq]) (by rw [heq]) (by simp +contextual [unrecordedAfter, stepOf])
    · rw [heq]
      exact fun _ _ ho => ho

theorem saveLedger_wp (M : PortMode β A) (h : Sound app E request plan s₀ tr s) (hw : Writable plan s₀ s l) :
    (saveLedger M l).wp (portNext E) (Sound app E request plan s₀) (fun ok tr' s' => Written plan l ok tr s tr' s') tr s := by
  unfold saveLedger
  split
  · exact ⟨h, Written.failed (Unchanged.refl _ _)⟩
  · exact ⟨h, fun c => writeJob_sound c h hw⟩

/-- a write of an active pointer or of an applied record keeps a session sound while its job is open -/
theorem recordWrite_sound {o : PortOp β A} (c : PortChoice) (h : Sound app E request plan s₀ tr s)
    (hopen : closed (ledgerOf plan s₀) = false) (hj : (portNext E s o c).2.jobs = s.jobs)
    (he : ∀ t, t ≠ plan.targetID → (portNext E s o c).2.applied t = s.applied t)
    (hd : closed (ledgerOf plan s₀) = false → closed (ledgerOf plan (portNext E s o c).2) = true →
      (∃ r, Recorded app plan (portNext E s o c).2 r) ∨ unrecorded (tr ++ [stepOf (portNext E) s o c]) = true)
    (ht : targetWrite E plan o = false) (hg : ownGrant request (stepOf (portNext E) s o c) = false)
    (hn : Owned s₀ → Claimed plan s₀ → Owned s → Owned (portNext E s o c).2) :
    Sound app E request plan s₀ (tr ++ [stepOf (portNext E) s o c]) (portNext E s o c).2 := by
  have hl : ledgerOf plan (portNext E s o c).2 = ledgerOf plan s := by simp [ledgerOf, hj]
  refine h.snoc ?_ ?_ ?_ ?_ ?_ ?_ he hd hn
  · rw [hl]
    exact Later.refl _
  · rw [hl]
    exact h.settled
  · simp [ht]
  · simp [hg]
  · simp [hopen]
  · intro t j _
    rw [hj]

theorem stageLedger_wp (M : PortMode β A) (h : Sound app E request plan s₀ tr s) (hw : Writable plan s₀ s l) :
    (stageLedger M l).wp (portNext E) (Sound app E request plan s₀) (fun ok tr' s' => Written plan l ok tr s tr' s' ∧
      (ok = true → s'.active plan.targetID = some plan.jobID)) tr s := by
  unfold stageLedger
  refine wp_ite (fun _ => ⟨h, Written.failed (Unchanged.refl _ _), by simp⟩) fun _ => ?_
  refine wp_seq (loadActive_loads Sound.loads h l.plan.targetID).1 fun active tr1 s1 h₁ hx => ?_
  obtain ⟨rfl, hread, hactive⟩ := hx
  have hu : Unchanged tr s1 tr1 s1 := Unchanged.ofReads hread
  rcases active with _ | active
  · exact ⟨h₁, Written.failed hu, by simp⟩
  refine wp_ite (fun _ => ⟨h₁, Written.failed hu, by simp⟩) fun hbusy => ?_
  have hactive := (hactive active rfl).1
  rw [hw.target] at hactive ⊢
  rw [hw.job] at hbusy ⊢
  refine wp_seq (saveLedger_wp M h₁ (hw.unchanged hu)) fun ok tr2 s2 h₂ hs => ?_
  cases ok with
  | false => exact ⟨h₂, ⟨hu.steps.trans hs.steps, hs.ledger, hs.pointer⟩, by simp⟩
  | true =>
    have hl : ledgerOf plan s2 = some l := by simpa using hs.ledger
    refine ⟨h₂, fun c => ?_⟩
    have hp : tr <+: tr2 ++ [stepOf (portNext E) s2 (.writeActive plan.targetID plan.jobID) c] :=
      (hu.steps.trans hs.steps).trans (List.prefix_append _ _)
    rcases portNext_writeActive (E := E) (s := s2) (c := c) plan.targetID plan.jobID with heq | ⟨hok, heq⟩
    · refine ⟨recordWrite_sound c h₂ hw.isOpen (by rw [heq]; rfl) (fun t _ => by rw [heq]; rfl)
        (h₂.recorded_kept (by rw [heq]; rfl) (by rw [heq]; rfl) id) rfl rfl ?_, ?_, fun _ => by rw [heq]; simp⟩
      · intro h0 hclaim ho
        rw [heq]
        -- every other ledger is still the one that was there when the target was found free
        refine ho.setActive fun j' l' hj' hway => by_contra fun hne => hne ?_
        rw [h₂.others _ _ (fun h => hne h.2), ← h₁.others _ _ (fun h => hne h.2)] at hj'
        exact (h₁.owned h0 hclaim).notBusy (by simpa using hbusy) hactive hj' hway
      · exact ⟨hp, .inl (by rw [heq]; exact hl), .inr (by rw [heq]; simp)⟩
    · refine ⟨recordWrite_sound c h₂ hw.isOpen (by rw [heq]) (fun t _ => by rw [heq])
        (h₂.recorded_kept (by rw [heq]) (by rw [heq]) id) rfl rfl (fun _ _ ho => by rw [heq]; exact ho), ?_,
        fun h' => absurd (h'.symm.trans hok) (by decide)⟩
      exact ⟨hp, .inl (by rw [heq]; exact hl), by rw [heq]; exact hs.pointer⟩

/-- the applied record of the durable ledger's own result -/
theorem saveApplied_wp (M : PortMode β A) {r : SystemdPortReconfigureResult} {a : A}
    (h : Sound app E request plan s₀ tr s) (hw : Savable plan s₀ s l) (hl : ledgerOf plan s = some l)
    (hres : l.result = some r) (happ : app l r = some a) (ha : M.savable a = true → M.appliedTarget a = plan.targetID) :
    (saveApplied M a).wp (portNext E) (Sound app E request plan s₀) (fun ok tr' s' => tr <+: tr' ∧ s'.jobs = s.jobs ∧
      s'.active = s.active ∧ (ok = true → s'.applied plan.targetID = some a)) tr s := by
  unfold saveApplied
  split
  · exact ⟨h, List.prefix_rfl, rfl, rfl, by simp⟩
  next hsav =>
  rw [ha (by simpa using hsav)]
  refine ⟨h, fun c => ?_⟩
  rcases portNext_writeApplied (E := E) (s := s) (c := c) plan.targetID a with heq | ⟨hok, heq⟩
  · refine ⟨recordWrite_sound c h hw.isOpen (by rw [heq]; rfl) (fun t ht => ?_) (fun _ hc => ?_) rfl rfl ?_,
      List.prefix_append _ _, by rw [heq]; rfl, by rw [heq]; rfl, fun _ => by rw [heq]; simp⟩
    · rw [heq]
      simp [PortWorld.setApplied, ht]
    · -- the record is in place, even when the write reported an error
      have hled : ledgerOf plan (s.setApplied plan.targetID a) = some l := hl
      rw [heq, hled] at hc
      rw [heq]
      have hstate : l.state = .terminal := by simpa [closed] using hc
      exact Or.inl ⟨r, l, a, hled, ⟨hstate, hres, hw.version, hw.named r hres⟩, happ, by simp⟩
    · rw [heq]
      exact fun _ _ ho => ho.congr rfl rfl
  · refine ⟨recordWrite_sound c h hw.isOpen (by rw [heq]) (fun t _ => by rw [heq]) ?_ rfl rfl (by rw [heq]; exact fun _ _ => id),
      List.prefix_append _ _, by rw [heq], by rw [heq], fun h' => absurd (h'.symm.trans hok) (by decide)⟩
    refine h.recorded_kept (by rw [heq]) (by rw [heq]) fun hu => ?_
    have hstep : (stepOf (portNext E) s (.writeApplied plan.targetID a) c).res = false := hok
    simp only [unrecordedAfter, stepOf] at hstep ⊢
    simp [hu, hstep]

/-- the outcome of a driver's `save`: as a ledger write, and on success the result's applied record is in place -/
structure Saved (D : PortV2Driver β A) (plan : SystemdPortReconfigurePlan) (l : PortLedger β) (ok : Bool)
    (tr : PortTrace β A) (s : PortWorld β A) (tr' : PortTrace β A) (s' : PortWorld β A) : Prop extends
    Written plan l ok tr s tr' s' where
  applied : ok = true → ∀ r, l.result = some r → ∃ a, D.appliedFor l r = some a ∧ s'.applied plan.targetID = some a

theorem portV2Save_wp {D : PortV2Driver β A} (hD : D.Lawful E) (stage : Bool)
    (h : Sound D.appliedFor E request plan s₀ tr s) (hw : Savable plan s₀ s l) :
    (portV2Save D l stage).wp (portNext E) (Sound D.appliedFor E request plan s₀)
      (fun ok tr' s' => Saved D plan l ok tr s tr' s' ∧
        (stage = true → ok = true → s'.active plan.targetID = some plan.jobID)) tr s := by
  unfold portV2Save
  refine wp_seq (loadJob_loads Sound.loads h l.plan.targetID l.plan.jobID).1 fun previous tr1 s1 h₁ hx => ?_
  obtain ⟨rfl, hread, hprev⟩ := hx
  have hu : Unchanged tr s1 tr1 s1 := Unchanged.ofReads hread
  have kept : Saved D plan l false tr s1 tr1 s1 := ⟨Written.failed hu, by simp⟩
  rcases previous with _ | previous
  · exact ⟨h₁, kept, by simp⟩
  refine wp_ite (fun _ => ⟨h₁, kept, by simp⟩) fun hsame => ?_
  have hdur : ledgerOf plan s1 = previous := by
    rw [← (hprev previous rfl).1, ledgerOf, hw.target, hw.job]
  have hwr : Writable plan s₀ s1 l := by
    refine ⟨hw, fun r hr => ?_⟩
    rw [hdur] at hr
    simpa [hr] using hsame
  have hwrite : (stageOrSave D l stage).wp (portNext E) (Sound D.appliedFor E request plan s₀)
      (fun ok tr' s' => Written plan l ok tr1 s1 tr' s' ∧
        (stage = true → ok = true → s'.active plan.targetID = some plan.jobID)) tr1 s1 := by
    unfold stageOrSave
    split
    · exact wp_post (stageLedger_wp D.mode h₁ hwr) fun _ _ _ _ h => ⟨h.1, fun _ => h.2⟩
    · next hno => exact wp_post (saveLedger_wp D.mode h₁ hwr) fun _ _ _ _ h => ⟨h, fun hs => absurd hs hno⟩
  refine wp_seq hwrite fun ok tr2 s2 h₂ hs => ?_
  obtain ⟨⟨hp, hl, hact⟩, hstaged⟩ := hs
  have hp := hu.steps.trans hp
  cases ok with
  | false => exact ⟨h₂, ⟨⟨hp, hl, hact⟩, by simp⟩, by simp⟩
  | true =>
    have hled : ledgerOf plan s2 = some l := by simpa using hl
    simp only [Bool.not_true, Bool.false_eq_true, if_false]
    cases hres : l.result with
    | none => exact ⟨h₂, ⟨⟨hp, hl, hact⟩, fun _ r hr => by simp [hres] at hr⟩, hstaged⟩
    | some r =>
      dsimp only
      cases happ : D.appliedFor l r with
      | none => exact ⟨h₂, ⟨⟨hp, .inl hled, hact⟩, by simp⟩, by simp⟩
      | some a =>
        have htarget : D.mode.savable a = true → D.mode.appliedTarget a = plan.targetID := fun hsav => by
          rw [hD.applied l r a happ hsav, hw.target]
        have hw2 : Savable plan s₀ s2 l := ⟨hw.target, hw.job, fun hf => by simpa [hled, spent] using hf,
          fun hf => by simpa [hled, latched] using hf, hw.settled, hw.isOpen, hw.version, hw.named,
          fun hway h0 hclaim => hact.elim (fun h => by rw [h]; exact hw.holds hway h0 hclaim) id⟩
        refine wp_post (saveApplied_wp D.mode h₂ hw2 hled hres happ htarget) fun ok tr3 s3 _ hs => ?_
        obtain ⟨hp3, hj3, hact3, ha3⟩ := hs
        refine ⟨⟨⟨hp.trans hp3, .inl (by simpa [ledgerOf, hj3] using hled), by rwa [hact3]⟩, fun hok r' hr' => ?_⟩,
          fun hs _ => by rw [hact3]; exact hstaged hs rfl⟩
        rw [hres] at hr'
        cases hr'
        exact ⟨a, happ, ha3 hok⟩

end Session
end AutostreamUpdater.Port
