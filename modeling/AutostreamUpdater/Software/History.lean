/-
The history of a target's ledger: what one request can write into it, and what follows for every run of stage, apply and
reconcile requests with crashes anywhere.

`Written` is the inversion of a request: it opens a new record for a job the target is free for, or it rewrites the record
it loaded without touching job, intent and stage. Everything else is read off that.
-/
import AutostreamUpdater.Base.Gate
import AutostreamUpdater.Software.Steady

namespace AutostreamUpdater.Software

open Contract Base Fallible

variable {E : SoftwareEnv} {r : SoftwareRequest} {found : Option ExecutorMutationLedger} {W : ExecutorMutationLedger → Prop}
  {l l' : ExecutorMutationLedger} {plan : MutationPlan} {operation : Operation} {stage : RemoteStage}

/-! ## What a request writes -/

/-- what a request may write into the ledger it found -/
inductive Written (E : SoftwareEnv) (r : SoftwareRequest) (found : Option ExecutorMutationLedger) : ExecutorMutationLedger → Prop
  /-- a new record, for a target that is free -/
  | fresh (stage : RemoteStage) (hop : r.operation = .stage)
      (hfree : ∀ l, found = some l → l.state = .terminal ∧ l.jobID ≠ r.plan.jobID) :
      Written E r found (stagedLedger r.plan stage)
  /-- the record it loaded, moved on -/
  | moved (l : ExecutorMutationLedger) (state : LedgerState) (result : Option ApplyResult) (hl : found = some l)
      (hreq : remoteLedgerRequestFailure l r.plan r.operation = none) (hopen : l.state ≠ .terminal)
      (hstate : state ≠ .staged) (happly : r.operation = .apply → l.state = .staged)
      (hresult : state = .terminal → ∃ x bound, result = some bound ∧ bindRemoteApplyResult r.plan x = some bound)
      (hbound : l.stage.any (·.bound E r.plan) = true) :
      Written E r found (l.rebound r.plan r.operation state result)

/-- what the operation writes into the ledger is a valid record that `W` allows -/
def HostOp.writes (W : ExecutorMutationLedger → Prop) (o : HostOp) : Prop :=
  ∀ l, o = .writeLedger l → l.validate l.targetID = true ∧ W l

theorem onTarget_writes {o : HostOp} (h : o.onTarget) : o.writes W := by
  intro l hl
  subst hl
  cases h

theorem OnTarget.writes {α : Type} {p : Soft α} (h : OnTarget p) : issues (HostOp.writes W) p :=
  issues_mono h fun _ => onTarget_writes

theorem check_writes {c : Check} : (check c).issues (HostOp.writes W) := Prog.issues_op (onTarget_writes rfl)

theorem save_writes (h : W l) : (saveExecutorMutationLedger l).issues (HostOp.writes W) := by
  refine Prog.issues_seq check_writes fun ok => Prog.issues_ite Prog.issues_pure ?_
  cases hvalid : l.validate l.targetID with
  | false => exact Prog.issues_pure
  | true =>
    refine Prog.issues_op fun l' hl => ?_
    cases hl
    exact ⟨hvalid, h⟩

theorem orFail_writes {ε : Type} {e : ε} {p : SoftwareProg Bool} (h : p.issues (HostOp.writes W)) :
    issues (HostOp.writes W) (orFail e p) := issues_orFail (Prog.issues_iff.1 h)

theorem atGate_writes {α : Type} {called : Bool} {p : Soft α} (h : OnTarget p) :
    issues (HostOp.writes W) (atGate called p) :=
  issues_ofProg (Prog.issues_iff.1 (Prog.issues_seq (Prog.issues_run h.writes) fun _ => Prog.issues_pure))

theorem gate_writes (h : ∀ state, state ≠ .staged → state ≠ .terminal → W (l.rebound plan operation state none)) :
    issues (HostOp.writes W) (gate plan operation l) := by
  unfold gate
  refine issues_bind (orFail_writes check_writes) fun _ => ?_
  refine issues_bind (orFail_writes (save_writes (h _ (by simp) (by simp)))) fun _ => ?_
  refine issues_bind (orFail_writes (Prog.issues_op fun l hl => by cases hl)) fun _ => ?_
  refine issues_bind (orFail_writes (save_writes (h _ (by simp) (by simp)))) fun _ => ?_
  exact orFail_writes (save_writes (h _ (by simp) (by simp)))

theorem applyStaged_writes (h : ∀ state, state ≠ .staged → state ≠ .terminal → W (l.rebound plan .apply state none)) :
    issues (HostOp.writes W) (applyStaged E plan l stage) := by
  unfold applyStaged
  refine issues_ite ?_ ?_
  · exact issues_bind (atGate_writes systemdPreflight_inspects.onTarget) fun _ => issues_bind (gate_writes h) fun _ =>
      atGate_writes systemdMutation_onTarget
  · exact issues_bind (atGate_writes dockerPreflight_inspects.onTarget) fun _ => issues_bind (gate_writes h) fun _ =>
      atGate_writes dockerMutation_onTarget

theorem reconcileStaged_writes
    (h : ∀ state, state ≠ .staged → state ≠ .terminal → W (l.rebound plan .reconcile state none)) :
    issues (HostOp.writes W) (reconcileStaged E plan l stage) := by
  unfold reconcileStaged
  refine issues_bind (gate_writes h) fun _ => atGate_writes ?_
  exact issues_ite reconcileSystemd_onTarget reconcileDocker_onTarget

theorem markAmbiguous_writes (h : W (l.rebound plan operation .ambiguous none)) :
    (markAmbiguous plan operation l).issues (HostOp.writes W) :=
  Prog.issues_seq (save_writes h) fun _ => Prog.issues_pure

theorem recordResult_writes {result : ApplyResult} (hambiguous : W (l.rebound plan operation .ambiguous none))
    (hterminal : ∀ bound, bindRemoteApplyResult plan result = some bound →
      W (l.rebound plan operation .terminal (some bound))) :
    (recordResult plan operation l result).issues (HostOp.writes W) := by
  unfold recordResult
  cases hbound : bindRemoteApplyResult plan result with
  | none => exact markAmbiguous_writes hambiguous
  | some bound =>
    refine Prog.issues_ite (markAmbiguous_writes hambiguous) ?_
    exact Prog.issues_seq (save_writes (hterminal bound hbound)) fun ok =>
      Prog.issues_ite Prog.issues_pure Prog.issues_pure

theorem runMutation_writes (hop : operation ≠ .stage)
    (h : ∀ state result, state ≠ .staged → (state = .terminal → ∃ x bound, result = some bound ∧
      bindRemoteApplyResult plan x = some bound) → W (l.rebound plan operation state result)) :
    (runMutation E plan operation l stage).issues (HostOp.writes W) := by
  have hopen : ∀ state, state ≠ .staged → state ≠ .terminal → W (l.rebound plan operation state none) :=
    fun state hs ht => h state none hs fun hterminal => absurd hterminal ht
  have hrun : issues (HostOp.writes W) (mutation E plan operation l stage) := by
    cases operation with
    | stage => exact absurd rfl hop
    | apply => exact applyStaged_writes hopen
    | reconcile => exact reconcileStaged_writes hopen
  have hambiguous := hopen .ambiguous (by simp) (by simp)
  unfold runMutation
  refine Prog.issues_seq (Prog.issues_run hrun) fun outcome => ?_
  cases outcome with
  | error e => exact Prog.issues_ite (markAmbiguous_writes hambiguous) Prog.issues_pure
  | ok result =>
    refine recordResult_writes hambiguous fun bound hbound => ?_
    exact h .terminal (some bound) (by simp) fun _ => ⟨result, bound, rfl, hbound⟩

theorem stageFresh_writes {previous : Option RemoteStage} (h : ∀ stage, W (stagedLedger plan stage)) :
    (stageFresh E plan previous).issues (HostOp.writes W) := by
  unfold stageFresh
  refine Prog.issues_seq (Prog.issues_run prepareExecutorStage_inspects.onTarget.writes) fun outcome => ?_
  cases outcome with
  | error e => exact Prog.issues_pure
  | ok stage =>
    refine Prog.issues_seq (save_writes (h stage)) fun ok => Prog.issues_ite Prog.issues_pure ?_
    cases previous with
    | none => exact Prog.issues_pure
    | some old => exact Prog.issues_seq check_writes fun _ => Prog.issues_pure

theorem stageReplay_writes : (stageReplay E plan stage).issues (HostOp.writes W) := by
  unfold stageReplay
  refine Prog.issues_seq (Prog.issues_run validateExecutorStage_inspects.onTarget.writes) fun valid => ?_
  cases valid with
  | error e => exact Prog.issues_pure
  | ok _ =>
    refine Prog.issues_seq (Prog.issues_run verifyMutationPlanCurrentVersion_inspects.onTarget.writes) fun checked => ?_
    cases checked <;> exact Prog.issues_pure

theorem stageAgain_writes : (stageAgain E plan l stage).issues (HostOp.writes W) := by
  unfold stageAgain
  cases l.state with
  | staged => exact stageReplay_writes
  | _ => exact Prog.issues_pure

theorem executorStageRequest_writes (hop : r.operation = .stage) :
    (executorStageRequest E r.plan found).issues (HostOp.writes (Written E r found)) := by
  unfold executorStageRequest
  cases found with
  | none => exact stageFresh_writes fun stage => .fresh stage hop fun l hl => by cases hl
  | some l =>
    dsimp only
    split
    · refine Prog.issues_ite Prog.issues_pure ?_
      split
      · exact stageAgain_writes
      · exact Prog.issues_pure
    · rename_i hjob
      split
      · exact Prog.issues_pure
      · rename_i hstate
        refine stageFresh_writes fun stage => .fresh stage hop fun l' hl => ?_
        cases hl
        exact ⟨by simpa using hstate, by simpa using hjob⟩

theorem cleanOrphan_writes {code : FailureCode} : (cleanOrphan code).issues (HostOp.writes W) :=
  Prog.issues_seq check_writes fun _ => Prog.issues_ite Prog.issues_pure Prog.issues_pure

theorem abandonStaged_writes
    (h : ∀ x bound, bindRemoteApplyResult plan x = some bound → W (l.rebound plan .reconcile .terminal (some bound))) :
    (abandonStaged plan l).issues (HostOp.writes W) := by
  unfold abandonStaged
  split
  · exact Prog.issues_pure
  · rename_i result hbound
    exact Prog.issues_seq (save_writes (h _ _ hbound)) fun ok => Prog.issues_ite Prog.issues_pure Prog.issues_pure

/-- What `validateExecutorStage` lets through is bound to the plan. -/
theorem validateExecutorStage_waits {G : (o : HostOp) → HostRes o → Prop} :
    waits G (fun o => ¬ o.writes W) (validateExecutorStage E plan stage) fun _ => stage.bound E plan = true := by
  have honly : ∀ {b c : Bool} {e : String}, waits G (fun o => ¬ o.writes W) (onlyIf b (require c e))
      fun _ => (!b || c) = true := by
    intro b c e
    cases b with
    | true => exact waits_mono waits_require fun _ h => by simp [h]
    | false => exact waits_mono (issues_waits issues_pure) fun _ _ => rfl
  unfold validateExecutorStage
  refine waits_bind waits_require fun _ hpath => ?_
  refine waits_bind (issues_waits (issues_mono (orFail_writes (W := W) check_writes) fun _ => not_not.2)) fun _ _ => ?_
  refine waits_bind honly fun _ hdocker => waits_mono honly fun _ hsystemd => ?_
  simp only [RemoteStage.bound, hpath, hdocker, hsystemd, Bool.and_self]

/-- A stage that is not bound to the plan is refused before anything is written. -/
theorem mutateLedger_unbound (h : stage.bound E plan = false) :
    (mutateLedger E plan operation l stage).issues (HostOp.writes W) := by
  unfold mutateLedger
  refine Prog.waits_never (Q := fun _ => True) (Prog.waits_seq (waits_run validateExecutorStage_waits) fun valid hvalid => ?_)
  cases valid with
  | error e => exact Prog.waits_pure trivial
  | ok u =>
    rw [h] at hvalid
    cases hvalid u rfl

theorem mutateLedger_writes (hreq : remoteLedgerRequestFailure l r.plan r.operation = none) (hopen : l.state ≠ .terminal)
    (hstage : l.stage = some stage) :
    (mutateLedger E r.plan r.operation l stage).issues (HostOp.writes (Written E r (some l))) := by
  cases hbound : stage.bound E r.plan with
  | false => exact mutateLedger_unbound hbound
  | true =>
  have hbound : l.stage.any (·.bound E r.plan) = true := by rw [hstage]; exact hbound
  unfold mutateLedger
  refine Prog.issues_seq (Prog.issues_run validateExecutorStage_inspects.onTarget.writes) fun valid => ?_
  cases valid with
  | error e => exact Prog.issues_pure
  | ok _ =>
    dsimp only
    split
    · exact Prog.issues_pure
    · rename_i happly
      have happly : r.operation = .apply → l.state = .staged := fun h => not_not.1 fun hs => happly ⟨h, hs⟩
      split
      · rename_i habandon
        refine abandonStaged_writes fun x bound hbind => ?_
        rw [← habandon.1]
        exact .moved l .terminal (some bound) rfl hreq hopen (by simp) happly (fun _ => ⟨x, bound, rfl, hbind⟩) hbound
      · exact runMutation_writes (requestFailure_none hreq).2.2.2.1 fun state result hs hr =>
          .moved l state result rfl hreq hopen hs happly hr hbound

theorem executorMutationRequest_writes :
    (executorMutationRequest E r.plan r.operation found).issues (HostOp.writes (Written E r found)) := by
  unfold executorMutationRequest
  cases found with
  | none => exact Prog.issues_ite cleanOrphan_writes Prog.issues_pure
  | some l =>
    dsimp only
    split
    · exact Prog.issues_ite cleanOrphan_writes Prog.issues_pure
    · rename_i hreq
      split
      · exact Prog.issues_pure
      · rename_i hopen
        split
        · rename_i stage hstage
          exact mutateLedger_writes hreq hopen hstage
        · exact Prog.issues_pure

theorem dispatch_writes : (dispatch E r found).issues (HostOp.writes (Written E r found)) := by
  unfold dispatch
  by_cases hop : r.operation = .stage
  · rw [if_pos hop]
    exact executorStageRequest_writes hop
  · rw [if_neg hop]
    exact executorMutationRequest_writes

/-! ## One request -/

/-- The ledger changes by a write of the ledger only. -/
theorem hostNext_ledger {s : Host} {o : HostOp} {c : Choice} :
    (hostNext E s o c).2.ledger = s.ledger ∨ ∃ l, o = .writeLedger l ∧ (hostNext E s o c).2.ledger = some l := by
  cases o with
  | writeLedger l => cases c <;> simp [hostNext, writeOutcome, Host.setLedger]
  | installRelease source dest digest version =>
    left
    simp only [hostNext, install]
    split
    · rfl
    · cases c <;> rfl
  | systemctl verb =>
    left
    cases verb with
    | stop => cases c <;> rfl
    | start =>
      cases c with
      | service ok up answer =>
        simp only [hostNext, startService]
        split
        · rfl
        · split <;> rfl
      | _ => rfl
  | composeUp image =>
    left
    cases c with
    | composed ok left_ answer =>
      cases left_ with
      | replaced id =>
        simp only [hostNext, compose]
        split <;> rfl
      | _ => rfl
    | _ => rfl
  | writeCheckpoint cp => left; cases c <;> rfl
  | removeCheckpoint => left; cases c <;> rfl
  | switchLink dest => left; cases c <;> rfl
  | writeVersionEnv file => left; cases c <;> rfl
  | removeVersionEnv => left; cases c <;> rfl
  | _ => exact .inl rfl

/-- the ledger is the one the request found, or a valid one it may write -/
def Follows (E : SoftwareEnv) (r : SoftwareRequest) (found : Option ExecutorMutationLedger) (s : Host) : Prop :=
  s.ledger = found ∨ ∃ l, s.ledger = some l ∧ l.validate E.target.targetID = true ∧ Written E r found l

/-- A record that a fitting request writes is one of the target's. -/
theorem Written.targetID (h : Written E r found l) (hfits : r.fits E = true)
    (hvalid : found.all (·.validate E.target.targetID) = true) : l.targetID = E.target.targetID := by
  cases h with
  | fresh stage hop hfree =>
    simp only [SoftwareRequest.fits, Bool.and_eq_true, beq_iff_eq] at hfits
    exact hfits.1.1.2
  | moved l₀ state result hl =>
    rw [hl, Option.all_some] at hvalid
    simp only [ExecutorMutationLedger.validate, ExecutorMutationLedger.identityValid, Bool.and_eq_true, beq_iff_eq] at hvalid
    exact hvalid.1.1.1.1.1.1.1.1.1.1.1.1

/-- **One request.** Wherever it is cut, the ledger is the one it found or one it may write. -/
theorem handle_writes (s : Host) :
    (handle E r).under (hostNext E) (fun _ _ _ => True) (Follows E r s.ledger)
      (fun x => x.op.writes (Written E r s.ledger)) (fun _ => Follows E r s.ledger) s := by
  have hstart : Follows E r s.ledger s := .inl rfl
  refine handle_under hstart (fun _ => hstart) (fun _ _ l hl => by cases hl) (fun _ _ => hstart)
    (fun _ _ l hl => by cases hl) (fun _ _ _ => hstart) fun hfits hvalid => ?_
  refine Prog.under_mono (Prog.only_under (Prog.issues_iff.1 dispatch_writes) ?_ hstart) fun _ _ h => h.1
  intro t o c ho ht _
  refine ⟨ho, ?_⟩
  rcases hostNext_ledger (E := E) (s := t) (o := o) (c := c) with h | ⟨l, hl, h⟩
  · rw [Follows, h]
    exact ht
  · have hl' := ho l hl
    refine .inr ⟨l, h, ?_, hl'.2⟩
    rw [← hl'.2.targetID hfits hvalid]
    exact hl'.1

/-! ## What a ledger keeps -/

/-- what the record of a job keeps as it moves on -/
structure Kept (l l' : ExecutorMutationLedger) : Prop where
  jobID : l'.jobID = l.jobID
  intent : l'.intent = l.intent
  stage : l'.stage = l.stage
  leaseGeneration : l.leaseGeneration ≤ l'.leaseGeneration
  terminal : l.state = .terminal → l' = l

theorem Kept.refl (l : ExecutorMutationLedger) : Kept l l := ⟨rfl, rfl, rfl, le_rfl, fun _ => rfl⟩

theorem Kept.trans {l1 l2 l3 : ExecutorMutationLedger} (h : Kept l1 l2) (h' : Kept l2 l3) : Kept l1 l3 where
  jobID := h'.jobID.trans h.jobID
  intent := h'.intent.trans h.intent
  stage := h'.stage.trans h.stage
  leaseGeneration := h.leaseGeneration.trans h'.leaseGeneration
  terminal ht := by
    have heq := h.terminal ht
    rw [heq] at h'
    exact h'.terminal ht

/-- A write for the same job moves the record on. -/
theorem Written.kept (h : Written E r (some l) l') (hjob : l'.jobID = l.jobID) : Kept l l' := by
  cases h with
  | fresh stage hop hfree => exact absurd hjob.symm (hfree l rfl).2
  | moved _ state result hl hreq hopen =>
    cases hl
    exact ⟨rfl, rfl, rfl, (requestFailure_none hreq).2.2.1, fun h => absurd h hopen⟩

/-- Staging writes nothing while the record of the same job is there. -/
theorem Written.not_restaged (hop : r.operation = .stage) (hjob : l.jobID = r.plan.jobID) : ¬ Written E r (some l) l' := by
  intro h
  cases h with
  | fresh stage hop hfree => exact (hfree l rfl).2 hjob
  | moved _ state result hl hreq => exact (requestFailure_none hreq).2.2.2.1 hop

/-! ## Stored results -/

/-- the result of a terminal record was bound to a plan of its intent -/
def ResultBound (l : ExecutorMutationLedger) : Prop :=
  l.state = .terminal → ∃ plan x bound, l.intent = newRemoteMutationIntent plan ∧ l.result = some bound ∧
    bindRemoteApplyResult plan x = some bound

theorem Written.resultBound (h : Written E r found l) : ResultBound l := by
  intro hstate
  cases h with
  | fresh stage => cases hstate
  | moved l₀ state result hl hreq hopen hs happly hresult =>
    obtain ⟨x, bound, hr, hbound⟩ := hresult hstate
    exact ⟨r.plan, x, bound, (requestFailure_none hreq).2.1, hr, hbound⟩

/-- Two plans of one intent ask for the same artifact. -/
theorem resultArtifactDigest_congr {p q : MutationPlan} (h : newRemoteMutationIntent p = newRemoteMutationIntent q) :
    resultArtifactDigest p = resultArtifactDigest q := by
  have hmode : p.deploymentMode = q.deploymentMode := congrArg RemoteMutationIntent.deploymentMode h
  have himage := congrArg RemoteMutationIntent.expectedImageDigest h
  have hartifact := congrArg RemoteMutationIntent.artifactDigest h
  simp only [newRemoteMutationIntent] at himage hartifact
  rw [resultArtifactDigest, resultArtifactDigest, hmode, himage, hartifact]

/-- what a bound result is -/
theorem bindRemoteApplyResult_some {plan : MutationPlan} {x bound : ApplyResult}
    (h : bindRemoteApplyResult plan x = some bound) :
    normalizeDigest (resultArtifactDigest plan) ≠ "" ∧
      bound = sanitizeRemoteApplyResult { x with artifactDigest := normalizeDigest (resultArtifactDigest plan) } := by
  unfold bindRemoteApplyResult at h
  dsimp only at h
  split at h
  · cases h
  · rename_i hne
    simp only [Bool.or_eq_true, beq_iff_eq, not_or] at hne
    exact ⟨hne.1, (Option.some.inj h).symm⟩

/-- Binding a bound result to another plan of the same intent changes nothing. -/
theorem bindRemoteApplyResult_rebind {p q : MutationPlan} {x bound : ApplyResult}
    (h : newRemoteMutationIntent p = newRemoteMutationIntent q) (hbound : bindRemoteApplyResult p x = some bound) :
    bindRemoteApplyResult q bound = some bound := by
  obtain ⟨hne, rfl⟩ := bindRemoteApplyResult_some hbound
  rw [resultArtifactDigest_congr h] at hne ⊢
  simp [bindRemoteApplyResult, sanitizeRemoteApplyResult, hne]

/-- A terminal record answers every plan of its intent with the stored result. -/
theorem replayResult_bound (hbound : ResultBound l) (hstate : l.state = .terminal)
    (hintent : l.intent = newRemoteMutationIntent plan) :
    ∃ result, l.result = some result ∧ replayResult plan l = resultOutcome plan result := by
  obtain ⟨p, x, bound, hp, hresult, hx⟩ := hbound hstate
  refine ⟨bound, hresult, ?_⟩
  rw [replayResult, hresult, Option.bind_some, bindRemoteApplyResult_rebind (hp.symm.trans hintent) hx]

/-! ## Answers of a terminal record -/

/-- the request was turned away before its ledger was there -/
def refuses : Step Host HostRes → Bool
  | ⟨_, .acceptRequest, some _, _⟩ => true
  | ⟨_, .readLedger, .error _, _⟩ => true
  | _ => false

/-- the request is answered from the record: nothing but admission and a look at the ledger, and the stored result unless
one of the two failed; a crash comes before the second of them -/
structure Replayed (l : ExecutorMutationLedger) (e : Entry Host HostRes Outcome SoftwareRequest) : Prop where
  quiet : ∀ x ∈ e.run.steps, x.op = .acceptRequest ∨ x.op = .readLedger
  answer : ∀ out, e.run.out = some out → (∃ x ∈ e.run.steps, refuses x = true) ∨
    ∃ result, l.result = some result ∧ out = resultOutcome e.req.plan result
  returns : e.run.out = none → e.run.steps.length < 2

/-- a load of the ledger, in front of what follows -/
theorem exec_load {β : Type} {s : Host} {f : Except Unit (Option ExecutorMutationLedger) → SoftwareProg β}
    (hl : s.ledger = some l) (hvalid : l.validate E.target.targetID = true) (c : Choice) (cs : List Choice) :
    (loadExecutorMutationLedger E >>= f).exec (hostNext E) s (c :: cs) =
      let e := (f (if c = .ok then .ok (some l) else .error ())).exec (hostNext E) s cs
      ⟨stepOf (hostNext E) s .readLedger c :: e.steps, e.st, e.out⟩ := by
  change (Prog.call HostOp.readLedger _ : SoftwareProg β).exec _ _ _ = _
  rw [Prog.exec]
  by_cases hc : c = .ok
  · simp only [hostNext, hc, if_true, hl, Prog.andThen, hvalid]
    rfl
  · simp only [hostNext, hc, if_false]
    rfl

/-- a request that is let through to its ledger -/
theorem exec_handle {s : Host} (hfits : r.fits E = true) (hl : s.ledger = some l)
    (hvalid : l.validate E.target.targetID = true) {c : Choice} (hc : ∀ code, c ≠ .refused code) (d : Choice)
    (cs : List Choice) :
    (handle E r).exec (hostNext E) s (c :: d :: cs) =
      let p := if d = .ok then dispatch E r (some l) else pure (executorFailure .stateInvalid)
      let e := p.exec (hostNext E) s cs
      ⟨stepOf (hostNext E) s .acceptRequest c :: stepOf (hostNext E) s .readLedger d :: e.steps, e.st, e.out⟩ := by
  have hnone : (hostNext E s .acceptRequest c).1 = none := by
    cases c with
    | refused code => exact absurd rfl (hc code)
    | _ => rfl
  unfold handle
  rw [hfits]
  simp only [Bool.not_true, Bool.false_eq_true, if_false]
  rw [Prog.exec_op_bind_cons, hnone, exec_load (s := (hostNext E s .acceptRequest c).2) hl hvalid]
  by_cases hd : d = .ok
  · simp only [hd, if_true]
    rfl
  · simp only [hd, if_false]
    rfl

/-- a request that does not get as far as its ledger -/
theorem exec_handle_short {s : Host} (hfits : r.fits E = true) (c : Choice) (cs : List Choice) :
    (handle E r).exec (hostNext E) s [] = ⟨[], s, none⟩ ∧
      ((∀ code, c ≠ .refused code) →
        (handle E r).exec (hostNext E) s [c] = ⟨[stepOf (hostNext E) s .acceptRequest c], s, none⟩) ∧
      ∀ code, c = .refused code → (handle E r).exec (hostNext E) s (c :: cs) =
        ⟨[stepOf (hostNext E) s .acceptRequest c], s, some (executorFailure code)⟩ := by
  unfold handle
  rw [hfits]
  refine ⟨rfl, fun hc => ?_, fun code hc => ?_⟩
  · cases c with
    | refused code => exact absurd rfl (hc code)
    | _ => rfl
  · subst hc
    rfl

/-- What the handler does on a terminal record that the request matches. -/
theorem handle_replayed {s : Host} (hfits : r.fits E = true) (hl : s.ledger = some l)
    (hvalid : l.validate E.target.targetID = true) (hbound : ResultBound l) (hstate : l.state = .terminal)
    (hreq : remoteLedgerRequestFailure l r.plan r.operation = none) (cs : List Choice) :
    Replayed l (handled (hostNext E) (handle E) r s cs) := by
  obtain ⟨result, hresult, hreplay⟩ := replayResult_bound hbound hstate (requestFailure_none hreq).2.1
  have hdispatch : dispatch E r (some l) = pure (resultOutcome r.plan result) := by
    rw [dispatch, if_neg (requestFailure_none hreq).2.2.2.1, executorMutationRequest, hreq]
    simp only [hstate, if_true, hreplay]
  have hshort := exec_handle_short (s := s) hfits
  dsimp only [handled]
  rcases cs with _ | ⟨c, cs⟩
  · rw [(hshort .ok []).1]
    exact ⟨by simp, by simp, by simp⟩
  by_cases hcode : ∃ code, c = .refused code
  · obtain ⟨code, hcode⟩ := hcode
    rw [(hshort c cs).2.2 code hcode]
    exact ⟨by simp [stepOf], fun out _ => .inl ⟨_, List.mem_cons_self, by rw [hcode]; rfl⟩, by simp⟩
  have hc : ∀ code, c ≠ .refused code := fun code h => hcode ⟨code, h⟩
  rcases cs with _ | ⟨d, cs⟩
  · rw [(hshort c []).2.1 hc]
    exact ⟨by simp [stepOf], by simp, by simp⟩
  rw [exec_handle hfits hl hvalid hc]
  by_cases hd : d = .ok
  · simp only [hd, if_true, hdispatch, Prog.exec_pure]
    refine ⟨by simp [stepOf], fun out hout => .inr ⟨result, hresult, ?_⟩, by simp⟩
    exact (Option.some.inj hout).symm
  · simp only [hd, if_false, Prog.exec_pure]
    refine ⟨by simp [stepOf], fun out _ => .inl ⟨_, List.mem_cons_of_mem _ List.mem_cons_self, ?_⟩, by simp⟩
    simp [stepOf, hostNext, hd, refuses]

/-! ## Runs -/

/-- the ledger is a valid record with a bound result -/
def Sound (E : SoftwareEnv) (s : Host) : Prop :=
  ∀ l, s.ledger = some l → l.validate E.target.targetID = true ∧ ResultBound l

theorem Sound.follows {s t : Host} (h : Sound E s) (ht : Follows E r s.ledger t) : Sound E t := by
  intro l hl
  rcases ht with ht | ⟨l', ht, hvalid, hw⟩
  · exact h l (ht ▸ hl)
  · obtain rfl : l' = l := Option.some.inj (ht.symm.trans hl)
    exact ⟨hvalid, hw.resultBound⟩

/-- the ledger a request leaves behind -/
theorem handle_follows (s : Host) (cs : List Choice) :
    Follows E r s.ledger ((handle E r).exec (hostNext E) s cs).st ∧
      ∀ x ∈ ((handle E r).exec (hostNext E) s cs).steps, x.op.writes (Written E r s.ledger) := by
  have h := Prog.under_exec (handle_writes (E := E) (r := r) s) cs
  refine ⟨?_, h.1⟩
  cases hout : ((handle E r).exec (hostNext E) s cs).out with
  | none => exact h.2.1 hout
  | some out => exact h.2.2 out hout

theorem sound_run {s : Host} (hs : s.ledger = none) (reqs : List (SoftwareRequest × List Choice)) :
    Sound E (hostAfter E s reqs) := by
  have hstart : Sound E s := fun l hl => by rw [hs] at hl; cases hl
  refine (serve_forall (A := fun _ => True) (P := fun _ => True) (fun r s cs h _ => ⟨trivial, ?_⟩) hstart reqs
    fun _ _ => trivial).2
  rw [settle_id]
  exact h.follows (handle_follows s cs).1

/-- **Ledger history.** From any point of a run on, as long as no request leaves the record of another job: the record
keeps its job, its intent and its stage, its lease generation never goes down, and staging the job again writes nothing.
Once it is terminal it does not change any more, and a request of its job and intent that its lease admits is answered
with the stored result, without a grant and without an operation on the target. -/
theorem ledger_history {s : Host} (hs : s.ledger = none) (earlier later : List (SoftwareRequest × List Choice))
    {l : ExecutorMutationLedger} (hl : (hostAfter E s earlier).ledger = some l)
    (hsame : ∀ e ∈ served E (hostAfter E s earlier) later, ∀ l', e.run.st.ledger = some l' → l'.jobID = l.jobID) :
    (∃ l', (hostAfter E (hostAfter E s earlier) later).ledger = some l' ∧ Kept l l') ∧
      ∀ e ∈ served E (hostAfter E s earlier) later,
        (e.req.operation = .stage → e.req.plan.jobID = l.jobID → ∀ x ∈ e.run.steps, ∀ l', x.op ≠ .writeLedger l') ∧
        (l.state = .terminal → e.req.fits E = true →
          remoteLedgerRequestFailure l e.req.plan e.req.operation = none → Replayed l e) := by
  have hrun := serve_forall
    (I := fun t => Sound E t ∧ ∃ l', t.ledger = some l' ∧ Kept l l')
    (A := fun e => ∀ l', e.run.st.ledger = some l' → l'.jobID = l.jobID)
    (P := fun e => (e.req.operation = .stage → e.req.plan.jobID = l.jobID →
        ∀ x ∈ e.run.steps, ∀ l', x.op ≠ .writeLedger l') ∧
      (l.state = .terminal → e.req.fits E = true →
        remoteLedgerRequestFailure l e.req.plan e.req.operation = none → Replayed l e)) ?_
    (s := hostAfter E s earlier) ⟨sound_run hs earlier, l, hl, Kept.refl l⟩ later hsame
  · exact ⟨hrun.2.2, hrun.1⟩
  rintro r t cs ⟨hsound, l', hl', hkept⟩ hjob
  obtain ⟨hfollows, hwrites⟩ := handle_follows (E := E) (r := r) t cs
  rw [hl'] at hwrites
  refine ⟨⟨fun hop hplan x hx l'' hw => ?_, fun hterminal hfits hreq => ?_⟩, ?_⟩
  · -- staging again: the record of the job is there
    exact Written.not_restaged hop (hkept.jobID.trans hplan.symm) (hwrites x hx l'' hw).2
  · rw [hkept.terminal hterminal] at hl'
    exact handle_replayed hfits hl' (hsound l hl').1 (hsound l hl').2 hterminal hreq cs
  · rw [settle_id]
    refine ⟨hsound.follows hfollows, ?_⟩
    rcases hfollows with h | ⟨l'', h, -, hw⟩
    · exact ⟨l', h.trans hl', hkept⟩
    · rw [hl'] at hw
      exact ⟨l'', h, hkept.trans (hw.kept ((hjob l'' h).trans hkept.jobID.symm))⟩

/-! ## A terminal record -/

/-- the sample job, abandoned under its second lease -/
def abandonedLedger : ExecutorMutationLedger :=
  (sampleStaged "job-1").rebound (samplePlan "job-1" 2) .reconcile .terminal (some (abandonedResult (samplePlan "job-1" 2)))

/-- the host that holds its record -/
def abandonedHost : Host :=
  (sampleHost.setLedger sampleEnv.target (sampleStaged "job-1")).setLedger sampleEnv.target abandonedLedger

/-- the job is staged, and abandoned by a reconcile of a later lease -/
def abandonedRun : List (SoftwareRequest × List Choice) :=
  favourableRun sampleEnv sampleAnswers sampleHost [⟨.stage, samplePlan "job-1" 1⟩, ⟨.reconcile, samplePlan "job-1" 2⟩]

theorem abandonedLedger_requests :
    remoteLedgerRequestFailure abandonedLedger (samplePlan "job-1" 1) .apply = some .planConflict ∧
      remoteLedgerRequestFailure abandonedLedger (samplePlan "job-1" 2) .reconcile = none ∧
      abandonedLedger.intent.matches (samplePlan "job-1" 1) = true := by
  have hintent : newRemoteMutationIntent (samplePlan "job-1" 1) = newRemoteMutationIntent (samplePlan "job-1" 2) := rfl
  have hlease : (samplePlan "job-1" 1).leaseGeneration = 1 ∧ (samplePlan "job-1" 2).leaseGeneration = 2 := ⟨rfl, rfl⟩
  have hjob : (samplePlan "job-1" 1).jobID = "job-1" ∧ (samplePlan "job-1" 2).jobID = "job-1" := ⟨rfl, rfl⟩
  simp [remoteLedgerRequestFailure, abandonedLedger, sampleStaged, stagedLedger, RemoteMutationIntent.matches, hintent,
    hlease, hjob]

theorem abandonedRun_host : hostAfter sampleEnv sampleHost abandonedRun = abandonedHost := by
  have hcomplete : (sampleHost.releases oldRelease.dir).any Release.complete = true := by simp [sampleHost]
  unfold abandonedRun
  rw [hostAfter_favourableRun (sample_staged (.inl rfl) sampleHost_healthy hcomplete rfl rfl),
    hostAfter_favourableRun (sample_abandoned (.inl rfl) (by simp) rfl)]
  rfl

theorem abandonedRun_ledger : (hostAfter sampleEnv sampleHost abandonedRun).ledger = some abandonedLedger := by
  rw [abandonedRun_host]
  rfl

/-- the same reconcile once more -/
def replayRun : List (SoftwareRequest × List Choice) := [(⟨.reconcile, samplePlan "job-1" 2⟩, [.ok, .ok])]

theorem abandonedRun_history :
    Kept abandonedLedger abandonedLedger ∧
      ∀ e ∈ served sampleEnv (hostAfter sampleEnv sampleHost abandonedRun) replayRun, Replayed abandonedLedger e := by
  have hsame : ∀ e ∈ served sampleEnv (hostAfter sampleEnv sampleHost abandonedRun) replayRun,
      ∀ l', e.run.st.ledger = some l' → l'.jobID = abandonedLedger.jobID := by
    intro e he l' hl'
    obtain rfl : e = _ := List.mem_singleton.1 he
    -- a reconcile writes no record over a terminal one
    have hfollows := (handle_follows (E := sampleEnv) (r := ⟨.reconcile, samplePlan "job-1" 2⟩)
      (hostAfter sampleEnv sampleHost abandonedRun) [.ok, .ok]).1
    rw [abandonedRun_ledger] at hfollows
    rcases hfollows with h | ⟨l'', h, -, hw⟩
    · rw [Option.some.inj (hl'.symm.trans h)]
    · cases hw with
      | fresh stage hop => cases hop
      | moved l state result hl hreq hopen =>
        cases hl
        exact absurd rfl hopen
  obtain ⟨⟨l', -, hkept⟩, hreplay⟩ := ledger_history rfl abandonedRun replayRun abandonedRun_ledger hsame
  have hl' : l' = abandonedLedger := hkept.terminal rfl
  refine ⟨hl' ▸ hkept, fun e he => ?_⟩
  have hreplay := (hreplay e he).2 rfl
  obtain rfl : e = _ := List.mem_singleton.1 he
  exact hreplay (sample_fits (.inl rfl) (by simp)) abandonedLedger_requests.2.1

/-- An apply of the first lease, whose plan has the intent of the record, is not answered from the record. -/
theorem stale_apply_not_replayed :
    (hostAfter sampleEnv sampleHost abandonedRun).ledger = some abandonedLedger ∧ abandonedLedger.state = .terminal ∧
      abandonedLedger.intent.matches (samplePlan "job-1" 1) = true ∧
      ((handle sampleEnv ⟨.apply, samplePlan "job-1" 1⟩).exec (hostNext sampleEnv)
        (hostAfter sampleEnv sampleHost abandonedRun) [.ok, .ok]).out = some (executorFailure .planConflict) := by
  refine ⟨abandonedRun_ledger, rfl, abandonedLedger_requests.2.2, ?_⟩
  have hvalid := (sound_run (E := sampleEnv) (s := sampleHost) rfl abandonedRun _ abandonedRun_ledger).1
  have hdispatch : dispatch sampleEnv ⟨.apply, samplePlan "job-1" 1⟩ (some abandonedLedger) =
      pure (executorFailure .planConflict) := by
    unfold dispatch executorMutationRequest
    simp only [abandonedLedger_requests.1, reduceCtorEq, if_false, false_and]
  rw [exec_handle (sample_fits (.inl rfl) (by simp)) abandonedRun_ledger hvalid (by simp)]
  simp only [if_true, hdispatch, Prog.exec_pure]

end AutostreamUpdater.Software
