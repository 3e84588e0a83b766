/-
The checkpoint an earlier job left behind. A job that is over leaves its checkpoint in a terminal phase, and the apply of
the next job takes it for what it is: it clears it (systemd) or writes over it (Docker). A reconcile does not: it refuses
every checkpoint of another job, whatever its phase. So an apply that stops between its gate and its own first checkpoint
leaves a record that only some reconciles can close, and `leftover_reconcile_iff` says which.
-/
import AutostreamUpdater.Software.Observed

namespace AutostreamUpdater.Software

open Contract Base Fallible

variable {E : SoftwareEnv} {a : Answers} {s : Host} {plan plan' : MutationPlan} {l : ExecutorMutationLedger}
  {stage : RemoteStage} {c : UpdateCheckpoint} {cs : List Choice}

/-! ## The checkpoint while an apply runs -/

/-- The checkpoint changes by the two operations on it only. -/
theorem hostNext_checkpoint {o : HostOp} {k : Choice} :
    (hostNext E s o k).2.checkpoint = s.checkpoint ∨ (o = .removeCheckpoint ∧ (hostNext E s o k).2.checkpoint = none) ∨
      ∃ c, o = .writeCheckpoint c ∧ (hostNext E s o k).2.checkpoint = some c := by
  cases o with
  | writeCheckpoint c => cases k <;> simp [hostNext, writeOutcome]
  | removeCheckpoint => cases k <;> simp [hostNext, writeOutcome]
  | installRelease source dest digest version =>
    left
    simp only [hostNext, install]
    split
    · rfl
    · cases k <;> rfl
  | systemctl verb =>
    left
    cases verb with
    | stop => cases k <;> rfl
    | start =>
      cases k with
      | service ok up answer =>
        simp only [hostNext, startService]
        split
        · rfl
        · split <;> rfl
      | _ => rfl
  | composeUp image =>
    left
    cases k with
    | composed ok left_ answer =>
      cases left_ with
      | replaced id =>
        simp only [hostNext, compose]
        split <;> rfl
      | _ => rfl
    | _ => rfl
  | writeLedger l => left; cases k <;> rfl
  | switchLink dest => left; cases k <;> rfl
  | writeVersionEnv file => left; cases k <;> rfl
  | removeVersionEnv => left; cases k <;> rfl
  | _ => exact .inl rfl

/-- a checkpoint was written -/
def writesCheckpoint : (o : HostOp) → HostRes o → Prop
  | .writeCheckpoint _, ok => ok = true
  | _, _ => False

theorem saveCheckpoint_waits {e : String} :
    waits writesCheckpoint (fun o => o = .removeCheckpoint) (saveCheckpoint e c) fun _ => False := by
  unfold saveCheckpoint
  exact waits_orFail (Prog.waits_op (by simp) fun ok hok => Bool.eq_false_iff.2 hok)

theorem spares_not_removes {o : HostOp} (h : o.spares) : ¬ o = .removeCheckpoint := by
  rintro rfl
  exact h rfl

theorem Inspects.not_removes {α : Type} {p : Soft α} (h : Inspects p) : issues (fun o => ¬ o = .removeCheckpoint) p :=
  issues_mono h.spares fun _ => spares_not_removes

theorem dockerMutation_waits {p : ApplyPlan} {prepared : DockerPrepared} :
    waits writesCheckpoint (fun o => o = .removeCheckpoint) (dockerMutation E p stage prepared) fun _ => False := by
  have hcheck : ∀ {e : String} {k : Check}, issues (fun o => ¬ o = .removeCheckpoint) (orFail e (check k)) := fun {_ k} =>
    issues_mono (orFail_spares (check_spares (c := k))) fun _ => spares_not_removes
  unfold dockerMutation
  refine waits_bind (issues_waits requireSameBaseline_inspects.not_removes) fun _ _ => ?_
  refine waits_bind (issues_waits requireSameInputs_inspects.not_removes) fun _ _ => ?_
  refine waits_bind (issues_waits hcheck) fun _ _ => waits_bind (issues_waits hcheck) fun _ _ => ?_
  unfold dockerCutover
  exact waits_bind saveCheckpoint_waits fun _ h => h.elim

theorem gate_spares {operation : Operation} : issues HostOp.spares (gate plan operation l) := by
  unfold gate
  refine issues_bind (orFail_spares check_spares) fun _ => issues_bind (orFail_spares save_spares) fun _ => ?_
  refine issues_bind (orFail_spares (Prog.issues_op (by simp [HostOp.spares, HostOp.changesTarget]))) fun _ => ?_
  exact issues_bind (orFail_spares save_spares) fun _ => orFail_spares save_spares

/-- An apply on a Docker target removes no checkpoint before it has written one. -/
theorem docker_waits (hmode : E.target.deploymentMode ≠ modeSystemd) :
    (handle E ⟨.apply, plan⟩).waits writesCheckpoint (fun o => o = .removeCheckpoint) fun _ => True := by
  have hP : ∀ o : HostOp, o = .removeCheckpoint → o.changes := by
    rintro o rfl
    rfl
  refine handle_waits hP fun found _ => apply_waits hP fun l stage _ _ _ => ?_
  unfold applyStaged
  dsimp only
  rw [if_neg (by simpa using hmode)]
  refine waits_bind (issues_waits (issues_mono (atGate_spares dockerPreflight_inspects) fun _ => spares_not_removes))
    fun prepared _ => ?_
  refine waits_bind (issues_waits (issues_mono gate_spares fun _ => spares_not_removes)) fun _ _ => ?_
  unfold atGate
  refine waits_ofProg (Prog.waits_seq (waits_run dockerMutation_waits) fun r hr => Prog.waits_pure fun x hx => ?_)
  cases r with
  | error e => cases hx
  | ok result => exact hr result rfl

/-! ## An apply that stops early -/

/-- the host an apply leaves, wherever it stops -/
abbrev applied (E : SoftwareEnv) (plan : MutationPlan) (s : Host) (cs : List Choice) : Exec Host HostRes Outcome :=
  (handle E ⟨.apply, plan⟩).exec (hostNext E) s cs

/-- an apply of the staged record `l`, beside the finished checkpoint `c` of another job: it passed its gate and stopped
before a checkpoint of its own was written -/
structure StoppedEarly (E : SoftwareEnv) (plan : MutationPlan) (l : ExecutorMutationLedger) (c : UpdateCheckpoint) (s : Host)
    (cs : List Choice) : Prop where
  ledger : s.ledger = some l
  staged : l.state = .staged
  leftover : s.checkpoint = some c
  finished : c.over = true
  other : c.jobID ≠ plan.jobID
  begun : (applied E plan s cs).st.ledger.any ExecutorMutationLedger.begun = true
  early : ∀ x ∈ (applied E plan s cs).steps, ∀ c', x.op = .writeCheckpoint c' → x.post.checkpoint ≠ some c'

/-- a step of such an apply keeps the checkpoint, or removes it -/
theorem StoppedEarly.step (h : StoppedEarly E plan l c s cs) {x : Step Host HostRes} (hx : x ∈ (applied E plan s cs).steps) :
    x.post.checkpoint = x.pre.checkpoint ∨ (x.op = .removeCheckpoint ∧ x.post.checkpoint = none) := by
  obtain ⟨t, o, k, rfl⟩ := Prog.exec_stepOf _ _ _ _ x hx
  rcases hostNext_checkpoint (E := E) (s := t) (o := o) (k := k) with hkeep | hremove | ⟨c', ho, hwrite⟩
  · exact .inl hkeep
  · exact .inr hremove
  · exact absurd hwrite (h.early _ hx c' ho)

theorem StoppedEarly.checkpoint (h : StoppedEarly E plan l c s cs) :
    (applied E plan s cs).st.checkpoint = some c ∨ (applied E plan s cs).st.checkpoint = none := by
  obtain ⟨hlinked, hst⟩ := (handle E ⟨.apply, plan⟩).exec_linked (hostNext E) s cs
  have hkeep := Linked.until (I := fun t => t.checkpoint = some c ∨ t.checkpoint = none) (D := fun _ => False) hlinked
    (fun x hx hpre => ?_) (.inl h.leftover)
  · rw [hst] at hkeep
    exact hkeep.resolve_left fun ⟨_, _, hf⟩ => hf
  · rcases h.step hx with hsame | ⟨-, hnone⟩
    · exact .inr (by rw [hsame]; exact hpre)
    · exact .inr (.inr hnone)

/-- On a Docker target the leftover checkpoint is still there. -/
theorem StoppedEarly.docker (h : StoppedEarly E plan l c s cs) (hmode : E.target.deploymentMode ≠ modeSystemd) :
    (applied E plan s cs).st.checkpoint = some c := by
  have hremove : ∀ x ∈ (applied E plan s cs).steps, x.op ≠ .removeCheckpoint := by
    intro x hx ho
    obtain ⟨before, after_, hsplit⟩ := List.append_of_mem hx
    obtain ⟨y, hy, hwritten⟩ := Prog.waits_exec (docker_waits hmode) ho hsplit
    have hy' : y ∈ (applied E plan s cs).steps := hsplit ▸ List.mem_append_left _ hy
    obtain ⟨t, o, k, rfl⟩ := Prog.exec_stepOf _ _ _ _ y hy'
    cases o with
    | writeCheckpoint c' =>
      refine h.early _ hy' c' rfl ?_
      cases k with
      | ok => rfl
      | _ => cases hwritten
    | _ => exact hwritten.elim
  obtain ⟨hlinked, hst⟩ := (handle E ⟨.apply, plan⟩).exec_linked (hostNext E) s cs
  have hkeep := Linked.until (I := fun t => t.checkpoint = some c) (D := fun _ => False) hlinked
    (fun x hx hpre => ?_) h.leftover
  · rw [hst] at hkeep
    exact hkeep.resolve_left fun ⟨_, _, hf⟩ => hf
  · rcases h.step hx with hsame | ⟨ho, -⟩
    · exact .inr (hsame.trans hpre)
    · exact absurd ho (hremove x hx)

/-- The record it leaves: the job's own, bound to its plan, with the mutation under way. -/
theorem StoppedEarly.record (h : StoppedEarly E plan l c s cs) (hstage : l.stage = some stage) :
    ∃ l', (applied E plan s cs).st.ledger = some l' ∧ l'.validate E.target.targetID = true ∧ l'.begun = true ∧
      l'.stage = some stage ∧ l'.jobID = plan.jobID ∧ l'.intent = newRemoteMutationIntent plan ∧
      l'.leaseGeneration = plan.leaseGeneration ∧ stage.bound E plan = true := by
  have hbegun := h.begun
  rcases (handle_follows (E := E) (r := ⟨.apply, plan⟩) s cs).1 with hkept | ⟨l', hl', hvalid, hwritten⟩
  · rw [hkept, h.ledger, Option.any_some, ExecutorMutationLedger.begun, h.staged] at hbegun
    cases hbegun
  · rw [hl', Option.any_some] at hbegun
    rw [h.ledger] at hwritten
    cases hwritten with
    | fresh stage hop hfree => cases hop
    | moved l₀ state result hl₀ hreq hopen hstate happly hresult hbound =>
      cases hl₀
      obtain ⟨hjob, hintent, -, -, -⟩ := requestFailure_none hreq
      rw [hstage, Option.any_some] at hbound
      exact ⟨_, hl', hvalid, hbegun, hstage, hjob, hintent, rfl, hbound⟩

/-! ## A stop at the gate -/

theorem hostNext_spares {o : HostOp} {k : Choice} (h : o.changesTarget = false) : (hostNext E s o k).2.Same s := by
  cases o with
  | writeLedger l =>
    cases k with
    | ok => exact setLedger_same
    | failWritten => exact setLedger_same
    | _ => rfl
  | _ => first | rfl | cases h

/-- Steps that leave the target alone leave everything but the ledger as it was. -/
theorem spared_same (h : ∀ x ∈ (applied E plan s cs).steps, x.op.changesTarget = false) :
    (applied E plan s cs).st.Same s := by
  obtain ⟨hlinked, hst⟩ := (handle E ⟨.apply, plan⟩).exec_linked (hostNext E) s cs
  have hkeep := Linked.until (I := fun t => t.Same s) (D := fun _ => False) hlinked (fun x hx hpre => .inr ?_) rfl
  · rw [hst] at hkeep
    exact hkeep.resolve_left fun ⟨_, _, hf⟩ => hf
  · obtain ⟨t, o, k, rfl⟩ := Prog.exec_stepOf _ _ _ _ x hx
    exact (hostNext_spares (h _ hx)).trans hpre

/-- **Cut at the gate.** An apply that opens its gate can be stopped there: the record says that the mutation has begun, and
the target is as it was. -/
theorem stops_at_gate (h : ∃ x ∈ (applied E plan s cs).steps, opensApply plan.jobID x) :
    ∃ n l', (applied E plan s (cs.take n)).st.ledger = some l' ∧ l'.begun = true ∧
      ∀ x ∈ (applied E plan s (cs.take n)).steps, x.op.changesTarget = false := by
  obtain ⟨x, hx, hopen⟩ := h
  obtain ⟨l', hop, -, -, hstate, hpost⟩ := opensApply_post (Prog.exec_stepOf _ _ _ _ x hx) hopen
  obtain ⟨before, rest, hsplit⟩ := List.append_of_mem hx
  obtain ⟨hsteps, hst⟩ := Prog.exec_cut (hostNext E) hsplit
  refine ⟨before.length + 1, l', ?_, ?_, ?_⟩
  · rw [hst]
    exact hpost
  · rw [ExecutorMutationLedger.begun, hstate]
    rfl
  · intro y hy
    rw [hsteps] at hy
    rcases List.mem_append.1 hy with hy | hy
    · -- a change before `x` would come behind a gate that has opened already
      by_contra hchanges
      obtain ⟨b1, b2, rfl⟩ := List.append_of_mem hy
      rw [List.append_assoc, List.cons_append] at hsplit
      obtain ⟨z, hz, hopened⟩ := Prog.waits_exec handle_waits_mutating (by simpa using hchanges) hsplit
      have honce : (applied E plan s cs).steps.Pairwise fun x y => x.op.begins → ¬ y.op.begins :=
        Prog.once_exec handle_once s cs
      rw [hsplit, List.pairwise_append] at honce
      have hz' : z ∈ (applied E plan s cs).steps := by rw [hsplit]; exact List.mem_append_left _ hz
      obtain ⟨l'', hop', -, -, hstate', -⟩ := opensApply_post (Prog.exec_stepOf _ _ _ _ z hz') hopened
      exact honce.2.2 z hz x (by simp) ⟨l'', hop', hstate'⟩ ⟨l', hop, hstate⟩
    · rw [List.mem_singleton.1 hy, hop]
      rfl

/-! ## Its reconcile -/

/-- the record says that the job was rolled back -/
def ExecutorMutationLedger.rolledBack (l : ExecutorMutationLedger) : Bool :=
  l.state == .terminal && l.result.any fun r => r.status == .rolledBack

/-- the release recorded as the previous one is the requested one -/
def RemoteStage.repeats (stage : RemoteStage) (plan : MutationPlan) : Bool :=
  versionsEqual stage.previousVersion plan.targetVersion &&
    normalizeDigest stage.previousDigest == normalizeDigest plan.artifactDigest

theorem reconciled_rolledBack {x : ApplyResult} (h : (reconciled plan l (some x)).1.rolledBack = true) :
    x.status = .rolledBack := by
  unfold reconciled at h
  split at h
  · rename_i b hb
    obtain ⟨hbind, -⟩ := Option.filter_eq_some_iff.1 hb
    rw [Option.bind_some] at hbind
    unfold bindRemoteApplyResult at hbind
    dsimp only at hbind
    split at hbind
    · cases hbind
    · cases hbind
      simpa [ExecutorMutationLedger.rolledBack, sanitizeRemoteApplyResult] using h
  · cases h

theorem reconciled_unnamed {sha : ℤ → MutationPlan → String} {x : ApplyResult} (hplan : plan.validate sha = true)
    (hx : x.artifactDigest = "") (hstatus : x.status = .rolledBack) : (reconciled plan l (some x)).1.rolledBack = true := by
  have hbind := bindRemoteApplyResult_unnamed hplan hx
  unfold reconciled
  rw [Option.bind_some, hbind, Option.filter_some_pos (by simp [ApplyResult.settled, sanitizeRemoteApplyResult, hstatus])]
  simp [ExecutorMutationLedger.rolledBack, sanitizeRemoteApplyResult, hstatus]

section Reconcile

variable {G : Step Host HostRes → Prop} (hG : Quiet E G)

include hG in
/-- A checkpoint of another job is refused. -/
theorem passes_refused {p : ApplyPlan} {F : String → Host → Prop} {Q : ApplyResult → Host → Prop}
    (hcheckpoint : s.checkpoint = some c) (hother : c.jobID ≠ p.jobID) (h : ∀ e, F e s) :
    passes E a G (if E.target.deploymentMode == modeSystemd then reconcileSystemd E p else reconcileDocker E p) F Q s := by
  have hsystemd : s.checkpoint.all (fun c => c.recoversSystemd p) = false := by
    simp [hcheckpoint, UpdateCheckpoint.recoversSystemd, hother]
  have hdocker : s.checkpoint.all (fun c => c.recoversDocker p) = false := by
    simp [hcheckpoint, UpdateCheckpoint.recoversDocker, hother]
  split
  · unfold reconcileSystemd
    refine under_bind.2 (passes_loadCheckpoint hG (fun _ => ?_) fun _ => h)
    exact under_bind.2 (passes_require (fun hf => by rw [hsystemd] at hf; cases hf) fun _ => h _)
  · unfold reconcileDocker
    refine under_bind.2 (passes_loadCheckpoint hG (fun _ => ?_) fun _ => h)
    exact under_bind.2 (passes_require (fun hf => by rw [hdocker] at hf; cases hf) fun _ => h _)

end Reconcile

/-- the previous release of the stage is not the requested one if and only if reconcile does not take it for that -/
theorem runsRequested_previous {sha : ℤ → MutationPlan → String} {r : CurrentRelease} (hplan : plan.validate sha = true)
    (hbound : stage.bound E plan = true) (hprevious : isStagedPrevious stage r = true) :
    runsRequested (applyPlan plan stage) none r = stage.repeats plan := by
  simp only [isStagedPrevious, Bool.and_eq_true, beq_iff_eq] at hprevious
  simp only [runsRequested, systemdRequestedReleaseDigestMatches, bound_artifact hplan hbound, RemoteStage.repeats,
    Option.isSome_none, Bool.false_or, hprevious.2, hprevious.1.2]
  rfl

theorem runsPlanned_previous {sha : ℤ → MutationPlan → String} {r : CurrentRelease} (hplan : plan.validate sha = true)
    (hmode : E.target.deploymentMode = modeSystemd) (hbound : stage.bound E plan = true)
    (hprevious : isStagedPrevious stage r = true) (hr : trimSpace r.version = r.version) :
    runsPlanned (applyPlan plan stage) r = true := by
  have ht := planTexts hplan
  simp only [isStagedPrevious, Bool.and_eq_true, beq_iff_eq] at hprevious
  have hfits : stage.fitsSystemd plan = true := by
    simp only [RemoteStage.bound, hmode, Bool.and_eq_true] at hbound
    simpa using hbound.2.2
  simp only [RemoteStage.fitsSystemd, requirePlannedCurrentVersion, Bool.and_eq_true, Bool.or_eq_true, beq_iff_eq, ht.trimmed,
    ← hprevious.2, hr] at hfits
  have hne : plan.currentVersion ≠ "" := by
    intro hempty
    have hversion := ht.currentVersion
    rw [hempty] at hversion
    exact absurd hversion (by decide)
  simp only [runsPlanned, applyPlan, ht.trimmed, ht.currentVersion, Bool.true_and, beq_iff_eq]
  exact (hfits.2.resolve_left hne).2

section Reconciles

variable (h : StoppedEarly E plan l c s cs) (hstage : l.stage = some stage)
  (hfits : (⟨.reconcile, plan'⟩ : SoftwareRequest).fits E = true) (hjob : plan'.jobID = plan.jobID)
  (hintent : newRemoteMutationIntent plan' = newRemoteMutationIntent plan)
  (hlease : plan.leaseGeneration ≤ plan'.leaseGeneration)

include h hstage hfits hjob hintent hlease in
/-- The reconcile of such a job opens its gate and comes to its decision. -/
theorem StoppedEarly.decides {P : Host → Prop}
    (hdecision : ∀ l' u, u.Same (applied E plan s cs).st → stage.bound E plan' = true →
      plan'.validate E.payloadSHA256 = true → passes E a (fun _ => True) (if E.target.deploymentMode == modeSystemd
        then reconcileSystemd E (applyPlan plan' stage) else reconcileDocker E (applyPlan plan' stage))
      (fun _ _ => ∀ w : Host, w.ledger = some (reconciled plan' l' none).1 → P w)
      (fun x _ => ∀ w : Host, w.ledger = some (reconciled plan' l' (some x)).1 → P w) u) :
    P (hostAfter E (applied E plan s cs).st (favourableRun E a (applied E plan s cs).st [⟨.reconcile, plan'⟩])) := by
  have hG : Lenient E fun _ => True := fun _ _ _ _ => trivial
  have hplan : plan'.validate E.payloadSHA256 = true := by
    simp only [SoftwareRequest.fits, Bool.and_eq_true] at hfits
    exact hfits.1.1.1
  obtain ⟨l', hl', hvalid, hbegun, hstage', hjob', hintent', hlease', hbound⟩ := h.record hstage
  have hbound' : stage.bound E plan' = true := (bound_congr hintent).trans hbound
  have hreq : remoteLedgerRequestFailure l' plan' .reconcile = none := by
    simp [remoteLedgerRequestFailure, RemoteMutationIntent.matches, hjob', hjob, hintent', hintent, hlease', hlease]
  refine hostAfter_favourable (G := fun _ => True) (goes_handle hG hfits (by rw [hl', Option.all_some]; exact hvalid) ?_)
  rw [hl']
  refine goes_reconcile hG hplan hvalid hreq hbegun hstage' hbound' fun u hu => ?_
  exact under_mono (hdecision l' u hu hbound' hplan) (fun _ _ hv w _ => hv w) fun _ _ hv w _ => hv w

include h hstage hfits hjob hintent hlease in
/-- As long as the leftover is there, the job is not rolled back. -/
theorem StoppedEarly.refused (hkept : (applied E plan s cs).st.checkpoint = some c) :
    (hostAfter E (applied E plan s cs).st
      (favourableRun E a (applied E plan s cs).st [⟨.reconcile, plan'⟩])).ledger.any (·.rolledBack) = false := by
  refine h.decides (P := fun w => w.ledger.any (·.rolledBack) = false) hstage hfits hjob hintent hlease fun l' u hu _ _ => ?_
  have hother : c.jobID ≠ (applyPlan plan' stage).jobID := fun hsame => h.other (hsame.trans hjob)
  refine passes_refused (fun _ _ _ _ => trivial) (by rw [hu]; exact hkept) hother fun e w hw => ?_
  rw [hw]
  rfl

include h hstage hfits hjob hintent hlease in
/-- Once the leftover is gone, a systemd target that is still on its previous release is rolled back, unless that release
is the requested one. -/
theorem StoppedEarly.settles {r : CurrentRelease} (hmode : E.target.deploymentMode = modeSystemd)
    (hgone : (applied E plan s cs).st.checkpoint = none) (hr : (applied E plan s cs).st.healthy E = some r)
    (hprevious : isStagedPrevious stage r = true) :
    (hostAfter E (applied E plan s cs).st
      (favourableRun E a (applied E plan s cs).st [⟨.reconcile, plan'⟩])).ledger.any (·.rolledBack) = !stage.repeats plan' := by
  refine h.decides (P := fun w => w.ledger.any (·.rolledBack) = !stage.repeats plan') hstage hfits hjob hintent hlease
    fun l' u hu hbound hplan => ?_
  have hcheckpoint : u.checkpoint = none := by rw [hu]; exact hgone
  have hur : u.healthy E = some r := by rw [hu]; exact hr
  obtain ⟨-, -, -, -, rel, -, -, hversion⟩ := current_some (Option.filter_eq_some_iff.1 hr).1
  have htrim : trimSpace r.version = r.version := by rw [hversion, trimSpace_trimSpace]
  rw [if_pos (by simp [hmode])]
  refine passes_reconcileSystemd (fun _ _ _ _ => trivial) (by rw [hcheckpoint]; rfl) ?_
  rw [hur, hcheckpoint]
  dsimp only
  unfold classifyRelease
  rw [runsRequested_previous hplan hbound hprevious]
  cases hrepeats : stage.repeats plan' with
  | true =>
    refine under_bind.2 (passes_required rfl (under_bind.2 (under_onlyIf (fun hf => by cases hf) fun _ => ?_)))
    refine under_pure.2 fun w hw => Bool.eq_false_iff.2 fun hrolled => ?_
    rw [hw, Option.any_some] at hrolled
    cases reconciled_rolledBack hrolled
  | false =>
    simp only [Bool.false_eq_true, if_false, Option.isNone_none, Bool.true_and,
      runsPlanned_previous hplan hmode hbound hprevious htrim, if_true]
    refine under_pure.2 fun w hw => ?_
    rw [hw, Option.any_some]
    exact reconciled_unnamed hplan rfl rfl

/-- **A leftover checkpoint.** An apply passes its gate beside the finished checkpoint of another job and stops before it
has written its own; the target is still healthy on its previous release. Then a reconcile of the job, with its grant and
every answer in order, rolls it back if and only if the target is a systemd one, the apply got as far as clearing the
leftover, and the previous release is not the requested one. -/
theorem leftover_reconcile_iff (h : StoppedEarly E plan l c s cs) (hstage : l.stage = some stage)
    (hhealthy : E.target.deploymentMode = modeSystemd →
      ∃ r, (applied E plan s cs).st.healthy E = some r ∧ isStagedPrevious stage r = true)
    (hfits : (⟨.reconcile, plan'⟩ : SoftwareRequest).fits E = true) (hjob : plan'.jobID = plan.jobID)
    (hintent : newRemoteMutationIntent plan' = newRemoteMutationIntent plan)
    (hlease : plan.leaseGeneration ≤ plan'.leaseGeneration) (a : Answers) :
    (hostAfter E (applied E plan s cs).st
        (favourableRun E a (applied E plan s cs).st [⟨.reconcile, plan'⟩])).ledger.any (·.rolledBack) = true ↔
      E.target.deploymentMode = modeSystemd ∧ (applied E plan s cs).st.checkpoint = none ∧ stage.repeats plan' = false := by
  by_cases hmode : E.target.deploymentMode = modeSystemd
  · rcases h.checkpoint with hkept | hgone
    · rw [h.refused hstage hfits hjob hintent hlease hkept, hkept]
      simp
    · obtain ⟨r, hr, hprevious⟩ := hhealthy hmode
      rw [h.settles hstage hfits hjob hintent hlease hmode hgone hr hprevious]
      simp [hmode, hgone]
  · rw [h.refused hstage hfits hjob hintent hlease (h.docker hmode)]
    simp [hmode]

end Reconciles

/-! ## The sample, beside the checkpoint of its previous job -/

/-- the checkpoint that the first job left when it was over -/
def leftoverCheckpoint : UpdateCheckpoint where
  jobID := "job-1"
  targetID := "svc-1"
  deploymentMode := modeSystemd
  phase := .succeeded
  targetVersion := "v1.0.0"

/-- the sample target with that checkpoint and the second job staged; its release cannot be installed -/
def leftoverHost : Host := { blockedBeside (some leftoverCheckpoint) with ledger := some (sampleStaged "job-2") }

theorem leftover_finished :
    (some leftoverCheckpoint).all (fun c => c.loadable sampleEnv.target && c.over) = true := by decide

/-- the apply of the second job, with every answer in order -/
def leftoverApply : List Choice :=
  (handle sampleEnv ⟨.apply, samplePlan "job-2" 1⟩).script (hostNext sampleEnv) (fun _ => sampleAnswers.to) [] leftoverHost

theorem leftoverApply_runs :
    (∀ x ∈ (applied sampleEnv (samplePlan "job-2" 1) leftoverHost leftoverApply).steps, keepsClear x) ∧
      (applied sampleEnv (samplePlan "job-2" 1) leftoverHost leftoverApply).st.Same blockedHost ∧
      (applied sampleEnv (samplePlan "job-2" 1) leftoverHost leftoverApply).st.ledger = some (blockedLedger "job-2") ∧
      ∃ x ∈ (applied sampleEnv (samplePlan "job-2" 1) leftoverHost leftoverApply).steps, opensApply "job-2" x := by
  have hchoose : ∀ (tr : List (Step Host HostRes)) s o, Favourable sampleAnswers s o ((fun _ => sampleAnswers.to) tr s o) :=
    fun _ _ _ => rfl
  have happly := blocked_apply leftover_finished (.inr rfl) (rfl : leftoverHost.Same (blockedBeside (some leftoverCheckpoint)))
    (rfl : leftoverHost.ledger = some (sampleStaged "job-2"))
  obtain ⟨hsteps, out, -, hsame, hledger⟩ := Prog.under_script happly.1 hchoose []
  exact ⟨hsteps, hsame, hledger, Prog.reaches_script happly.2 hchoose []⟩

/-- the apply ran into the foreign release, behind the cleared checkpoint -/
theorem leftoverApply_stopped :
    StoppedEarly sampleEnv (samplePlan "job-2" 1) (sampleStaged "job-2") leftoverCheckpoint leftoverHost leftoverApply where
  ledger := rfl
  staged := rfl
  leftover := rfl
  finished := rfl
  other := by decide
  begun := by
    rw [leftoverApply_runs.2.2.1]
    rfl
  early x hx c' hop := absurd hop (leftoverApply_runs.1 x hx c')

theorem leftover_fits : (⟨.reconcile, samplePlan "job-2" 1⟩ : SoftwareRequest).fits sampleEnv = true :=
  sample_fits (.inr rfl) one_ne_zero

theorem sampleStage_previous {jobID : String} : isStagedPrevious (sampleStage jobID) oldRelease = true := by
  simp [isStagedPrevious, stagedFrom]

/-- the reconcile of the sample's second job closes it once the leftover is cleared -/
theorem cleared_leftover_reconciles :
    (hostAfter sampleEnv (applied sampleEnv (samplePlan "job-2" 1) leftoverHost leftoverApply).st
      (favourableRun sampleEnv sampleAnswers (applied sampleEnv (samplePlan "job-2" 1) leftoverHost leftoverApply).st
        [⟨.reconcile, samplePlan "job-2" 1⟩])).ledger.any (·.rolledBack) = true := by
  have hsame := leftoverApply_runs.2.1
  have hversions : versionsEqual "v1.0.0" "v1.1.0" = false := by decide
  refine (leftover_reconcile_iff leftoverApply_stopped rfl (fun _ => ⟨oldRelease, blocked_healthy (k := none) hsame,
    sampleStage_previous⟩) leftover_fits rfl rfl le_rfl sampleAnswers).2 ⟨rfl, by rw [hsame]; rfl, ?_⟩
  simp [RemoteStage.repeats, stagedFrom, oldRelease, samplePlan, hversions]

/-- **A job that no reconcile closes.** Stopped at its gate, beside the checkpoint its predecessor left, the second job is
not rolled back by its reconcile although nothing was changed and every answer is in order. -/
theorem leftover_blocks_reconcile : ∃ cs,
    StoppedEarly sampleEnv (samplePlan "job-2" 1) (sampleStaged "job-2") leftoverCheckpoint leftoverHost cs ∧
      (applied sampleEnv (samplePlan "job-2" 1) leftoverHost cs).st.healthy sampleEnv = some oldRelease ∧
      (hostAfter sampleEnv (applied sampleEnv (samplePlan "job-2" 1) leftoverHost cs).st
        (favourableRun sampleEnv sampleAnswers (applied sampleEnv (samplePlan "job-2" 1) leftoverHost cs).st
          [⟨.reconcile, samplePlan "job-2" 1⟩])).ledger.any (·.rolledBack) = false := by
  obtain ⟨n, l', hl', hbegun, hspared⟩ := stops_at_gate leftoverApply_runs.2.2.2
  have hsame : (applied sampleEnv (samplePlan "job-2" 1) leftoverHost (leftoverApply.take n)).st.Same
      (blockedBeside (some leftoverCheckpoint)) := (spared_same hspared).trans rfl
  have hstopped : StoppedEarly sampleEnv (samplePlan "job-2" 1) (sampleStaged "job-2") leftoverCheckpoint leftoverHost
      (leftoverApply.take n) :=
    { ledger := rfl, staged := rfl, leftover := rfl, finished := rfl, other := by decide
      begun := by rw [hl']; exact hbegun
      early := fun x hx c' hop => by
        have hspares := hspared x hx
        rw [hop] at hspares
        cases hspares }
  refine ⟨_, hstopped, blocked_healthy hsame, hstopped.refused rfl leftover_fits rfl rfl le_rfl ?_⟩
  rw [hsame]

end AutostreamUpdater.Software
