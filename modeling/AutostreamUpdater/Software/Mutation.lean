/-
What stands in front of a mutation. An apply touches its target only after it has loaded the staged record of exactly its
own plan, consumed its grant and saved that the mutation begins; and that gate opens at most once for a job, as long as
no other job is staged in between.
-/
import AutostreamUpdater.Base.Gate
import AutostreamUpdater.Software.History

namespace AutostreamUpdater.Software

open Contract Base Fallible

variable {E : SoftwareEnv} {plan : MutationPlan} {l : ExecutorMutationLedger} {stage : RemoteStage} {operation : Operation}

/-! ## Answers that open the gate -/

/-- the record that the plan staged was loaded -/
def loadsStaged (plan : MutationPlan) : (o : HostOp) → HostRes o → Prop
  | .readLedger, .ok (some l) => l.state = .staged ∧ l.jobID = plan.jobID ∧ l.planSHA256 = plan.planSHA256 ∧
      l.sessionID = plan.sessionID ∧ l.leaseGeneration = plan.leaseGeneration
  | _, _ => False

/-- the grant of the apply was consumed -/
def consumesGrant (plan : MutationPlan) : (o : HostOp) → HostRes o → Prop
  | .consumeGrant p operation, ok => p = plan ∧ operation = .apply ∧ ok = true
  | _, _ => False

/-- the record that the job's mutation begins was saved -/
def savesMutating (operation : Operation) (jobID : String) : (o : HostOp) → HostRes o → Prop
  | .writeLedger l, ok => l.state = .mutating ∧ l.operation = operation ∧ l.jobID = jobID ∧ ok = true
  | _, _ => False

/-- the operation changes the target -/
abbrev HostOp.changes (o : HostOp) : Prop := o.changesTarget = true

/-! ## Behind the gate -/

section Behind

variable {G : (o : HostOp) → HostRes o → Prop} {P : HostOp → Prop} (hP : ∀ o, P o → o.changes)

/-- the operation leaves the target alone -/
abbrev HostOp.spares (o : HostOp) : Prop := ¬ o.changes

include hP in
theorem spares_waits {α : Type} {p : SoftwareProg α} (h : p.issues HostOp.spares) : p.waits G P fun _ => True :=
  Prog.issues_waits (Prog.issues_iff.2 (Prog.only_mono (Prog.issues_iff.1 h) (fun o ho ho' => ho (hP o ho')) fun _ _ => trivial))

theorem Inspects.spares {α : Type} {p : Soft α} (h : Inspects p) : issues HostOp.spares p :=
  issues_mono h fun o ho => by rw [HostOp.spares, HostOp.changes, ho.2]; simp

theorem check_spares {c : Check} : (check c).issues HostOp.spares :=
  Prog.issues_op (by simp [HostOp.spares, HostOp.changesTarget])

theorem save_spares : (saveExecutorMutationLedger l).issues HostOp.spares := by
  refine Prog.issues_seq check_spares fun ok => Prog.issues_ite Prog.issues_pure (Prog.issues_ite Prog.issues_pure ?_)
  exact Prog.issues_op (by simp [HostOp.spares, HostOp.changesTarget])

theorem orFail_spares {ε : Type} {e : ε} {p : SoftwareProg Bool} (h : p.issues HostOp.spares) :
    issues HostOp.spares (orFail e p) := issues_orFail (Prog.issues_iff.1 h)

theorem markAmbiguous_spares : (markAmbiguous plan operation l).issues HostOp.spares :=
  Prog.issues_seq save_spares fun _ => Prog.issues_pure

theorem atGate_spares {α : Type} {p : Soft α} (h : Inspects p) : issues HostOp.spares (atGate false p) :=
  issues_ofProg (Prog.issues_iff.1 (Prog.issues_seq (Prog.issues_run h.spares) fun _ => Prog.issues_pure))

/-- An apply whose gate does not open leaves the target alone. -/
theorem applyStaged_waits (hgate : waits G HostOp.changes (gate plan .apply l) fun _ => False) :
    waits G HostOp.changes (applyStaged E plan l stage) fun _ => False := by
  unfold applyStaged
  split
  · refine waits_bind (issues_waits (atGate_spares systemdPreflight_inspects)) fun checkpoint _ => ?_
    exact waits_bind hgate fun _ h => h.elim
  · refine waits_bind (issues_waits (atGate_spares dockerPreflight_inspects)) fun prepared _ => ?_
    exact waits_bind hgate fun _ h => h.elim

include hP in
theorem runMutation_waits (happly : waits G P (applyStaged E plan l stage) fun _ => False) :
    (runMutation E plan .apply l stage).waits G P fun _ => True := by
  unfold runMutation mutation
  rw [if_pos rfl]
  refine Prog.waits_seq (waits_run happly) fun r hr => ?_
  cases r with
  | ok result => exact (hr result rfl).elim
  | error e =>
    exact Prog.waits_ite (fun _ => spares_waits hP markAmbiguous_spares) fun _ => Prog.waits_pure trivial

include hP in
/-- An apply waits for an answer if it does so on every record it may mutate. -/
theorem apply_waits {found : Option ExecutorMutationLedger}
    (happly : ∀ l stage, found = some l → remoteLedgerRequestFailure l plan .apply = none → l.state = .staged →
      waits G P (applyStaged E plan l stage) fun _ => False) :
    (dispatch E ⟨.apply, plan⟩ found).waits G P fun _ => True := by
  unfold dispatch executorMutationRequest
  rw [if_neg (by simp)]
  cases found with
  | none => exact Prog.waits_ite (fun h => by cases h) fun _ => Prog.waits_pure trivial
  | some l =>
    dsimp only
    split
    · exact Prog.waits_ite (fun h => by cases h.2.1) fun _ => Prog.waits_pure trivial
    · rename_i hreq
      refine Prog.waits_ite (fun _ => Prog.waits_pure trivial) fun _ => ?_
      split
      · rename_i stage hstage
        unfold mutateLedger
        refine Prog.waits_seq (spares_waits hP (Prog.issues_run validateExecutorStage_inspects.spares)) fun valid _ => ?_
        cases valid with
        | error e => exact Prog.waits_pure trivial
        | ok _ =>
          refine Prog.waits_ite (fun _ => Prog.waits_pure trivial) fun hstaged => ?_
          refine Prog.waits_ite (fun h => by cases h.1) fun _ => ?_
          exact runMutation_waits hP (happly l stage rfl hreq (not_not.1 fun hs => hstaged ⟨rfl, hs⟩))
      · exact Prog.waits_pure trivial

include hP in
theorem load_waits : (loadExecutorMutationLedger E).waits G P
    fun r => ∀ found, r = .ok found → ¬ G .readLedger (.ok found) := by
  unfold loadExecutorMutationLedger
  refine Prog.waits_seq (Prog.waits_op (Q := fun r => ¬ G .readLedger r) (fun ho => by cases hP _ ho) fun r hr => hr) ?_
  intro r hr
  rcases r with _ | _ | l
  · exact Prog.waits_pure fun found h => by cases h
  · exact Prog.waits_pure fun found h => by cases h; exact hr
  · refine Prog.waits_pure fun found h => ?_
    split at h
    · cases h
      exact hr
    · cases h

include hP in
/-- The whole request: what it does with a closed gate is what the dispatch does on the ledger it loaded. -/
theorem handle_waits
    (hdispatch : ∀ found, ¬ G .readLedger (.ok found) → (dispatch E ⟨.apply, plan⟩ found).waits G P fun _ => True) :
    (handle E ⟨.apply, plan⟩).waits G P fun _ => True := by
  unfold handle
  refine Prog.waits_ite (fun _ => Prog.waits_pure trivial) fun _ => ?_
  refine Prog.waits_seq (Prog.waits_op (Q := fun _ => True) (fun ho => by cases hP _ ho) fun _ _ => trivial) ?_
  intro code _
  cases code with
  | some code => exact Prog.waits_pure trivial
  | none =>
    refine Prog.waits_seq (load_waits hP) fun r hr => ?_
    cases r with
    | error e => exact Prog.waits_pure trivial
    | ok found => exact hdispatch found (hr found rfl)

end Behind

/-! ## Three gates -/

theorem handle_waits_load : (handle E ⟨.apply, plan⟩).waits (loadsStaged plan) HostOp.changes fun _ => True := by
  refine handle_waits (fun _ h => h) fun found hfound => apply_waits (fun _ h => h) fun l stage hl hreq hstate => ?_
  subst hl
  obtain ⟨hjob, -, -, -, happly⟩ := requestFailure_none hreq
  obtain ⟨hhash, hsession, hlease⟩ := happly rfl
  exact absurd ⟨hstate, hjob, hhash, hsession, hlease⟩ hfound

/-- an operation that reports an error unless it opens the gate -/
theorem waits_orFail {G : (o : HostOp) → HostRes o → Prop} {P : HostOp → Prop} {ε : Type} {e : ε} {p : SoftwareProg Bool}
    (h : p.waits G P fun ok => ok = false) : waits G P (orFail e p) fun _ => False := by
  unfold orFail
  refine waits_bind (waits_total h) fun ok hok => ?_
  subst hok
  exact waits_mono waits_require fun _ h => by cases h

theorem handle_waits_grant : (handle E ⟨.apply, plan⟩).waits (consumesGrant plan) HostOp.changes fun _ => True := by
  refine handle_waits (fun _ h => h) fun found _ => apply_waits (fun _ h => h) fun l stage _ _ _ => applyStaged_waits ?_
  unfold gate
  refine waits_bind (issues_waits (orFail_spares check_spares)) fun _ _ => ?_
  refine waits_bind (issues_waits (orFail_spares save_spares)) fun _ _ => ?_
  refine waits_bind (waits_orFail (Prog.waits_op (by simp [HostOp.changesTarget]) fun ok hok => ?_)) fun _ h => h.elim
  exact Bool.eq_false_iff.2 fun h => hok ⟨rfl, rfl, h⟩

theorem save_waits : (saveExecutorMutationLedger (l.rebound plan operation .mutating none)).waits
    (savesMutating operation l.jobID) HostOp.changes fun ok => ok = false := by
  refine Prog.waits_seq (Prog.issues_waits check_spares) fun ok _ => ?_
  refine Prog.waits_ite (fun _ => Prog.waits_pure rfl) fun _ => Prog.waits_ite (fun _ => Prog.waits_pure rfl) fun _ => ?_
  refine Prog.waits_op (by simp [HostOp.changesTarget]) fun ok hok => ?_
  exact Bool.eq_false_iff.2 fun h => hok ⟨rfl, rfl, rfl, h⟩

theorem handle_waits_mutating :
    (handle E ⟨.apply, plan⟩).waits (savesMutating .apply plan.jobID) HostOp.changes fun _ => True := by
  refine handle_waits (fun _ h => h) fun found _ => apply_waits (fun _ h => h) fun l stage _ hreq _ => applyStaged_waits ?_
  unfold gate
  refine waits_bind (issues_waits (orFail_spares check_spares)) fun _ _ => ?_
  refine waits_bind (issues_waits (orFail_spares save_spares)) fun _ _ => ?_
  refine waits_bind (issues_waits (orFail_spares (Prog.issues_op (by simp [HostOp.spares, HostOp.changesTarget])))) fun _ _ => ?_
  refine waits_bind (issues_waits (orFail_spares save_spares)) fun _ _ => ?_
  rw [← (requestFailure_none hreq).1]
  exact waits_orFail save_waits

/-! ## Once -/

/-- the operation writes that a mutation begins -/
def HostOp.begins (o : HostOp) : Prop := ∃ l, o = .writeLedger l ∧ l.state = .mutating

/-- what a request may write says when it begins a mutation -/
theorem onTarget_not_begins {o : HostOp} (h : o.onTarget) : ¬ o.begins := by
  rintro ⟨l, rfl, -⟩
  cases h

theorem OnTarget.not_begins {α : Type} {p : Soft α} (h : OnTarget p) : issues (fun o => ¬ o.begins) p :=
  issues_mono h fun _ => onTarget_not_begins

theorem save_not_begins (h : l.state ≠ .mutating) : (saveExecutorMutationLedger l).issues fun o => ¬ o.begins := by
  refine Prog.issues_seq (Prog.issues_op (onTarget_not_begins rfl)) fun ok =>
    Prog.issues_ite Prog.issues_pure (Prog.issues_ite Prog.issues_pure (Prog.issues_op ?_))
  rintro ⟨l', hl, hstate⟩
  cases hl
  exact h hstate

theorem save_once : (saveExecutorMutationLedger l).once HostOp.begins := by
  refine Prog.once_seq_right (Prog.issues_op (onTarget_not_begins rfl)) fun ok => ?_
  split
  · exact Prog.issues_once Prog.issues_pure
  · split
    · exact Prog.issues_once Prog.issues_pure
    · exact Prog.once_op

theorem orFail_not_begins {ε : Type} {e : ε} {p : SoftwareProg Bool} (h : p.issues fun o => ¬ o.begins) :
    issues (fun o => ¬ o.begins) (orFail e p) := issues_orFail (Prog.issues_iff.1 h)

theorem atGate_not_begins {α : Type} {called : Bool} {p : Soft α} (h : OnTarget p) :
    issues (fun o => ¬ o.begins) (atGate called p) :=
  issues_ofProg (Prog.issues_iff.1 (Prog.issues_seq (Prog.issues_run h.not_begins) fun _ => Prog.issues_pure))

theorem gate_once : once HostOp.begins (gate plan operation l) := by
  unfold gate
  refine once_bind_right (orFail_not_begins (Prog.issues_op (onTarget_not_begins rfl))) fun _ => ?_
  refine once_bind_right (orFail_not_begins (save_not_begins (by simp))) fun _ => ?_
  refine once_bind_right (orFail_not_begins (Prog.issues_op ?_)) fun _ => ?_
  · rintro ⟨l', hl, -⟩
    cases hl
  refine once_bind_right (orFail_not_begins (save_not_begins (by simp))) fun _ => ?_
  exact once_bind_left (once_total save_once) fun _ => issues_require

theorem mutation_once : once HostOp.begins (mutation E plan operation l stage) := by
  unfold mutation applyStaged reconcileStaged
  split
  · split
    · refine once_bind_right (atGate_not_begins systemdPreflight_inspects.onTarget) fun _ => ?_
      exact once_bind_left gate_once fun _ => atGate_not_begins systemdMutation_onTarget
    · refine once_bind_right (atGate_not_begins dockerPreflight_inspects.onTarget) fun _ => ?_
      exact once_bind_left gate_once fun _ => atGate_not_begins dockerMutation_onTarget
  · refine once_bind_left gate_once fun _ => atGate_not_begins ?_
    exact issues_ite reconcileSystemd_onTarget reconcileDocker_onTarget

theorem markAmbiguous_not_begins : (markAmbiguous plan operation l).issues fun o => ¬ o.begins :=
  Prog.issues_seq (save_not_begins (by simp)) fun _ => Prog.issues_pure

theorem recordResult_not_begins {result : ApplyResult} :
    (recordResult plan operation l result).issues fun o => ¬ o.begins := by
  unfold recordResult
  split
  · exact markAmbiguous_not_begins
  · refine Prog.issues_ite markAmbiguous_not_begins ?_
    exact Prog.issues_seq (save_not_begins (by simp)) fun _ => Prog.issues_ite Prog.issues_pure Prog.issues_pure

theorem runMutation_once : (runMutation E plan operation l stage).once HostOp.begins := by
  unfold runMutation
  refine Prog.once_seq_left (once_run mutation_once) fun r => ?_
  cases r with
  | ok result => exact recordResult_not_begins
  | error e => exact Prog.issues_ite markAmbiguous_not_begins Prog.issues_pure

theorem cleanOrphan_not_begins {code : FailureCode} : (cleanOrphan code).issues fun o => ¬ o.begins :=
  Prog.issues_seq (Prog.issues_op (onTarget_not_begins rfl)) fun _ => Prog.issues_ite Prog.issues_pure Prog.issues_pure

theorem mutateLedger_once : (mutateLedger E plan operation l stage).once HostOp.begins := by
  unfold mutateLedger
  refine Prog.once_seq_right (Prog.issues_run validateExecutorStage_inspects.onTarget.not_begins) fun r => ?_
  cases r with
  | error e => exact Prog.issues_once Prog.issues_pure
  | ok _ =>
    dsimp only
    split
    · exact Prog.issues_once Prog.issues_pure
    · split
      · unfold abandonStaged
        split
        · exact Prog.issues_once Prog.issues_pure
        · exact Prog.issues_once (Prog.issues_seq (save_not_begins (by simp)) fun _ =>
            Prog.issues_ite Prog.issues_pure Prog.issues_pure)
      · exact runMutation_once

theorem executorMutationRequest_once {found : Option ExecutorMutationLedger} :
    (executorMutationRequest E plan operation found).once HostOp.begins := by
  unfold executorMutationRequest
  cases found with
  | none => exact Prog.issues_once (Prog.issues_ite cleanOrphan_not_begins Prog.issues_pure)
  | some l =>
    dsimp only
    split
    · exact Prog.issues_once (Prog.issues_ite cleanOrphan_not_begins Prog.issues_pure)
    · split
      · exact Prog.issues_once Prog.issues_pure
      · split
        · exact mutateLedger_once
        · exact Prog.issues_once Prog.issues_pure

/-- what a stage request writes begins nothing -/
theorem executorStageRequest_not_begins {r : SoftwareRequest} {found : Option ExecutorMutationLedger}
    (hop : r.operation = .stage) : (executorStageRequest E r.plan found).issues fun o => ¬ o.begins := by
  refine Prog.issues_iff.2 (Prog.only_mono (Prog.issues_iff.1 (executorStageRequest_writes hop)) ?_ fun _ h => h)
  rintro o ho ⟨l, rfl, hstate⟩
  cases (ho l rfl).2 with
  | fresh stage => cases hstate
  | moved l₀ state result hl hreq => exact (requestFailure_none hreq).2.2.2.1 hop

theorem handle_once {r : SoftwareRequest} : (handle E r).once HostOp.begins := by
  have hreads : ∀ o : HostOp, (∀ l, o ≠ .writeLedger l) → ¬ o.begins := by
    rintro o ho ⟨l, hl, -⟩
    exact ho l hl
  unfold handle
  split
  · exact Prog.issues_once Prog.issues_pure
  refine Prog.once_seq_right (Prog.issues_op (hreads _ (by simp))) fun code => ?_
  cases code with
  | some code => exact Prog.issues_once Prog.issues_pure
  | none =>
    have hload : (loadExecutorMutationLedger E).issues fun o => ¬ o.begins := by
      refine Prog.issues_seq (Prog.issues_op (hreads _ (by simp))) fun found => ?_
      rcases found with _ | _ | l <;> exact Prog.issues_pure
    refine Prog.once_seq_right hload fun found => ?_
    cases found with
    | error e => exact Prog.issues_once Prog.issues_pure
    | ok found =>
      dsimp only
      unfold dispatch
      by_cases hop : r.operation = .stage
      · rw [if_pos hop]
        exact Prog.issues_once (executorStageRequest_not_begins hop)
      · rw [if_neg hop]
        exact executorMutationRequest_once

/-! ## One request -/

section Opening

variable {r : SoftwareRequest} {s : Host} {jobID : String} {found : Option ExecutorMutationLedger}

/-- the step opens the gate of an apply of the job -/
def opensApply (jobID : String) (x : Step Host HostRes) : Prop := savesMutating .apply jobID x.op x.res

/-- the job is past its stage -/
def PastStaged (jobID : String) (s : Host) : Prop := ∃ l, s.ledger = some l ∧ l.jobID = jobID ∧ l.state ≠ .staged

/-- a step that opens the gate leaves the record behind that it saves -/
theorem opensApply_post {x : Step Host HostRes} (hx : ∃ s o c, x = stepOf (hostNext E) s o c) (h : opensApply jobID x) :
    ∃ l, x.op = .writeLedger l ∧ l.operation = .apply ∧ l.jobID = jobID ∧ l.state = .mutating ∧ x.post.ledger = some l := by
  obtain ⟨s, o, c, rfl⟩ := hx
  cases o with
  | writeLedger l =>
    obtain ⟨hstate, hop, hjob, hok⟩ := h
    refine ⟨l, rfl, hop, hjob, hstate, ?_⟩
    cases c with
    | ok => rfl
    | _ => cases hok
  | _ => exact h.elim

/-- A write that begins an apply comes from the staged record of the job. -/
theorem Written.of_apply {l' : ExecutorMutationLedger} (h : Written E r found l') (hop : l'.operation = .apply) :
    r.operation = .apply ∧ ∃ l, found = some l ∧ l.jobID = l'.jobID ∧ l.state = .staged := by
  cases h with
  | fresh stage => cases hop
  | moved l state result hl hreq hopen hstate happly => exact ⟨hop, l, hl, rfl, happly hop⟩

/-- What an apply writes is past the stage. -/
theorem Written.pastStaged {l' : ExecutorMutationLedger} (h : Written E r (some l) l') (hop : r.operation ≠ .stage) :
    l'.jobID = l.jobID ∧ l'.state ≠ .staged := by
  cases h with
  | fresh stage hop' => exact absurd hop' hop
  | moved l₀ state result hl hreq hopen hstate =>
    cases hl
    exact ⟨rfl, hstate⟩

/-- **One request.** An apply whose gate opens found the staged record of its job and leaves the job past its stage. -/
theorem opened_pastStaged {cs : List Choice} (hopen : ∃ x ∈ ((handle E r).exec (hostNext E) s cs).steps, opensApply jobID x) :
    (∃ l, s.ledger = some l ∧ l.jobID = jobID ∧ l.state = .staged) ∧
      PastStaged jobID ((handle E r).exec (hostNext E) s cs).st := by
  obtain ⟨x, hx, hopens⟩ := hopen
  have hstepOf := (handle E r).exec_stepOf (hostNext E) s cs
  obtain ⟨l', hw, hop', hjob', hstate', hpost⟩ := opensApply_post (hstepOf x hx) hopens
  have hwrites := (handle_follows (E := E) (r := r) s cs).2
  obtain ⟨hop, l, hl, hjob, hstaged⟩ := (hwrites x hx l' hw).2.of_apply hop'
  rw [hl] at hwrites
  refine ⟨⟨l, hl, hjob.trans hjob', hstaged⟩, ?_⟩
  -- from that step on every write of the request is past the stage
  obtain ⟨before, after_, hsplit⟩ := List.append_of_mem hx
  have hlinked := (handle E r).exec_linked (hostNext E) s cs
  rw [hsplit, linked_append, after_append] at hlinked
  obtain ⟨⟨-, -, hafter⟩, hst⟩ := hlinked
  have hkeep := Linked.until (I := PastStaged jobID) (D := fun _ => False) hafter ?_ ⟨l', hpost, hjob', by rw [hstate']; simp⟩
  · rw [← hst]
    exact hkeep.resolve_left fun ⟨_, _, h⟩ => h
  · intro y hy hpre
    have hy' : y ∈ ((handle E r).exec (hostNext E) s cs).steps := by
      rw [hsplit]
      exact List.mem_append_right _ (List.mem_cons_of_mem _ hy)
    obtain ⟨t, o, c, rfl⟩ := hstepOf y hy'
    refine .inr ?_
    rcases hostNext_ledger (E := E) (s := t) (o := o) (c := c) with h | ⟨l'', hw'', h⟩
    · simpa only [PastStaged, stepOf, h] using hpre
    · obtain ⟨hj, hs⟩ := (hwrites _ hy' l'' hw'').2.pastStaged (by rw [hop]; simp)
      exact ⟨l'', h, hj.trans (hjob.trans hjob'), hs⟩

/-- A request that finds the job past its stage and leaves no other job's record keeps it there. -/
theorem pastStaged_kept (cs : List Choice) (hs : PastStaged jobID s)
    (hjob : ∀ l, ((handle E r).exec (hostNext E) s cs).st.ledger = some l → l.jobID = jobID) :
    PastStaged jobID ((handle E r).exec (hostNext E) s cs).st := by
  obtain ⟨l, hl, hlj, hstate⟩ := hs
  rcases (handle_follows (E := E) (r := r) s cs).1 with h | ⟨l', h, -, hw⟩
  · exact ⟨l, h.trans hl, hlj, hstate⟩
  · rw [hl] at hw
    refine ⟨l', h, hjob l' h, ?_⟩
    cases hw with
    | fresh stage hop hfree => exact absurd ((hjob _ h).trans hlj.symm) (Ne.symm (hfree l rfl).2)
    | moved l₀ state result hl' hreq hopen hs' => exact hs'

end Opening

/-! ## Runs -/

/-- **Gated and at most once.** In every run, a step of an apply that changes the target comes, in the same request, after
the load of the staged record of exactly its plan, after the grant, and after the save that the mutation begins. And as
long as no request leaves the record of another job, the gate of the job's apply opens at most once. -/
theorem apply_gated_and_once (s : Host) (reqs : List (SoftwareRequest × List Choice)) :
    (∀ e ∈ served E s reqs, e.req.operation = .apply → ∀ before x after, e.run.steps = before ++ x :: after →
      x.op.changesTarget = true →
        (∃ y ∈ before, loadsStaged e.req.plan y.op y.res) ∧ (∃ y ∈ before, consumesGrant e.req.plan y.op y.res) ∧
          ∃ y ∈ before, savesMutating .apply e.req.plan.jobID y.op y.res) ∧
      ∀ jobID, (∀ e ∈ served E s reqs, ∀ l, e.run.st.ledger = some l → l.jobID = jobID) →
        (trace (served E s reqs)).Pairwise fun x y => opensApply jobID x → ¬ opensApply jobID y := by
  constructor
  · intro e he hop before x after_ hsteps hx
    have hentry := (serve_forall (I := fun _ => True) (A := fun _ => True)
      (P := fun e => ∃ t cs, e.run = (handle E e.req).exec (hostNext E) t cs)
      (fun r t cs _ _ => ⟨⟨t, cs, rfl⟩, trivial⟩) trivial reqs fun _ _ => trivial).1 e he
    obtain ⟨t, cs, hrun⟩ := hentry
    obtain ⟨⟨operation, plan⟩, pre, run⟩ := e
    dsimp only at hop hrun hsteps
    subst hop hrun
    exact ⟨Prog.waits_exec handle_waits_load hx hsteps, Prog.waits_exec handle_waits_grant hx hsteps,
      Prog.waits_exec handle_waits_mutating hx hsteps⟩
  · intro jobID hsame
    have hbegins : ∀ x, opensApply jobID x → x.op.begins := by
      rintro ⟨pre, o, res, post⟩ h
      cases o with
      | writeLedger l => exact ⟨l, rfl, h.1⟩
      | _ => exact h.elim
    have hmarked := serve_marked (I := fun _ => True) (K := PastStaged jobID)
      (A := fun e => ∀ l, e.run.st.ledger = some l → l.jobID = jobID)
      (H := fun e => ∃ x ∈ e.run.steps, opensApply jobID x) (R := fun e => ∀ x ∈ e.run.steps, ¬ opensApply jobID x)
      (fun _ _ _ _ _ => trivial) ?_ ?_ (s := s) trivial reqs hsame
    · refine List.pairwise_flatMap.2 ⟨fun e he => ?_, hmarked.1.imp fun h x hx y hy hopen => h ⟨x, hx, hopen⟩ y hy⟩
      have hentry := (serve_forall (I := fun _ => True) (A := fun _ => True)
        (P := fun e => e.run.steps.Pairwise fun x y => x.op.begins → ¬ y.op.begins)
        (fun r t cs _ _ => ⟨Prog.once_exec handle_once t cs, trivial⟩) trivial reqs fun _ _ => trivial).1 e he
      exact hentry.imp fun h hx hy => h (hbegins _ hx) (hbegins _ hy)
    · intro r t cs _ _ hopen
      rw [settle_id]
      exact (opened_pastStaged hopen).2
    · intro r t cs _ hjob hpast
      refine ⟨fun x hx hopen => ?_, ?_⟩
      · -- the record of the job is not a staged one
        obtain ⟨l, hl, -, hstaged⟩ := (opened_pastStaged ⟨x, hx, hopen⟩).1
        obtain ⟨l', hl', -, hpast⟩ := hpast
        rw [Option.some.inj (hl.symm.trans hl')] at hstaged
        exact hpast hstaged
      · rw [settle_id]
        exact pastStaged_kept cs hpast hjob

/-! ## A job that is staged twice -/

/-- the sample target, with a foreign release in every other directory: an apply opens its gate and installs nothing -/
def blockedHost : Host :=
  { sampleHost with
    releases := fun p => some (if p = oldRelease.dir then ⟨oldRelease.digest, oldRelease.version, true, true⟩
      else ⟨digestOf 'e', "v0.9.0", true, true⟩) }

/-- the same target, beside a checkpoint -/
abbrev blockedBeside (k : Option UpdateCheckpoint) : Host := { blockedHost with checkpoint := k }

section Blocked

variable {u : Host} {k : Option UpdateCheckpoint} (hk : k.all (fun c => c.loadable sampleEnv.target && c.over) = true)
  {jobID : String} (hjob : jobID = "job-1" ∨ jobID = "job-2")

theorem blocked_healthy (hu : u.Same (blockedBeside k)) : u.healthy sampleEnv = some oldRelease := by
  have hrel : blockedHost.releases oldRelease.dir = some ⟨oldRelease.digest, oldRelease.version, true, true⟩ := by
    simp [blockedHost]
  exact oldRelease_healthy (by rw [hu]; rfl) (by rw [hu]; rfl) (by rw [hu]; rfl) (by rw [hu]; exact hrel)

theorem blocked_baseline (hu : u.Same (blockedBeside k)) :
    u.keepsBaseline sampleEnv sampleAnswers (sampleStage jobID) = true := by
  obtain ⟨hcurrent, hserves⟩ := Option.filter_eq_some_iff.1 (blocked_healthy hu)
  have hversion : versionPattern "v1.1.0" = true ∧ trimSpace "v1.0.0" = "v1.0.0" := by decide
  have hanswer : u.answer = some "v1.0.0" := by rw [hu]; rfl
  have hexpected : (samplePlan jobID 1).expectedVersion = "v1.1.0" := rfl
  have hold : oldRelease.version = "v1.0.0" := rfl
  simp only [Host.serves, Bool.and_eq_true] at hserves
  simp [Host.keepsBaseline, hcurrent, stagedFrom, isStagedPrevious, hexpected, hversion, sample_smoke, hserves, hanswer,
    hold]

include hk in
theorem blocked_preflight (hu : u.Same (blockedBeside k)) {G : Step Host HostRes → Prop} (hG : Quiet sampleEnv G) :
    passes sampleEnv sampleAnswers G
      (systemdPreflight sampleEnv (applyPlan (samplePlan jobID 1) (sampleStage jobID)) (sampleStage jobID)) (fun _ _ => False)
      (fun c v => c = k ∧ v = u) u := by
  have hcheckpoint : u.checkpoint = k := by rw [hu]
  refine passes_systemdPreflight hG ?_ sample_requires (blocked_baseline hu) (by rw [hcheckpoint]; exact hk)
    ⟨hcheckpoint, rfl⟩
  have hdigest : (applyPlan (samplePlan jobID 1) (sampleStage jobID)).artifactDigest = digestOf 'd' :=
    bareDigest_hash (digestOf_hash (by decide))
  rw [hdigest]
  simp [applyPlan, digestOf]

/-- the record of the sample job whose gate opened in vain -/
abbrev blockedLedger (jobID : String) : ExecutorMutationLedger :=
  (sampleStaged jobID).rebound (samplePlan jobID 1) .apply .ambiguous none

/-- nothing of the sample's version can be installed there -/
theorem blocked_install (hu : u.Same (blockedBeside k)) {source dest : Path} {digest : String} :
    hostNext sampleEnv u (.installRelease source dest digest "v1.1.0") .ok = (false, u) := by
  have hversion : (trimSpace "v1.0.0" == "v1.1.0") = false ∧ (trimSpace "v0.9.0" == "v1.1.0") = false := by decide
  have hdest : u.releases dest = blockedHost.releases dest := by rw [hu]
  by_cases h : dest = oldRelease.dir
  · have hrel : blockedHost.releases dest = some ⟨oldRelease.digest, "v1.0.0", true, true⟩ := by
      simp [blockedHost, h, oldRelease]
    simp only [hostNext, install, hdest, hrel, hversion, Bool.and_false]
  · have hrel : blockedHost.releases dest = some ⟨digestOf 'e', "v0.9.0", true, true⟩ := by simp [blockedHost, h]
    simp only [hostNext, install, hdest, hrel, hversion, Bool.and_false]

/-- the step writes no checkpoint -/
abbrev keepsClear (x : Step Host HostRes) : Prop := ∀ c, x.op ≠ .writeCheckpoint c

theorem keepsClear_lenient : Lenient E keepsClear := by
  intro s o c ho cp hcp
  have hcp : o = .writeCheckpoint cp := hcp
  subst hcp
  cases ho

include hk in
theorem blocked_mutation (hu : u.Same (blockedBeside k)) {F : String → Host → Prop} {Q : ApplyResult → Host → Prop}
    (h : ∀ e, F e { u with checkpoint := none }) :
    passes sampleEnv sampleAnswers keepsClear
      (systemdMutation sampleEnv (applyPlan (samplePlan jobID 1) (sampleStage jobID)) (sampleStage jobID) k) F Q u := by
  have hG := (keepsClear_lenient (E := sampleEnv)).quiet
  have hk' : u.checkpoint = k := by rw [hu]
  have hload : k.all (fun c => c.loadable sampleEnv.target) = true := by
    cases k with
    | none => rfl
    | some c =>
      simp only [Option.all_some, Bool.and_eq_true] at hk
      exact hk.1
  have hcheckpoint : (u.checkpoint.all (·.loadable sampleEnv.target) && u.checkpoint == k) = true := by
    rw [hk', hload, beq_self_eq_true, Bool.and_self]
  have hversion : (applyPlan (samplePlan jobID 1) (sampleStage jobID)).targetVersion = "v1.1.0" := rfl
  unfold systemdMutation
  refine (decides_requireCheckpoint hG).bind (fun _ => ?_) fun hf => by rw [hcheckpoint] at hf; cases hf
  refine (decides_requireBaseline hG).bind (fun _ => ?_) fun hf => by rw [blocked_baseline hu] at hf; cases hf
  refine (decides_requireCheckpoint hG).bind (fun _ => ?_) fun hf => by rw [hcheckpoint] at hf; cases hf
  have hclear : passes sampleEnv sampleAnswers keepsClear (onlyIf k.isSome clearCheckpoint) (fun _ _ => False)
      (fun _ v => v = { u with checkpoint := none }) u := by
    refine under_onlyIf (fun _ => ?_) fun hnone => ?_
    · exact under_orFail.2 (goes_issue (by simp [keepsClear, stepOf]) ⟨fun _ => rfl, fun hf => by cases hf⟩)
    · have hgone : u.checkpoint = none := hk'.trans (by simpa using hnone)
      exact congrArg (fun c => ({ u with checkpoint := c } : Host)) hgone
  refine under_bind.2 (under_mono hclear (fun _ _ hf => hf.elim) ?_)
  rintro _ v rfl
  refine under_bind.2 (under_orFail.2 (goes_issue (by simp [keepsClear, stepOf]) ?_))
  have hu' : ({ u with checkpoint := none } : Host).Same (blockedBeside none) := by
    rw [hu]
    rfl
  rw [show sampleAnswers.to { u with checkpoint := none } _ = Choice.ok from rfl, hversion, blocked_install hu']
  exact ⟨fun hf => (by cases hf), fun _ => h _⟩

include hk hjob in
theorem blocked_apply (hu : u.Same (blockedBeside k)) (hl : u.ledger = some (sampleStaged jobID)) :
    goes sampleEnv sampleAnswers keepsClear (handle sampleEnv ⟨.apply, samplePlan jobID 1⟩)
        (fun _ t => t.Same blockedHost ∧ t.ledger = some (blockedLedger jobID)) u ∧
      meets sampleEnv sampleAnswers (opensApply jobID) (handle sampleEnv ⟨.apply, samplePlan jobID 1⟩) u := by
  have hG := keepsClear_lenient (E := sampleEnv)
  have hvalid := sampleStaged_validate hjob
  have hplan : (samplePlan jobID 1).validate sampleEnv.payloadSHA256 = true := samplePlan_validate hjob (by simp)
  have hfits : (⟨.apply, samplePlan jobID 1⟩ : SoftwareRequest).fits sampleEnv = true := sample_fits hjob (by simp)
  have hreq : remoteLedgerRequestFailure (sampleStaged jobID) (samplePlan jobID 1) .apply = none := by
    simp [remoteLedgerRequestFailure, sampleStaged, stagedLedger, RemoteMutationIntent.matches]
  have hstage : (sampleStaged jobID).stage = some (sampleStage jobID) := rfl
  have hall : u.ledger.all (·.validate sampleEnv.target.targetID) = true := by rw [hl, Option.all_some]; exact hvalid
  constructor
  · refine goes_handle hG hfits hall ?_
    rw [hl]
    refine goes_mutate hG hreq (by simp [stagedLedger]) hstage sampleStaged_bound ⟨fun _ => rfl, fun _ => rfl⟩ ?_
    refine goes_runMutation ?_
    unfold mutation
    rw [if_pos rfl]
    unfold applyStaged
    dsimp only
    rw [if_pos (by decide)]
    refine under_bind.2 (under_atGate (under_mono (blocked_preflight hk hu hG.quiet) (fun _ _ h => h.elim) ?_))
    rintro c v ⟨rfl, rfl⟩
    refine under_bind.2 (passes_gate hG (fun _ hs ht => gate_validate hvalid hplan hstage hs ht) fun w hw _ => ?_)
    refine under_atGate (blocked_mutation hk (hw.trans hu) fun e => ?_)
    refine goes_markAmbiguous hG (gate_validate hvalid hplan hstage (by simp) (by simp)) ⟨?_, rfl⟩
    rw [hw.trans hu]
    rfl
  · refine meets_handle hfits hall ?_
    rw [hl]
    refine meets_mutate hreq (by simp [stagedLedger]) hstage sampleStaged_bound ⟨fun _ => rfl, fun _ => rfl⟩ ?_
    unfold mutation
    rw [if_pos rfl]
    refine meets_applyStaged rfl hvalid hplan hstage ?_ fun v => ⟨rfl, rfl, rfl, rfl⟩
    exact under_mono (blocked_preflight hk hu fun _ _ _ _ => trivial) (fun _ _ h => h) fun _ _ h => h.2

theorem blocked_reconcile (hu : u.Same blockedHost) (hl : u.ledger = some (blockedLedger "job-1")) :
    goes sampleEnv sampleAnswers (fun _ => True) (handle sampleEnv ⟨.reconcile, samplePlan "job-1" 1⟩)
      (fun _ t => t.Same blockedHost ∧ ∃ l, t.ledger = some l ∧ l.validate "svc-1" = true ∧ l.state = .terminal ∧
        l.jobID = "job-1") u := by
  have hG : Lenient sampleEnv fun _ => True := fun _ _ _ _ => trivial
  have hplan : (samplePlan "job-1" 1).validate sampleEnv.payloadSHA256 = true := samplePlan_validate (.inl rfl) (by simp)
  have hvalid : (blockedLedger "job-1").validate "svc-1" = true :=
    gate_validate (sampleStaged_validate (.inl rfl)) hplan
      (rfl : (sampleStaged "job-1").stage = some (sampleStage "job-1")) (by simp) (by simp)
  have hstage : (blockedLedger "job-1").stage = some (sampleStage "job-1") := rfl
  have hreq : remoteLedgerRequestFailure (blockedLedger "job-1") (samplePlan "job-1" 1) .reconcile = none := by
    simp [remoteLedgerRequestFailure, stagedLedger, RemoteMutationIntent.matches]
  have hversion : versionsEqual "v1.0.0" "v1.1.0" = false ∧ versionPattern "v1.0.0" = true ∧
      trimSpace "v1.0.0" = "v1.0.0" := by decide
  refine goes_handle hG (sample_fits (.inl rfl) (by simp)) (by rw [hl, Option.all_some]; exact hvalid) ?_
  rw [hl]
  refine goes_reconcile_untouched hG rfl hplan hvalid hreq rfl hstage sampleStaged_bound ?_
    (blocked_healthy (k := none) hu) ?_ ?_ (resultArtifactDigest_ne hplan) fun v hv hvl => ?_
  · rw [hu]
    rfl
  · simp [runsRequested, applyPlan, samplePlan, oldRelease, hversion]
  · simp [runsPlanned, applyPlan, samplePlan, oldRelease, hversion.2.1, hversion.2.2]
  · refine ⟨hv.trans hu, _, hvl, ?_, rfl, rfl⟩
    exact rebound_validate hvalid hplan (terminal_stateValid hstage rfl)

include hjob in
theorem blocked_staged (hu : u.Same blockedHost) (hvalid : u.ledger.all (·.validate "svc-1") = true)
    (hfree : freeFor jobID u.ledger = true) :
    goes sampleEnv sampleAnswers (fun _ => True) (handle sampleEnv ⟨.stage, samplePlan jobID 1⟩)
      (fun _ t => t.Same blockedHost ∧ t.ledger = some (sampleStaged jobID)) u := by
  have hcomplete : (u.releases oldRelease.dir).any Release.complete = true := by
    rw [hu]
    simp [blockedHost]
  refine Prog.under_mono (sample_staged hjob (blocked_healthy (k := none) hu) hcomplete hvalid hfree) ?_
  rintro _ t rfl
  exact ⟨setLedger_same.trans hu, rfl⟩

end Blocked

/-- requests of one job leave no other job's record -/
theorem jobs_kept {jobID : String} {s : Host} (hs : ∀ l, s.ledger = some l → l.jobID = jobID)
    {reqs : List (SoftwareRequest × List Choice)} (hreqs : ∀ e ∈ served E s reqs, e.req.plan.jobID = jobID) :
    ∀ e ∈ served E s reqs, ∀ l, e.run.st.ledger = some l → l.jobID = jobID := by
  refine (serve_forall (I := fun s : Host => ∀ l, s.ledger = some l → l.jobID = jobID) (fun r s cs hs hr => ?_) hs reqs
    hreqs).1
  suffices h : ∀ l, ((handle E r).exec (hostNext E) s cs).st.ledger = some l → l.jobID = jobID from
    ⟨h, by rwa [settle_id]⟩
  intro l hl
  rcases (handle_follows (E := E) (r := r) s cs).1 with h | ⟨l', h, -, hw⟩
  · exact hs l (h.symm.trans hl)
  · obtain rfl : l' = l := Option.some.inj (h.symm.trans hl)
    cases hw with
    | fresh stage => exact hr
    | moved l₀ state result hl₀ => exact hs l₀ hl₀

/-- a job that is staged, applied in vain and applied once more opens its gate once -/
theorem blocked_gate_opens_once :
    ∃ reqs, (∃ x ∈ trace (served sampleEnv blockedHost reqs), opensApply "job-1" x) ∧
      (trace (served sampleEnv blockedHost reqs)).Pairwise fun x y => opensApply "job-1" x → ¬ opensApply "job-1" y := by
  refine ⟨favourableRun sampleEnv sampleAnswers blockedHost
    [⟨.stage, samplePlan "job-1" 1⟩, ⟨.apply, samplePlan "job-1" 1⟩, ⟨.apply, samplePlan "job-1" 1⟩], ?_,
    (apply_gated_and_once _ _).2 "job-1" (jobs_kept (fun l hl => by cases hl) ?_)⟩
  · obtain ⟨e1, u1, h1, ⟨hu1, hl1⟩, -⟩ := served_favourableRun
      (blocked_staged (.inl rfl) (rfl : blockedHost.Same blockedHost) rfl rfl) _
    obtain ⟨e2, u2, h2, -, hX2⟩ := served_favourableRun (blocked_apply (k := none) rfl (.inl rfl) hu1 hl1).1 _
    obtain ⟨x, hx, hopen⟩ := hX2 _ (blocked_apply (k := none) rfl (.inl rfl) hu1 hl1).2
    rw [h1, h2]
    exact ⟨x, by simp [trace, hx], hopen⟩
  · simp [favourableRun, served, serve, samplePlan]

/-- **Staged twice.** A job whose apply was rolled back can be staged again behind another job, and its gate opens a second
time. -/
theorem apply_gate_opens_twice :
    ∃ reqs, ¬ (trace (served sampleEnv blockedHost reqs)).Pairwise fun x y => opensApply "job-1" x → ¬ opensApply "job-1" y := by
  refine ⟨favourableRun sampleEnv sampleAnswers blockedHost
    [⟨.stage, samplePlan "job-1" 1⟩, ⟨.apply, samplePlan "job-1" 1⟩, ⟨.reconcile, samplePlan "job-1" 1⟩,
      ⟨.stage, samplePlan "job-2" 1⟩, ⟨.reconcile, samplePlan "job-2" 1⟩, ⟨.stage, samplePlan "job-1" 1⟩,
      ⟨.apply, samplePlan "job-1" 1⟩], ?_⟩
  obtain ⟨e1, u1, h1, ⟨hu1, hl1⟩, -⟩ := served_favourableRun
    (blocked_staged (.inl rfl) (rfl : blockedHost.Same blockedHost) rfl rfl)
    [⟨.apply, samplePlan "job-1" 1⟩, ⟨.reconcile, samplePlan "job-1" 1⟩,
      ⟨.stage, samplePlan "job-2" 1⟩, ⟨.reconcile, samplePlan "job-2" 1⟩, ⟨.stage, samplePlan "job-1" 1⟩,
      ⟨.apply, samplePlan "job-1" 1⟩]
  obtain ⟨e2, u2, h2, ⟨hu2, hl2⟩, hX2⟩ := served_favourableRun (blocked_apply (k := none) rfl (.inl rfl) hu1 hl1).1
    [⟨.reconcile, samplePlan "job-1" 1⟩, ⟨.stage, samplePlan "job-2" 1⟩, ⟨.reconcile, samplePlan "job-2" 1⟩,
      ⟨.stage, samplePlan "job-1" 1⟩, ⟨.apply, samplePlan "job-1" 1⟩]
  obtain ⟨e3, u3, h3, ⟨hu3, l3, hl3, hvalid3, hstate3, hjob3⟩, -⟩ := served_favourableRun (blocked_reconcile hu2 hl2)
    [⟨.stage, samplePlan "job-2" 1⟩, ⟨.reconcile, samplePlan "job-2" 1⟩, ⟨.stage, samplePlan "job-1" 1⟩,
      ⟨.apply, samplePlan "job-1" 1⟩]
  obtain ⟨e4, u4, h4, ⟨hu4, hl4⟩, -⟩ := served_favourableRun (blocked_staged (.inr rfl) hu3 (by rw [hl3]; exact hvalid3)
    (by rw [hl3, freeFor, Option.all_some, hstate3, hjob3]; decide))
    [⟨.reconcile, samplePlan "job-2" 1⟩, ⟨.stage, samplePlan "job-1" 1⟩, ⟨.apply, samplePlan "job-1" 1⟩]
  obtain ⟨e5, u5, h5, rfl, -⟩ := served_favourableRun (sample_abandoned (.inr rfl) one_ne_zero hl4)
    [⟨.stage, samplePlan "job-1" 1⟩, ⟨.apply, samplePlan "job-1" 1⟩]
  have hvalid5 : ((sampleStaged "job-2").rebound (samplePlan "job-2" 1) .reconcile .terminal
      (some (abandonedResult (samplePlan "job-2" 1)))).validate "svc-1" = true :=
    rebound_validate (sampleStaged_validate (.inr rfl)) (samplePlan_validate (.inr rfl) one_ne_zero)
      (terminal_stateValid (rfl : (sampleStaged "job-2").stage = some (sampleStage "job-2")) rfl)
  obtain ⟨e6, u6, h6, ⟨hu6, hl6⟩, -⟩ := served_favourableRun (blocked_staged (.inl rfl) (setLedger_same.trans hu4)
    (Option.all_some.trans hvalid5) rfl) [⟨.apply, samplePlan "job-1" 1⟩]
  obtain ⟨e7, u7, h7, -, hX7⟩ := served_favourableRun (blocked_apply (k := none) rfl (.inl rfl) hu6 hl6).1 []
  rw [h1, h2, h3, h4, h5, h6, h7, trace, List.pairwise_flatMap]
  rintro ⟨-, hpairs⟩
  obtain ⟨x, hx, hxo⟩ := hX2 _ (blocked_apply (k := none) rfl (.inl rfl) hu1 hl1).2
  obtain ⟨y, hy, hyo⟩ := hX7 _ (blocked_apply (k := none) rfl (.inl rfl) hu6 hl6).2
  simp only [List.pairwise_cons, List.mem_cons] at hpairs
  exact hpairs.2.1 e7 (by simp) x hx y hy hxo hyo

end AutostreamUpdater.Software
