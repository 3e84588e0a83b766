/-
The policy file along whole runs, behind the host lane.

The two deployment modes keep their records apart, and one policy file serves both. Before a request reaches its handler,
`portV2HostLaneAllows` walks the targets of the policy, each in the store of its mode, and refuses the request while
another job holds the lane, that is while a target's active pointer names an unfinished version 2 ledger of another job.
`Stage` writes the ledger first and the pointer second. A crash between the two leaves an unfinished ledger that its job
can continue but that does not hold the lane.

  * `policy_within_transaction`: as long as every request on another job, of either mode, that arrives during a transaction
    finds the pointer in place, disk and memory hold one of the transaction's three payloads at every point of every run;
    together with what `Write`, `Reload`, `Replace` and `Verify` promise of single calls.
  * `unfenced_transaction_loses_policy`: the run without it, in which a second job moves the policy on.
-/
import AutostreamUpdater.Base.Parts
import AutostreamUpdater.Port.Accepted

namespace AutostreamUpdater.Port

open Contract Base Prog

/-! ## The host -/

section Host

/-- the mode a target names -/
def Deployment.ofText (mode : String) : Option Deployment :=
  if mode == modeSystemd then some .systemd else if mode == modeDocker then some .docker else none

/-- the mode's store -/
def Deployment.store (E : PortEnv) : (m : Deployment) → PortMode m.Baseline m.Applied
  | .systemd => systemdMode E
  | .docker => dockerMode E

/-- the worlds of the two modes over one policy file -/
@[ext]
structure HostWorld where
  part : (m : Deployment) → DeploymentWorld m
  shared : ∀ m k, (part m).policyDisk = (part k).policyDisk ∧ (part m).policyMemory = (part k).policyMemory

/-- one mode moves on, and the other finds the policy it leaves -/
def HostWorld.put (s : HostWorld) (m : Deployment) (w : DeploymentWorld m) : HostWorld where
  part := Function.update
    (fun k => { s.part k with policyDisk := w.policyDisk, policyMemory := w.policyMemory }) m w
  shared := by
    intro k l
    cases m <;> cases k <;> cases l <;> exact ⟨rfl, rfl⟩

/-- the restarted executor loads the policy file it finds -/
def HostWorld.restart (s : HostWorld) : HostWorld where
  part := fun m => (s.part m).restart
  shared := fun m k => ⟨(s.shared m k).1, (s.shared m k).1⟩

abbrev HostOp := Σ m : Deployment, PortOp m.Baseline m.Applied

abbrev HostProg := Prog HostOp fun o => PortRes o.2

/-- a program of one mode on the host -/
abbrev onHost {α : Type} (m : Deployment) (p : PortProg m.Baseline m.Applied α) : HostProg α :=
  @inPart Deployment α (fun m => PortOp m.Baseline m.Applied) (fun _ => PortRes) m p

def hostNext (E : PortEnv) (s : HostWorld) (o : HostOp) (c : PortChoice) : PortRes o.2 × HostWorld :=
  ((portNext E (s.part o.1) o.2 c).1, s.put o.1 (portNext E (s.part o.1) o.2 c).2)

variable {E : PortEnv}

theorem HostWorld.put_self (s : HostWorld) (m : Deployment) : s.put m (s.part m) = s := by
  refine HostWorld.ext (funext fun k => ?_)
  obtain ⟨hdisk, hmemory⟩ := s.shared m k
  unfold put
  by_cases hk : k = m
  · subst hk
    simp
  · simp [Function.update_of_ne hk, hdisk, hmemory]

/-- each mode's records are its own -/
theorem host_parts : Parts (fun m s => HostWorld.part s m) (fun _ w => w.jobs) (fun _ => portNext E) (hostNext E) where
  res := fun _ _ _ _ => rfl
  here := fun _ _ _ _ => by simp [hostNext, HostWorld.put]
  there := fun i j s o c hj => by simp [hostNext, HostWorld.put, Function.update_of_ne hj]

theorem hostNext_reading {s : HostWorld} {o : HostOp} {c : PortChoice}
    (h : o.2.reading = true) : (hostNext E s o c).2 = s := by
  unfold hostNext
  rw [portNext_reading h]
  exact s.put_self o.1

/-- reading programs leave the host as it is -/
theorem reading_exec {α : Type} {p : HostProg α} {Q : α → Prop} (hp : p.Only (fun o => o.2.reading = true) Q)
    (s : HostWorld) (cs : List PortChoice) :
    (p.exec (hostNext E) s cs).st = s ∧ ∀ x ∈ (p.exec (hostNext E) s cs).steps, x.pre = s ∧ x.post = s := by
  have hwp : p.wp (hostNext E) (fun tr s' => s' = s ∧ ∀ x ∈ tr, x.pre = s ∧ x.post = s) _ [] s :=
    only_wp hp ?_ (fun _ _ h => h) ⟨rfl, by simp⟩
  · exact (wp_exec hwp cs).1
  rintro tr _ o c ho ⟨rfl, htr⟩
  simpa [stepOf, hostNext_reading ho, or_imp, forall_and] using htr

end Host

/-! ## The lane -/

section Lane

variable {β A : Type}

/-- the active ledger is an unfinished one of version 2, and the request is not a port request of its job and intent -/
def laneTaken (l : PortLedger β) (request : LocalExecutorRequest) : Bool :=
  l.plan.portContractVersion == 2 && l.state != .terminal &&
    !(request.operation != .other && request.portPlan.any fun p =>
      p.jobID == l.plan.jobID && sameSystemdPortIntent l.plan p)

/-- the body of the loop of `portV2HostLaneAllows`, in the store of the target's mode -/
def targetFree (M : PortMode β A) (request : LocalExecutorRequest) (serviceID : String) : PortProg β A Bool := do
  match ← loadActive M serviceID with
  | .error _ => return false
  | .ok active => return !active.any fun l => laneTaken l request

/-- `portV2HostLaneAllows` -/
def portV2HostLaneAllows (E : PortEnv) (request : LocalExecutorRequest) : List LocalExecutorTarget → HostProg Bool
  | [] => return true
  | target :: rest =>
    match Deployment.ofText target.deploymentMode with
    | none => portV2HostLaneAllows E request rest
    | some m => do
      if ← onHost m (targetFree (m.store E) request target.serviceID) then portV2HostLaneAllows E request rest
      else return false

/-- the mode that handles the request: that of the target it names -/
def modeOf (q : PortRequest) : Option Deployment :=
  (q.1.target q.2.serviceID).bind fun target => Deployment.ofText target.deploymentMode

/-- a port request as `handleLocalExecutorMutation` handles it: the lane first, then the entry point of its mode -/
def handlePortV2Request (E : PortEnv) (q : PortRequest) : HostProg PortResponse := do
  if !(← portV2HostLaneAllows E q.2 q.1.targets) then return .failure .targetBusy
  if !E.policyValid q.1 then return .failure .policyInvalid
  if (q.1.target q.2.serviceID).isNone then return .failure .targetNotFound
  match modeOf q with
  | none => return .failure .configMismatch
  | some m => onHost m (executePortV2Request E m q)

abbrev HostEntry := Entry HostWorld (fun o : HostOp => PortRes o.2) PortResponse
  PortRequest

/-- runs behind the lane -/
def servePortLane (E : PortEnv) (s₀ : HostWorld) (reqs : List (PortRequest × List PortChoice)) : List HostEntry :=
  serve (hostNext E) HostWorld.restart (handlePortV2Request E) s₀ reqs

variable {E : PortEnv} {M : PortMode β A}

theorem targetFree_reading (m : Deployment) (request : LocalExecutorRequest) (serviceID : String) :
    (onHost m (targetFree (m.store E) request serviceID)).Only (fun o => o.2.reading = true) fun _ => True :=
  only_inPart (only_seq (loadActive_reading _ _) fun r _ => by cases r <;> trivial)

theorem lane_reading (request : LocalExecutorRequest) (targets : List LocalExecutorTarget) :
    (portV2HostLaneAllows E request targets).Only (fun o => o.2.reading = true) fun _ => True := by
  induction targets with
  | nil => trivial
  | cons target rest ih =>
    unfold portV2HostLaneAllows
    split
    · exact ih
    · exact only_seq (targetFree_reading _ _ _) fun ok _ => only_ite ih trivial

theorem anywhere_loads : Loads E (fun _ => False) (fun _ (_ : PortWorld β A) => True) M M :=
  Loads.alone fun _ _ _ _ _ _ => trivial

/-- a pointer to an unfinished ledger of another job takes the lane -/
theorem targetFree_refuses {s : PortWorld β A} {tid jid : String} {request : LocalExecutorRequest} {l : PortLedger β}
    (hact : s.active tid = some jid) (hl : s.jobs tid jid = some l)
    (hbusy : M.validateLedger l tid = true → l.plan.jobID = jid → laneTaken l request = true) :
    (targetFree M request tid).wp (portNext E) (fun _ _ => True) (fun ok _ _ => ok = false) [] s := by
  refine wp_seq (loadActive_loads anywhere_loads trivial tid).1 fun r tr1 s1 _ hr => ?_
  obtain ⟨rfl, -, hload⟩ := hr
  rcases r with _ | active
  · exact ⟨trivial, rfl⟩
  · obtain ⟨⟨-, hnone⟩ | ⟨a, rfl, hptr, ha⟩, hval⟩ := hload active rfl
    · simp [hact] at hnone
    obtain rfl : jid = a.plan.jobID := by simpa [hact] using hptr
    obtain rfl : l = a := by simpa [hl] using ha
    exact ⟨trivial, by simpa using hbusy (hval l rfl) rfl⟩

/-- **The lane is held.** While a target's pointer names an unfinished ledger, no other job's request passes. -/
theorem lane_refuses {s : HostWorld} {m : Deployment} {tid jid : String} {request : LocalExecutorRequest}
    {l : PortLedger m.Baseline} (hact : (s.part m).active tid = some jid) (hl : (s.part m).jobs tid jid = some l)
    (hbusy : (m.store E).validateLedger l tid = true → l.plan.jobID = jid → laneTaken l request = true)
    {targets : List LocalExecutorTarget}
    (hmem : ∃ target ∈ targets, target.serviceID = tid ∧ Deployment.ofText target.deploymentMode = some m)
    (cs : List PortChoice) : ((portV2HostLaneAllows E request targets).exec (hostNext E) s cs).out ≠ some true := by
  suffices hwp : ∀ tr, (portV2HostLaneAllows E request targets).wp (hostNext E) (fun _ _ => True)
      (fun ok _ _ => ok = false) tr s from
    fun hout => absurd ((wp_exec (hwp []) cs).2 true hout) (by decide)
  induction targets with
  | nil => simp at hmem
  | cons target rest ih =>
    intro tr
    obtain ⟨found, hfound, hid, hmode⟩ := hmem
    unfold portV2HostLaneAllows
    rcases List.mem_cons.1 hfound with rfl | hfound
    · rw [hmode, hid]
      refine wp_seq (host_parts.wp (targetFree_refuses hact hl hbusy)) fun ok _ _ _ hok => ?_
      exact wp_ite (fun h => absurd (hok.symm.trans h) (by decide)) fun _ => ⟨trivial, rfl⟩
    · have hrest := ih ⟨found, hfound, hid, hmode⟩
      split
      · exact hrest tr
      · refine wp_seq (only_wp (I := fun _ s' => s' = s) (targetFree_reading _ _ _) ?_ (fun _ _ _ => trivial)
          rfl) ?_
        · rintro _ _ o c ho rfl
          exact hostNext_reading ho
        · rintro ok tr1 _ - ⟨rfl, -⟩
          exact wp_ite (fun _ => hrest tr1) fun _ => ⟨trivial, rfl⟩

end Lane

/-! ## Requests behind the lane -/

section Handle

variable {E : PortEnv} {m : Deployment} {tid jid : String} {q : PortRequest} {s : HostWorld}

/-- behind the lane a request fails or goes to the entry point of its mode -/
theorem handle_eq (q : PortRequest) : ∃ rest, handlePortV2Request E q = portV2HostLaneAllows E q.2 q.1.targets >>= rest ∧
    ∀ ok, (∃ code, rest ok = pure (.failure code)) ∨
      ok = true ∧ ∃ k, modeOf q = some k ∧ rest ok = onHost k (executePortV2Request E k q) := by
  refine ⟨_, rfl, fun ok => ?_⟩
  cases ok with
  | false => exact .inl ⟨_, rfl⟩
  | true =>
    rw [if_neg (by decide)]
    split
    · exact .inl ⟨_, rfl⟩
    split
    · exact .inl ⟨_, rfl⟩
    split
    · exact .inl ⟨_, rfl⟩
    · next k hk => exact .inr ⟨rfl, k, hk, rfl⟩

/-- a handled request only reads, or it passes the lane and the entry point of its mode runs on the host it found -/
theorem handle_exec (q : PortRequest) (s : HostWorld) (cs : List PortChoice) :
    let e := (handlePortV2Request E q).exec (hostNext E) s cs
    (e.st = s ∧ ∀ x ∈ e.steps, x.pre = s ∧ x.post = s) ∨
    ∃ k cs', modeOf q = some k ∧ ((portV2HostLaneAllows E q.2 q.1.targets).exec (hostNext E) s cs).out = some true ∧
      e.st = ((onHost k (executePortV2Request E k q)).exec (hostNext E) s cs').st ∧
      ∀ x ∈ e.steps, x.pre = s ∧ x.post = s ∨ x ∈ ((onHost k (executePortV2Request E k q)).exec (hostNext E) s cs').steps := by
  intro e
  obtain ⟨rest, heq, hrest⟩ := handle_eq (E := E) q
  obtain ⟨hst, hreads⟩ := reading_exec (E := E) (lane_reading q.2 q.1.targets) s cs
  have he : e = _ := (congrArg (exec (hostNext E) · s cs) heq).trans (exec_bind ..)
  rw [he, hst]
  unfold Exec.andThen
  split
  · exact .inl ⟨hst, hreads⟩
  · next ok hout =>
    dsimp only
    obtain ⟨code, hfail⟩ | ⟨rfl, k, hk, hrun⟩ := hrest ok
    · rw [hfail]
      exact .inl ⟨rfl, by simpa [exec, pure] using hreads⟩
    · rw [hrun]
      refine .inr ⟨k, _, hk, hout, rfl, fun x hx => ?_⟩
      exact (List.mem_append.1 hx).imp (hreads x) id

/-- the job has an unfinished ledger of version 2 -/
def unfinishedJob {β A : Type} (tid jid : String) (s : PortWorld β A) : Bool :=
  (s.jobs tid jid).any fun l => l.plan.portContractVersion == 2 && l.state != .terminal

theorem within_of_finished {β A : Type} {s : PortWorld β A} (h : unfinishedJob tid jid s = false) :
    WithinTransaction E tid jid s := by
  intro l hl hv hst
  simp [unfinishedJob, hl, hv, hst] at h

/-- during the transaction the job's own requests go to its mode, and a request on another job finds the target's pointer
on the job and the target in the policy -/
def Fenced (m : Deployment) (tid jid : String) (x : HostEntry) : Prop :=
  unfinishedJob tid jid (x.pre.part m) = true →
    if onJob tid jid x.req then (modeOf x.req).all (· == m) = true
    else (x.pre.part m).active tid = some jid ∧
      ∃ target ∈ x.req.1.targets, target.serviceID = tid ∧ Deployment.ofText target.deploymentMode = some m

instance (m : Deployment) (tid jid : String) (x : HostEntry) : Decidable (Fenced m tid jid x) := by
  unfold Fenced
  infer_instance

theorem validateLedger_target {l : PortLedger m.Baseline} {t : String} (h : (m.store E).validateLedger l t = true) :
    l.plan.targetID = t := by
  cases m with
  | systemd =>
    simp only [Deployment.store, systemdMode, validateSystemdPortLedger, PortLedger.validatePortV2Shared] at h
    split at h <;> simp only [Bool.and_eq_true, beq_iff_eq] at h <;> tauto
  | docker =>
    simp only [Deployment.store, dockerMode, validateDockerPortLedger, PortLedger.validatePortV2Shared] at h
    split at h <;> simp only [Bool.and_eq_true, beq_iff_eq] at h <;> tauto

/-- a fenced request of another job does not get past the lane -/
theorem handle_refused {cs : List PortChoice}
    (hf : Fenced m tid jid (handled (hostNext E) (handlePortV2Request E) q s cs)) (hq : onJob tid jid q = false)
    (hun : unfinishedJob tid jid (s.part m) = true) :
    ((portV2HostLaneAllows E q.2 q.1.targets).exec (hostNext E) s cs).out ≠ some true := by
  have hf := hf hun
  rw [if_neg (by simp [hq])] at hf
  obtain ⟨l, hl, hopen⟩ := (Option.any_eq_true _ _).1 hun
  refine lane_refuses hf.1 hl (fun hval hjob => ?_) hf.2 cs
  unfold laneTaken
  rw [hopen, Bool.true_and]
  by_contra hpass
  simp only [Bool.not_eq_true', Bool.not_eq_false, Bool.and_eq_true] at hpass
  obtain ⟨p, hp, hsame⟩ := (Option.any_eq_true _ _).1 hpass.2
  simp only [Bool.and_eq_true, beq_iff_eq] at hsame
  have htarget := (sameSystemdPortIntent_job hsame.2).1
  rw [validateLedger_target hval] at htarget
  simp [onJob, hp, ← htarget, hsame.1, hjob] at hq

/-- every point of a request on the job stays within its transaction -/
theorem entry_within {s : DeploymentWorld m} (hq : onJob tid jid q = true) (hs : WithinTransaction E tid jid s)
    (cs : List PortChoice) : WithinTransaction E tid jid ((executePortV2Request E m q).exec (portNext E) s cs).st := by
  obtain ⟨plan, hplan, rfl, rfl⟩ := onJob_plan hq
  have hkept := (entry_kept (E := E) (s := s) hplan cs).1
  intro l hl hv hst
  rw [hkept.fixed l hl]
  exact hkept.allowed hs l hl hv hst

/-- **One handled request.** It stays within the transaction at its end. -/
theorem handle_within (q : PortRequest) (s : HostWorld) (cs : List PortChoice)
    (hs : WithinTransaction E tid jid (s.part m))
    (hf : Fenced m tid jid (handled (hostNext E) (handlePortV2Request E) q s cs)) :
    WithinTransaction E tid jid (((handlePortV2Request E q).exec (hostNext E) s cs).st.part m) := by
  obtain ⟨hst, -⟩ | ⟨k, cs', hk, hpass, hst, -⟩ := handle_exec (E := E) q s cs
  · rw [hst]
    exact hs
  rw [hst]
  obtain ⟨hhere, hthere, -⟩ := (host_parts (E := E)).exec (executePortV2Request E k q) s cs'
  cases hun : unfinishedJob tid jid (s.part m) with
  | true =>
    cases hq : onJob tid jid q with
    | true =>
      have hmode := hf hun
      rw [if_pos hq, hk] at hmode
      obtain rfl : k = m := by simpa using hmode
      rw [hhere]
      exact entry_within hq hs cs'
    | false => exact absurd hpass (handle_refused hf hq hun)
  | false =>
    by_cases hkm : m = k
    · subst hkm
      rw [hhere]
      cases hq : onJob tid jid q with
      | true => exact entry_within hq hs cs'
      | false =>
        refine within_of_finished ?_
        rw [unfinishedJob, entry_otherJob hq cs']
        exact hun
    · refine within_of_finished ?_
      rw [unfinishedJob, hthere m hkm]
      exact hun

theorem within_restart {β A : Type} {s : PortWorld β A} (h : WithinTransaction E tid jid s) :
    WithinTransaction E tid jid s.restart := by
  intro l hl hv hst
  have hin := h l hl hv hst
  exact ⟨hin.canonical, hin.disk, hin.disk⟩

/-- a step of a handled request, with the request cut right after it -/
theorem handled_cut {cs : List PortChoice} {st : Step HostWorld fun o : HostOp => PortRes o.2}
    (hst : st ∈ ((handlePortV2Request E q).exec (hostNext E) s cs).steps) :
    ∃ cs', ((handlePortV2Request E q).exec (hostNext E) s cs').st = st.post := by
  obtain ⟨before, rest, hsplit⟩ := List.append_of_mem hst
  exact ⟨_, (exec_cut (hostNext E) (p := handlePortV2Request E q) (s := s) hsplit).2⟩

/-- the disk moves between the payloads of the request's job, and memory follows it -/
theorem handle_policySteps {plan : SystemdPortReconfigurePlan} (hplan : q.2.portPlan = some plan) (hm : modeOf q = some m)
    (s : HostWorld) (cs : List PortChoice) : ∀ st ∈ ((handlePortV2Request E q).exec (hostNext E) s cs).steps,
      PolicyStep (candidatesFor E q.1 plan (s.part m)) (st.pre.part m) (st.post.part m) := by
  intro st hst
  have hread : st.pre = s ∧ st.post = s →
      PolicyStep (candidatesFor E q.1 plan (s.part m)) (st.pre.part m) (st.post.part m) := by
    rintro ⟨hpre, hpost⟩
    rw [hpre, hpost]
    exact ⟨.inl rfl, .inl rfl⟩
  obtain ⟨-, hreads⟩ | ⟨k, cs', hk, -, -, hsteps⟩ := handle_exec (E := E) q s cs
  · exact hread (hreads st hst)
  obtain rfl : m = k := by simpa [hm] using hk
  rcases hsteps st hst with hsame | hst
  · exact hread hsame
  · obtain ⟨y, hy, hpre, hpost⟩ := (host_parts.exec (executePortV2Request E m q) s cs').2.2 st hst
    rw [hpre, hpost]
    exact (entry_kept (E := E) (s := s.part m) hplan cs').1.steps y hy

/-- a request without a plan, or for no target of the policy, moves nothing -/
theorem handle_still (h : q.2.portPlan = none ∨ modeOf q = none) (s : HostWorld) (cs : List PortChoice) :
    ∀ st ∈ ((handlePortV2Request E q).exec (hostNext E) s cs).steps, st.pre = s ∧ st.post = s := by
  intro st hst
  obtain ⟨-, hreads⟩ | ⟨k, cs', hk, -, -, hsteps⟩ := handle_exec (E := E) q s cs
  · exact hreads st hst
  refine (hsteps st hst).resolve_right fun hst => ?_
  obtain hplan | hnone := h
  · cases k <;> simp [onHost, inPart, executePortV2Request, executeSystemdPortV2Request, executeDockerPortV2Request, hplan,
      Prog.exec, pure] at hst
  · simp [hnone] at hk

/-- memory follows the disk in every request -/
theorem handle_memory (q : PortRequest) (s : HostWorld) (cs : List PortChoice) :
    ∀ st ∈ ((handlePortV2Request E q).exec (hostNext E) s cs).steps,
      (st.post.part m).policyMemory = (st.pre.part m).policyMemory ∨
        (st.post.part m).policyMemory = (st.pre.part m).policyDisk := by
  intro st hst
  by_cases h : q.2.portPlan = none ∨ modeOf q = none
  · obtain ⟨hpre, hpost⟩ := handle_still h s cs st hst
    exact .inl (by rw [hpre, hpost])
  · simp only [not_or, ← ne_eq, Option.ne_none_iff_exists'] at h
    obtain ⟨⟨plan, hplan⟩, k, hk⟩ := h
    rw [(st.post.shared m k).2, (st.pre.shared m k).1, (st.pre.shared m k).2]
    exact (handle_policySteps hplan hk s cs st hst).memory

theorem handle_candidates {plan : SystemdPortReconfigurePlan} (hplan : q.2.portPlan = some plan) (hm : modeOf q = some m)
    (s : HostWorld) (cs : List PortChoice) (l : PortLedger m.Baseline)
    (hl : ledgerOf plan (((handlePortV2Request E q).exec (hostNext E) s cs).st.part m) = some l) :
    l.candidates = candidatesFor E q.1 plan (s.part m) := by
  obtain ⟨hst, -⟩ | ⟨k, cs', hk, -, hst, -⟩ := handle_exec (E := E) q s cs
  · rw [hst] at hl
    simp [candidatesFor, hl]
  obtain rfl : m = k := by simpa [hm] using hk
  rw [hst, (host_parts.exec (executePortV2Request E m q) s cs').1] at hl
  exact (entry_kept (E := E) (s := s.part m) hplan cs').1.fixed l hl

end Handle

/-! ## Single calls of the policy store -/

section Calls

variable {β A : Type} {E : PortEnv}

/-- `filePortPolicyStore.Replace` -/
def policyReplace (E : PortEnv) (allowed : PortPolicyCandidates) (next : Bytes) : PortProg β A Bool := do
  if !(← policyWrite E allowed next) then return false
  policyReload next

/-- `Write` refuses to overwrite a file that is none of the three payloads -/
theorem policyWrite_refuses (allowed : PortPolicyCandidates) (next : Bytes) (s : PortWorld β A) (cs : List PortChoice)
    (h : allowed.allows s.policyDisk = false) :
    ((policyWrite E allowed next).exec (portNext E) s cs).st = s ∧
      ((policyWrite E allowed next).exec (portNext E) s cs).out ≠ some true := by
  have hwp : (policyWrite E allowed next).wp (portNext E) (fun _ s' => s' = s) (fun ok _ _ => ok = false) [] s := by
    unfold policyWrite
    refine wp_op_bind rfl fun c => ?_
    rcases portNext_readPolicy (E := E) (s := s) (c := c) with hread | hread <;> rw [hread]
    · dsimp only
      rw [if_pos (by simp [h])]
      exact ⟨rfl, rfl⟩
    · exact ⟨rfl, rfl⟩
  have hexec := wp_exec hwp cs
  refine ⟨hexec.1, fun hout => ?_⟩
  exact absurd (hexec.2 true hout) (by decide)

/-- **Replace.** After a successful `Replace` disk and memory both hold the new bytes. -/
theorem policyReplace_done (allowed : PortPolicyCandidates) (next : Bytes) (s : PortWorld β A) (cs : List PortChoice)
    (h : ((policyReplace E allowed next).exec (portNext E) s cs).out = some true) :
    ((policyReplace E allowed next).exec (portNext E) s cs).st.policyDisk = next ∧
      ((policyReplace E allowed next).exec (portNext E) s cs).st.policyMemory = next := by
  have hwp : (policyReplace E allowed next : PortProg β A Bool).wp (portNext E) (fun _ _ => True)
      (fun ok _ s' => ok = true → s'.policyDisk = next ∧ s'.policyMemory = next) [] s := by
    unfold policyReplace
    refine wp_seq (Q := fun _ _ _ => True) (wp_post (only_wp (I := fun _ _ => True) (only_any _)
      (fun _ _ _ _ _ _ => trivial) (fun _ _ h => h) trivial) fun _ _ _ _ _ => trivial) fun ok tr1 s1 _ _ => ?_
    refine wp_ite (fun _ => ⟨trivial, by simp⟩) fun _ => ?_
    unfold policyReload
    refine wp_op_bind trivial fun c => ?_
    rcases portNext_readPolicy (E := E) (s := s1) (c := c) with hread | hread <;> rw [hread]
    · refine wp_ite (fun _ => ⟨trivial, by simp⟩) fun hdisk => ?_
      have hdisk : s1.policyDisk = next := by simpa using hdisk
      exact ⟨trivial, fun c' => ⟨trivial, fun _ => ⟨hdisk, rfl⟩⟩⟩
    · exact ⟨trivial, by simp⟩
  exact (wp_exec hwp cs).2 true h rfl

/-- `Verify` on a world where disk and memory agree succeeds exactly on their bytes, unless the read fails -/
theorem policyVerify_exact {s : PortWorld β A} {bytes : Bytes} (hd : s.policyDisk = bytes) (hm : s.policyMemory = bytes)
    (expected : Bytes) (c : PortChoice) :
    ((policyVerify expected : PortProg β A Bool).exec (portNext E) s [c]).out =
      some (decide (c = .ok ∧ expected = bytes)) := by
  subst hd
  by_cases hc : c = .ok
  · subst hc
    by_cases he : expected = s.policyDisk
    · subst he
      simp [policyVerify, Bind.bind, Prog.andThen, Prog.op, Prog.exec, portNext, hm, pure]
    · have he' : ¬ s.policyDisk = expected := fun h => he h.symm
      simp [policyVerify, Bind.bind, Prog.andThen, Prog.op, Prog.exec, portNext, he, he', pure]
  · simp [policyVerify, Bind.bind, Prog.andThen, Prog.op, Prog.exec, portNext, hc, pure]

end Calls

/-! ## Runs -/

/-- **The policy of a transaction.** In every run behind the lane, with requests of both modes, in which the job's own
requests that arrive during the transaction go to its mode and each request of another job finds the target's pointer in
place: at every point, crash points included, disk and memory hold one of the canonical payloads of the unfinished ledger;
memory only takes over the bytes on disk; the job's own requests move the disk from one of its payloads to another;
`Write` refuses any other content; and after a successful `Replace` of some bytes `Verify` succeeds on exactly those. -/
theorem policy_within_transaction (E : PortEnv) (m : Deployment) (tid jid : String) (s₀ : HostWorld)
    (h₀ : unfinishedJob tid jid (s₀.part m) = false) (reqs : List (PortRequest × List PortChoice))
    (hfence : ∀ x ∈ servePortLane E s₀ reqs, Fenced m tid jid x) :
    (∀ x ∈ servePortLane E s₀ reqs, WithinTransaction E tid jid (x.pre.part m) ∧
      ∀ st ∈ x.run.steps, WithinTransaction E tid jid (st.post.part m)) ∧
    (∀ x ∈ servePortLane E s₀ reqs, ∀ st ∈ x.run.steps,
      (st.post.part m).policyMemory = (st.pre.part m).policyMemory ∨
        (st.post.part m).policyMemory = (st.pre.part m).policyDisk) ∧
    (∀ x ∈ servePortLane E s₀ reqs, onJob tid jid x.req = true → modeOf x.req = some m → ∃ c, ∀ st ∈ x.run.steps,
      PolicyStep c (st.pre.part m) (st.post.part m) ∧ ∀ l, (st.post.part m).jobs tid jid = some l → l.candidates = c) ∧
    (∀ allowed next (s : DeploymentWorld m) cs, PortPolicyCandidates.allows allowed s.policyDisk = false →
      ((policyWrite E allowed next).exec (portNext E) s cs).st = s ∧
        ((policyWrite E allowed next).exec (portNext E) s cs).out ≠ some true) ∧
    ∀ allowed next (s : DeploymentWorld m) cs,
      ((policyReplace E allowed next).exec (portNext E) s cs).out = some true → ∀ expected c,
        ((policyVerify expected : PortProg m.Baseline m.Applied Bool).exec (portNext E)
          ((policyReplace E allowed next).exec (portNext E) s cs).st [c]).out =
            some (decide (c = .ok ∧ expected = next)) := by
  refine ⟨?_, ?_, ?_, fun allowed next s cs h => policyWrite_refuses allowed next s cs h, ?_⟩
  · refine (serve_forall (I := fun s => WithinTransaction E tid jid (s.part m)) (A := Fenced m tid jid)
      (fun q s cs hs hf => ?_) (within_of_finished h₀) reqs hfence).1
    refine ⟨⟨hs, ?_⟩, ?_⟩
    · intro st hst
      obtain ⟨cs', hcut⟩ := handled_cut hst
      rw [← hcut]
      exact handle_within q s cs' hs hf
    · unfold settle
      split
      · exact handle_within q s cs hs hf
      · exact within_restart (handle_within q s cs hs hf)
  · exact (serve_forall (A := fun _ => True) (I := fun _ => True) (fun q s cs _ _ => ⟨handle_memory q s cs, trivial⟩)
      trivial reqs fun _ _ => trivial).1
  · refine (serve_forall (A := fun _ => True) (I := fun _ => True) (fun q s cs _ _ => ⟨?_, trivial⟩) trivial reqs
      fun _ _ => trivial).1
    intro hq hm
    obtain ⟨plan, hplan, rfl, rfl⟩ := onJob_plan hq
    refine ⟨candidatesFor E q.1 plan (s.part m), ?_⟩
    intro st hst
    refine ⟨handle_policySteps hplan hm s cs st hst, ?_⟩
    intro l hl
    obtain ⟨cs', hcut⟩ := handled_cut hst
    rw [← hcut] at hl
    exact handle_candidates hplan hm s cs' l hl
  · intro allowed next s cs h expected c
    obtain ⟨hd, hm⟩ := policyReplace_done allowed next s cs h
    exact policyVerify_exact hd hm expected c

/-! ## A crash between the ledger and its pointer -/

namespace Sample

/-- the next job: from revision 2 to 4, rolled back to 5 -/
def nextPlan : SystemdPortReconfigurePlan :=
  { plan "job-2" with before := some (snapshot 2), target := some (snapshot 4), rollback := some (snapshot 5) }

/-- its first request, which arrives while the policy of revision 2 is loaded -/
def nextRequest : PortRequest :=
  (policy 2, ⟨2, .portReconfigure, "svc-1", some nextPlan, 2, 1, 2, 2, "grant",
    some ⟨"port_reconfigure", "session-00000001", 1, 1000, some nextPlan.sharedPortPlan, "job-2", "host-1", 1, 4, 1000,
      "svc-1", "worker", "systemd", true, 2⟩⟩)

/-- a request for a Docker target that the loaded policy also lists -/
def dockerRequest : PortRequest :=
  ({ policy 2 with targets := (policy 2).targets ++ (policy 2).targets.map fun t =>
      { t with serviceID := "svc-2", deploymentMode := "docker" } },
    { nextRequest.2 with
      serviceID := "svc-2", portPlan := some { nextPlan with targetID := "svc-2", deploymentMode := "docker" } })

/-- the systemd target as before, and no records of the other mode -/
def host : HostWorld where
  part
    | .systemd => world
    | .docker => ⟨fun _ _ => none, fun _ => none, fun _ => none, [1], [1], privateFile env [1]⟩
  shared := by
    intro m k
    cases m <;> cases k <;> exact ⟨rfl, rfl⟩

/-- the script on which the first `n` operations succeed on the host and the process then crashes -/
def cutHost {α : Type} : ℕ → HostProg α → HostWorld → List PortChoice
  | 0, _, _ => []
  | _ + 1, .ret _, _ => []
  | n + 1, .call o k, s =>
    let r := hostNext env s o (success o.2)
    success o.2 :: cutHost n (k r.1) r.2

/-- each request in turn behind the lane, with the number of operations it makes before the process crashes -/
def playLane (s : HostWorld) : List (PortRequest × ℕ) → List (PortRequest × List PortChoice)
  | [] => []
  | (q, n) :: rest =>
    let p := handlePortV2Request env q
    let cs := cutHost n p s
    (q, cs) :: playLane (settle HostWorld.restart (p.exec (hostNext env) s cs)) rest

/-- the first job moves to its target and crashes, another job and a request for a Docker target arrive, and the first job
is rolled back -/
def fenced : List (PortRequest × List PortChoice) :=
  playLane host [(request 1 .portReconfigure "job-1", 41), (nextRequest, 60), (dockerRequest, 60),
    (request 2 .portReconfigureReconcile "job-1", 90)]

/-- the first job crashes between its ledger and the pointer, goes on to its target and crashes again; then the next job -/
def unfenced : List (PortRequest × List PortChoice) :=
  playLane host [(request 1 .portReconfigure "job-1", 11), (request 1 .portReconfigure "job-1", 40), (nextRequest, 30)]

end Sample

/-- With the pointer in place neither another job nor a request of the other mode gets past the lane while the policy is
the target's. -/
theorem sample_policy_within :
    (servePortLane Sample.env Sample.host Sample.fenced).map
        (fun x => (modeOf x.req, unfinishedJob "svc-1" "job-1" (x.pre.part .systemd),
          x.run.out == some (.failure .targetBusy), (x.run.st.part .docker).policyDisk)) =
      [(some .systemd, false, false, [2]), (some .systemd, true, true, [2]), (some .docker, true, true, [2]),
        (some .systemd, true, false, [3])] ∧
    ∀ x ∈ servePortLane Sample.env Sample.host Sample.fenced,
      WithinTransaction Sample.env "svc-1" "job-1" (x.pre.part .systemd) ∧
        ∀ st ∈ x.run.steps, WithinTransaction Sample.env "svc-1" "job-1" (st.post.part .systemd) :=
  ⟨by decide +kernel, (policy_within_transaction Sample.env .systemd "svc-1" "job-1" Sample.host rfl Sample.fenced
    (by decide +kernel)).1⟩

/-- **Counterexample.** After a crash between the two writes of `Stage` the first job runs on without holding the lane: a
second job, whose policy is the one in memory, replaces the first job's target policy by its own while the first job is
unfinished, and the file is none of the first job's payloads. -/
theorem unfenced_transaction_loses_policy :
    (servePortLane Sample.env Sample.host Sample.unfenced).map
        (fun x => (decide (Sample.env.encodePolicy x.req.1 = (x.pre.part .systemd).policyMemory),
          (x.pre.part .systemd).active "svc-1")) =
      [(true, none), (true, none), (true, none)] ∧
    (servePortLane Sample.env Sample.host Sample.unfenced).map
        (fun x => (unfinishedJob "svc-1" "job-1" (x.run.st.part .systemd),
          ((x.run.st.part .systemd).jobs "svc-1" "job-1").map (·.candidates), (x.run.st.part .systemd).policyDisk)) =
      [(true, some ⟨[1], [2], [3]⟩, [1]), (true, some ⟨[1], [2], [3]⟩, [2]), (true, some ⟨[1], [2], [3]⟩, [4])] ∧
    (PortPolicyCandidates.mk [1] [2] [3]).allows [4] = false := by
  decide +kernel

end AutostreamUpdater.Port
