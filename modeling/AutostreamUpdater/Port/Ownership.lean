/-
Which job owns a target: the active pointer against the ledgers, over runs of legacy and version 2 port requests.

`Owned` says that a ledger past `staged` and not terminal is the one its target's active pointer names, so at most one
job of a target is under way. A request keeps it at every point, provided it does not continue a `staged` ledger that
the pointer does not name: `stageLedger` writes the ledger before the pointer, and a crash between the two leaves such a
ledger behind. `one_job_past_staged` carries it along runs, `two_jobs_past_staged` is a run without the proviso.
-/
import AutostreamUpdater.Port.OwnWrites
import AutostreamUpdater.Port.Runs

namespace AutostreamUpdater.Port

open Contract Base Prog

variable {β A : Type} {E : PortEnv} {t j : String} {s : PortWorld β A} {tr : PortTrace β A} {l : PortLedger β}

/-! ## Operations -/

/-- two jobs of one target are never under way together -/
theorem Owned.unique (h : Owned s) {j' : String} {l' : PortLedger β} (hl : s.jobs t j = some l)
    (hl' : s.jobs t j' = some l') (hu : l.underWay = true) (hu' : l'.underWay = true) : j = j' := by
  have h1 := h t j l hl hu
  rw [h t j' l' hl' hu'] at h1
  exact (Option.some.inj h1).symm

/-- an operation on the job that the pointer names keeps the invariant and the pointer -/
theorem Owned.step {o : PortOp β A} (h : Owned s) (ha : s.active t = some j) (ho : o.ownWrite t j) (c : PortChoice) :
    Owned (portNext E s o c).2 ∧ (portNext E s o c).2.active t = some j := by
  by_cases hk : o.keepsStore = true
  · obtain ⟨hj, hact, -⟩ := portNext_keepsStore (E := E) (s := s) (c := c) hk
    exact ⟨h.congr hj hact, by rw [hact]; exact ha⟩
  cases o with
  | writeJob l =>
    rcases portNext_writeJob (E := E) (s := s) (c := c) l with heq | ⟨-, heq⟩
    · rw [heq]
      exact ⟨h.setJob fun _ => by rw [ho.1, ho.2]; exact ha, ha⟩
    · rw [heq]
      exact ⟨h, ha⟩
  | writeActive t' j' => exact absurd ho (by simp [PortOp.ownWrite])
  | writeApplied t' a =>
    rcases portNext_writeApplied (E := E) (s := s) (c := c) t' a with heq | ⟨-, heq⟩ <;> rw [heq]
    · exact ⟨h.congr rfl rfl, ha⟩
    · exact ⟨h, ha⟩
  | _ => exact absurd rfl hk

/-! ## Programs -/

section Programs

variable {α γ : Type} {p : PortProg β A α}

/-- every point of the program keeps the invariant, and `Q` holds at its end -/
abbrev Keeps (E : PortEnv) (p : PortProg β A α) (Q : α → PortWorld β A → Prop) (tr : PortTrace β A)
    (s : PortWorld β A) : Prop :=
  p.wp (portNext E) (fun _ s => Owned s) (fun a _ s' => Q a s') tr s

theorem keeps_ret (h : Owned s) (a : α) : Keeps E (pure a) (fun _ _ => True) tr s := ⟨h, trivial⟩

/-- a program that continues the job the pointer names -/
theorem OwnWrites.keeps (hp : OwnWrites t j p) (h : Owned s) (ha : s.active t = some j) :
    Keeps E p (fun _ _ => True) tr s :=
  wp_post (only_wp (I := fun _ s => Owned s ∧ s.active t = some j) hp
    (fun _ _ _ c ho hs => hs.1.step hs.2 ho c) (fun _ _ hs => hs.1) ⟨h, ha⟩) fun _ _ _ _ _ => trivial

theorem quiet_keeps {Q : α → Prop} (hp : Quietly p Q) (h : Owned s) :
    Keeps E p (fun a s' => (s'.jobs = s.jobs ∧ s'.active = s.active) ∧ Q a) tr s :=
  only_wp (I := fun _ (s' : PortWorld β A) => s'.jobs = s.jobs ∧ s'.active = s.active) hp (fun _ s' o c ho hs => by
    obtain ⟨hj, ha, -⟩ := portNext_keepsStore (E := E) (s := s') (c := c)
      (PortOp.steady_keepsStore (PortOp.quiet_steady ho))
    exact ⟨hj.trans hs.1, ha.trans hs.2⟩) (fun _ s' hs => h.congr hs.1 hs.2) ⟨rfl, rfl⟩

/-- `quiet_keeps` in sequence -/
theorem quiet_keeps_seq {Q : α → Prop} {f : α → PortProg β A γ} {R : γ → PortWorld β A → Prop} (hp : Quietly p Q)
    (h : Owned s) (hf : ∀ a tr' s', Owned s' → s'.jobs = s.jobs → s'.active = s.active → Q a → Keeps E (f a) R tr' s') :
    Keeps E (p >>= f) R tr s :=
  wp_seq (quiet_keeps hp h) fun a tr' s' h' hq => hf a tr' s' h' hq.1.1 hq.1.2 hq.2

/-- reads keep the invariant -/
theorem owned_loads {M : PortMode β A} : Loads E (fun _ => False) (fun _ s => Owned s) M M := Loads.alone fun _ _ _ _ _ h => h

/-- **Staging.** The ledger is written first and the pointer second; in between the job is not under way yet. -/
theorem stageLedger_keeps (M : PortMode β A) (hst : l.state = .staged) (hl : l.isOf t j) (h : Owned s) :
    Keeps E (stageLedger M l) (fun ok s' => ok = true → s'.active t = some j) tr s := by
  have hidle : l.underWay = false := by simp [PortLedger.underWay, hst]
  obtain ⟨rfl, rfl⟩ := hl
  unfold stageLedger
  refine wp_ite (fun _ => ⟨h, by simp⟩) fun _ => ?_
  refine wp_seq (loadActive_loads owned_loads h _).1 fun active tr1 s1 h1 hactive => ?_
  obtain ⟨rfl, -, hactive⟩ := hactive
  rcases active with _ | active
  · exact ⟨h1, by simp⟩
  refine wp_ite (fun _ => ⟨h1, by simp⟩) fun hbusy => ?_
  have hothers : ∀ j' l', s1.jobs l.plan.targetID j' = some l' → l'.underWay = true → j' = l.plan.jobID :=
    fun j' l' => h1.notBusy (by simpa using hbusy) (hactive _ rfl).1
  -- the ledger write, whether it took effect or not, leaves only this job able to be under way
  have hwrite : Keeps E (saveLedger M l) (fun _ s2 => ∀ j' l', s2.jobs l.plan.targetID j' = some l' →
      l'.underWay = true → j' = l.plan.jobID) tr1 s1 := by
    unfold saveLedger
    refine wp_ite (fun _ => ⟨h1, hothers⟩) fun _ => ⟨h1, fun c => ?_⟩
    rcases portNext_writeJob (E := E) (s := s1) (c := c) l with heq | ⟨-, heq⟩ <;> rw [heq]
    · refine ⟨h1.setJob (by simp [hidle]), fun j' l' hj' hu => ?_⟩
      simp only [PortWorld.setJob, true_and] at hj'
      split at hj'
      · assumption
      · exact hothers j' l' hj' hu
    · exact ⟨h1, hothers⟩
  refine wp_seq hwrite fun ok tr2 s2 h2 hothers2 => ?_
  refine wp_ite (fun _ => ⟨h2, by simp⟩) fun _ => ⟨h2, fun c => ?_⟩
  rcases portNext_writeActive (E := E) (s := s2) (c := c) l.plan.targetID l.plan.jobID with heq | ⟨hok, heq⟩ <;> rw [heq]
  · exact ⟨h2.setActive hothers2, fun _ => by simp⟩
  · exact ⟨h2, fun h' => absurd (h'.symm.trans hok) (by decide)⟩

end Programs

/-- **A version 2 request keeps the invariant** at every point, as its session does. -/
theorem executePortV2_keeps {D : PortV2Driver β A} (hD : D.Lawful E) (policy : LocalExecutorPolicy)
    {request : LocalExecutorRequest} {plan : SystemdPortReconfigurePlan} (hplan : request.portPlan = some plan)
    (h : Owned s) (hc : Claimed plan s) : Keeps E (executePortV2 E D policy request) (fun _ _ => True) [] s :=
  wp_weaken (wp_post (executePortV2_wp hD policy hplan) fun _ _ _ _ _ => trivial) fun _ _ hs => hs.owned h hc

/-! ## Legacy requests -/

section Legacy

variable {plan : SystemdPortReconfigurePlan} {request : LocalExecutorRequest} (policy : LocalExecutorPolicy)
  (target : LocalExecutorTarget)

/-- the active ledger adds nothing to the job's own: a pointer to this job is a pointer to this ledger -/
theorem continuedLedger_eq {historical active : Option (PortLedger β)} (hh : s.jobs t j = historical)
    (ha : ActiveIs t s active) : continuedLedger historical active j = historical := by
  cases historical with
  | some l => rfl
  | none =>
    rcases ha with ⟨rfl, -⟩ | ⟨a, rfl, -, hs⟩
    · rfl
    · have : a.plan.jobID ≠ j := by
        rintro rfl
        simp [hh] at hs
      simp [continuedLedger, Option.filter, this]

/-- a job's ledger that is not terminal is one the pointer names -/
theorem Owned.historicalPointer (h : Owned s) (hc : Claimed plan s)
    {historical : Option (PortLedger β)} (hh : s.jobs plan.targetID plan.jobID = historical)
    (hterm : historical.filter (fun l => l.state == .terminal) = none) (hsome : historical.isSome = true) :
    s.active plan.targetID = some plan.jobID := by
  obtain ⟨l, rfl⟩ := Option.isSome_iff_exists.1 hsome
  exact h.pointer hc hh (by simpa [Option.filter] using hterm)

theorem isSome_of_filter {x : Option (PortLedger β)} {f : PortLedger β → Bool} (h : x.filter f = some l) :
    x.isSome = true := by
  cases x <;> simp_all

section Systemd

variable {s : PortWorld SystemdBaseline SystemdPortAppliedState}
  {tr : List (PortStep SystemdBaseline SystemdPortAppliedState)} (adapter : SystemdPortAdapter)

theorem resolveSystemdPortAppliedTarget_quiet :
    Quietly (resolveSystemdPortAppliedTarget E policy target) fun _ => True := by
  unfold resolveSystemdPortAppliedTarget
  refine only_seq (loadApplied_reading _ _).quiet fun applied _ => ?_
  rcases applied with _ | _ | a
  · trivial
  · trivial
  dsimp only
  split
  · trivial
  have verify : Quietly (verifyAppliedSidecar E target a) fun _ => True := by
    unfold verifyAppliedSidecar
    refine only_ite trivial (only_op_bind rfl fun cp => ?_)
    rcases cp with _ | cp <;> trivial
  exact only_seq verify fun _ _ => only_ite trivial trivial

theorem reconcileUnstartedSystemd_keeps (h : Owned s) :
    Keeps E (reconcileUnstartedSystemdPortRequest E policy request plan target adapter) (fun _ _ => True) tr s := by
  unfold reconcileUnstartedSystemdPortRequest
  refine quiet_keeps_seq (quiet_op rfl) h fun cp tr1 s1 h1 _ _ _ => ?_
  rcases cp with _ | cp
  · exact keeps_ret h1 _
  refine wp_ite (fun _ => keeps_ret h1 _) fun _ => ?_
  refine quiet_keeps_seq (quiet_op rfl) h1 fun version tr2 s2 h2 _ _ _ => ?_
  rcases version with _ | version
  · exact keeps_ret h2 _
  refine wp_ite (fun _ => keeps_ret h2 _) fun _ => wp_ite (fun _ => keeps_ret h2 _) fun _ => ?_
  refine wp_seq (stageLedger_keeps (t := plan.targetID) (j := plan.jobID) _ rfl ⟨rfl, rfl⟩ h2)
    fun ok tr3 s3 h3 hok => ?_
  cases ok with
  | false => exact keeps_ret h3 _
  | true =>
    refine OwnWrites.keeps (OwnWrites.seq (consumeSystemdGrant_own ⟨rfl, rfl⟩) fun response => ?_) h3 (hok rfl)
    rcases response with _ | response
    · exact commitSystemdPortResult_own ⟨rfl, rfl⟩ _
    · trivial

theorem stageSystemdLedger_keeps (h : Owned s) :
    Keeps E (stageSystemdLedger E policy plan target adapter)
      (fun r s' => ∀ l, r = .ok l → s'.active plan.targetID = some plan.jobID) tr s := by
  unfold stageSystemdLedger
  refine quiet_keeps_seq (quiet_op rfl) h fun cp tr1 s1 h1 _ _ _ => ?_
  rcases cp with _ | cp
  · exact ⟨h1, by simp⟩
  refine wp_ite (fun _ => ⟨h1, by simp⟩) fun _ => ?_
  refine quiet_keeps_seq (quiet_op rfl) h1 fun version tr2 s2 h2 _ _ _ => ?_
  rcases version with _ | version
  · exact ⟨h2, by simp⟩
  refine wp_ite (fun _ => ⟨h2, by simp⟩) fun _ => ?_
  refine quiet_keeps_seq (quiet_op rfl) h2 fun free tr3 s3 h3 _ _ _ => ?_
  refine wp_ite (fun _ => ⟨h3, by simp⟩) fun _ => wp_ite (fun _ => ⟨h3, by simp⟩) fun _ => ?_
  refine wp_seq (stageLedger_keeps (t := plan.targetID) (j := plan.jobID) _ rfl ⟨rfl, rfl⟩ h3)
    fun ok tr4 s4 h4 hok => ?_
  cases ok with
  | false => exact ⟨h4, by simp⟩
  | true => exact ⟨h4, fun _ _ => hok rfl⟩

theorem advanceSystemdPort_keeps {ledger : Option SystemdPortLedger} (h : Owned s)
    (hl : ledger.isSome = true → s.active plan.targetID = some plan.jobID) :
    Keeps E (advanceSystemdPort E policy request plan target adapter ledger) (fun _ _ => True) tr s := by
  unfold advanceSystemdPort
  refine quiet_keeps_seq (resolveSystemdPortAppliedTarget_quiet _ _) h fun resolved tr1 s1 h1 _ hact _ => ?_
  rcases resolved with _ | target'
  · exact keeps_ret h1 _
  refine wp_ite (fun _ => keeps_ret h1 _) fun _ => ?_
  rw [← hact] at hl
  rcases request.operation with _ | _ | _ <;> rcases ledger with _ | l
  case portReconfigure.none =>
    refine wp_seq (stageSystemdLedger_keeps policy target' adapter h1) fun staged tr2 s2 h2 hstaged => ?_
    rcases staged with code | l
    · exact keeps_ret h2 _
    · exact (startSystemdPort_own ⟨rfl, rfl⟩).keeps h2 (hstaged l rfl)
  case portReconfigure.some => exact (startSystemdPort_own ⟨rfl, rfl⟩).keeps h1 (hl rfl)
  case portReconfigureReconcile.none => exact reconcileUnstartedSystemd_keeps policy target' adapter h1
  case portReconfigureReconcile.some => exact (reconcileSystemdPortRequest_own ⟨rfl, rfl⟩).keeps h1 (hl rfl)
  case other.none => exact keeps_ret h1 _
  case other.some => exact keeps_ret h1 _

/-- **A systemd request keeps the invariant** at every point. -/
theorem executeSystemdPortRequest_keeps (hplan : request.portPlan = some plan) (h : Owned s) (hc : Claimed plan s) :
    Keeps E (executeSystemdPortRequest E policy request) (fun _ _ => True) [] s := by
  unfold executeSystemdPortRequest
  rw [hplan]
  refine wp_ite (fun _ => ?_) fun _ => ?_
  · simp only [executeSystemdPortV2Request, hplan]
    split
    · exact keeps_ret h _
    · exact executePortV2_keeps systemdPortV2Driver_lawful policy hplan h hc
  rcases validateSystemdPortPolicyBinding E policy request plan with _ | ⟨target, adapter⟩
  · exact keeps_ret h _
  refine wp_seq (loadJob_loads owned_loads h _ _).1 fun historical tr1 s1 h1 hhist => ?_
  obtain ⟨rfl, -, hhist⟩ := hhist
  rcases historical with _ | historical
  · exact keeps_ret h1 _
  refine wp_ite (fun _ => keeps_ret h1 _) fun _ => ?_
  cases hterm : historical.filter fun l => l.state == .terminal with
  | some l => exact keeps_ret h1 _
  | none =>
    refine wp_seq (loadActive_loads owned_loads h1 _).1 fun active tr2 s2 h2 hactive => ?_
    obtain ⟨rfl, -, hactive⟩ := hactive
    rcases active with _ | active
    · exact keeps_ret h2 _
    refine wp_ite (fun _ => keeps_ret h2 _) fun _ => ?_
    rw [continuedLedger_eq (hhist _ rfl).1 (hactive _ rfl).1]
    have hptr := h2.historicalPointer hc (hhist _ rfl).1 hterm
    dsimp only
    cases hcom : historical.filter fun l => l.state == .committing with
    | some l =>
      refine wp_ite (fun _ => keeps_ret h2 _) fun _ => ?_
      exact (repairSystemdPortCommit_own ⟨rfl, rfl⟩ adapter).keeps h2 (hptr (isSome_of_filter hcom))
    | none => exact advanceSystemdPort_keeps policy target adapter h2 hptr

end Systemd

section Docker

variable {s : PortWorld DockerBaseline DockerPortAppliedState}
  {tr : List (PortStep DockerBaseline DockerPortAppliedState)} {binding : DockerPortMutationGrantBinding}
  (adapter : DockerPortAdapter) (targetBytes : Bytes)

/-- the ledger that is prepared for a new job is staged and its own -/
theorem stageDockerPortLedger_quiet :
    Quietly (stageDockerPortLedger E policy target adapter plan binding targetBytes) fun r =>
      ∀ l, r = some l → l.state = .staged ∧ l.plan = plan := by
  unfold stageDockerPortLedger
  refine only_op_bind rfl fun seen => ?_
  rcases seen with _ | o
  · simp
  refine only_ite (by simp) (only_op_bind rfl fun prepared => ?_)
  rcases prepared with _ | m
  · simp
  refine only_ite (by simp) (only_op_bind rfl fun free => only_ite (by simp) ?_)
  rintro l hl
  cases hl
  exact ⟨rfl, rfl⟩

theorem reconcileUnstartedDocker_keeps (h : Owned s) :
    Keeps E (reconcileUnstartedDockerPort E policy request plan binding target adapter targetBytes) (fun _ _ => True)
      tr s := by
  unfold reconcileUnstartedDockerPort
  refine quiet_keeps_seq (stageDockerPortLedger_quiet _ _ _ _) h fun prepared tr1 s1 h1 _ _ hprep => ?_
  rcases prepared with _ | l
  · exact keeps_ret h1 _
  obtain ⟨hst, rfl⟩ := hprep l rfl
  refine wp_seq (stageLedger_keeps _ hst ⟨rfl, rfl⟩ h1) fun ok tr2 s2 h2 hok => ?_
  cases ok with
  | false => exact keeps_ret h2 _
  | true =>
    refine OwnWrites.keeps (only_op_bind trivial fun _ => ?_) h2 (hok rfl)
    exact only_ite (markAmbiguous_own ⟨rfl, rfl⟩) (commitDockerPortResult_own ⟨rfl, rfl⟩ _ _)

theorem advanceDockerPort_keeps {ledger : Option DockerPortLedger} (h : Owned s)
    (hl : ledger.isSome = true → s.active plan.targetID = some plan.jobID)
    (hown : ∀ l, ledger = some l → l.isOf plan.targetID plan.jobID) :
    Keeps E (advanceDockerPort E policy request plan binding target adapter targetBytes ledger) (fun _ _ => True)
      tr s := by
  unfold advanceDockerPort
  refine quiet_keeps_seq (resolveDockerPortAppliedTargetBound_quiet _ _ _) h fun resolved tr1 s1 h1 _ hact _ => ?_
  rcases resolved with _ | target'
  · exact keeps_ret h1 _
  refine wp_ite (fun _ => keeps_ret h1 _) fun _ => ?_
  rw [← hact] at hl
  rcases request.operation with _ | _ | _ <;> rcases ledger with _ | l
  case portReconfigure.none =>
    refine quiet_keeps_seq (stageDockerPortLedger_quiet _ _ _ _) h1 fun prepared tr2 s2 h2 _ _ hprep => ?_
    rcases prepared with _ | l
    · exact keeps_ret h2 _
    obtain ⟨hst, rfl⟩ := hprep l rfl
    refine wp_seq (stageLedger_keeps _ hst ⟨rfl, rfl⟩ h2) fun ok tr3 s3 h3 hok => ?_
    cases ok with
    | false => exact keeps_ret h3 _
    | true => exact (startDockerPort_own ⟨rfl, rfl⟩).keeps h3 (hok rfl)
  case portReconfigure.some => exact (startDockerPort_own ⟨rfl, rfl⟩).keeps h1 (hl rfl)
  case portReconfigureReconcile.none => exact reconcileUnstartedDocker_keeps policy target' adapter targetBytes h1
  case portReconfigureReconcile.some =>
    exact (reconcileDockerPortRequest_own ⟨rfl, rfl⟩ (hown l rfl)).keeps h1 (hl rfl)
  case other.none => exact keeps_ret h1 _
  case other.some => exact keeps_ret h1 _

/-- **A Docker request keeps the invariant** at every point. -/
theorem executeDockerPortRequest_keeps (hplan : request.portPlan = some plan) (h : Owned s) (hc : Claimed plan s) :
    Keeps E (executeDockerPortRequest E policy request) (fun _ _ => True) [] s := by
  unfold executeDockerPortRequest
  rw [hplan]
  refine wp_ite (fun _ => ?_) fun _ => ?_
  · simp only [executeDockerPortV2Request, hplan]
    split
    · exact keeps_ret h _
    · exact executePortV2_keeps (dockerPortV2Driver_lawful _) policy hplan h hc
  rcases validateDockerPortPolicyBinding E policy request plan with _ | ⟨target, adapter, binding, targetBytes⟩
  · exact keeps_ret h _
  refine wp_seq (loadJob_loads owned_loads h _ _).1 fun historical tr1 s1 h1 hhist => ?_
  obtain ⟨rfl, -, hhist⟩ := hhist
  rcases historical with _ | historical
  · exact keeps_ret h1 _
  refine wp_ite (fun _ => keeps_ret h1 _) fun hsame => ?_
  cases hterm : historical.filter fun l => l.state == .terminal with
  | some l => exact keeps_ret h1 _
  | none =>
    refine wp_seq (loadActive_loads owned_loads h1 _).1 fun active tr2 s2 h2 hactive => ?_
    obtain ⟨rfl, -, hactive⟩ := hactive
    rcases active with _ | active
    · exact keeps_ret h2 _
    refine wp_ite (fun _ => keeps_ret h2 _) fun _ => ?_
    rw [continuedLedger_eq (hhist _ rfl).1 (hactive _ rfl).1]
    have hptr := h2.historicalPointer hc (hhist _ rfl).1 hterm
    dsimp only
    cases hcom : historical.filter fun l => l.state == .committing with
    | some l =>
      refine wp_ite (fun _ => keeps_ret h2 _) fun _ => ?_
      exact (repairDockerPortCommit_own ⟨rfl, rfl⟩).keeps h2 (hptr (isSome_of_filter hcom))
    | none =>
      refine advanceDockerPort_keeps policy target adapter targetBytes h2 hptr fun l hl => ?_
      subst hl
      exact sameSystemdPortIntent_job (by simpa using hsame)

end Docker
end Legacy

/-! ## Runs -/

section Runs

/-- the entry point of the mode, for legacy and version 2 plans -/
def executePortRequest (E : PortEnv) : (m : Deployment) → PortRequest → PortProg m.Baseline m.Applied PortResponse
  | .systemd, q => executeSystemdPortRequest E q.1 q.2
  | .docker, q => executeDockerPortRequest E q.1 q.2

/-- handle the requests in turn, each under its own script of outcomes -/
def servePort (E : PortEnv) (m : Deployment) (s₀ : DeploymentWorld m) (reqs : List (PortRequest × List PortChoice)) :
    List (PortEntry m) :=
  serve (portNext E) PortWorld.restart (executePortRequest E m) s₀ reqs

/-- the state after the last request or, when that one was cut, at its crash and after the restart -/
def finalPort (E : PortEnv) (m : Deployment) (s₀ : DeploymentWorld m) (reqs : List (PortRequest × List PortChoice)) :
    DeploymentWorld m :=
  final (portNext E) PortWorld.restart (executePortRequest E m) s₀ reqs

/-- no `staged` ledger without its pointer is continued -/
def ClaimsStaged {m : Deployment} (q : PortRequest) (s : DeploymentWorld m) : Prop :=
  ∀ plan, q.2.portPlan = some plan → Claimed plan s

instance {m : Deployment} (q : PortRequest) (s : DeploymentWorld m) : Decidable (ClaimsStaged q s) :=
  inferInstanceAs (Decidable (∀ plan ∈ q.2.portPlan, ∀ l ∈ ledgerOf plan s, l.state = .staged →
    s.active plan.targetID = some plan.jobID))

theorem executePortRequest_owned {m : Deployment} {s : DeploymentWorld m} {q : PortRequest} (h : Owned s)
    (hc : ClaimsStaged q s) (cs : List PortChoice) :
    Owned (settle PortWorld.restart ((executePortRequest E m q).exec (portNext E) s cs)) := by
  have hkeeps : Keeps E (executePortRequest E m q) (fun _ _ => True) [] s := by
    cases hplan : q.2.portPlan with
    | none =>
      cases m
      · simp only [executePortRequest, executeSystemdPortRequest, hplan]
        exact keeps_ret h _
      · simp only [executePortRequest, executeDockerPortRequest, hplan]
        exact keeps_ret h _
    | some plan =>
      cases m
      · exact executeSystemdPortRequest_keeps q.1 hplan h (hc plan hplan)
      · exact executeDockerPortRequest_keeps q.1 hplan h (hc plan hplan)
  have hst := (wp_exec hkeeps cs).1
  unfold settle
  split
  · exact hst
  · exact hst.congr rfl rfl

/-- **One job past staged.** In every run of port requests in which no request continues a `staged` ledger that the
active pointer does not name, a ledger past `staged` and not terminal is the one the pointer names, and no two jobs of a
target have such a ledger. A run may be cut at any operation of its last request, so this covers every state reached. -/
theorem one_job_past_staged (E : PortEnv) (m : Deployment) (s₀ : DeploymentWorld m) (h₀ : Owned s₀)
    (reqs : List (PortRequest × List PortChoice)) (hclaims : ∀ x ∈ servePort E m s₀ reqs, ClaimsStaged x.req x.pre) :
    (∀ t j l, (finalPort E m s₀ reqs).jobs t j = some l → l.state ≠ .staged → l.state ≠ .terminal →
      (finalPort E m s₀ reqs).active t = some j) ∧
    (∀ t j j' l l', (finalPort E m s₀ reqs).jobs t j = some l → (finalPort E m s₀ reqs).jobs t j' = some l' →
      l.state ≠ .staged → l.state ≠ .terminal → l'.state ≠ .staged → l'.state ≠ .terminal → j = j') := by
  have h : Owned (finalPort E m s₀ reqs) :=
    (serve_forall (I := Owned) (A := fun x => ClaimsStaged x.req x.pre) (P := fun _ => True)
      (fun q s cs hs hc => ⟨trivial, executePortRequest_owned hs hc cs⟩) h₀ reqs hclaims).2
  have hway : ∀ {l : PortLedger m.Baseline}, l.state ≠ .staged → l.state ≠ .terminal → l.underWay = true :=
    fun h1 h2 => by simp [PortLedger.underWay, h1, h2]
  exact ⟨fun t j l hl h1 h2 => h t j l hl (hway h1 h2),
    fun t j j' l l' hl hl' h1 h2 h1' h2' => h.unique hl hl' (hway h1 h2) (hway h1' h2')⟩

namespace Sample

/-- a forward request that crashes with its ledger staged and pointed to, and one that goes on past the consumed grant -/
def underWay : List (PortRequest × List PortChoice) := play world [(forward, 11), (forward, 10)]

/-- a crash between the two writes of the staging, a second request of the same job, and a request of another job -/
def stagedWithoutPointer : List (PortRequest × List PortChoice) :=
  play world [(forward, 10), (forward, 9), (request 1 .portReconfigure "job-2", 18)]

end Sample

theorem sample_states :
    ((finalPort Sample.env .systemd Sample.world Sample.underWay).jobs "svc-1" "job-1").map (·.state) =
        some .grantConsumed ∧
      let s := finalPort Sample.env .systemd Sample.world Sample.stagedWithoutPointer
      (s.jobs "svc-1" "job-1").map (·.state) = some .grantConsumed ∧
        (s.jobs "svc-1" "job-2").map (·.state) = some .grantConsumed ∧ s.active "svc-1" = some "job-2" := by
  decide +kernel

theorem underWay_run_owned :
    ((finalPort Sample.env .systemd Sample.world Sample.underWay).jobs "svc-1" "job-1").map (·.state) =
        some .grantConsumed ∧
      ∀ t j l, (finalPort Sample.env .systemd Sample.world Sample.underWay).jobs t j = some l → l.state ≠ .staged →
        l.state ≠ .terminal → (finalPort Sample.env .systemd Sample.world Sample.underWay).active t = some j := by
  refine ⟨sample_states.1, (one_job_past_staged Sample.env .systemd Sample.world ?_ Sample.underWay ?_).1⟩
  · intro t j l hl
    cases hl
  · decide +kernel

/-- **Two jobs past staged.** The second request of `job-1` continues the `staged` ledger that the crash left without a
pointer; the target then looks free, and `job-2` starts beside it. -/
theorem two_jobs_past_staged :
    let s := finalPort Sample.env .systemd Sample.world Sample.stagedWithoutPointer
    (s.jobs "svc-1" "job-1").map (·.state) = some .grantConsumed ∧
      (s.jobs "svc-1" "job-2").map (·.state) = some .grantConsumed ∧ s.active "svc-1" = some "job-2" :=
  sample_states.2

end Runs
end AutostreamUpdater.Port
