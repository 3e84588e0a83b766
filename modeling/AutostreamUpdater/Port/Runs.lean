/-
Runs of version 2 port requests: what holds across any sequence of requests, on one job and on others between them, with
a crash and a restart of the process at any point.

`servePortV2` handles a list of requests in both deployment modes. The facts about one request come from
`executePortV2_wp`; here they are carried along runs.

  * `target_written_by_one_paid_request`: every write of the target snapshot happens in one request, after that request
    consumed its own forward grant, and a latched rollback admits neither another such write nor any accepted result but
    `rolled_back`.
  * `reconcile_grant_closes_target`: a consumed reconcile grant ends all writes of the target snapshot, provided no
    reconcile request finds a ledger that a forward request could still start from. `reconcile_grant_leaves_target_open`
    is the run that breaks it without the proviso.
  * `returned_result_recorded`: a returned result is the terminal ledger's, and the applied record shows its snapshot,
    provided each terminal ledger is followed by its record in the same request. `returned_result_unrecorded` is the run
    that breaks it: two crashes, each between a ledger and its record.
-/
import AutostreamUpdater.Port.Coordinator

namespace AutostreamUpdater.Port

open Contract Base

/-! ## The two deployment modes -/

/-- how the target runs -/
inductive Deployment where
  | systemd | docker
  deriving DecidableEq, Repr

abbrev Deployment.Baseline : Deployment → Type
  | .systemd => SystemdBaseline
  | .docker => DockerBaseline

abbrev Deployment.Applied : Deployment → Type
  | .systemd => SystemdPortAppliedState
  | .docker => DockerPortAppliedState

/-- a request together with the policy the executor holds in memory when it arrives -/
abbrev PortRequest := LocalExecutorPolicy × LocalExecutorRequest

abbrev DeploymentWorld (m : Deployment) := PortWorld m.Baseline m.Applied

/-- the version 2 entry point of the mode -/
def executePortV2Request (E : PortEnv) :
    (m : Deployment) → PortRequest → PortProg m.Baseline m.Applied PortResponse
  | .systemd, q => executeSystemdPortV2Request E q.1 q.2
  | .docker, q => executeDockerPortV2Request E q.1 q.2

/-- the applied record that stands for a result -/
def Deployment.appliedFor : (m : Deployment) → PortLedger m.Baseline → SystemdPortReconfigureResult → Option m.Applied
  | .systemd, l, r => some (systemdPortAppliedStateForResult l.plan r)
  | .docker, l, r => dockerAppliedFor l r

abbrev PortEntry (m : Deployment) := Entry (DeploymentWorld m) (PortRes (β := m.Baseline) (A := m.Applied)) PortResponse
  PortRequest

/-- handle the requests in turn, each under its own script of outcomes -/
def servePortV2 (E : PortEnv) (m : Deployment) (s₀ : DeploymentWorld m) (reqs : List (PortRequest × List PortChoice)) :
    List (PortEntry m) :=
  serve (portNext E) PortWorld.restart (executePortV2Request E m) s₀ reqs

/-- the request is about the job `jid` of the target `tid` -/
def onJob (tid jid : String) (q : PortRequest) : Bool :=
  q.2.portPlan.any fun p => p.targetID == tid && p.jobID == jid

section Entries

variable {E : PortEnv} {m : Deployment} {s : DeploymentWorld m} {q : PortRequest} {tid jid : String}

theorem onJob_plan (h : onJob tid jid q = true) :
    ∃ plan, q.2.portPlan = some plan ∧ plan.targetID = tid ∧ plan.jobID = jid := by
  obtain ⟨plan, hp, h⟩ := (Option.any_eq_true _ _).1 h
  simp only [Bool.and_eq_true, beq_iff_eq] at h
  exact ⟨plan, hp, h.1, h.2⟩

theorem executePortV2Request_wp {plan : SystemdPortReconfigurePlan} (hplan : q.2.portPlan = some plan) :
    (executePortV2Request E m q).wp (portNext E) (Sound m.appliedFor E q.2 plan s)
      (fun x _ s' => Answer m.appliedFor plan s x s') [] s := by
  cases m with
  | systemd =>
    simp only [executePortV2Request, executeSystemdPortV2Request, hplan]
    split
    · exact ⟨Sound.start, Answer.failure _⟩
    · exact executePortV2_wp systemdPortV2Driver_lawful q.1 hplan
  | docker =>
    simp only [executePortV2Request, executeDockerPortV2Request, hplan]
    split
    · exact ⟨Sound.start, Answer.failure _⟩
    · exact executePortV2_wp (dockerPortV2Driver_lawful _) q.1 hplan

/-- one handled request, on its own job -/
theorem entry_sound {plan : SystemdPortReconfigurePlan} (hplan : q.2.portPlan = some plan) (cs : List PortChoice) :
    let e := (executePortV2Request E m q).exec (portNext E) s cs
    Sound m.appliedFor E q.2 plan s e.steps e.st ∧ ∀ x, e.out = some x → Answer m.appliedFor plan s x e.st := by
  simpa using Prog.wp_exec (executePortV2Request_wp (E := E) (m := m) (s := s) hplan) cs

/-- one handled request leaves every other job's ledger alone -/
theorem entry_otherJob (h : onJob tid jid q = false) (cs : List PortChoice) :
    ((executePortV2Request E m q).exec (portNext E) s cs).st.jobs tid jid = s.jobs tid jid := by
  cases hplan : q.2.portPlan with
  | none =>
    cases m <;> simp [executePortV2Request, executeSystemdPortV2Request, executeDockerPortV2Request, hplan] <;> rfl
  | some plan =>
    refine (entry_sound hplan cs).1.others tid jid ?_
    rintro ⟨rfl, rfl⟩
    simp [onJob, hplan] at h

@[simp] theorem settle_jobs (e : Exec (DeploymentWorld m) (PortRes (β := m.Baseline) (A := m.Applied)) PortResponse) :
    (settle PortWorld.restart e).jobs = e.st.jobs := by
  unfold settle; split <;> rfl

@[simp] theorem settle_applied (e : Exec (DeploymentWorld m) (PortRes (β := m.Baseline) (A := m.Applied)) PortResponse) :
    (settle PortWorld.restart e).applied = e.st.applied := by
  unfold settle; split <;> rfl

/-- a request moves every job's ledger `Later` and keeps it settled -/
theorem entry_later (tid jid : String) (q : PortRequest) (s : DeploymentWorld m) (cs : List PortChoice) :
    let s' := settle PortWorld.restart ((executePortV2Request E m q).exec (portNext E) s cs)
    Later (s.jobs tid jid) (s'.jobs tid jid) ∧ (Settled (s.jobs tid jid) → Settled (s'.jobs tid jid)) := by
  simp only [settle_jobs]
  cases hq : onJob tid jid q with
  | true =>
    obtain ⟨plan, hplan, rfl, rfl⟩ := onJob_plan hq
    have h := (entry_sound (E := E) (s := s) hplan cs).1
    exact ⟨h.begun, h.settled⟩
  | false =>
    rw [entry_otherJob hq cs]
    exact ⟨Later.refl _, id⟩

end Entries

/-! ## A small deployment -/

namespace Sample

variable {β A α : Type}

/-- the hexadecimal digest of a one-byte payload; a literal, since literals evaluate faster than built strings -/
def hex64 (n : ℤ) : String :=
  if n == 1 then "1111111111111111111111111111111111111111111111111111111111111111"
  else if n == 2 then "2222222222222222222222222222222222222222222222222222222222222222"
  else "3333333333333333333333333333333333333333333333333333333333333333"

def digest (n : ℤ) : String :=
  if n == 1 then "sha256:1111111111111111111111111111111111111111111111111111111111111111"
  else if n == 2 then "sha256:2222222222222222222222222222222222222222222222222222222222222222"
  else "sha256:3333333333333333333333333333333333333333333333333333333333333333"

/-- the policy of revision `n`: one systemd worker at port `8000 + n` -/
def policy (n : ℤ) : LocalExecutorPolicy :=
  ⟨2, 2, "host-1", 990, 990, "/run/autostream-local-executor/executor.sock", n, n, n, some "https://panel.example",
    [⟨"svc-1", "worker", "systemd", "", n, n, digest n, ⟨"127.0.0.1", 8000 + n⟩,
      some { unit := "autostream-worker.service" }, none⟩]⟩

/-- the snapshot of revision `n` -/
def snapshot (n : ℤ) : PortSnapshotRef :=
  ⟨"snap", digest n, n, n, n, digest n, n, n, n, digest n, 8000 + n, digest n, 8000 + n, none⟩

/-- payloads of one byte: revision `n` is encoded as `n`, and so is its sidecar -/
def env : PortEnv where
  validatePortPlan := fun _ => true
  validatePortResult := fun _ _ => true
  isAcceptedPortResult := fun _ => true
  portRuntimePlanSHA256 := fun _ _ _ _ _ _ _ _ => some (hex64 3)
  applyPortPolicyDelta := fun _ _ _ ref => some [UInt8.ofNat ref.configRevision.toNat]
  marshalNodeListenerConfig := fun c => some [UInt8.ofNat c.configRevision.toNat]
  portPlanPayloadSHA256 := fun _ _ => hex64 3
  sha256 := fun b => hex64 (if b == [1] then 1 else if b == [2] then 2 else 3)
  policyValid := fun _ => true
  encodePolicy := fun p => [UInt8.ofNat p.policyRevision.toNat]
  decodePolicy := fun b => b.head?.map fun n => policy n.toNat
  validateGrantBinding := fun _ _ => true
  portPlanIsNoOp := fun _ => false

/-- the plan of `job`: from revision 1 to 2, rolled back to 3 -/
def plan (job : String) : SystemdPortReconfigurePlan where
  portContractVersion := 2
  before := some (snapshot 1)
  target := some (snapshot 2)
  rollback := some (snapshot 3)
  deploymentMode := "systemd"
  jobID := job
  hostID := "host-1"
  targetID := "svc-1"
  serviceType := "worker"
  networkNamespace := "host"
  protocol := "tcp"
  ownershipEpoch := 1
  leaseGeneration := 1
  sessionID := "session-00000001"
  portPlanSHA256 := hex64 3

/-- a request on `job` that arrives while the policy of revision `n` is loaded -/
def request (n : ℤ) (operation : PortOperation) (job : String) : PortRequest :=
  (policy n, ⟨2, operation, "svc-1", some (plan job), 1, 1, 1, 1, "grant",
    some ⟨operation.text, "session-00000001", 1, 1000, some (plan job).sharedPortPlan, job, "host-1", 1, 2, 1000, "svc-1",
      "worker", "systemd", true, 1⟩⟩)

/-- revision 1 installed and running, nothing ever staged -/
def world : DeploymentWorld .systemd where
  jobs := fun _ _ => none
  active := fun _ => none
  applied := fun _ => none
  policyDisk := [1]
  policyMemory := [1]
  config := privateFile env [1]

/-- the outcome that lets the operation succeed -/
def success : PortOp β A → PortChoice
  | .verifyRuntime _ _ => .version "v1.0.0"
  | .now => .time 10
  | _ => .ok

/-- the script on which the first `n` operations succeed and the process then crashes -/
def cutAfter : ℕ → PortProg β A α → PortWorld β A → List PortChoice
  | 0, _, _ => []
  | _ + 1, .ret _, _ => []
  | n + 1, .call o k, s =>
    let r := portNext env s o (success o)
    success o :: cutAfter n (k r.1) r.2

/-- each request in turn, with the number of operations it makes before the process crashes -/
def play (s : DeploymentWorld .systemd) : List (PortRequest × ℕ) → List (PortRequest × List PortChoice)
  | [] => []
  | (q, n) :: rest =>
    let p := executePortV2Request env .systemd q
    let cs := cutAfter n p s
    (q, cs) :: play (settle PortWorld.restart (p.exec (portNext env) s cs)) rest

end Sample

/-! ## Writes of the target snapshot -/

variable {cs : List PortChoice}

section Target

variable {E : PortEnv} {m : Deployment} {tid jid : String}

/-- the request wrote its plan's target snapshot -/
def writesTarget (E : PortEnv) (x : PortEntry m) : Bool :=
  x.req.2.portPlan.any fun plan => x.run.steps.any fun st => targetWrite E plan st.op

/-- at some point of the request the job's durable ledger was latched -/
def sawLatch (tid jid : String) (x : PortEntry m) : Bool :=
  x.run.steps.any fun st => latched (st.post.jobs tid jid)

/-- the request is a reconcile request and consumed its grant -/
def reconcileConsumed (x : PortEntry m) : Bool :=
  x.req.2.operation == .portReconfigureReconcile && x.run.steps.any fun st => ownGrant x.req.2 st

/-- every write of the target snapshot follows the consumption of the request's own forward grant -/
def PaidTargetWrites (E : PortEnv) (x : PortEntry m) : Prop :=
  ∀ plan pre st, x.req.2.portPlan = some plan → pre ++ [st] <+: x.run.steps → targetWrite E plan st.op = true →
    x.req.2.operation = .portReconfigure ∧ ∃ c ∈ pre, ownGrant x.req.2 c = true

/-- the request returns, and saves, no result but `rolled_back`; `rollback_failed` is an observation and never saved -/
def AcceptsOnlyRollback (tid jid : String) (x : PortEntry m) : Prop :=
  (∀ i h r, x.run.out = some (.result i h r) → r.result = .rolledBack ∨ r.result = .rollbackFailed) ∧
    ∀ st ∈ x.run.steps, ∀ r, (st.post.jobs tid jid).bind (·.result) = some r → r.result = .rolledBack

/-- the entry of one request -/
abbrev entryOf (E : PortEnv) (q : PortRequest) (s : DeploymentWorld m) (cs : List PortChoice) : PortEntry m :=
  handled (portNext E) (executePortV2Request E m) q s cs

/-- a write of the target snapshot starts from an open ledger and leaves it spent -/
theorem writesTarget_spends {q : PortRequest} {s : DeploymentWorld m} (hq : onJob tid jid q = true)
    (h : writesTarget E (entryOf E q s cs) = true) :
    spent (s.jobs tid jid) = false ∧ spent ((entryOf E q s cs).run.st.jobs tid jid) = true := by
  obtain ⟨plan, hplan, rfl, rfl⟩ := onJob_plan hq
  have hsound := (entry_sound (E := E) (s := s) hplan cs).1
  simp only [writesTarget, hplan, Option.any_some, List.any_eq_true] at h
  obtain ⟨st, hst, hw⟩ := h
  obtain ⟨pre, post, hsplit⟩ := List.append_of_mem hst
  have hpre : pre ++ [st] <+: (entryOf E q s cs).run.steps := ⟨post, by simp [hsplit]⟩
  obtain ⟨-, -, h0, h1⟩ := hsound.target pre st hpre hw
  exact ⟨h0, (hsound.later st hst).spent h1⟩

theorem sawLatch_latched {q : PortRequest} {s : DeploymentWorld m} (hq : onJob tid jid q = true)
    (h : sawLatch tid jid (entryOf E q s cs) = true) : latched ((entryOf E q s cs).run.st.jobs tid jid) = true := by
  obtain ⟨plan, hplan, rfl, rfl⟩ := onJob_plan hq
  have hsound := (entry_sound (E := E) (s := s) hplan cs).1
  obtain ⟨st, hst, hl⟩ := List.any_eq_true.1 h
  exact (hsound.later st hst).latched hl

/-- a request that leaves the ledger latched accepts only a rollback -/
theorem latched_acceptsOnlyRollback {q : PortRequest} {s : DeploymentWorld m} (hq : onJob tid jid q = true)
    (h0 : Settled (s.jobs tid jid)) (hl : latched ((entryOf E q s cs).run.st.jobs tid jid) = true) :
    AcceptsOnlyRollback tid jid (entryOf E q s cs) := by
  obtain ⟨plan, hplan, rfl, rfl⟩ := onJob_plan hq
  obtain ⟨hsound, hanswer⟩ := entry_sound (E := E) (s := s) hplan cs
  refine ⟨fun i h r hout => (hanswer _ hout).latched h0 i h r rfl hl, fun st hst r hr => ?_⟩
  have hr' := (hsound.later st hst).result r hr
  obtain ⟨l, hled, hres⟩ := Option.bind_eq_some_iff.1 hr'
  refine hsound.settled h0 l hled ?_ r hres
  have hl : latched (ledgerOf plan _) = true := hl
  rw [hled] at hl
  exact hl

/-- **Writes of T.** In every run, every write of the target snapshot of a job follows the consumption of its request's
own forward grant; at most one request of the job makes such writes; and once the job's rollback latch is durable no
later request makes one, and nothing but a rollback is accepted for the job. -/
theorem target_written_by_one_paid_request (E : PortEnv) (m : Deployment) (tid jid : String) (s₀ : DeploymentWorld m)
    (h₀ : s₀.jobs tid jid = none) (reqs : List (PortRequest × List PortChoice)) :
    (∀ x ∈ servePortV2 E m s₀ reqs, onJob tid jid x.req = true → PaidTargetWrites E x) ∧
    (servePortV2 E m s₀ reqs).Pairwise (fun x y => onJob tid jid x.req = true → onJob tid jid y.req = true →
      writesTarget E x = true → writesTarget E y = false) ∧
    (servePortV2 E m s₀ reqs).Pairwise (fun x y => onJob tid jid x.req = true → onJob tid jid y.req = true →
      sawLatch tid jid x = true → writesTarget E y = false ∧ AcceptsOnlyRollback tid jid y) ∧
    (∀ x ∈ servePortV2 E m s₀ reqs, onJob tid jid x.req = true → sawLatch tid jid x = true →
      AcceptsOnlyRollback tid jid x) := by
  have hset : Settled (s₀.jobs tid jid) := by simp [Settled, h₀]
  have notYet : ∀ q (s : DeploymentWorld m) cs, onJob tid jid q = true → spent (s.jobs tid jid) = true →
      writesTarget E (entryOf E q s cs) = false := fun q s cs hq hs => by
    by_contra hw
    simp [(writesTarget_spends hq (by simpa using hw)).1] at hs
  refine ⟨?_, ?_, ?_, ?_⟩
  · refine (serve_forall (A := fun _ => True) (I := fun _ => True) (fun q s cs _ _ => ⟨?_, trivial⟩) trivial reqs
      fun _ _ => trivial).1
    intro hq plan pre st hplan hpre hw
    obtain ⟨hop, hc, -⟩ := (entry_sound (E := E) (s := s) hplan cs).1.target pre st hpre hw
    exact ⟨hop, hc⟩
  · refine (serve_marked (A := fun _ => True) (I := fun _ => True) (K := fun s => spent (s.jobs tid jid) = true)
      (H := fun x => onJob tid jid x.req = true ∧ writesTarget E x = true)
      (R := fun y => onJob tid jid y.req = true → writesTarget E y = false) (fun _ _ _ _ _ => trivial)
      (fun q s cs _ _ h => ?_) (fun q s cs _ _ hK => ⟨fun hq => notYet q s cs hq hK, ?_⟩) trivial reqs
      fun _ _ => trivial).1.imp fun h hx hy hw => h ⟨hx, hw⟩ hy
    · simpa using (writesTarget_spends h.1 h.2).2
    · exact (entry_later tid jid q s cs).1.spent hK
  · refine (serve_marked (A := fun _ => True) (I := fun s => Settled (s.jobs tid jid))
      (K := fun s => latched (s.jobs tid jid) = true)
      (H := fun x => onJob tid jid x.req = true ∧ sawLatch tid jid x = true)
      (R := fun y => onJob tid jid y.req = true → writesTarget E y = false ∧ AcceptsOnlyRollback tid jid y)
      (fun q s cs h _ => (entry_later tid jid q s cs).2 h) (fun q s cs _ _ h => ?_)
      (fun q s cs hI _ hK => ⟨fun hq => ⟨notYet q s cs hq (spent_of_latched hK), ?_⟩, ?_⟩) hset reqs
      fun _ _ => trivial).1.imp fun h hx hy hw => h ⟨hx, hw⟩ hy
    · simpa using sawLatch_latched h.1 h.2
    · exact latched_acceptsOnlyRollback hq hI (by simpa using (entry_later (E := E) tid jid q s cs).1.latched hK)
    · exact (entry_later tid jid q s cs).1.latched hK
  · refine (serve_forall (A := fun _ => True) (I := fun s => Settled (s.jobs tid jid))
      (fun q s cs hI _ => ⟨fun hq hl => ?_, (entry_later tid jid q s cs).2 hI⟩) hset reqs fun _ _ => trivial).1
    exact latched_acceptsOnlyRollback hq hI (sawLatch_latched hq hl)

namespace Sample

def forward : PortRequest := request 1 .portReconfigure "job-1"

/-- a crash right after T is written to the policy file, a reconcile request that latches the rollback and crashes, and a
second forward request -/
def writtenThenLatched : List (PortRequest × List PortChoice) :=
  play world [(forward, 29), (request 2 .portReconfigureReconcile "job-1", 9), (request 2 .portReconfigure "job-1", 60)]

/-- a forward request that stages its ledger, a reconcile request that crashes with its grant consumed, and a second
forward request -/
def reconciledThenForwarded : List (PortRequest × List PortChoice) :=
  play world [(forward, 11), (request 1 .portReconfigureReconcile "job-1", 5), (forward, 22)]

end Sample

/-- in the sample run the forward request writes T, the reconcile request makes the latch durable and finds
`policy_write_pending`, which no forward request starts from -/
theorem sample_latches :
    (servePortV2 Sample.env .systemd Sample.world Sample.writtenThenLatched).map
        (fun x => (writesTarget Sample.env x, sawLatch "svc-1" "job-1" x)) = [(true, false), (false, true), (false, true)] ∧
      (servePortV2 Sample.env .systemd Sample.world Sample.writtenThenLatched).map reconcileConsumed = [false, true, false] ∧
      ∀ x ∈ servePortV2 Sample.env .systemd Sample.world Sample.writtenThenLatched, onJob "svc-1" "job-1" x.req = true →
        x.req.2.operation = .portReconfigureReconcile → ∀ l, x.pre.jobs "svc-1" "job-1" = some l → l.startable = false := by
  decide +kernel

/-- the first request of the run writes T, the second makes the latch durable -/
theorem latched_run_pays_for_target :
    (servePortV2 Sample.env .systemd Sample.world Sample.writtenThenLatched).map
        (fun x => (writesTarget Sample.env x, sawLatch "svc-1" "job-1" x)) = [(true, false), (false, true), (false, true)] ∧
      ∀ x ∈ servePortV2 Sample.env .systemd Sample.world Sample.writtenThenLatched,
        onJob "svc-1" "job-1" x.req = true → PaidTargetWrites Sample.env x :=
  ⟨sample_latches.1, (target_written_by_one_paid_request Sample.env .systemd "svc-1" "job-1" Sample.world rfl
    Sample.writtenThenLatched).1⟩

/-- **A consumed reconcile grant closes T.** In every run whose reconcile requests of a job never find a ledger that a
forward request could still start from, no request after a consumed reconcile grant of the job writes the target
snapshot. -/
theorem reconcile_grant_closes_target (E : PortEnv) (m : Deployment) (tid jid : String) (s₀ : DeploymentWorld m)
    (reqs : List (PortRequest × List PortChoice))
    (hfenced : ∀ x ∈ servePortV2 E m s₀ reqs, onJob tid jid x.req = true →
      x.req.2.operation = .portReconfigureReconcile → ∀ l, x.pre.jobs tid jid = some l → l.startable = false) :
    (servePortV2 E m s₀ reqs).Pairwise (fun x y => onJob tid jid x.req = true → onJob tid jid y.req = true →
      reconcileConsumed x = true → writesTarget E y = false) := by
  refine (serve_marked (I := fun _ => True) (K := fun s => spent (s.jobs tid jid) = true)
    (A := fun x => onJob tid jid x.req = true → x.req.2.operation = .portReconfigureReconcile →
      ∀ l, x.pre.jobs tid jid = some l → l.startable = false)
    (H := fun x => onJob tid jid x.req = true ∧ reconcileConsumed x = true)
    (R := fun y => onJob tid jid y.req = true → writesTarget E y = false) (fun _ _ _ _ _ => trivial)
    (fun q s cs _ hadm h => ?_) (fun q s cs _ _ hK => ⟨fun hq => ?_, ?_⟩) trivial reqs hfenced).1.imp
      fun h hx hy hw => h ⟨hx, hw⟩ hy
  · obtain ⟨hq, hc⟩ := h
    obtain ⟨plan, hplan, rfl, rfl⟩ := onJob_plan hq
    have hsound := (entry_sound (E := E) (s := s) hplan cs).1
    simp only [reconcileConsumed, Bool.and_eq_true, beq_iff_eq, List.any_eq_true] at hc
    obtain ⟨hop, hgrant⟩ := hc
    obtain ⟨l, hl⟩ := Option.isSome_iff_exists.1 (hsound.reconcile hop hgrant)
    refine (entry_later _ _ q s cs).1.spent ?_
    have hl : s.jobs plan.targetID plan.jobID = some l := hl
    simp [spent, hl, hadm hq hop l hl]
  · by_contra hw
    simp [(writesTarget_spends hq (by simpa using hw)).1] at hK
  · exact (entry_later tid jid q s cs).1.spent hK

/-- in the latched run the reconcile request finds `policy_write_pending`, which no forward request starts from; the one
that follows it writes no T -/
theorem latched_run_closes_target :
    (servePortV2 Sample.env .systemd Sample.world Sample.writtenThenLatched).map reconcileConsumed = [false, true, false] ∧
      (servePortV2 Sample.env .systemd Sample.world Sample.writtenThenLatched).Pairwise (fun x y =>
        onJob "svc-1" "job-1" x.req = true → onJob "svc-1" "job-1" y.req = true → reconcileConsumed x = true →
          writesTarget Sample.env y = false) :=
  ⟨sample_latches.2.1, reconcile_grant_closes_target Sample.env .systemd "svc-1" "job-1" Sample.world
    Sample.writtenThenLatched sample_latches.2.2⟩

/-- **A crash after the grant reopens T.** The reconcile request leaves the `staged` ledger as it found it until its
grant is consumed; a forward request after the crash starts from that ledger and writes the target snapshot. -/
theorem reconcile_grant_leaves_target_open :
    Sample.world.jobs "svc-1" "job-1" = none ∧
      ¬ (servePortV2 Sample.env .systemd Sample.world Sample.reconciledThenForwarded).Pairwise (fun x y =>
        onJob "svc-1" "job-1" x.req = true → onJob "svc-1" "job-1" y.req = true → reconcileConsumed x = true →
          writesTarget Sample.env y = false) :=
  ⟨rfl, by decide +kernel⟩

end Target

/-! ## The applied record -/

/-- the record carries the ports, revisions and digests of the snapshot -/
def SystemdPortAppliedState.shows (a : SystemdPortAppliedState) (ref : PortSnapshotRef) : Bool :=
  a.port == ref.localListenPort && a.endpointRevision == ref.appliedEndpointRevision &&
    a.configRevision == ref.configRevision && a.configSHA256 == ref.configSHA256 &&
    a.sourcePolicyRevision == ref.sourcePolicyRevision && a.updaterPolicyRevision == ref.projectionRevision &&
    a.executorPolicyRevision == ref.executorPolicyRevision && a.executorPolicySHA256 == ref.executorPolicySHA256

/-- the record carries the ports, revisions and digests of the snapshot -/
def DockerPortAppliedState.shows (a : DockerPortAppliedState) (ref : PortSnapshotRef) : Bool :=
  (ref.docker.any fun d => a.publishedPort == d.publishedPort && a.containerPort == d.containerPort &&
      a.healthPort == d.healthPort) &&
    a.endpointRevision == ref.appliedEndpointRevision && a.configRevision == ref.configRevision &&
    a.configSHA256 == ref.configSHA256 && a.sourcePolicyRevision == ref.sourcePolicyRevision &&
    a.updaterPolicyRevision == ref.projectionRevision && a.executorPolicyRevision == ref.executorPolicyRevision &&
    a.executorPolicySHA256 == ref.executorPolicySHA256

def Deployment.shows : (m : Deployment) → m.Applied → PortSnapshotRef → Bool
  | .systemd, a, ref => SystemdPortAppliedState.shows a ref
  | .docker, a, ref => DockerPortAppliedState.shows a ref

/-- the applied record shows the snapshot of the result: B for `unchanged`, T for `applied`, R for `rolled_back` -/
def Deployment.recordShows (m : Deployment) (plan : SystemdPortReconfigurePlan) (k : PortResultKind)
    (applied : Option m.Applied) : Bool :=
  (portV2ResultSnapshot plan k).any fun ref => applied.any fun a => m.shows a ref

/-- the job's ledger is terminal with the result, and the target's applied record shows its snapshot -/
def resultStands {m : Deployment} (tid jid : String) (r : SystemdPortReconfigureResult) (s : DeploymentWorld m) : Bool :=
  (s.jobs tid jid).any fun l => l.state == .terminal && l.result == some r &&
    m.recordShows l.plan r.result (s.applied tid)

/-- the request is about some job of the target `tid` -/
def onTarget (tid : String) (q : PortRequest) : Bool := q.2.portPlan.any fun p => p.targetID == tid

section Applied

variable {E : PortEnv} {m : Deployment} {tid jid : String} {q : PortRequest} {s : DeploymentWorld m}
  {r : SystemdPortReconfigureResult}

/-- the record written for a result shows the result's snapshot -/
theorem appliedFor_shows {l : PortLedger m.Baseline} {a : m.Applied} (h : m.appliedFor l r = some a)
    (hl : Concluded l r) : m.recordShows l.plan r.result (some a) = true := by
  obtain ⟨ref, href⟩ := Option.isSome_iff_exists.1 hl.snapshot
  cases m with
  | systemd =>
    obtain rfl : systemdPortAppliedStateForResult l.plan r = a := by simpa [Deployment.appliedFor] using h
    simp [Deployment.recordShows, Deployment.shows, SystemdPortAppliedState.shows, systemdPortAppliedStateForResult,
      href, hl.version]
  | docker =>
    simp only [Deployment.appliedFor, dockerAppliedFor, href, Option.pure_def, Option.bind_eq_bind, Option.bind_some,
      Option.bind_eq_some_iff, Option.some.injEq] at h
    obtain ⟨d, hd, rfl⟩ := h
    simp [Deployment.recordShows, Deployment.shows, DockerPortAppliedState.shows, href, hd]

/-- a request on another target leaves the job and the applied record of this one alone -/
theorem entry_otherTarget (h : onTarget tid q = false) (cs : List PortChoice) :
    let s' := ((executePortV2Request E m q).exec (portNext E) s cs).st
    s'.jobs tid jid = s.jobs tid jid ∧ s'.applied tid = s.applied tid := by
  have hjob : onJob tid jid q = false := by
    cases hplan : q.2.portPlan <;> simp_all [onJob, onTarget]
  refine ⟨entry_otherJob hjob cs, ?_⟩
  cases hplan : q.2.portPlan with
  | none =>
    cases m <;> simp [executePortV2Request, executeSystemdPortV2Request, executeDockerPortV2Request, hplan] <;> rfl
  | some plan =>
    refine (entry_sound hplan cs).1.elsewhere tid ?_
    rintro rfl
    simp [onTarget, hplan] at h

/-- a request on a terminal job leaves the job and the applied record alone -/
theorem entry_closed (hq : onJob tid jid q = true) (h : closed (s.jobs tid jid) = true) (cs : List PortChoice) :
    let s' := ((executePortV2Request E m q).exec (portNext E) s cs).st
    s'.jobs tid jid = s.jobs tid jid ∧ s'.applied tid = s.applied tid := by
  obtain ⟨plan, hplan, rfl, rfl⟩ := onJob_plan hq
  exact (entry_sound (E := E) hplan cs).1.closed h

/-- no other job works on the target meanwhile, and every terminal ledger the request writes is followed by a successful
write of the applied record -/
def RecordsClosing (tid jid : String) (x : PortEntry m) : Prop :=
  onTarget tid x.req = true → onJob tid jid x.req = true ∧ unrecorded x.run.steps = false

/-- a terminal ledger of the job has its applied record in place -/
def InPlace (tid jid : String) (s : DeploymentWorld m) : Prop :=
  ∀ l r, s.jobs tid jid = some l → l.state = .terminal → l.result = some r →
    m.recordShows l.plan r.result (s.applied tid) = true

/-- a request that writes the record after the terminal ledger keeps the record in place -/
theorem InPlace.entry (h : InPlace tid jid s) (hx : RecordsClosing tid jid (entryOf E q s cs)) :
    InPlace tid jid (entryOf E q s cs).run.st := by
  have hsame : ∀ {s' : DeploymentWorld m}, s'.jobs tid jid = s.jobs tid jid ∧ s'.applied tid = s.applied tid →
      InPlace tid jid s' := fun hs l r hl hst hr => hs.2 ▸ h l r (hs.1 ▸ hl) hst hr
  cases ht : onTarget tid q with
  | false => exact hsame (entry_otherTarget ht cs)
  | true =>
    obtain ⟨hq, hrec⟩ := hx ht
    cases hopen : closed (s.jobs tid jid) with
    | true => exact hsame (entry_closed hq hopen cs)
    | false =>
      obtain ⟨plan, hplan, rfl, rfl⟩ := onJob_plan hq
      intro l r hl hst hr
      -- the ledger was closed by this request, so the session says what became of its record
      rcases (entry_sound (E := E) (s := s) hplan cs).1.recorded hopen (closed_of_terminal hl hst) with
        ⟨r', l', a, hl', hcon, happ, hset⟩ | hun
      · obtain rfl : l' = l := Option.some.inj (hl'.symm.trans hl)
        obtain rfl : r' = r := Option.some.inj (hcon.result.symm.trans hr)
        exact hset ▸ appliedFor_shows happ hcon
      · exact absurd (hun.symm.trans hrec) (by decide)

theorem Concluded.stands {l : PortLedger m.Baseline} (h : Concluded l r) (hl : s.jobs tid jid = some l)
    (hs : m.recordShows l.plan r.result (s.applied tid) = true) : resultStands tid jid r s = true := by
  simp [resultStands, hl, h.state, h.result, hs]

/-- a result that is returned stands in the state the request leaves -/
theorem returned_stands {i h : String} (hq : onJob tid jid q = true) (hs : InPlace tid jid s)
    (hout : (entryOf E q s cs).run.out = some (.result i h r)) (hr : r.result ≠ .rollbackFailed) :
    resultStands tid jid r (entryOf E q s cs).run.st = true := by
  obtain ⟨plan, hplan, rfl, rfl⟩ := onJob_plan hq
  rcases ((entry_sound (E := E) (s := s) hplan cs).2 _ hout).accepted i h r rfl hr with
    ⟨l, a, hled, hcon, happ, hset⟩ | ⟨l, hled, hcon⟩
  · exact hcon.stands hled (hset ▸ appliedFor_shows happ hcon)
  · -- the ledger was already terminal: nothing is written, so what the request found is what it leaves
    obtain ⟨hj, ha⟩ := entry_closed (E := E) hq (closed_of_terminal hled hcon.state) cs
    exact hcon.stands (hj.trans hled) (ha ▸ hs l r hled hcon.state hcon.result)

/-- a result that stands keeps standing -/
theorem resultStands_kept (hx : RecordsClosing tid jid (entryOf E q s cs)) (h : resultStands tid jid r s = true) :
    resultStands tid jid r (entryOf E q s cs).run.st = true := by
  have hkeep : (entryOf E q s cs).run.st.jobs tid jid = s.jobs tid jid ∧
      (entryOf E q s cs).run.st.applied tid = s.applied tid := by
    cases ht : onTarget tid q with
    | false => exact entry_otherTarget ht cs
    | true =>
      refine entry_closed (hx ht).1 ?_ cs
      obtain ⟨l, hl, hst⟩ := (Option.any_eq_true _ _).1 h
      simp only [Bool.and_eq_true, beq_iff_eq] at hst
      exact closed_of_terminal hl hst.1.1
  unfold resultStands
  rw [hkeep.1, hkeep.2]
  exact h

/-- **A returned result stands.** In every run of a job, with requests on other targets between its own, in which each
terminal ledger is followed by a successful write of the applied record in the same request: an accepted result that some
request returned is the terminal ledger's result, and the target's applied record shows the snapshot it names. -/
theorem returned_result_recorded (E : PortEnv) (m : Deployment) (tid jid : String) (s₀ : DeploymentWorld m)
    (h₀ : s₀.jobs tid jid = none) (reqs : List (PortRequest × List PortChoice))
    (hclosing : ∀ x ∈ servePortV2 E m s₀ reqs, RecordsClosing tid jid x) :
    ∀ x ∈ servePortV2 E m s₀ reqs, onJob tid jid x.req = true → ∀ i h r, x.run.out = some (.result i h r) →
      r.result ≠ .rollbackFailed →
        resultStands tid jid r (final (portNext E) PortWorld.restart (executePortV2Request E m) s₀ reqs) = true := by
  intro x hx hq i h r hout hr
  have hstart : InPlace tid jid s₀ := fun l r hl => by simp [h₀] at hl
  refine (serve_marked (I := InPlace tid jid) (K := fun s => resultStands tid jid r s = true)
    (A := RecordsClosing tid jid) (H := fun x => onJob tid jid x.req = true ∧ x.run.out = some (.result i h r))
    (R := fun _ => True) (fun q s cs hs ha => ?_) (fun q s cs hs ha hmark => ?_) (fun q s cs hs ha hK => ⟨trivial, ?_⟩)
    hstart reqs hclosing).2 x hx ⟨hq, hout⟩
  · simpa [InPlace] using hs.entry ha
  · simpa [resultStands] using returned_stands hmark.1 hs hmark.2 hr
  · simpa [resultStands] using resultStands_kept ha hK

namespace Sample

/-- a forward request that runs to its end -/
def applied : List (PortRequest × List PortChoice) := play world [(forward, 69)]

/-- a crash after the `committing` ledger, a crash after the `terminal` ledger, each right before the applied record,
and a third request -/
def terminalWithoutRecord : List (PortRequest × List PortChoice) :=
  let reconcile := request 2 .portReconfigureReconcile "job-1"
  play world [(forward, 64), (reconcile, 9), (reconcile, 7)]

/-- the kind of the result that the request returned -/
def returned (x : PortEntry .systemd) : Option PortResultKind :=
  match x.run.out with
  | some (.result _ _ r) => some r.result
  | _ => none

end Sample

/-- what the run returns, with its record -/
theorem sample_applied : ∀ x ∈ servePortV2 Sample.env .systemd Sample.world Sample.applied,
    Sample.returned x = some .applied ∧ onJob "svc-1" "job-1" x.req = true ∧ unrecorded x.run.steps = false := by
  decide +kernel

/-- the forward request that runs to its end writes its record and returns `applied`, and the result stands -/
theorem applied_run_recorded :
    (∀ x ∈ servePortV2 Sample.env .systemd Sample.world Sample.applied, Sample.returned x = some .applied ∧
        onJob "svc-1" "job-1" x.req = true ∧ unrecorded x.run.steps = false) ∧
      ∀ x ∈ servePortV2 Sample.env .systemd Sample.world Sample.applied, onJob "svc-1" "job-1" x.req = true →
        ∀ i h r, x.run.out = some (.result i h r) → r.result ≠ .rollbackFailed →
          resultStands "svc-1" "job-1" r (final (portNext Sample.env) PortWorld.restart
            (executePortV2Request Sample.env .systemd) Sample.world Sample.applied) = true := by
  exact ⟨sample_applied, returned_result_recorded Sample.env .systemd "svc-1" "job-1" Sample.world rfl Sample.applied
    fun x hx _ => (sample_applied x hx).2⟩

/-- **A result without its record.** The third request finds the terminal ledger and the runtime it names, and returns
`applied` while the target has no applied record at all. -/
theorem returned_result_unrecorded :
    (servePortV2 Sample.env .systemd Sample.world Sample.terminalWithoutRecord).map (fun x =>
        (Sample.returned x, (x.run.st.jobs "svc-1" "job-1").map (·.state),
          (x.run.st.jobs "svc-1" "job-1").bind fun l => l.result.map (·.result), x.run.st.applied "svc-1")) =
      [(none, some .committing, some .applied, none), (none, some .terminal, some .applied, none),
        (some .applied, some .terminal, some .applied, none)] := by
  decide +kernel

end Applied
end AutostreamUpdater.Port
