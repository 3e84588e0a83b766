/-
Results and ledgers along runs of version 2 port requests.

  * `accepted_result_immutable_and_truthful`: a stored result stays, every later request on the job answers with it or
    fails, and when it was first written disk and memory held the policy of the snapshot it names and the runtime had just
    been seen there.
  * `own_ledgers_pass_their_validator`: from valid ledgers, and while the clock runs and observed containers have their
    mapping file, every ledger handed to the store passes its validator, and a run is the same with the validators taken
    out: a save fails only on I/O or on the immutable result.
-/
import AutostreamUpdater.Port.Kept
import AutostreamUpdater.Port.Runs

namespace AutostreamUpdater.Port

open Contract Base Prog

/-! ## One request -/

section Entry

variable {E : PortEnv} {m : Deployment}

/-- the mode's name on the wire -/
def Deployment.text : Deployment → String
  | .systemd => modeSystemd
  | .docker => modeDocker

/-- what the mode accepts as evidence of a snapshot -/
def Deployment.evidence (E : PortEnv) : (m : Deployment) → Evidence m.Baseline m.Applied
  | .systemd => systemdShows E
  | .docker => dockerShows E

/-- the mode's ledger validator -/
def Deployment.validateLedger (E : PortEnv) : (m : Deployment) → PortLedger m.Baseline → String → Bool
  | .systemd => validateSystemdPortLedger E
  | .docker => validateDockerPortLedger E

/-- the adapter the request's target resolves to -/
def adapterOf (q : PortRequest) : Option DockerPortAdapter :=
  q.2.portPlan.bind fun plan => (q.1.target plan.targetID).bind fun target =>
    dockerPortAdapterFor target.serviceType target.docker

/-- the driver that handles the request -/
def driverFor (E : PortEnv) : (m : Deployment) → PortRequest → PortV2Driver m.Baseline m.Applied
  | .systemd, _ => systemdPortV2Driver E
  | .docker, q => dockerPortV2Driver E ((adapterOf q).getD ⟨"", "", "", ""⟩)

/-- the request is for a target of the mode, as the dispatcher makes sure -/
def Dispatched (m : Deployment) (q : PortRequest) : Prop :=
  ∀ plan target, q.2.portPlan = some plan → q.1.target plan.targetID = some target → target.deploymentMode = m.text

/-- every stored ledger passes its validator -/
def StoreValid (E : PortEnv) (m : Deployment) (s : DeploymentWorld m) : Prop :=
  ∀ t j l, s.jobs t j = some l → m.validateLedger E l t = true

/-- while the job is unfinished, disk and memory hold one of its canonical payloads -/
def WithinTransaction {β A : Type} (E : PortEnv) (tid jid : String) (s : PortWorld β A) : Prop :=
  ∀ l, s.jobs tid jid = some l → l.plan.portContractVersion = 2 → l.state ≠ .terminal → Inside E l.candidates s

/-- the payloads of the request's job: those of its ledger, or those the first request builds -/
def candidatesFor {β A : Type} (E : PortEnv) (policy : LocalExecutorPolicy) (plan : SystemdPortReconfigurePlan)
    (s : PortWorld β A) : PortPolicyCandidates :=
  match ledgerOf plan s with
  | some l => l.candidates
  | none => (buildSystemUpdatePortPolicyCandidates E policy plan).getD ⟨[], [], []⟩

/-- the transaction a request takes part in -/
def transactionOf (E : PortEnv) (m : Deployment) (q : PortRequest) (plan : SystemdPortReconfigurePlan)
    (s : DeploymentWorld m) : Transaction m.Baseline m.Applied where
  env := E
  driver := driverFor E m q
  shows := m.evidence E
  mode := m.text
  plan := plan
  candidates := candidatesFor E q.1 plan s
  inside := WithinTransaction E plan.targetID plan.jobID s
  sane := ContractsSound E ∧ Dispatched m q ∧ StoreValid E m s

/-- the mode's entry point with the validators of its store taken out -/
def executePortV2RequestUnchecked (E : PortEnv) :
    (m : Deployment) → PortRequest → PortProg m.Baseline m.Applied PortResponse
  | .systemd, q => match q.2.portPlan with
    | none => return .failure .stateUnavailable
    | some plan => match (q.1.target plan.targetID).bind fun target => target.systemd.bind fun s =>
        systemdPortAdapterFor target.serviceType s.unit with
      | none => return .failure .configMismatch
      | some _ => executePortV2 E (systemdPortV2Driver E).unchecked q.1 q.2
  | .docker, q => match q.2.portPlan with
    | none => return .failure .stateUnavailable
    | some plan => match (q.1.target plan.targetID).bind fun target =>
        dockerPortAdapterFor target.serviceType target.docker with
      | none => return .failure .configMismatch
      | some adapter => executePortV2 E (dockerPortV2Driver E adapter).unchecked q.1 q.2

variable {q : PortRequest} {plan : SystemdPortReconfigurePlan} {s : DeploymentWorld m}
  {tr : List (PortStep m.Baseline m.Applied)}

theorem driverFor_validateLedger : (driverFor E m q).mode.validateLedger = m.validateLedger E := by
  cases m <;> rfl

theorem driverFor_lawful : (driverFor E m q).Lawful E := by
  cases m with
  | systemd => exact systemdPortV2Driver_lawful
  | docker => exact dockerPortV2Driver_lawful _

theorem driverFor_observed : (driverFor E m q).Observed E (m.evidence E) m.text := by
  cases m with
  | systemd => exact systemdPortV2Driver_observed
  | docker => exact dockerPortV2Driver_observed _

theorem driverFor_validated : (driverFor E m q).Validated E m.text := by
  cases m with
  | systemd => exact systemdPortV2Driver_validated
  | docker => exact dockerPortV2Driver_validated _

/-- the invariant holds where a request starts -/
theorem Kept.start : Kept (transactionOf E m q plan s) [] s where
  steps := by simp
  fixed := by
    intro l hl
    have hl : ledgerOf plan s = some l := hl
    simp [transactionOf, candidatesFor, hl]
  allowed := by
    intro hin l hl hv hst
    have hl' : ledgerOf plan s = some l := hl
    have hc : (transactionOf E m q plan s).candidates = l.candidates := by simp [transactionOf, candidatesFor, hl']
    rw [hc]
    exact hin l hl hv hst
  truthful := by simp
  valid := by
    intro ha t j l hl
    change (driverFor E m q).mode.validateLedger l t = true
    rw [driverFor_validateLedger]
    exact ha.1.2.2 t j l hl
  passed := by simp

/-- the coordinator, in the transaction its request takes part in -/
theorem executePortV2_transaction (hplan : q.2.portPlan = some plan) (h : Kept (transactionOf E m q plan s) tr s) :
    Serves (transactionOf E m q plan s) (executePortV2 E (driverFor E m q) q.1 q.2)
      (executePortV2 E (driverFor E m q).unchecked q.1 q.2) tr s := by
  refine executePortV2_preserves (T := transactionOf E m q plan s) driverFor_lawful driverFor_observed
    (fun hs => ⟨hs.1, driverFor_validated⟩) q.1 q.2 hplan (fun hs target => hs.2.1 plan target hplan) ?_ h
  intro hnone c hc
  have hnone : ledgerOf plan s = none := hnone
  have hc : buildSystemUpdatePortPolicyCandidates E q.1 plan = some c := hc
  simp [transactionOf, candidatesFor, hnone, hc]

theorem executePortV2Request_preserves (hplan : q.2.portPlan = some plan) (h : Kept (transactionOf E m q plan s) tr s) :
    Serves (transactionOf E m q plan s) (executePortV2Request E m q) (executePortV2RequestUnchecked E m q) tr s := by
  have hcoord := executePortV2_transaction hplan h
  cases m with
  | systemd =>
    simp only [executePortV2Request, executePortV2RequestUnchecked, executeSystemdPortV2Request, hplan]
    cases (q.1.target plan.targetID).bind fun target => target.systemd.bind fun s =>
        systemdPortAdapterFor target.serviceType s.unit with
    | none => exact serves_return h _
    | some _ => exact hcoord
  | docker =>
    simp only [executePortV2Request, executePortV2RequestUnchecked, executeDockerPortV2Request, hplan]
    cases hadapter : (q.1.target plan.targetID).bind fun target =>
        dockerPortAdapterFor target.serviceType target.docker with
    | none => exact serves_return h _
    | some adapter =>
      have hd : driverFor E .docker q = dockerPortV2Driver E adapter := by
        simp [driverFor, adapterOf, hplan, hadapter]
      rw [hd] at hcoord
      exact hcoord

/-- one handled request keeps the invariant, and with live answers it does not notice the validators -/
theorem entry_kept (hplan : q.2.portPlan = some plan) (cs : List PortChoice) :
    let e := (executePortV2Request E m q).exec (portNext E) s cs
    Kept (transactionOf E m q plan s) e.steps e.st ∧ ((transactionOf E m q plan s).Alive e.steps →
      (executePortV2RequestUnchecked E m q).exec (portNext E) s cs = e) := by
  obtain ⟨hwp, hagree⟩ := executePortV2Request_preserves (E := E) (m := m) (s := s) hplan Kept.start
  have hkept := (wp_exec hwp cs).1
  rw [List.nil_append] at hkept
  refine ⟨hkept, fun ha => hagree cs ?_⟩
  rw [List.nil_append]
  exact ha

end Entry

/-! ## Stored results -/

section Results

variable {E : PortEnv} {m : Deployment} {tid jid : String}

/-- the result stored for the job -/
def storedResult {β A : Type} (tid jid : String) (s : PortWorld β A) : Option SystemdPortReconfigureResult :=
  (s.jobs tid jid).bind (·.result)

/-- a ledger with a result is answered from it, or not at all -/
theorem resumePortV2_answers {β A : Type} (D : PortV2Driver β A) (l : PortLedger β) (plan : SystemdPortReconfigurePlan)
    (result : SystemdPortReconfigureResult) :
    (resumePortV2 E D l plan result).Only (fun _ => True) fun x => ∀ i h r, x = .result i h r → r = result := by
  have hanswer : ∀ i h r, localExecutorPortResponse plan result = .result i h r → r = result := by
    intro i h r hr
    unfold localExecutorPortResponse at hr
    split at hr <;> cases hr
    rfl
  unfold resumePortV2
  refine only_ite (by simp) ?_
  split
  · simp
  refine only_seq (only_any _) fun ok _ => ?_
  refine only_ite (by simp) ?_
  refine only_ite ?_ (by simpa using hanswer)
  refine only_seq (only_any _) fun ok _ => ?_
  exact only_ite (by simp) (by simpa using hanswer)

/-- **Answers of a finished job.** Once a result is stored, a request on the job answers with it or fails. -/
theorem executePortV2_answers {β A : Type} {T : Transaction β A} {s : PortWorld β A} {tr : PortTrace β A}
    {result : SystemdPortReconfigureResult} (policy : LocalExecutorPolicy) (request : LocalExecutorRequest)
    (hplan : request.portPlan = some T.plan) (h : Kept T tr s) (hres : (ledgerOf T.plan s).bind (·.result) = some result) :
    (executePortV2 T.env T.driver policy request).wp (portNext T.env) (fun _ _ => True)
      (fun x _ _ => ∀ i h r, x = .result i h r → r = result) tr s := by
  unfold executePortV2
  rw [hplan]
  cases request.mutationGrantV2Binding with
  | none => exact ⟨trivial, by simp⟩
  | some binding =>
  dsimp only
  refine wp_ite (fun _ => ⟨trivial, by simp⟩) fun _ => ?_
  refine wp_op_bind trivial fun c => ?_
  have h1 : Kept T (tr ++ [stepOf (portNext T.env) s .now c]) s := h.idle (o := .now) (c := c) rfl
  change wp (portNext T.env) _ _ _ _ s
  split
  case h_2 => exact ⟨trivial, by simp⟩
  refine wp_ite (fun _ => ⟨trivial, by simp⟩) fun _ => ?_
  refine wp_seq (wp_weaken (portV2Load_loads kept_loads h1 _).1 fun _ _ _ => trivial) fun x tr2 s2 _ hx => ?_
  obtain ⟨rfl, -, hload⟩ := hx
  rcases x with _ | _ | l
  · exact ⟨trivial, by simp⟩
  · rw [(hload none rfl).1] at hres
    cases hres
  · rw [(hload (some l) rfl).1, Option.bind_some] at hres
    dsimp only
    refine wp_ite (fun _ => ⟨trivial, by simp⟩) fun _ => ?_
    rw [hres]
    exact wp_post (only_wp (I := fun _ _ => True) (resumePortV2_answers T.driver l T.plan result)
      (fun _ _ _ _ _ _ => trivial) (fun _ _ h => h) trivial) fun _ _ _ _ hx => hx.2

theorem entry_answers {q : PortRequest} {s : DeploymentWorld m} {result : SystemdPortReconfigureResult}
    (hq : onJob tid jid q = true) (hres : storedResult tid jid s = some result) (cs : List PortChoice) {i h : String}
    {r : SystemdPortReconfigureResult} (hout : (entryOf E q s cs).run.out = some (.result i h r)) : r = result := by
  obtain ⟨plan, hplan, rfl, rfl⟩ := onJob_plan hq
  have hwp : (executePortV2Request E m q).wp (portNext E) (fun _ _ => True)
      (fun x _ _ => ∀ i h r, x = .result i h r → r = result) [] s := by
    have hcoord := executePortV2_answers (T := transactionOf E m q plan s) q.1 q.2 hplan Kept.start hres
    cases m with
    | systemd =>
      simp only [executePortV2Request, executeSystemdPortV2Request, hplan]
      split
      · exact ⟨trivial, by simp⟩
      · exact hcoord
    | docker =>
      simp only [executePortV2Request, executeDockerPortV2Request, hplan]
      split
      · exact ⟨trivial, by simp⟩
      · next adapter hadapter =>
        have hd : driverFor E .docker q = dockerPortV2Driver E adapter := by
          simp [driverFor, adapterOf, hplan, hadapter]
        simp only [transactionOf, hd] at hcoord
        exact hcoord
  exact (wp_exec hwp cs).2 _ hout i h r rfl

/-- a stored result survives every request, on whatever job -/
theorem entry_keepsResult (tid jid : String) (q : PortRequest) (s : DeploymentWorld m) (cs : List PortChoice) :
    let e := (executePortV2Request E m q).exec (portNext E) s cs
    (∀ r, storedResult tid jid s = some r → storedResult tid jid e.st = some r) ∧
      ∀ st ∈ e.steps, ∀ r, storedResult tid jid st.post = some r → storedResult tid jid e.st = some r := by
  cases hq : onJob tid jid q with
  | true =>
    obtain ⟨plan, hplan, rfl, rfl⟩ := onJob_plan hq
    have h := (entry_sound (E := E) (s := s) hplan cs).1
    exact ⟨h.begun.result, fun st hst => (h.later st hst).result⟩
  | false =>
    refine ⟨fun r hr => by simpa only [storedResult, entry_otherJob hq cs] using hr, ?_⟩
    intro st hst r hr
    obtain ⟨before, rest, hsplit⟩ := List.append_of_mem hst
    have hcut := exec_cut (portNext E) (p := executePortV2Request E m q) (s := s) hsplit
    have hpost := entry_otherJob (E := E) (s := s) hq (cs.take (before.length + 1))
    rw [hcut.2] at hpost
    simpa only [storedResult, hpost, entry_otherJob hq cs] using hr

/-- **Accepted results.** In every run, with any leases, sessions and crashes: a stored result is never changed or
removed; every later request on the job answers with exactly it or fails; and wherever a ledger with the job's first
result is handed to the store, disk and memory hold the policy of the snapshot the result names, and the runtime was seen
at that snapshot with nothing but reads of records and of the clock since. -/
theorem accepted_result_immutable_and_truthful (E : PortEnv) (m : Deployment) (tid jid : String)
    (s₀ : DeploymentWorld m) (reqs : List (PortRequest × List PortChoice)) :
    (trace (servePortV2 E m s₀ reqs)).Pairwise (fun st st' => ∀ r, storedResult tid jid st.post = some r →
      storedResult tid jid st'.post = some r) ∧
    (servePortV2 E m s₀ reqs).Pairwise (fun x y => ∀ st ∈ x.run.steps, ∀ r, storedResult tid jid st.post = some r →
      storedResult tid jid y.pre = some r) ∧
    (∀ x ∈ servePortV2 E m s₀ reqs, ∀ r, storedResult tid jid x.pre = some r →
      (∀ st ∈ x.run.steps, storedResult tid jid st.post = some r) ∧
      (onJob tid jid x.req = true → ∀ i h r', x.run.out = some (.result i h r') → r' = r)) ∧
    ∀ x ∈ servePortV2 E m s₀ reqs, ∀ plan, x.req.2.portPlan = some plan → ∀ before st l r,
      before ++ [st] <+: x.run.steps → Stores plan l r st → Witnessed E (m.evidence E) before st.pre l r := by
  have hsettle : ∀ (e : Exec (DeploymentWorld m) (PortRes (β := m.Baseline) (A := m.Applied)) PortResponse) r,
      storedResult tid jid e.st = some r → storedResult tid jid (settle PortWorld.restart e) = some r := by
    intro e r hr
    simpa only [storedResult, settle_jobs] using hr
  have hmono := serve_monotone (R := fun s s' => ∀ r, storedResult tid jid s = some r → storedResult tid jid s' = some r)
    (fun _ _ _ h h' r hr => h' r (h r hr)) (entry_keepsResult (E := E) tid jid) hsettle s₀ reqs
  refine ⟨hmono.1, hmono.2.1, ?_, ?_⟩
  · refine (serve_forall (A := fun _ => True) (I := fun _ => True) (fun q s cs _ _ => ⟨?_, trivial⟩) trivial reqs
      fun _ _ => trivial).1
    intro r hr
    refine ⟨?_, fun hq i h r' hout => entry_answers hq hr cs hout⟩
    intro st hst
    obtain ⟨before, rest, hsplit⟩ := List.append_of_mem hst
    have hcut := Prog.exec_cut (portNext E) (p := executePortV2Request E m q) (s := s) hsplit
    have hkept := (entry_keepsResult (E := E) tid jid q s (cs.take (before.length + 1))).1 r hr
    rw [hcut.2] at hkept
    exact hkept
  · refine (serve_forall (A := fun _ => True) (I := fun _ => True) (fun q s cs _ _ => ⟨?_, trivial⟩) trivial reqs
      fun _ _ => trivial).1
    intro plan hplan before st l r hpre hst
    exact (entry_kept (E := E) (s := s) hplan cs).1.truthful before st l r hpre hst

end Results

/-! ## Validators -/

section Validators

/-- runs in which the store's validators are taken out -/
def servePortV2Unchecked (E : PortEnv) (m : Deployment) (s₀ : DeploymentWorld m)
    (reqs : List (PortRequest × List PortChoice)) : List (PortEntry m) :=
  serve (portNext E) PortWorld.restart (executePortV2RequestUnchecked E m) s₀ reqs

variable {E : PortEnv} {m : Deployment}

/-- the request's target is of the mode, the clock showed a time and observed containers had their mapping file -/
def Admissible (x : PortEntry m) : Prop := Dispatched m x.req ∧ ∀ st ∈ x.run.steps, liveStep st

/-- one admissible request on valid ledgers -/
theorem entry_valid (hE : ContractsSound E) (q : PortRequest) (s : DeploymentWorld m) (cs : List PortChoice)
    (hs : StoreValid E m s) (ha : Admissible (entryOf E q s cs)) :
    let e := (executePortV2Request E m q).exec (portNext E) s cs
    (executePortV2RequestUnchecked E m q).exec (portNext E) s cs = e ∧ StoreValid E m e.st ∧
      ∀ st ∈ e.steps, ∀ l, st.op = .writeJob l → m.validateLedger E l l.plan.targetID = true := by
  cases hplan : q.2.portPlan with
  | none =>
    cases m <;> simp only [executePortV2Request, executePortV2RequestUnchecked, executeSystemdPortV2Request,
      executeDockerPortV2Request, hplan] <;> exact ⟨by trivial, hs, by simp [Prog.exec, pure]⟩
  | some plan =>
    obtain ⟨hkept, hagree⟩ := entry_kept (E := E) (s := s) hplan cs
    have halive : (transactionOf E m q plan s).Alive ((executePortV2Request E m q).exec (portNext E) s cs).steps :=
      ⟨⟨hE, ha.1, hs⟩, ha.2⟩
    have hmode : (transactionOf E m q plan s).driver.mode.validateLedger = m.validateLedger E :=
      driverFor_validateLedger
    refine ⟨hagree halive, ?_, ?_⟩
    · intro t j l hl
      rw [← hmode]
      exact hkept.valid halive t j l hl
    · intro st hst l hop
      rw [← hmode]
      exact hkept.passed halive st hst l hop

/-- **Self-written ledgers.** From valid ledgers, in every run of admissible requests with any crashes, leases and
sessions: every ledger handed to the store passes its validator, every stored ledger is valid at every point, and the run
is the one without validators, so that a save fails only on I/O or on the immutable result. -/
theorem own_ledgers_pass_their_validator (E : PortEnv) (m : Deployment) (hE : ContractsSound E)
    (s₀ : DeploymentWorld m) (h₀ : StoreValid E m s₀) (reqs : List (PortRequest × List PortChoice))
    (hadm : ∀ x ∈ servePortV2 E m s₀ reqs, Admissible x) :
    (∀ x ∈ servePortV2 E m s₀ reqs,
      (∀ st ∈ x.run.steps, ∀ l, st.op = .writeJob l → m.validateLedger E l l.plan.targetID = true) ∧
      StoreValid E m x.pre ∧ ∀ st ∈ x.run.steps, StoreValid E m st.post) ∧
    servePortV2Unchecked E m s₀ reqs = servePortV2 E m s₀ reqs := by
  have hsettle : ∀ e : Exec (DeploymentWorld m) (PortRes (β := m.Baseline) (A := m.Applied)) PortResponse,
      StoreValid E m e.st → StoreValid E m (settle PortWorld.restart e) := by
    intro e he t j l hl
    rw [settle_jobs] at hl
    exact he t j l hl
  constructor
  · refine (serve_forall (I := StoreValid E m) (A := Admissible) (fun q s cs hs ha => ?_) h₀ reqs hadm).1
    obtain ⟨-, hst, hwritten⟩ := entry_valid hE q s cs hs ha
    refine ⟨⟨hwritten, hs, ?_⟩, hsettle _ hst⟩
    intro st hmem
    obtain ⟨before, rest, hsplit⟩ := List.append_of_mem hmem
    have hcut := Prog.exec_cut (portNext E) (p := executePortV2Request E m q) (s := s) hsplit
    -- a request cut after the step is admissible as well
    have hadm' : Admissible (entryOf E q s (cs.take (before.length + 1))) := by
      refine ⟨ha.1, ?_⟩
      intro x hx
      have hx : x ∈ ((executePortV2Request E m q).exec (portNext E) s (cs.take (before.length + 1))).steps := hx
      rw [Prog.exec_take] at hx
      exact ha.2 x (List.mem_of_mem_take hx)
    have hvalid := (entry_valid hE q s _ hs hadm').2.1
    rw [hcut.2] at hvalid
    exact hvalid
  · refine serve_agrees (I := StoreValid E m) (A := Admissible) (fun q s cs hs ha => ?_) h₀ reqs hadm
    obtain ⟨heq, hst, -⟩ := entry_valid hE q s cs hs ha
    exact ⟨heq, hsettle _ hst⟩

end Validators

/-! ## A sound contracts package -/

namespace Sample

/-- the sample deployment with a contracts package that checks the snapshots of a plan -/
def soundEnv : PortEnv :=
  { env with validatePortPlan := fun p => [p.before, p.target, p.rollback].all fun x => x.all fun ref =>
      wellFormedSnapshot ref && ref.docker.isSome == p.before.any fun b => b.docker.isSome }

theorem soundEnv_sound : ContractsSound soundEnv where
  snapshot := by
    intro p kind ref hp href
    simp only [soundEnv, SystemdPortReconfigurePlan.sharedPortPlan, List.all_cons, List.all_nil, Bool.and_true,
      Bool.and_eq_true] at hp
    have hall : ∀ x : Option PortSnapshotRef, (x.all fun ref =>
        wellFormedSnapshot ref && ref.docker.isSome == p.before.any fun b => b.docker.isSome) = true → x = some ref →
        wellFormedSnapshot ref = true ∧ ref.docker.isSome = p.before.any fun b => b.docker.isSome := by
      rintro x hx rfl
      simpa using hx
    cases kind with
    | applied => exact hall _ hp.2.1 href
    | unchanged => exact hall _ hp.1 href
    | rolledBack => exact hall _ hp.2.2 href
    | rollbackFailed => cases href
  result := fun _ _ _ _ _ _ _ _ _ _ _ => rfl

/-- one forward request, up to the crash after its target is written -/
def written : List (PortRequest × List PortChoice) :=
  [(request 1 .portReconfigure "job-1",
    cutAfter 45 (executePortV2Request soundEnv .systemd (request 1 .portReconfigure "job-1")) world)]

/-- a step other than an observation, whose clock reading is not zero -/
def clockRuns : PortStep SystemdBaseline SystemdPortAppliedState → Bool
  | ⟨_, .now, t, _⟩ => t != (0 : ℕ)
  | ⟨_, .observe _ _, _, _⟩ => false
  | _ => true

theorem live_of_clockRuns {st : PortStep SystemdBaseline SystemdPortAppliedState} (h : clockRuns st = true) :
    liveStep st := by
  obtain ⟨pre, op, res, post⟩ := st
  cases op <;> first | trivial | simpa [clockRuns, liveStep] using h

end Sample

/-- A request that wrote seven ledgers before it crashed: all of them pass, and the validators made no difference. -/
theorem sample_ledgers_pass :
    ((servePortV2 Sample.soundEnv .systemd Sample.world Sample.written).map fun x =>
      x.run.steps.countP fun st => match st.op with | .writeJob _ => true | _ => false) = [7] ∧
    servePortV2Unchecked Sample.soundEnv .systemd Sample.world Sample.written =
      servePortV2 Sample.soundEnv .systemd Sample.world Sample.written := by
  refine ⟨by decide +kernel, (own_ledgers_pass_their_validator Sample.soundEnv .systemd Sample.soundEnv_sound
    Sample.world (fun _ _ _ h => by cases h) Sample.written ?_).2⟩
  have hclock : ((servePortV2 Sample.soundEnv .systemd Sample.world Sample.written).all fun x =>
      x.req == Sample.request 1 .portReconfigure "job-1" && x.run.steps.all Sample.clockRuns) = true := by
    decide +kernel
  intro x hx
  have hall := List.all_eq_true.1 hclock x hx
  simp only [Bool.and_eq_true, beq_iff_eq, List.all_eq_true] at hall
  refine ⟨?_, fun st hst => Sample.live_of_clockRuns (hall.2 st hst)⟩
  rw [hall.1]
  rintro plan target ⟨⟩ ⟨⟩
  rfl

end AutostreamUpdater.Port
