/-
Grants of legacy port requests: which of them change the runtime only after their own grant was consumed.

A request changes the runtime by writing or restoring the configuration file and by restarting the service (recreating the
container). `legacy_mutation_granted` orders these behind a consumed grant for every legacy request of both deployment
modes, whatever ledger it finds, with one exception: a Docker reconcile request that continues a saved ledger and finds its
target bytes in the env file works under the grant its job consumed before. `docker_reconcile_restores_ungranted` is such
a request.
-/
import AutostreamUpdater.Base.Gate
import AutostreamUpdater.Port.Ownership

namespace AutostreamUpdater.Port

open Contract Base Prog

variable {β A α γ : Type} {E : PortEnv}

/-- the operation changes the configuration file or the running service -/
def PortOp.mutates : PortOp β A → Bool
  | .writeConfig _ _ | .restoreConfig _ _ | .restart _ => true
  | _ => false

/-- the operation consumed a grant -/
def grantConsumed : (o : PortOp β A) → PortRes o → Bool
  | .consumeGrant _ _ _ _, ok => ok
  | _, _ => false

/-- the operation restored the configuration file -/
def restored : (o : PortOp β A) → PortRes o → Bool
  | .restoreConfig _ _, ok => ok
  | _, _ => false

/-- the operation read the ledger of the plan's job, which is not committing -/
def ledgerLoaded (plan : SystemdPortReconfigurePlan) : (o : PortOp β A) → PortRes o → Prop
  | .readJob t j, r => t = plan.targetID ∧ j = plan.jobID ∧ ∃ l, r = .ok (some l) ∧ l.state ≠ .committing
  | _, _ => False

/-- the step is a restore, and the file holds the target bytes it is to replace -/
def FindsTarget (E : PortEnv) (x : PortStep β A) : Prop :=
  ∃ cp target, x.op = .restoreConfig cp target ∧ x.pre.config = privateFile E target

/-- the step is a restore without effect -/
def Refused (x : PortStep β A) : Prop := (∃ cp target, x.op = .restoreConfig cp target) ∧ x.post = x.pre

/-! ## Programs that change nothing -/

/-- the program never changes the runtime -/
abbrev Still (p : PortProg β A α) : Prop := p.Only (fun o => ¬ o.mutates = true) fun _ => True

theorem Still.seq {p : PortProg β A α} {f : α → PortProg β A γ} (hp : Still p) (hf : ∀ a, Still (f a)) :
    Still (p >>= f) := only_seq hp fun a _ => hf a

theorem Still.ite {b : Prop} [Decidable b] {p q : PortProg β A α} (hp : Still p) (hq : Still q) :
    Still (if b then p else q) := only_ite hp hq

theorem Still.op {o : PortOp β A} (ho : o.mutates = false) : Still (Prog.op o : PortProg β A (PortRes o)) :=
  ⟨by simp [ho], fun _ => trivial⟩

/-- a program that only looks changes nothing -/
theorem Still.of {p : PortProg β A α} {Q : α → Prop} (hp : Quietly p Q) : Still p :=
  only_mono hp (fun o ho => by cases o <;> simp_all [PortOp.quiet, PortOp.mutates]) fun _ _ => trivial

/-- such a program passes every gate -/
theorem Still.gated {p : PortProg β A α} (hp : Still p) {G : (o : PortOp β A) → PortRes o → Prop} {P : PortOp β A → Prop}
    (hP : ∀ o, P o → o.mutates = true) : p.Gated G P fun _ => True :=
  only_gated (only_mono hp (fun o h ho => h (hP o ho)) fun _ h => h)

section Stores

variable {M : PortMode β A} {l : PortLedger β} {t j : String}

theorem saveLedger_still : Still (saveLedger M l) := by
  unfold saveLedger
  exact Still.ite trivial (Still.op rfl)

theorem saveApplied_still {a : A} : Still (saveApplied M a) := by
  unfold saveApplied
  exact Still.ite trivial (Still.op rfl)

theorem stageLedger_still : Still (stageLedger M l) := by
  unfold stageLedger
  refine Still.ite trivial ((Still.of (loadActive_reading _ _).quiet).seq fun r => ?_)
  rcases r with _ | active
  · trivial
  · exact Still.ite trivial (saveLedger_still.seq fun ok => Still.ite trivial (Still.op rfl))

theorem markAmbiguous_still : Still (markAmbiguous M l) := saveLedger_still.seq fun _ => trivial

variable {plan : SystemdPortReconfigurePlan} {result : SystemdPortReconfigureResult} {applied : A}

theorem closeRollbackFailed_still {mode message : String} : Still (closeRollbackFailed M plan l mode message) :=
  saveLedger_still.seq fun _ => Still.ite trivial trivial

theorem commitLedger_still : Still (commitLedger M plan l result applied) := by
  unfold commitLedger
  refine saveLedger_still.seq fun ok => Still.ite trivial (saveApplied_still.seq fun ok => Still.ite trivial ?_)
  refine (Still.op rfl).seq fun ok => Still.ite trivial ?_
  exact saveLedger_still.seq fun ok => Still.ite trivial trivial

theorem repairLedger_still : Still (repairLedger M plan l result applied) := by
  unfold repairLedger
  refine saveApplied_still.seq fun ok => Still.ite trivial ?_
  exact saveLedger_still.seq fun ok => Still.ite trivial trivial

end Stores

/-- With the gate still closed the grant was refused. -/
theorem consumeGrant_gated {G : (o : PortOp β A) → PortRes o → Prop} {P : PortOp β A → Prop}
    (hG : ∀ o r, grantConsumed o r = true → G o r) (hP : ∀ o, P o → o.mutates = true)
    {plan : SystemdPortReconfigurePlan} {operation : PortOperation} {version grant : String} :
    (consumeGrant plan operation version grant).Gated G P fun ok => ok = false := by
  refine ⟨fun h => by simpa [PortOp.mutates] using hP _ h, fun ok hok => ?_⟩
  have hrefused : ¬ ok = true := fun h => hok (hG _ _ h)
  exact Bool.eq_false_of_not_eq_true hrefused

/-- the program changes the runtime only behind its consumed grant -/
abbrev Granted (p : PortProg β A α) (Q : α → Prop) : Prop :=
  p.Gated (fun o r => grantConsumed o r = true) (fun o => o.mutates = true) Q

/-! ## systemd -/

section Systemd

variable {policy : LocalExecutorPolicy} {request : LocalExecutorRequest} {plan : SystemdPortReconfigurePlan}
  {target : LocalExecutorTarget} {adapter : SystemdPortAdapter} {l : SystemdPortLedger}

theorem stageSystemdLedger_still : Still (stageSystemdLedger E policy plan target adapter) := by
  unfold stageSystemdLedger
  refine (Still.op rfl).seq fun cp => ?_
  cases cp with
  | none => trivial
  | some cp =>
    refine Still.ite trivial ((Still.op rfl).seq fun version => ?_)
    cases version with
    | none => trivial
    | some version =>
      refine Still.ite trivial ((Still.op rfl).seq fun free => Still.ite trivial (Still.ite trivial ?_))
      exact stageLedger_still.seq fun ok => Still.ite trivial trivial

theorem repairSystemdPortCommit_still : Still (repairSystemdPortCommit E policy request plan target adapter l) := by
  unfold repairSystemdPortCommit
  cases l.result with
  | none => trivial
  | some result =>
    refine Still.ite trivial ((Still.op rfl).seq fun ok => Still.ite trivial ?_)
    refine (Still.op rfl).seq fun cp => Still.ite trivial ?_
    exact (Still.op rfl).seq fun version => Still.ite trivial repairLedger_still

/-- Without a consumed grant the consumption ends the request. -/
theorem consumeSystemdGrant_gated : Granted (consumeSystemdGrant E request plan l) fun r => r.isSome := by
  unfold consumeSystemdGrant
  refine gated_seq (only_gated saveLedger_still) fun saved _ => gated_stop rfl ?_
  refine gated_seq (consumeGrant_gated (fun _ _ h => h) fun _ h => h) fun ok hok => ?_
  subst hok
  exact gated_seq (only_gated markAmbiguous_still) fun response _ => rfl

theorem reconcileUnstartedSystemd_gated :
    Granted (reconcileUnstartedSystemdPortRequest E policy request plan target adapter) fun _ => True := by
  unfold reconcileUnstartedSystemdPortRequest
  refine gated_seq (only_gated (Still.op rfl)) fun cp _ => ?_
  cases cp with
  | none => trivial
  | some cp =>
    refine gated_stop trivial (gated_seq (only_gated (Still.op rfl)) fun version _ => ?_)
    cases version with
    | none => trivial
    | some version =>
      refine gated_stop trivial (gated_stop trivial ?_)
      refine gated_seq (only_gated stageLedger_still) fun ok _ => gated_stop trivial ?_
      refine gated_seq consumeSystemdGrant_gated fun response hresponse => ?_
      obtain ⟨response, rfl⟩ := Option.isSome_iff_exists.1 hresponse
      trivial

theorem reconcileSystemd_gated :
    Granted (reconcileSystemdPortRequest E policy request plan target l) fun _ => True := by
  unfold reconcileSystemdPortRequest
  refine gated_seq consumeSystemdGrant_gated fun response hresponse => ?_
  obtain ⟨response, rfl⟩ := Option.isSome_iff_exists.1 hresponse
  trivial

theorem startSystemdPort_gated : Granted (startSystemdPort E policy request plan target l) fun _ => True := by
  unfold startSystemdPort
  refine gated_stop trivial (gated_seq (only_gated (Still.op rfl)) fun cp _ => ?_)
  refine gated_stop trivial (gated_seq (only_gated (Still.op rfl)) fun free _ => ?_)
  refine gated_stop trivial (gated_seq consumeSystemdGrant_gated fun response hresponse => ?_)
  obtain ⟨response, rfl⟩ := Option.isSome_iff_exists.1 hresponse
  trivial

theorem advanceSystemdPort_gated {ledger : Option SystemdPortLedger} :
    Granted (advanceSystemdPort E policy request plan target adapter ledger) fun _ => True := by
  unfold advanceSystemdPort
  refine gated_seq (only_gated (Still.of (resolveSystemdPortAppliedTarget_quiet _ _))) fun resolved _ => ?_
  cases resolved with
  | none => trivial
  | some target =>
    refine gated_stop trivial ?_
    split
    · exact reconcileUnstartedSystemd_gated
    · exact reconcileSystemd_gated
    · refine gated_seq (only_gated stageSystemdLedger_still) fun staged _ => ?_
      cases staged with
      | error code => trivial
      | ok l => exact startSystemdPort_gated
    · exact startSystemdPort_gated
    · trivial

/-- A legacy systemd request changes the runtime only behind its grant. -/
theorem executeSystemdPortRequest_gated
    (hlegacy : ∀ plan, request.portPlan = some plan → plan.portContractVersion ≠ 2) :
    Granted (executeSystemdPortRequest E policy request) fun _ => True := by
  unfold executeSystemdPortRequest
  cases hplan : request.portPlan with
  | none => trivial
  | some plan =>
    refine gated_ite (fun h => absurd (by simpa using h) (hlegacy plan hplan)) fun _ => ?_
    cases validateSystemdPortPolicyBinding E policy request plan with
    | none => trivial
    | some binding =>
      obtain ⟨policyTarget, adapter⟩ := binding
      refine gated_seq (only_gated (Still.of (loadJob_reading _ _ _).quiet)) fun historical _ => ?_
      rcases historical with _ | historical
      · trivial
      refine gated_stop trivial ?_
      split
      · trivial
      refine gated_seq (only_gated (Still.of (loadActive_reading _ _).quiet)) fun active _ => ?_
      rcases active with _ | active
      · trivial
      refine gated_stop trivial ?_
      dsimp only
      split
      · exact gated_stop trivial (only_gated repairSystemdPortCommit_still)
      · exact advanceSystemdPort_gated

end Systemd

/-! ## Docker -/

section Docker

variable {policy : LocalExecutorPolicy} {request : LocalExecutorRequest} {plan : SystemdPortReconfigurePlan}
  {binding : DockerPortMutationGrantBinding} {target : LocalExecutorTarget} {adapter : DockerPortAdapter}
  {targetBytes : Bytes} {l : DockerPortLedger}

theorem commitDockerPortResult_still {kind : PortResultKind} {sha : String} :
    Still (commitDockerPortResult E plan binding l kind sha) := by
  unfold commitDockerPortResult
  exact Still.ite trivial commitLedger_still

theorem repairDockerPortCommit_still : Still (repairDockerPortCommit E policy request plan binding target l) := by
  unfold repairDockerPortCommit
  split
  · refine Still.ite trivial ((Still.of (observeSide_quiet _)).seq fun o => ?_)
    cases o with
    | none => trivial
    | some o => exact (Still.op rfl).seq fun ok => Still.ite trivial repairLedger_still
  · trivial

theorem reconcileUnstartedDockerPort_still :
    Still (reconcileUnstartedDockerPort E policy request plan binding target adapter targetBytes) := by
  unfold reconcileUnstartedDockerPort
  refine (Still.of (stageDockerPortLedger_quiet _ _ _ _)).seq fun staged => ?_
  cases staged with
  | none => trivial
  | some staged =>
    refine stageLedger_still.seq fun ok => Still.ite trivial ((Still.op rfl).seq fun ok => ?_)
    exact Still.ite markAmbiguous_still commitDockerPortResult_still

section Gates

variable {G : (o : PortOp DockerBaseline DockerPortAppliedState) → PortRes o → Prop}
  {P : PortOp DockerBaseline DockerPortAppliedState → Prop} (hG : ∀ o r, grantConsumed o r = true → G o r)
  (hP : ∀ o, P o → o.mutates = true)

include hG hP

theorem startDockerPort_gated : (startDockerPort E policy request plan binding target l).Gated G P fun _ => True := by
  unfold startDockerPort
  refine gated_stop trivial ?_
  refine gated_seq ((Still.of recheckDockerPortStagedInputs_quiet).gated hP) fun ok _ => ?_
  refine gated_stop trivial (gated_seq (saveLedger_still.gated hP) fun ok _ => ?_)
  refine gated_stop trivial (gated_seq (consumeGrant_gated hG hP) ?_)
  intro ok hok
  subst hok
  exact markAmbiguous_still.gated hP

/-- A request that is not a reconcile of a saved ledger waits for its grant. -/
theorem advanceDockerPort_gated {ledger : Option DockerPortLedger}
    (hledger : ∀ l, ledger = some l → request.operation = .portReconfigureReconcile → ∀ target,
      (reconcileDockerPortRequest E policy plan binding target l).Gated G P fun _ => True) :
    (advanceDockerPort E policy request plan binding target adapter targetBytes ledger).Gated G P fun _ => True := by
  unfold advanceDockerPort
  refine gated_seq ((Still.of (resolveDockerPortAppliedTargetBound_quiet _ _ _)).gated hP) fun resolved _ => ?_
  cases resolved with
  | none => trivial
  | some target =>
    refine gated_stop trivial ?_
    split
    · exact reconcileUnstartedDockerPort_still.gated hP
    · next l hop => exact hledger l rfl hop target
    · refine gated_seq ((Still.of (stageDockerPortLedger_quiet _ _ _ _)).gated hP) fun staged _ => ?_
      cases staged with
      | none => trivial
      | some l =>
        refine gated_seq (stageLedger_still.gated hP) fun ok _ => ?_
        exact gated_stop trivial (startDockerPort_gated hG hP)
    · exact startDockerPort_gated hG hP
    · trivial

/-- A legacy Docker request passes a gate that its loads leave closed on ledgers in `L` and that the reconcile of such a
ledger passes. -/
theorem executeDockerPortRequest_gated {L : DockerPortLedger → Prop} (hplan : request.portPlan = some plan)
    (hlegacy : plan.portContractVersion ≠ 2)
    (hjob : (loadJob (dockerMode E) plan.targetID plan.jobID).Gated G P fun r => ∀ l, r = .ok (some l) → L l)
    (hactive : (loadActive (dockerMode E) plan.targetID).Gated G P fun r =>
      ∀ l, r = .ok (some l) → l.plan.jobID = plan.jobID → L l)
    (hreconcile : ∀ binding target l, request.operation = .portReconfigureReconcile → l.state ≠ .committing → L l →
      (reconcileDockerPortRequest E policy plan binding target l).Gated G P fun _ => True) :
    (executeDockerPortRequest E policy request).Gated G P fun _ => True := by
  unfold executeDockerPortRequest
  rw [hplan]
  refine gated_ite (fun h => absurd (by simpa using h) hlegacy) fun _ => ?_
  cases validateDockerPortPolicyBinding E policy request plan with
  | none => trivial
  | some bound =>
    obtain ⟨policyTarget, adapter, binding, targetBytes⟩ := bound
    refine gated_seq hjob fun historical hh => ?_
    rcases historical with _ | historical
    · trivial
    refine gated_stop trivial ?_
    split
    · trivial
    refine gated_seq hactive fun active ha => ?_
    rcases active with _ | active
    · trivial
    refine gated_stop trivial ?_
    dsimp only
    split
    · exact gated_stop trivial (repairDockerPortCommit_still.gated hP)
    · next hcommitting =>
      refine advanceDockerPort_gated hG hP fun l hl hop target => hreconcile binding target l hop ?_ ?_
      · simpa [hl, Option.filter] using hcommitting
      cases historical with
      | some h => exact hh l (by simpa [continuedLedger] using hl)
      | none =>
        obtain ⟨hactive, hown⟩ : active = some l ∧ l.plan.jobID = plan.jobID := by simpa [continuedLedger] using hl
        exact ha l (by rw [hactive]) hown

end Gates

/-- what lets a Docker request change the runtime: its grant, or a reconcile's saved ledger -/
def dockerPermit (operation : PortOperation) (plan : SystemdPortReconfigurePlan)
    (o : PortOp DockerBaseline DockerPortAppliedState) (r : PortRes o) : Prop :=
  grantConsumed o r = true ∨ operation = .portReconfigureReconcile ∧ ledgerLoaded plan o r

/-- the program changes the runtime only behind the permit -/
abbrev Permitted (operation : PortOperation) (plan : SystemdPortReconfigurePlan) (p : DockerProg α) (Q : α → Prop) :
    Prop := p.Gated (dockerPermit operation plan) (fun o => o.mutates = true) Q

/-- the request still needs its own grant after it loaded this ledger -/
def NeedsGrant (operation : PortOperation) (l : DockerPortLedger) : Prop :=
  operation = .portReconfigureReconcile → l.state = .committing

/-- the ledger of a job, loaded without opening the permit, leaves the request in need of a grant if it is its own -/
theorem loadJob_permitted {operation : PortOperation} {j : String} :
    Permitted operation plan (loadJob (dockerMode E) plan.targetID j) fun r =>
      ∀ l, r = .ok (some l) → l.plan.jobID = j ∧ (j = plan.jobID → NeedsGrant operation l) := by
  unfold loadJob
  refine gated_stop (by simp) ⟨by simp [PortOp.mutates], fun r hr => ?_⟩
  rcases r with _ | _ | l
  · exact fun l hl => nomatch hl
  · exact fun l hl => nomatch hl
  · intro l' hl'
    by_cases hvalid : ((dockerMode E).validateLedger l plan.targetID && l.plan.jobID == j) = true
    · simp only [hvalid, if_true, Except.ok.injEq, Option.some.injEq] at hl'
      subst hl'
      refine ⟨by simpa using (Bool.and_eq_true_iff.1 hvalid).2, fun hj hop => ?_⟩
      -- it is the job's own ledger, so only its state can have kept the permit closed
      by_contra hstate
      exact hr (.inr ⟨hop, rfl, hj, l, rfl, hstate⟩)
    · simp [hvalid] at hl'

theorem loadActive_permitted {operation : PortOperation} :
    Permitted operation plan (loadActive (dockerMode E) plan.targetID) fun r =>
      ∀ l, r = .ok (some l) → l.plan.jobID = plan.jobID → NeedsGrant operation l := by
  unfold loadActive
  refine gated_stop (by simp) (gated_seq (only_gated (Still.op rfl)) fun r _ => ?_)
  rcases r with _ | _ | jobID
  · simp
  · simp
  · refine gated_stop (by simp) (gated_seq loadJob_permitted fun r hr => ?_)
    rcases r with _ | _ | l
    · simp
    · simp
    · intro l' hl' hown
      exact (hr l' hl').2 ((hr l' hl').1.symm.trans hown)

/-- A legacy Docker request changes the runtime only behind its permit. -/
theorem executeDockerPortRequest_permitted (hplan : request.portPlan = some plan) (hlegacy : plan.portContractVersion ≠ 2) :
    Permitted request.operation plan (executeDockerPortRequest E policy request) fun _ => True :=
  executeDockerPortRequest_gated (fun _ _ h => .inl h) (fun _ h => h) hplan hlegacy
    (gated_mono loadJob_permitted fun _ h l hl => (h l hl).2 rfl) loadActive_permitted
    fun _ _ _ hop hstate hl => absurd (hl hop) hstate

/-- the program writes and restarts only behind a grant or behind a restore that succeeded -/
abbrev Restoring (p : DockerProg α) : Prop :=
  p.Gated (fun o r => grantConsumed o r = true ∨ restored o r = true)
    (fun o => o.mutates = true ∧ ∀ cp target, o ≠ .restoreConfig cp target) fun _ => True

theorem Still.restoring {p : DockerProg α} (h : Still p) : Restoring p := h.gated fun _ => And.left

/-- The reconcile of a saved ledger recreates the container only after it restored the env file. -/
theorem reconcileDockerPortRequest_restoring : Restoring (reconcileDockerPortRequest E policy plan binding target l) := by
  unfold reconcileDockerPortRequest
  refine gated_seq (Still.of (observeSide_quiet _)).restoring fun seen _ => ?_
  rcases seen with _ | o
  · refine gated_seq (Still.of (observeSide_quiet _)).restoring fun seen _ => ?_
    rcases seen with _ | o
    · unfold rollbackDockerPortRequest
      refine gated_seq (Still.of (observeSide_quiet _)).restoring fun seen _ => ?_
      rcases seen with _ | o
      · refine ⟨fun h => h.2 _ _ rfl, fun ok hok => ?_⟩
        obtain rfl : ok = false := by simpa [grantConsumed, restored] using hok
        exact closeRollbackFailed_still.restoring
      · exact commitDockerPortResult_still.restoring
    · exact commitDockerPortResult_still.restoring
  · exact commitDockerPortResult_still.restoring

theorem executeDockerPortRequest_restoring (hplan : request.portPlan = some plan) (hlegacy : plan.portContractVersion ≠ 2) :
    Restoring (executeDockerPortRequest E policy request) :=
  executeDockerPortRequest_gated (L := fun _ => True) (fun _ _ => .inl) (fun _ => And.left) hplan hlegacy
    (gated_mono (Still.of (loadJob_reading _ _ _).quiet).restoring fun _ _ _ _ => trivial)
    (gated_mono (Still.of (loadActive_reading _ _).quiet).restoring fun _ _ _ _ _ => trivial)
    fun _ _ _ _ _ _ => reconcileDockerPortRequest_restoring

/-- A mutation of such a program without a grant is a restore without effect, or comes with one that found its target. -/
theorem Restoring.found {p : DockerProg α} (hp : Restoring p) {s : DeploymentWorld .docker} {cs : List PortChoice}
    {before after : List (PortStep DockerBaseline DockerPortAppliedState)} {x : PortStep _ _} (hx : x.op.mutates = true)
    (hsteps : (p.exec (portNext E) s cs).steps = before ++ x :: after) :
    (∃ y ∈ before, grantConsumed y.op y.res = true) ∨ Refused x ∨ ∃ z ∈ before ++ [x], FindsTarget E z := by
  have hstep := p.exec_stepOf (portNext E) s cs
  rw [hsteps] at hstep
  by_cases hrestore : ∃ cp target, x.op = .restoreConfig cp target
  · obtain ⟨s', o, c, rfl⟩ := hstep x (by simp)
    obtain ⟨cp, target, rfl⟩ := hrestore
    by_cases hfile : s'.config = privateFile E target
    · exact .inr (.inr ⟨_, List.mem_append_right _ (List.mem_singleton.2 rfl), cp, target, rfl, hfile⟩)
    · exact .inr (.inl ⟨⟨cp, target, rfl⟩, by simp [stepOf, portNext, hfile]⟩)
  · obtain ⟨z, hz, hg | hr⟩ := Prog.gated_exec hp ⟨hx, fun cp target h => hrestore ⟨cp, target, h⟩⟩ hsteps
    · exact .inl ⟨z, hz, hg⟩
    obtain ⟨s', o, c, rfl⟩ := hstep z (List.mem_append_left _ hz)
    cases o with
    | restoreConfig cp target =>
      exact .inr (.inr ⟨_, List.mem_append_left _ hz, cp, target, rfl, (portNext_restored hr).1⟩)
    | _ => cases hr

end Docker

/-! ## Legacy requests -/

/-- **Legacy mutations are granted.** In a legacy port request, whatever state it starts from and wherever it is cut, every
write or restore of the configuration and every restart comes after a consumed grant of the same request. The only other
way is a Docker reconcile request that has loaded the saved ledger of its job, not yet committing, and has found the target
bytes in the env file; a restore that does not find them has no effect. -/
theorem legacy_mutation_granted (E : PortEnv) (m : Deployment) (q : PortRequest) (s : DeploymentWorld m)
    (cs : List PortChoice) (hlegacy : ∀ plan, q.2.portPlan = some plan → plan.portContractVersion ≠ 2)
    {before after : List (PortStep m.Baseline m.Applied)} {x : PortStep m.Baseline m.Applied}
    (hsteps : ((executePortRequest E m q).exec (portNext E) s cs).steps = before ++ x :: after)
    (hx : x.op.mutates = true) :
    (∃ y ∈ before, grantConsumed y.op y.res = true) ∨
      m = .docker ∧ q.2.operation = .portReconfigureReconcile ∧
        (∃ plan, q.2.portPlan = some plan ∧ ∃ y ∈ before, ledgerLoaded plan y.op y.res) ∧
        (Refused x ∨ ∃ z ∈ before ++ [x], FindsTarget E z) := by
  cases m with
  | systemd => exact .inl (Prog.gated_exec (executeSystemdPortRequest_gated hlegacy) hx hsteps)
  | docker =>
    cases hplan : q.2.portPlan with
    | none =>
      -- without a plan the request makes no step at all
      simp [executePortRequest, executeDockerPortRequest, hplan, Prog.exec, pure] at hsteps
    | some plan =>
      obtain ⟨y, hy, hg | ⟨hop, hl⟩⟩ :=
        Prog.gated_exec (executeDockerPortRequest_permitted hplan (hlegacy plan hplan)) hx hsteps
      · exact .inl ⟨y, hy, hg⟩
      rcases (executeDockerPortRequest_restoring hplan (hlegacy plan hplan)).found hx hsteps with hg | hfound
      · exact .inl hg
      · exact .inr ⟨rfl, hop, ⟨plan, rfl, y, hy, hl⟩, hfound⟩

namespace Sample

/-- the legacy plan of `job`: from port 8001 and revision 1 to port 8002 and revision 2 -/
def legacyPlan (job : String) : SystemdPortReconfigurePlan where
  deploymentMode := "systemd"
  jobID := job
  hostID := "host-1"
  targetID := "svc-1"
  serviceType := "worker"
  networkNamespace := "host"
  protocol := "tcp"
  oldPort := 8001
  newPort := 8002
  expectedEndpointRevision := 1
  targetEndpointRevision := 2
  expectedConfigRevision := 1
  targetConfigRevision := 2
  expectedConfigSHA256 := digest 1
  targetConfigSHA256 := digest 2
  expectedSourcePolicyRevision := 1
  expectedUpdaterPolicyRevision := 1
  expectedExecutorPolicyRevision := 1
  expectedExecutorPolicySHA256 := digest 1
  ownershipEpoch := 1
  leaseGeneration := 1
  sessionID := "session-00000001"
  portPlanSHA256 := hex64 3

/-- a legacy request on a plan, under the policy of revision 1 -/
def legacyRequest (operation : PortOperation) (plan : SystemdPortReconfigurePlan) : LocalExecutorRequest :=
  ⟨2, operation, "svc-1", some plan, 1, 1, 1, 1, "grant", none⟩

/-- a legacy systemd request that runs to its end -/
def legacyForward : PortRequest := (policy 1, legacyRequest .portReconfigure (legacyPlan "job-1"))

def legacyScript : List PortChoice := cutAfter 40 (executePortRequest env .systemd legacyForward) world

/-- the Docker target of the worker, at port 8001 -/
def dockerTarget : LocalExecutorTarget :=
  ⟨"svc-1", "worker", "docker", "", 1, 1, digest 1, ⟨"127.0.0.1", 8001⟩, none,
    some
      { service := "worker"
        portEnvFile := "/opt/autostream/local-executor/docker/ports/worker.env"
        portComposeRevision := 1
        portComposePolicySHA256 := hex64 1
        composeConfigSHA256 := hex64 1 }⟩

/-- the legacy Docker plan from port 8001 to port 8002 -/
def dockerPlan : SystemdPortReconfigurePlan :=
  { legacyPlan "job-1" with
    deploymentMode := "docker"
    docker := some ⟨"127.0.0.1", 8001, 8002, 8001, 8002, 8001, 8002, hex64 1, 1, digest 1, hex64 1, digest 1, digest 1⟩ }

/-- payloads are told apart by the digit of the new port -/
def dockerEnv : PortEnv := { env with sha256 := fun b => hex64 (if b.contains 50 then 2 else 1) }

/-- the env file of port `8000 + n` -/
def portEnv (n : ℤ) : Bytes :=
  (dockerPortEnvBytes ⟨"worker", "AUTOSTREAM_WORKER_PORT", "AUTOSTREAM_WORKER_CONTAINER_PORT", ""⟩ (8000 + n) (8000 + n)
    n).getD []

/-- a crash after the env write of the job left its ledger with the consumed grant, and the new env file in place -/
def dockerInterrupted : DeploymentWorld .docker where
  jobs := fun t j => if t = "svc-1" ∧ j = "job-1" then
    some ⟨1, dockerPlan, .grantConsumed, privateFile dockerEnv (portEnv 1), portEnv 2,
      ⟨⟨digest 1, hex64 1, digest 1, digest 1, "v1.0.0"⟩, hex64 1, hex64 2⟩, none, none⟩ else none
  active := fun _ => some "job-1"
  applied := fun _ => none
  policyDisk := [1]
  policyMemory := [1]
  config := privateFile dockerEnv (portEnv 2)

/-- the reconcile request of that job -/
def dockerReconcile : PortRequest :=
  ({ policy 1 with targets := [dockerTarget] }, legacyRequest .portReconfigureReconcile dockerPlan)

end Sample

theorem sample_mutates :
    ∃ x ∈ ((executePortRequest Sample.env .systemd Sample.legacyForward).exec (portNext Sample.env) Sample.world
        Sample.legacyScript).steps, x.op.mutates = true := by
  decide +kernel

theorem legacy_forward_granted :
    ∃ x ∈ ((executePortRequest Sample.env .systemd Sample.legacyForward).exec (portNext Sample.env) Sample.world
        Sample.legacyScript).steps,
      x.op.mutates = true ∧ ∃ y ∈ ((executePortRequest Sample.env .systemd Sample.legacyForward).exec
        (portNext Sample.env) Sample.world Sample.legacyScript).steps, grantConsumed y.op y.res = true := by
  obtain ⟨x, hx, hm⟩ := sample_mutates
  obtain ⟨before, after, hsplit⟩ := List.append_of_mem hx
  refine ⟨x, hx, hm, ?_⟩
  rcases legacy_mutation_granted Sample.env .systemd Sample.legacyForward Sample.world Sample.legacyScript
    (fun plan hplan => by cases hplan; decide) hsplit hm with ⟨y, hy, hg⟩ | ⟨hd, -⟩
  · refine ⟨y, ?_, hg⟩
    rw [hsplit]
    exact List.mem_append_left _ hy
  · cases hd

/-- **A restore without a grant.** The reconcile request finds the ledger of its job past the consumed grant and the new env
file, sees neither mapping running, restores the old env file and recreates the container. It has asked for no grant of
its own. -/
theorem docker_reconcile_restores_ungranted :
    let run := (executePortRequest Sample.dockerEnv .docker Sample.dockerReconcile).exec (portNext Sample.dockerEnv)
      Sample.dockerInterrupted [.ok, .ok, .ok, .ok, .fail, .fail, .fail, .ok, .ok]
    (Sample.dockerReconcile.2.portPlan.all fun plan => plan.portContractVersion == 0) = true ∧
      (run.steps.filter fun x => x.op.mutates).length = 2 ∧
      run.st.config = privateFile Sample.dockerEnv (Sample.portEnv 1) ∧
      ∀ y ∈ run.steps, grantConsumed y.op y.res = false := by
  decide +kernel

end AutostreamUpdater.Port
