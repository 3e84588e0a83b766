/-
The programs of a legacy request that continue a ledger write no ledger but that of their own job, and no active pointer.

`OwnWrites t j p` bounds the operations of `p` by it, for the transactions of both deployment modes. Only `stageLedger` is
outside the bound: it is the one place that moves an active pointer.
-/
import AutostreamUpdater.Port.Coordinator

namespace AutostreamUpdater.Port

open Contract Base Prog

variable {β A : Type} {E : PortEnv} {t j : String} {l : PortLedger β}

/-- a ledger write goes to the job `j` of `t`, an active pointer is not written -/
def PortOp.ownWrite (t j : String) : PortOp β A → Prop
  | .writeJob l => l.plan.targetID = t ∧ l.plan.jobID = j
  | .writeActive _ _ => False
  | _ => True

/-- the program writes ledgers of the job `j` of `t` only, and no active pointer -/
abbrev OwnWrites {α : Type} (t j : String) (p : PortProg β A α) : Prop := p.Only (PortOp.ownWrite t j) fun _ => True

/-- the ledger belongs to the job `j` of `t` -/
def PortLedger.isOf (l : PortLedger β) (t j : String) : Prop := l.plan.targetID = t ∧ l.plan.jobID = j

section Rules

variable {α γ : Type} {p : PortProg β A α} {f : α → PortProg β A γ}

theorem OwnWrites.seq (hp : OwnWrites t j p) (hf : ∀ a, OwnWrites t j (f a)) : OwnWrites t j (p >>= f) :=
  only_seq hp fun a _ => hf a

theorem OwnWrites.quiet {Q : α → Prop} (hp : Quietly p Q) : OwnWrites t j p :=
  only_mono hp (fun o ho => by cases o <;> simp_all [PortOp.quiet, PortOp.ownWrite]) fun _ _ => trivial

/-- the usual guard: stop unless the step before it went well -/
theorem OwnWrites.guard {p : PortProg β A Bool} {q r : PortProg β A γ} (hp : OwnWrites t j p) (hq : OwnWrites t j q)
    (hr : OwnWrites t j r) : OwnWrites t j (p >>= fun ok => if !ok then q else r) :=
  hp.seq fun _ => only_ite hq hr

/-- the same with a check that reports trouble -/
theorem OwnWrites.unless {p : PortProg β A Bool} {q r : PortProg β A γ} (hp : OwnWrites t j p)
    (hq : OwnWrites t j q) (hr : OwnWrites t j r) : OwnWrites t j (p >>= fun bad => if bad then q else r) :=
  hp.seq fun _ => only_ite hq hr

end Rules

/-! ## The stores -/

theorem saveLedger_own (M : PortMode β A) (h : l.isOf t j) : OwnWrites t j (saveLedger M l) := by
  unfold saveLedger
  exact only_ite trivial ⟨h, fun _ => trivial⟩

theorem saveApplied_own (M : PortMode β A) (a : A) : OwnWrites t j (saveApplied M a) := by
  unfold saveApplied
  exact only_ite trivial ⟨trivial, fun _ => trivial⟩

/-! ## The legacy transactions -/

theorem markAmbiguous_own {M : PortMode β A} (h : l.isOf t j) : OwnWrites t j (markAmbiguous M l) :=
  OwnWrites.seq (saveLedger_own M (by exact h)) fun _ => trivial

variable {policy : LocalExecutorPolicy} {request : LocalExecutorRequest} {plan : SystemdPortReconfigurePlan}
  {target : LocalExecutorTarget} (hp : plan.targetID = t ∧ plan.jobID = j)

section Shared

variable {M : PortMode β A} {result : SystemdPortReconfigureResult}

include hp

theorem commitLedger_own (applied : A) : OwnWrites t j (commitLedger M plan l result applied) := by
  unfold commitLedger
  refine OwnWrites.guard (saveLedger_own M (by exact hp)) trivial ?_
  refine (saveApplied_own M applied).guard trivial (only_op_bind trivial fun _ => only_ite trivial ?_)
  exact OwnWrites.guard (saveLedger_own M (by exact hp)) trivial trivial

theorem repairLedger_own (applied : A) : OwnWrites t j (repairLedger M plan l result applied) := by
  unfold repairLedger
  refine (saveApplied_own M applied).guard trivial ?_
  exact OwnWrites.guard (saveLedger_own M (by exact hp)) trivial trivial

theorem closeRollbackFailed_own (mode message : String) : OwnWrites t j (closeRollbackFailed M plan l mode message) :=
  OwnWrites.guard (saveLedger_own M (by exact hp)) trivial trivial

end Shared

section Systemd

variable {l : SystemdPortLedger}

include hp

theorem commitSystemdPortResult_own (kind : PortResultKind) : OwnWrites t j (commitSystemdPortResult E plan l kind) :=
  only_ite trivial (commitLedger_own hp _)

theorem rollbackSystemdPortRequest_own : OwnWrites t j (rollbackSystemdPortRequest E policy plan target l) := by
  unfold rollbackSystemdPortRequest
  refine only_op_bind trivial fun _ => only_ite ?_ (closeRollbackFailed_own hp _ _)
  refine only_op_bind trivial fun _ => only_ite ?_ (closeRollbackFailed_own hp _ _)
  refine only_op_bind trivial fun _ => only_ite ?_ (closeRollbackFailed_own hp _ _)
  exact commitSystemdPortResult_own hp _

omit hp in
theorem consumeSystemdGrant_own (h : l.isOf t j) : OwnWrites t j (consumeSystemdGrant E request plan l) := by
  unfold consumeSystemdGrant
  refine OwnWrites.guard (saveLedger_own _ (by exact h)) trivial ?_
  refine only_op_bind trivial fun _ => only_ite ((markAmbiguous_own h).seq fun _ => trivial) ?_
  exact OwnWrites.guard (saveLedger_own _ (by exact h)) trivial trivial

omit hp in
theorem verifiedIf_quiet (fits : Bool) : Quietly (verifiedIf fits policy target) fun _ => True := by
  unfold verifiedIf
  exact only_ite trivial (only_op_bind rfl fun _ => trivial)

theorem reconcileSystemdPortRequest_own :
    OwnWrites t j (reconcileSystemdPortRequest E policy request plan target l) := by
  unfold reconcileSystemdPortRequest
  refine OwnWrites.seq (consumeSystemdGrant_own (by exact hp)) fun response => ?_
  rcases response with _ | response
  · refine only_op_bind trivial fun current => ?_
    refine (OwnWrites.quiet (verifiedIf_quiet _)).unless (commitSystemdPortResult_own hp _) ?_
    refine (OwnWrites.quiet (verifiedIf_quiet _)).unless (commitSystemdPortResult_own hp _) ?_
    exact rollbackSystemdPortRequest_own hp
  · trivial

theorem repairSystemdPortCommit_own (adapter : SystemdPortAdapter) :
    OwnWrites t j (repairSystemdPortCommit E policy request plan target adapter l) := by
  unfold repairSystemdPortCommit
  split
  · trivial
  refine only_ite trivial (only_op_bind trivial fun _ => only_ite trivial ?_)
  refine only_op_bind trivial fun _ => only_ite trivial ?_
  exact only_op_bind trivial fun _ => only_ite trivial (repairLedger_own hp _)

theorem forwardSystemdPort_own (h : l.isOf t j) : OwnWrites t j (forwardSystemdPort E policy plan target l) := by
  unfold forwardSystemdPort
  refine only_op_bind trivial fun _ => only_ite (markAmbiguous_own h) ?_
  refine only_op_bind trivial fun _ => only_ite (rollbackSystemdPortRequest_own hp) ?_
  refine OwnWrites.guard (saveLedger_own _ (by exact h)) trivial ?_
  refine only_op_bind trivial fun _ => only_ite (markAmbiguous_own (by exact h)) ?_
  refine only_op_bind trivial fun _ => only_ite (rollbackSystemdPortRequest_own hp) ?_
  refine OwnWrites.guard (saveLedger_own _ (by exact h)) trivial ?_
  refine only_op_bind trivial fun _ => only_ite (markAmbiguous_own (by exact h)) ?_
  refine only_op_bind trivial fun _ => only_ite (rollbackSystemdPortRequest_own hp) ?_
  exact commitSystemdPortResult_own hp _

theorem startSystemdPort_own : OwnWrites t j (startSystemdPort E policy request plan target l) := by
  unfold startSystemdPort
  refine only_ite trivial (only_op_bind trivial fun _ => only_ite trivial ?_)
  refine only_op_bind trivial fun _ => only_ite trivial ?_
  refine OwnWrites.seq (consumeSystemdGrant_own (by exact hp)) fun response => ?_
  rcases response with _ | response
  · exact forwardSystemdPort_own hp (by exact hp)
  · trivial

end Systemd

section Docker

variable {binding : DockerPortMutationGrantBinding} {l : DockerPortLedger}

include hp

theorem commitDockerPortResult_own (kind : PortResultKind) (sha : String) :
    OwnWrites t j (commitDockerPortResult E plan binding l kind sha) :=
  only_ite trivial (commitLedger_own hp _)

omit hp in
theorem observeSide_quiet (targetSide : Bool) :
    Quietly (observeSide E policy target plan binding l targetSide) fun _ => True :=
  only_op_bind rfl fun _ => trivial

omit hp in
theorem rollbackDockerPortRequest_own (h : l.isOf t j) :
    OwnWrites t j (rollbackDockerPortRequest E policy binding target l) := by
  unfold rollbackDockerPortRequest
  refine (OwnWrites.quiet (observeSide_quiet false)).seq fun seen => ?_
  rcases seen with _ | o
  · refine only_op_bind trivial fun _ => only_ite ?_ (closeRollbackFailed_own h _ _)
    refine only_op_bind trivial fun _ => only_ite ?_ (closeRollbackFailed_own h _ _)
    refine (OwnWrites.quiet (observeSide_quiet false)).seq fun seen => ?_
    rcases seen with _ | o
    · exact closeRollbackFailed_own h _ _
    · exact commitDockerPortResult_own h _ _
  · exact commitDockerPortResult_own h _ _

omit hp in
theorem recheckDockerPortStagedInputs_quiet :
    Quietly (recheckDockerPortStagedInputs E policy target binding l) fun _ => True := by
  unfold recheckDockerPortStagedInputs
  refine only_op_bind rfl fun seen => ?_
  rcases seen with _ | o
  · trivial
  refine only_ite trivial (only_op_bind rfl fun prepared => ?_)
  rcases prepared with _ | m
  · trivial
  · exact only_ite trivial ⟨rfl, fun _ => trivial⟩

theorem repairDockerPortCommit_own : OwnWrites t j (repairDockerPortCommit E policy request plan binding target l) := by
  unfold repairDockerPortCommit
  split
  · refine only_ite trivial ((OwnWrites.quiet (observeSide_quiet _)).seq fun seen => ?_)
    rcases seen with _ | o
    · trivial
    · exact only_op_bind trivial fun _ => only_ite trivial (repairLedger_own hp _)
  · trivial

theorem reconcileDockerPortRequest_own (h : l.isOf t j) :
    OwnWrites t j (reconcileDockerPortRequest E policy plan binding target l) := by
  unfold reconcileDockerPortRequest
  refine (OwnWrites.quiet (observeSide_quiet false)).seq fun seen => ?_
  rcases seen with _ | o
  · refine (OwnWrites.quiet (observeSide_quiet true)).seq fun seen => ?_
    rcases seen with _ | o
    · exact rollbackDockerPortRequest_own h
    · exact commitDockerPortResult_own hp _ _
  · exact commitDockerPortResult_own hp _ _

theorem forwardDockerPort_own (h : l.isOf t j) : OwnWrites t j (forwardDockerPort E policy plan binding target l) := by
  unfold forwardDockerPort
  refine only_op_bind trivial fun _ => only_ite (markAmbiguous_own h) ?_
  refine (OwnWrites.quiet recheckDockerPortStagedInputs_quiet).guard (rollbackDockerPortRequest_own h) ?_
  refine only_op_bind trivial fun _ => only_ite (rollbackDockerPortRequest_own h) ?_
  refine OwnWrites.guard (saveLedger_own _ (by exact h)) trivial ?_
  refine only_op_bind trivial fun _ => only_ite (markAmbiguous_own (by exact h)) ?_
  refine only_op_bind trivial fun _ => only_ite (rollbackDockerPortRequest_own (by exact h)) ?_
  refine OwnWrites.guard (saveLedger_own _ (by exact h)) trivial ?_
  refine only_op_bind trivial fun _ => only_ite (markAmbiguous_own (by exact h)) ?_
  refine (OwnWrites.quiet (observeSide_quiet true)).seq fun seen => ?_
  rcases seen with _ | o
  · exact rollbackDockerPortRequest_own (by exact h)
  · exact commitDockerPortResult_own hp _ _

theorem startDockerPort_own : OwnWrites t j (startDockerPort E policy request plan binding target l) := by
  unfold startDockerPort
  refine only_ite trivial ((OwnWrites.quiet recheckDockerPortStagedInputs_quiet).guard trivial ?_)
  refine OwnWrites.guard (saveLedger_own _ (by exact hp)) trivial ?_
  refine only_op_bind trivial fun _ => only_ite (markAmbiguous_own (by exact hp)) ?_
  refine OwnWrites.guard (saveLedger_own _ (by exact hp)) trivial ?_
  exact forwardDockerPort_own hp (by exact hp)

end Docker
end AutostreamUpdater.Port
