/-
What the operations of a port request can touch, and what the two drivers promise the coordinator.

`quiet` operations change nothing, `keepsStore` operations leave ledgers, pointers and applied records alone. Every
driver method is bounded by `Only` once, here; the results about the coordinator use the `Lawful` structure and never
unfold a driver.
-/
import AutostreamUpdater.Port.Legacy

namespace AutostreamUpdater.Port

open Contract Base Prog

/-! ## Effects of single operations -/

section Ops

variable {β A : Type} {E : PortEnv} {s : PortWorld β A} {o : PortOp β A} {c : PortChoice}

/-- the operation changes no file, consumes no grant and restarts nothing -/
def PortOp.quiet : PortOp β A → Bool
  | .readJob _ _ | .readActive _ | .readApplied _ | .readPolicy | .checkpoint | .verifyRuntime _ _ | .observe _ _
  | .prepare _ _ | .ensureAvailable _ | .crashPoint _ | .now | .contextExpired => true
  | _ => false

/-- the operation is quiet or a restart -/
def PortOp.mild : PortOp β A → Bool
  | .restart _ => true
  | o => o.quiet

/-- the operation leaves ledgers, active pointers and applied records alone -/
def PortOp.keepsStore : PortOp β A → Bool
  | .writeJob _ | .writeActive _ _ | .writeApplied _ _ => false
  | _ => true

/-- the operation leaves the stores alone and consumes no grant -/
def PortOp.steady : PortOp β A → Bool
  | .writeJob _ | .writeActive _ _ | .writeApplied _ _ | .consumeGrant _ _ _ _ => false
  | _ => true

/-- the operation reads a record or the clock -/
def PortOp.reading : PortOp β A → Bool
  | .readJob _ _ | .readActive _ | .readApplied _ | .now => true
  | _ => false

theorem portNext_reading (h : o.reading = true) : (portNext E s o c).2 = s := by
  cases o <;> first | rfl | simp [PortOp.reading] at h

theorem PortOp.steady_keepsStore (h : o.steady = true) : o.keepsStore = true := by
  cases o <;> simp_all [steady, keepsStore]

theorem PortOp.quiet_steady (h : o.quiet = true) : o.steady = true := by
  cases o <;> simp_all [quiet, steady]

theorem PortOp.reading_quiet (h : o.reading = true) : o.quiet = true := by
  cases o <;> simp_all [reading, quiet]

theorem PortOp.quiet_mild (h : o.quiet = true) : o.mild = true := by
  cases o <;> simp_all [quiet, mild]

theorem PortOp.mild_steady (h : o.mild = true) : o.steady = true := by
  cases o <;> simp_all [mild, quiet, steady]

theorem writeOutcome_cases (c : PortChoice) (s s' : PortWorld β A) :
    (writeOutcome c s s').2 = s' ∨ ((writeOutcome c s s').1 = false ∧ (writeOutcome c s s').2 = s) := by
  cases c <;> simp [writeOutcome]

/-- a write that reports success is in place -/
theorem writeOutcome_true {s' : PortWorld β A} (h : (writeOutcome c s s').1 = true) : (writeOutcome c s s').2 = s' := by
  rcases writeOutcome_cases c s s' with heq | ⟨hfail, -⟩
  · exact heq
  · rw [hfail] at h
    cases h

theorem portNext_written {cp : PortCheckpoint} {p : Bytes} (h : (portNext E s (.writeConfig cp p) c).1 = true) :
    (portNext E s (.writeConfig cp p) c).2.config = privateFile E p := by
  simp only [portNext] at h ⊢
  split_ifs at h ⊢
  · rw [writeOutcome_true h]

/-- a restore that reports success found the target bytes and replaced them -/
theorem portNext_restored {cp : PortCheckpoint} {p : Bytes} (h : (portNext E s (.restoreConfig cp p) c).1 = true) :
    s.config = privateFile E p ∧ (portNext E s (.restoreConfig cp p) c).2.config = cp := by
  simp only [portNext] at h ⊢
  split_ifs at h ⊢ with hguard
  · exact ⟨hguard.1, by rw [writeOutcome_true h]⟩

/-- a write of the configuration file changes nothing else -/
theorem portNext_writeConfig (cp : PortCheckpoint) (p : Bytes) :
    ∃ f, (portNext E s (.writeConfig cp p) c).2 = { s with config := f } := by
  by_cases hcp : s.config = cp
  · rcases writeOutcome_cases c s { s with config := privateFile E p } with h | ⟨-, h⟩ <;>
      exact ⟨_, by simpa [portNext, hcp] using h⟩
  · exact ⟨s.config, by simp [portNext, hcp]⟩

theorem portNext_restoreConfig (cp : PortCheckpoint) (p : Bytes) :
    ∃ f, (portNext E s (.restoreConfig cp p) c).2 = { s with config := f } := by
  simp only [portNext]
  split_ifs
  · rcases writeOutcome_cases c s { s with config := cp } with h | ⟨-, h⟩ <;> exact ⟨_, h⟩
  · exact ⟨s.config, rfl⟩

theorem portNext_keepsStore (h : o.keepsStore = true) :
    (portNext E s o c).2.jobs = s.jobs ∧ (portNext E s o c).2.active = s.active ∧
      (portNext E s o c).2.applied = s.applied := by
  cases o <;> simp only [PortOp.keepsStore, Bool.false_eq_true] at h
  case writePolicy p => rcases writeOutcome_cases c s { s with policyDisk := p } with h | ⟨-, h⟩ <;> simp [portNext, h]
  case writeConfig cp p =>
    obtain ⟨f, h⟩ := portNext_writeConfig (E := E) (s := s) (c := c) cp p
    simp [h]
  case restoreConfig cp p =>
    obtain ⟨f, h⟩ := portNext_restoreConfig (E := E) (s := s) (c := c) cp p
    simp [h]
  case checkpoint => cases c <;> simp [portNext]
  all_goals simp [portNext]

/-- a ledger write changes one ledger and nothing else, or fails without effect -/
theorem portNext_writeJob (l : PortLedger β) :
    (portNext E s (.writeJob l) c).2 = s.setJob l ∨
      ((portNext E s (.writeJob l) c).1 = false ∧ (portNext E s (.writeJob l) c).2 = s) :=
  writeOutcome_cases c s (s.setJob l)

theorem portNext_writeActive (t j : String) :
    (portNext E s (.writeActive t j) c).2 = s.setActive t j ∨
      ((portNext E s (.writeActive t j) c).1 = false ∧ (portNext E s (.writeActive t j) c).2 = s) :=
  writeOutcome_cases c s (s.setActive t j)

theorem portNext_writeApplied (t : String) (a : A) :
    (portNext E s (.writeApplied t a) c).2 = s.setApplied t a ∨
      ((portNext E s (.writeApplied t a) c).1 = false ∧ (portNext E s (.writeApplied t a) c).2 = s) :=
  writeOutcome_cases c s (s.setApplied t a)

/-- a read of the policy returns both contents or fails -/
theorem portNext_readPolicy :
    (portNext E s .readPolicy c).1 = some (s.policyDisk, s.policyMemory) ∨ (portNext E s .readPolicy c).1 = none := by
  by_cases hc : c = .ok <;> simp [portNext, hc]

@[simp] theorem setActive_self (t j : String) : (s.setActive t j).active t = some j := by simp [PortWorld.setActive]
@[simp] theorem setApplied_self (t : String) (a : A) : (s.setApplied t a).applied t = some a := by
  simp [PortWorld.setApplied]

end Ops

/-! ## Read-only programs -/

section Quiet

variable {β A : Type} {E : PortEnv}

/-- the program changes nothing, consumes no grant, and returns a value in `Q` -/
abbrev Quietly {α : Type} (p : PortProg β A α) (Q : α → Prop) : Prop := p.Only (fun o => o.quiet = true) Q

/-- the program only reads records and the clock -/
abbrev Reading {α : Type} (p : PortProg β A α) : Prop := p.Only (fun o => o.reading = true) fun _ => True

theorem Reading.quiet {α : Type} {p : PortProg β A α} (h : Reading p) : Quietly p fun _ => True :=
  only_mono h (fun _ => PortOp.reading_quiet) fun _ h => h

theorem loadJob_reading (M : PortMode β A) (t j : String) : Reading (loadJob M t j) := by
  unfold loadJob
  refine only_ite trivial (only_op_bind rfl fun r => ?_)
  rcases r with _ | _ | l <;> trivial

theorem loadActive_reading (M : PortMode β A) (t : String) : Reading (loadActive M t) := by
  unfold loadActive
  refine only_ite trivial (only_op_bind rfl fun r => ?_)
  rcases r with _ | _ | j
  · trivial
  · trivial
  · refine only_ite trivial (only_seq (loadJob_reading M t j) fun r _ => ?_)
    rcases r with _ | _ | l <;> trivial

theorem loadApplied_reading (M : PortMode β A) (t : String) : Reading (loadApplied M t) := by
  unfold loadApplied
  refine only_ite trivial (only_op_bind rfl fun r => ?_)
  rcases r with _ | _ | a <;> trivial

theorem policyVerify_quiet (payload : Bytes) : Quietly (policyVerify payload : PortProg β A Bool) fun _ => True := by
  unfold policyVerify
  refine only_op_bind rfl fun r => ?_
  rcases r with _ | ⟨d, m⟩ <;> simp

theorem budgetSpent_quiet (deadline : ℕ) : Quietly (budgetSpent deadline : PortProg β A Bool) fun _ => True := by
  unfold budgetSpent
  refine only_op_bind rfl fun t => ?_
  split_ifs
  · trivial
  · exact ⟨rfl, fun _ => trivial⟩

theorem restartService_mild (target : LocalExecutorTarget) :
    (restartService target : PortProg β A (Except DriverError Unit)).Only (fun o => o.mild = true) fun _ => True := by
  unfold restartService
  refine only_op_bind rfl fun ok => ?_
  split_ifs
  · trivial
  · exact only_op_bind rfl fun _ => trivial

theorem ensureAvailableIf_quiet (changes : Bool) (target : LocalExecutorTarget) :
    Quietly (ensureAvailableIf changes target : PortProg β A Bool) fun _ => True := by
  unfold ensureAvailableIf
  split
  · exact ⟨rfl, fun _ => trivial⟩
  · trivial

end Quiet

/-! ## The drivers -/

/-- a ledger as a driver's `prepare` builds it -/
structure StagedFor {β : Type} (plan : SystemdPortReconfigurePlan) (candidates : PortPolicyCandidates)
    (l : PortLedger β) : Prop where
  plan : l.plan = plan
  state : l.state = .staged
  result : l.result = none
  transition : ∃ t, l.policyTransition = some t ∧ t.candidates = candidates ∧ t.rollbackLatched = false

/-- the operation writes the runtime configuration of the snapshot `ref`, or changes nothing -/
def WritesOnly {β A : Type} (E : PortEnv) (ref : PortSnapshotRef) (o : PortOp β A) : Prop :=
  o.quiet = true ∨
    ∃ current payload, o = .writeConfig current payload ∧ portV2SnapshotPayloadMatches E payload ref = true

/-- what the coordinator relies on in a driver -/
structure PortV2Driver.Lawful {β A : Type} (E : PortEnv) (D : PortV2Driver β A) : Prop where
  terminal : ∀ l t, D.mode.validateLedger l t = true → l.state = .terminal → l.result.isSome = true
  prepare : ∀ policy plan candidates, Quietly (D.prepare policy plan candidates) fun r =>
    ∀ l, r = some l → StagedFor plan candidates l
  verify : ∀ l policy ref, Quietly (D.verify l policy ref) fun _ => True
  write : ∀ l policy ref, (D.write l policy ref).Only (WritesOnly E ref) fun _ => True
  restart : ∀ l policy ref, (D.restart l policy ref).Only (fun o => o.mild = true) fun _ => True
  applied : ∀ l r a, D.appliedFor l r = some a → D.mode.savable a = true → D.mode.appliedTarget a = l.plan.targetID

section Drivers

variable {E : PortEnv}

theorem validPortV2LedgerState_terminal {t : Option PortPolicyTransition} {r : Option SystemdPortReconfigureResult}
    (h : validPortV2LedgerState .terminal t r = true) : r.isSome = true := by
  cases t <;> cases r <;> simp_all [validPortV2LedgerState]

theorem validLegacyLedgerState_terminal {w : LedgerState → Bool} {r : Option SystemdPortReconfigureResult}
    (h : validLegacyLedgerState w .terminal r = true) : r.isSome = true := by
  cases r <;> simp_all [validLegacyLedgerState]

/-- a valid terminal ledger has its result -/
theorem validateSystemdPortLedger_terminal (l : SystemdPortLedger) (t : String)
    (h : validateSystemdPortLedger E l t = true) (hs : l.state = .terminal) : l.result.isSome = true := by
  unfold validateSystemdPortLedger at h
  split at h
  · simp only [PortLedger.validatePortV2Shared, Bool.and_eq_true, hs] at h
    exact validPortV2LedgerState_terminal h.1.1.2
  · simp only [Bool.and_eq_true, hs] at h
    exact validLegacyLedgerState_terminal h.2

theorem validateDockerPortLedger_terminal (l : DockerPortLedger) (t : String)
    (h : validateDockerPortLedger E l t = true) (hs : l.state = .terminal) : l.result.isSome = true := by
  unfold validateDockerPortLedger at h
  dsimp only at h
  split at h
  · simp only [PortLedger.validatePortV2Shared, Bool.and_eq_true, hs] at h
    exact validPortV2LedgerState_terminal h.1.1.1.1.2
  · simp only [Bool.and_eq_true, hs] at h
    exact validLegacyLedgerState_terminal h.2

theorem writeRuntime_writesOnly {β A : Type} (ok : PortCheckpoint → Bool) (l : PortLedger β) (payload : Option Bytes)
    (ref : PortSnapshotRef) :
    (writeRuntime E ok l payload ref : PortProg β A _).Only (WritesOnly E ref) fun _ => True := by
  unfold writeRuntime
  refine only_op_bind (Or.inl rfl) fun expired => ?_
  split_ifs
  · trivial
  refine only_op_bind (Or.inl rfl) fun cp => ?_
  rcases cp with _ | current
  · trivial
  dsimp only
  split_ifs
  · trivial
  rcases payload with _ | payload
  · trivial
  dsimp only
  split_ifs with hm
  · trivial
  · trivial
  · exact only_op_bind (Or.inr ⟨current, payload, rfl, by simpa using hm⟩) fun _ => trivial

theorem systemdPrepare_quiet (policy : LocalExecutorPolicy) (plan : SystemdPortReconfigurePlan)
    (candidates : PortPolicyCandidates) :
    Quietly (systemdPrepare E policy plan candidates) fun r => ∀ l, r = some l → StagedFor plan candidates l := by
  unfold systemdPrepare
  split
  case h_2 => simp
  refine only_op_bind rfl fun cp => ?_
  rcases cp with _ | cp
  · simp
  dsimp only
  split
  · simp
  refine only_op_bind rfl fun version => ?_
  rcases version with _ | version
  · simp
  dsimp only
  split
  · simp
  refine only_seq (ensureAvailableIf_quiet _ _) fun available _ => ?_
  split
  · simp
  split
  · simp
  · simp only [only_pure, Option.some.injEq, forall_eq']
    exact ⟨rfl, rfl, rfl, _, rfl, rfl, rfl⟩

theorem systemdVerify_quiet (l : SystemdPortLedger) (policy : LocalExecutorPolicy) (ref : PortSnapshotRef) :
    Quietly (systemdVerify E l policy ref) fun _ => True := by
  unfold systemdVerify
  split
  · trivial
  split
  · trivial
  refine only_op_bind rfl fun cp => ?_
  rcases cp with _ | cp
  · trivial
  dsimp only
  split
  · trivial
  · exact only_op_bind rfl fun _ => trivial

theorem systemdRestart_mild (l : SystemdPortLedger) (policy : LocalExecutorPolicy) (ref : PortSnapshotRef) :
    (systemdRestart E l policy ref).Only (fun o => o.mild = true) fun _ => True := by
  unfold systemdRestart
  split
  · trivial
  split
  · exact restartService_mild _
  · trivial

theorem systemdPortV2Driver_lawful : (systemdPortV2Driver E).Lawful E where
  terminal := validateSystemdPortLedger_terminal
  prepare := systemdPrepare_quiet
  verify := systemdVerify_quiet
  write := fun l _ ref => writeRuntime_writesOnly _ l _ ref
  restart := systemdRestart_mild
  applied := by
    intro l r a ha hs
    cases ha
    -- the zero record of a result without a snapshot is not savable
    revert hs
    simp only [systemdPortV2Driver, systemdMode, systemdPortAppliedStateForResult]
    split
    · split
      · intro hs
        exact absurd hs (by decide)
      · exact fun _ => rfl
    · exact fun _ => rfl

theorem validateDockerPortV2AppliedAuthority_quiet (policy : LocalExecutorPolicy) (target : LocalExecutorTarget)
    (a : DockerPortAppliedState) : Quietly (validateDockerPortV2AppliedAuthority E policy target a) fun _ => True := by
  unfold validateDockerPortV2AppliedAuthority
  split
  · trivial
  split
  · trivial
  refine only_seq (loadJob_reading _ _ _).quiet fun r _ => ?_
  split
  · split <;> trivial
  · trivial

theorem verifyAppliedDockerSidecar_quiet (target : LocalExecutorTarget) (a : DockerPortAppliedState) :
    Quietly (verifyAppliedDockerSidecar E target a) fun _ => True := by
  unfold verifyAppliedDockerSidecar
  split
  · trivial
  split
  · trivial
  refine only_op_bind rfl fun cp => ?_
  rcases cp with _ | cp <;> trivial

theorem verifyAppliedDockerSidecarIf_quiet (verifySidecar : Bool) (target : LocalExecutorTarget)
    (a : DockerPortAppliedState) : Quietly (verifyAppliedDockerSidecarIf E verifySidecar target a) fun _ => True := by
  unfold verifyAppliedDockerSidecarIf
  split
  · exact verifyAppliedDockerSidecar_quiet _ _
  · trivial

theorem dockerUseOverlay_quiet (policy : LocalExecutorPolicy) (target : LocalExecutorTarget)
    (a : DockerPortAppliedState) : Quietly (dockerUseOverlay E policy target a) fun _ => True := by
  unfold dockerUseOverlay
  split
  · exact validateDockerPortV2AppliedAuthority_quiet _ _ _
  · trivial

theorem resolveDockerPortAppliedTargetBound_quiet (policy : LocalExecutorPolicy) (target : LocalExecutorTarget)
    (verifySidecar : Bool) :
    Quietly (resolveDockerPortAppliedTargetBound E policy target verifySidecar) fun _ => True := by
  unfold resolveDockerPortAppliedTargetBound
  refine only_seq (loadApplied_reading _ _).quiet fun r _ => ?_
  split
  · trivial
  · trivial
  refine only_seq (dockerUseOverlay_quiet _ _ _) fun overlay _ => ?_
  split
  · trivial
  refine only_seq (verifyAppliedDockerSidecarIf_quiet _ _ _) fun ok _ => ?_
  split <;> trivial

theorem dockerPrepareSnapshot_quiet (plan : SystemdPortReconfigurePlan) (policyBytes payload : Bytes)
    (ref : PortSnapshotRef) : Quietly (dockerPrepareSnapshot E plan policyBytes payload ref) fun _ => True := by
  unfold dockerPrepareSnapshot
  split
  · trivial
  refine only_op_bind rfl fun m => ?_
  rcases m with _ | m <;> trivial

theorem dockerPrepare_quiet (adapter : DockerPortAdapter) (policy : LocalExecutorPolicy)
    (plan : SystemdPortReconfigurePlan) (candidates : PortPolicyCandidates) :
    Quietly (dockerPrepare E adapter policy plan candidates) fun r => ∀ l, r = some l → StagedFor plan candidates l := by
  unfold dockerPrepare
  split
  case h_2 => simp
  refine only_seq (resolveDockerPortAppliedTargetBound_quiet _ _ _) fun target _ => ?_
  split
  · simp
  refine only_op_bind rfl fun o => ?_
  rcases o with _ | o
  · simp
  dsimp only
  split
  · simp
  split
  case h_2 => simp
  split
  · simp
  refine only_seq (dockerPrepareSnapshot_quiet _ _ _ _) fun targetModel _ => ?_
  split
  · simp
  refine only_seq (dockerPrepareSnapshot_quiet _ _ _ _) fun rollbackModel _ => ?_
  split
  · simp
  refine only_seq (ensureAvailableIf_quiet _ _) fun available _ => ?_
  split
  · simp
  · simp only [only_pure, Option.some.injEq, forall_eq']
    exact ⟨rfl, rfl, rfl, _, rfl, rfl, rfl⟩

theorem dockerVerify_quiet (l : DockerPortLedger) (policy : LocalExecutorPolicy) (ref : PortSnapshotRef) :
    Quietly (dockerVerify E l policy ref) fun _ => True := by
  unfold dockerVerify
  split
  · trivial
  refine only_op_bind rfl fun o => ?_
  rcases o with _ | o <;> trivial

theorem dockerRestart_mild (adapter : DockerPortAdapter) (l : DockerPortLedger) (policy : LocalExecutorPolicy)
    (ref : PortSnapshotRef) : (dockerRestart E adapter l policy ref).Only (fun o => o.mild = true) fun _ => True := by
  unfold dockerRestart
  split
  case h_2 => trivial
  refine only_op_bind rfl fun m => ?_
  rcases m with _ | m
  · trivial
  dsimp only
  split
  · trivial
  · exact restartService_mild _

theorem dockerPortV2Driver_lawful (adapter : DockerPortAdapter) : (dockerPortV2Driver E adapter).Lawful E where
  terminal := validateDockerPortLedger_terminal
  prepare := dockerPrepare_quiet adapter
  verify := dockerVerify_quiet
  write := fun l _ ref => writeRuntime_writesOnly _ l _ ref
  restart := dockerRestart_mild adapter
  applied := by
    intro l r a ha _
    simp only [dockerPortV2Driver, dockerAppliedFor, Option.bind_eq_bind, Option.bind_eq_some_iff,
      Option.pure_def] at ha
    obtain ⟨ref, -, docker, -, ha⟩ := ha
    cases ha
    rfl

end Drivers
end AutostreamUpdater.Port
