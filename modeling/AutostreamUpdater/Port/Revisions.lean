/-
The revisions of a legacy plan are `int64` values, and the validator states their successors with `int64` addition.

`RevisionsSound` says what the commit needs of them: they are positive, they grow, no successor wraps around, and the
applied record of every result the commit saves passes the store's own check. The validator keeps the endpoint revision
away from the end of the range but not the configuration revision, so exactly one configuration revision is accepted
whose successor is negative.
-/
import AutostreamUpdater.Port.Resumed

namespace AutostreamUpdater.Port

open Contract

variable {E : PortEnv} {plan : SystemdPortReconfigurePlan} {k : PortResultKind}

/-! ## Successors on `int64` -/

theorem incr64_of_lt {a : ℤ} (h1 : 1 ≤ a) (h : a < maxInt64) : incr64 a = a + 1 := by
  unfold incr64
  unfold maxInt64 at h
  omega

theorem incr64_max : incr64 maxInt64 = -2 ^ 63 := by decide

/-! ## The records of a commit -/

/-- the ports and the Compose digest that a Docker result of each kind reports -/
abbrev dockerResultState (binding : DockerPortMutationGrantBinding) (k : PortResultKind) (compose : String) :
    DockerPortResultState :=
  let ports := dockerSidePorts binding (k == .applied)
  ⟨ports.1, ports.2.1, ports.2.2, compose⟩

/-- the result of each kind that a Docker commit saves -/
abbrev dockerResult (plan : SystemdPortReconfigurePlan) (binding : DockerPortMutationGrantBinding) (k : PortResultKind)
    (compose : String) : SystemdPortReconfigureResult :=
  legacyResult plan modeDocker (dockerResultMessage k) k (some (dockerResultState binding k compose))

/-- the revisions of a legacy plan, and everything the commit computes from them, are sound `int64` values -/
structure RevisionsSound (plan : SystemdPortReconfigurePlan) : Prop where
  expected : 1 ≤ plan.expectedEndpointRevision ∧ 1 ≤ plan.expectedConfigRevision
  increasing : plan.expectedEndpointRevision < plan.targetEndpointRevision ∧
    plan.expectedConfigRevision < plan.targetConfigRevision
  /-- the sums the commit writes are the ones `int64` addition gives -/
  exact : incr64 plan.expectedEndpointRevision = plan.targetEndpointRevision ∧
    incr64 plan.expectedConfigRevision = plan.targetConfigRevision ∧
    incr64 plan.targetEndpointRevision = plan.targetEndpointRevision + 1
  /-- whatever a commit reports has positive revisions -/
  reported : ∀ mode message k docker, 1 ≤ (legacyResult plan mode message k docker).endpointRevision ∧
    1 ≤ (legacyResult plan mode message k docker).configRevision
  systemd : plan.effectiveDeploymentMode = modeSystemd → ∀ k, k ≠ .rollbackFailed →
    (systemdPortAppliedStateForResult plan (systemdResult plan k)).savable = true
  docker : plan.effectiveDeploymentMode = modeDocker → ∀ binding, plan.docker = some binding → ∀ compose,
    mutationPlanHashPattern compose = true → ∀ k, k ≠ .rollbackFailed →
    (legacyDockerApplied plan (dockerResult plan binding k compose) (dockerResultState binding k compose)).validate
      plan.targetID = true

/-- what the binding of a valid Docker plan says about its ports -/
theorem docker_ports (hm : plan.legacyModeValid = true) (hmode : plan.effectiveDeploymentMode = modeDocker)
    {binding : DockerPortMutationGrantBinding} (hb : plan.docker = some binding) (side : Bool) :
    validSystemdPort (dockerSidePorts binding side).1 = true ∧ validSystemdPort (dockerSidePorts binding side).2.1 = true ∧
      (dockerSidePorts binding side).2.2 = (dockerSidePorts binding side).1 := by
  have hne : (modeDocker == modeSystemd) = false := by decide
  simp only [SystemdPortReconfigurePlan.legacyModeValid, hmode, hne, Bool.false_eq_true, if_false, beq_self_eq_true,
    if_true, hb, dockerPortBindingValid, Bool.and_eq_true, beq_iff_eq, and_assoc] at hm
  obtain ⟨-, -, hop, hnp, hoc, hnc, hoh, hnh, -⟩ := hm
  cases side with
  | true => exact ⟨hnp, hnc, hnh⟩
  | false => exact ⟨hop, hoc, hoh⟩

/-- the applied record of every Docker result but `rollback_failed` passes the store -/
theorem dockerApplied_valid (hc : plan.legacyComplete = true) (hm : plan.legacyModeValid = true)
    (hmode : plan.effectiveDeploymentMode = modeDocker) (hrevision : 1 ≤ plan.targetConfigRevision)
    {binding : DockerPortMutationGrantBinding} (hb : plan.docker = some binding) {compose : String}
    (hcompose : mutationPlanHashPattern compose = true) (hk : k ≠ .rollbackFailed) :
    (legacyDockerApplied plan (dockerResult plan binding k compose) (dockerResultState binding k compose)).validate
      plan.targetID = true := by
  have hports := docker_ports hm hmode hb
  have hbounds := LegacyPlan.Bounds.of_complete hc
  have hendpoint := hbounds.endpoint
  have hendpoint' : 1 ≤ plan.targetEndpointRevision + 1 := by omega
  have htarget : identifierPattern plan.targetID = true := by
    simp only [SystemdPortReconfigurePlan.legacyComplete, Bool.and_eq_true, and_assoc] at hc
    exact hc.2.2.1
  cases k with
  | rollbackFailed => exact absurd rfl hk
  | _ => simp [legacyDockerApplied, legacyResult, DockerPortAppliedState.validate, hports,
      htarget, hcompose, hbounds.serviceType, hbounds.expectedRevision, hbounds.expectedDigest, hbounds.targetDigest,
      hbounds.source, hbounds.updater, hbounds.executor, hbounds.policyDigest, hbounds.epoch, hrevision, hendpoint,
      hendpoint']

/-- Revisions of a valid legacy plan are sound as soon as the configuration revision has a successor. -/
theorem revisionsSound_of_lt (hv : plan.validate E.toContracts = true) (h0 : plan.portContractVersion = 0)
    (hlt : plan.expectedConfigRevision < maxInt64) : RevisionsSound plan := by
  obtain ⟨hc, -, hm⟩ := validate_legacy hv h0
  have hrevisions := hc
  simp only [SystemdPortReconfigurePlan.legacyComplete, Bool.and_eq_true, decide_eq_true_eq, beq_iff_eq,
    and_assoc] at hrevisions
  obtain ⟨-, -, -, -, -, -, -, -, -, -, hee, hemax, hte, hec, htc, -⟩ := hrevisions
  have hconfig := incr64_of_lt hec hlt
  have hrevision : 1 ≤ plan.targetConfigRevision := by omega
  have hendpoint : incr64 plan.expectedEndpointRevision = plan.expectedEndpointRevision + 1 :=
    incr64_of_lt hee (by omega)
  have hnext : incr64 plan.targetEndpointRevision = plan.targetEndpointRevision + 1 :=
    incr64_of_lt (by omega) (by omega)
  refine ⟨⟨hee, hec⟩, ⟨by omega, by omega⟩, ⟨by omega, htc.symm, hnext⟩, ?_, ?_, ?_⟩
  · intro mode message k docker
    cases k <;> simp [legacyResult] <;> omega
  · intro hmode k hk
    exact LegacyPlan.applied_savable ⟨by omega, hv, hmode, hrevision⟩ hk
  · intro hmode binding hb compose hcompose k hk
    exact dockerApplied_valid hc hm hmode hrevision hb hcompose hk

/-- **The configuration revision must have a successor.** For a valid legacy plan the revisions and everything the commit
computes from them are sound exactly when the expected configuration revision is not the last `int64`: the validator
compares its target with a wrapped successor. -/
theorem legacy_revisions_sound_iff (E : PortEnv) (hv : plan.validate E.toContracts = true)
    (h0 : plan.portContractVersion = 0) (hint : plan.expectedConfigRevision ≤ maxInt64) :
    RevisionsSound plan ↔ plan.expectedConfigRevision ≠ maxInt64 := by
  constructor
  · intro hsound hmax
    -- the successor of the last revision is the first, which is not above it
    have hwrapped := hsound.exact.2.1
    have hgrows := hsound.increasing.2
    rw [hmax, incr64_max] at hwrapped
    rw [hmax, ← hwrapped] at hgrows
    exact absurd hgrows (by decide)
  · intro hne
    exact revisionsSound_of_lt hv h0 (lt_of_le_of_ne hint hne)

namespace Sample

/-- the sample plan at the last configuration revision -/
def lastRevisionPlan : SystemdPortReconfigurePlan :=
  { legacyPlan "job-1" with expectedConfigRevision := maxInt64, targetConfigRevision := incr64 maxInt64 }

end Sample

theorem sample_revisions_sound : RevisionsSound (Sample.legacyPlan "job-1") :=
  (legacy_revisions_sound_iff Sample.env Sample.legacyPlan_fits.1 rfl (by decide)).2 (by decide)

/-- The plan at the last configuration revision is accepted, asks for a negative one, and the record of its applied result
cannot be saved. -/
theorem last_revision_wraps :
    Sample.lastRevisionPlan.validate Sample.env.toContracts = true ∧ Sample.lastRevisionPlan.portContractVersion = 0 ∧
      Sample.lastRevisionPlan.targetConfigRevision = -2 ^ 63 ∧
      (systemdPortAppliedStateForResult Sample.lastRevisionPlan
        (systemdResult Sample.lastRevisionPlan .applied)).savable = false ∧
      ¬ RevisionsSound Sample.lastRevisionPlan := by
  have hvalid : Sample.lastRevisionPlan.validate Sample.env.toContracts = true := by decide +kernel
  refine ⟨hvalid, rfl, by decide, ?_, ?_⟩
  · have hrevision : Sample.lastRevisionPlan.targetConfigRevision = -2 ^ 63 := by decide
    have hversion : (Sample.lastRevisionPlan.portContractVersion == 2) = false := by decide
    simp [SystemdPortAppliedState.savable, systemdPortAppliedStateForResult, legacyResult, hversion, hrevision]
  · intro hsound
    exact absurd hsound.increasing.2 (by decide)

end AutostreamUpdater.Port
