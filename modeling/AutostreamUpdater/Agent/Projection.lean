/-
The policy candidates of a port job: `portPolicyCandidate` rewrites an agent policy to one snapshot of the plan, and
`StagePortPolicy` keeps the candidates for before, target and rollback beside the job. The before candidate is made from the
panel's policy; target and rollback are made from it in turn.

  * `agent_port_projection`: the stored candidates differ from the policy only in the four revision and digest fields and in
    the endpoint, config and listener fields of the selected target; where a port is the same before and after, the endpoint
    is restored with its URL; and each stored candidate matches its own snapshot.

Parsing a URL and printing it with another authority is a field of `ProjectionContracts`. Copying a policy through JSON
(`clonePortAgentPolicy`) returns the same policy. The health endpoint of a Docker target moves to the snapshot's health port;
that this is the listen port is a check of the shared contracts package on the plan (`ChecksHealthPort`).
-/
import AutostreamUpdater.Agent.Store
import AutostreamUpdater.Base.Checked

namespace AutostreamUpdater.Agent

open Contract Base

/-- the URL functions of `portAdvertisedEndpoint`, next to what policy validation needs -/
structure ProjectionContracts extends AgentContracts where
  /-- the URL with `net.JoinHostPort(hostname, port)` as its authority; `none` where it does not parse, has no host name or
  names a user -/
  readdressURL : String → ℤ → Option String

section Candidates

variable (X : ProjectionContracts)

/-- `portAdvertisedEndpoint` -/
def portAdvertisedEndpoint (before : HostAgentEndpoint) (port : ℤ) : Except String HostAgentEndpoint :=
  if before.publicURL == "" || before.port == port then .ok { before with port := port }
  else match X.readdressURL before.publicURL port with
    | none => .error "port advertised endpoint is invalid"
    | some publicURL => .ok { before with port := port, publicURL := publicURL }

/-- the same for an endpoint that may be missing -/
def portOptionalEndpoint (before : Option HostAgentEndpoint) (port : ℤ) : Except String (Option HostAgentEndpoint) :=
  match before with
  | none => .ok none
  | some e => (portAdvertisedEndpoint X e port).map some

/-- the listener and the health endpoint of a systemd target -/
def systemdLocalEndpoints (t : HostAgentPolicyTarget) (ref : PortSnapshotRef) :
    Except String (Option HostAgentEndpoint × Option HostAgentEndpoint) :=
  if t.localListenEndpoint.isNone then .error "port candidate lacks a local listener"
  else do
    let listener ← portOptionalEndpoint X t.localListenEndpoint ref.localListenPort
    let health ← portOptionalEndpoint X t.localHealthEndpoint ref.localListenPort
    .ok (listener, health)

/-- the listener and the health endpoint of a Docker target -/
def dockerLocalEndpoints (t : HostAgentPolicyTarget) (ref : PortSnapshotRef) :
    Except String (Option HostAgentEndpoint × Option HostAgentEndpoint) :=
  match ref.docker with
  | none => .error "port candidate lacks a Docker health endpoint"
  | some d =>
    if t.localHealthEndpoint.isNone then .error "port candidate lacks a Docker health endpoint"
    else do
      let health ← portOptionalEndpoint X t.localHealthEndpoint d.healthPort
      let listener ← portOptionalEndpoint X t.localListenEndpoint ref.localListenPort
      .ok (listener, health)

/-- the local endpoints, by deployment mode -/
def portLocalEndpoints (t : HostAgentPolicyTarget) (ref : PortSnapshotRef) :
    Except String (Option HostAgentEndpoint × Option HostAgentEndpoint) :=
  if t.deploymentMode == modeSystemd then systemdLocalEndpoints X t ref else dockerLocalEndpoints X t ref

/-- the selected target, rewritten to a snapshot -/
def portTargetCandidate (t : HostAgentPolicyTarget) (ref : PortSnapshotRef) : Except String HostAgentPolicyTarget :=
  match t.appliedEndpoint with
  | none => .error "port candidate lacks an applied endpoint"
  | some applied => do
    let endpoint ← portAdvertisedEndpoint X applied ref.advertisedPort
    let (listener, health) ← portLocalEndpoints X t ref
    .ok { t with
      endpointRevision := ref.endpointRevision
      appliedEndpointRevision := ref.appliedEndpointRevision
      appliedConfigRevision := ref.configRevision
      appliedConfigSHA256 := ref.configSHA256
      appliedEndpoint := some endpoint
      desiredEndpoint := some endpoint
      localListenEndpoint := listener
      localHealthEndpoint := health }

/-- the loop over the targets: the first one of the service is rewritten -/
def portTargetCandidates (targetID : String) (ref : PortSnapshotRef) :
    List HostAgentPolicyTarget → Except String (List HostAgentPolicyTarget)
  | [] => .error "port candidate target is unavailable"
  | t :: rest =>
    if t.serviceID != targetID then (portTargetCandidates targetID ref rest).map (t :: ·)
    else (portTargetCandidate X t ref).map (· :: rest)

/-- `portPolicyCandidate` -/
def portPolicyCandidate (before : HostAgentPolicy) (targetID : String) (ref : PortSnapshotRef) :
    Except String HostAgentPolicy :=
  (portTargetCandidates X targetID ref before.targets).map fun targets =>
    { before with
      sourcePolicyRevision := ref.sourcePolicyRevision
      revision := ref.projectionRevision
      localExecutorPolicyRevision := ref.executorPolicyRevision
      localExecutorPolicySHA256 := ref.executorPolicySHA256
      targets := targets }

/-- the candidates of `StagePortPolicy`, before their check -/
def portPolicyCandidates (policy : HostAgentPolicy) (job : UpdateJob) (plan : SystemdPortReconfigurePlan)
    (b t r : PortSnapshotRef) : Except String PortAgentPolicyState := do
  let before ← portPolicyCandidate X policy job.targetID b
  let target ← portPolicyCandidate X before job.targetID t
  let rollback ← portPolicyCandidate X before job.targetID r
  .ok { jobID := job.id, portIntentSHA256 := plan.portIntentSHA256, before := before, target := target,
        rollback := rollback, activeSnapshotID := b.snapshotID }

/-- the new state of `StagePortPolicy`; a v2 plan has all three snapshots -/
def newPortPolicyState (policy : HostAgentPolicy) (job : UpdateJob) (plan : SystemdPortReconfigurePlan) :
    Except String PortAgentPolicyState :=
  match plan.before, plan.target, plan.rollback with
  | some b, some t, some r =>
    if policy.runtimeTokenRotation.isSome || policy.selfUpdate.isSome ||
        !portAgentPolicyMatchesSnapshot X.toAgentContracts policy job.targetID b then
      .error "port policy candidates require the original before snapshot"
    else do
      let state ← portPolicyCandidates X policy job plan b t r
      state.validate X.toAgentContracts (some job) (some plan)
      .ok state
  | _, _, _ => .error "port policy candidates require the original before snapshot"

/-- `StagePortPolicy`; `saved` is the outcome of writing the journal, which comes after the state in memory -/
def stagePortPolicy (saved : Except String Unit) (j : Journal) (policy : HostAgentPolicy) (job : UpdateJob)
    (plan : SystemdPortReconfigurePlan) : Except String Unit × Journal :=
  match j.poisoned with
  | some reason => (.error reason, j)
  | none => match j.data.activePortPolicy with
    | some state => (state.validate X.toAgentContracts (some job) (some plan), j)
    | none => match newPortPolicyState X policy job plan with
      | .error reason => (.error reason, j)
      | .ok state =>
        let staged : Journal := { j with data := { j.data with activePortPolicy := some state } }
        match saved with
        | .ok () => (.ok (), staged)
        | .error reason => staged.poisonLocked ("persist update journal mutation: " ++ reason)

end Candidates

/-! ## What a candidate keeps -/

/-- the fields of the selected target that a candidate may change: revisions, config and the four endpoints -/
def SameTarget (t t' : HostAgentPolicyTarget) : Prop :=
  t' = { t with
    endpointRevision := t'.endpointRevision
    appliedEndpointRevision := t'.appliedEndpointRevision
    appliedConfigRevision := t'.appliedConfigRevision
    appliedConfigSHA256 := t'.appliedConfigSHA256
    desiredEndpoint := t'.desiredEndpoint
    appliedEndpoint := t'.appliedEndpoint
    localListenEndpoint := t'.localListenEndpoint
    localHealthEndpoint := t'.localHealthEndpoint }

/-- a policy that differs in the four revision and digest fields and in the selected target only -/
structure Projected (targetID : String) (p c : HostAgentPolicy) : Prop where
  fields : c = { p with
    sourcePolicyRevision := c.sourcePolicyRevision
    revision := c.revision
    localExecutorPolicyRevision := c.localExecutorPolicyRevision
    localExecutorPolicySHA256 := c.localExecutorPolicySHA256
    targets := c.targets }
  targets : List.Forall₂ (fun t t' => t' = t ∨ t.serviceID = targetID ∧ SameTarget t t') p.targets c.targets

theorem SameTarget.trans {a b c : HostAgentPolicyTarget} (hab : SameTarget a b) (hbc : SameTarget b c) : SameTarget a c := by
  unfold SameTarget at *
  rw [hbc, hab]

theorem Projected.trans {targetID : String} {p q c : HostAgentPolicy} (hpq : Projected targetID p q)
    (hqc : Projected targetID q c) : Projected targetID p c where
  fields := by
    rw [hqc.fields, hpq.fields]
  targets := by
    have hp := hpq.targets
    have hq := hqc.targets
    generalize p.targets = ps at hp ⊢
    generalize q.targets = qs at hp hq
    generalize c.targets = cs at hq ⊢
    induction hp generalizing cs with
    | nil =>
      cases hq
      exact .nil
    | cons ht _ ih =>
      cases hq with
      | cons ht' hrest =>
        apply List.Forall₂.cons _ (ih _ hrest)
        rcases ht with rfl | ⟨hid, hsame⟩
        · exact ht'
        · rcases ht' with rfl | ⟨_, hsame'⟩
          · exact .inr ⟨hid, hsame⟩
          · exact .inr ⟨hid, hsame.trans hsame'⟩

/-! ## One endpoint -/

section Endpoints

variable {X : ProjectionContracts}

theorem portAdvertisedEndpoint_port {e e' : HostAgentEndpoint} {port : ℤ}
    (h : portAdvertisedEndpoint X e port = .ok e') : e'.port = port := by
  unfold portAdvertisedEndpoint at h
  split at h
  · cases h
    rfl
  · split at h
    · cases h
    · cases h
      rfl

/-- an endpoint that already has the port is left as it is, URL included -/
theorem portAdvertisedEndpoint_same (e : HostAgentEndpoint) : portAdvertisedEndpoint X e e.port = .ok e := by
  unfold portAdvertisedEndpoint
  rw [if_pos (by simp)]

/-- moving an endpoint to the port it was just moved to changes nothing -/
theorem portAdvertisedEndpoint_again {e e' : HostAgentEndpoint} {port : ℤ}
    (h : portAdvertisedEndpoint X e port = .ok e') : portAdvertisedEndpoint X e' port = .ok e' := by
  have hport := portAdvertisedEndpoint_port h
  rw [← hport]
  exact portAdvertisedEndpoint_same e'

theorem portOptionalEndpoint_again {e e' : Option HostAgentEndpoint} {port : ℤ}
    (h : portOptionalEndpoint X e port = .ok e') : portOptionalEndpoint X e' port = .ok e' := by
  cases e with
  | none =>
    cases h
    rfl
  | some e =>
    simp only [portOptionalEndpoint] at h
    cases hmoved : portAdvertisedEndpoint X e port with
    | error reason => rw [hmoved] at h; cases h
    | ok moved =>
      rw [hmoved] at h
      cases h
      have hagain := portAdvertisedEndpoint_again hmoved
      show (portAdvertisedEndpoint X moved port).map some = _
      rw [hagain]
      rfl

end Endpoints

/-! ## One target -/

/-- the ports the local health endpoint may move to: the listener's, and for Docker the health port -/
def HealthPort (ref : PortSnapshotRef) (port : ℤ) : Prop :=
  port = ref.localListenPort ∨ ∃ d, ref.docker = some d ∧ port = d.healthPort

/-- the selected target before and after the rewriting: what it keeps, and how each endpoint moved -/
structure TargetMoved (X : ProjectionContracts) (ref : PortSnapshotRef) (t t' : HostAgentPolicyTarget) : Prop where
  same : SameTarget t t'
  applied : portOptionalEndpoint X t.appliedEndpoint ref.advertisedPort = .ok t'.appliedEndpoint
  desired : t'.desiredEndpoint = t'.appliedEndpoint
  listener : portOptionalEndpoint X t.localListenEndpoint ref.localListenPort = .ok t'.localListenEndpoint
  health : ∃ port, HealthPort ref port ∧ portOptionalEndpoint X t.localHealthEndpoint port = .ok t'.localHealthEndpoint

section Targets

variable {X : ProjectionContracts} {ref : PortSnapshotRef} {t t' : HostAgentPolicyTarget}

theorem systemdLocalEndpoints_ok {l h : Option HostAgentEndpoint} (hok : systemdLocalEndpoints X t ref = .ok (l, h)) :
    portOptionalEndpoint X t.localListenEndpoint ref.localListenPort = .ok l ∧
      ∃ port, HealthPort ref port ∧ portOptionalEndpoint X t.localHealthEndpoint port = .ok h := by
  unfold systemdLocalEndpoints at hok
  split at hok
  · cases hok
  · obtain ⟨listener, hlistener, hrest⟩ := Checked.bind_ok.1 hok
    obtain ⟨health, hhealth, hret⟩ := Checked.bind_ok.1 hrest
    cases hret
    exact ⟨hlistener, _, .inl rfl, hhealth⟩

theorem dockerLocalEndpoints_ok {l h : Option HostAgentEndpoint} (hok : dockerLocalEndpoints X t ref = .ok (l, h)) :
    portOptionalEndpoint X t.localListenEndpoint ref.localListenPort = .ok l ∧
      ∃ port, HealthPort ref port ∧ portOptionalEndpoint X t.localHealthEndpoint port = .ok h := by
  unfold dockerLocalEndpoints at hok
  cases hdocker : ref.docker with
  | none => rw [hdocker] at hok; cases hok
  | some d =>
    rw [hdocker] at hok
    dsimp only at hok
    split at hok
    · cases hok
    · obtain ⟨health, hhealth, hrest⟩ := Checked.bind_ok.1 hok
      obtain ⟨listener, hlistener, hret⟩ := Checked.bind_ok.1 hrest
      cases hret
      exact ⟨hlistener, _, .inr ⟨d, hdocker, rfl⟩, hhealth⟩

theorem portTargetCandidate_ok (hok : portTargetCandidate X t ref = .ok t') : TargetMoved X ref t t' := by
  unfold portTargetCandidate at hok
  cases happlied : t.appliedEndpoint with
  | none => rw [happlied] at hok; cases hok
  | some applied =>
    rw [happlied] at hok
    obtain ⟨endpoint, hendpoint, hrest⟩ := Checked.bind_ok.1 hok
    obtain ⟨⟨listener, health⟩, hlocal, hret⟩ := Checked.bind_ok.1 hrest
    cases hret
    have hlocals : portOptionalEndpoint X t.localListenEndpoint ref.localListenPort = .ok listener ∧
        ∃ port, HealthPort ref port ∧ portOptionalEndpoint X t.localHealthEndpoint port = .ok health := by
      unfold portLocalEndpoints at hlocal
      split at hlocal
      · exact systemdLocalEndpoints_ok hlocal
      · exact dockerLocalEndpoints_ok hlocal
    refine ⟨rfl, ?_, rfl, hlocals.1, hlocals.2⟩
    show (portOptionalEndpoint X t.appliedEndpoint ref.advertisedPort) = _
    rw [happlied]
    show (portAdvertisedEndpoint X applied ref.advertisedPort).map some = _
    rw [hendpoint]
    rfl

/-- the loop changes the first target of the service and nothing else -/
theorem portTargetCandidates_ok {targetID : String} {ts ts' : List HostAgentPolicyTarget}
    (hok : portTargetCandidates X targetID ref ts = .ok ts') :
    List.Forall₂ (fun t t' => t' = t ∨ t.serviceID = targetID ∧ SameTarget t t') ts ts' ∧
      ∃ t t', ts.find? (·.serviceID == targetID) = some t ∧ ts'.find? (·.serviceID == targetID) = some t' ∧
        TargetMoved X ref t t' := by
  induction ts generalizing ts' with
  | nil => cases hok
  | cons t rest ih =>
    unfold portTargetCandidates at hok
    split at hok <;> rename_i hid
    · cases hrest : portTargetCandidates X targetID ref rest with
      | error reason => rw [hrest] at hok; cases hok
      | ok rest' =>
        rw [hrest] at hok
        cases hok
        obtain ⟨hkept, u, u', hu, hu', hmoved⟩ := ih hrest
        have hother : (t.serviceID == targetID) = false := by simpa using hid
        refine ⟨.cons (.inl rfl) hkept, u, u', ?_, ?_, hmoved⟩
        · rw [List.find?_cons, hother]
          exact hu
        · rw [List.find?_cons, hother]
          exact hu'
    · cases hcandidate : portTargetCandidate X t ref with
      | error reason => rw [hcandidate] at hok; cases hok
      | ok t' =>
        rw [hcandidate] at hok
        cases hok
        have hmoved := portTargetCandidate_ok hcandidate
        have hthis : t.serviceID = targetID := by simpa using hid
        have hthis' : t'.serviceID = targetID := by
          rw [hmoved.same]
          exact hthis
        have hsame : ∀ us : List HostAgentPolicyTarget,
            List.Forall₂ (fun t t' => t' = t ∨ t.serviceID = targetID ∧ SameTarget t t') us us := by
          intro us
          exact List.forall₂_same.2 fun x _ => .inl rfl
        refine ⟨.cons (.inr ⟨hthis, hmoved.same⟩) (hsame rest), t, t', ?_, ?_, hmoved⟩
        · rw [List.find?_cons, hthis, beq_self_eq_true]
        · rw [List.find?_cons, hthis', beq_self_eq_true]

theorem portPolicyCandidate_ok {targetID : String} {p c : HostAgentPolicy}
    (hok : portPolicyCandidate X p targetID ref = .ok c) :
    Projected targetID p c ∧ ∃ t t', p.hostPullPolicyTarget targetID = some t ∧
      c.hostPullPolicyTarget targetID = some t' ∧ TargetMoved X ref t t' := by
  unfold portPolicyCandidate at hok
  cases htargets : portTargetCandidates X targetID ref p.targets with
  | error reason => rw [htargets] at hok; cases hok
  | ok targets =>
    rw [htargets] at hok
    cases hok
    obtain ⟨hkept, hselected⟩ := portTargetCandidates_ok htargets
    exact ⟨⟨rfl, hkept⟩, hselected⟩

end Targets

/-! ## The three candidates -/

/-- a Docker snapshot serves its health endpoint on the listen port -/
def HealthFollows (ref : PortSnapshotRef) : Prop := ∀ d, ref.docker = some d → d.healthPort = ref.localListenPort

/-- the shared contracts package accepts a plan only if the health port of each Docker snapshot is its listen port -/
def ChecksHealthPort (X : Contracts) : Prop :=
  ∀ p, X.validatePortPlan p = true → ∀ ref, p.before = some ref ∨ p.target = some ref ∨ p.rollback = some ref →
    HealthFollows ref

theorem HealthPort.follows {ref : PortSnapshotRef} {port : ℤ} (h : HealthPort ref port) (hfollows : HealthFollows ref) :
    port = ref.localListenPort := by
  rcases h with h | ⟨d, hd, h⟩
  · exact h
  · rw [h, hfollows d hd]

/-- the endpoints of the rollback candidate against those of the before candidate: each one is restored, with its URL, where
the advertised port or the listen port is the same in both snapshots -/
structure Restored (b r : PortSnapshotRef) (before rollback : HostAgentPolicyTarget) : Prop where
  applied : b.advertisedPort = r.advertisedPort → rollback.appliedEndpoint = before.appliedEndpoint
  desired : b.advertisedPort = r.advertisedPort → rollback.desiredEndpoint = before.desiredEndpoint
  listener : b.localListenPort = r.localListenPort → rollback.localListenEndpoint = before.localListenEndpoint
  health : b.localListenPort = r.localListenPort → rollback.localHealthEndpoint = before.localHealthEndpoint

/-- an endpoint moved to a port and then to the same port -/
theorem portOptionalEndpoint_restored {X : ProjectionContracts} {e e' e'' : Option HostAgentEndpoint} {port port' : ℤ}
    (h : portOptionalEndpoint X e port = .ok e') (h' : portOptionalEndpoint X e' port' = .ok e'') (hport : port = port') :
    e'' = e' := by
  have hagain := portOptionalEndpoint_again h
  rw [hport, h'] at hagain
  cases hagain
  rfl

theorem TargetMoved.restored {X : ProjectionContracts} {b r : PortSnapshotRef} {t before rollback : HostAgentPolicyTarget}
    (hb : TargetMoved X b t before) (hr : TargetMoved X r before rollback) (hfb : HealthFollows b)
    (hfr : HealthFollows r) : Restored b r before rollback := by
  have happlied : b.advertisedPort = r.advertisedPort → rollback.appliedEndpoint = before.appliedEndpoint :=
    portOptionalEndpoint_restored hb.applied hr.applied
  obtain ⟨pb, hpb, hhealth⟩ := hb.health
  obtain ⟨pr, hpr, hhealth'⟩ := hr.health
  rw [hpb.follows hfb] at hhealth
  rw [hpr.follows hfr] at hhealth'
  refine ⟨happlied, ?_, portOptionalEndpoint_restored hb.listener hr.listener,
    portOptionalEndpoint_restored hhealth hhealth'⟩
  intro hport
  rw [hr.desired, hb.desired]
  exact happlied hport

/-- each candidate matches the snapshot it was made for -/
structure MatchesSnapshots (X : ProjectionContracts) (job : UpdateJob) (b t r : PortSnapshotRef)
    (s : PortAgentPolicyState) : Prop where
  before : portAgentPolicyMatchesSnapshot X.toAgentContracts s.before job.targetID b = true
  target : portAgentPolicyMatchesSnapshot X.toAgentContracts s.target job.targetID t = true
  rollback : portAgentPolicyMatchesSnapshot X.toAgentContracts s.rollback job.targetID r = true
  /-- no other target has the selected service id -/
  selected : (s.before.targets.map (·.serviceID)).Nodup

/-- the candidates against the policy they were made from -/
structure CandidatesOf (policy : HostAgentPolicy) (job : UpdateJob) (b r : PortSnapshotRef) (s : PortAgentPolicyState) :
    Prop where
  before : Projected job.targetID policy s.before
  target : Projected job.targetID policy s.target
  rollback : Projected job.targetID policy s.rollback
  rollbackOfBefore : Projected job.targetID s.before s.rollback
  restored : ∃ before rollback, s.before.hostPullPolicyTarget job.targetID = some before ∧
    s.rollback.hostPullPolicyTarget job.targetID = some rollback ∧ Restored b r before rollback

section Stage

variable {X : ProjectionContracts} {policy : HostAgentPolicy} {job : UpdateJob} {plan : SystemdPortReconfigurePlan}
variable {b t r : PortSnapshotRef} {state : PortAgentPolicyState}

theorem portPolicyCandidates_ok (hok : portPolicyCandidates X policy job plan b t r = .ok state) (hfb : HealthFollows b)
    (hfr : HealthFollows r) : CandidatesOf policy job b r state := by
  obtain ⟨before, hbefore, hrest⟩ := Checked.bind_ok.1 hok
  obtain ⟨target, htarget, hrest⟩ := Checked.bind_ok.1 hrest
  obtain ⟨rollback, hrollback, hret⟩ := Checked.bind_ok.1 hrest
  cases hret
  obtain ⟨hpb, t₀, tb, _, hfound, hmoved⟩ := portPolicyCandidate_ok hbefore
  obtain ⟨hbt, _⟩ := portPolicyCandidate_ok htarget
  obtain ⟨hbr, tb', tr, hfound', hselected, hmoved'⟩ := portPolicyCandidate_ok hrollback
  -- the rollback candidate starts at the target the before candidate ended with
  rw [hfound] at hfound'
  cases hfound'
  exact ⟨hpb, hpb.trans hbt, hpb.trans hbr, hbr, tb, tr, hfound, hselected, hmoved.restored hmoved' hfb hfr⟩

theorem candidateValid_matches {c : HostAgentPolicy}
    (h : PortAgentPolicyState.candidateValid X.toAgentContracts job c b = true) :
    portAgentPolicyMatchesSnapshot X.toAgentContracts c job.targetID b = true ∧ (c.targets.map (·.serviceID)).Nodup := by
  simp only [PortAgentPolicyState.candidateValid, HostAgentPolicy.validateForService, Bool.and_eq_true,
    decide_eq_true_eq] at h
  exact ⟨h.2, h.1.1.1.1.1.1.1.2⟩

/-- the shared contracts package accepted the plan of a version 2 job -/
theorem identityValid_plan {binding : SystemdPortMutationGrantBinding}
    (h : state.identityValid X.toAgentContracts job plan b t r binding = true) :
    X.validatePortPlan plan.sharedPortPlan = true := by
  simp only [PortAgentPolicyState.identityValid, Bool.and_eq_true, beq_iff_eq, and_assoc] at h
  obtain ⟨-, hversion, hvalid, -⟩ := h
  simp only [SystemdPortReconfigurePlan.validate, hversion] at hvalid
  simp only [bne_iff_ne, ne_eq, OfNat.ofNat_ne_zero, not_false_eq_true, if_true,
    SystemdPortReconfigurePlan.validatePortV2, Bool.and_eq_true] at hvalid
  exact hvalid.1.1.1.2

theorem state_validate_ok (hok : state.validate X.toAgentContracts (some job) (some plan) = .ok ()) :
    X.validatePortPlan plan.sharedPortPlan = true ∧ ∃ b t r, plan.before = some b ∧ plan.target = some t ∧
      plan.rollback = some r ∧ MatchesSnapshots X job b t r state := by
  unfold PortAgentPolicyState.validate at hok
  dsimp only at hok
  split at hok
  · rename_i b t r binding hb ht hr _
    split at hok
    · cases hok
    · rename_i hidentity
      simp only [Bool.not_eq_true, Bool.not_eq_false'] at hidentity
      split at hok
      · cases hok
      · rename_i hcandidates
        simp only [Bool.not_eq_true, Bool.not_eq_false', Bool.and_eq_true] at hcandidates
        obtain ⟨⟨hcb, hct⟩, hcr⟩ := hcandidates
        have hbefore := candidateValid_matches hcb
        exact ⟨identityValid_plan hidentity, b, t, r, hb, ht, hr, hbefore.1, (candidateValid_matches hct).1,
          (candidateValid_matches hcr).1, hbefore.2⟩
  · cases hok

theorem newPortPolicyState_ok (hchecks : ChecksHealthPort X.toContracts)
    (hok : newPortPolicyState X policy job plan = .ok state) :
    ∃ b t r, plan.before = some b ∧ plan.target = some t ∧ plan.rollback = some r ∧
      portAgentPolicyMatchesSnapshot X.toAgentContracts policy job.targetID b = true ∧
      CandidatesOf policy job b r state ∧ MatchesSnapshots X job b t r state := by
  unfold newPortPolicyState at hok
  split at hok
  · rename_i b t r hb ht hr
    split at hok
    · cases hok
    · rename_i hmatches
      obtain ⟨built, hbuilt, hrest⟩ := Checked.bind_ok.1 hok
      obtain ⟨_, hvalid, hret⟩ := Checked.bind_ok.1 hrest
      cases hret
      obtain ⟨haccepted, b', t', r', hb', ht', hr', hsnapshots⟩ := state_validate_ok hvalid
      cases hb.symm.trans hb'
      cases ht.symm.trans ht'
      cases hr.symm.trans hr'
      simp only [Bool.or_eq_true, Bool.not_eq_true', not_or, Bool.not_eq_false] at hmatches
      have hfollows := hchecks _ haccepted
      exact ⟨b, t, r, hb, ht, hr, hmatches.2,
        portPolicyCandidates_ok hbuilt (hfollows b (.inl hb)) (hfollows r (.inr (.inr hr))), hsnapshots⟩
  · cases hok

end Stage

/-- **The port projection of the agent.** After `StagePortPolicy`, whatever the save of the journal did: candidates it has
just stored were made from a policy that matches the before snapshot, differ from it only in the four revision and digest
fields and in the endpoint, config and listener fields of the selected target, and have each endpoint of the before candidate
again, with its URL, in the rollback candidate where the advertised or the listen port is the same; and candidates it has
stored or accepted each match their own snapshot. -/
theorem agent_port_projection (X : ProjectionContracts) (hchecks : ChecksHealthPort X.toContracts)
    (saved : Except String Unit) (j : Journal) (policy : HostAgentPolicy) (job : UpdateJob)
    (plan : SystemdPortReconfigurePlan) (state : PortAgentPolicyState)
    (hstored : (stagePortPolicy X saved j policy job plan).2.data.activePortPolicy = some state) :
    (j.data.activePortPolicy = none → ∃ b t r, plan.before = some b ∧ plan.target = some t ∧ plan.rollback = some r ∧
      portAgentPolicyMatchesSnapshot X.toAgentContracts policy job.targetID b = true ∧
      CandidatesOf policy job b r state ∧ MatchesSnapshots X job b t r state) ∧
    ((stagePortPolicy X saved j policy job plan).1 = .ok () → ∃ b t r, plan.before = some b ∧ plan.target = some t ∧
      plan.rollback = some r ∧ MatchesSnapshots X job b t r state) := by
  unfold stagePortPolicy at *
  cases hpoisoned : j.poisoned with
  | some reason =>
    simp only [hpoisoned] at hstored ⊢
    rw [hstored]
    exact ⟨nofun, nofun⟩
  | none =>
    cases hactive : j.data.activePortPolicy with
    | some kept =>
      simp only [hpoisoned, hactive] at hstored ⊢
      cases hstored
      exact ⟨nofun, fun hvalid => (state_validate_ok hvalid).2⟩
    | none =>
      simp only [hpoisoned, hactive] at hstored ⊢
      cases hnew : newPortPolicyState X policy job plan with
      | error reason =>
        simp only [hnew, hactive] at hstored
        cases hstored
      | ok built =>
        have hbuilt : built = state := by
          cases saved <;> simpa [hnew, Journal.poisonLocked] using hstored
        subst hbuilt
        obtain ⟨b, t, r, hb, ht, hr, hmatches, hcandidates, hsnapshots⟩ := newPortPolicyState_ok hchecks hnew
        exact ⟨fun _ => ⟨b, t, r, hb, ht, hr, hmatches, hcandidates, hsnapshots⟩,
          fun _ => ⟨b, t, r, hb, ht, hr, hsnapshots⟩⟩

namespace Staged

def digest : String := "sha256:" ++ String.ofList (List.replicate 64 'a')

/-- contracts that check only the health port of a plan; an endpoint's digest is its URL -/
def contracts : ProjectionContracts where
  toAgentContracts := { (default : AgentContracts) with
    validatePortPlan := fun p => [p.before, p.target, p.rollback].all fun ref => ref.all fun ref =>
      ref.docker.all fun d => d.healthPort == ref.localListenPort
    portRuntimePlanSHA256 := fun _ _ _ _ _ _ _ _ => some ""
    parseURL := fun _ => some ("https", "worker")
    endpointSHA256 := fun e => some e.publicURL
    policyJSONLength := fun _ => some 1 }
  readdressURL _ port := some ("https://worker:" ++ toString port)

theorem contracts_check : ChecksHealthPort contracts.toContracts := by
  intro p hp ref href d hd
  simp only [contracts, List.all_cons, List.all_nil, Bool.and_true, Bool.and_eq_true] at hp
  obtain ⟨hb, ht, hr⟩ := hp
  rcases href with h | h | h
  · simpa [h, hd] using hb
  · simpa [h, hd] using ht
  · simpa [h, hd] using hr

/-- a snapshot of a Docker target, by its revision, its port and its advertised URL -/
def snapshot (id : String) (revision port : ℤ) (url : String) : PortSnapshotRef where
  snapshotID := id
  snapshotSHA256 := digest
  sourcePolicyRevision := revision
  projectionRevision := revision
  executorPolicyRevision := revision
  executorPolicySHA256 := digest
  endpointRevision := revision
  appliedEndpointRevision := revision
  configRevision := revision
  configSHA256 := digest
  advertisedPort := port
  advertisedEndpointSHA256 := url
  localListenPort := port
  docker := some ⟨"127.0.0.1", port, 8080, port, digest⟩

/-- the port moves from 8443 to 9443 and back; the URL of the first names no port -/
def before : PortSnapshotRef := snapshot "before" 1 8443 "https://worker"
def target : PortSnapshotRef := snapshot "target" 2 9443 "https://worker:9443"
def rollback : PortSnapshotRef := snapshot "rollback" 3 8443 "https://worker"

def endpoint : HostAgentEndpoint := ⟨"127.0.0.1", 8443, true, "https://worker"⟩

def policy : HostAgentPolicy where
  serviceID := "updater-1"
  transportMode := "pull_v2"
  executionHostID := "host-1"
  ownershipEpoch := 1
  revision := 1
  sourcePolicyRevision := 1
  localExecutorPolicyRevision := 1
  localExecutorPolicySHA256 := digest
  targets :=
    [{ serviceID := "worker-1", serviceType := "worker", deploymentMode := "docker", endpointRevision := 1,
       appliedEndpointRevision := 1, appliedConfigRevision := 1, appliedConfigSHA256 := digest,
       desiredEndpoint := some endpoint, appliedEndpoint := some endpoint, localListenEndpoint := some endpoint,
       localHealthEndpoint := some endpoint }]

def job : UpdateJob where
  protocolVersion := 2
  id := "job-1"
  operation := "port_reconfigure"
  portReconfigure := some
    { portContractVersion := 2, mode := "", before := some before, target := some target, rollback := some rollback,
      dockerBaseline := none, networkNamespace := "host", protocol := "tcp", portPlanSHA256 := "intent" }
  agentServiceID := "updater-1"
  hostID := "host-1"
  ownershipEpoch := 1
  policyRevision := 1
  targetID := "worker-1"
  serviceType := "worker"
  deploymentMode := "docker"
  targetVersion := ""

def plan : SystemdPortReconfigurePlan where
  portContractVersion := 2
  before := some before
  target := some target
  rollback := some rollback
  portIntentSHA256 := "intent"
  deploymentMode := "docker"
  jobID := "job-1"
  hostID := "host-1"
  targetID := "worker-1"
  serviceType := "worker"
  networkNamespace := "host"
  protocol := "tcp"
  ownershipEpoch := 1
  leaseGeneration := 1
  sessionID := "session-000000001"
  portPlanSHA256 := ""

/-- the candidates staged from the sample policy -/
def state : PortAgentPolicyState :=
  match portPolicyCandidates contracts policy job plan before target rollback with
  | .ok state => state
  | .error _ => ⟨"", "", policy, policy, policy, ""⟩

theorem stages : (stagePortPolicy contracts (.ok ()) ⟨{}, none⟩ policy job plan).2.data.activePortPolicy = some state := by
  decide +kernel

end Staged

/-- The theorem applies: the sample Docker job is staged, and its rollback restores the URL that names no port. -/
theorem sample_port_projection :
    (stagePortPolicy Staged.contracts (.ok ()) ⟨{}, none⟩ Staged.policy Staged.job Staged.plan).2.data.activePortPolicy =
      some Staged.state ∧
    ∃ b t r, Staged.plan.before = some b ∧ Staged.plan.target = some t ∧ Staged.plan.rollback = some r ∧
      portAgentPolicyMatchesSnapshot Staged.contracts.toAgentContracts Staged.policy "worker-1" b = true ∧
      CandidatesOf Staged.policy Staged.job b r Staged.state ∧
      MatchesSnapshots Staged.contracts Staged.job b t r Staged.state :=
  ⟨Staged.stages, (agent_port_projection Staged.contracts Staged.contracts_check (.ok ()) ⟨{}, none⟩ Staged.policy
    Staged.job Staged.plan Staged.state Staged.stages).1 rfl⟩

end AutostreamUpdater.Agent
