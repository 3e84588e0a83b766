/-
An interrupted cutover of a systemd target, and the verdict of its reconcile.

A cutover writes its checkpoint before it touches the service and again after every step. Wherever it is cut, the link
points at one of the two releases that the checkpoint records, and both are what they were (`Between`). From there a
reconcile with every answer in order keeps the new release, keeps the old one, or goes back to it, as the checkpoint says,
with one exception: it compares versions before it compares releases, so an old release that is healthy and has the
version of the new one is taken for a failed new one (`reconcile_exact_iff`).
-/
import AutostreamUpdater.Software.Leftover

namespace AutostreamUpdater.Software

open Contract Base Fallible

variable {E : SoftwareEnv} {a : Answers} {s t : Host} {p : ApplyPlan} {plan : MutationPlan} {l : ExecutorMutationLedger}
  {stage : RemoteStage} {c : UpdateCheckpoint} {cs : List Choice} {old new : CurrentRelease}

/-! ## Between two releases -/

/-- the markers in the directory read as the release -/
def Host.marked (t : Host) (r : CurrentRelease) : Prop :=
  ∃ rel, t.releases r.dir = some rel ∧ r.digest = toLower (trimSpace rel.artifactSHA256) ∧ r.version = trimSpace rel.version

/-- a checkpoint of the cutover, in one of its phases -/
def IsCheckpoint (E : SoftwareEnv) (p : ApplyPlan) (stage : RemoteStage) (c : UpdateCheckpoint) : Prop :=
  ∃ phase, c = { systemdCheckpoint E p stage with phase := phase }

theorem isCheckpoint_prepared : IsCheckpoint E p stage (systemdCheckpoint E p stage) := by
  refine ⟨.prepared, ?_⟩
  simp only [systemdCheckpoint]

theorem isCheckpoint_phase {phase : CheckpointPhase} :
    IsCheckpoint E p stage { systemdCheckpoint E p stage with phase := phase } := ⟨phase, rfl⟩

/-- the two releases of a cutover are the ones its stage and its plan name -/
structure Replaces (E : SoftwareEnv) (p : ApplyPlan) (stage : RemoteStage) (old new : CurrentRelease) : Prop where
  expected : versionPattern stage.expectedVersion = true
  previous : isStagedPrevious stage old = true
  within : pathWithin E.target.releaseRoot old.dir = true
  newDir : stage.newRelease = some new.dir
  newDigest : normalizeDigest new.digest = normalizeDigest p.artifactDigest
  newVersion : versionsEqual new.version p.targetVersion = true

/-- a host between the two releases of a cutover -/
structure Between (E : SoftwareEnv) (p : ApplyPlan) (stage : RemoteStage) (old new : CurrentRelease) (t : Host) : Prop where
  link : t.link = some old.dir ∨ t.link = some new.dir
  oldMarked : t.marked old
  oldIntact : (t.releases old.dir).any Release.intact = true
  newMarked : t.marked new
  checkpoint : ∀ c, t.checkpoint = some c → IsCheckpoint E p stage c

/-- the operations of a cutover -/
def moves (E : SoftwareEnv) (p : ApplyPlan) (stage : RemoteStage) (old new : CurrentRelease) (o : HostOp) : Prop :=
  o.inspects ∨ (∃ c, o = .writeCheckpoint c ∧ IsCheckpoint E p stage c) ∨ (∃ verb, o = .systemctl verb) ∨
    o = .switchLink old.dir ∨ o = .switchLink new.dir

/-- the host with its service in another state -/
def Host.serving (t : Host) (running : Option Path) (answer : Option String) : Host :=
  { t with running := running, answer := answer }

theorem Between.serving (h : Between E p stage old new t) (running : Option Path) (answer : Option String) :
    Between E p stage old new (t.serving running answer) :=
  ⟨h.link, h.oldMarked, h.oldIntact, h.newMarked, h.checkpoint⟩

theorem between_step {o : HostOp} {k : Choice} (ho : moves E p stage old new o) (h : Between E p stage old new t) :
    Between E p stage old new (hostNext E t o k).2 := by
  rcases ho with ho | ⟨c, rfl, hc⟩ | ⟨verb, rfl⟩ | rfl | rfl
  · rw [hostNext_reads (inspects_reads ho)]
    exact h
  · have hwritten : Between E p stage old new { t with checkpoint := some c } :=
      ⟨h.link, h.oldMarked, h.oldIntact, h.newMarked, fun c' hc' => by cases hc'; exact hc⟩
    cases k <;> first | exact hwritten | exact h
  · cases verb with
    | stop => cases k <;> exact h.serving _ _
    | start =>
      cases k with
      | service ok up answer =>
        simp only [hostNext, startService]
        split
        · exact h
        · split
          · exact h.serving _ _
          · exact h
      | _ => exact h
  · have hswitched : Between E p stage old new { t with link := some old.dir } :=
      ⟨.inl rfl, h.oldMarked, h.oldIntact, h.newMarked, h.checkpoint⟩
    cases k <;> first | exact hswitched | exact h
  · have hswitched : Between E p stage old new { t with link := some new.dir } :=
      ⟨.inr rfl, h.oldMarked, h.oldIntact, h.newMarked, h.checkpoint⟩
    cases k <;> first | exact hswitched | exact h

theorem saveCheckpoint_moves {e : String} (hc : IsCheckpoint E p stage c) :
    issues (moves E p stage old new) (saveCheckpoint e c) :=
  issues_orFail (acts (.inr (.inl ⟨c, rfl, hc⟩)))

theorem systemctl_moves {e : String} {verb : Verb} :
    issues (moves E p stage old new) (orFail e (issue (.systemctl verb))) :=
  issues_orFail (acts (.inr (.inr (.inl ⟨verb, rfl⟩))))

theorem Inspects.moves {α : Type} {q : Soft α} (h : Inspects q) : issues (moves E p stage old new) q :=
  issues_mono h fun _ => .inl

theorem switchLink_moves {e : String} {dir : Path} (h : dir = old.dir ∨ dir = new.dir) :
    issues (moves E p stage old new) (orFail e (issue (.switchLink dir))) := by
  refine issues_orFail (acts (.inr (.inr (.inr ?_))))
  rcases h with rfl | rfl
  · exact .inl rfl
  · exact .inr rfl

theorem rollbackSystemd_moves {version : String} : issues (moves E p stage old new) (rollbackSystemd old.dir version) := by
  unfold rollbackSystemd
  refine issues_bind issues_require fun _ => issues_bind systemctl_moves fun _ => ?_
  refine issues_bind (switchLink_moves (.inl rfl)) fun _ => issues_bind systemctl_moves fun _ => ?_
  exact issues_checkAll verifySystemdProcess_inspects.moves verifyTarget_inspects.moves

theorem commit_moves : issues (moves E p stage old new) (commitRemoteSystemdMutation E p stage new.dir old.dir) := by
  unfold commitRemoteSystemdMutation
  extract_lets checkpoint
  refine issues_bind (saveCheckpoint_moves isCheckpoint_prepared) fun _ => issues_bind systemctl_moves fun _ => ?_
  refine issues_bind (issues_attempt (saveCheckpoint_moves isCheckpoint_phase)) fun stopped => ?_
  cases stopped with
  | error _ => exact issues_bind (issues_attempt systemctl_moves) fun _ => issues_throw
  | ok _ =>
    refine issues_bind (issues_attempt (switchLink_moves (.inr rfl))) fun switched => ?_
    cases switched with
    | error _ => exact issues_bind (issues_attempt systemctl_moves) fun _ => issues_throw
    | ok _ =>
      refine issues_bind (saveCheckpoint_moves isCheckpoint_phase) fun _ => ?_
      refine issues_bind (issues_attempt systemctl_moves) fun start => ?_
      refine issues_bind (issues_attempt (saveCheckpoint_moves isCheckpoint_phase)) fun saved => ?_
      refine issues_bind verifyStarted_inspects.moves fun verified => ?_
      cases verified with
      | ok _ => exact issues_bind (saveCheckpoint_moves isCheckpoint_phase) fun _ => issues_pure
      | error _ =>
        refine issues_bind (issues_attempt rollbackSystemd_moves) fun rolledBack => ?_
        cases rolledBack with
        | error _ => exact issues_throw
        | ok _ => exact issues_bind (saveCheckpoint_moves isCheckpoint_phase) fun _ => issues_pure

/-! ## Every cut of an apply -/

/-- the checkpoint is the one the apply found, or none, or the cutover has begun -/
def Interrupted (E : SoftwareEnv) (p : ApplyPlan) (stage : RemoteStage) (found : Option UpdateCheckpoint) (t : Host) : Prop :=
  t.checkpoint = found ∨ t.checkpoint = none ∨ ∃ old new, Replaces E p stage old new ∧ Between E p stage old new t

/-- an installed release is the planned one -/
theorem install_marked {source dest : Path} {k : Choice}
    (h : (hostNext E t (.installRelease source dest p.artifactDigest p.targetVersion) k).1 = true) :
    ∃ new : CurrentRelease, new.dir = dest ∧
      (hostNext E t (.installRelease source dest p.artifactDigest p.targetVersion) k).2.marked new ∧
      normalizeDigest new.digest = normalizeDigest p.artifactDigest ∧ versionsEqual new.version p.targetVersion = true := by
  cases hrel : t.releases dest with
  | some rel =>
    simp only [hostNext, install, hrel, Bool.and_eq_true, beq_iff_eq] at h ⊢
    refine ⟨⟨dest, toLower (trimSpace rel.artifactSHA256), trimSpace rel.version⟩, rfl, ⟨rel, hrel, rfl, rfl⟩, ?_, ?_⟩
    · simp only [h.1.2, toLower_toLower, normalizeDigest_eq]
    · simp [versionsEqual, h.2]
  | none =>
    simp only [hostNext, install, hrel] at h ⊢
    cases k with
    | ok =>
      refine ⟨⟨dest, toLower (trimSpace (toLower p.artifactDigest)), trimSpace p.targetVersion⟩, rfl,
        ⟨⟨toLower p.artifactDigest, p.targetVersion, true, true⟩, if_pos rfl, rfl, rfl⟩, ?_, ?_⟩
      · simp only [normalizeDigest_eq, trimSpace_toLower_lower, trimSpace_trimSpace]
      · simp [versionsEqual, bareVersion]
    | _ => cases h

theorem install_checkpoint {source dest : Path} {digest version : String} {k : Choice} :
    (hostNext E t (.installRelease source dest digest version) k).2.checkpoint = t.checkpoint := by
  simp only [hostNext, install]
  split
  · rfl
  · cases k <;> rfl

/-- The cutover begins between its two releases and stays there. -/
theorem commit_interrupted {found : Option UpdateCheckpoint} (hreplaces : Replaces E p stage old new)
    (h : Between E p stage old new t) :
    under (hostNext E) (fun _ _ _ => True) (Interrupted E p stage found) (fun _ => True)
      (commitRemoteSystemdMutation E p stage new.dir old.dir) (fun _ => Interrupted E p stage found)
      (fun _ => Interrupted E p stage found) t := by
  have hto : ∀ u, Between E p stage old new u → Interrupted E p stage found u := fun u hu => .inr (.inr ⟨old, new, hreplaces, hu⟩)
  have hkeep : under (hostNext E) (fun _ _ _ => True) (Between E p stage old new) (fun _ => True)
      (commitRemoteSystemdMutation E p stage new.dir old.dir) (fun _ => Between E p stage old new)
      (fun _ => Between E p stage old new) t :=
    issues_under commit_moves (fun u o k ho hu _ => ⟨trivial, between_step ho hu⟩) h
  exact under_weaken (under_mono hkeep (fun _ => hto) fun _ => hto) hto fun _ h => h

theorem systemdMutation_interrupted {found k : Option UpdateCheckpoint} (ht : t.checkpoint = found) :
    under (hostNext E) (fun _ _ _ => True) (Interrupted E p stage found) (fun _ => True) (systemdMutation E p stage k)
      (fun _ => Interrupted E p stage found) (fun _ => Interrupted E p stage found) t := by
  have hI : Interrupted E p stage found t := .inl ht
  unfold systemdMutation
  refine under_seq (finds_keeps finds_requireCheckpoint hI) ?_
  rintro _ _ ⟨rfl, -⟩
  refine under_seq (finds_keeps finds_requireBaseline hI) ?_
  rintro _ _ ⟨rfl, -⟩
  refine under_seq (finds_keeps finds_requireCheckpoint hI) ?_
  rintro _ u ⟨rfl, -⟩
  have hclear : under (hostNext E) (fun _ _ _ => True) (Interrupted E p stage found) (fun _ => True)
      (onlyIf k.isSome clearCheckpoint) (fun _ => Interrupted E p stage found)
      (fun _ v => v.checkpoint = found ∨ v.checkpoint = none) u := by
    refine under_onlyIf (fun _ => under_orFail.2 (Prog.under_op.2 ⟨hI, fun k _ => ⟨trivial, ?_⟩⟩)) fun _ => .inl ht
    have hpost : (hostNext E u .removeCheckpoint k).2.checkpoint = found ∨
        (hostNext E u .removeCheckpoint k).2.checkpoint = none := by
      cases k <;> first | exact .inr rfl | exact .inl ht
    exact ⟨fun _ => hpost, fun _ => hpost.elim .inl fun h => .inr (.inl h)⟩
  refine under_seq hclear ?_
  intro _ v hv
  have hIv : Interrupted E p stage found v := hv.elim .inl fun h => .inr (.inl h)
  split
  · rename_i newDir oldDir hnew hold
    refine under_bind.2 (under_orFail.2 (Prog.under_op.2 ⟨hIv, fun k _ => ⟨trivial, fun hok => ?_, fun _ => ?_⟩⟩))
    · have hIw : Interrupted E p stage found
          (hostNext E v (.installRelease p.stageDir newDir p.artifactDigest p.targetVersion) k).2 := by
        rcases hv with h | h
        · exact .inl (install_checkpoint.trans h)
        · exact .inr (.inl (install_checkpoint.trans h))
      obtain ⟨new, rfl, hmarked, hdigest, hversion⟩ := install_marked hok
      generalize (hostNext E v (.installRelease p.stageDir new.dir p.artifactDigest p.targetVersion) k).2 = w at hIw hmarked
      refine under_seq (finds_keeps finds_checksums hIw) ?_
      rintro _ _ ⟨rfl, -⟩
      refine under_seq (finds_keeps verifyRequiredPaths_inspects.finds hIw) ?_
      rintro _ _ ⟨rfl, -⟩
      refine under_seq (finds_keeps finds_requireCheckpoint hIw) ?_
      rintro _ _ ⟨rfl, -⟩
      refine under_seq (finds_keeps finds_requireBaseline hIw) ?_
      rintro _ _ ⟨rfl, old, hseen⟩
      refine under_seq (finds_keeps finds_requireCheckpoint hIw) ?_
      rintro _ x ⟨rfl, hnone⟩
      obtain ⟨hlink, hwithin, -, -, rel, hrel, hreldigest, hrelversion⟩ := current_some hseen.current
      have hprevious := hseen.previous
      simp only [isStagedPrevious, Bool.and_eq_true, beq_iff_eq] at hprevious
      obtain rfl : oldDir = old.dir := Option.some.inj (hold.symm.trans hprevious.1.1)
      refine commit_interrupted ⟨hseen.expected, hseen.previous, hwithin, hnew, hdigest, hversion⟩
        ⟨.inl hlink, ⟨rel, hrel, hreldigest, hrelversion⟩, hseen.intact, hmarked, fun c hc => ?_⟩
      rw [hnone] at hc
      cases hc
    · rcases hv with h | h
      · exact .inl (install_checkpoint.trans h)
      · exact .inr (.inl (install_checkpoint.trans h))
  · exact under_throw.2 hIv

theorem spares_checkpoint {o : HostOp} {k : Choice} (ho : o.changesTarget = false) :
    (hostNext E t o k).2.checkpoint = t.checkpoint := by
  have hsame : (hostNext E t o k).2.Same t := hostNext_spares ho
  rw [hsame]

/-- Operations away from the target keep it. -/
theorem interrupted_spares {found : Option UpdateCheckpoint} {o : HostOp} {k : Choice} (ho : o.changesTarget = false)
    (h : Interrupted E p stage found t) : Interrupted E p stage found (hostNext E t o k).2 := by
  have hsame : (hostNext E t o k).2.Same t := hostNext_spares ho
  generalize (hostNext E t o k).2 = u at hsame
  rw [hsame]
  exact h.imp_right (Or.imp_right fun ⟨old, new, hreplaces, hb⟩ =>
    ⟨old, new, hreplaces, ⟨hb.link, hb.oldMarked, hb.oldIntact, hb.newMarked, hb.checkpoint⟩⟩)

/-- **Every cut of an apply.** Wherever an apply on a systemd target stops, its checkpoint is the one it found, or there is
none, or the host is between the two releases of its cutover. -/
theorem applied_interrupted (hmode : E.target.deploymentMode = modeSystemd) (hl : s.ledger = some l)
    (hstage : l.stage = some stage) (cs : List Choice) :
    Interrupted E (applyPlan plan stage) stage s.checkpoint (applied E plan s cs).st := by
  have hspare : ∀ (t : Host) (o : HostOp) (k : Choice), o.changesTarget = false →
      Interrupted E (applyPlan plan stage) stage s.checkpoint t →
        True ∧ Interrupted E (applyPlan plan stage) stage s.checkpoint (hostNext E t o k).2 :=
    fun t o k ho h => ⟨trivial, interrupted_spares ho h⟩
  have hunder : (handle E ⟨.apply, plan⟩).under (hostNext E) (fun _ _ _ => True)
      (Interrupted E (applyPlan plan stage) stage s.checkpoint) (fun _ => True)
      (fun _ => Interrupted E (applyPlan plan stage) stage s.checkpoint) s := ?_
  · obtain ⟨-, hcut, hend⟩ := Prog.under_exec hunder cs
    cases hout : (applied E plan s cs).out with
    | none => exact hcut hout
    | some out => exact hend out hout
  · refine mutation_under hspare (by simp) (.inl rfl) fun l' stage' hl' hadmitted => ?_
    obtain rfl : l = l' := Option.some.inj (hl.symm.trans hl')
    obtain rfl : stage = stage' := Option.some.inj (hstage.symm.trans hadmitted.hasStage)
    have hI : Interrupted E (applyPlan plan stage) stage s.checkpoint s := .inl rfl
    unfold mutation applyStaged
    dsimp only
    rw [if_pos rfl, if_pos (by simp [hmode])]
    refine under_seq (under_atGate (finds_keeps systemdPreflight_inspects.finds hI)) ?_
    rintro k u ⟨hu, -⟩
    rw [hu]
    -- the gate leaves the checkpoint alone
    have hgate : under (hostNext E) (fun _ _ _ => True) (fun t => t.checkpoint = s.checkpoint) (fun _ => True)
        (gate plan .apply l) (fun _ t => t.checkpoint = s.checkpoint) (fun _ t => t.checkpoint = s.checkpoint) s := by
      refine issues_under gate_spares (fun t o k ho ht _ => ⟨trivial, ?_⟩) rfl
      exact (spares_checkpoint (by simpa using ho)).trans ht
    refine under_seq (under_weaken (under_mono hgate (fun _ _ h => .inl h) fun _ _ h => h) (fun _ h => .inl h)
      fun _ h => h) ?_
    intro _ t ht
    exact under_atGate (systemdMutation_interrupted ht)

/-- An apply that changes the checkpoint was admitted. -/
theorem applied_admitted (hl : s.ledger = some l) (hstage : l.stage = some stage)
    (h : (applied E plan s cs).st.checkpoint ≠ s.checkpoint) : Admitted E plan .apply l stage := by
  by_contra hrefused
  have hunder : (handle E ⟨.apply, plan⟩).under (hostNext E) (fun _ _ _ => True) (fun t => t.checkpoint = s.checkpoint)
      (fun _ => True) (fun _ t => t.checkpoint = s.checkpoint) s := by
    refine mutation_under (fun t o k ho ht => ⟨trivial, (spares_checkpoint ho).trans ht⟩) (by simp) rfl ?_
    intro l' stage' hl' hadmitted
    obtain rfl : l = l' := Option.some.inj (hl.symm.trans hl')
    obtain rfl : stage = stage' := Option.some.inj (hstage.symm.trans hadmitted.hasStage)
    exact absurd hadmitted hrefused
  obtain ⟨-, hcut, hend⟩ := Prog.under_exec hunder cs
  cases hout : (applied E plan s cs).out with
  | none => exact h (hcut hout)
  | some out => exact h (hend out hout)

/-! ## The verdict -/

/-- the operation touches the service -/
def HostOp.touchesService : HostOp → Bool
  | .systemctl _ | .switchLink _ => true
  | _ => false

/-- which of its two releases a checkpoint finds running -/
inductive Runs where
  | new | previous | neither
  deriving DecidableEq, Repr

/-- the healthy release, by the checkpoint's record -/
def UpdateCheckpoint.runs (c : UpdateCheckpoint) : Option CurrentRelease → Runs
  | some r => if c.isNew r then .new else if c.isPrevious r then .previous else .neither
  | none => .neither

/-- a reconcile behind its gate, with every answer in order -/
abbrev reconcileRun (E : SoftwareEnv) (a : Answers) (p : ApplyPlan) (t : Host) : Exec Host HostRes (Except String ApplyResult) :=
  (reconcileSystemd E p).run.exec (hostNext E) t ((reconcileSystemd E p).run.script (hostNext E) (fun _ => a.to) [] t)

/-- the reconcile keeps a new release that is healthy, keeps a previous one without touching the service, and goes back to
the previous release otherwise -/
def Exact (E : SoftwareEnv) (a : Answers) (p : ApplyPlan) (c : UpdateCheckpoint) (t : Host) : Prop :=
  ∃ x, (reconcileRun E a p t).out = some (.ok x) ∧ match c.runs (t.healthy E) with
    | .new => x.status = .succeeded
    | .previous => x.status = .rolledBack ∧ ∀ y ∈ (reconcileRun E a p t).steps, y.op.touchesService = false
    | .neither => x.status = .rolledBack ∧ (reconcileRun E a p t).st.link = c.previousRelease ∧
        (reconcileRun E a p t).st.running = c.previousRelease

theorem marked_eq {r r' : CurrentRelease} (h : t.marked r) (h' : t.marked r') (hdir : r.dir = r'.dir) : r = r' := by
  obtain ⟨rel, hrel, hdigest, hversion⟩ := h
  obtain ⟨rel', hrel', hdigest', hversion'⟩ := h'
  obtain rfl : rel = rel' := Option.some.inj (hrel.symm.trans ((congrArg t.releases hdir).trans hrel'))
  obtain ⟨dir, digest, version⟩ := r
  obtain ⟨dir', digest', version'⟩ := r'
  simp only at hdir hdigest hdigest' hversion hversion'
  rw [hdir, hdigest, hdigest', hversion, hversion']

section Verdict

variable (hb : Between E p stage old new t) (hr : Replaces E p stage old new)

include hb in
/-- What is healthy is one of the two releases. -/
theorem between_healthy {r : CurrentRelease} (h : t.healthy E = some r) : r = old ∨ r = new := by
  obtain ⟨hlink, -, -, -, rel, hrel, hdigest, hversion⟩ := current_some (Option.filter_eq_some_iff.1 h).1
  have hmarked : t.marked r := ⟨rel, hrel, hdigest, hversion⟩
  rcases hb.link with hold | hnew
  · exact .inl (marked_eq hmarked hb.oldMarked (Option.some.inj (hlink.symm.trans hold)))
  · exact .inr (marked_eq hmarked hb.newMarked (Option.some.inj (hlink.symm.trans hnew)))

/-- what every checkpoint of the cutover records -/
theorem isCheckpoint_records (h : IsCheckpoint E p stage c) :
    c.jobID = p.jobID ∧ c.targetID = E.target.targetID ∧ c.deploymentMode = modeSystemd ∧ c.targetVersion = p.targetVersion ∧
      c.targetDigest = normalizeDigest p.artifactDigest ∧ c.newRelease = stage.newRelease ∧
      c.previousRelease = stage.previousRelease ∧ c.previousDigest = normalizeDigest stage.previousDigest ∧
      c.previousVersion = stage.previousVersion := by
  obtain ⟨phase, rfl⟩ := h
  simp only [systemdCheckpoint, and_self]

include hb hr in
theorem isNew_iff (hc : IsCheckpoint E p stage c) {r : CurrentRelease} (hmarked : t.marked r) : c.isNew r = true ↔ r = new := by
  obtain ⟨-, -, -, -, hdigest, hnew, -, -, -⟩ := isCheckpoint_records hc
  constructor
  · intro h
    simp only [UpdateCheckpoint.isNew, hnew, hr.newDir, Bool.and_eq_true, beq_iff_eq, Option.some.injEq] at h
    exact marked_eq hmarked hb.newMarked h.1.symm
  · rintro rfl
    simp [UpdateCheckpoint.isNew, hnew, hr.newDir, hdigest, hr.newDigest]

include hr in
theorem isPrevious_old (hc : IsCheckpoint E p stage c) : c.isPrevious old = true := by
  obtain ⟨-, -, -, -, -, -, hprevious, hdigest, hversion⟩ := isCheckpoint_records hc
  have hold := hr.previous
  simp only [isStagedPrevious, Bool.and_eq_true, beq_iff_eq] at hold
  simp [UpdateCheckpoint.isPrevious, hprevious, hdigest, hversion, hold, versionsEqual]

/-- The reconcile of the job accepts its checkpoint. -/
theorem own_recovers (hadmitted : Admitted E plan .apply l stage) (hmode : E.target.deploymentMode = modeSystemd)
    (hexpected : versionPattern stage.expectedVersion = true) (hc : IsCheckpoint E (applyPlan plan stage) stage c)
    (hnew : stage.newRelease.isSome = true) (hold : stage.previousRelease.isSome = true) :
    (c.loadable E.target && c.recoversSystemd (applyPlan plan stage)) = true := by
  have hfits := hadmitted.fits
  have hbound := hadmitted.bound
  simp only [SoftwareRequest.fits, Bool.and_eq_true, beq_iff_eq] at hfits
  simp only [RemoteStage.bound, hmode, Bool.and_eq_true] at hbound
  have hsystemd : stage.fitsSystemd plan = true := by simpa using hbound.2.2
  simp only [RemoteStage.fitsSystemd, Bool.and_eq_true, beq_iff_eq] at hsystemd
  have htexts := planTexts hfits.1.1.1
  have hversion : versionPattern plan.targetVersion = true := by
    rw [← htexts.systemd (hfits.2.trans hmode), ← hsystemd.1.1.1.1.1]
    exact hexpected
  obtain ⟨hjob, htarget, hdeploy, htv, -, hn, hp, -, hpv⟩ := isCheckpoint_records hc
  simp only [UpdateCheckpoint.loadable, UpdateCheckpoint.recoversSystemd, hjob, htarget, hdeploy, htv, hn, hp, hpv, hmode,
    applyPlan, htexts.jobID, hversion, hnew, hold, hsystemd.2, beq_self_eq_true, Bool.and_self]

include hb hr in
/-- The rollback, with every answer in order, ends on the previous release. -/
theorem passes_rollback {F : String → Host → Prop} {Q : ApplyResult → Host → Prop} (hc : IsCheckpoint E p stage c)
    (hdigest : normalizeDigest stage.previousDigest ≠ "") (hversion : versionPattern stage.previousVersion = true)
    (h : ∀ x u, x.status = .rolledBack → u.link = c.previousRelease → u.running = c.previousRelease → Q x u) :
    passes E a (fun _ => True) (rollbackFromCheckpoint E (some c)) F Q t := by
  have hG : Quiet E fun _ => True := fun _ _ _ _ => trivial
  obtain ⟨-, -, -, -, -, -, hprevious, hpd, hpv⟩ := isCheckpoint_records hc
  have hold := hr.previous
  simp only [isStagedPrevious, Bool.and_eq_true, beq_iff_eq] at hold
  have hdir : c.previousRelease = some old.dir := hprevious.trans hold.1.1
  obtain ⟨rel, hrel, -, hrelv⟩ := hb.oldMarked
  have hanswer : trimSpace rel.version = stage.previousVersion := hrelv.symm.trans hold.2
  unfold rollbackFromCheckpoint
  rw [show ((some c).bind fun c => c.previousRelease.map fun p => (c, p)) = some (c, old.dir) by simp [hdir]]
  dsimp only
  refine under_bind.2 (passes_required (by simp [hr.within, hpd, hdigest, hpv, hversion]) ?_)
  refine (decides_checksums hG).bind (fun _ => ?_) fun hf => by rw [hb.oldIntact] at hf; cases hf
  unfold rollbackSystemd
  refine under_bind.2 (under_bind.2 (passes_required (by rw [hpv]; exact hversion) ?_))
  refine under_bind.2 (under_orFail.2 (goes_issue trivial ⟨fun _ => ?_, fun hf => by cases hf⟩))
  refine under_bind.2 (under_orFail.2 (goes_issue trivial ⟨fun _ => ?_, fun hf => by cases hf⟩))
  refine under_bind.2 (under_orFail.2 (goes_issue trivial ⟨fun _ => ?_, fun hf => by cases hf⟩))
  -- the started service runs the previous release and reports its version
  simp only [hostNext, Answers.to, writeOutcome, startService, Option.isSome_none, Bool.false_eq_true, if_false, if_true,
    Option.bind_some, hrel, Option.map_some, hanswer]
  refine (decides_process hG).tried fun q hq => (decides_answer hG).tried fun v hv => ?_
  refine (decides_firstError (b := true) (by simp [hq, hv, hpv, versionsEqual])).last (fun _ => ?_) fun hf => by cases hf
  refine under_bind.2 (under_orFail.2 (goes_issue trivial ⟨fun _ => ?_, fun hf => by cases hf⟩))
  exact under_pure.2 (h _ _ rfl hdir.symm hdir.symm)

/-- what the program returns under favourable answers -/
theorem reconcileRun_goes {G : Step Host HostRes → Prop} {Q : Except String ApplyResult → Host → Prop}
    (h : passes E a G (reconcileSystemd E p) (fun e => Q (.error e)) (fun x => Q (.ok x)) t) :
    (∀ y ∈ (reconcileRun E a p t).steps, G y) ∧ ∃ r, (reconcileRun E a p t).out = some r ∧ Q r (reconcileRun E a p t).st :=
  Prog.under_script (under_run.2 h) (fun _ _ _ => rfl) []

variable (hc : IsCheckpoint E p stage c) (hcheckpoint : t.checkpoint = some c)
  (hrecovers : (c.loadable E.target && c.recoversSystemd p) = true)

include hcheckpoint hrecovers in
theorem passes_verdict {G : Step Host HostRes → Prop} {F : String → Host → Prop} {Q : ApplyResult → Host → Prop}
    (hG : Lenient E G) (h : passes E a G (match t.healthy E with
      | some r => classifyRelease E p (some c) r
      | none => rollbackFromCheckpoint E (some c)) F Q t) : passes E a G (reconcileSystemd E p) F Q t := by
  refine passes_reconcileSystemd hG (by rw [hcheckpoint, Option.all_some]; exact hrecovers) ?_
  rw [hcheckpoint]
  exact h

include hb hr hc hcheckpoint hrecovers in
theorem verdict_new (h : t.healthy E = some new) : Exact E a p c t := by
  have hnew : c.isNew new = true := (isNew_iff hb hr hc hb.newMarked).2 rfl
  have hrequested : runsRequested p (some c) new = true := by
    simp [runsRequested, systemdRequestedReleaseDigestMatches, hr.newVersion]
  have hpass := reconcileRun_goes (E := E) (a := a) (p := p) (t := t) (G := fun _ => True)
    (Q := fun r _ => ∃ x, r = .ok x ∧ x.status = .succeeded) ?_
  · obtain ⟨-, r, hout, x, rfl, hx⟩ := hpass
    refine ⟨x, hout, ?_⟩
    rw [h]
    simp only [UpdateCheckpoint.runs, hnew, if_true]
    exact hx
  · refine passes_verdict hcheckpoint hrecovers (fun _ _ _ _ => trivial) ?_
    rw [h]
    dsimp only
    unfold classifyRelease
    rw [if_pos hrequested]
    refine under_bind.2 (passes_required (by rw [Option.all_some]; exact hnew) (under_bind.2 (under_onlyIf (fun _ => ?_) ?_)))
    · exact under_orFail.2 (goes_issue trivial ⟨fun _ => under_pure.2 ⟨_, rfl, rfl⟩, fun hf => by cases hf⟩)
    · intro hf
      cases hf

include hb hr hc hcheckpoint hrecovers in
theorem verdict_previous (h : t.healthy E = some old) (hne : old ≠ new)
    (hversion : versionsEqual old.version p.targetVersion = false) : Exact E a p c t := by
  have hnew : c.isNew old = false := Bool.eq_false_iff.2 fun hf => hne ((isNew_iff hb hr hc hb.oldMarked).1 hf)
  have hprevious : c.isPrevious old = true := isPrevious_old hr hc
  have hrequested : runsRequested p (some c) old = false := by simp [runsRequested, hversion]
  have hlenient : Lenient E fun y => y.op.touchesService = false := by
    intro s o k ho
    cases o <;> first | rfl | cases ho
  have hpass := reconcileRun_goes (E := E) (a := a) (p := p) (t := t) (G := fun y => y.op.touchesService = false)
    (Q := fun r _ => ∃ x, r = .ok x ∧ x.status = .rolledBack) ?_
  · obtain ⟨hsteps, r, hout, x, rfl, hx⟩ := hpass
    refine ⟨x, hout, ?_⟩
    rw [h]
    simp only [UpdateCheckpoint.runs, hnew, hprevious, Bool.false_eq_true, if_false, if_true]
    exact ⟨hx, hsteps⟩
  · refine passes_verdict hcheckpoint hrecovers hlenient ?_
    rw [h]
    dsimp only
    unfold classifyRelease
    simp only [hrequested, hprevious, Option.isNone_some, Option.any_some, Bool.false_and, Bool.false_eq_true, if_false, if_true]
    refine under_bind.2 (under_orFail.2 (goes_issue rfl ⟨fun _ => under_pure.2 ⟨_, rfl, rfl⟩, fun hf => by cases hf⟩))

include hb hr hc hcheckpoint hrecovers in
/-- The exception: the previous release has the requested version. -/
theorem verdict_mistaken (h : t.healthy E = some old) (hne : old ≠ new)
    (hversion : versionsEqual old.version p.targetVersion = true) : ¬ Exact E a p c t := by
  have hnew : c.isNew old = false := Bool.eq_false_iff.2 fun hf => hne ((isNew_iff hb hr hc hb.oldMarked).1 hf)
  have hrequested : runsRequested p (some c) old = true := by
    simp [runsRequested, systemdRequestedReleaseDigestMatches, hversion]
  have hpass := reconcileRun_goes (E := E) (a := a) (p := p) (t := t) (G := fun _ => True)
    (Q := fun r _ => ∃ e, r = .error e) ?_
  · obtain ⟨-, r, hout, e, rfl⟩ := hpass
    rintro ⟨x, hx, -⟩
    rw [hout] at hx
    cases hx
  · refine passes_verdict hcheckpoint hrecovers (fun _ _ _ _ => trivial) ?_
    rw [h]
    dsimp only
    unfold classifyRelease
    rw [if_pos hrequested]
    refine under_bind.2 (passes_require (fun hf => ?_) fun _ => ⟨_, rfl⟩)
    rw [Option.all_some, hnew] at hf
    cases hf

include hb hr hc hcheckpoint hrecovers in
theorem verdict_neither (h : t.healthy E = none) (hdigest : normalizeDigest stage.previousDigest ≠ "")
    (hversion : versionPattern stage.previousVersion = true) : Exact E a p c t := by
  have hpass := reconcileRun_goes (E := E) (a := a) (p := p) (t := t) (G := fun _ => True)
    (Q := fun r u => ∃ x, r = .ok x ∧ x.status = .rolledBack ∧ u.link = c.previousRelease ∧ u.running = c.previousRelease) ?_
  · obtain ⟨-, r, hout, x, rfl, hx⟩ := hpass
    refine ⟨x, hout, ?_⟩
    rw [h]
    exact hx
  · refine passes_verdict hcheckpoint hrecovers (fun _ _ _ _ => trivial) ?_
    rw [h]
    exact passes_rollback hb hr hc hdigest hversion fun x u hx hlink hrunning => ⟨x, rfl, hx, hlink, hrunning⟩

end Verdict

/-- a host on which an apply has stopped with a checkpoint of its own is between two releases, and the checkpoint recovers
the plan -/
theorem stopped_between (hmode : E.target.deploymentMode = modeSystemd) (hl : s.ledger = some l)
    (hstage : l.stage = some stage) (hcheckpoint : (applied E plan s cs).st.checkpoint = some c)
    (hwritten : s.checkpoint ≠ some c) :
    Admitted E plan .apply l stage ∧ ∃ old new, Replaces E (applyPlan plan stage) stage old new ∧
      Between E (applyPlan plan stage) stage old new (applied E plan s cs).st ∧ IsCheckpoint E (applyPlan plan stage) stage c ∧
      (c.loadable E.target && c.recoversSystemd (applyPlan plan stage)) = true := by
  have hadmitted : Admitted E plan .apply l stage :=
    applied_admitted hl hstage (by rw [hcheckpoint]; exact Ne.symm hwritten)
  have hinterrupted : Interrupted E (applyPlan plan stage) stage s.checkpoint (applied E plan s cs).st :=
    applied_interrupted hmode hl hstage cs
  rcases hinterrupted with h | h | ⟨old, new, hr, hb⟩
  · exact absurd (h.symm.trans hcheckpoint) hwritten
  · rw [hcheckpoint] at h
    cases h
  · have hold := hr.previous
    have hc := hb.checkpoint c hcheckpoint
    simp only [isStagedPrevious, Bool.and_eq_true, beq_iff_eq] at hold
    exact ⟨hadmitted, old, new, hr, hb, hc,
      own_recovers hadmitted hmode hr.expected hc (by rw [hr.newDir]; rfl) (by rw [hold.1.1]; rfl)⟩

/-- **The verdict of a reconcile.** An apply on a systemd target stops anywhere, with a checkpoint `c` that it has written,
and the service may stop, start and answer as it likes after that. Then its reconcile, with every answer in order, decides
as the checkpoint says if and only if the version of the previous release is not the requested one, or else no other
release than the new one is healthy. -/
theorem reconcile_exact_iff (hmode : E.target.deploymentMode = modeSystemd) (hl : s.ledger = some l)
    (hstage : l.stage = some stage) (hcheckpoint : (applied E plan s cs).st.checkpoint = some c)
    (hwritten : s.checkpoint ≠ some c) (a : Answers) (running : Option Path) (answer : Option String) :
    Exact E a (applyPlan plan stage) c ((applied E plan s cs).st.serving running answer) ↔
      (versionsEqual stage.previousVersion plan.targetVersion = true →
        ∀ r, ((applied E plan s cs).st.serving running answer).healthy E = some r → c.isNew r = true) := by
  obtain ⟨hadmitted, old, new, hr, hb, hc, hrecovers⟩ := stopped_between hmode hl hstage hcheckpoint hwritten
  have hold := hr.previous
  simp only [isStagedPrevious, Bool.and_eq_true, beq_iff_eq] at hold
  replace hb := hb.serving running answer
  replace hcheckpoint : ((applied E plan s cs).st.serving running answer).checkpoint = some c := hcheckpoint
  generalize (applied E plan s cs).st.serving running answer = t at hcheckpoint hb ⊢
  cases hhealthy : t.healthy E with
  | none =>
    have hfits : stage.fitsSystemd plan = true := by
      have hbound := hadmitted.bound
      simp only [RemoteStage.bound, hmode, Bool.and_eq_true] at hbound
      simpa using hbound.2.2
    simp only [RemoteStage.fitsSystemd, Bool.and_eq_true] at hfits
    have hdigest : normalizeDigest stage.previousDigest ≠ "" := by
      intro hempty
      have hpattern := hfits.1.1.2
      rw [hempty] at hpattern
      exact absurd hpattern (by decide)
    refine ⟨fun _ _ r hf => (by cases hf), fun _ => ?_⟩
    exact verdict_neither hb hr hc hcheckpoint hrecovers hhealthy hdigest hfits.1.2
  | some r =>
    by_cases hnew : r = new
    · subst hnew
      refine ⟨fun _ _ r' hr' => ?_, fun _ => verdict_new hb hr hc hcheckpoint hrecovers hhealthy⟩
      cases hr'
      exact (isNew_iff hb hr hc hb.newMarked).2 rfl
    · obtain rfl : r = old := (between_healthy hb hhealthy).resolve_right hnew
      have hnotNew : ¬ c.isNew r = true := fun hf => hnew ((isNew_iff hb hr hc hb.oldMarked).1 hf)
      rw [← hold.2]
      cases hversion : versionsEqual r.version plan.targetVersion with
      | true =>
        refine ⟨fun hexact => absurd hexact (verdict_mistaken hb hr hc hcheckpoint hrecovers hhealthy hnew hversion), ?_⟩
        intro hcondition
        exact absurd (hcondition rfl r rfl) hnotNew
      | false =>
        refine ⟨fun _ hf => (by cases hf), fun _ => ?_⟩
        exact verdict_previous hb hr hc hcheckpoint hrecovers hhealthy hnew hversion

/-! ## A cutover that is cut at its first checkpoint -/

section FirstCheckpoint

variable {X : Step Host HostRes → Prop} {dir : Path} {rel : Release}

theorem setRelease_current (h : t.link ≠ some dir) : (t.setRelease dir rel).current E = t.current E := by
  unfold Host.current Host.setRelease
  cases hlink : t.link with
  | none => rfl
  | some d =>
    have hne : d ≠ dir := fun hd => h (hlink.trans (congrArg some hd))
    simp [hne]

theorem setRelease_releases (h : t.current E = some old) (hne : t.link ≠ some dir) :
    (t.setRelease dir rel).releases old.dir = t.releases old.dir := by
  have hdir : old.dir ≠ dir := fun hd => hne ((current_some h).1.trans (congrArg some hd))
  simp [Host.setRelease, hdir]

theorem setRelease_healthy (hne : t.link ≠ some dir) : (t.setRelease dir rel).healthy E = t.healthy E := by
  unfold Host.healthy
  rw [setRelease_current hne]
  cases hc : t.current E with
  | none => rfl
  | some r =>
    have hserves : (t.setRelease dir rel).serves r.dir r.version = t.serves r.dir r.version := by
      rw [Host.serves, setRelease_releases hc hne]
      rfl
    rw [Option.filter_some, Option.filter_some, hserves]

theorem setRelease_baseline (hne : t.link ≠ some dir) :
    (t.setRelease dir rel).keepsBaseline E a stage = t.keepsBaseline E a stage := by
  unfold Host.keepsBaseline
  rw [setRelease_current hne]
  cases hc : t.current E with
  | none => rfl
  | some r =>
    rw [Option.any_some, Option.any_some, setRelease_releases hc hne]
    rfl

/-- A mutation whose release is not there yet installs it and comes to its first checkpoint. -/
theorem systemdMutation_meets (hcheckpoint : t.checkpoint = none) (hbaseline : t.keepsBaseline E a stage = true)
    (hnew : stage.newRelease = some new.dir) (hold : stage.previousRelease = some old.dir)
    (hfree : t.releases new.dir = none) (hlink : t.link ≠ some new.dir)
    (hX : X (stepOf (hostNext E) (t.setRelease new.dir ⟨toLower p.artifactDigest, p.targetVersion, true, true⟩)
      (.writeCheckpoint (systemdCheckpoint E p stage)) .ok)) :
    reaches (hostNext E) (Favourable a) X (systemdMutation E p stage none) t := by
  have hG : Quiet E fun _ => True := fun _ _ _ _ => trivial
  have hclear : ∀ u : Host, u.checkpoint = none →
      (u.checkpoint.all (·.loadable E.target) && u.checkpoint == none) = true := fun u hu => by rw [hu]; rfl
  set u := t.setRelease new.dir ⟨toLower p.artifactDigest, p.targetVersion, true, true⟩ with hu
  have hrel : u.releases new.dir = some ⟨toLower p.artifactDigest, p.targetVersion, true, true⟩ := if_pos rfl
  have hinstall : hostNext E t (.installRelease p.stageDir new.dir p.artifactDigest p.targetVersion)
      (a.to t (.installRelease p.stageDir new.dir p.artifactDigest p.targetVersion)) = (true, u) := by
    simp only [hostNext, install, hfree, Answers.to, writeOutcome, hu]
  unfold systemdMutation
  refine reaches_right ((decides_requireCheckpoint hG).last (fun _ => ?_) fun hf => ?_)
  swap
  · rw [hclear t hcheckpoint] at hf
    cases hf
  refine reaches_right ((decides_requireBaseline hG).last (fun _ => ?_) fun hf => by rw [hbaseline] at hf; cases hf)
  refine reaches_right ((decides_requireCheckpoint hG).last (fun _ => ?_) fun hf => ?_)
  swap
  · rw [hclear t hcheckpoint] at hf
    cases hf
  refine reaches_right (I := fun _ => True) (G := fun _ => True) (under_onlyIf (fun hf => by cases hf) fun _ => ?_)
  rw [hnew, hold]
  dsimp only
  refine reaches_right (under_orFail.2 (goes_issue (G := fun _ => True) trivial ?_))
  rw [hinstall]
  refine ⟨fun _ => ?_, fun hf => by cases hf⟩
  refine reaches_right ((decides_checksums hG).last (fun _ => ?_) fun hf => by rw [hrel] at hf; cases hf)
  refine reaches_right ((decides_requiredPaths hG).last (fun _ => ?_) fun hf => by rw [hrel] at hf; cases hf)
  refine reaches_right ((decides_requireCheckpoint hG).last (fun _ => ?_) fun hf => ?_)
  swap
  · rw [hclear u hcheckpoint] at hf
    cases hf
  refine reaches_right ((decides_requireBaseline hG).last (fun _ => ?_) fun hf => ?_)
  swap
  · rw [setRelease_baseline hlink, hbaseline] at hf
    cases hf
  refine reaches_right ((decides_requireCheckpoint hG).last (fun _ => ?_) fun hf => ?_)
  swap
  · rw [hclear u hcheckpoint] at hf
    cases hf
  unfold commitRemoteSystemdMutation saveCheckpoint orFail
  refine reaches_left (reaches_left (reaches_total (Prog.reaches_op fun k hk => ?_)))
  rw [hk]
  exact hX

end FirstCheckpoint

/-- An apply of a staged record installs its release and comes to its first checkpoint, on a healthy target. -/
theorem meets_checkpoint {X : Step Host HostRes → Prop} {sha : ℤ → MutationPlan → String}
    (hmode : E.target.deploymentMode = modeSystemd) (hvalid : l.validate E.target.targetID = true)
    (hplan : plan.validate sha = true) (hfits : (⟨.apply, plan⟩ : SoftwareRequest).fits E = true)
    (hreq : remoteLedgerRequestFailure l plan .apply = none) (hstate : l.state = .staged) (hstage : l.stage = some stage)
    (hbound : stage.bound E plan = true) (hl : t.ledger = some l)
    (hpreflight : (stage.rootDir == stage.rootDir && (applyPlan plan stage).artifactDigest.toList.length == 64) = true)
    (hplanned : requirePlannedCurrentVersion plan.currentVersion stage.previousVersion = true)
    (hcheckpoint : t.checkpoint = none) (hbaseline : t.keepsBaseline E a stage = true)
    (hnew : stage.newRelease = some new.dir) (hold : stage.previousRelease = some old.dir)
    (hfree : t.releases new.dir = none) (hlink : t.link ≠ some new.dir)
    (hX : ∀ u : Host, u.Same t → X (stepOf (hostNext E)
      (u.setRelease new.dir ⟨toLower (applyPlan plan stage).artifactDigest, plan.targetVersion, true, true⟩)
      (.writeCheckpoint (systemdCheckpoint E (applyPlan plan stage) stage)) .ok)) :
    meets E a X (handle E ⟨.apply, plan⟩) t := by
  have hG : Lenient E fun _ => True := fun _ _ _ _ => trivial
  refine meets_handle hfits (by rw [hl, Option.all_some]; exact hvalid) ?_
  rw [hl]
  refine meets_mutate hreq (by rw [hstate]; simp) hstage hbound ⟨fun _ => hstate, fun _ => rfl⟩ ?_
  unfold mutation applyStaged
  dsimp only
  rw [if_pos rfl, if_pos (by simp [hmode])]
  refine reaches_right (under_atGate (passes_systemdPreflight hG.quiet hpreflight hplanned hbaseline
    (by rw [hcheckpoint]; rfl) ?_))
  refine reaches_right (passes_gate hG (fun state h h' => gate_validate hvalid hplan hstage h h') fun u hu _ => ?_)
  have hchecked : reaches (hostNext E) (Favourable a) X (systemdMutation E (applyPlan plan stage) stage none) u := by
    have hu' := hu
    rw [Host.Same] at hu
    refine systemdMutation_meets ?_ ?_ hnew hold ?_ ?_ (hX u hu')
    · rw [hu]
      exact hcheckpoint
    · rw [hu]
      exact hbaseline
    · rw [hu]
      exact hfree
    · rw [hu]
      exact hlink
  rw [hcheckpoint]
  unfold atGate
  exact reaches_ofProg (Prog.reaches_left (reaches_run hchecked))

/-! ## The sample, cut at its first checkpoint -/

/-- an update of the sample to a version -/
abbrev cutPlan (version : String) : MutationPlan := samplePlanTo version "job-1" 1

/-- the binary of the release reports its version -/
def cutAnswers (version : String) : Answers := { sampleAnswers with smoke := "worker " ++ version }

/-- what is staged for it -/
abbrev cutStage (version : String) : RemoteStage :=
  stagedFrom sampleEnv (cutAnswers version) (cutPlan version) oldRelease

/-- the sample target, healthy, with the update staged -/
def cutHost (version : String) : Host := { sampleHost with ledger := some (stagedLedger (cutPlan version) (cutStage version)) }

section Cut

variable {v : String} (hv : v = "v1.0.0" ∨ v = "v1.1.0")

include hv in
theorem cut_version : versionPattern v = true ∧ trimSpace v = v ∧ versionMatches ("worker " ++ v) v = true := by
  rcases hv with rfl | rfl
  · decide
  · decide

include hv in
theorem cutPlan_fits {operation : Operation} : (⟨operation, cutPlan v⟩ : SoftwareRequest).fits sampleEnv = true := by
  simp only [SoftwareRequest.fits, samplePlanTo_validate hv (.inl rfl) one_ne_zero]
  rfl

include hv in
theorem cut_baseline : (cutHost v).keepsBaseline sampleEnv (cutAnswers v) (cutStage v) = true := by
  obtain ⟨hcurrent, hserves⟩ := Option.filter_eq_some_iff.1 sampleHost_healthy
  obtain ⟨hversion, htrim, hsmoke⟩ := cut_version hv
  have hcurrent' : (cutHost v).current sampleEnv = some oldRelease := hcurrent
  have hanswer : (cutHost v).answer = some "v1.0.0" := rfl
  have hold : oldRelease.version = "v1.0.0" := rfl
  have hexpected : (cutPlan v).expectedVersion = v := rfl
  have holdTrim : trimSpace "v1.0.0" = "v1.0.0" := by decide
  have hserves' : (cutHost v).serves oldRelease.dir oldRelease.version = true := hserves
  simp only [Host.serves, Bool.and_eq_true] at hserves'
  simp [Host.keepsBaseline, hcurrent', isStagedPrevious, hexpected, hversion, cutAnswers, hsmoke, hserves', hanswer, hold,
    holdTrim, stagedFrom]

include hv in
/-- the apply of the sample, stopped behind its first checkpoint -/
theorem cut_stops : ∃ cs,
    (applied sampleEnv (cutPlan v) (cutHost v) cs).st.checkpoint =
        some (systemdCheckpoint sampleEnv (applyPlan (cutPlan v) (cutStage v)) (cutStage v)) ∧
      (applied sampleEnv (cutPlan v) (cutHost v) cs).st.healthy sampleEnv = some oldRelease := by
  set new : CurrentRelease := ⟨releaseDirectory sampleEnv.target (cutPlan v), "", ""⟩ with hnew
  have hdir : new.dir ≠ oldRelease.dir := by
    rw [hnew]
    rcases hv with rfl | rfl
    · decide
    · decide
  have hlink : (cutHost v).link ≠ some new.dir := fun hf => hdir (Option.some.inj hf).symm
  have hfree : (cutHost v).releases new.dir = none := by simp [cutHost, sampleHost, hdir]
  have hplan := samplePlanTo_validate (n := 1) hv (.inl (rfl : "job-1" = "job-1")) one_ne_zero
  have hbound : (cutStage v).bound sampleEnv (cutPlan v) = true := by
    refine stagedFrom_bound rfl (Option.filter_eq_some_iff.1 sampleHost_healthy).1 sample_requires ?_
    rfl
  have hvalid : (stagedLedger (cutPlan v) (cutStage v)).validate sampleEnv.target.targetID = true :=
    stagedLedger_validate hplan rfl rfl rfl
  have hreq : remoteLedgerRequestFailure (stagedLedger (cutPlan v) (cutStage v)) (cutPlan v) .apply = none := by
    simp [remoteLedgerRequestFailure, stagedLedger, RemoteMutationIntent.matches]
  have hpreflight : ((cutStage v).rootDir == (cutStage v).rootDir &&
      (applyPlan (cutPlan v) (cutStage v)).artifactDigest.toList.length == 64) = true := by
    have hdigest : (applyPlan (cutPlan v) (cutStage v)).artifactDigest = digestOf 'd' :=
      bareDigest_hash (digestOf_hash (by decide))
    rw [hdigest]
    simp [digestOf]
  have hmeets := meets_checkpoint (a := cutAnswers v) (t := cutHost v)
    (X := fun x => x.post.checkpoint =
        some (systemdCheckpoint sampleEnv (applyPlan (cutPlan v) (cutStage v)) (cutStage v)) ∧
      x.post.healthy sampleEnv = some oldRelease)
    rfl hvalid hplan (cutPlan_fits hv) hreq rfl rfl hbound rfl hpreflight sample_requires rfl (cut_baseline hv)
    (rfl : _ = some new.dir) (rfl : _ = some oldRelease.dir) hfree hlink fun u hu => ?_
  · have hchoose : ∀ (tr : List (Step Host HostRes)) s o, Favourable (cutAnswers v) s o ((fun _ => (cutAnswers v).to) tr s o) :=
      fun _ _ _ => rfl
    obtain ⟨x, hx, hX⟩ := Prog.reaches_script hmeets hchoose []
    obtain ⟨before, rest, hsplit⟩ := List.append_of_mem hx
    exact ⟨_, by rw [(Prog.exec_cut (hostNext sampleEnv) hsplit).2]; exact hX⟩
  · refine ⟨rfl, ?_⟩
    have hhealthy : (u.setRelease new.dir ⟨toLower (applyPlan (cutPlan v) (cutStage v)).artifactDigest,
        (cutPlan v).targetVersion, true, true⟩).healthy sampleEnv = some oldRelease := by
      rw [setRelease_healthy (by rw [hu]; exact hlink), hu]
      exact sampleHost_healthy
    exact hhealthy

end Cut

/-- a cutover to another version is judged by its checkpoint, whatever its service does in the meantime -/
theorem first_checkpoint_exact : ∃ cs c,
    (applied sampleEnv (cutPlan "v1.1.0") (cutHost "v1.1.0") cs).st.checkpoint = some c ∧
      (applied sampleEnv (cutPlan "v1.1.0") (cutHost "v1.1.0") cs).st.healthy sampleEnv = some oldRelease ∧
      ∀ running answer, Exact sampleEnv (cutAnswers "v1.1.0") (applyPlan (cutPlan "v1.1.0") (cutStage "v1.1.0")) c
        ((applied sampleEnv (cutPlan "v1.1.0") (cutHost "v1.1.0") cs).st.serving running answer) := by
  obtain ⟨cs, hcheckpoint, hhealthy⟩ := cut_stops (.inr (rfl : "v1.1.0" = "v1.1.0"))
  have hversions : versionsEqual "v1.0.0" "v1.1.0" = false := by decide
  refine ⟨cs, _, hcheckpoint, hhealthy, fun running answer => ?_⟩
  refine (reconcile_exact_iff rfl rfl rfl hcheckpoint (fun hf => by cases hf) (cutAnswers "v1.1.0") running answer).2
    fun hf => ?_
  exact absurd (hversions.symm.trans hf) (by decide)

/-- **A previous release that the reconcile takes for the new one.** The sample is updated to another artifact of the version
it runs, and the apply stops behind its first checkpoint: the checkpoint says that the previous release is healthy, and the
reconcile does not keep it. -/
theorem same_version_misjudged : ∃ cs c,
    (applied sampleEnv (cutPlan "v1.0.0") (cutHost "v1.0.0") cs).st.checkpoint = some c ∧
      c.runs ((applied sampleEnv (cutPlan "v1.0.0") (cutHost "v1.0.0") cs).st.healthy sampleEnv) = .previous ∧
      ¬ Exact sampleEnv (cutAnswers "v1.0.0") (applyPlan (cutPlan "v1.0.0") (cutStage "v1.0.0")) c
        (applied sampleEnv (cutPlan "v1.0.0") (cutHost "v1.0.0") cs).st := by
  obtain ⟨cs, hcheckpoint, hhealthy⟩ := cut_stops (.inl (rfl : "v1.0.0" = "v1.0.0"))
  obtain ⟨-, old, new, hr, hb, hc, hrecovers⟩ := stopped_between rfl rfl rfl hcheckpoint fun hf => by cases hf
  have hversions : versionsEqual "v1.0.0" "v1.0.0" = true := by decide
  have hnew : oldRelease ≠ new := by
    rintro rfl
    exact absurd hr.newDir (by decide)
  obtain rfl : oldRelease = old := (between_healthy hb hhealthy).resolve_right hnew
  have hnotNew := Bool.eq_false_iff.2 fun hf => hnew ((isNew_iff hb hr hc hb.oldMarked).1 hf)
  refine ⟨cs, _, hcheckpoint, ?_, verdict_mistaken hb hr hc hcheckpoint hrecovers hhealthy hnew hversions⟩
  rw [hhealthy, UpdateCheckpoint.runs, hnotNew, isPrevious_old hr hc]
  rfl

end AutostreamUpdater.Software
