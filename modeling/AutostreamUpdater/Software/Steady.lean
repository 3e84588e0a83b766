/-
Requests under favourable answers: nothing fails, the panel accepts the grant, and a service that is started runs the
release its link points at and reports that release's version. What a request then does is determined by the host it
finds; `Host.current` and `Host.healthy` are what it observes there.

The rules follow the programs of the systemd target and the gate. Each is stated for every `G` that the reading
operations satisfy, so that a result about the steps of a request can be carried along.
-/
import AutostreamUpdater.Contract.TextLaws
import AutostreamUpdater.Software.Rules

namespace AutostreamUpdater.Software

open Contract Base Fallible

/-! ## Favourable answers -/

/-- what the outside world has to say when all goes well -/
structure Answers where
  downloaded : Downloaded
  resolved : DockerRelease
  smoke : String
  container : String
  reports : String → Option String

/-- the favourable answer to an operation -/
def Answers.to (a : Answers) (s : Host) : HostOp → Choice
  | .download _ => .downloaded a.downloaded
  | .resolveDocker _ => .resolved a.resolved
  | .smoke _ => .text a.smoke
  | .systemctl .start => .service true true ((s.link.bind s.releases).map fun r => trimSpace r.version)
  | .composeUp image => .composed true (.replaced a.container) (a.reports image)
  | _ => .ok

/-- only favourable answers -/
abbrev Favourable (a : Answers) (s : Host) (o : HostOp) (c : Choice) : Prop := c = a.to s o

variable {E : SoftwareEnv} {a : Answers} {α : Type} {G : Step Host HostRes → Prop} {s : Host}

/-- a program under favourable answers -/
abbrev goes (E : SoftwareEnv) (a : Answers) (G : Step Host HostRes → Prop) (p : SoftwareProg α) (Q : α → Host → Prop)
    (s : Host) : Prop := p.under (hostNext E) (Favourable a) (fun _ => True) G Q s

/-- a program that may fail, under favourable answers -/
abbrev passes {ε : Type} (E : SoftwareEnv) (a : Answers) (G : Step Host HostRes → Prop) (p : Fallible HostOp HostRes ε α)
    (F : ε → Host → Prop) (Q : α → Host → Prop) (s : Host) : Prop :=
  under (hostNext E) (Favourable a) (fun _ => True) G p F Q s

/-- the steps that only look at the host satisfy `G` -/
def Quiet (E : SoftwareEnv) (G : Step Host HostRes → Prop) : Prop :=
  ∀ s o c, o.inspects → G (stepOf (hostNext E) s o c)

theorem inspects_reads {o : HostOp} (h : o.inspects) : o.reads = true := by
  cases o with
  | writeLedger l => cases h.1
  | _ => first | rfl | cases h.2

/-- one operation with its favourable answer -/
theorem goes_issue {o : HostOp} {Q : HostRes o → Host → Prop} (hG : G (stepOf (hostNext E) s o (a.to s o)))
    (h : Q (hostNext E s o (a.to s o)).1 (hostNext E s o (a.to s o)).2) : goes E a G (issue o) Q s := by
  refine Prog.under_op.2 ⟨trivial, ?_⟩
  intro c hc
  rw [hc]
  exact ⟨hG, h⟩

/-- one look at the host -/
theorem goes_look (hG : Quiet E G) {o : HostOp} {Q : HostRes o → Host → Prop} (ho : o.inspects)
    (h : Q (hostNext E s o (a.to s o)).1 s) : goes E a G (issue o) Q s := by
  refine goes_issue (hG _ _ _ ho) ?_
  rw [hostNext_reads (inspects_reads ho)]
  exact h

section Programs

variable {β ε : Type} {F : ε → Host → Prop}

theorem passes_require {c : Bool} {e : ε} {Q : Unit → Host → Prop} (h : c = true → Q () s) (h' : c = false → F e s) :
    passes E a G (require c e) F Q s := under_require.2 ⟨h, h'⟩

theorem passes_required {c : Bool} {e : ε} {Q : Unit → Host → Prop} (hc : c = true) (h : Q () s) :
    passes E a G (require c e) F Q s := passes_require (fun _ => h) fun hf => by rw [hc] at hf; cases hf

/-- a look at the host whose answer is passed on -/
theorem passes_look (hG : Quiet E G) {o : HostOp} {Q : HostRes o → Host → Prop} (ho : o.inspects)
    (h : Q (hostNext E s o (a.to s o)).1 s) : passes E a G (total (issue o)) F Q s :=
  under_total.2 (goes_look hG ho h)

/-- a check passes -/
theorem passes_check (hG : Quiet E G) {e : ε} {c : Check} {Q : Unit → Host → Prop} (h : Q () s) :
    passes E a G (orFail e (check c)) F Q s :=
  under_orFail.2 (goes_look hG ⟨rfl, rfl⟩ ⟨fun _ => h, fun hf => by cases hf⟩)

end Programs

section Observations

variable (hG : Quiet E G) {F : String → Host → Prop}

/-! ## The current release -/

/-- what `currentRelease` finds behind the current link -/
def Host.current (E : SoftwareEnv) (s : Host) : Option CurrentRelease :=
  s.link.bind fun dir => (s.releases dir).bind fun rel =>
    let r : CurrentRelease := ⟨dir, toLower (trimSpace rel.artifactSHA256), trimSpace rel.version⟩
    if pathWithin E.target.releaseRoot dir && r.digest.toList.length == 64 && versionPattern r.version &&
        r.digest.toList.all isHex then some r else none

include hG in
theorem passes_currentRelease {Q : Option CurrentRelease → Host → Prop} (hsome : ∀ r, s.current E = some r → Q (some r) s)
    (hnone : s.current E = none → (s.link = none → Q none s) ∧ ∀ e, F e s) : passes E a G (currentRelease E) F Q s := by
  unfold currentRelease
  refine under_bind.2 (passes_look hG ⟨rfl, rfl⟩ ?_)
  unfold Host.current at hsome hnone
  cases hlink : s.link with
  | none =>
    simp only [hostNext, Answers.to, if_true, hlink]
    rw [hlink] at hnone
    exact under_pure.2 ((hnone rfl).1 rfl)
  | some dir =>
    rw [hlink] at hsome hnone
    simp only [Option.bind_some] at hsome hnone
    cases hrel : s.releases dir with
    | none =>
      simp only [hostNext, Answers.to, if_true, hlink, hrel, Option.isSome_none, Bool.false_eq_true, if_false]
      rw [hrel] at hnone
      exact under_throw.2 ((hnone rfl).2 _)
    | some rel =>
      rw [hrel] at hsome hnone
      simp only [Option.bind_some] at hsome hnone
      simp only [hostNext, Answers.to, if_true, hlink, hrel, Option.isSome_some]
      refine under_bind.2 (passes_require (fun hpath => ?_) fun hpath => ?_)
      · refine under_bind.2 (under_got.2 (goes_look hG ⟨rfl, rfl⟩ ?_))
        simp only [hostNext, Answers.to, if_true, hrel, Option.map_some, Option.some.injEq]
        refine ⟨fun markers hm => ?_, fun h => by cases h⟩
        subst hm
        simp only [hpath, Bool.true_and] at hsome hnone
        refine under_bind.2 (passes_require (fun hmark => ?_) fun hmark => ?_)
        · simp only [hmark, Bool.true_and] at hsome hnone
          refine under_bind.2 (passes_require (fun hhex => ?_) fun hhex => ?_)
          · exact under_pure.2 (hsome _ (if_pos hhex))
          · exact (hnone (if_neg (by simp [hhex]))).2 _
        · refine (hnone ?_).2 _
          simp only [hmark, Bool.false_and, Bool.false_eq_true, if_false]
      · refine (hnone ?_).2 _
        simp [hpath]

/-! ## Checks -/

/-- the check passes if and only if `b` holds, and leaves the host alone -/
def Decides (E : SoftwareEnv) (a : Answers) (G : Step Host HostRes → Prop) (p : Soft Unit) (b : Bool) (s : Host) : Prop :=
  passes E a G p (fun _ s' => s' = s ∧ b = false) (fun _ s' => s' = s ∧ b = true) s

variable {p : Soft Unit} {b : Bool}

/-- a check, then what follows it -/
theorem Decides.bind {f : Unit → Soft α} {Q : α → Host → Prop} (h : Decides E a G p b s)
    (hok : b = true → passes E a G (f ()) F Q s) (herr : b = false → ∀ e, F e s) : passes E a G (p >>= f) F Q s := by
  refine under_bind.2 (under_mono h ?_ ?_)
  · rintro e s' ⟨rfl, hb⟩
    exact herr hb e
  · rintro _ s' ⟨rfl, hb⟩
    exact hok hb

/-- the last check -/
theorem Decides.last {Q : Unit → Host → Prop} (h : Decides E a G p b s) (hok : b = true → Q () s)
    (herr : b = false → ∀ e, F e s) : passes E a G p F Q s := by
  refine under_mono h ?_ ?_
  · rintro e s' ⟨rfl, hb⟩
    exact herr hb e
  · rintro _ s' ⟨rfl, hb⟩
    exact hok hb

/-- a check whose outcome is looked at -/
theorem Decides.tried {f : Except String Unit → Soft α} {Q : α → Host → Prop} (h : Decides E a G p b s)
    (hf : ∀ r, r.toBool = b → passes E a G (f r) F Q s) : passes E a G (attempt p >>= f) F Q s := by
  refine under_bind.2 (under_attempt.2 (under_mono h ?_ ?_))
  · rintro e s' ⟨rfl, hb⟩
    exact hf _ hb.symm
  · rintro _ s' ⟨rfl, hb⟩
    exact hf _ hb.symm

theorem decides_require {e : String} : Decides E a G (require b e) b s :=
  passes_require (fun h => ⟨rfl, h⟩) fun h => ⟨rfl, h⟩

theorem decides_firstError {rs : List (Except String Unit)} (h : rs.all Except.toBool = b) :
    Decides E a G (firstError rs) b s := by
  refine under_firstError (fun hall => ⟨rfl, ?_⟩) fun e he => ⟨rfl, ?_⟩
  · rw [← h, List.all_eq_true]
    exact hall
  · rw [← h, List.all_eq_false]
    exact ⟨_, he, by simp [Except.toBool]⟩

/-- two checks that are both made -/
theorem decides_both {p q : Soft Unit} {b c d : Bool} {f : Except String Unit → Except String Unit → List (Except String Unit)}
    (hp : Decides E a G p b s) (hq : Decides E a G q c s)
    (hf : ∀ r t, r.toBool = b → t.toBool = c → (f r t).all Except.toBool = d) :
    Decides E a G (do let r ← attempt p; let t ← attempt q; firstError (f r t)) d s :=
  hp.tried fun r hr => hq.tried fun t ht => decides_firstError (hf r t hr ht)

include hG

theorem decides_checksums {e : String} {dir : Path} :
    Decides E a G (orFail e (issue (.verifyChecksums dir))) ((s.releases dir).any Release.intact) s := by
  refine under_orFail.2 (goes_look hG ⟨rfl, rfl⟩ ?_)
  simp [hostNext, Answers.to]

theorem decides_requiredPaths {e : String} {dir : Path} :
    Decides E a G (verifyRequiredPaths e dir) ((s.releases dir).any Release.complete) s := by
  refine under_orFail.2 (goes_look hG ⟨rfl, rfl⟩ ?_)
  simp [hostNext, Answers.to]

theorem decides_process {dir : Path} : Decides E a G (verifySystemdProcess dir) (s.running == some dir) s := by
  refine under_bind.2 (under_got.2 (goes_look hG ⟨rfl, rfl⟩ ?_))
  simp only [hostNext, Answers.to, if_true]
  refine ⟨fun running hr => ?_, fun hr => by simp [hr]⟩
  refine passes_require (fun h => ?_) fun h => ?_
  · simpa [hr] using h
  · simpa [hr] using h

/-- what the target answers passes the test -/
theorem decides_answer {e e' : String} {test : String → Bool} :
    Decides E a G (do let v ← got e (issue .probe); require (test v) e') (s.answer.any test) s := by
  refine under_bind.2 (under_got.2 (goes_look hG ⟨rfl, rfl⟩ ?_))
  simp only [hostNext, Answers.to, if_true]
  refine ⟨fun v hv => ?_, fun hv => by simp [hv]⟩
  refine passes_require (fun h => ?_) fun h => ?_
  · simpa [hv] using h
  · simpa [hv] using h

/-- the release in the directory is intact, it is the one that runs, and it reports the version -/
def Host.serves (s : Host) (dir : Path) (version : String) : Bool :=
  (s.releases dir).any Release.intact && (s.running == some dir && s.answer.any fun v => versionsEqual v version)

theorem decides_runningRelease {dir : Path} {version : String} :
    Decides E a G (verifyRunningRelease dir version) (s.serves dir version) s := by
  refine (decides_checksums hG).tried fun r hr => ?_
  refine decides_both (decides_process hG) (decides_answer hG) fun t u ht hu => ?_
  simp [Host.serves, hr, ht, hu]

/-- what `healthyRelease` finds: the current release, if it runs and is intact -/
def Host.healthy (E : SoftwareEnv) (s : Host) : Option CurrentRelease :=
  (s.current E).filter fun r => s.serves r.dir r.version

theorem passes_healthyRelease {Q : Option CurrentRelease → Host → Prop} (h : Q (s.healthy E) s) :
    passes E a G (healthyRelease E) F Q s := by
  unfold healthyRelease
  refine under_bind.2 (under_attempt.2 (passes_currentRelease hG (fun r hr => ?_) fun hnone => ?_))
  · refine (decides_runningRelease hG).tried fun t ht => ?_
    have hhealthy : s.healthy E = if s.serves r.dir r.version then some r else none := by
      rw [Host.healthy, hr, Option.filter_some]
    rw [hhealthy] at h
    cases t with
    | ok u =>
      rw [← ht] at h
      exact under_pure.2 h
    | error e =>
      rw [← ht] at h
      exact under_pure.2 h
  · have hhealthy : s.healthy E = none := by rw [Host.healthy, hnone, Option.filter_none]
    rw [hhealthy] at h
    exact ⟨fun _ => under_pure.2 h, fun _ => under_pure.2 h⟩

/-! ## Checkpoints -/

theorem passes_loadCheckpoint {Q : Option UpdateCheckpoint → Host → Prop}
    (h : s.checkpoint.all (·.loadable E.target) = true → Q s.checkpoint s)
    (h' : s.checkpoint.all (·.loadable E.target) = false → ∀ e, F e s) : passes E a G (loadCheckpoint E) F Q s := by
  unfold loadCheckpoint
  refine under_bind.2 (passes_look hG ⟨rfl, rfl⟩ ?_)
  simp only [hostNext, Answers.to, if_true]
  cases hc : s.checkpoint with
  | none =>
    rw [hc] at h
    exact under_pure.2 (h rfl)
  | some c =>
    rw [hc] at h h'
    rw [Option.all_some] at h h'
    exact under_bind.2 (passes_require (fun hl => under_pure.2 (h hl)) fun hl => h' hl _)

theorem decides_requireCheckpoint {expected : Option UpdateCheckpoint} {e : String} :
    Decides E a G (requireCheckpoint E expected e) (s.checkpoint.all (·.loadable E.target) && s.checkpoint == expected) s := by
  unfold requireCheckpoint
  refine under_bind.2 (under_attempt.2 (passes_loadCheckpoint hG (fun h => ?_) fun h e => ?_))
  · rw [h, Bool.true_and]
    exact decides_require
  · rw [h, Bool.false_and]
    exact under_throw.2 ⟨rfl, rfl⟩

/-! ## The baseline of an apply -/

/-- the staged artifact is in order and the target still runs the release recorded at staging -/
def Host.keepsBaseline (E : SoftwareEnv) (a : Answers) (stage : RemoteStage) (s : Host) : Bool :=
  (versionPattern stage.expectedVersion && versionMatches a.smoke stage.expectedVersion) &&
    (s.current E).any fun r => isStagedPrevious stage r && ((s.releases r.dir).any Release.intact &&
      (s.running == some r.dir && s.answer.any fun v => trimSpace v == r.version))

theorem decides_baseline {stage : RemoteStage} :
    Decides E a G (verifyRemoteSystemdBaseline E stage) (s.keepsBaseline E a stage) s := by
  have hartifact : Decides E a G (verifyRemoteSystemdStagedArtifact stage)
      (versionPattern stage.expectedVersion && versionMatches a.smoke stage.expectedVersion) s := by
    unfold verifyRemoteSystemdStagedArtifact
    refine decides_require.bind (fun h => ?_) fun h e => ⟨rfl, by rw [h]; rfl⟩
    rw [h, Bool.true_and]
    refine under_bind.2 (passes_check hG ?_)
    refine under_bind.2 (under_got.2 (goes_look hG ⟨rfl, rfl⟩ ⟨fun v hv => ?_, fun hv => by cases hv⟩))
    cases hv
    exact decides_require
  unfold verifyRemoteSystemdBaseline
  refine hartifact.bind (fun h => ?_) fun h e => ⟨rfl, by simp [Host.keepsBaseline, h]⟩
  unfold Host.keepsBaseline
  rw [h, Bool.true_and]
  refine under_bind.2 (passes_currentRelease hG (fun r hr => ?_) fun hnone => ⟨fun _ => ?_, fun _ => ?_⟩)
  · rw [hr, Option.any_some]
    refine decides_require.bind (fun h => ?_) fun h e => ⟨rfl, by rw [h]; rfl⟩
    rw [h, Bool.true_and]
    refine (decides_checksums hG).tried fun p hp => ?_
    refine decides_both (decides_process hG) (decides_answer hG) fun t u ht hu => ?_
    simp [hp, ht, hu]
  · exact under_throw.2 ⟨rfl, by rw [hnone]; rfl⟩
  · exact ⟨rfl, by rw [hnone]; rfl⟩

theorem decides_requireBaseline {stage : RemoteStage} {e : String} :
    Decides E a G (requireBaseline E stage e) (s.keepsBaseline E a stage) s := by
  unfold requireBaseline
  refine (decides_baseline hG).tried fun r hr => ?_
  rw [← hr]
  cases r with
  | ok u => exact under_pure.2 ⟨rfl, rfl⟩
  | error e => exact under_throw.2 ⟨rfl, rfl⟩

/-- The part of an apply before its gate. -/
theorem passes_systemdPreflight {plan : ApplyPlan} {stage : RemoteStage} {Q : Option UpdateCheckpoint → Host → Prop}
    (hstage : (plan.stageDir == stage.rootDir && plan.artifactDigest.toList.length == 64) = true)
    (hplanned : requirePlannedCurrentVersion plan.currentVersion stage.previousVersion = true)
    (hbaseline : s.keepsBaseline E a stage = true)
    (hcheckpoint : s.checkpoint.all (fun c => c.loadable E.target && c.over) = true) (h : Q s.checkpoint s) :
    passes E a G (systemdPreflight E plan stage) F Q s := by
  have hall : s.checkpoint.all (·.loadable E.target) = true ∧ s.checkpoint.all UpdateCheckpoint.over = true := by
    cases hc : s.checkpoint with
    | none => exact ⟨rfl, rfl⟩
    | some c => simpa [hc] using hcheckpoint
  unfold systemdPreflight
  refine under_bind.2 (passes_required hstage (under_bind.2 (passes_required hplanned ?_)))
  refine (decides_baseline hG).bind (fun _ => ?_) fun hf => by rw [hbaseline] at hf; cases hf
  refine under_bind.2 (passes_loadCheckpoint hG (fun _ => ?_) fun hf => by rw [hall.1] at hf; cases hf)
  exact under_bind.2 (passes_required hall.2 (under_pure.2 h))

end Observations

/-! ## The ledger -/

/-- every step that leaves the target alone satisfies `G` -/
def Lenient (E : SoftwareEnv) (G : Step Host HostRes → Prop) : Prop :=
  ∀ s o c, o.changesTarget = false → G (stepOf (hostNext E) s o c)

theorem Lenient.quiet (h : Lenient E G) : Quiet E G := fun s o c ho => h s o c ho.2

/-- `t` is `s` up to the ledger -/
def Host.Same (t s : Host) : Prop := t = { s with ledger := t.ledger, origin := t.origin }

theorem Host.Same.trans {s t u : Host} (h : u.Same t) (h' : t.Same s) : u.Same s := by
  rw [Host.Same] at h h' ⊢
  rw [h, h']

theorem setLedger_same {target : Target} {l : ExecutorMutationLedger} : (s.setLedger target l).Same s := rfl

variable {sha : ℤ → MutationPlan → String}

section Requests

variable {l : ExecutorMutationLedger} {plan : MutationPlan} {operation : Operation} {stage : RemoteStage}
  {r : SoftwareRequest} {state : LedgerState} {result : Option ApplyResult} {t : String} (hG : Lenient E G)

/-- a bare digest is its own bare form -/
theorem bareDigest_hash {d : String} (h : mutationPlanHashPattern d = true) : bareDigest d = d := by
  have hlen : "sha256:".toList.length = 7 := rfl
  have htake : ("sha256:".toList ++ d.toList).take 7 = "sha256:".toList := List.take_left' hlen
  have hdrop : ("sha256:".toList ++ d.toList).drop 7 = d.toList := List.drop_left' hlen
  rw [bareDigest, normalizeDigest_hash h]
  simp only [String.toList_append, htake, hdrop, beq_self_eq_true, if_true, String.ofList_toList]

/-- what a valid plan brings into a record -/
theorem plan_binding (h : plan.validate sha = true) :
    mutationPlanHashPattern plan.planSHA256 = true ∧ mutationSessionPattern plan.sessionID = true ∧
      (plan.leaseGeneration != 0) = true := by
  simp only [MutationPlan.validate, Bool.and_eq_true] at h
  exact ⟨h.1.1.2, h.1.1.1.2, h.1.1.1.1.2⟩

/-- A record that a valid plan rewrites is valid if its state is in order. -/
theorem rebound_validate (hl : l.validate t = true) (hplan : plan.validate sha = true)
    (hstate : (l.rebound plan operation state result).stateValid = true) :
    (l.rebound plan operation state result).validate l.targetID = true := by
  obtain ⟨hhash, hsession, hlease⟩ := plan_binding hplan
  simp only [ExecutorMutationLedger.validate, Bool.and_eq_true] at hl ⊢
  refine ⟨⟨?_, hstate⟩, hl.2⟩
  have hid := hl.1.1
  simp only [ExecutorMutationLedger.identityValid, Bool.and_eq_true, rebound_targetID, rebound_jobID, rebound_planSHA256,
    rebound_sessionID, rebound_leaseGeneration, rebound_intent, beq_self_eq_true, hhash, hsession, hlease] at hid ⊢
  obtain ⟨⟨⟨⟨⟨⟨⟨⟨⟨⟨-, hjob⟩, htarget⟩, -⟩, -⟩, -⟩, hintent⟩, hversion⟩, hconfig⟩, hnormal⟩, hartifact⟩ := hid
  simp [hjob, htarget, hintent, hversion, hconfig, hnormal, hartifact]

/-- a record that ends with a settled result -/
theorem terminal_stateValid {r : ApplyResult} (hstage : l.stage = some stage) (hr : r.settled = true) :
    (l.rebound plan operation .terminal (some r)).stateValid = true := by
  simp only [ExecutorMutationLedger.stateValid, rebound_state, rebound_result, rebound_stage, hstage, Option.any_some, hr,
    Option.isSome_some, Bool.and_self]

include hG in
theorem goes_save {Q : Bool → Host → Prop} (hvalid : l.validate l.targetID = true) (h : Q true (s.setLedger E.target l)) :
    goes E a G (saveExecutorMutationLedger l) Q s := by
  unfold saveExecutorMutationLedger
  refine Prog.under_bind.2 (goes_look hG.quiet ⟨rfl, rfl⟩ ?_)
  simp only [hostNext, Answers.to, beq_self_eq_true, Bool.not_true, Bool.false_eq_true, if_false, hvalid]
  exact goes_issue (hG _ _ _ rfl) h

include hG in
theorem passes_save {ε : Type} {e : ε} {F : ε → Host → Prop} {Q : Unit → Host → Prop}
    (hvalid : l.validate l.targetID = true) (h : Q () (s.setLedger E.target l)) :
    passes E a G (orFail e (saveExecutorMutationLedger l)) F Q s :=
  under_orFail.2 (goes_save hG hvalid ⟨fun _ => h, fun hf => by cases hf⟩)

include hG in
/-- The gate opens: the ledger says so, and nothing else has changed. -/
theorem passes_gate {F : Failure → Host → Prop} {Q : Unit → Host → Prop}
    (hvalid : ∀ state, state ≠ .staged → state ≠ .terminal →
      (l.rebound plan operation state none).validate l.targetID = true)
    (h : ∀ t : Host, t.Same s → t.ledger = some (l.rebound plan operation .mutating none) → Q () t) :
    passes E a G (gate plan operation l) F Q s := by
  unfold gate
  refine under_bind.2 (passes_check hG.quiet ?_)
  refine under_bind.2 (passes_save hG (hvalid _ (by simp) (by simp)) ?_)
  refine under_bind.2 (under_orFail.2 (goes_issue (hG _ _ _ rfl) ⟨fun _ => ?_, fun hf => by cases hf⟩))
  refine under_bind.2 (passes_save hG (hvalid _ (by simp) (by simp)) ?_)
  exact passes_save hG (hvalid _ (by simp) (by simp)) (h _ rfl rfl)

/-- the stage is bound to the plan -/
def RemoteStage.bound (E : SoftwareEnv) (plan : MutationPlan) (stage : RemoteStage) : Bool :=
  (pathWithin E.stagesRoot stage.rootDir && normalizeDigest stage.artifactDigest == normalizeDigest plan.artifactDigest) &&
    ((!(E.target.deploymentMode == modeDocker) || stage.fitsDocker plan) &&
      (!(E.target.deploymentMode == modeSystemd) || stage.fitsSystemd plan))

theorem decides_onlyIf {p : Soft Unit} {b c : Bool} (h : Decides E a G p c s) :
    Decides E a G (onlyIf b p) (!b || c) s := by
  cases b with
  | true => exact h
  | false => exact under_pure.2 ⟨rfl, rfl⟩

theorem Decides.then {p q : Soft Unit} {b c : Bool} (hp : Decides E a G p b s) (hq : Decides E a G q c s) :
    Decides E a G (p >>= fun _ => q) (b && c) s := by
  refine hp.bind (fun hb => ?_) fun hb e => ⟨rfl, by rw [hb]; rfl⟩
  rw [hb]
  exact hq

include hG in
theorem decides_validateExecutorStage : Decides E a G (validateExecutorStage E plan stage) (stage.bound E plan) s := by
  unfold validateExecutorStage
  refine decides_require.then ?_
  refine under_bind.2 (passes_check hG.quiet ?_)
  exact (decides_onlyIf decides_require).then (decides_onlyIf decides_require)

variable {Q : Outcome → Host → Prop}

include hG in
/-- A request that is let through to its ledger. -/
theorem goes_handle (hfits : r.fits E = true) (hvalid : s.ledger.all (·.validate E.target.targetID) = true)
    (h : goes E a G (dispatch E r s.ledger) Q s) : goes E a G (handle E r) Q s := by
  refine handle_under trivial (fun hf => by rw [hfits] at hf; cases hf) (fun c _ => hG _ _ _ rfl)
    (fun code hc => by cases hc) (fun c _ => hG _ _ _ rfl) (fun c hc hbad => ?_) fun _ _ => h
  rcases hbad with hbad | hbad
  · exact absurd hc hbad
  · rw [hvalid] at hbad
    cases hbad

include hG in
theorem goes_markAmbiguous (hvalid : (l.rebound plan operation .ambiguous none).validate l.targetID = true)
    (h : Q (executorFailure .reconcileRequired) (s.setLedger E.target (l.rebound plan operation .ambiguous none))) :
    goes E a G (markAmbiguous plan operation l) Q s :=
  Prog.under_bind.2 (goes_save hG hvalid (Prog.under_pure.2 h))

include hG in
theorem goes_recordResult {x b : ApplyResult} (hbound : bindRemoteApplyResult plan x = some b)
    (hsettled : b.settled = true) (hvalid : (l.rebound plan operation .terminal (some b)).validate l.targetID = true)
    (h : Q (resultOutcome plan b) (s.setLedger E.target (l.rebound plan operation .terminal (some b)))) :
    goes E a G (recordResult plan operation l x) Q s := by
  unfold recordResult
  rw [hbound]
  simp only [hsettled, Bool.not_true, Bool.false_eq_true, if_false]
  exact Prog.under_bind.2 (goes_save hG hvalid (Prog.under_pure.2 h))

/-! ## Mutations -/

theorem goes_runMutation
    (h : passes E a G (mutation E plan operation l stage)
      (fun e s => goes E a G (if e.gateCalled then markAmbiguous plan operation l
        else pure (executorFailure .mutationPreconditionFailed)) Q s)
      (fun x s => goes E a G (recordResult plan operation l x) Q s) s) :
    goes E a G (runMutation E plan operation l stage) Q s := by
  unfold runMutation
  exact Prog.under_bind.2 (under_run.2 h)

/-- the request of a record with a stage goes on to the mutation -/
theorem dispatch_mutates (hreq : remoteLedgerRequestFailure l plan operation = none) (hopen : l.state ≠ .terminal)
    (hstage : l.stage = some stage) :
    dispatch E ⟨operation, plan⟩ (some l) = mutateLedger E plan operation l stage := by
  unfold dispatch
  rw [if_neg (requestFailure_none hreq).2.2.2.1]
  unfold executorMutationRequest
  dsimp only
  rw [hreq]
  simp only [hopen, if_false, hstage]

/-- an apply finds the record staged, a reconcile finds it past that -/
theorem turn_taken (hturn : operation = .apply ↔ l.state = .staged) :
    ¬ (operation = .apply ∧ l.state ≠ .staged) ∧ ¬ (operation = .reconcile ∧ l.state = .staged) := by
  refine ⟨fun h => h.2 (hturn.1 h.1), ?_⟩
  rintro ⟨rfl, hs⟩
  exact absurd (hturn.2 hs) (by simp)

include hG in
/-- A record that the request may mutate. -/
theorem goes_mutate (hreq : remoteLedgerRequestFailure l plan operation = none) (hopen : l.state ≠ .terminal)
    (hstage : l.stage = some stage) (hbound : stage.bound E plan = true)
    (hturn : operation = .apply ↔ l.state = .staged) (h : goes E a G (runMutation E plan operation l stage) Q s) :
    goes E a G (dispatch E ⟨operation, plan⟩ (some l)) Q s := by
  rw [dispatch_mutates hreq hopen hstage]
  unfold mutateLedger
  refine Prog.under_bind.2 (under_run.2 ?_)
  refine (decides_validateExecutorStage hG).last (fun _ => ?_) fun hf => by rw [hbound] at hf; cases hf
  obtain ⟨happly, hreconcile⟩ := turn_taken hturn
  simp only [happly, hreconcile, if_false]
  exact h

/-- the states a gate saves fit every record with a stage -/
theorem gate_validate (hvalid : l.validate t = true) (hplan : plan.validate sha = true) (hstage : l.stage = some stage)
    (h : state ≠ .staged) (h' : state ≠ .terminal) :
    (l.rebound plan operation state none).validate l.targetID = true := by
  refine rebound_validate hvalid hplan ?_
  simp only [ExecutorMutationLedger.stateValid, rebound_state, rebound_result, rebound_stage, hstage]
  cases state with
  | staged => exact absurd rfl h
  | terminal => exact absurd rfl h'
  | _ => rfl

include hG in
/-- A reconcile of a mutation under way: the gate, then the decision. -/
theorem passes_reconcileStaged {F : Failure → Host → Prop} {Q : ApplyResult → Host → Prop}
    (hvalid : l.validate t = true) (hplan : plan.validate sha = true) (hstage : l.stage = some stage)
    (h : ∀ u : Host, u.Same s → u.ledger = some (l.rebound plan .reconcile .mutating none) →
      passes E a G (if E.target.deploymentMode == modeSystemd then reconcileSystemd E (applyPlan plan stage)
        else reconcileDocker E (applyPlan plan stage)) (fun e => F ⟨true, e⟩) Q u) :
    passes E a G (mutation E plan .reconcile l stage) F Q s := by
  unfold mutation reconcileStaged
  rw [if_neg (by simp)]
  refine under_bind.2 (passes_gate hG (fun state hs ht => gate_validate hvalid hplan hstage hs ht) fun u hu hl => ?_)
  exact under_atGate (h u hu hl)

include hG in
/-- The decision of a systemd reconcile: what it makes of the checkpoint and of the release that is healthy. -/
theorem passes_reconcileSystemd {plan : ApplyPlan} {F : String → Host → Prop} {Q : ApplyResult → Host → Prop}
    (hcheckpoint : s.checkpoint.all (fun c => c.loadable E.target && c.recoversSystemd plan) = true)
    (h : passes E a G (match s.healthy E with
      | some r => classifyRelease E plan s.checkpoint r
      | none => rollbackFromCheckpoint E s.checkpoint) F Q s) : passes E a G (reconcileSystemd E plan) F Q s := by
  have hall : s.checkpoint.all (·.loadable E.target) = true ∧ s.checkpoint.all (·.recoversSystemd plan) = true := by
    cases hc : s.checkpoint with
    | none => exact ⟨rfl, rfl⟩
    | some c => simpa [hc] using hcheckpoint
  unfold reconcileSystemd
  refine under_bind.2 (passes_loadCheckpoint hG.quiet (fun _ => ?_) fun hf => by rw [hall.1] at hf; cases hf)
  refine under_bind.2 (passes_required hall.2 ?_)
  exact under_bind.2 (passes_healthyRelease hG.quiet h)

/-- the record a reconcile leaves after its decision, and its answer -/
def reconciled (plan : MutationPlan) (l : ExecutorMutationLedger) (x : Option ApplyResult) :
    ExecutorMutationLedger × Outcome :=
  match (x.bind (bindRemoteApplyResult plan)).filter ApplyResult.settled with
  | some b => (l.rebound plan .reconcile .terminal (some b), resultOutcome plan b)
  | none => (l.rebound plan .reconcile .ambiguous none, executorFailure .reconcileRequired)

include hG in
/-- **Reconcile.** A mutation under way is decided, and the decision is recorded. -/
theorem goes_reconcile (hplan : plan.validate sha = true) (hvalid : l.validate t = true)
    (hreq : remoteLedgerRequestFailure l plan .reconcile = none) (hbegun : l.begun = true)
    (hstage : l.stage = some stage) (hbound : stage.bound E plan = true)
    (h : ∀ u : Host, u.Same s →
      passes E a G (if E.target.deploymentMode == modeSystemd then reconcileSystemd E (applyPlan plan stage)
        else reconcileDocker E (applyPlan plan stage))
      (fun _ v => ∀ w : Host, w.Same v → w.ledger = some (reconciled plan l none).1 → Q (reconciled plan l none).2 w)
      (fun x v => ∀ w : Host, w.Same v → w.ledger = some (reconciled plan l (some x)).1 →
        Q (reconciled plan l (some x)).2 w) u) : goes E a G (dispatch E ⟨.reconcile, plan⟩ (some l)) Q s := by
  have hgate : ∀ {state}, state ≠ .staged → state ≠ .terminal →
      (l.rebound plan .reconcile state none).validate l.targetID = true := fun hs ht => gate_validate hvalid hplan hstage hs ht
  simp only [ExecutorMutationLedger.begun, Bool.and_eq_true, bne_iff_ne] at hbegun
  refine goes_mutate hG hreq hbegun.2 hstage hbound ⟨fun h => (by cases h), fun h => absurd h hbegun.1⟩ ?_
  refine goes_runMutation (passes_reconcileStaged hG hvalid hplan hstage fun u hu hul => ?_)
  refine under_mono (h u hu) (fun e v hv => ?_) fun x v hv => ?_
  · exact goes_markAmbiguous hG (hgate (by simp) (by simp)) (hv _ setLedger_same rfl)
  · -- a decision that cannot be bound to the plan leaves the record ambiguous
    cases hb : bindRemoteApplyResult plan x with
    | none =>
      unfold recordResult
      rw [hb]
      simp only [reconciled, Option.bind_some, hb, Option.filter_none] at hv
      exact goes_markAmbiguous hG (hgate (by simp) (by simp)) (hv _ setLedger_same rfl)
    | some b =>
      simp only [reconciled, Option.bind_some, hb, Option.filter_some] at hv
      cases hset : b.settled with
      | false =>
        unfold recordResult
        rw [hb]
        simp only [hset, Bool.false_eq_true, if_false] at hv
        simp only [hset, Bool.not_false, if_true]
        exact goes_markAmbiguous hG (hgate (by simp) (by simp)) (hv _ setLedger_same rfl)
      | true =>
        simp only [hset, if_true] at hv
        exact goes_recordResult hG hb hset (rebound_validate hvalid hplan (terminal_stateValid hstage hset))
          (hv _ setLedger_same rfl)

/-- the result that leaves an untouched systemd target alone -/
def untouchedResult (plan : MutationPlan) (c : CurrentRelease) : ApplyResult :=
  sanitizeRemoteApplyResult { status := .rolledBack, artifactDigest := normalizeDigest (resultArtifactDigest plan)
                              previousDigest := normalizeDigest c.digest, rolledBack := true
                              message := "apply had not changed the verified previous managed release" }

variable {c : CurrentRelease}

include hG in
/-- **Untouched target.** A mutation that never touched its systemd target ends rolled back. -/
theorem goes_reconcile_untouched (hmode : E.target.deploymentMode = modeSystemd) (hplan : plan.validate sha = true)
    (hvalid : l.validate t = true) (hreq : remoteLedgerRequestFailure l plan .reconcile = none)
    (hbegun : l.begun = true) (hstage : l.stage = some stage) (hbound : stage.bound E plan = true)
    (hcheckpoint : s.checkpoint = none) (hhealthy : s.healthy E = some c)
    (hrequested : runsRequested (applyPlan plan stage) none c = false)
    (hplanned : runsPlanned (applyPlan plan stage) c = true) (hbind : normalizeDigest (resultArtifactDigest plan) ≠ "")
    (h : ∀ u : Host, u.Same s → u.ledger = some (l.rebound plan .reconcile .terminal (some (untouchedResult plan c))) →
      Q (resultOutcome plan (untouchedResult plan c)) u) : goes E a G (dispatch E ⟨.reconcile, plan⟩ (some l)) Q s := by
  refine goes_reconcile hG hplan hvalid hreq hbegun hstage hbound fun u hu => ?_
  have hu' : u.checkpoint = none ∧ u.healthy E = some c := by
    rw [hu]
    exact ⟨hcheckpoint, hhealthy⟩
  rw [if_pos (by simp [hmode])]
  refine passes_reconcileSystemd hG (by rw [hu'.1]; rfl) ?_
  rw [hu'.1, hu'.2]
  unfold classifyRelease
  simp only [hrequested, hplanned, Option.isNone_none, Bool.true_and, if_true, Bool.false_eq_true, if_false]
  refine under_pure.2 fun w hw hl => ?_
  have hresult : bindRemoteApplyResult plan
      { status := .rolledBack, previousDigest := normalizeDigest c.digest, rolledBack := true
        message := "apply had not changed the verified previous managed release" } = some (untouchedResult plan c) := by
    simp [bindRemoteApplyResult, hbind, untouchedResult]
  have hsettled : (untouchedResult plan c).settled = true := rfl
  simp only [reconciled, Option.bind_some, hresult, Option.filter_some, hsettled, if_true] at hl ⊢
  exact h w (hw.trans hu) hl

/-! ## Staging -/

include hG in
theorem passes_requireManagedVersion {F : String → Host → Prop} {Q : Unit → Host → Prop} {planned : String}
    (hmode : E.target.deploymentMode = modeSystemd) (hc : s.current E = some c)
    (hplanned : requirePlannedCurrentVersion planned c.version = true) (h : Q () s) :
    passes E a G (requireManagedVersion E planned) F Q s := by
  have hversion : versionPattern c.version = true := by
    unfold Host.current at hc
    simp only [Option.bind_eq_some_iff, Option.ite_none_right_eq_some, Bool.and_eq_true, Option.some.injEq] at hc
    obtain ⟨dir, -, rel, -, ⟨⟨-, hv⟩, -⟩, rfl⟩ := hc
    exact hv
  unfold requireManagedVersion managedRemoteCurrentVersion
  rw [if_pos (by simp [hmode])]
  refine under_bind.2 (under_attempt.2 (under_bind.2 (passes_currentRelease hG.quiet (fun r hr => ?_) fun hnone => ?_)))
  · obtain rfl : c = r := Option.some.inj (hc.symm.trans hr)
    exact under_bind.2 (passes_required hversion (under_pure.2 (passes_required hplanned h)))
  · rw [hc] at hnone
    cases hnone

theorem requirePlannedCurrentVersion_trim {planned actual : String} :
    requirePlannedCurrentVersion (trimSpace planned) actual = requirePlannedCurrentVersion planned actual := by
  simp only [requirePlannedCurrentVersion, trimSpace_trimSpace]

/-- the stage that is recorded when all goes well -/
def stagedFrom (E : SoftwareEnv) (a : Answers) (plan : MutationPlan) (c : CurrentRelease) : RemoteStage where
  rootDir := remoteStageRoot E plan ++ a.downloaded.root
  artifactDigest := a.downloaded.sha256
  expectedVersion := plan.expectedVersion
  newRelease := some (releaseDirectory E.target plan)
  previousRelease := some c.dir
  previousDigest := normalizeDigest c.digest
  previousVersion := c.version

include hG in
/-- A healthy systemd target that is free takes a new record. -/
theorem goes_stageFresh {previous : Option RemoteStage} (hmode : E.target.deploymentMode = modeSystemd)
    (hc : s.healthy E = some c) (hcomplete : (s.releases c.dir).any Release.complete = true)
    (hplanned : trimSpace plan.currentVersion ≠ "")
    (hcurrent : requirePlannedCurrentVersion plan.currentVersion c.version = true)
    (hdigest : normalizeDigest a.downloaded.sha256 = normalizeDigest plan.artifactDigest)
    (hsmoke : versionMatches a.smoke plan.targetVersion = true)
    (hvalid : (stagedLedger plan (stagedFrom E a plan c)).validate plan.targetID = true)
    (h : Q (.stage (remoteStageResult plan (stagedFrom E a plan c)))
      (s.setLedger E.target (stagedLedger plan (stagedFrom E a plan c)))) :
    goes E a G (stageFresh E plan previous) Q s := by
  obtain ⟨hcur, hserves⟩ := Option.filter_eq_some_iff.1 hc
  simp only [Host.serves, Bool.and_eq_true] at hserves
  have hcurrent' := requirePlannedCurrentVersion_trim.trans hcurrent
  unfold stageFresh
  refine Prog.under_bind.2 (under_run.2 ?_)
  unfold prepareExecutorStage verifyMutationPlanCurrentVersion
  refine under_bind.2 (under_bind.2 (passes_required (by simpa using hplanned) ?_))
  refine passes_requireManagedVersion hG hmode hcur hcurrent' ?_
  refine under_bind.2 (passes_check hG.quiet ?_)
  refine under_bind.2 ?_
  unfold prepareModeStage
  rw [if_pos (by simp [hmode])]
  unfold prepareSystemdStage
  refine under_bind.2 (under_got.2 (goes_look hG.quiet ⟨rfl, rfl⟩ ⟨fun d hd => ?_, fun hd => by cases hd⟩))
  cases hd
  refine under_bind.2 (passes_required (by simpa using hdigest) ?_)
  unfold preflightRemoteSystemdStage
  refine under_bind.2 (passes_check hG.quiet ?_)
  refine under_bind.2 (passes_check hG.quiet ?_)
  refine under_bind.2 (passes_check hG.quiet ?_)
  refine under_bind.2 (under_got.2 (goes_look hG.quiet ⟨rfl, rfl⟩ ⟨fun d hd => ?_, fun hd => by cases hd⟩))
  cases hd
  refine under_bind.2 (passes_required hsmoke ?_)
  refine under_bind.2 (under_attempt.2 (passes_currentRelease hG.quiet (fun r hr => ?_) fun hnone => ?_))
  swap
  · rw [hcur] at hnone
    cases hnone
  obtain rfl : c = r := Option.some.inj (hcur.symm.trans hr)
  refine under_bind.2 (passes_required hcurrent ?_)
  refine under_bind.2 (passes_check hG.quiet ?_)
  refine (decides_checksums hG.quiet).bind (fun _ => ?_) fun hf => by rw [hserves.1] at hf; cases hf
  refine (decides_requiredPaths hG.quiet).bind (fun _ => ?_) fun hf => by rw [hcomplete] at hf; cases hf
  refine (decides_process hG.quiet).tried fun p hp => (decides_answer hG.quiet).tried fun t ht => ?_
  refine (decides_firstError (b := true) (by simp [hp, ht, hserves])).tried fun u hu => ?_
  cases u with
  | error e => cases hu
  | ok u =>
    refine under_pure.2 (under_bind.2 (passes_check hG.quiet (under_pure.2 ?_)))
    refine Prog.under_bind.2 (goes_save hG hvalid ?_)
    cases previous with
    | none => exact Prog.under_pure.2 h
    | some old => exact Prog.under_bind.2 (goes_look hG.quiet ⟨rfl, rfl⟩ (Prog.under_pure.2 h))

/-- the target is free for a job: it has no record, or a terminal one of another job -/
def freeFor (jobID : String) (found : Option ExecutorMutationLedger) : Bool :=
  found.all fun l => l.state == .terminal && l.jobID != jobID

theorem goes_stage {found : Option ExecutorMutationLedger} (hfree : freeFor plan.jobID found = true)
    (h : ∀ previous, goes E a G (stageFresh E plan previous) Q s) :
    goes E a G (dispatch E ⟨.stage, plan⟩ found) Q s := by
  unfold dispatch
  rw [if_pos rfl]
  unfold executorStageRequest
  cases found with
  | none => exact h none
  | some l =>
    simp only [freeFor, Option.all_some, Bool.and_eq_true, beq_iff_eq, bne_iff_ne] at hfree
    simp only [beq_iff_eq, hfree.2, if_false, hfree.1, bne_self_eq_false, Bool.false_eq_true]
    exact h l.stage

/-- what the release behind the current link looks like -/
theorem current_some (h : s.current E = some c) :
    s.link = some c.dir ∧ pathWithin E.target.releaseRoot c.dir = true ∧ mutationPlanHashPattern c.digest = true ∧
      versionPattern c.version = true ∧ ∃ rel, s.releases c.dir = some rel ∧
        c.digest = toLower (trimSpace rel.artifactSHA256) ∧ c.version = trimSpace rel.version := by
  unfold Host.current at h
  simp only [Option.bind_eq_some_iff, Option.ite_none_right_eq_some, Bool.and_eq_true, Option.some.injEq] at h
  obtain ⟨dir, hlink, rel, hrel, ⟨⟨⟨hpath, hlen⟩, hversion⟩, hhex⟩, rfl⟩ := h
  refine ⟨hlink, hpath, ?_, hversion, rel, hrel, rfl, rfl⟩
  rw [mutationPlanHashPattern, hlen, hhex]
  rfl

/-- the texts of a valid plan -/
structure PlanTexts (plan : MutationPlan) : Prop where
  jobID : identifierPattern plan.jobID = true
  targetID : identifierPattern plan.targetID = true
  currentVersion : versionPattern plan.currentVersion = true
  trimmed : trimSpace plan.currentVersion = plan.currentVersion
  configSHA256 : digestPattern plan.configSHA256 = true
  artifactDigest : mutationPlanHashPattern plan.artifactDigest = true
  systemd : plan.deploymentMode = modeSystemd → plan.expectedVersion = plan.targetVersion
  docker : plan.deploymentMode = modeDocker → digestPattern plan.expectedImageDigest = true

theorem planTexts (h : plan.validate sha = true) : PlanTexts plan := by
  simp only [MutationPlan.validate, Bool.and_eq_true, beq_iff_eq] at h
  obtain ⟨⟨⟨⟨⟨⟨⟨⟨⟨⟨⟨⟨⟨⟨hjob, -⟩, htarget⟩, -⟩, -⟩, -⟩, hversion⟩, htrim⟩, hconfig⟩, hconfig'⟩, -⟩, -⟩, -⟩, hrelease⟩, -⟩ := h
  rw [htrim] at hversion
  rw [hconfig'] at hconfig
  unfold MutationPlan.releaseBindingValid at hrelease
  split at hrelease
  · rename_i hmode
    simp only [Bool.and_eq_true, beq_iff_eq] at hrelease hmode
    exact ⟨hjob, htarget, hversion, htrim, hconfig, hrelease.1.1.1, fun _ => hrelease.1.1.2,
      fun hd => by rw [hmode] at hd; exact absurd hd (by decide)⟩
  · rename_i hmode
    simp only [Bool.and_eq_true, beq_iff_eq] at hrelease hmode
    exact ⟨hjob, htarget, hversion, htrim, hconfig, hrelease.1.1.1, fun hs => absurd hs hmode, fun _ => hrelease.1.2⟩

/-- The record that staging opens for a valid systemd plan is valid. -/
theorem stagedLedger_validate (h : plan.validate sha = true) (hmode : plan.deploymentMode = modeSystemd)
    (hdocker : stage.dockerBaseline = none)
    (hdigest : normalizeDigest stage.artifactDigest = normalizeDigest plan.artifactDigest) :
    (stagedLedger plan stage).validate plan.targetID = true := by
  obtain ⟨hhash, hsession, hlease⟩ := plan_binding h
  have ht := planTexts h
  have hartifact : digestPattern (normalizeDigest plan.artifactDigest) = true := by
    rw [normalizeDigest_hash ht.artifactDigest]
    exact digestPattern_hash ht.artifactDigest
  simp only [ExecutorMutationLedger.validate, ExecutorMutationLedger.identityValid, ExecutorMutationLedger.stateValid,
    ExecutorMutationLedger.stageValid, stagedLedger, newRemoteMutationIntent, beq_self_eq_true, ht.jobID, ht.targetID, hhash,
    hsession, hlease, ht.currentVersion, ht.configSHA256, normalizeDigest_digest ht.configSHA256, hartifact,
    Option.all_some, hdigest, hdocker, hmode]
  rfl

theorem stagedFrom_bound (hmode : E.target.deploymentMode = modeSystemd) (hc : s.current E = some c)
    (hcurrent : requirePlannedCurrentVersion plan.currentVersion c.version = true)
    (hdigest : normalizeDigest a.downloaded.sha256 = normalizeDigest plan.artifactDigest) :
    (stagedFrom E a plan c).bound E plan = true := by
  obtain ⟨-, -, hhash, hversion, -⟩ := current_some hc
  have hprevious : digestPattern (normalizeDigest c.digest) = true := by
    rw [normalizeDigest_hash hhash]
    exact digestPattern_hash hhash
  have hpath : E.stagesRoot.isPrefixOf (remoteStageRoot E plan ++ a.downloaded.root) = true := by
    rw [List.isPrefixOf_iff_prefix, remoteStageRoot, List.append_assoc]
    exact List.prefix_append _ _
  have hdocker : (modeSystemd == modeDocker) = false := by decide
  simp [RemoteStage.bound, RemoteStage.fitsSystemd, pathWithin, stagedFrom, hpath, hdigest, hmode, hdocker, hprevious,
    hversion, hcurrent]

/-- the artifact of a valid plan has a digest -/
theorem resultArtifactDigest_ne (h : plan.validate sha = true) : normalizeDigest (resultArtifactDigest plan) ≠ "" := by
  have ht := planTexts h
  have hne : ∀ d, digestPattern d = true → d ≠ "" := by
    rintro d hd rfl
    revert hd
    decide
  unfold resultArtifactDigest
  split
  · rename_i hmode
    have hd := ht.docker (by simpa using hmode)
    rw [normalizeDigest_normalizeDigest, normalizeDigest_digest hd]
    exact hne _ hd
  · rw [normalizeDigest_normalizeDigest, normalizeDigest_hash ht.artifactDigest]
    exact hne _ (digestPattern_hash ht.artifactDigest)

/-- A result that names no artifact is bound to the plan's. -/
theorem bindRemoteApplyResult_unnamed {x : ApplyResult} (h : plan.validate sha = true) (hx : x.artifactDigest = "") :
    bindRemoteApplyResult plan x =
      some (sanitizeRemoteApplyResult { x with artifactDigest := normalizeDigest (resultArtifactDigest plan) }) := by
  unfold bindRemoteApplyResult
  simp [resultArtifactDigest_ne h, hx]

/-- the result of a job that was staged and never applied -/
def abandonedResult (plan : MutationPlan) : ApplyResult :=
  sanitizeRemoteApplyResult { status := .rolledBack, artifactDigest := normalizeDigest (resultArtifactDigest plan)
                              rolledBack := true, message := "staged release was not applied" }

include hG in
/-- A staged record is closed by a reconcile without a grant. -/
theorem goes_abandon (hplan : plan.validate sha = true) (hvalid : l.validate t = true)
    (hreq : remoteLedgerRequestFailure l plan .reconcile = none) (hstate : l.state = .staged)
    (hstage : l.stage = some stage) (hbound : stage.bound E plan = true)
    (h : Q (resultOutcome plan (abandonedResult plan))
      (s.setLedger E.target (l.rebound plan .reconcile .terminal (some (abandonedResult plan))))) :
    goes E a G (dispatch E ⟨.reconcile, plan⟩ (some l)) Q s := by
  rw [dispatch_mutates hreq (by simp [hstate]) hstage]
  unfold mutateLedger
  refine Prog.under_bind.2 (under_run.2 ?_)
  refine (decides_validateExecutorStage hG).last (fun _ => ?_) fun hf => by rw [hbound] at hf; cases hf
  simp only [hstate, reduceCtorEq, false_and, if_false, and_self, if_true]
  unfold abandonStaged
  rw [bindRemoteApplyResult_unnamed hplan rfl]
  refine Prog.under_bind.2 (goes_save hG (rebound_validate hvalid hplan ?_) (Prog.under_pure.2 h))
  simp only [ExecutorMutationLedger.stateValid, rebound_state, rebound_result, rebound_stage, hstage]
  rfl

end Requests

/-! ## Steps that are reached -/

/-- the request makes a step in `X` under favourable answers -/
abbrev meets (E : SoftwareEnv) (a : Answers) (X : Step Host HostRes → Prop) (p : SoftwareProg α) (s : Host) : Prop :=
  p.reaches (hostNext E) (Favourable a) X s

section Reached

variable {X : Step Host HostRes → Prop} {l : ExecutorMutationLedger} {plan : MutationPlan} {operation : Operation}
  {stage : RemoteStage} {r : SoftwareRequest}

theorem meets_handle (hfits : r.fits E = true) (hvalid : s.ledger.all (·.validate E.target.targetID) = true)
    (h : meets E a X (dispatch E r s.ledger) s) : meets E a X (handle E r) s := by
  unfold handle
  rw [hfits]
  simp only [Bool.not_true, Bool.false_eq_true, if_false]
  refine Prog.reaches_right (goes_issue (G := fun _ => True) trivial ?_)
  refine Prog.reaches_right (p := loadExecutorMutationLedger E) (I := fun _ => True) (G := fun _ => True) ?_
  unfold loadExecutorMutationLedger
  refine Prog.under_bind.2 (goes_issue (G := fun _ => True) trivial ?_)
  have hs : (hostNext E s .acceptRequest (a.to s .acceptRequest)).2 = s := rfl
  rw [hs]
  cases hl : s.ledger with
  | none =>
    rw [hl] at h
    simp only [hostNext, Answers.to, if_true, hl]
    exact Prog.under_pure.2 h
  | some l =>
    rw [hl, Option.all_some] at hvalid
    rw [hl] at h
    simp only [hostNext, Answers.to, if_true, hl, hvalid]
    exact Prog.under_pure.2 h

theorem meets_mutate (hreq : remoteLedgerRequestFailure l plan operation = none) (hopen : l.state ≠ .terminal)
    (hstage : l.stage = some stage) (hbound : stage.bound E plan = true) (hturn : operation = .apply ↔ l.state = .staged)
    (h : reaches (hostNext E) (Favourable a) X (mutation E plan operation l stage) s) :
    meets E a X (dispatch E ⟨operation, plan⟩ (some l)) s := by
  have hG : Lenient E fun _ => True := fun _ _ _ _ => trivial
  rw [dispatch_mutates hreq hopen hstage]
  unfold mutateLedger
  refine Prog.reaches_right (I := fun _ => True) (G := fun _ => True) (under_run.2 ?_)
  refine (decides_validateExecutorStage hG).last (fun _ => ?_) fun hf => by rw [hbound] at hf; cases hf
  obtain ⟨happly, hreconcile⟩ := turn_taken hturn
  simp only [happly, hreconcile, if_false]
  unfold runMutation
  exact Prog.reaches_left (reaches_run h)

/-- An apply whose preflight passes opens its gate. -/
theorem meets_applyStaged {t : String} (hmode : E.target.deploymentMode = modeSystemd) (hvalid : l.validate t = true)
    (hplan : plan.validate sha = true) (hstage : l.stage = some stage)
    (hpreflight : passes E a (fun _ => True) (systemdPreflight E (applyPlan plan stage) stage) (fun _ _ => False)
      (fun _ u => u = s) s)
    (hX : ∀ u, X (stepOf (hostNext E) u (.writeLedger (l.rebound plan .apply .mutating none)) .ok)) :
    reaches (hostNext E) (Favourable a) X (applyStaged E plan l stage) s := by
  have hG : Lenient E fun _ => True := fun _ _ _ _ => trivial
  have hok : ∀ state, state ≠ .staged → state ≠ .terminal → (l.rebound plan .apply state none).validate l.targetID = true :=
    fun state h h' => gate_validate hvalid hplan hstage h h'
  unfold applyStaged
  rw [if_pos (by simp [hmode])]
  refine reaches_right (under_atGate (under_mono hpreflight (fun _ _ h => h) ?_))
  rintro checkpoint u rfl
  refine reaches_left ?_
  unfold gate
  refine reaches_right (passes_check hG.quiet ?_)
  refine reaches_right (passes_save hG (hok _ (by simp) (by simp)) ?_)
  refine reaches_right (under_orFail.2 (goes_issue (G := fun _ => True) trivial ⟨fun _ => ?_, fun hf => by cases hf⟩))
  refine reaches_right (passes_save hG (hok _ (by simp) (by simp)) ?_)
  unfold orFail
  refine reaches_left (reaches_total ?_)
  unfold saveExecutorMutationLedger
  refine Prog.reaches_right (goes_look hG.quiet ⟨rfl, rfl⟩ ?_)
  simp only [hostNext, Answers.to, beq_self_eq_true, Bool.not_true, Bool.false_eq_true, if_false]
  rw [rebound_targetID, hok .mutating (by simp) (by simp), if_neg (by simp)]
  refine Prog.reaches_op fun c hc => ?_
  rw [hc]
  exact hX _

end Reached

/-! ## Favourable runs -/

/-- the requests in turn, each under favourable answers -/
def favourableRun (E : SoftwareEnv) (a : Answers) (s : Host) : List SoftwareRequest → List (SoftwareRequest × List Choice)
  | [] => []
  | r :: rest =>
    let cs := (handle E r).script (hostNext E) (fun _ => a.to) [] s
    (r, cs) :: favourableRun E a ((handle E r).exec (hostNext E) s cs).st rest

theorem choose_favourable (tr : List (Step Host HostRes)) (s : Host) (o : HostOp) :
    Favourable a s o ((fun _ => a.to) tr s o) := rfl

/-- A request that ends in `t` hands `t` to the next one. -/
theorem hostAfter_favourableRun {r : SoftwareRequest} {rest : List SoftwareRequest} {t : Host}
    (h : goes E a G (handle E r) (fun _ s' => s' = t) s) :
    hostAfter E s (favourableRun E a s (r :: rest)) = hostAfter E t (favourableRun E a t rest) := by
  obtain ⟨-, out, -, hst⟩ := Prog.under_script h choose_favourable []
  simp only [favourableRun, hostAfter, final, settle_id]
  rw [hst]

/-- What the last request ends with. -/
theorem hostAfter_favourable {r : SoftwareRequest} {P : Host → Prop}
    (h : goes E a G (handle E r) (fun _ t => P t) s) : P (hostAfter E s (favourableRun E a s [r])) := by
  obtain ⟨-, out, -, hst⟩ := Prog.under_script h choose_favourable []
  simp only [favourableRun, hostAfter, final, settle_id]
  exact hst

/-- A request hands a host in `P` to the next one, and makes the steps it meets. -/
theorem served_favourableRun {r : SoftwareRequest} {P : Host → Prop}
    (h : goes E a G (handle E r) (fun _ t => P t) s) (rest : List SoftwareRequest) :
    ∃ e t, served E s (favourableRun E a s (r :: rest)) = e :: served E t (favourableRun E a t rest) ∧ P t ∧
      ∀ X, meets E a X (handle E r) s → ∃ x ∈ e.run.steps, X x := by
  obtain ⟨-, out, -, hst⟩ := Prog.under_script h choose_favourable []
  refine ⟨⟨r, s, _⟩, _, ?_, hst, fun X hX => Prog.reaches_script hX choose_favourable []⟩
  simp only [favourableRun, served, serve, settle_id]

/-! ## A small target -/

/-- a digest of one letter -/
def digestOf (c : Char) : String := String.ofList (List.replicate 64 c)

theorem digestOf_hash {c : Char} (h : isHex c = true) : mutationPlanHashPattern (digestOf c) = true := by
  simp [digestOf, mutationPlanHashPattern, h]

/-- the plan hashes of the sample, one for each job and lease generation it uses -/
def sampleHash (jobID : String) (leaseGeneration : ℕ) : String :=
  String.ofList ((if leaseGeneration == 1 then '1' else '2') :: List.replicate 63 (if jobID == "job-1" then 'a' else 'b'))

variable {jobID : String}

theorem sampleHash_hash {n : ℕ} : mutationPlanHashPattern (sampleHash jobID n) = true := by
  by_cases hn : n = 1 <;> by_cases hjob : jobID = "job-1" <;> simp [sampleHash, mutationPlanHashPattern, hn, hjob] <;> decide

/-- a systemd worker -/
def sampleEnv : SoftwareEnv where
  target := { targetID := "svc-1", serviceType := "worker", deploymentMode := modeSystemd, releaseRoot := ["releases"] }
  stagesRoot := ["stages"]
  stableKey jobID _ := jobID
  payloadSHA256 _ p := sampleHash p.jobID p.leaseGeneration
  sha256 _ := "sha256:" ++ digestOf '0'
  decodeStrings t := some [t]

/-- an update from `v1.0.0` to `v1.1.0` -/
def samplePlan (jobID : String) (leaseGeneration : ℕ) : MutationPlan where
  jobID := jobID
  hostID := "host-1"
  targetID := "svc-1"
  serviceType := "worker"
  deploymentMode := modeSystemd
  currentVersion := "v1.0.0"
  configSHA256 := "sha256:" ++ digestOf '0'
  targetVersion := "v1.1.0"
  leaseGeneration := leaseGeneration
  artifactDigest := digestOf 'd'
  expectedVersion := "v1.1.0"
  sessionID := "session-000000001"
  planSHA256 := sampleHash jobID leaseGeneration

/-- the release the sample starts from -/
def oldRelease : CurrentRelease := ⟨["releases", "v1.0.0-cccccccccccc"], digestOf 'c', "v1.0.0"⟩

/-- a healthy worker of version `v1.0.0` that nothing was staged for yet -/
def sampleHost : Host where
  link := some oldRelease.dir
  releases p := if p = oldRelease.dir then some ⟨oldRelease.digest, oldRelease.version, true, true⟩ else none
  running := some oldRelease.dir
  answer := some oldRelease.version

/-- the download is the planned artifact, its binary reports the planned version -/
def sampleAnswers : Answers where
  downloaded := ⟨digestOf 'd', []⟩
  resolved := ⟨"", "", "", ""⟩
  smoke := "worker v1.1.0"
  container := ""
  reports _ := none

/-- an update of the sample to another version -/
def samplePlanTo (version : String) (jobID : String) (leaseGeneration : ℕ) : MutationPlan :=
  { samplePlan jobID leaseGeneration with targetVersion := version, expectedVersion := version }

theorem samplePlanTo_validate {version jobID : String} {n : ℕ} (hv : version = "v1.0.0" ∨ version = "v1.1.0")
    (hjob : jobID = "job-1" ∨ jobID = "job-2") (hn : n ≠ 0) :
    (samplePlanTo version jobID n).validate sampleEnv.payloadSHA256 = true := by
  have hconfig : digestPattern ("sha256:" ++ digestOf '0') = true := digestPattern_hash (digestOf_hash (by decide))
  have hsettled : trimSpace (toLower ("sha256:" ++ digestOf '0')) = "sha256:" ++ digestOf '0' := settled_digest hconfig
  have hartifact := digestOf_hash (c := 'd') (by decide)
  have hident : identifierPattern jobID = true ∧ trimSpace jobID = jobID := by
    rcases hjob with rfl | rfl
    · decide
    · decide
  have hversion : versionPattern version = true ∧ trimSpace version = version := by
    rcases hv with rfl | rfl
    · decide
    · decide
  have hcurrent : versionPattern "v1.0.0" = true ∧ trimSpace "v1.0.0" = "v1.0.0" := by decide
  have htexts : identifierPattern "host-1" = true ∧ identifierPattern "svc-1" = true ∧ trimSpace "host-1" = "host-1" ∧
      trimSpace "svc-1" = "svc-1" ∧ validManagedServiceType "worker" = true ∧
      mutationSessionPattern "session-000000001" = true := by decide
  simp [MutationPlan.validate, MutationPlan.releaseBindingValid, MutationPlan.computePlanSHA256,
    MutationPlan.identityComplete, MutationPlan.payload, samplePlanTo, samplePlan, sampleEnv, sampleHash_hash, hident, htexts,
    hversion, hcurrent, hsettled, hconfig, hartifact, hn]

theorem samplePlan_validate {n : ℕ} (hjob : jobID = "job-1" ∨ jobID = "job-2") (hn : n ≠ 0) :
    (samplePlan jobID n).validate sampleEnv.payloadSHA256 = true :=
  samplePlanTo_validate (.inr (rfl : "v1.1.0" = "v1.1.0")) hjob hn

theorem sample_requires : requirePlannedCurrentVersion "v1.0.0" "v1.0.0" = true := by decide

theorem sample_smoke : versionMatches sampleAnswers.smoke "v1.1.0" = true := by decide

theorem sample_fits {n : ℕ} {operation : Operation} (hjob : jobID = "job-1" ∨ jobID = "job-2") (hn : n ≠ 0) :
    (⟨operation, samplePlan jobID n⟩ : SoftwareRequest).fits sampleEnv = true := by
  simp [SoftwareRequest.fits, samplePlan_validate hjob hn]
  simp [samplePlan, sampleEnv]

/-- a target that links and runs the sample's release -/
theorem oldRelease_healthy {u : Host} (hlink : u.link = some oldRelease.dir) (hrunning : u.running = some oldRelease.dir)
    (hanswer : u.answer = some "v1.0.0")
    (hrel : u.releases oldRelease.dir = some ⟨oldRelease.digest, oldRelease.version, true, true⟩) :
    u.healthy sampleEnv = some oldRelease := by
  have hhash := digestOf_hash (c := 'c') (by decide)
  have hsettled : toLower (trimSpace (digestOf 'c')) = digestOf 'c' := by
    have hchars : (digestOf 'c').toList = List.replicate 64 'c' := by simp [digestOf]
    have htrim : trimSpace (digestOf 'c') = digestOf 'c' := by
      rw [trimSpace_eq, trimChars_of_trimmed, String.ofList_toList]
      rw [hchars]
      exact ⟨by simp [isSpace], by simp [isSpace]⟩
    rw [htrim, toLower, hchars, List.map_replicate]
    rfl
  have hversion : versionPattern "v1.0.0" = true ∧ trimSpace "v1.0.0" = "v1.0.0" := by decide
  simp only [mutationPlanHashPattern, Bool.and_eq_true] at hhash
  have hserves : u.serves oldRelease.dir oldRelease.version = true := by
    rw [Host.serves, hrel, hrunning, hanswer]
    decide
  simp only [Host.healthy, Host.current, hlink, Option.bind_some, hrel]
  have hcurrent : (digestOf 'c').toList.length = 64 ∧ ∀ x ∈ (digestOf 'c').toList, isHex x = true :=
    ⟨by simpa using hhash.1, by simpa using hhash.2⟩
  simpa [sampleEnv, oldRelease, pathWithin, hsettled, hversion] using And.intro hcurrent hserves

theorem sampleHost_healthy : sampleHost.healthy sampleEnv = some oldRelease :=
  oldRelease_healthy rfl rfl rfl (by simp [sampleHost])

/-- what is staged for a sample job -/
abbrev sampleStage (jobID : String) : RemoteStage := stagedFrom sampleEnv sampleAnswers (samplePlan jobID 1) oldRelease

/-- the record of the staged sample job -/
abbrev sampleStaged (jobID : String) : ExecutorMutationLedger := stagedLedger (samplePlan jobID 1) (sampleStage jobID)

theorem sampleStaged_validate (hjob : jobID = "job-1" ∨ jobID = "job-2") :
    (sampleStaged jobID).validate "svc-1" = true :=
  stagedLedger_validate (samplePlan_validate hjob (by simp)) rfl rfl rfl

theorem sampleStaged_bound {n : ℕ} : (sampleStage jobID).bound sampleEnv (samplePlan jobID n) = true :=
  stagedFrom_bound rfl (Option.filter_eq_some_iff.1 sampleHost_healthy).1 sample_requires rfl

/-- The healthy sample target takes the record of a job it is free for. -/
theorem sample_staged (hjob : jobID = "job-1" ∨ jobID = "job-2") (hhealthy : s.healthy sampleEnv = some oldRelease)
    (hcomplete : (s.releases oldRelease.dir).any Release.complete = true)
    (hvalid : s.ledger.all (·.validate "svc-1") = true) (hfree : freeFor jobID s.ledger = true) :
    goes sampleEnv sampleAnswers (fun _ => True) (handle sampleEnv ⟨.stage, samplePlan jobID 1⟩)
      (fun _ t => t = s.setLedger sampleEnv.target (sampleStaged jobID)) s := by
  have hplanned : trimSpace "v1.0.0" ≠ "" := by decide
  refine goes_handle (fun _ _ _ _ => trivial) (sample_fits hjob (by simp)) hvalid ?_
  refine goes_stage hfree fun previous => ?_
  exact goes_stageFresh (fun _ _ _ _ => trivial) rfl hhealthy hcomplete hplanned sample_requires rfl sample_smoke
    (sampleStaged_validate hjob) rfl

/-- A staged sample job is closed by a reconcile of its own. -/
theorem sample_abandoned {n : ℕ} (hjob : jobID = "job-1" ∨ jobID = "job-2") (hn : n ≠ 0)
    (hl : s.ledger = some (sampleStaged jobID)) :
    goes sampleEnv sampleAnswers (fun _ => True) (handle sampleEnv ⟨.reconcile, samplePlan jobID n⟩)
      (fun _ t => t = s.setLedger sampleEnv.target ((sampleStaged jobID).rebound (samplePlan jobID n) .reconcile .terminal
        (some (abandonedResult (samplePlan jobID n))))) s := by
  have hvalid := sampleStaged_validate hjob
  have hreq : remoteLedgerRequestFailure (sampleStaged jobID) (samplePlan jobID n) .reconcile = none := by
    have hintent : newRemoteMutationIntent (samplePlan jobID 1) = newRemoteMutationIntent (samplePlan jobID n) := rfl
    have hlease : (samplePlan jobID 1).leaseGeneration = 1 ∧ (samplePlan jobID n).leaseGeneration = n := ⟨rfl, rfl⟩
    have hid : (samplePlan jobID 1).jobID = jobID ∧ (samplePlan jobID n).jobID = jobID := ⟨rfl, rfl⟩
    simp [remoteLedgerRequestFailure, sampleStaged, stagedLedger, RemoteMutationIntent.matches, hintent, hlease, hid, hn]
  refine goes_handle (fun _ _ _ _ => trivial) (sample_fits hjob hn) (by rw [hl, Option.all_some]; exact hvalid) ?_
  rw [hl]
  exact goes_abandon (fun _ _ _ _ => trivial) (samplePlan_validate hjob hn) hvalid hreq rfl rfl sampleStaged_bound rfl

end AutostreamUpdater.Software
