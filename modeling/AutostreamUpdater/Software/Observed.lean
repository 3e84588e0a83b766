/-
What an inspection that passed has seen, whatever the answers were.

`finds E s p Q` is about a program that only looks at the host: run on `s` it leaves `s` alone, and a value it returns is
in `Q`. The lemmas say this of each inspection of a systemd target. The second part follows an apply or a reconcile up to
its mutation.
-/
import AutostreamUpdater.Software.Mutation

namespace AutostreamUpdater.Software

open Contract Base Fallible

variable {E : SoftwareEnv} {s : Host} {ε α β : Type}

/-- an inspection of `s`: it changes nothing, and what it returns is in `Q` -/
def finds (E : SoftwareEnv) (s : Host) (p : Fallible HostOp HostRes ε α) (Q : α → Prop) : Prop :=
  ∀ (I : Host → Prop) (G : Step Host HostRes → Prop), I s → (∀ o c, o.inspects → G (stepOf (hostNext E) s o c)) →
    under (hostNext E) (fun _ _ _ => True) I G p (fun _ t => t = s) (fun x t => t = s ∧ Q x) s

/-! ## Rules -/

section Rules

variable {Q Q' : α → Prop} {R : β → Prop}

theorem finds_pure {x : α} (h : Q x) : finds E s (pure x : Fallible HostOp HostRes ε α) Q :=
  fun _ _ _ _ => under_pure.2 ⟨rfl, h⟩

theorem finds_throw {e : ε} : finds E s (throw e : Fallible HostOp HostRes ε α) Q := fun _ _ _ _ => under_throw.2 rfl

theorem finds_bind {p : Fallible HostOp HostRes ε α} {f : α → Fallible HostOp HostRes ε β} (hp : finds E s p Q)
    (hf : ∀ x, Q x → finds E s (f x) R) : finds E s (p >>= f) R := by
  intro I G hI hG
  refine under_seq (hp I G hI hG) ?_
  rintro x t ⟨rfl, hx⟩
  exact hf x hx I G hI hG

theorem finds_mono {p : Fallible HostOp HostRes ε α} (h : finds E s p Q) (hQ : ∀ x, Q x → Q' x) : finds E s p Q' :=
  fun I G hI hG => under_mono (h I G hI hG) (fun _ _ h => h) fun x _ h => ⟨h.1, hQ x h.2⟩

theorem finds_require {c : Bool} {e : ε} : finds E s (require c e) fun _ => c = true :=
  fun _ _ _ _ => under_require.2 ⟨fun h => ⟨rfl, h⟩, fun _ => rfl⟩

/-- an inspection, inside a program that keeps `I` -/
theorem finds_keeps {I : Host → Prop} {p : Fallible HostOp HostRes ε α} (h : finds E s p Q) (hI : I s) :
    under (hostNext E) (fun _ _ _ => True) I (fun _ => True) p (fun _ => I) (fun x t => t = s ∧ Q x) s := by
  refine under_mono (h I (fun _ => True) hI fun _ _ _ => trivial) ?_ fun _ _ h => h
  rintro e t rfl
  exact hI

/-- one look at the host -/
theorem finds_look {o : HostOp} (ho : o.inspects) :
    finds E s (total (issue o) : Fallible HostOp HostRes ε (HostRes o)) fun x => ∃ c, x = (hostNext E s o c).1 := by
  intro I G hI hG
  refine under_total.2 (Prog.under_op.2 ⟨hI, fun c _ => ⟨hG o c ho, ?_, c, rfl⟩⟩)
  exact hostNext_reads (inspects_reads ho)

theorem finds_orFail {e : ε} {p : SoftwareProg Bool} {T : Bool → Prop}
    (h : finds E s (total p : Fallible HostOp HostRes ε Bool) T) : finds E s (orFail e p) fun _ => T true := by
  unfold orFail
  refine finds_bind h fun ok hok => finds_mono finds_require fun _ htrue => ?_
  rwa [htrue] at hok

theorem finds_got {e : ε} {p : SoftwareProg (Option α)} {T : Option α → Prop}
    (h : finds E s (total p : Fallible HostOp HostRes ε (Option α)) T) : finds E s (got e p) fun x => T (some x) := by
  unfold got
  refine finds_bind h fun found hfound => ?_
  cases found with
  | none => exact finds_throw
  | some x => exact finds_pure hfound

theorem finds_attempt {p : Soft α} (h : finds E s p Q) : finds E s (attempt p) fun r => ∀ x, r = .ok x → Q x := by
  intro I G hI hG
  refine under_attempt.2 (under_mono (h I G hI hG) ?_ ?_)
  · rintro e t rfl
    exact ⟨rfl, fun x hx => by cases hx⟩
  · rintro x t ⟨rfl, hx⟩
    exact ⟨rfl, fun y hy => by cases hy; exact hx⟩

theorem finds_firstError {rs : List (Except String Unit)} : finds E s (firstError rs) fun _ => ∀ r ∈ rs, r = .ok () := by
  intro I G _ _
  refine under_firstError (fun h => ⟨rfl, fun r hr => ?_⟩) fun e _ => rfl
  have hr := h r hr
  cases r with
  | ok u => rfl
  | error e => cases hr

theorem Inspects.finds {p : Soft α} (h : Inspects p) : finds E s p fun _ => True := by
  intro I G hI hG
  have hstay : under (hostNext E) (fun _ _ _ => True) (fun t => t = s) G p (fun _ t => t = s) (fun _ t => t = s) s := by
    refine issues_under h ?_ rfl
    rintro t o c ho rfl -
    exact ⟨hG o c ho, hostNext_reads (inspects_reads ho)⟩
  refine under_weaken (under_mono hstay (fun _ _ h => h) fun _ _ h => ⟨h, trivial⟩) ?_ fun _ h => h
  rintro t rfl
  exact hI

end Rules

/-! ## systemd -/

theorem finds_loadCheckpoint :
    finds E s (loadCheckpoint E) fun x => x = s.checkpoint ∧ s.checkpoint.all (·.loadable E.target) = true := by
  unfold loadCheckpoint
  refine finds_bind (finds_look ⟨rfl, rfl⟩) ?_
  rintro x ⟨c, rfl⟩
  by_cases hc : c = .ok
  · subst hc
    simp only [hostNext, if_true]
    cases hs : s.checkpoint with
    | none => exact finds_pure ⟨rfl, rfl⟩
    | some k => exact finds_bind finds_require fun _ hk => finds_pure ⟨rfl, hk⟩
  · simp only [hostNext, hc, if_false]
    exact finds_throw

theorem finds_requireCheckpoint {expected : Option UpdateCheckpoint} {e : String} :
    finds E s (requireCheckpoint E expected e) fun _ => s.checkpoint = expected := by
  unfold requireCheckpoint
  refine finds_bind (finds_attempt finds_loadCheckpoint) fun r hr => ?_
  cases r with
  | error e => exact finds_throw
  | ok found =>
    refine finds_mono finds_require fun _ h => ?_
    rw [← (hr found rfl).1]
    exact eq_of_beq h

theorem finds_currentRelease : finds E s (currentRelease E) fun x => ∀ r, x = some r → s.current E = some r := by
  unfold currentRelease
  refine finds_bind (finds_look ⟨rfl, rfl⟩) ?_
  rintro x ⟨c, rfl⟩
  by_cases hc : c = .ok
  · subst hc
    cases hlink : s.link with
    | none =>
      simp only [hostNext, if_true, hlink]
      exact finds_pure fun r hr => by cases hr
    | some dir =>
      cases hrel : s.releases dir with
      | none =>
        simp only [hostNext, if_true, hlink, hrel, Option.isSome_none, Bool.false_eq_true, if_false]
        exact finds_throw
      | some rel =>
        simp only [hostNext, if_true, hlink, hrel, Option.isSome_some]
        refine finds_bind finds_require fun _ hpath => finds_bind (finds_got (finds_look ⟨rfl, rfl⟩)) ?_
        rintro markers ⟨c, hm⟩
        have hmarkers : markers = (rel.artifactSHA256, rel.version) := by
          by_cases hc : c = .ok
          · simpa [hostNext, hc, hrel] using hm
          · simp [hostNext, hc] at hm
        subst hmarkers
        refine finds_bind finds_require fun _ hmark => finds_bind finds_require fun _ hhex => finds_pure fun r hr => ?_
        cases hr
        simp only [Bool.and_eq_true] at hmark
        simp only [Host.current, hlink, Option.bind_some, hrel, hpath, hmark.1, hmark.2, hhex, Bool.and_self, if_true]
  · simp only [hostNext, hc, if_false]
    exact finds_throw

theorem finds_checksums {e : String} {dir : Path} :
    finds E s (orFail e (issue (.verifyChecksums dir))) fun _ => (s.releases dir).any Release.intact = true := by
  refine finds_mono (finds_orFail (finds_look ⟨rfl, rfl⟩)) ?_
  rintro _ ⟨c, hc⟩
  simp only [hostNext, Eq.comm (a := true), Bool.and_eq_true] at hc
  exact hc.2

/-- what the baseline of an apply has seen: the release recorded at staging, intact -/
structure Host.BaselineSeen (E : SoftwareEnv) (stage : RemoteStage) (s : Host) (r : CurrentRelease) : Prop where
  expected : versionPattern stage.expectedVersion = true
  current : s.current E = some r
  previous : isStagedPrevious stage r = true
  intact : (s.releases r.dir).any Release.intact = true

variable {stage : RemoteStage}

theorem finds_baseline : finds E s (verifyRemoteSystemdBaseline E stage) fun _ => ∃ r, s.BaselineSeen E stage r := by
  unfold verifyRemoteSystemdBaseline verifyRemoteSystemdStagedArtifact
  refine finds_bind (Q := fun _ => versionPattern stage.expectedVersion = true) ?_ fun _ hexpected => ?_
  · refine finds_bind finds_require fun _ hexpected => finds_bind (finds_orFail (finds_look ⟨rfl, rfl⟩)) fun _ _ => ?_
    exact finds_bind (finds_got (finds_look ⟨rfl, rfl⟩)) fun _ _ => finds_mono finds_require fun _ _ => hexpected
  refine finds_bind finds_currentRelease fun found hfound => ?_
  cases found with
  | none => exact finds_throw
  | some r =>
    refine finds_bind finds_require fun _ hprevious => finds_bind (finds_attempt finds_checksums) fun c hc => ?_
    refine finds_bind (finds_attempt verifySystemdProcess_inspects.finds) fun p _ => ?_
    refine finds_bind (finds_attempt verifyRemoteHealthyVersionExact_inspects.finds) fun v _ => ?_
    exact finds_mono finds_firstError fun _ h => ⟨r, hexpected, hfound r rfl, hprevious, hc () (h c (by simp))⟩

theorem finds_requireBaseline {e : String} :
    finds E s (requireBaseline E stage e) fun _ => ∃ r, s.BaselineSeen E stage r := by
  unfold requireBaseline
  refine finds_bind (finds_attempt finds_baseline) fun r hr => ?_
  cases r with
  | error e => exact finds_throw
  | ok u => exact finds_pure (hr u rfl)

/-- what `validateExecutorStage` lets through -/
theorem finds_validateExecutorStage {plan : MutationPlan} :
    finds E s (validateExecutorStage E plan stage) fun _ => stage.bound E plan = true := by
  have honly : ∀ {b c : Bool} {e : String}, finds E s (onlyIf b (require c e)) fun _ => (!b || c) = true := by
    intro b c e
    cases b with
    | true => exact finds_mono finds_require fun _ h => by simp [h]
    | false => exact finds_pure rfl
  unfold validateExecutorStage
  refine finds_bind finds_require fun _ hpath => finds_bind (finds_orFail (finds_look ⟨rfl, rfl⟩)) fun _ _ => ?_
  refine finds_bind honly fun _ hdocker => finds_mono honly fun _ hsystemd => ?_
  simp only [RemoteStage.bound, hpath, hdocker, hsystemd, Bool.and_self]

/-! ## Bound stages -/

theorem bound_congr {plan plan' : MutationPlan} (h : newRemoteMutationIntent plan' = newRemoteMutationIntent plan) :
    stage.bound E plan' = stage.bound E plan := by
  simp only [newRemoteMutationIntent, RemoteMutationIntent.mk.injEq] at h
  obtain ⟨-, -, -, -, hcurrent, -, -, hartifact, hexpected, himage, hplatform⟩ := h
  simp only [RemoteStage.bound, RemoteStage.fitsDocker, RemoteStage.fitsSystemd, hcurrent, hartifact, hexpected, himage,
    hplatform]

/-- the artifact of a bound stage, without its algorithm, is the plan's -/
theorem bound_artifact {plan : MutationPlan} {sha : ℤ → MutationPlan → String} (hplan : plan.validate sha = true)
    (hbound : stage.bound E plan = true) : (applyPlan plan stage).artifactDigest = plan.artifactDigest := by
  simp only [RemoteStage.bound, Bool.and_eq_true, beq_iff_eq] at hbound
  have hhash := (planTexts hplan).artifactDigest
  calc bareDigest stage.artifactDigest = bareDigest plan.artifactDigest := by simp only [bareDigest, hbound.1.2]
    _ = plan.artifactDigest := bareDigest_hash hhash

/-! ## Up to the mutation -/

section Mutations

variable {I : Host → Prop} {G : Step Host HostRes → Prop} {operation : Operation} {plan : MutationPlan}

/-- what a mutation may rely on when it begins -/
structure Admitted (E : SoftwareEnv) (plan : MutationPlan) (operation : Operation) (l : ExecutorMutationLedger)
    (stage : RemoteStage) : Prop where
  fits : (⟨operation, plan⟩ : SoftwareRequest).fits E = true
  valid : l.validate E.target.targetID = true
  request : remoteLedgerRequestFailure l plan operation = none
  open_ : l.state ≠ .terminal
  staged : operation = .apply → l.state = .staged
  hasStage : l.stage = some stage
  bound : stage.bound E plan = true

variable (hspare : ∀ t o c, o.changesTarget = false → I t → G (stepOf (hostNext E) t o c) ∧ I (hostNext E t o c).2)

include hspare in
theorem spares_under {p : SoftwareProg α} (h : p.issues HostOp.spares) (hI : I s) :
    p.under (hostNext E) (fun _ _ _ => True) I G (fun _ => I) s := by
  refine Prog.under_mono (Prog.only_under (Prog.issues_iff.1 h) (fun t o c ho hI _ => ?_) hI) fun _ _ h => h.1
  exact hspare t o c (by simpa using ho) hI

variable {l : ExecutorMutationLedger}

theorem recordResult_spares {x : ApplyResult} : (recordResult plan operation l x).issues HostOp.spares := by
  unfold recordResult
  split
  · exact markAmbiguous_spares
  · refine Prog.issues_ite markAmbiguous_spares (Prog.issues_seq save_spares fun _ => ?_)
    exact Prog.issues_ite Prog.issues_pure Prog.issues_pure

theorem abandonStaged_spares : (abandonStaged plan l).issues HostOp.spares := by
  unfold abandonStaged
  split
  · exact Prog.issues_pure
  · exact Prog.issues_seq save_spares fun _ => Prog.issues_ite Prog.issues_pure Prog.issues_pure

theorem cleanOrphan_spares {code : FailureCode} : (cleanOrphan code).issues HostOp.spares :=
  Prog.issues_seq check_spares fun _ => Prog.issues_ite Prog.issues_pure Prog.issues_pure

include hspare in
theorem runMutation_under
    (h : under (hostNext E) (fun _ _ _ => True) I G (mutation E plan operation l stage) (fun _ => I) (fun _ => I) s) :
    (runMutation E plan operation l stage).under (hostNext E) (fun _ _ _ => True) I G (fun _ => I) s := by
  unfold runMutation
  refine Prog.under_bind.2 (under_run.2 (under_mono h ?_ ?_))
  · intro e t ht
    exact Prog.under_ite (fun _ => spares_under hspare markAmbiguous_spares ht) fun _ => Prog.under_pure.2 ht
  · intro x t ht
    exact spares_under hspare recordResult_spares ht

include hspare in
theorem mutateLedger_under (hI : I s)
    (h : stage.bound E plan = true → (operation = .apply → l.state = .staged) →
      (runMutation E plan operation l stage).under (hostNext E) (fun _ _ _ => True) I G (fun _ => I) s) :
    (mutateLedger E plan operation l stage).under (hostNext E) (fun _ _ _ => True) I G (fun _ => I) s := by
  unfold mutateLedger
  have hvalidate : finds E s (validateExecutorStage E plan stage) fun _ => stage.bound E plan = true :=
    finds_validateExecutorStage
  refine Prog.under_bind.2 (under_run.2 (under_mono (hvalidate I G hI fun o c ho => (hspare s o c ho.2 hI).1) ?_ ?_))
  · rintro e t rfl
    exact Prog.under_pure.2 hI
  · rintro _ t ⟨rfl, hbound⟩
    refine Prog.under_ite (fun _ => Prog.under_pure.2 hI) fun hstaged => Prog.under_ite (fun _ => ?_) fun _ => ?_
    · exact spares_under hspare abandonStaged_spares hI
    · exact h hbound fun hop => not_not.1 fun hs => hstaged ⟨hop, hs⟩

include hspare in
/-- **Mutation rule.** What operations away from the target keep, and the mutation of an admitted record keeps, is kept by
the whole request. -/
theorem mutation_under (hop : operation ≠ .stage) (hI : I s)
    (hmutation : ∀ l stage, s.ledger = some l → Admitted E plan operation l stage →
      under (hostNext E) (fun _ _ _ => True) I G (mutation E plan operation l stage) (fun _ => I) (fun _ => I) s) :
    (handle E ⟨operation, plan⟩).under (hostNext E) (fun _ _ _ => True) I G (fun _ => I) s := by
  have hG : ∀ {o c}, o.changesTarget = false → G (stepOf (hostNext E) s o c) := fun ho => (hspare _ _ _ ho hI).1
  refine handle_under hI (fun _ => hI) (fun _ _ => hG rfl) (fun _ _ => hI) (fun _ _ => hG rfl) (fun _ _ _ => hI) ?_
  intro hfits hvalid
  unfold dispatch executorMutationRequest
  rw [if_neg hop]
  cases hl : s.ledger with
  | none => exact spares_under hspare (Prog.issues_ite cleanOrphan_spares Prog.issues_pure) hI
  | some l =>
    rw [hl, Option.all_some] at hvalid
    dsimp only
    split
    · exact spares_under hspare (Prog.issues_ite cleanOrphan_spares Prog.issues_pure) hI
    · rename_i hreq
      refine Prog.under_ite (fun _ => Prog.under_pure.2 hI) fun hopen => ?_
      split
      · rename_i stage hstage
        refine mutateLedger_under hspare hI fun hbound hstaged => runMutation_under hspare (hmutation l stage hl ?_)
        exact ⟨hfits, hvalid, hreq, hopen, hstaged, hstage, hbound⟩
      · exact Prog.under_pure.2 hI

end Mutations

end AutostreamUpdater.Software
