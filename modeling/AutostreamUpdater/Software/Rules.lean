/-
Rules for following a software request: one for each combinator, and one for the handler, which admits a request and
loads the ledger before it does anything else.
-/
import AutostreamUpdater.Base.Rely
import AutostreamUpdater.Software.Effects

namespace AutostreamUpdater.Software

open Contract Base Fallible

variable {E : SoftwareEnv} {ε α β : Type} {A : Host → HostOp → Choice → Prop} {I : Host → Prop}
  {G : Step Host HostRes → Prop} {s : Host}

/-! ## Combinators -/

theorem under_orFail {e : ε} {p : SoftwareProg Bool} {F : ε → Host → Prop} {Q : Unit → Host → Prop} :
    under (hostNext E) A I G (orFail e p) F Q s ↔
      p.under (hostNext E) A I G (fun ok s => (ok = true → Q () s) ∧ (ok = false → F e s)) s := by
  unfold orFail
  rw [under_bind, under_total]
  exact ⟨fun h => Prog.under_mono h fun _ _ => under_require.1, fun h => Prog.under_mono h fun _ _ => under_require.2⟩

theorem under_got {e : ε} {p : SoftwareProg (Option α)} {F : ε → Host → Prop} {Q : α → Host → Prop} :
    under (hostNext E) A I G (got e p) F Q s ↔
      p.under (hostNext E) A I G (fun a s => (∀ b, a = some b → Q b s) ∧ (a = none → F e s)) s := by
  unfold got
  rw [under_bind, under_total]
  refine ⟨fun h => Prog.under_mono h fun a s ha => ?_, fun h => Prog.under_mono h fun a s ha => ?_⟩
  · cases a with
    | none => exact ⟨by simp, fun _ => under_throw.1 ha⟩
    | some a => exact ⟨fun b hb => by cases hb; exact under_pure.1 ha, by simp⟩
  · cases a with
    | none => exact under_throw.2 (ha.2 rfl)
    | some a => exact under_pure.2 (ha.1 a rfl)

theorem under_attempt {p : Soft α} {F : String → Host → Prop} {Q : Except String α → Host → Prop} :
    under (hostNext E) A I G (attempt p) F Q s ↔
      under (hostNext E) A I G p (fun e => Q (.error e)) (fun a => Q (.ok a)) s := by
  unfold attempt
  rw [under_total, under_run]

theorem under_onlyIf {b : Bool} {p : Soft Unit} {F : String → Host → Prop} {Q : Unit → Host → Prop}
    (hp : b = true → under (hostNext E) A I G p F Q s) (hq : b = false → Q () s) :
    under (hostNext E) A I G (onlyIf b p) F Q s :=
  under_ite hp fun h => under_pure.2 (hq (by simpa using h))

/-- the checks passed, or one of them did not -/
theorem under_firstError {rs : List (Except String Unit)} {F : String → Host → Prop} {Q : Unit → Host → Prop}
    (hok : (∀ r ∈ rs, r.toBool = true) → Q () s) (herr : ∀ e, .error e ∈ rs → F e s) :
    under (hostNext E) A I G (firstError rs) F Q s := by
  induction rs with
  | nil => exact under_pure.2 (hok (by simp))
  | cons r rs ih =>
    cases r with
    | ok u =>
      refine ih (fun h => hok ?_) fun e he => herr e (List.mem_cons_of_mem _ he)
      intro r hr
      rcases List.mem_cons.1 hr with rfl | hr
      · rfl
      · exact h r hr
    | error e => exact under_throw.2 (herr e List.mem_cons_self)

/-- a part of a mutation, before or behind its gate -/
theorem under_atGate {called : Bool} {p : Soft α} {F : Failure → Host → Prop} {Q : α → Host → Prop}
    (h : under (hostNext E) A I G p (fun e => F ⟨called, e⟩) Q s) : under (hostNext E) A I G (atGate called p) F Q s := by
  unfold atGate
  refine under_ofProg.2 (Prog.under_bind.2 (under_run.2 (under_mono h ?_ ?_)))
  · intro e s he
    exact Prog.under_pure.2 he
  · intro x s hx
    exact Prog.under_pure.2 hx

/-! ## The handler -/

/-- **Entry rule.** A request is refused before its ledger is loaded, or it is dispatched on the ledger of the host. -/
theorem handle_under {r : SoftwareRequest} {Q : Outcome → Host → Prop} (hI : I s)
    (hfits : r.fits E = false → Q (executorFailure .configMismatch) s)
    (haccept : ∀ c, A s .acceptRequest c → G (stepOf (hostNext E) s .acceptRequest c))
    (hrefused : ∀ code, A s .acceptRequest (.refused code) → Q (executorFailure code) s)
    (hread : ∀ c, A s .readLedger c → G (stepOf (hostNext E) s .readLedger c))
    (hunread : ∀ c, A s .readLedger c → c ≠ .ok ∨ s.ledger.all (·.validate E.target.targetID) = false →
      Q (executorFailure .stateInvalid) s)
    (hdispatch : r.fits E = true → s.ledger.all (·.validate E.target.targetID) = true →
      (dispatch E r s.ledger).under (hostNext E) A I G Q s) : (handle E r).under (hostNext E) A I G Q s := by
  unfold handle
  refine Prog.under_ite (fun h => Prog.under_pure.2 (hfits (by simpa using h))) fun h => ?_
  have hfit : r.fits E = true := by simpa using h
  rw [Prog.under_bind, Prog.under_op]
  refine ⟨hI, fun c hc => ⟨haccept c hc, ?_⟩⟩
  by_cases hcode : ∃ code, c = .refused code
  · obtain ⟨code, rfl⟩ := hcode
    exact Prog.under_pure.2 (hrefused code hc)
  have hnone : (hostNext E s .acceptRequest c).1 = none := by
    cases c with
    | refused code => exact absurd ⟨code, rfl⟩ hcode
    | _ => rfl
  rw [hnone]
  unfold loadExecutorMutationLedger
  simp only [Prog.under_bind, Prog.under_op]
  refine ⟨hI, fun c hc => ⟨hread c hc, ?_⟩⟩
  by_cases hok : c = .ok
  · subst hok
    have hun := hunread .ok hc
    cases hl : s.ledger with
    | none =>
      rw [hl] at hdispatch
      simp only [hostNext, if_true, hl, Prog.under_pure]
      exact hdispatch hfit rfl
    | some l =>
      rw [hl] at hun hdispatch
      simp only [Option.all_some] at hun hdispatch
      simp only [hostNext, if_true, hl, Prog.under_pure]
      by_cases hv : l.validate E.target.targetID = true
      · simp only [hv, if_true]
        exact hdispatch hfit hv
      · simp only [hv, if_false, Bool.false_eq_true]
        exact Prog.under_pure.2 (hun (.inr (by simpa using hv)))
  · simp only [hostNext, hok, if_false, Prog.under_pure]
    exact hunread c hc (.inl hok)

/-! ## Runs -/

/-- a run of software requests; nothing is done at a restart -/
abbrev served (E : SoftwareEnv) (s : Host) (reqs : List (SoftwareRequest × List Choice)) :
    List (Entry Host HostRes Outcome SoftwareRequest) := serve (hostNext E) id (handle E) s reqs

/-- the host a run leaves behind -/
abbrev hostAfter (E : SoftwareEnv) (s : Host) (reqs : List (SoftwareRequest × List Choice)) : Host :=
  final (hostNext E) id (handle E) s reqs

theorem settle_id {σ Op α : Type} {Res : Op → Type} {e : Exec σ Res α} : settle id e = e.st := by simp [settle]

end AutostreamUpdater.Software
