/-
Operations behind a gate.

`Gated G P Q p` says that `p` issues no operation in `P` until one of its operations was answered as `G` asks, and that
whatever it returns with the gate still closed is in `Q`. It is a property of the program alone; `gated_exec` reads it off
an execution: every step in `P` has a step that opened the gate before it.

`once P` says that at most one operation in `P` is issued.

`waits` and `Fallible.waits` are the same judgement for programs that are followed by rules only, with a program that
stops at its first error inside.
-/
import AutostreamUpdater.Base.Fallible

namespace AutostreamUpdater.Base

variable {Op : Type} {Res : Op → Type} {α β σ χ : Type} {p : Prog Op Res α}

namespace Prog

/-- no operation in `P` before an answer in `G`, and only values in `Q` without one -/
def Gated (G : (o : Op) → Res o → Prop) (P : Op → Prop) (Q : α → Prop) : Prog Op Res α → Prop
  | .ret a => Q a
  | .call o k => ¬ P o ∧ ∀ r, ¬ G o r → (k r).Gated G P Q

variable {G : (o : Op) → Res o → Prop} {P : Op → Prop} {Q Q' : α → Prop} {R : β → Prop}

@[simp] theorem gated_pure {a : α} : (pure a : Prog Op Res α).Gated G P Q ↔ Q a := Iff.rfl

theorem gated_mono (h : p.Gated G P Q) (hQ : ∀ a, Q a → Q' a) : p.Gated G P Q' := by
  induction p with
  | ret a => exact hQ a h
  | call o k ih => exact ⟨h.1, fun r hr => ih r (h.2 r hr)⟩

variable {f : α → Prog Op Res β}

/-- the sequencing rule: only what comes out of a closed gate goes on behind it -/
theorem gated_seq (hp : p.Gated G P Q) (hf : ∀ a, Q a → (f a).Gated G P R) : (p >>= f).Gated G P R := by
  induction p with
  | ret a => exact hf a hp
  | call o k ih => exact ⟨hp.1, fun r hr => ih r (hp.2 r hr)⟩

theorem gated_ite {b : Prop} [Decidable b] {p q : Prog Op Res α} (hp : b → p.Gated G P Q) (hq : ¬ b → q.Gated G P Q) :
    (if b then p else q).Gated G P Q := by
  by_cases h : b
  · simpa [h] using hp h
  · simpa [h] using hq h

/-- a guard that stops -/
theorem gated_stop {b : Prop} [Decidable b] {a : α} (ha : Q a) (hp : p.Gated G P Q) :
    (if b then pure a else p).Gated G P Q := gated_ite (fun _ => ha) fun _ => hp

/-- A program that never issues an operation in `P` needs no gate. -/
theorem only_gated (h : p.Only (fun o => ¬ P o) Q) : p.Gated G P Q := by
  induction p with
  | ret a => exact h
  | call o k ih => exact ⟨h.1, fun r _ => ih r (h.2 r)⟩

variable {next : σ → (o : Op) → χ → Res o × σ}

/-- **Order.** In every execution of a gated program a step in `P` comes after a step that opened the gate. -/
theorem gated_exec (h : p.Gated G P Q) {s : σ} {cs : List χ} {before after : List (Step σ Res)} {x : Step σ Res}
    (hx : P x.op) (hsteps : (p.exec next s cs).steps = before ++ x :: after) : ∃ y ∈ before, G y.op y.res := by
  induction p generalizing s cs before with
  | ret a => simp [exec] at hsteps
  | call o k ih =>
    cases cs with
    | nil => simp [exec] at hsteps
    | cons c cs =>
      cases before with
      | nil =>
        -- the first step cannot be one in `P`
        simp only [exec, List.nil_append, List.cons.injEq] at hsteps
        rw [← hsteps.1] at hx
        exact absurd hx h.1
      | cons y before =>
        simp only [exec, List.cons_append, List.cons.injEq] at hsteps
        by_cases hG : G o (next s o c).1
        · refine ⟨y, List.mem_cons_self, ?_⟩
          rw [← hsteps.1]
          exact hG
        · obtain ⟨z, hz, hGz⟩ := ih _ (h.2 _ hG) hsteps.2
          exact ⟨z, List.mem_cons_of_mem _ hz, hGz⟩

/-- `Gated`, sealed -/
def waits (G : (o : Op) → Res o → Prop) (P : Op → Prop) (p : Prog Op Res α) (Q : α → Prop) : Prop := p.Gated G P Q

theorem waits_pure {a : α} (h : Q a) : (pure a : Prog Op Res α).waits G P Q := h

theorem waits_op {o : Op} {Q : Res o → Prop} (ho : ¬ P o) (h : ∀ r, ¬ G o r → Q r) :
    (op o : Prog Op Res (Res o)).waits G P Q := ⟨ho, h⟩

theorem waits_seq (hp : p.waits G P Q) (hf : ∀ a, Q a → (f a).waits G P R) : (p >>= f).waits G P R := gated_seq hp hf

theorem waits_ite {b : Prop} [Decidable b] {p q : Prog Op Res α} (hp : b → p.waits G P Q) (hq : ¬ b → q.waits G P Q) :
    (if b then p else q).waits G P Q := gated_ite hp hq

theorem issues_waits (h : p.issues fun o => ¬ P o) : p.waits G P fun _ => True :=
  only_gated (issues_iff.1 h)

theorem waits_mono (h : p.waits G P Q) (hQ : ∀ a, Q a → Q' a) : p.waits G P Q' := gated_mono h hQ

theorem waits_exec (h : p.waits G P Q) {s : σ} {cs : List χ} {before after : List (Step σ Res)} {x : Step σ Res}
    (hx : P x.op) (hsteps : (p.exec next s cs).steps = before ++ x :: after) :
    ∃ y ∈ before, G y.op y.res := gated_exec h hx hsteps

/-- A gate that nothing opens. -/
theorem waits_never (h : p.waits (fun _ _ => False) (fun o => ¬ P o) Q) : p.issues P := by
  rw [issues_iff]
  unfold waits at h
  induction p with
  | ret a => trivial
  | call o k ih => exact ⟨not_not.1 h.1, fun r => ih r (h.2 r not_false)⟩

/-- at most one operation in `P` is issued -/
def once (P : Op → Prop) : Prog Op Res α → Prop
  | .ret _ => True
  | .call o k => ∀ r, (P o → (k r).issues fun o => ¬ P o) ∧ (k r).once P

theorem issues_once (h : p.issues fun o => ¬ P o) : p.once P := by
  rw [issues_iff] at h
  induction p with
  | ret a => trivial
  | call o k ih => exact fun r => ⟨fun ho => absurd ho h.1, ih r (h.2 r)⟩

theorem once_op {o : Op} : (op o : Prog Op Res (Res o)).once P := fun _ => ⟨fun _ => issues_pure, trivial⟩

/-- nothing in `P` after the first program -/
theorem once_seq_left (hp : p.once P) (hf : ∀ a, (f a).issues fun o => ¬ P o) : (p >>= f).once P := by
  induction p with
  | ret a => exact issues_once (hf a)
  | call o k ih => exact fun r => ⟨fun ho => issues_seq ((hp r).1 ho) hf, ih r (hp r).2⟩

/-- nothing in `P` in the first program -/
theorem once_seq_right (hp : p.issues fun o => ¬ P o) (hf : ∀ a, (f a).once P) : (p >>= f).once P := by
  rw [issues_iff] at hp
  induction p with
  | ret a => exact hf a
  | call o k ih => exact fun r => ⟨fun ho => absurd ho hp.1, ih r (hp.2 r)⟩

theorem issues_exec (h : p.issues P) (s : σ) (cs : List χ) : ∀ x ∈ (p.exec next s cs).steps, P x.op := by
  rw [issues_iff] at h
  induction p generalizing s cs with
  | ret a => simp [exec]
  | call o k ih =>
    cases cs with
    | nil => simp [exec]
    | cons c cs =>
      intro x hx
      rcases List.mem_cons.1 hx with rfl | hx
      · exact h.1
      · exact ih _ (h.2 _) _ _ x hx

theorem once_exec (h : p.once P) (s : σ) (cs : List χ) :
    (p.exec next s cs).steps.Pairwise fun x y => P x.op → ¬ P y.op := by
  induction p generalizing s cs with
  | ret a => exact List.Pairwise.nil
  | call o k ih =>
    cases cs with
    | nil => exact List.Pairwise.nil
    | cons c cs =>
      have hk := h (next s o c).1
      exact List.Pairwise.cons (fun y hy ho => issues_exec (hk.1 ho) _ _ y hy) (ih _ hk.2 _ _)

attribute [irreducible] once

end Prog

namespace Fallible

variable {ε : Type} {G : (o : Op) → Res o → Prop} {P : Op → Prop} {Q : α → Prop} {R : β → Prop}

/-- `Prog.waits` for a program that stops at its first error: with the gate closed it fails or returns a value in `Q` -/
def waits (G : (o : Op) → Res o → Prop) (P : Op → Prop) (p : Fallible Op Res ε α) (Q : α → Prop) : Prop :=
  p.run.waits G P fun r => ∀ a, r = .ok a → Q a

theorem waits_throw {e : ε} : waits G P (throw e : Fallible Op Res ε α) Q := Prog.waits_pure fun _ h => by cases h

theorem waits_bind {p : Fallible Op Res ε α} {f : α → Fallible Op Res ε β} (hp : waits G P p Q)
    (hf : ∀ a, Q a → waits G P (f a) R) : waits G P (p >>= f) R := by
  refine Prog.waits_seq hp ?_
  intro r hr
  cases r with
  | ok a => exact hf a (hr a rfl)
  | error e => exact waits_throw

theorem issues_waits {p : Fallible Op Res ε α} (h : issues (fun o => ¬ P o) p) : waits G P p fun _ => True :=
  Prog.waits_mono (Prog.issues_waits (Prog.issues_run h)) fun _ _ _ _ => trivial

theorem waits_mono {p : Fallible Op Res ε α} {Q' : α → Prop} (h : waits G P p Q) (hQ : ∀ a, Q a → Q' a) :
    waits G P p Q' := Prog.waits_mono h fun _ hr a ha => hQ a (hr a ha)

theorem waits_run {p : Fallible Op Res ε α} (h : waits G P p Q) : p.run.waits G P fun r => ∀ a, r = .ok a → Q a := h

theorem waits_ofProg {p : Prog Op Res (Except ε α)} (h : p.waits G P fun r => ∀ a, r = .ok a → Q a) :
    waits G P (ofProg p) Q := h

theorem waits_total (h : p.waits G P Q) : waits G P (total p : Fallible Op Res ε α) Q :=
  Prog.waits_seq h fun a ha => Prog.waits_pure fun b hb => by cases hb; exact ha

theorem waits_require {c : Bool} {e : ε} : waits G P (require c e : Fallible Op Res ε Unit) fun _ => c = true := by
  cases c with
  | true => exact Prog.waits_pure fun _ _ => rfl
  | false => exact waits_throw

/-- `Prog.once` for a program that stops at its first error -/
def once (P : Op → Prop) (p : Fallible Op Res ε α) : Prop := p.run.once P

theorem once_run {p : Fallible Op Res ε α} (h : once P p) : p.run.once P := h

theorem once_total (h : p.once P) : once P (total p : Fallible Op Res ε α) :=
  Prog.once_seq_left h fun _ => Prog.issues_pure

theorem once_bind_left {p : Fallible Op Res ε α} {f : α → Fallible Op Res ε β} (hp : once P p)
    (hf : ∀ a, issues (fun o => ¬ P o) (f a)) : once P (p >>= f) := by
  refine Prog.once_seq_left hp fun r => ?_
  cases r with
  | ok a => exact Prog.issues_run (hf a)
  | error e => exact Prog.issues_pure

theorem once_bind_right {p : Fallible Op Res ε α} {f : α → Fallible Op Res ε β} (hp : issues (fun o => ¬ P o) p)
    (hf : ∀ a, once P (f a)) : once P (p >>= f) := by
  refine Prog.once_seq_right (Prog.issues_run hp) fun r => ?_
  cases r with
  | ok a => exact hf a
  | error e => exact Prog.issues_once Prog.issues_pure

attribute [irreducible] Prog.waits waits once

end Fallible
end AutostreamUpdater.Base
