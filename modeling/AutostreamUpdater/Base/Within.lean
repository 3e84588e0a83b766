/-
Programs within an environment.

`within A I p Q` restricts the outcomes of the world to those `A` allows and asks two things of the executions that are
left: wherever an operation is still to come the state is in `I`, and the program ends in `Q`. A crash leaves exactly the
states of the first kind (`within_exec`). A strategy that answers every operation as `A` allows makes the program return,
so `Q` is reached and not merely kept open (`within_script`).
-/
import AutostreamUpdater.Base.Prog

namespace AutostreamUpdater.Base

variable {Op : Type} {Res : Op → Type} {α β σ χ : Type} (next : σ → (o : Op) → χ → Res o × σ)

namespace Prog

/-- executions with outcomes in `A`: in `I` before every operation, in `Q` at the end -/
def within (A : σ → Op → χ → Prop) (I : σ → Prop) :
    Prog Op Res α → (α → List (Step σ Res) → σ → Prop) → List (Step σ Res) → σ → Prop
  | .ret a, Q, tr, s => Q a tr s
  | .call o k, Q, tr, s =>
    I s ∧ ∀ c, A s o c → (k (next s o c).1).within A I Q (tr ++ [stepOf next s o c]) (next s o c).2

/-- the script a strategy writes, which sees the steps so far and the state -/
def script (choose : List (Step σ Res) → σ → Op → χ) : Prog Op Res α → List (Step σ Res) → σ → List χ
  | .ret _, _, _ => []
  | .call o k, tr, s =>
    let c := choose tr s o
    c :: (k (next s o c).1).script choose (tr ++ [stepOf next s o c]) (next s o c).2

variable {next} {A : σ → Op → χ → Prop} {I : σ → Prop} {tr : List (Step σ Res)} {s : σ}
  {Q : α → List (Step σ Res) → σ → Prop}

@[simp] theorem within_pure {a : α} : (pure a : Prog Op Res α).within next A I Q tr s ↔ Q a tr s := Iff.rfl

variable {p : Prog Op Res α}

theorem within_bind {f : α → Prog Op Res β} {Q : β → List (Step σ Res) → σ → Prop} :
    (p >>= f).within next A I Q tr s ↔
      p.within next A I (fun a tr s => (f a).within next A I Q tr s) tr s := by
  induction p generalizing tr s with
  | ret a => exact Iff.rfl
  | call o k ih => exact and_congr_right fun _ => forall_congr' fun c => forall_congr' fun _ => ih _

theorem within_mono {Q R : α → List (Step σ Res) → σ → Prop} (h : p.within next A I Q tr s)
    (hQ : ∀ a tr s, Q a tr s → R a tr s) : p.within next A I R tr s := by
  induction p generalizing tr s with
  | ret a => exact hQ a tr s h
  | call o k ih => exact ⟨h.1, fun c hc => ih _ (h.2 c hc)⟩

/-- the sequencing rule -/
theorem within_seq {f : α → Prog Op Res β} {R : β → List (Step σ Res) → σ → Prop} (hp : p.within next A I Q tr s)
    (hf : ∀ a tr s, Q a tr s → (f a).within next A I R tr s) : (p >>= f).within next A I R tr s :=
  within_bind.2 (within_mono hp hf)

theorem within_op_bind {o : Op} {f : Res o → Prog Op Res β} {Q : β → List (Step σ Res) → σ → Prop} (hI : I s)
    (hf : ∀ c, A s o c → (f (next s o c).1).within next A I Q (tr ++ [stepOf next s o c]) (next s o c).2) :
    (op o >>= f).within next A I Q tr s := ⟨hI, hf⟩

/-- the branching rule -/
theorem within_ite {b : Prop} [Decidable b] {p q : Prog Op Res α} (hp : b → p.within next A I Q tr s)
    (hq : ¬ b → q.within next A I Q tr s) : (if b then p else q).within next A I Q tr s := by
  by_cases h : b
  · simpa [h] using hp h
  · simpa [h] using hq h

/-- what holds whatever the world answers holds within any environment -/
theorem within_of_wp (h : p.wp next (fun _ => I) Q tr s) : p.within next A I Q tr s := by
  induction p generalizing tr s with
  | ret a => exact h.2
  | call o k ih => exact ⟨h.1, fun c _ => ih _ (h.2 c)⟩

/-- **Crashes.** When every outcome is allowed, a cut execution leaves a state in `I` and a finished one ends in `Q`. -/
theorem within_exec (h : p.within next (fun _ _ _ => True) I Q tr s) (cs : List χ) :
    ((p.exec next s cs).out = none → I (p.exec next s cs).st) ∧
      ∀ a, (p.exec next s cs).out = some a → Q a (tr ++ (p.exec next s cs).steps) (p.exec next s cs).st := by
  induction p generalizing tr s cs with
  | ret a =>
    refine ⟨by simp [exec], fun b hb => ?_⟩
    cases hb
    simpa [exec, within] using h
  | call o k ih =>
    cases cs with
    | nil => exact ⟨fun _ => h.1, by simp [exec]⟩
    | cons c cs => simpa [exec, List.append_assoc] using ih _ (h.2 c trivial) cs

/-- **Progress.** Against a strategy that answers as `A` allows, the program returns and ends in `Q`. -/
theorem within_script (h : p.within next A I Q tr s) {choose : List (Step σ Res) → σ → Op → χ}
    (hA : ∀ tr s o, A s o (choose tr s o)) :
    let e := p.exec next s (p.script next choose tr s)
    ∃ a, e.out = some a ∧ Q a (tr ++ e.steps) e.st := by
  induction p generalizing tr s with
  | ret a => exact ⟨a, rfl, by simpa [exec, within] using h⟩
  | call o k ih => simpa [exec, script, List.append_assoc] using ih _ (h.2 _ (hA tr s o))

end Prog
end AutostreamUpdater.Base
