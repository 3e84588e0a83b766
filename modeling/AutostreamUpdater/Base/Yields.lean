/-
Runs of a program with given answers.

`Yields next p s cs s' a` says that `p`, started in `s` and answered by exactly the choices `cs`, returns `a` in `s'`. It
composes along the text of the program, so that one run can be built up step by step without evaluating the whole of it;
`Yields.exec` carries it over to `Prog.exec`. `exec_op_st` and `exec_op_seq_st` follow an execution that may be cut by one
operation.
-/
import AutostreamUpdater.Base.Prog

namespace AutostreamUpdater.Base

section World

variable {Op : Type} {Res : Op → Type} {α β σ χ : Type} (next : σ → (o : Op) → χ → Res o × σ)

/-- answered by `cs`, the program returns `a` in `s'` -/
inductive Yields : Prog Op Res α → σ → List χ → σ → α → Prop where
  | ret {s : σ} {a : α} : Yields (.ret a) s [] s a
  | call {s s' : σ} {o : Op} {k : Res o → Prog Op Res α} {c : χ} {cs : List χ} {a : α} :
      Yields (k (next s o c).1) (next s o c).2 cs s' a → Yields (.call o k) s (c :: cs) s' a

variable {next} {p : Prog Op Res α} {f : α → Prog Op Res β} {s s' s'' : σ} {cs cs' : List χ} {a : α} {b : β}

theorem Yields.bind (h : Yields next p s cs s' a) (hf : Yields next (f a) s' cs' s'' b) :
    Yields next (p >>= f) s (cs ++ cs') s'' b := by
  induction h with
  | ret => exact hf
  | call _ ih => exact .call (ih hf)

/-- one operation and what comes after it -/
theorem Yields.op_bind {o : Op} {c : χ} {r : Res o} {g : Res o → Prog Op Res β} (hnext : next s o c = (r, s'))
    (h : Yields next (g r) s' cs s'' b) : Yields next (Prog.op o >>= g) s (c :: cs) s'' b := by
  have hcall : Yields next (g (next s o c).1) (next s o c).2 cs s'' b := by
    rw [hnext]
    exact h
  exact .call hcall

/-- the execution that such a run is -/
theorem Yields.exec (h : Yields next p s cs s' a) : (p.exec next s cs).st = s' ∧ (p.exec next s cs).out = some a := by
  induction h with
  | ret => exact ⟨rfl, rfl⟩
  | call _ ih => exact ih

/-- an execution behind its first operation -/
theorem exec_op_st {o : Op} {c : χ} {r : Res o} {g : Res o → Prog Op Res β} (hnext : next s o c = (r, s')) (cs : List χ) :
    ((Prog.op o >>= g).exec next s (c :: cs)).st = ((g r).exec next s' cs).st := by
  change ((g (next s o c).1).exec next (next s o c).2 cs).st = _
  rw [hnext]

/-- the same for the first operation of a sequence -/
theorem exec_op_seq_st {o : Op} {c : χ} {r : Res o} {g : Res o → Prog Op Res α} (hnext : next s o c = (r, s'))
    (cs : List χ) : (((Prog.op o >>= g) >>= f).exec next s (c :: cs)).st = ((g r >>= f).exec next s' cs).st := by
  change ((g (next s o c).1 >>= f).exec next (next s o c).2 cs).st = _
  rw [hnext]

end World
end AutostreamUpdater.Base
