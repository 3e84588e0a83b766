/-
Worlds made of parts, each with operations of its own.

A program of one part runs in the whole world as it runs in its part, and of the other parts it leaves alone what is their
own. `Parts.exec` says so of executions and `Parts.wp` carries a postcondition over.
-/
import AutostreamUpdater.Base.Prog

namespace AutostreamUpdater.Base

variable {ι α σ χ : Type} {Op : ι → Type} {Res : (i : ι) → Op i → Type} {τ κ : ι → Type} {i : ι}

/-- a program of part `i` as a program of the whole -/
def Prog.inPart (i : ι) : Prog (Op i) (Res i) α → Prog (Σ i, Op i) (fun o => Res o.1 o.2) α
  | .ret a => .ret a
  | .call o k => .call ⟨i, o⟩ fun r => (k r).inPart i

theorem Prog.only_inPart {P : (Σ i, Op i) → Prop} {Q : α → Prop} {p : Prog (Op i) (Res i) α}
    (h : p.Only (fun o => P ⟨i, o⟩) Q) : (p.inPart i).Only P Q := by
  induction p with
  | ret a => exact h
  | call o k ih => exact ⟨h.1, fun r => ih r (h.2 r)⟩

/-- an operation acts on its part as it does there alone, and leaves the other parts what is their own -/
structure Parts (part : (i : ι) → σ → τ i) (own : (i : ι) → τ i → κ i)
    (one : (i : ι) → τ i → (o : Op i) → χ → Res i o × τ i) (next : σ → (o : Σ i, Op i) → χ → Res o.1 o.2 × σ) : Prop where
  res : ∀ i s o c, (next s ⟨i, o⟩ c).1 = (one i (part i s) o c).1
  here : ∀ i s o c, part i (next s ⟨i, o⟩ c).2 = (one i (part i s) o c).2
  there : ∀ i j s o c, j ≠ i → own j (part j (next s ⟨i, o⟩ c).2) = own j (part j s)

variable {part : (i : ι) → σ → τ i} {own : (i : ι) → τ i → κ i} {one : (i : ι) → τ i → (o : Op i) → χ → Res i o × τ i}
  {next : σ → (o : Σ i, Op i) → χ → Res o.1 o.2 × σ}

theorem Parts.exec (h : Parts part own one next) (p : Prog (Op i) (Res i) α) (s : σ) (cs : List χ) :
    part i ((p.inPart i).exec next s cs).st = (p.exec (one i) (part i s) cs).st ∧
      (∀ j, j ≠ i → own j (part j ((p.inPart i).exec next s cs).st) = own j (part j s)) ∧
      ∀ x ∈ ((p.inPart i).exec next s cs).steps, ∃ y ∈ (p.exec (one i) (part i s) cs).steps,
        part i x.pre = y.pre ∧ part i x.post = y.post := by
  induction p generalizing s cs with
  | ret a => exact ⟨rfl, fun _ _ => rfl, by simp [Prog.inPart, Prog.exec]⟩
  | call o k ih =>
    cases cs with
    | nil => exact ⟨rfl, fun _ _ => rfl, by simp [Prog.inPart, Prog.exec]⟩
    | cons c cs =>
      obtain ⟨hst, hown, hsteps⟩ := ih (next s ⟨i, o⟩ c).1 (next s ⟨i, o⟩ c).2 cs
      simp only [Prog.inPart, Prog.exec]
      rw [h.res, h.here] at hst hsteps
      rw [h.res] at hown ⊢
      refine ⟨hst, fun j hj => (hown j hj).trans (h.there i j s o c hj), fun x hx => ?_⟩
      rcases List.mem_cons.1 hx with rfl | hx
      · exact ⟨_, List.mem_cons_self, rfl, h.here i s o c⟩
      · obtain ⟨y, hy, hxy⟩ := hsteps x hx
        exact ⟨y, List.mem_cons_of_mem _ hy, hxy⟩

theorem Parts.wp (h : Parts part own one next) {p : Prog (Op i) (Res i) α} {Q : α → τ i → Prop} {s : σ}
    {tr : List (Step (τ i) (Res i))} {tr' : List (Step σ fun o : Σ i, Op i => Res o.1 o.2)}
    (hp : p.wp (one i) (fun _ _ => True) (fun a _ t => Q a t) tr (part i s)) :
    (p.inPart i).wp next (fun _ _ => True) (fun a _ s' => Q a (part i s')) tr' s := by
  induction p generalizing s tr tr' with
  | ret a => exact hp
  | call o k ih =>
    refine ⟨trivial, fun c => ?_⟩
    have hk := hp.2 c
    rw [← h.res, ← h.here] at hk
    exact ih _ hk

end AutostreamUpdater.Base
