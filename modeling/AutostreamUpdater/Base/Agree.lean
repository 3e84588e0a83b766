/-
When a check can be left out of a program.

`agrees L C p p' Q` compares two programs of the same world. `p` satisfies `wp C Q`, and every execution of `p` whose
steps satisfy `L` is, step for step, the execution of `p'` under the same script. `L` says what may be assumed of the
world's answers; it has to be closed under prefixes. The typical pair is a program with its guards and the same program
without them: `agrees_unguarded` drops a guard that cannot fire while `L` holds, the other rules follow the program text,
and `serve_agrees` carries the agreement of single requests to runs.
-/
import AutostreamUpdater.Base.Prog

namespace AutostreamUpdater.Base

section World

variable {Op : Type} {Res : Op → Type} {α β σ χ ρ : Type} {next : σ → (o : Op) → χ → Res o × σ}

/-! ## Executions of a sequence -/

/-- an execution continued, where it returned, by another one -/
def Exec.andThen (e : Exec σ Res α) (k : α → Exec σ Res β) : Exec σ Res β :=
  match e.out with
  | none => ⟨e.steps, e.st, none⟩
  | some a => ⟨e.steps ++ (k a).steps, (k a).st, (k a).out⟩

/-- the second program runs on what the first one left of the script -/
theorem Prog.exec_bind (p : Prog Op Res α) (f : α → Prog Op Res β) (s : σ) (cs : List χ) :
    (p >>= f).exec next s cs = (p.exec next s cs).andThen fun a =>
      (f a).exec next (p.exec next s cs).st (cs.drop (p.exec next s cs).steps.length) := by
  induction p generalizing s cs with
  | ret a => rfl
  | call o k ih =>
    cases cs with
    | nil => rfl
    | cons c cs =>
      have hk := ih (next s o c).1 (next s o c).2 cs
      change (⟨stepOf next s o c :: ((k _ >>= f).exec next _ cs).steps, ((k _ >>= f).exec next _ cs).st,
        ((k _ >>= f).exec next _ cs).out⟩ : Exec σ Res β) = _
      rw [hk]
      simp only [exec, Exec.andThen, List.length_cons, List.drop_succ_cons]
      cases ((k (next s o c).1).exec next (next s o c).2 cs).out <;> rfl

/-- both conditions at the cuts, both at the end -/
theorem Prog.wp_and {C C' : List (Step σ Res) → σ → Prop} {p : Prog Op Res α} {Q Q' : α → List (Step σ Res) → σ → Prop}
    {tr s} (h : p.wp next C Q tr s) (h' : p.wp next C' Q' tr s) :
    p.wp next C (fun a tr s => Q a tr s ∧ Q' a tr s) tr s := by
  induction p generalizing tr s with
  | ret a => exact ⟨h.1, h.2, h'.2⟩
  | call o k ih => exact ⟨h.1, fun c => ih _ (h.2 c) (h'.2 c)⟩

/-! ## Agreement -/

variable (next) in
/-- `p` satisfies `wp C Q`, and wherever its steps satisfy `L` it runs as `p'` does -/
def Prog.agrees (L : List (Step σ Res) → Prop) (C : List (Step σ Res) → σ → Prop) (p p' : Prog Op Res α)
    (Q : α → List (Step σ Res) → σ → Prop) (tr : List (Step σ Res)) (s : σ) : Prop :=
  p.wp next C Q tr s ∧ ∀ cs, L (tr ++ (p.exec next s cs).steps) → p'.exec next s cs = p.exec next s cs

variable {L : List (Step σ Res) → Prop} {C : List (Step σ Res) → σ → Prop} {p p' q : Prog Op Res α}
  {f f' : α → Prog Op Res β} {Q Q' : α → List (Step σ Res) → σ → Prop} {R : β → List (Step σ Res) → σ → Prop}
  {tr : List (Step σ Res)} {s : σ}

theorem Prog.agrees_self (h : p.wp next C Q tr s) : p.agrees next L C p Q tr s := ⟨h, fun _ _ => rfl⟩

theorem Prog.agrees_pure {a : α} (hC : C tr s) (hQ : Q a tr s) :
    (pure a : Prog Op Res α).agrees next L C (pure a) Q tr s := agrees_self ⟨hC, hQ⟩

/-- two returned values have to be equal only while `L` holds -/
theorem Prog.agrees_return {a a' : α} (hC : C tr s) (hQ : Q a tr s) (ha : L tr → a' = a) :
    (pure a : Prog Op Res α).agrees next L C (pure a') Q tr s := by
  refine ⟨⟨hC, hQ⟩, ?_⟩
  intro cs hlive
  have hlive : L (tr ++ []) := hlive
  rw [ha (by simpa using hlive)]

/-- the rule for one operation, with the choice that answered it -/
theorem Prog.agrees_op_bind {o : Op} {g g' : Res o → Prog Op Res β} (hC : C tr s)
    (hg : ∀ c, (g (next s o c).1).agrees next L C (g' (next s o c).1) R (tr ++ [stepOf next s o c]) (next s o c).2) :
    (Prog.op o >>= g).agrees next L C (Prog.op o >>= g') R tr s := by
  refine ⟨⟨hC, fun c => (hg c).1⟩, ?_⟩
  intro cs hlive
  cases cs with
  | nil => rfl
  | cons c cs =>
    change L (tr ++ (stepOf next s o c :: ((g (next s o c).1).exec next (next s o c).2 cs).steps)) at hlive
    have hrest := (hg c).2 cs (by simpa using hlive)
    change (⟨stepOf next s o c :: ((g' _).exec next _ cs).steps, ((g' _).exec next _ cs).st,
      ((g' _).exec next _ cs).out⟩ : Exec σ Res β) = ⟨stepOf next s o c :: ((g _).exec next _ cs).steps,
        ((g _).exec next _ cs).st, ((g _).exec next _ cs).out⟩
    rw [hrest]

theorem Prog.agrees_post (h : p.agrees next L C p' Q tr s) (hQ : ∀ a tr s, C tr s → Q a tr s → Q' a tr s) :
    p.agrees next L C p' Q' tr s := ⟨wp_post h.1 hQ, h.2⟩

/-- the branching rule -/
theorem Prog.agrees_ite {b : Prop} [Decidable b] (hp : b → p.agrees next L C p' Q tr s) {q' : Prog Op Res α}
    (hq : ¬ b → q.agrees next L C q' Q tr s) : (if b then p else q).agrees next L C (if b then p' else q') Q tr s := by
  by_cases h : b
  · simpa [h] using hp h
  · simpa [h] using hq h

/-- **Dropping a guard.** A guard that cannot fire while `L` holds may be left out. -/
theorem Prog.agrees_unguarded {b : Prop} [Decidable b] (hL : ∀ tr' : List (Step σ Res), L (tr ++ tr') → L tr)
    (hb : L tr → ¬ b) (hq : b → q.wp next C Q tr s) (hp : ¬ b → p.agrees next L C p' Q tr s) :
    (if b then q else p).agrees next L C p' Q tr s := by
  by_cases h : b
  · refine ⟨by simpa [h] using hq h, ?_⟩
    intro cs hlive
    exact absurd h (hb (hL _ hlive))
  · simpa [h] using hp h

/-- the sequencing rule -/
theorem Prog.agrees_seq (hL : ∀ tr tr' : List (Step σ Res), L (tr ++ tr') → L tr) (hp : p.agrees next L C p' Q tr s)
    (hf : ∀ a tr s, C tr s → Q a tr s → (f a).agrees next L C (f' a) R tr s) :
    (p >>= f).agrees next L C (p' >>= f') R tr s := by
  refine ⟨wp_seq hp.1 fun a tr s hC hQ => (hf a tr s hC hQ).1, ?_⟩
  intro cs hlive
  obtain ⟨hC, hQ⟩ := wp_exec hp.1 cs
  rw [exec_bind] at hlive
  cases hout : (p.exec next s cs).out with
  | none =>
    simp only [Exec.andThen, hout] at hlive
    rw [exec_bind, exec_bind, hp.2 cs hlive]
    simp [Exec.andThen, hout]
  | some a =>
    simp only [Exec.andThen, hout, ← List.append_assoc] at hlive
    have hf' := (hf a _ _ hC (hQ a hout)).2 _ hlive
    rw [exec_bind, exec_bind, hp.2 cs (hL _ _ hlive)]
    simp [Exec.andThen, hout, hf']

/-- agreement of two runs: every request runs as in the other, from every state that satisfies the invariant -/
theorem serve_agrees {restart : σ → σ} {handle handle' : ρ → Prog Op Res α} {I : σ → Prop} {A : Entry σ Res α ρ → Prop}
    (hreq : ∀ r s cs, I s → A (handled next handle r s cs) →
      (handle' r).exec next s cs = (handle r).exec next s cs ∧ I (settle restart ((handle r).exec next s cs)))
    (hs : I s) (reqs : List (ρ × List χ)) (hadm : ∀ x ∈ serve next restart handle s reqs, A x) :
    serve next restart handle' s reqs = serve next restart handle s reqs := by
  induction reqs generalizing s with
  | nil => rfl
  | cons q rest ih =>
    obtain ⟨r, cs⟩ := q
    obtain ⟨heq, hI⟩ := hreq r s cs hs (hadm _ List.mem_cons_self)
    simp only [serve, heq]
    rw [ih hI fun x hx => hadm x (List.mem_cons_of_mem _ hx)]

end World
end AutostreamUpdater.Base
