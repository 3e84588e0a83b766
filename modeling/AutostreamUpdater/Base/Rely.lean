/-
Programs under an environment.

`under A I G p Q` restricts the outcomes of the world to those `A` allows and asks three things of the executions that are
left: the state is in `I` wherever an operation is still to come, every step satisfies `G`, and the program ends in `Q`. It
is the state-only companion of `within`, with what every step guarantees beside it. The rules are equivalences, so a
program is followed by rewriting; `under_exec` and `under_script` read the judgement off executions and strategies.

`Fallible.under` is the same for programs that stop at their first error, with one postcondition for the error and one for
the value.
-/
import AutostreamUpdater.Base.Fallible
import AutostreamUpdater.Base.Within

namespace AutostreamUpdater.Base

variable {Op : Type} {Res : Op → Type} {α β ε σ χ : Type} (next : σ → (o : Op) → χ → Res o × σ) {Q : α → σ → Prop}
  {choose : List (Step σ Res) → σ → Op → χ}

namespace Prog

/-- executions with outcomes in `A`: in `I` before every operation, every step in `G`, in `Q` at the end -/
def under (A : σ → Op → χ → Prop) (I : σ → Prop) (G : Step σ Res → Prop) :
    Prog Op Res α → (α → σ → Prop) → σ → Prop
  | .ret a, Q, s => Q a s
  | .call o k, Q, s => I s ∧ ∀ c, A s o c →
      G (stepOf next s o c) ∧ (k (next s o c).1).under A I G Q (next s o c).2

variable {next} {A : σ → Op → χ → Prop} {I : σ → Prop} {G : Step σ Res → Prop} {s : σ}

@[simp] theorem under_pure {a : α} : (pure a : Prog Op Res α).under next A I G Q s ↔ Q a s := Iff.rfl

theorem under_op {o : Op} {Q : Res o → σ → Prop} :
    (op o : Prog Op Res (Res o)).under next A I G Q s ↔
      I s ∧ ∀ c, A s o c → G (stepOf next s o c) ∧ Q (next s o c).1 (next s o c).2 := Iff.rfl

theorem under_bind {p : Prog Op Res α} {f : α → Prog Op Res β} {Q : β → σ → Prop} :
    (p >>= f).under next A I G Q s ↔ p.under next A I G (fun a s => (f a).under next A I G Q s) s := by
  induction p generalizing s with
  | ret a => exact Iff.rfl
  | call o k ih =>
    exact and_congr_right fun _ => forall_congr' fun c => forall_congr' fun _ => and_congr_right fun _ => ih _

theorem under_mono {p : Prog Op Res α} {Q R : α → σ → Prop} (h : p.under next A I G Q s)
    (hQ : ∀ a s, Q a s → R a s) : p.under next A I G R s := by
  induction p generalizing s with
  | ret a => exact hQ a s h
  | call o k ih => exact ⟨h.1, fun c hc => ⟨(h.2 c hc).1, ih _ (h.2 c hc).2⟩⟩

/-- weaker conditions on the way -/
theorem under_weaken {I' : σ → Prop} {G' : Step σ Res → Prop} {p : Prog Op Res α} (h : p.under next A I G Q s)
    (hI : ∀ s, I s → I' s) (hG : ∀ x, G x → G' x) : p.under next A I' G' Q s := by
  induction p generalizing s with
  | ret a => exact h
  | call o k ih => exact ⟨hI s h.1, fun c hc => ⟨hG _ (h.2 c hc).1, ih _ (h.2 c hc).2⟩⟩

/-- the branching rule -/
theorem under_ite {b : Prop} [Decidable b] {p q : Prog Op Res α} (hp : b → p.under next A I G Q s)
    (hq : ¬ b → q.under next A I G Q s) : (if b then p else q).under next A I G Q s := by
  by_cases h : b
  · simpa [h] using hp h
  · simpa [h] using hq h

/-- An invariant that every issued operation keeps holds throughout. -/
theorem only_under {P : Op → Prop} {R : α → Prop} {p : Prog Op Res α} (hp : p.Only P R)
    (hstep : ∀ s o c, P o → I s → A s o c → G (stepOf next s o c) ∧ I (next s o c).2) (h : I s) :
    p.under next A I G (fun a s => I s ∧ R a) s := by
  induction p generalizing s with
  | ret a => exact ⟨h, hp⟩
  | call o k ih =>
    refine ⟨h, fun c hc => ?_⟩
    have hnext := hstep s o c hp.1 h hc
    exact ⟨hnext.1, ih _ (hp.2 _) hnext.2⟩

/-- **Executions.** When every outcome is allowed, every step is in `G`, a cut leaves a state in `I`, and the end is in
`Q`. -/
theorem under_exec {p : Prog Op Res α} (h : p.under next (fun _ _ _ => True) I G Q s) (cs : List χ) :
    (∀ x ∈ (p.exec next s cs).steps, G x) ∧ ((p.exec next s cs).out = none → I (p.exec next s cs).st) ∧
      ∀ a, (p.exec next s cs).out = some a → Q a (p.exec next s cs).st := by
  induction p generalizing s cs with
  | ret a => exact ⟨by simp [exec], by simp [exec], fun b hb => by cases hb; exact h⟩
  | call o k ih =>
    cases cs with
    | nil => exact ⟨by simp [exec], fun _ => h.1, by simp [exec]⟩
    | cons c cs =>
      have hstep := h.2 c trivial
      have hrest := ih _ hstep.2 cs
      refine ⟨fun x hx => ?_, hrest.2⟩
      rcases List.mem_cons.1 hx with rfl | hx
      · exact hstep.1
      · exact hrest.1 x hx

theorem exec_pure {a : α} {cs : List χ} : (pure a : Prog Op Res α).exec next s cs = ⟨[], s, some a⟩ := rfl

theorem exec_op_bind_cons {o : Op} {f : Res o → Prog Op Res β} {c : χ} {cs : List χ} :
    (op o >>= f).exec next s (c :: cs) =
      ⟨stepOf next s o c :: ((f (next s o c).1).exec next (next s o c).2 cs).steps,
        ((f (next s o c).1).exec next (next s o c).2 cs).st, ((f (next s o c).1).exec next (next s o c).2 cs).out⟩ := rfl

/-- **Strategies.** Against a strategy that answers as `A` allows, the program returns, ends in `Q`, and every step is in
`G`. -/
theorem under_script {p : Prog Op Res α} (h : p.under next A I G Q s) (hA : ∀ tr s o, A s o (choose tr s o))
    (tr : List (Step σ Res)) :
    let e := p.exec next s (p.script next choose tr s)
    (∀ x ∈ e.steps, G x) ∧ ∃ a, e.out = some a ∧ Q a e.st := by
  induction p generalizing tr s with
  | ret a => exact ⟨by simp [exec], a, rfl, h⟩
  | call o k ih =>
    have hstep := h.2 _ (hA tr s o)
    have hrest := ih _ hstep.2 (tr ++ [stepOf next s o (choose tr s o)])
    refine ⟨fun x hx => ?_, hrest.2⟩
    rcases List.mem_cons.1 hx with rfl | hx
    · exact hstep.1
    · exact hrest.1 x hx

/-! ### Steps that are reached -/

variable (next) in
/-- every execution with outcomes in `A` makes a step in `X` before it ends -/
def reaches (A : σ → Op → χ → Prop) (X : Step σ Res → Prop) : Prog Op Res α → σ → Prop
  | .ret _, _ => False
  | .call o k, s => ∀ c, A s o c → X (stepOf next s o c) ∨ (k (next s o c).1).reaches A X (next s o c).2

variable {X : Step σ Res → Prop}

theorem reaches_op {o : Op} (h : ∀ c, A s o c → X (stepOf next s o c)) :
    (op o : Prog Op Res (Res o)).reaches next A X s := fun c hc => .inl (h c hc)

/-- the step is made by the first program -/
theorem reaches_left {p : Prog Op Res α} {f : α → Prog Op Res β} (h : p.reaches next A X s) :
    (p >>= f).reaches next A X s := by
  induction p generalizing s with
  | ret a => exact h.elim
  | call o k ih => exact fun c hc => (h c hc).imp_right fun h => ih _ h

/-- the step is made by the second program -/
theorem reaches_right {p : Prog Op Res α} {f : α → Prog Op Res β}
    (h : p.under next A I G (fun a s => (f a).reaches next A X s) s) : (p >>= f).reaches next A X s := by
  induction p generalizing s with
  | ret a => exact h
  | call o k ih => exact fun c hc => .inr (ih _ (h.2 c hc).2)

/-- **Strategies.** Against a strategy that answers as `A` allows, the step is made. -/
theorem reaches_script {p : Prog Op Res α} (h : p.reaches next A X s) (hA : ∀ tr s o, A s o (choose tr s o))
    (tr : List (Step σ Res)) : ∃ x ∈ (p.exec next s (p.script next choose tr s)).steps, X x := by
  induction p generalizing tr s with
  | ret a => exact h.elim
  | call o k ih =>
    rcases h _ (hA tr s o) with hx | h
    · exact ⟨_, List.mem_cons_self, hx⟩
    · obtain ⟨x, hx, hX⟩ := ih _ h (tr ++ [stepOf next s o (choose tr s o)])
      exact ⟨x, List.mem_cons_of_mem _ hx, hX⟩

end Prog

namespace Fallible

/-- one postcondition for the error, one for the value -/
def either (E : ε → σ → Prop) (Q : α → σ → Prop) : Except ε α → σ → Prop
  | .ok a, s => Q a s
  | .error e, s => E e s

/-- `Prog.under` for a program that stops at its first error -/
def under (A : σ → Op → χ → Prop) (I : σ → Prop) (G : Step σ Res → Prop) (p : Fallible Op Res ε α)
    (E : ε → σ → Prop) (Q : α → σ → Prop) (s : σ) : Prop := Prog.under next A I G p.run (either E Q) s

variable {next} {A : σ → Op → χ → Prop} {I : σ → Prop} {G : Step σ Res → Prop} {E : ε → σ → Prop} {s : σ}

@[simp] theorem under_pure {a : α} : under next A I G (pure a : Fallible Op Res ε α) E Q s ↔ Q a s := Iff.rfl

@[simp] theorem under_throw {e : ε} : under next A I G (throw e : Fallible Op Res ε α) E Q s ↔ E e s := Iff.rfl

variable {p : Fallible Op Res ε α} {f : α → Fallible Op Res ε β}

theorem under_bind {Q : β → σ → Prop} :
    under next A I G (p >>= f) E Q s ↔ under next A I G p E (fun a s => under next A I G (f a) E Q s) s := by
  have hpost : ∀ r s, either E (fun a s => under next A I G (f a) E Q s) r s ↔
      Prog.under next A I G (ExceptT.bindCont f r) (either E Q) s := by
    intro r s
    cases r with
    | ok a => exact Iff.rfl
    | error e => exact Iff.rfl
  exact Prog.under_bind.trans
    ⟨fun h => Prog.under_mono h fun r s => (hpost r s).2, fun h => Prog.under_mono h fun r s => (hpost r s).1⟩

theorem under_mono {E' : ε → σ → Prop} {Q R : α → σ → Prop} (h : under next A I G p E Q s) (hE : ∀ e s, E e s → E' e s)
    (hQ : ∀ a s, Q a s → R a s) : under next A I G p E' R s := by
  refine Prog.under_mono h fun r s hr => ?_
  cases r with
  | ok a => exact hQ a s hr
  | error e => exact hE e s hr

theorem under_weaken {I' : σ → Prop} {G' : Step σ Res → Prop} (h : under next A I G p E Q s) (hI : ∀ s, I s → I' s)
    (hG : ∀ x, G x → G' x) : under next A I' G' p E Q s :=
  Prog.under_weaken h hI hG

/-- the sequencing rule -/
theorem under_seq {R : β → σ → Prop} (hp : under next A I G p E Q s) (hf : ∀ a s, Q a s → under next A I G (f a) E R s) :
    under next A I G (p >>= f) E R s := under_bind.2 (under_mono hp (fun _ _ h => h) hf)

/-- the branching rule -/
theorem under_ite {b : Prop} [Decidable b] {p q : Fallible Op Res ε α} (hp : b → under next A I G p E Q s)
    (hq : ¬ b → under next A I G q E Q s) : under next A I G (if b then p else q) E Q s := by
  by_cases h : b
  · simpa [h] using hp h
  · simpa [h] using hq h

theorem under_require {c : Bool} {e : ε} {Q : Unit → σ → Prop} :
    under next A I G (require c e : Fallible Op Res ε Unit) E Q s ↔ (c = true → Q () s) ∧ (c = false → E e s) := by
  cases c with
  | true => simp [require]
  | false => simp [require]

theorem under_total {p : Prog Op Res α} :
    under next A I G (total p : Fallible Op Res ε α) E Q s ↔ p.under next A I G Q s := Prog.under_bind

theorem under_ofProg {p : Prog Op Res (Except ε α)} :
    under next A I G (ofProg p) E Q s ↔ p.under next A I G (either E Q) s := Iff.rfl

/-- a fallible program run for its outcome -/
theorem under_run {Q : Except ε α → σ → Prop} :
    Prog.under next A I G p.run Q s ↔ under next A I G p (fun e => Q (.error e)) (fun a => Q (.ok a)) s := by
  have hpost : ∀ r s, Q r s ↔ either (fun e => Q (.error e)) (fun a => Q (.ok a)) r s := by
    intro r s
    cases r with
    | ok a => exact Iff.rfl
    | error e => exact Iff.rfl
  exact ⟨fun h => Prog.under_mono h fun r s => (hpost r s).1, fun h => Prog.under_mono h fun r s => (hpost r s).2⟩

/-- An invariant that every issued operation keeps holds throughout. -/
theorem issues_under {P : Op → Prop} (hp : issues P p)
    (hstep : ∀ s o c, P o → I s → A s o c → G (stepOf next s o c) ∧ I (next s o c).2) (h : I s) :
    under next A I G p (fun _ => I) (fun _ => I) s := by
  refine Prog.under_mono (Prog.only_under (issues_iff.1 hp) hstep h) fun r s hr => ?_
  cases r with
  | ok a => exact hr.1
  | error e => exact hr.1

variable (next) in
/-- `Prog.reaches` for a program that stops at its first error -/
def reaches (A : σ → Op → χ → Prop) (X : Step σ Res → Prop) (p : Fallible Op Res ε α) (s : σ) : Prop :=
  Prog.reaches next A X p.run s

variable {X : Step σ Res → Prop}

theorem reaches_run (h : reaches next A X p s) : Prog.reaches next A X p.run s := h

theorem reaches_total {p : Prog Op Res α} (h : p.reaches next A X s) :
    reaches next A X (total p : Fallible Op Res ε α) s := Prog.reaches_left h

theorem reaches_ofProg {p : Prog Op Res (Except ε α)} (h : p.reaches next A X s) : reaches next A X (ofProg p) s := h

theorem reaches_left (h : reaches next A X p s) : reaches next A X (p >>= f) s := Prog.reaches_left h

theorem reaches_right (h : under next A I G p (fun _ _ => False) (fun a s => reaches next A X (f a) s) s) :
    reaches next A X (p >>= f) s := by
  refine Prog.reaches_right (Prog.under_mono h ?_)
  intro r s hr
  cases r with
  | ok a => exact hr
  | error e => exact hr.elim

/-! ### Success -/

variable (next) in
/-- every execution with outcomes in `A` returns a value, in `Q` -/
def succeeds (A : σ → Op → χ → Prop) (p : Fallible Op Res ε α) (Q : α → List (Step σ Res) → σ → Prop)
    (tr : List (Step σ Res)) (s : σ) : Prop :=
  p.run.within next A (fun _ => True) (fun r tr s => ∃ a, r = .ok a ∧ Q a tr s) tr s

variable {tr : List (Step σ Res)} {Q : α → List (Step σ Res) → σ → Prop}

theorem succeeds_pure {a : α} (h : Q a tr s) :
    succeeds next A (pure a : Fallible Op Res ε α) Q tr s := Prog.within_pure.2 ⟨a, rfl, h⟩

/-- the sequencing rule -/
theorem succeeds_bind {R : β → List (Step σ Res) → σ → Prop} (hp : succeeds next A p Q tr s)
    (hf : ∀ a tr s, Q a tr s → succeeds next A (f a) R tr s) : succeeds next A (p >>= f) R tr s := by
  refine Prog.within_seq hp ?_
  rintro r tr s ⟨a, rfl, hq⟩
  exact hf a tr s hq

/-- a requirement that holds, then the rest -/
theorem succeeds_require_bind {c : Bool} {e : ε} {f : Unit → Fallible Op Res ε β} {R : β → List (Step σ Res) → σ → Prop}
    (hc : c = true) (hf : succeeds next A (f ()) R tr s) : succeeds next A (require c e >>= f) R tr s := by
  subst hc
  exact hf

/-- an operation that answers with an error or a value -/
theorem succeeds_ask {o : Op} {g : Res o → Except ε α}
    (hQ : ∀ c, A s o c → ∃ a, g (next s o c).1 = .ok a ∧ Q a (tr ++ [stepOf next s o c]) (next s o c).2) :
    succeeds next A (ofProg (Prog.op o >>= fun r => pure (g r))) Q tr s :=
  Prog.within_op_bind trivial fun c hc => hQ c hc

theorem succeeds_rephrase {f : ε → ε} (h : succeeds next A p Q tr s) : succeeds next A (rephrase f p) Q tr s := by
  refine Prog.within_seq h ?_
  rintro r tr s ⟨a, rfl, hq⟩
  exact ⟨a, rfl, hq⟩

/-- **Strategies.** Against a strategy that answers as `A` allows, the program succeeds. -/
theorem succeeds_script (h : succeeds next A p Q [] s) (hA : ∀ tr s o, A s o (choose tr s o)) :
    let e := p.run.exec next s (p.run.script next choose [] s)
    ∃ a, e.out = some (.ok a) ∧ Q a e.steps e.st := by
  obtain ⟨r, hout, a, rfl, hq⟩ := Prog.within_script h hA
  exact ⟨a, hout, hq⟩

-- all are applied by their rules; unfolded, the elaborator would run the program
attribute [irreducible] Prog.under under Prog.reaches reaches succeeds

end Fallible
end AutostreamUpdater.Base
