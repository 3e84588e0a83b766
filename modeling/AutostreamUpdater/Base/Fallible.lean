/-
Programs that stop at their first error.

`Fallible` is `ExceptT` over `Prog`: an operation whose reply is an error or a value is issued by `ask`, `askOr` replaces
the error, `require` fails unless its condition holds. `ensures C p Q` holds when every execution of `p` satisfies `C` at
each point where it can be cut, also where it fails, and `Q` where it succeeds. The rules follow the ones of `Prog.wp`.
-/
import AutostreamUpdater.Base.Prog

namespace AutostreamUpdater.Base

/-- a program that returns an error or a value -/
abbrev Fallible (Op : Type) (Res : Op → Type) (ε α : Type) := ExceptT ε (Prog Op Res) α

namespace Fallible

variable {Op : Type} {Res : Op → Type} {ε α β : Type}

/-- a program that cannot fail -/
def total (p : Prog Op Res α) : Fallible Op Res ε α := ExceptT.mk (p >>= fun a => pure (.ok a))

/-- a program that returns its own error -/
def ofProg (p : Prog Op Res (Except ε α)) : Fallible Op Res ε α := ExceptT.mk p

/-- `ofProg` with another error in place of the program's own -/
def ofProgOr (e : ε) (p : Prog Op Res (Except ε α)) : Fallible Op Res ε α :=
  ExceptT.mk (p >>= fun r => pure (r.mapError fun _ => e))

/-- `p` with its error in other words -/
def rephrase (f : ε → ε) (p : Fallible Op Res ε α) : Fallible Op Res ε α :=
  ExceptT.mk (p.run >>= fun r => pure (r.mapError f))

/-- fail with `e` unless `c` holds -/
def require (c : Bool) (e : ε) : Fallible Op Res ε Unit := if c then pure () else throw e

/-! ## Bounds on the operations -/

/-- every operation the program can issue satisfies `P` -/
def issues (P : Op → Prop) (p : Fallible Op Res ε α) : Prop := p.run.Only P fun _ => True

variable {P : Op → Prop}

theorem issues_iff {p : Fallible Op Res ε α} : issues P p ↔ p.run.Only P fun _ => True := Iff.rfl

theorem issues_pure {a : α} : issues P (pure a : Fallible Op Res ε α) := trivial

theorem issues_throw {e : ε} : issues P (throw e : Fallible Op Res ε α) := trivial

theorem issues_bind {p : Fallible Op Res ε α} {f : α → Fallible Op Res ε β} (hp : issues P p)
    (hf : ∀ a, issues P (f a)) : issues P (p >>= f) := by
  refine Prog.only_seq hp ?_
  intro r _
  cases r with
  | ok a => exact hf a
  | error e => trivial

theorem issues_ite {b : Prop} [Decidable b] {p q : Fallible Op Res ε α} (hp : issues P p) (hq : issues P q) :
    issues P (if b then p else q) := by
  split
  · exact hp
  · exact hq

theorem issues_require {c : Bool} {e : ε} : issues P (require c e : Fallible Op Res ε Unit) :=
  issues_ite issues_pure issues_throw

theorem issues_mono {P' : Op → Prop} {p : Fallible Op Res ε α} (hp : issues P p) (h : ∀ o, P o → P' o) : issues P' p :=
  Prog.only_mono hp h fun _ => id

variable {p : Prog Op Res (Except ε α)}

theorem issues_ofProg (h : p.Only P fun _ => True) : issues P (ofProg p) := h

theorem issues_ofProgOr {e : ε} (h : p.Only P fun _ => True) : issues P (ofProgOr e p) :=
  Prog.only_seq h fun _ _ => trivial

theorem issues_total {p : Prog Op Res α} (h : p.Only P fun _ => True) : issues P (total p : Fallible Op Res ε α) :=
  Prog.only_seq h fun _ _ => trivial

section Rules

variable {σ χ : Type} {next : σ → (o : Op) → χ → Res o × σ} {C : List (Step σ Res) → σ → Prop}

/-- every execution satisfies `C` wherever it is cut or fails, and `Q` where it succeeds -/
def ensures (next : σ → (o : Op) → χ → Res o × σ) (C : List (Step σ Res) → σ → Prop) (p : Fallible Op Res ε α)
    (Q : α → List (Step σ Res) → σ → Prop) (tr : List (Step σ Res)) (s : σ) : Prop :=
  Prog.wp next C p.run (fun r tr s => ∀ a, r = .ok a → Q a tr s) tr s

variable {Q : α → List (Step σ Res) → σ → Prop}

theorem ensures_pure {a : α} {tr s} (hC : C tr s) (hQ : Q a tr s) :
    ensures next C (pure a : Fallible Op Res ε α) Q tr s := by
  refine ⟨hC, ?_⟩
  intro b hb
  cases hb
  exact hQ

theorem ensures_throw {e : ε} {tr s} (hC : C tr s) : ensures next C (throw e : Fallible Op Res ε α) Q tr s := by
  refine ⟨hC, ?_⟩
  intro b hb
  cases hb

theorem ensures_mono {p : Fallible Op Res ε α} {Q Q' : α → List (Step σ Res) → σ → Prop} {tr s}
    (h : ensures next C p Q tr s) (hQ : ∀ a tr s, C tr s → Q a tr s → Q' a tr s) : ensures next C p Q' tr s := by
  refine Prog.wp_post h ?_
  intro r tr s hC hq a ha
  exact hQ a tr s hC (hq a ha)

/-- a weaker condition at the cuts -/
theorem ensures_weaken {C' : List (Step σ Res) → σ → Prop} {p : Fallible Op Res ε α} {Q tr s} (h : ensures next C p Q tr s)
    (hC : ∀ tr s, C tr s → C' tr s) : ensures next C' p Q tr s := Prog.wp_weaken h hC

/-- the sequencing rule -/
theorem ensures_bind {p : Fallible Op Res ε α} {f : α → Fallible Op Res ε β} {Q R tr s} (hp : ensures next C p Q tr s)
    (hf : ∀ a tr s, C tr s → Q a tr s → ensures next C (f a) R tr s) : ensures next C (p >>= f) R tr s := by
  refine Prog.wp_seq hp ?_
  intro r tr s hC hq
  cases r with
  | ok a => exact hf a tr s hC (hq a rfl)
  | error e => exact ensures_throw hC

/-- the branching rule -/
theorem ensures_ite {b : Prop} [Decidable b] {p q : Fallible Op Res ε α} {Q tr s} (hp : b → ensures next C p Q tr s)
    (hq : ¬ b → ensures next C q Q tr s) : ensures next C (if b then p else q) Q tr s := by
  by_cases h : b
  · simpa [h] using hp h
  · simpa [h] using hq h

theorem ensures_require {c : Bool} {e : ε} {Q : Unit → List (Step σ Res) → σ → Prop} {tr s} (hC : C tr s)
    (hQ : c = true → Q () tr s) : ensures next C (require c e : Fallible Op Res ε Unit) Q tr s := by
  unfold require
  exact ensures_ite (fun h => ensures_pure hC (hQ h)) fun _ => ensures_throw hC

/-- a requirement, then the rest under it -/
theorem ensures_require_bind {c : Bool} {e : ε} {f : Unit → Fallible Op Res ε β} {R tr s} (hC : C tr s)
    (hf : c = true → ensures next C (f ()) R tr s) : ensures next C (require c e >>= f) R tr s :=
  ensures_bind (Q := fun _ tr' s' => c = true ∧ tr' = tr ∧ s' = s) (ensures_require hC fun h => ⟨h, rfl, rfl⟩)
    fun _ _ _ _ h => by
      obtain ⟨hc, rfl, rfl⟩ := h
      exact hf hc

theorem ensures_total {p : Prog Op Res α} {Q tr s} (h : p.wp next C Q tr s) :
    ensures next C (total p : Fallible Op Res ε α) Q tr s := by
  refine Prog.wp_seq h ?_
  intro a tr s hC hq
  exact ensures_pure hC hq

theorem ensures_ofProg {tr s} (h : p.wp next C (fun r tr s => ∀ a, r = .ok a → Q a tr s) tr s) :
    ensures next C (ofProg p) Q tr s := h

theorem ensures_ofProgOr {e : ε} {tr s} (h : p.wp next C (fun r tr s => ∀ a, r = .ok a → Q a tr s) tr s) :
    ensures next C (ofProgOr e p) Q tr s := by
  refine Prog.wp_seq h ?_
  intro r tr s hC hq
  cases r with
  | ok a => exact ensures_pure hC (hq a rfl)
  | error e' => exact ensures_throw hC

theorem ensures_rephrase {f : ε → ε} {p : Fallible Op Res ε α} {Q tr s} (h : ensures next C p Q tr s) :
    ensures next C (rephrase f p) Q tr s := by
  refine Prog.wp_seq h ?_
  intro r tr s hC hq
  cases r with
  | ok a => exact ensures_pure hC (hq a rfl)
  | error e => exact ensures_throw hC

/-- an operation that answers with an error or a value -/
theorem ensures_ask {o : Op} {g : Res o → Except ε α} {tr s} (hC : ∀ tr s, C tr s)
    (hQ : ∀ c a, g (next s o c).1 = .ok a → Q a (tr ++ [stepOf next s o c]) (next s o c).2) :
    ensures next C (ofProg (Prog.op o >>= fun r => pure (g r))) Q tr s := by
  refine ensures_ofProg (Prog.wp_op_bind (hC _ _) ?_)
  intro c
  exact ⟨hC _ _, hQ c⟩

/-- An invariant kept by every operation a program issues is kept by the program. -/
theorem issues_ensures {I : List (Step σ Res) → σ → Prop} {p : Fallible Op Res ε α} (hp : issues P p)
    (hstep : ∀ tr s o c, P o → I tr s → I (tr ++ [stepOf next s o c]) (next s o c).2) (hC : ∀ tr s, I tr s → C tr s)
    {tr s} (h : I tr s) : ensures next C p (fun _ tr s => I tr s) tr s := by
  refine Prog.wp_post (Prog.only_wp hp hstep hC h) ?_
  intro r tr s _ hI a _
  exact hI.1

/-- **Soundness.** What `ensures` promises holds of every execution. -/
theorem ensures_exec {p : Fallible Op Res ε α} {Q s} (h : ensures next C p Q [] s) (cs : List χ) :
    C (p.run.exec next s cs).steps (p.run.exec next s cs).st ∧
      ∀ a, (p.run.exec next s cs).out = some (.ok a) →
        Q a (p.run.exec next s cs).steps (p.run.exec next s cs).st := by
  have hexec := Prog.wp_exec h cs
  refine ⟨hexec.1, ?_⟩
  intro a ha
  exact hexec.2 _ ha a rfl

/-! ## Programs around a fallible one -/

/-- every execution satisfies `C` wherever it is cut and where it returns -/
def keeps (next : σ → (o : Op) → χ → Res o × σ) (C : List (Step σ Res) → σ → Prop) (p : Prog Op Res α)
    (tr : List (Step σ Res)) (s : σ) : Prop := p.wp next C (fun _ _ _ => True) tr s

theorem keeps_pure {a : α} {tr s} (hC : C tr s) : keeps next C (pure a : Prog Op Res α) tr s := ⟨hC, trivial⟩

theorem keeps_ite {b : Prop} [Decidable b] {p q : Prog Op Res α} {tr s} (hp : b → keeps next C p tr s)
    (hq : ¬ b → keeps next C q tr s) : keeps next C (if b then p else q) tr s := Prog.wp_ite hp hq

theorem keeps_seq {p : Prog Op Res α} {f : α → Prog Op Res β} {tr s} (hp : keeps next C p tr s)
    (hf : ∀ a tr s, C tr s → keeps next C (f a) tr s) : keeps next C (p >>= f) tr s :=
  Prog.wp_seq hp fun a tr s hC _ => hf a tr s hC

/-- a fallible program, then what follows its error and its value -/
theorem keeps_run {p : Fallible Op Res ε α} {f : Except ε α → Prog Op Res β} {Q tr s} (hp : ensures next C p Q tr s)
    (herror : ∀ e tr s, C tr s → keeps next C (f (.error e)) tr s)
    (hok : ∀ a tr s, C tr s → Q a tr s → keeps next C (f (.ok a)) tr s) : keeps next C (p.run >>= f) tr s := by
  refine Prog.wp_seq hp ?_
  intro r tr s hC hq
  cases r with
  | error e => exact herror e tr s hC
  | ok a => exact hok a tr s hC (hq a rfl)

theorem keeps_exec {p : Prog Op Res α} {s} (h : keeps next C p [] s) (cs : List χ) :
    C (p.exec next s cs).steps (p.exec next s cs).st := (Prog.wp_exec h cs).1

end Rules

-- all three are applied by their rules; unfolded, the elaborator would run the program
attribute [irreducible] issues ensures keeps

end Fallible

namespace Prog

variable {Op : Type} {Res : Op → Type} {ε α β : Type} {P : Op → Prop}

/-- `Fallible.issues` for a program that does not fail -/
def issues (P : Op → Prop) (p : Prog Op Res α) : Prop := p.Only P fun _ => True

theorem issues_iff {p : Prog Op Res α} : p.issues P ↔ p.Only P fun _ => True := Iff.rfl

theorem issues_pure {a : α} : (pure a : Prog Op Res α).issues P := trivial

theorem issues_op {o : Op} (h : P o) : (op o : Prog Op Res (Res o)).issues P := ⟨h, fun _ => trivial⟩

theorem issues_seq {p : Prog Op Res α} {f : α → Prog Op Res β} (hp : p.issues P) (hf : ∀ a, (f a).issues P) :
    (p >>= f).issues P := only_seq hp fun a _ => hf a

theorem issues_ite {b : Prop} [Decidable b] {p q : Prog Op Res α} (hp : p.issues P) (hq : q.issues P) :
    (if b then p else q).issues P := only_ite hp hq

theorem issues_run {p : Fallible Op Res ε α} (h : Fallible.issues P p) : Prog.issues P p.run := Fallible.issues_iff.1 h

attribute [irreducible] issues

end Prog
end AutostreamUpdater.Base
