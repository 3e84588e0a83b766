/-
Programs that act on an outside world and may be cut short at any point.

A `Prog` returns, or issues one operation and continues with the reply. The world is a state `σ` together with
`next : σ → (o : Op) → χ → Res o × σ`, where a choice `c : χ` settles everything the program does not control: whether a
write reports an error, whether a failed write took effect all the same, what a peer answers, what the clock says. A
script is a list of choices. When the script runs out before the program returns, the process has crashed there, so
quantifying over scripts quantifies over every answer of the world and every crash point at once.

  * `exec` runs one program under one script and keeps the steps it took.
  * `wp C p Q` holds when every execution of `p` satisfies `C` at each point where it can be cut and `Q` where it returns;
    both see the steps taken so far. `wp_exec` is its soundness and `wp_bind` composes.
  * `Only P Q` bounds a program without its world: it issues operations in `P` and returns values in `Q`. `only_wp` turns
    such a bound into an invariant of the executions.
  * `serve` handles a list of requests one after another, each under its own script, with a restart of the process after
    each crash. `serve_forall` and `serve_marked` lift facts about one request to whole runs.
-/
import Mathlib.Tactic

namespace AutostreamUpdater.Base

/-- a program over the operations `Op` -/
inductive Prog (Op : Type) (Res : Op → Type) (α : Type) where
  | ret : α → Prog Op Res α
  | call : (o : Op) → (Res o → Prog Op Res α) → Prog Op Res α

namespace Prog

variable {Op : Type} {Res : Op → Type} {α β : Type}

/-- sequential composition -/
def andThen : Prog Op Res α → (α → Prog Op Res β) → Prog Op Res β
  | .ret a, f => f a
  | .call o k, f => .call o fun r => (k r).andThen f

instance : Monad (Prog Op Res) where
  pure := .ret
  bind := andThen

/-- the program that issues one operation and returns its reply -/
def op (o : Op) : Prog Op Res (Res o) := .call o .ret

/-- every operation the program can issue satisfies `P`, every value it can return satisfies `Q` -/
def Only (P : Op → Prop) (Q : α → Prop) : Prog Op Res α → Prop
  | .ret a => Q a
  | .call o k => P o ∧ ∀ r, (k r).Only P Q

variable {P P' : Op → Prop} {Q : α → Prop} {R : β → Prop}

@[simp] theorem only_pure {a : α} : (pure a : Prog Op Res α).Only P Q ↔ Q a := Iff.rfl

@[simp] theorem only_bind {p : Prog Op Res α} {f : α → Prog Op Res β} :
    (p >>= f).Only P R ↔ p.Only P fun a => (f a).Only P R := by
  induction p with
  | ret a => exact Iff.rfl
  | call o k ih => exact and_congr_right fun _ => forall_congr' fun r => ih r

theorem only_mono {Q' : α → Prop} {p : Prog Op Res α} (h : p.Only P Q) (hP : ∀ o, P o → P' o)
    (hQ : ∀ a, Q a → Q' a) : p.Only P' Q' := by
  induction p with
  | ret a => exact hQ a h
  | call o k ih => exact ⟨hP o h.1, fun r => ih r (h.2 r)⟩

/-- every program issues some operations and returns some value -/
theorem only_any (p : Prog Op Res α) : p.Only (fun _ => True) fun _ => True := by
  induction p with
  | ret a => trivial
  | call o k ih => exact ⟨trivial, ih⟩

theorem only_op_bind {o : Op} {f : Res o → Prog Op Res β} (ho : P o) (hf : ∀ r, (f r).Only P R) :
    (op o >>= f).Only P R := ⟨ho, hf⟩

theorem only_ite {b : Prop} [Decidable b] {p q : Prog Op Res α} (hp : p.Only P Q) (hq : q.Only P Q) :
    (if b then p else q).Only P Q := by
  split
  · exact hp
  · exact hq

/-- the sequencing rule: what the first program may return is what the second may start from -/
theorem only_seq {p : Prog Op Res α} {f : α → Prog Op Res β} (hp : p.Only P Q) (hf : ∀ a, Q a → (f a).Only P R) :
    (p >>= f).Only P R :=
  only_bind.2 (only_mono hp (fun _ h => h) hf)

end Prog

/-! ## Executions -/

/-- one operation that was carried out -/
structure Step (σ : Type) {Op : Type} (Res : Op → Type) where
  pre : σ
  op : Op
  res : Res op
  post : σ

/-- one execution: the steps taken, the state left behind, and the returned value unless it was cut -/
structure Exec (σ : Type) {Op : Type} (Res : Op → Type) (α : Type) where
  steps : List (Step σ Res)
  st : σ
  out : Option α

section World

variable {Op : Type} {Res : Op → Type} {α β σ χ ρ : Type} (next : σ → (o : Op) → χ → Res o × σ)

/-- the step that `o` makes in `s` under the choice `c` -/
def stepOf (s : σ) (o : Op) (c : χ) : Step σ Res := ⟨s, o, (next s o c).1, (next s o c).2⟩

/-- run a program under a script; an exhausted script is a crash -/
def Prog.exec : Prog Op Res α → σ → List χ → Exec σ Res α
  | .ret a, s, _ => ⟨[], s, some a⟩
  | .call _ _, s, [] => ⟨[], s, none⟩
  | .call o k, s, c :: cs =>
    let e := (k (next s o c).1).exec (next s o c).2 cs
    ⟨stepOf next s o c :: e.steps, e.st, e.out⟩

/-- Cut before its first operation, a program changes nothing. -/
@[simp] theorem Prog.exec_nil (p : Prog Op Res α) (s : σ) : (p.exec next s []).st = s := by
  cases p with
  | ret a => rfl
  | call o k => rfl

/-! ## Traces -/

/-- the state behind a list of steps from `s` -/
def after (s : σ) : List (Step σ Res) → σ
  | [] => s
  | x :: tr => after x.post tr

/-- every step starts in the state the one before it left -/
def Linked (s : σ) : List (Step σ Res) → Prop
  | [] => True
  | x :: tr => x.pre = s ∧ Linked x.post tr

theorem after_append (s : σ) (a b : List (Step σ Res)) : after s (a ++ b) = after (after s a) b := by
  induction a generalizing s with
  | nil => rfl
  | cons x a ih => exact ih x.post

theorem linked_append {s : σ} {a b : List (Step σ Res)} : Linked s (a ++ b) ↔ Linked s a ∧ Linked (after s a) b := by
  induction a generalizing s with
  | nil => simp [Linked, after]
  | cons x a ih => simp [Linked, after, ih, and_assoc]

theorem Prog.exec_linked (p : Prog Op Res α) (s : σ) (cs : List χ) :
    Linked s (p.exec next s cs).steps ∧ after s (p.exec next s cs).steps = (p.exec next s cs).st := by
  induction p generalizing s cs with
  | ret a => exact ⟨trivial, rfl⟩
  | call o k ih =>
    cases cs with
    | nil => exact ⟨trivial, rfl⟩
    | cons c cs => exact ⟨⟨rfl, (ih _ _ _).1⟩, (ih _ _ _).2⟩

/-- A shorter script gives the first steps of the execution. -/
theorem Prog.exec_take (p : Prog Op Res α) (s : σ) (cs : List χ) (n : ℕ) :
    (p.exec next s (cs.take n)).steps = (p.exec next s cs).steps.take n := by
  induction p generalizing s cs n with
  | ret a => simp [exec]
  | call o k ih =>
    cases cs with
    | nil => simp [exec]
    | cons c cs =>
      cases n with
      | zero => simp [exec]
      | succ n => simp [exec, ih]

/-- A step of an execution can be made its last one. -/
theorem Prog.exec_cut {p : Prog Op Res α} {s : σ} {cs : List χ} {before rest : List (Step σ Res)} {x : Step σ Res}
    (h : (p.exec next s cs).steps = before ++ x :: rest) :
    (p.exec next s (cs.take (before.length + 1))).steps = before ++ [x] ∧
      (p.exec next s (cs.take (before.length + 1))).st = x.post := by
  have hsteps : (p.exec next s (cs.take (before.length + 1))).steps = before ++ [x] := by
    rw [exec_take, h, List.take_append, List.take_of_length_le (by omega), Nat.add_sub_cancel_left]
    rfl
  refine ⟨hsteps, ?_⟩
  rw [← (p.exec_linked next s (cs.take (before.length + 1))).2, hsteps, after_append]
  rfl

/-- Every step of an execution is one the world makes. -/
theorem Prog.exec_stepOf (p : Prog Op Res α) (s : σ) (cs : List χ) :
    ∀ x ∈ (p.exec next s cs).steps, ∃ s' o c, x = stepOf next s' o c := by
  induction p generalizing s cs with
  | ret a => simp [exec]
  | call o k ih =>
    cases cs with
    | nil => simp [exec]
    | cons c cs =>
      intro x hx
      rcases List.mem_cons.1 hx with rfl | hx
      · exact ⟨s, o, c, rfl⟩
      · exact ih _ _ _ x hx

/-- Every step of a program is one of its operations. -/
theorem Prog.only_exec {P : Op → Prop} {Q : α → Prop} {p : Prog Op Res α} (h : p.Only P Q) (s : σ) (cs : List χ) :
    ∀ x ∈ (p.exec next s cs).steps, ∃ s' o c, P o ∧ x = stepOf next s' o c := by
  induction p generalizing s cs with
  | ret a => simp [exec]
  | call o k ih =>
    cases cs with
    | nil => simp [exec]
    | cons c cs =>
      intro x hx
      rcases List.mem_cons.1 hx with rfl | hx
      · exact ⟨s, o, c, h.1, rfl⟩
      · exact ih _ (h.2 _) _ cs x hx

/-- **Until rule.** What every step keeps or gives up for `D` holds at the end, or `D` has been reached. -/
theorem Linked.until {I D : σ → Prop} {s : σ} {tr : List (Step σ Res)} (h : Linked s tr)
    (hstep : ∀ x ∈ tr, I x.pre → D x.post ∨ I x.post) (hs : I s) : (∃ x ∈ tr, D x.post) ∨ I (after s tr) := by
  induction tr generalizing s with
  | nil => exact .inr hs
  | cons x tr ih =>
    obtain ⟨rfl, htr⟩ := h
    rcases hstep x List.mem_cons_self hs with hstop | hI
    · exact .inl ⟨x, List.mem_cons_self, hstop⟩
    · rcases ih htr (fun y hy => hstep y (List.mem_cons_of_mem _ hy)) hI with ⟨y, hy, hstop⟩ | hI'
      · exact .inl ⟨y, List.mem_cons_of_mem _ hy, hstop⟩
      · exact .inr hI'

/-- An invariant of every step holds in every state on the way. -/
theorem Linked.visited {I : σ → Prop} {s : σ} {tr before : List (Step σ Res)} (h : Linked s tr)
    (hstep : ∀ x ∈ tr, I x.pre → I x.post) (hs : I s) (hbefore : before <+: tr) : I (after s before) := by
  obtain ⟨rest, rfl⟩ := hbefore
  refine ((linked_append.1 h).1.until (D := fun _ => False) (fun x hx hI => .inr ?_) hs).resolve_left (by simp)
  exact hstep x (List.mem_append_left _ hx) hI

/-! ## Weakest preconditions with a crash condition -/

/-- every execution from `s`, with `tr` already behind it, satisfies `C` wherever it is cut and `Q` at its end -/
def Prog.wp (C : List (Step σ Res) → σ → Prop) :
    Prog Op Res α → (α → List (Step σ Res) → σ → Prop) → List (Step σ Res) → σ → Prop
  | .ret a, Q, tr, s => C tr s ∧ Q a tr s
  | .call o k, Q, tr, s =>
    C tr s ∧ ∀ c, (k (next s o c).1).wp C Q (tr ++ [stepOf next s o c]) (next s o c).2

variable {next} {C : List (Step σ Res) → σ → Prop}

theorem Prog.wp_crash {p : Prog Op Res α} {Q tr s} (h : p.wp next C Q tr s) : C tr s := by
  cases p with
  | ret a => exact h.1
  | call o k => exact h.1

@[simp] theorem Prog.wp_op {o : Op} {Q : Res o → List (Step σ Res) → σ → Prop} {tr s} :
    (Prog.op o : Prog Op Res (Res o)).wp next C Q tr s ↔ C tr s ∧ ∀ c,
      C (tr ++ [stepOf next s o c]) (next s o c).2 ∧ Q (next s o c).1 (tr ++ [stepOf next s o c]) (next s o c).2 :=
  Iff.rfl

/-- a weaker condition at the cuts -/
theorem Prog.wp_weaken {C' : List (Step σ Res) → σ → Prop} {p : Prog Op Res α} {Q : α → List (Step σ Res) → σ → Prop} {tr s}
    (h : p.wp next C Q tr s) (hC : ∀ tr s, C tr s → C' tr s) : p.wp next C' Q tr s := by
  induction p generalizing tr s with
  | ret a => exact ⟨hC _ _ h.1, h.2⟩
  | call o k ih => exact ⟨hC _ _ h.1, fun c => ih _ (h.2 c)⟩

/-- a weaker postcondition, where the condition at the cuts is at hand -/
theorem Prog.wp_post {p : Prog Op Res α} {Q Q' : α → List (Step σ Res) → σ → Prop} {tr s}
    (h : p.wp next C Q tr s) (hQ : ∀ a tr s, C tr s → Q a tr s → Q' a tr s) : p.wp next C Q' tr s := by
  induction p generalizing tr s with
  | ret a => exact ⟨h.1, hQ _ _ _ h.1 h.2⟩
  | call o k ih => exact ⟨h.1, fun c => ih _ (h.2 c)⟩

@[simp] theorem Prog.wp_bind {p : Prog Op Res α} {f : α → Prog Op Res β} {Q tr s} :
    (p >>= f).wp next C Q tr s ↔ p.wp next C (fun a tr s => (f a).wp next C Q tr s) tr s := by
  induction p generalizing tr s with
  | ret a => exact ⟨fun h => ⟨wp_crash h, h⟩, fun h => h.2⟩
  | call o k ih => exact and_congr_right fun _ => forall_congr' fun c => ih _

theorem Prog.wp_op_bind {o : Op} {f : Res o → Prog Op Res β} {Q tr s} (hC : C tr s)
    (hf : ∀ c, (f (next s o c).1).wp next C Q (tr ++ [stepOf next s o c]) (next s o c).2) :
    (Prog.op o >>= f).wp next C Q tr s := ⟨hC, hf⟩

/-- the branching rule -/
theorem Prog.wp_ite {b : Prop} [Decidable b] {p q : Prog Op Res α} {Q tr s} (hp : b → p.wp next C Q tr s)
    (hq : ¬ b → q.wp next C Q tr s) : (if b then p else q).wp next C Q tr s := by
  by_cases h : b
  · simpa [h] using hp h
  · simpa [h] using hq h

/-- the sequencing rule -/
theorem Prog.wp_seq {p : Prog Op Res α} {f : α → Prog Op Res β} {Q R tr s} (hp : p.wp next C Q tr s)
    (hf : ∀ a tr s, C tr s → Q a tr s → (f a).wp next C R tr s) : (p >>= f).wp next C R tr s :=
  wp_bind.2 (wp_post hp hf)

/-- **Soundness.** What `wp` promises holds of every execution, whatever its script and wherever it is cut. -/
theorem Prog.wp_exec {p : Prog Op Res α} {Q tr s} (h : p.wp next C Q tr s) (cs : List χ) :
    C (tr ++ (p.exec next s cs).steps) (p.exec next s cs).st ∧
      ∀ a, (p.exec next s cs).out = some a → Q a (tr ++ (p.exec next s cs).steps) (p.exec next s cs).st := by
  induction p generalizing tr s cs with
  | ret a =>
    refine ⟨by simpa [exec] using h.1, ?_⟩
    intro b hb
    cases hb
    simpa [exec] using h.2
  | call o k ih =>
    cases cs with
    | nil => exact ⟨by simpa [exec] using h.1, by simp [exec]⟩
    | cons c cs => simpa [exec, List.append_assoc] using ih _ (h.2 c) cs

/-- An invariant kept by every operation a program may use is kept by the program. -/
theorem Prog.only_wp {P : Op → Prop} {Q : α → Prop} {I : List (Step σ Res) → σ → Prop} {p : Prog Op Res α}
    (hp : p.Only P Q) (hstep : ∀ tr s o c, P o → I tr s → I (tr ++ [stepOf next s o c]) (next s o c).2)
    (hC : ∀ tr s, I tr s → C tr s) {tr s} (h : I tr s) : p.wp next C (fun a tr s => I tr s ∧ Q a) tr s := by
  induction p generalizing tr s with
  | ret a => exact ⟨hC _ _ h, h, hp⟩
  | call o k ih => exact ⟨hC _ _ h, fun c => ih _ (hp.2 _) (hstep _ _ _ c hp.1 h)⟩

/-! ## Runs of requests -/

variable (next) (restart : σ → σ) (handle : ρ → Prog Op Res α)

/-- one handled request: the request, the state it found, and its execution -/
structure Entry (σ : Type) {Op : Type} (Res : Op → Type) (α ρ : Type) where
  req : ρ
  pre : σ
  run : Exec σ Res α

/-- the state the next request finds: the process restarts after a crash -/
def settle (e : Exec σ Res α) : σ := if e.out.isSome then e.st else restart e.st

/-- handle the requests in turn, each under its own script -/
def serve (s : σ) : List (ρ × List χ) → List (Entry σ Res α ρ)
  | [] => []
  | (r, cs) :: rest =>
    let e := (handle r).exec next s cs
    ⟨r, s, e⟩ :: serve (settle restart e) rest

/-- the state a run leaves behind -/
def final (s : σ) : List (ρ × List χ) → σ
  | [] => s
  | (r, cs) :: rest => final (settle restart ((handle r).exec next s cs)) rest

/-- the entry of one request -/
abbrev handled (r : ρ) (s : σ) (cs : List χ) : Entry σ Res α ρ := ⟨r, s, (handle r).exec next s cs⟩

variable {next restart handle}

/-- the steps of a run, one request after another -/
def trace (run : List (Entry σ Res α ρ)) : List (Step σ Res) := run.flatMap fun e => e.run.steps

/-- Without anything done at a restart, the steps of a run are linked. -/
theorem serve_linked (s : σ) (reqs : List (ρ × List χ)) : Linked s (trace (serve next id handle s reqs)) := by
  induction reqs generalizing s with
  | nil => trivial
  | cons q rest ih =>
    obtain ⟨r, cs⟩ := q
    have hexec := (handle r).exec_linked next s cs
    simp only [serve, trace, List.flatMap_cons, linked_append]
    refine ⟨hexec.1, ?_⟩
    have hsettle : settle id ((handle r).exec next s cs) = ((handle r).exec next s cs).st := by simp [settle]
    rw [hexec.2, ← hsettle]
    exact ih _

theorem serve_stepOf (s : σ) (reqs : List (ρ × List χ)) :
    ∀ x ∈ trace (serve next restart handle s reqs), ∃ s' o c, x = stepOf next s' o c := by
  induction reqs generalizing s with
  | nil => simp [serve, trace]
  | cons q rest ih =>
    intro x hx
    simp only [serve, trace, List.flatMap_cons, List.mem_append] at hx
    rcases hx with hx | hx
    · exact (handle q.1).exec_stepOf next s q.2 x hx
    · exact ih _ x hx

/-- **Visited states.** What holds at the end of every execution of a request holds in every state a run passes through. -/
theorem serve_visited {I : σ → Prop} (hreq : ∀ r s cs, I s → I ((handle r).exec next s cs).st) {s : σ} (hs : I s)
    (reqs : List (ρ × List χ)) {tr : List (Step σ Res)} (htr : tr <+: trace (serve next id handle s reqs)) :
    I (after s tr) := by
  induction reqs generalizing s tr with
  | nil =>
    obtain rfl := List.prefix_nil.1 htr
    exact hs
  | cons q rest ih =>
    obtain ⟨r, cs⟩ := q
    have hexec := (handle r).exec_linked next s cs
    have hsettle : settle id ((handle r).exec next s cs) = ((handle r).exec next s cs).st := by simp [settle]
    simp only [serve, trace, List.flatMap_cons] at htr
    rcases List.prefix_or_prefix_of_prefix htr (List.prefix_append _ _) with h | ⟨tr', rfl⟩
    · -- the run is still in this request: a shorter script ends there
      have htake := (handle r).exec_take next s cs tr.length
      rw [← List.prefix_iff_eq_take.1 h] at htake
      rw [← htake, ((handle r).exec_linked next s _).2]
      exact hreq r s _ hs
    · rw [after_append, hexec.2]
      refine ih (hreq r s cs hs) ?_
      rw [← hsettle]
      exact (List.prefix_append_right_inj _).1 htr

/-- **Monotone runs.** A transitive relation that every execution of a request respects, between its start and its end and
from each of its steps to its end, orders the states of a whole run. -/
theorem serve_monotone {R : σ → σ → Prop} (htrans : ∀ a b c, R a b → R b c → R a c)
    (hreq : ∀ r s cs, R s ((handle r).exec next s cs).st ∧
      ∀ x ∈ ((handle r).exec next s cs).steps, R x.post ((handle r).exec next s cs).st)
    (hsettle : ∀ e : Exec σ Res α, R e.st (settle restart e)) (s : σ) (reqs : List (ρ × List χ)) :
    (trace (serve next restart handle s reqs)).Pairwise (fun x y => R x.post y.post) ∧
      (serve next restart handle s reqs).Pairwise (fun a b => ∀ x ∈ a.run.steps, R x.post b.pre) ∧
      (∀ x ∈ trace (serve next restart handle s reqs), R s x.post) ∧
      ∀ b ∈ serve next restart handle s reqs, b.pre = s ∨ R s b.pre := by
  induction reqs generalizing s with
  | nil => simp [serve, trace]
  | cons q rest ih =>
    obtain ⟨r, cs⟩ := q
    set e := (handle r).exec next s cs
    obtain ⟨htr, hent, hsteps, hpres⟩ := ih (settle restart e)
    -- a step can be made the last one of its request
    have hfirst : ∀ x ∈ e.steps, R s x.post := by
      intro x hx
      obtain ⟨before, after, hsplit⟩ := List.append_of_mem hx
      have hcut := Prog.exec_cut next (p := handle r) (s := s) hsplit
      rw [← hcut.2]
      exact (hreq r s _).1
    have hpair : e.steps.Pairwise fun x y => R x.post y.post := by
      rw [List.pairwise_iff_forall_sublist]
      intro x y hsub
      obtain ⟨l1, l2, hsplit, hx, hy⟩ := List.cons_sublist_iff.1 hsub
      obtain ⟨before, after, hl2⟩ := List.append_of_mem (List.singleton_sublist.1 hy)
      have hsplit' : e.steps = (l1 ++ before) ++ y :: after := by rw [hsplit, hl2, List.append_assoc]
      have hcut := Prog.exec_cut next (p := handle r) (s := s) hsplit'
      rw [← hcut.2]
      refine (hreq r s _).2 x ?_
      rw [hcut.1]
      exact List.mem_append_left _ (List.mem_append_left _ hx)
    have hlast : ∀ x ∈ e.steps, R x.post (settle restart e) := fun x hx =>
      htrans _ _ _ ((hreq r s cs).2 x hx) (hsettle e)
    have hend : R s (settle restart e) := htrans _ _ _ (hreq r s cs).1 (hsettle e)
    refine ⟨?_, ?_, ?_, ?_⟩
    · simp only [serve, trace, List.flatMap_cons]
      refine List.pairwise_append.2 ⟨hpair, htr, ?_⟩
      intro x hx y hy
      exact htrans _ _ _ (hlast x hx) (hsteps y hy)
    · refine List.Pairwise.cons ?_ hent
      intro b hb x hx
      rcases hpres b hb with heq | hR
      · rw [heq]
        exact hlast x hx
      · exact htrans _ _ _ (hlast x hx) hR
    · intro x hx
      simp only [serve, trace, List.flatMap_cons, List.mem_append] at hx
      rcases hx with hx | hx
      · exact hfirst x hx
      · exact htrans _ _ _ hend (hsteps x hx)
    · intro b hb
      rcases List.mem_cons.1 hb with rfl | hb
      · exact .inl rfl
      · right
        rcases hpres b hb with heq | hR
        · rw [heq]
          exact hend
        · exact htrans _ _ _ hend hR

/-- **Run rule.** An invariant that every admissible request re-establishes holds before and after each request of a run
whose requests are all admissible, and so does whatever one request guarantees. -/
theorem serve_forall {I : σ → Prop} {A P : Entry σ Res α ρ → Prop}
    (hreq : ∀ r s cs, I s → A (handled next handle r s cs) →
      P (handled next handle r s cs) ∧ I (settle restart ((handle r).exec next s cs)))
    {s : σ} (hs : I s) (reqs : List (ρ × List χ)) (hadm : ∀ x ∈ serve next restart handle s reqs, A x) :
    (∀ x ∈ serve next restart handle s reqs, P x) ∧ I (final next restart handle s reqs) := by
  induction reqs generalizing s with
  | nil => exact ⟨by simp [serve], hs⟩
  | cons q rest ih =>
    obtain ⟨r, cs⟩ := q
    have h := hreq r s cs hs (hadm _ List.mem_cons_self)
    have h' := ih h.2 fun x hx => hadm x (List.mem_cons_of_mem _ hx)
    refine ⟨?_, h'.2⟩
    intro x hx
    rcases List.mem_cons.1 hx with rfl | hx
    · exact h.1
    · exact h'.1 x hx

/-- **Pair rule.** If a request with the mark `H` leaves the state in `K`, every admissible request keeps `K`, and a
request that starts in `K` satisfies `R`, then every request after a marked one satisfies `R`, and a run with a marked
request ends in `K`. -/
theorem serve_marked {I K : σ → Prop} {A H R : Entry σ Res α ρ → Prop}
    (hI : ∀ r s cs, I s → A (handled next handle r s cs) → I (settle restart ((handle r).exec next s cs)))
    (hhit : ∀ r s cs, I s → A (handled next handle r s cs) → H (handled next handle r s cs) →
      K (settle restart ((handle r).exec next s cs)))
    (hK : ∀ r s cs, I s → A (handled next handle r s cs) → K s →
      R (handled next handle r s cs) ∧ K (settle restart ((handle r).exec next s cs)))
    {s : σ} (hs : I s) (reqs : List (ρ × List χ)) (hadm : ∀ x ∈ serve next restart handle s reqs, A x) :
    (serve next restart handle s reqs).Pairwise (fun x y => H x → R y) ∧
      ∀ x ∈ serve next restart handle s reqs, H x → K (final next restart handle s reqs) := by
  induction reqs generalizing s with
  | nil => exact ⟨List.Pairwise.nil, by simp [serve]⟩
  | cons q rest ih =>
    obtain ⟨r, cs⟩ := q
    have ha := hadm _ List.mem_cons_self
    have hrest : ∀ x ∈ serve next restart handle (settle restart ((handle r).exec next s cs)) rest, A x :=
      fun x hx => hadm x (List.mem_cons_of_mem _ hx)
    have hI' := hI r s cs hs ha
    have hafter := fun hx => serve_forall (I := fun s => I s ∧ K s) (P := R)
      (fun r s cs h ha => ⟨(hK r s cs h.1 ha h.2).1, hI r s cs h.1 ha, (hK r s cs h.1 ha h.2).2⟩)
      ⟨hI', hhit r s cs hs ha hx⟩ rest hrest
    have hih := ih hI' hrest
    refine ⟨List.Pairwise.cons (fun y hy hx => (hafter hx).1 y hy) hih.1, fun x hx hmark => ?_⟩
    rcases List.mem_cons.1 hx with rfl | hx
    · exact (hafter hmark).2.2
    · exact hih.2 x hx hmark

end World
end AutostreamUpdater.Base
