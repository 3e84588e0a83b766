/-
Checks that return an error or a value, over lists.

`mapM` over a checking function succeeds exactly when every element passes, and returns the values in order (`mapM_ok`, as a
`Forall₂`); `forM` is the same without values (`forM_ok`).
-/
import Mathlib.Tactic

namespace AutostreamUpdater.Base.Checked

variable {ε α β : Type}

theorem bind_ok {x : Except ε α} {f : α → Except ε β} {b : β} : x >>= f = .ok b ↔ ∃ a, x = .ok a ∧ f a = .ok b := by
  cases x with
  | error e => simp [Bind.bind, Except.bind]
  | ok a => simp [Bind.bind, Except.bind]

theorem isOk_iff {x : Except ε α} : x.isOk = true ↔ ∃ a, x = .ok a := by
  cases x with
  | error e => simp [Except.isOk, Except.toBool]
  | ok a => simp [Except.isOk, Except.toBool]

/-- a check that returns no value -/
theorem isOk_unit {x : Except ε Unit} : x.isOk = true ↔ x = .ok () := by
  rw [isOk_iff]
  exact ⟨fun ⟨_, h⟩ => h, fun h => ⟨(), h⟩⟩

theorem mapM_ok {f : α → Except ε β} {xs : List α} {ys : List β} :
    xs.mapM f = .ok ys ↔ List.Forall₂ (fun x y => f x = .ok y) xs ys := by
  induction xs generalizing ys with
  | nil => simp [pure, Except.pure, eq_comm]
  | cons x xs ih =>
    rw [List.mapM_cons, bind_ok, List.forall₂_cons_left_iff]
    constructor
    · intro ⟨y, hy, hrest⟩
      obtain ⟨ys', hys', hpure⟩ := bind_ok.1 hrest
      cases hpure
      exact ⟨y, ys', hy, ih.1 hys', rfl⟩
    · intro ⟨y, ys', hy, hys', heq⟩
      refine ⟨y, hy, bind_ok.2 ⟨ys', ih.2 hys', ?_⟩⟩
      rw [heq]
      rfl

theorem forM_ok {f : α → Except ε Unit} {xs : List α} : xs.forM f = .ok () ↔ ∀ x ∈ xs, f x = .ok () := by
  induction xs with
  | nil => simp [pure, Except.pure]
  | cons x xs ih =>
    have hstep : (x :: xs).forM f = (f x >>= fun _ => xs.forM f) := rfl
    rw [hstep, bind_ok, List.forall_mem_cons]
    constructor
    · intro ⟨_, hx, hrest⟩
      exact ⟨hx, ih.1 hrest⟩
    · intro ⟨hx, hrest⟩
      exact ⟨(), hx, ih.2 hrest⟩

end AutostreamUpdater.Base.Checked
