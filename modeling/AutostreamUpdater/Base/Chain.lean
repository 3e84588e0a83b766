/-
Records that point at their predecessors.

A record points nowhere, at its predecessor, or at a record that is not there (`Link`). `Chain pred a l` says that following
the links from `a` meets exactly the records `l`, `a` first, and ends at one that points nowhere. `walk` is the bounded
search for such a chain that keeps the keys it has met; `walk_iff` says what it accepts. Without the bound and the keys a
cycle of links would be followed for ever; with them every accepted start has a finite chain.
-/
import Mathlib.Tactic

namespace AutostreamUpdater.Base

/-- where a record points -/
inductive Link (α : Type) where
  | root
  | missing
  | behind (a : α)
  deriving DecidableEq, Repr

variable {α κ : Type}

/-- following the links from `a` meets the records `l` and ends there -/
inductive Chain (pred : α → Link α) : α → List α → Prop where
  | root {a : α} : pred a = .root → Chain pred a [a]
  | link {a b : α} {l : List α} : pred a = .behind b → Chain pred b l → Chain pred a (a :: l)

namespace Chain

variable {pred pred' : α → Link α} {a : α} {l l' : List α}

/-- more records do not change a chain that ends -/
theorem mono (h : Chain pred a l) (hpred : ∀ b, pred b ≠ .missing → pred' b = pred b) : Chain pred' a l := by
  induction h with
  | @root a hroot =>
    have hsame := hpred a (by simp [hroot])
    exact .root (hsame.trans hroot)
  | @link a b l hto _ ih =>
    have hsame := hpred a (by simp [hto])
    exact .link (hsame.trans hto) ih

/-- the last record of a chain points nowhere -/
theorem last_root (h : Chain pred a l) : ∃ z, l.getLast? = some z ∧ pred z = .root := by
  induction h with
  | root hroot => exact ⟨_, rfl, hroot⟩
  | @link a b l _ hrest ih =>
    obtain ⟨z, hz, hroot⟩ := ih
    refine ⟨z, ?_, hroot⟩
    rw [List.getLast?_cons, hz]
    rfl

theorem head_eq (h : Chain pred a l) : ∃ t, l = a :: t := by
  cases h with
  | root _ => exact ⟨[], rfl⟩
  | link _ _ => exact ⟨_, rfl⟩

end Chain

section Walk

variable [DecidableEq κ] (pred : α → Link α) (key : α → κ) (ok : α → Bool)

/-- follow at most `n` links, each to an acceptable record whose key has not been met -/
def walk : ℕ → α → List κ → Bool
  | 0, a, _ => match pred a with
    | .root => true
    | _ => false
  | n + 1, a, seen => match pred a with
    | .root => true
    | .missing => false
    | .behind b => ok b && !seen.contains (key b) && walk n b (key b :: seen)

variable {pred key ok}

/-- **What the walk accepts**: a chain of at most `n` links over acceptable records with new and different keys. -/
theorem walk_iff {n : ℕ} {a : α} {seen : List κ} :
    walk pred key ok n a seen = true ↔ ∃ l, Chain pred a (a :: l) ∧ l.length ≤ n ∧ (∀ b ∈ l, ok b = true) ∧
      (l.map key).Nodup ∧ ∀ b ∈ l, key b ∉ seen := by
  induction n generalizing a seen with
  | zero =>
    constructor
    · intro h
      refine ⟨[], ?_, by simp, by simp, by simp, by simp⟩
      cases hp : pred a with
      | root => exact .root hp
      | missing => simp [walk, hp] at h
      | behind b => simp [walk, hp] at h
    · intro ⟨l, hchain, hlen, _⟩
      obtain rfl : l = [] := List.length_eq_zero_iff.1 (by omega)
      cases hchain with
      | root hp => simp [walk, hp]
      | link _ hrest => cases hrest
  | succ n ih =>
    cases hp : pred a with
    | root =>
      have hwalk : walk pred key ok (n + 1) a seen = true := by simp [walk, hp]
      exact iff_of_true hwalk ⟨[], .root hp, by simp, by simp, by simp, by simp⟩
    | missing =>
      have hwalk : walk pred key ok (n + 1) a seen ≠ true := by simp [walk, hp]
      refine iff_of_false hwalk ?_
      intro ⟨l, hchain, _⟩
      cases hchain with
      | root h => cases hp.symm.trans h
      | link h _ => cases hp.symm.trans h
    | behind b =>
      have hstep : walk pred key ok (n + 1) a seen = true ↔
          ok b = true ∧ key b ∉ seen ∧ walk pred key ok n b (key b :: seen) = true := by
        simp [walk, hp, and_assoc]
      rw [hstep, ih]
      constructor
      · intro ⟨hok, hnew, l, hchain, hlen, hall, hnodup, hfresh⟩
        refine ⟨b :: l, .link hp hchain, by simpa using hlen, by simpa [hok] using hall, ?_, ?_⟩
        · rw [List.map_cons, List.nodup_cons]
          refine ⟨?_, hnodup⟩
          intro hmem
          obtain ⟨c, hc, hkey⟩ := List.mem_map.1 hmem
          exact hfresh c hc (by simp [hkey])
        · intro c hc
          rcases List.mem_cons.1 hc with rfl | hc
          · exact hnew
          · exact fun hseen => hfresh c hc (List.mem_cons_of_mem _ hseen)
      · intro ⟨l, hchain, hlen, hall, hnodup, hfresh⟩
        cases hchain with
        | root h => cases hp.symm.trans h
        | link h hrest =>
          obtain rfl : b = _ := Link.behind.inj (hp.symm.trans h)
          obtain ⟨t, rfl⟩ := hrest.head_eq
          rw [List.map_cons, List.nodup_cons] at hnodup
          refine ⟨hall b (by simp), hfresh b (by simp), t, hrest, by simpa using hlen,
            fun c hc => hall c (List.mem_cons_of_mem _ hc), hnodup.2, ?_⟩
          intro c hc hseen
          rcases List.mem_cons.1 hseen with hkey | hseen
          · exact hnodup.1 (hkey ▸ List.mem_map_of_mem hc)
          · exact hfresh c (List.mem_cons_of_mem _ hc) hseen

end Walk
end AutostreamUpdater.Base
