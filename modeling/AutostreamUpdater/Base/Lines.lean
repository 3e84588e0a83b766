/-
Texts as lists of lines.

A text over any alphabet is split at a separator and joined again. `List.splitOn_intercalate` and
`List.intercalate_splitOn` are the two inverse laws; this file adds what an editor of such texts needs: the pieces are free
of the separator, and dropping separators from the end of the text drops the empty lines from the end of the list.
-/
import Mathlib.Tactic
import Mathlib.Data.List.DropRight

namespace AutostreamUpdater.Base

variable {α : Type} [DecidableEq α] {x : α}

/-- No piece of a split contains the separator. -/
theorem not_mem_of_mem_splitOn {text piece : List α} (h : piece ∈ text.splitOn x) : x ∉ piece := by
  induction text generalizing piece with
  | nil => simp_all
  | cons c text ih =>
    obtain ⟨first, rest, hsplit⟩ := List.exists_cons_of_ne_nil (List.splitOn_ne_nil x text)
    rw [List.splitOn_cons_eq_if_modifyHead, hsplit] at h
    rw [hsplit] at ih
    by_cases hc : c = x
    · simp only [hc, beq_self_eq_true, if_true, List.mem_cons] at h
      rcases h with rfl | h
      · simp
      · exact ih (List.mem_cons.2 h)
    · simp only [beq_eq_false_iff_ne.2 hc, Bool.false_eq_true, if_false, List.modifyHead_cons, List.mem_cons] at h
      rcases h with rfl | h
      · have := ih (List.mem_cons_self)
        simp [this, Ne.symm hc]
      · exact ih (List.mem_cons_of_mem _ h)

omit [DecidableEq α] in
/-- what is in a line is in the joined text -/
theorem mem_intercalate {lines : List (List α)} {line : List α} {c : α} (h : line ∈ lines) (hc : c ∈ line) :
    c ∈ [x].intercalate lines := by
  induction lines with
  | nil => simp at h
  | cons first lines ih =>
    cases lines with
    | nil => simp_all
    | cons second lines =>
      rw [List.intercalate_cons_cons]
      rcases List.mem_cons.1 h with rfl | h
      · simp [hc]
      · simp [ih h]

/-- what is in a piece of a split is in the text -/
theorem mem_of_mem_splitOn {text piece : List α} {c : α} (h : piece ∈ text.splitOn x) (hc : c ∈ piece) : c ∈ text := by
  have htext : [x].intercalate (text.splitOn x) = text := List.intercalate_splitOn x
  rw [← htext]
  exact mem_intercalate h hc

omit [DecidableEq α] in
/-- a last line behind others is joined to them by the separator -/
theorem intercalate_concat {lines : List (List α)} (h : lines ≠ []) (last : List α) :
    [x].intercalate (lines ++ [last]) = [x].intercalate lines ++ x :: last := by
  induction lines with
  | nil => exact absurd rfl h
  | cons first lines ih =>
    cases lines with
    | nil => simp
    | cons second lines =>
      have := ih (by simp)
      simp_all [List.intercalate_cons_cons]

/-- Separators at the end of a joined text are its empty last lines. -/
theorem rdropWhile_intercalate {lines : List (List α)} (hfree : ∀ line ∈ lines, x ∉ line) :
    ([x].intercalate lines).rdropWhile (· == x) = [x].intercalate (lines.rdropWhile (· == [])) := by
  induction lines using List.reverseRecOn with
  | nil => simp
  | append_singleton lines last ih =>
    have hlines : ∀ line ∈ lines, x ∉ line := fun line h => hfree line (List.mem_append_left _ h)
    rcases last.eq_nil_or_concat' with rfl | ⟨front, c, rfl⟩
    · rw [List.rdropWhile_concat_pos _ _ _ (by simp)]
      cases lines with
      | nil => simp
      | cons first lines =>
        rw [intercalate_concat (by simp), List.rdropWhile_concat_pos _ _ _ (by simp), ih hlines]
    · have hc : ¬ ((c == x) = true) := by
        have := hfree (front ++ [c]) (by simp)
        simp only [List.mem_append, List.mem_singleton, not_or] at this
        simpa using Ne.symm this.2
      obtain ⟨text, htext⟩ : ∃ text, [x].intercalate (lines ++ [front ++ [c]]) = text ++ [c] := by
        cases lines with
        | nil => exact ⟨front, by simp⟩
        | cons first lines =>
          refine ⟨[x].intercalate (first :: lines) ++ x :: front, ?_⟩
          rw [intercalate_concat (by simp)]
          simp
      rw [List.rdropWhile_concat_neg _ _ _ (by simp), htext, List.rdropWhile_concat_neg (· == x) _ _ hc]

end AutostreamUpdater.Base
