/-
Finite maps as lists of entries.

A map whose entries are visited in an arbitrary order is a list with one entry per key (`MapList`), up to a permutation
(`MapList.Same`). What is found under a key, and the entries with that key, do not depend on the order.
-/
import Mathlib.Tactic

namespace AutostreamUpdater.Base

/-- the entries of a finite map in some order -/
structure MapList (κ β : Type) where
  entries : List (κ × β)
  keys : (entries.map Prod.fst).Nodup

namespace MapList

variable {κ β : Type} [DecidableEq κ] {m m' : MapList κ β}

/-- the same map, visited in another order -/
def Same (m m' : MapList κ β) : Prop := m.entries.Perm m'.entries

/-- the value under a key -/
def lookup (m : MapList κ β) (k : κ) : Option β := m.entries.lookup k

/-- the entries with a key -/
def at_ (m : MapList κ β) (k : κ) : List (κ × β) := m.entries.filter fun e => e.1 == k

theorem lookup_eq_head (m : MapList κ β) (k : κ) : m.lookup k = (m.at_ k).head?.map Prod.snd := by
  unfold lookup at_
  induction m.entries with
  | nil => rfl
  | cons e l ih =>
    obtain ⟨k', v⟩ := e
    by_cases h : k = k'
    · simp [h]
    · have hne : (k == k') = false := by simpa using h
      have hne' : (k' == k) = false := by simpa using Ne.symm h
      rw [List.lookup_cons, List.filter_cons, hne, hne', ih]
      simp

/-- a map has at most one entry with a key -/
theorem at_length_le (m : MapList κ β) (k : κ) : (m.at_ k).length ≤ 1 := by
  have hcount := List.nodup_iff_count_le_one.1 m.keys k
  rw [List.count, List.countP_map, List.countP_eq_length_filter] at hcount
  exact hcount

/-- the entries with a key that is bound -/
theorem at_eq_of_lookup {k : κ} {v : β} (h : m.lookup k = some v) : m.at_ k = [(k, v)] := by
  rw [lookup_eq_head] at h
  have hlen := m.at_length_le k
  have hkey : ∀ e ∈ m.at_ k, e.1 = k := by
    intro e he
    simpa using (List.mem_filter.1 he).2
  generalize m.at_ k = l at h hlen hkey
  match l, hlen with
  | [], _ => simp at h
  | [e], _ =>
    obtain rfl : e.2 = v := by simpa using h
    rw [← hkey e List.mem_cons_self]

omit [DecidableEq κ] in
theorem Same.symm (h : m.Same m') : m'.Same m := List.Perm.symm h

theorem Same.at_eq (h : m.Same m') (k : κ) : m.at_ k = m'.at_ k := by
  have hperm := List.Perm.filter (fun e => e.1 == k) h
  have hlen := m.at_length_le k
  unfold at_ at hlen ⊢
  generalize (m.entries.filter fun e => e.1 == k) = a at hperm hlen
  match a, hlen with
  | [], _ => exact (List.nil_perm.1 hperm).symm
  | [e], _ => exact List.singleton_perm.1 hperm

theorem Same.lookup_eq (h : m.Same m') (k : κ) : m.lookup k = m'.lookup k := by
  rw [lookup_eq_head, lookup_eq_head, h.at_eq]

omit [DecidableEq κ] in
/-- whether some entry has a property does not depend on the order -/
theorem Same.any_eq (h : m.Same m') (p : κ × β → Bool) : m.entries.any p = m'.entries.any p := by
  rw [Bool.eq_iff_iff, List.any_eq_true, List.any_eq_true]
  simp only [h.mem_iff]

end MapList
end AutostreamUpdater.Base
