/-
Decimal numerals as texts.

`Nat.toDigits 10` prints and `value` reads. A numeral is canonical when it has digits only, at least one of them, and no
leading zero; the canonical numerals are exactly the printed ones (`Canonical.toDigits_value`, `canonical_toDigits`). Two
canonical numerals compare by value as they compare by length and then as texts (`Canonical.value_lt_iff`), so numbers of any
size can be ordered without reading them. `readInt64` reads a signed numeral of 64 bits.
-/
import Mathlib.Tactic
import Mathlib.Data.List.Lex
import Mathlib.Data.Char

namespace AutostreamUpdater.Base.Decimal

/-- the number a digit string stands for -/
def value (cs : List Char) : ℕ := Nat.ofDigitChars 10 cs 0

/-- a numeral in the form in which numbers are printed -/
structure Canonical (cs : List Char) : Prop where
  digits : ∀ c ∈ cs, c.isDigit = true
  nonempty : cs ≠ []
  leading : cs.head? = some '0' → cs.length = 1

/-! ## The value of a digit string -/

@[simp] theorem value_nil : value [] = 0 := rfl

theorem value_concat (cs : List Char) (c : Char) : value (cs ++ [c]) = 10 * value cs + (c.toNat - 48) := by
  simp [value, Nat.ofDigitChars_append, Nat.ofDigitChars_cons]

theorem value_cons (c : Char) (cs : List Char) : value (c :: cs) = (c.toNat - 48) * 10 ^ cs.length + value cs := by
  induction cs using List.reverseRecOn with
  | nil => simp [value, Nat.ofDigitChars_cons]
  | append_singleton cs d ih =>
    rw [← List.cons_append, value_concat, value_concat, ih, List.length_append, List.length_singleton, pow_succ]
    ring

theorem digit_bounds {c : Char} (h : c.isDigit = true) : 48 ≤ c.toNat ∧ c.toNat ≤ 57 := by
  simp only [Char.isDigit, Bool.and_eq_true, decide_eq_true_eq] at h
  exact ⟨h.1, h.2⟩

/-- A digit string stands for less than the next power of ten. -/
theorem value_lt_pow {cs : List Char} (h : ∀ c ∈ cs, c.isDigit = true) : value cs < 10 ^ cs.length := by
  induction cs with
  | nil => simp
  | cons c cs ih =>
    have htail := ih fun d hd => h d (List.mem_cons_of_mem _ hd)
    have hdigit := digit_bounds (h c List.mem_cons_self)
    rw [value_cons, List.length_cons, pow_succ]
    have hfirst : (c.toNat - 48) * 10 ^ cs.length ≤ 9 * 10 ^ cs.length := Nat.mul_le_mul_right _ (by omega)
    omega

/-- A digit string with no leading zero stands for at least the power of ten of its length. -/
theorem pow_le_value {c : Char} {cs : List Char} (hc : c.isDigit = true) (h0 : c ≠ '0') :
    10 ^ cs.length ≤ value (c :: cs) := by
  have hdigit := digit_bounds hc
  have hne : c.toNat ≠ 48 := fun h => h0 (Char.toNat_inj.1 h)
  rw [value_cons]
  calc 10 ^ cs.length = 1 * 10 ^ cs.length := (one_mul _).symm
    _ ≤ (c.toNat - 48) * 10 ^ cs.length := Nat.mul_le_mul_right _ (by omega)
    _ ≤ _ := Nat.le_add_right _ _

/-- Digit strings of one length compare by value as they compare as texts. -/
theorem value_lt_iff_lt {a b : List Char} (ha : ∀ c ∈ a, c.isDigit = true) (hb : ∀ c ∈ b, c.isDigit = true)
    (hlen : a.length = b.length) : value a < value b ↔ a < b := by
  induction a generalizing b with
  | nil =>
    rw [List.length_nil, eq_comm, List.length_eq_zero_iff] at hlen
    simp [hlen]
  | cons c a ih =>
    cases b with
    | nil => simp at hlen
    | cons d b =>
      have hrec := ih (fun x hx => ha x (List.mem_cons_of_mem _ hx)) (fun x hx => hb x (List.mem_cons_of_mem _ hx))
        (Nat.succ.inj hlen)
      have hc := digit_bounds (ha c List.mem_cons_self)
      have hd := digit_bounds (hb d List.mem_cons_self)
      have hlta := value_lt_pow fun x hx => ha x (List.mem_cons_of_mem _ hx)
      have hltb := value_lt_pow fun x hx => hb x (List.mem_cons_of_mem _ hx)
      rw [← Nat.succ.inj hlen] at hltb
      rw [value_cons, value_cons, ← Nat.succ.inj hlen, List.cons_lt_cons_iff]
      -- the first digits decide, and the rest cannot make up for a smaller one
      rcases lt_trichotomy c.toNat d.toNat with hcd | hcd | hcd
      · have hstep : (c.toNat - 48 + 1) * 10 ^ a.length ≤ (d.toNat - 48) * 10 ^ a.length :=
          Nat.mul_le_mul_right _ (by omega)
        rw [Nat.add_mul, one_mul] at hstep
        exact ⟨fun _ => .inl hcd, fun _ => by omega⟩
      · have heq := Char.toNat_inj.1 hcd
        subst heq
        simp [hrec]
      · have hstep : (d.toNat - 48 + 1) * 10 ^ a.length ≤ (c.toNat - 48) * 10 ^ a.length :=
          Nat.mul_le_mul_right _ (by omega)
        rw [Nat.add_mul, one_mul] at hstep
        have hne : c ≠ d := fun h => absurd (congrArg Char.toNat h) (by omega)
        have hnlt : ¬ c < d := fun h => absurd (show c.toNat < d.toNat from h) (by omega)
        exact ⟨fun h => absurd h (by omega), fun h => absurd h (by simp [hne, hnlt])⟩

/-! ## Canonical numerals -/

/-- a longer canonical numeral stands for a larger number -/
theorem Canonical.value_lt_of_length_lt {a b : List Char} (ha : Canonical a) (hb : Canonical b)
    (h : a.length < b.length) : value a < value b := by
  cases b with
  | nil => simp at h
  | cons d b =>
    have hpos := List.length_pos_iff.2 ha.nonempty
    have hd : d ≠ '0' := by
      rintro rfl
      have := hb.leading rfl
      omega
    calc value a < 10 ^ a.length := value_lt_pow ha.digits
      _ ≤ 10 ^ b.length := Nat.pow_le_pow_right (by omega) (Nat.lt_succ_iff.1 h)
      _ ≤ value (d :: b) := pow_le_value (hb.digits d List.mem_cons_self) hd

/-- **Canonical numerals compare by value as they compare by length and then as texts.** -/
theorem Canonical.value_lt_iff {a b : List Char} (ha : Canonical a) (hb : Canonical b) :
    value a < value b ↔ a.length < b.length ∨ a.length = b.length ∧ a < b := by
  rcases lt_trichotomy a.length b.length with h | h | h
  · simp [h, ha.value_lt_of_length_lt hb h]
  · simp [h, value_lt_iff_lt ha.digits hb.digits h]
  · have := hb.value_lt_of_length_lt ha h
    constructor
    · intro hlt
      omega
    · intro hor
      omega

/-- reading what was printed gives the number back -/
@[simp] theorem value_toDigits (n : ℕ) : value (Nat.toDigits 10 n) = n := Nat.ofDigitChars_ten_toDigits

theorem toDigits_injective : Function.Injective (Nat.toDigits 10) := Function.LeftInverse.injective value_toDigits

theorem isDigit_of_mem_toDigits {n : ℕ} {c : Char} (h : c ∈ Nat.toDigits 10 n) : c.isDigit = true :=
  Nat.isDigit_of_mem_toDigits (by decide) (by decide) h

/-- a positive number is printed with no leading zero -/
theorem head_toDigits_ne {n : ℕ} (h : 0 < n) : (Nat.toDigits 10 n).head? ≠ some '0' := by
  induction n using Nat.strongRecOn with
  | ind n ih =>
    rw [Nat.toDigits_eq_if (by decide)]
    split
    · simp only [List.head?_cons, ne_eq, Option.some.injEq, Nat.digitChar_eq_zero]
      omega
    · rw [List.head?_append_of_ne_nil _ Nat.toDigits_ne_nil]
      exact ih (n / 10) (by omega) (by omega)

theorem canonical_toDigits (n : ℕ) : Canonical (Nat.toDigits 10 n) where
  digits := fun _ => isDigit_of_mem_toDigits
  nonempty := Nat.toDigits_ne_nil
  leading := by
    intro h
    rcases Nat.eq_zero_or_pos n with rfl | hn
    · rfl
    · exact absurd h (head_toDigits_ne hn)

/-- equal values of canonical numerals, equal texts -/
theorem Canonical.eq_of_value_eq {a b : List Char} (ha : Canonical a) (hb : Canonical b) (h : value a = value b) :
    a = b := by
  have hab := ha.value_lt_iff hb
  have hba := hb.value_lt_iff ha
  have hlen : a.length = b.length := by omega
  simp only [h, lt_irrefl, hlen, true_and, false_or, false_iff] at hab hba
  exact le_antisymm (not_lt.1 hba) (not_lt.1 hab)

/-- **Printing what was read gives a canonical numeral back.** -/
theorem Canonical.toDigits_value {cs : List Char} (h : Canonical cs) : Nat.toDigits 10 (value cs) = cs :=
  (canonical_toDigits _).eq_of_value_eq h (value_toDigits _)

/-! ## Signed numerals of 64 bits -/

/-- at least one digit and nothing else -/
def isNumeral (cs : List Char) : Bool := !cs.isEmpty && cs.all Char.isDigit

/-- a sign and digits, within 64 bits -/
def readInt64 : List Char → Option ℤ
  | '-' :: ds => if isNumeral ds && value ds ≤ 2 ^ 63 then some (-(value ds : ℤ)) else none
  | '+' :: ds => if isNumeral ds && value ds < 2 ^ 63 then some (value ds : ℤ) else none
  | ds => if isNumeral ds && value ds < 2 ^ 63 then some (value ds : ℤ) else none

theorem readInt64_lt {cs : List Char} {n : ℤ} (h : readInt64 cs = some n) : n < 2 ^ 63 := by
  unfold readInt64 at h
  split at h
  all_goals
    split_ifs at h with hread
    simp only [Bool.and_eq_true, decide_eq_true_eq] at hread
    have := Option.some.inj h
    omega

theorem isNumeral_toDigits (n : ℕ) : isNumeral (Nat.toDigits 10 n) = true := by
  simp only [isNumeral, Bool.and_eq_true, Bool.not_eq_true', List.isEmpty_eq_false_iff, List.all_eq_true]
  exact ⟨Nat.toDigits_ne_nil, fun c hc => isDigit_of_mem_toDigits hc⟩

/-- **A printed number is read back.** -/
theorem readInt64_toDigits {n : ℕ} (h : n < 2 ^ 63) : readInt64 (Nat.toDigits 10 n) = some (n : ℤ) := by
  have hsign : ∀ c ds, Nat.toDigits 10 n = c :: ds → c ≠ '-' ∧ c ≠ '+' := by
    intro c ds hcons
    have hdigit := isDigit_of_mem_toDigits (n := n) (c := c) (by simp [hcons])
    constructor
    · rintro rfl
      exact absurd hdigit (by decide)
    · rintro rfl
      exact absurd hdigit (by decide)
  have hread : isNumeral (Nat.toDigits 10 n) = true := isNumeral_toDigits n
  unfold readInt64
  split
  · rename_i ds hcons
    exact absurd rfl (hsign _ _ hcons).1
  · rename_i ds hcons
    exact absurd rfl (hsign _ _ hcons).2
  · rw [hread, value_toDigits, if_pos (by simpa using h)]

end AutostreamUpdater.Base.Decimal
