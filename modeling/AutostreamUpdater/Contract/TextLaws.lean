/-
Laws of the text functions: trimming, lowering and digest normalisation change nothing the second time.
-/
import AutostreamUpdater.Contract.Text

namespace AutostreamUpdater.Contract

/-! ## Bytes -/

theorem textBytes_append (s t : String) : textBytes (s ++ t) = textBytes s ++ textBytes t := by simp [textBytes]

theorem byteChar_ofNat {c : Char} (h : c.toNat < 256) : byteChar (UInt8.ofNat c.toNat) = c := by
  unfold byteChar
  rw [UInt8.toNat_ofNat', Nat.mod_eq_of_lt (by simpa using h)]
  exact Char.ofNat_toNat c

/-! ## Trimming -/

/-- white space taken off both ends -/
def trimChars (l : List Char) : List Char := ((l.dropWhile isSpace).reverse.dropWhile isSpace).reverse

theorem trimSpace_eq (s : String) : trimSpace s = String.ofList (trimChars s.toList) := rfl

@[simp] theorem trimSpace_toList (s : String) : (trimSpace s).toList = trimChars s.toList := by
  simp [trimSpace_eq]

/-- a text that neither begins nor ends with white space -/
def Trimmed (l : List Char) : Prop := (∀ c, l.head? = some c → isSpace c = false) ∧ ∀ c, l.getLast? = some c → isSpace c = false

variable {c : Char}

theorem dropWhile_head {p : Char → Bool} {l : List Char} (h : (l.dropWhile p).head? = some c) : p c = false := by
  induction l with
  | nil => simp at h
  | cons a l ih =>
    by_cases ha : p a = true
    · simp only [List.dropWhile_cons, ha, if_true] at h
      exact ih h
    · simp only [List.dropWhile_cons, ha, if_false, List.head?_cons, Option.some.injEq, Bool.false_eq_true] at h
      rw [← h]
      simpa using ha

theorem dropWhile_of_head {p : Char → Bool} {l : List Char} (h : ∀ c, l.head? = some c → p c = false) :
    l.dropWhile p = l := by
  cases l with
  | nil => rfl
  | cons a l => simp [h a rfl]

theorem trimChars_trimmed (l : List Char) : Trimmed (trimChars l) := by
  have hlast : ∀ c, (trimChars l).getLast? = some c → isSpace c = false := by
    intro c hc
    rw [trimChars, List.getLast?_reverse] at hc
    exact dropWhile_head hc
  refine ⟨fun c hc => ?_, hlast⟩
  -- the head survives the second trimming, which only takes a tail off
  have hsuffix := List.dropWhile_suffix (l := (l.dropWhile isSpace).reverse) isSpace
  have hpre : trimChars l <+: l.dropWhile isSpace := by
    have := List.reverse_prefix.2 hsuffix
    simpa [trimChars] using this
  obtain ⟨t, ht⟩ := hpre
  have hhead : (l.dropWhile isSpace).head? = some c := by
    rw [← ht]
    cases hl : trimChars l with
    | nil => simp [hl] at hc
    | cons a as => simpa [hl] using hc
  exact dropWhile_head hhead

theorem trimChars_of_trimmed {l : List Char} (h : Trimmed l) : trimChars l = l := by
  have hfirst := dropWhile_of_head h.1
  have hsecond : l.reverse.dropWhile isSpace = l.reverse := by
    refine dropWhile_of_head fun c hc => h.2 c ?_
    simpa [List.head?_reverse] using hc
  rw [trimChars, hfirst, hsecond, List.reverse_reverse]

@[simp] theorem trimChars_trimChars (l : List Char) : trimChars (trimChars l) = trimChars l :=
  trimChars_of_trimmed (trimChars_trimmed l)

/-- Trimming a trimmed text changes nothing. -/
@[simp] theorem trimSpace_trimSpace (s : String) : trimSpace (trimSpace s) = trimSpace s := by
  simp [trimSpace_eq]

/-! ## Lower case -/

theorem toLower_of_not_upper (h : ¬ (c.val ≥ 'A'.val ∧ c.val ≤ 'Z'.val)) : c.toLower = c := by
  unfold Char.toLower
  rw [dif_neg h]

theorem toLower_toLower_char (c : Char) : c.toLower.toLower = c.toLower := by
  by_cases h : c.val ≥ 'A'.val ∧ c.val ≤ 'Z'.val
  · -- the lowered letter lies behind the upper-case ones
    apply toLower_of_not_upper
    have hA : 65 ≤ c.val.toNat := UInt32.le_iff_toNat_le.1 h.1
    have hZ : c.val.toNat ≤ 90 := UInt32.le_iff_toNat_le.1 h.2
    have hval : c.toLower.val = c.val + 32 := by
      unfold Char.toLower
      rw [dif_pos h]
      rfl
    have hnat : c.toLower.val.toNat = c.val.toNat + 32 := by
      have h32 : (32 : UInt32).toNat = 32 := rfl
      rw [hval, UInt32.toNat_add, h32]
      omega
    intro hh
    have hZ' : c.toLower.val.toNat ≤ 90 := UInt32.le_iff_toNat_le.1 hh.2
    omega
  · rw [toLower_of_not_upper h, toLower_of_not_upper h]

theorem toLower_toList (s : String) : (toLower s).toList = s.toList.map Char.toLower := by simp [toLower]

@[simp] theorem toLower_toLower (s : String) : toLower (toLower s) = toLower s := by
  simp [toLower, Function.comp_def, toLower_toLower_char]

/-- every letter is in lower case -/
theorem trimSpace_toLower_lower (s : String) : toLower (trimSpace (toLower s)) = trimSpace (toLower s) := by
  have hmem : ∀ c ∈ trimChars (s.toList.map Char.toLower), c.toLower = c := by
    intro c hc
    have hin : c ∈ s.toList.map Char.toLower := by
      have hc' : c ∈ (s.toList.map Char.toLower).dropWhile isSpace := by
        simpa using (List.dropWhile_suffix isSpace).mem (List.mem_reverse.1 hc)
      exact (List.dropWhile_suffix isSpace).mem hc'
    obtain ⟨d, -, rfl⟩ := List.mem_map.1 hin
    exact toLower_toLower_char d
  have hmap : (trimChars (s.toList.map Char.toLower)).map Char.toLower = trimChars (s.toList.map Char.toLower) := by
    conv_rhs => rw [← List.map_id (trimChars (s.toList.map Char.toLower))]
    exact List.map_congr_left hmem
  simp [toLower, trimSpace_eq, hmap]

/-! ## Digests -/

/-- the algorithm in front of a bare digest -/
def withAlgorithm (t : String) : String :=
  if t.toList.length == 64 && !(t.toList.take 7 == "sha256:".toList) then "sha256:" ++ t else t

theorem normalizeDigest_eq (d : String) : normalizeDigest d = withAlgorithm (trimSpace (toLower d)) := rfl

/-- a text that lowering and trimming leave alone -/
def Settled (t : String) : Prop := trimSpace (toLower t) = t

theorem trimSpace_toLower_settled (d : String) : Settled (trimSpace (toLower d)) := by
  rw [Settled, trimSpace_toLower_lower, trimSpace_trimSpace]

theorem settled_algorithm {t : String} (hsettled : Settled t) (hlen : t.toList.length = 64) : Settled ("sha256:" ++ t) := by
  have hlower : (toLower t).toList = t.toList := by
    have hlen' : (toLower t).toList.length = 64 := by rw [toLower_toList, List.length_map, hlen]
    have hlong : (trimChars (toLower t).toList).length = 64 := by rw [← trimSpace_toList, hsettled, hlen]
    have hle : trimChars (toLower t).toList <:+: (toLower t).toList := by
      have h1 := List.reverse_prefix.2 (List.dropWhile_suffix (l := ((toLower t).toList.dropWhile isSpace).reverse) isSpace)
      rw [List.reverse_reverse] at h1
      exact h1.isInfix.trans (List.dropWhile_suffix isSpace).isInfix
    rw [← hle.eq_of_length (by omega), ← trimSpace_toList, hsettled]
  have hchars : (toLower ("sha256:" ++ t)).toList = "sha256:".toList ++ t.toList := by
    have hpre : ("sha256:".toList).map Char.toLower = "sha256:".toList := by decide
    rw [toLower_toList, String.toList_append, List.map_append, hpre, ← toLower_toList, hlower]
  have htrim : Trimmed ("sha256:".toList ++ t.toList) := by
    refine ⟨fun c hc => ?_, fun c hc => ?_⟩
    · have hs : c = 's' := by simpa using hc.symm
      rw [hs]
      decide
    · have hne : t.toList ≠ [] := by
        intro hnil
        simp [hnil] at hlen
      rw [List.getLast?_append_of_ne_nil _ hne, ← hsettled, trimSpace_toList] at hc
      exact (trimChars_trimmed _).2 c hc
  rw [Settled, trimSpace_eq, hchars, trimChars_of_trimmed htrim, ← String.toList_append, String.ofList_toList]

/-- Normalising a normalised digest changes nothing. -/
@[simp] theorem normalizeDigest_normalizeDigest (d : String) : normalizeDigest (normalizeDigest d) = normalizeDigest d := by
  have hsettled := trimSpace_toLower_settled d
  simp only [normalizeDigest_eq]
  generalize trimSpace (toLower d) = t at hsettled
  by_cases h : (t.toList.length == 64 && !(t.toList.take 7 == "sha256:".toList)) = true
  · have hlen : t.toList.length = 64 := by
      rw [Bool.and_eq_true, beq_iff_eq] at h
      exact h.1
    have hlong : ("sha256:" ++ t).toList.length = 71 := by
      rw [String.toList_append, List.length_append, hlen]
      rfl
    have hfirst : withAlgorithm t = "sha256:" ++ t := if_pos h
    rw [hfirst, settled_algorithm hsettled hlen, withAlgorithm, hlong]
    rfl
  · have hfirst : withAlgorithm t = t := if_neg h
    rw [hfirst, hsettled, hfirst]

/-! ## Hexadecimal texts -/

theorem isHex_toNat (h : isHex c = true) :
    (48 ≤ c.val.toNat ∧ c.val.toNat ≤ 57) ∨ (97 ≤ c.val.toNat ∧ c.val.toNat ≤ 102) := by
  simp only [isHex, isDigit, Bool.or_eq_true, Bool.and_eq_true, decide_eq_true_eq] at h
  rcases h with ⟨h1, h2⟩ | ⟨h1, h2⟩
  · exact .inl ⟨UInt32.le_iff_toNat_le.1 h1, UInt32.le_iff_toNat_le.1 h2⟩
  · exact .inr ⟨UInt32.le_iff_toNat_le.1 h1, UInt32.le_iff_toNat_le.1 h2⟩

theorem isHex_toLower (h : isHex c = true) : c.toLower = c := by
  apply toLower_of_not_upper
  rintro ⟨hA, hZ⟩
  have hA : 65 ≤ c.val.toNat := UInt32.le_iff_toNat_le.1 hA
  have hZ : c.val.toNat ≤ 90 := UInt32.le_iff_toNat_le.1 hZ
  have := isHex_toNat h
  omega

theorem isHex_not_space (h : isHex c = true) : isSpace c = false := by
  have hnat : c.toNat = c.val.toNat := rfl
  have := isHex_toNat h
  simp only [isSpace, Bool.or_eq_false_iff, List.contains_eq_mem, decide_eq_false_iff_not, List.mem_cons, List.not_mem_nil,
    or_false, not_or, Bool.and_eq_false_iff]
  omega

variable {s : String}

/-- a text of the digest alphabet: hexadecimal digits behind an optional algorithm -/
theorem settled_of_chars (hlower : ∀ c ∈ s.toList, c.toLower = c) (hspace : ∀ c ∈ s.toList, isSpace c = false) :
    Settled s := by
  have hmap : s.toList.map Char.toLower = s.toList := by
    conv_rhs => rw [← List.map_id s.toList]
    exact List.map_congr_left hlower
  have htrim : Trimmed s.toList :=
    ⟨fun c hc => hspace c (List.mem_of_mem_head? hc), fun c hc => hspace c (List.mem_of_mem_getLast? hc)⟩
  rw [Settled, trimSpace_eq, toLower_toList, hmap, trimChars_of_trimmed htrim, String.ofList_toList]

theorem settled_hash (h : mutationPlanHashPattern s = true) : Settled s := by
  simp only [mutationPlanHashPattern, Bool.and_eq_true, beq_iff_eq, List.all_eq_true] at h
  exact settled_of_chars (fun c hc => isHex_toLower (h.2 c hc)) fun c hc => isHex_not_space (h.2 c hc)

theorem settled_digest (h : digestPattern s = true) : Settled s := by
  simp only [digestPattern, Bool.and_eq_true, beq_iff_eq, List.all_eq_true] at h
  have hchars : ∀ c ∈ s.toList, c ∈ "sha256:".toList ∨ isHex c = true := by
    intro c hc
    rw [← List.take_append_drop 7 s.toList, List.mem_append, h.1.1] at hc
    exact hc.imp_right (h.2 c)
  have halgorithm : ∀ c ∈ "sha256:".toList, c.toLower = c ∧ isSpace c = false := by simp [isSpace]
  refine settled_of_chars (fun c hc => ?_) fun c hc => ?_
  · exact (hchars c hc).elim (fun h => (halgorithm c h).1) isHex_toLower
  · exact (hchars c hc).elim (fun h => (halgorithm c h).2) isHex_not_space

/-- A bare digest gets its algorithm. -/
theorem normalizeDigest_hash (h : mutationPlanHashPattern s = true) : normalizeDigest s = "sha256:" ++ s := by
  rw [normalizeDigest_eq, settled_hash h, withAlgorithm, if_pos]
  simp only [mutationPlanHashPattern, Bool.and_eq_true, beq_iff_eq, List.all_eq_true] at h
  simp only [h.1, beq_self_eq_true, Bool.true_and, Bool.not_eq_true', beq_eq_false_iff_ne, ne_eq]
  -- an `s` is not a hexadecimal digit
  intro htake
  have hmem : 's' ∈ s.toList := List.mem_of_mem_take (i := 7) (by rw [htake]; decide)
  have hs := h.2 _ hmem
  revert hs
  decide

/-- A digest with its algorithm is normal. -/
theorem normalizeDigest_digest (h : digestPattern s = true) : normalizeDigest s = s := by
  rw [normalizeDigest_eq, settled_digest h, withAlgorithm, if_neg]
  simp only [digestPattern, Bool.and_eq_true, beq_iff_eq] at h
  simp [h.1.2]

theorem digestPattern_hash (h : mutationPlanHashPattern s = true) : digestPattern ("sha256:" ++ s) = true := by
  simp only [mutationPlanHashPattern, Bool.and_eq_true, beq_iff_eq, List.all_eq_true] at h
  have hlen : "sha256:".toList.length = 7 := rfl
  have htake : ("sha256:".toList ++ s.toList).take 7 = "sha256:".toList := List.take_left' hlen
  have hdrop : ("sha256:".toList ++ s.toList).drop 7 = s.toList := List.drop_left' hlen
  simp only [digestPattern, String.toList_append, htake, hdrop, List.length_append, hlen, h.1, beq_self_eq_true,
    Bool.true_and, List.all_eq_true]
  exact h.2

/-! ## The characters of a version and of a digest -/

theorem isAlnum_toNat (h : isAlnum c = true) :
    (48 ≤ c.toNat ∧ c.toNat ≤ 57) ∨ (97 ≤ c.toNat ∧ c.toNat ≤ 122) ∨ (65 ≤ c.toNat ∧ c.toNat ≤ 90) := by
  simp only [isAlnum, isDigit, Bool.or_eq_true, Bool.and_eq_true, decide_eq_true_eq] at h
  rcases h with (⟨h1, h2⟩ | ⟨h1, h2⟩) | ⟨h1, h2⟩
  · exact .inl ⟨UInt32.le_iff_toNat_le.1 h1, UInt32.le_iff_toNat_le.1 h2⟩
  · exact .inr (.inl ⟨UInt32.le_iff_toNat_le.1 h1, UInt32.le_iff_toNat_le.1 h2⟩)
  · exact .inr (.inr ⟨UInt32.le_iff_toNat_le.1 h1, UInt32.le_iff_toNat_le.1 h2⟩)

theorem isHex_isAlnum (h : isHex c = true) : isAlnum c = true := by
  simp only [isHex, isAlnum, Bool.or_eq_true, Bool.and_eq_true, decide_eq_true_eq] at h ⊢
  rcases h with h | h
  · exact .inl (.inl h)
  · refine .inl (.inr ⟨h.1, Char.le_trans h.2 (by decide)⟩)

/-- a character of an identifier, a version or a digest is plain ASCII without white space and `@` -/
theorem isIdentChar_toNat (h : isIdentChar c = true) : 45 ≤ c.toNat ∧ c.toNat ≤ 122 ∧ c.toNat ≠ 64 := by
  simp only [isIdentChar, Bool.or_eq_true, beq_iff_eq] at h
  rcases h with (((h | rfl) | rfl) | rfl) | rfl
  · have := isAlnum_toNat h
    omega
  all_goals decide

theorem isIdentChar_not_space (h : isIdentChar c = true) : isSpace c = false := by
  have := isIdentChar_toNat h
  simp only [isSpace, Bool.or_eq_false_iff, List.contains_eq_mem, decide_eq_false_iff_not, List.mem_cons, List.not_mem_nil,
    or_false, not_or, Bool.and_eq_false_iff]
  omega

theorem isAlnum_isIdentChar (h : isAlnum c = true) : isIdentChar c = true := by simp [isIdentChar, h]

theorem afterChar_eq {d : Char} {l r : List Char} (h : afterChar d l = some r) : l = d :: r := by
  cases l with
  | nil => simp [afterChar] at h
  | cons c l =>
    by_cases hc : c = d
    · simp_all [afterChar]
    · simp [afterChar, hc] at h

theorem afterDigits_eq {l r : List Char} (h : afterDigits l = some r) :
    ∃ digits, l = digits ++ r ∧ ∀ c ∈ digits, isDigit c = true := by
  cases l with
  | nil => simp [afterDigits] at h
  | cons c l =>
    by_cases hc : isDigit c = true
    · simp only [afterDigits, hc, if_true, Option.some.injEq] at h
      refine ⟨c :: l.takeWhile isDigit, ?_, ?_⟩
      · rw [← h, List.cons_append, List.takeWhile_append_dropWhile]
      · intro d hd
        rcases List.mem_cons.1 hd with rfl | hd
        · exact hc
        · exact List.all_eq_true.1 List.all_takeWhile d hd
    · simp [afterDigits, hc] at h

theorem releaseSuffix_chars {open_ : Bool} {l : List Char} (h : releaseSuffix open_ l = true) :
    ∀ c ∈ l, isAlnum c = true ∨ c = '.' ∨ c = '-' := by
  induction l generalizing open_ with
  | nil => simp
  | cons d l ih =>
    intro c hc
    by_cases hd : isAlnum d = true
    · simp only [releaseSuffix, hd, if_true] at h
      rcases List.mem_cons.1 hc with rfl | hc
      · exact .inl hd
      · exact ih h c hc
    · simp only [releaseSuffix, hd, Bool.false_eq_true, if_false, Bool.and_eq_true, Bool.or_eq_true, beq_iff_eq] at h
      rcases List.mem_cons.1 hc with rfl | hc
      · exact .inr h.1.2
      · exact ih h.2 c hc

/-- a version is the letter `v`, three groups of digits and perhaps a suffix behind a hyphen -/
theorem versionPattern_split (h : versionPattern s = true) :
    ∃ d1 d2 d3 rest : List Char, s.toList = 'v' :: (d1 ++ '.' :: (d2 ++ '.' :: (d3 ++ rest))) ∧
      (∀ c ∈ d1 ++ d2 ++ d3, isDigit c = true) ∧
      (rest = [] ∨ ∃ suffix, rest = '-' :: suffix ∧ ∀ c ∈ suffix, isAlnum c = true ∨ c = '.' ∨ c = '-') := by
  simp only [versionPattern] at h
  generalize hcore : ((((((afterChar 'v' s.toList).bind afterDigits).bind (afterChar '.')).bind afterDigits).bind
    (afterChar '.')).bind afterDigits) = core at h
  cases core with
  | none => simp at h
  | some rest =>
    simp only [Option.bind_eq_some_iff] at hcore
    obtain ⟨r5, ⟨r4, ⟨r3, ⟨r2, ⟨r1, hv, h1⟩, hdot1⟩, h2⟩, hdot2⟩, h3⟩ := hcore
    obtain ⟨d1, rfl, hd1⟩ := afterDigits_eq h1
    obtain rfl := afterChar_eq hdot1
    obtain ⟨d2, rfl, hd2⟩ := afterDigits_eq h2
    obtain rfl := afterChar_eq hdot2
    obtain ⟨d3, rfl, hd3⟩ := afterDigits_eq h3
    refine ⟨d1, d2, d3, rest, afterChar_eq hv, ?_, ?_⟩
    · intro c hc
      simp only [List.mem_append] at hc
      rcases hc with (hc | hc) | hc
      · exact hd1 c hc
      · exact hd2 c hc
      · exact hd3 c hc
    · cases rest with
      | nil => exact .inl rfl
      | cons d rest =>
        simp only [Bool.and_eq_true, beq_iff_eq] at h
        exact .inr ⟨rest, by rw [h.1], releaseSuffix_chars h.2⟩

/-- a version is the letter `v` and then characters that identifiers may have -/
theorem versionPattern_chars (h : versionPattern s = true) : s.toList ≠ [] ∧ ∀ c ∈ s.toList, isIdentChar c = true := by
  have hdigit : ∀ {c : Char}, isDigit c = true → isIdentChar c = true := fun hc => by simp [isIdentChar, isAlnum, hc]
  obtain ⟨d1, d2, d3, rest, htext, hdigits, hrest⟩ := versionPattern_split h
  have hsuffix : ∀ c ∈ rest, isIdentChar c = true := by
    rcases hrest with rfl | ⟨suffix, rfl, hsuffix⟩
    · simp
    · intro c hc
      rcases List.mem_cons.1 hc with rfl | hc
      · decide
      · rcases hsuffix c hc with halnum | rfl | rfl
        · exact isAlnum_isIdentChar halnum
        · decide
        · decide
  rw [htext]
  refine ⟨by simp, fun c hc => ?_⟩
  simp only [List.mem_cons, List.mem_append] at hc hdigits
  rcases hc with rfl | hc | rfl | hc | rfl | hc | hc
  · decide
  · exact hdigit (hdigits c (.inl (.inl hc)))
  · decide
  · exact hdigit (hdigits c (.inl (.inr hc)))
  · decide
  · exact hdigit (hdigits c (.inr hc))
  · exact hsuffix c hc

theorem digestPattern_chars (h : digestPattern s = true) : s.toList ≠ [] ∧ ∀ c ∈ s.toList, isIdentChar c = true := by
  simp only [digestPattern, Bool.and_eq_true, beq_iff_eq, List.all_eq_true] at h
  refine ⟨fun hnil => by simp [hnil] at h, fun c hc => ?_⟩
  rw [← List.take_append_drop 7 s.toList, List.mem_append, h.1.1] at hc
  rcases hc with hc | hc
  · have hall : "sha256:".toList.all isIdentChar = true := by decide
    exact List.all_eq_true.1 hall c hc
  · exact isAlnum_isIdentChar (isHex_isAlnum (h.2 c hc))

end AutostreamUpdater.Contract
