/-
The version order of the updater (`semver.go`).

The parser and the comparison come first, as the source has them: identifiers are compared as texts, numeric ones by their
lengths first. `Version` is the abstract side, a semantic version without build metadata; its precedence is a linear order
put together from Mathlib's orders (lexicographic triple of numbers, a release above its pre-releases, pre-releases as lists
in lexicographic order, numeric identifiers below alphanumeric ones). `parse_text` connects the two, and
`semver_at_least_is_precedence` is the result: on the texts that the parser accepts the comparison is precedence.
-/
import AutostreamUpdater.Contract.TextLaws
import AutostreamUpdater.Base.Decimal
import AutostreamUpdater.Base.Lines
import Mathlib.Data.Sum.Order
import Mathlib.Data.Prod.Lex
import Mathlib.Order.WithBot

namespace AutostreamUpdater.Release

open Contract Base

/-! ## The parser -/

/-- `updaterReleaseSemver`; the texts are ASCII, one character a byte -/
structure UpdaterReleaseSemver where
  core : List ℕ
  prerelease : List (List Char)
  deriving DecidableEq, Repr

def decimalIdentifier (value : List Char) : Bool := !value.isEmpty && value.all isDigit

/-- a number written with a leading zero -/
def leadingZero (text : List Char) : Bool := 1 < text.length && text.head? == some '0'

/-- `strconv.ParseUint(text, 10, 64)` -/
def parseUint (text : List Char) : Option ℕ :=
  if decimalIdentifier text && Decimal.value text < 2 ^ 64 then some (Decimal.value text) else none

/-- `strings.Cut` at a character: the text before its first occurrence, and the text after it -/
def cut (sep : Char) (text : List Char) : List Char × Option (List Char) :=
  (text.takeWhile (· != sep), (text.dropWhile (· != sep)).tail?)

/-- `strings.TrimPrefix(value, "v")` -/
def trimV : List Char → List Char
  | 'v' :: rest => rest
  | text => text

def coreNumber (part : List Char) : Option ℕ := if leadingZero part then none else parseUint part

/-- an identifier that the parser refuses -/
def badIdentifier (identifier : List Char) : Bool :=
  identifier.isEmpty || (decimalIdentifier identifier && leadingZero identifier)

/-- the parser once the text is taken apart -/
def semverOfParts (coreParts : List (List Char)) (prerelease : Option (List Char)) : Option UpdaterReleaseSemver :=
  if coreParts.length != 3 then none
  else match coreParts.mapM coreNumber, prerelease with
    | none, _ => none
    | some core, none => some ⟨core, []⟩
    | some core, some prerelease =>
      let identifiers := prerelease.splitOn '.'
      if identifiers.any badIdentifier then none else some ⟨core, identifiers⟩

def parseUpdaterReleaseSemver (value : String) : Option UpdaterReleaseSemver :=
  if !versionPattern value then none
  else
    let (core, prerelease) := cut '-' (trimV value.toList)
    semverOfParts (core.splitOn '.') prerelease

/-! ## The comparison -/

/-- the body of the loop for two identifiers that differ -/
def compareIdentifier (actual required : List Char) : ℤ :=
  let actualNumeric := decimalIdentifier actual
  let requiredNumeric := decimalIdentifier required
  if actualNumeric && requiredNumeric && actual.length != required.length then
    if required.length < actual.length then 1 else -1
  else if actualNumeric && !requiredNumeric then -1
  else if requiredNumeric && !actualNumeric then 1
  else if required < actual then 1 else -1

/-- the loop over the identifiers of both lists -/
def compareIdentifiers : List (List Char) → List (List Char) → ℤ
  | a :: actual, r :: required => if a == r then compareIdentifiers actual required else compareIdentifier a r
  | actual, required =>
    if required.length < actual.length then 1 else if actual.length < required.length then -1 else 0

def compareUpdaterReleasePrerelease (actual required : List (List Char)) : ℤ :=
  if actual.isEmpty && required.isEmpty then 0
  else if actual.isEmpty then 1
  else if required.isEmpty then -1
  else compareIdentifiers actual required

/-- the loop over the core numbers: the first difference decides -/
def coreDecides : List ℕ → List ℕ → Option Bool
  | a :: actual, r :: required => if a != r then some (r < a) else coreDecides actual required
  | _, _ => none

def updaterReleaseSemverAtLeast (current minimum : String) : Bool :=
  match parseUpdaterReleaseSemver current, parseUpdaterReleaseSemver minimum with
  | some actual, some required =>
    (coreDecides actual.core required.core).getD
      (0 ≤ compareUpdaterReleasePrerelease actual.prerelease required.prerelease)
  | _, _ => false

/-! ## Semantic versions and their precedence -/

/-- an identifier of ASCII alphanumerics and hyphens that is not a number -/
abbrev Alphanumeric :=
  { text : List Char // (∀ c ∈ text, (isAlnum c || c == '-') = true) ∧ ∃ c ∈ text, isDigit c = false }

/-- An identifier of a pre-release. Numeric ones have lower precedence than alphanumeric ones, numbers compare by value and
texts in ASCII order. -/
abbrev Identifier := ℕ ⊕ₗ Alphanumeric

def Identifier.text (i : Identifier) : List Char :=
  match ofLex i with
  | .inl n => Nat.toDigits 10 n
  | .inr t => t.1

/-- a semantic version without build metadata; no pre-release identifiers means a release -/
structure Version where
  major : ℕ
  minor : ℕ
  patch : ℕ
  prerelease : List Identifier

namespace Version

/-- how a version is written -/
def text (v : Version) : List Char :=
  'v' :: (['.'].intercalate [Nat.toDigits 10 v.major, Nat.toDigits 10 v.minor, Nat.toDigits 10 v.patch] ++
    if v.prerelease = [] then [] else '-' :: ['.'].intercalate (v.prerelease.map Identifier.text))

/-- What precedence looks at: the numbers from the left, then the pre-release. A release is above all its pre-releases, and
a pre-release that continues another one is above it. -/
def key (v : Version) : ℕ ×ₗ ℕ ×ₗ ℕ ×ₗ WithTop (List Identifier) :=
  toLex (v.major, toLex (v.minor, toLex (v.patch, if v.prerelease = [] then ⊤ else ↑v.prerelease)))

theorem key_injective : Function.Injective key := by
  intro v w h
  obtain ⟨a, b, c, p⟩ := v
  obtain ⟨a', b', c', p'⟩ := w
  simp only [key, EmbeddingLike.apply_eq_iff_eq, Prod.mk.injEq] at h
  obtain ⟨rfl, rfl, rfl, hp⟩ := h
  by_cases hempty : p = [] <;> by_cases hempty' : p' = [] <;> simp_all

/-- precedence -/
instance : LinearOrder Version := LinearOrder.lift' key key_injective

theorem lt_iff_key {v w : Version} : v < w ↔ v.key < w.key := Iff.rfl

end Version

/-! ## Identifiers -/

theorem isDigit_eq (c : Char) : isDigit c = c.isDigit := rfl

theorem decimalIdentifier_iff {text : List Char} :
    decimalIdentifier text = true ↔ text ≠ [] ∧ ∀ c ∈ text, c.isDigit = true := by
  simp [decimalIdentifier, isDigit_eq]

theorem canonical_of_decimal {text : List Char} (h : decimalIdentifier text = true) (hzero : leadingZero text = false) :
    Decimal.Canonical text where
  digits := (decimalIdentifier_iff.1 h).2
  nonempty := (decimalIdentifier_iff.1 h).1
  leading := by
    intro hhead
    have hpos := List.length_pos_iff.2 (decimalIdentifier_iff.1 h).1
    simp only [leadingZero, hhead, beq_self_eq_true, Bool.and_true, decide_eq_false_iff_not] at hzero
    omega

theorem decimal_toDigits (n : ℕ) : decimalIdentifier (Nat.toDigits 10 n) = true :=
  decimalIdentifier_iff.2 ⟨Nat.toDigits_ne_nil, fun _ => Decimal.isDigit_of_mem_toDigits⟩

theorem leadingZero_toDigits (n : ℕ) : leadingZero (Nat.toDigits 10 n) = false := by
  by_contra h
  simp only [leadingZero, Bool.not_eq_false, Bool.and_eq_true, decide_eq_true_eq, beq_iff_eq] at h
  have := (Decimal.canonical_toDigits n).leading h.2
  omega

theorem Alphanumeric.not_decimal (t : Alphanumeric) : decimalIdentifier t.1 = false := by
  obtain ⟨c, hc, hdigit⟩ := t.2.2
  by_contra h
  have := (decimalIdentifier_iff.1 (by simpa using h)).2 c hc
  rw [← isDigit_eq, hdigit] at this
  exact absurd this (by decide)

theorem Identifier.cases (i : Identifier) : (∃ n : ℕ, i = toLex (.inl n)) ∨ ∃ t : Alphanumeric, i = toLex (.inr t) := by
  obtain ⟨i, rfl⟩ := toLex.surjective i
  cases i with
  | inl n => exact .inl ⟨n, rfl⟩
  | inr t => exact .inr ⟨t, rfl⟩

theorem Identifier.text_number (n : ℕ) : Identifier.text (toLex (.inl n)) = Nat.toDigits 10 n := rfl

theorem Identifier.text_word (t : Alphanumeric) : Identifier.text (toLex (.inr t)) = t.1 := rfl

theorem Identifier.text_injective : Function.Injective Identifier.text := by
  intro x y h
  rcases x.cases with ⟨n, rfl⟩ | ⟨t, rfl⟩ <;> rcases y.cases with ⟨m, rfl⟩ | ⟨u, rfl⟩
  · exact congrArg (fun k => toLex (Sum.inl k)) (Decimal.toDigits_injective h)
  · have hdecimal := decimal_toDigits n
    rw [← text_number, h, text_word, u.not_decimal] at hdecimal
    exact absurd hdecimal (by decide)
  · have hdecimal := decimal_toDigits m
    rw [← text_number, ← h, text_word, t.not_decimal] at hdecimal
    exact absurd hdecimal (by decide)
  · exact congrArg (fun k => toLex (Sum.inr k)) (Subtype.ext h)

/-- the sign that the code returns for two things that differ -/
theorem sign_neg_iff {α : Type} [LinearOrder α] {a b : α} [Decidable (b < a)] (hne : a ≠ b) :
    (if b < a then (1 : ℤ) else -1) < 0 ↔ a < b := by
  rcases lt_or_gt_of_ne hne with h | h
  · simp [h, h.not_gt]
  · simp [h, h.not_gt]

/-- Identifiers that differ compare in the code as they do in precedence. -/
theorem compareIdentifier_neg_iff {x y : Identifier} (hne : x ≠ y) : compareIdentifier x.text y.text < 0 ↔ x < y := by
  unfold compareIdentifier
  rcases x.cases with ⟨n, rfl⟩ | ⟨t, rfl⟩ <;> rcases y.cases with ⟨m, rfl⟩ | ⟨u, rfl⟩
  · -- two numbers: the shorter text is the smaller one, texts of one length compare as texts
    have hlt := (Decimal.canonical_toDigits n).value_lt_iff (Decimal.canonical_toDigits m)
    rw [Decimal.value_toDigits, Decimal.value_toDigits] at hlt
    have htext : Nat.toDigits 10 n ≠ Nat.toDigits 10 m := fun h => hne (Identifier.text_injective h)
    rw [Identifier.text_number, Identifier.text_number, Sum.Lex.inl_lt_inl_iff, hlt, decimal_toDigits, decimal_toDigits]
    by_cases hlen : (Nat.toDigits 10 n).length = (Nat.toDigits 10 m).length
    · simp [hlen, sign_neg_iff htext]
    · simp [hlen, sign_neg_iff hlen]
  · rw [Identifier.text_number, Identifier.text_word, decimal_toDigits, u.not_decimal]
    simp
  · rw [Identifier.text_number, Identifier.text_word, decimal_toDigits, t.not_decimal]
    simp
  · have htext : t.1 ≠ u.1 := fun h => hne (Identifier.text_injective h)
    rw [Identifier.text_word, Identifier.text_word, Sum.Lex.inr_lt_inr_iff, t.not_decimal, u.not_decimal,
      ← Subtype.coe_lt_coe]
    simpa using sign_neg_iff htext

/-- Lists of identifiers compare in the code as lexicographically ordered lists. -/
theorem compareIdentifiers_neg_iff (xs ys : List Identifier) :
    compareIdentifiers (xs.map Identifier.text) (ys.map Identifier.text) < 0 ↔ xs < ys := by
  induction xs generalizing ys with
  | nil => cases ys <;> simp [compareIdentifiers]
  | cons x xs ih =>
    cases ys with
    | nil => simp [compareIdentifiers]
    | cons y ys =>
      rw [List.map_cons, List.map_cons, compareIdentifiers, List.cons_lt_cons_iff]
      by_cases hxy : x = y
      · subst hxy
        simp [ih]
      · have htext : x.text ≠ y.text := fun h => hxy (Identifier.text_injective h)
        simp [hxy, htext, compareIdentifier_neg_iff hxy]

/-! ## What the parser reads -/

/-- what the parser makes of a version -/
def Version.parsed (v : Version) : UpdaterReleaseSemver :=
  ⟨[v.major, v.minor, v.patch], v.prerelease.map Identifier.text⟩

/-- **On parsed versions the comparison is precedence.** -/
theorem atLeast_parsed_iff {a b : String} {v w : Version} (ha : parseUpdaterReleaseSemver a = some v.parsed)
    (hb : parseUpdaterReleaseSemver b = some w.parsed) : updaterReleaseSemverAtLeast a b = true ↔ w ≤ v := by
  have hpre : 0 ≤ compareUpdaterReleasePrerelease v.parsed.prerelease w.parsed.prerelease ↔
      ¬ (if v.prerelease = [] then ⊤ else (↑v.prerelease : WithTop (List Identifier))) <
        if w.prerelease = [] then ⊤ else ↑w.prerelease := by
    unfold compareUpdaterReleasePrerelease
    have hlist := compareIdentifiers_neg_iff v.prerelease w.prerelease
    by_cases hv : v.prerelease = [] <;> by_cases hw : w.prerelease = [] <;>
      simp [Version.parsed, hv, hw, ← hlist]
  rw [← not_lt, Version.lt_iff_key, updaterReleaseSemverAtLeast, ha, hb]
  simp only [Version.key, Prod.Lex.toLex_lt_toLex, Version.parsed, coreDecides] at hpre ⊢
  -- the first number that differs decides, the pre-release when none does
  rcases lt_trichotomy v.major w.major with h | h | h
  · simp [h, h.ne, h.le]
  · rcases lt_trichotomy v.minor w.minor with h' | h' | h'
    · simp [h, h', h'.ne, h'.le]
    · rcases lt_trichotomy v.patch w.patch with h'' | h'' | h''
      · simp [h, h', h'', h''.ne, h''.le]
      · simp [h, h', h'', hpre]
      · simp [h, h', h'', h''.ne', h''.not_gt]
    · simp [h, h', h'.ne', h'.not_gt]
  · simp [h, h.ne', h.not_gt]

theorem cut_of_not_mem {sep : Char} {a : List Char} (h : sep ∉ a) : cut sep a = (a, none) := by
  have hkeep : ∀ c ∈ a, (c != sep) = true := by
    intro c hc
    simpa using ne_of_mem_of_not_mem hc h
  rw [cut, List.takeWhile_eq_self_iff.2 hkeep, List.dropWhile_eq_nil_iff.2 hkeep]
  rfl

theorem cut_append {sep : Char} {a : List Char} (h : sep ∉ a) (b : List Char) : cut sep (a ++ sep :: b) = (a, some b) := by
  have hkeep : ∀ c ∈ a, (c != sep) = true := by
    intro c hc
    simpa using ne_of_mem_of_not_mem hc h
  rw [cut, List.takeWhile_append_of_pos hkeep, List.dropWhile_append_of_pos hkeep]
  simp

theorem coreNumber_eq_some_iff {part : List Char} {n : ℕ} :
    coreNumber part = some n ↔ part = Nat.toDigits 10 n ∧ n < 2 ^ 64 := by
  unfold coreNumber parseUint
  constructor
  · intro h
    split_ifs at h with hzero hnumber
    simp only [Bool.and_eq_true, decide_eq_true_eq] at hnumber
    obtain rfl := Option.some.inj h
    exact ⟨((canonical_of_decimal hnumber.1 (by simpa using hzero)).toDigits_value).symm, hnumber.2⟩
  · rintro ⟨rfl, hn⟩
    rw [leadingZero_toDigits, decimal_toDigits, Decimal.value_toDigits]
    simpa using hn

/-- the text of a suffix with the hyphen before it -/
def suffixText (suffix : Option (List Char)) : List Char := suffix.elim [] ('-' :: ·)

/-- the parser on a text whose parts are known -/
theorem parse_eq {s : String} {d1 d2 d3 : List Char} {suffix : Option (List Char)} (hpattern : versionPattern s = true)
    (htext : s.toList = 'v' :: (['.'].intercalate [d1, d2, d3] ++ suffixText suffix))
    (hdigits : ∀ d ∈ [d1, d2, d3], ∀ c ∈ d, c.isDigit = true) :
    parseUpdaterReleaseSemver s = semverOfParts [d1, d2, d3] suffix := by
  have hdot : ∀ d ∈ [d1, d2, d3], '.' ∉ d := fun d hd hmem => absurd (hdigits d hd _ hmem) (by decide)
  have hhyphen : '-' ∉ ['.'].intercalate [d1, d2, d3] := by
    have hfree : ∀ d ∈ [d1, d2, d3], '-' ∉ d := fun d hd hmem => absurd (hdigits d hd _ hmem) (by decide)
    simp only [List.mem_cons, List.not_mem_nil, or_false, forall_eq_or_imp, forall_eq] at hfree
    simp [List.intercalate_cons_cons, hfree]
  have hparts := List.splitOn_intercalate '.' hdot (by simp)
  have hcut : cut '-' (trimV s.toList) = (['.'].intercalate [d1, d2, d3], suffix) := by
    rw [htext, trimV]
    cases suffix with
    | none => rw [suffixText, Option.elim_none, List.append_nil, cut_of_not_mem hhyphen]
    | some pre => exact cut_append hhyphen pre
  unfold parseUpdaterReleaseSemver
  rw [hpattern, hcut, Bool.not_true, if_neg (by decide)]
  dsimp only
  rw [hparts]

/-- an identifier that the parser lets through is numeric or alphanumeric -/
theorem exists_identifier {text : List Char} (hgood : badIdentifier text = false)
    (hchars : ∀ c ∈ text, isAlnum c = true ∨ c = '-') : ∃ i : Identifier, i.text = text := by
  simp only [badIdentifier, Bool.or_eq_false_iff, List.isEmpty_eq_false_iff, Bool.and_eq_false_iff] at hgood
  cases hdecimal : decimalIdentifier text with
  | true =>
    have hcanon := canonical_of_decimal hdecimal (hgood.2.resolve_left (by simp [hdecimal]))
    exact ⟨toLex (.inl (Decimal.value text)), hcanon.toDigits_value⟩
  | false =>
    have hnondigit : ∃ c ∈ text, isDigit c = false := by
      by_contra hall
      push Not at hall
      have := decimalIdentifier_iff.2 ⟨hgood.1, fun c hc => by simpa [isDigit_eq] using hall c hc⟩
      rw [this] at hdecimal
      exact absurd hdecimal (by decide)
    exact ⟨toLex (.inr ⟨text, fun c hc => by simpa using hchars c hc, hnondigit⟩), rfl⟩

/-- a list of such identifiers is a pre-release -/
theorem exists_identifiers {texts : List (List Char)} (h : ∀ t ∈ texts, ∃ i : Identifier, i.text = t) :
    ∃ ids : List Identifier, ids.map Identifier.text = texts := by
  induction texts with
  | nil => exact ⟨[], rfl⟩
  | cons t texts ih =>
    obtain ⟨i, hi⟩ := h t List.mem_cons_self
    obtain ⟨ids, hids⟩ := ih fun u hu => h u (List.mem_cons_of_mem _ hu)
    exact ⟨i :: ids, by rw [List.map_cons, hi, hids]⟩

/-- reading three numbers -/
theorem mapM_coreNumber_iff {d1 d2 d3 : List Char} {core : List ℕ} :
    [d1, d2, d3].mapM coreNumber = some core ↔ ∃ n1 n2 n3, core = [n1, n2, n3] ∧ coreNumber d1 = some n1 ∧
      coreNumber d2 = some n2 ∧ coreNumber d3 = some n3 := by
  simp only [List.mapM_cons, List.mapM_nil, Option.bind_eq_bind, Option.pure_def, Option.bind_eq_some_iff,
    Option.some.injEq]
  constructor
  · rintro ⟨n1, h1, _, ⟨n2, h2, _, ⟨n3, h3, _, rfl, rfl⟩, rfl⟩, rfl⟩
    exact ⟨n1, n2, n3, rfl, h1, h2, h3⟩
  · rintro ⟨n1, n2, n3, rfl, h1, h2, h3⟩
    exact ⟨n1, h1, _, ⟨n2, h2, _, ⟨n3, h3, _, rfl, rfl⟩, rfl⟩, rfl⟩

variable {p : UpdaterReleaseSemver}

/-- what a successful parse reads -/
theorem semverOfParts_eq_some {d1 d2 d3 : List Char} {suffix : Option (List Char)}
    (h : semverOfParts [d1, d2, d3] suffix = some p) :
    (∃ n1 n2 n3, d1 = Nat.toDigits 10 n1 ∧ d2 = Nat.toDigits 10 n2 ∧ d3 = Nat.toDigits 10 n3 ∧ p.core = [n1, n2, n3]) ∧
      (suffix = none → p.prerelease = []) ∧
      ∀ pre, suffix = some pre → p.prerelease = pre.splitOn '.' ∧ ∀ t ∈ pre.splitOn '.', badIdentifier t = false := by
  unfold semverOfParts at h
  rw [if_neg (by simp)] at h
  cases hcore : [d1, d2, d3].mapM coreNumber with
  | none => simp [hcore] at h
  | some core =>
    obtain ⟨n1, n2, n3, rfl, h1, h2, h3⟩ := mapM_coreNumber_iff.1 hcore
    rw [hcore] at h
    have hnumbers : ∀ q : UpdaterReleaseSemver, q.core = [n1, n2, n3] → ∃ n1 n2 n3, d1 = Nat.toDigits 10 n1 ∧
        d2 = Nat.toDigits 10 n2 ∧ d3 = Nat.toDigits 10 n3 ∧ q.core = [n1, n2, n3] := fun q hq =>
      ⟨n1, n2, n3, (coreNumber_eq_some_iff.1 h1).1, (coreNumber_eq_some_iff.1 h2).1, (coreNumber_eq_some_iff.1 h3).1, hq⟩
    cases suffix with
    | none =>
      obtain rfl := Option.some.inj h
      exact ⟨hnumbers _ rfl, fun _ => rfl, by simp⟩
    | some pre =>
      dsimp only at h
      split_ifs at h with hbad
      obtain rfl := Option.some.inj h
      refine ⟨hnumbers _ rfl, by simp, ?_⟩
      intro pre' hpre
      obtain rfl := Option.some.inj hpre
      exact ⟨rfl, by simpa using hbad⟩

theorem pattern_of_parse {s : String} (h : parseUpdaterReleaseSemver s = some p) : versionPattern s = true := by
  by_contra hno
  simp [parseUpdaterReleaseSemver, hno] at h

/-- **Everything that the parser accepts is a version.** -/
theorem exists_version {s : String} (h : parseUpdaterReleaseSemver s = some p) :
    ∃ v : Version, s.toList = v.text ∧ p = v.parsed := by
  have hpattern := pattern_of_parse h
  obtain ⟨d1, d2, d3, rest, htext, hdigits, hrest⟩ := versionPattern_split hpattern
  obtain ⟨suffix, rfl, hsuffix⟩ : ∃ suffix : Option (List Char), rest = suffixText suffix ∧
      ∀ pre, suffix = some pre → ∀ c ∈ pre, isAlnum c = true ∨ c = '.' ∨ c = '-' := by
    rcases hrest with rfl | ⟨pre, rfl, hpre⟩
    · exact ⟨none, rfl, by simp⟩
    · exact ⟨some pre, rfl, by simpa using hpre⟩
  have hparts : ∀ d ∈ [d1, d2, d3], ∀ c ∈ d, c.isDigit = true := by
    intro d hd c hc
    rw [← isDigit_eq]
    simp only [List.mem_cons, List.not_mem_nil, or_false] at hd
    apply hdigits
    rcases hd with rfl | rfl | rfl <;> simp [hc]
  rw [parse_eq hpattern (by simpa [List.intercalate_cons_cons] using htext) hparts] at h
  obtain ⟨core, prerelease⟩ := p
  obtain ⟨⟨n1, n2, n3, rfl, rfl, rfl, rfl⟩, hnone, hsome⟩ := semverOfParts_eq_some h
  cases suffix with
  | none =>
    obtain rfl : prerelease = [] := hnone rfl
    refine ⟨⟨n1, n2, n3, []⟩, ?_, rfl⟩
    simpa [Version.text, suffixText, List.intercalate_cons_cons] using htext
  | some pre =>
    obtain ⟨rfl, hgood⟩ := hsome pre rfl
    obtain ⟨ids, hids⟩ : ∃ ids : List Identifier, ids.map Identifier.text = pre.splitOn '.' := by
      apply exists_identifiers
      intro t ht
      apply exists_identifier (hgood t ht)
      intro c hc
      have hdot : c ≠ '.' := fun heq => not_mem_of_mem_splitOn ht (heq ▸ hc)
      exact (hsuffix pre rfl c (mem_of_mem_splitOn ht hc)).imp_right fun hor => hor.resolve_left hdot
    have hne : ids ≠ [] := by
      rintro rfl
      exact List.splitOn_ne_nil _ _ hids.symm
    refine ⟨⟨n1, n2, n3, ids⟩, ?_, ?_⟩
    · rw [Version.text, if_neg hne, hids, List.intercalate_splitOn]
      simpa [suffixText, List.intercalate_cons_cons] using htext
    · rw [Version.parsed, hids]

/-- an identifier has no dot -/
theorem Identifier.dot_not_mem (i : Identifier) : '.' ∉ i.text := by
  intro h
  rcases i.cases with ⟨n, rfl⟩ | ⟨t, rfl⟩
  · exact absurd (Decimal.isDigit_of_mem_toDigits h) (by decide)
  · exact absurd (t.2.1 _ h) (by decide)

/-- **What the parser makes of a version's text is that version.** -/
theorem parse_text {s : String} {v : Version} (htext : s.toList = v.text) (h : parseUpdaterReleaseSemver s = some p) :
    p = v.parsed := by
  obtain ⟨n1, n2, n3, ids⟩ := v
  obtain ⟨suffix, hsuffix, hsplit⟩ : ∃ suffix : Option (List Char),
      Version.text ⟨n1, n2, n3, ids⟩ = 'v' :: (['.'].intercalate [Nat.toDigits 10 n1, Nat.toDigits 10 n2,
        Nat.toDigits 10 n3] ++ suffixText suffix) ∧
      (suffix = none ∧ ids = [] ∨ ∃ pre, suffix = some pre ∧ pre.splitOn '.' = ids.map Identifier.text) := by
    by_cases hids : ids = []
    · exact ⟨none, by rw [Version.text, if_pos hids]; rfl, .inl ⟨rfl, hids⟩⟩
    · refine ⟨some (['.'].intercalate (ids.map Identifier.text)), by rw [Version.text, if_neg hids]; rfl, .inr ⟨_, rfl, ?_⟩⟩
      apply List.splitOn_intercalate
      · intro t ht
        obtain ⟨i, -, rfl⟩ := List.mem_map.1 ht
        exact i.dot_not_mem
      · simpa using hids
  have hdigits : ∀ d ∈ [Nat.toDigits 10 n1, Nat.toDigits 10 n2, Nat.toDigits 10 n3], ∀ c ∈ d, c.isDigit = true := by
    intro d hd c hc
    simp only [List.mem_cons, List.not_mem_nil, or_false] at hd
    rcases hd with rfl | rfl | rfl <;> exact Decimal.isDigit_of_mem_toDigits hc
  rw [parse_eq (pattern_of_parse h) (htext.trans hsuffix) hdigits] at h
  obtain ⟨core, prerelease⟩ := p
  obtain ⟨⟨m1, m2, m3, h1, h2, h3, rfl⟩, hnone, hsome⟩ := semverOfParts_eq_some h
  rw [Version.parsed, UpdaterReleaseSemver.mk.injEq, Decimal.toDigits_injective h1, Decimal.toDigits_injective h2,
    Decimal.toDigits_injective h3]
  refine ⟨rfl, ?_⟩
  rcases hsplit with ⟨rfl, rfl⟩ | ⟨pre, rfl, hpre⟩
  · exact hnone rfl
  · exact (hsome pre rfl).1.trans hpre

theorem Version.parsed_injective : Function.Injective Version.parsed := by
  intro v w h
  obtain ⟨a, b, c, p⟩ := v
  obtain ⟨a', b', c', p'⟩ := w
  simp only [Version.parsed, UpdaterReleaseSemver.mk.injEq, List.cons.injEq, and_true] at h
  obtain ⟨⟨rfl, rfl, rfl⟩, hp⟩ := h
  rw [Identifier.text_injective.list_map hp]

/-- the release parser accepts the text -/
def accepted (s : String) : Bool := (parseUpdaterReleaseSemver s).isSome

/-- **The comparison is precedence.** Every accepted text is the text of exactly one version, and on accepted texts
`updaterReleaseSemverAtLeast` says that the first version does not come before the second one. So it is a total preorder
there. -/
theorem semver_at_least_is_precedence :
    (∀ a, accepted a = true → ∃! v : Version, a.toList = v.text) ∧
    (∀ a b, accepted a = true → accepted b = true → ∀ v w : Version, a.toList = v.text → b.toList = w.text →
      (updaterReleaseSemverAtLeast a b = true ↔ w ≤ v)) ∧
    (∀ a, accepted a = true → updaterReleaseSemverAtLeast a a = true) ∧
    (∀ a b c, accepted a = true → accepted b = true → accepted c = true → updaterReleaseSemverAtLeast a b = true →
      updaterReleaseSemverAtLeast b c = true → updaterReleaseSemverAtLeast a c = true) ∧
    ∀ a b, accepted a = true → accepted b = true →
      updaterReleaseSemverAtLeast a b = true ∨ updaterReleaseSemverAtLeast b a = true := by
  have hread : ∀ a, accepted a = true → ∃ v : Version, parseUpdaterReleaseSemver a = some v.parsed ∧ a.toList = v.text ∧
      ∀ w : Version, a.toList = w.text → w = v := by
    intro a ha
    obtain ⟨p, hp⟩ := Option.isSome_iff_exists.1 ha
    obtain ⟨v, htext, rfl⟩ := exists_version hp
    exact ⟨v, hp, htext, fun w hw => (Version.parsed_injective (parse_text hw hp)).symm⟩
  refine ⟨?_, ?_, ?_, ?_, ?_⟩
  · intro a ha
    obtain ⟨v, -, htext, huniq⟩ := hread a ha
    exact ⟨v, htext, huniq⟩
  · intro a b ha hb v w hv hw
    obtain ⟨v', hpa, -, hua⟩ := hread a ha
    obtain ⟨w', hpb, -, hub⟩ := hread b hb
    rw [hua v hv, hub w hw]
    exact atLeast_parsed_iff hpa hpb
  · intro a ha
    obtain ⟨v, hp, -⟩ := hread a ha
    exact (atLeast_parsed_iff hp hp).2 le_rfl
  · intro a b c ha hb hc hab hbc
    obtain ⟨v, hpa, -⟩ := hread a ha
    obtain ⟨w, hpb, -⟩ := hread b hb
    obtain ⟨u, hpc, -⟩ := hread c hc
    rw [atLeast_parsed_iff hpa hpb] at hab
    rw [atLeast_parsed_iff hpb hpc] at hbc
    exact (atLeast_parsed_iff hpa hpc).2 (hbc.trans hab)
  · intro a b ha hb
    obtain ⟨v, hpa, -⟩ := hread a ha
    obtain ⟨w, hpb, -⟩ := hread b hb
    rw [atLeast_parsed_iff hpa hpb, atLeast_parsed_iff hpb hpa]
    exact le_total w v

/-- numeric identifiers are compared by value -/
theorem sample_precedence :
    ∃ v w : Version, "v1.0.0-rc.10".toList = v.text ∧ "v1.0.0-rc.9".toList = w.text ∧ w ≤ v := by
  obtain ⟨hread, horder, -⟩ := semver_at_least_is_precedence
  obtain ⟨v, hv, -⟩ := hread "v1.0.0-rc.10" (by decide)
  obtain ⟨w, hw, -⟩ := hread "v1.0.0-rc.9" (by decide)
  exact ⟨v, w, hv, hw, (horder _ _ (by decide) (by decide) v w hv hw).1 (by decide)⟩

example : updaterReleaseSemverAtLeast "v1.0.0-rc.1" "v1.0.0" = false := by decide

end AutostreamUpdater.Release
