/-
The version pin file, as its editor `updateVersionEnv` and its reader `parseVersionEnvPin` see it.

Both scan the lines of the file, each with its own rule for a second assignment: the editor counts the assigning lines, the
reader only notes a value it has already found, so an empty assignment does not count. `PinLaw` is what an update promises:
it succeeds, its output reads back as the new pin with every other line in place, and a second update changes nothing.
The law holds exactly for the files of `PlainEnv`. The file is bytes: 10 is the newline and 13 the carriage return.
-/
import AutostreamUpdater.Base.Lines
import AutostreamUpdater.Contract.TextLaws
import AutostreamUpdater.Software.Release

namespace AutostreamUpdater.Software

open Contract Base

/-! ## Carriage returns -/

/-- the line without one carriage return at its end -/
def chomp (line : Bytes) : Bytes := if line.getLast? = some 13 then line.dropLast else line

theorem unifyNewlines_cons {c : UInt8} {cs : Bytes} (h : ¬ (c = 13 ∧ cs.head? = some 10)) :
    unifyNewlines (c :: cs) = c :: unifyNewlines cs := by
  rw [unifyNewlines]
  intro cs' hc hcs
  exact h ⟨hc, by simp [hcs]⟩

/-- up to the first newline, only a carriage return right before it goes -/
theorem unifyNewlines_line {line : Bytes} (hfree : 10 ∉ line) (rest : Bytes) :
    unifyNewlines (line ++ 10 :: rest) = chomp line ++ 10 :: unifyNewlines rest := by
  induction line with
  | nil => simp [chomp, unifyNewlines]
  | cons c line ih =>
    simp only [List.mem_cons, not_or] at hfree
    cases line with
    | nil =>
      by_cases hc : c = 13
      · simp [hc, chomp, unifyNewlines]
      · rw [List.singleton_append, unifyNewlines_cons (fun h => hc h.1)]
        simp [chomp, hc, unifyNewlines]
    | cons d line =>
      have hd : d ≠ 10 := fun hd => hfree.2 (by simp [hd])
      rw [List.cons_append, unifyNewlines_cons (by simp [hd]), ih hfree.2]
      by_cases hlast : (d :: line).getLast? = some 13
      · simp [chomp, hlast, List.getLast?_cons_cons]
      · simp [chomp, hlast, List.getLast?_cons_cons]

theorem chomp_eq_iff {line : Bytes} : chomp line = line ↔ line.getLast? ≠ some 13 := by
  unfold chomp
  split_ifs with h
  · refine ⟨fun heq => ?_, fun hne => absurd h hne⟩
    have hlen := congrArg List.length heq
    have hne : line ≠ [] := by rintro rfl; simp at h
    have hpos := List.length_pos_of_ne_nil hne
    rw [List.length_dropLast] at hlen
    omega
  · simp [h]

/-- the text of the lines, each ended by a newline -/
def ended (lines : List Bytes) : Bytes := [10].intercalate lines ++ [10]

variable {lines : List Bytes}

theorem ended_cons (line : Bytes) (h : lines ≠ []) : ended (line :: lines) = line ++ 10 :: ended lines := by
  simp [ended, List.intercalate_cons_of_ne_nil h]

theorem unifyNewlines_ended (hne : lines ≠ []) (hfree : ∀ line ∈ lines, 10 ∉ line) :
    unifyNewlines (ended lines) = ended (lines.map chomp) := by
  induction lines with
  | nil => exact absurd rfl hne
  | cons line lines ih =>
    have hline := hfree line List.mem_cons_self
    cases lines with
    | nil => simp [ended, unifyNewlines_line hline, unifyNewlines]
    | cons second lines =>
      have hrest := ih (by simp) fun l hl => hfree l (List.mem_cons_of_mem _ hl)
      rw [ended_cons line (by simp), unifyNewlines_line hline, hrest]
      exact (ended_cons (chomp line) (by simp)).symm

/-! ## Reading a text back -/

theorem chomp_subset (line : Bytes) : chomp line ⊆ line := by
  unfold chomp
  split_ifs
  · exact List.dropLast_subset line
  · exact List.Subset.refl line

theorem ended_eq_intercalate (h : lines ≠ []) :
    ended lines = [10].intercalate (lines ++ [[]]) := (intercalate_concat h []).symm

theorem free_concat_nil (hfree : ∀ line ∈ lines, 10 ∉ line) : ∀ line ∈ lines ++ [[]], 10 ∉ line := by
  intro line h
  rcases List.mem_append.1 h with h | h
  · exact hfree line h
  · simp_all

/-- the lines of a text that was written line by line -/
theorem envLines_ended (hne : lines ≠ []) (hfree : ∀ line ∈ lines, 10 ∉ line) :
    envLines (ended lines) = lines.map chomp ++ [[]] := by
  have hfree' : ∀ line ∈ lines.map chomp, 10 ∉ line := by
    intro line h hmem
    obtain ⟨original, horiginal, rfl⟩ := List.mem_map.1 h
    exact hfree original horiginal (chomp_subset original hmem)
  rw [envLines, unifyNewlines_ended hne hfree, ended_eq_intercalate (by simpa using hne)]
  exact List.splitOn_intercalate 10 (free_concat_nil hfree') (by simp)

theorem ended_injective {ls ls' : List Bytes} (hne : ls ≠ []) (hne' : ls' ≠ [])
    (hfree : ∀ line ∈ ls, 10 ∉ line) (hfree' : ∀ line ∈ ls', 10 ∉ line) (h : ended ls = ended ls') : ls = ls' := by
  rw [ended_eq_intercalate hne, ended_eq_intercalate hne'] at h
  have hsplit := congrArg (List.splitOn 10) h
  rw [List.splitOn_intercalate 10 (free_concat_nil hfree) (by simp),
    List.splitOn_intercalate 10 (free_concat_nil hfree') (by simp)] at hsplit
  exact List.append_cancel_right hsplit

/-- the lines of a text without the empty ones at its end -/
abbrev solid (lines : List Bytes) : List Bytes := lines.rdropWhile (· == [])

theorem solid_initial (lines : List Bytes) : solid lines <+: lines := List.rdropWhile_prefix _ lines

theorem endLine_intercalate (hfree : ∀ line ∈ lines, 10 ∉ line) :
    endLine ([10].intercalate lines) = ended (solid lines) := by
  have h := rdropWhile_intercalate hfree
  rw [List.rdropWhile] at h
  rw [endLine, h, ended]

theorem mem_solid {line : Bytes} (h : line ∈ lines) (hne : line ≠ []) : line ∈ solid lines := by
  have hsplit : solid lines ++ lines.rtakeWhile (· == []) = lines := List.rdropWhile_append_rtakeWhile
  rw [← hsplit, List.mem_append] at h
  rcases h with h | h
  · exact h
  · exact absurd (by simpa using List.mem_rtakeWhile_imp h) hne

/-! ## Assignments -/

/-- the variable of the version pin file -/
abbrev versionVariable : String := "AUTOSTREAM_DOCKER_VERSION"

/-- the front of the text is no code -/
theorem dropCodes_of_head {codes : List Bytes} {b : UInt8} (h : codes.all (fun code => code.head?.any (· != b)) = true)
    (fuel : ℕ) (text : Bytes) : dropCodes codes fuel (b :: text) = b :: text := by
  cases fuel with
  | zero => rfl
  | succ fuel =>
    have hnone : codes.find? (·.isPrefixOf (b :: text)) = none := by
      refine List.find?_eq_none.2 fun code hcode hfront => ?_
      obtain ⟨c, hc, hne⟩ := (Option.any_eq_true _ _).1 (List.all_eq_true.1 h code hcode)
      obtain ⟨rest, hrest⟩ := List.isPrefixOf_iff_prefix.1 hfront
      obtain ⟨tail, rfl⟩ := List.head?_eq_some_iff.1 hc
      simp [(List.cons.inj hrest).1] at hne
    simp [dropCodes, hnone]

/-- no code but the carriage return itself ends in one, so one behind the text stays as long as a byte of the text does -/
theorem dropCodes_concat {fuel : ℕ} {text : Bytes} (h : text.length ≤ fuel) :
    dropCodes spaceCodes (fuel + 1) (text ++ [13]) =
      if dropCodes spaceCodes fuel text = [] then [] else dropCodes spaceCodes fuel text ++ [13] := by
  induction fuel generalizing text with
  | zero =>
    obtain rfl := List.eq_nil_of_length_eq_zero (Nat.le_zero.1 h)
    rfl
  | succ fuel ih =>
    cases text with
    | nil => rfl
    | cons b text =>
      have hcodes : ∀ code ∈ spaceCodes, code ≠ [] ∧ (code.getLast? = some 13 → code.length = 1) := by decide
      have hfind : spaceCodes.find? (·.isPrefixOf (b :: text ++ [13])) = spaceCodes.find? (·.isPrefixOf (b :: text)) := by
        refine List.find?_congr fun code hcode => Bool.eq_iff_iff.2 ?_
        rw [List.isPrefixOf_iff_prefix, List.isPrefixOf_iff_prefix, List.prefix_concat_iff, or_iff_right]
        rintro rfl
        have hone := (hcodes _ hcode).2 List.getLast?_concat
        simp at hone
      rw [dropCodes, dropCodes, hfind]
      cases hcode : spaceCodes.find? (·.isPrefixOf (b :: text)) with
      | none => simp
      | some code =>
        have hpos := List.length_pos_of_ne_nil (hcodes code (List.mem_of_find?_eq_some hcode)).1
        have hfront := List.find?_some hcode
        dsimp only at hfront ⊢
        rw [List.drop_append_of_le_length (List.isPrefixOf_iff_prefix.1 hfront).length_le]
        refine ih ?_
        rw [List.length_drop]
        omega

/-- no space begins or ends with the byte -/
def plainByte (b : UInt8) : Bool :=
  (spaceCodes ++ spaceCodes.map List.reverse).all fun code => code.head?.any (· != b)

theorem plainByte_visible {n : ℕ} (h : 33 ≤ n) (h' : n < 128) : plainByte (UInt8.ofNat n) = true := by
  have hall : ∀ n < 128, 33 ≤ n → plainByte (UInt8.ofNat n) = true := by decide +kernel
  exact hall n h' h

theorem trimBytes_of_plain {text : Bytes} (h : ∀ b ∈ text, plainByte b = true) : trimBytes text = text := by
  have hboth : ∀ b ∈ text, _ := fun b hb => Bool.and_eq_true_iff.1 ((List.all_append).symm.trans (h b hb))
  have hleft : dropCodes spaceCodes text.length text = text := by
    cases text with
    | nil => rfl
    | cons b text => exact dropCodes_of_head (hboth b List.mem_cons_self).1 _ _
  simp only [trimBytes, hleft]
  rw [List.reverse_eq_iff]
  cases hback : text.reverse with
  | nil => cases text.length <;> rfl
  | cons b rest =>
    have hb : b ∈ text := List.mem_reverse.1 (hback ▸ List.mem_cons_self)
    exact dropCodes_of_head (hboth b hb).2 _ _

theorem trimBytes_chomp (line : Bytes) : trimBytes (chomp line) = trimBytes line := by
  unfold chomp
  split_ifs with h
  · obtain ⟨front, hfront⟩ := List.getLast?_eq_some_iff.1 h
    rw [hfront, List.dropLast_concat]
    simp only [trimBytes]
    rw [List.length_append, List.length_singleton, dropCodes_concat le_rfl]
    split_ifs with hnil
    · rw [hnil]
    · rw [List.reverse_append, List.reverse_singleton, List.length_append, List.length_singleton]
      rfl
  · rfl

@[simp] theorem assigns_chomp (name : String) (line : Bytes) : assigns name (chomp line) = assigns name line := by
  rw [assigns, assigns, trimBytes_chomp]

theorem assigns_nil : assigns versionVariable [] = false := by decide

/-- the value a line assigns -/
def assigned (name : String) (line : Bytes) : Bytes := (trimBytes line).drop (textBytes (name ++ "=")).length

theorem pinStep_eq (name : String) (found line : Bytes) :
    pinStep name found line =
      if assigns name line then (if found ≠ [] then none else some (assigned name line)) else some found := by
  simp [pinStep, assigned]

/-- an assignment of nothing is the bare name with its equals sign -/
theorem assigned_empty_iff {name : String} {line : Bytes} (h : assigns name line = true) :
    assigned name line = [] ↔ trimBytes line = textBytes (name ++ "=") := by
  rw [assigns, List.isPrefixOf_iff_prefix] at h
  obtain ⟨value, hvalue⟩ := h
  rw [assigned, ← hvalue, List.drop_left]
  constructor
  · rintro rfl
    exact List.append_nil _
  · intro heq
    exact List.append_cancel_left (heq.trans (List.append_nil _).symm)

/-! ## The reader -/

section Reader

variable {name : String} {found r : Bytes} {lines : List Bytes}

theorem read_none (h : ∀ line ∈ lines, assigns name line = false) : lines.foldlM (pinStep name) found = some found := by
  induction lines with
  | nil => rfl
  | cons line lines ih =>
    have hline := h line List.mem_cons_self
    rw [List.foldlM_cons, pinStep_eq, if_neg (by simp [hline])]
    exact ih fun l hl => h l (List.mem_cons_of_mem _ hl)

/-- behind a value nothing may be assigned -/
theorem read_found (hfound : found ≠ []) (h : lines.foldlM (pinStep name) found = some r) :
    ∀ line ∈ lines, assigns name line = false := by
  induction lines with
  | nil => simp
  | cons line lines ih =>
    rw [List.foldlM_cons, pinStep_eq] at h
    by_cases hline : assigns name line = true
    · simp [hline, hfound] at h
    · rw [if_neg hline] at h
      intro l hl
      rcases List.mem_cons.1 hl with rfl | hl
      · simpa using hline
      · exact ih h l hl

/-- a value that was read stands on the last assigning line, behind empty assignments only -/
theorem read_some (h : lines.foldlM (pinStep name) [] = some r) (hr : r ≠ []) :
    ∃ before line behind, lines = before ++ line :: behind ∧ assigns name line = true ∧ assigned name line ≠ [] ∧
      (∀ l ∈ before, assigns name l = true → assigned name l = []) ∧ ∀ l ∈ behind, assigns name l = false := by
  induction lines with
  | nil => exact absurd (by simpa using h) (Ne.symm hr)
  | cons line lines ih =>
    rw [List.foldlM_cons, pinStep_eq] at h
    by_cases hskip : assigns name line = true → assigned name line = []
    · have hrest : lines.foldlM (pinStep name) [] = some r := by
        by_cases hline : assigns name line = true
        · simpa [hline, hskip hline] using h
        · simpa [hline] using h
      obtain ⟨before, last, behind, rfl, hlast, hvalue, hbefore, hbehind⟩ := ih hrest
      refine ⟨line :: before, last, behind, rfl, hlast, hvalue, fun l hl => ?_, hbehind⟩
      rcases List.mem_cons.1 hl with rfl | hl
      · exact hskip
      · exact hbefore l hl
    · obtain ⟨hline, hvalue⟩ := Classical.not_imp.1 hskip
      refine ⟨[], line, lines, rfl, hline, hvalue, by simp, ?_⟩
      simp only [hline, if_true, ne_eq, not_true, if_false] at h
      exact read_found hvalue h

/-- a single assignment is the one that is read -/
theorem read_single {before behind : List Bytes} {line : Bytes} (hbefore : ∀ l ∈ before, assigns name l = false)
    (hline : assigns name line = true) (hbehind : ∀ l ∈ behind, assigns name l = false) :
    (before ++ line :: behind).foldlM (pinStep name) [] = some (assigned name line) := by
  rw [List.foldlM_append, read_none hbefore]
  show (line :: behind).foldlM (pinStep name) [] = _
  rw [List.foldlM_cons, pinStep_eq, if_pos hline, if_neg (by simp)]
  exact read_none hbehind

theorem splitPin_ne_nil {value : Bytes} {pin : String × String}
    (h : splitPin (String.ofList (value.map byteChar)) = some pin) : value ≠ [] := by
  rintro rfl
  simp [splitPin] at h

end Reader

/-! ## The pin -/

/-- a valid pin -/
structure Pin where
  version : String
  digest : String
  valid : versionPattern version = true ∧ digestPattern digest = true

namespace Pin

variable (p : Pin)

/-- `version@digest` -/
def value : String := p.version ++ "@" ++ p.digest

/-- the line that assigns the pin -/
def line : Bytes := textBytes (versionVariable ++ "=" ++ p.value)

theorem value_toList : p.value.toList = p.version.toList ++ '@' :: p.digest.toList := by
  simp [value]

theorem line_eq : p.line = textBytes (versionVariable ++ "=") ++ textBytes p.value := textBytes_append _ _

theorem splitPin_value : splitPin p.value = some (p.version, p.digest) := by
  have hfree : ∀ {s : String}, (∀ c ∈ s.toList, isIdentChar c = true) → '@' ∉ s.toList := fun h hmem =>
    absurd (h '@' hmem) (by decide)
  have hsplit : p.value.toList.splitOn '@' = [p.version.toList, p.digest.toList] := by
    rw [value_toList, List.splitOn_append_cons_self_of_not_mem (hfree (versionPattern_chars p.valid.1).2),
      List.splitOn_eq_singleton (hfree (digestPattern_chars p.valid.2).2)]
  simp [splitPin, hsplit, p.valid.1, p.valid.2]

theorem line_chars : ∀ c ∈ (versionVariable ++ "=" ++ p.value).toList, 33 ≤ c.toNat ∧ c.toNat < 128 := by
  have hident : ∀ {c : Char}, isIdentChar c = true → 33 ≤ c.toNat ∧ c.toNat < 128 := fun hc => by
    have := isIdentChar_toNat hc
    omega
  intro c hc
  rw [String.toList_append, value_toList, List.mem_append, List.mem_append, List.mem_cons] at hc
  rcases hc with hc | hc | rfl | hc
  · have hall : (versionVariable ++ "=").toList.all (fun d => decide (33 ≤ d.toNat ∧ d.toNat < 128)) = true := by decide
    simpa using List.all_eq_true.1 hall c hc
  · exact hident ((versionPattern_chars p.valid.1).2 c hc)
  · decide
  · exact hident ((digestPattern_chars p.valid.2).2 c hc)

theorem line_bytes : ∀ b ∈ p.line, plainByte b = true := by
  intro b hb
  obtain ⟨c, hc, rfl⟩ := List.mem_map.1 hb
  exact plainByte_visible (p.line_chars c hc).1 (p.line_chars c hc).2

theorem line_trimmed : trimBytes p.line = p.line := trimBytes_of_plain p.line_bytes

/-- the bytes of the pin are those of an ASCII text -/
theorem value_text : String.ofList ((textBytes p.value).map byteChar) = p.value := by
  have hchars : (textBytes p.value).map byteChar = p.value.toList := by
    rw [textBytes, List.map_map]
    refine (List.map_congr_left fun c hc => ?_).trans (List.map_id _)
    have := p.line_chars c (by simp [hc])
    exact byteChar_ofNat (by omega)
  rw [hchars, String.ofList_toList]

theorem line_free : 10 ∉ p.line := fun h => absurd (p.line_bytes _ h) (by decide)

theorem line_ne_nil : p.line ≠ [] := by
  rw [line_eq]
  intro h
  have hname : textBytes (versionVariable ++ "=") = [] := (List.append_eq_nil_iff.1 h).1
  exact absurd hname (by decide)

theorem line_assigns : assigns versionVariable p.line = true := by
  rw [assigns, line_trimmed, List.isPrefixOf_iff_prefix, line_eq]
  exact List.prefix_append _ _

theorem line_assigned : assigned versionVariable p.line = textBytes p.value := by
  rw [assigned, line_trimmed, line_eq, List.drop_left]

@[simp] theorem chomp_line : chomp p.line = p.line := by
  rw [chomp_eq_iff]
  intro h
  exact absurd (p.line_bytes _ (List.mem_of_getLast? h)) (by decide)

/-- the line with the pin in its place if it is the assignment -/
def put (line : Bytes) : Bytes := if assigns versionVariable line then p.line else line

@[simp] theorem put_assigns (line : Bytes) : assigns versionVariable (p.put line) = assigns versionVariable line := by
  unfold put
  split_ifs with h
  · rw [h, line_assigns]
  · rfl

theorem put_nil_iff {line : Bytes} : p.put line = [] ↔ line = [] := by
  unfold put
  split_ifs with h
  · refine ⟨fun hnil => absurd hnil p.line_ne_nil, fun hnil => ?_⟩
    rw [hnil, assigns_nil] at h
    exact absurd h (by decide)
  · rfl

theorem put_free {line : Bytes} (h : 10 ∉ line) : 10 ∉ p.put line := by
  unfold put
  split_ifs
  · exact p.line_free
  · exact h

end Pin

/-! ## The editor -/

section Editor

variable {lines : List Bytes} {data : Bytes} (p : Pin)

theorem envLines_free (data : Bytes) : ∀ line ∈ envLines data, 10 ∉ line := fun _ h => not_mem_of_mem_splitOn h

/-- the lines an update writes -/
def written (lines : List Bytes) : List Bytes := solid (lines.map p.put)

theorem written_eq (lines : List Bytes) : written p lines = (solid lines).map p.put := by
  have hnil : ((fun line : Bytes => line == []) ∘ p.put) = fun line => line == [] := by
    funext line
    rw [Function.comp_apply, Bool.eq_iff_iff, beq_iff_eq, beq_iff_eq]
    exact p.put_nil_iff
  rw [written, solid, solid, List.rdropWhile, List.rdropWhile, ← List.map_reverse, List.dropWhile_map, hnil,
    ← List.map_reverse]

theorem written_free (hfree : ∀ line ∈ lines, 10 ∉ line) : ∀ line ∈ written p lines, 10 ∉ line := by
  intro line h
  rw [written_eq] at h
  obtain ⟨original, horiginal, rfl⟩ := List.mem_map.1 h
  exact p.put_free (hfree original ((solid_initial lines).subset horiginal))

theorem countP_solid (lines : List Bytes) :
    (solid lines).countP (assigns versionVariable) = lines.countP (assigns versionVariable) := by
  have hsplit : solid lines ++ lines.rtakeWhile (· == []) = lines := List.rdropWhile_append_rtakeWhile
  have hempty : (lines.rtakeWhile (· == [])).countP (assigns versionVariable) = 0 := by
    rw [List.countP_eq_zero]
    intro line hline
    have : line = [] := by simpa using List.mem_rtakeWhile_imp hline
    rw [this, assigns_nil]
    decide
  conv_rhs => rw [← hsplit, List.countP_append, hempty, Nat.add_zero]

theorem countP_written (lines : List Bytes) :
    (written p lines).countP (assigns versionVariable) = lines.countP (assigns versionVariable) := by
  have hput : assigns versionVariable ∘ p.put = assigns versionVariable := by
    funext line
    rw [Function.comp_apply, p.put_assigns]
  rw [written, countP_solid, List.countP_map, hput]

theorem written_ne_nil (h : lines.countP (assigns versionVariable) = 1) : written p lines ≠ [] := by
  intro hnil
  have := countP_written p lines
  rw [hnil, h] at this
  exact absurd this (by decide)

/-- an update of a file with one assignment -/
theorem updateVersionEnv_single (h : (envLines data).countP (assigns versionVariable) = 1) :
    updateVersionEnv data versionVariable p.value = some (ended (written p (envLines data))) := by
  have hpin : pinLines versionVariable (textBytes (versionVariable ++ "=" ++ p.value)) (envLines data) =
      (envLines data).map p.put := by
    simp only [pinLines, h]
    rfl
  have hfree : ∀ line ∈ (envLines data).map p.put, 10 ∉ line := by
    intro line hline
    obtain ⟨original, horiginal, rfl⟩ := List.mem_map.1 hline
    exact p.put_free (envLines_free data original horiginal)
  simp only [updateVersionEnv, bne_self_eq_false, Bool.false_or, p.splitPin_value, Option.isNone_some, Bool.false_eq_true,
    if_false, h, Nat.lt_irrefl, hpin]
  rw [endLine_intercalate hfree, written]

theorem updateVersionEnv_many (h : 1 < (envLines data).countP (assigns versionVariable)) :
    updateVersionEnv data versionVariable p.value = none := by
  simp [updateVersionEnv, p.splitPin_value, h]

theorem countP_written_back (lines : List Bytes) :
    ((written p lines).map chomp ++ [[]]).countP (assigns versionVariable) = lines.countP (assigns versionVariable) := by
  have hchomp : assigns versionVariable ∘ chomp = assigns versionVariable := by
    funext line
    rw [Function.comp_apply, assigns_chomp]
  have hnil : [[]].countP (assigns versionVariable) = 0 := by
    rw [List.countP_singleton, assigns_nil, if_neg Bool.false_ne_true]
  rw [List.countP_append, List.countP_map, hchomp, countP_written, hnil, Nat.add_zero]

/-- every assigning line that is read back is the pin -/
theorem written_assigns {line : Bytes} (h : line ∈ (written p lines).map chomp ++ [[]])
    (hassigns : assigns versionVariable line = true) : line = p.line := by
  rcases List.mem_append.1 h with h | h
  · rw [written_eq, List.map_map] at h
    obtain ⟨original, -, rfl⟩ := List.mem_map.1 h
    have horiginal : assigns versionVariable original = true := by simpa using hassigns
    simp [Pin.put, horiginal]
  · rw [List.mem_singleton.1 h, assigns_nil] at hassigns
    exact absurd hassigns (by decide)

theorem exists_single (h : lines.countP (assigns versionVariable) = 1) :
    ∃ before line behind, lines = before ++ line :: behind ∧ assigns versionVariable line = true ∧
      (∀ l ∈ before, assigns versionVariable l = false) ∧ ∀ l ∈ behind, assigns versionVariable l = false := by
  obtain ⟨line, hmem, hline⟩ := List.countP_pos_iff.1 (by omega : 0 < lines.countP (assigns versionVariable))
  obtain ⟨before, behind, rfl⟩ := List.append_of_mem hmem
  simp only [List.countP_append, List.countP_cons, hline, if_true] at h
  have hzero : before.countP (assigns versionVariable) = 0 ∧ behind.countP (assigns versionVariable) = 0 := by omega
  simp only [List.countP_eq_zero, Bool.not_eq_true] at hzero
  exact ⟨before, line, behind, rfl, hline, hzero.1, hzero.2⟩

variable (h : lines.countP (assigns versionVariable) = 1) (hfree : ∀ line ∈ lines, 10 ∉ line)

include h hfree

/-- the lines that are read back from an update -/
theorem envLines_written : envLines (ended (written p lines)) = (written p lines).map chomp ++ [[]] :=
  envLines_ended (written_ne_nil p h) (written_free p hfree)

theorem parse_written : parseVersionEnvPin (ended (written p lines)) versionVariable = some (p.version, p.digest) := by
  rw [parseVersionEnvPin, envLines_written p h hfree]
  obtain ⟨before, line, behind, hsplit, hline, hbefore, hbehind⟩ := exists_single (countP_written_back p lines |>.trans h)
  have hmem : line ∈ (written p lines).map chomp ++ [[]] := by
    rw [hsplit]
    simp
  have hpin := written_assigns p hmem hline
  rw [hsplit, read_single hbefore hline hbehind, hpin, p.line_assigned, Option.bind_some, p.value_text]
  exact p.splitPin_value

/-- a second update strips one carriage return from every line -/
theorem update_written :
    updateVersionEnv (ended (written p lines)) versionVariable p.value =
      some (ended (solid ((written p lines).map chomp))) := by
  have hback := envLines_written p h hfree
  have hput : ∀ line ∈ (written p lines).map chomp ++ [[]], p.put line = line := by
    intro line hline
    by_cases hassigns : assigns versionVariable line = true
    · simp [Pin.put, written_assigns p hline hassigns]
    · simp [Pin.put, hassigns]
  have hwritten : written p ((written p lines).map chomp ++ [[]]) = solid ((written p lines).map chomp) := by
    rw [written, List.map_congr_left hput, List.map_id', solid, List.rdropWhile_concat_pos _ _ _ (by simp)]
  rw [updateVersionEnv_single p (by rw [hback, countP_written_back, h]), hback, hwritten]

/-- a second update changes nothing exactly when no written line ends in a carriage return -/
theorem update_stable_iff :
    updateVersionEnv (ended (written p lines)) versionVariable p.value =
      some (ended (written p lines)) ↔ ∀ line ∈ written p lines, line.getLast? ≠ some 13 := by
  have hsolid : solid (written p lines) = written p lines := List.rdropWhile_idempotent _ _
  rw [update_written p h hfree, Option.some.injEq]
  constructor
  · intro heq
    have hmem : p.line ∈ solid ((written p lines).map chomp) := by
      obtain ⟨before, line, behind, hsplit, hline, -⟩ := exists_single (countP_written_back p lines |>.trans h)
      have hline' : line ∈ (written p lines).map chomp ++ [[]] := by rw [hsplit]; simp
      have hpin := written_assigns p hline' hline
      subst hpin
      refine mem_solid ?_ p.line_ne_nil
      rcases List.mem_append.1 hline' with hmem | hmem
      · exact hmem
      · exact absurd (List.mem_singleton.1 hmem) p.line_ne_nil
    have hfree' : ∀ line ∈ solid ((written p lines).map chomp), 10 ∉ line := by
      intro line hline
      obtain ⟨original, horiginal, rfl⟩ := List.mem_map.1 ((solid_initial _).subset hline)
      exact fun hmem => written_free p hfree original horiginal (chomp_subset original hmem)
    have hlists := ended_injective (List.ne_nil_of_mem hmem) (written_ne_nil p h) hfree' (written_free p hfree) heq
    -- a dropped line would make the list shorter, so the lines are the chomped ones
    have hfull : solid ((written p lines).map chomp) = (written p lines).map chomp := by
      apply (solid_initial _).eq_of_length
      have := congrArg List.length hlists
      simpa using this
    rw [hfull] at hlists
    intro line hline
    rw [← chomp_eq_iff]
    obtain ⟨i, hi, rfl⟩ := List.mem_iff_getElem.1 hline
    have := List.getElem_of_eq hlists (by simpa using hi)
    simpa using this
  · intro hplain
    have hmap : (written p lines).map chomp = written p lines := by
      conv_rhs => rw [← List.map_id (written p lines)]
      exact List.map_congr_left fun line hline => chomp_eq_iff.2 (hplain line hline)
    rw [hmap, hsolid]

end Editor

/-! ## The law -/

/-- what an update of an accepted file promises: it succeeds, its text reads back as the pin with every other line in its
place, and the same update again changes nothing -/
def PinLaw (data : Bytes) (p : Pin) : Prop :=
  ∃ out, updateVersionEnv data versionVariable p.value = some out ∧
    parseVersionEnvPin out versionVariable = some (p.version, p.digest) ∧
    solid (envLines out) = (solid (envLines data)).map p.put ∧
    updateVersionEnv out versionVariable p.value = some out

/-- no line assigns nothing, and no other line ends in a carriage return of its own -/
def PlainEnv (data : Bytes) : Prop :=
  ∀ line ∈ envLines data, trimBytes line ≠ textBytes (versionVariable ++ "=") ∧
    (assigns versionVariable line = false → line.getLast? ≠ some 13)

/-- an accepted file has one assignment, unless it also assigns nothing somewhere -/
theorem accepted_countP {data : Bytes} {old : String × String}
    (haccepted : parseVersionEnvPin data versionVariable = some old) :
    (∀ line ∈ envLines data, trimBytes line ≠ textBytes (versionVariable ++ "=")) ↔
      (envLines data).countP (assigns versionVariable) = 1 := by
  obtain ⟨value, hread, hpin⟩ := Option.bind_eq_some_iff.1 haccepted
  obtain ⟨before, line, behind, hsplit, hline, hvalue, hbefore, hbehind⟩ := read_some hread (splitPin_ne_nil hpin)
  have hassigns : ∀ l : Bytes, trimBytes l = textBytes (versionVariable ++ "=") →
      assigns versionVariable l = true := by
    intro l hl
    rw [assigns, hl, List.isPrefixOf_iff_prefix]
  have hcount : (envLines data).countP (assigns versionVariable) = before.countP (assigns versionVariable) + 1 := by
    have hnone : behind.countP (assigns versionVariable) = 0 := by
      rw [List.countP_eq_zero]
      intro l hl
      rw [hbehind l hl]
      exact Bool.false_ne_true
    rw [hsplit, List.countP_append, List.countP_cons_of_pos hline, hnone]
  rw [hcount, Nat.add_eq_right, List.countP_eq_zero]
  constructor
  · intro hnone l hl hassigned
    have hmem : l ∈ envLines data := by
      rw [hsplit]
      exact List.mem_append_left _ hl
    exact hnone l hmem ((assigned_empty_iff hassigned).1 (hbefore l hl hassigned))
  · intro hnone l hl hempty
    have hassigned := hassigns l hempty
    rw [hsplit] at hl
    rcases List.mem_append.1 hl with hl | hl
    · exact hnone l hl hassigned
    rcases List.mem_cons.1 hl with rfl | hl
    · exact hvalue ((assigned_empty_iff hline).2 hempty)
    · rw [hbehind l hl] at hassigned
      exact absurd hassigned Bool.false_ne_true

/-- the lines that an update writes end in no carriage return exactly when the other lines do not -/
theorem written_plain_iff (lines : List Bytes) (p : Pin) :
    (∀ line ∈ written p lines, line.getLast? ≠ some 13) ↔
      ∀ line ∈ lines, assigns versionVariable line = false → line.getLast? ≠ some 13 := by
  constructor
  · intro h line hline hassigns hlast
    have hput : p.put line = line := by rw [Pin.put, hassigns, if_neg Bool.false_ne_true]
    have hne : line ≠ [] := by
      rintro rfl
      simp at hlast
    refine h line ?_ hlast
    rw [written_eq, ← hput]
    exact List.mem_map_of_mem (mem_solid hline hne)
  · intro h line hline
    rw [written_eq] at hline
    obtain ⟨original, horiginal, rfl⟩ := List.mem_map.1 hline
    by_cases hassigns : assigns versionVariable original = true
    · rw [Pin.put, if_pos hassigns, ← chomp_eq_iff, Pin.chomp_line]
    · rw [Pin.put, if_neg hassigns]
      exact h original ((solid_initial lines).subset horiginal) (by simpa using hassigns)

/-- **Updating the version pin.** For every file the reader accepts and every valid pin, the update keeps its law exactly
when the file is plain: a bare assignment in front of the pin is skipped by the reader but counted by the editor, and a
carriage return left at the end of another line is stripped by the next update. -/
theorem pin_update_iff (data : Bytes) (old : String × String) (p : Pin)
    (haccepted : parseVersionEnvPin data versionVariable = some old) : PinLaw data p ↔ PlainEnv data := by
  have hcount := accepted_countP haccepted
  have hfree := envLines_free data
  by_cases hone : (envLines data).countP (assigns versionVariable) = 1
  · have hstable := update_stable_iff p hone hfree
    have hplain := written_plain_iff (envLines data) p
    constructor
    · rintro ⟨out, hout, -, -, hagain⟩
      rw [updateVersionEnv_single p hone, Option.some.injEq] at hout
      subst hout
      intro line hline
      exact ⟨hcount.2 hone line hline, hplain.1 (hstable.1 hagain) line hline⟩
    · intro henv
      have hlast := hplain.2 fun line hline => (henv line hline).2
      refine ⟨_, updateVersionEnv_single p hone, parse_written p hone hfree, ?_, hstable.2 hlast⟩
      have hmap : (written p (envLines data)).map chomp = written p (envLines data) := by
        conv_rhs => rw [← List.map_id (written p (envLines data))]
        exact List.map_congr_left fun line hline => chomp_eq_iff.2 (hlast line hline)
      rw [envLines_written p hone hfree, hmap, solid, List.rdropWhile_concat_pos _ _ _ (by simp), ← written_eq]
      exact List.rdropWhile_idempotent _ _
  · constructor
    · rintro ⟨out, hout, -⟩
      -- an accepted file has an assignment, so one that has not one has several
      have hpos : 0 < (envLines data).countP (assigns versionVariable) := by
        obtain ⟨value, hread, hpin⟩ := Option.bind_eq_some_iff.1 haccepted
        obtain ⟨before, line, behind, hsplit, hline, -⟩ := read_some hread (splitPin_ne_nil hpin)
        rw [hsplit]
        exact List.countP_pos_iff.2 ⟨line, by simp, hline⟩
      rw [updateVersionEnv_many p (by omega)] at hout
      cases hout
    · intro henv
      exact absurd (hcount.1 fun line hline => (henv line hline).1) hone

/-! ## Samples -/

section Files

variable (old new : Pin) {other : Bytes} (hfree : 10 ∉ other)

/-- a file with another line before the old pin and the line ends of each -/
def pinFile (other : Bytes) : Bytes := ended [other, old.line]

include hfree

/-- the lines of the file, whose first one is free of newlines -/
theorem envLines_pinFile : envLines (pinFile old other) = [chomp other, old.line, []] := by
  have hlines : ∀ line ∈ [other, old.line], 10 ∉ line := by
    intro line hline
    rcases List.mem_cons.1 hline with rfl | hline
    · exact hfree
    · rw [List.mem_singleton.1 hline]
      exact old.line_free
  rw [pinFile, envLines_ended (by simp) hlines]
  simp

/-- the reader takes the file when its first line assigns nothing -/
theorem pinFile_accepted
    (hother : assigns versionVariable (chomp other) = true → assigned versionVariable (chomp other) = []) :
    parseVersionEnvPin (pinFile old other) versionVariable = some (old.version, old.digest) := by
  have hstep : pinStep versionVariable [] (chomp other) = some [] := by
    rw [pinStep_eq]
    by_cases h : assigns versionVariable (chomp other) = true
    · simp [h, hother h]
    · simp [h]
  have hrest : [old.line, []].foldlM (pinStep versionVariable) [] = some (textBytes old.value) := by
    have hbefore : ∀ l ∈ ([] : List Bytes), assigns versionVariable l = false := by simp
    have := read_single hbefore old.line_assigns (by simp [assigns_nil] : ∀ l ∈ [[]], assigns versionVariable l = false)
    rwa [old.line_assigned] at this
  rw [parseVersionEnvPin, envLines_pinFile old hfree, List.foldlM_cons, hstep]
  simp only [Option.bind_eq_bind, Option.bind_some, hrest, old.value_text]
  exact old.splitPin_value

/-- the assigning lines of the file -/
theorem pinFile_countP :
    (envLines (pinFile old other)).countP (assigns versionVariable) =
      1 + if assigns versionVariable (chomp other) then 1 else 0 := by
  rw [envLines_pinFile old hfree, List.countP_cons, List.countP_cons_of_pos old.line_assigns, List.countP_singleton,
    assigns_nil, if_neg Bool.false_ne_true]

/-- the update keeps its law on the file when the other line is plain -/
theorem pinFile_plain (hassigns : assigns versionVariable (chomp other) = false)
    (hlast : (chomp other).getLast? ≠ some 13) : PlainEnv (pinFile old other) := by
  have haccepted := pinFile_accepted old hfree fun h => absurd (h.symm.trans hassigns) Bool.true_eq_false.mp
  have hcount := pinFile_countP old hfree
  rw [hassigns, if_neg Bool.false_ne_true] at hcount
  intro line hline
  refine ⟨(accepted_countP haccepted).2 hcount line hline, fun hother => ?_⟩
  rw [envLines_pinFile old hfree] at hline
  simp only [List.mem_cons, List.not_mem_nil, or_false] at hline
  rcases hline with rfl | rfl | rfl
  · exact hlast
  · rw [old.line_assigns] at hother
    exact absurd hother (by decide)
  · simp

/-- the editor refuses a file with two assignments -/
theorem pinFile_refused (hassigns : assigns versionVariable (chomp other) = true) :
    ¬ PinLaw (pinFile old other) new := by
  rintro ⟨out, hout, -⟩
  have hcount := pinFile_countP old hfree
  rw [hassigns, if_pos rfl] at hcount
  rw [updateVersionEnv_many new (by omega)] at hout
  cases hout

/-- a carriage return left behind the other line is stripped by the second update -/
theorem pinFile_unstable (hassigns : assigns versionVariable (chomp other) = false)
    (hlast : (chomp other).getLast? = some 13) : ¬ PinLaw (pinFile old other) new := by
  rintro ⟨out, hout, -, -, hagain⟩
  have hcount := pinFile_countP old hfree
  rw [hassigns, if_neg Bool.false_ne_true] at hcount
  have hlines := envLines_free (pinFile old other)
  rw [updateVersionEnv_single new hcount, Option.some.injEq] at hout
  subst hout
  have hplain := (written_plain_iff _ new).1 ((update_stable_iff new hcount hlines).1 hagain)
  refine hplain (chomp other) ?_ hassigns hlast
  rw [envLines_pinFile old hfree]
  exact List.mem_cons_self

end Files

/-- a pin with one digit all over its digest -/
def pinOf (version digit : String)
    (h : versionPattern version = true ∧ digestPattern ("sha256:" ++ String.join (List.replicate 64 digit)) = true) : Pin :=
  ⟨version, "sha256:" ++ String.join (List.replicate 64 digit), h⟩

def oldPin : Pin := pinOf "v1.0.0" "a" (by decide)
def newPin : Pin := pinOf "v2.0.0" "b" (by decide)

/-- another variable with a CRLF line end -/
def plainLine : Bytes := textBytes "A=1\r"
/-- the assignment of nothing -/
def bareLine : Bytes := textBytes "AUTOSTREAM_DOCKER_VERSION="
/-- another variable with a doubled carriage return -/
def returnLine : Bytes := textBytes "A=1\r\r"

theorem sample_lines :
    (10 ∉ plainLine ∧ 10 ∉ bareLine ∧ 10 ∉ returnLine) ∧
    (assigns versionVariable (chomp plainLine) = false ∧ assigns versionVariable (chomp returnLine) = false ∧
      assigns versionVariable (chomp bareLine) = true) ∧
    assigned versionVariable (chomp bareLine) = [] ∧ (chomp plainLine).getLast? = some 49 ∧
      (chomp returnLine).getLast? = some 13 := by
  decide

theorem plain_file_updates : PinLaw (pinFile oldPin plainLine) newPin := by
  obtain ⟨⟨hfree, -⟩, ⟨hassigns, -⟩, -, hlast, -⟩ := sample_lines
  have haccepted := pinFile_accepted oldPin hfree fun h => absurd (h.symm.trans hassigns) (by decide)
  refine (pin_update_iff (pinFile oldPin plainLine) _ newPin haccepted).2 (pinFile_plain oldPin hfree hassigns ?_)
  rw [hlast]
  decide

/-- The reader accepts the file with the bare assignment and the editor refuses it; it accepts the file with the doubled
carriage return and a second update changes that file again. -/
theorem bare_assignment_blocks_update :
    (parseVersionEnvPin (pinFile oldPin bareLine) versionVariable = some (oldPin.version, oldPin.digest) ∧
      ¬ PinLaw (pinFile oldPin bareLine) newPin) ∧
    parseVersionEnvPin (pinFile oldPin returnLine) versionVariable = some (oldPin.version, oldPin.digest) ∧
      ¬ PinLaw (pinFile oldPin returnLine) newPin := by
  obtain ⟨⟨-, hfreeBare, hfreeReturn⟩, ⟨-, hreturn, hbare⟩, hempty, -, hlast⟩ := sample_lines
  refine ⟨⟨pinFile_accepted oldPin hfreeBare fun _ => hempty, pinFile_refused oldPin newPin hfreeBare hbare⟩,
    pinFile_accepted oldPin hfreeReturn fun h => absurd (h.symm.trans hreturn) (by decide),
    pinFile_unstable oldPin newPin hfreeReturn hreturn hlast⟩

end AutostreamUpdater.Software
