/-
The Docker port mapping file as a format (`docker_port_policy.go`).

`dockerPortEnvBytes` prints the file and `parseDockerPortEnv` reads it back: three assignments, one a line, with decimal
numbers in canonical form. The reader ends by printing what it has read and comparing, so it accepts nothing that the printer
does not produce (`printed_of_parse`); `parse_printed` is the other direction, up to the reader's size limit. The files of
the four service types are far below that limit, so there the two are inverse (`docker_port_env_codec`).
-/
import AutostreamUpdater.Port.Ledger
import AutostreamUpdater.Contract.TextLaws
import AutostreamUpdater.Base.Decimal
import AutostreamUpdater.Base.Lines

namespace AutostreamUpdater.Port

open Contract Base

/-! ## The reader -/

def newline : UInt8 := 10

/-- `strconv.ParseInt(text, 10, 64)` and `strconv.Atoi` -/
def parseInt64 (text : Bytes) : Option ℤ := Decimal.readInt64 (text.map byteChar)

/-- `strings.CutPrefix` -/
def cutFront (front text : Bytes) : Option Bytes :=
  if text.take front.length == front then some (text.drop front.length) else none

/-- `value == "" || strings.HasPrefix(value, "0")` -/
def emptyOrZero (value : Bytes) : Bool := value.isEmpty || value.head? == some 48

def parseCanonicalDockerPortAssignment (line : Bytes) (name : String) : Except String ℤ :=
  match cutFront (textBytes (name ++ "=")) line with
  | none => .error "Docker port mapping assignment is invalid"
  | some value =>
    if emptyOrZero value then .error "Docker port mapping assignment is invalid"
    else match parseInt64 value with
      | none => .error "Docker port mapping assignment is invalid"
      | some port =>
        if !validSystemdPort port || textBytes (toString port) != value then
          .error "Docker port mapping assignment is invalid"
        else .ok port

/-- the third line of the file -/
def parseConfigRevision (line : Bytes) : Except String ℤ :=
  match cutFront (textBytes "AUTOSTREAM_CONFIG_REVISION=") line with
  | none => .error "Docker port mapping config revision is invalid"
  | some revisionText =>
    if emptyOrZero revisionText then .error "Docker port mapping config revision is invalid"
    else match parseInt64 revisionText with
      | none => .error "Docker port mapping config revision is invalid"
      | some configRevision =>
        if configRevision < 1 || textBytes (toString configRevision) != revisionText then
          .error "Docker port mapping config revision is invalid"
        else .ok configRevision

def parseDockerPortEnv (adapter : DockerPortAdapter) (body : Bytes) : Except String (ℤ × ℤ × ℤ) :=
  if body.isEmpty || 65536 < body.length then .error "Docker port mapping is empty or oversized"
  else match body.splitOn newline with
    | [first, second, third, []] => do
      let publishedPort ← parseCanonicalDockerPortAssignment first adapter.publishedVariable
      let containerPort ← parseCanonicalDockerPortAssignment second adapter.containerVariable
      let configRevision ← parseConfigRevision third
      if dockerPortEnvBytes adapter publishedPort containerPort configRevision != some body then
        .error "Docker port mapping is not canonical"
      else .ok (publishedPort, containerPort, configRevision)
    | _ => .error "Docker port mapping must contain exactly three assignments"

/-! ## Printed numbers -/

/-- the digits of a positive number, as bytes -/
theorem textBytes_toString {n : ℤ} (h : 0 < n) :
    textBytes (toString n) = (Nat.toDigits 10 n.toNat).map fun c => UInt8.ofNat c.toNat := by
  obtain ⟨m, rfl⟩ := Int.eq_ofNat_of_zero_le h.le
  rw [textBytes, Int.toString_eq_repr, Int.repr_eq_if, if_pos h.le, Int.toNat_natCast, Nat.toList_repr]

theorem map_byteChar_digits (n : ℕ) :
    ((Nat.toDigits 10 n).map fun c => UInt8.ofNat c.toNat).map byteChar = Nat.toDigits 10 n := by
  rw [List.map_map]
  refine (List.map_congr_left fun c hc => ?_).trans (List.map_id _)
  have hdigit := Decimal.digit_bounds (Decimal.isDigit_of_mem_toDigits hc)
  exact byteChar_ofNat (by omega)

/-- a printed positive number starts with a digit other than zero -/
theorem head_printed {n : ℤ} (h : 0 < n) :
    ∃ c : Char, 49 ≤ c.toNat ∧ c.toNat ≤ 57 ∧ (textBytes (toString n)).head? = some (UInt8.ofNat c.toNat) := by
  rw [textBytes_toString h]
  obtain ⟨c, cs, hcs⟩ := List.exists_cons_of_ne_nil (Nat.toDigits_ne_nil (n := n.toNat) (b := 10))
  have hdigit := Decimal.digit_bounds (Decimal.isDigit_of_mem_toDigits (hcs ▸ List.mem_cons_self : c ∈ _))
  have hzero : c ≠ '0' := by
    rintro rfl
    exact Decimal.head_toDigits_ne (n := n.toNat) (by omega) (by rw [hcs]; rfl)
  have hne : c.toNat ≠ 48 := fun heq => hzero (Char.toNat_inj.1 heq)
  exact ⟨c, by omega, by omega, by rw [hcs]; rfl⟩

theorem ofNat_ne {c : Char} {k : ℕ} (h : c.toNat < 256) (hk : k < 256) (hne : c.toNat ≠ k) :
    UInt8.ofNat c.toNat ≠ UInt8.ofNat k := by
  intro heq
  have := congrArg UInt8.toNat heq
  rw [UInt8.toNat_ofNat', UInt8.toNat_ofNat', Nat.mod_eq_of_lt (by simpa using h), Nat.mod_eq_of_lt (by simpa using hk)] at this
  exact hne this

/-- a printed number is read back -/
theorem parseInt64_printed {n : ℤ} (h : 0 < n) (hmax : n < 2 ^ 63) : parseInt64 (textBytes (toString n)) = some n := by
  rw [parseInt64, textBytes_toString h, map_byteChar_digits, Decimal.readInt64_toDigits (by omega),
    Int.toNat_of_nonneg h.le]

theorem emptyOrZero_printed {n : ℤ} (h : 0 < n) : emptyOrZero (textBytes (toString n)) = false := by
  obtain ⟨c, hlo, hhi, hhead⟩ := head_printed h
  have hzero : (UInt8.ofNat c.toNat : UInt8) ≠ 48 := ofNat_ne (k := 48) (by omega) (by decide) (by omega)
  unfold emptyOrZero
  rw [hhead]
  cases htext : textBytes (toString n) with
  | nil => rw [htext] at hhead; exact absurd hhead (by simp)
  | cons b rest => simpa using hzero

/-! ## Printed lines -/

theorem cutFront_append (front text : Bytes) : cutFront front (front ++ text) = some text := by
  simp [cutFront]

theorem parseAssignment_printed {name : String} {port : ℤ} (h : validSystemdPort port = true) :
    parseCanonicalDockerPortAssignment (textBytes (name ++ "=" ++ toString port)) name = .ok port := by
  have hbounds : 1024 ≤ port ∧ port ≤ 65535 := by simpa [validSystemdPort] using h
  unfold parseCanonicalDockerPortAssignment
  rw [textBytes_append (name ++ "="), cutFront_append]
  dsimp only
  rw [emptyOrZero_printed (by omega), if_neg (by decide), parseInt64_printed (by omega) (by omega)]
  dsimp only
  rw [h, if_neg (by simp)]

theorem parseConfigRevision_printed {revision : ℤ} (h : 1 ≤ revision) (hmax : revision < 2 ^ 63) :
    parseConfigRevision (textBytes ("AUTOSTREAM_CONFIG_REVISION=" ++ toString revision)) = .ok revision := by
  unfold parseConfigRevision
  rw [textBytes_append, cutFront_append]
  dsimp only
  rw [emptyOrZero_printed (by omega), if_neg (by decide), parseInt64_printed (by omega) hmax]
  dsimp only
  rw [if_neg]
  simpa using h

/-- a character of a name, of a number, or the equals sign, by its code -/
def Plain (c : Char) : Prop := 45 ≤ c.toNat ∧ c.toNat ≤ 122

theorem newline_not_mem {text : String} (h : ∀ c ∈ text.toList, Plain c) : newline ∉ textBytes text := by
  intro hmem
  obtain ⟨c, hc, heq⟩ := List.mem_map.1 hmem
  have hplain := h c hc
  unfold Plain at hplain
  exact ofNat_ne (k := 10) (by omega) (by decide) (by omega) heq

theorem plain_name {name : String} (h : envNamePattern name = true) : ∀ c ∈ name.toList, Plain c := by
  have hident : ∀ c : Char, ('A' ≤ c && c ≤ 'Z' || isDigit c || c == '_') = true → Plain c := by
    intro c hc
    have : isIdentChar c = true := by
      simp only [isIdentChar, isAlnum, Bool.or_eq_true] at hc ⊢
      tauto
    exact ⟨(isIdentChar_toNat this).1, (isIdentChar_toNat this).2.1⟩
  unfold envNamePattern at h
  cases hname : name.toList with
  | nil => simp
  | cons d ds =>
    rw [hname] at h
    simp only [Bool.and_eq_true, List.all_eq_true] at h
    intro c hc
    rcases List.mem_cons.1 hc with rfl | hc
    · exact hident c (by simp [h.1])
    · exact hident c (h.2 c hc)

theorem plain_number {n : ℤ} (h : 0 < n) : ∀ c ∈ (toString n).toList, Plain c := by
  obtain ⟨m, rfl⟩ := Int.eq_ofNat_of_zero_le h.le
  rw [Int.toString_eq_repr, Int.repr_eq_if, if_pos h.le, Int.toNat_natCast, Nat.toList_repr]
  intro c hc
  have hdigit := Decimal.digit_bounds (Decimal.isDigit_of_mem_toDigits hc)
  exact ⟨by omega, by omega⟩

theorem plain_assignment {name : String} {n : ℤ} (hname : ∀ c ∈ name.toList, Plain c) (hn : 0 < n) :
    ∀ c ∈ (name ++ "=" ++ toString n).toList, Plain c := by
  intro c hc
  simp only [String.toList_append, List.mem_append] at hc
  rcases hc with (hc | hc) | hc
  · exact hname c hc
  · obtain rfl : c = '=' := by simpa using hc
    exact ⟨by decide, by decide⟩
  · exact plain_number hn c hc

/-! ## The file -/

variable {adapter : DockerPortAdapter}

/-- what makes the printer produce a file, and the file as lines -/
theorem printed_lines {p c r : ℤ} {body : Bytes} (h : dockerPortEnvBytes adapter p c r = some body) :
    envNamePattern adapter.publishedVariable = true ∧ envNamePattern adapter.containerVariable = true ∧
      validSystemdPort p = true ∧ validSystemdPort c = true ∧ 1 ≤ r ∧
      body = [newline].intercalate [textBytes (adapter.publishedVariable ++ "=" ++ toString p),
        textBytes (adapter.containerVariable ++ "=" ++ toString c),
        textBytes ("AUTOSTREAM_CONFIG_REVISION=" ++ toString r), []] := by
  unfold dockerPortEnvBytes at h
  split_ifs at h with hvalid
  simp only [Bool.and_eq_true, decide_eq_true_eq] at hvalid
  obtain ⟨⟨⟨⟨hpub, hcon⟩, hp⟩, hc⟩, hr⟩ := hvalid
  refine ⟨hpub, hcon, hp, hc, hr, ?_⟩
  have hend : textBytes "\n" = [newline] := rfl
  have hthird : textBytes "\nAUTOSTREAM_CONFIG_REVISION=" = newline :: textBytes "AUTOSTREAM_CONFIG_REVISION=" := rfl
  rw [← Option.some.inj h]
  simp only [textBytes_append, hend, hthird, List.intercalate_cons_cons, List.intercalate_singleton, List.append_assoc,
    List.cons_append, List.nil_append, List.append_nil]

/-- **A printed file is read back**, if the reader's size limit allows it. -/
theorem parse_printed {p c r : ℤ} {body : Bytes} (hmax : r < 2 ^ 63) (hsize : body.length ≤ 65536)
    (h : dockerPortEnvBytes adapter p c r = some body) : parseDockerPortEnv adapter body = .ok (p, c, r) := by
  obtain ⟨hpub, hcon, hp, hc, hr, hlines⟩ := printed_lines h
  have hpbounds : 1024 ≤ p ∧ p ≤ 65535 := by simpa [validSystemdPort] using hp
  have hcbounds : 1024 ≤ c ∧ c ≤ 65535 := by simpa [validSystemdPort] using hc
  have hsplit : body.splitOn newline = [textBytes (adapter.publishedVariable ++ "=" ++ toString p),
      textBytes (adapter.containerVariable ++ "=" ++ toString c),
      textBytes ("AUTOSTREAM_CONFIG_REVISION=" ++ toString r), []] := by
    rw [hlines]
    apply List.splitOn_intercalate _ _ (by simp)
    have hrevision : ∀ c ∈ ("AUTOSTREAM_CONFIG_REVISION" ++ "=" ++ toString r).toList, Plain c :=
      plain_assignment (plain_name (by decide)) (by omega)
    simp only [List.mem_cons, List.not_mem_nil, or_false, forall_eq_or_imp, forall_eq]
    exact ⟨newline_not_mem (plain_assignment (plain_name hpub) (by omega)),
      newline_not_mem (plain_assignment (plain_name hcon) (by omega)), newline_not_mem hrevision, by simp⟩
  have hnonempty : body ≠ [] := by
    rintro rfl
    simp at hsplit
  unfold parseDockerPortEnv
  rw [if_neg (by simp [hnonempty, hsize]), hsplit]
  dsimp only
  rw [parseAssignment_printed hp, parseAssignment_printed hc, parseConfigRevision_printed hr hmax]
  simp [bind, Except.bind, h]

theorem revision_lt_of_parse {line : Bytes} {r : ℤ} (h : parseConfigRevision line = .ok r) : r < 2 ^ 63 := by
  unfold parseConfigRevision at h
  cases hcut : cutFront (textBytes "AUTOSTREAM_CONFIG_REVISION=") line with
  | none => simp [hcut] at h
  | some text =>
    cases hparse : parseInt64 text with
    | none => simp [hcut, hparse] at h
    | some n =>
      simp only [hcut, hparse] at h
      split_ifs at h
      obtain rfl := Except.ok.inj h
      exact Decimal.readInt64_lt hparse

/-- **A file that is read was printed**, with an `int64` revision. -/
theorem printed_of_parse {p c r : ℤ} {body : Bytes} (h : parseDockerPortEnv adapter body = .ok (p, c, r)) :
    dockerPortEnvBytes adapter p c r = some body ∧ r < 2 ^ 63 ∧ body.length ≤ 65536 := by
  unfold parseDockerPortEnv at h
  split_ifs at h with hsize
  simp only [Bool.or_eq_true, decide_eq_true_eq, not_or, not_lt] at hsize
  split at h
  · rename_i first second third hlines
    cases hfirst : parseCanonicalDockerPortAssignment first adapter.publishedVariable with
    | error e => simp [hfirst, bind, Except.bind] at h
    | ok p' =>
      cases hsecond : parseCanonicalDockerPortAssignment second adapter.containerVariable with
      | error e => simp [hfirst, hsecond, bind, Except.bind] at h
      | ok c' =>
        cases hthird : parseConfigRevision third with
        | error e => simp [hfirst, hsecond, hthird, bind, Except.bind] at h
        | ok r' =>
          simp only [hfirst, hsecond, hthird, bind, Except.bind, bne_iff_ne, ne_eq, ite_not] at h
          split_ifs at h with hcanonical
          obtain ⟨rfl, rfl, rfl⟩ : p' = p ∧ c' = c ∧ r' = r := by simpa using h
          exact ⟨hcanonical, revision_lt_of_parse hthird, hsize.2⟩
  · simp at h

theorem length_printed {n : ℤ} (h : 0 < n) (hmax : n < 2 ^ 63) : (textBytes (toString n)).length ≤ 19 := by
  rw [textBytes_toString h, List.length_map]
  exact (Nat.length_toDigits_le_iff (by decide) (by decide)).2 (by omega)

/-- the variable names of the four service types are well formed and short -/
theorem adapter_names {serviceType : String} {target : Option DockerTarget}
    (h : dockerPortAdapterFor serviceType target = some adapter) :
    (envNamePattern adapter.publishedVariable = true ∧ envNamePattern adapter.containerVariable = true) ∧
      (textBytes adapter.publishedVariable).length ≤ 64 ∧ (textBytes adapter.containerVariable).length ≤ 64 := by
  obtain ⟨a, ha, rfl⟩ : ∃ a ∈ dockerAdapterTable, a.2 = adapter := by
    unfold dockerPortAdapterFor at h
    simp only [Option.bind_eq_bind, Option.bind_eq_some_iff, Option.map_eq_some_iff] at h
    obtain ⟨_, ⟨a, ha, rfl⟩, _, -, _, -, heq⟩ := h
    exact ⟨a, List.mem_of_find?_eq_some ha, Option.some.inj heq⟩
  have htable : dockerAdapterTable.all (fun a => (envNamePattern a.2.publishedVariable &&
      envNamePattern a.2.containerVariable) && ((textBytes a.2.publishedVariable).length ≤ 64 &&
      (textBytes a.2.containerVariable).length ≤ 64)) = true := by decide
  simpa using List.all_eq_true.1 htable a ha

/-- **The mapping file's reader and printer are inverse.** For the adapter of a service type the reader accepts exactly the
files that the printer produces for an `int64` revision, gives back the ports and the revision that were printed, and the
printer produces a file for all its ports and positive revisions. -/
theorem docker_port_env_codec {serviceType : String} {target : Option DockerTarget} {adapter : DockerPortAdapter}
    (hadapter : dockerPortAdapterFor serviceType target = some adapter) :
    (∀ body, (∃ v, parseDockerPortEnv adapter body = .ok v) ↔
      ∃ p c r, r < 2 ^ 63 ∧ dockerPortEnvBytes adapter p c r = some body) ∧
    (∀ p c r body, r < 2 ^ 63 → dockerPortEnvBytes adapter p c r = some body →
      parseDockerPortEnv adapter body = .ok (p, c, r)) ∧
    ∀ p c r, validSystemdPort p = true → validSystemdPort c = true → 1 ≤ r →
      ∃ body, dockerPortEnvBytes adapter p c r = some body := by
  have hread : ∀ p c r body, r < 2 ^ 63 → dockerPortEnvBytes adapter p c r = some body →
      parseDockerPortEnv adapter body = .ok (p, c, r) := by
    intro p c r body hmax h
    refine parse_printed hmax ?_ h
    obtain ⟨-, -, hp, hc, hr, rfl⟩ := printed_lines h
    have hpbounds : 1024 ≤ p ∧ p ≤ 65535 := by simpa [validSystemdPort] using hp
    have hcbounds : 1024 ≤ c ∧ c ≤ 65535 := by simpa [validSystemdPort] using hc
    have hnames := (adapter_names hadapter).2
    have hlenp := length_printed (n := p) (by omega) (by omega)
    have hlenc := length_printed (n := c) (by omega) (by omega)
    have hlenr := length_printed (n := r) (by omega) hmax
    have hequals : (textBytes "=").length = 1 := rfl
    have hlabel : (textBytes "AUTOSTREAM_CONFIG_REVISION=").length = 27 := rfl
    simp only [textBytes_append, List.intercalate_cons_cons, List.intercalate_singleton, List.length_append,
      List.length_singleton, List.length_nil]
    omega
  refine ⟨fun body => ⟨?_, ?_⟩, hread, ?_⟩
  · rintro ⟨⟨p, c, r⟩, h⟩
    obtain ⟨hprinted, hmax, -⟩ := printed_of_parse h
    exact ⟨p, c, r, hmax, hprinted⟩
  · rintro ⟨p, c, r, hmax, h⟩
    exact ⟨(p, c, r), hread p c r body hmax h⟩
  · intro p c r hp hc hr
    have hnames := (adapter_names hadapter).1
    unfold dockerPortEnvBytes
    exact ⟨_, if_pos (by simp [hnames, hp, hc, hr])⟩

/-- a worker target with port authority -/
def Sample.envTarget : DockerTarget where
  service := "worker"
  portEnvFile := "/opt/autostream/local-executor/docker/ports/worker.env"
  portComposeRevision := 1
  portComposePolicySHA256 := String.ofList (List.replicate 64 'a')
  composeConfigSHA256 := ""

theorem sample_env_read_back :
    ∃ adapter body, dockerPortAdapterFor "worker" (some Sample.envTarget) = some adapter ∧
      dockerPortEnvBytes adapter 8081 8082 3 = some body ∧ parseDockerPortEnv adapter body = .ok (8081, 8082, 3) := by
  have hadapter : dockerPortAdapterFor "worker" (some Sample.envTarget) = some ⟨"worker", "AUTOSTREAM_WORKER_PORT",
      "AUTOSTREAM_WORKER_CONTAINER_PORT", "/opt/autostream/local-executor/docker/ports/worker.env"⟩ := by decide
  obtain ⟨-, hread, hprint⟩ := docker_port_env_codec hadapter
  obtain ⟨body, hbody⟩ := hprint 8081 8082 3 (by decide) (by decide) (by decide)
  exact ⟨_, body, hadapter, hbody, hread _ _ _ _ (by decide) hbody⟩

end AutostreamUpdater.Port
