/-
What the digest of a mutation plan binds.

`MutationPlanSHA256` digests a payload of trimmed and normalised fields, so a plan is bound only as far as its validator
makes that normalisation the identity. It does for every field but one: the target version is matched after trimming and
never compared with its trimmed text, as the current version is. Two accepted plans of one digest therefore agree in all
fields but the session exactly when their target versions have the same white space around them.
-/
import Mathlib.Data.List.DropRight
import AutostreamUpdater.Contract.Job
import AutostreamUpdater.Contract.TextLaws

namespace AutostreamUpdater.Contract

/-! ## White space around a text -/

/-- the white space before and behind a text -/
def padding (s : String) : List Char × List Char :=
  (s.toList.takeWhile isSpace, (s.toList.dropWhile isSpace).rtakeWhile isSpace)

theorem toList_eq_padded (s : String) : s.toList = (padding s).1 ++ (trimChars s.toList ++ (padding s).2) := by
  have htrim : trimChars s.toList ++ (padding s).2 = s.toList.dropWhile isSpace := List.rdropWhile_append_rtakeWhile
  rw [htrim, padding, List.takeWhile_append_dropWhile]

theorem eq_of_trimSpace {a b : String} (htrim : trimSpace a = trimSpace b) (hpad : padding a = padding b) : a = b := by
  have hchars : trimChars a.toList = trimChars b.toList := by
    have := congrArg String.toList htrim
    rwa [trimSpace_toList, trimSpace_toList] at this
  apply String.toList_inj.1
  rw [toList_eq_padded a, toList_eq_padded b, hchars, hpad]

theorem trimSpace_of_chars {s : String} (h : ∀ c ∈ s.toList, isSpace c = false) : trimSpace s = s := by
  have htrimmed : Trimmed s.toList :=
    ⟨fun c hc => h c (List.mem_of_head? hc), fun c hc => h c (List.mem_of_getLast? hc)⟩
  rw [trimSpace_eq, trimChars_of_trimmed htrimmed, String.ofList_toList]

theorem trimSpace_identifier {s : String} (h : identifierPattern s = true) : trimSpace s = s := by
  apply trimSpace_of_chars
  intro c hc
  simp only [identifierPattern, identLike] at h
  cases hs : s.toList with
  | nil => simp [hs] at h
  | cons d l =>
    simp only [hs, Bool.and_eq_true, List.all_eq_true, and_assoc] at h
    rw [hs] at hc
    rcases List.mem_cons.1 hc with rfl | hc
    · exact isIdentChar_not_space (isAlnum_isIdentChar h.1)
    · exact isIdentChar_not_space (h.2.1 c hc)

theorem trimSpace_version {s : String} (h : versionPattern s = true) : trimSpace s = s :=
  trimSpace_of_chars fun c hc => isIdentChar_not_space ((versionPattern_chars h).2 c hc)

theorem trimSpace_serviceType {s : String} (h : validManagedServiceType s = true) : trimSpace s = s := by
  have hall : ∀ t ∈ ["control_panel", "worker", "encoder_recorder", "discord_bot", "observability"], trimSpace t = t := by
    decide
  exact hall s (by simpa [validManagedServiceType] using h)

theorem trimSpace_deploymentMode {s : String} (h : s = modeSystemd ∨ s = modeDocker) : trimSpace s = s := by
  rcases h with rfl | rfl <;> decide

/-- the prefix that a bare hash gets is the same for all -/
theorem normalizeDigest_hash_inj {a b : String} (ha : mutationPlanHashPattern a = true)
    (hb : mutationPlanHashPattern b = true) (h : normalizeDigest a = normalizeDigest b) : a = b := by
  rw [normalizeDigest_hash ha, normalizeDigest_hash hb] at h
  have := congrArg String.toList h
  rw [String.toList_append, String.toList_append] at this
  exact String.toList_inj.1 (List.append_cancel_left this)

/-! ## Accepted plans -/

namespace MutationPlan

variable {sha : ℤ → MutationPlan → String} {p q : MutationPlan}

/-- what the validator leaves of the normalisation: it is the identity on every field but the target version -/
structure Bound (sha : ℤ → MutationPlan → String) (p : MutationPlan) : Prop where
  jobID : trimSpace p.jobID = p.jobID
  hostID : trimSpace p.hostID = p.hostID
  targetID : trimSpace p.targetID = p.targetID
  serviceType : trimSpace p.serviceType = p.serviceType
  mode : p.deploymentMode = modeSystemd ∨ p.deploymentMode = modeDocker
  currentVersion : trimSpace p.currentVersion = p.currentVersion
  configSHA256 : trimSpace (toLower p.configSHA256) = p.configSHA256
  artifactDigest : mutationPlanHashPattern p.artifactDigest = true
  release : (p.deploymentMode = modeSystemd ∧ p.expectedVersion = p.targetVersion ∧ p.expectedImageDigest = "" ∧
      p.expectedPlatformDigest = "") ∨
    (p.deploymentMode = modeDocker ∧ versionPattern p.expectedVersion = true ∧
      digestPattern p.expectedImageDigest = true ∧ digestPattern p.expectedPlatformDigest = true)
  digest : sha mutationPlanSchemaVersion p.payload = p.planSHA256

theorem bound_of_validate (h : p.validate sha = true) : Bound sha p := by
  simp only [validate, Bool.and_eq_true, beq_iff_eq, Bool.or_eq_true, and_assoc] at h
  obtain ⟨hjob, hhost, htarget, hservice, hmode, -, -, hcurrent, -, hconfig, -, -, -, hrelease, hdigest⟩ := h
  have hne : modeDocker ≠ modeSystemd := by decide
  have hrelease' : mutationPlanHashPattern p.artifactDigest = true ∧
      ((p.deploymentMode = modeSystemd ∧ p.expectedVersion = p.targetVersion ∧ p.expectedImageDigest = "" ∧
        p.expectedPlatformDigest = "") ∨
      (p.deploymentMode = modeDocker ∧ versionPattern p.expectedVersion = true ∧
        digestPattern p.expectedImageDigest = true ∧ digestPattern p.expectedPlatformDigest = true)) := by
    rcases hmode with hm | hm
    · simp only [releaseBindingValid, hm, beq_self_eq_true, if_true, Bool.and_eq_true, beq_iff_eq, and_assoc] at hrelease
      exact ⟨hrelease.1, .inl ⟨hm, hrelease.2⟩⟩
    · simp only [releaseBindingValid, hm, beq_eq_false_iff_ne.2 hne, Bool.false_eq_true, if_false, Bool.and_eq_true,
        and_assoc] at hrelease
      exact ⟨hrelease.1, .inr ⟨hm, hrelease.2⟩⟩
  have hsha : sha mutationPlanSchemaVersion p.payload = p.planSHA256 := by
    unfold computePlanSHA256 at hdigest
    split_ifs at hdigest
    simpa using hdigest
  exact ⟨trimSpace_identifier hjob, trimSpace_identifier hhost, trimSpace_identifier htarget, trimSpace_serviceType hservice,
    hmode, hcurrent, hconfig, hrelease'.1, hrelease'.2, hsha⟩

/-- the expected version is the target version of a systemd plan and trimmed in a Docker plan -/
theorem Bound.expectedVersion_eq (hp : Bound sha p) (hq : Bound sha q) (hmode : p.deploymentMode = q.deploymentMode)
    (htarget : p.targetVersion = q.targetVersion) (htrim : trimSpace p.expectedVersion = trimSpace q.expectedVersion) :
    p.expectedVersion = q.expectedVersion := by
  have hne : modeSystemd ≠ modeDocker := by decide
  rcases hp.release with ⟨hm, hv, -⟩ | ⟨hm, hv, -⟩ <;> rcases hq.release with ⟨hm', hv', -⟩ | ⟨hm', hv', -⟩
  · rw [hv, hv', htarget]
  · exact absurd (hm.symm.trans (hmode.trans hm')) hne
  · exact absurd (hm'.symm.trans (hmode.symm.trans hm)) hne
  · rwa [trimSpace_version hv, trimSpace_version hv'] at htrim

/-- a release digest is empty in a systemd plan and normal in a Docker plan -/
theorem Bound.releaseDigests (hp : Bound sha p) :
    normalizeDigest p.expectedImageDigest = p.expectedImageDigest ∧
      normalizeDigest p.expectedPlatformDigest = p.expectedPlatformDigest := by
  rcases hp.release with ⟨-, -, himage, hplatform⟩ | ⟨-, -, himage, hplatform⟩
  · rw [himage, hplatform]
    decide
  · exact ⟨normalizeDigest_digest himage, normalizeDigest_digest hplatform⟩

/-- accepted plans of one payload differ at most in their session, their digest and the white space of their target version -/
theorem Bound.eq_of_payload (hp : Bound sha p) (hq : Bound sha q) (hpayload : p.payload = q.payload)
    (hpad : padding p.targetVersion = padding q.targetVersion) :
    q = { p with sessionID := q.sessionID, planSHA256 := q.planSHA256 } := by
  have hfields := MutationPlan.mk.inj hpayload
  obtain ⟨hjob, hhost, htargetID, hservice, hmode, hcurrent, hconfig, htarget, hlease, hartifact, hexpected, himage,
    hplatform, -⟩ := hfields
  rw [hp.jobID, hq.jobID] at hjob
  rw [hp.hostID, hq.hostID] at hhost
  rw [hp.targetID, hq.targetID] at htargetID
  rw [hp.serviceType, hq.serviceType] at hservice
  rw [trimSpace_deploymentMode hp.mode, trimSpace_deploymentMode hq.mode] at hmode
  rw [hp.currentVersion, hq.currentVersion] at hcurrent
  rw [hp.configSHA256, hq.configSHA256] at hconfig
  rw [hp.releaseDigests.1, hq.releaseDigests.1] at himage
  rw [hp.releaseDigests.2, hq.releaseDigests.2] at hplatform
  have htarget := eq_of_trimSpace htarget hpad
  have hartifact := normalizeDigest_hash_inj hp.artifactDigest hq.artifactDigest hartifact
  have hexpected := hp.expectedVersion_eq hq hmode htarget hexpected
  cases p
  cases q
  simp_all

/-- **The plan digest binds the intent up to white space.** Two accepted plans with equal digests, whose payloads do not
collide, agree in every field but the session exactly when their target versions carry the same white space. -/
theorem plan_hash_binds_iff (sha : ℤ → MutationPlan → String) (p q : MutationPlan) (hp : p.validate sha = true)
    (hq : q.validate sha = true) (hsame : p.planSHA256 = q.planSHA256)
    (hinj : sha mutationPlanSchemaVersion p.payload = sha mutationPlanSchemaVersion q.payload → p.payload = q.payload) :
    q = { p with sessionID := q.sessionID } ↔ padding p.targetVersion = padding q.targetVersion := by
  have hbp := bound_of_validate hp
  have hbq := bound_of_validate hq
  constructor
  · intro heq
    rw [heq]
  · intro hpad
    have hpayload : p.payload = q.payload := hinj (by rw [hbp.digest, hbq.digest, hsame])
    have heq := hbp.eq_of_payload hbq hpayload hpad
    rw [hsame]
    exact heq

/-! ## Samples -/

/-- the plan of a systemd job whose target version is written as `version` -/
def samplePlanFor (version session : String) : MutationPlan where
  jobID := "job-1"
  hostID := "host-1"
  targetID := "svc-1"
  serviceType := "worker"
  deploymentMode := "systemd"
  currentVersion := "v1.0.0"
  configSHA256 := "sha256:" ++ String.join (List.replicate 64 "0")
  targetVersion := version
  leaseGeneration := 1
  artifactDigest := String.join (List.replicate 64 "d")
  expectedVersion := version
  sessionID := session
  planSHA256 := String.join (List.replicate 64 "5")

theorem toNats_injective : Function.Injective fun s : String => s.toList.map Char.toNat := by
  intro a b h
  have hchar : Function.Injective Char.toNat := fun c d hcd => Char.ext (UInt32.toNat_inj.1 hcd)
  exact String.toList_inj.1 (List.map_injective_iff.2 hchar h)

/-- the texts of a plan, and its lease -/
def texts (p : MutationPlan) : List (List ℕ) × ℕ :=
  ([p.jobID, p.hostID, p.targetID, p.serviceType, p.deploymentMode, p.currentVersion, p.configSHA256, p.targetVersion,
    p.artifactDigest, p.expectedVersion, p.expectedImageDigest, p.expectedPlatformDigest, p.sessionID,
    p.planSHA256].map fun s => s.toList.map Char.toNat, p.leaseGeneration)

theorem texts_injective : Function.Injective texts := by
  intro p q h
  obtain ⟨htexts, hlease⟩ := Prod.mk.inj h
  have htexts := List.map_injective_iff.2 toNats_injective htexts
  cases p
  cases q
  simp_all

instance : Countable MutationPlan := texts_injective.countable

/-- some injective digest gives a payload any digest wanted -/
theorem exists_injective_digest (x : MutationPlan) (digest : String) (hz : 'z' ∉ digest.toList) :
    ∃ sha : MutationPlan → String, Function.Injective sha ∧ sha x = digest := by
  obtain ⟨code, hcode⟩ := exists_injective_nat MutationPlan
  -- every other payload gets a text of its own length in a letter that the digest does not have
  let other : MutationPlan → String := fun y => String.ofList (List.replicate (code y + 1) 'z')
  have hother : ∀ y, other y ≠ digest := by
    intro y h
    apply hz
    rw [← h, String.toList_ofList]
    simp
  refine ⟨fun y => if y = x then digest else other y, ?_, if_pos rfl⟩
  intro y y' h
  by_cases hy : y = x <;> by_cases hy' : y' = x
  · rw [hy, hy']
  · exact absurd (by simpa [hy, hy'] using h.symm) (hother y')
  · exact absurd (by simpa [hy, hy'] using h) (hother y)
  · have hlen := congrArg (fun s => s.toList.length) (show other y = other y' by simpa [hy, hy'] using h)
    simp only [other, String.toList_ofList, List.length_replicate, Nat.add_right_cancel_iff] at hlen
    exact hcode hlen

/-- a digest that sends every payload to the digest of the sample plans -/
abbrev sampleSHA : ℤ → MutationPlan → String := fun _ _ => String.join (List.replicate 64 "5")

/-- the texts of the sample plan that its validator matches -/
theorem sample_texts :
    digestPattern ("sha256:" ++ String.join (List.replicate 64 "0")) = true ∧
      mutationPlanHashPattern (String.join (List.replicate 64 "d")) = true ∧
      mutationPlanHashPattern (String.join (List.replicate 64 "5")) = true ∧
      'z' ∉ (String.join (List.replicate 64 "5")).toList := by
  decide +kernel

/-- a sample plan is valid however its version is padded -/
theorem samplePlanFor_validate {version session : String} (hversion : versionPattern (trimSpace version) = true)
    (hsession : mutationSessionPattern session = true) : (samplePlanFor version session).validate sampleSHA = true := by
  obtain ⟨hconfig, hartifact, hplan, -⟩ := sample_texts
  have hsettled := settled_digest hconfig
  have hids : identifierPattern "job-1" = true ∧ identifierPattern "host-1" = true ∧ identifierPattern "svc-1" = true := by
    decide
  have htrimmed : trimSpace "job-1" = "job-1" ∧ trimSpace "host-1" = "host-1" ∧ trimSpace "svc-1" = "svc-1" :=
    ⟨trimSpace_identifier hids.1, trimSpace_identifier hids.2.1, trimSpace_identifier hids.2.2⟩
  have hcurrent : versionPattern "v1.0.0" = true := by decide
  have hcurrent' := trimSpace_version hcurrent
  have hservice : validManagedServiceType "worker" = true := by decide
  unfold Settled at hsettled
  simp only [validate, computePlanSHA256, identityComplete, releaseBindingValid, samplePlanFor, modeSystemd, hids, htrimmed,
    hcurrent', hcurrent, hservice, hsettled, hconfig, hartifact, hplan, hversion, hsession,
    sampleSHA, beq_self_eq_true, Bool.true_or, Bool.and_self, if_true]
  rfl

theorem sample_versions : versionPattern (trimSpace "v2.0.0") = true ∧ versionPattern (trimSpace " v2.0.0") = true ∧
    trimSpace "v2.0.0" = trimSpace " v2.0.0" ∧ mutationSessionPattern "session-00000001" = true ∧
    mutationSessionPattern "session-00000002" = true := by
  decide

theorem samplePlanFor_payload {version version' : String} (session : String) (h : trimSpace version = trimSpace version') :
    (samplePlanFor version session).payload = (samplePlanFor version' session).payload := by
  simp only [payload, samplePlanFor, h]

/-- the validator asks the digest of the payload only -/
theorem validate_congr {sha sha' : ℤ → MutationPlan → String}
    (h : sha mutationPlanSchemaVersion p.payload = sha' mutationPlanSchemaVersion p.payload) :
    p.validate sha = p.validate sha' := by
  unfold validate computePlanSHA256
  rw [h]

theorem resumed_session_binds :
    samplePlanFor "v2.0.0" "session-00000002" =
      { samplePlanFor "v2.0.0" "session-00000001" with sessionID := "session-00000002" } :=
  (plan_hash_binds_iff sampleSHA (samplePlanFor "v2.0.0" "session-00000001") (samplePlanFor "v2.0.0" "session-00000002")
    (samplePlanFor_validate sample_versions.1 sample_versions.2.2.2.1)
    (samplePlanFor_validate sample_versions.1 sample_versions.2.2.2.2) rfl fun _ => rfl).2 rfl

/-- Under an injective digest, two plans that differ in a blank before the target version are accepted with one digest. -/
theorem padded_version_shares_hash :
    ∃ sha : ℤ → MutationPlan → String, (∀ v, Function.Injective (sha v)) ∧
      (samplePlanFor "v2.0.0" "session-00000001").validate sha = true ∧
      (samplePlanFor " v2.0.0" "session-00000001").validate sha = true ∧
      (samplePlanFor "v2.0.0" "session-00000001").planSHA256 = (samplePlanFor " v2.0.0" "session-00000001").planSHA256 ∧
      (samplePlanFor "v2.0.0" "session-00000001").targetVersion ≠
        (samplePlanFor " v2.0.0" "session-00000001").targetVersion := by
  obtain ⟨hplain, hpadded, htrim, hsession, -⟩ := sample_versions
  have hpayload := samplePlanFor_payload "session-00000001" htrim
  obtain ⟨sha, hinj, hx⟩ := exists_injective_digest (samplePlanFor "v2.0.0" "session-00000001").payload _ sample_texts.2.2.2
  refine ⟨fun _ => sha, fun _ => hinj, ?_, ?_, rfl, by decide⟩
  · exact (validate_congr hx).trans (samplePlanFor_validate hplain hsession)
  · refine Eq.trans (validate_congr ?_) (samplePlanFor_validate hpadded hsession)
    rw [← hpayload]
    exact hx

end MutationPlan

end AutostreamUpdater.Contract
