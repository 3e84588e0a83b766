/-
What the strict reader accepts, and what the two writers leave on disk.

  * `load_some`: the accepted current records, with their history.
  * `validateHistory_ok`: the accepted histories, as chains of predecessors.
  * `save_spec`, `transition_spec`: every state in which a writer can be stopped.
-/
import AutostreamUpdater.Base.Checked
import AutostreamUpdater.Recovery.Store

namespace AutostreamUpdater.Recovery

open Contract Base

/-- what is assumed of SHA-256 and of the JSON codec: a digest is lower-case hex, and the decoder returns a valid record that
was encoded, newline included -/
structure RecoveryContracts.Lawful (X : RecoveryContracts) : Prop where
  digest : ∀ payload, softwareClaimRecoveryRawDigestValid (X.sha256 payload) = true
  decode : ∀ i payload, i.validate X = .ok () → X.intentJSON i = some payload → X.decodeIntent (payload ++ [10]) = some i

section Reading

variable {X : RecoveryContracts}

theorem rawSHA256_valid (hX : X.Lawful) (payload : Bytes) :
    softwareClaimRecoveryRawDigestValid (softwareClaimRecoveryRawSHA256 X payload) = true := hX.digest payload

/-! ## One record -/

theorem readRaw_ok {payload : Bytes} {r : RawRecord} : readSoftwareClaimRecoveryRaw X payload = .ok r ↔
    0 < payload.length ∧ payload.length ≤ softwareClaimRecoveryIntentMaxBytes ∧
      X.decodeIntent payload = some r.intent ∧ r.intent.validate X = .ok () ∧ r.raw = payload := by
  unfold readSoftwareClaimRecoveryRaw
  split
  · rename_i hsize
    simp only [Bool.or_eq_true, beq_iff_eq, decide_eq_true_eq] at hsize
    simp only [reduceCtorEq, false_iff]
    omega
  · rename_i hsize
    simp only [Bool.or_eq_true, beq_iff_eq, decide_eq_true_eq, not_or] at hsize
    cases hd : X.decodeIntent payload with
    | none => simp
    | some i =>
      by_cases hv : i.validate X = .ok ()
      · have hok : (i.validate X).isOk = true := Checked.isOk_unit.2 hv
        simp only [hok, Bool.not_true, Bool.false_eq_true, if_false, Except.ok.injEq]
        obtain ⟨intent, raw⟩ := r
        constructor
        · intro h
          cases h
          exact ⟨by omega, by omega, rfl, hv, rfl⟩
        · intro ⟨_, _, hi, _, hraw⟩
          cases hi
          cases hraw
          rfl
      · have hok : (i.validate X).isOk = false := by
          rw [Bool.eq_false_iff]
          exact fun h => hv (Checked.isOk_unit.1 h)
        simp only [hok, Bool.not_false, if_true, reduceCtorEq, false_iff]
        intro ⟨_, _, hi, hv', _⟩
        cases hi
        exact hv hv'

theorem encodeIntent_some {i : SoftwareClaimRecoveryIntent} {payload : Bytes} :
    encodeIntent X i = some payload ↔ ∃ json, X.intentJSON i = some json ∧
      json.length + 1 ≤ softwareClaimRecoveryIntentMaxBytes ∧ payload = json ++ [10] := by
  unfold encodeIntent
  cases hj : X.intentJSON i with
  | none => simp
  | some json =>
    by_cases hsize : json.length + 1 > softwareClaimRecoveryIntentMaxBytes
    · simp only [hsize, if_true, reduceCtorEq, Option.some.injEq, false_iff]
      intro ⟨_, rfl, h, _⟩
      omega
    · simp only [hsize, if_false, Option.some.injEq]
      constructor
      · intro h
        exact ⟨json, rfl, by omega, h.symm⟩
      · intro ⟨_, rfl, _, h⟩
        exact h.symm

/-- A record that was written is read back. -/
theorem readRaw_encoded (hX : X.Lawful) {i : SoftwareClaimRecoveryIntent} {payload : Bytes} (hv : i.validate X = .ok ())
    (h : encodeIntent X i = some payload) : readSoftwareClaimRecoveryRaw X payload = .ok ⟨i, payload⟩ := by
  obtain ⟨json, hjson, hsize, rfl⟩ := encodeIntent_some.1 h
  refine readRaw_ok.2 ⟨by simp, by simpa using hsize, hX.decode i json hv hjson, hv, rfl⟩

/-! ## The directory -/

theorem archiveDigest_file {digest : String} (h : softwareClaimRecoveryRawDigestValid digest = true) :
    archiveDigest (archiveFile digest) = some digest := by
  have hchars : (archiveFile digest).toList = digest.toList ++ ".json".toList := by simp [archiveFile]
  have hlen : (digest.toList ++ ".json".toList).length - 5 = digest.toList.length := by simp
  simp only [archiveDigest, hchars, hlen, List.take_left, List.drop_left, String.ofList_toList]
  simp [h]

theorem archiveDigest_some {file digest : String} (h : archiveDigest file = some digest) :
    file = archiveFile digest ∧ softwareClaimRecoveryRawDigestValid digest = true := by
  simp only [archiveDigest, Option.ite_none_right_eq_some, Bool.and_eq_true, beq_iff_eq, Option.some.injEq] at h
  obtain ⟨⟨hsuffix, hvalid⟩, rfl⟩ := h
  refine ⟨?_, hvalid⟩
  apply String.toList_inj.1
  rw [archiveFile, String.toList_append, String.toList_ofList, ← hsuffix, List.take_append_drop]

/-- an accepted entry of the directory -/
theorem readArchive_ok {entry : String × Bytes} {a : String × RawRecord} :
    readSoftwareClaimRecoveryArchive X entry = .ok a ↔
      archiveDigest entry.1 = some a.1 ∧ readSoftwareClaimRecoveryRaw X entry.2 = .ok a.2 ∧
        softwareClaimRecoveryRawSHA256 X entry.2 = a.1 ∧ a.2.intent.schemaVersion = 2 ∧ a.2.intent.settled = true ∧
        a.2.intent.terminalClear.isSome = true := by
  unfold readSoftwareClaimRecoveryArchive
  cases hd : archiveDigest entry.1 with
  | none => simp
  | some name =>
    cases hr : readSoftwareClaimRecoveryRaw X entry.2 with
    | error reason => simp
    | ok archive =>
      have hraw : archive.raw = entry.2 := (readRaw_ok.1 hr).2.2.2.2
      obtain ⟨name', archive'⟩ := a
      by_cases hcheck : softwareClaimRecoveryRawSHA256 X entry.2 = name ∧ archive.intent.schemaVersion = 2 ∧
          archive.intent.settled = true ∧ archive.intent.terminalClear.isSome = true
      · obtain ⟨hsha, hschema, hsettled, hclear⟩ := hcheck
        have hnone : archive.intent.terminalClear.isNone = false := by
          rw [← Option.not_isSome, hclear]
          rfl
        have hgood : (softwareClaimRecoveryRawSHA256 X archive.raw != name || archive.intent.schemaVersion != 2 ||
            !archive.intent.settled || archive.intent.terminalClear.isNone) = false := by
          simp [hraw, hsha, hschema, hsettled, hnone]
        simp only [hgood, Bool.false_eq_true, if_false, hsha]
        constructor
        · intro h
          cases h
          exact ⟨rfl, rfl, rfl, hschema, hsettled, hclear⟩
        · intro ⟨h1, h2, _⟩
          cases h1
          cases h2
          rfl
      · have hbad : (softwareClaimRecoveryRawSHA256 X archive.raw != name || archive.intent.schemaVersion != 2 ||
            !archive.intent.settled || archive.intent.terminalClear.isNone) = true := by
          rw [hraw]
          by_contra hgood
          simp only [Bool.or_eq_true, bne_iff_ne, Bool.not_eq_true', Option.isNone_iff_eq_none, not_or, ne_eq,
            Decidable.not_not, Bool.not_eq_false] at hgood
          exact hcheck ⟨hgood.1.1.1, hgood.1.1.2, hgood.1.2, Option.isSome_iff_ne_none.2 hgood.2⟩
        simp only [hbad, if_true, reduceCtorEq, false_iff]
        intro ⟨h1, h2, h3, h4⟩
        cases h1
        cases h2
        exact hcheck ⟨h3, h4⟩

/-- the accepted directories -/
theorem readArchives_some {entries : List (String × Bytes)} {archives : Option Archives} :
    readSoftwareClaimRecoveryArchives X (some entries) = .ok archives ↔ ∃ list, archives = some list ∧
      entries.length ≤ softwareClaimRecoveryHistoryMaxFiles ∧
      List.Forall₂ (fun e a => readSoftwareClaimRecoveryArchive X e = .ok a) entries list ∧
      archivesSize list ≤ softwareClaimRecoveryHistoryMaxBytes := by
  unfold readSoftwareClaimRecoveryArchives
  by_cases hlen : entries.length > softwareClaimRecoveryHistoryMaxFiles
  · simp only [hlen, if_true, reduceCtorEq, false_iff]
    intro ⟨_, _, h, _⟩
    omega
  · simp only [hlen, if_false]
    cases hm : entries.mapM (readSoftwareClaimRecoveryArchive X) with
    | error reason =>
      simp only [reduceCtorEq, false_iff]
      intro ⟨list, _, _, hall, _⟩
      cases hm.symm.trans (Checked.mapM_ok.2 hall)
    | ok list =>
      have hall := Checked.mapM_ok.1 hm
      by_cases hsize : archivesSize list > softwareClaimRecoveryHistoryMaxBytes
      · simp only [hsize, if_true, reduceCtorEq, false_iff]
        intro ⟨list', _, _, hall', hsize'⟩
        obtain rfl : list = list' := by
          have := Checked.mapM_ok.2 hall'
          rw [hm] at this
          exact Except.ok.inj this
        omega
      · simp only [hsize, if_false, Except.ok.injEq]
        constructor
        · intro h
          exact ⟨list, h.symm, by omega, hall, by omega⟩
        · intro ⟨list', hlist', _, hall', _⟩
          have := Checked.mapM_ok.2 hall'
          rw [hm] at this
          rw [hlist', Except.ok.inj this]

/-- a file is among the archives under its digest -/
theorem lookup_archives {entries : List (String × Bytes)} {list : Archives} {digest : String} {payload : Bytes}
    (hdigest : softwareClaimRecoveryRawDigestValid digest = true)
    (h : List.Forall₂ (fun e a => readSoftwareClaimRecoveryArchive X e = .ok a) entries list)
    (hfile : entries.lookup (archiveFile digest) = some payload) :
    ∃ r, list.lookup digest = some r ∧ readSoftwareClaimRecoveryRaw X payload = .ok r := by
  induction h with
  | nil => cases hfile
  | @cons e a entries list hread _ ih =>
    obtain ⟨file, bytes⟩ := e
    obtain ⟨name, r⟩ := a
    obtain ⟨hname, hraw, _⟩ := readArchive_ok.1 hread
    have hfilename := (archiveDigest_some hname).1
    dsimp only at hfilename hraw
    by_cases heq : digest = name
    · rw [List.lookup_cons, hfilename, heq] at hfile
      simp only [beq_self_eq_true] at hfile
      cases hfile
      refine ⟨r, ?_, hraw⟩
      rw [List.lookup_cons, heq]
      simp
    · have hne : archiveFile digest ≠ file := by
        intro hsame
        rw [hfilename] at hsame
        have hsame' := congrArg archiveDigest hsame
        rw [archiveDigest_file hdigest, archiveDigest_file (archiveDigest_some hname).2] at hsame'
        exact heq (Option.some.inj hsame')
      rw [List.lookup_cons, beq_false_of_ne hne] at hfile
      obtain ⟨r', hlookup, hr'⟩ := ih hfile
      refine ⟨r', ?_, hr'⟩
      rw [List.lookup_cons, beq_false_of_ne heq]
      exact hlookup

/-! ## The snapshot -/

/-- **What the strict reader accepts** -/
theorem load_some {d : RecoveryDisk} {snap : SoftwareClaimRecoverySnapshot} :
    loadSoftwareClaimRecoverySnapshot X d = .ok (some snap) ↔ d.head = some snap.raw ∧
      readSoftwareClaimRecoveryRaw X snap.raw = .ok snap.toRawRecord ∧
      readSoftwareClaimRecoveryArchives X d.history = .ok snap.archives ∧
      validateSoftwareClaimRecoveryHistory snap.intent (snap.archives.getD []) = .ok () := by
  unfold loadSoftwareClaimRecoverySnapshot
  cases hhead : d.head with
  | none =>
    simp only [reduceCtorEq, false_and, iff_false]
    split <;> simp
  | some payload =>
    dsimp only
    cases hr : readSoftwareClaimRecoveryRaw X payload with
    | error reason =>
      simp only [reduceCtorEq, Option.some.injEq, false_iff, not_and]
      intro hraw hread
      rw [← hraw, hr] at hread
      cases hread
    | ok head =>
      cases ha : readSoftwareClaimRecoveryArchives X d.history with
      | error reason => simp
      | ok archives =>
        have hheadraw : head.raw = payload := (readRaw_ok.1 hr).2.2.2.2
        dsimp only
        cases hv : validateSoftwareClaimRecoveryHistory head.intent (archives.getD []) with
        | error reason =>
          simp only [reduceCtorEq, Option.some.injEq, false_iff, not_and]
          intro hraw hread harch hval
          rw [← hraw, hr] at hread
          cases hread
          cases harch
          rw [hv] at hval
          cases hval
        | ok u =>
          simp only [Except.ok.injEq, Option.some.injEq]
          constructor
          · intro h
            subst h
            exact ⟨hheadraw.symm, by rw [hheadraw, hr], rfl, hv⟩
          · intro ⟨hraw, hread, harch, _⟩
            rw [← hraw, hr] at hread
            obtain ⟨rec, arch⟩ := snap
            cases hread
            cases harch
            rfl

theorem sameAuthority_iff {a b : SoftwareClaimRecoveryIntent} : sameSoftwareClaimRecoveryAuthority a b = true ↔
    a.updaterID = b.updaterID ∧ a.hostID = b.hostID ∧ a.original.ownershipEpoch = b.original.ownershipEpoch ∧
      a.sourcePolicyRevision = b.sourcePolicyRevision ∧ a.projectionRevision = b.projectionRevision ∧
      a.executorPolicyRevision = b.executorPolicyRevision ∧ a.executorPolicySHA256 = b.executorPolicySHA256 := by
  simp [sameSoftwareClaimRecoveryAuthority, and_assoc]

theorem sameAuthority_trans {a b c : SoftwareClaimRecoveryIntent} (hab : sameSoftwareClaimRecoveryAuthority a b = true)
    (hbc : sameSoftwareClaimRecoveryAuthority b c = true) : sameSoftwareClaimRecoveryAuthority a c = true := by
  rw [sameAuthority_iff] at hab hbc ⊢
  obtain ⟨h1, h2, h3, h4, h5, h6, h7⟩ := hab
  obtain ⟨k1, k2, k3, k4, k5, k6, k7⟩ := hbc
  exact ⟨h1.trans k1, h2.trans k2, h3.trans k3, h4.trans k4, h5.trans k5, h6.trans k6, h7.trans k7⟩

theorem archiveLinkable_iff {start i : SoftwareClaimRecoveryIntent} : archiveLinkable start i = true ↔
    sameSoftwareClaimRecoveryAuthority start i = true ∧ i.settled = true ∧ i.schemaVersion = 2 ∧
      i.terminalClear.isSome = true := by
  simp [archiveLinkable, and_assoc]

/-- **What an accepted history is**: from every record a chain of at most 32 links over settled records of the head's
authority, no two of one job. -/
theorem validateHistory_ok {head : SoftwareClaimRecoveryIntent} {archives : Archives} :
    validateSoftwareClaimRecoveryHistory head archives = .ok () ↔
      ∀ start ∈ head :: softwareClaimRecoveryArchiveIntents archives, sameSoftwareClaimRecoveryAuthority head start = true ∧
        ∃ l, Chain (predecessor archives) start (start :: l) ∧ l.length ≤ softwareClaimRecoveryHistoryMaxFiles ∧
          (∀ i ∈ l, archiveLinkable start i = true) ∧ ((start :: l).map fun i => i.original.jobID).Nodup := by
  unfold validateSoftwareClaimRecoveryHistory
  rw [Checked.forM_ok]
  refine forall₂_congr fun start _ => ?_
  have hfrom : validateHistoryFrom head archives start = .ok () ↔ sameSoftwareClaimRecoveryAuthority head start = true ∧
      walk (predecessor archives) (fun i => i.original.jobID) (archiveLinkable start)
        softwareClaimRecoveryHistoryMaxFiles start [start.original.jobID] = true := by
    unfold validateHistoryFrom
    split
    · simp_all
    · split <;> simp_all
  rw [hfrom, walk_iff]
  refine and_congr_right fun _ => exists_congr fun l => and_congr_right fun _ => and_congr_right fun _ =>
    and_congr_right fun _ => ?_
  rw [List.map_cons, List.nodup_cons, and_comm]
  refine and_congr_left fun _ => ?_
  simp only [List.mem_singleton, List.mem_map, not_exists, not_and]

end Reading

/-! ## Sample records -/

namespace Sample

/-- a digest that tells the sample's files apart -/
def digest (payload : Bytes) : String :=
  String.ofList ((if payload = [2, 10] then '2' else if payload = [3, 10] then '3' else 'f') :: List.replicate 63 '0')

def policyDigest : String := "sha256:" ++ String.ofList (List.replicate 64 'a')

def request (jobID : String) (generation : ℕ) : SoftwareClaimRecoveryRequest where
  jobID := jobID
  leaseGeneration := generation
  targetID := "worker-1"
  currentVersion := "v1.0.0"
  targetVersion := "v1.1.0"
  configRevision := 1
  ownershipEpoch := 1

/-- an unsettled record of one attempt -/
def opened (jobID : String) (previous : String) : SoftwareClaimRecoveryIntent where
  schemaVersion := 2
  original := request jobID 1
  request := request jobID 1
  updaterID := "updater-1"
  hostID := "host-1"
  sourcePolicyRevision := 1
  projectionRevision := 1
  executorPolicyRevision := 1
  executorPolicySHA256 := policyDigest
  attempts := [⟨1, 5, false⟩]
  previousSettledRawSHA256 := previous

/-- the root executor's proof that the job has changed nothing -/
def proof (previous : String) : SoftwareClaimRecoveryProof where
  requestSHA256 := "sha256:" ++ digest []
  updaterID := "updater-1"
  hostID := "host-1"
  sourcePolicyRevision := 1
  projectionRevision := 1
  executorPolicyRevision := 1
  executorPolicySHA256 := policyDigest
  ownershipEpoch := 1
  runtimeVersion := "v1.9.0"
  noMutation := true
  observedAt := 4
  priorSettledRawSHA256 := previous

/-- the first record, its second attempt after a confirmed reread, and its settlement -/
def first : SoftwareClaimRecoveryIntent := opened "job-1" ""
def second : SoftwareClaimRecoveryIntent := { first with attempts := first.attempts ++ [⟨1, 6, true⟩] }
def settled : SoftwareClaimRecoveryIntent :=
  { second with
      settled := true
      settledAt := 9
      terminalClear := some
        { claimRequest := ⟨"updater-1", "host-1", 2, 1, "job-1"⟩, rootNoMutation := proof "", observedAt := 9 } }

/-- the record of the next job -/
def other : SoftwareClaimRecoveryIntent := opened "job-2" (digest [2, 10])

/-- the records that the sample's codec can write -/
def records : List SoftwareClaimRecoveryIntent := [first, second, settled, other]

def encode (i : SoftwareClaimRecoveryIntent) : Option Bytes :=
  if i = first then some [0] else if i = second then some [1] else if i = settled then some [2]
  else if i = other then some [3] else none

def decode (payload : Bytes) : Option SoftwareClaimRecoveryIntent :=
  if payload = [0, 10] then some first else if payload = [1, 10] then some second else if payload = [2, 10] then some settled
  else if payload = [3, 10] then some other else none

def contracts : RecoveryContracts :=
  { (default : RecoveryContracts) with sha256 := digest, intentJSON := encode, decodeIntent := decode }

/-- the sample's codec and digest are as the development assumes -/
theorem lawful : contracts.Lawful where
  digest := by
    intro payload
    by_cases h2 : payload = [2, 10]
    · subst h2; decide
    · by_cases h3 : payload = [3, 10]
      · subst h3; decide
      · simp only [contracts, Sample.digest, h2, h3, if_false]
        decide
  decode := by
    intro i payload _ h
    simp only [contracts, encode] at h
    split_ifs at h with h0 h1 h2 h3
    all_goals
      cases h
      subst i
      rfl

theorem records_valid : ∀ i ∈ records, i.validate contracts = .ok () := by decide +kernel

end Sample
end AutostreamUpdater.Recovery
