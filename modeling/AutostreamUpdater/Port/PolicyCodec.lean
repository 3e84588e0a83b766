/-
Which payloads are policies: `decodePortPolicy` looks for repeated keys, decodes, validates and encodes again, so that a policy
has one payload.

The tree of a policy has the names of its struct tags, with `omitempty`. What is left to the JSON package is `JsonText`: the
text it writes for a tree and the tokens it reads from a text. `ReadsOwnText` assumes that it reads the text of a valid policy
as the tokens of that policy's tree. The scan for repeated keys, the decoding of the tree and the comparison with the encoding
are computed, and that a valid policy passes them is proved. The validator is any predicate.
-/
import AutostreamUpdater.Contract.PortJSON
import AutostreamUpdater.Base.Record
import AutostreamUpdater.Port.Runs

namespace AutostreamUpdater.Port

open Contract Base

/-! ## The tree of a policy -/

def LocalExecutorEndpoint.rows (e : LocalExecutorEndpoint) : Rows := [("host", text e.host), ("port", int e.port)]

def SystemdTarget.rows (t : SystemdTarget) : Rows :=
  [("systemctl_path", text t.systemctlPath), ("runuser_path", text t.runuserPath), ("smoke_user", text t.smokeUser),
    ("unit", text t.unit), ("release_root", text t.releaseRoot), ("current_link", text t.currentLink),
    ("binary_path", text t.binaryPath), ("required_paths", listIf .str t.requiredPaths)]

def DockerTarget.rows (t : DockerTarget) : Rows :=
  [("docker_path", text t.dockerPath), ("compose_project", text t.composeProject), ("project_dir", text t.projectDir),
    ("compose_files", list .str t.composeFiles), ("service", text t.service), ("image_repo", text t.imageRepo),
    ("image_variable", text t.imageVariable), ("base_env_file", textIf t.baseEnvFile),
    ("version_env_file", text t.versionEnvFile), ("port_env_file", textIf t.portEnvFile),
    ("compose_config_sha256", text t.composeConfigSHA256),
    ("port_compose_policy_sha256", textIf t.portComposePolicySHA256),
    ("port_compose_revision", intIf t.portComposeRevision), ("current_version", textIf t.currentVersion),
    ("channel", textIf t.channel)]

def LocalExecutorTarget.rows (t : LocalExecutorTarget) : Rows :=
  [("service_id", text t.serviceID), ("service_type", text t.serviceType), ("deployment_mode", text t.deploymentMode),
    ("database_name", textIf t.databaseName), ("endpoint_revision", intIf t.endpointRevision),
    ("config_revision", int t.configRevision), ("config_sha256", textIf t.configSHA256),
    ("local_listen_endpoint", some (.record t.localListen.rows)), ("systemd", t.systemd.map fun s => .record s.rows),
    ("docker", t.docker.map fun d => .record d.rows)]

/-- `LocalExecutorMutationPolicy` -/
def mutationRows (panelURL : String) : Rows := [("panel_url", text panelURL)]

def LocalExecutorPolicy.rows (p : LocalExecutorPolicy) : Rows :=
  [("schema_version", int p.schemaVersion), ("protocol_version", int p.protocolVersion), ("host_id", text p.hostID),
    ("agent_uid", int p.agentUID), ("agent_gid", int p.agentGID), ("socket_path", text p.socketPath),
    ("source_policy_revision", intIf p.sourcePolicyRevision), ("projection_revision", intIf p.projectionRevision),
    ("policy_revision", int p.policyRevision), ("mutation", p.mutation.map fun url => .record (mutationRows url)),
    ("targets", list (fun t => .record t.rows) p.targets)]

def LocalExecutorPolicy.json (p : LocalExecutorPolicy) : Json := .record p.rows

/-! ## Decoding the tree -/

/-- decode into a struct whose zero value is the default -/
def readStruct {α : Type} [Inhabited α] (rows : α → Rows) : ((String → Option Json) → Option α) → Json → Option α :=
  readRecord foldName ((rows default).map (·.1))

def readString (j : Json) : Option String := readText (some j)

def readEndpoint : Json → Option LocalExecutorEndpoint := readStruct LocalExecutorEndpoint.rows fun f => do
  return ⟨← readText (f "host"), ← readInt (f "port")⟩

def readSystemd : Json → Option SystemdTarget := readStruct SystemdTarget.rows fun f => do
  return ⟨← readText (f "systemctl_path"), ← readText (f "runuser_path"), ← readText (f "smoke_user"),
    ← readText (f "unit"), ← readText (f "release_root"), ← readText (f "current_link"), ← readText (f "binary_path"),
    ← readList readString (f "required_paths")⟩

def readDocker : Json → Option DockerTarget := readStruct DockerTarget.rows fun f => do
  return ⟨← readText (f "docker_path"), ← readText (f "compose_project"), ← readText (f "project_dir"),
    ← readList readString (f "compose_files"), ← readText (f "service"), ← readText (f "image_repo"),
    ← readText (f "image_variable"), ← readText (f "base_env_file"), ← readText (f "version_env_file"),
    ← readText (f "port_env_file"), ← readText (f "compose_config_sha256"), ← readText (f "port_compose_policy_sha256"),
    ← readInt (f "port_compose_revision"), ← readText (f "current_version"), ← readText (f "channel")⟩

def readTarget : Json → Option LocalExecutorTarget := readStruct LocalExecutorTarget.rows fun f => do
  return ⟨← readText (f "service_id"), ← readText (f "service_type"), ← readText (f "deployment_mode"),
    ← readText (f "database_name"), ← readInt (f "endpoint_revision"), ← readInt (f "config_revision"),
    ← readText (f "config_sha256"), ← (f "local_listen_endpoint").elim (some default) readEndpoint,
    ← readPointer readSystemd (f "systemd"), ← readPointer readDocker (f "docker")⟩

def readMutation : Json → Option String := readStruct mutationRows fun f => readText (f "panel_url")

/-- `Decode` into a policy, unknown fields refused -/
def readPolicyTree : Json → Option LocalExecutorPolicy := readStruct LocalExecutorPolicy.rows fun f => do
  return ⟨← readInt (f "schema_version"), ← readInt (f "protocol_version"), ← readText (f "host_id"),
    ← readInt (f "agent_uid"), ← readInt (f "agent_gid"), ← readText (f "socket_path"),
    ← readInt (f "source_policy_revision"), ← readInt (f "projection_revision"), ← readInt (f "policy_revision"),
    ← readPointer readMutation (f "mutation"), ← readList readTarget (f "targets")⟩

/-- the numbers fit their types, `uint32` for the agent's identity and 64 bits elsewhere -/
def LocalExecutorPolicy.fits (p : LocalExecutorPolicy) : Bool :=
  ([p.agentUID, p.agentGID].all fun z => 0 ≤ z && z < 2 ^ 32) &&
    ([p.schemaVersion, p.protocolVersion, p.sourcePolicyRevision, p.projectionRevision, p.policyRevision] ++
      p.targets.flatMap fun t => [t.endpointRevision, t.configRevision, t.localListen.port] ++
        t.docker.elim [] fun d => [d.portComposeRevision]).all fun z => -2 ^ 63 ≤ z && z < 2 ^ 63

/-! ## The tree of a policy is read back and repeats no key -/

section Trees

variable {α : Type} [Inhabited α] {rows : α → Rows}

theorem readStruct_rows (a : α) (hnames : (rows a).map (·.1) = (rows default).map (·.1))
    (hdistinct : ((rows default).map (·.1)).Nodup) (read : (String → Option Json) → Option α) :
    readStruct rows read (.record (rows a)) = read fun name => ((rows a).lookup name).join :=
  readRecord_record hnames hdistinct read

theorem readString_str (s : String) : readString (.str s) = some s := rfl

theorem readEndpoint_rows (e : LocalExecutorEndpoint) : readEndpoint (.record e.rows) = some e := by
  rw [readEndpoint, readStruct_rows e rfl (by decide)]
  simp [LocalExecutorEndpoint.rows, List.lookup_cons]

theorem readSystemd_rows (t : SystemdTarget) : readSystemd (.record t.rows) = some t := by
  rw [readSystemd, readStruct_rows t rfl (by decide)]
  simp [SystemdTarget.rows, List.lookup_cons, readList_listIf readString_str]

theorem readDocker_rows (t : DockerTarget) : readDocker (.record t.rows) = some t := by
  rw [readDocker, readStruct_rows t rfl (by decide)]
  simp [DockerTarget.rows, List.lookup_cons, readList_list readString_str]

theorem readTarget_rows (t : LocalExecutorTarget) : readTarget (.record t.rows) = some t := by
  rw [readTarget, readStruct_rows t rfl (by decide)]
  simp [LocalExecutorTarget.rows, List.lookup_cons, readEndpoint_rows, readPointer_map readSystemd_rows,
    readPointer_map readDocker_rows]

theorem readMutation_rows (url : String) : readMutation (.record (mutationRows url)) = some url := by
  rw [readMutation, readStruct_rows url rfl (by decide)]
  simp [mutationRows]

theorem readPolicyTree_json (p : LocalExecutorPolicy) : readPolicyTree p.json = some p := by
  rw [readPolicyTree, LocalExecutorPolicy.json, readStruct_rows p rfl (by decide)]
  simp [LocalExecutorPolicy.rows, List.lookup_cons, readPointer_map readMutation_rows, readList_list readTarget_rows]

theorem rows_distinctKeys (a : α) (hnames : (rows a).map (·.1) = (rows default).map (·.1))
    (hdistinct : ((rows default).map (·.1)).Nodup) (hclean : ∀ row ∈ rows a, Clean row.2) :
    (Json.record (rows a)).DistinctKeys id := record_distinctKeys hnames hdistinct hclean

theorem target_distinctKeys (t : LocalExecutorTarget) : (Json.record t.rows).DistinctKeys id := by
  have hlisten : (Json.record t.localListen.rows).DistinctKeys id :=
    rows_distinctKeys t.localListen rfl (by decide) (by simp [LocalExecutorEndpoint.rows])
  have htext : ∀ s : String, (Json.str s).DistinctKeys id := fun _ => trivial
  have hsystemd : ∀ s : SystemdTarget, (Json.record s.rows).DistinctKeys id := fun s =>
    rows_distinctKeys s rfl (by decide) (by simp [SystemdTarget.rows, clean_listIf htext])
  have hdocker : ∀ d : DockerTarget, (Json.record d.rows).DistinctKeys id := fun d =>
    rows_distinctKeys d rfl (by decide) (by simp [DockerTarget.rows, clean_list htext])
  refine rows_distinctKeys t rfl (by decide) ?_
  simp [LocalExecutorTarget.rows, clean_map hsystemd, clean_map hdocker, clean_some hlisten]

theorem json_distinctKeys (p : LocalExecutorPolicy) : p.json.DistinctKeys id := by
  have hmutation : ∀ url, (Json.record (mutationRows url)).DistinctKeys id := fun url =>
    rows_distinctKeys url rfl (by decide) (by simp [mutationRows])
  refine rows_distinctKeys p rfl (by decide) ?_
  simp [LocalExecutorPolicy.rows, clean_map hmutation, clean_list target_distinctKeys]

end Trees

/-! ## The text of a policy -/

/-- the JSON package: the text `Marshal` writes for a tree, and the tokens a decoder reads from a text -/
structure JsonText where
  print : Json → Bytes
  lex : Bytes → Option (List Token)

/-- the scan for repeated keys, `Decode`, the check that nothing is behind the value, and the types of the numbers -/
def JsonText.decodePolicy (T : JsonText) (payload : Bytes) : Option LocalExecutorPolicy := do
  let tokens ← T.lex payload
  guard (rejectPortDuplicateJSONKeys tokens)
  (readPolicyTree (← parse tokens)).filter (·.fits)

/-- the host whose policy codec is the one of the source -/
def JsonText.host (T : JsonText) (E : PortEnv) : PortEnv :=
  { E with encodePolicy := fun p => T.print p.json, decodePolicy := T.decodePolicy }

variable {E : PortEnv} {T : JsonText}

/-- a policy of the source's types that passes `Validate` -/
def ValidPolicy (E : PortEnv) (p : LocalExecutorPolicy) : Prop := p.fits = true ∧ E.policyValid p = true

/-- the JSON package reads the text it wrote for a valid policy as the tokens of its tree -/
def ReadsOwnText (E : PortEnv) (T : JsonText) : Prop :=
  ∀ p, ValidPolicy E p → T.lex (T.print p.json) = some p.json.tokens

theorem decodePolicy_fits {payload : Bytes} {p : LocalExecutorPolicy} (h : T.decodePolicy payload = some p) :
    p.fits = true := by
  simp only [JsonText.decodePolicy, Option.bind_eq_bind, Option.bind_eq_some_iff] at h
  obtain ⟨tokens, -, -, -, j, -, hread⟩ := h
  exact (Option.filter_eq_some_iff.1 hread).2

/-- a valid policy passes the scan and the decoder -/
theorem decodePolicy_json (hT : ReadsOwnText E T) {p : LocalExecutorPolicy} (hp : ValidPolicy E p) :
    T.decodePolicy (T.print p.json) = some p := by
  have hscan := (rejectPortDuplicateJSONKeys_iff p.json).2 (json_distinctKeys p)
  have hparse : parse p.json.tokens = some p.json := parse_eq_some_iff.2 rfl
  simp [JsonText.decodePolicy, hT p hp, hscan, hparse, readPolicyTree_json, hp.1, Option.filter]

theorem decodePortPolicy_eq_some {payload : Bytes} {p : LocalExecutorPolicy} :
    decodePortPolicy E payload = some p ↔ payload ≠ [] ∧ payload.length ≤ 1048576 ∧ E.decodePolicy payload = some p ∧
      E.policyValid p = true ∧ E.encodePolicy p = payload := by
  unfold decodePortPolicy
  split
  · next h =>
    simp only [Bool.or_eq_true, List.isEmpty_iff, decide_eq_true_eq] at h
    simp only [reduceCtorEq, false_iff]
    rintro ⟨hne, hlen, -⟩
    rcases h with h | h
    · exact hne h
    · omega
  · next h =>
    simp only [Bool.or_eq_true, List.isEmpty_iff, decide_eq_true_eq, not_or, not_lt] at h
    cases hdec : E.decodePolicy payload with
    | none => simp
    | some q => grind

/-- a payload is accepted as a policy exactly when it is the bounded text of it -/
theorem host_decodes_iff (hT : ReadsOwnText E T) {payload : Bytes} {p : LocalExecutorPolicy} :
    decodePortPolicy (T.host E) payload = some p ↔
      payload ≠ [] ∧ payload.length ≤ 1048576 ∧ ValidPolicy E p ∧ T.print p.json = payload := by
  rw [decodePortPolicy_eq_some]
  constructor
  · rintro ⟨hne, hlen, hdec, hvalid, hprint⟩
    exact ⟨hne, hlen, ⟨decodePolicy_fits hdec, hvalid⟩, hprint⟩
  · rintro ⟨hne, hlen, hp, rfl⟩
    exact ⟨hne, hlen, decodePolicy_json hT hp, hp.2, rfl⟩

/-! ## Candidates -/

/-- the payload is a policy with the revisions and digests of the snapshot -/
def Carries (E : PortEnv) (plan : SystemdPortReconfigurePlan) (payload : Bytes) (ref : Option PortSnapshotRef) : Prop :=
  ∃ r policy target, ref = some r ∧ decodePortPolicy E payload = some policy ∧ policy.hostID = plan.hostID ∧
    policy.target plan.targetID = some target ∧ policy.sourcePolicyRevision = r.sourcePolicyRevision ∧
    policy.projectionRevision = r.projectionRevision ∧ policy.policyRevision = r.executorPolicyRevision ∧
    r.executorPolicySHA256 = "sha256:" ++ E.sha256 payload ∧ target.endpointRevision = r.appliedEndpointRevision ∧
    target.configRevision = r.configRevision ∧ target.configSHA256 = r.configSHA256 ∧
    target.localListen.port = r.localListenPort

theorem candidateMatches_iff {plan : SystemdPortReconfigurePlan} {payload : Bytes} {ref : Option PortSnapshotRef} :
    candidateMatches E plan payload ref = true ↔ Carries E plan payload ref := by
  unfold candidateMatches Carries
  cases hdec : decodePortPolicy E payload with
  | none => simp
  | some policy =>
    cases ref with
    | none => simp
    | some r =>
      have hbytes := (decodePortPolicy_eq_some.1 hdec).2.2.2.2
      simp only [Bool.and_eq_true, beq_iff_eq, Option.any_eq_true, portPolicySnapshotMatches, PortEnv.policySHA256, hbytes,
        Option.some.injEq, and_assoc]
      grind

/-- what the three payloads of a plan are: the policy itself and the two authorised deltas of it, each the policy of its
snapshot -/
structure CandidatesOf (E : PortEnv) (policy : LocalExecutorPolicy) (plan : SystemdPortReconfigurePlan)
    (c : PortPolicyCandidates) : Prop where
  valid : plan.validate E.toContracts = true
  decodes : decodePortPolicy E c.before = some policy
  deltas : candidateDelta E plan c.before c.target plan.target = true ∧
    candidateDelta E plan c.before c.rollback plan.rollback = true
  before : Carries E plan c.before plan.before
  target : Carries E plan c.target plan.target
  rollback : Carries E plan c.rollback plan.rollback

theorem candidates_validate_iff {plan : SystemdPortReconfigurePlan} {c : PortPolicyCandidates} :
    c.validate E plan = true ↔ (Carries E plan c.before plan.before ∧ Carries E plan c.target plan.target ∧
      Carries E plan c.rollback plan.rollback) ∧ candidateDelta E plan c.before c.target plan.target = true ∧
        candidateDelta E plan c.before c.rollback plan.rollback = true := by
  simp only [PortPolicyCandidates.validate, Bool.and_eq_true, candidateMatches_iff, and_assoc]

/-- the builder returns the three payloads exactly when they are what they should be -/
theorem build_eq_some_iff (hT : ReadsOwnText E T) {policy : LocalExecutorPolicy} (hp : ValidPolicy E policy)
    {plan : SystemdPortReconfigurePlan} {c : PortPolicyCandidates} :
    buildSystemUpdatePortPolicyCandidates (T.host E) policy plan = some c ↔ CandidatesOf (T.host E) policy plan c := by
  constructor
  · intro h
    obtain ⟨⟨hb, ht, hr⟩, hdeltas⟩ := candidates_validate_iff.1 (buildSystemUpdatePortPolicyCandidates_valid _ h)
    simp only [buildSystemUpdatePortPolicyCandidates, Option.bind_eq_bind, Option.bind_eq_some_iff, Option.pure_def,
      Option.some.injEq, Option.guard_eq_some', Bool.and_eq_true] at h
    obtain ⟨_, -, _, -, _, -, _, -, _, ⟨⟨hplan, -⟩, -⟩, _, -, _, -, _, -, hc⟩ := h
    have hbefore : T.print policy.json = c.before := by rw [← hc]; rfl
    -- the before payload is bounded, so it decodes to the policy it was printed from
    obtain ⟨_, q, _, _, hdec, -⟩ := id hb
    obtain ⟨hne, hlen, -⟩ := (host_decodes_iff hT).1 hdec
    exact ⟨hplan, (host_decodes_iff hT).2 ⟨hne, hlen, hp, hbefore⟩, hdeltas, hb, ht, hr⟩
  · rintro ⟨hplan, hdec, hdeltas, hb, ht, hr⟩
    have hvalid := candidates_validate_iff.2 ⟨⟨hb, ht, hr⟩, hdeltas⟩
    have hprint : (T.host E).encodePolicy policy = c.before := ((host_decodes_iff hT).1 hdec).2.2.2
    have hmatch := candidateMatches_iff.2 hb
    obtain ⟨b, q, target, hbefore, -, -, -⟩ := hb
    obtain ⟨t, -, -, htarget, -⟩ := ht
    obtain ⟨r, -, -, hrollback, -⟩ := hr
    simp only [candidateDelta, hbefore, htarget, hrollback, beq_iff_eq] at hdeltas
    simp only [candidateMatches, hdec, hbefore, Bool.and_eq_true, Option.any_eq_true] at hmatch
    obtain ⟨-, target, hselected, hsnapshot⟩ := hmatch
    have hpolicy : (T.host E).policyValid policy = true := hp.2
    simp [buildSystemUpdatePortPolicyCandidates, hbefore, htarget, hrollback, hselected, hplan, hpolicy, hsnapshot, hprint,
      hdeltas, hvalid]

/-- **Canonical policies.** A payload is accepted if and only if it is the text of a valid policy within the bound; the policy
it decodes to is written as the same payload, so no other payload decodes to it. The builder returns three payloads for a valid
policy and a version 2 plan if and only if the first decodes to the policy, the others are its authorised deltas, and each is
accepted and carries the revisions and digests of its snapshot. -/
theorem canonical_policy_decoding (hT : ReadsOwnText E T) :
    (∀ payload, (decodePortPolicy (T.host E) payload).isSome = true ↔
      payload ≠ [] ∧ payload.length ≤ 1048576 ∧ ∃ p, ValidPolicy E p ∧ T.print p.json = payload) ∧
    (∀ payload p, decodePortPolicy (T.host E) payload = some p → ValidPolicy E p ∧ T.print p.json = payload) ∧
    (∀ a b p, decodePortPolicy (T.host E) a = some p → decodePortPolicy (T.host E) b = some p → a = b) ∧
    ∀ policy plan c, ValidPolicy E policy → plan.portContractVersion = 2 →
      (buildSystemUpdatePortPolicyCandidates (T.host E) policy plan = some c ↔
        CandidatesOf (T.host E) policy plan c) := by
  have hback : ∀ payload p, decodePortPolicy (T.host E) payload = some p → ValidPolicy E p ∧ T.print p.json = payload :=
    fun payload p h => ((host_decodes_iff hT).1 h).2.2
  refine ⟨fun payload => ⟨fun h => ?_, ?_⟩, hback, fun a b p ha hb => ?_, fun policy plan c hp _ => build_eq_some_iff hT hp⟩
  · obtain ⟨p, hp⟩ := Option.isSome_iff_exists.1 h
    obtain ⟨hne, hlen, hvalid⟩ := (host_decodes_iff hT).1 hp
    exact ⟨hne, hlen, p, hvalid⟩
  · rintro ⟨hne, hlen, p, hvalid⟩
    rw [(host_decodes_iff hT).2 ⟨hne, hlen, hvalid⟩]
    rfl
  · rw [← (hback a p ha).2, (hback b p hb).2]

namespace Sample

/-- the revision in the tree of a policy -/
def treeRevision (j : Json) : ℕ := ((readPolicyTree j).map fun p => p.policyRevision.toNat).getD 0

/-- the sample policies have texts of one byte, their revision -/
def byteText : JsonText where
  print j := [UInt8.ofNat (treeRevision j)]
  lex b := b.head?.map fun n => (policy n.toNat).json.tokens

/-- a validator that knows the sample policies -/
def codecEnv : PortEnv := { env with policyValid := fun p => p == policy (UInt8.ofNat p.policyRevision.toNat).toNat }

theorem byteText_reads : ReadsOwnText codecEnv byteText := by
  rintro p ⟨-, hp⟩
  have hp : p = policy (UInt8.ofNat p.policyRevision.toNat).toNat := by simpa [codecEnv] using hp
  simp only [byteText, treeRevision, readPolicyTree_json, Option.map_some, Option.getD_some, List.head?_cons, Option.some.injEq]
  rw [← hp]

end Sample

theorem sample_policy_canonical :
    buildSystemUpdatePortPolicyCandidates (Sample.byteText.host Sample.codecEnv) (Sample.policy 1) (Sample.plan "job-1") =
        some ⟨[1], [2], [3]⟩ ∧
      decodePortPolicy (Sample.byteText.host Sample.codecEnv) [1] = some (Sample.policy 1) ∧
      Carries (Sample.byteText.host Sample.codecEnv) (Sample.plan "job-1") [2] (some (Sample.snapshot 2)) := by
  have hbuild : buildSystemUpdatePortPolicyCandidates (Sample.byteText.host Sample.codecEnv) (Sample.policy 1)
      (Sample.plan "job-1") = some ⟨[1], [2], [3]⟩ := by decide +kernel
  have hvalid : ValidPolicy Sample.codecEnv (Sample.policy 1) := ⟨by decide, by decide⟩
  have hcandidates := ((canonical_policy_decoding Sample.byteText_reads).2.2.2 _ _ _ hvalid rfl).1 hbuild
  exact ⟨hbuild, hcandidates.decodes, hcandidates.target⟩

end AutostreamUpdater.Port
