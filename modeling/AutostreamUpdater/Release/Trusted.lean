/-
What a trusted download rests on.

`Binds` says of a run that every file it downloaded has the digest that an immutable release, read in the same run, lists
under the file's own name. The systemd pipeline carries the metadata of each asset to its download and compares
(`download_binds`). The Docker pipeline keeps the addresses of the assets only, so the manifest is held against a checksum
file from the same server and against nothing else: whenever some server can answer a Docker request at all, one can answer
it with a manifest the release does not list (`unlisted_manifest_accepted`). `downloads_bound_iff` puts the two together.
-/
import AutostreamUpdater.Base.Rely
import AutostreamUpdater.Contract.TextLaws
import AutostreamUpdater.Release.Download

namespace AutostreamUpdater.Release

open Contract Base Fallible

abbrev DownloadStep := Step Unit DownloadRes

/-- the file a step put in place -/
def committed : DownloadStep → Option (String × String)
  | ⟨_, .commit name body, .ok _, _⟩ => some (name, body)
  | _ => none

/-- the release metadata a step read -/
def listing : DownloadStep → Option GithubRelease
  | ⟨_, .getRelease _, .ok release, _⟩ => some release
  | _ => none

/-- the one asset of this name has this digest -/
def GithubRelease.Lists (release : GithubRelease) (name digest : String) : Prop :=
  ∃ asset ∈ release.assets, asset.name = name ∧ asset.digest = digest ∧
    ∀ other ∈ release.assets, other.name = name → other = asset

/-- every downloaded file is listed, with its own digest, by an immutable release of the version that the run has read -/
def Binds (E : ReleaseEnv) (version : String) (tr : List DownloadStep) : Prop :=
  ∀ x ∈ tr, ∀ name body, committed x = some (name, body) →
    ∃ y ∈ tr, ∃ release, listing y = some release ∧ release.immutable = true ∧ release.tagName = version ∧
      release.Lists name ("sha256:" ++ E.sha body)

/-- a SHA-256 is written as 64 lower-case hexadecimal digits -/
def ReleaseEnv.ShaLaw (E : ReleaseEnv) : Prop := ∀ body, mutationPlanHashPattern (E.sha body) = true

/-- the address of a Docker release asset under the production origin -/
def assetURL (assetID : ℤ) : String := "https://api.github.com" ++ assetPath dockerRepository assetID

/-- `url.Parse` takes such an address apart -/
def ReleaseEnv.URLLaw (E : ReleaseEnv) : Prop :=
  ∀ assetID : ℤ, 0 < assetID →
    E.parseURL (assetURL assetID) = some ⟨"https", "api.github.com", assetPath dockerRepository assetID, "", "", none⟩

/-- a Docker request that some server can answer: its parameters pass, and some file of at most 4 MiB is a manifest for it -/
def DockerServable (E : ReleaseEnv) (d : ReleaseDownloader) : ReleaseRequest → Prop
  | .download _ _ _ => False
  | .resolveDocker bundleVersion serviceType imageRepo channel arch =>
    versionPattern bundleVersion = true ∧ (plainArch arch = "amd64" ∨ plainArch arch = "arm64") ∧
      validateTrustedPublicRepository E d (apiBaseOf d) dockerRepository = .ok () ∧
      ∃ file, (file.toList.length : ℤ) ≤ 4 * 2 ^ 20 ∧
        (resolveDockerManifest E file (E.sha file) bundleVersion serviceType imageRepo (channelOf channel)
          (plainArch arch)).isOk = true

/-! ## Rules of the pipelines -/

section Rules

variable {α β : Type} {tr : List DownloadStep} {s : Unit} {d : ReleaseDownloader}

/-- `ensures` without a condition at the cuts -/
abbrev yields (p : DownloadProg α) (Q : α → List DownloadStep → Unit → Prop) (tr : List DownloadStep) (s : Unit) : Prop :=
  ensures downloadNext (fun _ _ => True) p Q tr s

/-- the operation puts no file in place -/
def DownloadOp.Idle : DownloadOp → Prop
  | .commit _ _ => False
  | _ => True

/-- a fact about the steps that only a further download can end -/
def Stable (I : List DownloadStep → Prop) : Prop := ∀ tr x, committed x = none → I tr → I (tr ++ [x])

theorem committed_idle {o : DownloadOp} (h : o.Idle) (c : Reply) : committed (stepOf downloadNext s o c) = none := by
  cases o with
  | commit name body => exact h.elim
  | _ => rfl

variable {P : DownloadOp → Prop}

theorem issues_ask {o : DownloadOp} (h : P o) : issues P (ask o) :=
  issues_ofProg (Prog.only_op_bind h fun _ => trivial)

theorem issues_check {r : Except String α} : issues P (check r) := by
  cases r with
  | ok a => exact issues_pure
  | error e => exact issues_throw

theorem issues_getJSON {o : DownloadOp} (h : P o) : issues P (getJSON d o) :=
  issues_bind issues_require fun _ => issues_ask h

/-- programs that download nothing keep every stable fact -/
theorem yields_idle {I : List DownloadStep → Prop} {p : DownloadProg α} (hp : issues DownloadOp.Idle p) (hI : Stable I)
    (h : I tr) : yields p (fun _ tr _ => I tr) tr s :=
  issues_ensures (I := fun tr _ => I tr) hp (fun tr _ _ c ho h => hI tr _ (committed_idle ho c) h) (fun _ _ _ => trivial) h

theorem yields_check {r : Except String α} {Q : α → List DownloadStep → Unit → Prop} (h : ∀ a, r = .ok a → Q a tr s) :
    yields (check r) Q tr s := by
  cases r with
  | ok a => exact ensures_pure trivial (h a rfl)
  | error e => exact ensures_throw trivial

/-- a check, then the rest under it -/
theorem yields_check_bind {r : Except String α} {f : α → DownloadProg β} {R : β → List DownloadStep → Unit → Prop}
    (h : ∀ a, r = .ok a → yields (f a) R tr s) : yields (check r >>= f) R tr s := by
  cases r with
  | ok a => exact h a rfl
  | error e => exact ensures_throw trivial

/-- the metadata that was read stands in the steps -/
theorem yields_getRelease {endpoint : String} {I : List DownloadStep → Prop} (hI : Stable I) (h : I tr) :
    yields (getJSON d (.getRelease endpoint))
      (fun release tr _ => I tr ∧ ∃ y ∈ tr, listing y = some release) tr s := by
  refine ensures_require_bind trivial fun _ => ensures_ask (fun _ _ => trivial) fun c release hrelease => ?_
  refine ⟨hI _ _ (committed_idle (o := .getRelease endpoint) trivial c) h, _,
    List.mem_append_right _ (List.mem_singleton.2 rfl), ?_⟩
  change (downloadNext s (.getRelease endpoint) c).1 = .ok release at hrelease
  simp [listing, stepOf, hrelease]

theorem issues_rephrase {f : String → String} {p : DownloadProg α} (h : issues P p) : issues P (rephrase f p) :=
  issues_ofProg (Prog.only_seq (issues_iff.1 h) fun _ _ => trivial)

theorem issues_dereference (base : String) (spec : RepoSpec) (seenTags : List String) (left : ℕ) (object : GitObject) :
    issues DownloadOp.Idle (dereference d base spec seenTags left object) := by
  induction left generalizing seenTags object with
  | zero =>
    unfold dereference
    exact issues_ite issues_throw (issues_bind issues_require fun _ => issues_pure)
  | succ left ih =>
    unfold dereference
    refine issues_ite ?_ (issues_bind issues_require fun _ => issues_pure)
    refine issues_bind issues_require fun _ => issues_bind issues_require fun _ => ?_
    exact issues_bind (issues_rephrase (issues_getJSON trivial)) fun tag => ih _ tag

theorem issues_tagCommitOf (base : String) (spec : RepoSpec) (version : String) :
    issues DownloadOp.Idle (tagCommitOf d base spec version) := by
  refine issues_ite (issues_bind (issues_rephrase (issues_getJSON trivial)) fun object => ?_) issues_pure
  exact issues_dereference base spec [] 8 object

end Rules

/-! ## The assets of a release -/

variable {asset : GithubReleaseAsset} {release : GithubRelease}

section Assets

variable {seen found : List (String × GithubReleaseAsset)} {assets : List GithubReleaseAsset}

/-- what is in the map stays there -/
theorem collectAssets_keeps (h : collectAssets seen assets = .ok found) {name : String}
    (hseen : seen.lookup name = some asset) : found.lookup name = some asset := by
  induction assets generalizing seen with
  | nil =>
    cases h
    exact hseen
  | cons a assets ih =>
    rw [collectAssets] at h
    split at h
    · cases h
    · rename_i hnew
      refine ih h ?_
      have hne : name ≠ a.name := by
        rintro rfl
        simp [hseen] at hnew
      rw [List.lookup_cons, beq_eq_false_iff_ne.2 hne]
      exact hseen

/-- every asset is found under its name -/
theorem collectAssets_mem (h : collectAssets seen assets = .ok found) (hmem : asset ∈ assets) :
    found.lookup asset.name = some asset := by
  induction assets generalizing seen with
  | nil => simp at hmem
  | cons a assets ih =>
    rw [collectAssets] at h
    split at h
    · cases h
    · rcases List.mem_cons.1 hmem with rfl | hmem
      · exact collectAssets_keeps h (by simp)
      · exact ih h hmem

/-- nothing else is found -/
theorem collectAssets_lookup (h : collectAssets seen assets = .ok found) {name : String}
    (hfound : found.lookup name = some asset) : seen.lookup name = some asset ∨ asset ∈ assets ∧ asset.name = name := by
  induction assets generalizing seen with
  | nil =>
    cases h
    exact .inl hfound
  | cons a assets ih =>
    rw [collectAssets] at h
    split at h
    · cases h
    · rcases ih h with hseen | ⟨hmem, hname⟩
      · rw [List.lookup_cons] at hseen
        split at hseen
        · rename_i heq
          cases hseen
          exact .inr ⟨List.mem_cons_self, (beq_iff_eq.1 heq).symm⟩
        · exact .inl hseen
      · exact .inr ⟨List.mem_cons_of_mem _ hmem, hname⟩

/-- **Listed.** An asset found by name is the one the release lists under that name. -/
theorem uniqueReleaseAssets_lists (h : uniqueReleaseAssets release = .ok found) {name : String}
    (hfound : found.lookup name = some asset) : release.Lists name asset.digest := by
  rcases collectAssets_lookup h hfound with hseen | ⟨hmem, hname⟩
  · simp at hseen
  · refine ⟨asset, hmem, hname, rfl, ?_⟩
    intro other hother hsame
    have hlookup := collectAssets_mem h hother
    rw [hsame, hfound] at hlookup
    exact (Option.some.inj hlookup).symm

end Assets

/-! ## The systemd pipeline -/

section Systemd

variable {E : ReleaseEnv} {d : ReleaseDownloader} {tr : List DownloadStep} {s : Unit}

/-- the release is among the replies, and lists every file downloaded so far -/
structure Bound (E : ReleaseEnv) (release : GithubRelease) (tr : List DownloadStep) : Prop where
  listed : ∃ y ∈ tr, listing y = some release
  files : ∀ x ∈ tr, ∀ name body, committed x = some (name, body) → release.Lists name ("sha256:" ++ E.sha body)

theorem Bound.stable (release : GithubRelease) : Stable (Bound E release) := by
  intro tr x hx h
  obtain ⟨y, hy, hlisting⟩ := h.listed
  refine ⟨⟨y, List.mem_append_left _ hy, hlisting⟩, ?_⟩
  intro z hz name body hz'
  rcases List.mem_append.1 hz with hz | hz
  · exact h.files z hz name body hz'
  · rw [List.mem_singleton.1 hz, hx] at hz'
    cases hz'

theorem toLower_sha (hsha : E.ShaLaw) (body : String) : toLower (E.sha body) = E.sha body := by
  have hall : ∀ c ∈ (E.sha body).toList, isHex c = true := by
    have h := hsha body
    simp only [mutationPlanHashPattern, Bool.and_eq_true, List.all_eq_true] at h
    exact h.2
  apply String.toList_inj.1
  rw [toLower_toList]
  exact (List.map_congr_left fun c hc => isHex_toLower (hall c hc)).trans (List.map_id _)

/-- A download that is compared with its asset keeps the run bound to the release. -/
theorem downloadResolvedReleaseAsset_bound (hmode : d.trustedPublicOnly = true) (hsha : E.ShaLaw) {name : String}
    {max : ℤ} (hlists : release.Lists name asset.digest) (h : Bound E release tr) :
    yields (downloadResolvedReleaseAsset E d asset name max) (fun _ tr _ => Bound E release tr) tr s := by
  -- the file just put in place is the one compared
  have hfile : yields (downloadFile E d asset.url name max)
      (fun file tr _ => toLower file.digest = file.digest ∧ (asset.digest = "sha256:" ++ file.digest → Bound E release tr))
      tr s := by
    refine ensures_require_bind trivial fun _ => ?_
    refine ensures_bind (yields_idle (issues_ask trivial) (Bound.stable release) h) fun resp tr s _ h => ?_
    refine ensures_require_bind trivial fun _ => ensures_require_bind trivial fun _ => ?_
    refine ensures_bind (yields_idle (issues_ask trivial) (Bound.stable release) h) fun _ tr s _ h => ?_
    refine ensures_require_bind trivial fun _ => ?_
    refine ensures_bind (Q := fun _ tr _ => asset.digest = "sha256:" ++ E.sha resp.body → Bound E release tr)
      (ensures_ask (fun _ _ => trivial) fun c a _ hdigest => ?_) fun _ tr s _ h =>
        ensures_pure trivial ⟨toLower_sha hsha _, h⟩
    obtain ⟨y, hy, hlisting⟩ := h.listed
    refine ⟨⟨y, List.mem_append_left _ hy, hlisting⟩, ?_⟩
    intro x hx n body hcommit
    rcases List.mem_append.1 hx with hx | hx
    · exact h.files x hx n body hcommit
    · rw [List.mem_singleton.1 hx] at hcommit
      cases hfails : c.fails with
      | some e => simp [committed, stepOf, downloadNext, hfails] at hcommit
      | none =>
        simp only [committed, stepOf, downloadNext, hfails, Option.some.injEq, Prod.mk.injEq] at hcommit
        obtain ⟨rfl, rfl⟩ := hcommit
        rwa [← hdigest]
  refine ensures_bind hfile fun file tr s _ hbound => ?_
  refine ensures_ite (fun _ => ?_) fun hsame => ?_
  · refine ensures_bind (Q := fun _ _ _ => True) (ensures_total ?_) fun _ _ _ _ _ => ensures_throw trivial
    exact Prog.wp_op.2 ⟨trivial, fun _ => ⟨trivial, trivial⟩⟩
  · refine ensures_pure trivial (hbound.2 ?_)
    simpa [hmode, hbound.1] using hsame

/-- a checksum file is read without a download -/
theorem issues_readChecksum {file : DownloadedFile} {name expectedName : String} :
    issues DownloadOp.Idle (readChecksum file name expectedName) := issues_bind (issues_ask trivial) fun _ => issues_check

/-- the four assets are listed under the names they are stored by -/
structure Chosen (release : GithubRelease) (assetName : String) (assets : ResolvedReleaseAssets) : Prop where
  archive : release.Lists assetName assets.archive.digest
  archiveChecksum : release.Lists (checksumNameOf assetName) assets.archiveChecksum.digest
  manifest : release.Lists manifestName assets.manifest.digest
  manifestChecksum : release.Lists (checksumNameOf manifestName) assets.manifestChecksum.digest

/-- what is known once the assets are resolved -/
structure Resolved (E : ReleaseEnv) (version assetName : String) (assets : ResolvedReleaseAssets) (release : GithubRelease)
    (tr : List DownloadStep) : Prop where
  immutable : release.immutable = true
  tagName : release.tagName = version
  chosen : Chosen release assetName assets
  bound : Bound E release tr

theorem validateTrustedPublicReleaseMetadata_ok {version : String}
    (h : validateTrustedPublicReleaseMetadata release version = .ok ()) :
    release.immutable = true ∧ release.tagName = version := by
  unfold validateTrustedPublicReleaseMetadata at h
  split at h
  · cases h
  · rename_i hbad
    simp only [bne_iff_ne, Bool.or_eq_true, Bool.not_eq_true', not_or, not_not, Bool.not_eq_true, Bool.not_eq_false] at hbad
    exact ⟨hbad.2, hbad.1.1.1⟩

/-- no file has been downloaded -/
def Untouched (tr : List DownloadStep) : Prop := ∀ x ∈ tr, committed x = none

theorem Untouched.stable : Stable Untouched := by
  intro tr x hx h y hy
  rcases List.mem_append.1 hy with hy | hy
  · exact h y hy
  · rw [List.mem_singleton.1 hy]
    exact hx

theorem resolveAssets_resolved (hmode : d.trustedPublicOnly = true) {spec : RepoSpec} {version assetName : String}
    (h : Untouched tr) :
    yields (resolveAssets E d spec version assetName)
      (fun assets tr _ => ∃ release, Resolved E version assetName assets release tr) tr s := by
  refine yields_check_bind fun _ _ => ?_
  refine ensures_bind (ensures_rephrase (yields_getRelease Untouched.stable h)) fun release tr s _ hrelease => ?_
  have hbound : Bound E release tr := by
    refine ⟨hrelease.2, ?_⟩
    intro x hx name body hcommit
    rw [hrelease.1 x hx] at hcommit
    cases hcommit
  rw [trustedMetadata, if_pos hmode]
  refine yields_check_bind fun _ hvalid => ?_
  refine yields_check_bind fun found hfound => ?_
  refine yields_check_bind fun _ _ => ?_
  split
  · rename_i archive checksum manifest manifestChecksum harchive hchecksum hmanifest hmanifestChecksum
    refine yields_check_bind fun _ _ => yields_check_bind fun _ _ => yields_check_bind fun _ _ =>
      yields_check_bind fun _ _ => ?_
    refine ensures_bind (yields_idle (issues_tagCommitOf _ _ _) (Bound.stable release) hbound) fun tagCommit tr s _ hbound => ?_
    obtain ⟨himmutable, htag⟩ := validateTrustedPublicReleaseMetadata_ok hvalid
    refine ensures_pure trivial ⟨release, himmutable, htag, ?_, hbound⟩
    exact ⟨uniqueReleaseAssets_lists hfound harchive, uniqueReleaseAssets_lists hfound hchecksum,
      uniqueReleaseAssets_lists hfound hmanifest, uniqueReleaseAssets_lists hfound hmanifestChecksum⟩
  · exact ensures_throw trivial

/-- the four downloads, each compared with its asset -/
theorem downloadAssets_bound (hmode : d.trustedPublicOnly = true) (hsha : E.ShaLaw)
    {serviceType version arch assetName : String} {spec : RepoSpec} {assets : ResolvedReleaseAssets}
    (hchosen : Chosen release assetName assets) (h : Bound E release tr) :
    yields (downloadAssets E d serviceType version arch assetName spec assets) (fun _ tr _ => Bound E release tr) tr s := by
  have hstable := Bound.stable (E := E) release
  refine ensures_bind (ensures_rephrase (downloadResolvedReleaseAsset_bound hmode hsha hchosen.manifest h))
    fun manifest tr s _ h => ?_
  refine ensures_bind (ensures_rephrase (downloadResolvedReleaseAsset_bound hmode hsha hchosen.manifestChecksum h))
    fun manifestChecksum tr s _ h => ?_
  refine ensures_bind (ensures_rephrase (yields_idle issues_readChecksum hstable h)) fun _ tr s _ h => ?_
  refine ensures_require_bind trivial fun _ => ?_
  refine ensures_bind (yields_idle (issues_ask trivial) hstable h) fun _ tr s _ h => ?_
  refine yields_check_bind fun artifact _ => ?_
  refine ensures_bind (ensures_rephrase (downloadResolvedReleaseAsset_bound hmode hsha hchosen.archive h))
    fun archive tr s _ h => ?_
  refine ensures_bind (ensures_rephrase (downloadResolvedReleaseAsset_bound hmode hsha hchosen.archiveChecksum h))
    fun archiveChecksum tr s _ h => ?_
  refine ensures_bind (yields_idle issues_readChecksum hstable h) fun _ tr s _ h => ?_
  refine ensures_require_bind trivial fun _ => ?_
  refine ensures_bind (ensures_rephrase (yields_idle (issues_ask trivial) hstable h)) fun _ tr s _ h => ?_
  refine ensures_require_bind trivial fun _ => ?_
  refine ensures_bind (yields_idle (issues_ask trivial) hstable h) fun root tr s _ h => ?_
  exact ensures_pure trivial h

/-- **Systemd.** Whatever the server answers, a successful `Download` holds only files that the immutable release lists. -/
theorem download_binds (hmode : d.trustedPublicOnly = true) (hsha : E.ShaLaw) (serviceType version arch : String) :
    yields (download E d serviceType version arch) (fun _ tr _ => Binds E version tr) [] s := by
  unfold download
  split
  · exact ensures_throw trivial
  · rename_i spec _
    refine ensures_require_bind trivial fun _ => ensures_require_bind trivial fun _ => ?_
    have hstart : Untouched [] := fun x hx => by simp at hx
    refine ensures_bind (ensures_rephrase (yields_idle (issues_ask trivial) Untouched.stable hstart)) fun _ tr s _ h => ?_
    refine ensures_bind (resolveAssets_resolved hmode h) fun assets tr s _ hresolved => ?_
    obtain ⟨release, hrelease⟩ := hresolved
    refine ensures_mono (downloadAssets_bound hmode hsha hrelease.chosen hrelease.bound) fun _ tr _ _ hbound => ?_
    intro x hx name body hcommit
    obtain ⟨y, hy, hlisting⟩ := hbound.listed
    exact ⟨y, hy, release, hlisting, hrelease.immutable, hrelease.tagName, hbound.files x hx name body hcommit⟩

end Systemd

/-! ## The Docker pipeline -/

section Docker

variable {E : ReleaseEnv} {d : ReleaseDownloader} {tr : List DownloadStep} {s : Unit}

/-- whatever is downloaded is within its limit, and hashed as it is -/
theorem downloadFile_yields {url name : String} {max : ℤ} :
    yields (downloadFile E d url name max)
      (fun file _ _ => file.digest = E.sha file.body ∧ (file.body.toList.length : ℤ) ≤ max) tr s := by
  have hask : ∀ o tr s, yields (ask o) (fun _ _ _ => True) tr s :=
    fun o tr s => ensures_ask (fun _ _ => trivial) fun _ _ _ => trivial
  refine ensures_require_bind trivial fun _ => ?_
  refine ensures_bind (hask _ _ _) fun resp tr s _ _ => ?_
  refine ensures_require_bind trivial fun _ => ensures_require_bind trivial fun _ => ?_
  refine ensures_bind (hask _ _ _) fun _ tr s _ _ => ?_
  refine ensures_require_bind trivial fun hsize => ?_
  refine ensures_bind (hask _ _ _) fun _ tr s _ _ => ?_
  exact ensures_pure trivial ⟨rfl, by simpa using hsize⟩

/-- A Docker request that succeeds is one that some server can answer. -/
theorem resolveDocker_servable (bundleVersion serviceType imageRepo channel arch : String) :
    yields (resolveDockerReleaseForArch E d bundleVersion serviceType imageRepo channel arch)
      (fun _ _ _ => DockerServable E d (.resolveDocker bundleVersion serviceType imageRepo channel arch)) tr s := by
  have hany : ∀ {α : Type} (p : DownloadProg α) tr s, issues (fun _ => True) p → yields p (fun _ _ _ => True) tr s :=
    fun p tr s hp => issues_ensures (I := fun _ _ => True) hp (fun _ _ _ _ _ _ => trivial) (fun _ _ _ => trivial) trivial
  refine ensures_require_bind trivial fun hversion => ensures_require_bind trivial fun harch => ?_
  have hassets : yields (releaseAssets E d (apiBaseOf d) dockerRepository bundleVersion)
      (fun _ _ _ => validateTrustedPublicRepository E d (apiBaseOf d) dockerRepository = .ok ()) tr s := by
    refine yields_check_bind fun _ horigin => ?_
    refine ensures_bind (hany _ _ _ (issues_getJSON trivial)) fun release tr s _ _ => ?_
    refine ensures_bind (hany _ _ _ (issues_ite issues_check issues_pure)) fun _ tr s _ _ => ?_
    refine yields_check_bind fun assets _ => yields_check_bind fun _ _ => ?_
    refine ensures_bind (hany _ _ _ (issues_mono (issues_tagCommitOf _ _ _) fun _ _ => trivial)) fun _ tr s _ _ => ?_
    exact ensures_pure trivial horigin
  refine ensures_bind hassets fun assets tr s _ horigin => ?_
  split
  · refine yields_check_bind fun _ _ => yields_check_bind fun _ _ => ?_
    refine ensures_bind (hany _ _ _ (issues_ask trivial)) fun _ tr s _ _ => ?_
    refine ensures_bind downloadFile_yields fun manifest tr s _ hmanifest => ?_
    refine ensures_bind downloadFile_yields fun sidecar tr s _ _ => ?_
    refine ensures_bind (ensures_rephrase (hany _ _ _ (issues_mono issues_readChecksum fun _ _ => trivial)))
      fun expected tr s _ _ => ?_
    refine ensures_require_bind trivial fun _ => ?_
    refine ensures_bind (hany _ _ _ (issues_ask trivial)) fun _ tr s _ _ => ?_
    refine yields_check fun resolved hresolved => ?_
    refine ⟨hversion, by simpa using harch, horigin, manifest.body, hmanifest.2, ?_⟩
    rw [← hmanifest.1, hresolved]
    rfl
  · exact ensures_throw trivial

/-! ### A server with another manifest -/

/-- a digest of the right form that is not `hash` -/
def otherDigest (hash : String) : String :=
  "sha256:" ++ String.ofList (List.replicate 64 (if hash = String.ofList (List.replicate 64 '0') then '1' else '0'))

/-- a release that lists another digest for the manifest -/
def staleRelease (E : ReleaseEnv) (version file : String) : GithubRelease where
  tagName := version
  draft := false
  prerelease := false
  immutable := true
  assets := [
    ⟨1, manifestName, assetURL 1, otherDigest (E.sha file), "uploaded"⟩,
    ⟨2, checksumNameOf manifestName, assetURL 2, otherDigest (E.sha file), "uploaded"⟩]

/-- the checksum file of a manifest -/
def checksumLine (hash : String) : String := hash ++ "  " ++ manifestName ++ "\n"

/-- the server that lists `staleRelease` and serves `file` with a checksum file of its own -/
def staleServer (E : ReleaseEnv) (version file : String) (o : DownloadOp) : Reply where
  fails := none
  release := staleRelease E version file
  object := ⟨"commit", String.ofList (List.replicate 40 '0')⟩
  response :=
    let body := if o = .get (assetURL 1) then file else checksumLine (E.sha file)
    ⟨200, body.toList.length, body⟩
  root := ""

theorem otherDigest_form (hash : String) : digestPattern (otherDigest hash) = true := by
  unfold otherDigest
  split
  · decide
  · decide

theorem otherDigest_ne (hash : String) : otherDigest hash ≠ "sha256:" ++ hash := by
  unfold otherDigest
  intro h
  have hlist := congrArg String.toList h
  simp only [String.toList_append, List.append_cancel_left_eq, String.toList_ofList] at hlist
  split at hlist
  · rename_i hzero
    rw [hzero, String.toList_ofList] at hlist
    exact absurd hlist (by decide)
  · rename_i hzero
    exact hzero (String.toList_inj.1 (by rw [← hlist, String.toList_ofList]))

/-- one line that ends its file is scanned whole -/
theorem scanLine_single {line : List Char} (hline : ∀ c ∈ line, c ≠ '\n') (hlast : line.getLast? ≠ some '\r')
    (hlen : line.length < 65536) : scanLine (line ++ ['\n']) = some (line, []) := by
  have htake : (line ++ ['\n']).takeWhile (· != '\n') = line := by
    rw [List.takeWhile_append_of_pos (by simpa using hline)]
    simp
  have hdrop : (line ++ ['\n']).drop (line.length + 1) = [] := List.drop_eq_nil_of_le (by simp)
  have hempty : (line ++ ['\n']).isEmpty = false := by simp
  simp only [scanLine, htake, hdrop, hempty, if_neg hlast]
  simp [Nat.not_le.2 hlen]

theorem manifestName_chars : (manifestName.toList.all fun c => c != '\n' && c != '\r') = true := by decide

/-- the line of a checksum file gives its digest back -/
theorem readSHA256File_checksumLine {hash : String} (h : mutationPlanHashPattern hash = true) :
    readSHA256File (checksumLine hash) manifestName = .ok hash := by
  simp only [mutationPlanHashPattern, Bool.and_eq_true, beq_iff_eq, List.all_eq_true] at h
  obtain ⟨hlen, hhex⟩ := h
  have hname : manifestName.toList.length = 21 := by decide
  have hfile : (checksumLine hash).toList = (hash.toList ++ ([' ', ' '] ++ manifestName.toList)) ++ ['\n'] := by
    simp [checksumLine]
  have hfree : ∀ c ∈ hash.toList ++ ([' ', ' '] ++ manifestName.toList), c ≠ '\n' := by
    intro c hc
    rcases List.mem_append.1 hc with hc | hc
    · have := isHex_toNat (hhex c hc)
      rintro rfl
      revert this
      decide
    · rcases List.mem_append.1 hc with hc | hc
      · rintro rfl
        simp at hc
      · have := List.all_eq_true.1 manifestName_chars c hc
        simp only [Bool.and_eq_true, bne_iff_ne] at this
        exact this.1
  have hlast : (hash.toList ++ ([' ', ' '] ++ manifestName.toList)).getLast? ≠ some '\r' := by
    rw [List.getLast?_append_of_ne_nil _ (by simp)]
    decide
  have hscan := scanLine_single hfree hlast (by simp [hlen, hname])
  have hlower : toLower hash = hash := by
    apply String.toList_inj.1
    rw [toLower_toList]
    exact (List.map_congr_left fun c hc => isHex_toLower (hhex c hc)).trans (List.map_id _)
  have hdecodes : hexDecodes hash = true := by
    simp only [hexDecodes, hlen, Bool.and_eq_true, List.all_eq_true]
    exact ⟨rfl, fun c hc => by simp [hhex c hc]⟩
  have htake : (hash.toList ++ ([' ', ' '] ++ manifestName.toList)).take 64 = hash.toList := by simp [hlen]
  have hgap : (hash.toList ++ ([' ', ' '] ++ manifestName.toList)).drop 64 = [' ', ' '] ++ manifestName.toList := by
    simp [hlen]
  have hrest : (hash.toList ++ ([' ', ' '] ++ manifestName.toList)).drop 66 = manifestName.toList := by
    rw [show (66 : ℕ) = 64 + 2 from rfl, ← List.drop_drop, hgap]
    rfl
  rw [readSHA256File, hfile, hscan]
  simp only [htake, hgap, hrest, String.ofList_toList, hlower, hdecodes]
  have hlong : ¬ (hash.toList ++ ([' ', ' '] ++ manifestName.toList)).length < 67 := by simp [hlen, hname]
  have hnonempty : manifestName ≠ "" := by decide
  simp [hlen, hname, hnonempty]

/-- the origin a trusted request is allowed -/
structure ProductionOrigin (E : ReleaseEnv) (d : ReleaseDownloader) (base : String) (u : URL) : Prop where
  anonymous : trimSpace d.token = ""
  parsed : E.parseURL base = some u
  host : equalFold u.host "api.github.com" = true
  path : u.escapedPath = ""

theorem productionOrigin_of_valid (hmode : d.trustedPublicOnly = true) {base : String} {spec : RepoSpec}
    (h : validateTrustedPublicRepository E d base spec = .ok ()) : ∃ u, ProductionOrigin E d base u := by
  simp only [validateTrustedPublicRepository, hmode, Bool.not_true, Bool.false_eq_true, if_false] at h
  split at h
  · cases h
  · rename_i htoken
    cases hbase : E.parseURL base with
    | none => simp [hbase] at h
    | some u =>
      simp only [hbase] at h
      split at h
      · cases h
      · rename_i horigin
        simp only [Bool.not_eq_true', Bool.not_eq_false, Bool.and_eq_true, beq_iff_eq] at horigin
        exact ⟨u, by simpa using htoken, hbase, horigin.1.1.1.1.2, horigin.1.1.1.2⟩

variable {base : String} {u : URL}

/-- an asset address under the production origin passes -/
theorem validateAssetURL_assetURL (hurl : E.URLLaw) (h : ProductionOrigin E d base u) {assetID : ℤ} (hid : 0 < assetID) :
    validateAssetURL E d (assetURL assetID) base = .ok () := by
  have hhost : equalFold "api.github.com" u.host = true := by
    have := h.host
    rw [equalFold, beq_iff_eq] at this ⊢
    exact this.symm
  simp [validateAssetURL, hurl assetID hid, h.parsed, hhost]

theorem validateTrustedPublicAssetURL_assetURL (hurl : E.URLLaw) (h : ProductionOrigin E d base u) {assetID : ℤ}
    (hid : 0 < assetID) : validateTrustedPublicAssetURL E d (assetURL assetID) base dockerRepository assetID = .ok () := by
  have hempty : trimSlashes "" = "" := by decide
  simp only [validateTrustedPublicAssetURL, validateAssetURL_assetURL hurl h hid, hurl assetID hid, h.parsed, h.path, hempty,
    String.empty_append]
  simp only [bind, Except.bind, if_neg (not_le.2 hid)]
  simp

/-- the metadata of the stale release is in order -/
theorem validateAssets_stale (hurl : E.URLLaw) (h : ProductionOrigin E d base u) (noun version file : String) :
    validateAssets E d noun base dockerRepository (staleRelease E version file).assets = .ok () := by
  simp [staleRelease, validateAssets, otherDigest_form, validateTrustedPublicAssetURL_assetURL hurl h, Except.isOk,
    Except.toBool]

theorem validateTrustedPublicReleaseMetadata_stale (version file : String) :
    validateTrustedPublicReleaseMetadata (staleRelease E version file) version = .ok () := by
  simp [validateTrustedPublicReleaseMetadata, staleRelease]

theorem checksumName_ne : checksumNameOf manifestName ≠ manifestName := by decide

/-- the addresses the stale release is reduced to -/
theorem uniqueReleaseAssetURLs_stale (version file : String) :
    uniqueReleaseAssetURLs (staleRelease E version file) =
      .ok [(checksumNameOf manifestName, assetURL 2), (manifestName, assetURL 1)] := by
  have hne : (checksumNameOf manifestName == manifestName) = false := beq_eq_false_iff_ne.2 checksumName_ne
  simp [uniqueReleaseAssetURLs, uniqueReleaseAssets, staleRelease, collectAssets, List.lookup_cons, hne, Except.map]

/-! ### A run against that server -/

/-- every step so far was answered by the server; the manifest is downloaded if `marked` -/
structure Answered (E : ReleaseEnv) (version file : String) (marked : Prop) (tr : List DownloadStep) : Prop where
  replies : ∀ y ∈ tr, ∃ o, y = stepOf downloadNext () o (staleServer E version file o)
  manifest : marked → ∃ x ∈ tr, committed x = some (manifestName, file)

variable {version file : String} {marked : Prop}

/-- success against the server -/
abbrev obtains (E : ReleaseEnv) (version file : String) {α : Type} (p : DownloadProg α)
    (Q : α → List DownloadStep → Unit → Prop) (tr : List DownloadStep) (s : Unit) : Prop :=
  succeeds downloadNext (fun _ o c => c = staleServer E version file o) p Q tr s

theorem obtains_check_bind {α β : Type} {r : Except String α} {a : α} {f : α → DownloadProg β}
    {R : β → List DownloadStep → Unit → Prop} (hr : r = .ok a) (h : obtains E version file (f a) R tr s) :
    obtains E version file (check r >>= f) R tr s := by
  subst hr
  exact h

/-- an operation is answered, and a manifest put in place counts -/
theorem obtains_ask (h : Answered E version file marked tr) (o : DownloadOp) :
    obtains E version file (ask o)
      (fun a tr _ => a = (staleServer E version file o).answer o ∧
        Answered E version file (marked ∨ o = .commit manifestName file) tr) tr s := by
  refine succeeds_ask ?_
  rintro c rfl
  refine ⟨(staleServer E version file o).answer o, rfl, rfl, ?_, ?_⟩
  · intro y hy
    rcases List.mem_append.1 hy with hy | hy
    · exact h.replies y hy
    · exact ⟨o, List.mem_singleton.1 hy⟩
  · rintro (hmarked | rfl)
    · obtain ⟨x, hx, hcommit⟩ := h.manifest hmarked
      exact ⟨x, List.mem_append_left _ hx, hcommit⟩
    · exact ⟨_, List.mem_append_right _ (List.mem_singleton.2 rfl), rfl⟩

theorem Answered.mono {marked' : Prop} (h : Answered E version file marked tr) (hm : marked' → marked) :
    Answered E version file marked' tr := ⟨h.replies, fun hm' => h.manifest (hm hm')⟩

theorem obtains_newRequest_bind {β : Type} {f : Unit → DownloadProg β} {R : β → List DownloadStep → Unit → Prop}
    (horigin : ProductionOrigin E d base u) (h : obtains E version file (f ()) R tr s) :
    obtains E version file (newRequest d >>= f) R tr s :=
  succeeds_require_bind (by simp [horigin.anonymous]) h

/-- the body the server has for an address -/
def staleBody (E : ReleaseEnv) (file url : String) : String :=
  if url = assetURL 1 then file else checksumLine (E.sha file)

theorem obtains_downloadFile (horigin : ProductionOrigin E d base u) (h : Answered E version file marked tr)
    {url name : String} {max : ℤ} (hsize : ((staleBody E file url).toList.length : ℤ) ≤ max) :
    obtains E version file (downloadFile E d url name max)
      (fun f tr _ => f = ⟨E.sha (staleBody E file url), staleBody E file url⟩ ∧
        Answered E version file (marked ∨ name = manifestName ∧ staleBody E file url = file) tr) tr s := by
  refine obtains_newRequest_bind horigin ?_
  refine succeeds_bind (obtains_ask h _) ?_
  rintro resp tr s ⟨rfl, h⟩
  have hbody : ((staleServer E version file (.get url)).answer (.get url)) =
      ⟨200, (staleBody E file url).toList.length, staleBody E file url⟩ := by
    simp [staleServer, Reply.answer, staleBody]
  rw [hbody]
  refine succeeds_require_bind rfl (succeeds_require_bind (by simpa using hsize) ?_)
  refine succeeds_bind (obtains_ask h _) ?_
  rintro _ tr s ⟨-, h⟩
  refine succeeds_require_bind (by simpa using hsize) ?_
  refine succeeds_bind (obtains_ask h _) ?_
  rintro _ tr s ⟨-, h⟩
  refine succeeds_pure ⟨rfl, h.mono ?_⟩
  rintro (hmarked | ⟨rfl, hfile⟩)
  · exact .inl (.inl (.inl hmarked))
  · exact .inr (by rw [hfile])

theorem obtains_tagCommitOf (horigin : ProductionOrigin E d base u) (hmode : d.trustedPublicOnly = true)
    (h : Answered E version file marked tr) {spec : RepoSpec} :
    obtains E version file (tagCommitOf d base spec version) (fun _ tr _ => Answered E version file marked tr) tr s := by
  rw [tagCommitOf, if_pos hmode]
  refine succeeds_bind (succeeds_rephrase (obtains_newRequest_bind horigin (obtains_ask h _))) ?_
  rintro object tr s ⟨rfl, h⟩
  -- the reference points at a commit, so nothing is dereferenced
  change obtains E version file (dereference d base spec [] 8 ⟨"commit", String.ofList (List.replicate 40 '0')⟩) _ tr s
  rw [dereference, if_neg (by decide)]
  exact succeeds_require_bind (by decide) (succeeds_pure (h.mono .inl))

/-- the stale release is taken for what it says -/
theorem obtains_releaseAssets (hurl : E.URLLaw) (hmode : d.trustedPublicOnly = true)
    (hvalid : validateTrustedPublicRepository E d base dockerRepository = .ok ()) (horigin : ProductionOrigin E d base u)
    (h : Answered E version file marked tr) :
    obtains E version file (releaseAssets E d base dockerRepository version)
      (fun assets tr _ => assets = [(checksumNameOf manifestName, assetURL 2), (manifestName, assetURL 1)] ∧
        Answered E version file marked tr) tr s := by
  refine obtains_check_bind hvalid ?_
  refine succeeds_bind (obtains_newRequest_bind horigin (obtains_ask h _)) ?_
  rintro release tr s ⟨rfl, h⟩
  change obtains E version file (trustedMetadata d (staleRelease E version file) version >>= _) _ tr s
  rw [trustedMetadata, if_pos hmode]
  refine obtains_check_bind (validateTrustedPublicReleaseMetadata_stale version file) ?_
  refine obtains_check_bind (uniqueReleaseAssetURLs_stale version file) ?_
  refine obtains_check_bind (validateAssets_stale hurl horigin _ version file) ?_
  refine succeeds_bind (obtains_tagCommitOf horigin hmode (h.mono .inl)) ?_
  intro _ tr s h
  exact succeeds_pure ⟨rfl, h⟩

theorem staleBody_manifest : staleBody E file (assetURL 1) = file := if_pos rfl

theorem staleBody_checksum : staleBody E file (assetURL 2) = checksumLine (E.sha file) :=
  if_neg (by decide)

theorem checksumLine_length {hash : String} (h : mutationPlanHashPattern hash = true) :
    (checksumLine hash).toList.length = 88 := by
  simp only [mutationPlanHashPattern, Bool.and_eq_true, beq_iff_eq] at h
  have hname : manifestName.toList.length = 21 := by decide
  simp only [checksumLine, String.toList_append, List.length_append, h.1, hname]
  decide

/-- the downloads succeed, although nothing compares them with the release -/
theorem obtains_downloadDockerManifest (hsha : E.ShaLaw) (horigin : ProductionOrigin E d base u)
    {bundleVersion serviceType imageRepo channel arch : String} (hsize : (file.toList.length : ℤ) ≤ 4 * 2 ^ 20)
    (haccept : (resolveDockerManifest E file (E.sha file) bundleVersion serviceType imageRepo channel arch).isOk = true)
    (h : Answered E version file marked tr) :
    obtains E version file
      (downloadDockerManifest E d (assetURL 1) (assetURL 2) bundleVersion serviceType imageRepo channel arch)
      (fun _ tr _ => Answered E version file True tr) tr s := by
  refine succeeds_bind (obtains_ask h _) ?_
  rintro _ tr s ⟨-, h⟩
  refine succeeds_bind (obtains_downloadFile horigin h (by rwa [staleBody_manifest])) ?_
  rintro _ tr s ⟨rfl, h⟩
  have hmanifest : Answered E version file True tr := h.mono fun _ => .inr ⟨rfl, staleBody_manifest⟩
  refine succeeds_bind (obtains_downloadFile horigin hmanifest ?_) ?_
  · rw [staleBody_checksum, checksumLine_length (hsha file)]
    norm_num
  rintro _ tr s ⟨rfl, h⟩
  refine succeeds_bind (Q := fun expected tr _ => expected = E.sha file ∧ Answered E version file True tr)
    (succeeds_rephrase (succeeds_bind (obtains_ask h _) ?_)) ?_
  · rintro _ tr s ⟨-, h⟩
    rw [staleBody_checksum, readSHA256File_checksumLine (hsha file)]
    exact succeeds_pure ⟨rfl, h.mono fun _ => .inl (.inl trivial)⟩
  rintro _ tr s ⟨rfl, h⟩
  rw [staleBody_manifest]
  refine succeeds_require_bind (by simp [equalFold]) ?_
  refine succeeds_bind (obtains_ask h _) ?_
  rintro _ tr s ⟨-, h⟩
  cases hresolved : resolveDockerManifest E file (E.sha file) bundleVersion serviceType imageRepo channel arch with
  | error e => simp [hresolved, Except.isOk, Except.toBool] at haccept
  | ok resolved => exact succeeds_pure (h.mono .inl)

theorem Answered.listing_eq (h : Answered E version file marked tr) {y : DownloadStep} (hy : y ∈ tr)
    (hlisting : listing y = some release) : release = staleRelease E version file := by
  obtain ⟨o, rfl⟩ := h.replies y hy
  cases o with
  | getRelease endpoint => exact (Option.some.inj hlisting).symm
  | _ => simp [listing, stepOf] at hlisting

/-- The manifest of such a run is not the one the release lists. -/
theorem Answered.not_binds (h : Answered E version file True tr) : ¬ Binds E version tr := by
  intro hbinds
  obtain ⟨x, hx, hcommit⟩ := h.manifest trivial
  obtain ⟨y, hy, release, hlisting, -, -, asset, hasset, hname, hdigest, -⟩ := hbinds x hx _ _ hcommit
  obtain rfl := h.listing_eq hy hlisting
  -- both assets of the release carry the other digest
  have hother : asset.digest = otherDigest (E.sha file) := by
    simp only [staleRelease, List.mem_cons, List.not_mem_nil, or_false] at hasset
    rcases hasset with rfl | rfl
    · rfl
    · rfl
  exact otherDigest_ne (E.sha file) (hother.symm.trans hdigest)

/-- the run of a request against the stale server -/
def staleRun (E : ReleaseEnv) (d : ReleaseDownloader) (file : String) (req : ReleaseRequest) :
    Exec Unit DownloadRes (Except String (DownloadedArtifact ⊕ ResolvedDockerRelease)) :=
  (serveRelease E d req).run.exec downloadNext ()
    ((serveRelease E d req).run.script downloadNext (fun _ _ => staleServer E req.version file) [] ())

section Accepted

variable {serviceType imageRepo channel arch : String} (hmode : d.trustedPublicOnly = true) (hsha : E.ShaLaw)
  (hurl : E.URLLaw) (hversion : versionPattern version = true) (harch : plainArch arch = "amd64" ∨ plainArch arch = "arm64")
  (hvalid : validateTrustedPublicRepository E d (apiBaseOf d) dockerRepository = .ok ())
  (hsize : (file.toList.length : ℤ) ≤ 4 * 2 ^ 20)
  (haccept : (resolveDockerManifest E file (E.sha file) version serviceType imageRepo (channelOf channel)
    (plainArch arch)).isOk = true)

include hmode hsha hurl hversion harch hvalid hsize haccept

theorem obtains_resolveDocker :
    obtains E version file (resolveDockerReleaseForArch E d version serviceType imageRepo channel arch)
      (fun _ tr _ => Answered E version file True tr) [] s := by
  obtain ⟨u, horigin⟩ := productionOrigin_of_valid hmode hvalid
  have hstart : Answered E version file False [] := ⟨fun y hy => by simp at hy, False.elim⟩
  refine succeeds_require_bind hversion (succeeds_require_bind (by simpa using harch) ?_)
  refine succeeds_bind (obtains_releaseAssets hurl hmode hvalid horigin hstart) ?_
  rintro _ tr s ⟨rfl, h⟩
  have hne : (manifestName == checksumNameOf manifestName) = false := beq_eq_false_iff_ne.2 checksumName_ne.symm
  have hfirst : List.lookup manifestName [(checksumNameOf manifestName, assetURL 2), (manifestName, assetURL 1)] =
      some (assetURL 1) := by simp [List.lookup_cons, hne]
  have hsecond : List.lookup (checksumNameOf manifestName)
      [(checksumNameOf manifestName, assetURL 2), (manifestName, assetURL 1)] = some (assetURL 2) := by simp
  simp only [hfirst, hsecond]
  refine obtains_check_bind (validateAssetURL_assetURL hurl horigin (by decide)) ?_
  refine obtains_check_bind (validateAssetURL_assetURL hurl horigin (by decide)) ?_
  exact obtains_downloadDockerManifest hsha horigin hsize haccept h

theorem staleServer_accepted :
    ∃ r, (staleRun E d file (.resolveDocker version serviceType imageRepo channel arch)).out = some (.ok r) ∧
      Answered E version file True (staleRun E d file (.resolveDocker version serviceType imageRepo channel arch)).steps := by
  have hserve : obtains E version file (serveRelease E d (.resolveDocker version serviceType imageRepo channel arch))
      (fun _ tr _ => Answered E version file True tr) [] () :=
    succeeds_bind (obtains_resolveDocker hmode hsha hurl hversion harch hvalid hsize haccept) fun _ _ _ h => succeeds_pure h
  exact succeeds_script hserve fun _ _ _ => rfl

end Accepted
end Docker

/-! ## Both pipelines -/

/-- **Docker.** Whenever a Docker request can be answered at all, some server answers it with a manifest that its own
release does not list. -/
theorem unlisted_manifest_accepted {E : ReleaseEnv} {d : ReleaseDownloader} (hmode : d.trustedPublicOnly = true)
    (hsha : E.ShaLaw) (hurl : E.URLLaw) {req : ReleaseRequest} (h : DockerServable E d req) :
    ∃ cs r, ((serveRelease E d req).run.exec downloadNext () cs).out = some (.ok r) ∧
      ¬ Binds E req.version ((serveRelease E d req).run.exec downloadNext () cs).steps := by
  cases req with
  | download serviceType version arch => exact h.elim
  | resolveDocker bundleVersion serviceType imageRepo channel arch =>
    obtain ⟨hversion, harch, hvalid, file, hsize, haccept⟩ := h
    obtain ⟨r, hout, hanswered⟩ := staleServer_accepted hmode hsha hurl hversion harch hvalid hsize haccept
    exact ⟨_, r, hout, hanswered.not_binds⟩

/-- **Trusted downloads.** In public mode, every successful run of a request holds only files that the immutable release
lists with their own digests, exactly when the request is no Docker request that a server can answer. -/
theorem downloads_bound_iff (E : ReleaseEnv) (d : ReleaseDownloader) (hmode : d.trustedPublicOnly = true)
    (hsha : E.ShaLaw) (hurl : E.URLLaw) (req : ReleaseRequest) :
    (∀ cs r, ((serveRelease E d req).run.exec downloadNext () cs).out = some (.ok r) →
      Binds E req.version ((serveRelease E d req).run.exec downloadNext () cs).steps) ↔ ¬ DockerServable E d req := by
  constructor
  · intro h hservable
    obtain ⟨cs, r, hout, hfails⟩ := unlisted_manifest_accepted hmode hsha hurl hservable
    exact hfails (h cs r hout)
  · intro hnot cs r hout
    cases req with
    | download serviceType version arch =>
      have hserve : yields (serveRelease E d (.download serviceType version arch)) (fun _ tr _ => Binds E version tr) [] () :=
        ensures_bind (download_binds hmode hsha serviceType version arch) fun _ _ _ _ h => ensures_pure trivial h
      exact (ensures_exec hserve cs).2 r hout
    | resolveDocker bundleVersion serviceType imageRepo channel arch =>
      have hserve : yields (serveRelease E d (.resolveDocker bundleVersion serviceType imageRepo channel arch))
          (fun _ _ _ => DockerServable E d (.resolveDocker bundleVersion serviceType imageRepo channel arch)) [] () :=
        ensures_bind (resolveDocker_servable _ _ _ _ _) fun _ _ _ _ h => ensures_pure trivial h
      exact absurd ((ensures_exec hserve cs).2 r hout) hnot

/-! ## A concrete server -/

namespace SampleRelease

def origin : String := "https://api.github.com"

/-- addresses under the production origin only -/
def parseURL (raw : String) : Option URL :=
  if origin.toList.isPrefixOf raw.toList then
    some ⟨"https", "api.github.com", String.ofList (raw.toList.drop origin.toList.length), "", "", none⟩
  else none

/-- a hash that tells the texts below apart -/
def sha (body : String) : String := String.ofList (List.replicate 64 (if body == "docker" then 'a' else 'b'))

def digest : String := "sha256:" ++ String.ofList (List.replicate 64 'c')

def commit : String := String.ofList (List.replicate 40 'd')

def imageComponent (service repo schema : String) : DockerReleaseComponent where
  service := service
  commit := commit
  sourceVersion := "v1.2.3"
  image := repo ++ ":" ++ "v2.0.0"
  manifestDigest := digest
  platformDigests := [("linux/amd64", digest), ("linux/arm64", digest)]
  rollbackCompatible := true
  databaseSchema := schema

def dockerManifest : DockerReleaseManifest where
  schemaVersion := 2
  releaseID := "v2.0.0"
  channel := "docker"
  publishedAt := "2026-01-01T00:00:00Z"
  protocolMajor := 2
  components := [
    imageComponent "control-panel" "ghcr.io/kome-lab/autostream-docker/control-panel" "backward_compatible",
    imageComponent "worker" "ghcr.io/kome-lab/autostream-docker/worker" "none",
    imageComponent "encoder-recorder" "ghcr.io/kome-lab/autostream-docker/encoder-recorder" "none",
    imageComponent "discord-bot" "ghcr.io/kome-lab/autostream-docker/discord-bot" "none",
    imageComponent "observability" "ghcr.io/kome-lab/autostream-docker/observability" "backward_compatible",
    { service := "updater", commit := commit, protocolMajor := 2 }]

def artifact (arch : String) : HostReleaseArtifact :=
  ⟨"linux", arch, "autostream-worker_v1.2.3_linux_" ++ arch ++ ".tar.gz", 7, sha "archive"⟩

def hostManifest : HostReleaseManifest where
  schemaVersion := 1
  releaseID := "v1.2.3"
  channel := "host"
  publishedAt := "2026-01-01T00:00:00Z"
  minimumAgentVersion := "v2.0.0"
  components := [⟨"worker", "v1.2.3", commit, [artifact "amd64", artifact "arm64"], true, "none"⟩]

def env : ReleaseEnv where
  sha := sha
  parseURL := parseURL
  rfc3339 text := text == "2026-01-01T00:00:00Z"
  decodeHost file := if file == "host" then some hostManifest else none
  decodeDocker file := if file == "docker" then some dockerManifest else none
  ends _ := true
  currentVersion := "v2.1.0"

def downloader : ReleaseDownloader := { trustedPublicOnly := true }

def dockerRequest : ReleaseRequest :=
  .resolveDocker "v2.0.0" "worker" "ghcr.io/kome-lab/autostream-docker/worker" "docker" "amd64"

def hostRequest : ReleaseRequest := .download "worker" "v1.2.3" "amd64"

theorem sha_law : env.ShaLaw := by
  intro body
  change mutationPlanHashPattern (sha body) = true
  unfold sha
  split
  · decide
  · decide

theorem parseURL_append (path : String) :
    parseURL (origin ++ path) = some ⟨"https", "api.github.com", path, "", "", none⟩ := by
  have hpath : String.ofList path.toList = path := String.ofList_toList
  simp only [parseURL, String.toList_append]
  generalize origin.toList = o
  rw [if_pos (List.isPrefixOf_iff_prefix.2 (List.prefix_append _ _)), List.drop_left, hpath]

theorem url_law : env.URLLaw := fun assetID _ => parseURL_append (assetPath dockerRepository assetID)

theorem plainDigest_digest : plainDigest digest = digest := by decide

/-- an image component in its repository, with the schema policy of its service, passes -/
theorem imageComponent_valid {service repo schema : String} (hrepo : expectedRepos.lookup service = some repo)
    (hschema : schema = if service == "control-panel" || service == "observability" then "backward_compatible" else "none") :
    validateImageComponent "v2.0.0" (imageComponent service repo schema) = .ok (imageComponent service repo schema) := by
  have hversion : versionPattern "v1.2.3" = true := by decide
  have hdigest : digestPattern digest = true := by decide
  have hplatform : ["linux/amd64", "linux/arm64"].all
      (fun platform => digestPattern ((imageComponent service repo schema).platformDigest platform)) = true := by
    simp [DockerReleaseComponent.platformDigest, imageComponent, List.lookup_cons, plainDigest_digest, hdigest]
  unfold validateImageComponent
  simp only [imageComponent] at hplatform ⊢
  simp only [hrepo, hversion, plainDigest_digest, hdigest, hplatform]
  simpa using hschema

theorem commit_valid : commitPattern commit = true := by decide

/-- such a component joins the ones seen -/
theorem collectComponents_image {service repo schema : String} {seen : List (String × DockerReleaseComponent)}
    {rest : List DockerReleaseComponent} (hrepo : expectedRepos.lookup service = some repo)
    (hschema : schema = if service == "control-panel" || service == "observability" then "backward_compatible" else "none")
    (hnew : seen.lookup service = none) (hservice : service ≠ "updater") :
    collectComponents "v2.0.0" 2 seen (imageComponent service repo schema :: rest) =
      collectComponents "v2.0.0" 2 ((service, imageComponent service repo schema) :: seen) rest := by
  have hcommit : (!commitPattern (imageComponent service repo schema).commit ||
      (seen.lookup (imageComponent service repo schema).service).isSome) = false := by
    change (!commitPattern commit || (seen.lookup service).isSome) = false
    simp [commit_valid, hnew]
  have hupdater : ((imageComponent service repo schema).service == "updater") = false := beq_eq_false_iff_ne.2 hservice
  rw [collectComponents, hcommit, hupdater, imageComponent_valid hrepo hschema]
  rfl

/-- the components of the manifest, as they are looked up -/
theorem docker_components : ∃ components, collectComponents "v2.0.0" 2 [] dockerManifest.components = .ok components ∧
    components.lookup "updater" ≠ none ∧ components.lookup "worker" =
      some (imageComponent "worker" "ghcr.io/kome-lab/autostream-docker/worker" "none") := by
  unfold dockerManifest
  rw [collectComponents_image (by simp [expectedRepos]) (by simp) (by simp) (by simp),
    collectComponents_image (by simp [expectedRepos, List.lookup_cons]) (by simp) (by simp [List.lookup_cons]) (by simp),
    collectComponents_image (by simp [expectedRepos, List.lookup_cons]) (by simp) (by simp [List.lookup_cons]) (by simp),
    collectComponents_image (by simp [expectedRepos, List.lookup_cons]) (by simp) (by simp [List.lookup_cons]) (by simp),
    collectComponents_image (by simp [expectedRepos, List.lookup_cons]) (by simp) (by simp [List.lookup_cons]) (by simp)]
  simp [collectComponents, commit_valid, List.lookup_cons]

theorem worker_platform : digestPattern
    ((imageComponent "worker" "ghcr.io/kome-lab/autostream-docker/worker" "none").platformDigest ("linux/" ++ "amd64")) =
      true := by
  have hplatform : "linux/" ++ "amd64" = "linux/amd64" := by decide
  have hdigest : digestPattern digest = true := by decide
  simp [hplatform, DockerReleaseComponent.platformDigest, imageComponent, plainDigest_digest, hdigest]

theorem docker_identity : (dockerManifest.schemaVersion != 2 || dockerManifest.releaseID != "v2.0.0" ||
    dockerManifest.channel != "docker" || "docker" != "docker" || !env.rfc3339 dockerManifest.publishedAt ||
    dockerManifest.protocolMajor != 2) = false := by
  simp [dockerManifest, env]

theorem docker_manifest_accepted :
    (resolveDockerManifest env "docker" (env.sha "docker") "v2.0.0" "worker"
      "ghcr.io/kome-lab/autostream-docker/worker" "docker" "amd64").isOk = true := by
  obtain ⟨components, hcollect, hupdater, hworker⟩ := docker_components
  have hdecode : env.decodeDocker "docker" = some dockerManifest := by simp [env]
  have hservice : dockerManifestService "worker" = "worker" := by simp [dockerManifestService]
  have hrepo : expectedRepos.lookup "worker" = some "ghcr.io/kome-lab/autostream-docker/worker" := by
    simp [expectedRepos, List.lookup_cons]
  have hends : env.ends "docker" = true := by simp [env]
  have hcount : (dockerManifest.components.length != expectedRepos.length + 1) = false := by
    simp [dockerManifest, expectedRepos]
  have hprotocol : dockerManifest.protocolMajor = 2 := by simp [dockerManifest]
  have hpresent : (components.lookup "updater").isNone = false := by simpa [Option.isNone_iff_eq_none] using hupdater
  unfold resolveDockerManifest
  rw [hdecode]
  dsimp only
  rw [if_neg (by rw [hends]; decide), if_neg (by rw [docker_identity]; decide), if_neg (by rw [hcount]; decide), hprotocol,
    hcollect]
  dsimp only [bind, Except.bind]
  rw [if_neg (by rw [hpresent]; decide), hservice, hworker]
  dsimp only
  rw [hrepo, if_neg (by simp), if_neg (by rw [worker_platform]; decide)]
  rfl

theorem docker_servable : DockerServable env downloader dockerRequest :=
  ⟨by decide, .inl (by decide), by decide, "docker", by decide, docker_manifest_accepted⟩

end SampleRelease

open SampleRelease in
/-- of the sample requests, the systemd one is bound to its release and the Docker one is not -/
theorem sample_downloads_bound :
    (∀ cs r, ((serveRelease env downloader hostRequest).run.exec downloadNext () cs).out = some (.ok r) →
      Binds env "v1.2.3" ((serveRelease env downloader hostRequest).run.exec downloadNext () cs).steps) ∧
    ¬ ∀ cs r, ((serveRelease env downloader dockerRequest).run.exec downloadNext () cs).out = some (.ok r) →
      Binds env "v2.0.0" ((serveRelease env downloader dockerRequest).run.exec downloadNext () cs).steps :=
  ⟨(downloads_bound_iff env downloader rfl sha_law url_law hostRequest).2 fun h => h,
    fun h => (downloads_bound_iff env downloader rfl sha_law url_law dockerRequest).1 h docker_servable⟩

open SampleRelease in
/-- **A manifest nobody listed.** The release lists the digest of all zeros for the manifest. The server sends a file with
another hash and a checksum file for it, and the request succeeds. -/
theorem docker_accepts_unlisted_manifest :
    (∃ r, (staleRun env downloader "docker" dockerRequest).out = some (.ok r)) ∧
      (∃ x ∈ (staleRun env downloader "docker" dockerRequest).steps, committed x = some (manifestName, "docker")) ∧
      env.sha "docker" = String.ofList (List.replicate 64 'a') ∧
      (∀ y ∈ (staleRun env downloader "docker" dockerRequest).steps, ∀ release, listing y = some release →
        release.assets.map (fun asset => (asset.name, asset.digest)) =
          [(manifestName, "sha256:" ++ String.ofList (List.replicate 64 '0')),
            (checksumNameOf manifestName, "sha256:" ++ String.ofList (List.replicate 64 '0'))]) ∧
      ¬ Binds env "v2.0.0" (staleRun env downloader "docker" dockerRequest).steps := by
  have haccepted : ∃ r, (staleRun env downloader "docker" dockerRequest).out = some (.ok r) ∧
      Answered env "v2.0.0" "docker" True (staleRun env downloader "docker" dockerRequest).steps :=
    staleServer_accepted rfl sha_law url_law (by decide) (.inl (by decide)) (by decide) (by decide) docker_manifest_accepted
  obtain ⟨r, hout, hanswered⟩ := haccepted
  have hsha : env.sha "docker" = String.ofList (List.replicate 64 'a') := by simp [env, sha]
  refine ⟨⟨r, hout⟩, hanswered.manifest trivial, hsha, ?_, hanswered.not_binds⟩
  intro y hy release hlisting
  obtain rfl := hanswered.listing_eq hy hlisting
  have hother : otherDigest (env.sha "docker") = "sha256:" ++ String.ofList (List.replicate 64 '0') := by
    rw [hsha, otherDigest, if_neg (by decide)]
  simp [staleRelease, hother]

end AutostreamUpdater.Release
