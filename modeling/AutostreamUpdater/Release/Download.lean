/-
The two release pipelines of `ReleaseDownloader`: `Download` fetches the host archive of a service with its manifest and
their checksum files, `ResolveDockerReleaseForArch` fetches the manifest of a Docker bundle with its checksum file. Both
read the release metadata of the tag first, and in `TrustedPublicOnly` mode check the origin, the immutability of the
release, the metadata of every asset and the commit behind the tag.

The server and the file system answer through operations. A file is a text with one character for each byte; a file just
written is read back as it was written, and only opening it can fail. What lies outside the repository is a field of
`ReleaseEnv`: SHA-256, `url.Parse`, the JSON decoders of the two manifests, the RFC 3339 parser, and the version the
binary was built with.
-/
import AutostreamUpdater.Base.Fallible
import AutostreamUpdater.Contract.Text
import AutostreamUpdater.Contract.PortJSON

namespace AutostreamUpdater.Release

open Contract Base

/-! ## Metadata -/

/-- `RepoSpec` -/
structure RepoSpec where
  owner : String
  repo : String
  namePrefix : String
  deriving DecidableEq, Repr

def repositoryByServiceType : List (String × RepoSpec) := [
  ("control_panel", ⟨"Kome-Lab", "Autostream-ControlPanel", "autostream-control-panel"⟩),
  ("worker", ⟨"Kome-Lab", "Autostream-Worker", "autostream-worker"⟩),
  ("encoder_recorder", ⟨"Kome-Lab", "Autostream-Encoder-Recorder", "autostream-encoder-recorder"⟩),
  ("discord_bot", ⟨"Kome-Lab", "Autostream-DiscordBot", "autostream-discord-bot"⟩),
  ("observability", ⟨"Kome-Lab", "Autostream-Observability", "autostream-observability"⟩)]

def dockerRepository : RepoSpec := ⟨"Kome-Lab", "Autostream-Docker", "autostream-docker"⟩

/-- `githubReleaseAsset` -/
structure GithubReleaseAsset where
  id : ℤ
  name : String
  url : String
  digest : String
  state : String
  deriving DecidableEq, Repr

/-- `githubRelease` -/
structure GithubRelease where
  tagName : String
  draft : Bool
  prerelease : Bool
  immutable : Bool
  assets : List GithubReleaseAsset
  deriving DecidableEq, Repr

/-- `gitObject`, what a tag or a reference points at -/
structure GitObject where
  type : String
  sha : String
  deriving DecidableEq, Repr

/-- the parts of a `url.URL` that are checked -/
structure URL where
  scheme : String
  host : String
  escapedPath : String
  rawQuery : String
  fragment : String
  user : Option String
  deriving DecidableEq, Repr

/-- what an asset endpoint answers -/
structure AssetResponse where
  statusCode : ℕ
  contentLength : ℤ
  body : String
  deriving DecidableEq, Repr

/-- `HostReleaseArtifact` -/
structure HostReleaseArtifact where
  os : String
  arch : String
  name : String
  size : ℤ
  sha256 : String
  deriving DecidableEq, Repr

/-- `HostReleaseComponent` -/
structure HostReleaseComponent where
  service : String
  sourceVersion : String
  commit : String
  artifacts : List HostReleaseArtifact
  rollbackCompatible : Bool
  databaseSchema : String
  deriving DecidableEq, Repr

/-- `HostReleaseManifest` -/
structure HostReleaseManifest where
  schemaVersion : ℤ
  releaseID : String
  channel : String
  publishedAt : String
  minimumAgentVersion : String
  components : List HostReleaseComponent
  deriving DecidableEq, Repr

/-- `DockerReleaseComponent`; the platform digests are a map -/
structure DockerReleaseComponent where
  service : String
  commit : String
  protocolMajor : ℤ := 0
  sourceVersion : String := ""
  image : String := ""
  manifestDigest : String := ""
  platformDigests : List (String × String) := []
  rollbackCompatible : Bool := false
  databaseSchema : String := ""
  deriving DecidableEq, Repr

/-- `DockerReleaseManifest` -/
structure DockerReleaseManifest where
  schemaVersion : ℤ
  releaseID : String
  channel : String
  publishedAt : String
  protocolMajor : ℤ
  components : List DockerReleaseComponent
  deriving DecidableEq, Repr

/-- what the pipelines use from outside the repository -/
structure ReleaseEnv where
  /-- the lower-case hexadecimal SHA-256 of a file -/
  sha : String → String
  parseURL : String → Option URL
  rfc3339 : String → Bool
  /-- the first JSON value of a file, without unknown fields -/
  decodeHost : String → Option HostReleaseManifest
  decodeDocker : String → Option DockerReleaseManifest
  /-- nothing follows the first JSON value -/
  ends : String → Bool
  /-- `version.Current` -/
  currentVersion : String

/-- `ReleaseDownloader` -/
structure ReleaseDownloader where
  apiBase : String := ""
  token : String := ""
  trustedPublicOnly : Bool := false
  maxArtifactBytes : ℤ := 0
  allowHTTPForTest : Bool := false
  deriving DecidableEq, Repr

/-! ## The server and the file system -/

/-- the operations of a download; files are named within the destination directory -/
inductive DownloadOp where
  | mkdirAll
  | getRelease (endpoint : String)
  | getRef (endpoint : String)
  | getTag (endpoint : String)
  | get (url : String)
  /-- open the part file and copy the body -/
  | create (name : String)
  /-- sync, close and rename the part file to its name -/
  | commit (name body : String)
  | remove (name : String)
  | reopen (name : String)
  /-- `ExtractTarGz` and `VerifyInnerChecksums` -/
  | extract (name : String)
  deriving DecidableEq, Repr

/-- what an operation answers when it does not fail -/
abbrev Answer : DownloadOp → Type
  | .getRelease _ => GithubRelease
  | .getRef _ | .getTag _ => GitObject
  | .get _ => AssetResponse
  | .extract _ => String
  | _ => Unit

abbrev DownloadRes (o : DownloadOp) : Type := Except String (Answer o)

/-- one reply of the world: a failure, or an answer read at the type of the operation -/
structure Reply where
  fails : Option String
  release : GithubRelease
  object : GitObject
  response : AssetResponse
  root : String

def Reply.answer (c : Reply) : (o : DownloadOp) → Answer o
  | .getRelease _ => c.release
  | .getRef _ | .getTag _ => c.object
  | .get _ => c.response
  | .extract _ => c.root
  | .mkdirAll | .create _ | .commit _ _ | .remove _ | .reopen _ => ()

def downloadNext (s : Unit) (o : DownloadOp) (c : Reply) : DownloadRes o × Unit :=
  match c.fails with
  | some e => (.error e, s)
  | none => (.ok (c.answer o), s)

abbrev DownloadProg (α : Type) := Fallible DownloadOp DownloadRes String α

def ask (o : DownloadOp) : DownloadProg (Answer o) := Fallible.ofProg (Prog.op o >>= fun r => pure r)

/-- a check that has no effect -/
def check {α : Type} : Except String α → DownloadProg α
  | .ok a => pure a
  | .error e => throw e

/-! ## Texts -/

/-- `strings.EqualFold`, for a text that meets ASCII letters only -/
def equalFold (a b : String) : Bool := foldName a == foldName b

/-- `strings.TrimRight(s, "/")` -/
def trimSlashes (s : String) : String := String.ofList (s.toList.reverse.dropWhile (· == '/')).reverse

/-- `%q` of a name without characters to escape -/
def quoted (name : String) : String := "\"" ++ name ++ "\""

/-- `^[0-9a-f]{40}$` -/
def commitPattern (s : String) : Bool := s.toList.length == 40 && s.toList.all isHex

/-- `hex.DecodeString` accepts the text -/
def hexDecodes (s : String) : Bool :=
  s.toList.length % 2 == 0 && s.toList.all fun c => isHex c || ('A' ≤ c && c ≤ 'F')

/-- `bufio.Scanner.Scan` on lines: the line without its end, and what follows; a line of 64 KiB or more is refused -/
def scanLine (data : List Char) : Option (List Char × List Char) :=
  let line := data.takeWhile (· != '\n')
  if data.isEmpty || 65536 ≤ line.length then none
  else some (if line.getLast? = some '\r' then line.dropLast else line, data.drop (line.length + 1))

def readSHA256File (file expectedName : String) : Except String String :=
  match scanLine file.toList with
  | none => .error "SHA256 sidecar is empty"
  | some (line, rest) =>
    let digest := String.ofList (line.take 64)
    let checksumName := String.ofList (line.drop 66)
    if line.length < 67 || (line.drop 64).take 2 != [' ', ' '] then
      .error "SHA256 sidecar has an invalid format or filename"
    else if checksumName != expectedName || toLower digest != digest || checksumName == "" then
      .error "SHA256 sidecar has an invalid format or filename"
    else if !hexDecodes digest then .error "SHA256 sidecar contains an invalid digest"
    else if !rest.isEmpty then .error "SHA256 sidecar must contain exactly one line"
    else .ok digest

/-- `%d` of `fmt.Sscanf`: blanks, a sign, digits, within 64 bits -/
def scanInt (s : List Char) : Option (ℤ × List Char) :=
  let s := s.dropWhile fun c => isSpace c && c != '\n'
  let (negative, s) := match s with
    | '-' :: s => (true, s)
    | '+' :: s => (false, s)
    | s => (false, s)
  let digits := s.takeWhile isDigit
  let n : ℤ := digits.foldl (fun n c => 10 * n + (c.toNat - '0'.toNat : ℕ)) 0
  let n := if negative then -n else n
  if digits.isEmpty || n < -2 ^ 63 || 2 ^ 63 ≤ n then none else some (n, s.dropWhile isDigit)

/-- `strings.TrimPrefix(strings.TrimSpace(value), "v")` -/
def withoutV (value : String) : List Char :=
  match (trimSpace value).toList with
  | 'v' :: cs => cs
  | cs => cs

/-- the three numbers of a version -/
def semverParse (value : String) : Option (List ℤ) := do
  let (major, s) ← scanInt ((withoutV value).takeWhile (· != '-'))
  let (minor, s) ← (afterChar '.' s).bind scanInt
  let (patch, _) ← (afterChar '.' s).bind scanInt
  some [major, minor, patch]

/-- the first difference decides; equal numbers are enough unless `current` is a pre-release -/
def numbersAtLeast (released : Bool) : List ℤ → List ℤ → Bool
  | a :: actual, r :: required => if a != r then a > r else numbersAtLeast released actual required
  | _, _ => released

def semverAtLeast (current minimum : String) : Bool :=
  -- `^v[0-9]+\.[0-9]+\.[0-9]+$`
  if !(versionPattern minimum && !minimum.toList.contains '-') then false
  else match semverParse current, semverParse minimum with
    | some actual, some required => numbersAtLeast (!(withoutV current).contains '-') actual required
    | _, _ => false

/-! ## Checks of the metadata -/

section Checks

variable (E : ReleaseEnv) (d : ReleaseDownloader)

def validateTrustedPublicReleaseMetadata (release : GithubRelease) (version : String) : Except String Unit :=
  if release.tagName != version || release.draft || release.prerelease || !release.immutable then
    .error "public release is not an immutable stable release for the requested tag"
  else .ok ()

/-- the loop of `uniqueReleaseAssets`, with the assets already in the map -/
def collectAssets (seen : List (String × GithubReleaseAsset)) :
    List GithubReleaseAsset → Except String (List (String × GithubReleaseAsset))
  | [] => .ok seen
  | asset :: rest =>
    if (seen.lookup asset.name).isSome then .error ("release contains duplicate asset " ++ quoted asset.name)
    else collectAssets ((asset.name, asset) :: seen) rest

def uniqueReleaseAssets (release : GithubRelease) : Except String (List (String × GithubReleaseAsset)) :=
  collectAssets [] release.assets

def uniqueReleaseAssetURLs (release : GithubRelease) : Except String (List (String × String)) :=
  (uniqueReleaseAssets release).map fun assets => assets.map fun a => (a.1, a.2.url)

def validateAssetURL (raw apiBase : String) : Except String Unit :=
  match E.parseURL raw with
  | none => .error "GitHub returned an invalid asset URL"
  | some u =>
    if u.host == "" then .error "GitHub returned an invalid asset URL"
    else if u.scheme != "https" && !d.allowHTTPForTest then .error "release asset URL must use HTTPS"
    else match E.parseURL apiBase with
      -- the source dereferences a nil URL here; a base that does not parse was refused before any reply
      | none => .error "invalid memory address or nil pointer dereference"
      | some base =>
        if !equalFold u.host base.host then .error "release asset URL must use the configured GitHub API host"
        else .ok ()

def validateTrustedPublicRepository (base : String) (spec : RepoSpec) : Except String Unit :=
  if !d.trustedPublicOnly then .ok ()
  else if trimSpace d.token != "" then .error "credentialed release access is unavailable in public pull mode"
  else
    let origin := match E.parseURL base with
      | none => false
      | some u => u.scheme == "https" && equalFold u.host "api.github.com" && u.escapedPath == "" && u.rawQuery == "" &&
          u.fragment == "" && u.user.isNone
    if !origin then .error "public pull mode requires GitHub's production API origin"
    else if !(repositoryByServiceType.any (fun r => r.2 == spec) || spec == dockerRepository) then
      .error "public pull mode does not permit a custom release repository"
    else .ok ()

/-- the owner, repository and identifier are plain path segments, which `url.PathEscape` leaves as they are -/
def assetPath (spec : RepoSpec) (assetID : ℤ) : String :=
  "/repos/" ++ spec.owner ++ "/" ++ spec.repo ++ "/releases/assets/" ++ toString assetID

def validateTrustedPublicAssetURL (raw base : String) (spec : RepoSpec) (assetID : ℤ) : Except String Unit := do
  validateAssetURL E d raw base
  match E.parseURL raw, E.parseURL base with
  | some assetURL, some baseURL =>
    if assetID ≤ 0 then .error "GitHub returned an invalid release asset API URL"
    else if assetURL.escapedPath != trimSlashes baseURL.escapedPath ++ assetPath spec assetID ||
        assetURL.rawQuery != "" || assetURL.fragment != "" || assetURL.user.isSome then
      .error "release asset does not use its canonical GitHub asset API URL"
    else .ok ()
  | _, _ => .error "GitHub returned an invalid release asset API URL"

/-- the loop of both pipelines over the assets of a release; `noun` opens its error -/
def validateAssets (noun base : String) (spec : RepoSpec) : List GithubReleaseAsset → Except String Unit
  | [] => .ok ()
  | asset :: rest =>
    if d.trustedPublicOnly && (asset.id ≤ 0 || asset.state != "uploaded" || !digestPattern asset.digest ||
        !(validateTrustedPublicAssetURL E d asset.url base spec asset.id).isOk) then
      .error (noun ++ " asset " ++ quoted asset.name ++ " has invalid immutable metadata")
    else validateAssets noun base spec rest

end Checks

/-! ## Requests to the server -/

section Requests

variable (E : ReleaseEnv) (d : ReleaseDownloader)

/-- `newRequest` refuses a credential in public mode -/
def newRequest : DownloadProg Unit :=
  Fallible.require (!(d.trustedPublicOnly && trimSpace d.token != "")) "public pull mode does not accept a release credential"

/-- `getJSON`; the transport, the status and the decoder fail through the answer -/
def getJSON (o : DownloadOp) : DownloadProg (Answer o) := do
  newRequest d
  ask o

/-- the configured API base, or the production one -/
def apiBaseOf : String := if trimSlashes d.apiBase == "" then "https://api.github.com" else trimSlashes d.apiBase

def repoEndpoint (base : String) (spec : RepoSpec) : String := base ++ "/repos/" ++ spec.owner ++ "/" ++ spec.repo

/-- the loop of `resolveTrustedReleaseTagCommit`: `left` more tags may be dereferenced -/
def dereference (base : String) (spec : RepoSpec) (seenTags : List String) (left : ℕ) (object : GitObject) :
    DownloadProg String :=
  if object.type == "tag" then
    match left with
    | 0 => throw "immutable release tag exceeds the dereference limit"
    | left + 1 => do
      Fallible.require (commitPattern object.sha) "immutable release tag object is invalid"
      Fallible.require (!seenTags.contains object.sha) "immutable release tag contains a cycle"
      let tag ← Fallible.rephrase ("dereference immutable release tag: " ++ ·)
        (getJSON d (.getTag (repoEndpoint base spec ++ "/git/tags/" ++ object.sha)))
      dereference base spec (object.sha :: seenTags) left tag
  else do
    Fallible.require (object.type == "commit" && commitPattern object.sha)
      "immutable release tag does not resolve to a valid commit"
    pure object.sha

def resolveTrustedReleaseTagCommit (base : String) (spec : RepoSpec) (version : String) : DownloadProg String := do
  let object ← Fallible.rephrase ("resolve immutable release tag: " ++ ·)
    (getJSON d (.getRef (repoEndpoint base spec ++ "/git/ref/tags/" ++ version)))
  dereference d base spec [] 8 object

/-- a file on disk with the digest computed while it was written -/
structure DownloadedFile where
  digest : String
  body : String

def downloadFile (url name : String) (max : ℤ) : DownloadProg DownloadedFile := do
  newRequest d
  let resp ← ask (.get url)
  Fallible.require (resp.statusCode == 200) ("asset endpoint returned HTTP " ++ toString resp.statusCode)
  Fallible.require (resp.contentLength ≤ max) "release asset exceeds size limit"
  ask (.create name)
  Fallible.require ((resp.body.toList.length : ℤ) ≤ max) "release asset exceeds size limit"
  ask (.commit name resp.body)
  pure ⟨E.sha resp.body, resp.body⟩

def downloadResolvedReleaseAsset (asset : GithubReleaseAsset) (name : String) (max : ℤ) : DownloadProg DownloadedFile := do
  let file ← downloadFile E d asset.url name max
  if d.trustedPublicOnly && asset.digest != "sha256:" ++ toLower file.digest then do
    -- the outcome of the removal is ignored
    let _ ← Fallible.total (Prog.op (.remove name))
    throw ("release asset " ++ quoted asset.name ++ " does not match the GitHub API digest")
  else pure file

end Requests

/-! ## Manifests -/

section Manifests

variable (E : ReleaseEnv)

def archiveName (spec : RepoSpec) (version arch : String) : String :=
  spec.namePrefix ++ "_" ++ version ++ "_linux_" ++ arch ++ ".tar.gz"

def defaultMaxArtifactBytes : ℤ := 256 * 2 ^ 20

/-- the loop over the artifacts of a component, with the architectures seen and the artifact selected -/
def selectArtifact (spec : RepoSpec) (releaseVersion arch assetName : String) (seen : List String)
    (selected : Option HostReleaseArtifact) :
    List HostReleaseArtifact → Except String (List String × Option HostReleaseArtifact)
  | [] => .ok (seen, selected)
  | artifact :: rest =>
    if artifact.os != "linux" || (artifact.arch != "amd64" && artifact.arch != "arm64") || seen.contains artifact.arch ||
        artifact.name != archiveName spec releaseVersion artifact.arch || artifact.size ≤ 0 ||
        artifact.size > defaultMaxArtifactBytes || artifact.sha256.toList.length != 64 then
      .error "host release manifest contains invalid artifact metadata"
    else if !hexDecodes artifact.sha256 then .error "host release manifest contains an invalid artifact SHA256"
    else selectArtifact spec releaseVersion arch assetName (artifact.arch :: seen)
      (if artifact.arch == arch && artifact.name == assetName then some artifact else selected) rest

def validateHostReleaseManifest (file serviceType : String) (spec : RepoSpec)
    (releaseVersion arch assetName tagCommit : String) : Except String HostReleaseArtifact :=
  match E.decodeHost file with
  | none => .error "host release manifest is invalid JSON"
  | some manifest =>
    match manifest.components with
    | [component] =>
      if manifest.schemaVersion != 1 || manifest.releaseID != releaseVersion || manifest.channel != "host" then
        .error "host release manifest identity is invalid"
      else if !E.rfc3339 manifest.publishedAt then .error "host release manifest published_at is invalid"
      else if !versionPattern manifest.minimumAgentVersion || !semverAtLeast E.currentVersion manifest.minimumAgentVersion then
        .error ("host release requires updater " ++ manifest.minimumAgentVersion ++ " or newer")
      else if component.service != dockerManifestService serviceType || component.sourceVersion != releaseVersion ||
          !commitPattern (toLower component.commit) || !component.rollbackCompatible then
        .error "host release component identity or rollback policy is invalid"
      else if tagCommit != "" && component.commit != tagCommit then
        .error "host release component commit does not match the immutable release tag"
      else if component.databaseSchema !=
          (if serviceType == "control_panel" || serviceType == "observability" then "backward_compatible" else "none") then
        .error "host release database_schema policy is invalid"
      else if component.artifacts.length != 2 then .error "host release manifest must contain amd64 and arm64 artifacts"
      else do
        let (seen, selected) ← selectArtifact spec releaseVersion arch assetName [] none component.artifacts
        match selected with
        | some artifact =>
          if !seen.contains "amd64" || !seen.contains "arm64" || artifact.name == "" then
            .error "host release manifest is missing the requested architecture"
          else .ok artifact
        | none => .error "host release manifest is missing the requested architecture"
    | _ => .error "host release manifest identity is invalid"

/-- `ResolvedDockerRelease` -/
structure ResolvedDockerRelease where
  sourceVersion : String
  manifestDigest : String
  manifestSHA256 : String
  platformDigest : String
  deriving DecidableEq, Repr

def expectedRepos : List (String × String) := [
  ("control-panel", "ghcr.io/kome-lab/autostream-docker/control-panel"),
  ("worker", "ghcr.io/kome-lab/autostream-docker/worker"),
  ("encoder-recorder", "ghcr.io/kome-lab/autostream-docker/encoder-recorder"),
  ("discord-bot", "ghcr.io/kome-lab/autostream-docker/discord-bot"),
  ("observability", "ghcr.io/kome-lab/autostream-docker/observability")]

/-- `strings.ToLower(strings.TrimSpace(digest))` -/
def plainDigest (digest : String) : String := toLower (trimSpace digest)

/-- the digest of a platform, empty when the map has none -/
def DockerReleaseComponent.platformDigest (component : DockerReleaseComponent) (platform : String) : String :=
  plainDigest ((component.platformDigests.lookup platform).getD "")

/-- one image service of the manifest -/
def validateImageComponent (bundleVersion : String) (component : DockerReleaseComponent) :
    Except String DockerReleaseComponent :=
  match expectedRepos.lookup component.service with
  | none => .error "Docker release manifest contains an unknown or duplicate service component"
  | some repo =>
    if !versionPattern component.sourceVersion || component.image != repo ++ ":" ++ bundleVersion then
      .error "Docker component source_version or image identity is invalid"
    else if !component.rollbackCompatible || component.databaseSchema !=
        (if component.service == "control-panel" || component.service == "observability" then "backward_compatible"
          else "none") then
      .error "Docker component rollback or database schema policy is invalid"
    else if !digestPattern (plainDigest component.manifestDigest) || component.platformDigests.length != 2 then
      .error "Docker component manifest digest metadata is invalid"
    else if !(["linux/amd64", "linux/arm64"].all fun platform => digestPattern (component.platformDigest platform)) then
      .error "Docker component platform_digests is incomplete or invalid"
    else .ok { component with manifestDigest := plainDigest component.manifestDigest }

/-- the loop over the components, with the ones already in the map -/
def collectComponents (bundleVersion : String) (protocolMajor : ℤ) (seen : List (String × DockerReleaseComponent)) :
    List DockerReleaseComponent → Except String (List (String × DockerReleaseComponent))
  | [] => .ok seen
  | component :: rest =>
    if !commitPattern component.commit || (seen.lookup component.service).isSome then
      .error "Docker component commit is invalid or its service is duplicated"
    else if component.service == "updater" then
      if component.protocolMajor != protocolMajor then .error "independent Updater protocol is incompatible"
      else collectComponents bundleVersion protocolMajor ((component.service, component) :: seen) rest
    else do
      let component ← validateImageComponent bundleVersion component
      collectComponents bundleVersion protocolMajor ((component.service, component) :: seen) rest

/-- what `ResolveDockerReleaseForArch` does with the manifest, whose digest is known -/
def resolveDockerManifest (file digest bundleVersion serviceType imageRepo channel arch : String) :
    Except String ResolvedDockerRelease :=
  match E.decodeDocker file with
  | none => .error "Docker release manifest is invalid JSON"
  | some manifest =>
    if !E.ends file then .error "Docker release manifest must contain one JSON object"
    else if manifest.schemaVersion != 2 || manifest.releaseID != bundleVersion || manifest.channel != "docker" ||
        channel != "docker" || !E.rfc3339 manifest.publishedAt || manifest.protocolMajor != 2 then
      .error "Docker release manifest identity does not match the requested bundle"
    else if manifest.components.length != expectedRepos.length + 1 then
      .error "Docker release manifest must contain five image services and the independent Updater"
    else do
      let components ← collectComponents bundleVersion manifest.protocolMajor [] manifest.components
      if (components.lookup "updater").isNone then .error "Docker release manifest is missing the independent Updater"
      else match components.lookup (dockerManifestService serviceType) with
        | none => .error "Docker release manifest does not match the configured service repository"
        | some matched =>
          if (expectedRepos.lookup (dockerManifestService serviceType)).getD "" != imageRepo then
            .error "Docker release manifest does not match the configured service repository"
          else if !digestPattern (matched.platformDigest ("linux/" ++ arch)) then
            .error "Docker component platform_digests is incomplete or invalid"
          else .ok ⟨matched.sourceVersion, matched.manifestDigest, "sha256:" ++ digest,
            matched.platformDigest ("linux/" ++ arch)⟩

end Manifests

/-! ## The two pipelines -/

section Pipelines

variable (E : ReleaseEnv) (d : ReleaseDownloader)

/-- `resolvedReleaseAssets` -/
structure ResolvedReleaseAssets where
  archive : GithubReleaseAsset
  archiveChecksum : GithubReleaseAsset
  manifest : GithubReleaseAsset
  manifestChecksum : GithubReleaseAsset
  tagCommit : String

def manifestName : String := "release-manifest.json"

def checksumNameOf (name : String) : String := name ++ ".sha256"

/-- the check of the metadata, made in public mode -/
def trustedMetadata (release : GithubRelease) (version : String) : DownloadProg Unit :=
  if d.trustedPublicOnly then check (validateTrustedPublicReleaseMetadata release version) else pure ()

def releaseEndpoint (base : String) (spec : RepoSpec) (version : String) : String :=
  repoEndpoint base spec ++ "/releases/tags/" ++ version

/-- the commit of the tag in public mode, empty otherwise -/
def tagCommitOf (base : String) (spec : RepoSpec) (version : String) : DownloadProg String :=
  if d.trustedPublicOnly then resolveTrustedReleaseTagCommit d base spec version else pure ""

def resolveAssets (spec : RepoSpec) (version assetName : String) : DownloadProg ResolvedReleaseAssets := do
  let base := apiBaseOf d
  check (validateTrustedPublicRepository E d base spec)
  let release ← Fallible.rephrase ("resolve GitHub release: " ++ ·)
    (getJSON d (.getRelease (releaseEndpoint base spec version)))
  trustedMetadata d release version
  let assets ← check (uniqueReleaseAssets release)
  check (validateAssets E d "release" base spec release.assets)
  match assets.lookup assetName, assets.lookup (checksumNameOf assetName), assets.lookup manifestName,
      assets.lookup (checksumNameOf manifestName) with
  | some archive, some checksum, some manifest, some manifestChecksum => do
    check (validateAssetURL E d archive.url base)
    check (validateAssetURL E d checksum.url base)
    check (validateAssetURL E d manifest.url base)
    check (validateAssetURL E d manifestChecksum.url base)
    let tagCommit ← tagCommitOf d base spec version
    pure ⟨archive, checksum, manifest, manifestChecksum, tagCommit⟩
  | _, _, _, _ => throw ("release is missing " ++ assetName ++ ", its checksum, or the host manifest checksums")

/-- `DownloadedArtifact`; the archive path is the asset name within the destination -/
structure DownloadedArtifact where
  rootDir : String
  sha256 : String
  assetName : String
  deriving DecidableEq, Repr

def maxArtifact : ℤ := if d.maxArtifactBytes ≤ 0 then defaultMaxArtifactBytes else d.maxArtifactBytes

/-- open a checksum file and compare it with the digest of what it names -/
def readChecksum (file : DownloadedFile) (name expectedName : String) : DownloadProg String := do
  ask (.reopen name)
  check (readSHA256File file.body expectedName)

/-- `Download`, once the assets are known -/
def downloadAssets (serviceType version arch assetName : String) (spec : RepoSpec) (assets : ResolvedReleaseAssets) :
    DownloadProg DownloadedArtifact := do
  let manifest ← Fallible.rephrase ("download host release manifest: " ++ ·)
    (downloadResolvedReleaseAsset E d assets.manifest manifestName (4 * 2 ^ 20))
  let manifestChecksum ← Fallible.rephrase ("download host release manifest checksum: " ++ ·)
    (downloadResolvedReleaseAsset E d assets.manifestChecksum (checksumNameOf manifestName) (64 * 2 ^ 10))
  let expectedManifest ← Fallible.rephrase (fun _ => "host release manifest SHA256 sidecar does not match")
    (readChecksum manifestChecksum (checksumNameOf manifestName) manifestName)
  Fallible.require (equalFold expectedManifest manifest.digest) "host release manifest SHA256 sidecar does not match"
  ask (.reopen manifestName)
  let artifact ← check
    (validateHostReleaseManifest E manifest.body serviceType spec version arch assetName assets.tagCommit)
  let archive ← Fallible.rephrase ("download release artifact: " ++ ·)
    (downloadResolvedReleaseAsset E d assets.archive assetName (maxArtifact d))
  let archiveChecksum ← Fallible.rephrase ("download release checksum: " ++ ·)
    (downloadResolvedReleaseAsset E d assets.archiveChecksum (checksumNameOf assetName) (2 ^ 20))
  let expected ← readChecksum archiveChecksum (checksumNameOf assetName) assetName
  Fallible.require (equalFold expected archive.digest) "release artifact SHA256 does not match sidecar"
  Fallible.rephrase (fun _ => "release artifact does not match the host release manifest") (ask (.reopen assetName))
  Fallible.require ((archive.body.toList.length : ℤ) == artifact.size && equalFold archive.digest artifact.sha256)
    "release artifact does not match the host release manifest"
  let root ← ask (.extract assetName)
  pure ⟨root, archive.digest, assetName⟩

/-- `Download` -/
def download (serviceType version arch : String) : DownloadProg DownloadedArtifact :=
  match repositoryByServiceType.lookup serviceType with
  | none => throw "service type has no release repository"
  | some spec => do
    Fallible.require (versionPattern version) "target version is invalid"
    Fallible.require (arch == "amd64" || arch == "arm64") "only amd64 and arm64 host artifacts are supported"
    Fallible.rephrase ("create artifact directory: " ++ ·) (ask .mkdirAll)
    let assets ← resolveAssets E d spec version (archiveName spec version arch)
    downloadAssets E d serviceType version arch (archiveName spec version arch) spec assets

/-- `releaseAssets`: the map from asset names to addresses, without the digests -/
def releaseAssets (base : String) (spec : RepoSpec) (version : String) : DownloadProg (List (String × String)) := do
  check (validateTrustedPublicRepository E d base spec)
  let release ← getJSON d (.getRelease (releaseEndpoint base spec version))
  trustedMetadata d release version
  let assets ← check (uniqueReleaseAssetURLs release)
  check (validateAssets E d "Docker release" base spec release.assets)
  let _ ← tagCommitOf d base spec version
  pure assets

/-- the downloads of `ResolveDockerReleaseForArch`: neither file is compared with the digest of its asset -/
def downloadDockerManifest (manifestURL sidecarURL bundleVersion serviceType imageRepo channel arch : String) :
    DownloadProg ResolvedDockerRelease := do
  ask .mkdirAll
  let manifest ← downloadFile E d manifestURL manifestName (4 * 2 ^ 20)
  let sidecar ← downloadFile E d sidecarURL (checksumNameOf manifestName) (64 * 2 ^ 10)
  let expected ← Fallible.rephrase (fun _ => "Docker release manifest SHA256 sidecar does not match")
    (readChecksum sidecar (checksumNameOf manifestName) manifestName)
  Fallible.require (equalFold expected manifest.digest) "Docker release manifest SHA256 sidecar does not match"
  ask (.reopen manifestName)
  check (resolveDockerManifest E manifest.body manifest.digest bundleVersion serviceType imageRepo channel arch)

/-- the architecture as it is compared -/
def plainArch (arch : String) : String := toLower (trimSpace arch)

def channelOf (channel : String) : String := if channel == "" then "docker" else channel

/-- `ResolveDockerReleaseForArch` -/
def resolveDockerReleaseForArch (bundleVersion serviceType imageRepo channel arch : String) :
    DownloadProg ResolvedDockerRelease := do
  Fallible.require (versionPattern bundleVersion) "Docker bundle version is invalid"
  Fallible.require (plainArch arch == "amd64" || plainArch arch == "arm64")
    "Docker release architecture must be amd64 or arm64"
  let assets ← releaseAssets E d (apiBaseOf d) dockerRepository bundleVersion
  match assets.lookup manifestName, assets.lookup (checksumNameOf manifestName) with
  | some manifestURL, some sidecarURL => do
    check (validateAssetURL E d manifestURL (apiBaseOf d))
    check (validateAssetURL E d sidecarURL (apiBaseOf d))
    downloadDockerManifest E d manifestURL sidecarURL bundleVersion serviceType imageRepo (channelOf channel)
      (plainArch arch)
  | _, _ => throw "Docker release is missing the manifest or its SHA256 sidecar"

/-- a request to one of the two pipelines -/
inductive ReleaseRequest where
  | download (serviceType version arch : String)
  | resolveDocker (bundleVersion serviceType imageRepo channel arch : String)
  deriving DecidableEq, Repr

/-- the tag a request is about -/
def ReleaseRequest.version : ReleaseRequest → String
  | .download _ version _ => version
  | .resolveDocker bundleVersion _ _ _ _ => bundleVersion

def serveRelease : ReleaseRequest → DownloadProg (DownloadedArtifact ⊕ ResolvedDockerRelease)
  | .download serviceType version arch => do
    let artifact ← download E d serviceType version arch
    pure (.inl artifact)
  | .resolveDocker bundleVersion serviceType imageRepo channel arch => do
    let resolved ← resolveDockerReleaseForArch E d bundleVersion serviceType imageRepo channel arch
    pure (.inr resolved)

end Pipelines

end AutostreamUpdater.Release
