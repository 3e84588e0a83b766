/-
What a software update is about: the target and the plan it is applied under, the checkpoint that outlives a crash of the
cutover, and the texts that identify a release: versions, the pin in the version env file, the repository digests of an
image.
-/
import AutostreamUpdater.Software.Ledger

namespace AutostreamUpdater.Software

open Contract

/-- `Target`, what the software paths read of it -/
structure Target where
  targetID : String
  serviceType : String
  deploymentMode : String
  releaseRoot : Path := []
  imageRepo : String := ""
  imageVariable : String := ""
  currentVersion : String := ""
  deriving DecidableEq, Repr

/-- `ApplyPlan`, what apply and reconcile read of it -/
structure ApplyPlan where
  jobID : String
  targetVersion : String
  currentVersion : String
  artifactDigest : String
  expectedVersion : String
  expectedImageDigest : String
  expectedPlatformDigest : String
  stageDir : Path
  deriving DecidableEq, Repr

/-- the plan as `executorMutationRequest` hands it on, bound to the stage of the ledger -/
def applyPlan (plan : MutationPlan) (stage : RemoteStage) : ApplyPlan where
  jobID := plan.jobID
  targetVersion := plan.targetVersion
  currentVersion := plan.currentVersion
  artifactDigest := bareDigest stage.artifactDigest
  expectedVersion := plan.expectedVersion
  expectedImageDigest := plan.expectedImageDigest
  expectedPlatformDigest := plan.expectedPlatformDigest
  stageDir := stage.rootDir

/-! ## Checkpoints -/

/-- the phases of a checkpoint -/
inductive CheckpointPhase where
  | prepared | stopped | switched | envWritten | starting | started | succeeded | rolledBack
  deriving DecidableEq, Repr

/-- `updateCheckpoint` -/
structure UpdateCheckpoint where
  jobID : String
  targetID : String
  deploymentMode : String
  phase : CheckpointPhase
  targetVersion : String
  targetDigest : String := ""
  targetPlatform : String := ""
  targetSourceVersion : String := ""
  newRelease : Option Path := none
  previousRelease : Option Path := none
  previousDigest : String := ""
  previousVersion : String := ""
  previousImageID : String := ""
  previousRepoDigest : String := ""
  previousBundleVersion : String := ""
  previousManifestDigest : String := ""
  versionEnvExisted : Bool := false
  versionEnvMode : ℕ := 0
  previousVersionEnv : Bytes := []
  deriving DecidableEq, Repr

/-- the checks of `loadCheckpoint` on the decoded record -/
def UpdateCheckpoint.loadable (c : UpdateCheckpoint) (target : Target) : Bool :=
  identifierPattern c.jobID && c.targetID == target.targetID && c.deploymentMode == target.deploymentMode &&
    versionPattern c.targetVersion

/-- the job that wrote the checkpoint is over -/
def UpdateCheckpoint.over (c : UpdateCheckpoint) : Bool := c.phase == .succeeded || c.phase == .rolledBack

/-- `checkpointMode` -/
def checkpointMode (checkpoint : Option UpdateCheckpoint) : ℕ :=
  match checkpoint with
  | none => 0o600
  | some c => if c.versionEnvMode == 0 then 0o600 else c.versionEnvMode

/-! ## Versions -/

/-- the version without white space around it and without its leading `v` -/
def bareVersion (s : String) : List Char :=
  match (trimSpace s).toList with
  | 'v' :: cs => cs
  | cs => cs

/-- `versionsEqual` -/
def versionsEqual (a b : String) : Bool := bareVersion a == bareVersion b

/-- `strings.Fields` -/
def fields (s : String) : List String :=
  ((s.toList.splitOnP isSpace).filter (· ≠ [])).map String.ofList

/-- `strings.Trim(field, ",;()")` -/
def trimPunctuation (s : String) : String :=
  let isPunctuation := fun c => [',', ';', '(', ')'].contains c
  String.ofList (((s.toList.dropWhile isPunctuation).reverse.dropWhile isPunctuation).reverse)

/-- `versionMatches` -/
def versionMatches (output expected : String) : Bool :=
  (fields output).any fun field => versionsEqual (trimPunctuation field) expected

/-- `requirePlannedCurrentVersion`, true for no error -/
def requirePlannedCurrentVersion (planned actual : String) : Bool :=
  trimSpace planned == "" ||
    (versionPattern (trimSpace planned) && versionPattern (trimSpace actual) && trimSpace actual == trimSpace planned)

/-- the directory a release is installed in -/
def releaseDirectory (target : Target) (plan : MutationPlan) : Path :=
  target.releaseRoot ++ [plan.targetVersion ++ "-" ++ toLower (String.ofList (plan.artifactDigest.toList.take 12))]

/-! ## The version env file -/

/-- the version env file, with its permission bits -/
structure EnvFile where
  data : Bytes
  mode : ℕ
  deriving DecidableEq, Repr

/-- the size `readVersionEnv` accepts -/
def maxVersionEnvSize : ℕ := 64 * 1024

/-- the encodings of the characters that `unicode.IsSpace` accepts -/
def spaceCodes : List Bytes :=
  [[9], [10], [11], [12], [13], [32], [0xc2, 0x85], [0xc2, 0xa0], [0xe1, 0x9a, 0x80], [0xe2, 0x80, 0xa8],
    [0xe2, 0x80, 0xa9], [0xe2, 0x80, 0xaf], [0xe2, 0x81, 0x9f], [0xe3, 0x80, 0x80]] ++
    [0x80, 0x81, 0x82, 0x83, 0x84, 0x85, 0x86, 0x87, 0x88, 0x89, 0x8a].map fun b => [0xe2, 0x80, b]

/-- the text behind the codes at its front, of which there are at most `fuel` -/
def dropCodes (codes : List Bytes) : ℕ → Bytes → Bytes
  | 0, text => text
  | fuel + 1, text =>
    match codes.find? (·.isPrefixOf text) with
    | none => text
    | some code => dropCodes codes fuel (text.drop code.length)

/-- `strings.TrimSpace`; a byte that is part of no encoding is no space -/
def trimBytes (text : Bytes) : Bytes :=
  let rest := dropCodes spaceCodes text.length text
  (dropCodes (spaceCodes.map List.reverse) rest.length rest.reverse).reverse

/-- `strings.ReplaceAll(text, "\r\n", "\n")` -/
def unifyNewlines : Bytes → Bytes
  | 13 :: 10 :: cs => 10 :: unifyNewlines cs
  | c :: cs => c :: unifyNewlines cs
  | [] => []

/-- the lines of an env file -/
def envLines (data : Bytes) : List Bytes := (unifyNewlines data).splitOn 10

/-- the line assigns the variable -/
def assigns (name : String) (line : Bytes) : Bool := (textBytes (name ++ "=")).isPrefixOf (trimBytes line)

/-- `version@digest` -/
def splitPin (value : String) : Option (String × String) :=
  match (value.toList.splitOn '@').map String.ofList with
  | [version, digest] => if versionPattern version && digestPattern digest then some (version, digest) else none
  | _ => none

/-- the lines with the pin in place of the assignment, or behind the others if there is none -/
def pinLines (name : String) (pin : Bytes) (lines : List Bytes) : List Bytes :=
  if lines.countP (assigns name) == 0 then (if lines == [[]] then [] else lines) ++ [pin]
  else lines.map fun line => if assigns name line then pin else line

/-- `strings.TrimRight(text, "\n")`, then one newline -/
def endLine (text : Bytes) : Bytes := (text.reverse.dropWhile (· == 10)).reverse ++ [10]

/-- `updateVersionEnv`; a value that passes is an ASCII text -/
def updateVersionEnv (original : Bytes) (name value : String) : Option Bytes :=
  if name != "AUTOSTREAM_DOCKER_VERSION" || (splitPin value).isNone then none
  else if 1 < (envLines original).countP (assigns name) then none
  else
    let lines := pinLines name (textBytes (name ++ "=" ++ value)) (envLines original)
    some (endLine ([10].intercalate lines))

/-- one line of `parseVersionEnvPin`: the value found so far, unless there is a second one -/
def pinStep (name : String) (found line : Bytes) : Option Bytes :=
  if assigns name line then
    if found != [] then none else some ((trimBytes line).drop (textBytes (name ++ "=")).length)
  else some found

/-- `parseVersionEnvPin`; the patterns accept ASCII characters only -/
def parseVersionEnvPin (data : Bytes) (name : String) : Option (String × String) :=
  ((envLines data).foldlM (pinStep name) []).bind fun found => splitPin (String.ofList (found.map byteChar))

/-! ## Repository digests -/

/-- the two halves of a repository digest, in lower case -/
def splitRepoDigest (value : String) : Option (String × String) :=
  match ((toLower (trimSpace value)).toList.splitOn '@').map String.ofList with
  | [repo, digest] => some (repo, digest)
  | _ => none

/-- `repositoryDigest`, on the decoded list of repository digests -/
def repositoryDigest (values : Option (List String)) (imageRepo : String) : Option String :=
  (values.getD []).findSome? fun value => match splitRepoDigest value with
    | some (repo, digest) => if repo == toLower imageRepo && digestPattern digest then some digest else none
    | none => none

/-- `repositoryHasDigest`, on the decoded list of repository digests -/
def repositoryHasDigest (values : Option (List String)) (imageRepo expectedDigest : String) : Bool :=
  digestPattern (toLower (trimSpace expectedDigest)) && (values.getD []).any fun value =>
    splitRepoDigest value == some (toLower (trimSpace imageRepo), toLower (trimSpace expectedDigest))

example : splitRepoDigest " Ghcr.io/A@sha256:0 " = some ("ghcr.io/a", "sha256:0") := by decide

end AutostreamUpdater.Software
