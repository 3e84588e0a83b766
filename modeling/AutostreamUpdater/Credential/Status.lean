/-
The runtime credential of the host agent and the record of its rotation.

A rotation replaces the token in the agent's identity file. The root-owned record (`RuntimeCredentialStatus`) says how far
it has come: prepared, bound, staged, acknowledged, proved, activated, or ended by a cancellation, an expiry or a manual
recovery. `validate` and `validateRootTokenBindings` are the checks made on every read and write of the record.

SHA-256 and the YAML codec of an identity are fields of `CredentialEnv`.
-/
import AutostreamUpdater.Contract.PortPlan

namespace AutostreamUpdater.Credential

open Contract

/-- `Config`: the four fields of an agent identity -/
structure Config where
  panelURL : String
  nodeID : String
  runtimeToken : String
  serviceName : String
  deriving DecidableEq, Repr

/-- what the credential code uses from outside its own logic -/
structure CredentialEnv where
  /-- hex SHA-256 of a byte string -/
  sha256 : Bytes → String
  /-- `decodeManagedBootstrapConfig` -/
  decodeIdentity : Bytes → Option Config
  /-- `marshalManagedBootstrapConfig` -/
  marshalIdentity : Config → Option Bytes

variable (E : CredentialEnv)

/-- `runtimeCredentialDigest` -/
def runtimeCredentialDigest (data : Bytes) : String := "sha256:" ++ E.sha256 data

/-- `runtimeCredentialTokenDigest` -/
def runtimeCredentialTokenDigest (token : String) : String := runtimeCredentialDigest E token.toUTF8.toList

/-- the phases of a rotation record -/
inductive Phase where
  | claimPrepared | stageBound | staged | localStaged | proofReady | activated | cancelReady | cancelled | expired
  | manualRecovered
  deriving DecidableEq, Repr

def runtimeCredentialStateSchemaVersion : ℤ := 2
def localExecutorMutationProtocolVersion : ℤ := 2

/-- 24 hours in nanoseconds -/
def runtimeCredentialStagedMaxAge : ℕ := 24 * 3600 * 10 ^ 9

/-- `configMaxBytes` -/
def configMaxBytes : ℕ := 2 ^ 20

/-- `RuntimeCredentialStatus`; times are nanoseconds since the zero time, in UTC -/
structure RuntimeCredentialStatus where
  schemaVersion : ℤ := runtimeCredentialStateSchemaVersion
  phase : Phase
  rotationID : String
  serviceID : String
  executionHostID : String
  previousTokenID : String
  stagedTokenID : String
  rotationRevision : ℤ
  ownershipEpoch : ℤ
  sourcePolicyRevision : ℤ
  projectionRevision : ℤ
  localExecutorPolicyRevision : ℤ
  stagedIdentitySHA256 : String
  previousIdentitySHA256 : String
  activeIdentitySHA256 : String := ""
  localExecutorPolicySHA256 : String
  executorVersion : String
  executorProtocolVersion : ℤ := localExecutorMutationProtocolVersion
  mutationProtocolVersion : ℤ := localExecutorMutationProtocolVersion
  localStageReceiptID : String := ""
  stagedExpiresAt : ℕ
  previousRuntimeTokenSHA256 : String
  stagedRuntimeTokenSHA256 : String := ""
  activeRuntimeTokenSHA256 : String := ""
  serviceName : String
  deriving DecidableEq, Repr

namespace RuntimeCredentialStatus

variable (s : RuntimeCredentialStatus)

/-- the identities, revisions and digests of every record -/
def bindingValid : Bool :=
  s.schemaVersion == runtimeCredentialStateSchemaVersion && identifierPattern s.rotationID &&
    identifierPattern s.serviceID && validExecutionHostID s.executionHostID && identifierPattern s.previousTokenID &&
    identifierPattern s.stagedTokenID && s.previousTokenID != s.stagedTokenID && 1 ≤ s.rotationRevision &&
    1 ≤ s.ownershipEpoch && 1 ≤ s.sourcePolicyRevision && 1 ≤ s.projectionRevision &&
    1 ≤ s.localExecutorPolicyRevision && digestPattern s.stagedIdentitySHA256 &&
    digestPattern s.previousIdentitySHA256 && digestPattern s.localExecutorPolicySHA256 &&
    versionPattern s.executorVersion && s.executorProtocolVersion == localExecutorMutationProtocolVersion &&
    s.mutationProtocolVersion == localExecutorMutationProtocolVersion && s.stagedExpiresAt != 0 &&
    [s.rotationID, s.serviceID, s.executionHostID, s.previousTokenID, s.stagedTokenID].all fun v => trimSpace v == v

/-- what each phase asks of the receipt and the identity digests -/
def phaseValid : Bool :=
  match s.phase with
  | .claimPrepared => s.localStageReceiptID == "" && s.activeIdentitySHA256 == "" &&
      s.stagedIdentitySHA256 == runtimeCredentialDigest E []
  | .stageBound | .staged => s.localStageReceiptID == "" && s.activeIdentitySHA256 == ""
  | .localStaged | .proofReady => identifierPattern s.localStageReceiptID && s.activeIdentitySHA256 == ""
  | .activated => s.activeIdentitySHA256 == s.stagedIdentitySHA256 && identifierPattern s.localStageReceiptID
  | .cancelReady | .cancelled | .expired => s.activeIdentitySHA256 == s.previousIdentitySHA256
  | .manualRecovered => digestPattern s.activeIdentitySHA256 && s.activeIdentitySHA256 != s.previousIdentitySHA256 &&
      s.activeIdentitySHA256 != s.stagedIdentitySHA256

/-- `Validate` -/
def validate : Bool := s.bindingValid && s.phaseValid E

/-- what each phase asks of the token digests -/
def tokenPhaseValid : Bool :=
  match s.phase with
  | .claimPrepared => true
  | .stageBound | .staged | .localStaged | .proofReady => digestPattern s.stagedRuntimeTokenSHA256
  | .activated => digestPattern s.stagedRuntimeTokenSHA256 && s.activeRuntimeTokenSHA256 == s.stagedRuntimeTokenSHA256
  | .cancelReady | .cancelled | .expired => s.activeRuntimeTokenSHA256 == s.previousRuntimeTokenSHA256
  | .manualRecovered => digestPattern s.activeRuntimeTokenSHA256 &&
      s.activeRuntimeTokenSHA256 != s.previousRuntimeTokenSHA256 &&
      (s.stagedRuntimeTokenSHA256 == "" || s.activeRuntimeTokenSHA256 != s.stagedRuntimeTokenSHA256)

/-- `validateRootTokenBindings` -/
def validateRootTokenBindings : Bool :=
  digestPattern s.previousRuntimeTokenSHA256 &&
    (s.stagedRuntimeTokenSHA256 == "" || digestPattern s.stagedRuntimeTokenSHA256) &&
    s.serviceName.utf8ByteSize ≤ 255 && s.tokenPhaseValid

/-- the checks of `loadStatus` and `saveStatus` -/
def sound : Bool := s.validate E && s.validateRootTokenBindings

/-- the record of an expired rotation: the active identity is the previous one -/
def expire : RuntimeCredentialStatus :=
  { s with phase := .expired, activeIdentitySHA256 := s.previousIdentitySHA256,
           activeRuntimeTokenSHA256 := s.previousRuntimeTokenSHA256 }

/-- the record of an activated rotation: the active identity is the staged one -/
def activate (revision : ℤ) : RuntimeCredentialStatus :=
  { s with phase := .activated, rotationRevision := revision, activeIdentitySHA256 := s.stagedIdentitySHA256,
           activeRuntimeTokenSHA256 := s.stagedRuntimeTokenSHA256 }

end RuntimeCredentialStatus

/-- the phases from which a rotation only ends -/
def Phase.ended : Phase → Bool
  | .cancelReady | .expired | .manualRecovered => true
  | _ => false

/-- the phases before the staged file is on record -/
def Phase.unstaged : Phase → Bool
  | .claimPrepared | .stageBound => true
  | _ => false

/-- the phases with a staged file that waits for its activation -/
def Phase.staging : Phase → Bool
  | .staged | .localStaged | .proofReady => true
  | _ => false

end AutostreamUpdater.Credential
