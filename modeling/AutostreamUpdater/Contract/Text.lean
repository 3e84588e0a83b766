/-
The text checks of the host runtime: the anchored regular expressions it compiles once (`identifierPattern`,
`digestPattern`, `versionPattern`, `mutationPlanHashPattern`, `mutationSessionPattern`, `dockerContainerIDPattern`), the
host-id check, digest normalisation, and the white-space trimming that many checks apply first. Every pattern is a plain
function on the characters of the text, so a concrete value can be checked by evaluation.
-/
import Mathlib.Tactic

namespace AutostreamUpdater.Contract

abbrev Bytes := List UInt8

/-- the bytes of an ASCII text -/
def textBytes (s : String) : Bytes := s.toList.map fun c => UInt8.ofNat c.toNat

/-- the character of an ASCII byte -/
def byteChar (b : UInt8) : Char := Char.ofNat b.toNat

/-- `unicode.IsSpace` -/
def isSpace (c : Char) : Bool :=
  [0x09, 0x0a, 0x0b, 0x0c, 0x0d, 0x20, 0x85, 0xa0, 0x1680, 0x2028, 0x2029, 0x202f, 0x205f, 0x3000].contains c.toNat ||
    (0x2000 ≤ c.toNat && c.toNat ≤ 0x200a)

/-- `strings.TrimSpace` -/
def trimSpace (s : String) : String :=
  String.ofList (((s.toList.dropWhile isSpace).reverse.dropWhile isSpace).reverse)

/-- `strings.ToLower` on the ASCII letters, all that the digests it is applied to can hold -/
def toLower (s : String) : String := String.ofList (s.toList.map Char.toLower)

def isDigit (c : Char) : Bool := '0' ≤ c && c ≤ '9'
def isAlnum (c : Char) : Bool := isDigit c || ('a' ≤ c && c ≤ 'z') || ('A' ≤ c && c ≤ 'Z')
def isHex (c : Char) : Bool := isDigit c || ('a' ≤ c && c ≤ 'f')

/-- `[A-Za-z0-9._:-]` -/
def isIdentChar (c : Char) : Bool := isAlnum c || c == '.' || c == '_' || c == ':' || c == '-'

/-- `^[A-Za-z0-9][A-Za-z0-9._:-]{lo,hi}$` -/
def identLike (lo hi : ℕ) (s : String) : Bool :=
  match s.toList with
  | [] => false
  | c :: cs => isAlnum c && cs.all isIdentChar && lo ≤ cs.length && cs.length ≤ hi

/-- `^[A-Za-z0-9][A-Za-z0-9._:-]{0,127}$` -/
def identifierPattern (s : String) : Bool := identLike 0 127 s

/-- `^[A-Za-z0-9][A-Za-z0-9._:-]{15,127}$` -/
def mutationSessionPattern (s : String) : Bool := identLike 15 127 s

/-- `^[a-f0-9]{64}$` -/
def mutationPlanHashPattern (s : String) : Bool := s.toList.length == 64 && s.toList.all isHex

/-- `^sha256:[0-9a-f]{64}$` -/
def digestPattern (s : String) : Bool :=
  s.toList.take 7 == "sha256:".toList && s.toList.length == 71 && (s.toList.drop 7).all isHex

/-- `^[0-9a-f]{12,64}$` -/
def dockerContainerIDPattern (s : String) : Bool :=
  12 ≤ s.toList.length && s.toList.length ≤ 64 && s.toList.all isHex

/-- `[0-9]+`: the text after a leading run of at least one digit -/
def afterDigits : List Char → Option (List Char)
  | [] => none
  | c :: cs => if isDigit c then some (cs.dropWhile isDigit) else none

/-- `[0-9A-Za-z]+(?:[.-][0-9A-Za-z]+)*`, where `open_` says that the last character read was alphanumeric -/
def releaseSuffix (open_ : Bool) : List Char → Bool
  | [] => open_
  | c :: cs => if isAlnum c then releaseSuffix true cs else open_ && (c == '.' || c == '-') && releaseSuffix false cs

/-- the character `d` and then what follows it -/
def afterChar (d : Char) : List Char → Option (List Char)
  | [] => none
  | c :: cs => if c == d then some cs else none

/-- `^v[0-9]+\.[0-9]+\.[0-9]+(?:-[0-9A-Za-z]+(?:[.-][0-9A-Za-z]+)*)?$` -/
def versionPattern (s : String) : Bool :=
  let core := (afterChar 'v' s.toList).bind afterDigits |>.bind (afterChar '.') |>.bind afterDigits
    |>.bind (afterChar '.') |>.bind afterDigits
  match core with
  | none => false
  | some [] => true
  | some (c :: cs) => c == '-' && releaseSuffix false cs

def validExecutionHostID (s : String) : Bool :=
  match (trimSpace s).toList with
  | [] => false
  | c :: cs => isAlnum c && cs.all isIdentChar && cs.length + 1 ≤ 191

def normalizeDigest (digest : String) : String :=
  let d := trimSpace (toLower digest)
  if d.toList.length == 64 && !(d.toList.take 7 == "sha256:".toList) then "sha256:" ++ d else d

def canonicalReportDigest (value : String) : String :=
  let v := normalizeDigest value
  if v != "" && !digestPattern v then "" else v

/-- `safeExecutorMessage`; every message in use is ASCII, so bytes and characters agree -/
def safeExecutorMessage (value : String) : Bool :=
  !(trimSpace value == "") && value.toList.length ≤ 500 && value.toList.all fun c => 0x20 ≤ c.toNat && c.toNat != 0x7f

/-- `validBoundedSecret` -/
def validBoundedSecret (value : String) : Bool :=
  1 ≤ value.toList.length && value.toList.length ≤ 16 * 1024 &&
    value.toList.all fun c => 0x21 ≤ c.toNat && c.toNat ≤ 0x7e

/-- the service name a Docker release uses for a service type -/
def dockerManifestService (serviceType : String) : String :=
  if serviceType == "control_panel" then "control-panel"
  else if serviceType == "encoder_recorder" then "encoder-recorder"
  else if serviceType == "discord_bot" then "discord-bot"
  else serviceType

example : versionPattern "v1.9.11-rc.1" = true := by decide
example : versionPattern "v1.9.11-" = false := by decide

end AutostreamUpdater.Contract
