import McServer.ControlPlane.Akamai

set_option autoImplicit false

namespace McServer.ControlPlane

open Domain Store Agent Interleaving

-- A parsed URL as its accessors show it; the parser itself is a parameter.
structure Url where
  scheme : String
  username : String
  password : Option String
  host : Option String
  port : Option Nat
  path : String
  query : Option String
  fragment : Option String
  deriving DecidableEq

structure R2Config where
  accountId : String
  bucket : String
  temporaryCredentialTtlSeconds : Nat
  runtimeEnvironment : List (String × String)

namespace R2Config

def host (accountId : String) : String := accountId ++ ".r2.cloudflarestorage.com"

def repositoryBase (config : R2Config) : String :=
  "s3:https://" ++ host config.accountId ++ "/" ++ config.bucket

end R2Config

def maxRepositoryPrefixChars : Nat := 1024

def isSafePrefixChar (char : Char) : Bool :=
  Text.isAsciiAlphanumeric char || char == '-' || char == '_' || char == '.'

def isSafePrefixSegment (value : String) : Bool :=
  !value.toList.isEmpty && value != "." && value != ".." && value.toList.all isSafePrefixChar

def isValidPrefix (value : String) : Bool :=
  !value.toList.isEmpty && value.toList.getLast? == some '/' && value.toList.head? != some '/' &&
    Text.charCount value ≤ maxRepositoryPrefixChars && !Text.containsNul value

def validatePrefix (value : String) : Except R2TemporaryCredentialError Unit :=
  if isValidPrefix value then .ok () else .error (.invalidPrefix value)

-- `Vec::pop` of one trailing empty segment.
def dropTrailingEmpty (segments : List String) : List String :=
  if segments.getLast? = some "" then segments.dropLast else segments

def Url.isR2Endpoint (url : Url) (accountId : String) : Bool :=
  url.scheme == "https" && url.host == some (R2Config.host accountId) && url.port.isNone &&
    url.username.toList.isEmpty && url.password.isNone && url.query.isNone && url.fragment.isNone

def prefixOfSegments (repository bucket : String) (segments : List String) :
    Except R2TemporaryCredentialError String :=
  match segments with
  | [] => .error (.repositoryBucketMismatch bucket)
  | first :: rest =>
      if first ≠ bucket then .error (.repositoryBucketMismatch bucket)
      else
        let segments := dropTrailingEmpty rest
        if segments.isEmpty || !segments.all isSafePrefixSegment then
          .error (.unsafeRepositoryPrefix repository)
        else
          let joined := "/".intercalate segments ++ "/"
          (validatePrefix joined).map fun _ => joined

def repositoryPrefix (parseUrl : String → Option Url) (repository accountId bucket : String) :
    Except R2TemporaryCredentialError String :=
  match (Text.stripStart "s3:" repository).bind parseUrl with
  | none => .error (.unsupportedRepository repository)
  | some url =>
      if !url.isR2Endpoint accountId then .error (.unsupportedRepository repository)
      else
        let path := (Text.stripStart "/" url.path).getD url.path
        if path.toList.contains '%' then .error (.unsupportedRepository repository)
        else prefixOfSegments repository bucket (Text.splitAt '/' path)

structure R2TemporaryCredentialManager where
  config : R2Config
  parseUrl : String → Option Url

namespace R2TemporaryCredentialManager

variable (manager : R2TemporaryCredentialManager)

def issue (compute : ComputeInstanceId) (keyPrefix : String) (ttlSeconds : Nat) :
    Flow R2TemporaryCredentialError R2TemporaryCredentials := do
  Try.ofExcept (validatePrefix keyPrefix)
  (Prog.perform (Op.issueCredentials compute keyPrefix ttlSeconds) :
    Flow R2TemporaryCredentialError R2TemporaryCredentials)

def insertKey (environment : List (String × String)) (key value : String) :
    Except R2TemporaryCredentialError (List (String × String)) :=
  if (environment.lookup key).isSome then .error (.reservedRuntimeKey key)
  else .ok (environment ++ [(key, value)])

def runtimeEnvironment (config : R2Config) (credentials : R2TemporaryCredentials) :
    Except R2TemporaryCredentialError (List (String × String)) := do
  let environment ← insertKey config.runtimeEnvironment "AWS_ACCESS_KEY_ID" credentials.accessKeyId
  let environment ← insertKey environment "AWS_SECRET_ACCESS_KEY" credentials.secretAccessKey
  insertKey environment "AWS_SESSION_TOKEN" credentials.sessionToken

-- The compute is not part of the request to the provider: it says whose registration asked.
def runtimeEnvironmentForRepository (compute : ComputeInstanceId) (repository : String) :
    Flow R2TemporaryCredentialError (List (String × String)) := do
  let keyPrefix ← Try.ofExcept
    (repositoryPrefix manager.parseUrl repository manager.config.accountId manager.config.bucket)
  let credentials ← issue compute keyPrefix manager.config.temporaryCredentialTtlSeconds
  Try.ofExcept (runtimeEnvironment manager.config credentials)

end R2TemporaryCredentialManager

def asciiLowercase (value : String) : String := String.ofList (value.toList.map Char.toLower)

-- Labels of letters and digits, the last of them no number: such a host is a domain.
def isPlainHost (host : String) : Bool :=
  let labels := Text.splitAt '.' host
  host.toList.all (fun char => char == '.' || Text.isAsciiAlphanumeric char) &&
    labels.all (fun label => !label.toList.isEmpty) &&
    labels.getLast?.any fun label => label.toList.all Text.isAsciiAlphabetic

-- A path in which there is nothing to encode.
def isPlainPath (path : String) : Bool :=
  path.toList.head? == some '/' &&
    path.toList.all fun char => char == '/' || isSafePrefixChar char

def hasDotSegment (path : String) : Bool :=
  (Text.splitAt '/' path).any fun segment => segment == "." || segment == ".."

-- WHATWG parsing of the URLs in question: the host is lowercased, and a path without dot segments is
-- left alone.
structure Whatwg (parseUrl : String → Option Url) : Prop where
  parses : ∀ host path, isPlainHost host = true → isPlainPath path = true → ∃ url,
    parseUrl ("https://" ++ host ++ path) = some url ∧ url.scheme = "https" ∧
      url.host = some (asciiLowercase host) ∧ url.port = none ∧ url.username = "" ∧
      url.password = none ∧ url.query = none ∧ url.fragment = none ∧
      (hasDotSegment path = false → url.path = path)

namespace Sample

-- Enough of a parser: a host and a path without anything to encode.
def parseHttps (text : String) : Option Url :=
  (Text.stripStart "https://" text).map fun rest =>
    { scheme := "https", username := "", password := none, port := none, query := none, fragment := none
      host := some (asciiLowercase (String.ofList (rest.toList.takeWhile (· ≠ '/'))))
      path := String.ofList (rest.toList.dropWhile (· ≠ '/')) }

theorem parseHttps_whatwg : Whatwg parseHttps := by
  constructor
  intro host path plainHost plainPath
  simp only [isPlainHost, isPlainPath, Bool.and_eq_true, List.all_eq_true] at plainHost plainPath
  have unslashed : ∀ char ∈ host.toList, (decide (char ≠ '/')) = true := by
    intro char member
    have accepted := plainHost.1.1 char member
    rw [decide_eq_true_eq]
    rintro rfl
    exact absurd accepted (by decide)
  obtain ⟨rest, opens⟩ : ∃ rest, path.toList = '/' :: rest := by
    cases chars : path.toList with
    | nil => simp [chars] at plainPath
    | cons head rest =>
      rw [chars] at plainPath
      exact ⟨rest, by simpa using plainPath.1⟩
  have before : (host ++ path).toList.takeWhile (· ≠ '/') = host.toList := by
    rw [String.toList_append, List.takeWhile_append_of_pos unslashed, opens]
    simp
  have after : (host ++ path).toList.dropWhile (· ≠ '/') = path.toList := by
    rw [String.toList_append, List.dropWhile_append_of_pos unslashed, opens]
    simp
  refine ⟨_, by rw [String.append_assoc, parseHttps, Text.stripStart_append, Option.map_some], rfl, ?_, rfl,
    rfl, rfl, rfl, rfl, fun _ => ?_⟩
  · simp only [before, String.ofList_toList]
  · simp only [after, String.ofList_toList]

end Sample

end McServer.ControlPlane
