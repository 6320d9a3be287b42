import McServer.ControlPlane.Credentials

set_option autoImplicit false

namespace McServer.ControlPlane.Config

open Domain

inductive Variable where
  | socket
  | databaseUrl
  | socketMode
  | maxFrameBytes
  | reconcileIntervalSeconds
  | reconcileRetrySeconds
  | shutdownTimeoutSeconds
  | agentListenAddress
  | agentCommandTimeoutSeconds
  | nodeAgentBinary
  | nodeAgentRoot
  | podmanBinary
  | localScope
  | reapOrphansOnStart
  | localControlTimeoutSeconds
  | localProcessStopTimeoutSeconds
  | remoteAgentListenAddress
  | remoteAgentPublicAddress
  | remoteAgentTlsServerName
  | remoteAgentTlsCertificate
  | remoteAgentTlsPrivateKey
  | remoteAgentTlsCaCertificate
  | agentClientCaCertificate
  | agentClientCaPrivateKey
  | agentCertificateWorkDirectory
  | agentCertificateValiditySeconds
  | opensslBinary
  | agentTrustDomain
  | nodeAgentDownloadUrl
  | nodeAgentSha256
  | akamaiApiToken
  | akamaiApiTokenFile
  | akamaiApiBaseUrl
  | akamaiAuthorizedKeysFile
  | akamaiScope
  | akamaiRequestTimeoutSeconds
  | akamaiReapOrphansOnStart
  | akamaiLiveEnabled
  | akamaiAllowedRegions
  | akamaiAllowedImages
  | akamaiAllowedInstanceTypes
  | akamaiAllowedFirewallIds
  | akamaiMaxActiveInstances
  | akamaiMaxInstanceLifetimeSeconds
  | r2ApiToken
  | r2ApiTokenFile
  | r2ApiBaseUrl
  | r2AccountId
  | r2ParentAccessKeyId
  | r2Bucket
  | r2TemporaryCredentialTtlSeconds
  | r2RuntimeEnvironmentFile
  | r2RequestTimeoutSeconds
  deriving DecidableEq, Repr

def Variable.name : Variable → String
  | .socket => "MCSERVER_CONTROL_PLANE_SOCKET"
  | .databaseUrl => "MCSERVER_CONTROL_PLANE_DATABASE_URL"
  | .socketMode => "MCSERVER_CONTROL_PLANE_SOCKET_MODE"
  | .maxFrameBytes => "MCSERVER_CONTROL_PLANE_MAX_FRAME_BYTES"
  | .reconcileIntervalSeconds => "MCSERVER_CONTROL_PLANE_RECONCILE_INTERVAL_SECONDS"
  | .reconcileRetrySeconds => "MCSERVER_CONTROL_PLANE_RECONCILE_RETRY_SECONDS"
  | .shutdownTimeoutSeconds => "MCSERVER_CONTROL_PLANE_SHUTDOWN_TIMEOUT_SECONDS"
  | .agentListenAddress => "MCSERVER_CONTROL_PLANE_AGENT_LISTEN_ADDRESS"
  | .agentCommandTimeoutSeconds => "MCSERVER_CONTROL_PLANE_AGENT_COMMAND_TIMEOUT_SECONDS"
  | .nodeAgentBinary => "MCSERVER_CONTROL_PLANE_NODE_AGENT_BINARY"
  | .nodeAgentRoot => "MCSERVER_CONTROL_PLANE_NODE_AGENT_ROOT"
  | .podmanBinary => "MCSERVER_CONTROL_PLANE_PODMAN_BINARY"
  | .localScope => "MCSERVER_CONTROL_PLANE_LOCAL_SCOPE"
  | .reapOrphansOnStart => "MCSERVER_CONTROL_PLANE_REAP_ORPHANS_ON_START"
  | .localControlTimeoutSeconds => "MCSERVER_CONTROL_PLANE_LOCAL_CONTROL_TIMEOUT_SECONDS"
  | .localProcessStopTimeoutSeconds => "MCSERVER_CONTROL_PLANE_LOCAL_PROCESS_STOP_TIMEOUT_SECONDS"
  | .remoteAgentListenAddress => "MCSERVER_CONTROL_PLANE_REMOTE_AGENT_LISTEN_ADDRESS"
  | .remoteAgentPublicAddress => "MCSERVER_CONTROL_PLANE_REMOTE_AGENT_PUBLIC_ADDRESS"
  | .remoteAgentTlsServerName => "MCSERVER_CONTROL_PLANE_REMOTE_AGENT_TLS_SERVER_NAME"
  | .remoteAgentTlsCertificate => "MCSERVER_CONTROL_PLANE_REMOTE_AGENT_TLS_CERTIFICATE"
  | .remoteAgentTlsPrivateKey => "MCSERVER_CONTROL_PLANE_REMOTE_AGENT_TLS_PRIVATE_KEY"
  | .remoteAgentTlsCaCertificate => "MCSERVER_CONTROL_PLANE_REMOTE_AGENT_TLS_CA_CERTIFICATE"
  | .agentClientCaCertificate => "MCSERVER_CONTROL_PLANE_AGENT_CLIENT_CA_CERTIFICATE"
  | .agentClientCaPrivateKey => "MCSERVER_CONTROL_PLANE_AGENT_CLIENT_CA_PRIVATE_KEY"
  | .agentCertificateWorkDirectory => "MCSERVER_CONTROL_PLANE_AGENT_CERTIFICATE_WORK_DIRECTORY"
  | .agentCertificateValiditySeconds => "MCSERVER_CONTROL_PLANE_AGENT_CERTIFICATE_VALIDITY_SECONDS"
  | .opensslBinary => "MCSERVER_CONTROL_PLANE_OPENSSL_BINARY"
  | .agentTrustDomain => "MCSERVER_CONTROL_PLANE_AGENT_TRUST_DOMAIN"
  | .nodeAgentDownloadUrl => "MCSERVER_CONTROL_PLANE_NODE_AGENT_DOWNLOAD_URL"
  | .nodeAgentSha256 => "MCSERVER_CONTROL_PLANE_NODE_AGENT_SHA256"
  | .akamaiApiToken => "MCSERVER_AKAMAI_API_TOKEN"
  | .akamaiApiTokenFile => "MCSERVER_AKAMAI_API_TOKEN_FILE"
  | .akamaiApiBaseUrl => "MCSERVER_AKAMAI_API_BASE_URL"
  | .akamaiAuthorizedKeysFile => "MCSERVER_AKAMAI_AUTHORIZED_KEYS_FILE"
  | .akamaiScope => "MCSERVER_AKAMAI_SCOPE"
  | .akamaiRequestTimeoutSeconds => "MCSERVER_AKAMAI_REQUEST_TIMEOUT_SECONDS"
  | .akamaiReapOrphansOnStart => "MCSERVER_AKAMAI_REAP_ORPHANS_ON_START"
  | .akamaiLiveEnabled => "MCSERVER_AKAMAI_LIVE_ENABLED"
  | .akamaiAllowedRegions => "MCSERVER_AKAMAI_ALLOWED_REGIONS"
  | .akamaiAllowedImages => "MCSERVER_AKAMAI_ALLOWED_IMAGES"
  | .akamaiAllowedInstanceTypes => "MCSERVER_AKAMAI_ALLOWED_INSTANCE_TYPES"
  | .akamaiAllowedFirewallIds => "MCSERVER_AKAMAI_ALLOWED_FIREWALL_IDS"
  | .akamaiMaxActiveInstances => "MCSERVER_AKAMAI_MAX_ACTIVE_INSTANCES"
  | .akamaiMaxInstanceLifetimeSeconds => "MCSERVER_AKAMAI_MAX_INSTANCE_LIFETIME_SECONDS"
  | .r2ApiToken => "MCSERVER_R2_API_TOKEN"
  | .r2ApiTokenFile => "MCSERVER_R2_API_TOKEN_FILE"
  | .r2ApiBaseUrl => "MCSERVER_R2_API_BASE_URL"
  | .r2AccountId => "MCSERVER_R2_ACCOUNT_ID"
  | .r2ParentAccessKeyId => "MCSERVER_R2_PARENT_ACCESS_KEY_ID"
  | .r2Bucket => "MCSERVER_R2_BUCKET"
  | .r2TemporaryCredentialTtlSeconds => "MCSERVER_R2_TEMPORARY_CREDENTIAL_TTL_SECONDS"
  | .r2RuntimeEnvironmentFile => "MCSERVER_R2_RUNTIME_ENVIRONMENT_FILE"
  | .r2RequestTimeoutSeconds => "MCSERVER_R2_REQUEST_TIMEOUT_SECONDS"

inductive ConfigError where
  | invalidInteger (name : Variable) (value : String)
  | invalidSocketMode (value : String)
  | socketModeOutOfRange (mode : Nat)
  | zeroValue (name : Variable)
  | durationOutOfRange (name : Variable)
  | missingValue (name : Variable)
  | blankValue (name : Variable)
  | nulByte (name : Variable)
  | valueTooLong (name : Variable) (maximum : Nat)
  | invalidScope (name : Variable) (value : String)
  | invalidIdentifierSet (name : Variable) (value : String)
  | invalidPositiveIntegerSet (name : Variable) (value : String)
  | invalidBoolean (name : Variable) (value : String)
  | invalidSocketAddress
  | invalidRemoteSocketAddress
  | agentAddressMustBeLoopback
  | zeroAgentPort
  | zeroRemoteAgentPort
  | invalidRemotePublicAddress (value : String)
  | remoteAgentListenAddressRequired
  | akamaiTokenRequired
  | remoteAgentRequiredForAkamai
  | r2RequiredForAkamai
  | akamaiRequiredForR2
  | r2TokenRequired
  | conflictingSecretSources (direct file : Variable)
  | secretFile (name : Variable) (path : String)
  | runtimeEnvironmentFile (path : String)
  | runtimeEnvironmentTooLarge (path : String) (maximum : Nat)
  | runtimeEnvironmentEncoding
  | invalidRuntimeEnvironmentLine (number : Nat)
  | invalidRuntimeEnvironmentKey (key : String)
  | invalidRuntimeEnvironmentValue (key : String)
  | duplicateRuntimeEnvironmentKey (key : String)
  | emptyRuntimeEnvironment
  | tooManyRuntimeEnvironmentEntries (maximum : Nat)
  | missingRequiredRuntimeEnvironmentKey (key : String)
  | blankRequiredRuntimeEnvironmentValue (key : String)
  | invalidR2Region
  | invalidTlsServerName (value : String)
  | invalidUrl (name : Variable)
  | httpsRequired (name : Variable)
  | invalidAkamaiApiBaseUrl (value : String)
  | invalidR2ApiBaseUrl (value : String)
  | invalidR2AccountId (value : String)
  | invalidR2Bucket (value : String)
  | r2CredentialTtlTooLong (maximum : Nat)
  | r2CredentialTtlTooShort (configured minimum : Nat)
  | akamaiScopeTooLong (maximum : Nat)
  | agentCertificateValidityTooShort (certificateValidity minimum : Nat)
  | invalidSha256 (value : String)
  deriving DecidableEq

-- `str::split_once`
def splitOnce (separator value : String) : Option (String × String) :=
  go [] value.toList
where
  go (before : List Char) : List Char → Option (String × String)
    | [] => none
    | char :: rest =>
        if separator.toList.isPrefixOf (char :: rest) then
          some (String.ofList before.reverse,
            String.ofList ((char :: rest).drop separator.toList.length))
        else go (char :: before) rest

theorem splitOnce_go {separator : String} {chars before : List Char} {key rest : String}
    (found : splitOnce.go separator before chars = some (key, rest)) :
    before.reverse ++ chars = key.toList ++ separator.toList ++ rest.toList := by
  induction chars generalizing before with
  | nil => simp [splitOnce.go] at found
  | cons char others ih =>
    unfold splitOnce.go at found
    by_cases opens : separator.toList.isPrefixOf (char :: others) = true
    · rw [if_pos opens] at found
      obtain ⟨rfl, rfl⟩ := Prod.mk.inj (Option.some.inj found)
      obtain ⟨remaining, whole⟩ := List.isPrefixOf_iff_prefix.mp opens
      simp [← whole]
    · rw [if_neg opens] at found
      simpa using ih found

theorem splitOnce_append {key : String} (rest : String) (plain : '=' ∉ key.toList) :
    splitOnce "=" (key ++ "=" ++ rest) = some (key, rest) := by
  have found : ∀ (chars before : List Char), '=' ∉ chars →
      splitOnce.go "=" before (chars ++ '=' :: rest.toList) =
        some (String.ofList (before.reverse ++ chars), rest) := by
    intro chars
    induction chars with
    | nil =>
      intro before _
      simp [splitOnce.go]
    | cons char others ih =>
      intro before plain
      have differs : '=' ≠ char := fun same => plain (List.mem_cons.mpr (.inl same))
      have later := ih (char :: before) fun member => plain (List.mem_cons.mpr (.inr member))
      simpa [splitOnce.go, differs] using later
  have whole : (key ++ "=" ++ rest).toList = key.toList ++ '=' :: rest.toList := by simp
  rw [splitOnce, whole, found key.toList [] plain]
  simp

-- `str::rsplit_once` at one character
def rsplitOnce (separator : Char) (value : String) : Option (String × String) :=
  match (Text.splitAt separator value).reverse with
  | last :: before :: earlier =>
      some ((String.singleton separator).intercalate (before :: earlier).reverse, last)
  | _ => none

-- `str::lines`, of which the one carriage return before a line feed is left for the caller to remove.
def lines (value : String) : List String :=
  let pieces := Text.splitAt '\n' value
  if pieces.getLast? = some "" then pieces.dropLast else pieces

-- `trim_end_matches` and `trim_start_matches`
def trimEndMatches (matching : Char → Bool) (value : String) : String :=
  String.ofList (value.toList.rdropWhile matching)

def trimStart (value : String) : String := String.ofList (value.toList.dropWhile Text.isWhitespace)

def isAsciiHexdigit (char : Char) : Bool :=
  Text.isAsciiDigit char || ('a' ≤ char && char ≤ 'f') || ('A' ≤ char && char ≤ 'F')

structure SocketAddr where
  isLoopback : Bool
  port : Nat
  deriving DecidableEq

inductive FileContent where
  | text (value : String)
  -- Bytes that are not UTF-8
  | bytes (length : Nat)
  deriving DecidableEq

def FileContent.size : FileContent → Nat
  | .text value => value.utf8ByteSize
  | .bytes length => length

structure Environment where
  value : Variable → Option String
  file : String → Option FileContent
  parseUrl : String → Option Url
  parseSocketAddr : String → Option SocketAddr
  isLoopbackIp : String → Bool

def validateNonBlank (name : Variable) (value : String) (maximum : Nat) : Except ConfigError Unit :=
  if Text.isBlank value then .error (.blankValue name)
  else if Text.containsNul value then .error (.nulByte name)
  else if maximum < Text.charCount value then .error (.valueTooLong name maximum)
  else .ok ()

def maxScopeChars : Nat := 128
def maxAkamaiScopeChars : Nat := 35
def maxAddressChars : Nat := 512
def maxUrlChars : Nat := 4096
def maxServerNameChars : Nat := 253
def maxSecretChars : Nat := 4096
def maxPathChars : Nat := 4096
def sha256HexChars : Nat := 64

def isScopeChar (char : Char) : Bool :=
  Text.isAsciiAlphanumeric char || char == '.' || char == '_' || char == '-'

def isProviderIdentifierChar (char : Char) : Bool :=
  Text.isAsciiAlphanumeric char || char == '-' || char == '_' || char == '/' || char == '.'

def isProviderIdentifier (value : String) : Bool :=
  !value.toList.isEmpty && value.toList.all isProviderIdentifierChar

def isDnsLabel (label : String) : Bool :=
  !label.toList.isEmpty && label.utf8ByteSize ≤ 63 && label.toList.head? != some '-' &&
    label.toList.getLast? != some '-' &&
    label.toList.all fun char => Text.isAsciiAlphanumeric char || char == '-'

def isDnsName (value : String) : Bool :=
  value.utf8ByteSize ≤ maxServerNameChars && value.toList.head? != some '.' &&
    value.toList.getLast? != some '.' && (Text.splitAt '.' value).all isDnsLabel

def validateDnsName (value : String) : Except ConfigError Unit :=
  if isDnsName value then .ok () else .error (.invalidTlsServerName value)

def isR2AccountId (value : String) : Bool :=
  value.utf8ByteSize = 32 && value.toList.all isAsciiHexdigit

def isR2BucketName (value : String) : Bool :=
  3 ≤ value.utf8ByteSize && value.utf8ByteSize ≤ 63 &&
    value.toList.head?.any Text.isAsciiAlphanumeric &&
    value.toList.getLast?.any Text.isAsciiAlphanumeric &&
    (value.toList.all fun char =>
      Text.isAsciiLowercase char || Text.isAsciiDigit char || char == '-' || char == '.') &&
    !Text.containsText ".." value && !Text.containsText ".-" value && !Text.containsText "-." value

def validateR2BucketName (value : String) : Except ConfigError Unit :=
  if isR2BucketName value then .ok () else .error (.invalidR2Bucket value)

section Variables

variable (environment : Environment)

def optionalString (name : Variable) (default : String) : String := (environment.value name).getD default

def requiredNonBlank (name : Variable) (maximum : Nat) : Except ConfigError String :=
  match environment.value name with
  | none => .error (.missingValue name)
  | some value => do
      validateNonBlank name value maximum
      return value

def requiredPath (name : Variable) : Except ConfigError String := requiredNonBlank environment name maxPathChars

def optionalScope (name : Variable) (default : String) : Except ConfigError String := do
  let value := optionalString environment name default
  validateNonBlank name value maxScopeChars
  if value.toList.all isScopeChar then return value else throw (.invalidScope name value)

-- The pieces of a comma-separated list; what is collected is a set, of which only the members matter.
def pieces (raw : String) : List String :=
  ((Text.splitAt ',' raw).map Text.trim).filter fun value => !value.toList.isEmpty

def parseIdentifierSet (name : Variable) (default : String) : Except ConfigError (List String) :=
  let raw := optionalString environment name default
  let values := pieces raw
  if values.isEmpty || values.any (fun value => !isProviderIdentifier value) then
    .error (.invalidIdentifierSet name raw)
  else .ok values

def parsePositiveU64Set (name : Variable) : Except ConfigError (List Nat) := do
  let raw ← requiredNonBlank environment name 4096
  match (pieces raw).mapM Text.parseU64 with
  | some values =>
      if !values.isEmpty && !values.contains 0 then return values
      else throw (.invalidPositiveIntegerSet name raw)
  | none => throw (.invalidPositiveIntegerSet name raw)

-- Sizes and numbers of seconds alike are 64-bit.
def parsePositive (name : Variable) (default : Nat) : Except ConfigError Nat := do
  let value ← match environment.value name with
    | some value =>
        match Text.parseU64 value with
        | some parsed => .ok parsed
        | none => .error (.invalidInteger name value)
    | none => .ok default
  if value = 0 then throw (.zeroValue name) else return value

def parsePositiveUsize (name : Variable) (default : Nat) : Except ConfigError Nat :=
  parsePositive environment name default

-- In seconds
def parsePositiveDuration (name : Variable) (default : Nat) : Except ConfigError Nat :=
  parsePositive environment name default

def parseBool (name : Variable) (default : Bool) : Except ConfigError Bool :=
  match environment.value name with
  | none => .ok default
  | some value =>
      if value ∈ ["1", "true", "TRUE", "yes", "YES"] then .ok true
      else if value ∈ ["0", "false", "FALSE", "no", "NO"] then .ok false
      else .error (.invalidBoolean name value)

-- `trim_start_matches("0o")`
def trimOctalMark : List Char → List Char
  | '0' :: 'o' :: rest => trimOctalMark rest
  | chars => chars

-- `u32::from_str_radix(_, 8)`
def parseOctal (chars : List Char) : Option Nat :=
  let digits := match chars with
    | '+' :: rest => rest
    | chars => chars
  if digits.isEmpty || !digits.all (fun char => '0' ≤ char && char ≤ '7') then none
  else if Nat.ofDigitChars 8 digits 0 < 2 ^ 32 then some (Nat.ofDigitChars 8 digits 0)
  else none

def defaultSocketMode : Nat := 0o660

def parseSocketMode (value : Option String) : Except ConfigError Nat := do
  let mode ← match value with
    | some value =>
        match parseOctal (trimOctalMark value.toList) with
        | some mode => .ok mode
        | none => .error (.invalidSocketMode value)
    | none => .ok defaultSocketMode
  if 0o777 < mode then throw (.socketModeOutOfRange mode) else return mode

-- `str::parse::<u16>`
def parseU16 (value : String) : Option Nat := (Text.parseU64 value).filter (· < 2 ^ 16)

def validateHostPort (value : String) : Except ConfigError Unit :=
  match environment.parseSocketAddr value with
  | some address => if address.port = 0 then .error .zeroRemoteAgentPort else .ok ()
  | none =>
      match rsplitOnce ':' value with
      | none => .error (.invalidRemotePublicAddress value)
      | some (host, port) => do
          validateDnsName host
          match parseU16 port with
          | none => throw (.invalidRemotePublicAddress value)
          | some port => if port = 0 then throw .zeroRemoteAgentPort else return ()

def hasExplicitAuthority (value : String) : Bool :=
  match splitOnce "://" value with
  | none => false
  | some (_, remainder) =>
      !(remainder.toList.takeWhile fun char => char != '/' && char != '?' && char != '#').isEmpty

def validateHttpsUrl (name : Variable) (value : String) : Except ConfigError Unit :=
  match environment.parseUrl value with
  | none => .error (.invalidUrl name)
  | some url =>
      if url.scheme ≠ "https" then .error (.httpsRequired name)
      else if !hasExplicitAuthority value || url.host.isNone || !url.username.toList.isEmpty ||
          url.password.isSome || url.fragment.isSome then .error (.invalidUrl name)
      else .ok ()

def isLoopbackHost (host : String) : Bool :=
  host.toList.map Char.toLower == "localhost".toList ||
    environment.isLoopbackIp (String.ofList ((host.toList.dropWhile (· == '[')).rdropWhile (· == ']')))

-- Whether the API is one on this host
def validateBaseUrl (invalid : String → ConfigError) (value : String) : Except ConfigError Bool :=
  match environment.parseUrl value with
  | none => .error (invalid value)
  | some url =>
      if !hasExplicitAuthority value || !url.username.toList.isEmpty || url.password.isSome ||
          url.query.isSome || url.fragment.isSome then .error (invalid value)
      else
        match url.host with
        | none => .error (invalid value)
        | some host =>
            if url.scheme = "https" then .ok (isLoopbackHost environment host)
            else if url.scheme = "http" && isLoopbackHost environment host then .ok true
            else .error (invalid value)

def validateApiBaseUrl (value : String) : Except ConfigError Bool :=
  validateBaseUrl environment .invalidAkamaiApiBaseUrl value

def validateR2ApiBaseUrl (value : String) : Except ConfigError Bool :=
  validateBaseUrl environment .invalidR2ApiBaseUrl value

def readSecretFile (name : Variable) (path : String) : Except ConfigError String :=
  match environment.file path with
  | some (.text content) => do
      let value := trimEndMatches (fun char => char == '\r' || char == '\n') content
      validateNonBlank name value maxSecretChars
      return value
  | _ => .error (.secretFile name path)

def maxRuntimeEnvironmentBytes : Nat := 64 * 1024
def maxRuntimeEnvironmentEntries : Nat := 64
def maxRuntimeEnvironmentValueChars : Nat := 16 * 1024

def isRuntimeEnvironmentKey (key : String) : Bool := key == "AWS_DEFAULT_REGION"

def isSkipped (line : String) : Bool := Text.isBlank line || (trimStart line).toList.head? == some '#'

def readLine (values : List (String × String)) (number : Nat) (rawLine : String) :
    Except ConfigError (List (String × String)) :=
  let line := trimEndMatches (· == '\r') rawLine
  if isSkipped line then .ok values
  else
    match splitOnce "=" line with
    | none => .error (.invalidRuntimeEnvironmentLine number)
    | some (key, value) =>
        if !isRuntimeEnvironmentKey key then .error (.invalidRuntimeEnvironmentKey key)
        else if Text.containsNul value || maxRuntimeEnvironmentValueChars < Text.charCount value then
          .error (.invalidRuntimeEnvironmentValue key)
        else if (values.lookup key).isSome then .error (.duplicateRuntimeEnvironmentKey key)
        else if maxRuntimeEnvironmentEntries < values.length + 1 then
          .error (.tooManyRuntimeEnvironmentEntries maxRuntimeEnvironmentEntries)
        else .ok (values ++ [(key, value)])

def readLines (values : List (String × String)) (number : Nat) :
    List String → Except ConfigError (List (String × String))
  | [] => .ok values
  | line :: rest => do
      let values ← readLine values number line
      readLines values (number + 1) rest

def validateRequiredRuntimeEnvironment (values : List (String × String)) : Except ConfigError Unit :=
  match values.lookup "AWS_DEFAULT_REGION" with
  | none => .error (.missingRequiredRuntimeEnvironmentKey "AWS_DEFAULT_REGION")
  | some value =>
      if Text.isBlank value then .error (.blankRequiredRuntimeEnvironmentValue "AWS_DEFAULT_REGION")
      else if value ≠ "auto" then .error .invalidR2Region
      else .ok ()

def readRuntimeEnvironment (path : String) : Except ConfigError (List (String × String)) :=
  match environment.file path with
  | none => .error (.runtimeEnvironmentFile path)
  | some content =>
      if maxRuntimeEnvironmentBytes < content.size then
        .error (.runtimeEnvironmentTooLarge path maxRuntimeEnvironmentBytes)
      else
        match content with
        | .bytes _ => .error .runtimeEnvironmentEncoding
        | .text text => do
            let values ← readLines [] 1 (lines text)
            if values.isEmpty then throw .emptyRuntimeEnvironment
            validateRequiredRuntimeEnvironment values
            return values

end Variables

-- Durations are in seconds.
structure RemoteAgentConfig where
  listenAddress : SocketAddr
  publicAddress : String
  tlsServerName : String
  tlsCertificate : String
  tlsPrivateKey : String
  tlsCaCertificate : String
  clientCaCertificate : String
  clientCaPrivateKey : String
  certificateWorkDirectory : String
  certificateValidity : Nat
  opensslBinary : String
  trustDomain : String
  nodeAgentDownloadUrl : String
  nodeAgentSha256 : String
  maxFrameBytes : Nat
  nodeOperationTimeout : Nat

structure AkamaiConfig where
  apiToken : String
  apiBaseUrl : String
  authorizedKeysFile : String
  scope : String
  requestTimeout : Nat
  reapOrphansOnStart : Bool
  liveEnabled : Bool
  allowedRegions : List String
  allowedImages : List String
  allowedInstanceTypes : List String
  allowedFirewallIds : List Nat
  maxActiveInstances : Nat
  maxInstanceLifetime : Nat
  loopbackApi : Bool
  deriving DecidableEq

structure R2Config where
  apiToken : String
  apiBaseUrl : String
  accountId : String
  parentAccessKeyId : String
  bucket : String
  temporaryCredentialTtl : Nat
  runtimeEnvironmentFile : String
  runtimeEnvironment : List (String × String)
  requestTimeout : Nat
  loopbackApi : Bool
  deriving DecidableEq

structure ControlPlaneConfig where
  socketPath : String
  databaseUrl : String
  socketMode : Nat
  maxFrameBytes : Nat
  reconcileInterval : Nat
  reconcileRetry : Nat
  shutdownTimeout : Nat
  agentListenAddress : SocketAddr
  agentCommandTimeout : Nat
  nodeAgentBinary : String
  nodeAgentRoot : String
  podmanBinary : String
  localScope : String
  reapOrphansOnStart : Bool
  localControlTimeout : Nat
  localProcessStopTimeout : Nat
  remoteAgent : Option RemoteAgentConfig
  akamai : Option AkamaiConfig
  r2 : Option R2Config

def agentCertificateShutdownBufferSeconds : Nat := 60 * 60
def maxR2TemporaryCredentialTtlSeconds : Nat := 7 * 24 * 60 * 60

def nodeOperationTimeout (agentCallTimeout : Nat) : Nat :=
  if 5 < agentCallTimeout then agentCallTimeout - 5 else 1

section Parts

variable (environment : Environment)

-- Settings that mean nothing without the one that is missing
def rejectPartial (names : List Variable) (error : ConfigError) : Except ConfigError Unit :=
  if names.any fun name => (environment.value name).isSome then .error error else .ok ()

def rejectPartialRemoteConfig : Except ConfigError Unit :=
  rejectPartial environment
    [.remoteAgentPublicAddress, .remoteAgentTlsServerName, .remoteAgentTlsCertificate,
      .remoteAgentTlsPrivateKey, .remoteAgentTlsCaCertificate, .agentClientCaCertificate,
      .agentClientCaPrivateKey, .agentCertificateWorkDirectory, .agentCertificateValiditySeconds,
      .agentTrustDomain, .nodeAgentDownloadUrl, .nodeAgentSha256]
    .remoteAgentListenAddressRequired

def listen (invalid zero : ConfigError) (value : String) : Except ConfigError SocketAddr :=
  match environment.parseSocketAddr value with
  | none => .error invalid
  | some address => if address.port = 0 then .error zero else .ok address

def validateSha256 (value : String) : Except ConfigError Unit :=
  if value.utf8ByteSize ≠ sha256HexChars ∨ !value.toList.all isAsciiHexdigit then
    .error (.invalidSha256 value)
  else .ok ()

def remoteAgentConfig (maxFrameBytes agentCommandTimeout : Nat) :
    Except ConfigError (Option RemoteAgentConfig) :=
  match environment.value .remoteAgentListenAddress with
  | none => do
      rejectPartialRemoteConfig environment
      return none
  | some listenValue => do
      let listenAddress ← listen environment .invalidRemoteSocketAddress .zeroRemoteAgentPort listenValue
      let publicAddress ← requiredNonBlank environment .remoteAgentPublicAddress maxAddressChars
      validateHostPort environment publicAddress
      let tlsServerName ← requiredNonBlank environment .remoteAgentTlsServerName maxServerNameChars
      validateDnsName tlsServerName
      let tlsCertificate ← requiredPath environment .remoteAgentTlsCertificate
      let tlsPrivateKey ← requiredPath environment .remoteAgentTlsPrivateKey
      let tlsCaCertificate ← requiredPath environment .remoteAgentTlsCaCertificate
      let clientCaCertificate ← requiredPath environment .agentClientCaCertificate
      let clientCaPrivateKey ← requiredPath environment .agentClientCaPrivateKey
      let certificateValidity ← parsePositiveDuration environment .agentCertificateValiditySeconds
        (2 * 24 * 60 * 60)
      let trustDomain ← requiredNonBlank environment .agentTrustDomain maxServerNameChars
      validateDnsName trustDomain
      let nodeAgentDownloadUrl ← requiredNonBlank environment .nodeAgentDownloadUrl maxUrlChars
      validateHttpsUrl environment .nodeAgentDownloadUrl nodeAgentDownloadUrl
      let nodeAgentSha256 ← requiredNonBlank environment .nodeAgentSha256 sha256HexChars
      validateSha256 nodeAgentSha256
      return some
        { listenAddress, publicAddress, tlsServerName, tlsCertificate, tlsPrivateKey, tlsCaCertificate
          clientCaCertificate, clientCaPrivateKey
          certificateWorkDirectory :=
            optionalString environment .agentCertificateWorkDirectory "/run/mcserver/agent-pki"
          certificateValidity
          opensslBinary := optionalString environment .opensslBinary "openssl"
          trustDomain, nodeAgentDownloadUrl
          nodeAgentSha256 := String.ofList (nodeAgentSha256.toList.map Char.toLower)
          maxFrameBytes
          nodeOperationTimeout := nodeOperationTimeout agentCommandTimeout }

-- A token comes from a variable or from a file.
def apiToken (direct file : Variable) : Except ConfigError (Option String) :=
  match environment.value direct, environment.value file with
  | some _, some _ => .error (.conflictingSecretSources direct file)
  | some value, none => .ok (some value)
  | none, some path => do return some (← readSecretFile environment file path)
  | none, none => .ok none

def checkCertificateValidity (remoteAgent : RemoteAgentConfig) (maxInstanceLifetime : Nat) :
    Except ConfigError Unit :=
  match checkedAdd maxInstanceLifetime agentCertificateShutdownBufferSeconds with
  | none => .error (.durationOutOfRange .akamaiMaxInstanceLifetimeSeconds)
  | some minimum =>
      if remoteAgent.certificateValidity < minimum then
        .error (.agentCertificateValidityTooShort remoteAgent.certificateValidity minimum)
      else .ok ()

def akamaiConfig (remoteAgent : Option RemoteAgentConfig) : Except ConfigError (Option AkamaiConfig) := do
  match ← apiToken environment .akamaiApiToken .akamaiApiTokenFile with
  | none =>
      rejectPartial environment
        [.akamaiApiBaseUrl, .akamaiAuthorizedKeysFile, .akamaiScope, .akamaiRequestTimeoutSeconds,
          .akamaiReapOrphansOnStart, .akamaiLiveEnabled, .akamaiAllowedRegions, .akamaiAllowedImages,
          .akamaiAllowedInstanceTypes, .akamaiAllowedFirewallIds, .akamaiMaxActiveInstances,
          .akamaiMaxInstanceLifetimeSeconds]
        .akamaiTokenRequired
      return none
  | some apiToken =>
      validateNonBlank .akamaiApiToken apiToken maxSecretChars
      match remoteAgent with
      | none => throw .remoteAgentRequiredForAkamai
      | some remoteAgent =>
          let apiBaseUrl := optionalString environment .akamaiApiBaseUrl "https://api.linode.com/v4"
          let loopbackApi ← validateApiBaseUrl environment apiBaseUrl
          let authorizedKeysFile ← requiredPath environment .akamaiAuthorizedKeysFile
          let scope ← optionalScope environment .akamaiScope "default"
          if maxAkamaiScopeChars < Text.charCount scope then throw (.akamaiScopeTooLong maxAkamaiScopeChars)
          let requestTimeout ← parsePositiveDuration environment .akamaiRequestTimeoutSeconds 30
          let reapOrphansOnStart ← parseBool environment .akamaiReapOrphansOnStart false
          let liveEnabled ← parseBool environment .akamaiLiveEnabled false
          let allowedRegions ← parseIdentifierSet environment .akamaiAllowedRegions "jp-tyo-3"
          let allowedImages ← parseIdentifierSet environment .akamaiAllowedImages "linode/debian13"
          let allowedInstanceTypes ← parseIdentifierSet environment .akamaiAllowedInstanceTypes "g6-nanode-1"
          let allowedFirewallIds ← parsePositiveU64Set environment .akamaiAllowedFirewallIds
          let maxActiveInstances ← parsePositiveUsize environment .akamaiMaxActiveInstances 1
          let maxInstanceLifetime ← parsePositiveDuration environment .akamaiMaxInstanceLifetimeSeconds
            (12 * 60 * 60)
          checkCertificateValidity remoteAgent maxInstanceLifetime
          return some
            { apiToken, apiBaseUrl := trimEndMatches (· == '/') apiBaseUrl, authorizedKeysFile, scope
              requestTimeout, reapOrphansOnStart, liveEnabled, allowedRegions, allowedImages
              allowedInstanceTypes, allowedFirewallIds, maxActiveInstances, maxInstanceLifetime, loopbackApi }

def validateR2AccountId (value : String) : Except ConfigError Unit :=
  if isR2AccountId value then .ok () else .error (.invalidR2AccountId value)

def checkCredentialTtl (maxInstanceLifetime agentCommandTimeout ttl : Nat) : Except ConfigError Unit :=
  if maxR2TemporaryCredentialTtlSeconds < ttl then
    .error (.r2CredentialTtlTooLong maxR2TemporaryCredentialTtlSeconds)
  else
    match checkedAdd maxInstanceLifetime (max agentCommandTimeout agentCertificateShutdownBufferSeconds) with
    | none => .error (.durationOutOfRange .r2TemporaryCredentialTtlSeconds)
    | some minimum => if ttl < minimum then .error (.r2CredentialTtlTooShort ttl minimum) else .ok ()

def r2Config (akamai : Option AkamaiConfig) (agentCommandTimeout : Nat) :
    Except ConfigError (Option R2Config) := do
  match ← apiToken environment .r2ApiToken .r2ApiTokenFile with
  | none =>
      rejectPartial environment
        [.r2ApiBaseUrl, .r2AccountId, .r2ParentAccessKeyId, .r2Bucket, .r2TemporaryCredentialTtlSeconds,
          .r2RuntimeEnvironmentFile, .r2RequestTimeoutSeconds]
        .r2TokenRequired
      if akamai.isSome then throw .r2RequiredForAkamai
      return none
  | some apiToken =>
      match akamai with
      | none => throw .akamaiRequiredForR2
      | some akamai =>
          validateNonBlank .r2ApiToken apiToken maxSecretChars
          let apiBaseUrl := optionalString environment .r2ApiBaseUrl "https://api.cloudflare.com/client/v4"
          let loopbackApi ← validateR2ApiBaseUrl environment apiBaseUrl
          let accountId ← requiredNonBlank environment .r2AccountId 32
          validateR2AccountId accountId
          let parentAccessKeyId ← requiredNonBlank environment .r2ParentAccessKeyId 256
          let bucket ← requiredNonBlank environment .r2Bucket 63
          validateR2BucketName bucket
          let temporaryCredentialTtl ← parsePositiveDuration environment .r2TemporaryCredentialTtlSeconds
            (13 * 60 * 60)
          checkCredentialTtl akamai.maxInstanceLifetime agentCommandTimeout temporaryCredentialTtl
          let runtimeEnvironmentFile ← requiredPath environment .r2RuntimeEnvironmentFile
          let runtimeEnvironment ← readRuntimeEnvironment environment runtimeEnvironmentFile
          let requestTimeout ← parsePositiveDuration environment .r2RequestTimeoutSeconds 30
          return some
            { apiToken, apiBaseUrl := trimEndMatches (· == '/') apiBaseUrl, accountId, parentAccessKeyId, bucket
              temporaryCredentialTtl, runtimeEnvironmentFile, runtimeEnvironment, requestTimeout, loopbackApi }

def checkLoopback (address : SocketAddr) : Except ConfigError Unit :=
  if !address.isLoopback then .error .agentAddressMustBeLoopback
  else if address.port = 0 then .error .zeroAgentPort
  else .ok ()

def agentListenAddress : Except ConfigError SocketAddr :=
  match environment.parseSocketAddr
      (optionalString environment .agentListenAddress "127.0.0.1:39001") with
  | none => .error .invalidSocketAddress
  | some address => do
      checkLoopback address
      return address

def fromEnv : Except ConfigError ControlPlaneConfig := do
  let socketMode ← parseSocketMode (environment.value .socketMode)
  let maxFrameBytes ← parsePositiveUsize environment .maxFrameBytes (1024 * 1024)
  let reconcileInterval ← parsePositiveDuration environment .reconcileIntervalSeconds 30
  let reconcileRetry ← parsePositiveDuration environment .reconcileRetrySeconds 5
  let shutdownTimeout ← parsePositiveDuration environment .shutdownTimeoutSeconds 15
  let agentListenAddress ← agentListenAddress environment
  let agentCommandTimeout ← parsePositiveDuration environment .agentCommandTimeoutSeconds 900
  let localScope ← optionalScope environment .localScope "default"
  let reapOrphansOnStart ← parseBool environment .reapOrphansOnStart true
  let localControlTimeout ← parsePositiveDuration environment .localControlTimeoutSeconds 30
  let localProcessStopTimeout ← parsePositiveDuration environment .localProcessStopTimeoutSeconds 10
  let remoteAgent ← remoteAgentConfig environment maxFrameBytes agentCommandTimeout
  let akamai ← akamaiConfig environment remoteAgent
  let r2 ← r2Config environment akamai agentCommandTimeout
  return {
      socketPath := optionalString environment .socket "/run/mcserver/control-plane.sock"
      databaseUrl := optionalString environment .databaseUrl
        "sqlite:///var/lib/mcserver/control-plane.db?mode=rwc"
      socketMode, maxFrameBytes, reconcileInterval, reconcileRetry, shutdownTimeout, agentListenAddress
      agentCommandTimeout
      nodeAgentBinary := optionalString environment .nodeAgentBinary "mcserver-node-agent"
      nodeAgentRoot := optionalString environment .nodeAgentRoot "/var/lib/mcserver/local-agents"
      podmanBinary := optionalString environment .podmanBinary "podman"
      localScope, reapOrphansOnStart, localControlTimeout, localProcessStopTimeout, remoteAgent, akamai, r2 }

end Parts

end McServer.ControlPlane.Config
