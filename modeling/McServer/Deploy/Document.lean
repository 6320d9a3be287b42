import McServer.ControlPlane.Config

set_option autoImplicit false

namespace McServer.Deploy

open Domain ControlPlane.Config

structure DeployError where
  message : String
  deriving DecidableEq

-- `str.isspace` of one character: beside White_Space also the four information separators
def isSpace (char : Char) : Bool :=
  Text.isWhitespace char || (0x1c ≤ char.toNat && char.toNat ≤ 0x1f)

def strip (value : String) : String :=
  String.ofList ((value.toList.dropWhile isSpace).rdropWhile isSpace)

-- The file is opened with universal newlines.
def translateNewlines : List Char → List Char
  | '\r' :: '\n' :: rest => '\n' :: translateNewlines rest
  | '\r' :: rest => '\n' :: translateNewlines rest
  | char :: rest => char :: translateNewlines rest
  | [] => []

def isLineBoundary (char : Char) : Bool :=
  let code := char.toNat
  (0xa ≤ code && code ≤ 0xd) || (0x1c ≤ code && code ≤ 0x1e) || code == 0x85 || code == 0x2028 ||
    code == 0x2029

-- `str.splitlines` of a text without carriage returns
def splitLines (chars : List Char) : List String :=
  let pieces := (chars.splitOnP isLineBoundary).map String.ofList
  if pieces.getLast? = some "" then pieces.dropLast else pieces

def matchesAll (member : Char → Bool) (value : String) : Bool :=
  !value.toList.isEmpty && value.toList.all member

def lower (value : String) : String := String.ofList (value.toList.map Char.toLower)

inductive Toml where
  | string (value : String)
  | integer (value : Int)
  | float (value : Float)
  | boolean (value : Bool)
  | datetime (text : String)
  | array (items : List Toml)
  | table (entries : List (String × Toml))

abbrev Table := List (String × Toml)

def requireTable (document : Table) (name : String) : Except DeployError Table :=
  match document.lookup name with
  | some (.table entries) => .ok entries
  | _ => .error ⟨s!"missing TOML table [{name}]"⟩

def rejectUnknownKeys (table : Table) (allowed : List String) (tableName : String) :
    Except DeployError Unit :=
  let unknown := (table.map Prod.fst).filter fun key => !allowed.contains key
  if unknown.isEmpty then .ok ()
  else
    let names := ", ".intercalate (unknown.insertionSort (· ≤ ·))
    .error ⟨s!"unknown {tableName} key(s): {names}"⟩

def isForbidden (char : Char) : Bool := char == Char.ofNat 0 || char == '\n' || char == '\r'

def requireString (table : Table) (key tableName : String) : Except DeployError String :=
  match table.lookup key with
  | some (.string value) =>
      if (strip value).toList.isEmpty then .error ⟨s!"{tableName}.{key} must be a non-empty string"⟩
      else if value.toList.any isForbidden then
        .error ⟨s!"{tableName}.{key} contains a forbidden character"⟩
      else if Text.containsText "REPLACE_" value then
        .error ⟨s!"{tableName}.{key} still contains a placeholder"⟩
      else .ok value
  | _ => .error ⟨s!"{tableName}.{key} must be a non-empty string"⟩

def positive : Toml → Option Nat
  | .integer value => if value ≤ 0 then none else some value.toNat
  | _ => none

def requirePositiveInt (table : Table) (key tableName : String) : Except DeployError Nat :=
  match (table.lookup key).bind positive with
  | some value => .ok value
  | none => .error ⟨s!"{tableName}.{key} must be a positive integer"⟩

def isIdentifierChar (char : Char) : Bool :=
  Text.isAsciiAlphanumeric char || char == '.' || char == '_' || char == '/' || char == '-'

def identifier : Toml → Option String
  | .string value =>
      if value = strip value ∧ matchesAll isIdentifierChar value = true then some value else none
  | _ => none

def requireList {A : Type} [DecidableEq A] (element : Toml → Option A) (kind : String) (table : Table)
    (key tableName : String) : Except DeployError (List A) :=
  match table.lookup key with
  | some (.array items) =>
      if items.isEmpty then .error ⟨s!"{tableName}.{key} must be a non-empty {kind} array"⟩
      else
        match items.mapM element with
        | none => .error ⟨s!"{tableName}.{key} contains an invalid value"⟩
        | some values =>
            if values.Nodup then .ok values
            else .error ⟨s!"{tableName}.{key} contains a duplicate value"⟩
  | _ => .error ⟨s!"{tableName}.{key} must be a non-empty {kind} array"⟩

def requireStringList (table : Table) (key tableName : String) : Except DeployError (List String) :=
  requireList identifier "string" table key tableName

def requirePositiveIntList (table : Table) (key tableName : String) : Except DeployError (List Nat) :=
  requireList positive "integer" table key tableName

def requirePositiveNumber (table : Table) (key tableName : String) : Except DeployError Unit :=
  let failed := .error ⟨s!"{tableName}.{key} must be a positive number"⟩
  match table.lookup key with
  | some (.integer value) => if value ≤ 0 then failed else .ok ()
  | some (.float value) => if value ≤ 0 then failed else .ok ()
  | _ => failed

structure Release where
  version : String
  repository : String
  target : String
  checksumsSha256 : String
  expectedCommit : String

namespace Release

variable (release : Release)

def assetName (binary : String) : String := s!"{binary}-{release.version}-{release.target}"

def assetUrl (name : String) : String :=
  s!"https://github.com/{release.repository}/releases/download/{release.version}/{name}"

end Release

structure InputFiles (A : Type) where
  akamaiApiToken : A
  r2ApiToken : A
  remoteTlsPrivateKey : A
  agentClientCaPrivateKey : A
  r2RuntimeEnvironment : A
  remoteTlsFullchain : A
  remoteTlsRootCa : A
  agentClientCaCertificate : A
  authorizedKeys : A

structure Config where
  release : Release
  service : Table
  akamai : Table
  r2 : Table
  files : InputFiles String
  acceptance : Table

def loadRelease (table : Table) : Except DeployError Release := do
  let version ← requireString table "version" "release"
  let repository ← requireString table "repository" "release"
  let target ← requireString table "target" "release"
  let checksumsSha256 ← requireString table "checksums_sha256" "release"
  let expectedCommit ← requireString table "expected_commit" "release"
  return { version, repository, target
           checksumsSha256 := lower checksumsSha256, expectedCommit := lower expectedCommit }

def loadFiles (resolveInputPath : String → String) (table : Table) : Except DeployError (InputFiles String) := do
  let path (key : String) : Except DeployError String := do
    return resolveInputPath (← requireString table key "files")
  let akamaiApiToken ← path "akamai_api_token"
  let r2ApiToken ← path "r2_api_token"
  let remoteTlsPrivateKey ← path "remote_tls_private_key"
  let agentClientCaPrivateKey ← path "agent_client_ca_private_key"
  let r2RuntimeEnvironment ← path "r2_runtime_environment"
  let remoteTlsFullchain ← path "remote_tls_fullchain"
  let remoteTlsRootCa ← path "remote_tls_root_ca"
  let agentClientCaCertificate ← path "agent_client_ca_certificate"
  let authorizedKeys ← path "authorized_keys"
  return { akamaiApiToken, r2ApiToken, remoteTlsPrivateKey, agentClientCaPrivateKey, r2RuntimeEnvironment
           remoteTlsFullchain, remoteTlsRootCa, agentClientCaCertificate, authorizedKeys }

-- The TOML text is parsed already; how a path is resolved is up to the host.
def loadConfig (resolveInputPath : String → String) (document : Table) : Except DeployError Config := do
  let release ← requireTable document "release"
  let service ← requireTable document "service"
  let akamai ← requireTable document "akamai"
  let r2 ← requireTable document "r2"
  let files ← requireTable document "files"
  let acceptance ← requireTable document "acceptance"
  rejectUnknownKeys document ["release", "service", "akamai", "r2", "files", "acceptance"] "top-level"
  rejectUnknownKeys release ["version", "repository", "target", "checksums_sha256", "expected_commit"] "release"
  rejectUnknownKeys service ["public_address", "server_name", "trust_domain", "rust_log", "certbot_lineage"]
    "service"
  rejectUnknownKeys akamai
    ["scope", "allowed_regions", "allowed_images", "allowed_instance_types", "allowed_firewall_ids",
      "max_active_instances", "max_instance_lifetime_seconds"] "akamai"
  rejectUnknownKeys r2 ["account_id", "parent_access_key_id", "bucket", "temporary_credential_ttl_seconds"] "r2"
  rejectUnknownKeys files
    ["akamai_api_token", "r2_api_token", "remote_tls_private_key", "agent_client_ca_private_key",
      "r2_runtime_environment", "remote_tls_fullchain", "remote_tls_root_ca", "agent_client_ca_certificate",
      "authorized_keys"] "files"
  rejectUnknownKeys acceptance
    ["region", "image", "instance_type", "firewall_id", "host_port", "timeout_seconds"] "acceptance"
  let release ← loadRelease release
  let files ← loadFiles resolveInputPath files
  return { release, service, akamai, r2, files, acceptance }

structure InputFile where
  mode : Nat
  content : FileContent

abbrev Host := String → Option InputFile

-- `{mode:04o}`
def octalMode (mode : Nat) : String := String.ofList ((Nat.toDigits 8 mode).leftpad 4 '0')

def validateSecret (host : Host) (path name : String) : Except DeployError Unit :=
  match host path with
  | none => .error ⟨s!"files.{name} is not a regular file: {path}"⟩
  | some file =>
      if file.mode &&& 0o077 ≠ 0 then
        let mode := octalMode file.mode
        .error ⟨s!"files.{name} must not be accessible by group or other (current mode {mode}): {path}"⟩
      else if file.content.size = 0 then .error ⟨s!"files.{name} is empty: {path}"⟩
      else .ok ()

def validatePresent (host : Host) (path name : String) : Except DeployError Unit :=
  match host path with
  | none => .error ⟨s!"files.{name} is missing or empty: {path}"⟩
  | some file =>
      if file.content.size = 0 then .error ⟨s!"files.{name} is missing or empty: {path}"⟩ else .ok ()

def parseEnvironmentLine (path : String) (result : List (String × String)) (number : Nat) (raw : String) :
    Except DeployError (List (String × String)) :=
  let line := strip raw
  if line.toList.isEmpty || line.toList.head? == some '#' then .ok result
  else
    -- Without a separator the value is empty.
    let (key, value) := (splitOnce "=" line).getD (line, "")
    if key.toList.isEmpty || value.toList.isEmpty then
      .error ⟨s!"invalid environment line {path}:{number}"⟩
    else if (result.lookup key).isSome then .error ⟨s!"duplicate environment key {key} in {path}"⟩
    else .ok (result ++ [(key, value)])

def parseEnvironmentLines (path : String) (result : List (String × String)) (number : Nat) :
    List String → Except DeployError (List (String × String))
  | [] => .ok result
  | raw :: rest => do
      let result ← parseEnvironmentLine path result number raw
      parseEnvironmentLines path result (number + 1) rest

def parseEnvironmentFile (host : Host) (path : String) : Except DeployError (List (String × String)) :=
  match (host path).map InputFile.content with
  | some (.text text) => parseEnvironmentLines path [] 1 (splitLines (translateNewlines text.toList))
  | some (.bytes _) => .error ⟨"invalid start byte"⟩
  | none => .error ⟨s!"No such file or directory: {path}"⟩

def check (holds : Bool) (message : String) : Except DeployError Unit :=
  if holds then .ok () else .error ⟨message⟩

def isNumber (value : String) : Bool := matchesAll Text.isAsciiDigit value

def isReleaseVersion (version : String) : Bool :=
  match (Text.stripStart "v" version).map (Text.splitAt '.') with
  | some [major, minor, patch] => isNumber major && isNumber minor && isNumber patch
  | _ => false

def isRepositoryChar (char : Char) : Bool :=
  Text.isAsciiAlphanumeric char || char == '_' || char == '.' || char == '-'

def isSafeRepository (repository : String) : Bool :=
  match Text.splitAt '/' repository with
  | [owner, name] => matchesAll isRepositoryChar owner && matchesAll isRepositoryChar name
  | _ => false

def isHex (count : Nat) (member : Char → Bool) (value : String) : Bool :=
  value.toList.length = count && value.toList.all member

def isLowerHexdigit (char : Char) : Bool := Text.isAsciiDigit char || ('a' ≤ char && char ≤ 'f')

def supportedTarget : String := "x86_64-unknown-linux-musl"

def validateRelease (release : Release) : Except DeployError Unit := do
  check (isReleaseVersion release.version) "release.version must have the form vMAJOR.MINOR.PATCH"
  check (isSafeRepository release.repository) "release.repository must have the form OWNER/REPOSITORY"
  check (isHex 64 isLowerHexdigit release.checksumsSha256)
    "release.checksums_sha256 must be 64 lowercase hex characters"
  check (isHex 40 isLowerHexdigit release.expectedCommit) "release.expected_commit must be a full Git commit SHA"
  check (release.target == supportedTarget)
    "only the released x86_64-unknown-linux-musl target is supported"

def validateService (service : Table) : Except DeployError Unit := do
  let publicAddress ← requireString service "public_address" "service"
  let serverName ← requireString service "server_name" "service"
  check (publicAddress == s!"{serverName}:443")
    "service.public_address must exactly equal service.server_name:443"
  let _ ← requireString service "trust_domain" "service"
  let certbotLineage ← requireString service "certbot_lineage" "service"
  check (certbotLineage.toList.head? == some '/') "service.certbot_lineage must be an absolute path"
  if (service.lookup "rust_log").isSome then
    let _ ← requireString service "rust_log" "service"

structure Allowed where
  regions : List String
  images : List String
  instanceTypes : List String
  firewallIds : List Nat
  maximumLifetime : Nat

def validateAkamai (akamai : Table) : Except DeployError Allowed := do
  let _ ← requireString akamai "scope" "akamai"
  let regions ← requireStringList akamai "allowed_regions" "akamai"
  let images ← requireStringList akamai "allowed_images" "akamai"
  let instanceTypes ← requireStringList akamai "allowed_instance_types" "akamai"
  let firewallIds ← requirePositiveIntList akamai "allowed_firewall_ids" "akamai"
  let maxActiveInstances ← requirePositiveInt akamai "max_active_instances" "akamai"
  check (maxActiveInstances = 1) "akamai.max_active_instances must be 1 for initial production"
  let maximumLifetime ← requirePositiveInt akamai "max_instance_lifetime_seconds" "akamai"
  return { regions, images, instanceTypes, firewallIds, maximumLifetime }

def validateR2 (r2 : Table) (maximumLifetime : Nat) : Except DeployError Unit := do
  let accountId ← requireString r2 "account_id" "r2"
  check (isHex 32 isAsciiHexdigit accountId) "r2.account_id must be 32 hexadecimal characters"
  let _ ← requireString r2 "parent_access_key_id" "r2"
  let bucket ← requireString r2 "bucket" "r2"
  check (!bucket.toList.contains '/') "r2.bucket must be a bucket name without a path"
  let ttl ← requirePositiveInt r2 "temporary_credential_ttl_seconds" "r2"
  check (maximumLifetime + 3600 ≤ ttl && ttl ≤ 604800)
    "r2 temporary credential TTL must cover maximum VM lifetime plus one hour and must not exceed seven days"

def validateFiles (host : Host) (files : InputFiles String) : Except DeployError Unit := do
  validateSecret host files.akamaiApiToken "akamai_api_token"
  validateSecret host files.r2ApiToken "r2_api_token"
  validateSecret host files.remoteTlsPrivateKey "remote_tls_private_key"
  validateSecret host files.agentClientCaPrivateKey "agent_client_ca_private_key"
  validateSecret host files.r2RuntimeEnvironment "r2_runtime_environment"
  validatePresent host files.remoteTlsFullchain "remote_tls_fullchain"
  validatePresent host files.remoteTlsRootCa "remote_tls_root_ca"
  validatePresent host files.agentClientCaCertificate "agent_client_ca_certificate"
  validatePresent host files.authorizedKeys "authorized_keys"

def validateRuntime (runtime : List (String × String)) : Except DeployError Unit := do
  check (runtime.map Prod.fst == ["AWS_DEFAULT_REGION"])
    "R2 runtime environment must contain exactly AWS_DEFAULT_REGION"
  check (runtime.lookup "AWS_DEFAULT_REGION" == some "auto") "AWS_DEFAULT_REGION must be auto for Cloudflare R2"

def validateAcceptance (acceptance : Table) (allowed : Allowed) : Except DeployError Unit := do
  let region ← requireString acceptance "region" "acceptance"
  let image ← requireString acceptance "image" "acceptance"
  let instanceType ← requireString acceptance "instance_type" "acceptance"
  let firewall ← requirePositiveInt acceptance "firewall_id" "acceptance"
  check (allowed.regions.contains region) "acceptance.region is not in akamai.allowed_regions"
  check (allowed.images.contains image) "acceptance.image is not in akamai.allowed_images"
  check (allowed.instanceTypes.contains instanceType)
    "acceptance.instance_type is not in akamai.allowed_instance_types"
  check (allowed.firewallIds.contains firewall) "acceptance.firewall_id is not in akamai.allowed_firewall_ids"
  let hostPort ← requirePositiveInt acceptance "host_port" "acceptance"
  check (hostPort ≤ 65535) "acceptance.host_port must not exceed 65535"
  requirePositiveNumber acceptance "timeout_seconds" "acceptance"

def validateConfig (host : Host) (config : Config) : Except DeployError Unit := do
  validateRelease config.release
  validateService config.service
  let allowed ← validateAkamai config.akamai
  validateR2 config.r2 allowed.maximumLifetime
  validateFiles host config.files
  let runtime ← parseEnvironmentFile host config.files.r2RuntimeEnvironment
  validateRuntime runtime
  validateAcceptance config.acceptance allowed

-- `str` of what a checked document can hold here
def Toml.str : Toml → Except DeployError String
  | .string value => .ok value
  | .integer value => .ok (toString value)
  | _ => .error ⟨"unexpected value"⟩

def item (table : Table) (key : String) : Except DeployError String :=
  match table.lookup key with
  | some value => value.str
  | none => .error ⟨key⟩

def joined (table : Table) (key : String) : Except DeployError String :=
  match table.lookup key with
  | some (.array items) => do return ",".intercalate (← items.mapM Toml.str)
  | _ => .error ⟨key⟩

structure Rendered where
  rustLog : String
  publicAddress : String
  serverName : String
  trustDomain : String
  downloadUrl : String
  scope : String
  allowedRegions : String
  allowedImages : String
  allowedInstanceTypes : String
  allowedFirewallIds : String
  maxActiveInstances : String
  maxInstanceLifetimeSeconds : String
  accountId : String
  parentAccessKeyId : String
  bucket : String
  temporaryCredentialTtlSeconds : String

def rustLog (service : Table) : Except DeployError String :=
  match service.lookup "rust_log" with
  | some value => value.str
  | none => .ok "mcserver_control_plane=info,mcserver_protocol=info"

def render (config : Config) : Except DeployError Rendered := do
  return {
    rustLog := ← rustLog config.service
    publicAddress := ← item config.service "public_address"
    serverName := ← item config.service "server_name"
    trustDomain := ← item config.service "trust_domain"
    downloadUrl := config.release.assetUrl (config.release.assetName "mcserver-node-agent")
    scope := ← item config.akamai "scope"
    allowedRegions := ← joined config.akamai "allowed_regions"
    allowedImages := ← joined config.akamai "allowed_images"
    allowedInstanceTypes := ← joined config.akamai "allowed_instance_types"
    allowedFirewallIds := ← joined config.akamai "allowed_firewall_ids"
    maxActiveInstances := ← item config.akamai "max_active_instances"
    maxInstanceLifetimeSeconds := ← item config.akamai "max_instance_lifetime_seconds"
    accountId := ← item config.r2 "account_id"
    parentAccessKeyId := ← item config.r2 "parent_access_key_id"
    bucket := ← item config.r2 "bucket"
    temporaryCredentialTtlSeconds := ← item config.r2 "temporary_credential_ttl_seconds" }

def Rendered.value (rendered : Rendered) (nodeDigest : String) (live : Bool) : Variable → Option String
  | .socket => some "/run/mcserver/control-plane.sock"
  | .databaseUrl => some "sqlite:///var/lib/mcserver/control-plane.db?mode=rwc"
  | .socketMode => some "0660"
  | .agentListenAddress => some "127.0.0.1:39001"
  | .reapOrphansOnStart => some "false"
  | .reconcileIntervalSeconds => some "30"
  | .reconcileRetrySeconds => some "5"
  | .agentCommandTimeoutSeconds => some "900"
  | .shutdownTimeoutSeconds => some "20"
  | .remoteAgentListenAddress => some "0.0.0.0:443"
  | .remoteAgentPublicAddress => some rendered.publicAddress
  | .remoteAgentTlsServerName => some rendered.serverName
  | .remoteAgentTlsCertificate => some "/etc/mcserver/pki/remote-tls-fullchain.pem"
  | .remoteAgentTlsCaCertificate => some "/etc/mcserver/pki/remote-tls-root-ca.pem"
  | .agentClientCaCertificate => some "/etc/mcserver/pki/agent-client-ca.pem"
  | .agentCertificateWorkDirectory => some "/run/mcserver/agent-pki"
  | .agentCertificateValiditySeconds => some "172800"
  | .agentTrustDomain => some rendered.trustDomain
  | .opensslBinary => some "/usr/bin/openssl"
  | .nodeAgentDownloadUrl => some rendered.downloadUrl
  | .nodeAgentSha256 => some nodeDigest
  | .akamaiApiBaseUrl => some "https://api.linode.com/v4"
  | .akamaiAuthorizedKeysFile => some "/etc/mcserver/authorized_keys"
  | .akamaiScope => some rendered.scope
  | .akamaiRequestTimeoutSeconds => some "30"
  | .akamaiReapOrphansOnStart => some "false"
  | .akamaiLiveEnabled => some (if live then "true" else "false")
  | .akamaiAllowedRegions => some rendered.allowedRegions
  | .akamaiAllowedImages => some rendered.allowedImages
  | .akamaiAllowedInstanceTypes => some rendered.allowedInstanceTypes
  | .akamaiAllowedFirewallIds => some rendered.allowedFirewallIds
  | .akamaiMaxActiveInstances => some rendered.maxActiveInstances
  | .akamaiMaxInstanceLifetimeSeconds => some rendered.maxInstanceLifetimeSeconds
  | .r2ApiBaseUrl => some "https://api.cloudflare.com/client/v4"
  | .r2AccountId => some rendered.accountId
  | .r2ParentAccessKeyId => some rendered.parentAccessKeyId
  | .r2Bucket => some rendered.bucket
  | .r2TemporaryCredentialTtlSeconds => some rendered.temporaryCredentialTtlSeconds
  | .r2RequestTimeoutSeconds => some "30"
  | _ => none

-- In the order in which they are written
def renderedVariables : List Variable :=
  [.socket, .databaseUrl, .socketMode, .agentListenAddress, .reapOrphansOnStart, .reconcileIntervalSeconds,
    .reconcileRetrySeconds, .agentCommandTimeoutSeconds, .shutdownTimeoutSeconds, .remoteAgentListenAddress,
    .remoteAgentPublicAddress, .remoteAgentTlsServerName, .remoteAgentTlsCertificate,
    .remoteAgentTlsCaCertificate, .agentClientCaCertificate, .agentCertificateWorkDirectory,
    .agentCertificateValiditySeconds, .agentTrustDomain, .opensslBinary, .nodeAgentDownloadUrl,
    .nodeAgentSha256, .akamaiApiBaseUrl, .akamaiAuthorizedKeysFile, .akamaiScope,
    .akamaiRequestTimeoutSeconds, .akamaiReapOrphansOnStart, .akamaiLiveEnabled, .akamaiAllowedRegions,
    .akamaiAllowedImages, .akamaiAllowedInstanceTypes, .akamaiAllowedFirewallIds, .akamaiMaxActiveInstances,
    .akamaiMaxInstanceLifetimeSeconds, .r2ApiBaseUrl, .r2AccountId, .r2ParentAccessKeyId, .r2Bucket,
    .r2TemporaryCredentialTtlSeconds, .r2RequestTimeoutSeconds]

def checkValue (key value : String) : Except DeployError Unit :=
  check (!value.toList.any isForbidden) s!"generated environment value {key} is invalid"

def renderEnvironment (config : Config) (nodeDigest : String) (live : Bool) :
    Except DeployError (Variable → Option String) := do
  let rendered ← render config
  let values := rendered.value nodeDigest live
  checkValue "RUST_LOG" rendered.rustLog
  renderedVariables.forM fun key => checkValue key.name ((values key).getD "")
  return values

def environmentSettings (config : Config) (nodeDigest : String) (live : Bool) :
    Except DeployError (List (String × String)) := do
  let values ← renderEnvironment config nodeDigest live
  return ("RUST_LOG", ← rustLog config.service) ::
    renderedVariables.map fun key => (key.name, (values key).getD "")

def settingText (setting : String × String) : String := setting.1 ++ "=" ++ setting.2 ++ "\n"

def environmentText (config : Config) (nodeDigest : String) (live : Bool) : Except DeployError String := do
  return String.join ((← environmentSettings config nodeDigest live).map settingText)

-- `%d` of the unit
def credentialsDirectory : String := "/run/credentials/mcserver-control-plane.service"

-- The `Environment=` lines of the unit, which name the credentials it loads
def unitValue : Variable → Option String
  | .akamaiApiTokenFile => some (credentialsDirectory ++ "/akamai-api-token")
  | .r2ApiTokenFile => some (credentialsDirectory ++ "/r2-api-token")
  | .remoteAgentTlsPrivateKey => some (credentialsDirectory ++ "/remote-tls-private-key")
  | .agentClientCaPrivateKey => some (credentialsDirectory ++ "/agent-client-ca-private-key")
  | .r2RuntimeEnvironmentFile => some (credentialsDirectory ++ "/r2-runtime.env")
  | _ => none

-- The files are installed as they are and loaded as credentials under their own names.
def installedFile (host : Host) (files : InputFiles String) (path : String) : Option FileContent :=
  let source :=
    if path = credentialsDirectory ++ "/akamai-api-token" then some files.akamaiApiToken
    else if path = credentialsDirectory ++ "/r2-api-token" then some files.r2ApiToken
    else if path = credentialsDirectory ++ "/remote-tls-private-key" then some files.remoteTlsPrivateKey
    else if path = credentialsDirectory ++ "/agent-client-ca-private-key" then some files.agentClientCaPrivateKey
    else if path = credentialsDirectory ++ "/r2-runtime.env" then some files.r2RuntimeEnvironment
    else none
  (source.bind host).map InputFile.content

structure Libraries where
  parseUrl : String → Option ControlPlane.Url
  parseSocketAddr : String → Option SocketAddr
  isLoopbackIp : String → Bool
  -- What systemd gives a variable from the text of an `EnvironmentFile=`
  readEnvironmentFile : String → String → Option String

def serviceEnvironment (libraries : Libraries) (host : Host) (files : InputFiles String)
    (environmentFile : String) : ControlPlane.Config.Environment where
  value key := (libraries.readEnvironmentFile environmentFile key.name).orElse fun _ => unitValue key
  file := installedFile host files
  parseUrl := libraries.parseUrl
  parseSocketAddr := libraries.parseSocketAddr
  isLoopbackIp := libraries.isLoopbackIp

end McServer.Deploy
