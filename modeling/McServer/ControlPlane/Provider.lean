import McServer.Store.Repositories

set_option autoImplicit false

namespace McServer.ControlPlane

open Domain Store

inductive TimestampError where
  | beforeUnixEpoch
  | outOfRange
  | systemTime
  deriving DecidableEq, Repr

def TimestampError.message : TimestampError → String
  | .beforeUnixEpoch => "system clock is before the Unix epoch"
  | .outOfRange => "Unix timestamp is outside the supported signed 64-bit millisecond range"
  | .systemTime => "system clock operation failed"

structure AkamaiConfig where
  scope : String
  liveEnabled : Bool
  loopbackApi : Bool
  reapOrphansOnStart : Bool
  allowedRegions : List String
  allowedImages : List String
  allowedInstanceTypes : List String
  allowedFirewallIds : List UInt64
  maxActiveInstances : Nat
  maxInstanceLifetimeMillis : Nat

def AkamaiConfig.mutationsEnabled (config : AkamaiConfig) : Bool :=
  config.liveEnabled || config.loopbackApi

inductive DiskEncryption where
  | enabled
  | disabled
  deriving DecidableEq, Repr

structure UserData where
  computeInstanceId : ComputeInstanceId
  serverInstanceId : ServerInstanceId
  enrollmentToken : String
  providerScope : String
  deriving DecidableEq

structure ProviderInstance where
  id : Nat
  label : String
  region : String
  instanceType : String
  image : String
  diskEncryption : DiskEncryption
  ipv4 : List String
  tags : List String
  userData : Option UserData
  deriving DecidableEq

structure ProviderImage where
  id : String
  status : String
  deprecated : Bool
  capabilities : List String

structure ProviderRegion where
  id : String
  capabilities : List String

structure ProviderFirewall where
  id : UInt64
  status : String

structure CreateInstanceRequest where
  region : String
  instanceType : String
  image : String
  label : String
  tags : List String
  firewallId : UInt64
  diskEncryption : DiskEncryption
  userData : UserData
  deriving DecidableEq

inductive InstanceFilter where
  | managed
  | label (label : String)
  deriving DecidableEq

structure ListInstancesResponse where
  data : List ProviderInstance
  pages : Nat

def managedTag : String := "mcserver-managed"
def pageSize : Nat := 500

def providerLabel (computeId : ComputeInstanceId) : String := "mcserver-" ++ computeId.uuid.hyphenated

def scopeTag (scope : String) : String := "mcserver-scope-" ++ scope

def ProviderInstance.isOwnedBy (provider : ProviderInstance) (expectedLabel expectedScope : String) :
    Bool :=
  provider.label = expectedLabel && provider.tags.contains managedTag &&
    provider.tags.contains expectedScope

inductive ProviderOp where
  | listInstances (filter : InstanceFilter) (page : Nat)
  | getInstance (id : Nat)
  | createInstance (request : CreateInstanceRequest)
  | deleteInstance (id : Nat)
  | getImage (id : String)
  | getRegion (id : String)
  | getType (id : String)
  | getFirewall (id : UInt64)
  | listFirewalls (providerInstanceId : Nat)
  deriving DecidableEq

inductive RequestError where
  | http
  | api (status : Nat) (message : String)
  | rateLimited (retryAfterSeconds : Option Nat) (message : String)
  | serialization
  deriving DecidableEq, Repr

def ProviderOp.Value : ProviderOp → Type
  | .listInstances _ _ => ListInstancesResponse
  | .getInstance _ => Option ProviderInstance
  | .createInstance _ => ProviderInstance
  | .deleteInstance _ => Unit
  | .getImage _ => ProviderImage
  | .getRegion _ => ProviderRegion
  | .getType _ => String
  | .getFirewall _ => ProviderFirewall
  | .listFirewalls _ => List ProviderFirewall

structure ProviderAnswers where
  image : ProviderImage
  region : ProviderRegion
  instanceType : String
  firewall : ProviderFirewall
  firewalls : List ProviderFirewall
  ipv4 : List String
  error : RequestError

structure Provider where
  instances : List ProviderInstance
  nextId : Nat

namespace Provider

-- The filter on tags also lets longer tags through; the client drops those.
def matching (provider : Provider) : InstanceFilter → List ProviderInstance
  | .managed => provider.instances.filter fun vm => vm.tags.contains managedTag
  | .label label => provider.instances.filter fun vm => vm.label = label

def page (provider : Provider) (filter : InstanceFilter) (number : Nat) : ListInstancesResponse :=
  let found := provider.matching filter
  { data := (found.drop ((number - 1) * pageSize)).take pageSize
    pages := (found.length + (pageSize - 1)) / pageSize }

def create (provider : Provider) (request : CreateInstanceRequest) (ipv4 : List String) :
    ProviderInstance × Provider :=
  let vm : ProviderInstance :=
    { id := provider.nextId, label := request.label, region := request.region
      instanceType := request.instanceType, image := request.image
      diskEncryption := request.diskEncryption, ipv4, tags := request.tags
      userData := some request.userData }
  (vm, { instances := provider.instances ++ [vm], nextId := provider.nextId + 1 })

def delete (provider : Provider) (id : Nat) : Provider :=
  { provider with instances := provider.instances.filter fun vm => vm.id ≠ id }

def find (provider : Provider) (id : Nat) : Option ProviderInstance :=
  provider.instances.find? fun vm => vm.id = id

-- Identifiers are unsigned 64-bit numbers.
def exhausted (provider : Provider) : ProviderOp → Bool
  | .createInstance _ => maximumU64 < provider.nextId
  | _ => false

def apply (op : ProviderOp) (answers : ProviderAnswers) (provider : Provider) : op.Value × Provider :=
  match op with
  | .listInstances filter number => (provider.page filter number, provider)
  | .getInstance id => (provider.find id, provider)
  | .createInstance request => provider.create request answers.ipv4
  | .deleteInstance id => ((), provider.delete id)
  | .getImage _ => (answers.image, provider)
  | .getRegion _ => (answers.region, provider)
  | .getType _ => (answers.instanceType, provider)
  | .getFirewall _ => (answers.firewall, provider)
  | .listFirewalls _ => (answers.firewalls, provider)

end Provider

inductive BootstrapError where
  | io
  | fileTooLarge (path : String) (maximum : Nat)
  | invalidAuthorizedKeysEncoding
  | noAuthorizedKeys
  | authorizedKeyContainsNul
  | caContainsNul
  | missingEnrollmentToken
  deriving DecidableEq, Repr

inductive AkamaiComputeError where
  | wrongProvider
  | liveOperationsDisabled
  | regionNotAllowed (requested : String)
  | imageNotAllowed (requested : String)
  | instanceTypeNotAllowed (requested : String)
  | firewallNotAllowed (requested : UInt64)
  | activeInstanceLimitReached (active maximum : Nat)
  | activeInstanceLimitExceeded (active maximum : Nat)
  | createConflict
  | missingAfterUpdate
  | providerInstanceLost (id : ServerInstanceId)
  | invalidProviderId
  | duplicateProviderLabel (label : String)
  | providerOwnershipMismatch (providerInstanceId : Nat) (expectedLabel : String)
  | providerConfigurationMismatch (provider : ProviderInstance) (region instanceType image : String)
  | diskEncryptionEnabled (providerInstanceId : Nat)
  | instanceTypeIdentityMismatch (expected observed : String)
  | firewallIdentityMismatch (expected observed : UInt64)
  | firewallDisabled (firewallId : UInt64) (status : String)
  | requiredFirewallMissing (providerInstanceId : Nat) (firewallId : UInt64)
  | imageIdentityMismatch (expected observed : String)
  | imageUnavailable (image status : String)
  | imageDeprecated (image : String)
  | imageMissingCloudInit (image : String)
  | regionIdentityMismatch (expected observed : String)
  | regionMissingMetadata (region : String)
  | request (source : RequestError)
  | bootstrap (source : BootstrapError)
  | repository (source : RepositoryError)
  | timestamp (source : TimestampError)

-- `{retry_after:?}` of a whole number of seconds.
def debugSeconds : Option Nat → String
  | some seconds => s!"Some({seconds}s)"
  | none => "None"

def RequestError.message : RequestError → String
  | .http => "Akamai API request failed"
  | .api status message => s!"Akamai API returned HTTP {status}: {message}"
  | .rateLimited retryAfter message =>
      s!"Akamai API rate limit reached; retry_after={debugSeconds retryAfter}: {message}"
  | .serialization => "Akamai API payload serialization failed"

def AkamaiComputeError.message : AkamaiComputeError → String
  | .wrongProvider => "Akamai provider used for a non-Akamai compute specification"
  | .liveOperationsDisabled =>
      "billable Akamai creation and startup orphan reaping are disabled; set MCSERVER_AKAMAI_LIVE_ENABLED=true after preflight"
  | .regionNotAllowed requested => s!"Akamai region is not allowed: {requested}"
  | .imageNotAllowed requested => s!"Akamai image is not allowed: {requested}"
  | .instanceTypeNotAllowed requested => s!"Akamai instance type is not allowed: {requested}"
  | .firewallNotAllowed requested => s!"Akamai firewall is not allowed: {requested}"
  | .activeInstanceLimitReached active maximum =>
      s!"Akamai managed instance limit is already reached: active={active}, maximum={maximum}"
  | .activeInstanceLimitExceeded active maximum =>
      s!"Akamai managed instance count exceeds the configured limit: active={active}, maximum={maximum}"
  | .createConflict => "active compute instance was created concurrently"
  | .missingAfterUpdate => "compute instance disappeared after provider update"
  | .providerInstanceLost id =>
      s!"Akamai VM for server instance {id.uuid.hyphenated} disappeared after writable data was prepared"
  | .invalidProviderId => "persisted Akamai provider id is invalid"
  | .duplicateProviderLabel label => s!"multiple Akamai instances use provider label {label}"
  | .providerOwnershipMismatch id expected =>
      s!"Akamai instance {id} does not have expected managed ownership label {expected}"
  | .providerConfigurationMismatch provider region instanceType image =>
      s!"Akamai instance {provider.id} configuration differs from the resolved specification: region {provider.region} (expected {region}), type {provider.instanceType} (expected {instanceType}), image {provider.image} (expected {image})"
  | .diskEncryptionEnabled id =>
      s!"Akamai instance {id} has disk encryption enabled; managed instances require disk_encryption=disabled"
  | .instanceTypeIdentityMismatch expected observed =>
      s!"Akamai instance type response identity mismatch: expected {expected}, observed {observed}"
  | .firewallIdentityMismatch expected observed =>
      s!"Akamai firewall response identity mismatch: expected {expected}, observed {observed}"
  | .firewallDisabled id status => s!"Akamai firewall {id} is not enabled; status={status}"
  | .requiredFirewallMissing id firewall =>
      s!"Akamai instance {id} is not attached to required firewall {firewall}"
  | .imageIdentityMismatch expected observed =>
      s!"Akamai image response identity mismatch: expected {expected}, observed {observed}"
  | .imageUnavailable image status => s!"Akamai image {image} is not available; status={status}"
  | .imageDeprecated image => s!"Akamai image {image} is deprecated"
  | .imageMissingCloudInit image => s!"Akamai image {image} does not advertise cloud-init support"
  | .regionIdentityMismatch expected observed =>
      s!"Akamai region response identity mismatch: expected {expected}, observed {observed}"
  | .regionMissingMetadata region => s!"Akamai region {region} does not advertise Metadata support"
  | .request source => source.message
  | .bootstrap _ => "Akamai bootstrap generation failed"
  | .repository _ => "Akamai compute persistence failed"
  | .timestamp _ => "Akamai compute timestamp failed"

end McServer.ControlPlane
