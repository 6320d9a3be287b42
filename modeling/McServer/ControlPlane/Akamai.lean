import McServer.ControlPlane.World

set_option autoImplicit false

namespace McServer.ControlPlane

open Domain Store Agent Interleaving

structure RemoteAgentConfig where
  authorizedKeysFile : String
  tlsCaCertificate : String
  certificateValidityMillis : Nat

abbrev Flow (E A : Type) := Try Op Op.Res E A

section Steps

variable {E : Type}

def db (into : RepositoryError → E) (op : DbOp) : Flow E op.Value :=
  Try.raising into (Prog.perform (Op.db op))

def clock (into : TimestampError → E) : Flow E UnixTimestampMillis :=
  Try.raising into (Prog.perform Op.clock)

def newUuid : Flow E Uuid := Try.lift (Prog.perform Op.newUuid)

def link (op : LinkOp) : Flow E op.Value := Try.lift (Prog.perform (Op.link op))

-- Two random UUIDs in simple notation.
def newConnectionToken : Flow E String := do
  let first ← newUuid
  let second ← newUuid
  return first.simple ++ second.simple

def createForInstance (into : RepositoryError → E) (instanceId : ServerInstanceId)
    (provider : ComputeProvider) (connectionToken : String) (enrollmentToken : Option String)
    (now : UnixTimestampMillis) : Flow E (Option ComputeInstance) := do
  let uuid ← newUuid
  let inserted : Bool ← db into
    (.insertCompute ⟨uuid⟩ instanceId provider connectionToken enrollmentToken now)
  if inserted then db into (.getCompute ⟨uuid⟩) else return none

def isConnected (compute : ComputeInstanceId) : Flow E Bool := link (.isConnected compute)

def call (compute : ComputeInstanceId) (command : Command) : Flow AgentCallError CommandResult := do
  let tag : Nat ← (Prog.perform (Op.link (.send compute command)) : Flow AgentCallError Nat)
  (Prog.perform (Op.link (.await compute { tag, command })) : Flow AgentCallError CommandResult)

end Steps

namespace AkamaiClient

def request (op : ProviderOp) : Flow AkamaiComputeError op.Value :=
  Try.raising .request (Prog.perform (Op.provider op))

-- The pages from `maximumU64 - remaining` on. The page number saturates at the last `u64`, where
-- the loop ends whatever the provider says.
def listFrom (filter : InstanceFilter) (keeps : ProviderInstance → Bool) :
    Nat → List ProviderInstance → Flow AkamaiComputeError (List ProviderInstance)
  | remaining, found => do
      let page := maximumU64 - remaining
      let body : ListInstancesResponse ← request (.listInstances filter page)
      let found := found ++ body.data.filter keeps
      match remaining with
      | 0 => return found
      | remaining + 1 =>
          if max body.pages 1 ≤ page then return found else listFrom filter keeps remaining found

def listAll (filter : InstanceFilter) (keeps : ProviderInstance → Bool) :
    Flow AkamaiComputeError (List ProviderInstance) :=
  listFrom filter keeps (maximumU64 - 1) []

def listManagedInstances (scope : String) : Flow AkamaiComputeError (List ProviderInstance) :=
  listAll .managed fun vm => vm.tags.contains managedTag && vm.tags.contains (scopeTag scope)

def findInstanceByLabel (label : String) : Flow AkamaiComputeError (Option ProviderInstance) := do
  match ← listAll (.label label) fun vm => vm.label = label with
  | [] => return none
  | [vm] => return some vm
  | _ => Try.fail (.duplicateProviderLabel label)

def verifyBootstrapCompatibility (imageId regionId : String) : Flow AkamaiComputeError Unit := do
  let image : ProviderImage ← request (.getImage imageId)
  Try.failIf (image.id ≠ imageId) (.imageIdentityMismatch imageId image.id)
  Try.failIf (image.status ≠ "available") (.imageUnavailable imageId image.status)
  Try.failIf (image.deprecated) (.imageDeprecated imageId)
  Try.failIf (!image.capabilities.contains "cloud-init") (.imageMissingCloudInit imageId)
  let region : ProviderRegion ← request (.getRegion regionId)
  Try.failIf (region.id ≠ regionId) (.regionIdentityMismatch regionId region.id)
  Try.failIf (!region.capabilities.contains "Metadata") (.regionMissingMetadata regionId)

def verifyInstanceType (typeId : String) : Flow AkamaiComputeError Unit := do
  let observed : String ← request (.getType typeId)
  Try.failIf (observed ≠ typeId) (.instanceTypeIdentityMismatch typeId observed)

def verifyFirewall (firewallId : UInt64) : Flow AkamaiComputeError Unit := do
  let firewall : ProviderFirewall ← request (.getFirewall firewallId)
  Try.failIf (firewall.id ≠ firewallId) (.firewallIdentityMismatch firewallId firewall.id)
  Try.failIf (firewall.status ≠ "enabled") (.firewallDisabled firewallId firewall.status)

def verifyInstanceFirewall (providerInstanceId : Nat) (firewallId : UInt64) :
    Flow AkamaiComputeError Unit := do
  let firewalls : List ProviderFirewall ← request (.listFirewalls providerInstanceId)
  match firewalls.find? fun value => value.id = firewallId with
  | none => Try.fail (.requiredFirewallMissing providerInstanceId firewallId)
  | some firewall =>
      Try.failIf (firewall.status ≠ "enabled") (.firewallDisabled firewallId firewall.status)

end AkamaiClient

namespace ProviderInstance

def verifyConfiguration (provider : ProviderInstance) (region instanceType image : String) :
    Except AkamaiComputeError Unit :=
  if provider.region ≠ region ∨ provider.instanceType ≠ instanceType ∨ provider.image ≠ image then
    .error (.providerConfigurationMismatch provider region instanceType image)
  else if provider.diskEncryption ≠ .disabled then .error (.diskEncryptionEnabled provider.id)
  else .ok ()

def isPublicAddress (address : String) : Bool :=
  let octet (digits : List Char) := Nat.ofDigitChars 10 digits 0
  ComputeInstance.isIpv4 address &&
    match (address.toList.splitOn '.').map octet with
    | first :: second :: _ =>
        !(first == 10 || (first == 172 && 16 ≤ second && second ≤ 31) ||
          (first == 192 && second == 168) || first == 127)
    | _ => false

def publicIpv4 (provider : ProviderInstance) : Option String := provider.ipv4.find? isPublicAddress

end ProviderInstance

structure BootstrapArtifacts where
  authorizedKeys : List String
  userData : UserData

def maxAuthorizedKeysBytes : Nat := 64 * 1024
def maxCaBytes : Nat := 1024 * 1024

def readBoundedFile (path : String) (maximum : Nat) : Flow BootstrapError String :=
  Prog.perform (Op.readBounded path maximum)

def readAuthorizedKeys (path : String) : Flow BootstrapError (List String) := do
  let text ← readBoundedFile path maxAuthorizedKeysBytes
  let keys := ((Text.splitAt '\n' text).map Text.trim).filter fun line =>
    !line.toList.isEmpty && line.toList.head? != some '#'
  Try.failIf (keys.isEmpty) .noAuthorizedKeys
  Try.failIf (keys.any Text.containsNul) .authorizedKeyContainsNul
  return keys

def buildBootstrap (remote : RemoteAgentConfig) (providerScope : String) (found : ServerInstance)
    (compute : ComputeInstance) : Flow BootstrapError BootstrapArtifacts := do
  let authorizedKeys ← readAuthorizedKeys remote.authorizedKeysFile
  let ca ← readBoundedFile remote.tlsCaCertificate maxCaBytes
  Try.failIf (Text.containsNul ca) .caContainsNul
  match compute.enrollmentToken with
  | none => Try.fail .missingEnrollmentToken
  | some enrollmentToken =>
      return { authorizedKeys
               userData := { computeInstanceId := compute.id, serverInstanceId := found.id
                             enrollmentToken, providerScope } }

structure AkamaiManager where
  config : AkamaiConfig
  remote : RemoteAgentConfig

structure AkamaiSpec where
  region : String
  instanceType : String
  image : String
  firewallId : UInt64

namespace AkamaiManager

variable (manager : AkamaiManager)

def lifetimeExceeded (compute : ComputeInstance) (now : UnixTimestampMillis) : Bool :=
  compute.provider = .akamai &&
    min manager.config.maxInstanceLifetimeMillis maximumI64 ≤ now - compute.createdAt

def requireLiveOperationsEnabled : Except AkamaiComputeError Unit :=
  if manager.config.mutationsEnabled then .ok () else .error .liveOperationsDisabled

def validateSpec (spec : AkamaiSpec) : Except AkamaiComputeError Unit :=
  if !manager.config.allowedRegions.contains spec.region then .error (.regionNotAllowed spec.region)
  else if !manager.config.allowedImages.contains spec.image then .error (.imageNotAllowed spec.image)
  else if !manager.config.allowedInstanceTypes.contains spec.instanceType then
    .error (.instanceTypeNotAllowed spec.instanceType)
  else if !manager.config.allowedFirewallIds.contains spec.firewallId then
    .error (.firewallNotAllowed spec.firewallId)
  else .ok ()

def tag : String := scopeTag manager.config.scope

def verifyProviderConfiguration (provider : ProviderInstance) (spec : AkamaiSpec) :
    Flow AkamaiComputeError Unit := do
  Try.ofExcept (provider.verifyConfiguration spec.region spec.instanceType spec.image)
  AkamaiClient.verifyInstanceFirewall provider.id spec.firewallId

def createInstance (label : String) (spec : AkamaiSpec) (found : ServerInstance)
    (compute : ComputeInstance) : Flow AkamaiComputeError ProviderInstance := do
  Try.ofExcept manager.requireLiveOperationsEnabled
  AkamaiClient.verifyBootstrapCompatibility spec.image spec.region
  AkamaiClient.verifyInstanceType spec.instanceType
  AkamaiClient.verifyFirewall spec.firewallId
  let active := (← AkamaiClient.listManagedInstances manager.config.scope).length
  Try.failIf (manager.config.maxActiveInstances ≤ active)
    (.activeInstanceLimitReached active manager.config.maxActiveInstances)
  let bootstrap ← Try.raising .bootstrap
    (buildBootstrap manager.remote manager.config.scope found compute)
  let provider : ProviderInstance ← AkamaiClient.request (.createInstance
    { region := spec.region, instanceType := spec.instanceType, image := spec.image, label
      tags := [managedTag, manager.tag], firewallId := spec.firewallId
      diskEncryption := .disabled, userData := bootstrap.userData })
  verifyProviderConfiguration provider spec
  return provider

def findOrCreateInstance (label : String) (spec : AkamaiSpec) (found : ServerInstance)
    (compute : ComputeInstance) (allowCreate : Bool) : Flow AkamaiComputeError ProviderInstance := do
  match ← AkamaiClient.findInstanceByLabel label with
  | some existing =>
      Try.failIf (!existing.isOwnedBy label manager.tag)
        (.providerOwnershipMismatch existing.id label)
      verifyProviderConfiguration existing spec
      return existing
  | none =>
      if !allowCreate then Try.fail (.providerInstanceLost found.id)
      else manager.createInstance label spec found compute

def obtainCompute (found : ServerInstance) (now : UnixTimestampMillis) :
    Flow AkamaiComputeError (ComputeInstance × Bool) := do
  let existing : Option ComputeInstance ← db .repository (.getActiveCompute found.id)
  match existing with
  | some compute =>
      if compute.provider = .akamai then return (compute, false) else Try.fail .wrongProvider
  | none =>
      Try.ofExcept manager.requireLiveOperationsEnabled
      let connectionToken ← newConnectionToken
      let enrollmentToken ← newConnectionToken
      let created ← createForInstance .repository found.id .akamai connectionToken
        (some enrollmentToken) now
      match created with
      | some compute => return (compute, true)
      | none => Try.fail .createConflict

def obtainProvider (spec : AkamaiSpec) (found : ServerInstance) (compute : ComputeInstance) :
    Flow AkamaiComputeError ProviderInstance := do
  let label := providerLabel compute.id
  let allowCreate := found.dataPreparedAt.isNone
  match compute.providerInstanceId with
  | none => manager.findOrCreateInstance label spec found compute allowCreate
  | some recorded =>
      match Text.parseU64 recorded with
      | none => Try.fail .invalidProviderId
      | some providerId =>
          let current : Option ProviderInstance ← AkamaiClient.request (.getInstance providerId)
          match current with
          | some provider =>
              if provider.isOwnedBy label manager.tag then
                verifyProviderConfiguration provider spec
                return provider
              else Try.fail (.providerOwnershipMismatch provider.id label)
          -- The recorded machine no longer exists: adopt one with the label, or create anew.
          | none => manager.findOrCreateInstance label spec found compute allowCreate

def recordProvider (compute : ComputeInstance) (provider : ProviderInstance) :
    Flow AkamaiComputeError Bool := do
  if compute.providerInstanceId = some (toString provider.id) ∧
      compute.publicIpv4 = provider.publicIpv4 then return false
  let observedAt ← clock .timestamp
  let recorded : Bool ← db .repository
    (.recordProviderInstance compute.id (toString provider.id) provider.publicIpv4 observedAt)
  if recorded then return true else Try.fail .missingAfterUpdate

def ensureForInstance (found : ServerInstance) (now : UnixTimestampMillis) :
    Flow AkamaiComputeError (ComputeInstance × Bool) := do
  match found.resolvedSpec.compute with
  | .local => Try.fail .wrongProvider
  | .akamai region instanceType image firewallId =>
      let spec : AkamaiSpec := { region, instanceType, image, firewallId }
      Try.ofExcept (manager.validateSpec spec)
      let (compute, created) ← manager.obtainCompute found now
      let provider ← manager.obtainProvider spec found compute
      let recorded ← recordProvider compute provider
      let refreshed : Option ComputeInstance ← db .repository (.getCompute compute.id)
      match refreshed with
      | some compute => return (compute, created || recorded)
      | none => Try.fail .missingAfterUpdate

-- The shutdown request is best effort: its failure is only logged.
def requestNodeShutdown {E : Type} (compute : ComputeInstanceId) : Flow E Unit := do
  if ← isConnected compute then
    Try.lift (Prog.bind (call compute .shutdown) fun _ => .done ())

def providerToDelete (compute : ComputeInstance) : Flow AkamaiComputeError (Option Nat) := do
  let label := providerLabel compute.id
  match compute.providerInstanceId with
  | some recorded =>
      match Text.parseU64 recorded with
      | none => Try.fail .invalidProviderId
      | some providerId =>
          let current : Option ProviderInstance ← AkamaiClient.request (.getInstance providerId)
          match current with
          | some provider =>
              if provider.isOwnedBy label manager.tag then return some providerId
              else Try.fail (.providerOwnershipMismatch provider.id label)
          | none => return none
  | none =>
      match ← AkamaiClient.findInstanceByLabel label with
      | some provider =>
          if provider.isOwnedBy label manager.tag then return some provider.id
          else Try.fail (.providerOwnershipMismatch provider.id label)
      | none => return none

def deleteProvider (target : Option Nat) : Flow AkamaiComputeError Unit :=
  match target with
  | some providerId => AkamaiClient.request (.deleteInstance providerId)
  | none => return ()

def delete (compute : ComputeInstance) : Flow AkamaiComputeError Bool := do
  Try.failIf (compute.provider ≠ .akamai) .wrongProvider
  let now ← clock .timestamp
  let _ : Bool ← db .repository (.requestShutdown compute.id now)
  requestNodeShutdown compute.id
  let target ← manager.providerToDelete compute
  deleteProvider target
  let deletedAt ← clock .timestamp
  db .repository (.terminateCompute compute.id .deleted none deletedAt)

def labelledCompute (vm : ProviderInstance) : Option Uuid :=
  (Text.stripStart "mcserver-" vm.label).bind Uuid.parse

def reapOne (active : List ComputeInstance) (vm : ProviderInstance) : Flow AkamaiComputeError Unit :=
  match labelledCompute vm with
  | none => AkamaiClient.request (.deleteInstance vm.id)
  | some uuid =>
      match active.find? fun compute => compute.id.uuid = uuid with
      | none => AkamaiClient.request (.deleteInstance vm.id)
      | some compute =>
          match compute.providerInstanceId with
          | none => do
              let now ← clock .timestamp
              let _ : Bool ← db .repository
                (.recordProviderInstance compute.id (toString vm.id) vm.publicIpv4 now)
              return ()
          | some recorded =>
              if Text.parseU64 recorded = some vm.id then return ()
              else AkamaiClient.request (.deleteInstance vm.id)

def reapEach (active : List ComputeInstance) : List ProviderInstance → Flow AkamaiComputeError Unit
  | [] => return ()
  | vm :: rest => do
      reapOne active vm
      reapEach active rest

def reapOrphans (active : List ComputeInstance) : Flow AkamaiComputeError Unit := do
  Try.ofExcept manager.requireLiveOperationsEnabled
  let managed ← AkamaiClient.listManagedInstances manager.config.scope
  reapEach active managed

end AkamaiManager

end McServer.ControlPlane
