import McServer.ControlPlane.AgentServer
import McServer.ControlPlane.Config
import McServer.Library.Accepts

set_option autoImplicit false

namespace McServer.System

open Domain ControlPlane Outcome

def appliedConfig (akamai : Config.AkamaiConfig) : AkamaiConfig where
  scope := akamai.scope
  liveEnabled := akamai.liveEnabled
  loopbackApi := akamai.loopbackApi
  reapOrphansOnStart := akamai.reapOrphansOnStart
  allowedRegions := akamai.allowedRegions
  allowedImages := akamai.allowedImages
  allowedInstanceTypes := akamai.allowedInstanceTypes
  allowedFirewallIds := akamai.allowedFirewallIds.map UInt64.ofNat
  maxActiveInstances := akamai.maxActiveInstances
  maxInstanceLifetimeMillis := akamai.maxInstanceLifetime * 1000

-- `as_secs().div_ceil(24 * 60 * 60).max(1)`, the `-days` of the X.509 certificate
def validityDays (validity : Nat) : Nat := max ((validity + (86400 - 1)) / 86400) 1

def FirstExceeded (manager : AkamaiManager) (compute : ComputeInstance) (moment : UnixTimestampMillis) : Prop :=
  manager.lifetimeExceeded compute moment = true ∧
    ∀ earlier < moment, manager.lifetimeExceeded compute earlier = false

theorem le_validityDays (validity : Nat) : validity ≤ validityDays validity * 86400 := by
  unfold validityDays
  omega

structure Covering (akamai : Config.AkamaiConfig) (r2 : Config.R2Config) (agentCommandTimeout : Nat) :
    Prop where
  longest : r2.temporaryCredentialTtl ≤ 604800
  covers : akamai.maxInstanceLifetime + agentCommandTimeout ≤ r2.temporaryCredentialTtl

theorem accepts_checkCredentialTtl_covers {lifetime agentCommandTimeout ttl : Nat} {post : Unit → Prop}
    (accepted : Accepts (Config.checkCredentialTtl lifetime agentCommandTimeout ttl) post) :
    ttl ≤ 604800 ∧ lifetime + agentCommandTimeout ≤ ttl ∧ post () := by
  unfold Config.checkCredentialTtl at accepted
  rw [accepts_refuse] at accepted
  obtain ⟨short, accepted⟩ := accepted
  cases total : checkedAdd lifetime (max agentCommandTimeout Config.agentCertificateShutdownBufferSeconds) with
  | none => simp [total] at accepted
  | some minimum =>
    rw [total] at accepted
    simp only [accepts_refuse, accepts_ok] at accepted
    have sum := checkedAdd_eq total
    have atLeast := Nat.le_max_left agentCommandTimeout Config.agentCertificateShutdownBufferSeconds
    refine ⟨Nat.not_lt.mp short, ?_, accepted.2⟩
    omega

theorem covering_of_accepted {environment : Config.Environment} {akamai : Config.AkamaiConfig}
    {r2 : Config.R2Config} {agentCommandTimeout : Nat}
    (accepted : Config.r2Config environment (some akamai) agentCommandTimeout = .ok (some r2)) :
    Covering akamai r2 agentCommandTimeout := by
  have holds : Accepts (Config.r2Config environment (some akamai) agentCommandTimeout) (· = some r2) :=
    ⟨_, accepted, rfl⟩
  rw [Config.r2Config, accepts_bind] at holds
  obtain ⟨token, _, holds⟩ := holds
  cases token with
  | none =>
    simp only [accepts_bind] at holds
    have last := holds.unit
    rw [accepts_throwIf] at last
    exact absurd rfl last.1
  | some token =>
    simp only [accepts_bind] at holds
    have holds := holds.unit
    obtain ⟨loopback, _, holds⟩ := holds
    obtain ⟨account, _, holds⟩ := holds
    have holds := holds.unit
    obtain ⟨parent, _, holds⟩ := holds
    obtain ⟨bucket, _, holds⟩ := holds
    have holds := holds.unit
    obtain ⟨ttl, _, holds⟩ := holds
    obtain ⟨longest, covers, holds⟩ := accepts_checkCredentialTtl_covers holds
    obtain ⟨path, _, holds⟩ := holds
    obtain ⟨runtime, _, holds⟩ := holds
    obtain ⟨timeout, _, holds⟩ := holds
    rw [accepts_pure, Option.some.injEq] at holds
    rw [← holds]
    exact ⟨longest, covers⟩

theorem expiresAt_of_certificate {validityMillis : Nat} {files : SignedFiles} {issuedAt : UnixTimestampMillis}
    {signed : SignedAgentCertificate}
    (issued : AgentCertificateAuthority.certificate validityMillis files issuedAt = .ok signed) :
    signed.expiresAt = issuedAt + validityMillis ∧ issuedAt + validityMillis ≤ maximumI64 := by
  have holds : Accepts (AgentCertificateAuthority.certificate validityMillis files issuedAt) (· = signed) :=
    ⟨_, issued, rfl⟩
  simp only [AgentCertificateAuthority.certificate, accepts_refuse, accepts_ok, not_or, Nat.not_lt] at holds
  obtain ⟨_, _, ⟨_, range⟩, rfl⟩ := holds
  exact ⟨rfl, range⟩

theorem firstExceeded_le {manager : AkamaiManager} {compute : ComputeInstance} {moment : UnixTimestampMillis}
    (akamai : compute.provider = .akamai) (first : FirstExceeded manager compute moment) :
    moment ≤ compute.createdAt + manager.config.maxInstanceLifetimeMillis := by
  by_contra late
  have before := first.2 _ (Nat.not_le.mp late)
  simp only [AkamaiManager.lifetimeExceeded, akamai, decide_true, Bool.true_and, decide_eq_false_iff_not] at before
  omega

theorem outlasts {moment created issued lifetime timeout span : Nat} (reached : moment ≤ created + lifetime * 1000)
    (later : created ≤ issued) (enough : lifetime + timeout ≤ span) :
    moment + timeout * 1000 ≤ issued + span * 1000 := by
  omega

namespace Sample

def rented : ComputeInstance where
  id := ⟨1⟩
  serverInstanceId := ⟨2⟩
  provider := .akamai
  providerInstanceId := some "123"
  publicIpv4 := none
  connectionToken := "token"
  enrollmentToken := none
  processId := none
  agentConnectedAt := none
  shutdownRequestedAt := none
  terminatedAt := none
  terminalResult := none
  failureMessage := none
  createdAt := 0
  updatedAt := 0

def bootstrap : RemoteAgentConfig :=
  { authorizedKeysFile := "", tlsCaCertificate := "", certificateValidityMillis := 0 }

theorem rented_first (config : AkamaiConfig) (moderate : config.maxInstanceLifetimeMillis ≤ maximumI64) :
    FirstExceeded { config, remote := bootstrap } rented config.maxInstanceLifetimeMillis := by
  constructor
  · simp [AkamaiManager.lifetimeExceeded, rented]
  · intro earlier before
    simp only [AkamaiManager.lifetimeExceeded, rented, Nat.sub_zero, decide_true, Bool.true_and,
      decide_eq_false_iff_not, Nat.min_eq_left moderate, Nat.not_le]
    exact before

theorem issued_at_zero {validityMillis : Nat} (signable : validityMillis ≤ maximumI64) :
    AgentCertificateAuthority.certificate validityMillis ⟨"", "", []⟩ 0 =
      .ok { certificateChainPem := "\n", leafDer := [], expiresAt := validityMillis } := by
  have small : ¬(maximumI64 < validityMillis ∨ maximumI64 < 0 + validityMillis) := by omega
  unfold AgentCertificateAuthority.certificate
  rw [if_neg (by decide), if_neg (by decide), if_neg small, Nat.zero_add]
  rfl

end Sample

structure Window (remote : Config.RemoteAgentConfig) (akamai : Config.AkamaiConfig) (r2 : Config.R2Config)
    (agentCommandTimeout : Nat) (signed : SignedAgentCertificate)
    (issuedAt credentialsAt moment : UnixTimestampMillis) : Prop where
  lifetimeRange : akamai.maxInstanceLifetime * 1000 ≤ maximumI64
  certificateRange : issuedAt + remote.certificateValidity * 1000 ≤ maximumI64
  momentRange : moment + agentCommandTimeout * 1000 ≤ maximumI64
  certificate : moment + agentCommandTimeout * 1000 ≤ signed.expiresAt
  x509 : moment + agentCommandTimeout * 1000 ≤ issuedAt + validityDays remote.certificateValidity * 86400 * 1000
  credentials : moment + agentCommandTimeout * 1000 ≤ credentialsAt + r2.temporaryCredentialTtl * 1000

theorem shutdown_window_iff (environment : Config.Environment) (remote : Config.RemoteAgentConfig)
    (akamai : Config.AkamaiConfig) (r2 : Config.R2Config) (agentCommandTimeout : Nat) :
    Config.akamaiConfig environment (some remote) = .ok (some akamai) →
    Config.r2Config environment (some akamai) agentCommandTimeout = .ok (some r2) →
    ((∀ (bootstrap : RemoteAgentConfig) (compute : ComputeInstance) (files : SignedFiles)
        (signed : SignedAgentCertificate) (issuedAt credentialsAt moment : UnixTimestampMillis),
      compute.provider = .akamai → compute.createdAt ≤ issuedAt → compute.createdAt ≤ credentialsAt →
      AgentCertificateAuthority.certificate (remote.certificateValidity * 1000) files issuedAt = .ok signed →
      FirstExceeded { config := appliedConfig akamai, remote := bootstrap } compute moment →
      Window remote akamai r2 agentCommandTimeout signed issuedAt credentialsAt moment) ↔
    akamai.maxInstanceLifetime + agentCommandTimeout ≤ remote.certificateValidity) := by
  intro _ accepted
  obtain ⟨longest, covers⟩ := covering_of_accepted accepted
  have days := le_validityDays remote.certificateValidity
  have range : 604800000 ≤ maximumI64 := by decide
  have moderate : akamai.maxInstanceLifetime * 1000 ≤ maximumI64 := Nat.le_trans (by omega) range
  constructor
  · intro every
    by_cases signable : remote.certificateValidity * 1000 ≤ maximumI64
    · have window := every Sample.bootstrap Sample.rented _ _ 0 0 _ rfl (Nat.le_refl 0) (Nat.le_refl 0)
        (Sample.issued_at_zero signable) (Sample.rented_first (appliedConfig akamai) moderate)
      have left : akamai.maxInstanceLifetime * 1000 + agentCommandTimeout * 1000 ≤
          remote.certificateValidity * 1000 := window.certificate
      omega
    · have long := Nat.le_trans range (Nat.le_of_not_le signable)
      omega
  · intro enough bootstrap compute files signed issuedAt credentialsAt moment provider certified credited
      issued first
    obtain ⟨expires, fits⟩ := expiresAt_of_certificate issued
    have reached : moment ≤ compute.createdAt + akamai.maxInstanceLifetime * 1000 :=
      firstExceeded_le provider first
    have certificate := outlasts reached certified enough
    refine ⟨moderate, fits, Nat.le_trans certificate fits, expires ▸ certificate, ?_, ?_⟩
    · exact outlasts reached certified (Nat.le_trans enough days)
    · exact outlasts reached credited covers

namespace Sample

def expiring (lifetime ttl : String) : Config.Environment where
  value
    | .akamaiApiToken => some "token"
    | .akamaiAuthorizedKeysFile => some "authorized_keys"
    | .akamaiAllowedFirewallIds => some "1"
    | .akamaiMaxInstanceLifetimeSeconds => some lifetime
    | .r2ApiToken => some "token"
    | .r2AccountId => some "0123456789abcdef0123456789abcdef"
    | .r2ParentAccessKeyId => some "key"
    | .r2Bucket => some "minecraft"
    | .r2TemporaryCredentialTtlSeconds => some ttl
    | .r2RuntimeEnvironmentFile => some "r2.env"
    | _ => none
  file _ := some (.text "AWS_DEFAULT_REGION=auto")
  parseUrl := ControlPlane.Sample.parseHttps
  parseSocketAddr _ := none
  isLoopbackIp _ := false

def remote : Config.RemoteAgentConfig where
  listenAddress := ⟨false, 443⟩
  publicAddress := "mc.example.com:443"
  tlsServerName := "mc.example.com"
  tlsCertificate := "tls.pem"
  tlsPrivateKey := "tls.key"
  tlsCaCertificate := "ca.pem"
  clientCaCertificate := "client.pem"
  clientCaPrivateKey := "client.key"
  certificateWorkDirectory := "work"
  certificateValidity := 172800
  opensslBinary := "openssl"
  trustDomain := "example.com"
  nodeAgentDownloadUrl := "https://example.com/agent"
  nodeAgentSha256 := ""
  maxFrameBytes := 1048576
  nodeOperationTimeout := 895

def akamai (lifetime : Nat) : Config.AkamaiConfig where
  apiToken := "token"
  apiBaseUrl := "https://api.linode.com/v4"
  authorizedKeysFile := "authorized_keys"
  scope := "default"
  requestTimeout := 30
  reapOrphansOnStart := false
  liveEnabled := false
  allowedRegions := ["jp-tyo-3"]
  allowedImages := ["linode/debian13"]
  allowedInstanceTypes := ["g6-nanode-1"]
  allowedFirewallIds := [1]
  maxActiveInstances := 1
  maxInstanceLifetime := lifetime
  loopbackApi := false

def r2 (ttl : Nat) : Config.R2Config where
  apiToken := "token"
  apiBaseUrl := "https://api.cloudflare.com/client/v4"
  accountId := "0123456789abcdef0123456789abcdef"
  parentAccessKeyId := "key"
  bucket := "minecraft"
  temporaryCredentialTtl := ttl
  runtimeEnvironmentFile := "r2.env"
  runtimeEnvironment := [("AWS_DEFAULT_REGION", "auto")]
  requestTimeout := 30
  loopbackApi := false

end Sample

theorem shutdown_window_at_default : Window Sample.remote (Sample.akamai 43200) (Sample.r2 46800) 900
      { certificateChainPem := "\n", leafDer := [], expiresAt := 172800000 } 0 0 43200000 :=
  (shutdown_window_iff (Sample.expiring "43200" "46800") Sample.remote (Sample.akamai 43200) (Sample.r2 46800)
    900 (by decide +kernel) (by decide +kernel)).mpr (by decide) Sample.bootstrap Sample.rented
      ⟨"", "", []⟩ _ 0 0 _ rfl (Nat.le_refl 0) (Nat.le_refl 0) (Sample.issued_at_zero (by decide))
      (Sample.rented_first (appliedConfig (Sample.akamai 43200)) (by decide))

theorem certificate_expires_in_shutdown :
    Config.akamaiConfig (Sample.expiring "169200" "300000") (some Sample.remote) =
        .ok (some (Sample.akamai 169200)) ∧
      Config.r2Config (Sample.expiring "169200" "300000") (some (Sample.akamai 169200)) 7200 =
        .ok (some (Sample.r2 300000)) ∧
      FirstExceeded { config := appliedConfig (Sample.akamai 169200), remote := Sample.bootstrap } Sample.rented
        169200000 ∧
      AgentCertificateAuthority.certificate (Sample.remote.certificateValidity * 1000) ⟨"", "", []⟩
          Sample.rented.createdAt =
        .ok { certificateChainPem := "\n", leafDer := [], expiresAt := 172800000 } ∧
      172800000 < 169200000 + 7200 * 1000 :=
  ⟨by decide +kernel, by decide +kernel, Sample.rented_first (appliedConfig (Sample.akamai 169200)) (by decide),
    Sample.issued_at_zero (by decide), by decide⟩

end McServer.System
