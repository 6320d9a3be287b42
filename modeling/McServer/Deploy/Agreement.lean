import McServer.Deploy.Acceptance
import McServer.Library.Lines

set_option autoImplicit false

namespace McServer.Deploy

open Domain ControlPlane ControlPlane.Config Outcome

-- The defaults are for values that a checked document has.
def text (table : Table) (key : String) : String :=
  match table.lookup key with
  | some (.string value) => value
  | _ => ""

def number (table : Table) (key : String) : Nat := ((table.lookup key).bind positive).getD 0

def elements {A : Type} (element : Toml → Option A) (table : Table) (key : String) : List A :=
  match table.lookup key with
  | some (.array items) => items.filterMap element
  | _ => []

def names (table : Table) (key : String) : List String := elements identifier table key

def numbers (table : Table) (key : String) : List Nat := elements positive table key

structure IsText (table : Table) (key : String) : Prop where
  present : table.lookup key = some (.string (text table key))
  nonblank : (strip (text table key)).toList ≠ []
  permitted : (text table key).toList.any isForbidden = false

structure IsNumber (table : Table) (key : String) : Prop where
  present : table.lookup key = some (.integer (number table key))
  positive : 0 < number table key

structure IsArray {A : Type} (element : Toml → Option A) (asToml : A → Toml) (table : Table) (key : String) :
    Prop where
  present : table.lookup key = some (.array ((elements element table key).map asToml))
  nonempty : elements element table key ≠ []
  valid : ∀ value ∈ elements element table key, element (asToml value) = some value

section Document

variable {table : Table} {key tableName : String}

theorem accepts_requireString {post : String → Prop}
    (accepted : Accepts (requireString table key tableName) post) :
    IsText table key ∧ post (text table key) := by
  unfold requireString at accepted
  split at accepted
  · rename_i value found
    have same : text table key = value := by simp [text, found]
    simp only [accepts_refuse, accepts_ok] at accepted
    obtain ⟨nonblank, permitted, _, holds⟩ := accepted
    refine ⟨⟨?_, ?_, ?_⟩, ?_⟩
    · rw [same, found]
    · simpa [same] using nonblank
    · simpa [same] using permitted
    · rw [same]
      exact holds
  · exact absurd accepted (by simp)

theorem accepts_requirePositiveInt {post : Nat → Prop}
    (accepted : Accepts (requirePositiveInt table key tableName) post) :
    IsNumber table key ∧ post (number table key) := by
  unfold requirePositiveInt at accepted
  split at accepted
  · rename_i value found
    have same : number table key = value := by simp [number, found]
    obtain ⟨toml, present, valid⟩ := Option.bind_eq_some_iff.mp found
    cases toml with
    | integer whole =>
      simp only [positive] at valid
      split_ifs at valid with sign
      have natural : (value : Int) = whole := by
        rw [← Option.some.inj valid]
        omega
      refine ⟨⟨?_, ?_⟩, ?_⟩
      · rw [same, natural, present]
      · rw [same]
        omega
      · rw [same]
        exact accepts_ok.mp accepted
    | _ => cases valid
  · exact absurd accepted (by simp)

theorem mapM_elements {A : Type} {element : Toml → Option A} {asToml : A → Toml}
    (exact : ∀ toml value, element toml = some value → toml = asToml value) {items : List Toml}
    {values : List A} (every : items.mapM element = some values) :
    items = values.map asToml ∧ items.filterMap element = values ∧
      ∀ value ∈ values, element (asToml value) = some value := by
  induction items generalizing values with
  | nil =>
    obtain rfl : values = [] := by simpa using every.symm
    simp
  | cons item rest ih =>
    rw [List.mapM_cons] at every
    obtain ⟨value, first, others⟩ := Option.bind_eq_some_iff.mp every
    obtain ⟨remaining, later, whole⟩ := Option.bind_eq_some_iff.mp others
    obtain rfl := Option.some.inj whole
    obtain ⟨same, kept, valid⟩ := ih later
    have shape := exact item value first
    subst shape
    refine ⟨by simp [same], by simp [first, kept], ?_⟩
    intro other member
    rcases List.mem_cons.mp member with rfl | among
    · exact first
    · exact valid other among

theorem accepts_requireList {A : Type} [DecidableEq A] {element : Toml → Option A} {asToml : A → Toml}
    {kind : String} {post : List A → Prop}
    (exact : ∀ toml value, element toml = some value → toml = asToml value)
    (accepted : Accepts (requireList element kind table key tableName) post) :
    IsArray element asToml table key ∧ post (elements element table key) := by
  unfold requireList at accepted
  split at accepted
  · rename_i items found
    by_cases empty : items.isEmpty = true
    · simp [empty] at accepted
    · rw [if_neg empty] at accepted
      split at accepted
      · exact absurd accepted (by simp)
      · rename_i values every
        obtain ⟨whole, kept, valid⟩ := mapM_elements exact every
        have same : elements element table key = values := by simp [elements, found, kept]
        rw [accepts_ite] at accepted
        have distinct : values.Nodup := by
          by_contra duplicate
          exact accepts_error.mp (accepted.2 duplicate)
        refine ⟨⟨?_, ?_, ?_⟩, ?_⟩
        · rw [same, found, whole]
        · rw [same]
          intro none
          simp [whole, none] at empty
        · rw [same]
          exact valid
        · rw [same]
          exact accepts_ok.mp (accepted.1 distinct)
  · exact absurd accepted (by simp)

theorem accepts_requireStringList {post : List String → Prop}
    (accepted : Accepts (requireStringList table key tableName) post) :
    IsArray identifier Toml.string table key ∧ post (names table key) := by
  refine accepts_requireList ?_ accepted
  intro toml value valid
  cases toml with
  | string text =>
    simp only [identifier] at valid
    split_ifs at valid
    rw [Option.some.inj valid]
  | _ => cases valid

theorem accepts_requirePositiveIntList {post : List Nat → Prop}
    (accepted : Accepts (requirePositiveIntList table key tableName) post) :
    IsArray positive (fun value => Toml.integer value) table key ∧ post (numbers table key) := by
  refine accepts_requireList ?_ accepted
  intro toml value valid
  cases toml with
  | integer whole =>
    simp only [positive] at valid
    split_ifs at valid with sign
    have natural : (value : Int) = whole := by
      rw [← Option.some.inj valid]
      omega
    rw [natural]
  | _ => cases valid

theorem accepts_check {holds : Bool} {message : String} {post : Unit → Prop} :
    Accepts (check holds message) post ↔ holds = true ∧ post () := by
  cases holds <;> simp [check]

end Document

structure ValidRelease (release : Release) : Prop where
  version : isReleaseVersion release.version = true
  repository : isSafeRepository release.repository = true
  target : release.target = supportedTarget

structure ValidService (service : Table) : Prop where
  publicAddress : IsText service "public_address"
  serverName : IsText service "server_name"
  same : text service "public_address" = text service "server_name" ++ ":443"
  trustDomain : IsText service "trust_domain"
  rustLog : (service.lookup "rust_log").isSome = true → IsText service "rust_log"

structure ValidAkamai (akamai : Table) : Prop where
  scope : IsText akamai "scope"
  regions : IsArray identifier Toml.string akamai "allowed_regions"
  images : IsArray identifier Toml.string akamai "allowed_images"
  instanceTypes : IsArray identifier Toml.string akamai "allowed_instance_types"
  firewallIds : IsArray positive (fun value => Toml.integer value) akamai "allowed_firewall_ids"
  maxActiveInstances : IsNumber akamai "max_active_instances"
  one : number akamai "max_active_instances" = 1
  lifetime : IsNumber akamai "max_instance_lifetime_seconds"

structure ValidR2 (r2 : Table) (maximumLifetime : Nat) : Prop where
  accountId : IsText r2 "account_id"
  hex : isHex 32 isAsciiHexdigit (text r2 "account_id") = true
  parentAccessKeyId : IsText r2 "parent_access_key_id"
  bucket : IsText r2 "bucket"
  ttl : IsNumber r2 "temporary_credential_ttl_seconds"
  covers : maximumLifetime + 3600 ≤ number r2 "temporary_credential_ttl_seconds"
  bounded : number r2 "temporary_credential_ttl_seconds" ≤ 604800

structure Valid (config : Config) : Prop where
  release : ValidRelease config.release
  service : ValidService config.service
  akamai : ValidAkamai config.akamai
  r2 : ValidR2 config.r2 (number config.akamai "max_instance_lifetime_seconds")

section Checks

variable {table : Table} {key : String} {release : Release}

theorem accepts_validateRelease {post : Unit → Prop}
    (accepted : Accepts (validateRelease release) post) : ValidRelease release ∧ post () := by
  simp only [validateRelease, accepts_bind, accepts_check, beq_iff_eq] at accepted
  obtain ⟨version, repository, _, _, target, holds⟩ := accepted
  exact ⟨⟨version, repository, target⟩, holds⟩

theorem accepts_validateService {service : Table} {post : Unit → Prop}
    (accepted : Accepts (validateService service) post) : ValidService service ∧ post () := by
  simp only [validateService, accepts_bind, accepts_check, beq_iff_eq] at accepted
  obtain ⟨publicAddress, accepted⟩ := accepts_requireString accepted
  obtain ⟨serverName, same, accepted⟩ := accepts_requireString accepted
  obtain ⟨trustDomain, accepted⟩ := accepts_requireString accepted
  obtain ⟨_, _, accepted⟩ := accepts_requireString accepted
  by_cases logged : (service.lookup "rust_log").isSome = true
  · rw [if_pos logged, accepts_bind] at accepted
    obtain ⟨rustLog, holds⟩ := accepts_requireString accepted
    exact ⟨⟨publicAddress, serverName, same, trustDomain, fun _ => rustLog⟩, accepts_pure.mp holds⟩
  · rw [if_neg logged, accepts_pure] at accepted
    exact ⟨⟨publicAddress, serverName, same, trustDomain, fun present => absurd present logged⟩, accepted⟩

theorem accepts_validateAkamai {akamai : Table} {post : Allowed → Prop}
    (accepted : Accepts (validateAkamai akamai) post) : ValidAkamai akamai ∧
      ∃ allowed, allowed.maximumLifetime = number akamai "max_instance_lifetime_seconds" ∧ post allowed := by
  simp only [validateAkamai, accepts_bind, accepts_check, decide_eq_true_eq, accepts_pure] at accepted
  obtain ⟨scope, accepted⟩ := accepts_requireString accepted
  obtain ⟨regions, accepted⟩ := accepts_requireStringList accepted
  obtain ⟨images, accepted⟩ := accepts_requireStringList accepted
  obtain ⟨instanceTypes, accepted⟩ := accepts_requireStringList accepted
  obtain ⟨firewallIds, accepted⟩ := accepts_requirePositiveIntList accepted
  obtain ⟨maxActiveInstances, one, accepted⟩ := accepts_requirePositiveInt accepted
  obtain ⟨lifetime, holds⟩ := accepts_requirePositiveInt accepted
  exact ⟨⟨scope, regions, images, instanceTypes, firewallIds, maxActiveInstances, one, lifetime⟩, _, rfl, holds⟩

theorem accepts_validateR2 {r2 : Table} {maximumLifetime : Nat} {post : Unit → Prop}
    (accepted : Accepts (validateR2 r2 maximumLifetime) post) : ValidR2 r2 maximumLifetime ∧ post () := by
  simp only [validateR2, accepts_bind, accepts_check, Bool.and_eq_true, decide_eq_true_eq] at accepted
  obtain ⟨accountId, hex, accepted⟩ := accepts_requireString accepted
  obtain ⟨parentAccessKeyId, accepted⟩ := accepts_requireString accepted
  obtain ⟨bucket, _, accepted⟩ := accepts_requireString accepted
  obtain ⟨ttl, ⟨covers, bounded⟩, holds⟩ := accepts_requirePositiveInt accepted
  exact ⟨⟨accountId, hex, parentAccessKeyId, bucket, ttl, covers, bounded⟩, holds⟩

theorem valid_of_validateConfig {host : Host} {config : Config}
    (checked : validateConfig host config = .ok ()) : Valid config := by
  have accepted : Accepts (validateConfig host config) fun _ => True := ⟨(), checked, trivial⟩
  simp only [validateConfig, accepts_bind] at accepted
  obtain ⟨release, accepted⟩ := accepts_validateRelease accepted
  obtain ⟨service, accepted⟩ := accepts_validateService accepted
  obtain ⟨akamai, allowed, lifetime, accepted⟩ := accepts_validateAkamai accepted
  obtain ⟨r2, _⟩ := accepts_validateR2 accepted
  exact ⟨release, service, akamai, lifetime ▸ r2⟩

def rendering (config : Config) : Rendered where
  rustLog := if (config.service.lookup "rust_log").isSome then text config.service "rust_log"
    else "mcserver_control_plane=info,mcserver_protocol=info"
  publicAddress := text config.service "public_address"
  serverName := text config.service "server_name"
  trustDomain := text config.service "trust_domain"
  downloadUrl := config.release.assetUrl (config.release.assetName "mcserver-node-agent")
  scope := text config.akamai "scope"
  allowedRegions := ",".intercalate (names config.akamai "allowed_regions")
  allowedImages := ",".intercalate (names config.akamai "allowed_images")
  allowedInstanceTypes := ",".intercalate (names config.akamai "allowed_instance_types")
  allowedFirewallIds := ",".intercalate ((numbers config.akamai "allowed_firewall_ids").map toString)
  maxActiveInstances := toString (number config.akamai "max_active_instances")
  maxInstanceLifetimeSeconds := toString (number config.akamai "max_instance_lifetime_seconds")
  accountId := text config.r2 "account_id"
  parentAccessKeyId := text config.r2 "parent_access_key_id"
  bucket := text config.r2 "bucket"
  temporaryCredentialTtlSeconds := toString (number config.r2 "temporary_credential_ttl_seconds")

theorem item_text (is : IsText table key) : item table key = .ok (text table key) := by
  rw [item, is.present]
  rfl

theorem item_number (is : IsNumber table key) : item table key = .ok (toString (number table key)) := by
  rw [item, is.present]
  rfl

theorem joined_elements {A : Type} {element : Toml → Option A} {asToml : A → Toml} {asText : A → String}
    (is : IsArray element asToml table key)
    (rendered : ∀ value, (asToml value).str = .ok (asText value)) :
    joined table key = .ok (",".intercalate ((elements element table key).map asText)) := by
  have every : ∀ values : List A, (values.map asToml).mapM Toml.str = .ok (values.map asText) := by
    intro values
    induction values with
    | nil => rfl
    | cons value rest ih =>
      rw [List.map_cons, List.mapM_cons, rendered, ih]
      rfl
  rw [joined, is.present]
  simp only [every]
  rfl

theorem joined_names (is : IsArray identifier Toml.string table key) :
    joined table key = .ok (",".intercalate (names table key)) := by
  have whole : joined table key = .ok (",".intercalate ((names table key).map id)) :=
    joined_elements is fun _ => rfl
  rwa [List.map_id] at whole

theorem joined_numbers (is : IsArray positive (fun value => Toml.integer value) table key) :
    joined table key = .ok (",".intercalate ((numbers table key).map toString)) :=
  joined_elements is fun _ => rfl

theorem rustLog_valid {service : Table} (valid : ValidService service) :
    rustLog service = .ok (if (service.lookup "rust_log").isSome then text service "rust_log"
      else "mcserver_control_plane=info,mcserver_protocol=info") := by
  cases found : service.lookup "rust_log" with
  | none => simp [rustLog, found]
  | some value =>
    have present := (valid.rustLog (by simp [found])).present
    rw [rustLog, present]
    rfl

theorem render_valid {config : Config} (valid : Valid config) : render config = .ok (rendering config) := by
  unfold render
  rw [rustLog_valid valid.service, item_text valid.service.publicAddress, item_text valid.service.serverName,
    item_text valid.service.trustDomain, item_text valid.akamai.scope, joined_names valid.akamai.regions,
    joined_names valid.akamai.images, joined_names valid.akamai.instanceTypes,
    joined_numbers valid.akamai.firewallIds, item_number valid.akamai.maxActiveInstances,
    item_number valid.akamai.lifetime, item_text valid.r2.accountId, item_text valid.r2.parentAccessKeyId,
    item_text valid.r2.bucket, item_number valid.r2.ttl]
  rfl

theorem permitted_of_visible {value : String} (visible : ∀ char ∈ value.toList, IsVisible char) :
    value.toList.any isForbidden = false := by
  rw [List.any_eq_false]
  intro char member forbidden
  have seen := visible char member
  simp only [isForbidden, Bool.or_eq_true, beq_iff_eq] at forbidden
  rcases forbidden with (rfl | rfl) | rfl
  · exact absurd seen.1 (by decide)
  · exact absurd seen.1 (by decide)
  · exact absurd seen.1 (by decide)

theorem hexdigit_visible {char : Char} (member : isAsciiHexdigit char = true) : IsVisible char := by
  simp only [isAsciiHexdigit, Text.isAsciiDigit, Bool.or_eq_true, Bool.and_eq_true, decide_eq_true_eq,
    Char.le_def, UInt32.le_iff_toNat_le, Char.toNat_val] at member
  have codes : 'a'.toNat = 97 ∧ 'f'.toNat = 102 ∧ 'A'.toNat = 65 ∧ 'F'.toNat = 70 ∧ '0'.toNat = 48 ∧
      '9'.toNat = 57 := by decide
  unfold IsVisible
  omega

theorem isHex_visible {count : Nat} {value : String} (hex : isHex count isAsciiHexdigit value = true) :
    ∀ char ∈ value.toList, IsVisible char := by
  simp only [isHex, Bool.and_eq_true, List.all_eq_true] at hex
  exact fun char member => hexdigit_visible (hex.2 char member)

theorem identifier_matches {value : String} (valid : identifier (.string value) = some value) :
    value.toList ≠ [] ∧ ∀ char ∈ value.toList, isIdentifierChar char = true := by
  simp only [identifier, matchesAll, Bool.and_eq_true, Bool.not_eq_true', List.isEmpty_eq_false_iff,
    List.all_eq_true] at valid
  by_cases conditions : value = strip value ∧ value.toList ≠ [] ∧
      ∀ char ∈ value.toList, isIdentifierChar char = true
  · exact conditions.2
  · rw [if_neg conditions] at valid
    cases valid

theorem identifier_listed {value : String} (valid : identifier (.string value) = some value) :
    IsListed value := by
  have whole := identifier_matches valid
  refine ⟨whole.1, fun char member => ?_⟩
  have kind := whole.2 char member
  simp only [isIdentifierChar, Bool.or_eq_true, beq_iff_eq] at kind
  rcases kind with (((letter | rfl) | rfl) | rfl) | rfl
  · refine ⟨alphanumeric_visible letter, ?_⟩
    rintro rfl
    exact absurd letter (by decide)
  all_goals decide

theorem digits_listed (value : Nat) : IsListed (toString value) := by
  have digits : (toString value).toList = Nat.toDigits 10 value := Nat.toList_repr
  rw [IsListed, digits]
  refine ⟨Nat.toDigits_ne_nil, fun char member => ?_⟩
  have digit := Text.isAsciiDigit_of_isDigit (Nat.isDigit_of_mem_toDigits (by decide) (by decide) member)
  refine ⟨alphanumeric_visible (by simp [Text.isAsciiAlphanumeric, digit]), ?_⟩
  rintro rfl
  exact absurd digit (by decide)

theorem names_listed (is : IsArray identifier Toml.string table key) :
    ∀ value ∈ names table key, IsListed value := fun value member => identifier_listed (is.valid value member)

theorem numbers_listed : ∀ value ∈ (numbers table key).map toString, IsListed value := by
  intro value member
  obtain ⟨number, _, rfl⟩ := List.mem_map.mp member
  exact digits_listed number

def isPathChar (char : Char) : Bool := char == '/' || isSafePrefixChar char

theorem pathChar_visible {char : Char} (member : isPathChar char = true) : IsVisible char := by
  simp only [isPathChar, Bool.or_eq_true, beq_iff_eq] at member
  rcases member with rfl | safe
  · decide
  · simp only [isSafePrefixChar, Bool.or_eq_true, beq_iff_eq] at safe
    rcases safe with ((letter | rfl) | rfl) | rfl
    · exact alphanumeric_visible letter
    all_goals decide

theorem digit_pathChar {char : Char} (digit : Text.isAsciiDigit char = true) : isPathChar char = true := by
  simp [isPathChar, isSafePrefixChar, Text.isAsciiAlphanumeric, digit]

theorem eq_of_stripStart {start value rest : String} (stripped : Text.stripStart start value = some rest) :
    value.toList = start.toList ++ rest.toList := by
  unfold Text.stripStart at stripped
  split_ifs at stripped with opens
  obtain ⟨remaining, whole⟩ := List.isPrefixOf_iff_prefix.mp opens
  rw [← Option.some.inj stripped, ← whole]
  simp

theorem version_pathChars {version : String} (valid : isReleaseVersion version = true) :
    version.toList.all isPathChar = true := by
  rw [List.all_eq_true]
  intro char member
  unfold isReleaseVersion at valid
  split at valid
  · rename_i major minor patch found
    obtain ⟨rest, stripped, parts⟩ := Option.map_eq_some_iff.mp found
    simp only [isNumber, matchesAll, Bool.and_eq_true, List.all_eq_true] at valid
    rw [eq_of_stripStart stripped] at member
    rcases List.mem_append.mp member with mark | later
    · obtain rfl : char = 'v' := by simpa using mark
      decide
    · have place : char = '.' ∨ ∃ piece ∈ Text.splitAt '.' rest, char ∈ piece.toList := mem_splitAt later
      rcases place with rfl | ⟨piece, among, inside⟩
      · decide
      · rw [parts] at among
        simp only [List.mem_cons, List.not_mem_nil, or_false] at among
        rcases among with rfl | rfl | rfl
        · exact digit_pathChar (valid.1.1.2 char inside)
        · exact digit_pathChar (valid.1.2.2 char inside)
        · exact digit_pathChar (valid.2.2 char inside)
  · cases valid

theorem repository_pathChars {repository : String} (valid : isSafeRepository repository = true) :
    repository.toList.all isPathChar = true := by
  rw [List.all_eq_true]
  intro char member
  unfold isSafeRepository at valid
  split at valid
  · rename_i owner name parts
    have place : char = '/' ∨ ∃ piece ∈ Text.splitAt '/' repository, char ∈ piece.toList := mem_splitAt member
    simp only [matchesAll, Bool.and_eq_true, List.all_eq_true] at valid
    rcases place with rfl | ⟨piece, among, inside⟩
    · decide
    · have kind : isRepositoryChar char = true := by
        rw [parts] at among
        simp only [List.mem_cons, List.not_mem_nil, or_false] at among
        rcases among with rfl | rfl
        · exact valid.1.2 char inside
        · exact valid.2.2 char inside
      simp only [isRepositoryChar, isPathChar, isSafePrefixChar, Bool.or_eq_true, beq_iff_eq] at kind ⊢
      tauto
  · cases valid

def assetPath (release : Release) : String :=
  "/" ++ release.repository ++ "/releases/download/" ++ release.version ++ "/mcserver-node-agent-" ++
    release.version ++ "-" ++ release.target

theorem assetUrl_path (release : Release) : release.assetUrl (release.assetName "mcserver-node-agent") =
      "https://" ++ "github.com" ++ assetPath release := by
  have scheme : "https://github.com/" = "https://" ++ "github.com" ++ "/" := rfl
  have asset : "/mcserver-node-agent-" = "/" ++ "mcserver-node-agent" ++ "-" := rfl
  change "https://github.com/" ++ release.repository ++ "/releases/download/" ++ release.version ++ "/" ++
    ("mcserver-node-agent" ++ "-" ++ release.version ++ "-" ++ release.target) = _
  rw [scheme, assetPath, asset]
  simp only [String.append_assoc]

theorem assetPath_chars (valid : ValidRelease release) : (assetPath release).toList.all isPathChar = true := by
  have repository := repository_pathChars valid.repository
  have version := version_pathChars valid.version
  have target : supportedTarget.toList.all isPathChar = true := by decide
  have asset : "/mcserver-node-agent-".toList.all isPathChar = true := by decide
  have place : "/releases/download/".toList.all isPathChar = true := by decide
  have marks : "/".toList.all isPathChar = true ∧ "-".toList.all isPathChar = true := by decide
  simp only [assetPath, valid.target, String.toList_append, List.all_append, marks, place, asset, target,
    repository, version, Bool.and_self]

theorem assetPath_plain (valid : ValidRelease release) : isPlainPath (assetPath release) = true := by
  have chars := assetPath_chars valid
  have first : (assetPath release).toList.head? = some '/' := by simp [assetPath]
  rw [isPlainPath, first, Bool.and_eq_true]
  exact ⟨rfl, chars⟩

theorem assetUrl_visible (valid : ValidRelease release) :
    ∀ char ∈ (release.assetUrl (release.assetName "mcserver-node-agent")).toList, IsVisible char := by
  have scheme : ("https://github.com".toList.all fun char => decide (IsVisible char)) = true := by decide
  intro char member
  rw [assetUrl_path, String.toList_append] at member
  rcases List.mem_append.mp member with fixed | inside
  · exact of_decide_eq_true (List.all_eq_true.mp scheme char fixed)
  · exact pathChar_visible (List.all_eq_true.mp (assetPath_chars valid) char inside)

end Checks

section Rendering

variable {config : Config} {digest : String} {live : Bool}

theorem rustLog_permitted (valid : ValidService config.service) :
    (rendering config).rustLog.toList.any isForbidden = false := by
  simp only [rendering]
  by_cases logged : (config.service.lookup "rust_log").isSome = true
  · rw [if_pos logged]
    exact (valid.rustLog logged).permitted
  · rw [if_neg logged]
    decide

theorem value_permitted (valid : Valid config) (hex : isHex 64 isAsciiHexdigit digest = true) (key : Variable) :
    (((rendering config).value digest live key).getD "").toList.any isForbidden = false := by
  have numeral : ∀ number : Nat, (toString number).toList.any isForbidden = false := fun number =>
    permitted_of_visible fun char member => ((digits_listed number).2 char member).1
  cases key with
  | remoteAgentPublicAddress => exact valid.service.publicAddress.permitted
  | remoteAgentTlsServerName => exact valid.service.serverName.permitted
  | agentTrustDomain => exact valid.service.trustDomain.permitted
  | nodeAgentDownloadUrl => exact permitted_of_visible (assetUrl_visible valid.release)
  | nodeAgentSha256 => exact permitted_of_visible (isHex_visible hex)
  | akamaiScope => exact valid.akamai.scope.permitted
  | akamaiAllowedRegions => exact permitted_of_visible (intercalate_visible (names_listed valid.akamai.regions))
  | akamaiAllowedImages => exact permitted_of_visible (intercalate_visible (names_listed valid.akamai.images))
  | akamaiAllowedInstanceTypes =>
    exact permitted_of_visible (intercalate_visible (names_listed valid.akamai.instanceTypes))
  | akamaiAllowedFirewallIds => exact permitted_of_visible (intercalate_visible numbers_listed)
  | akamaiMaxActiveInstances => exact numeral _
  | akamaiMaxInstanceLifetimeSeconds => exact numeral _
  | r2AccountId => exact valid.r2.accountId.permitted
  | r2ParentAccessKeyId => exact valid.r2.parentAccessKeyId.permitted
  | r2Bucket => exact valid.r2.bucket.permitted
  | r2TemporaryCredentialTtlSeconds => exact numeral _
  | akamaiLiveEnabled =>
    cases live
    · change "false".toList.any isForbidden = false
      decide
    · change "true".toList.any isForbidden = false
      decide
  | _ =>
    simp only [Rendered.value, Option.getD_some, Option.getD_none]
    decide

theorem renderEnvironment_valid (valid : Valid config) (hex : isHex 64 isAsciiHexdigit digest = true) :
    renderEnvironment config digest live = .ok ((rendering config).value digest live) := by
  have all : ∀ keys : List Variable,
      (keys.forM fun key => checkValue key.name (((rendering config).value digest live key).getD "")) =
        .ok () := by
    intro keys
    induction keys with
    | nil => rfl
    | cons key rest ih =>
      have passed : checkValue key.name (((rendering config).value digest live key).getD "") = .ok () := by
        rw [checkValue, value_permitted valid hex key]
        rfl
      rw [List.forM_eq_forM, List.forM_cons, passed]
      exact ih
  have logged : checkValue "RUST_LOG" (rendering config).rustLog = .ok () := by
    rw [checkValue, rustLog_permitted valid.service]
    rfl
  unfold renderEnvironment
  rw [render_valid valid]
  change (checkValue "RUST_LOG" (rendering config).rustLog >>= fun _ => _) = _
  rw [logged, all]
  rfl

theorem environmentText_valid (valid : Valid config) (hex : isHex 64 isAsciiHexdigit digest = true) :
    environmentText config digest live = .ok (String.join ((("RUST_LOG", (rendering config).rustLog) ::
      renderedVariables.map fun key =>
        (key.name, ((rendering config).value digest live key).getD "")).map settingText)) := by
  unfold environmentText environmentSettings
  rw [renderEnvironment_valid valid hex, rustLog_valid valid.service]
  rfl

end Rendering

-- What the lines of an environment file may hold for systemd to take it as it stands
def isPlainChar (char : Char) : Bool :=
  0x20 ≤ char.toNat && char.toNat != 0x7f && char != '"' && char != '\'' && char != '\\'

def isPlain (value : String) : Bool :=
  value.toList.all isPlainChar && value.toList.head? != some ' ' && value.toList.getLast? != some ' '

def isNameChar (char : Char) : Bool := char.isAlphanum || char == '_'

def isName (name : String) : Bool :=
  !name.toList.isEmpty && name.toList.all isNameChar && !(name.toList.head?.any Char.isDigit)

structure PlainSettings (settings : List (String × String)) : Prop where
  distinct : (settings.map Prod.fst).Nodup
  names : ∀ setting ∈ settings, isName setting.1 = true
  values : ∀ setting ∈ settings, isPlain setting.2 = true

structure Parsing (libraries : Libraries) : Prop where
  url : Whatwg libraries.parseUrl
  loopback : libraries.parseSocketAddr "127.0.0.1:39001" = some ⟨true, 39001⟩
  everywhere : libraries.parseSocketAddr "0.0.0.0:443" = some ⟨false, 443⟩
  port : ∀ host address, libraries.parseSocketAddr (host ++ ":443") = some address → address.port = 443
  environmentFile : ∀ settings, PlainSettings settings → ∀ name,
    libraries.readEnvironmentFile (String.join (settings.map settingText)) name = settings.lookup name

@[mk_iff] structure RemoteFits (config : Config) : Prop where
  serverName : isDnsName (text config.service "server_name") = true
  trustDomain : isDnsName (text config.service "trust_domain") = true
  downloadUrl : Text.charCount (config.release.assetUrl (config.release.assetName "mcserver-node-agent")) ≤
    maxUrlChars

@[mk_iff] structure AkamaiFits (config : Config) : Prop where
  scope : (text config.akamai "scope").toList.all isScopeChar = true
  shortScope : Text.charCount (text config.akamai "scope") ≤ maxAkamaiScopeChars
  firewallText :
    Text.charCount (",".intercalate ((numbers config.akamai "allowed_firewall_ids").map toString)) ≤ 4096
  firewallIds : ∀ id ∈ numbers config.akamai "allowed_firewall_ids", id ≤ maximumU64
  -- The script fixes how long a certificate is valid.
  lifetime : number config.akamai "max_instance_lifetime_seconds" + agentCertificateShutdownBufferSeconds ≤
    172800

def content (host : Host) (path : String) : Option FileContent := (host path).map InputFile.content

@[mk_iff] structure R2Fits (host : Host) (config : Config) : Prop where
  parentAccessKeyId : Text.charCount (text config.r2 "parent_access_key_id") ≤ 256
  bucket : isR2BucketName (text config.r2 "bucket") = true
  runtimeEnvironment : IsRuntimeEnvironment (content host config.files.r2RuntimeEnvironment)

structure Fits (host : Host) (config : Config) : Prop where
  remote : RemoteFits config
  akamaiToken : IsToken (content host config.files.akamaiApiToken)
  akamai : AkamaiFits config
  r2Token : IsToken (content host config.files.r2ApiToken)
  r2 : R2Fits host config

def Rendered.texts (rendered : Rendered) : List String :=
  [rendered.rustLog, rendered.publicAddress, rendered.serverName, rendered.trustDomain, rendered.downloadUrl,
    rendered.scope, rendered.allowedRegions, rendered.allowedImages, rendered.allowedInstanceTypes,
    rendered.allowedFirewallIds, rendered.maxActiveInstances, rendered.maxInstanceLifetimeSeconds,
    rendered.accountId, rendered.parentAccessKeyId, rendered.bucket, rendered.temporaryCredentialTtlSeconds]

def PlainValues (config : Config) : Prop := ∀ value ∈ (rendering config).texts, isPlain value = true

structure Deployable (host : Host) (config : Config) : Prop extends Fits host config where
  plain : PlainValues config

section Service

variable {libraries : Libraries} {host : Host} {config : Config} {digest : String} {live : Bool}

-- The environment where every variable has the value that the script gives it
variable (libraries host config digest live) in
def service : ControlPlane.Config.Environment where
  value key := ((rendering config).value digest live key).orElse fun _ => unitValue key
  file := installedFile host config.files
  parseUrl := libraries.parseUrl
  parseSocketAddr := libraries.parseSocketAddr
  isLoopbackIp := libraries.isLoopbackIp

def otherVariables : List Variable :=
  [.maxFrameBytes, .nodeAgentBinary, .nodeAgentRoot, .podmanBinary, .localScope, .localControlTimeoutSeconds,
    .localProcessStopTimeoutSeconds, .remoteAgentTlsPrivateKey, .agentClientCaPrivateKey, .akamaiApiToken,
    .akamaiApiTokenFile, .r2ApiToken, .r2ApiTokenFile, .r2RuntimeEnvironmentFile]

def serviceNames : { names : List String // names.Nodup } :=
  ⟨"RUST_LOG" :: (renderedVariables ++ otherVariables).map Variable.name, by decide +kernel⟩

theorem names_distinct : ("RUST_LOG" :: (renderedVariables ++ otherVariables).map Variable.name).Nodup :=
  serviceNames.2

theorem variable_listed (key : Variable) : key ∈ renderedVariables ++ otherVariables := by
  cases key <;> decide

theorem name_injective : Function.Injective Variable.name := by
  intro first second same
  exact List.inj_on_of_nodup_map names_distinct.of_cons (variable_listed first) (variable_listed second) same

theorem name_not_rustLog (key : Variable) : key.name ≠ "RUST_LOG" := by
  intro same
  have fresh := (List.nodup_cons.mp names_distinct).1
  exact fresh (same ▸ List.mem_map_of_mem (variable_listed key))

-- The characters of a literal are read off its list: the kernel need not decode the text.
theorem isName_ofList {chars : List Char} (named : (!chars.isEmpty && chars.all isNameChar &&
    !(chars.head?.any Char.isDigit)) = true) : isName (String.ofList chars) = true := by
  rwa [isName, String.toList_ofList]

theorem isPlain_ofList {chars : List Char} (plain : (chars.all isPlainChar && chars.head? != some ' ' &&
    chars.getLast? != some ' ') = true) : isPlain (String.ofList chars) = true := by
  rwa [isPlain, String.toList_ofList]

theorem lookup_rendered (value : Variable → String) (key : Variable) (keys : List Variable) :
    (keys.map fun key => (key.name, value key)).lookup key.name =
      if key ∈ keys then some (value key) else none := by
  induction keys with
  | nil => rfl
  | cons other rest ih =>
    by_cases same : key = other
    · simp [same]
    · have apart : (key.name == other.name) = false := beq_eq_false_iff_ne.mpr (name_injective.ne same)
      rw [List.map_cons, List.lookup_cons, apart, ih]
      simp [same]

theorem isPlain_of_hex {count : Nat} (hex : isHex count isAsciiHexdigit digest = true) : isPlain digest = true := by
  simp only [isHex, Bool.and_eq_true, List.all_eq_true] at hex
  have blank : ' ' ∉ digest.toList := fun member => absurd (hex.2 _ member) (by decide)
  have chars : ∀ char ∈ digest.toList, isPlainChar char = true := by
    intro char member
    have digit := hex.2 char member
    have visible := hexdigit_visible digit
    have others : char ≠ '"' ∧ char ≠ '\'' ∧ char ≠ '\\' := by
      refine ⟨?_, ?_, ?_⟩ <;> rintro rfl <;> exact absurd digit (by decide)
    unfold IsVisible at visible
    simp only [isPlainChar, Bool.and_eq_true, bne_iff_ne, decide_eq_true_eq]
    exact ⟨⟨⟨⟨by omega, by omega⟩, others.1⟩, others.2.1⟩, others.2.2⟩
  have first : digest.toList.head? ≠ some ' ' := fun same => blank (List.mem_of_head? same)
  have last : digest.toList.getLast? ≠ some ' ' := fun same => blank (List.mem_of_getLast? same)
  simpa [isPlain, first, last] using chars

theorem plainSettings_rendered (hex : isHex 64 isAsciiHexdigit digest = true) (plain : PlainValues config) :
    PlainSettings (("RUST_LOG", (rendering config).rustLog) :: renderedVariables.map fun key =>
      (key.name, ((rendering config).value digest live key).getD "")) where
  distinct := by
    have distinct := names_distinct
    rw [List.map_append, ← List.cons_append] at distinct
    simpa [Function.comp_def] using distinct.of_append_left
  names := by
    refine List.forall_mem_cons.mpr ⟨isName_ofList rfl, List.forall_mem_map.mpr fun key _ => ?_⟩
    cases key <;> exact isName_ofList rfl
  values := by
    refine List.forall_mem_cons.mpr ⟨plain _ (by simp [Rendered.texts]), List.forall_mem_map.mpr fun key _ => ?_⟩
    cases key with
    | nodeAgentSha256 => exact isPlain_of_hex hex
    | remoteAgentPublicAddress | remoteAgentTlsServerName | agentTrustDomain | nodeAgentDownloadUrl | akamaiScope
    | akamaiAllowedRegions | akamaiAllowedImages | akamaiAllowedInstanceTypes | akamaiAllowedFirewallIds
    | akamaiMaxActiveInstances | akamaiMaxInstanceLifetimeSeconds | r2AccountId | r2ParentAccessKeyId | r2Bucket
    | r2TemporaryCredentialTtlSeconds => exact plain _ (by simp [Rendered.texts, Rendered.value])
    | akamaiLiveEnabled => cases live <;> exact isPlain_ofList rfl
    | _ => exact isPlain_ofList rfl

theorem serviceEnvironment_plain (parsing : Parsing libraries) (hex : isHex 64 isAsciiHexdigit digest = true)
    (plain : PlainValues config) :
    serviceEnvironment libraries host config.files (String.join ((("RUST_LOG", (rendering config).rustLog) ::
      renderedVariables.map fun key =>
        (key.name, ((rendering config).value digest live key).getD "")).map settingText)) =
      service libraries host config digest live := by
  have read : ∀ key : Variable, libraries.readEnvironmentFile (String.join ((("RUST_LOG",
      (rendering config).rustLog) :: renderedVariables.map fun key =>
        (key.name, ((rendering config).value digest live key).getD "")).map settingText)) key.name =
      (rendering config).value digest live key := by
    intro key
    have other : (key.name == "RUST_LOG") = false := beq_eq_false_iff_ne.mpr (name_not_rustLog key)
    rw [parsing.environmentFile _ (plainSettings_rendered hex plain), List.lookup_cons, other,
      lookup_rendered fun key => ((rendering config).value digest live key).getD ""]
    cases key <;> rfl
  simp only [serviceEnvironment, service, read]

theorem nonblank_of_strip {value : String} (nonblank : (strip value).toList ≠ []) : Text.isBlank value = false := by
  by_contra blank
  have all : ∀ char ∈ value.toList, isSpace char = true := by
    intro char member
    by_contra seen
    refine blank (Text.isBlank_false member ?_)
    simp only [isSpace, Bool.or_eq_true, not_or, Bool.not_eq_true] at seen
    exact seen.1
  have nothing : value.toList.dropWhile isSpace = [] := List.dropWhile_eq_nil_iff.mpr all
  exact nonblank (by simp [strip, nothing])

variable {table : Table} {key : String}

theorem clean_iff {maximum : Nat} (is : IsText table key) :
    Clean (text table key) maximum ↔ Text.charCount (text table key) ≤ maximum := by
  refine ⟨fun clean => clean.2.2, fun short => ⟨nonblank_of_strip is.nonblank, ?_, short⟩⟩
  rw [Text.containsNul, Bool.eq_false_iff]
  intro found
  have permitted := List.any_eq_false.mp is.permitted _ (List.contains_iff_mem.mp found)
  exact permitted (by decide)

theorem publicAddress_clean (valid : ValidService config.service)
    (named : isDnsName (text config.service "server_name") = true) :
    Clean (text config.service "public_address") maxAddressChars := by
  have short := (dnsName_clean named).2.2
  have length : Text.charCount (text config.service "public_address") =
      Text.charCount (text config.service "server_name") + 4 := by
    simp [valid.same, Text.charCount]
  rw [clean_iff valid.publicAddress, length]
  have bounds : Config.maxServerNameChars + 4 ≤ maxAddressChars := by decide
  omega

theorem digest_clean (hex : isHex 64 isAsciiHexdigit digest = true) : Clean digest sha256HexChars := by
  have visible := isHex_visible hex
  simp only [isHex, Bool.and_eq_true, decide_eq_true_eq] at hex
  refine clean_of_visible ?_ visible (Nat.le_of_eq hex.1)
  intro empty
  simp [empty] at hex

theorem accepts_validateSha256 {post : Unit → Prop} (hex : isHex 64 isAsciiHexdigit digest = true) :
    Accepts (validateSha256 digest) post ↔ post () := by
  have bytes := utf8ByteSize_visible (isHex_visible hex)
  simp only [isHex, Bool.and_eq_true, decide_eq_true_eq] at hex
  rw [Text.charCount, hex.1] at bytes
  simp [validateSha256, bytes, hex.2, sha256HexChars]

theorem downloadUrl_clean (valid : ValidRelease config.release)
    (short : Text.charCount (rendering config).downloadUrl ≤ maxUrlChars) :
    Clean (rendering config).downloadUrl maxUrlChars := by
  refine clean_of_visible ?_ (assetUrl_visible valid) short
  have path : (rendering config).downloadUrl = "https://" ++ "github.com" ++ assetPath config.release :=
    assetUrl_path config.release
  simp [path]

theorem accepts_remoteAgentConfig (valid : Valid config) (parsing : Parsing libraries)
    (hex : isHex 64 isAsciiHexdigit digest = true) {maxFrameBytes agentCommandTimeout : Nat}
    {post : Option Config.RemoteAgentConfig → Prop} {rest : Prop}
    (same : ∀ remote, remote.certificateValidity = 172800 → (post (some remote) ↔ rest)) :
    Accepts (remoteAgentConfig (service libraries host config digest live) maxFrameBytes agentCommandTimeout)
      post ↔ RemoteFits config ∧ rest := by
  have listening : (service libraries host config digest live).value .remoteAgentListenAddress =
    some "0.0.0.0:443" := rfl
  have address : (rendering config).publicAddress = (rendering config).serverName ++ ":443" :=
    valid.service.same
  have ports : ∀ address,
      (service libraries host config digest live).parseSocketAddr (rendering config).publicAddress =
        some address → address.port ≠ 0 := by
    intro found parsed
    rw [address] at parsed
    rw [parsing.port _ _ parsed]
    decide
  have path : (rendering config).downloadUrl = "https://" ++ "github.com" ++ assetPath config.release :=
    assetUrl_path config.release
  have validity : Text.parseU64 "172800" = some 172800 := by decide
  simp only [remoteAgentConfig, listening]
  rw [remoteFits_iff, accepts_bind, accepts_listen parsing.everywhere (by decide), accepts_bind,
    accepts_requiredNonBlank rfl, accepts_bind]
  by_cases named : isDnsName (rendering config).serverName = true
  · rw [accepts_validateHostPort address ports named, accepts_bind, accepts_requiredNonBlank rfl, accepts_bind,
      accepts_validateDnsName, accepts_bind, accepts_requiredPath rfl (by decide), accepts_bind,
      accepts_requiredPath rfl (by decide), accepts_bind,
      accepts_requiredPath rfl (by decide), accepts_bind,
      accepts_requiredPath rfl (by decide), accepts_bind,
      accepts_requiredPath rfl (by decide), accepts_bind, parsePositiveDuration,
      accepts_parsePositive rfl validity (by decide), accepts_bind, accepts_requiredNonBlank rfl, accepts_bind,
      accepts_validateDnsName, accepts_bind, accepts_requiredNonBlank rfl, accepts_bind,
      accepts_validateHttpsUrl parsing.url path (assetPath_plain valid.release),
      accepts_bind, accepts_requiredNonBlank rfl, accepts_bind, accepts_validateSha256 hex, accepts_pure,
      same _ rfl]
    constructor
    · rintro ⟨_, _, server, _, trust, clean, _, holds⟩
      exact ⟨⟨server, trust, clean.2.2⟩, holds⟩
    · rintro ⟨⟨server, trust, short⟩, holds⟩
      exact ⟨publicAddress_clean valid.service server, dnsName_clean server, server, dnsName_clean trust,
        trust, downloadUrl_clean valid.release short, digest_clean hex, holds⟩
  · -- An address with a socket address for a host is no way around the server name.
    constructor
    · rintro ⟨_, accepted⟩
      have later := accepted.unit
      rw [accepts_bind, accepts_requiredNonBlank rfl, accepts_bind, accepts_validateDnsName] at later
      exact absurd later.2.1 named
    · rintro ⟨fits, _⟩
      exact absurd fits.1 named

theorem installedFile_akamai : installedFile host config.files (credentialsDirectory ++ "/akamai-api-token") =
      content host config.files.akamaiApiToken := by
  rw [installedFile, if_pos rfl]
  rfl

theorem installedFile_r2 : installedFile host config.files (credentialsDirectory ++ "/r2-api-token") =
      content host config.files.r2ApiToken := by
  rw [installedFile, if_neg (by decide), if_pos rfl]
  rfl

theorem installedFile_runtime : installedFile host config.files (credentialsDirectory ++ "/r2-runtime.env") =
      content host config.files.r2RuntimeEnvironment := by
  rw [installedFile, if_neg (by decide), if_neg (by decide), if_neg (by decide), if_neg (by decide), if_pos rfl]
  rfl

theorem providerIdentifierChar (char : Char) : isProviderIdentifierChar char = isIdentifierChar char := by
  rw [Bool.eq_iff_iff]
  simp only [isIdentifierChar, isProviderIdentifierChar, Bool.or_eq_true]
  tauto

theorem accepts_names {environment : ControlPlane.Config.Environment} {name : Variable} {default : String}
    {post : List String → Prop}
    (is : IsArray identifier Toml.string table key)
    (known : optionalString environment name default = ",".intercalate (names table key)) :
    Accepts (parseIdentifierSet environment name default) post ↔ post (names table key) := by
  have nonempty : names table key ≠ [] := is.nonempty
  rw [accepts_parseIdentifierSet known, pieces_intercalate nonempty (names_listed is)]
  refine and_iff_right ⟨nonempty, fun value member => ?_⟩
  have whole := identifier_matches (is.valid value member)
  simp only [isProviderIdentifier, Bool.and_eq_true, Bool.not_eq_true', List.isEmpty_eq_false_iff,
    List.all_eq_true, providerIdentifierChar]
  exact whole

theorem allowlist_survives_rendering (table : Table) (key tableName : String) (listed : List String)
    (accepted : requireStringList table key tableName = .ok listed) :
    ∃ rendered, joined table key = .ok rendered ∧
      ∀ (environment : ControlPlane.Config.Environment) (name : Variable) (default : String),
        environment.value name = some rendered →
          ∃ values, parseIdentifierSet environment name default = .ok values ∧
            ∀ value, value ∈ values ↔ value ∈ listed := by
  obtain ⟨is, same⟩ := accepts_requireStringList ⟨listed, accepted, (rfl : listed = listed)⟩
  refine ⟨_, joined_names is, fun environment name default known => ?_⟩
  have read : optionalString environment name default = ",".intercalate (names table key) := by
    rw [optionalString, known, Option.getD_some]
  obtain ⟨values, parsed, whole⟩ := (accepts_names is read).mpr (rfl : names table key = names table key)
  refine ⟨values, parsed, fun value => ?_⟩
  rw [← whole, same]

theorem allowlist_survives_rendering_at_sample :
    ∃ rendered, joined [("images", .array [.string "linode/debian13", .string "private/7"])] "images" =
        .ok rendered ∧
      ∀ (environment : ControlPlane.Config.Environment) (name : Variable) (default : String),
        environment.value name = some rendered →
          ∃ values, parseIdentifierSet environment name default = .ok values ∧
            ∀ value, value ∈ values ↔ value ∈ ["linode/debian13", "private/7"] :=
  allowlist_survives_rendering _ _ "akamai" _ (by decide)

theorem numbers_positive (is : IsArray positive (fun value => Toml.integer value) table key) :
    ∀ value ∈ numbers table key, value ≠ 0 := by
  intro value member zero
  have valid := is.valid value member
  simp [positive, zero] at valid

theorem accepts_number {environment : ControlPlane.Config.Environment} {name : Variable} {default : Nat}
    {post : Nat → Prop} (is : IsNumber table key)
    (known : environment.value name = some (toString (number table key)))
    (small : number table key ≤ maximumU64) :
    Accepts (parsePositive environment name default) post ↔ post (number table key) := by
  have parsed : Text.parseU64 (toString (number table key)) = some (number table key) := by
    rw [Text.parseU64_toString, if_pos small]
  exact accepts_parsePositive known parsed (Nat.pos_iff_ne_zero.mp is.positive)

theorem accepts_checkCertificateValidity {remote : Config.RemoteAgentConfig} {lifetime : Nat}
    {post : Unit → Prop} (fixed : remote.certificateValidity = 172800)
    (small : lifetime + agentCertificateShutdownBufferSeconds ≤ maximumU64) :
    Accepts (checkCertificateValidity remote lifetime) post ↔
      lifetime + agentCertificateShutdownBufferSeconds ≤ 172800 ∧ post () := by
  have minimum : checkedAdd lifetime agentCertificateShutdownBufferSeconds =
      some (lifetime + agentCertificateShutdownBufferSeconds) := if_pos small
  unfold checkCertificateValidity
  simp only [minimum]
  rw [fixed, accepts_refuse, accepts_ok, Nat.not_lt]

theorem accepts_akamaiConfig (valid : Valid config) (parsing : Parsing libraries)
    {remote : Config.RemoteAgentConfig} (fixed : remote.certificateValidity = 172800)
    {post : Option Config.AkamaiConfig → Prop} {rest : Prop}
    (same : ∀ akamai, akamai.maxInstanceLifetime = number config.akamai "max_instance_lifetime_seconds" →
      (post (some akamai) ↔ rest)) :
    Accepts (akamaiConfig (service libraries host config digest live) (some remote)) post ↔
      IsToken (content host config.files.akamaiApiToken) ∧ AkamaiFits config ∧ rest := by
  have timeout : Text.parseU64 "30" = some 30 := by decide
  have lifetime : number config.akamai "max_instance_lifetime_seconds" +
      agentCertificateShutdownBufferSeconds ≤ maximumU64 := by
    have covers := valid.r2.covers
    have bounded := valid.r2.bounded
    have range : 604800 ≤ maximumU64 := by decide
    exact Nat.le_trans covers (Nat.le_trans bounded range)
  have most : number config.akamai "max_active_instances" ≤ maximumU64 := by
    rw [valid.akamai.one]
    decide
  have base : optionalString (service libraries host config digest live) .akamaiApiBaseUrl
      "https://api.linode.com/v4" = "https://" ++ "api.linode.com" ++ "/v4" := rfl
  have explicit : hasExplicitAuthority (optionalString (service libraries host config digest live)
      .akamaiApiBaseUrl "https://api.linode.com/v4") = true := by
    rw [base]
    decide
  have scope : optionalString (service libraries host config digest live) .akamaiScope "default" =
      text config.akamai "scope" := rfl
  have ids : (service libraries host config digest live).value .akamaiAllowedFirewallIds =
      some (",".intercalate ((numbers config.akamai "allowed_firewall_ids").map toString)) := rfl
  rw [akamaiConfig, accepts_bind, @accepts_apiToken _ _ _ _ _ (AkamaiFits config ∧ rest) rfl rfl]
  · change IsToken (installedFile _ _ _) ∧ _ ↔ _
    rw [installedFile_akamai]
  · intro token clean
    simp only
    rw [accepts_bind, accepts_validateNonBlank, and_iff_right clean, accepts_bind, validateApiBaseUrl,
      accepts_validateBaseUrl parsing.url base (by decide) (by decide) explicit, accepts_bind,
      accepts_requiredPath rfl (by decide), accepts_bind,
      accepts_optionalScope scope, accepts_throwIf, accepts_bind, parsePositiveDuration,
      accepts_parsePositive rfl timeout (by decide), accepts_bind, @accepts_parseBool _ _ _ _ false rfl,
      accepts_bind, @accepts_parseBool _ _ _ _ live rfl, accepts_bind, accepts_names valid.akamai.regions rfl,
      accepts_bind, accepts_names valid.akamai.images rfl, accepts_bind,
      accepts_names valid.akamai.instanceTypes rfl, accepts_bind,
      accepts_parsePositiveU64Set ids numbers_listed valid.akamai.firewallIds.nonempty
        (numbers_positive valid.akamai.firewallIds), accepts_bind, parsePositiveUsize,
      accepts_number valid.akamai.maxActiveInstances rfl most, accepts_bind, parsePositiveDuration,
      accepts_number valid.akamai.lifetime rfl (Nat.le_trans (Nat.le_add_right _ _) lifetime), accepts_bind,
      accepts_checkCertificateValidity fixed lifetime, accepts_pure, same _ rfl, clean_iff valid.akamai.scope,
      Nat.not_lt, akamaiFits_iff]
    have shorter : maxAkamaiScopeChars ≤ maxScopeChars := by decide
    constructor
    · rintro ⟨_, scope, short, text, ids, covered, holds⟩
      exact ⟨⟨scope, short, text, ids, covered⟩, holds⟩
    · rintro ⟨⟨scope, short, text, ids, covered⟩, holds⟩
      exact ⟨Nat.le_trans short shorter, scope, short, text, ids, covered, holds⟩

theorem accepts_checkCredentialTtl {post : Unit → Prop} {lifetime ttl : Nat}
    (covers : lifetime + 3600 ≤ ttl) (bounded : ttl ≤ 604800) :
    Accepts (checkCredentialTtl lifetime 900 ttl) post ↔ post () := by
  have buffer : max 900 agentCertificateShutdownBufferSeconds = 3600 := by decide
  have longest : maxR2TemporaryCredentialTtlSeconds = 604800 := by decide
  have range : 604800 ≤ maximumU64 := by decide
  have minimum : checkedAdd lifetime (max 900 agentCertificateShutdownBufferSeconds) =
      some (lifetime + 3600) := by
    rw [buffer]
    exact if_pos (Nat.le_trans covers (Nat.le_trans bounded range))
  unfold checkCredentialTtl
  rw [longest, if_neg (Nat.not_lt.mpr bounded)]
  simp only [minimum]
  rw [if_neg (Nat.not_lt.mpr covers), accepts_ok]

theorem accountId_accepted (hex : isHex 32 isAsciiHexdigit (text table key) = true) :
    isR2AccountId (text table key) = true := by
  have bytes := utf8ByteSize_visible (isHex_visible hex)
  simp only [isHex, Bool.and_eq_true, decide_eq_true_eq] at hex
  rw [Text.charCount, hex.1] at bytes
  simp only [isR2AccountId, bytes, hex.2, decide_true, Bool.and_self]

theorem bucket_short {value : String} (named : isR2BucketName value = true) : Text.charCount value ≤ 63 := by
  have bytes := Text.charCount_le_utf8ByteSize value
  simp only [isR2BucketName, Bool.and_eq_true, decide_eq_true_eq] at named
  omega

theorem accepts_r2Config (valid : Valid config) (parsing : Parsing libraries) {akamai : Config.AkamaiConfig}
    (lifetime : akamai.maxInstanceLifetime = number config.akamai "max_instance_lifetime_seconds")
    {post : Option Config.R2Config → Prop} {rest : Prop} (same : ∀ r2, post r2 ↔ rest) :
    Accepts (r2Config (service libraries host config digest live) (some akamai) 900) post ↔
      IsToken (content host config.files.r2ApiToken) ∧ R2Fits host config ∧ rest := by
  have timeout : Text.parseU64 "30" = some 30 := by decide
  have ttl : number config.r2 "temporary_credential_ttl_seconds" ≤ maximumU64 :=
    Nat.le_trans valid.r2.bounded (by decide)
  have covers : akamai.maxInstanceLifetime + 3600 ≤ number config.r2 "temporary_credential_ttl_seconds" := by
    rw [lifetime]
    exact valid.r2.covers
  have base : optionalString (service libraries host config digest live) .r2ApiBaseUrl
      "https://api.cloudflare.com/client/v4" = "https://" ++ "api.cloudflare.com" ++ "/client/v4" := rfl
  have explicit : hasExplicitAuthority (optionalString (service libraries host config digest live)
      .r2ApiBaseUrl "https://api.cloudflare.com/client/v4") = true := by
    rw [base]
    decide
  have account : (service libraries host config digest live).value .r2AccountId =
      some (text config.r2 "account_id") := rfl
  have parent : (service libraries host config digest live).value .r2ParentAccessKeyId =
      some (text config.r2 "parent_access_key_id") := rfl
  have bucket : (service libraries host config digest live).value .r2Bucket =
      some (text config.r2 "bucket") := rfl
  have runtime : (service libraries host config digest live).file (credentialsDirectory ++ "/r2-runtime.env") =
      content host config.files.r2RuntimeEnvironment := installedFile_runtime
  rw [r2Config, accepts_bind, @accepts_apiToken _ _ _ _ _ (R2Fits host config ∧ rest) rfl rfl]
  · change IsToken (installedFile _ _ _) ∧ _ ↔ _
    rw [installedFile_r2]
  · intro token clean
    simp only
    rw [accepts_bind, accepts_validateNonBlank, and_iff_right clean, accepts_bind, validateR2ApiBaseUrl,
      accepts_validateBaseUrl parsing.url base (by decide) (by decide) explicit, accepts_bind,
      accepts_requiredNonBlank account, accepts_bind, accepts_validateR2AccountId,
      and_iff_right (accountId_accepted valid.r2.hex), accepts_bind, accepts_requiredNonBlank parent,
      accepts_bind, accepts_requiredNonBlank bucket, accepts_bind, accepts_validateR2BucketName, accepts_bind,
      parsePositiveDuration, accepts_number valid.r2.ttl rfl ttl, accepts_bind,
      accepts_checkCredentialTtl covers valid.r2.bounded, accepts_bind,
      accepts_requiredPath rfl (by decide), accepts_bind]
    rw [@accepts_readRuntimeEnvironment _ _ _ rest]
    · rw [runtime, clean_iff valid.r2.accountId, clean_iff valid.r2.parentAccessKeyId,
        clean_iff valid.r2.bucket, r2Fits_iff]
      have exact32 : Text.charCount (text config.r2 "account_id") ≤ 32 := by
        have hex := valid.r2.hex
        simp only [isHex, Bool.and_eq_true, decide_eq_true_eq] at hex
        exact Nat.le_of_eq hex.1
      constructor
      · rintro ⟨_, parent, _, named, runtime, holds⟩
        exact ⟨⟨parent, named, runtime⟩, holds⟩
      · rintro ⟨⟨parent, named, runtime⟩, holds⟩
        exact ⟨exact32, parent, bucket_short named, named, runtime, holds⟩
    · intro values
      rw [accepts_bind, parsePositiveDuration, accepts_parsePositive rfl timeout (by decide), accepts_pure, same]

theorem accepts_agentListenAddress (parsing : Parsing libraries) {post : SocketAddr → Prop} :
    Accepts (agentListenAddress (service libraries host config digest live)) post ↔ post ⟨true, 39001⟩ := by
  have parsed : (service libraries host config digest live).parseSocketAddr
      (optionalString (service libraries host config digest live) .agentListenAddress "127.0.0.1:39001") =
        some ⟨true, 39001⟩ := parsing.loopback
  simp [agentListenAddress, parsed, checkLoopback]

theorem accepts_fromEnv (valid : Valid config) (parsing : Parsing libraries)
    (hex : isHex 64 isAsciiHexdigit digest = true) :
    Accepts (fromEnv (service libraries host config digest live)) (fun _ => True) ↔ Fits host config := by
  have mode : parseSocketMode (some "0660") = .ok 0o660 := by decide
  have numerals : Text.parseU64 "30" = some 30 ∧ Text.parseU64 "5" = some 5 ∧ Text.parseU64 "20" = some 20 ∧
      Text.parseU64 "900" = some 900 := by decide
  obtain ⟨thirty, five, twenty, most⟩ := numerals
  have socketMode : parseSocketMode ((service libraries host config digest live).value .socketMode) =
    .ok 0o660 := mode
  have scope : optionalString (service libraries host config digest live) .localScope "default" = "default" := rfl
  have scopeChars : "default".toList.all isScopeChar = true := by decide
  rw [fromEnv, accepts_bind, socketMode, accepts_ok, accepts_bind, parsePositiveUsize,
    accepts_parsePositive_default rfl (by decide), accepts_bind, parsePositiveDuration,
    accepts_parsePositive rfl thirty (by decide), accepts_bind, parsePositiveDuration,
    accepts_parsePositive rfl five (by decide), accepts_bind, parsePositiveDuration,
    accepts_parsePositive rfl twenty (by decide), accepts_bind, accepts_agentListenAddress parsing, accepts_bind,
    parsePositiveDuration, accepts_parsePositive rfl most (by decide), accepts_bind,
    accepts_optionalScope scope, and_iff_right (by decide), and_iff_right scopeChars, accepts_bind,
    @accepts_parseBool _ _ _ _ false rfl, accepts_bind, parsePositiveDuration,
    accepts_parsePositive_default rfl (by decide), accepts_bind, parsePositiveDuration,
    accepts_parsePositive_default rfl (by decide), accepts_bind,
    @accepts_remoteAgentConfig _ _ _ _ _ valid parsing hex _ _ _
      (IsToken (content host config.files.akamaiApiToken) ∧ AkamaiFits config ∧
        IsToken (content host config.files.r2ApiToken) ∧ R2Fits host config ∧ True)]
  · constructor
    · rintro ⟨remote, akamaiToken, akamai, r2Token, r2, _⟩
      exact ⟨remote, akamaiToken, akamai, r2Token, r2⟩
    · rintro ⟨remote, akamaiToken, akamai, r2Token, r2⟩
      exact ⟨remote, akamaiToken, akamai, r2Token, r2, trivial⟩
  · intro remote fixed
    rw [accepts_bind, accepts_akamaiConfig valid parsing fixed]
    intro akamai lifetime
    rw [accepts_bind, accepts_r2Config valid parsing lifetime]
    intro r2
    rw [accepts_pure]

end Service

namespace Sample

def release : Table :=
  [("version", .string "v0.3.0"), ("repository", .string "barn0w1/minecraft-server-management"),
    ("target", .string "x86_64-unknown-linux-musl"),
    ("checksums_sha256", .string "aaaaaaaaaaaaaaaaaaaaaaaaaaaaaaaaaaaaaaaaaaaaaaaaaaaaaaaaaaaaaaaa"),
    ("expected_commit", .string "bbbbbbbbbbbbbbbbbbbbbbbbbbbbbbbbbbbbbbbb")]

def serviceTable : Table :=
  [("public_address", .string "mc.example.com:443"), ("server_name", .string "mc.example.com"),
    ("trust_domain", .string "example.com"), ("certbot_lineage", .string "/etc/letsencrypt/live/mc")]

def akamai (lifetime : Int) : Table :=
  [("scope", .string "production"), ("allowed_regions", .array [.string "jp-tyo-3"]),
    ("allowed_images", .array [.string "linode/debian13"]),
    ("allowed_instance_types", .array [.string "g6-nanode-1"]),
    ("allowed_firewall_ids", .array [.integer 123]), ("max_active_instances", .integer 1),
    ("max_instance_lifetime_seconds", .integer lifetime)]

def r2 (ttl : Int) : Table :=
  [("account_id", .string "cccccccccccccccccccccccccccccccc"), ("parent_access_key_id", .string "key"),
    ("bucket", .string "backups"), ("temporary_credential_ttl_seconds", .integer ttl)]

def files : Table :=
  [("akamai_api_token", .string "a"), ("r2_api_token", .string "b"), ("remote_tls_private_key", .string "c"),
    ("agent_client_ca_private_key", .string "d"), ("r2_runtime_environment", .string "e"),
    ("remote_tls_fullchain", .string "f"), ("remote_tls_root_ca", .string "g"),
    ("agent_client_ca_certificate", .string "h"), ("authorized_keys", .string "i")]

def acceptance : Table :=
  [("region", .string "jp-tyo-3"), ("image", .string "linode/debian13"),
    ("instance_type", .string "g6-nanode-1"), ("firewall_id", .integer 123), ("host_port", .integer 25565),
    ("timeout_seconds", .integer 600)]

def document (lifetime ttl : Int) : Table :=
  [("release", .table release), ("service", .table serviceTable), ("akamai", .table (akamai lifetime)),
    ("r2", .table (r2 ttl)), ("files", .table files), ("acceptance", .table acceptance)]

def host (path : String) : Option InputFile :=
  some { mode := 0o600
         content := .text (if path = "e" then "AWS_DEFAULT_REGION=auto\n" else "secret\n") }

def libraries : Libraries where
  parseUrl := ControlPlane.Sample.parseHttps
  parseSocketAddr value :=
    if value = "127.0.0.1:39001" then some ⟨true, 39001⟩
    else if value = "0.0.0.0:443" then some ⟨false, 443⟩ else none
  isLoopbackIp _ := false
  readEnvironmentFile text name := ((Lines.lines '\n' text.toList).map fun line =>
    (String.ofList (line.takeWhile (· != '=')), String.ofList ((line.dropWhile (· != '=')).tail.dropLast))).lookup name

def digest : String := "aaaaaaaaaaaaaaaaaaaaaaaaaaaaaaaaaaaaaaaaaaaaaaaaaaaaaaaaaaaaaaaa"

def config (lifetime ttl : Int) : Config where
  release :=
    { version := "v0.3.0", repository := "barn0w1/minecraft-server-management"
      target := "x86_64-unknown-linux-musl"
      checksumsSha256 := "aaaaaaaaaaaaaaaaaaaaaaaaaaaaaaaaaaaaaaaaaaaaaaaaaaaaaaaaaaaaaaaa"
      expectedCommit := "bbbbbbbbbbbbbbbbbbbbbbbbbbbbbbbbbbbbbbbb" }
  service := serviceTable
  akamai := akamai lifetime
  r2 := r2 ttl
  files :=
    { akamaiApiToken := "a", r2ApiToken := "b", remoteTlsPrivateKey := "c", agentClientCaPrivateKey := "d"
      r2RuntimeEnvironment := "e", remoteTlsFullchain := "f", remoteTlsRootCa := "g"
      agentClientCaCertificate := "h", authorizedKeys := "i" }
  acceptance := acceptance

set_option maxRecDepth 8000 in
theorem loaded (lifetime ttl : Int) : loadConfig id (document lifetime ttl) = .ok (config lifetime ttl) := by
  exact rfl

structure CheckedConfig where
  config : Config
  checked : validateConfig host config = .ok ()
  plain : (rendering config).texts.all isPlain = true

def ordinary : CheckedConfig := ⟨config 43200 46800, by decide +kernel, by decide +kernel⟩

def longLived : CheckedConfig := ⟨config 200000 300000, by decide +kernel, by decide +kernel⟩

theorem digest_hex : isHex 64 isAsciiHexdigit digest = true := by decide

theorem parsing : Parsing libraries where
  url := ControlPlane.Sample.parseHttps_whatwg
  loopback := by decide
  everywhere := by decide
  port host address parsed := by
    simp only [libraries] at parsed
    split_ifs at parsed with local443 everywhere443
    · have last := congrArg (fun text => text.toList.getLast?) local443
      simp at last
    · rw [← Option.some.inj parsed]
  environmentFile settings plain name := by
    have apart : ∀ setting ∈ settings, '=' ∉ setting.1.toList ∧ '\n' ∉ setting.1.toList ∧
        '\n' ∉ setting.2.toList := by
      intro setting member
      have named := plain.names setting member
      have value := plain.values setting member
      simp only [isName, isPlain, Bool.and_eq_true, List.all_eq_true] at named value
      exact ⟨fun found => absurd (named.1.2 _ found) (by decide),
        fun found => absurd (named.1.2 _ found) (by decide), fun found => absurd (value.1.1 _ found) (by decide)⟩
    have cut : Lines.lines '\n' (String.join (settings.map settingText)).toList =
        settings.map fun setting => (settingText setting).toList := by
      rw [show (String.join (settings.map settingText)).toList =
          (settings.map fun setting => (settingText setting).toList).flatten by
        simp [String.toList_join, List.flatMap_def, Function.comp_def], Lines.lines_flatten]
      intro piece member
      obtain ⟨setting, listed, rfl⟩ := List.mem_map.mp member
      obtain ⟨-, name, value⟩ := apart setting listed
      exact ⟨setting.1.toList ++ '=' :: setting.2.toList, by simp [settingText], by simp [name, value]⟩
    simp only [libraries, cut, List.map_map]
    congr 1
    conv_rhs => rw [← List.map_id settings]
    refine List.map_congr_left fun setting listed => ?_
    have unequal : ∀ char ∈ setting.1.toList, (char != '=') = true := by
      intro char member
      simp only [bne_iff_ne]
      rintro rfl
      exact (apart setting listed).1 member
    have text : (settingText setting).toList = setting.1.toList ++ '=' :: (setting.2.toList ++ ['\n']) := by
      simp [settingText]
    simp [text, List.takeWhile_append_of_pos unequal, List.dropWhile_append_of_pos unequal]

theorem deployable : Deployable host (config 43200 46800) where
  remote := ⟨by decide, by decide, by decide +kernel⟩
  akamaiToken := ⟨_, rfl, by decide⟩
  akamai := ⟨by decide, by decide, by decide, by decide, by decide⟩
  r2Token := ⟨_, rfl, by decide⟩
  r2 := ⟨by decide, by decide, _, rfl, by decide, by decide⟩
  plain := List.all_eq_true.mp ordinary.plain

end Sample

end McServer.Deploy
