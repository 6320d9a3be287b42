import McServer.System.Isolation
import McServer.ControlPlane.Config

set_option autoImplicit false

namespace McServer.System

open Domain ControlPlane

theorem toLower_eq_self {char : Char} : char.toLower = char ↔ Text.isAsciiUppercase char = false := by
  unfold Char.toLower Text.isAsciiUppercase
  split_ifs with upper
  · have inside : 'A' ≤ char ∧ char ≤ 'Z' := upper
    simp [Char.ext_iff, inside]
  · have outside : ¬ ('A' ≤ char ∧ char ≤ 'Z') := upper
    simpa using outside

theorem asciiLowercase_eq_self {value : String} :
    asciiLowercase value = value ↔ ∀ char ∈ value.toList, Text.isAsciiUppercase char = false := by
  have pointwise : value.toList.map Char.toLower = value.toList.map id ↔
      ∀ char ∈ value.toList, char.toLower = char := List.map_inj_left
  rw [List.map_id] at pointwise
  rw [asciiLowercase, ← String.toList_inj, String.toList_ofList, pointwise]
  simp only [toLower_eq_self]

theorem asciiLowercase_append (first second : String) :
    asciiLowercase (first ++ second) = asciiLowercase first ++ asciiLowercase second := by
  simp [asciiLowercase]

section Accepted

variable {accountId bucket : String} (account : Config.isR2AccountId accountId = true)
  (named : Config.isR2BucketName bucket = true)

include account in
theorem accountId_chars {char : Char} (member : char ∈ accountId.toList) :
    Text.isAsciiAlphanumeric char = true := by
  simp only [Config.isR2AccountId, Bool.and_eq_true, List.all_eq_true] at account
  have hexdigit := account.2 char member
  simp only [Config.isAsciiHexdigit, Text.isAsciiAlphanumeric, Text.isAsciiAlphabetic,
    Text.isAsciiLowercase, Text.isAsciiUppercase, Bool.or_eq_true, Bool.and_eq_true,
    decide_eq_true_eq] at hexdigit ⊢
  have lower : 'f' ≤ 'z' := by decide
  have upper : 'F' ≤ 'Z' := by decide
  rcases hexdigit with (digit | small) | capital
  · exact .inr digit
  · exact .inl (.inl ⟨small.1, Char.le_trans small.2 lower⟩)
  · exact .inl (.inr ⟨capital.1, Char.le_trans capital.2 upper⟩)

theorem nonempty_of_bytes {value : String} (bytes : 0 < value.utf8ByteSize) : value.toList ≠ [] := by
  intro empty
  rw [String.toList_eq_nil_iff] at empty
  rw [empty] at bytes
  exact absurd bytes (by decide)

include account in
theorem isPlainHost_r2 : isPlainHost (R2Config.host accountId) = true := by
  have undotted : '.' ∉ accountId.toList := fun member =>
    absurd (accountId_chars account member) (by decide)
  have nonempty : accountId.toList ≠ [] := nonempty_of_bytes (by
    simp only [Config.isR2AccountId, Bool.and_eq_true, decide_eq_true_eq] at account
    omega)
  have pieces : (R2Config.host accountId).toList =
      accountId.toList ++ '.' :: ("r2".toList ++ '.' :: ("cloudflarestorage".toList ++ '.' :: "com".toList)) := by
    simp [R2Config.host]
  have labels : Text.splitAt '.' (R2Config.host accountId) = [accountId, "r2", "cloudflarestorage", "com"] := by
    unfold Text.splitAt
    rw [pieces, List.splitOn_append_cons_self_of_not_mem undotted,
      List.splitOn_append_cons_self_of_not_mem (by decide), List.splitOn_append_cons_self_of_not_mem (by decide),
      List.splitOn_eq_singleton (by decide)]
    simp
  have chars : (R2Config.host accountId).toList.all
      (fun char => char == '.' || Text.isAsciiAlphanumeric char) = true := by
    rw [R2Config.host, String.toList_append, List.all_append, Bool.and_eq_true]
    refine ⟨List.all_eq_true.mpr fun char member => ?_, by decide⟩
    simp [accountId_chars account member]
  have last : [accountId, "r2", "cloudflarestorage", "com"].getLast?.any
      (fun label => label.toList.all Text.isAsciiAlphabetic) = true := by
    simp only [List.getLast?_cons_cons, List.getLast?_singleton]
    decide
  simp only [isPlainHost, labels, chars, last, Bool.and_true, Bool.true_and]
  simpa using nonempty

theorem host_lowercase : asciiLowercase (R2Config.host accountId) = R2Config.host accountId ↔
    ∀ char ∈ accountId.toList, Text.isAsciiUppercase char = false := by
  have fixed : asciiLowercase ".r2.cloudflarestorage.com" = ".r2.cloudflarestorage.com" := by decide
  rw [R2Config.host, asciiLowercase_append, fixed, String.append_left_inj, asciiLowercase_eq_self]

include named in
theorem bucket_chars {char : Char} (member : char ∈ bucket.toList) :
    isSafePrefixChar char = true ∧ char ≠ '/' := by
  simp only [Config.isR2BucketName, Bool.and_eq_true, List.all_eq_true] at named
  have accepted := named.1.1.1.2 char member
  constructor
  · simp only [isSafePrefixChar, Text.isAsciiAlphanumeric, Text.isAsciiAlphabetic, Bool.or_eq_true] at accepted ⊢
    rcases accepted with ((lower | digit) | hyphen) | dot
    · simp [lower]
    · simp [digit]
    · simp [hyphen]
    · simp [dot]
  · rintro rfl
    exact absurd accepted (by decide)

theorem name_chars (name : ServerName) {char : Char} (member : char ∈ name.asStr.toList) :
    isSafePrefixChar char = true := by
  have valid := name.valid
  simp only [ServerName.isValid, Bool.and_eq_true, List.all_eq_true] at valid
  have accepted := valid.2 char member
  simp only [isSafePrefixChar, Text.isAsciiAlphanumeric, Text.isAsciiAlphabetic, ServerName.isNameChar,
    Bool.or_eq_true] at accepted ⊢
  rcases accepted with (lower | digit) | hyphen
  · simp [lower]
  · simp [digit]
  · simp [hyphen]

theorem name_ne_dots (name : ServerName) : name.asStr ≠ "" ∧ name.asStr ≠ "." ∧ name.asStr ≠ ".." := by
  have valid := name.valid
  refine ⟨?_, ?_, ?_⟩ <;>
  · intro same
    rw [same] at valid
    exact absurd valid (by decide)

def allocatedPath (bucket : String) (name : ServerName) : String :=
  "/" ++ (bucket ++ "/servers/" ++ name.asStr ++ "/restic")

include named in
theorem allocatedPath_segments (name : ServerName) :
    Text.splitAt '/' (bucket ++ "/servers/" ++ name.asStr ++ "/restic") =
      [bucket, "servers", name.asStr, "restic"] := by
  have unslashed : '/' ∉ bucket.toList := fun member => (bucket_chars named member).2 rfl
  have single : Text.splitAt '/' bucket = [bucket] := by
    simp [Text.splitAt, List.splitOn_eq_singleton unslashed]
  rw [splitAt_managed, single]
  rfl

include named in
theorem allocatedPath_plain (name : ServerName) :
    isPlainPath (allocatedPath bucket name) = true ∧ hasDotSegment (allocatedPath bucket name) = false := by
  constructor
  · simp only [isPlainPath, allocatedPath, String.toList_append, List.all_append, Bool.and_eq_true]
    have safe : ∀ chars : List Char, (∀ char ∈ chars, isSafePrefixChar char = true) →
        chars.all (fun char => char == '/' || isSafePrefixChar char) = true := by
      intro chars all
      exact List.all_eq_true.mpr fun char member => by simp [all char member]
    refine ⟨by simp, by decide, ⟨⟨safe _ fun char member => (bucket_chars named member).1, by decide⟩,
      safe _ fun char => name_chars name⟩, by decide⟩
  · have pieces : Text.splitAt '/' (allocatedPath bucket name) =
        "" :: Text.splitAt '/' (bucket ++ "/servers/" ++ name.asStr ++ "/restic") := by
      have opens : (allocatedPath bucket name).toList =
          [] ++ '/' :: (bucket ++ "/servers/" ++ name.asStr ++ "/restic").toList := by
        simp [allocatedPath]
      rw [Text.splitAt, opens, List.splitOn_append_cons_self_of_not_mem (by simp)]
      rfl
    have apart : bucket ≠ "." ∧ bucket ≠ ".." := by
      constructor <;>
      · intro same
        rw [same] at named
        exact absurd named (by decide)
    obtain ⟨-, dot, dots⟩ := name_ne_dots name
    simp [hasDotSegment, pieces, allocatedPath_segments named, apart, dot, dots]

theorem managedPrefix_valid (name : ServerName) : validatePrefix (managedPrefix name) = .ok () := by
  have valid := name.valid
  simp only [ServerName.isValid, Bool.and_eq_true, decide_eq_true_eq] at valid
  have short := Text.charCount_le_utf8ByteSize name.asStr
  have clean : Text.containsNul name.asStr = false := (Store.ServerName.legible name).clean
  have bounded : Text.charCount (managedPrefix name) ≤ maxRepositoryPrefixChars := by
    simp only [Text.charCount, managedPrefix, String.toList_append, List.length_append] at short ⊢
    have limit := valid.1.1.1.2
    simp only [maxServerNameChars] at limit
    simp only [maxRepositoryPrefixChars]
    have fixed : "servers/".toList.length = 8 ∧ "/restic/".toList.length = 8 := by decide
    omega
  have nul : Text.containsNul (managedPrefix name) = false := by
    simp only [Text.containsNul, managedPrefix, String.toList_append, List.contains_append,
      Bool.or_eq_false_iff] at clean ⊢
    exact ⟨⟨by decide, clean⟩, by decide⟩
  have first : (managedPrefix name).toList.head? = some 's' := by simp [managedPrefix]
  have last : (managedPrefix name).toList.getLast? = some '/' := by
    rw [managedPrefix, String.toList_append, List.getLast?_append_of_ne_nil _ (by decide)]
    decide
  have nonempty : (managedPrefix name).toList.isEmpty = false := by simp [managedPrefix]
  simp [validatePrefix, isValidPrefix, nonempty, first, last, bounded, nul]

theorem prefixOfSegments_allocated (repository bucket : String) (name : ServerName) :
    prefixOfSegments repository bucket [bucket, "servers", name.asStr, "restic"] =
      .ok (managedPrefix name) := by
  obtain ⟨empty, dot, dots⟩ := name_ne_dots name
  have safe : isSafePrefixSegment name.asStr = true := by
    simp only [isSafePrefixSegment, Bool.and_eq_true, bne_iff_ne, List.all_eq_true]
    exact ⟨⟨⟨by simpa using empty, dot⟩, dots⟩, fun char => name_chars name⟩
  have joined : "/".intercalate ["servers", name.asStr, "restic"] ++ "/" = managedPrefix name := by
    simp [managedPrefix, ← String.toList_inj]
  have kept : dropTrailingEmpty ["servers", name.asStr, "restic"] = ["servers", name.asStr, "restic"] := rfl
  have fixed : isSafePrefixSegment "servers" = true ∧ isSafePrefixSegment "restic" = true := by decide
  simp only [prefixOfSegments, kept]
  rw [if_neg (by simp), if_neg (by simp [fixed, safe]), joined, managedPrefix_valid]
  rfl

include account named in
theorem repositoryPrefix_allocated {parseUrl : String → Option Url} (whatwg : Whatwg parseUrl)
    (name : ServerName) {repository : String}
    (allocated : repository = "s3:" ++ ("https://" ++ R2Config.host accountId ++ allocatedPath bucket name)) :
    repositoryPrefix parseUrl repository accountId bucket =
      if asciiLowercase (R2Config.host accountId) = R2Config.host accountId then .ok (managedPrefix name)
      else .error (.unsupportedRepository repository) := by
  obtain ⟨plain, undotted⟩ := allocatedPath_plain named name
  obtain ⟨url, parsed, scheme, host, port, username, password, query, fragment, path⟩ :=
    whatwg.parses (R2Config.host accountId) (allocatedPath bucket name) (isPlainHost_r2 account) plain
  have read : (Text.stripStart "s3:" repository).bind parseUrl = some url := by
    rw [allocated, Text.stripStart_append, Option.bind_some, parsed]
  have endpoint : url.isR2Endpoint accountId =
      decide (asciiLowercase (R2Config.host accountId) = R2Config.host accountId) := by
    simp only [Url.isR2Endpoint, scheme, host, port, username, password, query, fragment]
    by_cases same : asciiLowercase (R2Config.host accountId) = R2Config.host accountId <;> simp [same]
  have unescaped : (bucket ++ "/servers/" ++ name.asStr ++ "/restic").toList.contains '%' = false := by
    rw [Bool.eq_false_iff]
    intro escaped
    simp only [isPlainPath, Bool.and_eq_true, List.all_eq_true] at plain
    have accepted := plain.2 '%' (by simp [allocatedPath] at escaped ⊢; exact escaped)
    exact absurd accepted (by decide)
  simp only [repositoryPrefix, read, endpoint]
  by_cases same : asciiLowercase (R2Config.host accountId) = R2Config.host accountId
  · simp only [same, path undotted]
    simp only [allocatedPath, Text.stripStart_append, Option.getD_some, unescaped,
      allocatedPath_segments named, prefixOfSegments_allocated]
    simp
  · simp [same]

end Accepted

theorem allocated_repository_usable (parseUrl : String → Option Url) (whatwg : Whatwg parseUrl)
    (config : R2Config) (account : Config.isR2AccountId config.accountId = true)
    (named : Config.validateR2BucketName config.bucket = .ok ()) (name : ServerName) (repository : String)
    (allocated : ServerService.r2Repository (some config.repositoryBase) name = some repository) :
    repositoryPrefix parseUrl repository config.accountId config.bucket =
        .ok ("servers/" ++ name.asStr ++ "/restic/") ↔
      ∀ char ∈ config.accountId.toList, Text.isAsciiUppercase char = false := by
  have accepted : Config.isR2BucketName config.bucket = true := by
    unfold Config.validateR2BucketName at named
    split_ifs at named with valid
    exact valid
  have written : repository = "s3:" ++
      ("https://" ++ R2Config.host config.accountId ++ allocatedPath config.bucket name) := by
    rw [← Option.some.inj allocated, ← String.toList_inj]
    simp [R2Config.repositoryBase, allocatedPath]
  rw [repositoryPrefix_allocated account accepted whatwg name written, ← host_lowercase]
  split_ifs with same
  · simp [managedPrefix, same]
  · simp [same]

namespace Sample

def capitals : R2Config where
  accountId := "0123456789ABCDEF0123456789ABCDEF"
  bucket := "minecraft"
  temporaryCredentialTtlSeconds := 3600
  runtimeEnvironment := []

end Sample

theorem allocated_repository_usable_at_sample :
    repositoryPrefix Sample.parseHttps (Sample.credentialManager.config.repositoryBase ++ "/servers/" ++
      "world" ++ "/restic") Sample.account "minecraft" = .ok ("servers/" ++ "world" ++ "/restic/") := by
  have lower : (Sample.account.toList.all fun char => !Text.isAsciiUppercase char) = true := by decide
  refine (allocated_repository_usable Sample.parseHttps Sample.parseHttps_whatwg Sample.credentialManager.config
    (by decide) (by decide) ⟨"world", by decide⟩ _ rfl).mpr fun char member => ?_
  simpa using List.all_eq_true.mp lower char member

theorem capital_account_refused :
    Config.isR2AccountId Sample.capitals.accountId = true ∧
      Config.validateR2BucketName Sample.capitals.bucket = .ok () ∧ Whatwg Sample.parseHttps ∧
      repositoryPrefix Sample.parseHttps (Sample.capitals.repositoryBase ++ "/servers/world/restic")
          Sample.capitals.accountId Sample.capitals.bucket =
        .error (.unsupportedRepository (Sample.capitals.repositoryBase ++ "/servers/world/restic")) :=
  ⟨by decide, by decide, Sample.parseHttps_whatwg, by decide +kernel⟩

end McServer.System
