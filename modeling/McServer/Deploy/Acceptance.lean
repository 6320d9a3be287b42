import McServer.Deploy.Document
import McServer.Library.Accepts

set_option autoImplicit false

namespace McServer.Deploy

open Domain ControlPlane ControlPlane.Config Outcome

def Clean (value : String) (maximum : Nat) : Prop :=
  Text.isBlank value = false ∧ Text.containsNul value = false ∧ Text.charCount value ≤ maximum

instance (value : String) (maximum : Nat) : Decidable (Clean value maximum) := by
  unfold Clean
  infer_instance

section Daemon

variable {environment : ControlPlane.Config.Environment} {name : Variable} {value : String} {maximum : Nat}

theorem accepts_validateNonBlank {post : Unit → Prop} :
    Accepts (validateNonBlank name value maximum) post ↔ Clean value maximum ∧ post () := by
  unfold validateNonBlank Clean
  by_cases blank : Text.isBlank value = true
  · simp [blank]
  · by_cases nul : Text.containsNul value = true
    · simp [blank, nul]
    · by_cases long : maximum < Text.charCount value
      · simp [blank, nul, long, Nat.not_le.mpr long]
      · simp [blank, nul, long, Nat.not_lt.mp long]

theorem accepts_requiredNonBlank {post : String → Prop} (known : environment.value name = some value) :
    Accepts (requiredNonBlank environment name maximum) post ↔ Clean value maximum ∧ post value := by
  simp only [requiredNonBlank, known, accepts_bind, accepts_validateNonBlank, accepts_pure]

theorem accepts_requiredPath {post : String → Prop} (known : environment.value name = some value)
    (clean : Clean value maxPathChars) : Accepts (requiredPath environment name) post ↔ post value := by
  rw [requiredPath, accepts_requiredNonBlank known]
  exact and_iff_right clean

theorem accepts_optionalScope {post : String → Prop} {default : String}
    (known : optionalString environment name default = value) :
    Accepts (optionalScope environment name default) post ↔
      Clean value maxScopeChars ∧ value.toList.all isScopeChar = true ∧ post value := by
  simp only [optionalScope, known, accepts_bind, accepts_validateNonBlank, accepts_ite, accepts_pure,
    accepts_throw]
  tauto

theorem accepts_parseIdentifierSet {post : List String → Prop} {default : String}
    (known : optionalString environment name default = value) :
    Accepts (parseIdentifierSet environment name default) post ↔
      (pieces value ≠ [] ∧ ∀ piece ∈ pieces value, isProviderIdentifier piece = true) ∧ post (pieces value) := by
  simp only [parseIdentifierSet, known, accepts_ite, accepts_error, accepts_ok, Bool.or_eq_true,
    List.isEmpty_iff, List.any_eq_true, Bool.not_eq_true']
  grind

theorem accepts_parsePositive {post : Nat → Prop} {default parsed : Nat}
    (known : environment.value name = some value) (accepted : Text.parseU64 value = some parsed)
    (positive : parsed ≠ 0) : Accepts (parsePositive environment name default) post ↔ post parsed := by
  simp [parsePositive, known, accepted, positive, accepts_ite]

theorem accepts_parsePositive_default {post : Nat → Prop} {default : Nat}
    (unset : environment.value name = none) (positive : default ≠ 0) :
    Accepts (parsePositive environment name default) post ↔ post default := by
  simp [parsePositive, unset, positive, accepts_ite]

theorem accepts_validateDnsName {post : Unit → Prop} :
    Accepts (validateDnsName value) post ↔ isDnsName value = true ∧ post () := by
  simp only [validateDnsName, accepts_ite, accepts_ok, accepts_error]
  tauto

theorem accepts_validateR2BucketName {post : Unit → Prop} :
    Accepts (validateR2BucketName value) post ↔ isR2BucketName value = true ∧ post () := by
  simp only [validateR2BucketName, accepts_ite, accepts_ok, accepts_error]
  tauto

theorem accepts_validateR2AccountId {post : Unit → Prop} :
    Accepts (validateR2AccountId value) post ↔ isR2AccountId value = true ∧ post () := by
  simp only [validateR2AccountId, accepts_ite, accepts_ok, accepts_error]
  tauto

theorem accepts_parseBool {post : Bool → Prop} {default parsed : Bool}
    (known : environment.value name = some (if parsed then "true" else "false")) :
    Accepts (parseBool environment name default) post ↔ post parsed := by
  cases parsed <;> simp [parseBool, known]

theorem accepts_listen {post : SocketAddr → Prop} {invalid zero : ConfigError} {address : SocketAddr}
    (parsed : environment.parseSocketAddr value = some address) (positive : address.port ≠ 0) :
    Accepts (Config.listen environment invalid zero value) post ↔ post address := by
  simp [Config.listen, parsed, positive]

abbrev IsVisible (char : Char) : Prop := 33 ≤ char.toNat ∧ char.toNat ≤ 126

theorem alphanumeric_visible {char : Char} (member : Text.isAsciiAlphanumeric char = true) : IsVisible char := by
  simp only [Text.isAsciiAlphanumeric, Text.isAsciiAlphabetic, Text.isAsciiLowercase,
    Text.isAsciiUppercase, Text.isAsciiDigit, Bool.or_eq_true, Bool.and_eq_true, decide_eq_true_eq,
    Char.le_def, UInt32.le_iff_toNat_le, Char.toNat_val] at member
  have codes : 'a'.toNat = 97 ∧ 'z'.toNat = 122 ∧ 'A'.toNat = 65 ∧ 'Z'.toNat = 90 ∧ '0'.toNat = 48 ∧
      '9'.toNat = 57 := by decide
  unfold IsVisible
  omega

theorem clean_of_visible (nonempty : value.toList ≠ []) (visible : ∀ char ∈ value.toList, IsVisible char)
    (short : Text.charCount value ≤ maximum) : Clean value maximum := by
  refine ⟨?_, ?_, short⟩
  · obtain ⟨char, rest, first⟩ := List.exists_cons_of_ne_nil nonempty
    have member : char ∈ value.toList := by simp [first]
    exact Text.isBlank_false member
      (Text.isWhitespace_false (visible char member).1 (visible char member).2)
  · rw [Text.containsNul, Bool.eq_false_iff]
    intro found
    have nul := visible _ (List.contains_iff_mem.mp found)
    exact absurd nul.1 (by decide)

theorem utf8ByteSize_visible (visible : ∀ char ∈ value.toList, IsVisible char) :
    value.utf8ByteSize = Text.charCount value := by
  obtain ⟨chars, rfl⟩ : ∃ chars, value = String.ofList chars := ⟨value.toList, by simp⟩
  simp only [Text.charCount, String.toList_ofList, String.utf8ByteSize_ofList] at visible ⊢
  induction chars with
  | nil => simp
  | cons char rest ih =>
    have ascii : char.utf8Size = 1 := by
      have code := (visible char (by simp)).2
      rw [Char.utf8Size, if_pos]
      rw [UInt32.le_iff_toNat_le, Char.toNat_val]
      exact Nat.le_trans code (by decide)
    have remaining := ih fun other member => visible other (by simp [member])
    simp only [List.length_cons, String.utf8Len_cons]
    omega

theorem mem_intercalate {separator char : Char} {parts : List (List Char)}
    (member : char ∈ [separator].intercalate parts) : char = separator ∨ ∃ part ∈ parts, char ∈ part := by
  induction parts with
  | nil => simp at member
  | cons first rest ih =>
    cases rest with
    | nil => exact .inr ⟨first, by simp, by simpa using member⟩
    | cons second others =>
      rw [List.intercalate_cons_cons] at member
      simp only [List.mem_append, List.mem_singleton] at member
      rcases member with (inside | same) | later
      · exact .inr ⟨first, by simp, inside⟩
      · exact .inl same
      · rcases ih later with same | ⟨part, among, inside⟩
        · exact .inl same
        · exact .inr ⟨part, by simp [among], inside⟩

theorem mem_splitAt {separator char : Char} (member : char ∈ value.toList) :
    char = separator ∨ ∃ piece ∈ Text.splitAt separator value, char ∈ piece.toList := by
  have whole : [separator].intercalate (value.toList.splitOn separator) = value.toList :=
    List.intercalate_splitOn separator
  rw [← whole] at member
  rcases mem_intercalate member with same | ⟨part, among, inside⟩
  · exact .inl same
  · exact .inr ⟨String.ofList part, List.mem_map_of_mem among, by simpa using inside⟩

theorem dnsName_visible (named : isDnsName value = true) : ∀ char ∈ value.toList, IsVisible char := by
  intro char member
  simp only [isDnsName, Bool.and_eq_true, List.all_eq_true] at named
  have place : char = '.' ∨ ∃ piece ∈ Text.splitAt '.' value, char ∈ piece.toList := mem_splitAt member
  rcases place with same | ⟨piece, among, inside⟩
  · rw [same]
    decide
  · have label := named.2 piece among
    simp only [isDnsLabel, Bool.and_eq_true, List.all_eq_true, Bool.or_eq_true, beq_iff_eq] at label
    rcases label.2 char inside with letter | dash
    · exact alphanumeric_visible letter
    · rw [dash]
      decide

theorem dnsName_clean (named : isDnsName value = true) : Clean value Config.maxServerNameChars := by
  have bytes := Text.charCount_le_utf8ByteSize value
  simp only [isDnsName, Bool.and_eq_true, decide_eq_true_eq, List.all_eq_true] at named
  refine clean_of_visible ?_ (dnsName_visible (by simpa [isDnsName] using named)) (by omega)
  -- The empty text has one empty label.
  intro empty
  have label := named.2 "" (by simp [Text.splitAt, empty])
  exact absurd label (by decide)

theorem rsplitOnce_append {separator : Char} {host port : String} (plain : separator ∉ port.toList) :
    rsplitOnce separator (host ++ String.singleton separator ++ port) = some (host, port) := by
  have pieces : Text.splitAt separator (host ++ String.singleton separator ++ port) =
      Text.splitAt separator host ++ [port] := by
    have chars : (host ++ String.singleton separator ++ port).toList =
        host.toList ++ separator :: port.toList := by simp
    unfold Text.splitAt
    rw [chars, List.splitOn_append_cons_self, List.splitOn_eq_singleton plain]
    simp
  have whole : (String.singleton separator).intercalate (Text.splitAt separator host) = host := by
    have joined : [separator].intercalate (host.toList.splitOn separator) = host.toList :=
      List.intercalate_splitOn separator
    rw [← String.toList_inj, String.toList_intercalate]
    simp only [Text.splitAt, String.toList_singleton, List.map_map, Function.comp_def,
      String.toList_ofList, List.map_id']
    exact joined
  unfold rsplitOnce
  rw [pieces, List.reverse_append]
  cases earlier : (Text.splitAt separator host).reverse with
  | nil =>
    rw [List.reverse_eq_nil_iff] at earlier
    exact absurd (List.map_eq_nil_iff.mp earlier) (List.splitOn_ne_nil _ _)
  | cons before rest =>
    have back : (before :: rest).reverse = Text.splitAt separator host := by
      rw [← earlier, List.reverse_reverse]
    simp only [List.reverse_singleton, List.singleton_append, back, whole]

theorem accepts_validateHostPort {post : Unit → Prop} {host : String} (known : value = host ++ ":443")
    (ports : ∀ address, environment.parseSocketAddr value = some address → address.port ≠ 0)
    (named : isDnsName host = true) : Accepts (validateHostPort environment value) post ↔ post () := by
  unfold validateHostPort
  cases parsed : environment.parseSocketAddr value with
  | some address => simp [ports address parsed]
  | none =>
    have port : parseU16 "443" = some 443 := by decide
    have separated : rsplitOnce ':' value = some (host, "443") := by
      rw [known, show host ++ ":443" = host ++ String.singleton ':' ++ "443" by simp [← String.toList_inj]]
      exact rsplitOnce_append (by decide)
    simp [separated, accepts_validateDnsName, named, port]

theorem hasExplicitAuthority_github (path : String) :
    hasExplicitAuthority ("https://" ++ "github.com" ++ path) = true := by
  have chars : ("https://" ++ "github.com" ++ path).toList =
      "https://github.com".toList ++ path.toList := by simp
  have separated : splitOnce.go "://" [] ("https://github.com".toList ++ path.toList) =
      some ("https", String.ofList ("github.com".toList ++ path.toList)) := rfl
  unfold hasExplicitAuthority splitOnce
  rw [chars, separated]
  simp only [String.toList_ofList]
  rfl

theorem accepts_validateHttpsUrl {post : Unit → Prop} {path : String} (whatwg : Whatwg environment.parseUrl)
    (known : value = "https://" ++ "github.com" ++ path) (plain : isPlainPath path = true) :
    Accepts (validateHttpsUrl environment name value) post ↔ post () := by
  obtain ⟨url, parsed, scheme, host, _, username, password, _, fragment, _⟩ :=
    whatwg.parses "github.com" path (by decide) plain
  simp only [validateHttpsUrl, known, parsed, scheme, hasExplicitAuthority_github, host, username, password,
    fragment]
  simp

theorem accepts_validateBaseUrl {post : Bool → Prop} {invalid : String → ConfigError} {host path : String}
    (whatwg : Whatwg environment.parseUrl) (known : value = "https://" ++ host ++ path)
    (plainHost : isPlainHost host = true) (plainPath : isPlainPath path = true)
    (explicit : hasExplicitAuthority value = true) :
    Accepts (validateBaseUrl environment invalid value) post ↔
      post (isLoopbackHost environment (asciiLowercase host)) := by
  obtain ⟨url, parsed, scheme, named, _, username, password, query, fragment, _⟩ :=
    whatwg.parses host path plainHost plainPath
  rw [← known] at parsed
  simp [validateBaseUrl, parsed, scheme, explicit, named, username, password, query, fragment]

theorem trim_visible (visible : ∀ char ∈ value.toList, IsVisible char) : Text.trim value = value := by
  have dark : ∀ char ∈ value.toList, Text.isWhitespace char = false := fun char member =>
    Text.isWhitespace_false (visible char member).1 (visible char member).2
  have left : value.toList.dropWhile Text.isWhitespace = value.toList := by
    rw [List.dropWhile_eq_self_iff]
    intro nonempty
    simp [dark _ (List.getElem_mem nonempty)]
  have right : value.toList.rdropWhile Text.isWhitespace = value.toList := by
    rw [List.rdropWhile_eq_self_iff]
    intro nonempty
    simp [dark _ (List.getLast_mem nonempty)]
  rw [Text.trim, left, right, String.ofList_toList]

def IsListed (value : String) : Prop :=
  value.toList ≠ [] ∧ ∀ char ∈ value.toList, IsVisible char ∧ char ≠ ','

theorem pieces_intercalate {parts : List String} (nonempty : parts ≠ [])
    (listed : ∀ part ∈ parts, IsListed part) : pieces (",".intercalate parts) = parts := by
  have separated : Text.splitAt ',' (",".intercalate parts) = parts := by
    have commaless : ∀ part ∈ parts.map String.toList, ',' ∉ part := by
      intro part member inside
      obtain ⟨text, among, rfl⟩ := List.mem_map.mp member
      exact ((listed text among).2 ',' inside).2 rfl
    have split := List.splitOn_intercalate ',' commaless (by simpa using nonempty)
    rw [Text.splitAt, String.toList_intercalate, show ",".toList = [','] from rfl, split, List.map_map]
    simp [Function.comp_def]
  have trimmed : parts.map Text.trim = parts := by
    calc parts.map Text.trim = parts.map id := List.map_congr_left fun part member =>
          trim_visible fun char inside => ((listed part member).2 char inside).1
      _ = parts := List.map_id parts
  have kept : parts.filter (fun part => !part.toList.isEmpty) = parts := by
    rw [List.filter_eq_self]
    intro part member
    simp [(listed part member).1]
  rw [pieces, separated, trimmed, kept]

theorem intercalate_visible {parts : List String} (listed : ∀ part ∈ parts, IsListed part) :
    ∀ char ∈ (",".intercalate parts).toList, IsVisible char := by
  intro char member
  rw [String.toList_intercalate] at member
  rcases mem_intercalate member with same | ⟨part, among, inside⟩
  · rw [same]
    decide
  · obtain ⟨text, belongs, rfl⟩ := List.mem_map.mp among
    exact ((listed text belongs).2 char inside).1

theorem intercalate_nonempty {parts : List String} (nonempty : parts ≠ [])
    (listed : ∀ part ∈ parts, IsListed part) : (",".intercalate parts).toList ≠ [] := by
  intro empty
  have back := pieces_intercalate nonempty listed
  rw [String.toList_eq_nil_iff.mp empty] at back
  exact nonempty back.symm

theorem mapM_parseU64 (values : List Nat) :
    (values.map toString).mapM Text.parseU64 =
      if ∀ value ∈ values, value ≤ maximumU64 then some values else none := by
  induction values with
  | nil => simp
  | cons value rest ih =>
    rw [List.map_cons, List.mapM_cons, Text.parseU64_toString, ih]
    simp only [List.forall_mem_cons]
    by_cases small : value ≤ maximumU64
    · by_cases others : ∀ other ∈ rest, other ≤ maximumU64
      · rw [if_pos small, if_pos others, if_pos ⟨small, others⟩]
        rfl
      · rw [if_pos small, if_neg others, if_neg fun all => others all.2]
        rfl
    · simp [small]

theorem accepts_parsePositiveU64Set {post : List Nat → Prop} {values : List Nat}
    (known : environment.value name = some (",".intercalate (values.map toString)))
    (listed : ∀ part ∈ values.map toString, IsListed part) (nonempty : values ≠ [])
    (positive : ∀ value ∈ values, value ≠ 0) :
    Accepts (parsePositiveU64Set environment name) post ↔
      Text.charCount (",".intercalate (values.map toString)) ≤ 4096 ∧
        (∀ value ∈ values, value ≤ maximumU64) ∧ post values := by
  have some : values.map toString ≠ [] := by simpa using nonempty
  have clean : Clean (",".intercalate (values.map toString)) 4096 ↔
      Text.charCount (",".intercalate (values.map toString)) ≤ 4096 :=
    ⟨fun clean => clean.2.2, clean_of_visible (intercalate_nonempty some listed) (intercalate_visible listed)⟩
  rw [parsePositiveU64Set, accepts_bind, accepts_requiredNonBlank known, pieces_intercalate some listed,
    mapM_parseU64, clean]
  refine and_congr_right fun _ => ?_
  by_cases small : ∀ value ∈ values, value ≤ maximumU64
  · have fits : (!values.isEmpty && !values.contains 0) = true := by
      have absent : 0 ∉ values := fun member => positive 0 member rfl
      simp [nonempty, absent]
    rw [if_pos small]
    simp only [fits, if_true, accepts_pure]
    exact (and_iff_right small).symm
  · rw [if_neg small]
    simp [small]

def token (text : String) : String := trimEndMatches (fun char => char == '\r' || char == '\n') text

def IsToken (content : Option FileContent) : Prop :=
  ∃ text, content = some (.text text) ∧ Clean (token text) maxSecretChars

theorem accepts_apiToken {post : Option String → Prop} {direct file : Variable} {path : String} {rest : Prop}
    (unset : environment.value direct = none) (known : environment.value file = some path)
    (same : ∀ token, Clean token maxSecretChars → (post (some token) ↔ rest)) :
    Accepts (apiToken environment direct file) post ↔ IsToken (environment.file path) ∧ rest := by
  simp only [apiToken, unset, known, readSecretFile, IsToken, accepts_bind]
  cases environment.file path with
  | none => simp
  | some content =>
    cases content with
    | bytes length => simp
    | text text =>
      simp only [accepts_bind, accepts_validateNonBlank, accepts_pure, Option.some.injEq,
        FileContent.text.injEq, exists_eq_left']
      exact and_congr_right fun clean => same _ clean

theorem splitOnce_region {line region : String} :
    splitOnce "=" line = some ("AWS_DEFAULT_REGION", region) ↔ line = "AWS_DEFAULT_REGION=" ++ region := by
  constructor
  · intro found
    have whole := splitOnce_go found
    rw [← String.toList_inj]
    simpa using whole
  · rintro rfl
    have chars : ("AWS_DEFAULT_REGION=" ++ region).toList =
        "AWS_DEFAULT_REGION=".toList ++ region.toList := by simp
    have separated : splitOnce.go "=" [] ("AWS_DEFAULT_REGION=".toList ++ region.toList) =
        some ("AWS_DEFAULT_REGION", String.ofList region.toList) := rfl
    rw [splitOnce, chars, separated, String.ofList_toList]

def keptLines (rawLines : List String) : List String :=
  (rawLines.map (trimEndMatches (· == '\r'))).filter fun line => !isSkipped line

theorem keptLines_cons {raw : String} {rest : List String} :
    keptLines (raw :: rest) =
      if isSkipped (trimEndMatches (· == '\r') raw) then keptLines rest
      else trimEndMatches (· == '\r') raw :: keptLines rest := by
  by_cases skipped : isSkipped (trimEndMatches (· == '\r') raw) = true <;> simp [keptLines, skipped]

theorem accepts_readLine_again {post : List (String × String) → Prop} {region raw : String} {number : Nat} :
    Accepts (readLine [("AWS_DEFAULT_REGION", region)] number raw) post ↔
      isSkipped (trimEndMatches (· == '\r') raw) = true ∧ post [("AWS_DEFAULT_REGION", region)] := by
  unfold readLine
  by_cases skipped : isSkipped (trimEndMatches (· == '\r') raw) = true
  · simp [skipped]
  · simp only [skipped, Bool.false_eq_true, if_false, false_and, iff_false]
    cases found : splitOnce "=" (trimEndMatches (· == '\r') raw) with
    | none => simp
    | some entry =>
      obtain ⟨key, rest⟩ := entry
      by_cases named : key = "AWS_DEFAULT_REGION"
      · simp [named, isRuntimeEnvironmentKey, accepts_ite]
      · simp [named, isRuntimeEnvironmentKey]

theorem accepts_readLines_again {post : List (String × String) → Prop} {region : String}
    {rawLines : List String} {number : Nat} :
    Accepts (readLines [("AWS_DEFAULT_REGION", region)] number rawLines) post ↔
      keptLines rawLines = [] ∧ post [("AWS_DEFAULT_REGION", region)] := by
  induction rawLines generalizing number with
  | nil => simp [readLines, keptLines]
  | cons raw rest ih =>
    rw [readLines, accepts_bind, accepts_readLine_again, ih, keptLines_cons]
    by_cases skipped : isSkipped (trimEndMatches (· == '\r') raw) = true <;> simp [skipped]

theorem accepts_readLine {post : List (String × String) → Prop} {raw : String} {number : Nat}
    (counted : isSkipped (trimEndMatches (· == '\r') raw) = false) :
    Accepts (readLine [] number raw) post ↔ ∃ region,
      trimEndMatches (· == '\r') raw = "AWS_DEFAULT_REGION=" ++ region ∧
        Text.containsNul region = false ∧ Text.charCount region ≤ maxRuntimeEnvironmentValueChars ∧
        post [("AWS_DEFAULT_REGION", region)] := by
  simp only [readLine, counted, Bool.false_eq_true, if_false, ← splitOnce_region]
  cases found : splitOnce "=" (trimEndMatches (· == '\r') raw) with
  | none => simp
  | some entry =>
    obtain ⟨key, rest⟩ := entry
    by_cases named : key = "AWS_DEFAULT_REGION"
    · have few : ¬maxRuntimeEnvironmentEntries < 0 + 1 := by decide
      simp [named, isRuntimeEnvironmentKey, accepts_ite, few]
      grind
    · simp [named, isRuntimeEnvironmentKey]

theorem accepts_readLines {post : List (String × String) → Prop} {rawLines : List String} {number : Nat}
    (nonempty : ¬post []) :
    Accepts (readLines [] number rawLines) post ↔ ∃ region,
      keptLines rawLines = ["AWS_DEFAULT_REGION=" ++ region] ∧ Text.containsNul region = false ∧
        Text.charCount region ≤ maxRuntimeEnvironmentValueChars ∧
        post [("AWS_DEFAULT_REGION", region)] := by
  induction rawLines generalizing number with
  | nil => simp [readLines, keptLines, nonempty]
  | cons raw rest ih =>
    rw [readLines, accepts_bind, keptLines_cons]
    by_cases skipped : isSkipped (trimEndMatches (· == '\r') raw) = true
    · have unchanged : readLine [] number raw = .ok [] := by simp [readLine, skipped]
      rw [unchanged, accepts_ok, ih, if_pos skipped]
    · rw [accepts_readLine (Bool.eq_false_iff.mpr skipped), if_neg skipped]
      simp only [accepts_readLines_again, List.cons.injEq]
      grind

def IsRuntimeEnvironment (content : Option FileContent) : Prop :=
  ∃ text, content = some (.text text) ∧ text.utf8ByteSize ≤ maxRuntimeEnvironmentBytes ∧
    keptLines (lines text) = ["AWS_DEFAULT_REGION=auto"]

theorem accepts_validateRequired {post : Unit → Prop} {region : String} :
    Accepts (validateRequiredRuntimeEnvironment [("AWS_DEFAULT_REGION", region)]) post ↔
      region = "auto" ∧ post () := by
  have found : List.lookup "AWS_DEFAULT_REGION" [("AWS_DEFAULT_REGION", region)] = some region := by simp
  simp only [validateRequiredRuntimeEnvironment, found]
  by_cases auto : region = "auto"
  · have visible : Text.isBlank "auto" = false := by decide
    simp [auto, visible]
  · by_cases blank : Text.isBlank region = true <;> simp [auto, blank]

theorem accepts_readRuntimeEnvironment {post : List (String × String) → Prop} {path : String} {rest : Prop}
    (same : ∀ values, post values ↔ rest) :
    Accepts (readRuntimeEnvironment environment path) post ↔
      IsRuntimeEnvironment (environment.file path) ∧ rest := by
  unfold readRuntimeEnvironment IsRuntimeEnvironment
  cases environment.file path with
  | none => simp
  | some content =>
    by_cases large : maxRuntimeEnvironmentBytes < content.size
    · cases content with
      | bytes length => simp [large]
      | text text =>
        have big : ¬text.utf8ByteSize ≤ maxRuntimeEnvironmentBytes := Nat.not_le.mpr large
        simp [large, big]
    · cases content with
      | bytes length => simp [large]
      | text text =>
        have small : text.utf8ByteSize ≤ maxRuntimeEnvironmentBytes := Nat.not_lt.mp large
        have plain : Text.containsNul "auto" = false ∧
            Text.charCount "auto" ≤ maxRuntimeEnvironmentValueChars := by decide
        simp only [large, if_false, accepts_bind]
        rw [accepts_readLines (by simp)]
        simp only [List.isEmpty_cons, Bool.false_eq_true, if_false, accepts_bind, accepts_validateRequired,
          accepts_pure, same, Option.some.injEq, FileContent.text.injEq, exists_eq_left', small, true_and]
        constructor
        · rintro ⟨region, kept, _, _, rfl, accepted⟩
          exact ⟨kept, accepted⟩
        · rintro ⟨kept, accepted⟩
          exact ⟨"auto", kept, plain.1, plain.2, rfl, accepted⟩

end Daemon

end McServer.Deploy
