import Mathlib.Data.List.DropRight
import Mathlib.Data.Nat.Digits.Defs
import Mathlib.Data.String.Basic

set_option autoImplicit false

namespace McServer.Domain

-- Milliseconds since the Unix epoch. The source rejects negative values when it
-- reads the clock or a row, so only the non-negative part of `i64` occurs.
abbrev UnixTimestampMillis := Nat

-- The ranges of the source's integers, where an operation checks them.
def maximumU64 : Nat := 2 ^ 64 - 1
def maximumI64 : Nat := 2 ^ 63 - 1

def checkedAdd (value increment : Nat) : Option Nat :=
  if value + increment ≤ maximumU64 then some (value + increment) else none

theorem checkedAdd_eq {value increment sum : Nat} (accepted : checkedAdd value increment = some sum) :
    sum = value + increment := by
  unfold checkedAdd at accepted
  split at accepted
  · exact (Option.some.inj accepted).symm
  · cases accepted

namespace Text

def bytes (text : String) : List UInt8 := text.toUTF8.data.toList

def fromUtf8 (bytes : List UInt8) : Option String := String.fromUTF8? (ByteArray.mk bytes.toArray)

theorem fromUtf8_bytes (text : String) : fromUtf8 (bytes text) = some text := by
  have valid : text.toByteArray.IsValidUTF8 := text.isValidUTF8
  simp [fromUtf8, bytes, String.fromUTF8?, String.fromUTF8, valid]

-- The characters with the Unicode property White_Space, which `str::trim` removes.
def isWhitespace (char : Char) : Bool :=
  let code := char.toNat
  (0x9 ≤ code && code ≤ 0xd) || code == 0x20 || code == 0x85 || code == 0xa0 || code == 0x1680 ||
    (0x2000 ≤ code && code ≤ 0x200a) || code == 0x2028 || code == 0x2029 || code == 0x202f ||
    code == 0x205f || code == 0x3000

def trim (value : String) : String :=
  String.ofList ((value.toList.dropWhile isWhitespace).rdropWhile isWhitespace)

def isBlank (value : String) : Bool := (trim value).toList.isEmpty

def charCount (value : String) : Nat := value.toList.length

def containsNul (value : String) : Bool := value.toList.contains (Char.ofNat 0)

def takeChars (maximum : Nat) (value : String) : String := String.ofList (value.toList.take maximum)

theorem isWhitespace_false {char : Char} (low : 33 ≤ char.toNat) (high : char.toNat ≤ 126) :
    isWhitespace char = false := by
  simp only [isWhitespace, Bool.or_eq_false_iff, Bool.and_eq_false_iff, decide_eq_false_iff_not,
    beq_eq_false_iff_ne]
  omega

theorem isBlank_false {value : String} {char : Char} (member : char ∈ value.toList)
    (visible : isWhitespace char = false) : isBlank value = false := by
  rw [Bool.eq_false_iff]
  intro blank
  simp only [isBlank, trim, String.toList_ofList, List.isEmpty_iff, List.rdropWhile_eq_nil_iff] at blank
  have nothing : value.toList.dropWhile isWhitespace = [] := by
    cases rest : value.toList.dropWhile isWhitespace with
    | nil => rfl
    | cons head tail =>
      have stops := List.head_dropWhile_not (l := value.toList) isWhitespace (by simp [rest])
      have white := blank head (by simp [rest])
      simp [rest, white] at stops
  have all := List.dropWhile_eq_nil_iff.mp nothing char member
  simp [visible] at all

theorem exists_of_isBlank_false {value : String} (visible : isBlank value = false) :
    ∃ char ∈ value.toList, isWhitespace char = false := by
  by_contra none
  have all : ∀ char ∈ value.toList, isWhitespace char = true := by
    intro char member
    by_contra seen
    exact none ⟨char, member, Bool.eq_false_iff.mpr seen⟩
  have nothing : value.toList.dropWhile isWhitespace = [] := List.dropWhile_eq_nil_iff.mpr all
  simp [isBlank, trim, nothing] at visible

theorem charCount_le_utf8ByteSize (value : String) : charCount value ≤ value.utf8ByteSize := by
  obtain ⟨chars, rfl⟩ : ∃ chars, value = String.ofList chars := ⟨value.toList, by simp⟩
  simp only [charCount, String.toList_ofList, String.utf8ByteSize_ofList]
  induction chars with
  | nil => simp
  | cons char rest ih =>
    have positive := Char.utf8Size_pos char
    simp only [List.length_cons, String.utf8Len_cons]
    omega

-- The source tests bytes. Every byte of a character outside ASCII is at least 0x80 and
-- in none of these classes, so testing characters gives the same answer.
def isAsciiLowercase (char : Char) : Bool := 'a' ≤ char && char ≤ 'z'
def isAsciiUppercase (char : Char) : Bool := 'A' ≤ char && char ≤ 'Z'
def isAsciiDigit (char : Char) : Bool := '0' ≤ char && char ≤ '9'
def isAsciiAlphabetic (char : Char) : Bool := isAsciiLowercase char || isAsciiUppercase char
def isAsciiAlphanumeric (char : Char) : Bool := isAsciiAlphabetic char || isAsciiDigit char

-- `str::parse::<u64>`
def parseU64 (value : String) : Option Nat :=
  let digits := match value.toList with
    | '+' :: rest => rest
    | chars => chars
  if digits.isEmpty || !digits.all isAsciiDigit then none
  else if Nat.ofDigitChars 10 digits 0 ≤ maximumU64 then some (Nat.ofDigitChars 10 digits 0)
  else none

theorem isAsciiDigit_of_isDigit {char : Char} (digit : char.isDigit = true) :
    isAsciiDigit char = true := by
  simp only [Char.isDigit, Bool.and_eq_true, decide_eq_true_eq] at digit
  simp only [isAsciiDigit, Bool.and_eq_true, decide_eq_true_eq]
  exact digit

theorem parseU64_ofList {digits : List Char} (shown : digits ≠ [])
    (decimal : ∀ char ∈ digits, isAsciiDigit char = true) :
    parseU64 (String.ofList digits) =
      if Nat.ofDigitChars 10 digits 0 ≤ maximumU64 then some (Nat.ofDigitChars 10 digits 0) else none := by
  have all : digits.all isAsciiDigit = true := List.all_eq_true.mpr decimal
  unfold parseU64
  rw [String.toList_ofList]
  split
  · exact absurd (decimal '+' (by simp)) (by decide)
  · simp [shown, all]

theorem parseU64_toString (value : Nat) :
    parseU64 (toString value) = if value ≤ maximumU64 then some value else none := by
  have digits : toString value = String.ofList (Nat.toDigits 10 value) := by
    rw [← String.toList_inj, String.toList_ofList]
    exact Nat.toList_repr
  rw [digits, parseU64_ofList Nat.toDigits_ne_nil fun char member =>
    isAsciiDigit_of_isDigit (Nat.isDigit_of_mem_toDigits (by decide) (by decide) member),
    Nat.ofDigitChars_toDigits (by decide) (by decide)]

def containsText (needle value : String) : Bool :=
  value.toList.tails.any fun rest => needle.toList.isPrefixOf rest

def splitAt (separator : Char) (value : String) : List String :=
  (value.toList.splitOn separator).map String.ofList

-- `str::strip_prefix`
def stripStart (start value : String) : Option String :=
  if start.toList.isPrefixOf value.toList then
    some (String.ofList (value.toList.drop start.toList.length))
  else none

@[simp] theorem stripStart_append (start rest : String) : stripStart start (start ++ rest) = some rest := by
  simp [stripStart]

@[simp] theorem charCount_takeChars (maximum : Nat) (value : String) :
    charCount (takeChars maximum value) = min maximum (charCount value) := by
  simp [charCount, takeChars]

end Text

abbrev Uuid := BitVec 128

namespace Uuid

def hexDigits : Nat → Nat → List Char
  | 0, _ => []
  | width + 1, value => hexDigits width (value / 16) ++ [Nat.digitChar (value % 16)]

def simple (uuid : Uuid) : String := String.ofList (hexDigits 32 uuid.toNat)

def hyphenated (uuid : Uuid) : String :=
  let digits := hexDigits 32 uuid.toNat
  String.ofList (digits.take 8 ++ '-' :: (digits.drop 8).take 4 ++ '-' :: (digits.drop 12).take 4 ++
    '-' :: (digits.drop 16).take 4 ++ '-' :: digits.drop 20)

def hexValue (char : Char) : Option Nat :=
  if Text.isAsciiDigit char then some (char.toNat - '0'.toNat)
  else if 'a' ≤ char && char ≤ 'f' then some (char.toNat - 'a'.toNat + 10)
  else if 'A' ≤ char && char ≤ 'F' then some (char.toNat - 'A'.toNat + 10)
  else none

def hexNumber (digits : List Char) : Option Nat :=
  digits.foldlM (fun value digit => (hexValue digit).map fun low => value * 16 + low) 0

def parseSimple (digits : List Char) : Option Uuid :=
  if digits.length = 32 then (hexNumber digits).map (BitVec.ofNat 128) else none

def parseHyphenated (chars : List Char) : Option Uuid :=
  if chars.length = 36 && chars[8]? == some '-' && chars[13]? == some '-' && chars[18]? == some '-' &&
      chars[23]? == some '-' then
    parseSimple (chars.take 8 ++ (chars.drop 9).take 4 ++ (chars.drop 14).take 4 ++
      (chars.drop 19).take 4 ++ chars.drop 24)
  else none

-- The notations `Uuid::parse_str` accepts: simple, hyphenated, in braces and as a URN.
def parse (value : String) : Option Uuid :=
  let chars := value.toList
  if chars.length = 32 then parseSimple chars
  else if chars.length = 36 then parseHyphenated chars
  else if chars.length = 38 && chars.head? == some '\x7b' && chars.getLast? == some '\x7d' then
    parseHyphenated ((chars.drop 1).dropLast)
  else if chars.length = 45 && chars.take 9 == "urn:uuid:".toList then parseHyphenated (chars.drop 9)
  else none

@[simp] theorem hexDigits_length (width value : Nat) : (hexDigits width value).length = width := by
  induction width generalizing value with
  | zero => rfl
  | succ width ih => simp [hexDigits, ih]

theorem hexValue_digitChar {digit : Nat} (small : digit < 16) :
    hexValue (Nat.digitChar digit) = some digit := by
  have table : ∀ x : Fin 16, hexValue (Nat.digitChar x) = some x.val := by decide
  exact table ⟨digit, small⟩

theorem hexNumber_hexDigits {width value : Nat} (bound : value < 16 ^ width) :
    hexNumber (hexDigits width value) = some value := by
  induction width generalizing value with
  | zero =>
    simp only [pow_zero, Nat.lt_one_iff] at bound
    simp [hexNumber, hexDigits, bound]
  | succ width ih =>
    rw [pow_succ] at bound
    have quotient : value / 16 < 16 ^ width := by omega
    have high := ih quotient
    have low := hexValue_digitChar (Nat.mod_lt value (by decide : 0 < 16))
    simp only [hexNumber] at high
    simp only [hexNumber, hexDigits, List.foldlM_append, high, List.foldlM_cons, List.foldlM_nil, low]
    simp only [Option.map_some, Option.bind_eq_bind, Option.bind_some, Option.pure_def, Option.some.injEq]
    omega

theorem parse_hyphenated (uuid : Uuid) : parse uuid.hyphenated = some uuid := by
  obtain ⟨digits, same⟩ : ∃ digits, digits = hexDigits 32 uuid.toNat := ⟨_, rfl⟩
  have length : digits.length = 32 := by simp [same]
  have number : hexNumber digits = some uuid.toNat := by
    have bound : (2 : Nat) ^ 128 = 16 ^ 32 := by norm_num
    rw [same]
    exact hexNumber_hexDigits (bound ▸ uuid.isLt)
  -- Cut the 32 digits at the hyphens: the parser glues the same five pieces together again.
  obtain ⟨a, rest, first, rfl⟩ : ∃ a rest, a.length = 8 ∧ digits = a ++ rest :=
    ⟨digits.take 8, digits.drop 8, by simp [length], by simp⟩
  obtain ⟨b, rest', second, rfl⟩ : ∃ b rest', b.length = 4 ∧ rest = b ++ rest' :=
    ⟨rest.take 4, rest.drop 4, by simp at length ⊢; omega, by simp⟩
  obtain ⟨c, rest'', third, rfl⟩ : ∃ c rest'', c.length = 4 ∧ rest' = c ++ rest'' :=
    ⟨rest'.take 4, rest'.drop 4, by simp at length ⊢; omega, by simp⟩
  obtain ⟨d, e, fourth, rfl⟩ : ∃ d e, d.length = 4 ∧ rest'' = d ++ e :=
    ⟨rest''.take 4, rest''.drop 4, by simp at length ⊢; omega, by simp⟩
  have fifth : e.length = 12 := by simp at length; omega
  have text : uuid.hyphenated.toList = a ++ '-' :: (b ++ '-' :: (c ++ '-' :: (d ++ '-' :: e))) := by
    simp [hyphenated, ← same, first, second, third, fourth, List.drop_append,
      List.drop_eq_nil_of_le]
  have glued : parseSimple (a ++ (b ++ (c ++ (d ++ e)))) = some uuid := by
    simp [parseSimple, length, number]
  simp [parse, parseHyphenated, text, first, second, third, fourth, fifth, glued, List.drop_append,
    List.drop_eq_nil_of_le]

theorem hyphenated_injective {first second : Uuid} (same : first.hyphenated = second.hyphenated) :
    first = second :=
  Option.some.inj (by rw [← parse_hyphenated first, same, parse_hyphenated])

end Uuid

end McServer.Domain
