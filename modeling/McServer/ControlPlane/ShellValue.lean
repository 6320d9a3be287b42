import McServer.ControlPlane.Akamai
import McServer.Library.Quoting

set_option autoImplicit false

namespace McServer.ControlPlane

open Quoting

def shellValue (value : String) : String :=
  let escaped := value.toList.foldl (fun escaped character =>
    if character = '\x27' then escaped ++ "'\\''" else escaped.push character) "'"
  escaped.push '\x27'

-- The blanks and the characters of operators end a word; every other character outside quotes is left
-- to the rules for expansions.
def posix : Rules Char where
  quote := '\x27'
  escape := '\\'
  newline := '\n'
  delimits char := " \t\n|&;<>()".toList.contains char
  escape_ne := by decide
  newline_ne := by decide
  quote_inside := by decide
  escape_inside := by decide

theorem newline_ends : (∀ char ∈ "\n".toList.head?, posix.delimits char = true) ∧
    posix.words "\n".toList = some [] := by
  constructor
  · simp [posix]
  · decide

theorem toList_shellValue (value : String) : (shellValue value).toList = posix.enclose value.toList := by
  have written : ∀ (characters : List Char) (escaped : String),
      (characters.foldl (fun escaped character =>
        if character = '\x27' then escaped ++ "'\\''" else escaped.push character) escaped).toList =
        escaped.toList ++ characters.flatMap posix.inside := by
    intro characters
    induction characters with
    | nil => simp
    | cons character rest ih =>
      intro escaped
      rw [List.foldl_cons, ih, List.flatMap_cons, ← List.append_assoc]
      by_cases quote : character = '\x27' <;> simp [Rules.inside, posix, quote]
  simp only [shellValue, String.toList_push, written, Rules.enclose]
  simp [posix]

theorem shell_value_read_as_written (value : String) :
    (∀ ended word rest, posix.read ⟨ended, word, .outside⟩ ((shellValue value).toList ++ rest) =
        posix.read ⟨ended, some (word.getD [] ++ kept value.toList), .outside⟩ rest) ∧
      ∀ before after ended, posix.read .start before = ⟨ended, none, .outside⟩ →
        (∀ char ∈ after.head?, posix.delimits char = true) →
        posix.words (before ++ (shellValue value).toList ++ after) =
          (posix.words after).map fun rest => ended ++ kept value.toList :: rest := by
  rw [toList_shellValue]
  constructor
  · intro ended word rest
    exact posix.read_enclose ended word value.toList rest
  · intro before after ended begins ends
    exact posix.words_enclosed begins ends value.toList

theorem shell_value_of_quote :
    posix.words "printf 'it'\\''s'\n".toList =
      some ["printf".toList.map fun char => ⟨char, false⟩, kept "it's".toList] := by
  have opened : posix.read .start "printf ".toList =
      ⟨["printf".toList.map fun char => ⟨char, false⟩], none, .outside⟩ := by decide
  have read := (shell_value_read_as_written "it's").2 _ "\n".toList _ opened newline_ends.1
  have text : "printf ".toList ++ (shellValue "it's").toList ++ "\n".toList = "printf 'it'\\''s'\n".toList := by
    decide
  rw [← text, read, newline_ends.2]
  rfl

def remoteBinaryPath : String := "/usr/local/bin/mcserver-node-agent"

def downloadOptions : String :=
  "curl --fail --location --proto '=https' --tlsv1.2 \\\n  --output " ++ remoteBinaryPath ++ ".tmp "

def downloadCommand (downloadUrl : String) : String := downloadOptions ++ shellValue downloadUrl ++ "\n"

theorem downloadCommand_words (downloadUrl : String) :
    ∃ options, posix.words (downloadCommand downloadUrl).toList = some (options ++ [kept downloadUrl.toList]) ∧
      options.map (fun word => String.ofList (word.map Piece.item)) =
        ["curl", "--fail", "--location", "--proto", "=https", "--tlsv1.2", "--output",
          remoteBinaryPath ++ ".tmp"] := by
  have opened : posix.read .start downloadOptions.toList =
        ⟨(posix.read .start downloadOptions.toList).words, none, .outside⟩ ∧
      (posix.read .start downloadOptions.toList).words.map (fun word => String.ofList (word.map Piece.item)) =
        ["curl", "--fail", "--location", "--proto", "=https", "--tlsv1.2", "--output",
          remoteBinaryPath ++ ".tmp"] := by decide +kernel
  have read := @Rules.words_enclosed _ _ posix _ "\n".toList _ opened.1 newline_ends.1 downloadUrl.toList
  rw [newline_ends.2, ← toList_shellValue] at read
  exact ⟨_, by simpa [downloadCommand] using read, opened.2⟩

end McServer.ControlPlane
