import Stencil.Unicode.Whitespace

/-! Cutting and replacing in texts given as lists of characters. -/
namespace Stencil.Text

open Unicode (isWhitespace)

/-- Drops the longest end whose characters all satisfy `p`. -/
def dropEndWhile (p : Char → Bool) (text : List Char) : List Char :=
  (text.reverse.dropWhile p).reverse

/-- A text without the blanks at its end. -/
def trimEnd (text : List Char) : List Char := dropEndWhile isWhitespace text

/-- A text without the blanks at either end. -/
def trim (text : List Char) : List Char := trimEnd (text.dropWhile isWhitespace)

/-- The text before the first occurrence of `needle` and the text from it on. -/
def splitAt? (needle : List Char) : List Char → Option (List Char × List Char)
  | [] => if needle.isEmpty then some ([], []) else none
  | c :: rest =>
    if needle.isPrefixOf (c :: rest) then some ([], c :: rest)
    else (splitAt? needle rest).map fun r => (c :: r.1, r.2)

/-- Whether `needle` stands somewhere in the text. -/
def occursIn (needle text : List Char) : Bool := (splitAt? needle text).isSome

/-- What comes before and from the first occurrence of `needle` on make up the text. -/
theorem append_of_splitAt? {needle text before rest : List Char}
    (h : splitAt? needle text = some (before, rest)) : before ++ rest = text := by
  induction text generalizing before rest with
  | nil => simp only [splitAt?] at h; split at h <;> simp_all
  | cons c r ih =>
    simp only [splitAt?] at h
    split at h
    · simp_all
    · obtain ⟨⟨b, s⟩, hr, hbs⟩ := Option.map_eq_some_iff.1 h
      cases hbs
      simp [ih hr]

/-- The text from the first occurrence of `needle` on begins with it. -/
theorem isPrefixOf_of_splitAt? {needle text before rest : List Char}
    (h : splitAt? needle text = some (before, rest)) : needle.isPrefixOf rest = true := by
  induction text generalizing before rest with
  | nil =>
    simp only [splitAt?] at h
    split at h
    · cases needle <;> simp_all
    · simp at h
  | cons c r ih =>
    simp only [splitAt?] at h
    split at h
    · simp_all
    · obtain ⟨⟨b, s⟩, hr, hbs⟩ := Option.map_eq_some_iff.1 h
      cases hbs
      exact ih hr

/-- Replaces the first `limit` occurrences of `old` from left to right; `skip` characters ahead
belong to the occurrence replaced last. An empty `old` occurs before each character and at the
end. -/
def replaceFrom (old new : List Char) : (limit skip : Nat) → List Char → List Char
  | limit, _, [] => if old.isEmpty && limit != 0 then new else []
  | limit, skip + 1, _ :: rest => replaceFrom old new limit skip rest
  | limit, 0, c :: rest =>
    if limit != 0 && old.isPrefixOf (c :: rest) then
      if old.isEmpty then new ++ c :: replaceFrom old new (limit - 1) 0 rest
      else new ++ replaceFrom old new (limit - 1) (old.length - 1) rest
    else c :: replaceFrom old new limit 0 rest

/-- Replaces the first `limit` occurrences of `old`. -/
def replaceFirst (limit : Nat) (old new text : List Char) : List Char :=
  replaceFrom old new limit 0 text

/-- Replaces every occurrence of `old`; a text of `n` characters holds at most `n + 1`. -/
def replaceAll (old new text : List Char) : List Char :=
  replaceFirst (text.length + 1) old new text

/-- The lines of a text, each with the line feed that ends it. -/
def lines : List Char → List (List Char)
  | [] => []
  | c :: rest =>
    if c = '\n' then [c] :: lines rest
    else match lines rest with
      | [] => [[c]]
      | line :: more => (c :: line) :: more

/-- The lines of a text make up the text. -/
@[simp] theorem flatten_lines (text : List Char) : (lines text).flatten = text := by
  induction text with
  | nil => rfl
  | cons c rest ih =>
    simp only [lines]
    split
    · simp [ih]
    · split <;> simp_all

/-- The number of words, which blanks separate; `inWord` tells whether one is open. -/
def countWords (inWord : Bool) : List Char → Nat
  | [] => 0
  | c :: rest =>
    if isWhitespace c then countWords false rest
    else if inWord then countWords true rest
    else countWords true rest + 1

/-- The text before the last blank, or the whole text if it has none. -/
def beforeLastSpace (text : List Char) : List Char :=
  match text.reverse.dropWhile (· != ' ') with
  | [] => text
  | _ :: before => before.reverse

end Stencil.Text
