import Stencil.Unicode.Alphabetic
import Stencil.Unicode.CaseIgnorable
import Stencil.Unicode.CaseMapping
import Stencil.Unicode.Numeric
import Stencil.Unicode.Whitespace

/-! Case conversion of whole texts. -/
namespace Stencil.Text

open Unicode

/-- Letters and numbers of any script. -/
def isAlphanumeric (c : Char) : Bool := isAlphabetic c || isNumeric c

/-- A text in capitals. -/
def upper (text : List Char) : List Char := text.flatMap toUpper

/-- Whether the first character that is not case-ignorable has a case. -/
def startsCased (text : List Char) : Bool :=
  match text.dropWhile isCaseIgnorable with
  | [] => false
  | c :: _ => isCased c

/-- Small letters for a text that follows `before`, which is given backwards. A capital sigma at
the end of a word becomes the final small sigma. -/
def lowerAfter (before : List Char) : List Char → List Char
  | [] => []
  | c :: rest =>
    (if c = 'Σ' then [if startsCased before && !startsCased rest then 'ς' else 'σ'] else toLower c)
      ++ lowerAfter (c :: before) rest

/-- A text in small letters. -/
def lower (text : List Char) : List Char := lowerAfter [] text

/-- The first character in capitals and the rest in small letters. -/
def capitalize : List Char → List Char
  | [] => []
  | c :: rest => toUpper c ++ lower rest

/-- Capitals at the starts of words and small letters inside; a word starts behind a blank, a
hyphen or an opening parenthesis. -/
def titleFrom (wordStart : Bool) : List Char → List Char
  | [] => []
  | c :: rest =>
    if isAlphanumeric c then
      (if wordStart then toUpper c else toLower c) ++ titleFrom false rest
    else c :: titleFrom (isWhitespace c || c == '-' || c == '(') rest

/-- A text with each word in title case. -/
def title (text : List Char) : List Char := titleFrom true text

end Stencil.Text
