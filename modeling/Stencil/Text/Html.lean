/-! Text for HTML: the five significant characters become entities. -/
namespace Stencil.Text

/-- How a character is written in HTML text and in quoted attributes. -/
def escapeChar (c : Char) : List Char :=
  match c with
  | '&' => "&amp;".toList
  | '<' => "&lt;".toList
  | '>' => "&gt;".toList
  | '"' => "&quot;".toList
  | '\'' => "&#39;".toList
  | c => [c]

/-- Writes each significant character as its entity. -/
def escapeHtml (text : String) : String := String.ofList (text.toList.flatMap escapeChar)

theorem toList_escapeHtml (text : String) :
    (escapeHtml text).toList = text.toList.flatMap escapeChar := by simp [escapeHtml]

end Stencil.Text
