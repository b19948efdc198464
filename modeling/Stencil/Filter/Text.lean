import Stencil.Filter.Basic
import Stencil.Text.Basic
import Stencil.Text.Casing
import Stencil.Text.Html
import Stencil.Value.Display

/-! Filters that transform text. -/
namespace Stencil.Filter

/-- Applies `f` to the text of a value. Safe text stays safe. -/
def mapText (f : List Char → List Char) : Value → Value
  | .safe s => .safe (String.ofList (f s.toList))
  | v => .str (String.ofList (f v.display.toList))

/-- The text of a value, not to be escaped any more. -/
def safe (v : Value) : Value := .safe v.display

/-- The text of a value with its significant characters escaped, unless it is safe. -/
def escape : Value → Value
  | .safe s => .safe s
  | v => .safe (Text.escapeHtml v.display)

/-- The text of a value; safe text stays safe. -/
def string : Value → Value
  | .safe s => .safe s
  | v => .str v.display

/-- The number of words of the text. -/
def wordCount (v : Value) : Value := .ofNat (Text.countWords false v.display.toList)

/-- Replaces the occurrences of the first argument by the second, at most as many as the third
says. -/
def replace (v : Value) (args : List Value) : Except Fault Value :=
  match argument? args 0, argument? args 1 with
  | some old, some new =>
    let old := old.display.toList
    let new := new.display.toList
    .ok <| match (argument? args 2).bind Value.int? with
      | some limit => mapText (Text.replaceFirst limit.toInt.toNat old new) v
      | none => mapText (Text.replaceAll old new) v
  | _, _ => .error .replaceArguments

/-- Cuts a text of more than `length + leeway` characters down to `length`, its `ending` included;
unless `killWords`, the cut moves back to the last blank. -/
def truncated (length leeway : Nat) (killWords : Bool) (ending text : List Char) : List Char :=
  if text.length ≤ length + leeway then text
  else
    let cut := text.take (length - ending.length)
    (if killWords then cut else Text.beforeLastSpace cut) ++ ending

/-- An argument as a size; negative numbers count as zero. -/
def sizeArgument (args : List Value) (i default : Nat) : Nat :=
  match (argument? args i).bind Value.int? with
  | some n => n.toInt.toNat
  | none => default

/-- Shortens long text. -/
def truncate (v : Value) (args : List Value) : Value :=
  let killWords := ((argument? args 1).map Value.isTruthy).getD false
  let ending := ((argument? args 2).map Value.display).getD "..."
  mapText (truncated (sizeArgument args 0 255) (sizeArgument args 3 5) killWords ending.toList) v

/-- The widest padding of a line. -/
def maxIndent : Nat := 1024

/-- Whether a line has nothing but blanks. -/
def isBlankLine (line : List Char) : Bool := line.all Unicode.isWhitespace

/-- Puts `pad` before the lines that are not blank, before the first only if `first`. -/
def indented (pad : List Char) (first : Bool) (text : List Char) : List Char :=
  match Text.lines text with
  | [] => []
  | line :: more =>
    (if first && !isBlankLine line then pad ++ line else line) ++
      (more.map fun l => if isBlankLine l then l else pad ++ l).flatten

/-- The padding that the first argument asks for: a text, or a number of spaces. -/
def padding (args : List Value) : Except Fault (List Char) :=
  let pad := match argument? args 0 with
    | some (.str s) | some (.safe s) => some s.toList
    | some v =>
      let width := match v.int? with
        | some n => n.toInt.toNat
        | none => 4
      if width > maxIndent then none else some (List.replicate width ' ')
    | none => some (List.replicate 4 ' ')
  match pad with
  | some pad => if pad.length > maxIndent then .error .indentWidth else .ok pad
  | none => .error .indentWidth

/-- Indents the lines of a text. -/
def indent (v : Value) (args : List Value) : Except Fault Value := do
  let pad ← padding args
  return mapText (indented pad (((argument? args 1).map Value.isTruthy).getD false)) v

/-- How a character of JSON text is written inside HTML. -/
def embedChar (c : Char) : List Char :=
  match c with
  | '<' => "\\u003c".toList
  | '>' => "\\u003e".toList
  | '&' => "\\u0026".toList
  | '\'' => "\\u0027".toList
  | c => [c]

/-- A value as JSON text that may stand in HTML, on many lines if the argument says so. -/
def toJsonText (v : Value) (args : List Value) : Value :=
  let pretty := ((argument? args 0).map Value.isTruthy).getD false
  let text := if pretty then v.toJson.pretty else v.toJson.compact
  .safe (String.ofList (text.toList.flatMap embedChar))

end Stencil.Filter
