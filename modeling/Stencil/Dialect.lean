import Stencil.Token.Native

/-! The two ways to write templates, and how to tell which one a text is written in. -/
namespace Stencil

/-- How a template is written. -/
inductive Dialect where
  | native
  | jinja
deriving DecidableEq

namespace Dialect

def name : Dialect → String
  | .native => "native"
  | .jinja => "jinja"

/-- The name of a choice of dialect, where no choice is to look at the text. -/
def choiceName : Option Dialect → String
  | none => "auto"
  | some d => d.name

/-- The choice that a name in small letters stands for. -/
def choiceOfName? (name : String) : Option (Option Dialect) :=
  match name with
  | "auto" => some none
  | "native" | "luma" => some (some .native)
  | "jinja" | "jinja2" => some (some .jinja)
  | _ => none

/-- The choice that a name stands for, in ASCII letters of either case, or a complaint. -/
def readChoice (name : String) : Except String (Option Dialect) :=
  let name := String.ofList (name.toList.map Char.toLower)
  match choiceOfName? name with
  | some choice => .ok choice
  | none => .error s!"unknown syntax `{name}` (expected auto, native or jinja)"

/-- Whether one of the tags of the jinja dialect opens somewhere in the text. -/
def hasTag : List Char → Bool
  | '{' :: c :: rest =>
    c = '{' || c = '%' || c = '#' || hasTag (c :: rest)
  | _ :: rest => hasTag rest
  | [] => false

/-- The place of the first marker that only the native dialect has: a braced value, or a directive
that leads its line. `leading` says that only indentation stands before on the line. -/
def nativeMarker? (leading : Bool) (pos : Position) : List Char → Option Position
  | [] => none
  | c :: rest =>
    if c = '$' ∧ rest.head? = some '{' then some pos
    else if c = '@' ∧ leading = true ∧ Token.Native.directiveNames.contains
        (String.ofList (rest.takeWhile Token.isIdentChar)) then some pos
    else nativeMarker? (c = '\n' || leading && Cursor.isIndent c) (pos.advance c) rest

/-- The dialect of a text. Text without tags is native; tags beside native markers are refused. -/
def detect (source : String) : Except LexError Dialect :=
  if hasTag source.toList then
    match nativeMarker? true .start source.toList with
    | some pos => .error (.mixedDialects pos)
    | none => .ok .jinja
  else .ok .native

/-- The chosen dialect, or the one of the text. -/
def resolve (choice : Option Dialect) (source : String) : Except LexError Dialect :=
  match choice with
  | some d => .ok d
  | none => detect source

end Dialect

end Stencil
