import Stencil.Engine.Basic
import Stencil.Json.Printer
import Stencil.Unicode.DefaultIgnorable
import Stencil.Unicode.GraphemeExtend
import Stencil.Unicode.Printable

/-! A text that shows the settings of an engine and what it holds. -/
namespace Stencil

/-- Text between braces, after a name. -/
def braced (name inside : String) : String := 
  s!"{name} {Symbol.openBrace.spelling} {inside} {Symbol.closeBrace.spelling}"

/-- Whether a character shows by itself: it is drawn, and not as a mark on the one before it. -/
def isShown (c : Char) : Bool :=
  Unicode.isPrintable c && !Unicode.isGraphemeExtend c && !Unicode.isDefaultIgnorable c

/-- How a character is written in a quoted name. One that does not show by itself is
written by its number. -/
def quoteChar (c : Char) : List Char :=
  match c with
  | '"' => ['\\', '"']
  | '\\' => ['\\', '\\']
  | '\n' => ['\\', 'n']
  | '\r' => ['\\', 'r']
  | '\t' => ['\\', 't']
  | '\x00' => ['\\', '0']
  | c =>
    if isShown c then [c]
    else ['\\', 'u', '{'] ++ Nat.toDigits 16 c.toNat ++ ['}']

/-- Names in quotes with commas between them. -/
def quotedNames (names : List String) : String :=
  "[" ++ ", ".intercalate
    (names.map fun n => "\"" ++ String.ofList (n.toList.flatMap quoteChar) ++ "\"") ++ "]"

/-- The capitalised name of a choice of dialect. -/
def Dialect.choiceTitle : Option Dialect → String
  | none => "Auto"
  | some .native => "Native"
  | some .jinja => "Jinja"

def Config.summary (c : Config) : String :=
  braced "Config"
    s!"syntax: {Dialect.choiceTitle c.dialect}, autoescape: {c.autoescape}, max_depth: {c.maxDepth}, cache_size: {c.cacheSize}"

def Registry.summary (r : Registry) : String :=
  braced "FilterRegistry"
    s!"filters: {quotedNames (Dict.keys r.filters)}, tests: {quotedNames (Dict.keys r.tests)}"

/-- The settings, the names of the filters and tests, whether there is a loader, and the number of
templates that are kept. -/
def Engine.summary (e : Engine) (s : Session) : String :=
  braced "Engine"
    s!"config: {e.config.summary}, registry: {e.registry.summary}, loader: {e.loader.isSome}, cached: {s.cache.entries.length}"

end Stencil
