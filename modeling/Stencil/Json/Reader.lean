import Stencil.Json.Basic

/-! Reading JSON documents: the text is cut into tokens, and a machine with a stack of open arrays
and objects puts them together. -/
namespace Stencil.Json

/-- The words of the format. -/
inductive Token where
  | openBracket
  | closeBracket
  | openBrace
  | closeBrace
  | comma
  | colon
  | atom (value : Json)
  | str (value : String)

/-- The value of a hexadecimal digit of either case. -/
def hexValue? (c : Char) : Option Nat :=
  if '0' ≤ c ∧ c ≤ '9' then some (c.toNat - '0'.toNat)
  else if 'a' ≤ c ∧ c ≤ 'f' then some (c.toNat - 'a'.toNat + 10)
  else if 'A' ≤ c ∧ c ≤ 'F' then some (c.toNat - 'A'.toNat + 10)
  else none

/-- The value of four hexadecimal digits. -/
def hex4? (a b c d : Char) : Option Nat := do
  return (← hexValue? a) * 4096 + (← hexValue? b) * 256 + (← hexValue? c) * 16 + (← hexValue? d)

/-- The character that a short escape stands for. -/
def shortEscape? : Char → Option Char
  | '"' => some '"'
  | '\\' => some '\\'
  | '/' => some '/'
  | 'b' => some '\x08'
  | 'f' => some '\x0c'
  | 'n' => some '\n'
  | 'r' => some '\r'
  | 't' => some '\t'
  | _ => none

/-- Reads a string up to its closing quote; `done` holds what came before, backwards. Control
characters and halves of surrogate pairs are refused. -/
def readString (done : List Char) : List Char → Option (String × List Char)
  | [] => none
  | '"' :: rest => some (String.ofList done.reverse, rest)
  | '\\' :: 'u' :: a :: b :: c :: d :: rest =>
    match hex4? a b c d with
    | none => none
    | some high =>
      if 0xdc00 ≤ high ∧ high < 0xe000 then none
      else if 0xd800 ≤ high ∧ high < 0xdc00 then
        match rest with
        | '\\' :: 'u' :: e :: f :: g :: h :: rest =>
          match hex4? e f g h with
          | some low =>
            if 0xdc00 ≤ low ∧ low < 0xe000 then
              let code := 0x10000 + (high - 0xd800) * 0x400 + (low - 0xdc00)
              readString (Char.ofNat code :: done) rest
            else none
          | none => none
        | _ => none
      else readString (Char.ofNat high :: done) rest
  | '\\' :: c :: rest =>
    match shortEscape? c with
    | some e => readString (e :: done) rest
    | none => none
  | c :: rest => if c.toNat < 0x20 then none else readString (c :: done) rest

/-- Reading a string uses up at least its closing quote. -/
theorem length_readString {done text rest : List Char} {s : String}
    (h : readString done text = some (s, rest)) : rest.length < text.length := by
  fun_induction readString done text <;> simp_all <;> omega

/-- The characters of which numbers are made. -/
def isNumberChar (c : Char) : Bool :=
  c.isDigit || c == '-' || c == '+' || c == '.' || c == 'e' || c == 'E'

/-- What follows the digits of a number: an optional fraction and an optional exponent. -/
def isNumberEnd (text : List Char) : Bool :=
  let rest? := match text with
    | '.' :: rest => if (rest.takeWhile Char.isDigit).isEmpty then none
      else some (rest.dropWhile Char.isDigit)
    | rest => some rest
  match rest? with
  | none => false
  | some [] => true
  | some (c :: rest) =>
    let digits := match rest with
      | '+' :: digits => digits
      | '-' :: digits => digits
      | digits => digits
    (c == 'e' || c == 'E') && !digits.isEmpty && digits.all Char.isDigit

/-- Whether a text is a number: an optional minus, digits without a leading zero, and an end. -/
def isNumber (text : List Char) : Bool :=
  let body := match text with
    | '-' :: rest => rest
    | rest => rest
  match body with
  | '0' :: rest => isNumberEnd rest
  | c :: rest => c.isDigit && isNumberEnd (rest.dropWhile Char.isDigit)
  | [] => false

/-- The documents that are single words. -/
def word? (word : List Char) : Option Json :=
  if word = "null".toList then some .null
  else if word = "true".toList then some (.bool true)
  else if word = "false".toList then some (.bool false)
  else none

/-- Cuts a text into tokens. -/
def tokens? : List Char → Option (List Token)
  | [] => some []
  | c :: rest =>
    if c = ' ' ∨ c = '\t' ∨ c = '\n' ∨ c = '\r' then tokens? rest
    else if c = '[' then (tokens? rest).map (.openBracket :: ·)
    else if c = ']' then (tokens? rest).map (.closeBracket :: ·)
    else if c = '{' then (tokens? rest).map (.openBrace :: ·)
    else if c = '}' then (tokens? rest).map (.closeBrace :: ·)
    else if c = ',' then (tokens? rest).map (.comma :: ·)
    else if c = ':' then (tokens? rest).map (.colon :: ·)
    else if c = '"' then
      match h : readString [] rest with
      | some (s, more) =>
        have := length_readString h
        (tokens? more).map (.str s :: ·)
      | none => none
    else if c.isAlpha then
      match word? (c :: rest.takeWhile Char.isAlpha) with
      | some value => (tokens? (rest.dropWhile Char.isAlpha)).map (.atom value :: ·)
      | none => none
    else
      let literal := c :: rest.takeWhile isNumberChar
      if isNumber literal then
        (tokens? (rest.dropWhile isNumberChar)).map
          (.atom (.number (String.ofList literal)) :: ·)
      else none
termination_by text => text.length
decreasing_by
  all_goals simp only [List.length_cons]
  all_goals first
    | omega
    | exact Nat.lt_succ_of_le (List.dropWhile_sublist _).length_le

/-- An array or object that is not yet closed, with its contents so far, last one first. -/
inductive Frame where
  | arr (items : List Json)
  | obj (members : List (String × Json)) (name : String)

mutual

/-- Reads a document that has to begin here. -/
def readValue (stack : List Frame) : List Token → Option Json
  | .atom value :: rest => readRest stack value rest
  | .str s :: rest => readRest stack (.str s) rest
  | .openBracket :: .closeBracket :: rest => readRest stack (.arr []) rest
  | .openBracket :: rest => readValue (.arr [] :: stack) rest
  | .openBrace :: .closeBrace :: rest => readRest stack (.obj []) rest
  | .openBrace :: .str name :: .colon :: rest => readValue (.obj [] name :: stack) rest
  | _ => none

/-- Goes on behind a complete document. -/
def readRest (stack : List Frame) (value : Json) : List Token → Option Json
  | [] => if stack.isEmpty then some value else none
  | .comma :: rest =>
    match stack, rest with
    | .arr items :: stack, rest => readValue (.arr (value :: items) :: stack) rest
    | .obj members name :: stack, .str next :: .colon :: rest =>
      readValue (.obj ((name, value) :: members) next :: stack) rest
    | _, _ => none
  | .closeBracket :: rest =>
    match stack with
    | .arr items :: stack => readRest stack (.arr (value :: items).reverse) rest
    | _ => none
  | .closeBrace :: rest =>
    match stack with
    | .obj members name :: stack => readRest stack (.obj ((name, value) :: members).reverse) rest
    | _ => none
  | _ => none

end

/-- Reads a text that holds one document and nothing else but blanks. -/
def read? (text : String) : Option Json := (tokens? text.toList).bind (readValue [])

end Stencil.Json
