import Stencil.Decimal.Read
import Stencil.Text.Casing
import Stencil.Token.Cursor
import Stencil.Token.Error

/-! The tokens inside expressions, which both dialects share. -/
namespace Stencil.Token

/-- Letters and the underscore start identifiers. -/
def isIdentStart (c : Char) : Bool := Unicode.isAlphabetic c || c == '_'

/-- Letters, numbers and the underscore continue identifiers. -/
def isIdentChar (c : Char) : Bool := Text.isAlphanumeric c || c == '_'

/-- A word is a keyword or an identifier. -/
def ofWord (word : List Char) : Kind :=
  match String.ofList word with
  | "and" => .keyword .and
  | "or" => .keyword .or
  | "not" => .keyword .not
  | "in" => .keyword .isIn
  | "is" => .keyword .is
  | "true" | "True" => .keyword .true
  | "false" | "False" => .keyword .false
  | "none" | "None" | "null" => .keyword .none
  | name => .ident name

/-- The character that stands for itself or for a control character behind a backslash. -/
def unescape (c : Char) : Char :=
  match c with
  | 'n' => '\n'
  | 't' => '\t'
  | 'r' => '\r'
  | '0' => '\x00'
  | c => c

/-- Reads a string behind its opening quote: its content and the number of characters up to and
including the closing quote. -/
def scanString (quote : Char) : List Char → Option (List Char × Nat)
  | [] => none
  | c :: rest =>
    if c = quote then some ([], 1)
    else if c = '\\' then
      match rest with
      | [] => none
      | e :: rest => (scanString quote rest).map fun r => (unescape e :: r.1, r.2 + 2)
    else (scanString quote rest).map fun r => (c :: r.1, r.2 + 1)

/-- Digits and the underscores between them. -/
def isNumberPart (c : Char) : Bool := c.isDigit || c == '_'

/-- The fraction at the front: a point that a digit follows, with the digits behind it. -/
def fractionPart : List Char → List Char
  | '.' :: d :: rest => if d.isDigit then '.' :: (d :: rest).takeWhile isNumberPart else []
  | _ => []

/-- The digits at the front, if there is one. -/
def exponentDigits : List Char → List Char
  | d :: rest => if d.isDigit then (d :: rest).takeWhile isNumberPart else []
  | [] => []

/-- The exponent at the front: a mark, an optional sign and digits. -/
def exponentPart : List Char → List Char
  | mark :: rest =>
    if mark = 'e' ∨ mark = 'E' then
      let (sign, digits) := match rest with
        | '+' :: more => (['+'], exponentDigits more)
        | '-' :: more => (['-'], exponentDigits more)
        | more => ([], exponentDigits more)
      if digits.isEmpty then [] else mark :: sign ++ digits
    else []
  | [] => []

/-- The number at the front: its digits, its fraction and its exponent. -/
def numberParts (text : List Char) : List Char × List Char × List Char :=
  let whole := text.takeWhile isNumberPart
  let fraction := fractionPart (text.drop whole.length)
  (whole, fraction, exponentPart (text.drop (whole.length + fraction.length)))

/-- The value of a number. Integers beyond 64 bits become floats. -/
def numberKind (whole fraction exponent : List Char) : Kind :=
  let digits := (whole ++ fraction ++ exponent).filter (· != '_')
  if fraction.isEmpty && exponent.isEmpty then
    match Decimal.readInt? digits with
    | some i => .int i
    | none => .float ((Decimal.readFloat? digits).getD (1.0 / 0.0))
  else .float ((Decimal.readFloat? digits).getD (0.0 / 0.0))

/-- The symbols of two characters. -/
def symbol2? (a b : Char) : Option Symbol :=
  match a, b with
  | '=', '=' => some .equal
  | '!', '=' => some .notEqual
  | '<', '=' => some .lessEqual
  | '>', '=' => some .greaterEqual
  | '/', '/' => some .slashSlash
  | _, _ => none

/-- The symbols of one character. -/
def symbol1? (a : Char) : Option Symbol :=
  match a with
  | '<' => some .less
  | '>' => some .greater
  | '+' => some .plus
  | '-' => some .minus
  | '*' => some .star
  | '/' => some .slash
  | '%' => some .percent
  | '~' => some .tilde
  | '|' => some .pipe
  | '.' => some .dot
  | ',' => some .comma
  | ':' => some .colon
  | '=' => some .assign
  | '(' => some .openParen
  | ')' => some .closeParen
  | '[' => some .openBracket
  | ']' => some .closeBracket
  | '{' => some .openBrace
  | '}' => some .closeBrace
  | _ => none

/-- Why no token starts at a character. -/
inductive ScanError where
  | unterminatedString
  | unexpectedChar (char : Char)
deriving DecidableEq

/-- The error at a place. -/
def ScanError.at (e : ScanError) (pos : Position) : LexError :=
  match e with
  | .unterminatedString => .unterminatedString pos
  | .unexpectedChar c => .unexpectedChar c pos

/-- The token that starts with `c`, and how many characters of `rest` belong to it. -/
def scan (c : Char) (rest : List Char) : Except ScanError (Kind × Nat) :=
  if c = '"' ∨ c = '\'' then
    match scanString c rest with
    | some (content, n) => .ok (.str (String.ofList content), n)
    | none => .error .unterminatedString
  else if c.isDigit then
    let (whole, fraction, exponent) := numberParts (c :: rest)
    .ok (numberKind whole fraction exponent,
      whole.length + fraction.length + exponent.length - 1)
  else if isIdentStart c then
    let more := rest.takeWhile isIdentChar
    .ok (ofWord (c :: more), more.length)
  else
    match rest.head?.bind (symbol2? c) with
    | some s => .ok (.symbol s, 1)
    | none =>
      match symbol1? c with
      | some s => .ok (.symbol s, 0)
      | none => .error (.unexpectedChar c)

/-- The token that starts at a place, and the place behind it. -/
def scanAt (c : Cursor) : Except ScanError (Kind × Cursor) :=
  match c.rest with
  | [] => .error (.unexpectedChar '\x00')
  | ch :: rest => (scan ch rest).map fun r => (r.1, c.advance (r.2 + 1))

theorem scanAt_of_scan {c : Cursor} {ch : Char} {rest : List Char} {kind : Kind} {n : Nat}
    (hrest : c.rest = ch :: rest) (h : scan ch rest = .ok (kind, n)) :
    scanAt c = .ok (kind, c.advance (n + 1)) := by
  rw [scanAt, hrest]
  simp only [h]
  rfl

/-- What is scanned is the next token, on characters that are ahead. -/
theorem exists_scan_of_scanAt {c stop : Cursor} {kind : Kind} (h : scanAt c = .ok (kind, stop)) :
    ∃ ch rest n, c.rest = ch :: rest ∧ scan ch rest = .ok (kind, n) ∧
      stop = c.advance (n + 1) := by
  unfold scanAt at h
  split at h
  · cases h
  · rename_i ch rest hrest
    cases hscan : scan ch rest with
    | error e =>
      rw [hscan] at h
      cases h
    | ok r =>
      rw [hscan] at h
      cases h
      exact ⟨ch, rest, r.2, hrest, hscan, rfl⟩

/-- Behind a token less is left than before it and the blanks in front of it. -/
theorem scanAt_lt {c stop : Cursor} {gap : Nat} {kind : Kind}
    (h : scanAt (c.advance gap) = .ok (kind, stop)) : stop.rest.length < c.rest.length := by
  obtain ⟨ch, rest, n, hrest, -, rfl⟩ := exists_scan_of_scanAt h
  exact Cursor.advance_lt hrest n

/-- The depth of brackets behind a token. A closer without an opener is left to the grammar. -/
def Kind.depthAfter (depth : Nat) : Kind → Nat
  | .symbol .openParen | .symbol .openBracket | .symbol .openBrace => depth + 1
  | .symbol .closeParen | .symbol .closeBracket | .symbol .closeBrace => depth - 1
  | _ => depth

/-- The tokens of a bracketed group and the number of its characters; the group ends where the
brackets balance. `unclosed` is the error of a text that ends before. -/
def scanGroup (unclosed : LexError) (depth : Nat) (c : Cursor) :
    Except LexError (List Token × Nat) :=
  let gap := c.blanks true
  let p := c.advance gap
  match p.rest with
  | [] => .error unclosed
  | _ :: _ =>
    match h : scanAt p with
    | .error e => .error (e.at p.pos)
    | .ok (kind, stop) =>
      let n := p.distance stop
      let token := p.token kind n
      let closes := match kind with
        | .symbol .closeParen | .symbol .closeBracket | .symbol .closeBrace =>
          kind.depthAfter depth == 0
        | _ => false
      if closes then .ok ([token], gap + n)
      else
        have := scanAt_lt h
        match scanGroup unclosed (kind.depthAfter depth) stop with
        | .error e => .error e
        | .ok (tokens, m) => .ok (token :: tokens, gap + n + m)
termination_by c.rest.length

end Stencil.Token
