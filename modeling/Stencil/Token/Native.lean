import Stencil.Text.Basic
import Stencil.Token.Expression

/-! The native dialect: dollar signs for values, at signs for directives and calls of macros. A
doubled sign stands for itself. -/
namespace Stencil.Token.Native

/-- The words that are directives behind an at sign. -/
def directiveNames : List String :=
  ["if", "elif", "else", "for", "end", "macro", "call", "let", "set", "block", "extends",
   "import", "include", "autoescape", "filter", "raw", "comment", "with", "break", "continue"]

/-- The directives that never have arguments. -/
def bareNames : List String := ["else", "end", "break", "continue"]

/-- What a sign begins. -/
inductive Marker where
  /-- A value in braces. -/
  | braced
  /-- A name with a path and filters. -/
  | bare
  /-- A comment to the end of the line. -/
  | lineComment
  | directive (name : String)
  /-- The call of a macro. -/
  | call
  /-- A word at the start of a line that is no directive. -/
  | unknown (name : String)

/-- Whether the text continues an identifier so that the two are the call of a macro. -/
def callShaped : List Char → Bool
  | '(' :: _ => true
  | '.' :: c :: rest => isIdentStart c && (rest.dropWhile isIdentChar).head? == some '('
  | _ => false

/-- What the sign at a place begins, if anything. -/
def marker? (c : Cursor) : Option Marker :=
  match c.rest with
  | '$' :: next :: _ =>
    if next = '{' then some .braced else if isIdentStart next then some .bare else none
  | '@' :: next :: rest =>
    if c.before.head?.any isIdentChar then none
    else if next = '#' then some .lineComment
    else if isIdentStart next then
      let word := String.ofList (next :: rest.takeWhile isIdentChar)
      if directiveNames.contains word then some (.directive word)
      else if callShaped (rest.dropWhile isIdentChar) then some .call
      else if c.leadsLine then some (.unknown word)
      else none
    else none
  | _ => none

/-- Literal text up to the first marker: its content, the number of its characters in the source,
and the marker. -/
def literal (c : Cursor) : List Char × Nat × Option Marker :=
  match h : c.rest with
  | [] => ([], 0, none)
  | ch :: rest =>
    if ch = '$' ∨ ch = '@' then
      match marker? c with
      | some m => ([], 0, some m)
      | none =>
        let n := if rest.head? = some ch then 1 else 0
        have := Cursor.next_lt h n
        let (content, m, next) := literal (c.advance (n + 1))
        (ch :: content, n + 1 + m, next)
    else
      have := Cursor.next_lt h 0
      let (content, m, next) := literal (c.advance 1)
      (ch :: content, 1 + m, next)
termination_by c.rest.length

/-- A construct of the dialect: its tokens, the number of its characters, and whether it owns the
indentation before it. -/
structure Construct where
  tokens : List Token
  length : Nat
  ownsIndent : Bool
  length_pos : 0 < length := by omega

/-- A construct inside a line, which leaves the blanks around it alone. -/
def inline (tokens : List Token) (n : Nat) (h : 0 < n := by omega) : Construct :=
  ⟨tokens, n, false, h⟩

/-- A construct that takes its whole line when it stands alone on it. -/
def onLine (c : Cursor) (tokens : List Token) (n : Nat) (h : 0 < n := by omega) : Construct :=
  match c.standsAlone (c.advance n) with
  | some more => ⟨tokens, n + more, true, Nat.add_pos_left h more⟩
  | none => ⟨tokens, n, false, h⟩

/-- The identifier ahead as a token, and the number of its characters. -/
def identifier (c : Cursor) : Token × Nat :=
  let word := c.rest.takeWhile isIdentChar
  (c.token (.ident (String.ofList word)) word.length, word.length)

/-- The tokens of an expression in braces behind the opening one, up to the closing one. -/
def bracedTokens (opened : Position) (depth : Nat) (c : Cursor) :
    Except LexError (List Token × Nat) :=
  let gap := c.blanks true
  let p := c.advance gap
  match p.rest with
  | [] =>
    .error (.unterminated ("$" ++ Symbol.openBrace.spelling) Symbol.closeBrace.spelling opened)
  | ch :: _ =>
    if depth = 0 ∧ ch = '}' then .ok ([p.token .printEnd 1], gap + 1)
    else
      match h : scanAt p with
      | .error e => .error (e.at p.pos)
      | .ok (kind, stop) =>
        let n := p.distance stop
        have := scanAt_lt h
        match bracedTokens opened (kind.depthAfter depth) stop with
        | .error e => .error e
        | .ok (tokens, m) => .ok (p.token kind n :: tokens, gap + n + m)
termination_by c.rest.length

/-- The members of a path: points with identifiers behind them. -/
def pathTokens (c : Cursor) : List Token × Nat :=
  match h : c.rest with
  | '.' :: next :: _ =>
    if isIdentStart next then
      let (name, n) := identifier (c.advance 1)
      have := Cursor.next_lt h n
      let (tokens, m) := pathTokens (c.advance (n + 1))
      (c.token (.symbol .dot) 1 :: name :: tokens, n + 1 + m)
    else ([], 0)
  | _ => ([], 0)
termination_by c.rest.length

/-- Whether a filter begins here: a single pipe, and the blanks between it and a name. -/
def pipeAhead? (text : List Char) : Option Nat :=
  match text with
  | '|' :: rest =>
    let gap := (rest.takeWhile Cursor.isLineBlank).length
    if rest.head? = some '|' then none
    else if (rest.drop gap).head?.any isIdentStart then some gap else none
  | _ => none

/-- The filters behind a path. Arguments that are not closed are left to the text. -/
def filterTokens (c : Cursor) : List Token × Nat :=
  let gap := c.blanks false
  let p := c.advance gap
  match h : p.rest with
  | [] => ([], 0)
  | ch :: rest =>
    match pipeAhead? (ch :: rest) with
    | none => ([], 0)
    | some space =>
      let (name, n) := identifier (p.advance (space + 1))
      let q := p.advance (space + n + 1)
      let head := [p.token (.symbol .pipe) 1, name]
      let used := gap + (space + n + 1)
      if q.rest.head? = some '(' then
        match scanGroup (.unterminated "(" ")" q.pos) 0 q with
        | .error _ => (head, used)
        | .ok (args, m) =>
          have := Cursor.advance_lt h (space + n + m)
          let (tokens, k) := filterTokens (p.advance (space + n + m + 1))
          (head ++ args ++ tokens, used + m + k)
      else
        have := Cursor.advance_lt h (space + n)
        let (tokens, k) := filterTokens q
        (head ++ tokens, used + k)
termination_by c.rest.length

/-- A name with a path and filters behind a dollar sign. -/
def bare (c : Cursor) : Construct :=
  let (name, n) := identifier (c.advance 1)
  let (path, m) := pathTokens (c.advance (1 + n))
  let (filters, k) := filterTokens (c.advance (1 + n + m))
  let length := 1 + n + m + k
  inline
    (c.token .printStart 1 :: name :: path ++ filters ++ [(c.advance length).token .printEnd 0])
    length

/-- The call of a macro behind an at sign. -/
def call (c : Cursor) : Except LexError Construct :=
  let (name, n) := identifier (c.advance 1)
  let p := c.advance (1 + n)
  let (member, m) :=
    if p.rest.head? = some '.' then
      let (name, k) := identifier (p.advance 1)
      ([p.token (.symbol .dot) 1, name], 1 + k)
    else ([], 0)
  let q := c.advance (1 + n + m)
  match scanGroup (.unterminated "(" ")" q.pos) 0 q with
  | .error e => .error e
  | .ok (args, k) =>
    let length := 1 + n + m + k
    .ok (inline
      (c.token .printStart 1 :: name :: member ++ args ++ [(c.advance length).token .printEnd 0])
      length)

/-- An open bracket of a directive: how it is written, how it closes, and its place. -/
structure OpenBracket where
  opener : String
  closer : String
  pos : Position

/-- The open brackets behind a token. -/
def openAfter (stack : List OpenBracket) (pos : Position) : Kind → List OpenBracket
  | .symbol .openParen => ⟨"(", ")", pos⟩ :: stack
  | .symbol .openBracket => ⟨"[", "]", pos⟩ :: stack
  | .symbol .openBrace => ⟨Symbol.openBrace.spelling, Symbol.closeBrace.spelling, pos⟩ :: stack
  | .symbol .closeParen | .symbol .closeBracket | .symbol .closeBrace => stack.tail
  | _ => stack

/-- The arguments of a directive up to the end of its line. Inside brackets lines do not end. -/
def argumentTokens (stack : List OpenBracket) (c : Cursor) : Except LexError (List Token × Nat) :=
  let gap := c.blanks !stack.isEmpty
  let p := c.advance gap
  let finish : Except LexError (List Token × Nat) :=
    match stack with
    | [] => .ok ([p.token .directiveEnd 0], gap)
    | b :: _ => .error (.unterminated b.opener b.closer b.pos)
  match p.rest with
  | [] => finish
  | ch :: _ =>
    if ch = '\n' then finish
    else
      match h : scanAt p with
      | .error e => .error (e.at p.pos)
      | .ok (kind, stop) =>
        let n := p.distance stop
        have := scanAt_lt h
        match argumentTokens (openAfter stack p.pos kind) stop with
        | .error e => .error e
        | .ok (tokens, m) => .ok (p.token kind n :: tokens, gap + n + m)
termination_by c.rest.length

/-- The sign and the name of a directive. -/
def head (c : Cursor) (name : String) : List Token :=
  [c.token .directiveStart 1, (c.advance 1).token (.ident name) name.length]

/-- A directive with its arguments. -/
def directive (c : Cursor) (name : String) : Except LexError Construct :=
  let n := 1 + name.length
  let p := c.advance n
  if bareNames.contains name then .ok (onLine c (head c name ++ [p.token .directiveEnd 0]) n)
  else
    match argumentTokens [] p with
    | .error e => .error e
    | .ok (tokens, m) => .ok (onLine c (head c name ++ tokens) (n + m))

/-- The number of characters before the word that ends a raw text or a comment. -/
def findEnd (c : Cursor) : Option Nat :=
  match h : c.rest with
  | [] => none
  | ch :: rest =>
    if "@end".toList.isPrefixOf (ch :: rest) && !c.before.head?.any isIdentChar &&
        !((ch :: rest).drop 4).head?.any isIdentChar then some 0
    else
      have := Cursor.next_lt h 0
      (findEnd (c.advance 1)).map (· + 1)
termination_by c.rest.length

/-- A raw text or a comment up to its end. Both ends may stand alone on their lines. -/
def enclosed (c : Cursor) (name : String) : Except LexError Construct :=
  let n := 1 + name.length
  let opened := c.advance n
  let alone := c.standsAlone opened
  let skip := alone.getD 0
  let start := c.advance (n + skip)
  match findEnd start with
  | none => .error (.unterminatedBlock name "@end" c.pos)
  | some m =>
    let closer := c.advance (n + skip + m)
    let closed := c.advance (n + skip + m + 4)
    let closerAlone := closer.standsAlone closed
    let length := n + skip + m + 4 + closerAlone.getD 0
    let tokens :=
      if name = "raw" then
        let body := start.rest.take m
        let kept :=
          if closerAlone.isSome then Text.dropEndWhile Cursor.isIndent body else body
        head c name ++ [opened.token .directiveEnd 0] ++ start.textToken kept m ++
          head closer "end" ++ [closed.token .directiveEnd 0]
      else [c.token .comment (n + skip + m + 4)]
    .ok ⟨tokens, length, alone.isSome, by omega⟩

/-- The construct that a marker begins. -/
def construct (c : Cursor) (m : Marker) : Except LexError Construct :=
  match m with
  | .braced =>
    match bracedTokens c.pos 0 (c.advance 2) with
    | .error e => .error e
    | .ok (tokens, n) => .ok (inline (c.token .printStart 2 :: tokens) (2 + n))
  | .bare => .ok (bare c)
  | .call => call c
  | .lineComment =>
    let n := 1 + ((c.rest.drop 1).takeWhile (· != '\n')).length
    .ok (onLine c [c.token .comment n] n)
  | .unknown name =>
    let n := 1 + name.length
    .ok (onLine c (head c name ++ [(c.advance n).token .directiveEnd 0]) n)
  | .directive name =>
    if name = "raw" ∨ name = "comment" then enclosed c name else directive c name

/-- Reads the text up to the next construct, and that construct. -/
def step (c : Cursor) (h : c.rest ≠ []) : Except LexError Step :=
  match literal c with
  | (content, _, none) =>
    .ok { tokens := c.textToken content c.rest.length, length := c.rest.length, strip := false,
          length_pos := c.length_rest_pos h }
  | (content, n, some m) =>
    match construct (c.advance n) m with
    | .error e => .error e
    | .ok found =>
      let kept :=
        if found.ownsIndent then Text.dropEndWhile Cursor.isIndent content else content
      .ok { tokens := c.textToken kept n ++ found.tokens, length := n + found.length,
            strip := false, length_pos := Nat.add_pos_right n found.length_pos }

end Stencil.Token.Native
