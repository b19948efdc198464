import Stencil.Parser.Error
import Stencil.Token.Stream

/-! Parsers of tokens. What a parser leaves is always an end of the tokens it is given, on which
the termination of all repetitions rests. -/
namespace Stencil

/-- What parsers know of a text besides its tokens. -/
structure Source where
  dialect : Dialect
  /-- What is wrong behind the last token, if anything is. It is met by whoever looks there. -/
  fault : Option LexError
  /-- The place behind the last character. -/
  stop : Position

/-- What a parser makes of the front of `tokens`, and the tokens it leaves. -/
structure Parsed (α : Type) (tokens : List Token) where
  value : α
  rest : List Token
  suffix : rest <:+ tokens

/-- A parser takes tokens from the front. -/
def Parser (α : Type) : Type :=
  Source → (tokens : List Token) → Except SyntaxError (Parsed α tokens)

namespace Parser

instance : Monad Parser where
  pure a := fun _ ts => .ok ⟨a, ts, List.suffix_rfl⟩
  bind p f := fun s ts =>
    match p s ts with
    | .error e => .error e
    | .ok r =>
      match f r.value s r.rest with
      | .error e => .error e
      | .ok r' => .ok ⟨r'.value, r'.rest, r'.suffix.trans r.suffix⟩

/-- Gives up with an error of the grammar. -/
def fail {α : Type} (e : ParseError) : Parser α := fun _ _ => .error (.parse e)

def dialect : Parser Dialect := fun s ts => .ok ⟨s.dialect, ts, List.suffix_rfl⟩

/-- What is met behind the last token: its fault, or nothing. -/
def atEnd {α : Type} (s : Source) (a : α) : Except SyntaxError α :=
  match s.fault with
  | some e => .error (.ofLex e)
  | none => .ok a

/-- The next token, which stays where it is. -/
def ahead : Parser (Option Token) := fun s ts =>
  match ts with
  | t :: rest => .ok ⟨some t, t :: rest, List.suffix_rfl⟩
  | [] => (atEnd s none).map (⟨·, [], List.suffix_rfl⟩)

/-- The token behind the next one. Both stay where they are. -/
def secondAhead : Parser (Option Token) := fun s ts =>
  match ts with
  | t :: u :: rest => .ok ⟨some u, t :: u :: rest, List.suffix_rfl⟩
  | ts => (atEnd s none).map (⟨·, ts, List.suffix_rfl⟩)

/-- Takes the next token, if there is one. -/
def next? : Parser (Option Token) := fun s ts =>
  match ts with
  | t :: rest => .ok ⟨some t, rest, List.suffix_cons t rest⟩
  | [] => (atEnd s none).map (⟨·, [], List.suffix_rfl⟩)

/-- Takes the next token; `expected` says what should stand there. -/
def next (expected : String) : Parser Token := fun s ts =>
  match ts with
  | t :: rest => .ok ⟨t, rest, List.suffix_cons t rest⟩
  | [] => (atEnd s ()).bind fun _ => .error (.parse (.unexpectedEnd expected s.stop))

/-- Refuses a token. -/
def unexpected {α : Type} (t : Token) (expected : String) : Parser α :=
  fail (.unexpectedToken expected t.kind.describe t.pos)

/-- Whether a token is the given symbol. -/
def isSymbol (s : Symbol) (t : Token) : Bool :=
  match t.kind with
  | .symbol s' => s' = s
  | _ => false

def isKeyword (k : Keyword) (t : Token) : Bool :=
  match t.kind with
  | .keyword k' => k' = k
  | _ => false

def isWord (word : String) (t : Token) : Bool := t.name? = some word

def isDirectiveEnd (t : Token) : Bool :=
  match t.kind with
  | .directiveEnd => true
  | _ => false

def isPrintEnd (t : Token) : Bool :=
  match t.kind with
  | .printEnd => true
  | _ => false

/-- Takes the next token, which has to satisfy `p`. -/
def expect (p : Token → Bool) (expected : String) : Parser Token := do
  let t ← next expected
  if p t then pure t else unexpected t expected

/-- Takes the next token if it satisfies `p`, and tells whether it did. -/
def eat (p : Token → Bool) : Parser Bool := do
  match ← ahead with
  | some t => if p t then (do let _ ← next?; pure true) else pure false
  | none => pure false

/-- The name of the identifier that has to stand next, and its place. -/
def identifierAt (expected : String) : Parser (String × Position) := do
  let t ← next expected
  match t.name? with
  | some name => pure (name, t.pos)
  | none => unexpected t expected

/-- The name of the identifier that has to stand next. -/
def identifier (expected : String) : Parser String := do return (← identifierAt expected).1

def endDirective : Parser Unit := do
  let _ ← expect isDirectiveEnd "end of directive"

/-- The deepest nesting of directives and expressions. -/
def maxNesting : Nat := 64

/-- Gives up because the nesting is too deep, at the next token. -/
def tooDeep {α : Type} : Parser α := fun s ts =>
  match ts with
  | t :: _ => .error (.parse (.tooDeep maxNesting t.pos))
  | [] => (atEnd s ()).bind fun _ => .error (.parse (.tooDeep maxNesting s.stop))

/-- The name of the directive that begins here, which stays where it is. -/
def directiveAhead : Parser (Option String) := do
  match ← ahead with
  | some ⟨.directiveStart, _, _, _⟩ => return (← secondAhead).bind Token.name?
  | _ => return none

theorem length_lt_of_suffix_cons {t : Token} {rest ts : List Token} (h : t :: rest <:+ ts)
    {more : List Token} (h' : more <:+ rest) : more.length < ts.length := by
  have := h.length_le
  have := h'.length_le
  simp only [List.length_cons] at *
  omega

/-- Repeats `item` as long as `more` sees that one begins. It is run behind the token with which
it begins, and tells whether another one may follow. -/
def repeatWhile {α β : Type} (more : Parser (Option β)) (item : β → Token → Parser (α × Bool)) :
    Parser (List α) := fun s ts =>
  match more s ts with
  | .error e => .error e
  | .ok ⟨none, rest, h⟩ => .ok ⟨[], rest, h⟩
  | .ok ⟨some _, [], h⟩ => .ok ⟨[], [], h⟩
  | .ok ⟨some b, t :: rest, h⟩ =>
    match item b t s rest with
    | .error e => .error e
    | .ok ⟨(a, false), rest', h'⟩ =>
      .ok ⟨[a], rest', (h'.trans (List.suffix_cons t rest)).trans h⟩
    | .ok ⟨(a, true), rest', h'⟩ =>
      have := length_lt_of_suffix_cons h h'
      match repeatWhile more item s rest' with
      | .error e => .error e
      | .ok ⟨as, rest'', h''⟩ =>
        .ok ⟨a :: as, rest'', ((h''.trans h').trans (List.suffix_cons t rest)).trans h⟩
termination_by _ ts => ts.length

/-- Items with commas between them and possibly behind the last one, up to the closing symbol. -/
def commaList {α : Type} (close : Symbol) (expected : String) (item : Parser α) :
    Parser (List α) := fun s ts =>
  match eat (isSymbol close) s ts with
  | .error e => .error e
  | .ok ⟨true, rest, h⟩ => .ok ⟨[], rest, h⟩
  | .ok ⟨false, rest, h⟩ =>
    match item s rest with
    | .error e => .error e
    | .ok ⟨a, [], h'⟩ =>
      match expect (isSymbol close) expected s [] with
      | .error e => .error e
      | .ok ⟨_, rest', h''⟩ => .ok ⟨[a], rest', (h''.trans h').trans h⟩
    | .ok ⟨a, t :: rest', h'⟩ =>
      if isSymbol .comma t then
        have := length_lt_of_suffix_cons (h'.trans h) List.suffix_rfl
        match commaList close expected item s rest' with
        | .error e => .error e
        | .ok ⟨as, rest'', h''⟩ =>
          .ok ⟨a :: as, rest'', ((h''.trans (List.suffix_cons t rest')).trans h').trans h⟩
      else
        match expect (isSymbol close) expected s (t :: rest') with
        | .error e => .error e
        | .ok ⟨_, rest'', h''⟩ => .ok ⟨[a], rest'', (h''.trans h').trans h⟩
termination_by _ ts => ts.length

end Parser

end Stencil
