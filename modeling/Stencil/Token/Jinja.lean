import Stencil.Text.Basic
import Stencil.Token.Expression

/-! The jinja dialect: tags in double braces, braces with percent signs, and comments. A hyphen on
the inside of a tag removes the blanks on that side of it. -/
namespace Stencil.Token.Jinja

/-- What a tag is for. -/
inductive TagKind where
  | print
  | block
  | comment
deriving DecidableEq

/-- The kind of tag that a character behind an opening brace begins. -/
def tagKind? : Char → Option TagKind
  | '{' => some .print
  | '%' => some .block
  | '#' => some .comment
  | _ => none

/-- The text before the first tag, and the kind of that tag. -/
def splitAtTag : List Char → Option (List Char × TagKind)
  | [] => none
  | c :: rest =>
    match if c = '{' then rest.head?.bind tagKind? else none with
    | some kind => some ([], kind)
    | none => (splitAtTag rest).map fun r => (c :: r.1, r.2)

/-- How a tag opens and closes. -/
def TagKind.opener : TagKind → String
  | .print => String.ofList ['{', '{']
  | .block => String.ofList ['{', '%']
  | .comment => String.ofList ['{', '#']

def TagKind.closer : TagKind → String
  | .print => String.ofList ['}', '}']
  | .block => String.ofList ['%', '}']
  | .comment => String.ofList ['#', '}']

/-- The tag with this inside. -/
def TagKind.around (kind : TagKind) (inside : String) : String :=
  kind.opener ++ inside ++ kind.closer

/-- The tokens at the ends of a tag. -/
def TagKind.startKind : TagKind → Kind
  | .print => .printStart
  | _ => .directiveStart

def TagKind.endKind : TagKind → Kind
  | .print => .printEnd
  | _ => .directiveEnd

/-- The length of the closer ahead, and whether it carries a hyphen. -/
def closerAhead? (kind : TagKind) (text : List Char) : Option (Nat × Bool) :=
  let closer := kind.closer.toList
  if ('-' :: closer).isPrefixOf text then some (3, true)
  else if closer.isPrefixOf text then some (2, false)
  else none

/-- The tokens of a tag behind its opener, the number of its characters, and whether its closer
carries a hyphen. Inside brackets a closer is not looked for. -/
def tagTokens (kind : TagKind) (opened : Position) (depth : Nat) (c : Cursor) :
    Except LexError (List Token × Nat × Bool) :=
  let gap := c.blanks true
  let p := c.advance gap
  match p.rest with
  | [] => .error (.unterminated kind.opener kind.closer opened)
  | ch :: rest =>
    match if depth = 0 then closerAhead? kind (ch :: rest) else none with
    | some (n, strip) => .ok ([p.token kind.endKind n], gap + n, strip)
    | none =>
      match h : scanAt p with
      | .error e => .error (e.at p.pos)
      | .ok (token, stop) =>
        let n := p.distance stop
        have := scanAt_lt h
        match tagTokens kind opened (token.depthAfter depth) stop with
        | .error e => .error e
        | .ok (tokens, m, strip) => .ok (p.token token n :: tokens, gap + n + m, strip)
termination_by c.rest.length

/-- A tag with an expression or a directive in it. -/
def tag (kind : TagKind) (c : Cursor) : Except LexError Step :=
  let n := if (c.rest.drop 2).head? = some '-' then 3 else 2
  match tagTokens kind c.pos 0 (c.advance n) with
  | .error e => .error e
  | .ok (tokens, m, strip) =>
    .ok { tokens := c.token kind.startKind n :: tokens, length := n + m, strip := strip,
          length_pos := by grind }

/-- A comment. -/
def comment (c : Cursor) : Except LexError Step :=
  match Text.splitAt? TagKind.comment.closer.toList (c.rest.drop 2) with
  | none => .error (.unterminated TagKind.comment.opener TagKind.comment.closer c.pos)
  | some (body, _) =>
    .ok { tokens := [c.token .comment (body.length + 4)], length := body.length + 4,
          strip := body.getLast? = some '-' }

/-- A tag or comment of the given kind. -/
def construct (kind : TagKind) (c : Cursor) : Except LexError Step :=
  match kind with
  | .comment => comment c
  | kind => tag kind c

/-- Whether a tag is the one that starts a raw body. -/
def isRawTag (kind : TagKind) (tokens : List Token) : Bool :=
  kind = .block && match tokens with
    | [_, name, _] => match name.kind with
      | .ident name => name == "raw"
      | _ => false
    | _ => false

/-- The tag that ends a raw body. -/
structure RawEnd where
  /-- The number of characters before its name. -/
  lead : Nat
  length : Nat
  stripBefore : Bool
  stripAfter : Bool

/-- Recognises the end of a raw body at the front of a text. -/
def rawEnd? (text : List Char) : Option RawEnd :=
  let inside := text.drop 2
  let stripBefore := inside.head? = some '-'
  let inside := if stripBefore then inside.drop 1 else inside
  let gap := (inside.takeWhile Unicode.isWhitespace).length
  let word := "endraw".toList
  let lead := (if stripBefore then 3 else 2) + gap
  if TagKind.block.opener.toList.isPrefixOf text && word.isPrefixOf (inside.drop gap) then
    let rest := inside.drop (gap + word.length)
    let gap := (rest.takeWhile Unicode.isWhitespace).length
    (closerAhead? .block (rest.drop gap)).map fun (n, stripAfter) =>
      ⟨lead, lead + word.length + gap + n, stripBefore, stripAfter⟩
  else none

/-- The raw text before its end, and that end. -/
def splitAtRawEnd : List Char → Option (List Char × RawEnd)
  | [] => none
  | c :: rest =>
    match rawEnd? (c :: rest) with
    | some stop => some ([], stop)
    | none => (splitAtRawEnd rest).map fun r => (c :: r.1, r.2)

/-- The part of a text before a tag that is kept: a hyphen removes all blanks at its end, a tag
alone on its line the indentation. -/
def kept (text : List Char) (strip alone : Bool) : List Char :=
  if strip then Text.trimEnd text
  else if alone then Text.dropEndWhile Cursor.isIndent text
  else text

/-- The body and the end of a raw block whose opening tag stands at `opened`: the tokens, the
number of characters, and whether the blanks behind are to be skipped. -/
def rawBody (opened : Position) (c : Cursor) : Except LexError (List Token × Nat × Bool) :=
  match splitAtRawEnd c.rest with
  | none => .error (.unterminatedBlock "raw" "{% endraw %}" opened)
  | some (body, stop) =>
    let opener := c.advance body.length
    let closer := opener.advance stop.length
    let alone := opener.standsAlone closer
    let tokens :=
      c.textToken (kept body stop.stripBefore alone.isSome) body.length ++
        [opener.token .directiveStart 2,
         (opener.advance stop.lead).token (.ident "endraw") 6,
         (opener.advance (stop.length - 2)).token .directiveEnd 2]
    .ok (tokens, body.length + stop.length + (if stop.stripAfter then 0 else alone.getD 0),
      stop.stripAfter)

/-- Reads the text up to the next tag, and that tag. If `strip`, the blanks ahead are skipped. -/
def step (strip : Bool) (c : Cursor) (h : c.rest ≠ []) : Except LexError Step :=
  let skipped := if strip then c.blanks true else 0
  let c' := c.advance skipped
  match splitAtTag c'.rest with
  | none =>
    .ok { tokens := c'.textToken c'.rest c'.rest.length, length := c.rest.length, strip := false,
          length_pos := c.length_rest_pos h }
  | some (text, kind) =>
    let opener := c'.advance text.length
    match construct kind opener with
    | .error e => .error e
    | .ok found =>
      let closer := opener.advance found.length
      let alone := if kind = .print then none else opener.standsAlone closer
      let stripBefore := (opener.rest.drop 2).head? = some '-'
      let tokens :=
        c'.textToken (kept text stripBefore alone.isSome) text.length ++ found.tokens
      let resume := if found.strip then 0 else alone.getD 0
      let length := skipped + text.length + found.length + resume
      have length_pos : 0 < length := by have := found.length_pos; omega
      if isRawTag kind found.tokens then
        match rawBody opener.pos (closer.advance resume) with
        | .error e => .error e
        | .ok (more, n, stripAfter) =>
          .ok { tokens := tokens ++ more, length := length + n, strip := found.strip || stripAfter }
      else .ok { tokens := tokens, length := length, strip := found.strip }

end Stencil.Token.Jinja
