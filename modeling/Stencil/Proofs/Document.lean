import Mathlib.Tactic.Common
import Stencil.Node.Parser

/-! Templates as trees of lines, how the two dialects write them, and what parsers look at in their
tokens. -/
namespace Stencil

/-! ### Shapes of tokens -/

namespace Token

/-- What parsers look at in a token: its kind, and how words and fractions are spelled. -/
structure Shape where
  kind : Kind
  spelling : Option String

/-- The shape of a token of this kind with this text. -/
def Kind.shape (kind : Kind) (lexeme : String) : Shape where
  kind := kind
  spelling :=
    match kind with
    | .keyword _ | .float _ => some lexeme
    | _ => none

def Kind.closesBracket : Kind → Bool
  | .symbol .closeParen | .symbol .closeBracket | .symbol .closeBrace => true
  | _ => false

/-- The tokens of a text in which only spaces and tabs stand between them, if the scanner reads all
of it. -/
def argumentShapes (text : List Char) : Option (List Shape) :=
  match text with
  | [] => some []
  | c :: rest =>
    if Cursor.isIndent c then argumentShapes rest
    else
      match scan c rest with
      | .error _ => none
      | .ok (kind, n) =>
        (argumentShapes (rest.drop n)).map (kind.shape (String.ofList (c :: rest.take n)) :: ·)
termination_by text.length

/-- Whether brackets balance behind `depth` open ones: none closes before it opens, and none stays
open. -/
def balanced : (depth : Nat) → List Shape → Bool
  | depth, [] => depth == 0
  | depth, s :: more =>
    (depth != 0 || !s.kind.closesBracket) && balanced (s.kind.depthAfter depth) more

end Token

def Token.shape (t : Token) : Token.Shape := t.kind.shape t.lexeme

/-! ### Lines -/

namespace Document

/-- Directives that enclose nothing. -/
inductive Single where
  | letting
  | setting
  | including
  | importing
  | extending
  | exitLoop
  | nextItem

def Single.name : Single → String
  | .letting => "let"
  | .setting => "set"
  | .including => "include"
  | .importing => "import"
  | .extending => "extends"
  | .exitLoop => "break"
  | .nextItem => "continue"

/-- Directives with one body. -/
inductive Enclosing where
  | scope
  | block
  | macroDef
  | callBlock
  | autoescape
  | filterBlock

def Enclosing.name : Enclosing → String
  | .scope => "with"
  | .block => "block"
  | .macroDef => "macro"
  | .callBlock => "call"
  | .autoescape => "autoescape"
  | .filterBlock => "filter"

/-- Directives that are closed. -/
inductive Construct where
  | branch
  | loop
  | enclosing (kind : Enclosing)

def Construct.name : Construct → String
  | .branch => "if"
  | .loop => "for"
  | .enclosing kind => kind.name

def Construct.all : List Construct :=
  [.branch, .loop, .enclosing .scope, .enclosing .block, .enclosing .macroDef,
    .enclosing .callBlock, .enclosing .autoescape, .enclosing .filterBlock]

lemma Construct.mem_all (construct : Construct) : construct ∈ all := by
  rcases construct with _ | _ | (_ | _ | _ | _ | _ | _) <;> simp [all]

/-- What can be decided of each construct can be decided of all of them. -/
instance (p : Construct → Prop) [DecidablePred p] : Decidable (∀ construct, p construct) :=
  decidable_of_iff (∀ construct ∈ Construct.all, p construct)
    ⟨fun h construct => h construct construct.mem_all, fun h construct _ => h construct⟩

/-- The word of a directive line. -/
inductive Word where
  | single (kind : Single)
  | opening (construct : Construct)
  | elif
  | otherwise
  | closing (construct : Construct)

/-- How a dialect writes the word: only closers differ. -/
def Word.name (d : Dialect) : Word → String
  | .single kind => kind.name
  | .opening construct => construct.name
  | .elif => "elif"
  | .otherwise => "else"
  | .closing construct => Node.closer d construct.name

def Word.all : List Word :=
  [.single .letting, .single .setting, .single .including, .single .importing, .single .extending,
    .single .exitLoop, .single .nextItem, .elif, .otherwise] ++
    Construct.all.flatMap fun construct => [.opening construct, .closing construct]

lemma Word.mem_all (word : Word) : word ∈ all := by
  cases word with
  | single kind => cases kind <;> simp [all]
  | opening construct => simp [all, construct.mem_all]
  | elif | otherwise => simp [all]
  | closing construct => simp [all, construct.mem_all]

/-- What can be decided of each word can be decided of all of them. -/
instance (p : Word → Prop) [DecidablePred p] : Decidable (∀ word, p word) :=
  decidable_of_iff (∀ word ∈ Word.all, p word)
    ⟨fun h word => h word word.mem_all, fun h word _ => h word⟩

/-- What stands before a directive on its line, and between its name and its end. -/
structure Heading where
  indent : List Char
  args : List Char

/-- A line of a template. -/
inductive Row where
  | text (line : List Char)
  | comment (indent content : List Char)
  | directive (word : Word) (head : Heading)

/-- A line, or a directive with all lines up to its closer. -/
inductive Item where
  | text (line : List Char)
  | comment (indent content : List Char)
  | single (kind : Single) (head : Heading)
  | branch (head : Heading) (body : List Item) (more : List (Heading × List Item))
      (otherwise : Option (Heading × List Item)) (closing : List Char)
  | loop (head : Heading) (body : List Item) (otherwise : Option (Heading × List Item))
      (closing : List Char)
  | enclosing (kind : Enclosing) (head : Heading) (body : List Item) (closing : List Char)

mutual

/-- The lines of an item. -/
def Item.rows : Item → List Row
  | .text line => [.text line]
  | .comment indent content => [.comment indent content]
  | .single kind head => [.directive (.single kind) head]
  | .branch head body more otherwise closing =>
    .directive (.opening .branch) head :: (rows body ++ (rowsMore more ++
      (rowsOtherwise otherwise ++ [.directive (.closing .branch) ⟨closing, []⟩])))
  | .loop head body otherwise closing =>
    .directive (.opening .loop) head :: (rows body ++
      (rowsOtherwise otherwise ++ [.directive (.closing .loop) ⟨closing, []⟩]))
  | .enclosing kind head body closing =>
    .directive (.opening (.enclosing kind)) head :: (rows body ++
      [.directive (.closing (.enclosing kind)) ⟨closing, []⟩])

/-- The lines of a document. -/
def rows : List Item → List Row
  | [] => []
  | item :: more => item.rows ++ rows more

def rowsMore : List (Heading × List Item) → List Row
  | [] => []
  | (head, body) :: more => .directive .elif head :: (rows body ++ rowsMore more)

def rowsOtherwise : Option (Heading × List Item) → List Row
  | none => []
  | some (head, body) => .directive .otherwise head :: rows body

end

/-- A line as a dialect writes it. -/
def Row.print (d : Dialect) : Row → List Char
  | .text line => line ++ ['\n']
  | .comment indent content =>
    match d with
    | .native => indent ++ ('@' :: '#' :: ' ' :: content) ++ ['\n']
    | .jinja => indent ++ ('{' :: '#' :: ' ' :: (content ++ [' ', '#', '}'])) ++ ['\n']
  | .directive word head =>
    match d with
    | .native => head.indent ++ ('@' :: ((word.name d).toList ++ head.args)) ++ ['\n']
    | .jinja =>
      head.indent ++ ('{' :: '%' :: ' ' ::
        ((word.name d).toList ++ (head.args ++ [' ', '%', '}']))) ++ ['\n']

/-- A document as a dialect writes it. -/
def print (d : Dialect) (items : List Item) : String :=
  String.ofList ((rows items).flatMap (Row.print d))

/-- Characters with a meaning of their own in texts, in either dialect. -/
def isSign (c : Char) : Bool := c == '$' || c == '@' || c == '{'

/-- Text has no signs, comments do not end early, and arguments are tokens with spaces and tabs
between them, behind the name too, in which brackets balance. -/
def Row.isProper : Row → Bool
  | .text line => line.all fun c => !isSign c && c != '\n'
  | .comment indent content =>
    indent.all Cursor.isIndent && content.all (· != '\n') &&
      !Text.occursIn ['#', '}'] content
  | .directive _ head =>
    head.indent.all Cursor.isIndent && head.args.head?.all Cursor.isIndent &&
      head.args.all (· != '\n') && (Token.argumentShapes head.args).any (Token.balanced 0)

/-- Nothing but blanks stands behind the directives that take no arguments. -/
def Row.isBare : Row → Bool
  | .directive word head =>
    !Token.Native.bareNames.contains (word.name .native) || head.args.all Cursor.isIndent
  | _ => true

end Document

/-! ### Trees without places -/

namespace Node

mutual

/-- The node with all places set to the first one. -/
@[simp] def unplaced : Node → Node
  | .text content => .text content
  | .raw content => .raw content
  | .comment => .comment
  | .print expr _ => .print expr .start
  | .branch condition body more otherwise _ =>
    .branch condition (unplacedAll body) (unplacedBranches more) (unplacedOption otherwise) .start
  | .forEach binding iterable body otherwise _ =>
    .forEach binding iterable (unplacedAll body) (unplacedOption otherwise) .start
  | .macroDef name params body _ => .macroDef name params (unplacedAll body) .start
  | .callBlock callee args body _ => .callBlock callee args (unplacedAll body) .start
  | .assign name value _ => .assign name value .start
  | .block name body _ => .block name (unplacedAll body) .start
  | .extending path _ => .extending path .start
  | .importing path asName _ => .importing path asName .start
  | .including path _ => .including path .start
  | .autoescape enabled body _ => .autoescape enabled (unplacedAll body) .start
  | .filterBlock filters body _ => .filterBlock filters (unplacedAll body) .start
  | .scoped bindings body _ => .scoped bindings (unplacedAll body) .start
  | .exitLoop _ => .exitLoop .start
  | .nextItem _ => .nextItem .start

@[simp] def unplacedAll : List Node → List Node
  | [] => []
  | node :: more => unplaced node :: unplacedAll more

@[simp] def unplacedBranches : List (Expr × List Node) → List (Expr × List Node)
  | [] => []
  | (condition, body) :: more => (condition, unplacedAll body) :: unplacedBranches more

@[simp] def unplacedOption : Option (List Node) → Option (List Node)
  | none => none
  | some body => some (unplacedAll body)

end

end Node

namespace Document

/-- The syntax tree of a document in a dialect, without places, if it has one. -/
def tree? (d : Dialect) (items : List Item) : Option (List Node) :=
  (Node.ofSource (some d) (print d items)).toOption.map fun r => Node.unplacedAll r.1

end Document

end Stencil
