import Stencil.Proofs.TrackedNode

/-! The two dialects denote the same templates: a document has the same syntax tree in both, or none
in either. -/
namespace Stencil.Node

open Stencil.Parser Document Token

variable {lines tail : List Row} {nodes : Parser (List Node)} {expr : Parser Expr}
  {word : Word} {head : Heading}

/-! ### Directives -/

/-- The directive with this word, behind whose name the lines `inner` are ahead, is read up to the
lines behind it. -/
abbrev Directed (expr : Parser Expr) (nodes : Parser (List Node)) (word : Word) (head : Heading)
    (inner lines : List Row) : Prop :=
  ∀ pos pos', Tracks (Named word (behind .native head inner) (behind .jinja head inner))
    (Yield MovedNode (Before [] lines)) (directive expr nodes pos) (directive expr nodes pos')

lemma directed_single (hexpr : ∀ X Y, Stays X Y expr) (kind : Single) :
    Directed expr nodes (.single kind) head lines lines := by
  intro pos pos'
  refine Tracks.bind_yield (tracks_identifier _) ?_
  rintro _ _ ⟨rfl, rfl⟩
  refine tracks_behind ?_
  cases kind with
  | letting | setting =>
    refine Tracks.bind_same (stays_identifier _) fun name => ?_
    refine Tracks.bind (tracks_expect (byKind_isSymbol _) _) fun _ _ => ?_
    refine Tracks.bind_same (hexpr _ _) fun value => ?_
    exact Tracks.bind tracks_endDirective fun _ _ => Tracks.pure fun A B h => ⟨rfl, h⟩
  | including | extending =>
    refine Tracks.bind_same (hexpr _ _) fun path => ?_
    exact Tracks.bind tracks_endDirective fun _ _ => Tracks.pure fun A B h => ⟨rfl, h⟩
  | importing =>
    refine Tracks.bind_same (hexpr _ _) fun path => ?_
    refine Tracks.bind (tracks_expect (byKind_isWord _) _) fun _ _ => ?_
    refine Tracks.bind_same (stays_identifier _) fun asName => ?_
    exact Tracks.bind tracks_endDirective fun _ _ => Tracks.pure fun A B h => ⟨rfl, h⟩
  | exitLoop | nextItem =>
    exact Tracks.bind tracks_endDirective fun _ _ => Tracks.pure fun A B h => ⟨rfl, h⟩

variable {body : List Item} {closing : List Char} {more : List (Heading × List Item)}
  {otherwise : Option (Heading × List Item)}

lemma directed_branch (hexpr : ∀ X Y, Stays X Y expr) (hbody : Walks nodes body)
    (hmore : ∀ b ∈ more, Walks nodes b.2) (hotherwise : ∀ b ∈ otherwise, Walks nodes b.2) :
    Directed expr nodes (.opening .branch) head (branchLines body more otherwise closing lines)
      lines := by
  intro pos pos'
  refine Tracks.bind_yield (tracks_identifier _) ?_
  rintro _ _ ⟨rfl, rfl⟩
  exact tracks_behind (tracks_branchDirective hexpr hbody hmore hotherwise)

lemma directed_loop (hexpr : ∀ X Y, Stays X Y expr) (hbody : Walks nodes body)
    (hotherwise : ∀ b ∈ otherwise, Walks nodes b.2) :
    Directed expr nodes (.opening .loop) head (loopLines body otherwise closing lines) lines := by
  intro pos pos'
  refine Tracks.bind_yield (tracks_identifier _) ?_
  rintro _ _ ⟨rfl, rfl⟩
  exact tracks_behind (tracks_loopDirective hexpr hbody hotherwise)

lemma directed_enclosing (hexpr : ∀ X Y, Stays X Y expr) (hbody : Walks nodes body)
    (kind : Enclosing) :
    Directed expr nodes (.opening (.enclosing kind)) head (enclosedLines kind body closing lines)
      lines := by
  intro pos pos'
  refine Tracks.bind_yield (tracks_identifier _) ?_
  rintro _ _ ⟨rfl, rfl⟩
  refine tracks_behind ?_
  cases kind with
  | scope => exact tracks_scopeDirective hexpr hbody
  | block =>
    refine Tracks.bind_same (stays_identifier _) fun name => ?_
    refine tracks_enclosed hbody .block fun nodes nodes' hmoved => ?_
    simp only [MovedNode, unplaced, show unplacedAll nodes = unplacedAll nodes' from hmoved]
  | macroDef => exact tracks_macroDirective hexpr hbody
  | callBlock => exact tracks_callDirective hexpr hbody
  | autoescape => exact tracks_autoescapeDirective hbody
  | filterBlock => exact tracks_filterDirective hexpr hbody

/-! ### Nodes -/

lemma tracks_nodeAhead_directive {word : Word} {b : Option Unit}
    (hb : (if word.terminates then none else some ()) = b) (X Y : List Shape) :
    Tracks (Opens word X Y) (Yield (fun a a' => a = b ∧ a' = b) (Opens word X Y))
      nodeAhead nodeAhead := by
  refine Tracks.bind_yield tracks_directiveAhead ?_
  rintro _ _ ⟨rfl, rfl⟩
  refine Tracks.bind_yield tracks_dialect ?_
  rintro _ _ ⟨rfl, rfl⟩
  rw [isTerminator_name, isTerminator_name, hb]
  exact Tracks.pure fun A B h => ⟨⟨rfl, rfl⟩, h⟩

lemma tracks_nodeAhead_other {x : Shape} (hx : x.kind ≠ .directiveStart) (X Y : List Shape) :
    Tracks (Is (x :: X) (x :: Y))
      (Yield (fun a b => a = some () ∧ b = some ()) (Is (x :: X) (x :: Y)))
      nodeAhead nodeAhead := by
  refine Tracks.bind_yield (tracks_directiveAhead_other hx) ?_
  rintro _ _ ⟨rfl, rfl⟩
  refine Tracks.bind_yield tracks_ahead ?_
  rintro _ _ ⟨t, u, rfl, rfl, -, -⟩
  exact Tracks.pure fun A B h => ⟨⟨rfl, rfl⟩, h⟩

/-- Where lines stop no node begins. -/
lemma tracks_nodeAhead_stops (htail : Stops tail) :
    Tracks (Before [] tail) (Yield (fun a b => a = none ∧ b = none) (Before [] tail))
      nodeAhead nodeAhead := by
  cases htail with
  | done =>
    rintro s s' hs ts us ⟨hts, hus⟩
    obtain rfl : ts = [] := by simpa [outline, textShapes] using hts
    obtain rfl : us = [] := by simpa [outline, textShapes] using hus
    simp only [nodeAhead, directiveAhead, Bind.bind, ahead, atEnd, hs.sound, hs.sound', Except.map,
      Pure.pure]
    exact .ok ⟨⟨rfl, rfl⟩, rfl, rfl⟩
  | @directive word head lines hword =>
    rw [before_directive]
    exact tracks_nodeAhead_directive (by rw [hword]; rfl) _ _

/-- How nodes begin: with a text, a comment or, if the budget allows, a directive. -/
lemma exists_item (n : Nat) : ∃ item, parser n = repeatWhile nodeAhead item ∧
    (∀ t content, t.kind = .text content → item () t = pure (.text content, true)) ∧
    (∀ t, t.kind = .comment → item () t = pure (.comment, true)) ∧
    ∀ t, t.kind = .directiveStart → item () t =
      match n with
      | 0 => tooDeep
      | n + 1 => do return (← directive (Expr.parser n) (parser n) t.pos, true) := by
  cases n with
  | zero =>
    refine ⟨_, rfl, fun t content h => ?_, fun t h => ?_, fun t h => ?_⟩
    all_goals simp only [h]
  | succ n =>
    refine ⟨_, rfl, fun t content h => ?_, fun t h => ?_, fun t h => ?_⟩
    all_goals simp only [h]

variable {n : Nat} {X Y : List Shape} {M N : Ahead}

/-- Where lines stop the nodes end. -/
lemma tracks_parser_stops (htail : Stops tail) :
    Tracks (Before [] tail) (Yield Moved (Before [] tail)) (parser n) (parser n) := by
  obtain ⟨item, hparser, -⟩ := exists_item n
  rw [hparser]
  refine (Tracks.repeatWhile_nil (tracks_nodeAhead_stops htail)).mono (fun _ _ => id) ?_
  rintro _ _ _ _ ⟨⟨rfl, rfl⟩, h⟩
  exact ⟨rfl, h⟩

/-- A text or a comment is a node. -/
lemma tracks_parser_leaf {x : Shape} (hx : (∃ content, x.kind = .text content) ∨ x.kind = .comment)
    (hrest : Tracks (Is X Y) (Yield Moved M) (parser n) (parser n)) :
    Tracks (Is (x :: X) (x :: Y)) (Yield Moved M) (parser n) (parser n) := by
  obtain ⟨item, hparser, htext, hcomment, -⟩ := exists_item n
  obtain ⟨node, hitem⟩ : ∃ node, ∀ t : Token, t.shape = x → item () t = pure (node, true) := by
    rcases hx with ⟨content, hx⟩ | hx
    · exact ⟨_, fun t ht => htext t content ((congrArg Shape.kind ht).trans hx)⟩
    · exact ⟨_, fun t ht => hcomment t ((congrArg Shape.kind ht).trans hx)⟩
  have hother : x.kind ≠ .directiveStart := by
    rcases hx with ⟨content, hx⟩ | hx
    · rw [hx]
      nofun
    · rw [hx]
      nofun
  rw [hparser] at hrest ⊢
  refine (Tracks.repeatWhile_cons (C := fun a b => a = node ∧ b = node)
    (tracks_nodeAhead_other hother X Y) (fun t u ht hu => ?_) hrest).mono (fun _ _ => id) ?_
  · rw [hitem t ht, hitem u hu]
    exact Tracks.pure fun A B h => ⟨⟨rfl, rfl, rfl, rfl⟩, h⟩
  · rintro _ _ _ _ ⟨⟨_, nodes, _, nodes', rfl, rfl, ⟨rfl, rfl⟩, hmoved⟩, h⟩
    exact ⟨congrArg (unplaced _ :: ·) hmoved, h⟩

/-- A directive is a node, and takes one level of the budget. -/
lemma tracks_parser_directive {word : Word} (hword : word.terminates = false)
    (hdirective : ∀ m, m < n → ∀ pos pos', Tracks (Named word X Y) (Yield MovedNode N)
      (directive (Expr.parser m) (parser m) pos) (directive (Expr.parser m) (parser m) pos'))
    (hrest : Tracks N (Yield Moved M) (parser n) (parser n)) :
    Tracks (Opens word X Y) (Yield Moved M) (parser n) (parser n) := by
  obtain ⟨item, hparser, -, -, hitem⟩ := exists_item n
  have hahead : (if word.terminates then none else some ()) = some () := by
    rw [hword]
    rfl
  rw [hparser] at hrest ⊢
  refine (Tracks.repeatWhile_cons (C := MovedNode) (tracks_nodeAhead_directive hahead X Y)
    (fun t u ht hu => ?_) hrest).mono (fun _ _ => id) ?_
  · rw [hitem t (congrArg Shape.kind ht), hitem u (congrArg Shape.kind hu)]
    cases n with
    | zero => exact Tracks.tooDeep
    | succ m =>
      refine Tracks.bind_yield (hdirective m (Nat.lt_succ_self m) t.pos u.pos) fun _ _ hnode => ?_
      exact Tracks.pure fun A B h => ⟨⟨rfl, rfl, hnode⟩, h⟩
  · rintro _ _ _ _ ⟨⟨node, nodes, node', nodes', rfl, rfl, hnode, hmoved⟩, h⟩
    refine ⟨?_, h⟩
    simp only [Moved, unplacedAll, show node.unplaced = node'.unplaced from hnode,
      show unplacedAll nodes = unplacedAll nodes' from hmoved]

/-! ### Lines -/

/-- Text that no line of text follows is one token. -/
lemma outline_flush (d : Dialect) (text : List Char) (h : ∀ line more, lines ≠ .text line :: more) :
    outline d text lines = textShapes text ++ outline d [] lines := by
  cases lines with
  | nil => simp [outline, textShapes]
  | cons row more =>
    cases row with
    | text line => exact absurd rfl (h line more)
    | comment indent content => simp [outline, textShapes]
    | directive word head => simp [outline, textShapes]

lemma tracks_parser_flush (text : List Char) (h : ∀ line more, lines ≠ .text line :: more)
    (hlines : Tracks (Before [] lines) (Yield Moved M) (parser n) (parser n)) :
    Tracks (Before text lines) (Yield Moved M) (parser n) (parser n) := by
  unfold Before
  rw [outline_flush .native text h, outline_flush .jinja text h]
  unfold textShapes
  split
  · exact hlines
  · exact tracks_parser_leaf (.inl ⟨_, rfl⟩) hlines

/-- A directive is read behind the text before it. -/
lemma tracks_parser_line {inner : List Row} (hword : word.terminates = false)
    (hdirected : ∀ m, m < n → Directed (Expr.parser m) (parser m) word head inner lines)
    (hlines : Tracks (Before [] lines) (Yield Moved M) (parser n) (parser n)) (text : List Char) :
    Tracks (Before text (.directive word head :: inner)) (Yield Moved M) (parser n) (parser n) := by
  refine tracks_parser_flush text nofun ?_
  rw [before_directive]
  exact tracks_parser_directive hword hdirected hlines

/-- If the parser reads what stands inside of directives, it reads the lines of a document up to
where they stop. -/
lemma tracks_rows (hwalks : ∀ m, m < n → ∀ items, Walks (parser m) items) (htail : Stops tail)
    (items : List Item) (text : List Char) :
    Tracks (Before text (rows items ++ tail)) (Yield Moved (Before [] tail)) (parser n)
      (parser n) := by
  have hexpr : ∀ m X Y, Stays X Y (Expr.parser m) := fun m X Y => Expr.parser_stays m
  induction items generalizing text with
  | nil =>
    refine tracks_parser_flush text ?_ (tracks_parser_stops htail)
    cases htail with
    | done => nofun
    | directive => nofun
  | cons item more ih =>
    rw [rows, List.append_assoc]
    cases item with
    | text line => exact ih (text ++ line ++ ['\n'])
    | comment indent content =>
      refine tracks_parser_flush text nofun ?_
      exact tracks_parser_leaf (.inr rfl) (ih [])
    | single kind head =>
      exact tracks_parser_line rfl (fun m _ => directed_single (hexpr m) kind) (ih []) text
    | branch head body elifs otherwise closing =>
      simp only [Item.rows, List.cons_append, List.append_assoc, List.nil_append]
      refine tracks_parser_line rfl (fun m hm => ?_) (ih []) text
      exact directed_branch (hexpr m) (hwalks m hm body) (fun b _ => hwalks m hm b.2)
        fun b _ => hwalks m hm b.2
    | loop head body otherwise closing =>
      simp only [Item.rows, List.cons_append, List.append_assoc, List.nil_append]
      refine tracks_parser_line rfl (fun m hm => ?_) (ih []) text
      exact directed_loop (hexpr m) (hwalks m hm body) fun b _ => hwalks m hm b.2
    | enclosing kind head body closing =>
      simp only [Item.rows, List.cons_append, List.append_assoc, List.nil_append]
      refine tracks_parser_line rfl (fun m hm => ?_) (ih []) text
      exact directed_enclosing (hexpr m) (hwalks m hm body) kind

/-- With any budget the parser reads the lines of a document up to where they stop. -/
theorem parser_walks (n : Nat) (items : List Item) : Walks (parser n) items := by
  induction n using Nat.strongRecOn generalizing items with
  | ind n ih => exact fun tail htail => tracks_rows ih htail items []

/-- The whole of a document is read. -/
theorem tracks_template (items : List Item) :
    Tracks (Before [] (rows items)) (Yield Moved fun _ _ => True) template template := by
  have hwalks := parser_walks maxNesting items [] .done
  rw [List.append_nil] at hwalks
  refine Tracks.bind_yield hwalks fun nodes nodes' hmoved => ?_
  rintro s s' hs ts us ⟨hts, hus⟩
  obtain rfl : ts = [] := by simpa [outline, textShapes] using hts
  obtain rfl : us = [] := by simpa [outline, textShapes] using hus
  simp only [Bind.bind, next?, atEnd, hs.sound, hs.sound', Except.map, Pure.pure]
  exact .ok ⟨hmoved, trivial⟩

end Stencil.Node

namespace Stencil.Document

open Stencil.Parser

/-- A document has the same syntax tree, up to places, in both dialects, or none in either. -/
theorem tree?_native_eq_jinja {items : List Item}
    (hproper : ∀ row ∈ rows items, row.isProper = true)
    (hbare : ∀ row ∈ rows items, row.isBare = true) : tree? .native items = tree? .jinja items := by
  have hrows : ∀ row ∈ rows items, row.isProper = true ∧ row.isBare = true :=
    fun row hrow => ⟨hproper row hrow, hbare row hrow⟩
  obtain ⟨ts, stop, hts, hshapes⟩ := exists_ofSource .native hrows
  obtain ⟨us, stop', hus, hshapes'⟩ := exists_ofSource .jinja hrows
  have hsources : Sources ⟨.native, none, stop⟩ ⟨.jinja, none, stop'⟩ := ⟨rfl, rfl, rfl, rfl⟩
  have hout := Node.tracks_template items hsources ⟨hshapes, hshapes'⟩
  unfold tree? Node.ofSource
  simp only [hts, hus, Node.ofTokens]
  rcases hout.cases with ⟨e, e', hr, hr'⟩ | ⟨r, r', hr, hr', hmoved, -⟩
  · rw [hr, hr']
    rfl
  · rw [hr, hr']
    exact congrArg some hmoved

/-- A loop that prints a line for each item, or says that there is none. -/
def listing : List Item :=
  [.comment [] "all items".toList,
   .loop ⟨[], " x in xs".toList⟩
     [.branch ⟨[' '], " x is defined and x".toList⟩ [.text "item".toList]
        [(⟨[' '], " x == 0".toList⟩, [.single .nextItem ⟨['\t'], []⟩])]
        (some (⟨[' '], " ".toList⟩, [.single .exitLoop ⟨[], []⟩])) [' ']]
     (some (⟨[], []⟩,
       [.enclosing .scope ⟨[], " y = [1, ".toList ++ '{' :: "'a': 2".toList ++ ['}', ']']⟩
          [.text "none".toList] []]))
     []]

theorem tree?_native_eq_jinja_listing :
    (tree? .native listing).isSome = true ∧ tree? .native listing = tree? .jinja listing :=
  ⟨by decide +kernel, tree?_native_eq_jinja (by decide +kernel) (by decide +kernel)⟩

/-- A loop left with an argument. -/
def leftWith (args : List Char) : List Item :=
  [.loop ⟨[], " x in xs".toList⟩ [.single .exitLoop ⟨[], args⟩] none []]

/-- What follows a directive that takes no arguments is text in one dialect and an error in the
other. -/
theorem not_forall_tree?_native_eq_jinja :
    ¬ ∀ items : List Item, (∀ row ∈ rows items, row.isProper = true) →
      tree? .native items = tree? .jinja items := by
  intro h
  have hnative : (tree? .native (leftWith " 1".toList)).isSome = true := by decide +kernel
  have hjinja : (tree? .jinja (leftWith " 1".toList)).isSome = false := by decide +kernel
  rw [h _ (by decide +kernel), hjinja] at hnative
  exact Bool.false_ne_true hnative

end Stencil.Document
