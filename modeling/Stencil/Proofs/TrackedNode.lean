import Stencil.Proofs.Outline
import Stencil.Proofs.TrackedExpr

/-! Directives are parsed alike in both dialects: the tokens of their arguments are the same, and
each closer is met where its construct ends. -/
namespace Stencil

namespace Token

/-- The scanner finds no ends of directives. -/
lemma kind_ne_of_scan {c : Char} {text : List Char} {kind : Kind} {n : Nat}
    (h : scan c text = .ok (kind, n)) : kind ≠ .directiveEnd := by
  unfold scan at h
  rintro rfl
  split at h
  · split at h <;> cases h
  split at h
  · simp only [numberKind] at h
    split at h
    · split at h <;> cases h
    · cases h
  split at h
  · unfold ofWord at h
    simp only at h
    split at h <;> cases h
  · split at h
    · cases h
    · split at h <;> cases h

lemma Reads.kind_ne {text : List Char} {shapes : List Shape} (h : Reads text shapes) :
    ∀ x ∈ shapes, x.kind ≠ .directiveEnd := by
  induction h with
  | blank => exact List.forall_mem_nil _
  | token _ hscan _ ih => exact List.forall_mem_cons.mpr ⟨kind_ne_of_scan hscan, ih⟩

end Token

namespace Document

open Token Stencil.Parser

/-- These lines are ahead, behind a text that is not yet a token. -/
def Before (text : List Char) (lines : List Row) : Ahead :=
  Is (outline .native text lines) (outline .jinja text lines)

/-- The rest of a directive is ahead, and then these lines. -/
abbrev Within (lines : List Row) : Ahead :=
  Inside (outline .native [] lines) (outline .jinja [] lines)

/-- The tokens behind the name of a directive. -/
def behind (d : Dialect) (head : Heading) (lines : List Row) : List Shape :=
  (argumentShapes head.args).getD [] ++ ⟨.directiveEnd, none⟩ :: outline d [] lines

lemma outline_directive (d : Dialect) (word : Word) (head : Heading) (lines : List Row) :
    outline d [] (.directive word head :: lines) =
      ⟨.directiveStart, none⟩ :: ⟨.ident (word.name d), none⟩ :: behind d head lines := by
  simp [outline, textShapes, Row.shapes, behind]

lemma within_behind (head : Heading) (lines : List Row) :
    Within lines (behind .native head lines) (behind .jinja head lines) := by
  have hargs : ∀ x ∈ (argumentShapes head.args).getD [], x.kind ≠ .directiveEnd := by
    cases hshapes : argumentShapes head.args with
    | none => exact List.forall_mem_nil _
    | some shapes => exact (reads_of_argumentShapes hshapes).kind_ne
  unfold behind
  generalize (argumentShapes head.args).getD [] = args at hargs ⊢
  induction args with
  | nil => exact .done
  | cons x args ih =>
    obtain ⟨hx, hargs⟩ := List.forall_mem_cons.mp hargs
    exact .token hx (ih hargs)

/-- Whether a directive ends the lines before it. -/
def Word.terminates : Word → Bool
  | .elif | .otherwise | .closing _ => true
  | .single _ | .opening _ => false

lemma isTerminator_name (word : Word) (d : Dialect) :
    Node.isTerminator d (word.name d) = word.terminates := by
  revert word
  cases d with
  | native => decide
  | jinja => decide

/-- The lines end here, or a directive ends those before it. -/
inductive Stops : List Row → Prop where
  | done : Stops []
  | directive {word : Word} {head : Heading} {lines : List Row} : word.terminates = true →
    Stops (.directive word head :: lines)

end Document

namespace Node

open Stencil.Parser Document Token

/-- The same nodes, at other places. -/
abbrev Moved (nodes nodes' : List Node) : Prop := unplacedAll nodes = unplacedAll nodes'

variable {lines tail : List Row} {nodes : Parser (List Node)} {expr : Parser Expr} {α β : Type}
  {word : Word} {head : Heading} {X Y : List Shape}

/-! ### Names of directives -/

/-- The name of a directive is ahead. -/
abbrev Named (word : Word) (X Y : List Shape) : Ahead :=
  Is (⟨.ident (word.name .native), none⟩ :: X) (⟨.ident (word.name .jinja), none⟩ :: Y)

/-- A directive is ahead. -/
abbrev Opens (word : Word) (X Y : List Shape) : Ahead :=
  Is (⟨.directiveStart, none⟩ :: ⟨.ident (word.name .native), none⟩ :: X)
    (⟨.directiveStart, none⟩ :: ⟨.ident (word.name .jinja), none⟩ :: Y)

lemma before_directive (word : Word) (head : Heading) (lines : List Row) :
    Before [] (.directive word head :: lines) =
      Opens word (behind .native head lines) (behind .jinja head lines) := by
  unfold Before
  rw [outline_directive, outline_directive]

lemma tracks_dialect {P : Ahead} :
    Tracks P (Yield (fun d d' => d = .native ∧ d' = .jinja) P) dialect dialect :=
  fun _ _ hs _ _ hP => .ok ⟨⟨hs.native, hs.jinja⟩, hP⟩

lemma name?_of_shape {t : Token} {name : String} (h : t.shape = ⟨.ident name, none⟩) :
    t.name? = some name := by
  have hkind : t.kind = .ident name := congrArg Shape.kind h
  unfold Token.name?
  rw [hkind]

lemma tracks_identifierAt (expected expected' : String) :
    Tracks (Named word X Y)
      (Yield (fun a b => a.1 = word.name .native ∧ b.1 = word.name .jinja) (Is X Y))
      (identifierAt expected) (identifierAt expected') := by
  refine Tracks.bind_yield (tracks_next _ _) fun t u htu => ?_
  rw [name?_of_shape htu.1, name?_of_shape htu.2]
  exact Tracks.pure fun A B h => ⟨⟨rfl, rfl⟩, h⟩

lemma tracks_identifier (expected : String) :
    Tracks (Named word X Y)
      (Yield (fun a b => a = word.name .native ∧ b = word.name .jinja) (Is X Y))
      (identifier expected) (identifier expected) :=
  Tracks.bind_yield (tracks_identifierAt _ _) fun _ _ hab => Tracks.pure fun _ _ h => ⟨hab, h⟩

lemma tracks_directiveAhead :
    Tracks (Opens word X Y)
      (Yield (fun a b => a = some (word.name .native) ∧ b = some (word.name .jinja))
        (Opens word X Y))
      directiveAhead directiveAhead := by
  refine Tracks.bind_yield tracks_ahead ?_
  rintro _ _ ⟨⟨kind, lexeme, offset, pos⟩, ⟨kind', lexeme', offset', pos'⟩, rfl, rfl, ht, hu⟩
  obtain rfl : kind = .directiveStart := congrArg Shape.kind ht
  obtain rfl : kind' = .directiveStart := congrArg Shape.kind hu
  refine Tracks.bind_yield tracks_secondAhead ?_
  rintro _ _ ⟨t, u, rfl, rfl, ht, hu⟩
  simp only [Option.bind_some, name?_of_shape ht, name?_of_shape hu]
  exact Tracks.pure fun A B h => ⟨⟨rfl, rfl⟩, h⟩

/-- No directive begins with another token. -/
lemma tracks_directiveAhead_other {x : Shape} (hx : x.kind ≠ .directiveStart) :
    Tracks (Is (x :: X) (x :: Y)) (Yield (fun a b => a = none ∧ b = none) (Is (x :: X) (x :: Y)))
      directiveAhead directiveAhead := by
  refine Tracks.bind_yield tracks_ahead ?_
  rintro _ _ ⟨⟨kind, lexeme, offset, pos⟩, ⟨kind', lexeme', offset', pos'⟩, rfl, rfl, ht, hu⟩
  have hkind : kind = x.kind := congrArg Shape.kind ht
  have hkind' : kind' = x.kind := congrArg Shape.kind hu
  split
  · rename_i h
    cases h
    exact absurd hkind.symm hx
  · split
    · rename_i h
      cases h
      exact absurd hkind'.symm hx
    · exact Tracks.pure fun A B h => ⟨⟨rfl, rfl⟩, h⟩

lemma tracks_directiveIs {name : String} (h : ∀ d, word.name d = name) :
    Tracks (Opens word X Y) (Yield (fun a b => a = some () ∧ b = some ()) (Opens word X Y))
      (directiveIs name) (directiveIs name) := by
  refine Tracks.bind_yield tracks_directiveAhead ?_
  rintro _ _ ⟨rfl, rfl⟩
  rw [if_pos (congrArg some (h .native)), if_pos (congrArg some (h .jinja))]
  exact Tracks.pure fun A B h => ⟨⟨rfl, rfl⟩, h⟩

lemma tracks_directiveIs_other {name : String} (h : ∀ d, word.name d ≠ name) :
    Tracks (Opens word X Y) (Yield (fun a b => a = none ∧ b = none) (Opens word X Y))
      (directiveIs name) (directiveIs name) := by
  refine Tracks.bind_yield tracks_directiveAhead ?_
  rintro _ _ ⟨rfl, rfl⟩
  rw [if_neg fun he => h .native (Option.some.inj he),
    if_neg fun he => h .jinja (Option.some.inj he)]
  exact Tracks.pure fun A B h => ⟨⟨rfl, rfl⟩, h⟩

/-- Behind its name a directive has its arguments. -/
lemma tracks_behind {Q : α → β → Ahead} {p : Parser α} {q : Parser β}
    (h : Tracks (Within lines) Q p q) :
    Tracks (Is (behind .native head lines) (behind .jinja head lines)) Q p q := by
  refine h.of_imp ?_
  rintro _ _ ⟨rfl, rfl⟩
  exact within_behind head lines

/-! ### Closers -/

/-- At the end of a directive there is no name that might be repeated. -/
lemma eat_name_end {s : Source} {us : List Token}
    (h : us.map Token.shape = ⟨.directiveEnd, none⟩ :: Y) :
    eat (·.name?.isSome) s us = .ok ⟨false, us, List.suffix_rfl⟩ := by
  obtain ⟨u, us, rfl, hu, -⟩ := exists_token h
  have hname : u.name? = none := name?_of_kind (congrArg Shape.kind hu)
  simp [eat, Bind.bind, ahead, hname, Pure.pure]

lemma behind_nil (d : Dialect) (indent : List Char) (lines : List Row) :
    behind d ⟨indent, []⟩ lines = ⟨.directiveEnd, none⟩ :: outline d [] lines := by
  simp [behind, argumentShapes]

lemma tracks_close (construct : Construct) (indent : List Char) (lines : List Row)
    (pos pos' : Position) :
    Tracks (Before [] (.directive (.closing construct) ⟨indent, []⟩ :: lines))
      (fun _ _ => Before [] lines) (close construct.name pos) (close construct.name pos') := by
  have hname : ∀ d, ¬(Word.closing construct).name d ≠ closer d construct.name :=
    fun _ h => h rfl
  have hnative : ¬(Dialect.native = .jinja ∧
      (construct.name = "block" ∨ construct.name = "macro")) := nofun
  rw [before_directive, behind_nil, behind_nil]
  refine Tracks.bind_yield tracks_dialect ?_
  rintro _ _ ⟨rfl, rfl⟩
  refine Tracks.bind_yield tracks_next? ?_
  rintro _ _ ⟨t, u, rfl, rfl, -, -⟩
  refine Tracks.bind_yield (tracks_identifierAt _ _) ?_
  rintro ⟨found, pos⟩ ⟨found', pos'⟩ ⟨rfl, rfl⟩
  dsimp only
  rw [if_neg (hname .native), if_neg (hname .jinja), if_neg hnative]
  have hend : Tracks (Closing (outline .native [] lines) (outline .jinja [] lines))
      (fun _ _ => Before [] lines) endDirective endDirective :=
    tracks_endDirective.of_imp fun A B => Closing.inside
  split
  · rintro s s' hs ts us ⟨hts, hus⟩
    have hout := hend hs ⟨hts, hus⟩
    simp only [Bind.bind, eat_name_end hus]
    generalize endDirective s ts = x at hout ⊢
    generalize endDirective s' us = y at hout
    cases hout with
    | error => exact .error
    | ok h => exact .ok h
  · exact hend

/-! ### Parts of directives -/

/-- The parser of nodes reads these lines, up to where they stop. -/
def Walks (nodes : Parser (List Node)) (items : List Item) : Prop :=
  ∀ tail, Stops tail →
    Tracks (Before [] (rows items ++ tail)) (Yield Moved (Before [] tail)) nodes nodes

variable {items body : List Item} {more : List (Heading × List Item)}
  {otherwise : Option (Heading × List Item)}

lemma tracks_conditioned (hexpr : ∀ X Y, Stays X Y expr) (hbody : Walks nodes body)
    (htail : Stops tail) :
    Tracks (Within (rows body ++ tail))
      (Yield (fun r r' => r.1 = r'.1 ∧ Moved r.2 r'.2) (Before [] tail))
      (conditioned expr nodes) (conditioned expr nodes) := by
  refine Tracks.bind_same (hexpr _ _) fun condition => ?_
  refine Tracks.bind tracks_endDirective fun _ _ => ?_
  refine Tracks.bind_yield (hbody tail htail) fun body body' hmoved => ?_
  exact Tracks.pure fun A B h => ⟨⟨rfl, hmoved⟩, h⟩

lemma tracks_elifs (hexpr : ∀ X Y, Stays X Y expr) (hmore : ∀ b ∈ more, Walks nodes b.2)
    (hword : word.terminates = true) (hother : ∀ d, word.name d ≠ "elif") :
    Tracks (Before [] (rowsMore more ++ .directive word head :: lines))
      (Yield (fun bs bs' => unplacedBranches bs = unplacedBranches bs')
        (Before [] (.directive word head :: lines)))
      (repeatWhile (directiveIs "elif") fun _ _ => do
        let _ ← next?
        return (← conditioned expr nodes, true))
      (repeatWhile (directiveIs "elif") fun _ _ => do
        let _ ← next?
        return (← conditioned expr nodes, true)) := by
  induction more with
  | nil =>
    rw [rowsMore, List.nil_append, before_directive]
    refine (Tracks.repeatWhile_nil (tracks_directiveIs_other hother)).mono (fun _ _ => id) ?_
    rintro _ _ _ _ ⟨⟨rfl, rfl⟩, h⟩
    exact ⟨rfl, h⟩
  | cons branch more ih =>
    obtain ⟨head', body⟩ := branch
    obtain ⟨hbody, hmore⟩ := List.forall_mem_cons.mp hmore
    have htail : Stops (rowsMore more ++ .directive word head :: lines) := by
      cases more with
      | nil => exact .directive hword
      | cons branch more => exact .directive rfl
    rw [rowsMore, List.cons_append, List.append_assoc, before_directive]
    refine (Tracks.repeatWhile_cons (C := fun r r' => r.1 = r'.1 ∧ Moved r.2 r'.2)
      (tracks_directiveIs fun _ => rfl) (fun t u _ _ => ?_) (ih hmore)).mono (fun _ _ => id) ?_
    · refine Tracks.bind_yield tracks_next? fun _ _ _ => ?_
      refine Tracks.bind_yield
        (tracks_behind (tracks_conditioned hexpr hbody htail)) fun r r' hr => ?_
      exact Tracks.pure fun A B h => ⟨⟨rfl, rfl, hr⟩, h⟩
    · rintro _ _ _ _ ⟨⟨⟨condition, body⟩, bs, ⟨condition', body'⟩, bs', rfl, rfl, ⟨hc, hb⟩, hbs⟩, h⟩
      refine ⟨?_, h⟩
      simp only [unplacedBranches, hbs, show condition = condition' from hc,
        show unplacedAll body = unplacedAll body' from hb]

lemma tracks_alternative? (hotherwise : ∀ b ∈ otherwise, Walks nodes b.2) (construct : Construct)
    (head : Heading) (lines : List Row) :
    Tracks (Before [] (rowsOtherwise otherwise ++ .directive (.closing construct) head :: lines))
      (Yield (fun a b => unplacedOption a = unplacedOption b)
        (Before [] (.directive (.closing construct) head :: lines)))
      (alternative? nodes) (alternative? nodes) := by
  cases otherwise with
  | none =>
    have hother : ∀ d, (Word.closing construct).name d ≠ "else" := by
      have hnative : ∀ construct, (Word.closing construct).name .native ≠ "else" := by decide
      have hjinja : ∀ construct, (Word.closing construct).name .jinja ≠ "else" := by decide
      rintro (_ | _)
      · exact hnative construct
      · exact hjinja construct
    rw [rowsOtherwise, List.nil_append, before_directive]
    refine Tracks.bind_yield (tracks_directiveIs_other hother) ?_
    rintro _ _ ⟨rfl, rfl⟩
    exact Tracks.pure fun A B h => ⟨rfl, h⟩
  | some branch =>
    obtain ⟨head', body⟩ := branch
    have hbody : Walks nodes body := hotherwise _ rfl
    rw [rowsOtherwise, List.cons_append, before_directive]
    refine Tracks.bind_yield (tracks_directiveIs fun _ => rfl) ?_
    rintro _ _ ⟨rfl, rfl⟩
    refine Tracks.bind_yield tracks_next? fun _ _ _ => ?_
    refine Tracks.bind_yield tracks_next? fun _ _ _ => ?_
    refine Tracks.bind (tracks_behind tracks_endDirective) fun _ _ => ?_
    refine Tracks.bind_yield (hbody _ (.directive rfl)) fun body body' hmoved => ?_
    exact Tracks.pure fun A B h => ⟨congrArg some hmoved, h⟩

/-! ### Directives with bodies -/

/-- The lines behind the head of a branch, and more lines. -/
abbrev branchLines (body : List Item) (more : List (Heading × List Item))
    (otherwise : Option (Heading × List Item)) (closing : List Char) (lines : List Row) :
    List Row :=
  rows body ++ (rowsMore more ++ (rowsOtherwise otherwise ++
    .directive (.closing .branch) ⟨closing, []⟩ :: lines))

/-- The lines behind the head of a loop, and more lines. -/
abbrev loopLines (body : List Item) (otherwise : Option (Heading × List Item))
    (closing : List Char) (lines : List Row) : List Row :=
  rows body ++ (rowsOtherwise otherwise ++ .directive (.closing .loop) ⟨closing, []⟩ :: lines)

/-- The lines behind the head of a directive with one body, and more lines. -/
abbrev enclosedLines (kind : Enclosing) (body : List Item) (closing : List Char)
    (lines : List Row) : List Row :=
  rows body ++ .directive (.closing (.enclosing kind)) ⟨closing, []⟩ :: lines

/-- The same node, at another place. -/
abbrev MovedNode (node node' : Node) : Prop := node.unplaced = node'.unplaced

variable {pos pos' : Position} {closing : List Char}

lemma tracks_branchDirective (hexpr : ∀ X Y, Stays X Y expr) (hbody : Walks nodes body)
    (hmore : ∀ b ∈ more, Walks nodes b.2) (hotherwise : ∀ b ∈ otherwise, Walks nodes b.2) :
    Tracks (Within (branchLines body more otherwise closing lines))
      (Yield MovedNode (Before [] lines)) (branchDirective expr nodes pos)
      (branchDirective expr nodes pos') := by
  -- What follows the `elif` parts begins with another word.
  obtain ⟨word, head, rest, hrest, hword, hother⟩ : ∃ word head rest,
      rowsOtherwise otherwise ++ .directive (.closing .branch) ⟨closing, []⟩ :: lines =
        .directive word head :: rest ∧ word.terminates = true ∧ ∀ d, word.name d ≠ "elif" := by
    cases otherwise with
    | none => exact ⟨_, _, _, rfl, rfl, by rintro (_ | _) <;> decide⟩
    | some branch => exact ⟨_, _, _, rfl, rfl, by rintro (_ | _) <;> decide⟩
  have halternative := tracks_alternative? hotherwise .branch ⟨closing, []⟩ lines
  unfold branchLines
  rw [hrest] at halternative ⊢
  have htail : Stops (rowsMore more ++ .directive word head :: rest) := by
    cases more with
    | nil => exact .directive hword
    | cons branch more => exact .directive rfl
  refine Tracks.bind_yield (tracks_conditioned hexpr hbody htail) ?_
  rintro ⟨condition, body⟩ ⟨_, body'⟩ ⟨rfl, hbody⟩
  refine Tracks.bind_yield (tracks_elifs hexpr hmore hword hother) fun bs bs' hbs => ?_
  refine Tracks.bind_yield halternative fun otherwise otherwise' ho => ?_
  refine Tracks.bind (tracks_close .branch _ _ _ _) fun _ _ => Tracks.pure fun A B h => ⟨?_, h⟩
  simp only [MovedNode, unplaced, show unplacedAll body = unplacedAll body' from hbody, hbs, ho]

/-- What follows the variables of a loop. -/
lemma tracks_walked (hexpr : ∀ X Y, Stays X Y expr) (hbody : Walks nodes body)
    (hotherwise : ∀ b ∈ otherwise, Walks nodes b.2) (binding : Binding) :
    Tracks (Within (loopLines body otherwise closing lines))
      (Yield MovedNode (Before [] lines))
      (do
        let _ ← expect (isKeyword .isIn) "`in`"
        let iterable ← expr
        endDirective
        let body ← nodes
        let otherwise ← alternative? nodes
        close "for" pos
        return .forEach binding iterable body otherwise pos)
      (do
        let _ ← expect (isKeyword .isIn) "`in`"
        let iterable ← expr
        endDirective
        let body ← nodes
        let otherwise ← alternative? nodes
        close "for" pos'
        return .forEach binding iterable body otherwise pos') := by
  have htail : Stops (rowsOtherwise otherwise ++
      .directive (.closing .loop) ⟨closing, []⟩ :: lines) := by
    cases otherwise with
    | none => exact .directive rfl
    | some branch => exact .directive rfl
  refine Tracks.bind (tracks_expect (byKind_isKeyword _) _) fun _ _ => ?_
  refine Tracks.bind_same (hexpr _ _) fun iterable => ?_
  refine Tracks.bind tracks_endDirective fun _ _ => ?_
  refine Tracks.bind_yield (hbody _ htail) fun body body' hbody => ?_
  refine Tracks.bind_yield (tracks_alternative? hotherwise .loop _ _) fun o o' ho => ?_
  refine Tracks.bind (tracks_close .loop _ _ _ _) fun _ _ => Tracks.pure fun A B h => ⟨?_, h⟩
  simp only [MovedNode, unplaced, show unplacedAll body = unplacedAll body' from hbody, ho]

lemma tracks_loopDirective (hexpr : ∀ X Y, Stays X Y expr) (hbody : Walks nodes body)
    (hotherwise : ∀ b ∈ otherwise, Walks nodes b.2) :
    Tracks (Within (loopLines body otherwise closing lines))
      (Yield MovedNode (Before [] lines)) (loopDirective expr nodes pos)
      (loopDirective expr nodes pos') := by
  refine Tracks.bind_same (stays_identifier _) fun first => ?_
  refine Tracks.bind_same (stays_eat (byKind_isSymbol _)) fun b => ?_
  refine Tracks.ite (Tracks.bind_same (stays_identifier _) fun second => ?_) ?_
  · exact Tracks.bind_same (Tracks.pure fun A B h => ⟨rfl, h⟩)
      (tracks_walked hexpr hbody hotherwise)
  · exact Tracks.bind_same (Tracks.pure fun A B h => ⟨rfl, h⟩)
      (tracks_walked hexpr hbody hotherwise)

/-- What follows the arguments of a directive with one body. -/
lemma tracks_enclosed (hbody : Walks nodes body) (kind : Enclosing) {f g : List Node → Node}
    (h : ∀ nodes nodes', Moved nodes nodes' → MovedNode (f nodes) (g nodes')) :
    Tracks (Within (enclosedLines kind body closing lines))
      (Yield MovedNode (Before [] lines))
      (do
        endDirective
        let body ← nodes
        close kind.name pos
        return f body)
      (do
        endDirective
        let body ← nodes
        close kind.name pos'
        return g body) := by
  refine Tracks.bind tracks_endDirective fun _ _ => ?_
  refine Tracks.bind_yield (hbody _ (.directive rfl)) fun nodes nodes' hmoved => ?_
  exact Tracks.bind (tracks_close (.enclosing kind) _ _ _ _) fun _ _ =>
    Tracks.pure fun A B hAB => ⟨h _ _ hmoved, hAB⟩

lemma stays_parameter (h : Stays X Y expr) : Stays X Y (parameter expr) := by
  refine Tracks.bind_same (stays_identifier _) fun name => ?_
  refine Tracks.bind_same (stays_eat (byKind_isSymbol _)) fun b => ?_
  refine Tracks.ite ?_ (Tracks.pure fun A B h => ⟨rfl, h⟩)
  exact Tracks.bind_same h fun value => Tracks.pure fun A B h => ⟨rfl, h⟩

lemma tracks_macroDirective (hexpr : ∀ X Y, Stays X Y expr) (hbody : Walks nodes body) :
    Tracks (Within (enclosedLines .macroDef body closing lines))
      (Yield MovedNode (Before [] lines)) (macroDirective expr nodes pos)
      (macroDirective expr nodes pos') := by
  refine Tracks.bind_same (stays_identifier _) fun name => ?_
  refine Tracks.bind (tracks_expect (byKind_isSymbol _) _) fun _ _ => ?_
  refine Tracks.bind_same (stays_commaList (stays_parameter (hexpr _ _)) _ _) fun params => ?_
  refine tracks_enclosed hbody .macroDef fun nodes nodes' hmoved => ?_
  simp only [MovedNode, unplaced, show unplacedAll nodes = unplacedAll nodes' from hmoved]

lemma tracks_callDirective (hexpr : ∀ X Y, Stays X Y expr) (hbody : Walks nodes body) :
    Tracks (Within (enclosedLines .callBlock body closing lines))
      (Yield MovedNode (Before [] lines)) (callDirective expr nodes pos)
      (callDirective expr nodes pos') := by
  refine Tracks.bind_same (hexpr _ _) fun e => ?_
  have hcalled : ∀ callee args, Tracks (Within (enclosedLines .callBlock body closing lines))
      (Yield MovedNode (Before [] lines))
      (do
        endDirective
        let body ← nodes
        close "call" pos
        return .callBlock callee args body pos)
      (do
        endDirective
        let body ← nodes
        close "call" pos'
        return .callBlock callee args body pos') := by
    intro callee args
    refine tracks_enclosed hbody .callBlock fun nodes nodes' hmoved => ?_
    simp only [MovedNode, unplaced, show unplacedAll nodes = unplacedAll nodes' from hmoved]
  split
  · exact Tracks.bind_same (Tracks.pure fun A B h => ⟨rfl, h⟩) fun r => hcalled r.1 r.2
  · exact Tracks.bind_same (Tracks.pure fun A B h => ⟨rfl, h⟩) fun r => hcalled r.1 r.2
  · exact Tracks.bind (Q := fun _ _ _ _ => False) Tracks.fail fun _ _ _ _ _ _ _ h => h.elim

lemma tracks_autoescapeDirective (hbody : Walks nodes body) :
    Tracks (Within (enclosedLines .autoescape body closing lines))
      (Yield MovedNode (Before [] lines)) (autoescapeDirective nodes pos)
      (autoescapeDirective nodes pos') := by
  have hmode : ∀ enabled, Tracks (Within (enclosedLines .autoescape body closing lines))
      (Yield MovedNode (Before [] lines))
      (do
        let _ ← eat (!isDirectiveEnd ·)
        endDirective
        let body ← nodes
        close "autoescape" pos
        return .autoescape enabled body pos)
      (do
        let _ ← eat (!isDirectiveEnd ·)
        endDirective
        let body ← nodes
        close "autoescape" pos'
        return .autoescape enabled body pos') := by
    intro enabled
    have hends : ByKind (!isDirectiveEnd ·) := by
      constructor
      · intro t u h
        unfold isDirectiveEnd
        rw [h]
      · intro t h
        rw [isDirectiveEnd_iff.mpr h]
        rfl
    refine Tracks.bind_same (stays_eat hends) fun _ => ?_
    refine tracks_enclosed hbody .autoescape fun nodes nodes' hmoved => ?_
    simp only [MovedNode, unplaced, show unplacedAll nodes = unplacedAll nodes' from hmoved]
  refine Tracks.look (fun t u htu => ?_) fun x t u htu => ?_
  · simp only [Option.bind_some, htu.left, htu.right, escapeMode?]
    exact (hmode true).of_imp fun A B => Closing.inside
  · simp only [Option.bind_some, htu.left, htu.right]
    cases escapeMode? x.kind with
    | none => exact Tracks.fail
    | some enabled => exact (hmode enabled).of_imp fun A B => Upon.inside

lemma stays_filterCall (h : Stays X Y expr) : Stays X Y (filterCall expr) := by
  refine Tracks.bind_same (stays_identifier _) fun name => ?_
  exact Tracks.bind_same (Expr.stays_arguments? h) fun args => Tracks.pure fun A B h => ⟨rfl, h⟩

/-- To look for a token takes nothing. -/
lemma peeks_ahead {k : Token → Option β} (hsame : ∀ t u : Token, t.kind = u.kind → k t = k u)
    (hends : ∀ t : Token, t.kind = .directiveEnd → k t = none) :
    Peeks X Y (return (← ahead).bind k) := by
  refine Tracks.look (fun t u htu => ?_) fun x t u htu => ?_
  · simp only [Option.bind_some, hends t htu.left, hends u htu.right]
    exact Tracks.pure fun A B h => ⟨rfl, h.inside, nofun⟩
  · simp only [Option.bind_some, hsame t u htu.kind_eq]
    exact Tracks.pure fun A B h => ⟨rfl, h.inside, fun _ => ⟨x, h⟩⟩

lemma stays_filterChain (h : Stays X Y expr) : Stays X Y (filterChain expr) := by
  refine Tracks.bind_same (stays_filterCall h) fun first => ?_
  have hpipe := byKind_isSymbol .pipe
  refine Tracks.bind_same (stays_repeatWhile (peeks_ahead (fun t u htu => ?_) fun t ht => ?_)
    fun x b t u htu => ?_) fun more => Tracks.pure fun A B h => ⟨rfl, h⟩
  · simp only [hpipe.same t u htu]
  · rw [if_neg (by simp [hpipe.ends t ht])]
  · exact Tracks.bind_same (stays_filterCall h) fun call => Tracks.pure fun A B h => ⟨rfl, h⟩

lemma tracks_filterDirective (hexpr : ∀ X Y, Stays X Y expr) (hbody : Walks nodes body) :
    Tracks (Within (enclosedLines .filterBlock body closing lines))
      (Yield MovedNode (Before [] lines)) (filterDirective expr nodes pos)
      (filterDirective expr nodes pos') := by
  refine Tracks.bind_same (stays_filterChain (hexpr _ _)) fun filters => ?_
  refine tracks_enclosed hbody .filterBlock fun nodes nodes' hmoved => ?_
  simp only [MovedNode, unplaced, show unplacedAll nodes = unplacedAll nodes' from hmoved]

lemma stays_bindings (h : Stays X Y expr) : Stays X Y (bindings expr) := by
  refine stays_repeatWhile (peeks_ahead (fun t u htu => ?_) fun t ht => ?_) fun x name t u htu => ?_
  · unfold Token.name?
    rw [htu]
  · exact name?_of_kind ht
  · refine Tracks.bind (tracks_expect (byKind_isSymbol _) _) fun _ _ => ?_
    refine Tracks.bind_same h fun value => ?_
    refine Tracks.bind_same (stays_eat (byKind_isSymbol _)) fun b => ?_
    exact Tracks.pure fun A B h => ⟨rfl, h⟩

lemma tracks_scopeDirective (hexpr : ∀ X Y, Stays X Y expr) (hbody : Walks nodes body) :
    Tracks (Within (enclosedLines .scope body closing lines))
      (Yield MovedNode (Before [] lines)) (scopeDirective expr nodes pos)
      (scopeDirective expr nodes pos') := by
  refine Tracks.bind_same (stays_bindings (hexpr _ _)) fun names => ?_
  refine tracks_enclosed hbody .scope fun nodes nodes' hmoved => ?_
  simp only [MovedNode, unplaced, show unplacedAll nodes = unplacedAll nodes' from hmoved]

end Node

end Stencil
