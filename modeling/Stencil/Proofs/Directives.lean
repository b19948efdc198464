import Mathlib.Data.List.Forall2
import Stencil.Proofs.Grouped
import Stencil.Proofs.Headings

/-! Directives as the parser meets them at the boundaries of constructs: their names, what they hold
up to their ends, and closers that are read alike though they differ behind their names. -/
namespace Stencil.Node

open Stencil.Parser

/-! ### Directives and their names -/

/-- A directive that begins with a name. -/
structure Directive where
  start : Token
  word : Token
  args : List Token
  stop : Token
  name : String
  isStart : start.kind = .directiveStart
  isWord : word.kind = .ident name
  inner : Inner args
  isStop : stop.kind = .directiveEnd

def Directive.tokens (x : Directive) : List Token := x.start :: x.word :: (x.args ++ [x.stop])

/-- The name that a construct begins with, if it is a directive with a name. -/
def directiveName? : List Token → Option String
  | ⟨.directiveStart, _, _, _⟩ :: t :: _ => t.name?
  | _ => none

/-- The name of the directive that is next. -/
def leading (cs : List (List Token)) : Option String := cs.head?.bind directiveName?

/-- The parser of nodes goes no further. -/
def Stopped (d : Dialect) (cs : List (List Token)) : Prop :=
  cs = [] ∨ ∃ name, leading cs = some name ∧ isTerminator d name = true

namespace Directive

variable (x : Directive) {cs : List (List Token)}

lemma name?_word : x.word.name? = some x.name := by
  rw [Token.name?, x.isWord]

lemma flatten_cons :
    (x.tokens :: cs).flatten = x.start :: x.word :: (x.args ++ x.stop :: cs.flatten) := by
  simp [tokens]

lemma directiveName?_tokens : directiveName? x.tokens = some x.name := by
  obtain ⟨⟨kind, lexeme, offset, pos⟩, word, args, stop, name, hstart, hword, -, -⟩ := x
  obtain rfl : kind = .directiveStart := hstart
  change word.name? = some name
  rw [Token.name?, hword]

lemma isDirective_tokens : IsDirective x.tokens := by
  refine ⟨x.start, x.word :: x.args, x.stop, rfl, x.isStart, ?_, x.isStop⟩
  exact List.forall_mem_cons.mpr ⟨by rw [Token.isInner, x.isWord], x.inner⟩

lemma tokens_injective {x y : Directive} (h : x.tokens = y.tokens) : x = y := by
  obtain ⟨start, word, args, stop, name, hstart, hword, hinner, hstop⟩ := x
  obtain ⟨start', word', args', stop', name', hstart', hword', hinner', hstop'⟩ := y
  obtain ⟨rfl, h⟩ := List.cons.inj h
  obtain ⟨rfl, h⟩ := List.cons.inj h
  obtain ⟨rfl, h⟩ := List.append_inj' h rfl
  obtain rfl := List.singleton_inj.mp h
  obtain rfl : name = name' := Token.Kind.ident.inj (hword.symm.trans hword')
  rfl

/-- The same directive with other tokens behind its name. -/
def withArgs {args : List Token} (hargs : Inner args) : Directive := { x with args, inner := hargs }

end Directive

variable {d : Dialect} {c : List Token} {cs : List (List Token)} {name : String}

lemma directiveName?_of_isTag (h : IsTag name c) : directiveName? c = some name := by
  obtain ⟨⟨kind, lexeme, offset, pos⟩, word, stop, rfl, hstart, hword, -⟩ := h
  cases hstart
  change word.name? = some name
  rw [Token.name?, hword]

lemma directiveName?_singleton (t : Token) : directiveName? [t] = none := by
  obtain ⟨kind, lexeme, offset, pos⟩ := t
  cases kind <;> rfl

lemma directiveName?_of_print {start : Token} {ts : List Token} (h : start.kind = .printStart) :
    directiveName? (start :: ts) = none := by
  obtain ⟨kind, lexeme, offset, pos⟩ := start
  cases h
  rfl

lemma exists_directive (h : IsDirective c) (hname : directiveName? c = some name) :
    ∃ x : Directive, x.tokens = c ∧ x.name = name := by
  obtain ⟨⟨kind, lexeme, offset, pos⟩, inner, stop, rfl, hstart, hinner, hstop⟩ := h
  obtain rfl : kind = .directiveStart := hstart
  cases inner with
  | nil =>
    change stop.name? = some name at hname
    rw [Token.name?, hstop] at hname
    cases hname
  | cons t inner =>
    change t.name? = some name at hname
    unfold Token.name? at hname
    split at hname
    · rename_i ht
      obtain rfl := Option.some.inj hname
      exact ⟨⟨_, t, inner, stop, _, rfl, ht, (List.forall_mem_cons.mp hinner).2, hstop⟩, rfl, rfl⟩
    · cases hname

/-- A construct with a name is a directive. -/
lemma exists_directive_of_grouped (h : Grouped d (c :: cs)) (hname : directiveName? c = some name) :
    ∃ x : Directive, x.tokens = c ∧ x.name = name := by
  obtain ⟨t, rfl, -⟩ | ⟨start, inner, stop, rfl, hstart, -⟩ | ⟨hc, -⟩ := h.head
  · cases (directiveName?_singleton t).symm.trans hname
  · cases (directiveName?_of_print hstart).symm.trans hname
  · exact exists_directive hc hname

/-! ### Names of closers -/

lemma isTerminator_closer (d : Dialect) (construct : String) :
    isTerminator d (closer d construct) = true := by
  cases d with
  | native => rfl
  | jinja => simp [isTerminator, closer]

lemma isTerminator_elif (d : Dialect) : isTerminator d "elif" = true := by
  cases d <;> rfl

lemma isTerminator_else (d : Dialect) : isTerminator d "else" = true := by
  cases d <;> rfl

lemma closer_ne (d : Dialect) (construct : String) :
    closer d construct ≠ "elif" ∧ closer d construct ≠ "else" := by
  cases d with
  | native =>
    change "end" ≠ "elif" ∧ "end" ≠ "else"
    decide
  | jinja =>
    have hsecond : (closer .jinja construct).toList[1]? = some 'n' := by simp [closer]
    refine ⟨fun h => ?_, fun h => ?_⟩
    all_goals
      rw [h] at hsecond
      revert hsecond
      decide

/-! ### The contents of constructs -/

/-- The expression of an interpolation, through its end. -/
def interpolated (expr : Parser Expr) : Parser Expr := do
  let e ← expr
  let _ ← expect isPrintEnd "end of interpolation"
  return e

/-- A condition, through the end of its directive. -/
def condition (expr : Parser Expr) : Parser Expr := do
  let e ← expr
  endDirective
  return e

/-- What may stand behind the name of a closer, through its end. -/
def closing (d : Dialect) (construct : String) : Parser Unit := do
  if d = .jinja ∧ (construct = "block" ∨ construct = "macro") then
    let _ ← eat (·.name?.isSome)
  endDirective

/-- Up to `stop` the parser reads all tokens. -/
def Accepts {α : Type} (p : Parser α) (ts : List Token) (stop : Token) (a : α) : Prop :=
  ∀ s more, p.outcome s (ts ++ stop :: more) = .ok (a, more)

/-- The parser fails before it is through `stop`. -/
def Refuses {α : Type} (p : Parser α) (ts : List Token) (stop : Token) (e : ParseError) : Prop :=
  e.isAtEnd = false ∧ ∀ s more, p.outcome s (ts ++ stop :: more) = .error (.parse e)

/-! ### Closers that are read alike -/

/-- The constructs are the same, or closers with the same name that the parser reads through their
ends, whatever stands there. -/
inductive Alike (d : Dialect) : List Token → List Token → Prop
  | same (c : List Token) : Alike d c c
  | closer {construct : String} (x : Directive) {args : List Token} (hargs : Inner args)
      (hx : x.name = Node.closer d construct)
      (hread : Accepts (closing d construct) x.args x.stop ())
      (hread' : Accepts (closing d construct) args x.stop ()) :
      Alike d x.tokens (x.withArgs hargs).tokens

/-- What a closer may repeat depends on its name only. -/
lemma closing_congr {construct construct' : String}
    (h : closer d construct = closer d construct') :
    closing d construct = closing d construct' := by
  cases d with
  | native => rfl
  | jinja =>
    have hconstruct : construct = construct' := by simpa [closer] using h
    rw [hconstruct]

namespace Alike

variable {c' : List Token} {us : List (List Token)}

lemma directiveName?_eq (h : Alike d c c') : directiveName? c' = directiveName? c := by
  cases h with
  | same => rfl
  | closer x hargs => rw [x.directiveName?_tokens, (x.withArgs hargs).directiveName?_tokens]; rfl

/-- Only closers may differ. -/
lemma eq_of_ne_closer (h : Alike d c c')
    (hc : ∀ construct, directiveName? c ≠ some (Node.closer d construct)) : c' = c := by
  cases h with
  | same => rfl
  | closer x hargs hx => exact absurd (x.directiveName?_tokens.trans (congrArg some hx)) (hc _)

lemma eq_of_nameless (h : Alike d c c') (hc : directiveName? c = none) : c' = c :=
  h.eq_of_ne_closer fun construct hclose => by cases hc.symm.trans hclose

lemma eq_of_branch (h : Alike d c c') (hname : directiveName? c = some name)
    (hbranch : name = "elif" ∨ name = "else") : c' = c := by
  refine h.eq_of_ne_closer fun construct hclose => ?_
  obtain rfl := Option.some.inj (hname.symm.trans hclose)
  exact hbranch.elim (closer_ne d construct).1 (closer_ne d construct).2

/-- A construct like a directive has the same name and may have other arguments. -/
lemma exists_args {x : Directive} (h : Alike d x.tokens c') :
    ∃ (args : List Token) (hargs : Inner args), c' = (x.withArgs hargs).tokens ∧
      (args = x.args ∨ ∀ construct, x.name = Node.closer d construct →
        Accepts (closing d construct) x.args x.stop () ∧
          Accepts (closing d construct) args x.stop ()) := by
  generalize hx : x.tokens = c at h
  cases h with
  | same => exact ⟨x.args, x.inner, hx.symm, .inl rfl⟩
  | @closer construct y args hargs hname hread hread' =>
    obtain rfl := Directive.tokens_injective hx
    refine ⟨args, hargs, rfl, .inr fun construct' hname' => ?_⟩
    rw [← closing_congr (hname.symm.trans hname')]
    exact ⟨hread, hread'⟩

end Alike

/-- Constructs that are alike one by one. -/
abbrev AllAlike (d : Dialect) : List (List Token) → List (List Token) → Prop :=
  List.Forall₂ (Alike d)

namespace AllAlike

variable {us : List (List Token)}

lemma refl (cs : List (List Token)) : AllAlike d cs cs :=
  List.forall₂_same.mpr fun c _ => .same c

lemma leading_eq (h : AllAlike d cs us) : leading us = leading cs := by
  cases h with
  | nil => rfl
  | cons hc => exact hc.directiveName?_eq

/-- A construct at which the parser of nodes does not stop is not a closer. -/
lemma exists_same (h : AllAlike d (c :: cs) us) (hstopped : ¬ Stopped d (c :: cs)) :
    ∃ us', us = c :: us' ∧ AllAlike d cs us' := by
  obtain ⟨c', us', hc, hcs, rfl⟩ := List.forall₂_cons_left_iff.mp h
  obtain rfl := hc.eq_of_ne_closer fun construct hclose =>
    hstopped (.inr ⟨_, hclose, isTerminator_closer d construct⟩)
  exact ⟨us', rfl, hcs⟩

lemma exists_branch {x : Directive} (h : AllAlike d (x.tokens :: cs) us)
    (hx : x.name = "elif" ∨ x.name = "else") : ∃ us', us = x.tokens :: us' ∧ AllAlike d cs us' := by
  obtain ⟨c', us', hc, hcs, rfl⟩ := List.forall₂_cons_left_iff.mp h
  obtain rfl := hc.eq_of_branch x.directiveName?_tokens hx
  exact ⟨us', rfl, hcs⟩

lemma exists_args {x : Directive} (h : AllAlike d (x.tokens :: cs) us) :
    ∃ (args : List Token) (hargs : Inner args) (us' : List (List Token)),
      us = (x.withArgs hargs).tokens :: us' ∧ AllAlike d cs us' ∧
        (args = x.args ∨ ∀ construct, x.name = Node.closer d construct →
          Accepts (closing d construct) x.args x.stop () ∧
            Accepts (closing d construct) args x.stop ()) := by
  obtain ⟨c', us', hc, hcs, rfl⟩ := List.forall₂_cons_left_iff.mp h
  obtain ⟨args, hargs, rfl, hread⟩ := hc.exists_args
  exact ⟨args, hargs, us', rfl, hcs, hread⟩

end AllAlike

/-! ### What is next at a boundary -/

lemma exists_of_leading (hcs : Grouped d cs) (h : leading cs = some name) :
    ∃ (x : Directive) (cs' : List (List Token)), cs = x.tokens :: cs' ∧ x.name = name := by
  cases cs with
  | nil => cases h
  | cons c cs =>
    obtain ⟨x, rfl, hx⟩ := exists_directive_of_grouped hcs h
    exact ⟨x, cs, rfl, hx⟩

/-- A piece, an interpolation or a directive. -/
def IsConstruct (c : List Token) : Prop :=
  (∃ t : Token, c = [t] ∧ t.IsPiece) ∨ IsPrint c ∨ IsDirective c

lemma Grouped.isConstruct (h : Grouped d (c :: cs)) : IsConstruct c :=
  h.head.imp_right (Or.imp_right And.left)

lemma Grouped.exists_cons (h : Grouped d (c :: cs)) : ∃ t ts, c = t :: ts := by
  obtain ⟨t, rfl, -⟩ | ⟨t, inner, stop, rfl, -⟩ | ⟨t, inner, stop, rfl, -⟩ := isConstruct h
  · exact ⟨t, [], rfl⟩
  · exact ⟨t, _, rfl⟩
  · exact ⟨t, _, rfl⟩

lemma Alike.isConstruct {c' : List Token} (h : Alike d c c') (hc : IsConstruct c) :
    IsConstruct c' := by
  cases h with
  | same => exact hc
  | closer x hargs => exact .inr (.inr (x.withArgs hargs).isDirective_tokens)

section Sees

variable {s : Source} {ds : List (List Token)}

/-- What a parser finds ahead of constructs that are alike and takes nothing of, unless it meets the
fault of the text. -/
inductive Sees {α : Type} (s : Source) (p : Parser α) (a : α) (cs ds : List (List Token)) : Prop
  | fault {e : LexError} (he : s.fault = some e) (hp : p.outcome s cs.flatten = .error (.ofLex e))
      (hq : p.outcome s ds.flatten = .error (.ofLex e))
  | here (hp : p.outcome s cs.flatten = .ok (a, cs.flatten))
      (hq : p.outcome s ds.flatten = .ok (a, ds.flatten))

lemma Sees.pure {α β : Type} {p : Parser α} {f : α → Parser β} {a : α} {b : β}
    (h : Sees s p a cs ds) (hf : ∀ ts, (f a).outcome s ts = .ok (b, ts)) :
    Sees s (p >>= f) b cs ds := by
  cases h with
  | fault he hp hq => exact .fault he (outcome_bind_error hp f) (outcome_bind_error hq f)
  | here hp hq =>
    exact .here ((outcome_bind_ok hp f).trans (hf _)) ((outcome_bind_ok hq f).trans (hf _))

lemma outcome_directiveAhead (h : IsConstruct c) :
    directiveAhead.outcome s (c :: cs).flatten = .ok (leading (c :: cs), (c :: cs).flatten) := by
  obtain ⟨t, rfl, ht⟩ | hc | hc := h
  · obtain ⟨kind, lexeme, offset, pos⟩ := t
    obtain ⟨content, ht⟩ | ht := ht
    · cases ht
      rfl
    · cases ht
      rfl
  · obtain ⟨⟨kind, lexeme, offset, pos⟩, inner, stop, rfl, hstart, -⟩ := hc
    cases hstart
    cases inner <;> rfl
  · obtain ⟨⟨kind, lexeme, offset, pos⟩, inner, stop, rfl, hstart, -⟩ := hc
    cases hstart
    cases inner <;> rfl

lemma outcome_directiveAhead_nil :
    directiveAhead.outcome s [] =
      (s.fault.elim (.ok (none, [])) fun e => .error (.ofLex e)) := by
  unfold directiveAhead
  rw [outcome_bind, outcome_ahead_nil]
  cases s.fault <;> rfl

lemma sees_directiveAhead (h : Grouped d cs) (hds : AllAlike d cs ds) :
    Sees s directiveAhead (leading cs) cs ds := by
  cases hds with
  | nil =>
    have hread := outcome_directiveAhead_nil (s := s)
    cases hfault : s.fault with
    | some e =>
      rw [hfault] at hread
      exact .fault hfault hread hread
    | none =>
      rw [hfault] at hread
      exact .here hread hread
  | cons hc hcs =>
    have hconstruct := Grouped.isConstruct h
    refine .here (outcome_directiveAhead hconstruct) ?_
    rw [← AllAlike.leading_eq (.cons hc hcs)]
    exact outcome_directiveAhead (hc.isConstruct hconstruct)

lemma sees_directiveIs (h : Grouped d cs) (hds : AllAlike d cs ds) (name : String) :
    Sees s (directiveIs name) (if leading cs = some name then some () else none) cs ds :=
  (sees_directiveAhead h hds).pure fun _ => rfl

lemma sees_nodeAhead_nil : Sees s nodeAhead none [] [] := by
  cases hfault : s.fault with
  | some e =>
    have hread : nodeAhead.outcome s [] = .error (.ofLex e) :=
      outcome_bind_error (by rw [outcome_directiveAhead_nil, hfault]; rfl) _
    exact .fault hfault hread hread
  | none =>
    have hname : directiveAhead.outcome s [] = .ok (none, []) := by
      rw [outcome_directiveAhead_nil, hfault]
      rfl
    have hahead : ahead.outcome s [] = .ok (none, []) := by
      rw [outcome_ahead_nil, hfault]
      rfl
    have hread : nodeAhead.outcome s [] = .ok (none, []) :=
      (outcome_bind_ok hname _).trans (outcome_bind_ok hahead _)
    exact .here hread hread

/-- Another node begins unless the parser of nodes goes no further. -/
lemma sees_nodeAhead (h : Grouped s.dialect cs) (hds : AllAlike s.dialect cs ds) :
    (Stopped s.dialect cs ∧ Sees s nodeAhead none cs ds) ∨
    (cs ≠ [] ∧ ¬ Stopped s.dialect cs ∧ Sees s nodeAhead (some ()) cs ds) := by
  have hsees := sees_directiveAhead (s := s) h hds
  cases hname : leading cs with
  | some name =>
    rw [hname] at hsees
    have hread : ∀ ts, (dialect >>= fun d => Pure.pure
        (if isTerminator d name then none else some ())).outcome s ts = .ok
          (if isTerminator s.dialect name then none else some (), ts) := fun _ => rfl
    cases hterminator : isTerminator s.dialect name with
    | true =>
      rw [hterminator, if_pos rfl] at hread
      exact .inl ⟨.inr ⟨name, hname, hterminator⟩, hsees.pure hread⟩
    | false =>
      rw [hterminator, if_neg Bool.false_ne_true] at hread
      refine .inr ⟨?_, ?_, hsees.pure hread⟩
      · rintro rfl
        cases hname
      · rintro (rfl | ⟨name', hname', hterminator'⟩)
        · cases hname
        · cases hname.symm.trans hname'
          cases hterminator.symm.trans hterminator'
  | none =>
    rw [hname] at hsees
    cases hds with
    | nil => exact .inl ⟨.inl rfl, sees_nodeAhead_nil⟩
    | cons hc hcs =>
      -- A construct without a name is the same on both sides, so its first token is.
      obtain ⟨t, ts, rfl⟩ := Grouped.exists_cons h
      obtain rfl := hc.eq_of_nameless hname
      refine .inr ⟨List.cons_ne_nil _ _, ?_, ?_⟩
      · rintro (hnil | ⟨name, hname', -⟩)
        · cases hnil
        · cases hname.symm.trans hname'
      · cases hsees with
        | fault he hp hq => exact .fault he (outcome_bind_error hp _) (outcome_bind_error hq _)
        | here hp hq => exact .here (outcome_bind_ok hp _) (outcome_bind_ok hq _)

/-- There is no literal text where a directive begins. -/
lemma outcome_rawText (hc : IsDirective c) :
    rawText.outcome s (c :: cs).flatten = .ok ("", (c :: cs).flatten) := by
  obtain ⟨⟨kind, lexeme, offset, pos⟩, inner, stop, rfl, hstart, -⟩ := hc
  cases hstart
  rfl

end Sees

/-! ### Closers -/

section Closers

variable {s : Source}

/-- Takes a closer like `close`, but does as `refuse` says if it does not begin with the start of a
directive. -/
def closeAsserting (refuse : Token → Parser Unit) (construct : String) (opened : Position) :
    Parser Unit := do
  let d ← dialect
  let expected := closer d construct
  match ← next? with
  | none => fail (.unclosed construct (spelled d expected) opened)
  | some start => do
    let (found, pos) ← identifierAt "closing directive"
    if found ≠ expected then fail (.mismatchedCloser (spelled d expected) (spelled d found) pos)
    else
      if d = .jinja ∧ (construct = "block" ∨ construct = "macro") then
        let _ ← eat (·.name?.isSome)
      match start.kind with
      | .directiveStart => endDirective
      | _ => refuse start

variable {construct : String} {pos : Position} {refuse : Token → Parser Unit}

lemma outcome_close_nil : (close construct pos).outcome s [] = .error (s.fault.elim
    (.parse (.unclosed construct (spelled s.dialect (closer s.dialect construct)) pos))
    .ofLex) := by
  unfold close
  rw [outcome_bind_ok outcome_dialect, outcome_bind, outcome_next?_nil]
  cases s.fault <;> rfl

lemma outcome_closeAsserting_nil : (closeAsserting refuse construct pos).outcome s [] =
    .error (s.fault.elim
      (.parse (.unclosed construct (spelled s.dialect (closer s.dialect construct)) pos))
      .ofLex) := by
  unfold closeAsserting
  rw [outcome_bind_ok outcome_dialect, outcome_bind, outcome_next?_nil]
  cases s.fault <;> rfl

lemma outcome_close_cons (x : Directive) (ts : List Token) :
    (close construct pos).outcome s (x.start :: x.word :: ts) =
      if x.name ≠ closer s.dialect construct then
        .error (.parse (.mismatchedCloser (spelled s.dialect (closer s.dialect construct))
          (spelled s.dialect x.name) x.word.pos))
      else (closing s.dialect construct).outcome s ts := by
  have hat : (identifierAt "closing directive").outcome s (x.word :: ts) =
      .ok ((x.name, x.word.pos), ts) := by
    refine (outcome_bind_ok outcome_next_cons _).trans ?_
    rw [x.name?_word]
    rfl
  unfold close
  rw [outcome_bind_ok outcome_dialect, outcome_bind_ok outcome_next?_cons, outcome_bind_ok hat]
  dsimp only
  split
  · rfl
  · unfold closing
    rfl

/-- The assertion holds of the start of a directive. -/
lemma outcome_closeAsserting_cons (x : Directive) (ts : List Token) :
    (closeAsserting refuse construct pos).outcome s (x.start :: x.word :: ts) =
      (close construct pos).outcome s (x.start :: x.word :: ts) := by
  unfold closeAsserting close
  rw [outcome_bind_ok outcome_dialect, outcome_bind_ok outcome_dialect,
    outcome_bind_ok outcome_next?_cons, outcome_bind_ok outcome_next?_cons]
  simp only [x.isStart]

lemma closes_closing {stop : Token} (hstop : stop.kind = .directiveEnd) :
    Closes stop Inner (closing d construct) := by
  have hname : stop.name?.isSome = false := by rw [name?_of_ends (.inr hstop)]; rfl
  unfold closing
  split
  · exact (bounded_eat (p := (·.name?.isSome)) hname).before fun _ => closes_endDirective hstop
  · exact closes_endDirective hstop

lemma closes_condition {stop : Token} (hstop : stop.kind = .directiveEnd) (n : Nat) :
    Closes stop Inner (condition (Expr.parser n)) :=
  (Expr.bounded_all (.inr hstop) n).before fun e => (closes_endDirective hstop).map e

lemma closes_interpolated {stop : Token} (hstop : stop.kind = .printEnd) (n : Nat) :
    Closes stop Inner (interpolated (Expr.parser n)) := by
  refine (Expr.bounded_all (.inl hstop) n).before fun e => Closes.map ?_ e
  refine closes_expect (by rw [isPrintEnd, hstop]) fun t ht => ?_
  unfold isPrintEnd
  split
  · rename_i hkind
    rw [Token.isInner, hkind] at ht
    cases ht
  · rfl

/-! ### Names and headings -/

lemma outcome_identifier {t : Token} {expected : String} {ts : List Token}
    (ht : t.name? = some name) :
    (identifier expected).outcome s (t :: ts) = .ok (name, ts) := by
  have hat : (identifierAt expected).outcome s (t :: ts) = .ok ((name, t.pos), ts) := by
    refine (outcome_bind_ok outcome_next_cons _).trans ?_
    rw [ht]
    rfl
  exact outcome_bind_ok hat _

lemma outcome_identifier_error {t : Token} {expected : String} {ts : List Token}
    (ht : t.name? = none) : (identifier expected).outcome s (t :: ts) =
      .error (.parse (.unexpectedToken expected t.kind.describe t.pos)) := by
  refine outcome_bind_error ((outcome_bind_ok outcome_next_cons _).trans ?_) _
  rw [ht]
  rfl

lemma refuses_of_nameless {start : Token} {ts : List Token} (hc : IsDirective (start :: ts))
    (hname : directiveName? (start :: ts) = none) :
    ∃ e : ParseError, e.isAtEnd = false ∧ ∀ s more,
      (identifier "directive name").outcome s (ts ++ more) = .error (.parse e) := by
  obtain ⟨⟨kind, lexeme, offset, pos⟩, inner, stop, hts, hstart, -⟩ := hc
  obtain ⟨t, us, hus⟩ := List.exists_cons_of_ne_nil (List.append_ne_nil_of_right_ne_nil inner
    (List.cons_ne_nil stop []))
  obtain ⟨rfl, rfl⟩ := List.cons.inj hts
  cases hstart
  rw [hus] at hname ⊢
  have ht : t.name? = none := hname
  exact ⟨_, rfl, fun s more => outcome_identifier_error ht⟩

lemma of_accepts {expr : Parser Expr} {ts : List Token} {stop : Token} {made : Opening}
    (h : Accepts (heading expr pos name) ts stop made) : made.Of name := by
  obtain ⟨hrest, hread⟩ := outcome_eq_ok (h ⟨.native, none, .start⟩ [])
  exact gives_heading expr pos name hread

/-- Before literal text nothing but its word stands. -/
lemma isTag_of_accepts {expr : Parser Expr} {x : Directive}
    (h : Accepts (heading expr pos x.name) x.args x.stop .raw) : IsTag "raw" x.tokens := by
  have hname : x.name = "raw" := of_accepts h
  obtain ⟨start, word, args, stop, name, hstart, hword, hinner, hstop⟩ := x
  obtain rfl : name = "raw" := hname
  cases args with
  | nil => exact ⟨start, word, stop, rfl, hstart, hword, hstop⟩
  | cons t args =>
    have ht : isDirectiveEnd t = false := not_isDirectiveEnd (List.forall_mem_cons.mp hinner).1
    have hread : (heading expr pos "raw").outcome ⟨.native, none, .start⟩ (t :: args ++ [stop]) =
        .error (.parse (.unexpectedToken "end of directive" t.kind.describe t.pos)) := by
      refine outcome_bind_error (outcome_bind_error ?_ _) _
      refine (outcome_bind_ok outcome_next_cons _).trans ?_
      rw [ht]
      rfl
    cases hread.symm.trans (h _ _)

end Closers

end Stencil.Node
