import Stencil.Proofs.Directives

/-! The course of a parse. The parser goes from one boundary of constructs to the next. What is
known of the constructs ahead while some directives are open has to be kept by each of them, and to
account for each error; then it holds where the parser stops, or the error is accounted for. Two
parsers that take closers in different ways are followed side by side, over constructs that may
differ in what closers repeat. -/
namespace Stencil.Node

open Stencil.Parser

variable {d : Dialect} {c : List Token} {cs : List (List Token)} {name : String}

/-! ### What is known along the way -/

/-- A directive that is open, and whether its last part has begun, behind which only its closer may
stand. -/
structure Frame where
  construct : String
  pos : Position
  ended : Bool

/-- The construct that a heading opens. -/
def Opening.construct? : Opening → Option String
  | .alone _ => none
  | .enclosing construct _ => some construct
  | .raw => some "raw"
  | .loop _ => some "for"
  | .branch _ => some "if"

/-- What a heading leaves open. -/
def Opening.frames (pos : Position) (made : Opening) : List Frame :=
  made.construct?.toList.map (⟨·, pos, false⟩)

/-- What holds of the constructs ahead while some directives are open, and the errors that are
accounted for: what the parser does at a boundary keeps the one and gives only the other. -/
structure Course (s : Source) (At : List Frame → List (List Token) → Prop)
    (E : SyntaxError → Prop) : Prop where
  grouped {F cs} (h : At F cs) : Grouped s.dialect cs
  fault {e} (h : s.fault = some e) : E (.ofLex e)
  tooDeep (pos : Position) : E (.parse (.tooDeep maxNesting pos))
  piece {F t cs} (h : At F ([t] :: cs)) (ht : t.IsPiece) : At F cs
  print {F start inner stop cs} (h : At F ((start :: (inner ++ [stop])) :: cs))
    (hstart : start.kind = .printStart) (n : Nat) :
    At F cs ∧ ∀ e, Refuses (interpolated (Expr.parser n)) inner stop e → E (.parse e)
  nameless {F c cs} (h : At F (c :: cs)) (hc : IsDirective c) (hname : directiveName? c = none)
    {e : ParseError} (he : e.isAtEnd = false) : E (.parse e)
  heading {F} {x : Directive} {cs} (h : At F (x.tokens :: cs))
    (hx : isTerminator s.dialect x.name = false) (n : Nat) :
    (∀ made, Accepts (heading (Expr.parser n) x.start.pos x.name) x.args x.stop made →
      At (made.frames x.start.pos ++ F) cs) ∧
    ∀ e, Refuses (heading (Expr.parser n) x.start.pos x.name) x.args x.stop e → E (.parse e)
  elif {F pos} {x : Directive} {cs} (h : At (⟨"if", pos, false⟩ :: F) (x.tokens :: cs))
    (hx : x.name = "elif") (n : Nat) :
    At (⟨"if", pos, false⟩ :: F) cs ∧
    ∀ e, Refuses (condition (Expr.parser n)) x.args x.stop e → E (.parse e)
  otherwise {F construct pos} {x : Directive} {cs}
    (h : At (⟨construct, pos, false⟩ :: F) (x.tokens :: cs))
    (hconstruct : construct = "if" ∨ construct = "for") (hx : x.name = "else") :
    At (⟨construct, pos, true⟩ :: F) cs ∧
    ∀ e, Refuses endDirective x.args x.stop e → E (.parse e)
  /-- Nothing but the closer may follow. -/
  ended {F construct pos cs} (h : At (⟨construct, pos, false⟩ :: F) cs)
    (hstopped : Stopped s.dialect cs)
    (helse : construct = "if" ∨ construct = "for" → leading cs ≠ some "else")
    (helif : construct = "if" → leading cs ≠ some "elif") : At (⟨construct, pos, true⟩ :: F) cs
  unclosed {F construct pos} (h : At (⟨construct, pos, true⟩ :: F) []) (hfault : s.fault = none) :
    E (.parse (.unclosed construct (spelled s.dialect (closer s.dialect construct)) pos))
  mismatched {F construct pos} {x : Directive} {cs}
    (h : At (⟨construct, pos, true⟩ :: F) (x.tokens :: cs))
    (hx : isTerminator s.dialect x.name = true) (hne : x.name ≠ closer s.dialect construct) :
    E (.parse (.mismatchedCloser (spelled s.dialect (closer s.dialect construct))
      (spelled s.dialect x.name) x.word.pos))
  closed {F construct pos} {x : Directive} {cs}
    (h : At (⟨construct, pos, true⟩ :: F) (x.tokens :: cs))
    (hx : x.name = closer s.dialect construct) :
    At F cs ∧ ∀ e, Refuses (closing s.dialect construct) x.args x.stop e → E (.parse e)
  stray {x : Directive} {cs} (h : At [] (x.tokens :: cs))
    (hx : isTerminator s.dialect x.name = true) :
    E (.parse (.strayCloser (spelled s.dialect x.name) x.start.pos))

/-! ### Two parsers from boundary to boundary -/

section Reads

variable {α β γ : Type} {s : Source} {E : SyntaxError → Prop}
  {Q : α → List (List Token) → Prop} {R : β → List (List Token) → Prop}

/-- The two parsers do the same: they stop where the constructs ahead are alike and are as `Q` says,
or fail with an error as `E` says. -/
inductive Reads (s : Source) (E : SyntaxError → Prop) (Q : α → List (List Token) → Prop)
    (p q : Parser α) (ts us : List Token) : Prop
  | ok (a : α) {cs ds : List (List Token)} (hQ : Q a cs) (hds : AllAlike s.dialect cs ds)
      (hp : p.outcome s ts = .ok (a, cs.flatten)) (hq : q.outcome s us = .ok (a, ds.flatten))
  | error {e : SyntaxError} (he : E e) (hp : p.outcome s ts = .error e)
      (hq : q.outcome s us = .error e)

namespace Reads

variable {cs ds : List (List Token)} {ts us ts' us' : List Token}

lemma pure {a : α} (h : Q a cs) (hds : AllAlike s.dialect cs ds) :
    Reads s E Q (Pure.pure a) (Pure.pure a) cs.flatten ds.flatten :=
  .ok a h hds rfl rfl

lemma of_eq {p q p' q' : Parser α} (hp : p.outcome s ts = p'.outcome s ts')
    (hq : q.outcome s us = q'.outcome s us') (h : Reads s E Q p' q' ts' us') :
    Reads s E Q p q ts us := by
  cases h with
  | error he hp' hq' => exact .error he (hp.trans hp') (hq.trans hq')
  | ok a hQ hds hp' hq' => exact .ok a hQ hds (hp.trans hp') (hq.trans hq')

lemma bind {p q : Parser α} {f g : α → Parser β} (h : Reads s E Q p q ts us)
    (hf : ∀ a cs ds, Q a cs → AllAlike s.dialect cs ds →
      Reads s E R (f a) (g a) cs.flatten ds.flatten) : Reads s E R (p >>= f) (q >>= g) ts us := by
  cases h with
  | error he hp hq => exact .error he (outcome_bind_error hp f) (outcome_bind_error hq g)
  | ok a hQ hds hp hq =>
    exact of_eq (outcome_bind_ok hp f) (outcome_bind_ok hq g) (hf a _ _ hQ hds)

/-- Behind a step that both parsers do alike. -/
lemma after {p : Parser α} {f g : α → Parser β} {a : α} (hp : p.outcome s ts = .ok (a, ts'))
    (hq : p.outcome s us = .ok (a, us')) (hf : Reads s E R (f a) (g a) ts' us') :
    Reads s E R (p >>= f) (p >>= g) ts us :=
  of_eq (outcome_bind_ok hp f) (outcome_bind_ok hq g) hf

lemma failed {p : Parser α} {f g : α → Parser β} {e : SyntaxError} (he : E e)
    (hp : p.outcome s ts = .error e) (hq : p.outcome s us = .error e) :
    Reads s E R (p >>= f) (p >>= g) ts us :=
  .error he (outcome_bind_error hp f) (outcome_bind_error hq g)

/-- Behind a look at what is ahead. -/
lemma look {p : Parser α} {f g : α → Parser β} {a : α} (h : Sees s p a cs ds)
    (hfault : ∀ {e}, s.fault = some e → E (.ofLex e))
    (hf : Reads s E R (f a) (g a) cs.flatten ds.flatten) :
    Reads s E R (p >>= f) (p >>= g) cs.flatten ds.flatten := by
  cases h with
  | fault he hp hq => exact failed (hfault he) hp hq
  | here hp hq => exact after hp hq hf

/-- Behind what a construct holds. -/
lemma finish {stop : Token} {P : List Token → Prop} {p : Parser α} {f g : α → Parser β}
    (h : Closes stop P p) (hts : P ts) (herror : ∀ e, Refuses p ts stop e → E (.parse e))
    (hok : ∀ a, Accepts p ts stop a → Reads s E R (f a) (g a) cs.flatten ds.flatten) :
    Reads s E R (p >>= f) (p >>= g) (ts ++ stop :: cs.flatten) (ts ++ stop :: ds.flatten) := by
  cases h hts with
  | error he h => exact failed (herror _ ⟨he, h⟩) (h s cs.flatten) (h s ds.flatten)
  | @ok a h => exact after (h s cs.flatten) (h s ds.flatten) (hok a h)

/-- Items are read as long as others follow. -/
lemma repeatWhile {I J : List (List Token) → Prop} {more : Parser (Option γ)}
    {item item' : γ → Token → Parser (α × Bool)}
    (hfault : ∀ {e}, s.fault = some e → E (.ofLex e))
    (h : ∀ cs ds, I cs → AllAlike s.dialect cs ds →
      (J cs ∧ Sees s more none cs ds) ∨
      ∃ b t ts us, cs.flatten = t :: ts ∧ ds.flatten = t :: us ∧ Sees s more (some b) cs ds ∧
        Reads s E (fun r cs => r.2 = true ∧ I cs) (item b t) (item' b t) ts us)
    (hcs : I cs) (hds : AllAlike s.dialect cs ds) :
    Reads s E (fun _ => J) (Parser.repeatWhile more item) (Parser.repeatWhile more item')
      cs.flatten ds.flatten := by
  induction hn : cs.flatten.length using Nat.strongRecOn generalizing cs ds with
  | ind n ih =>
  subst hn
  obtain ⟨hJ, hsees⟩ | ⟨b, t, ts, us, hts, hus, hsees, hitem⟩ := h cs ds hcs hds
  · cases hsees with
    | fault he hp hq => exact .error (hfault he) (repeatWhile_error hp) (repeatWhile_error hq)
    | here hp hq => exact .ok [] hJ hds (repeatWhile_none hp) (repeatWhile_none hq)
  · cases hsees with
    | fault he hp hq => exact .error (hfault he) (repeatWhile_error hp) (repeatWhile_error hq)
    | here hp hq =>
      rw [hts] at hp
      rw [hus] at hq
      rw [hts, hus]
      refine of_eq (repeatWhile_some hp) (repeatWhile_some hq) ?_
      cases hitem with
      | error he hp hq => exact .error he (outcome_bind_error hp _) (outcome_bind_error hq _)
      | @ok r cs' ds' hr hds' hp hq =>
        have hlt : cs'.flatten.length < cs.flatten.length := by
          rw [hts]
          exact Nat.lt_succ_of_le (suffix_of_outcome hp).length_le
        have hrest := (ih _ hlt hr.2 hds' rfl).bind (R := fun _ => J)
          (f := fun as => Pure.pure (r.1 :: as)) (g := fun as => Pure.pure (r.1 :: as))
          fun as cs ds hJ hds => pure hJ hds
        refine of_eq (outcome_bind_ok hp _) (outcome_bind_ok hq _) ?_
        rw [if_pos hr.1, if_pos hr.1]
        exact hrest

end Reads

/-! ### The course of the parser -/

section Parts

variable {construct : String} {pos : Position} {refuse : Token → Parser Unit}
  {At : List Frame → List (List Token) → Prop} (h : Course s At E) {F : List Frame}
  {ds : List (List Token)}
include h

/-- Both ways to take closers agree behind nodes, and on closers that are alike. -/
lemma Course.reads_close (hcs : At (⟨construct, pos, true⟩ :: F) cs)
    (hds : AllAlike s.dialect cs ds) (hstopped : Stopped s.dialect cs) :
    Reads s E (fun _ => At F) (closeAsserting refuse construct pos) (close construct pos)
      cs.flatten ds.flatten := by
  obtain rfl | ⟨name, hname, hterminator⟩ := hstopped
  · obtain rfl := List.forall₂_nil_left_iff.mp hds
    cases hfault : s.fault with
    | some e =>
      refine .error (h.fault hfault) (outcome_closeAsserting_nil.trans ?_)
        (outcome_close_nil.trans ?_) <;> rw [hfault] <;> rfl
    | none =>
      refine .error (h.unclosed hcs hfault) (outcome_closeAsserting_nil.trans ?_)
        (outcome_close_nil.trans ?_) <;> rw [hfault] <;> rfl
  · obtain ⟨x, cs, rfl, rfl⟩ := exists_of_leading (h.grouped hcs) hname
    obtain ⟨args, hargs, ds, rfl, hrest, hread⟩ := hds.exists_args
    rw [x.flatten_cons, (x.withArgs hargs).flatten_cons]
    refine .of_eq (outcome_closeAsserting_cons x _) rfl ?_
    by_cases hx : x.name = closer s.dialect construct
    · obtain ⟨hcs', herror⟩ := h.closed hcs hx
      have hclose : ∀ ts, (Node.close construct pos).outcome s (x.start :: x.word :: ts) =
          (closing s.dialect construct >>= fun _ => Pure.pure ()).outcome s ts := fun ts => by
        rw [outcome_close_cons, if_neg (not_not_intro hx), bind_pure_unit]
      refine .of_eq (hclose _) (hclose _) ?_
      -- Either nothing differs here, or the parser gets through both closers.
      obtain rfl | hread := hread
      · exact .finish (closes_closing x.isStop) x.inner herror fun _ _ => .pure hcs' hrest
      · obtain ⟨hp, hq⟩ := hread _ hx
        exact .after (hp s cs.flatten) (hq s ds.flatten) (.pure hcs' hrest)
    · have hclose : ∀ ts, (Node.close construct pos).outcome s (x.start :: x.word :: ts) = _ :=
        fun ts => (outcome_close_cons x ts).trans (if_pos hx)
      exact .error (h.mismatched hcs hterminator hx) (hclose _) (hclose _)

variable {nodes nodes' : Parser (List Node)}

section Nodes

variable (hnodes : ∀ {F cs ds}, At F cs → AllAlike s.dialect cs ds →
  Reads s E (fun _ cs => At F cs ∧ Stopped s.dialect cs) nodes nodes' cs.flatten ds.flatten)
include hnodes

lemma Course.reads_alternative (hcs : At (⟨construct, pos, false⟩ :: F) cs)
    (hds : AllAlike s.dialect cs ds) (hstopped : Stopped s.dialect cs)
    (hconstruct : construct = "if" ∨ construct = "for")
    (helif : construct = "if" → leading cs ≠ some "elif") :
    Reads s E (fun _ cs => At (⟨construct, pos, true⟩ :: F) cs ∧ Stopped s.dialect cs)
      (alternative? nodes) (alternative? nodes') cs.flatten ds.flatten := by
  have hsees := sees_directiveIs (s := s) (h.grouped hcs) hds "else"
  by_cases hname : leading cs = some "else"
  · rw [if_pos hname] at hsees
    refine .look hsees h.fault ?_
    obtain ⟨x, cs, rfl, hx⟩ := exists_of_leading (h.grouped hcs) hname
    obtain ⟨ds, rfl, hrest⟩ := hds.exists_branch (.inr hx)
    obtain ⟨hcs', herror⟩ := h.otherwise hcs hconstruct hx
    rw [x.flatten_cons, x.flatten_cons]
    refine .after outcome_next?_cons outcome_next?_cons ?_
    refine .after outcome_next?_cons outcome_next?_cons ?_
    refine .finish (closes_endDirective x.isStop) x.inner herror fun _ _ => ?_
    exact (hnodes hcs' hrest).bind fun body cs ds hbody hds => .pure hbody hds
  · rw [if_neg hname] at hsees
    refine .look hsees h.fault (.pure ⟨?_, hstopped⟩ hds)
    exact h.ended hcs hstopped (fun _ => hname) helif

/-- A condition with the nodes behind it. -/
lemma Course.reads_conditioned (n : Nat) (x : Directive)
    (hcs : At (⟨"if", pos, false⟩ :: F) (x.tokens :: cs)) (hds : AllAlike s.dialect cs ds)
    (hx : x.name = "elif") :
    Reads s E (fun _ cs => At (⟨"if", pos, false⟩ :: F) cs ∧ Stopped s.dialect cs)
      (conditioned (Expr.parser n) nodes) (conditioned (Expr.parser n) nodes')
      (x.args ++ x.stop :: cs.flatten) (x.args ++ x.stop :: ds.flatten) := by
  have hsplit : ∀ nodes, Node.conditioned (Expr.parser n) nodes =
      condition (Expr.parser n) >>= fun e => do return (e, ← nodes) := fun nodes => by
    simp only [Node.conditioned, condition, bind_assoc, pure_bind]
  obtain ⟨hcs', herror⟩ := h.elif hcs hx n
  rw [hsplit, hsplit]
  refine .finish (closes_condition x.isStop n) x.inner herror fun e _ => ?_
  exact (hnodes hcs' hds).bind fun body cs ds hbody hds => .pure hbody hds

lemma Course.reads_elifs (n : Nat) (hcs : At (⟨"if", pos, false⟩ :: F) cs)
    (hds : AllAlike s.dialect cs ds) (hstopped : Stopped s.dialect cs) :
    Reads s E (fun _ cs => (At (⟨"if", pos, false⟩ :: F) cs ∧ Stopped s.dialect cs) ∧
        leading cs ≠ some "elif")
      (repeatWhile (directiveIs "elif") fun _ _ => do
        let _ ← next?
        return (← Node.conditioned (Expr.parser n) nodes, true))
      (repeatWhile (directiveIs "elif") fun _ _ => do
        let _ ← next?
        return (← Node.conditioned (Expr.parser n) nodes', true)) cs.flatten ds.flatten := by
  refine Reads.repeatWhile (I := fun cs => At (⟨"if", pos, false⟩ :: F) cs ∧ Stopped s.dialect cs)
    h.fault (fun cs ds hcs hds => ?_) ⟨hcs, hstopped⟩ hds
  have hsees := sees_directiveIs (s := s) (h.grouped hcs.1) hds "elif"
  by_cases hname : leading cs = some "elif"
  · rw [if_pos hname] at hsees
    obtain ⟨x, cs, rfl, hx⟩ := exists_of_leading (h.grouped hcs.1) hname
    obtain ⟨ds, rfl, hrest⟩ := hds.exists_branch (.inl hx)
    refine .inr ⟨(), _, _, _, x.flatten_cons, x.flatten_cons, hsees, ?_⟩
    refine .after outcome_next?_cons outcome_next?_cons ?_
    exact (h.reads_conditioned hnodes n x hcs.1 hrest hx).bind
      fun r cs ds hr hds => .pure ⟨rfl, hr⟩ hds
  · rw [if_neg hname] at hsees
    exact .inl ⟨⟨hcs, hname⟩, hsees⟩

/-- What a directive encloses is read through its closer. -/
lemma Course.reads_enclosed (n : Nat) {made : Opening} (hmade : made.Of name)
    (hraw : made = .raw → RawBody s.dialect cs) (hcs : At (made.frames pos ++ F) cs)
    (hds : AllAlike s.dialect cs ds) :
    Reads s E (fun _ => At F) (enclosed (closeAsserting refuse) (Expr.parser n) nodes pos made)
      (enclosed Node.close (Expr.parser n) nodes' pos made) cs.flatten ds.flatten := by
  cases made with
  | alone node => exact .pure hcs hds
  | enclosing construct wrap =>
    refine (hnodes hcs hds).bind fun body cs ds hbody hds => ?_
    obtain ⟨rfl, -, hif, hfor⟩ := hmade
    have hended := h.ended hbody.1 hbody.2 (fun hc => absurd hc (not_or.mpr ⟨hif, hfor⟩))
      fun hc => absurd hc hif
    exact (h.reads_close hended hds hbody.2).bind fun _ cs ds hcs hds => .pure hcs hds
  | raw =>
    obtain ⟨body, c, cs, rfl, hbody, hc, -⟩ := hraw rfl
    obtain ⟨content, ds, hread, hread', hds, hcs⟩ : ∃ content ds',
        rawText.outcome s (body ++ c :: cs).flatten = .ok (content, (c :: cs).flatten) ∧
        rawText.outcome s ds.flatten = .ok (content, ds'.flatten) ∧
        AllAlike s.dialect (c :: cs) ds' ∧ At (⟨"raw", pos, false⟩ :: F) (c :: cs) := by
      obtain rfl | ⟨⟨kind, lexeme, offset, pos⟩, content, rfl, ht⟩ := hbody
      · obtain ⟨x, rfl, -⟩ := exists_directive hc.isDirective (directiveName?_of_isTag hc)
        obtain ⟨args, hargs, ds, rfl, -⟩ := hds.exists_args
        exact ⟨"", _, outcome_rawText x.isDirective_tokens,
          outcome_rawText (x.withArgs hargs).isDirective_tokens, hds, hcs⟩
      · cases ht
        obtain ⟨c', ds, htext, hrest, rfl⟩ := List.forall₂_cons_left_iff.mp hds
        obtain rfl := htext.eq_of_nameless (directiveName?_singleton _)
        exact ⟨content, ds, rfl, rfl, hrest, h.piece hcs (.inl ⟨content, rfl⟩)⟩
    have hstopped : Stopped s.dialect (c :: cs) := by
      refine .inr ⟨closer s.dialect "raw", directiveName?_of_isTag hc, ?_⟩
      exact isTerminator_closer _ _
    have hended := h.ended hcs hstopped (fun hraw => absurd hraw (by decide)) nofun
    exact .after hread hread' ((h.reads_close hended hds hstopped).bind
      fun _ cs ds hcs hds => .pure hcs hds)
  | loop wrap =>
    refine (hnodes hcs hds).bind fun body cs ds hbody hds => ?_
    refine (h.reads_alternative hnodes hbody.1 hds hbody.2 (.inr rfl) nofun).bind
      fun otherwise cs ds hrest hds => ?_
    exact (h.reads_close hrest.1 hds hrest.2).bind fun _ cs ds hcs hds => .pure hcs hds
  | branch condition =>
    refine (hnodes hcs hds).bind fun body cs ds hbody hds => ?_
    refine (h.reads_elifs hnodes n hbody.1 hds hbody.2).bind fun more cs ds hmore hds => ?_
    refine (h.reads_alternative hnodes hmore.1.1 hds hmore.1.2 (.inl rfl) fun _ => hmore.2).bind
      fun otherwise cs ds hrest hds => ?_
    exact (h.reads_close hrest.1 hds hrest.2).bind fun _ cs ds hcs hds => .pure hcs hds

/-- A directive is read from its name on through what it encloses. -/
lemma Course.reads_directive (n : Nat) {ts : List Token} {start : Token}
    (hc : IsDirective (start :: ts)) (hcs : At F ((start :: ts) :: cs))
    (hds : AllAlike s.dialect cs ds) (hstopped : ¬ Stopped s.dialect ((start :: ts) :: cs)) :
    Reads s E (fun _ => At F)
      (directiveBy (closeAsserting refuse) (Expr.parser n) nodes start.pos)
      (directiveBy Node.close (Expr.parser n) nodes' start.pos) (ts ++ cs.flatten)
      (ts ++ ds.flatten) := by
  cases hname : directiveName? (start :: ts) with
  | none =>
    obtain ⟨e, he, hread⟩ := refuses_of_nameless hc hname
    exact .failed (h.nameless hcs hc hname he) (hread s cs.flatten) (hread s ds.flatten)
  | some name =>
    obtain ⟨x, hx, rfl⟩ := exists_directive hc hname
    obtain ⟨rfl, rfl⟩ := List.cons.inj hx
    have hterminator : isTerminator s.dialect x.name = false := by
      by_contra hterminator
      exact hstopped (.inr ⟨x.name, hname, by simpa using hterminator⟩)
    obtain ⟨hmade, herror⟩ := h.heading hcs hterminator n
    have hflat : ∀ more, x.word :: (x.args ++ [x.stop]) ++ more =
        x.word :: (x.args ++ x.stop :: more) := by simp
    rw [hflat, hflat]
    refine .after (outcome_identifier x.name?_word) (outcome_identifier x.name?_word) ?_
    refine .finish (closes_heading x.isStop ?_ _ _) x.inner herror fun made haccepts => ?_
    · exact Expr.bounded_all (.inr x.isStop) n
    · refine h.reads_enclosed hnodes n (of_accepts haccepts) ?_ (hmade made haccepts) hds
      rintro rfl
      exact (h.grouped hcs).rawBody (isTag_of_accepts haccepts)

end Nodes

/-- One node from its first token on. -/
lemma Course.reads_item (n : Nat) {directive directive' : Position → Parser Node} {t : Token}
    {ts : List Token} (hcs : At F ((t :: ts) :: cs)) (hds : AllAlike s.dialect cs ds)
    (hdirective : IsDirective (t :: ts) → Reads s E (fun _ => At F) (directive t.pos)
      (directive' t.pos) (ts ++ cs.flatten) (ts ++ ds.flatten)) :
    Reads s E (fun r cs => r.2 = true ∧ At F cs) (Node.piece (Expr.parser n) directive t)
      (Node.piece (Expr.parser n) directive' t) (ts ++ cs.flatten) (ts ++ ds.flatten) := by
  unfold Node.piece
  obtain ⟨u, hu, hpiece⟩ | hprint | ⟨hc, -⟩ := (h.grouped hcs).head
  · obtain ⟨rfl, rfl⟩ := List.cons.inj hu
    have hrest := h.piece hcs hpiece
    obtain ⟨content, ht⟩ | ht := hpiece
    · rw [ht]
      exact .pure ⟨rfl, hrest⟩ hds
    · rw [ht]
      exact .pure ⟨rfl, hrest⟩ hds
  · obtain ⟨u, inner, stop, hu, hstart, hinner, hstop⟩ := hprint
    obtain ⟨rfl, rfl⟩ := List.cons.inj hu
    obtain ⟨hrest, herror⟩ := h.print hcs hstart n
    have hsplit : (do
        let e ← Expr.parser n
        let _ ← expect isPrintEnd "end of interpolation"
        return (Node.print e t.pos, true)) =
          interpolated (Expr.parser n) >>= fun e => pure (Node.print e t.pos, true) := by
      simp only [interpolated, bind_assoc, pure_bind]
    rw [hstart, List.append_assoc, List.append_assoc]
    dsimp only
    rw [hsplit]
    exact .finish (closes_interpolated hstop n) hinner herror fun e _ => .pure ⟨rfl, hrest⟩ hds
  · have hstart : t.kind = .directiveStart := by
      obtain ⟨u, inner, stop, hu, hstart, -⟩ := hc
      rw [(List.cons.inj hu).1, hstart]
    rw [hstart]
    exact (hdirective hc).bind fun node cs ds hcs hds => .pure ⟨rfl, hcs⟩ hds

/-- Nodes are read up to a boundary where the parser stops. -/
theorem Course.reads_nodes (n : Nat) (hcs : At F cs) (hds : AllAlike s.dialect cs ds) :
    Reads s E (fun _ cs => At F cs ∧ Stopped s.dialect cs) (parserBy (closeAsserting refuse) n)
      (parserBy Node.close n) cs.flatten ds.flatten := by
  have hmore : ∀ {F cs ds} {item item' : Token → Parser (Node × Bool)}, At F cs →
      AllAlike s.dialect cs ds →
      (∀ {t ts cs ds}, At F ((t :: ts) :: cs) → AllAlike s.dialect cs ds →
        ¬ Stopped s.dialect ((t :: ts) :: cs) → Reads s E (fun r cs => r.2 = true ∧ At F cs)
          (item t) (item' t) (ts ++ cs.flatten) (ts ++ ds.flatten)) →
      Reads s E (fun _ cs => At F cs ∧ Stopped s.dialect cs)
        (repeatWhile nodeAhead fun _ => item) (repeatWhile nodeAhead fun _ => item')
        cs.flatten ds.flatten := by
    intro F cs ds item item' hcs hds hitem
    refine Reads.repeatWhile (I := At F) h.fault (fun cs ds hcs hds => ?_) hcs hds
    obtain ⟨hstopped, hsees⟩ | ⟨hne, hstopped, hsees⟩ := sees_nodeAhead (h.grouped hcs) hds
    · exact .inl ⟨⟨hcs, hstopped⟩, hsees⟩
    · obtain ⟨c, cs, rfl⟩ := List.exists_cons_of_ne_nil hne
      obtain ⟨ds, rfl, hrest⟩ := hds.exists_same hstopped
      obtain ⟨t, ts, rfl⟩ := Grouped.exists_cons (h.grouped hcs)
      exact .inr ⟨(), t, _, _, rfl, rfl, hsees, hitem hcs hrest hstopped⟩
  induction n generalizing F cs ds with
  | zero =>
    refine hmore hcs hds fun hcs hds _ => h.reads_item 0 hcs hds fun hc => ?_
    obtain ⟨start, inner, stop, hts, -⟩ := hc
    obtain ⟨u, us, hus⟩ := List.exists_cons_of_ne_nil (List.append_ne_nil_of_right_ne_nil inner
      (List.cons_ne_nil stop []))
    rw [(List.cons.inj hts).2, hus]
    exact .error (h.tooDeep u.pos) rfl rfl
  | succ n ih =>
    refine hmore hcs hds fun hcs hds hstopped => h.reads_item (n + 1) hcs hds fun hc => ?_
    exact h.reads_directive ih n hc hcs hds hstopped

/-- A template is read to its end, and nothing is wrong there. -/
theorem Course.reads_template (hcs : At [] cs) (hds : AllAlike s.dialect cs ds) :
    Reads s E (fun _ _ => At [] [] ∧ s.fault = none) (templateBy (closeAsserting refuse))
      (templateBy Node.close) cs.flatten ds.flatten := by
  refine (h.reads_nodes maxNesting hcs hds).bind fun nodes cs ds hcs hds => ?_
  obtain rfl | ⟨name, hname, hterminator⟩ := hcs.2
  · obtain rfl := List.forall₂_nil_left_iff.mp hds
    have hread := outcome_next?_nil (s := s)
    cases hfault : s.fault with
    | some e =>
      rw [hfault] at hread
      exact .failed (h.fault hfault) hread hread
    | none =>
      rw [hfault] at hread
      exact .after hread hread (.ok nodes ⟨hcs.1, rfl⟩ (.refl []) rfl rfl)
  · obtain ⟨x, cs, rfl, rfl⟩ := exists_of_leading (h.grouped hcs.1) hname
    obtain ⟨args, hargs, ds, rfl, -⟩ := hds.exists_args
    rw [x.flatten_cons, (x.withArgs hargs).flatten_cons]
    have hread : ∀ ts, identifierAhead.outcome s (x.word :: ts) =
        .ok (some x.name, x.word :: ts) := fun ts => by
      refine (outcome_bind_ok outcome_ahead_cons _).trans ?_
      rw [Option.bind_some, x.name?_word]
      rfl
    refine .after outcome_next?_cons outcome_next?_cons (.after (hread _) (hread _) ?_)
    refine .after outcome_dialect outcome_dialect ?_
    exact .error (h.stray hcs.1 hterminator) rfl rfl

end Parts

end Reads

/-- A text is read to its end, and nothing is wrong there; whichever way closers are taken. -/
theorem Course.reads_ofSource {choice : Option Dialect} {source : String} {s : TokenStream}
    {At : List Frame → List (List Token) → Prop} {E : SyntaxError → Prop}
    (h : Course ⟨s.dialect, s.fault, s.stop⟩ At E)
    (hs : TokenStream.ofSource choice source = .ok s) (hcs : At [] cs)
    (htokens : cs.flatten = s.tokens) (refuse : Token → Parser Unit) :
    (∃ e, E e ∧ ofSource choice source = .error e ∧
      ofSourceBy (closeAsserting refuse) choice source = .error e) ∨
    ∃ nodes, (At [] [] ∧ s.fault = none) ∧ ofSource choice source = .ok (nodes, s.dialect) ∧
      ofSourceBy (closeAsserting refuse) choice source = .ok (nodes, s.dialect) := by
  have hreads : Reads _ _ _ (templateBy (closeAsserting refuse)) (templateBy Node.close) s.tokens
      s.tokens := htokens ▸ h.reads_template hcs (.refl cs)
  rw [← ofSourceBy_close]
  simp only [ofSourceBy, hs]
  cases hreads with
  | error he hp hq =>
    rw [outcome_eq_error hp, outcome_eq_error hq]
    exact .inl ⟨_, he, rfl, rfl⟩
  | ok nodes hQ hds hp hq =>
    obtain ⟨_, hp'⟩ := outcome_eq_ok hp
    obtain ⟨_, hq'⟩ := outcome_eq_ok hq
    rw [hp', hq']
    exact .inr ⟨nodes, hQ, rfl, rfl⟩

end Stencil.Node
