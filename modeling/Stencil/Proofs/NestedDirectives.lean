import Mathlib
import Stencil.Proofs.Budgets
import Stencil.Proofs.Except
import Stencil.Proofs.Nesting

/-! Templates whose constructs are well-formed are accepted if their directives are properly nested,
and otherwise the error says where they are not. -/
namespace Stencil

/-- Whether a construct ends with the token. -/
def Token.isLast (t : Token) : Bool :=
  match t.kind with
  | .text _ | .comment | .printEnd | .directiveEnd => true
  | _ => false

namespace Node

open Stencil.Parser

/-! ### Constructs and their signs -/

/-- The tokens, taken apart behind the end of each construct. -/
def constructs : List Token → List (List Token)
  | [] => []
  | t :: ts =>
    if t.isLast then [t] :: constructs ts
    else
      match constructs ts with
      | [] => [[t]]
      | c :: cs => (t :: c) :: cs

/-- The constructs of a text. -/
def constructsOf (d : Dialect) (source : String) : List (List Token) :=
  constructs (TokenStream.ofText d source.toList).tokens

/-- The name of a directive and where it stands. -/
def sign? : List Token → Option Sign
  | ⟨.directiveStart, _, _, start⟩ :: t :: _ => t.name?.map (⟨·, start, t.pos⟩)
  | _ => none

/-- The signs of the directives that open or end something. -/
def signs (d : Dialect) (cs : List (List Token)) : List Sign :=
  (cs.filterMap sign?).filter fun x => x.name ∈ openers || isTerminator d x.name

variable {d : Dialect} {c : List Token} {cs : List (List Token)}

lemma constructs_append {inner ts : List Token} {stop : Token}
    (hinner : ∀ t ∈ inner, t.isLast = false) (hstop : stop.isLast = true) :
    constructs (inner ++ stop :: ts) = (inner ++ [stop]) :: constructs ts := by
  induction inner with
  | nil => exact if_pos hstop
  | cons t inner ih =>
    obtain ⟨ht, hinner⟩ := List.forall_mem_cons.mp hinner
    rw [List.cons_append, constructs, ht, if_neg Bool.false_ne_true, ih hinner]
    rfl

lemma not_isLast {t : Token} (h : t.isInner = true) : t.isLast = false := by
  unfold Token.isLast
  split
  iterate 4
    · rename_i hkind
      rw [Token.isInner, hkind] at h
      cases h
  · rfl

/-- The constructs that the scanner gave are found again. -/
lemma constructs_flatten (h : Grouped d cs) : constructs cs.flatten = cs := by
  have hgroup : ∀ {start stop : Token} {inner : List Token} {cs : List (List Token)},
      start.isLast = false → Inner inner → stop.isLast = true → constructs cs.flatten = cs →
      constructs ((start :: (inner ++ [stop])) :: cs).flatten =
        (start :: (inner ++ [stop])) :: cs := by
    intro start stop inner cs hstart hinner hstop hcs
    have hparts : ∀ t ∈ start :: inner, t.isLast = false :=
      List.forall_mem_cons.mpr ⟨hstart, fun t ht => not_isLast (hinner t ht)⟩
    have hread : constructs (start :: inner ++ stop :: cs.flatten) = _ :=
      constructs_append hparts hstop
    rw [hcs] at hread
    simpa using hread
  induction cs with
  | nil => rfl
  | cons c cs ih =>
    have hcs := ih h.tail
    obtain ⟨t, rfl, ht⟩ | ⟨start, inner, stop, rfl, hstart, hinner, hstop⟩ |
      ⟨⟨start, inner, stop, rfl, hstart, hinner, hstop⟩, -⟩ := h.head
    · have hlast : t.isLast = true := by
        unfold Token.isLast
        obtain ⟨content, ht⟩ | ht := ht <;> rw [ht]
      rw [List.flatten_cons, List.singleton_append, constructs, if_pos hlast, hcs]
    · exact hgroup (by rw [Token.isLast, hstart]) hinner (by rw [Token.isLast, hstop]) hcs
    · exact hgroup (by rw [Token.isLast, hstart]) hinner (by rw [Token.isLast, hstop]) hcs

/-- The constructs of a text are those that the scanner gave. -/
lemma grouped_constructsOf (d : Dialect) (source : String) : Grouped d (constructsOf d source) ∧
    (constructsOf d source).flatten = (TokenStream.ofText d source.toList).tokens := by
  have hsource : TokenStream.ofSource (some d) source = .ok (.ofText d source.toList) := rfl
  obtain ⟨cs, hcs, htokens⟩ := TokenStream.grouped_ofSource hsource
  have hconstructs : constructsOf d source = cs := by
    rw [constructsOf, ← htokens, constructs_flatten hcs]
  rw [hconstructs]
  exact ⟨hcs, htokens⟩

lemma sign?_map_name (c : List Token) : (sign? c).map Sign.name = directiveName? c := by
  match c with
  | [] => rfl
  | [⟨kind, lexeme, offset, pos⟩] => cases kind <;> rfl
  | ⟨kind, lexeme, offset, pos⟩ :: t :: ts =>
    cases kind with
    | directiveStart =>
      change (t.name?.map _).map Sign.name = t.name?
      cases t.name? <;> rfl
    | _ => rfl

lemma signs_append (cs cs' : List (List Token)) :
    signs d (cs ++ cs') = signs d cs ++ signs d cs' := by
  simp only [signs, List.filterMap_append, List.filter_append]

lemma signs_cons_of_none (h : sign? c = none) : signs d (c :: cs) = signs d cs := by
  rw [signs, List.filterMap_cons_none h, signs]

lemma signs_cons_of_some {x : Sign} (h : sign? c = some x)
    (hx : x.name ∈ openers ∨ isTerminator d x.name = true) :
    signs d (c :: cs) = x :: signs d cs := by
  rw [signs, List.filterMap_cons_some h, List.filter_cons_of_pos, signs]
  exact (Bool.or_eq_true _ _).mpr (hx.imp (decide_eq_true ·) id)

/-- Each sign is that of a construct. -/
lemma exists_construct {u w : List Sign} {x : Sign} (h : signs d cs = u ++ x :: w) :
    ∃ front c body, cs = front ++ c :: body ∧ sign? c = some x ∧ signs d body = w := by
  rw [signs, List.filter_filterMap] at h
  obtain ⟨front, rest, rfl, -, hrest⟩ := List.filterMap_eq_append_iff.mp h
  obtain ⟨others, c, body, rfl, -, hc, hbody⟩ := List.filterMap_eq_cons_iff.mp hrest
  refine ⟨front ++ others, c, body, (List.append_assoc ..).symm,
    (Option.filter_eq_some_iff.mp hc).1, ?_⟩
  rw [signs, List.filter_filterMap]
  exact hbody

namespace Directive

variable (x : Directive)

def sign : Sign := ⟨x.name, x.start.pos, x.word.pos⟩

lemma sign?_tokens : sign? x.tokens = some x.sign := by
  obtain ⟨⟨kind, lexeme, offset, pos⟩, word, args, stop, name, hstart, hword, -, -⟩ := x
  obtain rfl : kind = .directiveStart := hstart
  change word.name?.map _ = _
  rw [Token.name?, hword]
  rfl

lemma signs_cons (h : x.name ∈ openers ∨ isTerminator d x.name = true) :
    signs d (x.tokens :: cs) = x.sign :: signs d cs :=
  signs_cons_of_some x.sign?_tokens h

lemma signs_cons_other (hopener : x.name ∉ openers) (hterminator : isTerminator d x.name = false) :
    signs d (x.tokens :: cs) = signs d cs := by
  rw [signs, List.filterMap_cons_some x.sign?_tokens, List.filter_cons_of_neg, signs]
  simp [sign, hopener, hterminator]

end Directive

/-! ### Texts that are accepted -/

section Accepted

variable {choice : Option Dialect} {source : String} {nodes : List Node}

/-- The tokens of a text were read as they are in its dialect. -/
lemma scanned_of_ofSource (h : ofSource choice source = .ok (nodes, d)) :
    TokenStream.ofSource choice source = .ok (.ofText d source.toList) ∧
      ofTokens (.ofText d source.toList) = .ok nodes := by
  unfold ofSource TokenStream.ofSource at h
  unfold TokenStream.ofSource
  cases hdialect : Dialect.resolve choice source with
  | error e =>
    rw [hdialect] at h
    cases h
  | ok d' =>
    rw [hdialect] at h
    cases hread : ofTokens (.ofText d' source.toList) with
    | error e =>
      simp only [hread] at h
      cases h
    | ok nodes' =>
      simp only [hread] at h
      cases h
      exact ⟨rfl, hread⟩

/-- What is kept along the way holds at the end of a text that is accepted. -/
lemma Course.at_end {At : List Frame → List (List Token) → Prop} {E : SyntaxError → Prop}
    (hcourse : ∀ s, s.dialect = d → Course s At E) (h : ofSource choice source = .ok (nodes, d))
    (hstart : At [] (constructsOf d source)) : At [] [] := by
  obtain ⟨e, -, hread, -⟩ | ⟨nodes', hQ, -⟩ :=
    (hcourse _ rfl).reads_ofSource (scanned_of_ofSource h).1 hstart
      (grouped_constructsOf d source).2 fun _ => endDirective
  · cases h.symm.trans hread
  · exact hQ.1

end Accepted

/-! ### Constructs that are well-formed -/

/-- The parser reads the tokens and leaves none. -/
def Consumes {α : Type} (d : Dialect) (p : Parser α) (ts : List Token) : Prop :=
  ∃ a, p.outcome ⟨d, none, .start⟩ ts = .ok (a, [])

lemma consumes_iff {α : Type} {p : Parser α} {ts : List Token} :
    Consumes d p ts ↔
      (p.outcome ⟨d, none, .start⟩ ts).toOption.any (fun r => r.2.isEmpty) = true := by
  unfold Consumes
  cases p.outcome ⟨d, none, .start⟩ ts with
  | error e => simp [Except.toOption]
  | ok r =>
    obtain ⟨a, rest⟩ := r
    simp [Except.toOption]

instance {α : Type} (p : Parser α) (ts : List Token) : Decidable (Consumes d p ts) :=
  decidable_of_iff _ consumes_iff.symm

/-- What follows the name of a directive is what belongs there. -/
inductive Complete (d : Dialect) (pos : Position) (name : String) (ts : List Token) : Prop
  | heading (n : Nat) (hname : isTerminator d name = false)
      (h : Consumes d (Node.heading (Expr.parser n) pos name) ts)
  | elif (n : Nat) (hname : name = "elif") (h : Consumes d (condition (Expr.parser n)) ts)
  | otherwise (hname : name = "else") (h : Consumes d endDirective ts)
  | closer (construct : String) (hname : name = Node.closer d construct)
      (h : Consumes d (closing d construct) ts)

/-- A construct that is read by itself. -/
inductive WellFormed (d : Dialect) : List Token → Prop
  | piece {t : Token} (ht : t.IsPiece) : WellFormed d [t]
  | print {start : Token} {ts : List Token} (n : Nat) (hstart : start.kind = .printStart)
      (h : Consumes d (interpolated (Expr.parser n)) ts) : WellFormed d (start :: ts)
  | directive {start word : Token} {ts : List Token} {name : String}
      (hstart : start.kind = .directiveStart) (hword : word.kind = .ident name)
      (h : Complete d start.pos name ts) : WellFormed d (start :: word :: ts)

lemma WellFormed.consumes {start : Token} {ts : List Token} (h : WellFormed d (start :: ts))
    (hstart : start.kind = .printStart) : ∃ n, Consumes d (interpolated (Expr.parser n)) ts := by
  cases h with
  | piece ht => obtain ⟨content, ht⟩ | ht := ht <;> cases hstart.symm.trans ht
  | print n _ h => exact ⟨n, h⟩
  | directive hstart' => cases hstart.symm.trans hstart'

lemma WellFormed.complete {x : Directive} (h : WellFormed d x.tokens) :
    Complete d x.start.pos x.name (x.args ++ [x.stop]) := by
  have hstart := x.isStart
  have hword := x.isWord
  unfold Directive.tokens at h
  cases h with
  | print n hstart' => cases hstart.symm.trans hstart'
  | directive _ hword' h =>
    rw [Token.Kind.ident.inj (hword.symm.trans hword')]
    exact h

lemma WellFormed.name_ne_none (h : WellFormed d c) (hc : IsDirective c) :
    directiveName? c ≠ none := by
  obtain ⟨⟨kind, lexeme, offset, pos⟩, inner, stop, rfl, hstart, -⟩ := hc
  obtain rfl : kind = .directiveStart := hstart
  generalize hts : inner ++ [stop] = ts at h
  cases h with
  | piece ht => obtain ⟨content, ht⟩ | ht := ht <;> cases ht
  | print n hstart => cases hstart
  | @directive _ word _ name _ hword =>
    change word.name? ≠ none
    rw [Token.name?, hword]
    exact Option.some_ne_none name

namespace Complete

variable {pos : Position} {name : String} {ts : List Token}

lemma consumes_heading (h : Complete d pos name ts) (hname : isTerminator d name = false) :
    ∃ n, Consumes d (Node.heading (Expr.parser n) pos name) ts := by
  cases h with
  | heading n _ h => exact ⟨n, h⟩
  | elif _ hname' =>
    rw [hname', isTerminator_elif] at hname
    cases hname
  | otherwise hname' =>
    rw [hname', isTerminator_else] at hname
    cases hname
  | closer construct hname' =>
    rw [hname', isTerminator_closer] at hname
    cases hname

lemma consumes_condition (h : Complete d pos name ts) (hname : name = "elif") :
    ∃ n, Consumes d (condition (Expr.parser n)) ts := by
  subst hname
  cases h with
  | elif n _ h => exact ⟨n, h⟩
  | heading _ hname => cases (isTerminator_elif d).symm.trans hname
  | otherwise hname => exact absurd hname (by decide)
  | closer construct hname => exact absurd hname.symm (closer_ne d construct).1

lemma consumes_endDirective (h : Complete d pos name ts) (hname : name = "else") :
    Consumes d endDirective ts := by
  subst hname
  cases h with
  | otherwise _ h => exact h
  | heading _ hname => cases (isTerminator_else d).symm.trans hname
  | elif _ hname => exact absurd hname (by decide)
  | closer construct hname => exact absurd hname.symm (closer_ne d construct).2

lemma consumes_closing (h : Complete d pos name ts) {construct : String}
    (hname : name = Node.closer d construct) : Consumes d (closing d construct) ts := by
  subst hname
  cases h with
  | closer construct' hname h =>
    cases d with
    | native => exact h
    | jinja =>
      have hconstruct : construct = construct' := by simpa [Node.closer] using hname
      rw [hconstruct]
      exact h
  | heading _ hname => cases (isTerminator_closer d construct).symm.trans hname
  | elif _ hname => exact absurd hname (closer_ne d construct).1
  | otherwise hname => exact absurd hname (closer_ne d construct).2

end Complete

/-! ### Refusals -/

section Refusals

variable {α : Type} {ts : List Token} {stop : Token} {e : ParseError}

/-- What one parser reads, the other refuses only because it is nested too deep. -/
lemma tooDeep_of_refuses {p q : Parser α} (hpq : Follows p q ∨ Follows q p)
    (hq : Consumes d q (ts ++ [stop])) (hp : Refuses p ts stop e) :
    ∃ pos, e = .tooDeep maxNesting pos := by
  obtain ⟨a, hq⟩ := hq
  have hp := hp.2 ⟨d, none, .start⟩ []
  obtain hpq | hpq := hpq
  · obtain h | ⟨pos, h⟩ := hpq (s := ⟨d, none, .start⟩) rfl (ts ++ [stop])
    · cases (hp.symm.trans h).trans hq
    · cases hp.symm.trans h
      exact ⟨pos, rfl⟩
  · obtain h | ⟨pos, h⟩ := hpq (s := ⟨d, none, .start⟩) rfl (ts ++ [stop])
    · cases (hq.symm.trans h).trans hp
    · cases hq.symm.trans h

/-- What is read with one budget is refused with another one only because it is nested too deep. -/
lemma tooDeep_of_budget {p : Parser Expr → Parser α}
    (hp : ∀ {q r}, Follows q r → Follows (p q) (p r)) {n : Nat}
    (hread : ∃ m, Consumes d (p (Expr.parser m)) (ts ++ [stop]))
    (hrefuses : Refuses (p (Expr.parser n)) ts stop e) : ∃ pos, e = .tooDeep maxNesting pos := by
  obtain ⟨m, hread⟩ := hread
  refine tooDeep_of_refuses ?_ hread hrefuses
  exact (Nat.le_total n m).imp (fun h => hp (Expr.rising_all h))
    fun h => hp (Expr.rising_all h)

end Refusals

/-! ### The verdict along the way -/

/-- With what is open the verdict on the constructs ahead is the verdict on the whole word. -/
structure OnCourse (d : Dialect) (w : List Sign) (F : List Frame) (cs : List (List Token)) :
    Prop where
  grouped : Grouped d cs
  verdict : judge d F (signs d cs) = judge d [] w

/-- Besides, the constructs ahead are well-formed. -/
structure Judged (d : Dialect) (w : List Sign) (F : List Frame) (cs : List (List Token)) : Prop
    extends OnCourse d w F cs where
  formed : ∀ c ∈ cs, WellFormed d c

/-- The error is that the nesting is too deep, or what is wrong with the word. -/
def Deserved (d : Dialect) (w : List Sign) (e : SyntaxError) : Prop :=
  (∃ pos, e = .parse (.tooDeep maxNesting pos)) ∨ ∃ e', e = .parse e' ∧ judge d [] w = some e'

section Course

variable {w : List Sign} {F F' : List Frame} {e : ParseError} {x : Directive}

lemma deserved_of_tooDeep (h : ∃ pos, e = .tooDeep maxNesting pos) : Deserved d w (.parse e) := by
  obtain ⟨pos, rfl⟩ := h
  exact .inl ⟨pos, rfl⟩

namespace OnCourse

lemma pass (h : OnCourse d w F (c :: cs)) (hc : signs d (c :: cs) = signs d cs) :
    OnCourse d w F cs :=
  ⟨h.grouped.tail, hc ▸ h.verdict⟩

lemma step (h : OnCourse d w F (x.tokens :: cs))
    (hx : x.name ∈ openers ∨ isTerminator d x.name = true)
    (hadvance : advance d F x.sign = .ok F') : OnCourse d w F' cs := by
  refine ⟨h.grouped.tail, ?_⟩
  rw [← h.verdict, x.signs_cons hx, judge_cons_ok hadvance]

lemma deserved (h : OnCourse d w F (x.tokens :: cs)) (hx : isTerminator d x.name = true)
    (hadvance : advance d F x.sign = .error e) : Deserved d w (.parse e) := by
  refine .inr ⟨e, rfl, ?_⟩
  rw [← h.verdict, x.signs_cons (.inr hx), judge_cons_error hadvance]

end OnCourse

namespace Judged

lemma tail (h : Judged d w F (c :: cs)) (hcs : OnCourse d w F' cs) : Judged d w F' cs :=
  ⟨hcs, (List.forall_mem_cons.mp h.formed).2⟩

lemma complete (h : Judged d w F (x.tokens :: cs)) :
    Complete d x.start.pos x.name (x.args ++ [x.stop]) :=
  (List.forall_mem_cons.mp h.formed).1.complete

end Judged

lemma not_mem_openers {name : String} (h : isTerminator d name = true) : name ∉ openers := by
  intro hopener
  cases h.symm.trans (not_isTerminator hopener)

/-- What a heading opens. -/
lemma Opening.Of.frames {made : Opening} {name : String} (h : made.Of name) (pos : Position) :
    made.frames pos = if name ∈ openers then [⟨name, pos, false⟩] else [] := by
  cases made with
  | alone node => exact (if_neg h).symm
  | enclosing construct wrap =>
    obtain ⟨rfl, hopener, -⟩ := h
    exact (if_pos hopener).symm
  | raw | loop wrap | branch condition =>
    obtain rfl := h
    exact (if_pos (by decide)).symm

/-- The parser goes as the stack machine does. -/
lemma course_onCourse (s : Source) (w : List Sign) :
    Course s (OnCourse s.dialect w) (fun _ => True) where
  grouped h := h.grouped
  fault _ := trivial
  tooDeep _ := trivial
  piece h ht := by
    refine h.pass (signs_cons_of_none ?_)
    unfold sign?
    split
    · rename_i heq
      cases heq
    · rfl
  print {F start inner stop cs} h hstart n := by
    refine ⟨h.pass (signs_cons_of_none ?_), fun _ _ => trivial⟩
    obtain ⟨kind, lexeme, offset, pos⟩ := start
    cases hstart
    rfl
  nameless _ _ _ _ _ := trivial
  heading {F x cs} h hx n := by
    refine ⟨fun made hmade => ?_, fun _ _ => trivial⟩
    rw [(of_accepts hmade).frames]
    split
    · rename_i hopener
      exact h.step (.inl hopener) (advance_opener hopener)
    · rename_i hopener
      exact h.pass (x.signs_cons_other hopener hx)
  elif {F pos x cs} h hx n := by
    have hterminator : isTerminator s.dialect x.name = true := hx ▸ isTerminator_elif _
    exact ⟨h.step (.inr hterminator) (advance_elif hx), fun _ _ => trivial⟩
  otherwise {F construct pos x cs} h hconstruct hx := by
    have hterminator : isTerminator s.dialect x.name = true := hx ▸ isTerminator_else _
    exact ⟨h.step (.inr hterminator) (advance_else hconstruct hx), fun _ _ => trivial⟩
  ended {F construct pos cs} h hstopped helse helif := by
    refine ⟨h.grouped, h.verdict ▸ ?_⟩
    obtain rfl | ⟨name, hname, hterminator⟩ := hstopped
    · rfl
    · obtain ⟨x, cs, rfl, rfl⟩ := exists_of_leading h.grouped hname
      have hbranches : ¬ Frame.branches ⟨construct, pos, false⟩ x.sign := by
        rintro ⟨-, ⟨hx, hif⟩ | ⟨hx, hconstruct⟩⟩
        · exact helif hif (hname.trans (congrArg some hx))
        · exact helse hconstruct (hname.trans (congrArg some hx))
      rw [x.signs_cons (.inr hterminator), judge, judge,
        advance_ended hbranches (not_mem_openers hterminator)]
  unclosed _ _ := trivial
  mismatched _ _ _ := trivial
  closed {F construct pos x cs} h hx := by
    have hterminator : isTerminator s.dialect x.name = true := hx ▸ isTerminator_closer _ _
    have hclosed := advance_closer (d := s.dialect) (F := F) (f := ⟨construct, pos, true⟩)
      (x := x.sign) (not_mem_openers hterminator) (not_branches_closer hx) hx
    exact ⟨h.step (.inr hterminator) hclosed, fun _ _ => trivial⟩
  stray _ _ := trivial

/-- The parser comes to the verdict. -/
lemma course_judged {s : Source} (hs : s.fault = none) (w : List Sign) :
    Course s (Judged s.dialect w) (Deserved s.dialect w) := by
  have hcourse := course_onCourse s w
  exact {
    grouped := fun h => h.grouped
    fault := fun h => by
      rw [hs] at h
      cases h
    tooDeep := fun pos => .inl ⟨pos, rfl⟩
    piece := fun h ht => h.tail (hcourse.piece h.toOnCourse ht)
    print := fun {F start inner stop cs} h hstart n => by
      refine ⟨h.tail (hcourse.print h.toOnCourse hstart n).1, fun e he => ?_⟩
      have hread := (List.forall_mem_cons.mp h.formed).1.consumes hstart
      exact deserved_of_tooDeep (tooDeep_of_budget follows_interpolated hread he)
    nameless := fun h hc hname _ _ =>
      absurd hname ((List.forall_mem_cons.mp h.formed).1.name_ne_none hc)
    heading := fun {F x cs} h hx n => by
      refine ⟨fun made hmade => h.tail ((hcourse.heading h.toOnCourse hx n).1 made hmade),
        fun e he => ?_⟩
      exact deserved_of_tooDeep (tooDeep_of_budget (follows_heading · _ _)
        (h.complete.consumes_heading hx) he)
    elif := fun {F pos x cs} h hx n => by
      refine ⟨h.tail (hcourse.elif h.toOnCourse hx n).1, fun e he => ?_⟩
      exact deserved_of_tooDeep (tooDeep_of_budget follows_condition
        (h.complete.consumes_condition hx) he)
    otherwise := fun {F construct pos x cs} h hconstruct hx => by
      refine ⟨h.tail (hcourse.otherwise h.toOnCourse hconstruct hx).1, fun e he => ?_⟩
      exact deserved_of_tooDeep (tooDeep_of_refuses (.inl (.refl _))
        (h.complete.consumes_endDirective hx) he)
    ended := fun h hstopped helse helif =>
      ⟨hcourse.ended h.toOnCourse hstopped helse helif, h.formed⟩
    unclosed := fun h _ => .inr ⟨_, rfl, h.verdict.symm⟩
    mismatched := fun {F construct pos x cs} h hx hne => by
      refine h.deserved hx (advance_mismatched (not_mem_openers hx) ?_ hne)
      rintro ⟨⟨⟩, -⟩
    closed := fun {F construct pos x cs} h hx => by
      refine ⟨h.tail (hcourse.closed h.toOnCourse hx).1, fun e he => ?_⟩
      exact deserved_of_tooDeep (tooDeep_of_refuses (.inl (.refl _))
        (h.complete.consumes_closing hx) he)
    stray := fun h hx => h.deserved hx (advance_stray (not_mem_openers hx)) }

end Course

/-- What is accepted is properly nested, whether its constructs are well-formed or not. -/
theorem nested_of_ofSource {choice : Option Dialect} {source : String} {nodes : List Node}
    (h : ofSource choice source = .ok (nodes, d)) :
    Nested d (signs d (constructsOf d source)) := by
  have hcourse : ∀ s : Source, s.dialect = d →
      Course s (OnCourse d (signs d (constructsOf d source))) (fun _ => True) := by
    rintro s rfl
    exact course_onCourse s _
  have hend := Course.at_end hcourse h ⟨(grouped_constructsOf d source).1, rfl⟩
  exact judge_eq_none_iff.mp hend.verdict.symm

/-- Parsing well-formed constructs ends with the verdict on their signs. -/
lemma judged_of_ofSource {source : String}
    (hscan : (TokenStream.ofText d source.toList).fault = none)
    (hformed : ∀ c ∈ constructsOf d source, WellFormed d c) :
    (∃ e, ofSource (some d) source = .error e ∧ Deserved d (signs d (constructsOf d source)) e) ∨
    ∃ nodes, ofSource (some d) source = .ok (nodes, d) ∧
      judge d [] (signs d (constructsOf d source)) = none := by
  have hsource : TokenStream.ofSource (some d) source = .ok (.ofText d source.toList) := rfl
  have hcourse := course_judged (s := ⟨d, (TokenStream.ofText d source.toList).fault,
    (TokenStream.ofText d source.toList).stop⟩) hscan (signs d (constructsOf d source))
  obtain ⟨hgrouped, htokens⟩ := grouped_constructsOf d source
  obtain ⟨e, he, hread, -⟩ | ⟨nodes, hQ, hread, -⟩ :=
    hcourse.reads_ofSource hsource ⟨⟨hgrouped, rfl⟩, hformed⟩ htokens fun _ => endDirective
  · exact .inl ⟨e, hread, he⟩
  · exact .inr ⟨nodes, hread, hQ.1.verdict.symm⟩

/-- A text of well-formed constructs that is not nested too deep is accepted exactly if its signs
are properly nested, and otherwise the error says where they are not. -/
theorem accepts_iff_nested {source : String}
    (hscan : (TokenStream.ofText d source.toList).fault = none)
    (hformed : ∀ c ∈ constructsOf d source, WellFormed d c)
    (hdepth : ∀ pos, ofSource (some d) source ≠ .error (.parse (.tooDeep maxNesting pos))) :
    ((∃ nodes, ofSource (some d) source = .ok (nodes, d)) ↔
      Nested d (signs d (constructsOf d source))) ∧
    ∀ e, ofSource (some d) source = .error e →
      ∃ e', e = .parse e' ∧ Misnested d (signs d (constructsOf d source)) e' := by
  obtain ⟨e, hread, ⟨pos, rfl⟩ | ⟨e', rfl, hjudge⟩⟩ | ⟨nodes, hread, hjudge⟩ :=
    judged_of_ofSource hscan hformed
  · exact absurd hread (hdepth pos)
  · refine ⟨⟨fun ⟨nodes, hnodes⟩ => ?_, fun hnested => ?_⟩, fun e he => ?_⟩
    · cases hread.symm.trans hnodes
    · cases hjudge.symm.trans (judge_eq_none_iff.mpr hnested)
    · cases hread.symm.trans he
      exact ⟨e', rfl, judge_eq_some_iff.mp hjudge⟩
  · refine ⟨⟨fun _ => judge_eq_none_iff.mp hjudge, fun _ => ⟨nodes, hread⟩⟩, fun e he => ?_⟩
    cases hread.symm.trans he

/-- A loop with an alternative inside of the second branch of a condition. -/
def nestedLoop : String :=
  "{% if a %}x{% elif b %}" ++
    "{% for i in c %}{{ i }}{% else %}y{% endfor %}{% endif %}"

theorem accepts_iff_nested_nestedLoop :
    (∃ nodes, ofSource (some .jinja) nestedLoop = .ok (nodes, .jinja)) ∧
      Nested .jinja (signs .jinja (constructsOf .jinja nestedLoop)) := by
  have hscan : (TokenStream.ofText .jinja nestedLoop.toList).fault = none := by cbv
  have hformed : ∀ c ∈ constructsOf .jinja nestedLoop, WellFormed .jinja c := by
    have hconstructs : constructsOf .jinja nestedLoop = constructsOf .jinja nestedLoop := rfl
    conv at hconstructs => rhs; cbv
    rw [hconstructs]
    simp only [List.forall_mem_cons]
    refine ⟨.directive rfl rfl (.heading 1 rfl ?_), .piece (.inl ⟨_, rfl⟩),
      .directive rfl rfl (.elif 1 rfl ?_), .directive rfl rfl (.heading 1 rfl ?_),
      .print 1 rfl ?_, .directive rfl rfl (.otherwise rfl ?_), .piece (.inl ⟨_, rfl⟩),
      .directive rfl rfl (.closer "for" (by decide) ?_),
      .directive rfl rfl (.closer "if" (by decide) ?_), List.forall_mem_nil _⟩
    all_goals decide +kernel
  have hdialect : (ofSource (some .jinja) nestedLoop).toOption.map (·.2) = some .jinja := by
    decide +kernel
  obtain ⟨⟨nodes, _⟩, hread, rfl⟩ := Option.map_eq_some_iff.mp hdialect
  have hnodes := Except.eq_ok_of_toOption hread
  have hdepth : ∀ pos, ofSource (some .jinja) nestedLoop ≠
      .error (.parse (.tooDeep maxNesting pos)) := fun pos h => by cases hnodes.symm.trans h
  obtain ⟨hiff, -⟩ := accepts_iff_nested hscan hformed hdepth
  exact ⟨⟨nodes, hnodes⟩, hiff.mp ⟨nodes, hnodes⟩⟩

end Node

end Stencil
