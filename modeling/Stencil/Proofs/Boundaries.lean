import Mathlib
import Stencil.Proofs.Course

/-! Scanner and parser agree on where constructs begin and end: tokens are never missing inside of a
construct, and where a closer is taken a directive begins. -/
namespace Stencil.Node

open Stencil.Parser

/-- What can be met: a violation of the grammar at some token, a directive that is open at the end
of a text that has no fault, or the fault of the text. -/
inductive Met (s : Source) : SyntaxError → Prop
  | grammar {e : ParseError} (he : e.isAtEnd = false) : Met s (.parse e)
  | unclosed (construct expected : String) (pos : Position) (hs : s.fault = none) :
      Met s (.parse (.unclosed construct expected pos))
  | fault {e : LexError} (hs : s.fault = some e) : Met s (.ofLex e)

/-- For the parser to get on, the constructs need only be whole. -/
lemma course_grouped (s : Source) : Course s (fun _ => Grouped s.dialect) (Met s) := by
  have hrefuses : ∀ {α : Type} {p : Parser α} {ts : List Token} {stop : Token},
      ∀ e, Refuses p ts stop e → Met s (.parse e) := fun e he => .grammar he.1
  exact {
    grouped := id
    fault := .fault
    tooDeep := fun _ => .grammar rfl
    piece := fun h _ => h.tail
    print := fun h _ _ => ⟨h.tail, hrefuses⟩
    nameless := fun _ _ _ _ => .grammar
    heading := fun h _ _ => ⟨fun _ _ => h.tail, hrefuses⟩
    elif := fun h _ _ => ⟨h.tail, hrefuses⟩
    otherwise := fun h _ _ => ⟨h.tail, hrefuses⟩
    ended := fun h _ _ _ => h
    unclosed := fun _ => .unclosed _ _ _
    mismatched := fun _ _ _ => .grammar rfl
    closed := fun h _ => ⟨h.tail, hrefuses⟩
    stray := fun _ _ => .grammar rfl }

/-- Both ways to take closers parse a text alike. -/
lemma met_of_ofSource (refuse : Token → Parser Unit) {choice : Option Dialect} {source : String}
    {s : TokenStream} (h : TokenStream.ofSource choice source = .ok s) :
    (∃ e, Met ⟨s.dialect, s.fault, s.stop⟩ e ∧ ofSource choice source = .error e ∧
      ofSourceBy (closeAsserting refuse) choice source = .error e) ∨
    ∃ nodes, s.fault = none ∧ ofSource choice source = .ok (nodes, s.dialect) ∧
      ofSourceBy (closeAsserting refuse) choice source = .ok (nodes, s.dialect) := by
  obtain ⟨cs, hcs, htokens⟩ := TokenStream.grouped_ofSource h
  have hcourse := course_grouped ⟨s.dialect, s.fault, s.stop⟩
  obtain h | ⟨nodes, hQ, hread⟩ := hcourse.reads_ofSource h hcs htokens refuse
  · exact .inl h
  · exact .inr ⟨nodes, hQ.2, hread⟩

lemma ofLex_ne_unexpectedEnd (e : LexError) (expected : String) (pos : Position) :
    SyntaxError.ofLex e ≠ .parse (.unexpectedEnd expected pos) := by
  cases e <;> simp [SyntaxError.ofLex]

lemma ofLex_ne_unterminatedString (e : LexError) (pos : Position) :
    SyntaxError.ofLex e ≠ .lex (.unterminatedString pos) := by
  cases e <;> simp [SyntaxError.ofLex]

namespace Met

variable {s : Source} {e : SyntaxError} {pos : Position}

lemma ne_unexpectedEnd (h : Met s e) (expected : String) (pos : Position) :
    e ≠ .parse (.unexpectedEnd expected pos) := by
  cases h with
  | grammar he =>
    rintro ⟨⟩
    cases he
  | unclosed => simp
  | @fault e => exact ofLex_ne_unexpectedEnd e expected pos

lemma ne_unterminatedString (h : Met s e) (pos : Position) :
    e ≠ .lex (.unterminatedString pos) := by
  cases h with
  | grammar | unclosed => simp
  | @fault e => exact ofLex_ne_unterminatedString e pos

/-- An open string is met unless the parser fails before. -/
lemma of_open (h : Met s e) (hs : s.fault = some (.unterminatedString pos)) :
    ∃ e', e = .parse e' ∧ (e' = .unterminatedString pos ∨ e'.isAtEnd = false) := by
  cases h with
  | @grammar e he => exact ⟨e, rfl, .inr he⟩
  | unclosed _ _ _ hnone =>
    rw [hs] at hnone
    cases hnone
  | @fault e he =>
    obtain rfl := Option.some.inj (hs.symm.trans he)
    exact ⟨_, rfl, .inl rfl⟩

end Met

/-- Parsing a text never misses a token, and never leaves an open string to the errors of the
scanner: it is reported as an error of the grammar, unless the parser fails at a token before. And
whatever happened to closers that do not begin with the start of a directive, nothing would change,
for there are none. -/
theorem boundaries_agree (refuse : Token → Parser Unit) (choice : Option Dialect)
    (source : String) :
    (∀ expected pos, ofSource choice source ≠ .error (.parse (.unexpectedEnd expected pos))) ∧
    (∀ pos, ofSource choice source ≠ .error (.lex (.unterminatedString pos))) ∧
    (∀ s pos, TokenStream.ofSource choice source = .ok s →
      s.fault = some (.unterminatedString pos) → ∃ e, ofSource choice source = .error (.parse e) ∧
        (e = .unterminatedString pos ∨ e.isAtEnd = false)) ∧
    ofSourceBy (closeAsserting refuse) choice source = ofSource choice source := by
  cases hs : TokenStream.ofSource choice source with
  | error e =>
    have hread : ∀ refuse, ofSourceBy (closeAsserting refuse) choice source = .error (.ofLex e) :=
      fun refuse => by rw [ofSourceBy, hs]
    have hplain : ofSource choice source = .error (.ofLex e) := by rw [ofSource, hs]
    rw [hplain, hread]
    refine ⟨fun expected pos he => ?_, fun pos he => ?_, fun s pos hs => ?_, rfl⟩
    · exact ofLex_ne_unexpectedEnd e expected pos (Except.error.inj he)
    · exact ofLex_ne_unterminatedString e pos (Except.error.inj he)
    · cases hs
  | ok s =>
    obtain ⟨e, he, hread, hread'⟩ | ⟨nodes, hfault, hread, hread'⟩ := met_of_ofSource refuse hs
    · rw [hread, hread']
      refine ⟨fun expected pos h => ?_, fun pos h => ?_, ?_, rfl⟩
      · exact he.ne_unexpectedEnd expected pos (Except.error.inj h)
      · exact he.ne_unterminatedString pos (Except.error.inj h)
      · rintro _ pos ⟨⟩ hopen
        obtain ⟨e, rfl, h⟩ := he.of_open hopen
        exact ⟨e, rfl, h⟩
    · rw [hread, hread']
      refine ⟨by simp, by simp, ?_, rfl⟩
      rintro _ pos ⟨⟩ hopen
      rw [hfault] at hopen
      cases hopen

/-- The assertion does not hold of a comment before the closer. -/
example (refused : ParseError) :
    (closeAsserting (fun _ => fail refused) "if" .start).outcome ⟨.native, none, .start⟩
      [⟨.comment, "", 0, .start⟩, ⟨.ident "end", "end", 0, .start⟩] = .error (.parse refused) := by
  rfl

end Stencil.Node
