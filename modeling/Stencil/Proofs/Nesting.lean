import Mathlib.Tactic.Common
import Stencil.Proofs.Course

/-! Words of directives that are properly nested, and a stack machine that recognizes them. -/
namespace Stencil.Node

/-- The name of a directive with the places of the directive and of its name. -/
structure Sign where
  name : String
  start : Position
  pos : Position
deriving DecidableEq

/-- Where a word of signs stands: outside of all directives, or inside of one, before or behind its
`else`. -/
inductive Level where
  | outside
  | within (construct : String) (ended : Bool)

/-- The words that may stand at a level: complete directives one after the other; inside of an `if`
any number of `elif`s between them, and inside of an `if` or a `for` at most one `else`, behind
these. -/
inductive Proper (d : Dialect) : Level → List Sign → Prop
  | outside : Proper d .outside []
  | within (construct : String) : Proper d (.within construct false) []
  | directive {level : Level} {o c : Sign} {before body : List Sign} {ended : Bool}
      (hbefore : Proper d level before) (ho : o.name ∈ openers)
      (hbody : Proper d (.within o.name ended) body) (hc : c.name = closer d o.name) :
      Proper d level (before ++ o :: (body ++ [c]))
  | elif {x : Sign} {before : List Sign} (hbefore : Proper d (.within "if" false) before)
      (hx : x.name = "elif") : Proper d (.within "if" false) (before ++ [x])
  | otherwise {construct : String} {x : Sign} {before : List Sign}
      (hbefore : Proper d (.within construct false) before)
      (hconstruct : construct = "if" ∨ construct = "for") (hx : x.name = "else") :
      Proper d (.within construct true) (before ++ [x])

/-- The word is properly nested. -/
def Nested (d : Dialect) (w : List Sign) : Prop := Proper d .outside w

/-- Behind the word the directives are open, and in each of them what stands there is proper. -/
inductive Leads (d : Dialect) : List Frame → List Sign → Prop
  | outside {u : List Sign} (hu : Proper d .outside u) : Leads d [] u
  | inside {F : List Frame} {u body : List Sign} {o : Sign} {ended : Bool} (hu : Leads d F u)
      (ho : o.name ∈ openers) (hbody : Proper d (.within o.name ended) body) :
      Leads d (⟨o.name, o.start, ended⟩ :: F) (u ++ o :: body)

/-- Whether a sign begins another part of an open directive. -/
def Frame.branches (f : Frame) (x : Sign) : Prop :=
  f.ended = false ∧ (x.name = "elif" ∧ f.construct = "if" ∨
    x.name = "else" ∧ (f.construct = "if" ∨ f.construct = "for"))

instance (f : Frame) (x : Sign) : Decidable (f.branches x) := inferInstanceAs (Decidable (_ ∧ _))

/-- Where a word ceases to be properly nested, and why: the last directive that is open is never
closed, or another sign stands where only its closer may, or a sign belongs to no directive. -/
inductive Misnested (d : Dialect) (w : List Sign) : ParseError → Prop
  | unclosed {F : List Frame} {f : Frame} (hw : Leads d (f :: F) w) :
      Misnested d w (.unclosed f.construct (spelled d (closer d f.construct)) f.pos)
  | mismatched {F : List Frame} {f : Frame} {before after : List Sign} {x : Sign}
      (hw : w = before ++ x :: after) (hbefore : Leads d (f :: F) before)
      (hx : x.name ∉ openers) (hbranches : ¬ f.branches x)
      (hclose : x.name ≠ closer d f.construct) :
      Misnested d w (.mismatchedCloser (spelled d (closer d f.construct)) (spelled d x.name) x.pos)
  | stray {before after : List Sign} {x : Sign} (hw : w = before ++ x :: after)
      (hbefore : Proper d .outside before) (hx : x.name ∉ openers) :
      Misnested d w (.strayCloser (spelled d x.name) x.start)

/-- What is open behind a sign, innermost first, or why the sign may not stand there. -/
def advance (d : Dialect) (F : List Frame) (x : Sign) : Except ParseError (List Frame) :=
  if x.name ∈ openers then .ok (⟨x.name, x.start, false⟩ :: F)
  else
    match F with
    | [] => .error (.strayCloser (spelled d x.name) x.start)
    | f :: F =>
      if f.branches x then .ok (⟨f.construct, f.pos, x.name == "else"⟩ :: F)
      else if x.name = closer d f.construct then .ok F
      else .error
        (.mismatchedCloser (spelled d (closer d f.construct)) (spelled d x.name) x.pos)

/-- What is wrong with a word that is read while some directives are open, if anything is. -/
def judge (d : Dialect) : List Frame → List Sign → Option ParseError
  | F, [] => F.head?.map fun f => .unclosed f.construct (spelled d (closer d f.construct)) f.pos
  | F, x :: w =>
    match advance d F x with
    | .ok F => judge d F w
    | .error e => some e

/-! ### Steps -/

section Steps

variable {d : Dialect} {F F' : List Frame} {f : Frame} {x : Sign} {w : List Sign}

lemma judge_cons_ok (h : advance d F x = .ok F') : judge d F (x :: w) = judge d F' w := by
  rw [judge, h]

lemma judge_cons_error {e : ParseError} (h : advance d F x = .error e) :
    judge d F (x :: w) = some e := by
  rw [judge, h]

lemma advance_opener (hx : x.name ∈ openers) :
    advance d F x = .ok (⟨x.name, x.start, false⟩ :: F) :=
  if_pos hx

lemma advance_stray (hx : x.name ∉ openers) :
    advance d [] x = .error (.strayCloser (spelled d x.name) x.start) :=
  if_neg hx

lemma advance_branch (hx : x.name ∉ openers) (hbranches : f.branches x) :
    advance d (f :: F) x = .ok (⟨f.construct, f.pos, x.name == "else"⟩ :: F) :=
  (if_neg hx).trans (if_pos hbranches)

lemma advance_closer (hx : x.name ∉ openers) (hbranches : ¬ f.branches x)
    (hclose : x.name = closer d f.construct) : advance d (f :: F) x = .ok F :=
  (if_neg hx).trans ((if_neg hbranches).trans (if_pos hclose))

lemma advance_mismatched (hx : x.name ∉ openers) (hbranches : ¬ f.branches x)
    (hclose : x.name ≠ closer d f.construct) : advance d (f :: F) x =
      .error (.mismatchedCloser (spelled d (closer d f.construct)) (spelled d x.name) x.pos) :=
  (if_neg hx).trans ((if_neg hbranches).trans (if_neg hclose))

lemma advance_elif {pos : Position} (hx : x.name = "elif") :
    advance d (⟨"if", pos, false⟩ :: F) x = .ok (⟨"if", pos, false⟩ :: F) := by
  have hopener : x.name ∉ openers := hx ▸ by decide
  refine (advance_branch hopener ⟨rfl, .inl ⟨hx, rfl⟩⟩).trans ?_
  rw [hx]
  rfl

lemma advance_else {construct : String} {pos : Position}
    (hconstruct : construct = "if" ∨ construct = "for") (hx : x.name = "else") :
    advance d (⟨construct, pos, false⟩ :: F) x = .ok (⟨construct, pos, true⟩ :: F) := by
  have hopener : x.name ∉ openers := hx ▸ by decide
  refine (advance_branch hopener ⟨rfl, .inr ⟨hx, hconstruct⟩⟩).trans ?_
  rw [hx]
  rfl

/-- Before signs that begin no other part it does not matter whether the last part has begun. -/
lemma advance_ended {construct : String} {pos : Position}
    (hbranches : ¬ Frame.branches ⟨construct, pos, false⟩ x) (hx : x.name ∉ openers) :
    advance d (⟨construct, pos, true⟩ :: F) x = advance d (⟨construct, pos, false⟩ :: F) x := by
  have hended : ¬ Frame.branches ⟨construct, pos, true⟩ x := by
    rintro ⟨⟨⟩, -⟩
  by_cases hclose : x.name = closer d construct
  · rw [advance_closer hx hended hclose, advance_closer hx hbranches hclose]
  · rw [advance_mismatched hx hended hclose, advance_mismatched hx hbranches hclose]

lemma not_isTerminator {name : String} (h : name ∈ openers) : isTerminator d name = false := by
  have hall : ∀ name ∈ openers, isTerminator d name = false := by
    cases d <;> decide
  exact hall name h

lemma closer_not_mem_openers (d : Dialect) (construct : String) :
    closer d construct ∉ openers := by
  intro h
  have hterminator := isTerminator_closer d construct
  rw [not_isTerminator h] at hterminator
  cases hterminator

lemma not_branches_closer {construct : String} (hclose : x.name = closer d construct) :
    ¬ f.branches x := by
  rintro ⟨-, ⟨hx, -⟩ | ⟨hx, -⟩⟩
  · exact (closer_ne d construct).1 (hclose.symm.trans hx)
  · exact (closer_ne d construct).2 (hclose.symm.trans hx)

end Steps

/-! ### Words that are accepted -/

section Proper

variable {d : Dialect} {level : Level} {w : List Sign}

/-- What is open where a word of the level begins. -/
def Level.opened (pos : Position) : Level → List Frame
  | .outside => []
  | .within construct _ => [⟨construct, pos, false⟩]

/-- What is open behind a word of the level. -/
def Level.reached (pos : Position) : Level → List Frame
  | .outside => []
  | .within construct ended => [⟨construct, pos, ended⟩]

/-- Inside of a directive that has no other parts, a word is as it may be outside. -/
lemma Proper.nested {construct : String} {ended : Bool} (h : Proper d (.within construct ended) w)
    (hif : construct ≠ "if") (hfor : construct ≠ "for") : Nested d w := by
  generalize hlevel : Level.within construct ended = level at h
  induction h with
  | outside | within => exact .outside
  | directive _ ho hbody hc ihbefore _ => exact .directive (ihbefore hlevel) ho hbody hc
  | elif =>
    cases hlevel
    exact absurd rfl hif
  | otherwise _ hconstruct =>
    cases hlevel
    exact absurd hconstruct (not_or.mpr ⟨hif, hfor⟩)

/-- A proper word leads from the start of its level to the end. -/
lemma judge_proper (h : Proper d level w) (pos : Position) (F : List Frame) (rest : List Sign) :
    judge d (level.opened pos ++ F) (w ++ rest) = judge d (level.reached pos ++ F) rest := by
  induction h generalizing pos F rest with
  | outside | within => rfl
  | @directive level o c before body ended hbefore ho hbody hc ihbefore ihbody =>
    have hclosed : c.name ∉ openers := hc ▸ closer_not_mem_openers d o.name
    calc judge d (level.opened pos ++ F) (before ++ o :: (body ++ [c]) ++ rest)
        = judge d (level.opened pos ++ F) (before ++ o :: (body ++ c :: rest)) := by simp
      _ = judge d (level.reached pos ++ F) (o :: (body ++ c :: rest)) := ihbefore pos F _
      _ = judge d (⟨o.name, o.start, false⟩ :: (level.reached pos ++ F)) (body ++ c :: rest) :=
        judge_cons_ok (advance_opener ho)
      _ = judge d (⟨o.name, o.start, ended⟩ :: (level.reached pos ++ F)) (c :: rest) :=
        ihbody o.start _ _
      _ = judge d (level.reached pos ++ F) rest :=
        judge_cons_ok (advance_closer hclosed (not_branches_closer hc) hc)
  | @elif x before hbefore hx ih =>
    rw [List.append_assoc]
    exact (ih pos F _).trans (judge_cons_ok (advance_elif hx))
  | @otherwise construct x before hbefore hconstruct hx ih =>
    rw [List.append_assoc]
    exact (ih pos F _).trans (judge_cons_ok (advance_else hconstruct hx))

end Proper

/-! ### Words that have been read -/

section Leads

variable {d : Dialect} {F F' : List Frame} {x : Sign} {u w : List Sign} {e : ParseError}

lemma Leads.directive (h : Leads d F u) {o c : Sign} {body : List Sign} {ended : Bool}
    (ho : o.name ∈ openers) (hbody : Proper d (.within o.name ended) body)
    (hc : c.name = closer d o.name) : Leads d F (u ++ o :: (body ++ [c])) := by
  cases h with
  | outside hu => exact .outside (.directive hu ho hbody hc)
  | inside hu ho' hbody' =>
    rw [List.append_assoc, List.cons_append]
    exact .inside hu ho' (.directive hbody' ho hbody hc)

lemma Leads.advance (h : Leads d F u) (hx : advance d F x = .ok F') : Leads d F' (u ++ [x]) := by
  by_cases hopener : x.name ∈ openers
  · rw [advance_opener hopener] at hx
    cases hx
    exact .inside h hopener (.within _)
  · cases h with
    | outside hu =>
      rw [advance_stray hopener] at hx
      cases hx
    | @inside F u body o ended hu ho hbody =>
      rw [List.append_assoc, List.cons_append]
      by_cases hbranches : Frame.branches ⟨o.name, o.start, ended⟩ x
      · obtain ⟨hended, ⟨hx', hif⟩ | ⟨hx', hconstruct⟩⟩ := hbranches
        · obtain rfl : ended = false := hended
          replace hif : o.name = "if" := hif
          rw [hif, advance_elif hx'] at hx
          cases hx
          have hbody' : Proper d (.within o.name false) (body ++ [x]) := by
            rw [hif] at hbody ⊢
            exact .elif hbody hx'
          have hnext := Leads.inside hu ho hbody'
          rw [hif] at hnext
          exact hnext
        · obtain rfl : ended = false := hended
          rw [advance_else hconstruct hx'] at hx
          cases hx
          exact .inside hu ho (.otherwise hbody hconstruct hx')
      · by_cases hclose : x.name = closer d o.name
        · rw [advance_closer hopener hbranches hclose] at hx
          cases hx
          exact hu.directive ho hbody hclose
        · rw [advance_mismatched hopener hbranches hclose] at hx
          cases hx

lemma Leads.misnested (h : Leads d F u) (hx : Node.advance d F x = .error e) (after : List Sign) :
    Misnested d (u ++ x :: after) e := by
  by_cases hopener : x.name ∈ openers
  · rw [advance_opener hopener] at hx
    cases hx
  · cases F with
    | nil =>
      rw [advance_stray hopener] at hx
      cases hx
      cases h with
      | outside hu => exact .stray rfl hu hopener
    | cons f F =>
      by_cases hbranches : f.branches x
      · rw [advance_branch hopener hbranches] at hx
        cases hx
      · by_cases hclose : x.name = closer d f.construct
        · rw [advance_closer hopener hbranches hclose] at hx
          cases hx
        · rw [advance_mismatched hopener hbranches hclose] at hx
          cases hx
          exact .mismatched rfl h hopener hbranches hclose

/-- From where the read part leads, the verdict is right. -/
lemma Leads.judge (h : Leads d F u) :
    (judge d F w = none → Nested d (u ++ w)) ∧
      ∀ e, Node.judge d F w = some e → Misnested d (u ++ w) e := by
  induction w generalizing F u with
  | nil =>
    rw [List.append_nil]
    cases F with
    | nil =>
      cases h with
      | outside hu => exact ⟨fun _ => hu, nofun⟩
    | cons f F =>
      refine ⟨nofun, fun e he => ?_⟩
      cases he
      exact .unclosed h
  | cons x w ih =>
    cases hx : Node.advance d F x with
    | ok F' =>
      rw [judge_cons_ok hx]
      have hrest := ih (h.advance hx)
      rw [List.append_assoc] at hrest
      exact hrest
    | error e =>
      rw [judge_cons_error hx]
      refine ⟨nofun, ?_⟩
      rintro _ ⟨⟩
      exact h.misnested hx w

/-- The verdict on a word is the verdict on its rest with what is open there. -/
lemma Leads.judge_append (h : Leads d F u) (w : List Sign) :
    Node.judge d [] (u ++ w) = Node.judge d F w := by
  induction h generalizing w with
  | outside hu => exact judge_proper hu .start [] w
  | @inside F u body o ended hu ho hbody ih =>
    rw [List.append_assoc, ih, List.cons_append, judge_cons_ok (advance_opener ho)]
    exact judge_proper hbody o.start F w

/-- A word that is read on without an error is read through each of its signs. -/
lemma Leads.exists_advance (h : Leads d F u) {v : List Sign}
    (hjudge : Node.judge d F (v ++ x :: w) = none) :
    ∃ G G', Leads d G (u ++ v) ∧ Node.advance d G x = .ok G' := by
  induction v generalizing F u with
  | nil =>
    rw [List.append_nil]
    cases hx : Node.advance d F x with
    | ok F' => exact ⟨F, F', h, hx⟩
    | error e => cases (judge_cons_error hx).symm.trans hjudge
  | cons y v ih =>
    cases hy : Node.advance d F y with
    | error e => cases (judge_cons_error hy).symm.trans hjudge
    | ok F' =>
      have hrest := ih (h.advance hy) ((judge_cons_ok hy).symm.trans hjudge)
      rw [List.append_assoc] at hrest
      exact hrest

end Leads

/-- The stack machine accepts the properly nested words. -/
theorem judge_eq_none_iff {d : Dialect} {w : List Sign} : judge d [] w = none ↔ Nested d w := by
  refine ⟨(Leads.outside .outside).judge.1, fun h => ?_⟩
  have hjudge := (Leads.outside h).judge_append []
  rw [List.append_nil] at hjudge
  exact hjudge

/-- A closer in a properly nested word closes a directive before it, and what stands between the two
is proper there. -/
theorem Nested.exists_opener {d : Dialect} {before after : List Sign} {c : Sign}
    {construct : String} (h : Nested d (before ++ c :: after)) (hc : c.name = closer d construct) :
    ∃ front o body ended, before = front ++ o :: body ∧ o.name ∈ openers ∧
      Proper d (.within o.name ended) body ∧ c.name = closer d o.name := by
  have hopener : c.name ∉ openers := hc ▸ closer_not_mem_openers d construct
  obtain ⟨F, F', hbefore, hadvance⟩ :=
    (Leads.outside .outside).exists_advance (judge_eq_none_iff.mpr h)
  rw [List.nil_append] at hbefore
  cases hbefore with
  | outside => cases (advance_stray hopener).symm.trans hadvance
  | @inside F u body o ended hu ho hbody =>
    by_cases hclose : c.name = closer d o.name
    · exact ⟨u, o, body, ended, rfl, ho, hbody, hclose⟩
    · cases (advance_mismatched hopener (not_branches_closer hc) hclose).symm.trans hadvance

/-- The stack machine finds what is wrong with the other words. -/
theorem judge_eq_some_iff {d : Dialect} {w : List Sign} {e : ParseError} :
    judge d [] w = some e ↔ Misnested d w e := by
  refine ⟨(Leads.outside .outside).judge.2 e, fun h => ?_⟩
  cases h with
  | unclosed hw =>
    have hjudge := hw.judge_append []
    rw [List.append_nil] at hjudge
    exact hjudge
  | mismatched hw hbefore hx hbranches hclose =>
    rw [hw, hbefore.judge_append, judge_cons_error (advance_mismatched hx hbranches hclose)]
  | stray hw hbefore hx =>
    rw [hw, (Leads.outside hbefore).judge_append, judge_cons_error (advance_stray hx)]

/-- Behind `else` no `elif` may stand. -/
example : judge .jinja [] (["if", "else", "elif", "endif"].map (⟨·, .start, .start⟩)) =
    some (.mismatchedCloser "endif" "elif" .start) := by
  decide

end Stencil.Node
