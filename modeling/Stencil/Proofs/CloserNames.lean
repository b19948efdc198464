import Stencil.Proofs.Boundaries
import Stencil.Proofs.NestedDirectives

/-! Closers of blocks and macros may carry a name. Each of them closes the block or macro that is
open innermost, and the name that it carries does not matter: it need not be that of what is
closed. -/
namespace Stencil.Node

open Stencil.Parser

/-- The name that stands behind the name of a directive: that of the block or macro which the
directive opens, or the one that its closer carries. -/
def label? (c : List Token) : Option String := (c.drop 2).head?.bind Token.name?

/-- The constructs are the same, or closers of a block or macro that differ only in the names they
carry, which either may lack. -/
inductive Relabelled : List Token → List Token → Prop
  | same (c : List Token) : Relabelled c c
  | closer {start word stop : Token} {label label' : Option Token}
      (hstart : start.kind = .directiveStart)
      (hword : word.kind = .ident "endblock" ∨ word.kind = .ident "endmacro")
      (hlabel : ∀ t ∈ label, ∃ name, t.kind = .ident name)
      (hlabel' : ∀ t ∈ label', ∃ name, t.kind = .ident name)
      (hstop : stop.kind = .directiveEnd) :
      Relabelled (start :: word :: (label.toList ++ [stop]))
        (start :: word :: (label'.toList ++ [stop]))

/-! ### Names of closers -/

/-- A closer of a block or macro is read through its end with any name or none. -/
lemma accepts_label {construct : String} (hconstruct : construct = "block" ∨ construct = "macro")
    {label : Option Token} (hlabel : ∀ t ∈ label, ∃ name, t.kind = .ident name) {stop : Token}
    (hstop : stop.kind = .directiveEnd) :
    Accepts (closing .jinja construct) label.toList stop () := by
  intro s more
  have hend : endDirective.outcome s (stop :: more) = .ok ((), more) := by
    refine outcome_bind_ok (a := stop) ((outcome_bind_ok outcome_next_cons _).trans ?_) _
    rw [isDirectiveEnd_of_kind hstop]
    rfl
  unfold closing
  rw [if_pos ⟨rfl, hconstruct⟩]
  cases label with
  | none =>
    have hname : stop.name? = none := name?_of_ends (.inr hstop)
    refine (outcome_bind_ok outcome_eat_cons _).trans ?_
    rw [hname]
    exact hend
  | some t =>
    obtain ⟨name, ht⟩ := hlabel t rfl
    have hname : t.name? = some name := by rw [Token.name?, ht]
    refine (outcome_bind_ok outcome_eat_cons _).trans ?_
    rw [hname]
    exact hend

lemma inner_label {label : Option Token} (hlabel : ∀ t ∈ label, ∃ name, t.kind = .ident name) :
    Inner label.toList := by
  intro t ht
  obtain ⟨name, ht⟩ := hlabel t (Option.mem_toList.mp ht)
  rw [Token.isInner, ht]

/-- The parser reads closers alike whatever names they carry. -/
lemma Relabelled.alike {c c' : List Token} (h : Relabelled c c') : Alike .jinja c c' := by
  cases h with
  | same => exact .same c
  | @closer start word stop label label' hstart hword hlabel hlabel' hstop =>
    obtain ⟨construct, hconstruct, hword⟩ : ∃ construct,
        (construct = "block" ∨ construct = "macro") ∧
          word.kind = .ident (Node.closer .jinja construct) :=
      hword.elim (fun h => ⟨"block", .inl rfl, h⟩) fun h => ⟨"macro", .inr rfl, h⟩
    exact .closer ⟨start, word, label.toList, stop, _, hstart, hword, inner_label hlabel, hstop⟩
      (inner_label hlabel') rfl (accepts_label hconstruct hlabel hstop)
      (accepts_label hconstruct hlabel' hstop)

/-- Constructs that are alike make the same nodes, or the same error. -/
theorem ofTokens_alike {s : TokenStream} {cs ds : List (List Token)} (hcs : Grouped s.dialect cs)
    (htokens : cs.flatten = s.tokens) (hds : AllAlike s.dialect cs ds) :
    ofTokens { s with tokens := ds.flatten } = ofTokens s := by
  -- The other parser reads `cs` beside `ds` and beside `cs` itself, so its run stands between them.
  have hreads : ∀ {ds}, AllAlike s.dialect cs ds →
      ofTokens { s with tokens := ds.flatten } =
        (templateBy (closeAsserting fun _ => endDirective) ⟨s.dialect, s.fault, s.stop⟩
          cs.flatten).map (·.value) := by
    intro ds hds
    unfold ofTokens
    rw [← templateBy_close]
    have hread : Reads _ _ _ (templateBy (closeAsserting fun _ => endDirective))
        (templateBy close) cs.flatten ds.flatten :=
      (course_grouped ⟨s.dialect, s.fault, s.stop⟩).reads_template hcs hds
    cases hread with
    | error he hp hq =>
      rw [outcome_eq_error hp, outcome_eq_error hq]
      rfl
    | ok nodes hQ hrest hp hq =>
      obtain ⟨_, hp⟩ := outcome_eq_ok hp
      obtain ⟨_, hq⟩ := outcome_eq_ok hq
      rw [hp, hq]
      rfl
  have hsame := (hreads hds).trans (hreads (.refl cs)).symm
  rw [htokens] at hsame
  exact hsame

/-! ### Names of openers -/

/-- A block or macro has a name. -/
def Labelled (c : List Token) : Prop :=
  directiveName? c = some "block" ∨ directiveName? c = some "macro" → (label? c).isSome = true

lemma labelled_of_accepts {x : Directive} {expr : Parser Expr} {pos : Position} {made : Opening}
    (h : Accepts (heading expr pos x.name) x.args x.stop made) : Labelled x.tokens := by
  have hname : ∀ {f : String → Parser Opening} {expected : String},
      Accepts (identifier expected >>= f) x.args x.stop made → (label? x.tokens).isSome = true := by
    intro f expected h
    obtain ⟨t, ts, hts⟩ := List.exists_cons_of_ne_nil
      (List.append_ne_nil_of_right_ne_nil x.args (List.cons_ne_nil x.stop []))
    have hread := h ⟨.jinja, none, .start⟩ []
    have hlabel : label? x.tokens = t.name? := by
      change (x.args ++ [x.stop]).head?.bind Token.name? = _
      rw [hts]
      rfl
    rw [hlabel]
    rw [hts] at hread
    cases hname : t.name? with
    | some name => rfl
    | none =>
      cases (outcome_bind_error (outcome_identifier_error hname) f).symm.trans hread
  rw [Labelled, x.directiveName?_tokens]
  rintro (hx | hx)
  all_goals
    rw [Option.some.inj hx] at h
    exact hname h

/-- The constructs that have been read are labelled if they need to be. -/
lemma course_labelled (s : Source) (w : List (List Token)) :
    Course s (fun _ cs => Grouped s.dialect cs ∧ ∀ c ∈ w, Labelled c ∨ c ∈ cs)
      (fun _ => True) := by
  have hpass : ∀ {c : List Token} {cs : List (List Token)},
      (Grouped s.dialect (c :: cs) ∧ ∀ c' ∈ w, Labelled c' ∨ c' ∈ c :: cs) → Labelled c →
        Grouped s.dialect cs ∧ ∀ c' ∈ w, Labelled c' ∨ c' ∈ cs := by
    rintro c cs ⟨hgrouped, hw⟩ hc
    refine ⟨hgrouped.tail, fun c' hc' => ?_⟩
    obtain h | h := hw c' hc'
    · exact .inl h
    · obtain rfl | h := List.mem_cons.mp h
      · exact .inl hc
      · exact .inr h
  have hnameless : ∀ {c : List Token}, directiveName? c = none → Labelled c := by
    rintro c hc (h | h) <;> cases hc.symm.trans h
  have hterminator : ∀ {x : Directive}, isTerminator s.dialect x.name = true →
      Labelled x.tokens := by
    rintro x hx (h | h)
    all_goals
      rw [x.directiveName?_tokens] at h
      rw [Option.some.inj h, not_isTerminator (by decide)] at hx
      cases hx
  exact {
    grouped := And.left
    fault := fun _ => trivial
    tooDeep := fun _ => trivial
    piece := fun {F t cs} h _ => hpass h (hnameless (directiveName?_singleton t))
    print := fun h hstart n =>
      ⟨hpass h (hnameless (directiveName?_of_print hstart)), fun _ _ => trivial⟩
    nameless := fun _ _ _ _ _ => trivial
    heading := fun h _ n =>
      ⟨fun _ hmade => hpass h (labelled_of_accepts hmade), fun _ _ => trivial⟩
    elif := fun h hx n => ⟨hpass h (hterminator (hx ▸ isTerminator_elif _)), fun _ _ => trivial⟩
    otherwise := fun h _ hx =>
      ⟨hpass h (hterminator (hx ▸ isTerminator_else _)), fun _ _ => trivial⟩
    ended := fun h _ _ _ => h
    unclosed := fun _ _ => trivial
    mismatched := fun _ _ _ => trivial
    closed := fun h hx =>
      ⟨hpass h (hterminator (hx ▸ isTerminator_closer _ _)), fun _ _ => trivial⟩
    stray := fun _ _ => trivial }

lemma labelled_of_ofSource {d : Dialect} {choice : Option Dialect} {source : String}
    {nodes : List Node} (h : ofSource choice source = .ok (nodes, d)) :
    ∀ c ∈ constructsOf d source, Labelled c := by
  have hcourse : ∀ s : Source, s.dialect = d → Course s
      (fun _ cs => Grouped d cs ∧ ∀ c ∈ constructsOf d source, Labelled c ∨ c ∈ cs)
      (fun _ => True) := by
    rintro s rfl
    exact course_labelled s _
  have hend := Course.at_end hcourse h ⟨(grouped_constructsOf d source).1, fun c => .inr⟩
  exact fun c hc => (hend.2 c hc).resolve_right List.not_mem_nil

/-! ### What closers close -/

/-- A closer of a block or macro closes the one that is open innermost, and the text is parsed
alike whatever names the closers carry. -/
theorem closers_with_any_label {choice : Option Dialect} {source : String} {nodes : List Node}
    (h : ofSource choice source = .ok (nodes, .jinja)) :
    (∀ before c after construct, constructsOf .jinja source = before ++ c :: after →
      construct = "block" ∨ construct = "macro" →
      directiveName? c = some (closer .jinja construct) →
      ∃ front o body label, before = front ++ o :: body ∧ directiveName? o = some construct ∧
        label? o = some label ∧ Nested .jinja (signs .jinja body)) ∧
    ∀ cs, List.Forall₂ Relabelled (constructsOf .jinja source) cs →
      ofTokens { TokenStream.ofText .jinja source.toList with tokens := cs.flatten } =
        .ok nodes := by
  refine ⟨fun before c after construct hsplit hconstruct hc => ?_, fun cs hcs => ?_⟩
  · obtain ⟨y, hy, hclose⟩ := Option.map_eq_some_iff.mp ((sign?_map_name c).trans hc)
    have hnested := nested_of_ofSource h
    rw [hsplit, signs_append,
      signs_cons_of_some hy (.inr (hclose ▸ isTerminator_closer _ _))] at hnested
    -- The word splits at the opener, and the constructs split where the word does.
    obtain ⟨_, x, _, ended, hbefore, -, hbody, hopener⟩ := hnested.exists_opener hclose
    obtain ⟨front, o, body, rfl, ho, rfl⟩ := exists_construct hbefore
    obtain rfl : x.name = construct := by
      simpa [closer] using hopener.symm.trans hclose
    have hname : directiveName? o = some x.name := by
      rw [← sign?_map_name, ho]
      rfl
    have ho : o ∈ constructsOf .jinja source := by simp [hsplit]
    have hlabel : (label? o).isSome = true := by
      refine labelled_of_ofSource h o ho ?_
      rw [hname]
      exact hconstruct.imp (congrArg some) (congrArg some)
    obtain ⟨label, hlabel⟩ := Option.isSome_iff_exists.mp hlabel
    refine ⟨front, o, body, label, rfl, hname, hlabel, hbody.nested ?_ ?_⟩
    all_goals
      obtain hx | hx := hconstruct <;> rw [hx] <;> decide
  · obtain ⟨hgrouped, htokens⟩ := grouped_constructsOf .jinja source
    rw [ofTokens_alike hgrouped htokens (hcs.imp fun _ _ => Relabelled.alike)]
    exact (scanned_of_ofSource h).2

/-- A macro inside of a block, where each closer carries the name of the other one. -/
def crossed : String :=
  "{% block a %}" ++ Token.Jinja.TagKind.block.around " macro m() " ++
    "x{% endmacro a %}{% endblock m %}"

theorem closers_with_any_label_crossed :
    (constructsOf .jinja crossed).map label? = [some "a", some "m", none, some "a", some "m"] ∧
    ∃ nodes, ofSource (some .jinja) crossed = .ok (nodes, .jinja) ∧
      ∀ cs, List.Forall₂ Relabelled (constructsOf .jinja crossed) cs →
        ofTokens { TokenStream.ofText .jinja crossed.toList with tokens := cs.flatten } =
          .ok nodes := by
  have hdialect : (ofSource (some .jinja) crossed).toOption.map (·.2) = some .jinja := by
    decide +kernel
  obtain ⟨⟨nodes, _⟩, hread, rfl⟩ := Option.map_eq_some_iff.mp hdialect
  have hnodes := Except.eq_ok_of_toOption hread
  exact ⟨by decide +kernel, nodes, hnodes, (closers_with_any_label hnodes).2⟩

end Stencil.Node
