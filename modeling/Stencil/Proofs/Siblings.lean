import Stencil.Proofs.Steady

/-! Templates one after another. The parser of nodes starts anew with each node, so that what stands
before a node changes neither the node nor what is wrong with it. -/
namespace Stencil

namespace TokenStream

/-- The tokens of a text and then those of another one, unless the first text cannot be read to its
end. -/
def followedBy (s t : TokenStream) : TokenStream :=
  match s.fault with
  | some _ => s
  | none => { t with tokens := s.tokens ++ t.tokens }

/-- No tokens. -/
def empty (d : Dialect) (stop : Position) : TokenStream := ⟨d, [], none, stop⟩

lemma dialect_followedBy {s t : TokenStream} (h : s.dialect = t.dialect) :
    (s.followedBy t).dialect = t.dialect := by
  unfold followedBy
  split
  · exact h
  · rfl

end TokenStream

namespace Node

open Stencil.Parser

variable {s s' : Source} {ts rest : List Token} {expr : Parser Expr}

/-! ### Directives -/

/-- Only the start of a directive is looked behind. -/
lemma steady_directiveAhead : Steady directiveAhead := by
  intro s ts
  cases ts with
  | nil => exact .nil
  | cons t ts =>
    obtain ⟨kind, lexeme, offset, pos⟩ := t
    cases kind with
    | directiveStart =>
      cases ts with
      | nil =>
        exact fun _ _ h => .inl (Spent.of_suffix (.inr ⟨_, rfl, rfl⟩) (suffix_of_outcome h))
      | cons u ts =>
        rintro _ _ ⟨⟩
        exact .inr fun _ _ _ => rfl
    | _ =>
      rintro _ _ ⟨⟩
      exact .inr fun _ _ _ => rfl

lemma steady_nodeAhead : Steady nodeAhead := by
  refine steady_directiveAhead.bind fun name => ?_
  cases name with
  | none => exact steady_ahead.bind fun _ => steady_pure
  | some name => exact steady_dialect.bind fun _ => steady_pure

lemma steady_directiveIs (name : String) : Steady (directiveIs name) :=
  steady_directiveAhead.bind fun _ => steady_pure

lemma settling_close (construct : String) (opened : Position) :
    Settling (close construct opened) := by
  refine steady_dialect.before fun d => steady_next?.before fun t => ?_
  cases t with
  | none => exact settling_fail
  | some t =>
    refine steady_identifierAt.before fun r => .ite settling_fail ?_
    exact .ite (steady_eat.before fun _ => settling_endDirective) settling_endDirective

lemma steady_parameter (h : Steady expr) : Steady (parameter expr) :=
  steady_identifier.bind fun _ => steady_eat.bind fun _ =>
    .ite (h.bind fun _ => steady_pure) steady_pure

lemma steady_filterCall (h : Steady expr) : Steady (filterCall expr) :=
  steady_identifier.bind fun _ => (Expr.steady_arguments? h).bind fun _ => steady_pure

lemma steady_filterChain (h : Steady expr) : Steady (filterChain expr) := by
  refine (steady_filterCall h).bind fun first => (steady_repeatWhile ?_ fun _ _ => ?_).bind
    fun more => steady_pure
  · exact steady_ahead.bind fun _ => steady_pure
  · exact (steady_filterCall h).bind fun _ => steady_pure

lemma steady_bindings (h : Steady expr) : Steady (bindings expr) := by
  refine steady_repeatWhile (steady_ahead.bind fun _ => steady_pure) fun name _ => ?_
  exact steady_expect.bind fun _ => h.bind fun _ => steady_eat.bind fun _ => steady_pure

lemma settling_heading (h : Steady expr) (pos : Position) (name : String) :
    Settling (heading expr pos name) := by
  have hend : ∀ made : Opening, Settling (do
      endDirective
      return made) := fun made => settling_endDirective.map fun _ => made
  unfold heading
  split
  · exact h.before fun _ => hend _
  · have hrest : ∀ binding, Settling (do
        let _ ← expect (isKeyword .isIn) "`in`"
        let iterable ← expr
        endDirective
        return Opening.loop fun body otherwise => .forEach binding iterable body otherwise pos) :=
      fun binding => steady_expect.before fun _ => h.before fun _ => hend _
    simp only [pure_bind]
    exact steady_identifier.before fun _ => steady_eat.before fun _ =>
      .ite (steady_identifier.before fun _ => hrest _) (hrest _)
  · refine steady_identifier.before fun _ => steady_expect.before fun _ => ?_
    exact (steady_commaList (steady_parameter h) _ _).before fun _ => hend _
  · refine h.before fun callee => ?_
    simp only [pure_bind]
    split
    · exact hend _
    · exact hend _
    · exact settling_fail
  iterate 2
    · exact steady_identifier.before fun _ => steady_expect.before fun _ => h.before fun _ => hend _
  · exact steady_identifier.before fun _ => hend _
  iterate 2
    · exact h.before fun _ => hend _
  · exact h.before fun _ => steady_expect.before fun _ => steady_identifier.before fun _ => hend _
  · refine steady_ahead.before fun t => ?_
    cases t.bind (escapeMode? ·.kind) with
    | none => exact settling_fail
    | some enabled => exact steady_eat.before fun _ => hend _
  · exact (steady_filterChain h).before fun _ => hend _
  · exact hend _
  · exact (steady_bindings h).before fun _ => hend _
  iterate 2
    · exact hend _
  · exact settling_fail

section Nodes

variable {nodes : Parser (List Node)} (hexpr : Steady expr) (hnodes : Steady nodes)

include hnodes in
lemma steady_alternative? : Steady (alternative? nodes) := by
  refine (steady_directiveIs "else").bind fun found => ?_
  cases found with
  | none => exact steady_pure
  | some _ =>
    refine steady_next?.bind fun _ => steady_next?.bind fun _ => ?_
    exact settling_endDirective.steady.bind fun _ => hnodes.bind fun _ => steady_pure

lemma steady_rawText : Steady rawText := by
  refine steady_ahead.bind fun t => ?_
  split
  · exact steady_next?.bind fun _ => steady_pure
  · exact steady_pure

include hexpr hnodes in
lemma lasting_enclosed (pos : Position) (made : Opening) :
    Lasting (enclosed close expr nodes pos made) := by
  have hclose : ∀ construct (node : Node), Settling (do
      close construct pos
      return node) := fun construct node => (settling_close construct pos).map fun _ => node
  cases made with
  | alone node => exact lasting_pure
  | enclosing construct wrap => exact (hnodes.before fun _ => hclose _ _).lasting
  | raw => exact (steady_rawText.before fun _ => hclose _ _).lasting
  | loop wrap =>
    exact (hnodes.before fun _ => (steady_alternative? hnodes).before fun _ => hclose _ _).lasting
  | branch condition =>
    refine (hnodes.before fun _ => (steady_repeatWhile (steady_directiveIs "elif") fun _ _ =>
      ?_).before fun _ => (steady_alternative? hnodes).before fun _ => hclose _ _).lasting
    refine steady_next?.bind fun _ => Steady.bind ?_ fun _ => steady_pure
    exact hexpr.bind fun _ => settling_endDirective.steady.bind fun _ =>
      hnodes.bind fun _ => steady_pure

include hexpr hnodes in
lemma settling_directiveBy (pos : Position) : Settling (directiveBy close expr nodes pos) :=
  steady_identifier.before fun name => (settling_heading hexpr pos name).bind fun made =>
    lasting_enclosed hexpr hnodes pos made

end Nodes

/-! ### Nodes -/

section Piece

variable {directive : Position → Parser Node} (hdirective : ∀ pos, Settling (directive pos))
include hdirective

lemma lasting_piece (hexpr : Steady expr) (t : Token) : Lasting (piece expr directive t) := by
  unfold piece
  split
  · exact lasting_pure
  · exact lasting_pure
  · refine (hexpr.before fun e => Settling.map (settling_expect fun t ht => ?_) _).lasting
    unfold isPrintEnd
    unfold Token.leans at ht
    split at ht <;> simp_all
  · exact ((hdirective _).map _).lasting
  · exact settling_unexpected.lasting

/-- A node does not end with a token that leans on the next one. -/
lemma settling_piece {t : Token} (ht : t.leans = true) : Settling (piece expr directive t) := by
  obtain ⟨kind, lexeme, offset, pos⟩ := t
  cases kind with
  | directiveStart => exact (hdirective _).map _
  | keyword => exact settling_unexpected
  | _ => cases ht

end Piece

/-- Behind each node another one may follow. -/
lemma again_of_piece {directive : Position → Parser Node} {t : Token} :
    Gives (·.2 = true) (piece expr directive t) := by
  unfold piece
  split
  · exact .pure rfl
  · exact .pure rfl
  · exact .after fun _ => .after fun _ => .pure rfl
  · exact .after fun _ => .pure rfl
  · exact gives_fail

lemma steady_parserBy (n : Nat) : Steady (parserBy close n) := by
  induction n with
  | zero =>
    refine steady_repeatWhile steady_nodeAhead fun _ t => Lasting.steady ?_
    exact lasting_piece (fun _ => settling_tooDeep) (Expr.steady_all 0) t
  | succ n ih =>
    refine steady_repeatWhile steady_nodeAhead fun _ t => Lasting.steady ?_
    exact lasting_piece (settling_directiveBy (Expr.steady_all n) ih) (Expr.steady_all (n + 1)) t

lemma rest_of_ahead {t : Option Token} (h : ahead.outcome s ts = .ok (t, rest)) : rest = ts := by
  cases ts with
  | nil => exact List.suffix_nil.mp (suffix_of_outcome h)
  | cons u ts => exact (Prod.mk.inj (Except.ok.inj h)).2.symm

lemma rest_of_secondAhead {t : Option Token} (h : secondAhead.outcome s ts = .ok (t, rest)) :
    rest = ts := by
  match ts, h with
  | [], h => exact List.suffix_nil.mp (suffix_of_outcome h)
  | [u], h =>
    unfold outcome secondAhead atEnd at h
    cases hs : s.fault <;> rw [hs] at h <;> cases h
    rfl
  | u :: v :: ts, h => exact (Prod.mk.inj (Except.ok.inj h)).2.symm

/-- Looking for a node takes no tokens. -/
lemma rest_of_nodeAhead {b : Option Unit} (h : nodeAhead.outcome s ts = .ok (b, rest)) :
    rest = ts := by
  obtain ⟨name, mid, hname, hnode⟩ := exists_of_outcome_bind h
  obtain rfl : mid = ts := by
    obtain ⟨t, mid', ht, hread⟩ := exists_of_outcome_bind hname
    obtain rfl := rest_of_ahead ht
    split at hread
    · obtain ⟨u, hu, -⟩ := exists_of_outcome_map hread
      exact rest_of_secondAhead hu
    · exact (Prod.mk.inj (Except.ok.inj hread)).2.symm
  cases name with
  | none =>
    obtain ⟨t, ht, -⟩ := exists_of_outcome_map hnode
    exact rest_of_ahead ht
  | some name =>
    obtain ⟨d, hd, -⟩ := exists_of_outcome_map hnode
    exact (Prod.mk.inj (Except.ok.inj hd)).2.symm

/-- Nodes up to the end of the tokens, and then those of other tokens. -/
lemma outcome_nodes_append {item : Token → Parser (Node × Bool)} (hitem : ∀ t, Lasting (item t))
    (hleans : ∀ t : Token, t.leans = true → Settling (item t))
    (hagain : ∀ t, Gives (·.2 = true) (item t)) {nodes : List Node}
    (hread : (repeatWhile nodeAhead fun _ => item).outcome s ts = .ok (nodes, []))
    (hs : s'.dialect = s.dialect) (more : List Token) :
    (repeatWhile nodeAhead fun _ => item).outcome s' (ts ++ more) =
      ((repeatWhile nodeAhead fun _ => item).outcome s' more).map
        fun r => (nodes ++ r.1, r.2) := by
  induction hn : ts.length using Nat.strongRecOn generalizing ts nodes with
  | ind n ih =>
  subst hn
  cases hb : nodeAhead.outcome s ts with
  | error e => cases (repeatWhile_error hb).symm.trans hread
  | ok r =>
    obtain ⟨b, us⟩ := r
    obtain rfl := rest_of_nodeAhead hb
    cases us with
    | nil =>
      have hnodes : nodes = [] := by
        cases b with
        | none =>
          cases (repeatWhile_none hb).symm.trans hread
          rfl
        | some b =>
          cases (repeatWhile_nil hb).symm.trans hread
          rfl
      rw [hnodes, List.nil_append]
      cases (repeatWhile nodeAhead fun _ => item).outcome s' more <;> rfl
    | cons t us =>
      cases b with
      | none => cases (repeatWhile_none hb).symm.trans hread
      | some b =>
        rw [repeatWhile_some hb] at hread
        obtain ⟨⟨node, again⟩, mid, hnode, hread⟩ := exists_of_outcome_bind hread
        obtain rfl : again = true := by
          obtain ⟨_, hnode⟩ := outcome_eq_ok hnode
          exact hagain t hnode
        rw [if_pos rfl] at hread
        obtain ⟨nodes, hnodes, rfl⟩ := exists_of_outcome_map hread
        have hcarries := (steady_nodeAhead s (t :: us) hb).resolve_left fun hspent => by
          obtain hnil | ⟨u, hu, ht⟩ := hspent
          · cases hnil
          · cases hu
            exact (hleans t ht hnode).1 (.inl rfl)
        have hlt : mid.length < (t :: us).length :=
          Nat.lt_succ_of_le (suffix_of_outcome hnode).length_le
        refine (repeatWhile_some (hcarries s' hs more)).trans
          ((outcome_bind_ok (hitem t hnode s' hs more) _).trans ?_)
        rw [if_pos rfl, outcome_bind, ih _ hlt hnodes rfl]
        cases (repeatWhile nodeAhead fun _ => item).outcome s' more <;> rfl

lemma outcome_parser_append {n : Nat} {nodes : List Node}
    (h : (parser n).outcome s ts = .ok (nodes, [])) (hs : s'.dialect = s.dialect)
    (more : List Token) :
    (parser n).outcome s' (ts ++ more) =
      ((parser n).outcome s' more).map fun r => (nodes ++ r.1, r.2) := by
  rw [← parserBy_close] at h ⊢
  cases n with
  | zero =>
    have hdirective : ∀ pos : Position, Settling (tooDeep : Parser Node) :=
      fun _ => settling_tooDeep
    exact outcome_nodes_append (lasting_piece hdirective (Expr.steady_all 0))
      (fun _ => settling_piece hdirective) (fun _ => again_of_piece) h hs more
  | succ n =>
    have hdirective := settling_directiveBy (Expr.steady_all n) (steady_parserBy n)
    exact outcome_nodes_append (lasting_piece hdirective (Expr.steady_all (n + 1)))
      (fun _ => settling_piece hdirective) (fun _ => again_of_piece) h hs more

/-! ### Templates -/

lemma ofTokens_eq (s : TokenStream) :
    ofTokens s = (template.outcome ⟨s.dialect, s.fault, s.stop⟩ s.tokens).map (·.1) := by
  unfold ofTokens outcome
  cases template ⟨s.dialect, s.fault, s.stop⟩ s.tokens <;> rfl

/-- The whole of the tokens is read, and nothing is wrong behind them. -/
lemma of_outcome_template {nodes : List Node} (h : template.outcome s ts = .ok (nodes, rest)) :
    (parser maxNesting).outcome s ts = .ok (nodes, []) ∧ s.fault = none := by
  obtain ⟨nodes', mid, hnodes, h⟩ := exists_of_outcome_bind h
  obtain ⟨t, mid', ht, h⟩ := exists_of_outcome_bind h
  cases mid with
  | nil =>
    rw [outcome_next?_nil] at ht
    cases hfault : s.fault with
    | some e =>
      rw [hfault] at ht
      cases ht
    | none =>
      rw [hfault] at ht
      cases ht
      cases h
      exact ⟨hnodes, rfl⟩
  | cons u mid =>
    cases ht
    obtain ⟨name, mid, -, h⟩ := exists_of_outcome_bind h
    obtain ⟨d, mid, -, h⟩ := exists_of_outcome_bind h
    cases h

lemma outcome_template {nodes : List Node} (h : (parser maxNesting).outcome s ts = .ok (nodes, []))
    (hs : s.fault = none) : template.outcome s ts = .ok (nodes, []) := by
  unfold template
  rw [outcome_bind_ok h, outcome_bind, outcome_next?_nil, hs]
  rfl

lemma outcome_template_append {nodes : List Node} (h : template.outcome s ts = .ok (nodes, rest))
    (hs : s'.dialect = s.dialect) (more : List Token) :
    template.outcome s' (ts ++ more) =
      (template.outcome s' more).map fun r => (nodes ++ r.1, r.2) := by
  have hread := outcome_parser_append (of_outcome_template h).1 hs more
  unfold template
  rw [outcome_bind, outcome_bind, hread]
  cases (parser maxNesting).outcome s' more with
  | error e => rfl
  | ok r =>
    obtain ⟨nodes', mid⟩ := r
    change (next? >>= _).outcome s' mid = ((next? >>= _).outcome s' mid).map _
    rw [outcome_bind, outcome_bind]
    cases next?.outcome s' mid with
    | error e => rfl
    | ok r =>
      obtain ⟨t, mid⟩ := r
      cases t with
      | none => rfl
      | some t =>
        change (identifierAhead >>= _).outcome s' mid =
          ((identifierAhead >>= _).outcome s' mid).map _
        rw [outcome_bind]
        cases identifierAhead.outcome s' mid <;> rfl

lemma ofTokens_empty (d : Dialect) (stop : Position) : ofTokens (.empty d stop) = .ok [] := by
  have hparser : (parser maxNesting).outcome ⟨d, none, stop⟩ [] = .ok ([], []) := by
    unfold maxNesting parser
    exact repeatWhile_none rfl
  rw [ofTokens_eq]
  change Except.map _ (template.outcome ⟨d, none, stop⟩ []) = _
  rw [outcome_template hparser rfl]
  rfl

/-- Tokens that make up nodes, and other tokens behind them. -/
lemma ofTokens_append {s t : TokenStream} {nodes : List Node} (hd : s.dialect = t.dialect)
    (h : ofTokens s = .ok nodes) :
    ofTokens (s.followedBy t) = (ofTokens t).map (nodes ++ ·) := by
  rw [ofTokens_eq] at h
  obtain ⟨⟨nodes', rest⟩, hread, rfl⟩ := Except.exists_of_map h
  have hfault : s.fault = none := (of_outcome_template hread).2
  have hboth : s.followedBy t = { t with tokens := s.tokens ++ t.tokens } := by
    rw [TokenStream.followedBy, hfault]
  have hall : template.outcome ⟨t.dialect, t.fault, t.stop⟩ (s.tokens ++ t.tokens) = _ :=
    outcome_template_append hread hd.symm t.tokens
  rw [hboth, ofTokens_eq, ofTokens_eq, hall]
  cases template.outcome ⟨t.dialect, t.fault, t.stop⟩ t.tokens <;> rfl

/-- Tokens that make up nodes do not change how the tokens behind them are parsed: the nodes of both
stand one after another, and what is wrong is what is wrong with the latter alone. So any number of
texts that can be parsed can be parsed as one. -/
theorem ofTokens_siblings :
    (∀ {s t : TokenStream} {nodes : List Node}, s.dialect = t.dialect → ofTokens s = .ok nodes →
      ofTokens (s.followedBy t) = (ofTokens t).map (nodes ++ ·)) ∧
    ∀ {d : Dialect} {stop : Position} {parts : List (TokenStream × List Node)},
      (∀ part ∈ parts, part.1.dialect = d ∧ ofTokens part.1 = .ok part.2) →
      ofTokens ((parts.map (·.1)).foldr TokenStream.followedBy (.empty d stop)) =
        .ok (parts.flatMap (·.2)) := by
  refine ⟨ofTokens_append, fun {d stop parts} h => ?_⟩
  suffices hparts : ((parts.map (·.1)).foldr TokenStream.followedBy (.empty d stop)).dialect = d ∧
      ofTokens ((parts.map (·.1)).foldr TokenStream.followedBy (.empty d stop)) =
        .ok (parts.flatMap (·.2)) from hparts.2
  induction parts with
  | nil => exact ⟨rfl, ofTokens_empty d stop⟩
  | cons part parts ih =>
    obtain ⟨⟨hd, hpart⟩, hparts⟩ := List.forall_mem_cons.mp h
    obtain ⟨hrest, hread⟩ := ih hparts
    have hsame := hd.trans hrest.symm
    rw [List.map_cons, List.foldr_cons, ofTokens_append hsame hpart, hread]
    exact ⟨(TokenStream.dialect_followedBy hsame).trans hrest, rfl⟩

/-- A text and an interpolation. -/
def greeting : TokenStream := .ofText .jinja "Hi {{ name }}".toList

/-- There may be more such nodes than directives may be nested. -/
theorem ofTokens_siblings_greeting : ∃ nodes, ofTokens greeting = .ok nodes ∧
    ofTokens (greeting.followedBy greeting) = .ok (nodes ++ nodes) ∧
    ofTokens ((List.replicate 100 greeting).foldr TokenStream.followedBy
      (.empty .jinja .start)) = .ok (List.replicate 100 nodes).flatten := by
  have hlength : (ofTokens greeting).toOption.map List.length = some 2 := by decide +kernel
  obtain ⟨nodes, hnodes, -⟩ := Option.map_eq_some_iff.mp hlength
  have hread := Except.eq_ok_of_toOption hnodes
  refine ⟨nodes, hread, ?_, ?_⟩
  · rw [ofTokens_siblings.1 rfl hread, hread]
    rfl
  · have hparts : ∀ part ∈ List.replicate 100 (greeting, nodes),
        part.1.dialect = .jinja ∧ ofTokens part.1 = .ok part.2 := by
      intro part hpart
      obtain rfl := List.eq_of_mem_replicate hpart
      exact ⟨rfl, hread⟩
    have hall : ofTokens (((List.replicate 100 (greeting, nodes)).map (·.1)).foldr
        TokenStream.followedBy (.empty .jinja .start)) = _ := ofTokens_siblings.2 hparts
    rwa [List.map_replicate, List.flatMap_def, List.map_replicate] at hall

end Node

end Stencil
