import Stencil.Engine.Render
import Stencil.Proofs.Compilation
import Stencil.Proofs.Coupling
import Stencil.Proofs.LiteralText
import Stencil.Proofs.RoundTrip
import Stencil.Proofs.Siblings

/-! What literal text and interpolations of variables render to: the text itself, and the variables
as they are displayed. -/
namespace Stencil

open Render

namespace Segment

variable {d : Dialect} {segment : Segment} {segments : List Segment}

/-- The source of some segments. -/
def source (d : Dialect) (segments : List Segment) : String :=
  String.ofList (segments.flatMap (print d))

/-- The variable of that name as it is displayed, or the literal text. -/
def shown (vars : Dict Value) : Segment → String
  | .literal text => text
  | .reference name => ((Dict.get? vars name).getD .undefined).display

def output (vars : Dict Value) (segments : List Segment) : String :=
  String.join (segments.map (shown vars))

lemma output_cons (vars : Dict Value) :
    output vars (segment :: segments) = segment.shown vars ++ output vars segments := by
  unfold output
  rw [List.map_cons, String.join_cons]

lemma output_ofText (vars : Dict Value) (text : List Char) (segments : List Segment) :
    output vars (ofText text ++ segments) = String.ofList text ++ output vars segments := by
  unfold ofText
  split
  · rename_i hempty
    rw [List.isEmpty_iff.mp hempty, List.nil_append]
    exact String.empty_append.symm
  · exact output_cons vars

/-- Joining literals does not change what is shown. -/
lemma output_joined (vars : Dict Value) (text : List Char) (segments : List Segment) :
    output vars (joined text segments) = String.ofList text ++ output vars segments := by
  fun_induction joined text segments with
  | case1 text => simpa using output_ofText vars text []
  | case2 text more segments ih =>
    rw [ih, String.ofList_append, String.ofList_toList, output_cons, String.append_assoc]
    rfl
  | case3 text name segments ih =>
    rw [output_ofText, output_cons, output_cons, ih]
    simp

/-! ### Nodes -/

/-- The node that a segment is parsed to. -/
def IsNode : Segment → Node → Prop
  | .literal text, node => node = .text text
  | .reference name, node => ∃ pos, node = .print (.var name) pos

lemma fits_of_kind {t : Token} {kind : Token.Kind} (h : t.kind = kind) : t.Fits ⟨kind, none⟩ := by
  refine ⟨h, fun _ hspelling => ?_⟩
  cases hspelling

lemma exists_node {tokens : List Token} (h : tokens.map Token.kind = segment.kinds)
    (d : Dialect) (stop : Position) :
    ∃ node, segment.IsNode node ∧ Node.ofTokens ⟨d, tokens, none, stop⟩ = .ok [node] := by
  cases segment with
  | literal text =>
    obtain ⟨⟨kind, lexeme, offset, pos⟩, rfl, ht⟩ := List.map_eq_singleton_iff.mp h
    cases ht
    have hnodes : (Node.parser Parser.maxNesting).outcome ⟨d, none, stop⟩
        [⟨.text text, lexeme, offset, pos⟩] = .ok ([.text text], []) := by
      unfold Parser.maxNesting Node.parser
      rw [Parser.repeatWhile_some rfl, Parser.outcome_bind_ok rfl, if_pos rfl,
        Parser.outcome_bind_ok (Parser.repeatWhile_none rfl)]
      rfl
    refine ⟨.text text, rfl, ?_⟩
    rw [Node.ofTokens_eq]
    change Except.map _ (Node.template.outcome ⟨d, none, stop⟩ _) = _
    rw [Node.outcome_template hnodes rfl]
    rfl
  | reference name =>
    obtain ⟨first, behind, rfl, hfirst, hbehind⟩ := List.map_eq_cons_iff.mp h
    obtain ⟨second, behind, rfl, hsecond, hbehind⟩ := List.map_eq_cons_iff.mp hbehind
    obtain ⟨third, rfl, hthird⟩ := List.map_eq_singleton_iff.mp hbehind
    have hfits : List.Forall₂ Token.Fits [second, third]
        ((Expr.var name).printed ++ [⟨.printEnd, none⟩]) :=
      .cons (fits_of_kind hsecond) (.cons (fits_of_kind hthird) .nil)
    rcases Node.takes_printed (t := first) (s := ⟨d, none, stop⟩) rfl hfits with
      ⟨⟨r, rest, hsuffix⟩, hr, rfl, hrest⟩ | ⟨hsize, -⟩
    · cases hrest
      exact ⟨.print (.var name) first.pos, ⟨_, rfl⟩,
        (Node.run_template [second, third] rfl hfirst).1 _ hsuffix hr⟩
    · exact absurd (by rw [Expr.size]; decide) hsize

/-- Each segment is one node, and they stand in their order. -/
lemma exists_nodes {tokens : List Token}
    (h : tokens.map Token.kind = segments.flatMap kinds) (d : Dialect) (stop : Position) :
    ∃ nodes, List.Forall₂ IsNode segments nodes ∧
      Node.ofTokens ⟨d, tokens, none, stop⟩ = .ok nodes := by
  induction segments generalizing tokens with
  | nil =>
    obtain rfl := List.map_eq_nil_iff.mp h
    exact ⟨[], .nil, Node.ofTokens_empty d stop⟩
  | cons segment segments ih =>
    rw [List.flatMap_cons] at h
    obtain ⟨first, rest, rfl, hfirst, hrest⟩ := List.map_eq_append_iff.mp h
    obtain ⟨node, hnode, hread⟩ := exists_node hfirst d stop
    obtain ⟨nodes, hnodes, hreads⟩ := ih hrest
    refine ⟨node :: nodes, .cons hnode hnodes, ?_⟩
    have hboth := Node.ofTokens_append (s := ⟨d, first, none, stop⟩)
      (t := ⟨d, rest, none, stop⟩) rfl hread
    rw [hreads] at hboth
    exact hboth

end Segment

/-! ### Instructions -/

namespace Render

variable {env : Env} {code : List Instr} {written : String}

/-- At the top level, where nothing is escaped, the instructions write this text and change
nothing. -/
def Writes (env : Env) (code : List Instr) (written : String) : Prop :=
  ∀ (calls : Calls) (t : Template) (output : String) (s : State) (session : Session),
    s.autoescape = false → s.current = none →
      ((execAll env calls t output code).run s).run session =
        (.ok ((.normal, output ++ written), s), session)

lemma writes_nil : Writes env [] "" := by
  intro calls t output s session _ _
  rw [execAll, String.append_empty]
  rfl

lemma execAll_text (calls : Calls) (t : Template) (output text : String) (code : List Instr) :
    execAll env calls t output (.text text :: code) =
      execAll env calls t (output ++ text) code := by
  rw [execAll, exec]
  rfl

/-- Texts are written as they stand, joined or not. -/
lemma execAll_prepend_text (calls : Calls) (t : Template) (output text : String)
    (code : List Instr) :
    execAll env calls t output (Template.prepend (some (.text text)) code) =
      execAll env calls t (output ++ text) code := by
  unfold Template.prepend
  dsimp only
  split
  · rename_i hempty
    rw [String.isEmpty_iff.mp hempty, String.append_empty]
  · split
    · rw [execAll_text, execAll_text, String.append_assoc]
    · rw [execAll_text]

lemma Writes.prepend_text (text : String) (h : Writes env code written) :
    Writes env (Template.prepend (some (.text text)) code) (text ++ written) := by
  intro calls t output s session hescape htop
  rw [execAll_prepend_text, h calls t (output ++ text) s session hescape htop, String.append_assoc]

lemma printed_false (v : Value) : printed false v = v.display := by
  cases v <;> rfl

/-- A variable at the top level is the one given by the caller of the engine. -/
lemma Writes.print_var (name : String) (pos : Position) (h : Writes env code written) :
    Writes env (.print (.var name) pos :: code)
      (((Dict.get? env.root name).getD .undefined).display ++ written) := by
  intro calls t output s session hescape htop
  have hvalue : lookupFrom s.scopes env.root name s.here =
      (Dict.get? env.root name).getD .undefined := by
    rw [State.here, htop, lookupFrom]
  have hprint : ((exec env calls t (.print (.var name) pos)).run s).run session =
      (.ok ((.normal, ((Dict.get? env.root name).getD .undefined).display), s), session) := by
    rw [exec, eval]
    change (Except.ok ((Flow.normal, printed s.autoescape
      (lookupFrom s.scopes env.root name s.here)), s), session) = _
    rw [hvalue, hescape, printed_false]
  rw [execAll, run_bind_ok _ hprint, ← String.append_assoc]
  exact h calls t _ s session hescape htop

end Render

/-! ### Templates -/

namespace Segment

variable {segments : List Segment} {nodes : List Node}

/-- Such nodes are compiled, whatever the filters and tests are, and add nothing to the tables. -/
lemma exists_code (r : Registry) (tables : Template.Tables)
    (h : List.Forall₂ IsNode segments nodes) :
    ∃ code, (Template.compileNodes r true nodes).run tables = .ok (code, tables) ∧
      ∀ env : Env, Writes env code (output env.root segments) := by
  induction h with
  | nil => exact ⟨[], rfl, fun _ => writes_nil⟩
  | @cons segment node segments nodes hnode _ ih =>
    obtain ⟨code, hcode, hwrites⟩ := ih
    cases segment with
    | literal text =>
      cases hnode
      refine ⟨Template.prepend (some (.text text)) code, ?_, fun env => ?_⟩
      · rw [Template.compileNodes, Template.compileNode, pure_bind, StateT.run_bind, hcode]
        rfl
      · rw [output_cons]
        exact (hwrites env).prepend_text text
    | reference name =>
      obtain ⟨pos, rfl⟩ := hnode
      refine ⟨.print (.var name) pos :: code, ?_, fun env => ?_⟩
      · rw [Template.compileNodes, Template.compileNode, Expr.check]
        change ((Template.compileNodes r true nodes).run tables >>= fun x =>
          pure (Template.prepend (some (.print (.var name) pos)) x.1, x.2)) = _
        rw [hcode]
        rfl
      · rw [output_cons]
        exact (hwrites env).print_var name pos

end Segment

namespace Engine

open Render Segment

/-- A template that extends no other one is rendered as what its code writes. -/
lemma render_of_execAll {e : Engine} {vars : Dict Value} {t : Template} {written : String}
    {session : Session} (hparent : t.parent = none)
    (h : ∀ calls, ((execAll ⟨e, vars⟩ calls t "" t.body).run (State.initial ⟨e, vars⟩ t)).run
      session = (.ok ((.normal, written), State.initial ⟨e, vars⟩ t), session)) :
    e.render t vars session = (.ok written, session) := by
  obtain ⟨fuel, hfuel⟩ : ∃ fuel, fuelFor e.config.maxDepth = fuel + 1 :=
    Nat.exists_eq_succ_of_ne_zero (by unfold fuelFor; simp)
  have hrun : (((callsAt ⟨e, vars⟩ (fuel + 1)).render t).run (State.initial ⟨e, vars⟩ t)).run
      session = (.ok (written, State.initial ⟨e, vars⟩ t), session) := by
    change ((renderTemplate ⟨e, vars⟩ (callsAt ⟨e, vars⟩ fuel) t).run
      (State.initial ⟨e, vars⟩ t)).run session = _
    unfold renderTemplate
    rw [hparent]
    exact run_bind_ok _ (h _)
  unfold Engine.render run
  rw [hfuel, hrun]
  rfl

/-- Literal text and interpolations of variables render to the text and to the variables as they are
displayed, whatever stands next to what. -/
theorem render_segments (d : Dialect) {segments : List Segment}
    (hproper : ∀ s ∈ segments, s.isProper d = true) {e : Engine}
    (he : e.config.autoescape = false) (name : Option String) :
    ∃ t, e.compile (some d) name (source d segments) = .ok t ∧
      ∀ vars session, e.render t vars session = (.ok (output vars segments), session) := by
  obtain ⟨tokens, htokens, hkinds⟩ := tokensFrom_segments (c := .start (segments.flatMap (print d)))
    d hproper isPlain_nil (by cases d <;> rfl)
  obtain ⟨nodes, hnodes, hparsed⟩ :=
    exists_nodes hkinds d (Position.start.after (segments.flatMap (print d)))
  obtain ⟨code, hcode, hwrites⟩ := exists_code e.registry {} hnodes
  have hsource : Node.ofSource (some d) (source d segments) = .ok (nodes, d) := by
    unfold Node.ofSource TokenStream.ofSource TokenStream.ofText Dialect.resolve source
    simp only [String.toList_ofList, htokens, hparsed]
    rfl
  refine ⟨⟨name, d, code, [], [], none⟩, ?_, fun vars session => ?_⟩
  · exact Template.ofSource_eq_ok.mpr
      ⟨nodes, d, hsource, Template.ofNodes_eq_ok.mpr ⟨code, {}, hcode, rfl⟩⟩
  · refine render_of_execAll rfl fun calls => ?_
    have hshown : "" ++ output vars (joined [] segments) = output vars segments := by
      rw [output_joined]
      simp
    rw [← hshown]
    exact hwrites ⟨e, vars⟩ calls _ "" _ session he rfl

/-- Signs in a row, at the start of a line, behind letters and next to interpolations. -/
def invoice : List Segment :=
  [.literal "@if $$5\na@b.c $", .reference "total", .literal "$@", .reference "in_word"]

theorem render_segments_invoice :
    (∀ d : Dialect, ∀ s ∈ invoice, s.isProper d = true) ∧ default.config.autoescape = false ∧
      ∀ d : Dialect, ∃ t, default.compile (some d) none (source d invoice) = .ok t ∧
        default.render t [("total", .int 7)] {} = (.ok "@if $$5\na@b.c $7$@", {}) := by
  have hproper : ∀ d : Dialect, ∀ s ∈ invoice, s.isProper d = true := by
    intro d
    cases d <;> exact List.all_eq_true.mp (by decide +kernel)
  have hshown : output [("total", .int 7)] invoice = "@if $$5\na@b.c $7$@" := by decide +kernel
  refine ⟨hproper, rfl, fun d => ?_⟩
  obtain ⟨t, ht, hrender⟩ := render_segments d (hproper d) (e := default) rfl none
  exact ⟨t, ht, by rw [hrender, hshown]⟩

end Engine

end Stencil
