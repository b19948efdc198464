import Mathlib.Data.List.Induction
import Stencil.Engine.Render
import Stencil.Filter.Builtin
import Stencil.Proofs.ControlPoint
import Stencil.Proofs.Coupling

/-! Escaping text for HTML loses nothing: the entities read back, also where the text itself looked
like one. And it has one meaning: what is filtered with `escape` is printed in any mode as the
runtime prints what it escapes itself. -/
namespace Stencil

namespace Text

/-- The entities that escaping writes, with the characters that they stand for. -/
def entities : List (List Char × Char) :=
  [("&amp;".toList, '&'), ("&lt;".toList, '<'), ("&gt;".toList, '>'), ("&quot;".toList, '"'),
   ("&#39;".toList, '\'')]

/-- Puts characters in the places of entities, in one pass from left to right. -/
def unescaped : List Char → List Char
  | [] => []
  | c :: rest =>
    match entities.find? (·.1.isPrefixOf (c :: rest)) with
    | some (entity, d) => d :: unescaped (rest.drop (entity.length - 1))
    | none => c :: unescaped rest
termination_by text => text.length
decreasing_by
  · simp only [List.length_cons, List.length_drop]
    omega
  · exact Nat.lt_succ_self _

/-- The text with characters in the places of entities. -/
def unescapeHtml (text : String) : String := String.ofList (unescaped text.toList)

/-- The characters that no text for HTML holds. -/
def isQuoteOrAngle (c : Char) : Bool := ['<', '>', '"', '\''].contains c

/-- A character is written as its entity or, if it has none, as itself. -/
lemma escapeChar_cases (c : Char) :
    (escapeChar c, c) ∈ entities ∨
      escapeChar c = [c] ∧ c ≠ '&' ∧ isQuoteOrAngle c = false := by
  unfold escapeChar
  split
  · simp [entities]
  · simp [entities]
  · simp [entities]
  · simp [entities]
  · simp [entities]
  · rename_i hamp hless hgreater hdouble hsingle
    refine .inr ⟨rfl, hamp, ?_⟩
    simpa [isQuoteOrAngle] using And.intro hless ⟨hgreater, hdouble, hsingle⟩

/-- An entity opens with an ampersand, the only one in it, and holds no quote and no angle. -/
lemma exists_body {entity : List Char} {c : Char} (h : (entity, c) ∈ entities) :
    ∃ body, entity = '&' :: body ∧ '&' ∉ body ∧ ∀ d ∈ entity, isQuoteOrAngle d = false := by
  simp only [entities, List.mem_cons, List.not_mem_nil, or_false, Prod.mk.injEq] at h
  rcases h with ⟨rfl, -⟩ | ⟨rfl, -⟩ | ⟨rfl, -⟩ | ⟨rfl, -⟩ | ⟨rfl, -⟩
  all_goals exact ⟨_, rfl, by decide, by simp [isQuoteOrAngle]⟩

/-- No entity is the beginning of another. -/
lemma find_entity {entity : List Char} {c : Char} (h : (entity, c) ∈ entities)
    (rest : List Char) :
    entities.find? (·.1.isPrefixOf (entity ++ rest)) = some (entity, c) := by
  simp only [entities, List.mem_cons, List.not_mem_nil, or_false, Prod.mk.injEq] at h
  rcases h with ⟨rfl, rfl⟩ | ⟨rfl, rfl⟩ | ⟨rfl, rfl⟩ | ⟨rfl, rfl⟩ | ⟨rfl, rfl⟩
  all_goals rfl

lemma unescaped_entity {entity : List Char} {c : Char} (h : (entity, c) ∈ entities)
    (rest : List Char) : unescaped (entity ++ rest) = c :: unescaped rest := by
  have hfind := find_entity h rest
  obtain ⟨body, rfl, -⟩ := exists_body h
  rw [List.cons_append] at hfind ⊢
  rw [unescaped, hfind]
  simp

/-- A character that opens no entity stays. -/
lemma unescaped_cons {c : Char} (hc : c ≠ '&') (rest : List Char) :
    unescaped (c :: rest) = c :: unescaped rest := by
  have hfind : entities.find? (·.1.isPrefixOf (c :: rest)) = none := by
    rw [List.find?_eq_none]
    intro e he hprefix
    obtain ⟨body, hbody, -⟩ := exists_body he
    rw [hbody, List.isPrefixOf_cons_cons, Bool.and_eq_true, beq_iff_eq] at hprefix
    exact hc hprefix.1.symm
  rw [unescaped, hfind]

/-- The entities read back as the characters that they were written for. -/
lemma unescaped_flatMap (text : List Char) : unescaped (text.flatMap escapeChar) = text := by
  induction text with
  | nil => rw [List.flatMap_nil, unescaped]
  | cons c text ih =>
    rw [List.flatMap_cons]
    rcases escapeChar_cases c with hentity | ⟨hself, hc, -⟩
    · rw [unescaped_entity hentity, ih]
    · rw [hself, List.singleton_append, unescaped_cons hc, ih]

lemma unescapeHtml_escapeHtml (text : String) : unescapeHtml (escapeHtml text) = text := by
  rw [unescapeHtml, toList_escapeHtml, unescaped_flatMap, String.ofList_toList]

lemma isQuoteOrAngle_of_mem {text : String} {d : Char} (hd : d ∈ (escapeHtml text).toList) :
    isQuoteOrAngle d = false := by
  rw [toList_escapeHtml, List.mem_flatMap] at hd
  obtain ⟨c, -, hd⟩ := hd
  rcases escapeChar_cases c with hentity | ⟨hself, -, hc⟩
  · obtain ⟨-, -, -, hall⟩ := exists_body hentity
    exact hall d hd
  · rw [hself, List.mem_singleton] at hd
    rwa [hd]

/-- An ampersand in what is written for a character stands at its front. -/
lemma escapeChar_of_append {c : Char} {before between : List Char}
    (h : escapeChar c = before ++ '&' :: between) : (escapeChar c, c) ∈ entities ∧ before = [] := by
  rcases escapeChar_cases c with hentity | ⟨hself, hc, -⟩
  · obtain ⟨body, hbody, hfresh, -⟩ := exists_body hentity
    refine ⟨hentity, ?_⟩
    cases before with
    | nil => rfl
    | cons d before =>
      rw [hbody, List.cons_append, List.cons.injEq] at h
      rw [h.2] at hfresh
      simp at hfresh
  · have hmem : '&' ∈ escapeChar c := by simp [h]
    rw [hself, List.mem_singleton] at hmem
    exact absurd hmem.symm hc

/-- An ampersand of escaped text opens an entity. -/
lemma exists_entity_of_append {text before after : List Char}
    (h : text.flatMap escapeChar = before ++ '&' :: after) :
    ∃ e ∈ entities, e.1 <+: '&' :: after := by
  induction text generalizing before with
  | nil => simp at h
  | cons c text ih =>
    rw [List.flatMap_cons, List.append_eq_append_iff] at h
    rcases h with ⟨between, -, hrest⟩ | ⟨between, hchar, hrest⟩
    · exact ih hrest
    · cases between with
      | nil => exact ih (show _ = [] ++ '&' :: after from hrest.symm)
      | cons d between =>
        obtain ⟨rfl, -⟩ := List.cons.inj hrest
        obtain ⟨hentity, rfl⟩ := escapeChar_of_append hchar
        exact ⟨_, hentity, _, by rw [hchar]; exact hrest.symm⟩

end Text

namespace Filter

/-- What the filter makes of a value is printed in any mode as the value itself is where values are
escaped. -/
lemma exists_escape {name : String} (hname : name = "escape" ∨ name = "e") (v : Value) :
    ∃ f w, Registry.builtin.filter? name = some f ∧ f.apply v [] = .ok w ∧
      ∀ mode, Render.printed mode w = Render.printed true v := by
  have hf : Registry.builtin.filter? name = some ⟨plain escape, false⟩ := by
    rcases hname with rfl | rfl
    · rfl
    · rfl
  refine ⟨_, if v.isUndefined then .undefined else escape v, hf, ?_, ?_⟩
  · cases v <;> rfl
  · intro mode
    cases v with
    | undefined => cases mode <;> rfl
    | _ => rfl

end Filter

/-- The expression with filters behind it, one after the other. -/
def Expr.piped (e : Expr) (names : List String) : Expr :=
  names.foldl (fun e name => .filter e name []) e

namespace Render

variable {env : Env} {calls : Calls} {t : Template} {pos : Position} {e : Expr} {s u : State}
  {σ τ : Session} {v w : Value}

lemma yields_filter {name : String} {f : Filter}
    (hv : Yields (eval env calls t pos e) s σ v u τ)
    (hf : env.engine.registry.filter? name = some f) (hw : f.apply v [] = .ok w) :
    Yields (eval env calls t pos (.filter e name [])) s σ w u τ := by
  rw [Yields, eval, run_bind_ok _ hv, evalAll, pure_bind, applyFilter, hf]
  simp only [hw]
  rfl

lemma yields_print (hv : Yields (eval env calls t pos e) s σ v u τ) :
    Yields (exec env calls t (.print e pos)) s σ (.normal, printed u.autoescape v) u τ := by
  rw [Yields, exec, run_bind_ok _ hv]
  rfl

/-- However often a value is escaped, it is printed in any mode as where values are escaped. -/
lemma exists_piped (hfilters : env.engine.registry.filters = Registry.builtin.filters)
    (hv : Yields (eval env calls t pos e) s σ v u τ) {names : List String}
    (hnames : ∀ name ∈ names, name = "escape" ∨ name = "e") :
    ∃ w, Yields (eval env calls t pos (e.piped names)) s σ w u τ ∧
      printed true w = printed true v ∧
      (names ≠ [] → ∀ mode, printed mode w = printed true v) := by
  induction names using List.reverseRecOn with
  | nil => exact ⟨v, hv, rfl, fun hne => absurd rfl hne⟩
  | append_singleton names name ih =>
    obtain ⟨hmore, hname⟩ := List.forall_mem_append.mp hnames
    obtain ⟨w, hw, hsame, -⟩ := ih hmore
    obtain ⟨f, w', hf, hrun, hprinted⟩ := Filter.exists_escape (hname name (by simp)) w
    have hf' : env.engine.registry.filter? name = some f := by
      rw [Registry.filter?, hfilters]
      exact hf
    refine ⟨w', ?_, (hprinted true).trans hsame, fun _ mode => (hprinted mode).trans hsame⟩
    rw [Expr.piped, List.foldl_append]
    exact yields_filter hw hf' hrun

/-- Escaped text holds no angle and no quote, each ampersand in it opens an entity, and with
characters in the places of entities it is the text again. An expression filtered with `escape` or
`e`, once or many times, is printed in any mode as an expression of the same value is printed
where values are escaped. -/
theorem escaping_reads_back_and_agrees :
    (∀ text : String,
      (∀ c ∈ (Text.escapeHtml text).toList, c ≠ '<' ∧ c ≠ '>' ∧ c ≠ '"' ∧ c ≠ '\'') ∧
      (∀ before after, (Text.escapeHtml text).toList = before ++ '&' :: after →
        ∃ e ∈ Text.entities, e.1 <+: '&' :: after) ∧
      Text.unescapeHtml (Text.escapeHtml text) = text) ∧
    Function.Injective Text.escapeHtml ∧
    ∀ (env : Env) (calls : Calls) (t : Template) (pos : Position) (e plain : Expr)
      (names : List String) (v : Value) (s u s' u' : State) (σ τ σ' τ' : Session),
      env.engine.registry.filters = Registry.builtin.filters → names ≠ [] →
      (∀ name ∈ names, name = "escape" ∨ name = "e") →
      Yields (eval env calls t pos e) s σ v u τ →
      Yields (eval env calls t pos plain) s' σ' v u' τ' → u'.autoescape = true →
      ∃ text, Yields (exec env calls t (.print (e.piped names) pos)) s σ (.normal, text) u τ ∧
        Yields (exec env calls t (.print plain pos)) s' σ' (.normal, text) u' τ' := by
  refine ⟨fun text => ⟨fun c hc => ?_, fun before after h => ?_, ?_⟩, ?_, ?_⟩
  · simpa [Text.isQuoteOrAngle, and_assoc] using Text.isQuoteOrAngle_of_mem hc
  · rw [Text.toList_escapeHtml] at h
    exact Text.exists_entity_of_append h
  · exact Text.unescapeHtml_escapeHtml text
  · exact Function.LeftInverse.injective Text.unescapeHtml_escapeHtml
  · intro env calls t pos e plain names v s u s' u' σ τ σ' τ' hfilters hne hnames hv hplain hon
    obtain ⟨w, hw, -, hprinted⟩ := exists_piped hfilters hv hnames
    refine ⟨printed true v, ?_, ?_⟩
    · rw [← hprinted hne u.autoescape]
      exact yields_print hw
    · rw [← hon]
      exact yields_print hplain

/-- A template of an engine that escapes nothing by itself. -/
def unescapedPage : Template where
  name := none
  dialect := .jinja
  body := [.print (.filter (.filter (.lit (.str "<&lt;")) "e" []) "e" []) .start]
  macros := []
  blocks := []
  parent := none

/-- Text that looks like an entity: escaped twice where values are not escaped, and as it is where
they are. -/
theorem escaping_reads_back_and_agrees_twice : ∃ text,
    Yields (exec ⟨Engine.default, []⟩ (callsAt ⟨Engine.default, []⟩ 0) unescapedPage
      (.print (.filter (.filter (.lit (.str "<&lt;")) "e" []) "e" []) .start))
      { autoescape := false } {} (.normal, text) { autoescape := false } {} ∧
    Yields (exec ⟨Engine.default, []⟩ (callsAt ⟨Engine.default, []⟩ 0) unescapedPage
      (.print (.lit (.str "<&lt;")) .start))
      { autoescape := true } {} (.normal, text) { autoescape := true } {} :=
  escaping_reads_back_and_agrees.2.2 _ _ _ _ (.lit (.str "<&lt;")) _ ["e", "e"] (.str "<&lt;")
    _ _ _ _ _ _ _ _ rfl (by decide) (by decide) rfl rfl rfl

end Render

end Stencil
