import Stencil.Proofs.Heeds
import Stencil.Proofs.NativeCoverage
import Stencil.Token.Stream
import Stencil.Node.Parser

/-! The scanners of both dialects give whole constructs or nothing: a text or a comment is one
token, an interpolation or a directive reaches from its start to its end, and the tag of a raw body
comes with the body and with the tag that ends it. -/
namespace Stencil

open Stencil.Parser

variable {d : Dialect} {c : Cursor} {ts : List Token} {n : Nat}

/-- A text or a comment, which is a construct by itself. -/
def Token.IsPiece (t : Token) : Prop := (∃ content, t.kind = .text content) ∨ t.kind = .comment

/-- An interpolation: its tokens stand between its start and its end. -/
def IsPrint (ts : List Token) : Prop :=
  ∃ start inner stop, ts = start :: (inner ++ [stop]) ∧
    start.kind = .printStart ∧ Inner inner ∧ stop.kind = .printEnd

/-- A directive: its tokens stand between its start and its end. -/
def IsDirective (ts : List Token) : Prop :=
  ∃ start inner stop, ts = start :: (inner ++ [stop]) ∧
    start.kind = .directiveStart ∧ Inner inner ∧ stop.kind = .directiveEnd

/-- A directive that consists of one word. -/
def IsTag (word : String) (ts : List Token) : Prop :=
  ∃ start name stop : Token, ts = [start, name, stop] ∧
    start.kind = .directiveStart ∧ name.kind = .ident word ∧ stop.kind = .directiveEnd

/-- The constructs of a text, one after the other. -/
inductive Grouped (d : Dialect) : List (List Token) → Prop
  | nil : Grouped d []
  | piece {t : Token} {cs : List (List Token)} (ht : t.IsPiece) (hcs : Grouped d cs) :
      Grouped d ([t] :: cs)
  | print {c : List Token} {cs : List (List Token)} (hc : IsPrint c) (hcs : Grouped d cs) :
      Grouped d (c :: cs)
  | directive {c : List Token} {cs : List (List Token)} (hc : IsDirective c)
      (hraw : ¬ IsTag "raw" c) (hcs : Grouped d cs) : Grouped d (c :: cs)
  /-- Literal text stands between its own tags. -/
  | raw {c c' : List Token} {body cs : List (List Token)} (hc : IsTag "raw" c)
      (hbody : body = [] ∨ ∃ t content, body = [[t]] ∧ t.kind = .text content)
      (hc' : IsTag (Node.closer d "raw") c') (hcs : Grouped d cs) :
      Grouped d (c :: (body ++ c' :: cs))

lemma not_isTag {t u : Token} {word : String} (h : ∀ name, u.kind = .ident name → name ≠ word) :
    ¬ IsTag word (t :: u :: ts) := by
  rintro ⟨start, name, stop, hts, -, hname, -⟩
  cases hts
  exact h _ hname rfl

lemma not_isTag_of_print {word : String} (h : IsPrint ts) : ¬ IsTag word ts := by
  rintro ⟨start, name, stop, rfl, hstart, -⟩
  obtain ⟨start', inner, stop', hts, hstart', -⟩ := h
  obtain rfl : start = start' := (List.cons.inj hts).1
  rw [hstart] at hstart'
  cases hstart'

lemma IsTag.isDirective {word : String} (h : IsTag word ts) : IsDirective ts := by
  obtain ⟨start, name, stop, rfl, hstart, hname, hstop⟩ := h
  refine ⟨start, [name], stop, rfl, hstart, List.forall_mem_singleton.mpr ?_, hstop⟩
  rw [Token.isInner, hname]

lemma IsTag.not_raw (h : IsTag (Node.closer d "raw") ts) : ¬ IsTag "raw" ts := by
  obtain ⟨start, name, stop, rfl, -, hname, -⟩ := h
  refine not_isTag fun word hword => ?_
  rw [hname] at hword
  cases hword
  cases d <;> decide

/-- Literal text with the tag that ends it, and what follows. -/
def RawBody (d : Dialect) (cs : List (List Token)) : Prop :=
  ∃ body c cs', cs = body ++ c :: cs' ∧
    (body = [] ∨ ∃ t content, body = [[t]] ∧ t.kind = .text content) ∧
    IsTag (Node.closer d "raw") c ∧ Grouped d cs'

namespace Grouped

variable {c : List Token} {cs : List (List Token)}

lemma of_rawBody (h : RawBody d cs) : Grouped d cs := by
  obtain ⟨body, c, cs', rfl, hbody, hc, hcs⟩ := h
  have hrest := Grouped.directive hc.isDirective hc.not_raw hcs
  obtain rfl | ⟨t, content, rfl, ht⟩ := hbody
  · exact hrest
  · exact .piece (.inl ⟨content, ht⟩) hrest

lemma tail (h : Grouped d (c :: cs)) : Grouped d cs := by
  cases h with
  | piece _ hcs | print _ hcs | directive _ _ hcs => exact hcs
  | raw hc hbody hc' hcs => exact of_rawBody ⟨_, _, _, rfl, hbody, hc', hcs⟩

/-- A construct is a piece, an interpolation or a directive, and tags of raw bodies come with
these. -/
lemma head (h : Grouped d (c :: cs)) :
    (∃ t : Token, c = [t] ∧ t.IsPiece) ∨ IsPrint c ∨
      IsDirective c ∧ (IsTag "raw" c → RawBody d cs) := by
  cases h with
  | piece ht hcs => exact .inl ⟨_, rfl, ht⟩
  | print hc hcs => exact .inr (.inl hc)
  | directive hc hraw hcs => exact .inr (.inr ⟨hc, fun h => absurd h hraw⟩)
  | raw hc hbody hc' hcs =>
    exact .inr (.inr ⟨hc.isDirective, fun _ => ⟨_, _, _, rfl, hbody, hc', hcs⟩⟩)

lemma rawBody (h : Grouped d (c :: cs)) (hc : IsTag "raw" c) : RawBody d cs := by
  obtain ⟨t, rfl, -⟩ | hprint | ⟨-, hraw⟩ := h.head
  · obtain ⟨start, name, stop, htokens, -⟩ := hc
    cases htokens
  · exact absurd hc (not_isTag_of_print hprint)
  · exact hraw hc

end Grouped

/-- The tokens are constructs that may stand before any others. -/
def Adds (d : Dialect) (ts : List Token) : Prop :=
  ∀ ⦃cs⦄, Grouped d cs → ∃ cs', Grouped d cs' ∧ cs'.flatten = ts ++ cs.flatten

namespace Adds

lemma nil : Adds d [] := fun cs hcs => ⟨cs, hcs, rfl⟩

lemma append {us : List Token} (h : Adds d ts) (h' : Adds d us) : Adds d (ts ++ us) := by
  intro cs hcs
  obtain ⟨cs', hcs', hus⟩ := h' hcs
  obtain ⟨cs'', hcs'', hts⟩ := h hcs'
  exact ⟨cs'', hcs'', by rw [hts, hus, List.append_assoc]⟩

lemma piece {t : Token} (ht : t.IsPiece) : Adds d [t] := fun _ hcs => ⟨_, .piece ht hcs, rfl⟩

lemma print (h : IsPrint ts) : Adds d ts := fun _ hcs => ⟨_, .print h hcs, rfl⟩

lemma directive (h : IsDirective ts) (hraw : ¬ IsTag "raw" ts) : Adds d ts :=
  fun _ hcs => ⟨_, .directive h hraw hcs, rfl⟩

lemma textToken (content : List Char) : Adds d (c.textToken content n) := by
  unfold Cursor.textToken
  split
  · exact nil
  · exact piece (.inl ⟨_, rfl⟩)

lemma raw {us : List Token} {content : List Char} {m : Nat} (hts : IsTag "raw" ts)
    (hus : IsTag (Node.closer d "raw") us) :
    Adds d (ts ++ (c.textToken content m ++ us)) := by
  intro cs hcs
  unfold Cursor.textToken
  split
  · exact ⟨_, .raw hts (.inl rfl) hus hcs, by simp⟩
  · have hbody : ∃ t content', [[c.token (.text (String.ofList content)) m]] = [[t]] ∧
        t.kind = .text content' := ⟨_, _, rfl, rfl⟩
    exact ⟨_, .raw hts (.inr hbody) hus hcs, by simp⟩

end Adds

/-! ### Tokens of expressions -/

lemma Parser.Inner.append {us : List Token} (h : Inner ts) (h' : Inner us) : Inner (ts ++ us) :=
  List.forall_mem_append.mpr ⟨h, h'⟩

lemma Parser.inner_pair {t u : Token} (ht : t.isInner = true) (hu : u.isInner = true) :
    Inner [t, u] :=
  List.forall_mem_cons.mpr ⟨ht, List.forall_mem_singleton.mpr hu⟩

/-- The tokens of a construct behind its start. -/
def UpTo (kind : Token.Kind) (ts : List Token) : Prop :=
  ∃ inner stop, ts = inner ++ [stop] ∧ Inner inner ∧ stop.kind = kind

namespace UpTo

variable {kind : Token.Kind}

lemma stop {t : Token} (h : t.kind = kind) : UpTo kind [t] :=
  ⟨[], t, rfl, List.forall_mem_nil _, h⟩

lemma append {us : List Token} (h : Inner ts) (h' : UpTo kind us) : UpTo kind (ts ++ us) := by
  obtain ⟨inner, stop, rfl, hinner, hstop⟩ := h'
  exact ⟨ts ++ inner, stop, (List.append_assoc ..).symm, h.append hinner, hstop⟩

lemma cons {t : Token} (ht : t.isInner = true) (h : UpTo kind ts) : UpTo kind (t :: ts) :=
  append (List.forall_mem_singleton.mpr ht) h

lemma isPrint {t : Token} (ht : t.kind = .printStart) (h : UpTo .printEnd ts) :
    IsPrint (t :: ts) := by
  obtain ⟨inner, stop, rfl, hinner, hstop⟩ := h
  exact ⟨t, inner, stop, rfl, ht, hinner, hstop⟩

lemma isDirective {t : Token} (ht : t.kind = .directiveStart) (h : UpTo .directiveEnd ts) :
    IsDirective (t :: ts) := by
  obtain ⟨inner, stop, rfl, hinner, hstop⟩ := h
  exact ⟨t, inner, stop, rfl, ht, hinner, hstop⟩

end UpTo

namespace Token

lemma isInner_numberKind (whole fraction exponent : List Char) (m : Nat) :
    (c.token (numberKind whole fraction exponent) m).isInner = true := by
  simp only [numberKind]
  split
  · split <;> rfl
  · rfl

lemma isInner_ofWord (word : List Char) (m : Nat) : (c.token (ofWord word) m).isInner = true := by
  unfold ofWord
  split <;> rfl

lemma isInner_of_scanAt {p q : Cursor} {kind : Kind} (h : scanAt p = .ok (kind, q)) (m : Nat) :
    (c.token kind m).isInner = true := by
  obtain ⟨ch, rest, n, -, h, -⟩ := exists_scan_of_scanAt h
  unfold scan at h
  split at h
  · split at h
    · cases h
      rfl
    · cases h
  split at h
  · cases h
    exact isInner_numberKind _ _ _ m
  split at h
  · cases h
    exact isInner_ofWord _ m
  · split at h
    · cases h
      rfl
    · split at h
      · cases h
        rfl
      · cases h

lemma inner_scanGroup {unclosed : LexError} {depth : Nat}
    (h : scanGroup unclosed depth c = .ok (ts, n)) : Inner ts := by
  fun_induction scanGroup unclosed depth c generalizing ts n with
  | case1 => cases h
  | case2 => cases h
  | case3 =>
    rename_i hscan _ _ _ _
    cases h
    exact List.forall_mem_singleton.mpr (isInner_of_scanAt hscan _)
  | case4 => cases h
  | case5 =>
    rename_i hscan _ _ _ _ _ tokens k hmore ih
    cases h
    exact List.forall_mem_cons.mpr ⟨isInner_of_scanAt hscan _, ih hmore⟩

end Token

/-! ### The native dialect -/

namespace Token.Native

lemma upTo_bracedTokens {opened : Position} {depth : Nat}
    (h : bracedTokens opened depth c = .ok (ts, n)) : UpTo .printEnd ts := by
  fun_induction bracedTokens opened depth c generalizing ts n with
  | case1 => cases h
  | case2 =>
    cases h
    exact .stop rfl
  | case3 => cases h
  | case4 => cases h
  | case5 =>
    rename_i hscan _ _ tokens k hmore ih
    cases h
    exact (ih hmore).cons (isInner_of_scanAt hscan _)

lemma upTo_argumentTokens {stack : List OpenBracket}
    (h : argumentTokens stack c = .ok (ts, n)) : UpTo .directiveEnd ts := by
  fun_induction argumentTokens stack c generalizing ts n with
  | case1 stack | case2 stack =>
    cases stack with
    | nil =>
      change Except.ok ([_], _) = Except.ok (ts, n) at h
      obtain ⟨hts, -⟩ := Prod.mk.inj (Except.ok.inj h)
      rw [← hts]
      exact .stop rfl
    | cons =>
      change Except.error _ = Except.ok (ts, n) at h
      cases h
  | case3 => cases h
  | case4 => cases h
  | case5 =>
    rename_i hscan _ _ tokens k hmore ih
    cases h
    exact (ih hmore).cons (isInner_of_scanAt hscan _)

lemma inner_pathTokens (h : pathTokens c = (ts, n)) : Inner ts := by
  fun_induction pathTokens c generalizing ts n with
  | case1 =>
    rename_i hname _ tokens m hmore ih
    cases h
    cases hname
    exact (inner_pair rfl rfl).append (ih hmore)
  | case2 | case3 =>
    cases h
    exact List.forall_mem_nil _

lemma inner_filterTokens (h : filterTokens c = (ts, n)) : Inner ts := by
  fun_induction filterTokens c generalizing ts n with
  | case1 | case2 =>
    cases h
    exact List.forall_mem_nil _
  | case3 =>
    rename_i hname q head used _ e _
    cases hname
    obtain ⟨hts, -⟩ := Prod.mk.inj h
    rw [← hts]
    exact inner_pair rfl rfl
  | case4 =>
    rename_i hname _ _ _ _ args m hargs _ tokens l hmore ih
    cases hname
    cases h
    exact ((inner_pair rfl rfl).append (inner_scanGroup hargs)).append (ih hmore)
  | case5 =>
    rename_i hname _ _ _ _ _ tokens l hmore ih
    cases hname
    cases h
    exact (inner_pair rfl rfl).append (ih hmore)

lemma adds_bare : Adds d (bare c).tokens := by
  rcases hname : identifier (c.advance 1) with ⟨name, n⟩
  rcases hpath : pathTokens (c.advance (1 + n)) with ⟨path, m⟩
  rcases hfilters : filterTokens (c.advance (1 + n + m)) with ⟨filters, k⟩
  simp only [bare, hname, hpath, hfilters, inline]
  cases hname
  have hinner := (inner_pathTokens hpath).append (inner_filterTokens hfilters)
  refine .print (UpTo.isPrint rfl ?_)
  exact (UpTo.append hinner (.stop rfl)).cons rfl

lemma adds_call {k : Construct} (h : call c = .ok k) : Adds d k.tokens := by
  simp only [call, identifier] at h
  split at h
  · cases h
  · rename_i args k hargs
    cases h
    refine .print (UpTo.isPrint rfl ?_)
    have hmember : ∀ {p : Prop} [Decidable p] {t u : Token} {n : Nat}, t.isInner = true →
        u.isInner = true → Inner (if p then ([t, u], n) else ([], 0)).1 := by
      intro p _ t u n ht hu
      split
      · exact inner_pair ht hu
      · exact List.forall_mem_nil _
    exact (UpTo.append ((hmember rfl rfl).append (inner_scanGroup hargs)) (.stop rfl)).cons rfl

lemma tokens_onLine (h : 0 < n) : (onLine c ts n h).tokens = ts := by
  unfold onLine
  split <;> rfl

/-- A directive whose name begins no literal text. -/
lemma adds_head {name : String} (hname : name ≠ "raw") (h : UpTo .directiveEnd ts) :
    Adds d (head c name ++ ts) := by
  refine .directive (UpTo.isDirective rfl (h.cons rfl)) (not_isTag ?_)
  rintro _ ⟨⟩
  exact hname

lemma adds_directive {name : String} (hname : name ≠ "raw") {k : Construct}
    (h : directive c name = .ok k) : Adds d k.tokens := by
  unfold directive at h
  dsimp only at h
  split at h
  · cases h
    rw [tokens_onLine]
    exact adds_head hname (.stop rfl)
  · split at h
    · cases h
    · rename_i tokens m htokens
      cases h
      rw [tokens_onLine]
      exact adds_head hname (upTo_argumentTokens htokens)

lemma adds_enclosed {name : String} {k : Construct} (h : enclosed c name = .ok k) :
    Adds .native k.tokens := by
  unfold enclosed at h
  dsimp only at h
  split at h
  · cases h
  · rename_i m hm
    cases h
    dsimp only
    split
    · rename_i hname
      rw [hname, List.append_assoc, List.append_assoc]
      exact Adds.raw ⟨_, _, _, rfl, rfl, rfl, rfl⟩ ⟨_, _, _, rfl, rfl, rfl, rfl⟩
    · exact .piece (.inr rfl)

lemma ne_raw_of_unknown {name : String} (h : marker? c = some (.unknown name)) : name ≠ "raw" := by
  rintro rfl
  unfold marker? at h
  split at h
  · split at h
    · cases h
    · split at h <;> cases h
  · dsimp only at h
    split at h
    · cases h
    split at h
    · cases h
    split at h
    · split at h
      · cases h
      · rename_i hword
        split at h
        · cases h
        · split at h
          · obtain hraw := Marker.unknown.inj (Option.some.inj h)
            rw [hraw] at hword
            exact hword rfl
          · cases h
    · cases h
  · cases h

lemma adds_construct {m : Marker} (hm : marker? c = some m) {k : Construct}
    (h : construct c m = .ok k) : Adds .native k.tokens := by
  cases m with
  | braced =>
    simp only [construct] at h
    split at h
    · cases h
    · rename_i tokens n htokens
      cases h
      exact .print (UpTo.isPrint rfl (upTo_bracedTokens htokens))
  | bare =>
    cases h
    exact adds_bare
  | call => exact adds_call h
  | lineComment =>
    cases h
    rw [tokens_onLine]
    exact .piece (.inr rfl)
  | unknown name =>
    cases h
    rw [tokens_onLine]
    exact adds_head (ne_raw_of_unknown hm) (.stop rfl)
  | directive name =>
    simp only [construct] at h
    split at h
    · exact adds_enclosed h
    · rename_i hname
      exact adds_directive (fun hraw => hname (.inl hraw)) h

lemma adds_step {s : Step} (hc : c.rest ≠ []) (h : step c hc = .ok s) :
    Adds .native s.tokens := by
  rcases hliteral : literal c with ⟨content, n, m⟩
  have hspec := literal_spec hliteral
  unfold step at h
  rw [hliteral] at h
  cases m with
  | none =>
    cases h
    exact .textToken _
  | some m =>
    simp only at h
    split at h
    · cases h
    · rename_i k hk
      cases h
      exact (Adds.textToken _).append (adds_construct (hspec.marker m rfl) hk)

end Token.Native

/-! ### The jinja dialect -/

namespace Token.Jinja

variable {kind : TagKind} {strip : Bool}

lemma upTo_tagTokens {opened : Position} {depth : Nat}
    (h : tagTokens kind opened depth c = .ok (ts, n, strip)) : UpTo kind.endKind ts := by
  fun_induction tagTokens kind opened depth c generalizing ts n strip with
  | case1 => cases h
  | case2 =>
    cases h
    exact .stop rfl
  | case3 => cases h
  | case4 => cases h
  | case5 =>
    rename_i hscan _ _ tokens k strip' hmore ih
    cases h
    exact (ih hmore).cons (isInner_of_scanAt hscan _)

lemma isPrint_tag {s : Step} (h : tag .print c = .ok s) : IsPrint s.tokens := by
  unfold tag at h
  dsimp only at h
  split at h
  · cases h
  · rename_i htokens
    cases h
    exact UpTo.isPrint rfl (upTo_tagTokens htokens)

lemma isDirective_tag {s : Step} (h : tag .block c = .ok s) : IsDirective s.tokens := by
  unfold tag at h
  dsimp only at h
  split at h
  · cases h
  · rename_i htokens
    cases h
    exact UpTo.isDirective rfl (upTo_tagTokens htokens)

lemma adds_comment {s : Step} (h : comment c = .ok s) : Adds d s.tokens := by
  unfold comment at h
  split at h
  · cases h
  · cases h
    exact .piece (.inr rfl)

/-- Only tags of raw bodies are taken for such. -/
lemma isRawTag_iff (h : IsDirective ts) : isRawTag .block ts = true ↔ IsTag "raw" ts := by
  obtain ⟨start, inner, stop, rfl, hstart, -, hstop⟩ := h
  constructor
  · intro hraw
    simp only [isRawTag, decide_true, Bool.true_and] at hraw
    split at hraw
    · rename_i first name last hts
      split at hraw
      · rename_i word hname
        obtain ⟨rfl, hrest⟩ := List.cons.inj hts
        have hsplit : inner ++ [stop] = [name] ++ [last] := hrest
        obtain ⟨hinner, -⟩ := List.append_inj' hsplit rfl
        rw [hinner]
        exact ⟨start, name, stop, rfl, hstart, by rw [hname, eq_of_beq hraw], hstop⟩
      · cases hraw
    · cases hraw
  · rintro ⟨start', name, stop', hts, -, hname, -⟩
    rw [hts]
    simp only [isRawTag, hname, decide_true, Bool.true_and, beq_self_eq_true]

lemma adds_rawBody {opened : Position} (hraw : IsTag "raw" ts) {us : List Token}
    (h : rawBody opened c = .ok (us, n, strip)) : Adds .jinja (ts ++ us) := by
  unfold rawBody at h
  split at h
  · cases h
  · cases h
    exact Adds.raw hraw ⟨_, _, _, rfl, rfl, rfl, rfl⟩

lemma adds_step {s : Step} (hc : c.rest ≠ []) (h : step strip c hc = .ok s) :
    Adds .jinja s.tokens := by
  unfold step at h
  dsimp only at h
  split at h
  · cases h
    exact .textToken _
  · rename_i text kind hsplit
    split at h
    · cases h
    · rename_i found hfound
      cases kind with
      | print =>
        cases h
        exact (Adds.textToken _).append (.print (isPrint_tag hfound))
      | comment =>
        cases h
        exact (Adds.textToken _).append (adds_comment hfound)
      | block =>
        have hdirective := isDirective_tag hfound
        split at h
        · rename_i hraw
          split at h
          · cases h
          · rename_i more n stripAfter hmore
            cases h
            rw [List.append_assoc]
            exact (Adds.textToken _).append (adds_rawBody ((isRawTag_iff hdirective).mp hraw) hmore)
        · rename_i hraw
          cases h
          refine (Adds.textToken _).append (.directive hdirective fun htag => ?_)
          exact hraw ((isRawTag_iff hdirective).mpr htag)

end Token.Jinja

/-! ### Both dialects -/

namespace TokenStream

/-- The tokens of a text up to its end or its first fault are whole constructs. -/
theorem grouped_tokensFrom (d : Dialect) (strip : Bool) (c : Cursor) :
    ∃ cs, Grouped d cs ∧ cs.flatten = (tokensFrom d strip c).1 := by
  fun_induction tokensFrom d strip c with
  | case1 => exact ⟨[], .nil, rfl⟩
  | case2 => exact ⟨[], .nil, rfl⟩
  | case3 strip c hrest s hs tokens fault hmore ih =>
    obtain ⟨cs, hcs, htokens⟩ := ih
    rw [hmore] at htokens
    have hstep : Adds d s.tokens := by
      cases d with
      | native => exact Token.Native.adds_step hrest hs
      | jinja => exact Token.Jinja.adds_step hrest hs
    obtain ⟨cs', hcs', htokens'⟩ := hstep hcs
    exact ⟨cs', hcs', by rw [htokens', htokens]⟩

theorem grouped_ofSource {choice : Option Dialect} {source : String} {s : TokenStream}
    (h : ofSource choice source = .ok s) : ∃ cs, Grouped s.dialect cs ∧ cs.flatten = s.tokens := by
  unfold ofSource at h
  split at h
  · cases h
  · cases h
    exact grouped_tokensFrom _ _ _

end TokenStream

end Stencil
