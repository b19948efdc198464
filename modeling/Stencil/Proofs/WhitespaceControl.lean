import Stencil.Proofs.Constructs
import Stencil.Token.Stream

/-! What the jinja dialect keeps of the blanks around its constructs. The text between two of them
depends on nothing but these two, except for the hyphen that closes the tag before a raw body: it
acts behind the tag that ends the body. -/
namespace Stencil

namespace Token.Jinja

variable {c : Cursor} {ts : List Token} {n : Nat} {kind : TagKind} {strip : Bool}
  {text gap more : List Char}

/-! ### The place at which reading goes on -/

lemma blanks_past (h : c.rest = gap ++ more) (hgap : IsBlank gap) :
    Trim.blanks.past (c.advance gap.length) = Trim.blanks.past c := by
  change (c.advance gap.length).advance _ = c.advance _
  rw [Cursor.rest_advance_of h, h, List.takeWhile_append_of_pos hgap, List.length_append,
    Cursor.advance_add]

lemma blanks_true (c : Cursor) :
    c.blanks true = (c.rest.takeWhile Unicode.isWhitespace).length := by
  have hsame : (fun ch => Cursor.isLineBlank ch || (true && Unicode.isWhitespace ch)) =
      Unicode.isWhitespace := by
    funext ch
    cases hch : Unicode.isWhitespace ch with
    | true => rw [Bool.and_self, Bool.or_true]
    | false => rw [Cursor.isLineBlank_of_not_isWhitespace hch, Bool.and_false, Bool.or_false]
  rw [Cursor.blanks, hsame]

lemma advance_skipped (strip : Bool) (c : Cursor) :
    c.advance (if strip then c.blanks true else 0) = (Trim.of strip false).past c := by
  cases strip with
  | true =>
    rw [if_pos rfl, blanks_true]
    rfl
  | false => rfl

/-- The number of characters passed behind a construct that may stand alone on its line. -/
def resume (strip : Bool) (alone : Option Nat) : Nat := if strip then 0 else alone.getD 0

variable {alone : Option Nat}

lemma exists_gap (halone : ∀ k ∈ alone, c.lineEnd? = some k) (strip : Bool) :
    ∃ gap more, c.rest = gap ++ more ∧ IsBlank gap ∧ gap.length = resume strip alone := by
  unfold resume
  split
  · exact ⟨[], c.rest, rfl, isBlank_nil, rfl⟩
  · cases alone with
    | none => exact ⟨[], c.rest, rfl, isBlank_nil, rfl⟩
    | some k =>
      have hline := halone k rfl
      refine ⟨c.rest.take k, c.rest.drop k, (List.take_append_drop k _).symm,
        Cursor.isBlank_of_lineEnd? hline, ?_⟩
      rw [List.length_take]
      exact Nat.min_eq_left (Cursor.lineEnd?_le hline)

lemma constructs_resume (halone : ∀ k ∈ alone, c.lineEnd? = some k) (strip : Bool) :
    constructs (c.advance (resume strip alone)) = constructs c := by
  obtain ⟨gap, more, hrest, hgap, hlength⟩ := exists_gap halone strip
  rw [← hlength, constructs_advance hrest hgap]

/-- Where the text goes on behind a construct: a hyphen carried to it takes all blanks. -/
lemma past_resume (halone : ∀ k ∈ alone, c.lineEnd? = some k) (held strip : Bool) :
    (Trim.of (held || strip) false).past (c.advance (resume strip alone)) =
      (Trim.of (held || strip) alone.isSome).past c := by
  obtain ⟨gap, more, hrest, hgap, hlength⟩ := exists_gap halone strip
  cases held with
  | true =>
    rw [← hlength]
    exact blanks_past hrest hgap
  | false =>
    cases strip with
    | true => rfl
    | false =>
      cases alone with
      | none => rfl
      | some k =>
        change c.advance k = c.advance (c.lineEnd?.getD 0)
        rw [halone k rfl]
        rfl

/-! ### One step -/

lemma lineEnd?_of_alone {opener closer : Cursor} :
    ∀ k ∈ Construct.alone? kind opener closer, closer.lineEnd? = some k := by
  intro k hk
  unfold Construct.alone? at hk
  split at hk
  · cases hk
  · unfold Cursor.standsAlone at hk
    split at hk
    · exact hk
    · cases hk

lemma kept_eq_leave (strip alone : Bool) (text : List Char) :
    kept text strip alone = (Trim.of strip alone).leave text := by
  cases strip <;> cases alone <;> rfl

lemma upTo_advance (hn : n ≤ c.rest.length) : c.upTo (c.advance n) = c.rest.take n := by
  unfold Cursor.upTo
  rw [Cursor.rest_advance, List.length_drop, Nat.sub_sub_self hn]

/-- The tag begins with its opener. -/
lemma splitAtTag_opener {before : List Char} (h : splitAtTag text = some (before, kind)) :
    (text.drop before.length).take 2 = kind.opener.toList := by
  induction text generalizing before with
  | nil => cases h
  | cons ch rest ih =>
    rw [splitAtTag] at h
    split at h
    · rename_i found
      cases h
      split at found
      · rename_i hch
        obtain ⟨next, hnext, hkind⟩ := Option.bind_eq_some_iff.mp found
        obtain ⟨more, rfl⟩ := List.head?_eq_some_iff.mp hnext
        unfold tagKind? at hkind
        split at hkind <;> cases hkind <;> rw [hch] <;> rfl
      · cases found
    · obtain ⟨⟨before', kind'⟩, hmore, hr⟩ := Option.map_eq_some_iff.mp h
      cases hr
      exact ih hmore

lemma ofStep_behind {opener : Cursor} {found : Step}
    (hopener : opener.rest.take 2 = kind.opener.toList) (h : construct kind opener = .ok found) :
    (Construct.ofStep kind opener found).behind = .of found.strip
      (Construct.alone? kind opener (opener.advance found.length)).isSome := by
  rw [← hyphenCloses_construct hopener h]
  rfl

/-! ### What is laid and what is read -/

variable {tokens : List Token} {fault : Option LexError} {cs : Except LexError (List Construct)}

lemma carried_cons {here : Construct} (h : here.opensRaw = false) (cs : List Construct) :
    carried (here :: cs) = here :: carried cs := by
  cases cs with
  | nil => rfl
  | cons next cs =>
    rw [carried, if_neg]
    rw [h]
    exact fun hraw => Bool.false_ne_true hraw.1

/-- The tokens read are those laid, unless something is wrong with the text. -/
def Lays (c : Cursor) : Except LexError (List Construct) → List Token × Option LexError → Prop
  | .ok cs, r => r = (laid c (carried cs), none)
  | .error e, r => r.2 = some e

lemma Lays.cons {here : Construct} (hraw : here.opensRaw = false)
    (ih : Lays (here.behind.past here.closer) cs (tokens, fault)) :
    Lays c (cs.map (here :: ·))
      (c.textToken (here.before.leave (c.upTo here.opener)) (c.upTo here.opener).length ++
        here.tokens ++ tokens, fault) := by
  cases cs with
  | error e => exact ih
  | ok cs =>
    cases ih
    change _ = (laid c (carried (here :: cs)), none)
    rw [carried_cons hraw]
    rfl

/-- A raw body begins where the line of its tag ends, or at the tag if that has a hyphen. -/
def bodyStart (strip : Bool) (alone : Option Nat) (c : Cursor) : Cursor :=
  (if strip then Trim.nothing else .of false alone.isSome).past c

lemma Lays.raw {here last : Construct} {after : Bool} {alone' : Option Nat}
    (hraw : here.opensRaw = true) (hbehind : here.behind = .of strip alone.isSome)
    (hlast : last.opensRaw = false) (hbehind' : last.behind = .of after alone'.isSome)
    (ih : Lays ((Trim.of (strip || after) alone'.isSome).past last.closer) cs (tokens, fault)) :
    let body := bodyStart strip alone here.closer
    Lays c (cs.map (here :: last :: ·))
      (c.textToken (here.before.leave (c.upTo here.opener)) (c.upTo here.opener).length ++
        here.tokens ++
        (body.textToken (last.before.leave (body.upTo last.opener))
            (body.upTo last.opener).length ++ last.tokens) ++ tokens, fault) := by
  cases cs with
  | error e => exact ih
  | ok cs =>
    cases ih
    change _ = (laid c (carried (here :: last :: cs)), none)
    cases strip with
    | true =>
      rw [carried, if_pos ⟨hraw, hbehind⟩]
      simp only [laid, List.append_assoc]
      rfl
    | false =>
      have hkeep : ¬(here.opensRaw ∧ here.behind = .blanks) := by
        rw [hbehind]
        cases alone <;> exact nofun
      rw [carried, if_neg hkeep, carried_cons hlast]
      simp only [laid, List.append_assoc, hbehind, hbehind']
      rfl

/-! ### Steps -/

lemma constructs_skipped (strip : Bool) (c : Cursor) :
    constructs (c.advance (if strip then c.blanks true else 0)) = constructs c := by
  cases strip with
  | false => rfl
  | true =>
    rw [if_pos rfl, blanks_true]
    exact constructs_advance (takeWhile_append_drop _ _).symm
      (isBlank_takeWhile_isWhitespace c.rest)

lemma bodyStart_eq (halone : ∀ k ∈ alone, c.lineEnd? = some k) (strip : Bool) :
    bodyStart strip alone c = c.advance (resume strip alone) := by
  cases strip with
  | true => rfl
  | false => exact (past_resume halone false false).symm

/-- The rest of a line may be passed before a raw body is searched for its end. -/
lemma splitAtRawEnd_eq_none (halone : ∀ k ∈ alone, c.lineEnd? = some k)
    (h : splitAtRawEnd (c.advance (resume strip alone)).rest = none) :
    splitAtRawEnd c.rest = none := by
  obtain ⟨gap, more, hrest, hgap, hlength⟩ := exists_gap halone strip
  rw [← hlength, Cursor.rest_advance_of hrest] at h
  rw [hrest, splitAtRawEnd_blank_append hgap, h]
  rfl

lemma exists_splitAtRawEnd (halone : ∀ k ∈ alone, c.lineEnd? = some k) {body : List Char}
    {stop : RawEnd} (h : splitAtRawEnd (c.advance (resume strip alone)).rest = some (body, stop)) :
    ∃ whole, splitAtRawEnd c.rest = some (whole, stop) ∧
      c.advance whole.length = (c.advance (resume strip alone)).advance body.length := by
  obtain ⟨gap, more, hrest, hgap, hlength⟩ := exists_gap halone strip
  rw [← hlength, Cursor.rest_advance_of hrest] at h
  refine ⟨gap ++ body, ?_, ?_⟩
  · rw [hrest, splitAtRawEnd_blank_append hgap, h]
    rfl
  · rw [← hlength, List.length_append, Cursor.advance_add]

lemma ofRawEnd_behind {opener : Cursor} {stop : RawEnd} (h : rawEnd? opener.rest = some stop) :
    (Construct.ofRawEnd opener stop).behind =
      .of stop.stripAfter (opener.standsAlone (opener.advance stop.length)).isSome := by
  obtain ⟨front, back, more, hends⟩ := exists_endsRaw h
  rw [← hyphenCloses_rawEnd h, ← upTo_advance hends.length_le]
  rfl

lemma ofRawEnd_before {opener : Cursor} {stop : RawEnd} (h : rawEnd? opener.rest = some stop) :
    (Construct.ofRawEnd opener stop).before =
      .of stop.stripBefore (opener.standsAlone (opener.advance stop.length)).isSome := by
  obtain ⟨front, back, more, hends⟩ := exists_endsRaw h
  rw [← hends.stripBefore]
  rfl

/-- The text before a construct, as it is read and as it is laid. -/
lemma textToken_kept (htake : c.rest.take text.length = text) (strip alone : Bool) :
    c.textToken (kept text strip alone) text.length =
      c.textToken ((Trim.of strip alone).leave (c.upTo (c.advance text.length)))
        (c.upTo (c.advance text.length)).length := by
  have hlength : text.length ≤ c.rest.length := by
    rw [← htake]
    exact List.length_take_le' _ _
  rw [upTo_advance hlength, htake, kept_eq_leave]

/-- A raw body is read as the text before the tag that ends it, and that tag. -/
lemma rawBody_spec {opened : Position} {after : Bool} (h : rawBody opened c = .ok (ts, n, after)) :
    ∃ body stop alone, splitAtRawEnd c.rest = some (body, stop) ∧
      let last := Construct.ofRawEnd (c.advance body.length) stop
      ts = c.textToken (last.before.leave (c.upTo last.opener)) (c.upTo last.opener).length ++
          last.tokens ∧
        c.advance n = last.closer.advance (resume after alone) ∧
        last.behind = .of after alone.isSome ∧ ∀ k ∈ alone, last.closer.lineEnd? = some k := by
  unfold rawBody at h
  split at h
  · cases h
  · rename_i body stop hsplit
    obtain ⟨htake, hstop⟩ := splitAtRawEnd_spec hsplit
    rw [← Cursor.rest_advance] at hstop
    cases h
    refine ⟨body, stop, _, hsplit, ?_, ?_, ofRawEnd_behind hstop, @lineEnd?_of_alone .block _ _⟩
    · rw [textToken_kept htake, ofRawEnd_before hstop]
      rfl
    · rw [Cursor.advance_add, Cursor.advance_add]
      rfl

section

variable {found : Step} {opener closer : Cursor} (htag : splitAtTag c.rest = some (text, kind))
  (hopener : c.advance text.length = opener) (hfound : construct kind opener = .ok found)
  (hcloser : opener.advance found.length = closer)
  (halone : Construct.alone? kind opener closer = alone)

include htag hopener hfound hcloser halone

lemma lays_tag (hraw : ¬isRawTag kind found.tokens)
    (ih : Lays ((Trim.of found.strip false).past (closer.advance (resume found.strip alone)))
      (constructs (closer.advance (resume found.strip alone))) (tokens, fault)) :
    Lays c (constructs c)
      (c.textToken (kept text ((opener.rest.drop 2).head? = some '-') alone.isSome) text.length ++
        found.tokens ++ tokens, fault) := by
  have hline : ∀ k ∈ alone, closer.lineEnd? = some k := halone ▸ lineEnd?_of_alone
  have hsign : opener.rest.take 2 = kind.opener.toList := by
    rw [← hopener, Cursor.rest_advance, splitAtTag_opener htag]
  have hpast := past_resume hline false found.strip
  rw [Bool.false_or] at hpast
  rw [constructs_resume hline, hpast] at ih
  rw [constructs_of_tag htag hopener hfound hcloser hraw, textToken_kept (splitAtTag_spec htag).1]
  subst hopener hcloser halone
  refine Lays.cons (Bool.eq_false_iff.mpr hraw) ?_
  rw [ofStep_behind hsign hfound]
  exact ih

lemma lays_raw {more : List Token} {after : Bool} (hraw : isRawTag kind found.tokens)
    (hbody : rawBody opener.pos (closer.advance (resume found.strip alone)) = .ok (more, n, after))
    (ih : Lays ((Trim.of (found.strip || after) false).past
        ((closer.advance (resume found.strip alone)).advance n))
      (constructs ((closer.advance (resume found.strip alone)).advance n)) (tokens, fault)) :
    Lays c (constructs c)
      (c.textToken (kept text ((opener.rest.drop 2).head? = some '-') alone.isSome) text.length ++
        found.tokens ++ more ++ tokens, fault) := by
  have hline : ∀ k ∈ alone, closer.lineEnd? = some k := halone ▸ lineEnd?_of_alone
  have hsign : opener.rest.take 2 = kind.opener.toList := by
    rw [← hopener, Cursor.rest_advance, splitAtTag_opener htag]
  obtain ⟨body, stop, alone', hsplit, hmore, hn, hbehind, hline'⟩ := rawBody_spec hbody
  obtain ⟨whole, hwhole, hsame⟩ := exists_splitAtRawEnd hline hsplit
  rw [hn, constructs_resume hline', past_resume hline'] at ih
  rw [constructs_of_raw htag hopener hfound hcloser hraw, textToken_kept (splitAtTag_spec htag).1,
    hwhole, hmore]
  dsimp only
  rw [hsame]
  rw [← bodyStart_eq hline] at hbehind ih ⊢
  subst hopener hcloser halone
  exact Lays.raw hraw (ofStep_behind hsign hfound) rfl hbehind ih

end

lemma constructs_of_step_error (hc : c.rest ≠ []) {e : LexError}
    (h : step strip c hc = .error e) : constructs c = .error e := by
  rw [← constructs_skipped strip c]
  unfold step at h
  dsimp only at h
  split at h
  · cases h
  · rename_i text kind htag
    split at h
    · rename_i hfound
      cases h
      rw [constructs_of_some htag, hfound]
    · rename_i found hfound
      split at h
      · rename_i hraw
        split at h
        · rename_i hbody
          cases h
          rw [constructs_of_raw htag rfl hfound rfl hraw]
          unfold rawBody at hbody
          split at hbody
          · rename_i hsplit
            cases hbody
            rw [splitAtRawEnd_eq_none lineEnd?_of_alone hsplit]
          · cases hbody
        · cases h
      · cases h

lemma lays_of_nil (h : c.rest = []) {r : List Token × Option LexError} :
    Lays c (constructs c) r ↔ r = ([], none) := by
  have hlaid : laid c [] = [] := by
    rw [laid, h]
    rfl
  rw [constructs_of_none (by rw [h, splitAtTag]), ← hlaid]
  exact Iff.rfl

lemma lays_step (hc : c.rest ≠ []) {s : Step} (h : step strip c hc = .ok s)
    (ih : Lays ((Trim.of s.strip false).past (c.advance s.length))
      (constructs (c.advance s.length)) (tokens, fault)) :
    Lays ((Trim.of strip false).past c) (constructs c) (s.tokens ++ tokens, fault) := by
  rw [← constructs_skipped strip c, ← advance_skipped]
  unfold step at h
  dsimp only at h
  split at h
  · rename_i htag
    cases h
    have hend : (c.advance c.rest.length).rest = [] := by
      rw [Cursor.rest_advance, List.drop_length]
    cases (lays_of_nil hend).mp ih
    rw [constructs_of_none htag, List.append_nil]
    rfl
  · rename_i text kind htag
    split at h
    · cases h
    · rename_i found hfound
      split at h
      · rename_i hraw
        split at h
        · cases h
        · rename_i more n after hbody
          cases h
          rw [Cursor.advance_add, Cursor.advance_add, Cursor.advance_add, Cursor.advance_add] at ih
          exact lays_raw htag rfl hfound rfl rfl hraw hbody ih
      · rename_i hraw
        cases h
        rw [Cursor.advance_add, Cursor.advance_add, Cursor.advance_add] at ih
        exact lays_tag htag rfl hfound rfl rfl hraw ih

/-- Without a hyphen that closes the tag before a raw body all of them act where they stand. -/
lemma carried_eq_self {cs : List Construct}
    (h : ∀ start ∈ cs, start.opensRaw → start.behind ≠ .blanks) : carried cs = cs := by
  induction cs with
  | nil => rfl
  | cons start cs ih =>
    cases cs with
    | nil => rfl
    | cons stop cs =>
      have hstart : ¬(start.opensRaw ∧ start.behind = .blanks) :=
        fun hboth => h start List.mem_cons_self hboth.1 hboth.2
      rw [carried, if_neg hstart, ih fun c hc => h c (List.mem_cons_of_mem _ hc)]

end Token.Jinja

namespace TokenStream

open Token.Jinja

lemma lays_tokensFrom (strip : Bool) (c : Cursor) :
    Lays ((Trim.of strip false).past c) (constructs c) (tokensFrom .jinja strip c) := by
  fun_induction tokensFrom .jinja strip c with
  | case1 strip c hrest =>
    have hskip := congrArg Cursor.rest (advance_skipped strip c)
    rw [Cursor.rest_advance, hrest, List.drop_nil] at hskip
    rw [← constructs_skipped strip c, advance_skipped]
    exact (lays_of_nil hskip.symm).mpr rfl
  | case2 strip c hrest e hstep =>
    rw [constructs_of_step_error hrest hstep]
    rfl
  | case3 strip c hrest s hstep tokens fault hmore ih => exact lays_step hrest hstep (hmore ▸ ih)

lemma tokensFrom_of_constructs {text : List Char} {cs : List Construct}
    (h : constructs (.start text) = .ok cs) :
    tokensFrom .jinja false (.start text) = (laid (.start text) (carried cs), none) := by
  have hlays := lays_tokensFrom false (.start text)
  rw [h] at hlays
  exact hlays

/-- Where a jinja text can be read to its end, its tokens are those of its constructs, and the text
between two of them is what these two leave of it. Only the hyphen that closes the tag before a raw
body acts elsewhere, behind the tag that ends the body. -/
theorem ofText_jinja_iff (text : List Char) (tokens : List Token) :
    (ofText .jinja text).fault = none ∧ (ofText .jinja text).tokens = tokens ↔
      ∃ cs, constructs (.start text) = .ok cs ∧ tokens = laid (.start text) (carried cs) := by
  change (tokensFrom .jinja false (.start text)).2 = none ∧
    (tokensFrom .jinja false (.start text)).1 = tokens ↔ _
  cases hcs : constructs (.start text) with
  | error e =>
    have hlays := lays_tokensFrom false (.start text)
    rw [hcs] at hlays
    constructor
    · rintro ⟨hfault, -⟩
      cases hfault.symm.trans hlays
    · rintro ⟨cs, hcs', -⟩
      cases hcs'
  | ok cs =>
    rw [tokensFrom_of_constructs hcs]
    constructor
    · rintro ⟨-, rfl⟩
      exact ⟨cs, rfl, rfl⟩
    · rintro ⟨cs', hcs', rfl⟩
      cases hcs'
      exact ⟨rfl, rfl⟩

example : (ofText .jinja "{% raw -%} a{% endraw %} b".toList).tokens.map Token.kind =
    [.directiveStart, .ident "raw", .directiveEnd, .text " a", .directiveStart, .ident "endraw",
      .directiveEnd, .text "b"] := by
  cbv

/-- Where no tag before a raw body is closed with a hyphen, the text between two constructs is what
these two leave of it, without exception. -/
theorem ofText_jinja_of_no_hyphen {text : List Char} {cs : List Construct}
    (h : constructs (.start text) = .ok cs)
    (hraw : ∀ start ∈ cs, start.opensRaw → start.behind ≠ .blanks) :
    (ofText .jinja text).fault = none ∧ (ofText .jinja text).tokens = laid (.start text) cs := by
  change (tokensFrom .jinja false (.start text)).2 = none ∧
    (tokensFrom .jinja false (.start text)).1 = laid (.start text) cs
  rw [tokensFrom_of_constructs h, carried_eq_self hraw]
  exact ⟨rfl, rfl⟩

end TokenStream

end Stencil
