import Mathlib.Tactic.Common
import Stencil.Proofs.Coverage
import Stencil.Proofs.Outline

/-! Telling the dialect of a text. Two searches decide it, one for the openers of tags and one for
native markers; what each of them finds is said here by offsets into the text. -/
namespace Stencil

/-! ### Places -/

/-- The line and the column of the character behind the first `i` ones. -/
def Position.ofOffset (text : List Char) (i : Nat) : Position :=
  ⟨1 + (text.take i).count '\n', 1 + ((text.take i).reverse.takeWhile (· ≠ '\n')).length⟩

/-- Before the offset nothing but spaces and tabs stands on the line. -/
def LeadsAt (text : List Char) (i : Nat) : Prop :=
  ∃ lines indent, text.take i = lines ++ indent ∧ (∀ ch ∈ lines.getLast?, ch = '\n') ∧
    ∀ ch ∈ indent, ch = ' ' ∨ ch = '\t'

namespace Cursor

variable {c : Cursor} {text : List Char}

lemma In.pos_eq (h : c.In text) : c.pos = .ofOffset text c.offset := by
  rw [Position.ofOffset, h.take_offset, List.count_reverse, List.reverse_reverse, ← h.line,
    ← h.column]

lemma pos_advance (n : ℕ) (c : Cursor) : (c.advance n).pos = c.pos.after (c.rest.take n) := by
  induction n generalizing c with
  | zero => rfl
  | succ n ih =>
    unfold advance
    split
    · rename_i hrest
      rw [hrest, List.take_nil, Position.after_nil]
    · rename_i ch rest hrest
      rw [ih, hrest, List.take_succ_cons, Position.after_cons]

/-- The place behind a whole text. -/
lemma after_eq_ofOffset (text : List Char) :
    Position.start.after text = .ofOffset text text.length := by
  have hend := (in_start text).advance text.length
  have hpos := pos_advance text.length (start text)
  have hoffset := @offset_advance text.length (.start text) (Nat.le_refl text.length)
  change _ = 0 + text.length at hoffset
  change _ = Position.start.after (text.take text.length) at hpos
  rw [hend.pos_eq, hoffset, Nat.zero_add, List.take_length] at hpos
  exact hpos.symm

lemma isIndent_iff {ch : Char} : isIndent ch = true ↔ ch = ' ' ∨ ch = '\t' := by
  simp [isIndent]

lemma leadsLine_iff (h : c.In text) : c.leadsLine = true ↔ LeadsAt text c.offset := by
  rw [LeadsAt, h.take_offset]
  constructor
  · intro hleads
    refine ⟨(c.before.dropWhile isIndent).reverse, (c.before.takeWhile isIndent).reverse,
      ?_, ?_, ?_⟩
    · rw [← List.reverse_append, List.takeWhile_append_dropWhile]
    · rw [List.getLast?_reverse]
      intro ch hch
      unfold leadsLine at hleads
      split at hleads
      · rename_i hbefore
        rw [hbefore] at hch
        cases hch
      · rename_i first more hbefore
        rw [hbefore] at hch
        cases hch
        exact beq_iff_eq.mp hleads
    · intro ch hch
      exact isIndent_iff.mp (List.all_eq_true.mp List.all_takeWhile ch (List.mem_reverse.mp hch))
  · rintro ⟨lines, indent, hbefore, hlines, hindent⟩
    have hbefore : c.before = indent.reverse ++ lines.reverse := by
      rw [← List.reverse_append, ← hbefore, List.reverse_reverse]
    have hskip : c.before.dropWhile isIndent = lines.reverse := by
      rw [hbefore, List.dropWhile_append_of_pos, dropWhile_isIndent_of_head]
      · rwa [List.head?_reverse]
      · exact fun ch hch => isIndent_iff.mpr (hindent ch (List.mem_reverse.mp hch))
    unfold leadsLine
    rw [hskip]
    split
    · rfl
    · rename_i ch more hlast
      have hch : lines.getLast? = some ch := by rw [← List.head?_reverse, hlast, List.head?_cons]
      exact beq_iff_eq.mpr (hlines ch hch)

/-- A line is led by the same place up to its indentation. -/
lemma leadsLine_next {ch : Char} {rest : List Char} (h : c.rest = ch :: rest) :
    (c.advance 1).leadsLine = (decide (ch = '\n') || c.leadsLine && isIndent ch) := by
  have hnext : (c.advance 1).before = ch :: c.before := by
    rw [advance, h]
    rfl
  unfold leadsLine
  rw [hnext, List.dropWhile_cons]
  cases hch : isIndent ch with
  | true =>
    have hline : ch ≠ '\n' := by
      rintro rfl
      cases hch
    simp [hline]
  | false =>
    simp only [Bool.false_eq_true, if_false, Bool.and_false, Bool.or_false]
    rfl

end Cursor

namespace Dialect

open Cursor

/-! ### Tags -/

/-- The opener of a tag stands at the offset. -/
def TagAt (text : List Char) (i : Nat) : Prop :=
  ['{', '{'] <+: text.drop i ∨ ['{', '%'] <+: text.drop i ∨ ['{', '#'] <+: text.drop i

lemma hasTag_cons (ch : Char) (rest : List Char) :
    hasTag (ch :: rest) = true ↔ TagAt (ch :: rest) 0 ∨ hasTag rest = true := by
  cases rest with
  | nil => by_cases hch : ch = '{' <;> simp [hasTag, TagAt, hch]
  | cons next rest =>
    by_cases hch : ch = '{'
    · subst hch
      rw [hasTag]
      simp only [TagAt, List.drop_zero, List.cons_prefix_cons, List.nil_prefix, and_true, true_and,
        Bool.or_eq_true, decide_eq_true_eq, or_assoc, eq_comm (b := next)]
    · simp [hasTag, TagAt, hch, Ne.symm hch]

theorem hasTag_iff {text : List Char} : hasTag text = true ↔ ∃ i, TagAt text i := by
  induction text with
  | nil => simp [hasTag, TagAt]
  | cons ch rest ih =>
    rw [hasTag_cons, ih]
    constructor
    · rintro (h | ⟨i, h⟩)
      · exact ⟨0, h⟩
      · exact ⟨i + 1, h⟩
    · rintro ⟨i, h⟩
      cases i with
      | zero => exact .inl h
      | succ i => exact .inr ⟨i, h⟩

/-- In a text without tags the scanner finds none. -/
lemma splitAtTag_of_hasTag {text : List Char} (h : hasTag text = false) :
    Token.Jinja.splitAtTag text = none := by
  induction text with
  | nil => rfl
  | cons ch rest ih =>
    have hcons := (hasTag_cons ch rest).not.mp (by rw [h]; nofun)
    obtain ⟨hhead, hrest⟩ := not_or.mp hcons
    have hkind : (if ch = '{' then rest.head?.bind Token.Jinja.tagKind? else none) = none := by
      split
      · rename_i hch
        cases rest with
        | nil => rfl
        | cons next rest =>
          unfold Token.Jinja.tagKind?
          simp only [List.head?_cons, Option.bind_some]
          split
          all_goals first | rfl | simp [TagAt, hch] at hhead
      · rfl
    rw [Token.Jinja.splitAtTag, hkind, ih (by simpa using hrest)]
    rfl

/-- As a template of the jinja dialect a text without tags is one token, or none if it is empty. -/
lemma ofText_jinja_of_hasTag {text : List Char} (h : hasTag text = false) :
    TokenStream.ofText .jinja text =
      ⟨.jinja, if text = [] then [] else [⟨.text (.ofList text), .ofList text, 0, .start⟩], none,
        Position.start.after text⟩ := by
  unfold TokenStream.ofText
  by_cases hempty : text = []
  · rw [hempty, Document.tokensFrom_end .jinja rfl]
    rfl
  · have hsplit : Token.Jinja.splitAtTag (Cursor.start text).rest = none := splitAtTag_of_hasTag h
    have hread : TokenStream.step .jinja false (.start text) hempty =
        .ok ⟨(Cursor.start text).textToken text text.length, text.length, false,
          List.length_pos_iff.mpr hempty⟩ := by
      unfold TokenStream.step Token.Jinja.step
      have hzero : (Cursor.start text).advance 0 = .start text := rfl
      simp only [Bool.false_eq_true, if_false, hzero, hsplit]
      rfl
    have hend : TokenStream.tokensFrom .jinja false ((Cursor.start text).advance text.length) =
        ([], none) := by
      apply Document.tokensFrom_end
      rw [rest_advance]
      exact List.drop_length
    rw [Document.tokensFrom_step hempty hread rfl hend, if_neg hempty]
    simp [textToken, hempty, Cursor.token, Cursor.start]

/-! ### Native markers -/

/-- A native marker stands at the offset: the opener of a braced value, or behind nothing but
indentation an at sign and the name of a directive, which reaches as far as an identifier does. -/
inductive MarkerAt (text : List Char) (i : Nat) : Prop
  | braced (h : ['$', '{'] <+: text.drop i)
  | directive {word rest : List Char} (hleads : LeadsAt text i)
      (htext : text.drop i = '@' :: (word ++ rest))
      (hword : ∀ ch ∈ word, Token.isIdentChar ch = true)
      (hrest : ∀ ch ∈ rest.head?, Token.isIdentChar ch = false)
      (hname : String.ofList word ∈ Token.Native.directiveNames)

section Markers

variable {text : List Char} {c : Cursor}

lemma not_markerAt_end (h : c.In text) (hrest : c.rest = []) {i : Nat} (hi : c.offset ≤ i) :
    ¬ MarkerAt text i := by
  have hlength := congrArg List.length h.split
  rw [hrest, List.append_nil, List.length_reverse, ← h.offset] at hlength
  have hdrop : text.drop i = [] := List.drop_eq_nil_of_le (by omega)
  rintro (hbraced | ⟨-, htext, -⟩)
  · rw [hdrop] at hbraced
    cases List.prefix_nil.mp hbraced
  · rw [hdrop] at htext
    cases htext

/-- What the search asks of a character. -/
lemma markerAt_iff (h : c.In text) {ch : Char} {rest : List Char} (hrest : c.rest = ch :: rest) :
    MarkerAt text c.offset ↔ ch = '$' ∧ rest.head? = some '{' ∨
      ch = '@' ∧ c.leadsLine = true ∧ Token.Native.directiveNames.contains
        (String.ofList (rest.takeWhile Token.isIdentChar)) = true := by
  have hdrop : text.drop c.offset = ch :: rest := h.drop_offset.trans hrest
  rw [leadsLine_iff h]
  constructor
  · rintro (hbraced | @⟨word, more, hleads, htext, hword, hmore, hname⟩)
    · rw [hdrop, List.cons_prefix_cons] at hbraced
      obtain ⟨rfl, tail, htail⟩ := hbraced
      exact .inl ⟨rfl, by rw [← htail]; rfl⟩
    · rw [hdrop] at htext
      obtain ⟨rfl, rfl⟩ := List.cons.inj htext
      refine .inr ⟨rfl, hleads, ?_⟩
      rw [Token.takeWhile_before hword hmore]
      exact List.contains_iff_mem.mpr hname
  · rintro (⟨rfl, hbrace⟩ | ⟨rfl, hleads, hname⟩)
    · obtain ⟨more, rfl⟩ := List.head?_eq_some_iff.mp hbrace
      exact .braced ⟨more, hdrop.symm⟩
    · have htext : text.drop c.offset =
          '@' :: (rest.takeWhile Token.isIdentChar ++ rest.dropWhile Token.isIdentChar) := by
        rw [hdrop, List.takeWhile_append_dropWhile]
      refine .directive hleads htext ?_ ?_ (List.contains_iff_mem.mp hname)
      · exact List.all_eq_true.mp List.all_takeWhile
      · intro next hnext
        have hstop := List.head?_dropWhile_not Token.isIdentChar rest
        rw [Option.mem_def.mp hnext] at hstop
        simpa using hstop

/-- From a place on the search finds the first marker, if there is one. -/
theorem nativeMarker?_spec (h : c.In text) :
    (nativeMarker? c.leadsLine c.pos c.rest = none ∧ ∀ i, c.offset ≤ i → ¬ MarkerAt text i) ∨
    ∃ i, nativeMarker? c.leadsLine c.pos c.rest = some (.ofOffset text i) ∧ MarkerAt text i ∧
      ∀ j, c.offset ≤ j → j < i → ¬ MarkerAt text j := by
  induction hrest : c.rest generalizing c with
  | nil => exact .inl ⟨rfl, fun i hi => not_markerAt_end h hrest hi⟩
  | cons ch rest ih =>
    have hhere := markerAt_iff h hrest
    by_cases hmarker : MarkerAt text c.offset
    · refine .inr ⟨c.offset, ?_, hmarker, fun j hj hlt => absurd hj (by omega)⟩
      rw [nativeMarker?, ← h.pos_eq]
      obtain hbraced | hdirective := hhere.mp hmarker
      · rw [if_pos hbraced]
      · rw [if_pos hdirective, ite_self]
    · obtain ⟨hbraced, hdirective⟩ := not_or.mp (hhere.not.mp hmarker)
      have hnext : (c.advance 1).offset = c.offset + 1 := by
        refine Cursor.offset_advance ?_
        rw [hrest]
        simp
      have hlater : ∀ j, c.offset ≤ j → ¬ MarkerAt text j ∨ (c.advance 1).offset ≤ j := by
        intro j hj
        obtain rfl | hlt := Nat.eq_or_lt_of_le hj
        · exact .inl hmarker
        · exact .inr (hnext ▸ hlt)
      have hpos : (c.advance 1).pos = c.pos.advance ch := by
        rw [advance, hrest]
        rfl
      have hsearch := ih (h.advance 1) (by rw [rest_advance, hrest]; rfl)
      rw [leadsLine_next hrest, hpos] at hsearch
      rw [nativeMarker?, if_neg hbraced, if_neg hdirective]
      obtain ⟨hnone, hmore⟩ | ⟨i, hsome, hi, hmore⟩ := hsearch
      · exact .inl ⟨hnone, fun j hj => (hlater j hj).elim id (hmore j)⟩
      · exact .inr ⟨i, hsome, hi, fun j hj hlt => (hlater j hj).elim id (hmore j · hlt)⟩

end Markers

/-! ### Dialects -/

/-- The two searches together. -/
lemma detect_cases (source : String) :
    (detect source = .ok .native ∧ hasTag source.toList = false) ∨
    (detect source = .ok .jinja ∧ hasTag source.toList = true ∧
      ∀ i, ¬ MarkerAt source.toList i) ∨
    ∃ i, detect source = .error (.mixedDialects (.ofOffset source.toList i)) ∧
      hasTag source.toList = true ∧ MarkerAt source.toList i ∧
      ∀ j < i, ¬ MarkerAt source.toList j := by
  have hsearch := nativeMarker?_spec (Cursor.in_start source.toList)
  change (nativeMarker? true .start source.toList = none ∧ ∀ i, 0 ≤ i → _) ∨
    ∃ i, nativeMarker? true .start source.toList = some _ ∧ _ ∧ ∀ j, 0 ≤ j → _ at hsearch
  simp only [Nat.zero_le, true_implies] at hsearch
  unfold detect
  cases htag : hasTag source.toList with
  | false => exact .inl ⟨rfl, rfl⟩
  | true =>
    obtain ⟨hnone, hmarkers⟩ | ⟨i, hsome, hi, hfirst⟩ := hsearch
    · rw [hnone]
      exact .inr (.inl ⟨rfl, rfl, hmarkers⟩)
    · rw [hsome]
      exact .inr (.inr ⟨i, rfl, rfl, hi, hfirst⟩)

/-- A text is of the jinja dialect if some tag opens in it and no native marker stands in it, and of
the native one if no tag opens in it; as a template of the jinja dialect it is then nothing but
literal text. A text with tags and native markers is refused, at the first of the markers. -/
theorem detect_exact (source : String) :
    (detect source = .ok .jinja ↔
      (∃ i, TagAt source.toList i) ∧ ∀ i, ¬ MarkerAt source.toList i) ∧
    (detect source = .ok .native ↔ ∀ i, ¬ TagAt source.toList i) ∧
    (∀ e, detect source = .error e ↔ (∃ i, TagAt source.toList i) ∧
      ∃ i, MarkerAt source.toList i ∧ (∀ j < i, ¬ MarkerAt source.toList j) ∧
        e = .mixedDialects (.ofOffset source.toList i)) ∧
    (detect source = .ok .native → TokenStream.ofSource (some .jinja) source =
      .ok ⟨.jinja, if source = "" then [] else [⟨.text source, source, 0, .start⟩], none,
        .ofOffset source.toList source.length⟩) := by
  have htags : (∀ i, ¬ TagAt source.toList i) ↔ hasTag source.toList = false := by
    rw [← Bool.not_eq_true, hasTag_iff, not_exists]
  rw [htags, ← hasTag_iff]
  obtain ⟨hdetect, htag⟩ | ⟨hdetect, htag, hmarkers⟩ | ⟨i, hdetect, htag, hi, hfirst⟩ :=
    detect_cases source
  · rw [hdetect, htag]
    refine ⟨⟨nofun, nofun⟩, ⟨fun _ => rfl, fun _ => rfl⟩, fun e => ⟨nofun, nofun⟩, fun _ => ?_⟩
    change Except.ok (TokenStream.ofText .jinja source.toList) = _
    rw [ofText_jinja_of_hasTag htag, after_eq_ofOffset, String.ofList_toList,
      String.length_toList]
    simp only [String.toList_eq_nil_iff]
  · rw [hdetect, htag]
    refine ⟨⟨fun _ => ⟨rfl, hmarkers⟩, fun _ => rfl⟩, ⟨nofun, nofun⟩, fun e => ⟨nofun, ?_⟩, nofun⟩
    rintro ⟨-, i, hi, -⟩
    exact absurd hi (hmarkers i)
  · rw [hdetect, htag]
    refine ⟨⟨nofun, fun h => absurd hi (h.2 i)⟩, ⟨nofun, nofun⟩, fun e => ⟨?_, ?_⟩, nofun⟩
    · rintro ⟨⟩
      exact ⟨rfl, i, hi, hfirst, rfl⟩
    · rintro ⟨-, j, hj, hfirst', rfl⟩
      obtain hlt | rfl | hgt := Nat.lt_trichotomy i j
      · exact absurd hi (hfirst' i hlt)
      · rfl
      · exact absurd hj (hfirst j hgt)

/-- A word that only begins like a directive is none, and columns count characters. -/
example : detect "é {{ x }} @if\n\t@iffy\n\t@if" = .error (.mixedDialects ⟨3, 2⟩) := by
  decide +kernel

end Dialect

end Stencil
