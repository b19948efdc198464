import Stencil.Proofs.Coverage
import Stencil.Token.Jinja

/-! The jinja scanner leaves nothing out but blanks and the hyphens in the ends of raw bodies. -/
namespace Stencil.Token.Jinja

open Cursor Cursor.Covers

variable {c : Cursor} {ts : List Token} {n : Nat} {kind : TagKind} {strip : Bool}

/-! ### Tags -/

/-- A hyphen, if there is one. -/
def hyphenIf (strip : Bool) : List Char := if strip then ['-'] else []

/-- A closer is read with its hyphen or without. -/
lemma closerAhead?_spec {text : List Char} (h : closerAhead? kind text = some (n, strip)) :
    ∃ more, text = hyphenIf strip ++ kind.closer.toList ++ more ∧
      n = (hyphenIf strip).length + 2 := by
  unfold closerAhead? at h
  dsimp only at h
  split at h
  · rename_i hprefix
    obtain ⟨more, rfl⟩ := List.isPrefixOf_iff_prefix.mp hprefix
    cases h
    exact ⟨more, rfl, rfl⟩
  · split at h
    · rename_i hprefix
      obtain ⟨more, rfl⟩ := List.isPrefixOf_iff_prefix.mp hprefix
      cases h
      exact ⟨more, rfl, rfl⟩
    · cases h

lemma length_closer (kind : TagKind) : kind.closer.toList.length = 2 := by
  cases kind <;> rfl

lemma closerAhead?_le {text : List Char} (h : closerAhead? kind text = some (n, strip)) :
    n ≤ text.length := by
  obtain ⟨more, rfl, rfl⟩ := closerAhead?_spec h
  rw [List.length_append, List.length_append, length_closer]
  exact Nat.le_add_right _ _

lemma covers_tagTokens {opened : Position} {depth : Nat}
    (h : tagTokens kind opened depth c = .ok (ts, n, strip)) : Covers .jinja c ts n := by
  fun_induction tagTokens kind opened depth c generalizing ts n strip with
  | case1 => cases h
  | case2 =>
    rename_i ch rest hrest m strip' hcloser
    cases h
    refine ended _ true ?_
    split at hcloser
    · rw [hrest]
      exact closerAhead?_le hcloser
    · cases hcloser
  | case3 => cases h
  | case4 => cases h
  | case5 =>
    rename_i hscan _ _ tokens k strip' hmore ih
    cases h
    exact scanned hscan (ih hmore)

lemma covers_tag {s : Step} (hc : 2 ≤ c.rest.length) (h : tag kind c = .ok s) :
    Covers .jinja c s.tokens s.length := by
  unfold tag at h
  dsimp only at h
  split at h
  · cases h
  · rename_i tokens m strip htokens
    cases h
    refine append (singleton kind.startKind ?_) (covers_tagTokens htokens)
    split
    · rename_i hhyphen
      have hlength : (c.rest.drop 2).length ≠ 0 := fun hnil => by
        rw [List.length_eq_zero_iff.mp hnil] at hhyphen
        cases hhyphen
      rw [List.length_drop] at hlength
      omega
    · exact hc

lemma covers_comment {s : Step} (hc : 2 ≤ c.rest.length) (h : comment c = .ok s) :
    Covers .jinja c s.tokens s.length := by
  unfold comment at h
  split at h
  · cases h
  · rename_i body rest hsplit
    cases h
    refine singleton .comment ?_
    have hlength := congrArg List.length (Text.append_of_splitAt? hsplit)
    have hprefix := (List.isPrefixOf_iff_prefix.mp (Text.isPrefixOf_of_splitAt? hsplit)).length_le
    rw [List.length_append, List.length_drop] at hlength
    change 2 ≤ rest.length at hprefix
    omega

lemma covers_construct {s : Step} (hc : 2 ≤ c.rest.length) (h : construct kind c = .ok s) :
    Covers .jinja c s.tokens s.length := by
  cases kind with
  | comment => exact covers_comment hc h
  | print => exact covers_tag hc h
  | block => exact covers_tag hc h

/-- The text before a tag is the front of the text, and the tag has an opener. -/
lemma splitAtTag_spec {text before : List Char} (h : splitAtTag text = some (before, kind)) :
    text.take before.length = before ∧ before.length + 2 ≤ text.length := by
  induction text generalizing before with
  | nil => cases h
  | cons ch rest ih =>
    rw [splitAtTag] at h
    split at h
    · rename_i found
      cases h
      split at found
      · cases rest with
        | nil => cases found
        | cons next rest => exact ⟨rfl, Nat.le_add_left _ _⟩
      · cases found
    · obtain ⟨⟨before', kind'⟩, hmore, hr⟩ := Option.map_eq_some_iff.mp h
      cases hr
      obtain ⟨htake, hlength⟩ := ih hmore
      refine ⟨?_, ?_⟩
      · rw [List.length_cons, List.take_succ_cons, htake]
      · change before'.length + 1 + 2 ≤ rest.length + 1
        omega

/-! ### Raw bodies -/

lemma isBlank_takeWhile_isWhitespace (text : List Char) :
    IsBlank (text.takeWhile Unicode.isWhitespace) :=
  isBlank_takeWhile (fun _ => id) text

lemma take_length_takeWhile (p : Char → Bool) (text : List Char) :
    text.take (text.takeWhile p).length = text.takeWhile p :=
  (List.prefix_iff_eq_take.mp (List.takeWhile_prefix p)).symm

lemma takeWhile_append_drop (p : Char → Bool) (text : List Char) :
    text.takeWhile p ++ text.drop (text.takeWhile p).length = text := by
  conv_rhs => rw [← List.take_append_drop (text.takeWhile p).length text, take_length_takeWhile]

/-- The parts of a tag that ends a raw body: its name between blanks, and hyphens at the outside. -/
structure EndsRaw (text : List Char) (stop : RawEnd) (front back more : List Char) : Prop where
  split : text.drop 2 = hyphenIf stop.stripBefore ++ (front ++ ("endraw".toList ++ (back ++
    (hyphenIf stop.stripAfter ++ TagKind.block.closer.toList ++ more))))
  isBlank_front : IsBlank front
  isBlank_back : IsBlank back
  stripBefore : decide ((text.drop 2).head? = some '-') = stop.stripBefore
  lead_eq : stop.lead = 2 + (hyphenIf stop.stripBefore).length + front.length
  length_eq : stop.length =
    stop.lead + 6 + back.length + ((hyphenIf stop.stripAfter).length + 2)

/-- What `rawEnd?` finds is a tag with blanks and hyphens around its name. -/
lemma exists_endsRaw {text : List Char} {stop : RawEnd} (h : rawEnd? text = some stop) :
    ∃ front back more, EndsRaw text stop front back more := by
  unfold rawEnd? at h
  dsimp only at h
  obtain ⟨before, inside, hbefore, hinside, hlead, hsplit⟩ : ∃ before inside,
      decide ((text.drop 2).head? = some '-') = before ∧
      (if (text.drop 2).head? = some '-' then (text.drop 2).drop 1 else text.drop 2) = inside ∧
      (if (text.drop 2).head? = some '-' then 3 else 2) = 2 + (hyphenIf before).length ∧
      text.drop 2 = hyphenIf before ++ inside := by
    by_cases hhyphen : (text.drop 2).head? = some '-'
    · obtain ⟨more, hmore⟩ := List.head?_eq_some_iff.mp hhyphen
      rw [hmore]
      exact ⟨true, more, rfl, rfl, rfl, rfl⟩
    · simp only [hhyphen]
      exact ⟨false, text.drop 2, rfl, rfl, rfl, rfl⟩
  rw [hinside, hlead, hbefore] at h
  split at h
  · rename_i hword
    rw [Bool.and_eq_true] at hword
    obtain ⟨rest, hrest⟩ := List.isPrefixOf_iff_prefix.mp hword.2
    have hbehind : inside.drop ((inside.takeWhile Unicode.isWhitespace).length +
        "endraw".toList.length) = rest := by
      rw [← List.drop_drop, ← hrest, List.drop_left]
    rw [hbehind] at h
    obtain ⟨⟨n, after⟩, hcloser, rfl⟩ := Option.map_eq_some_iff.mp h
    obtain ⟨more, hmore, rfl⟩ := closerAhead?_spec hcloser
    refine ⟨inside.takeWhile Unicode.isWhitespace, rest.takeWhile Unicode.isWhitespace, more, ?_,
      isBlank_takeWhile_isWhitespace _, isBlank_takeWhile_isWhitespace _, hbefore, rfl, rfl⟩
    rw [← hmore, takeWhile_append_drop, hrest, takeWhile_append_drop, hsplit]
  · cases h

namespace EndsRaw

variable {text front back more : List Char} {stop : RawEnd}

lemma length_le (h : EndsRaw text stop front back more) : stop.length ≤ text.length := by
  have hlength := congrArg List.length h.split
  have hname : "endraw".toList.length = 6 := rfl
  simp only [List.length_drop, List.length_append, length_closer, hname] at hlength
  rw [h.length_eq, h.lead_eq]
  omega

lemma front_eq (h : EndsRaw text stop front back more) :
    (text.drop 2).take ((hyphenIf stop.stripBefore).length + front.length) =
      hyphenIf stop.stripBefore ++ front := by
  rw [h.split, ← List.append_assoc, ← List.length_append, List.take_left]

lemma back_eq (h : EndsRaw text stop front back more) :
    (text.drop (stop.lead + 6)).take (back.length + (hyphenIf stop.stripAfter).length) =
      back ++ hyphenIf stop.stripAfter := by
  have hlead : stop.lead + 6 =
      2 + ((hyphenIf stop.stripBefore ++ front) ++ "endraw".toList).length := by
    rw [h.lead_eq, List.length_append, List.length_append]
    change _ = 2 + (_ + 6)
    omega
  rw [hlead, ← List.drop_drop, h.split, ← List.append_assoc, ← List.append_assoc, List.drop_left,
    List.append_assoc, ← List.append_assoc, ← List.length_append, List.take_left]

end EndsRaw

lemma isHyphened_front {front : List Char} (hfront : IsBlank front) :
    IsHyphened (hyphenIf strip ++ front) := by
  cases strip with
  | true => exact .inr ⟨front, rfl, hfront⟩
  | false => exact .inl hfront

lemma isHyphened_back {back : List Char} (hback : IsBlank back) :
    IsHyphened (back ++ hyphenIf strip).reverse := by
  have hsign : (hyphenIf strip).reverse = hyphenIf strip := by cases strip <;> rfl
  rw [List.reverse_append, hsign]
  exact isHyphened_front hback.reverse

lemma covers_rawEnd {stop : RawEnd} (h : rawEnd? c.rest = some stop) :
    Covers .jinja c [c.token .directiveStart 2, (c.advance stop.lead).token (.ident "endraw") 6,
      (c.advance (stop.length - 2)).token .directiveEnd 2] stop.length := by
  obtain ⟨front, back, more, hends⟩ := exists_endsRaw h
  have hlead := hends.lead_eq
  have hlength := hends.length_eq
  have hfront := hends.front_eq
  have hback := hends.back_eq
  have hle := hends.length_le
  generalize hn : (hyphenIf stop.stripBefore).length + front.length = lead at hfront
  generalize hm : back.length + (hyphenIf stop.stripAfter).length = trail at hback
  rw [show stop.lead + 6 = 8 + lead by omega] at hback
  rw [show stop.length = 10 + lead + trail by omega] at hle ⊢
  rw [show stop.lead = 2 + lead by omega, show 10 + lead + trail - 2 = 8 + lead + trail by omega]
  refine Covers.endraw rfl hle ?_ ?_ Covers.done
  · rw [hfront]
    exact isHyphened_front hends.isBlank_front
  · rw [hback]
    exact isHyphened_back hends.isBlank_back

lemma splitAtRawEnd_spec {text body : List Char} {stop : RawEnd}
    (h : splitAtRawEnd text = some (body, stop)) :
    text.take body.length = body ∧ rawEnd? (text.drop body.length) = some stop := by
  induction text generalizing body with
  | nil => cases h
  | cons ch rest ih =>
    rw [splitAtRawEnd] at h
    split at h
    · rename_i hstop
      cases h
      exact ⟨rfl, hstop⟩
    · obtain ⟨⟨body', stop'⟩, hmore, hr⟩ := Option.map_eq_some_iff.mp h
      cases hr
      obtain ⟨htake, hstop⟩ := ih hmore
      refine ⟨?_, hstop⟩
      rw [List.length_cons, List.take_succ_cons, htake]

lemma isBlank_of_kept {text : List Char} {alone : Bool} (h : kept text strip alone = []) :
    IsBlank text := by
  unfold kept at h
  split at h
  · exact all_of_dropEndWhile h
  · split at h
    · exact isBlank_of_isIndent (all_of_dropEndWhile h)
    · rw [h]
      exact isBlank_nil

lemma covers_kept {text : List Char} {alone : Bool} (htake : c.rest.take text.length = text) :
    Covers .jinja c (c.textToken (kept text strip alone) text.length) text.length := by
  refine textToken ?_ fun hkept => ?_
  · rw [← htake]
    exact List.length_take_le' _ _
  · rw [htake]
    exact isBlank_of_kept hkept

/-- The rest of the line behind a tag that stands alone on it, unless a hyphen takes it. -/
lemma covers_resume (h : Covers .jinja c ts n) {alone : Option Nat}
    (halone : ∀ k ∈ alone, IsBlank ((c.advance n).rest.take k)) :
    Covers .jinja c ts (n + if strip then 0 else alone.getD 0) := by
  split
  · exact h
  · cases alone with
    | none => exact h
    | some k =>
      have hmore := h.append (blanks (halone k rfl))
      rw [List.append_nil] at hmore
      exact hmore

lemma covers_rawBody {opened : Position} (h : rawBody opened c = .ok (ts, n, strip)) :
    Covers .jinja c ts n := by
  unfold rawBody at h
  split at h
  · cases h
  · rename_i body stop hsplit
    obtain ⟨htake, hstop⟩ := splitAtRawEnd_spec hsplit
    rw [← rest_advance] at hstop
    cases h
    refine covers_resume ((covers_kept htake).append (covers_rawEnd hstop)) fun k hk => ?_
    rw [advance_add]
    exact isBlank_of_standsAlone hk

/-- The text before a tag, the tag, and the rest of its line. -/
lemma covers_line {skipped : Nat} {text : List Char} {found : Step} {before alone : Bool}
    {resume : Option Nat} (hskipped : IsBlank (c.rest.take skipped))
    (htake : (c.advance skipped).rest.take text.length = text)
    (hfound : Covers .jinja ((c.advance skipped).advance text.length) found.tokens found.length)
    (hresume : ∀ k ∈ resume,
      IsBlank ((((c.advance skipped).advance text.length).advance found.length).rest.take k)) :
    Covers .jinja c
      ((c.advance skipped).textToken (kept text before alone) text.length ++ found.tokens)
      (skipped + text.length + found.length + if found.strip then 0 else resume.getD 0) := by
  have htag : Covers .jinja c
      ((c.advance skipped).textToken (kept text before alone) text.length ++ found.tokens)
      (skipped + text.length + found.length) :=
    (blank hskipped ((covers_kept htake).append hfound)).cast (Nat.add_assoc _ _ _).symm
  refine covers_resume htag fun k hk => ?_
  rw [advance_add, advance_add]
  exact hresume k hk

/-- Only tags and comments take the rest of their lines. -/
lemma isBlank_of_alone {opener closer : Cursor} {k : Nat}
    (h : k ∈ if kind = .print then none else opener.standsAlone closer) :
    IsBlank (closer.rest.take k) := by
  split at h
  · cases h
  · exact isBlank_of_standsAlone h

lemma covers_step {s : Step} (hc : c.rest ≠ []) (h : step strip c hc = .ok s) :
    Covers .jinja c s.tokens s.length := by
  have hskipped : IsBlank (c.rest.take (if strip then c.blanks true else 0)) := by
    split
    · exact isBlank_blanks c true
    · exact isBlank_nil
  unfold step at h
  dsimp only at h
  split at h
  · cases h
    have hskip : (if strip then c.blanks true else 0) ≤ c.rest.length := by
      split
      · exact length_takeWhile_le _ _
      · exact Nat.zero_le _
    refine (blank hskipped (textToken (Nat.le_refl _) fun hempty => ?_)).cast ?_
    · rw [hempty]
      exact isBlank_nil
    · rw [rest_advance, List.length_drop]
      exact Nat.add_sub_of_le hskip
  · rename_i text kind hsplit
    obtain ⟨htake, hlength⟩ := splitAtTag_spec hsplit
    split at h
    · cases h
    · rename_i found hfound
      have htag := covers_construct (by
        rw [rest_advance, List.length_drop]
        exact Nat.le_sub_of_add_le' hlength) hfound
      split at h
      · split at h
        · cases h
        · rename_i more n stripAfter hmore
          cases h
          refine (covers_line hskipped htake htag fun k hk => isBlank_of_alone hk).append ?_
          rw [advance_add, advance_add, advance_add]
          exact covers_rawBody hmore
      · cases h
        exact covers_line hskipped htake htag fun k hk => isBlank_of_alone hk

end Stencil.Token.Jinja
