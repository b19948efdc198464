import Mathlib.Data.List.TakeWhile
import Mathlib.Tactic.Common
import Stencil.Proofs.Document

/-! Scanning inside expressions looks no further than the blank or the bracket behind a token. -/
namespace Stencil.Token

/-! ### Runs of characters -/

/-- How long a text is that begins with blanks and a word. -/
lemma length_spaced (gap word text : List Char) (c : Char) :
    (gap ++ c :: (word ++ text)).length = gap.length + (word.length + 1) + text.length := by
  simp only [List.length_append, List.length_cons]
  omega

lemma takeWhile_append_stop {p : Char → Bool} {stop : Char} (h : p stop = false)
    (text more : List Char) :
    (text ++ stop :: more).takeWhile p = text.takeWhile p := by
  induction text with
  | nil => simp [h]
  | cons c text ih =>
    simp only [List.cons_append, List.takeWhile_cons, ih]

lemma takeWhile_run {p : Char → Bool} {run : List Char} (hrun : ∀ c ∈ run, p c = true)
    {stop : Char} (hstop : p stop = false) (more : List Char) :
    (run ++ stop :: more).takeWhile p = run := by
  rw [takeWhile_append_stop hstop, List.takeWhile_eq_self_iff]
  exact hrun

/-- A run ends before a character that does not belong to it, or with the text. -/
lemma takeWhile_before {p : Char → Bool} {run more : List Char} (hrun : ∀ c ∈ run, p c = true)
    (hmore : ∀ c ∈ more.head?, p c = false) : (run ++ more).takeWhile p = run := by
  cases more with
  | nil =>
    rw [List.append_nil, List.takeWhile_eq_self_iff]
    exact hrun
  | cons c more => exact takeWhile_run hrun (hmore c rfl) more

lemma dropWhile_before {p : Char → Bool} {run more : List Char} (hrun : ∀ c ∈ run, p c = true)
    (hmore : ∀ c ∈ more.head?, p c = false) : (run ++ more).dropWhile p = more := by
  rw [List.dropWhile_append_of_pos hrun]
  cases more with
  | nil => rfl
  | cons c more => exact List.dropWhile_cons_of_neg (by rw [hmore c rfl]; exact Bool.false_ne_true)

lemma length_takeWhile_le (p : Char → Bool) (text : List Char) :
    (text.takeWhile p).length ≤ text.length :=
  (List.takeWhile_prefix p).length_le

/-! ### Numbers -/

/-- What ends the token before it: a blank, the end of a line, or a bracket that closes. -/
def isStop (c : Char) : Bool :=
  c == ' ' || c == '\n' || c == ')' || c == ']' || c == '}'

variable {stop : Char} {more : List Char}

lemma eq_of_isStop (h : isStop stop = true) :
    stop = ' ' ∨ stop = '\n' ∨ stop = ')' ∨ stop = ']' ∨ stop = '}' := by
  simpa [isStop, or_assoc] using h

lemma isNumberPart_stop (h : isStop stop = true) : isNumberPart stop = false := by
  rcases eq_of_isStop h with rfl | rfl | rfl | rfl | rfl <;> decide

lemma isIdentChar_stop (h : isStop stop = true) : isIdentChar stop = false := by
  rcases eq_of_isStop h with rfl | rfl | rfl | rfl | rfl <;> decide

lemma fractionPart_append (h : isStop stop = true) (text : List Char) :
    fractionPart (text ++ stop :: more) = fractionPart text := by
  match text with
  | [] => rcases eq_of_isStop h with rfl | rfl | rfl | rfl | rfl <;> rfl
  | [c] =>
    by_cases hc : c = '.'
    · subst hc
      rcases eq_of_isStop h with rfl | rfl | rfl | rfl | rfl <;> rfl
    · simp [fractionPart, hc]
  | c :: d :: text =>
    by_cases hc : c = '.'
    · subst hc
      simp only [List.cons_append, fractionPart]
      rw [← List.cons_append, takeWhile_append_stop (isNumberPart_stop h)]
    · simp [fractionPart, hc]

lemma exponentDigits_append (h : isStop stop = true) (text : List Char) :
    exponentDigits (text ++ stop :: more) = exponentDigits text := by
  cases text with
  | nil => rcases eq_of_isStop h with rfl | rfl | rfl | rfl | rfl <;> rfl
  | cons d text =>
    simp only [List.cons_append, exponentDigits]
    rw [← List.cons_append, takeWhile_append_stop (isNumberPart_stop h)]

lemma exponentPart_append (h : isStop stop = true) (text : List Char) :
    exponentPart (text ++ stop :: more) = exponentPart text := by
  match text with
  | [] => rcases eq_of_isStop h with rfl | rfl | rfl | rfl | rfl <;> rfl
  | [mark] => rcases eq_of_isStop h with rfl | rfl | rfl | rfl | rfl <;> rfl
  | mark :: sign :: text =>
    by_cases hplus : sign = '+'
    · subst hplus
      simp only [List.cons_append, exponentPart, exponentDigits_append h]
    · by_cases hminus : sign = '-'
      · subst hminus
        simp only [List.cons_append, exponentPart, exponentDigits_append h]
      · have hdigits : exponentDigits (sign :: (text ++ stop :: more)) = _ :=
          exponentDigits_append h (sign :: text)
        simp [exponentPart, hplus, hminus, hdigits]

lemma isPrefix_fractionPart (text : List Char) : fractionPart text <+: text := by
  unfold fractionPart
  split
  · rename_i d rest
    split
    · exact (List.prefix_cons_inj _).mpr (List.takeWhile_prefix _)
    · exact List.nil_prefix
  · exact List.nil_prefix

lemma isPrefix_exponentDigits (text : List Char) : exponentDigits text <+: text := by
  unfold exponentDigits
  split
  · split
    · exact List.takeWhile_prefix _
    · exact List.nil_prefix
  · exact List.nil_prefix

lemma isPrefix_exponentPart (text : List Char) : exponentPart text <+: text := by
  match text with
  | [] => exact List.nil_prefix
  | mark :: rest =>
    have hif : ∀ {c : Prop} [Decidable c] {a : List Char}, a <+: rest →
        (if c then [] else mark :: a) <+: mark :: rest := by
      intro c _ a ha
      split
      · exact List.nil_prefix
      · exact (List.prefix_cons_inj _).mpr ha
    simp only [exponentPart]
    split
    · split
      · exact hif ((List.prefix_cons_inj _).mpr (isPrefix_exponentDigits _))
      · exact hif ((List.prefix_cons_inj _).mpr (isPrefix_exponentDigits _))
      · exact hif (isPrefix_exponentDigits _)
    · exact List.nil_prefix

lemma numberParts_append (h : isStop stop = true) (text : List Char) :
    numberParts (text ++ stop :: more) = numberParts text := by
  have hwhole := takeWhile_append_stop (isNumberPart_stop h) text more
  have hle := length_takeWhile_le isNumberPart text
  have hfraction :=
    (isPrefix_fractionPart (text.drop (text.takeWhile isNumberPart).length)).length_le
  rw [List.length_drop] at hfraction
  unfold numberParts
  simp only [hwhole]
  rw [List.drop_append_of_le_length hle, fractionPart_append h, List.drop_append_of_le_length
    (by omega), exponentPart_append h]

lemma length_numberParts_le (text : List Char) :
    (numberParts text).1.length + (numberParts text).2.1.length +
      (numberParts text).2.2.length ≤ text.length := by
  have hwhole := length_takeWhile_le isNumberPart text
  simp only [numberParts]
  set whole := text.takeWhile isNumberPart
  have hfraction := (isPrefix_fractionPart (text.drop whole.length)).length_le
  set fraction := fractionPart (text.drop whole.length)
  have hexponent := (isPrefix_exponentPart (text.drop (whole.length + fraction.length))).length_le
  rw [List.length_drop] at hfraction hexponent
  omega

/-! ### Tokens -/

lemma scanString_append {quote : Char} {text : List Char} {r : List Char × Nat}
    (h : scanString quote text = some r) (more : List Char) :
    scanString quote (text ++ more) = some r := by
  fun_induction scanString quote text generalizing r with
  | case1 => cases h
  | case2 rest =>
    rw [List.cons_append, scanString.eq_def]
    exact (if_pos rfl).trans h
  | case3 => cases h
  | case4 e rest hquote ih =>
    obtain ⟨r', hr', rfl⟩ := Option.map_eq_some_iff.mp h
    rw [List.cons_append, List.cons_append, scanString.eq_def]
    simp [hquote, ih hr']
  | case5 c rest hquote hescape ih =>
    obtain ⟨r', hr', rfl⟩ := Option.map_eq_some_iff.mp h
    rw [List.cons_append, scanString.eq_def]
    simp [hquote, hescape, ih hr']

lemma scanString_length {quote : Char} {text : List Char} {r : List Char × Nat}
    (h : scanString quote text = some r) : r.2 ≤ text.length := by
  fun_induction scanString quote text generalizing r with
  | case1 => cases h
  | case2 rest =>
    cases h
    simp
  | case3 => cases h
  | case4 e rest hquote ih =>
    obtain ⟨r', hr', rfl⟩ := Option.map_eq_some_iff.mp h
    have := ih hr'
    simp only [List.length_cons]
    omega
  | case5 c rest hquote hescape ih =>
    obtain ⟨r', hr', rfl⟩ := Option.map_eq_some_iff.mp h
    have := ih hr'
    simp only [List.length_cons]
    omega

lemma symbol2?_stop (h : isStop stop = true) (c : Char) : symbol2? c stop = none := by
  rcases eq_of_isStop h with rfl | rfl | rfl | rfl | rfl <;> simp [symbol2?]

lemma scan_string {c : Char} {text : List Char} {r : Kind × Nat} (hquote : c = '"' ∨ c = '\'')
    (h : scan c text = .ok r) (more : List Char) : scan c (text ++ more) = .ok r := by
  unfold scan at h ⊢
  rw [if_pos hquote] at h ⊢
  split at h
  · rename_i hstring
    rw [scanString_append hstring]
    exact h
  · cases h

/-- What is no string ends before a blank or a bracket that closes. -/
lemma scan_before_stop {c : Char} (hquote : ¬(c = '"' ∨ c = '\'')) (hstop : isStop stop = true)
    (text more : List Char) : scan c (text ++ stop :: more) = scan c text := by
  unfold scan
  rw [if_neg hquote, if_neg hquote, ← List.cons_append, numberParts_append hstop,
    takeWhile_append_stop (isIdentChar_stop hstop)]
  cases text with
  | nil => simp [symbol2?_stop hstop]
  | cons d text => rfl

/-- A token that ends with a text is the same before a blank or a bracket that closes. -/
theorem scan_append {c : Char} {text : List Char} {r : Kind × Nat} (h : scan c text = .ok r)
    (hstop : isStop stop = true) (more : List Char) :
    scan c (text ++ stop :: more) = .ok r := by
  by_cases hquote : c = '"' ∨ c = '\''
  · exact scan_string hquote h (stop :: more)
  · rw [scan_before_stop hquote hstop, h]

/-- Behind a blank or a bracket that closes a token is not looked for. -/
theorem scan_append_behind {c : Char} {text : List Char} {r : Kind × Nat}
    (h : scan c (text ++ [stop]) = .ok r) (hstop : isStop stop = true) (more : List Char) :
    scan c (text ++ stop :: more) = .ok r := by
  by_cases hquote : c = '"' ∨ c = '\''
  · rw [← List.singleton_append, ← List.append_assoc]
    exact scan_string hquote h more
  · rw [scan_before_stop hquote hstop] at h ⊢
    exact h

lemma scan_length {c : Char} {text : List Char} {kind : Kind} {n : Nat}
    (h : scan c text = .ok (kind, n)) : n ≤ text.length := by
  unfold scan at h
  split at h
  · split at h
    · rename_i hstring
      cases h
      exact scanString_length hstring
    · cases h
  split at h
  · cases h
    have hle := length_numberParts_le (c :: text)
    rw [List.length_cons] at hle
    exact Nat.sub_le_of_le_add hle
  split at h
  · cases h
    exact length_takeWhile_le _ _
  split at h
  · rename_i hsymbol
    cases h
    cases text with
    | nil => cases hsymbol
    | cons d text => simp
  · split at h
    · cases h
      exact Nat.zero_le _
    · cases h

/-! ### Tokens at places -/

variable {p q : Cursor} {kind : Kind}

/-- A token is a word of characters that are ahead. -/
lemma exists_of_scanAt (h : scanAt p = .ok (kind, q)) :
    ∃ text more, text ≠ [] ∧ p.rest = text ++ more ∧ q = p.advance text.length := by
  obtain ⟨ch, rest, n, hrest, hscan, rfl⟩ := exists_scan_of_scanAt h
  have hn := scan_length hscan
  refine ⟨ch :: rest.take n, rest.drop n, List.cons_ne_nil _ _, ?_, ?_⟩
  · rw [hrest, List.cons_append, List.take_append_drop]
  · rw [List.length_cons, List.length_take_of_le hn]

/-- What is scanned behind blanks, and how long it is. -/
lemma scanAt_behind {acrossLines : Bool} {gap more : List Char} {ch : Char} {n : Nat}
    (h : p.rest = gap ++ ch :: more) (hblanks : p.blanks acrossLines = gap.length)
    (hscan : scan ch more = .ok (kind, n)) :
    (p.advance (p.blanks acrossLines)).rest = ch :: more ∧
      scanAt (p.advance (p.blanks acrossLines)) =
        .ok (kind, (p.advance (p.blanks acrossLines)).advance (n + 1)) ∧
      (p.advance (p.blanks acrossLines)).distance
        ((p.advance (p.blanks acrossLines)).advance (n + 1)) = n + 1 := by
  have hrest : (p.advance (p.blanks acrossLines)).rest = ch :: more := by
    rw [hblanks, Cursor.rest_advance, h, List.drop_left]
  refine ⟨hrest, scanAt_of_scan hrest hscan, Cursor.distance_advance ?_⟩
  rw [hrest]
  exact Nat.succ_le_succ (scan_length hscan)

end Stencil.Token
