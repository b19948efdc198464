import Stencil.Proofs.Scan

/-! The arguments of directives as blanks and tokens. -/
namespace Stencil

namespace Unicode

/-- No letter of any script is a blank. -/
lemma isAlphabetic_of_isWhitespace {c : Char} (h : isWhitespace c = true) :
    isAlphabetic c = false := by
  have hpoints : ∀ n ∈ whitespace.flatMap fun r => List.range' r.first (r.last + 1 - r.first),
      alphabetic.any (·.contains n) = false := by decide +kernel
  unfold isWhitespace at h
  unfold isAlphabetic
  split
  · rename_i hascii
    rw [if_pos hascii] at h
    simp only [Bool.or_eq_true, beq_iff_eq, Bool.and_eq_true, decide_eq_true_eq] at h
    rcases h with rfl | h
    · decide
    · have hupper : ¬65 ≤ c.toNat := by omega
      have hlower : ¬97 ≤ c.toNat := by omega
      have halpha : c.isAlpha =
          (decide (c.val ≥ 65 ∧ c.val ≤ 90) || (decide (c.val ≥ 97) && decide (c.val ≤ 122))) := rfl
      simp [halpha, UInt32.le_iff_toNat_le, hupper, hlower]
  · rename_i hascii
    rw [if_neg hascii] at h
    apply hpoints
    obtain ⟨r, hr, hn⟩ := List.any_eq_true.mp h
    simp only [CharRange.contains, Bool.and_eq_true, decide_eq_true_eq] at hn
    exact List.mem_flatMap.mpr ⟨r, hr, List.mem_range'_1.mpr (by omega)⟩

lemma isDigit_of_isWhitespace {c : Char} (h : isWhitespace c = true) : c.isDigit = false := by
  by_contra hdigit
  have hrange : 48 ≤ c.toNat ∧ c.toNat ≤ 57 := by
    simpa [Char.isDigit, UInt32.le_iff_toNat_le] using hdigit
  unfold isWhitespace at h
  rw [if_pos (by omega)] at h
  simp only [Bool.or_eq_true, beq_iff_eq, Bool.and_eq_true, decide_eq_true_eq] at h
  rcases h with rfl | h
  · exact absurd hrange (by decide)
  · omega

end Unicode

namespace Token

/-- No token starts with a blank. -/
theorem isWhitespace_of_scan {c : Char} {text : List Char} {r : Kind × Nat}
    (h : scan c text = .ok r) : Unicode.isWhitespace c = false := by
  by_contra hblank
  have hblank : Unicode.isWhitespace c = true := by simpa using hblank
  have hquote : ¬(c = '"' ∨ c = '\'') := by
    rintro (rfl | rfl)
    · exact absurd hblank (by decide)
    · exact absurd hblank (by decide)
  have hsymbol1 : symbol1? c = none := by
    unfold symbol1?
    split <;> first | rfl | exact absurd hblank (by decide)
  have hsymbol2 : text.head?.bind (symbol2? c) = none := by
    cases text with
    | nil => rfl
    | cons d text =>
      unfold List.head? Option.bind symbol2?
      dsimp only
      split <;> first | rfl | exact absurd hblank (by decide)
  have hstart : isIdentStart c = false := by
    simp only [isIdentStart, Unicode.isAlphabetic_of_isWhitespace hblank, Bool.false_or,
      beq_eq_false_iff_ne]
    rintro rfl
    exact absurd hblank (by decide)
  unfold scan at h
  rw [if_neg hquote, Unicode.isDigit_of_isWhitespace hblank, hstart, hsymbol2, hsymbol1] at h
  cases h

lemma isWhitespace_of_isIndent {c : Char} (h : Cursor.isIndent c = true) :
    Unicode.isWhitespace c = true := by
  simp only [Cursor.isIndent, Bool.or_eq_true, beq_iff_eq] at h
  rcases h with rfl | rfl <;> decide

lemma isIndent_of_scan {c : Char} {text : List Char} {r : Kind × Nat} (h : scan c text = .ok r) :
    Cursor.isIndent c = false := by
  by_contra hindent
  have hspace := isWhitespace_of_isIndent (by simpa using hindent)
  rw [isWhitespace_of_scan h] at hspace
  cases hspace

/-- The text is tokens of these shapes with spaces and tabs between them. -/
inductive Reads : List Char → List Shape → Prop where
  | blank {gap : List Char} : (∀ c ∈ gap, Cursor.isIndent c = true) → Reads gap []
  | token {gap word more : List Char} {c : Char} {kind : Kind} {shapes : List Shape} :
    (∀ c ∈ gap, Cursor.isIndent c = true) → scan c (word ++ more) = .ok (kind, word.length) →
    Reads more shapes →
    Reads (gap ++ c :: (word ++ more)) (kind.shape (String.ofList (c :: word)) :: shapes)

lemma Reads.indented {text : List Char} {shapes : List Shape} (h : Reads text shapes) {b : Char}
    (hb : Cursor.isIndent b = true) : Reads (b :: text) shapes := by
  cases h with
  | blank hgap => exact .blank (List.forall_mem_cons.mpr ⟨hb, hgap⟩)
  | token hgap hscan hmore =>
    have hreads := Reads.token (List.forall_mem_cons.mpr ⟨hb, hgap⟩) hscan hmore
    exact hreads

lemma Reads.of_symbol {c : Char} {sign : Symbol} {text : List Char} {shapes : List Shape}
    (h : Reads (c :: text) shapes) (hscan : scan c text = .ok (.symbol sign, 0)) :
    ∃ behind, shapes = ⟨.symbol sign, none⟩ :: behind ∧ Reads text behind := by
  have hblank := isIndent_of_scan hscan
  generalize hwhole : c :: text = whole at h
  cases h with
  | blank hgap =>
    subst hwhole
    rw [hgap c List.mem_cons_self] at hblank
    cases hblank
  | @token gap word rest c kind shapes hgap hword hmore =>
    cases gap with
    | nil =>
      cases hwhole
      rw [hscan] at hword
      cases word with
      | nil =>
        cases hword
        exact ⟨_, rfl, hmore⟩
      | cons d word => cases hword
    | cons b gap =>
      cases hwhole
      rw [hgap _ List.mem_cons_self] at hblank
      cases hblank

theorem reads_of_argumentShapes {text : List Char} {shapes : List Shape}
    (h : argumentShapes text = some shapes) : Reads text shapes := by
  fun_induction argumentShapes text generalizing shapes with
  | case1 =>
    cases h
    exact .blank (List.forall_mem_nil _)
  | case2 c rest hc ih => exact (ih h).indented hc
  | case3 => cases h
  | case4 c rest hc kind n hscan ih =>
    obtain ⟨shapes, hshapes, rfl⟩ := Option.map_eq_some_iff.mp h
    have hle := scan_length hscan
    have hword : (rest.take n).length = n := List.length_take_of_le hle
    have hsplit : rest.take n ++ rest.drop n = rest := List.take_append_drop n rest
    have hscan : scan c (rest.take n ++ rest.drop n) = .ok (kind, (rest.take n).length) := by
      rw [hsplit, hword]
      exact hscan
    have hreads := Reads.token (List.forall_mem_nil _) hscan (ih hshapes)
    rw [hsplit] at hreads
    exact hreads

lemma argumentShapes_of_blank {text : List Char} (h : ∀ c ∈ text, Cursor.isIndent c = true) :
    argumentShapes text = some [] := by
  induction text with
  | nil => rw [argumentShapes]
  | cons c text ih =>
    obtain ⟨hc, htext⟩ := List.forall_mem_cons.mp h
    rw [argumentShapes, if_pos hc, ih htext]

end Token

end Stencil
