import Stencil.Proofs.LineStart
import Stencil.Proofs.Printer

/-! Names as the scanner reads them: up to the first character that continues none. -/
namespace Stencil.Token

variable {name : String} {c : Char} {cs more : List Char}

lemma isIdentChar_of_isIdentStart (h : isIdentStart c = true) : isIdentChar c = true := by
  simp only [isIdentStart, Bool.or_eq_true] at h
  simp only [isIdentChar, Text.isAlphanumeric, Bool.or_eq_true]
  exact h.imp_left .inl

lemma ne_of_isIdentStart {d : Char} (h : isIdentStart c = true) (hd : isIdentStart d = false) :
    c ≠ d := by
  rintro rfl
  rw [h] at hd
  cases hd

/-- No string and no number begins like a name. -/
lemma plain_of_isIdentStart (h : isIdentStart c = true) :
    c ≠ '"' ∧ c ≠ '\'' ∧ c.isDigit = false := by
  refine ⟨ne_of_isIdentStart h (by decide), ne_of_isIdentStart h (by decide), ?_⟩
  by_contra hdigit
  have hrange : 48 ≤ c.toNat ∧ c.toNat ≤ 57 := by
    simpa [Char.isDigit, UInt32.le_iff_toNat_le] using hdigit
  have hdigits : ∀ n ≤ 57, 48 ≤ n → isIdentStart (Char.ofNat n) = false := by decide
  have hstart := hdigits c.toNat hrange.2 hrange.1
  rw [Char.ofNat_toNat, h] at hstart
  cases hstart

lemma ofWord_eq_ident {word : List Char} (h : ofWord word = .ident name) :
    name = String.ofList word := by
  unfold ofWord at h
  split at h <;> cases h
  rfl

/-- A name is a word that is no keyword. -/
lemma exists_of_isName (h : isName name = true) :
    ∃ c cs, name.toList = c :: cs ∧ isIdentStart c = true ∧ (∀ x ∈ cs, isIdentChar x = true) ∧
      ofWord (c :: cs) = .ident name := by
  unfold isName at h
  cases hname : name.toList with
  | nil =>
    rw [hname] at h
    cases h
  | cons c cs =>
    rw [hname] at h
    simp only [Bool.and_eq_true, List.all_eq_true] at h
    obtain ⟨⟨hstart, hcs⟩, hword⟩ := h
    refine ⟨c, cs, rfl, hstart, hcs, ?_⟩
    cases hkind : ofWord (c :: cs) with
    | ident name' =>
      have hsame := ofWord_eq_ident hkind
      rw [← hname, String.ofList_toList] at hsame
      rw [hsame]
    | _ =>
      rw [hkind] at hword
      cases hword

/-- No word goes on with the text. -/
def Breaks (text : List Char) : Prop := ∀ x ∈ text.head?, isIdentChar x = false

lemma breaks_cons (h : isIdentChar c = false) : Breaks (c :: cs) := by
  rintro _ ⟨⟩
  exact h

/-- The scanner reads a whole word. -/
lemma scan_word (hstart : isIdentStart c = true) (hcs : ∀ x ∈ cs, isIdentChar x = true)
    (hmore : Breaks more) :
    scan c (cs ++ more) = .ok (ofWord (c :: cs), cs.length) := by
  obtain ⟨hdouble, hsingle, hdigit⟩ := plain_of_isIdentStart hstart
  unfold scan
  rw [if_neg (not_or.mpr ⟨hdouble, hsingle⟩), if_neg (by rw [hdigit]; nofun), if_pos hstart,
    takeWhile_before hcs hmore]

end Stencil.Token
