import Mathlib.Tactic.Common
import Stencil.Filter.Text
import Stencil.Text.Casing
import Stencil.Text.Html

/-! Texts without the characters that open and close tags, and which ways of changing text keep
them so. -/
namespace Stencil

/-- The characters that open and close tags. -/
def isAngle (c : Char) : Bool := c == '<' || c == '>'

/-- Neither `<` nor `>` occurs. -/
def AngleFree (text : List Char) : Prop := ∀ c ∈ text, isAngle c = false

instance (text : List Char) : Decidable (AngleFree text) :=
  List.decidableBAll (fun c => isAngle c = false) text

@[simp] lemma angleFree_nil : AngleFree [] := by simp [AngleFree]

@[simp] lemma angleFree_append {s t : List Char} :
    AngleFree (s ++ t) ↔ AngleFree s ∧ AngleFree t := by
  simp only [AngleFree, List.forall_mem_append]

@[simp] lemma angleFree_cons {c : Char} {t : List Char} :
    AngleFree (c :: t) ↔ isAngle c = false ∧ AngleFree t := by
  simp only [AngleFree, List.forall_mem_cons]

lemma AngleFree.mono {s t : List Char} (h : AngleFree t) (hs : s ⊆ t) : AngleFree s :=
  fun c hc => h c (hs hc)

lemma AngleFree.flatMap {f : Char → List Char}
    (hf : ∀ c, isAngle c = false → AngleFree (f c)) {t : List Char} (h : AngleFree t) :
    AngleFree (t.flatMap f) := by
  intro d hd
  obtain ⟨c, hc, hd⟩ := List.mem_flatMap.mp hd
  exact hf c (h c hc) d hd

/-- Escaping leaves no angle of any text. -/
lemma angleFree_escapeHtml (s : String) : AngleFree (Text.escapeHtml s).toList := by
  rw [Text.toList_escapeHtml]
  intro d hd
  obtain ⟨c, -, hd⟩ := List.mem_flatMap.mp hd
  have hc : AngleFree (Text.escapeChar c) := by
    unfold Text.escapeChar
    split
    · decide
    · decide
    · decide
    · decide
    · decide
    · rename_i h₁ h₂ _ _
      simp_all [isAngle]
  exact hc d hd

/-- So does writing JSON text for HTML. -/
lemma angleFree_embed (text : List Char) : AngleFree (text.flatMap Filter.embedChar) := by
  intro d hd
  obtain ⟨c, -, hd⟩ := List.mem_flatMap.mp hd
  have hc : AngleFree (Filter.embedChar c) := by
    unfold Filter.embedChar
    split
    · decide
    · decide
    · decide
    · decide
    · simp_all [isAngle]
  exact hc d hd

namespace Unicode

/-- A shift that keeps all of its range beyond the angles. -/
def CaseShift.isAbove (s : CaseShift) : Bool := 0x3e < (s.range.first : Int) + s.shift

lemma isAngle_ofNat {n : Nat} (h : 0x3e < n) : isAngle (Char.ofNat n) = false := by
  by_cases hv : n.isValidChar
  · have hn : (Char.ofNat n).toNat = n := by
      rw [Char.ofNat, dif_pos hv]
      rfl
    simp only [isAngle, Bool.or_eq_false_iff, beq_eq_false_iff_ne]
    constructor
    · intro he
      rw [he] at hn
      change 0x3c = n at hn
      omega
    · intro he
      rw [he] at hn
      change 0x3e = n at hn
      omega
  · have h0 : Char.ofNat n = '\x00' := by
      rw [Char.ofNat, dif_neg hv]
      rfl
    rw [h0]
    decide

lemma isAngle_shifted {shifts : List CaseShift} (hs : shifts.all CaseShift.isAbove = true)
    {c : Char} (hc : isAngle c = false) : isAngle (shifted shifts c) = false := by
  unfold shifted
  split
  · rename_i s hf
    have ha := List.all_eq_true.mp hs s (List.mem_of_find?_eq_some hf)
    have hr := List.find?_some hf
    simp only [CaseShift.isAbove, decide_eq_true_eq] at ha
    simp only [CharRange.contains, Bool.and_eq_true, decide_eq_true_eq] at hr
    exact isAngle_ofNat (by omega)
  · exact hc

lemma upperShifts_above : upperShifts.all CaseShift.isAbove = true := by decide +kernel

lemma lowerShifts_above : lowerShifts.all CaseShift.isAbove = true := by decide +kernel

lemma upperExpansions_above :
    upperExpansions.all (fun p => p.2.all fun n => decide (0x3e < n)) = true := by decide +kernel

lemma isAngle_ascii : ∀ n < 128, isAngle (Char.ofNat n) = false →
    isAngle (Char.ofNat n).toUpper = false ∧ isAngle (Char.ofNat n).toLower = false := by decide

lemma angleFree_toUpper {c : Char} (h : isAngle c = false) : AngleFree (toUpper c) := by
  unfold toUpper
  split
  · rename_i hc
    have := isAngle_ascii c.toNat hc
    rw [Char.ofNat_toNat] at this
    simpa using (this h).1
  · split
    · rename_i codes hl
      have hmem : (c.toNat, codes) ∈ upperExpansions := by
        obtain ⟨l, r, he, -⟩ := List.lookup_eq_some_iff.mp hl
        simp [he]
      have ha := List.all_eq_true.mp upperExpansions_above _ hmem
      intro d hd
      obtain ⟨n, hn, rfl⟩ := List.mem_map.mp hd
      exact isAngle_ofNat (of_decide_eq_true (List.all_eq_true.mp ha n hn))
    · simpa using isAngle_shifted upperShifts_above h

lemma angleFree_toLower {c : Char} (h : isAngle c = false) : AngleFree (toLower c) := by
  unfold toLower
  split
  · rename_i hc
    have := isAngle_ascii c.toNat hc
    rw [Char.ofNat_toNat] at this
    simpa using (this h).2
  · split
    · decide
    · simpa using isAngle_shifted lowerShifts_above h

end Unicode

namespace Text

open Unicode

lemma angleFree_upper {t : List Char} (h : AngleFree t) : AngleFree (upper t) :=
  h.flatMap fun _ => angleFree_toUpper

lemma angleFree_lowerAfter (before : List Char) {t : List Char} (h : AngleFree t) :
    AngleFree (lowerAfter before t) := by
  induction t generalizing before with
  | nil => simp [lowerAfter]
  | cons c rest ih =>
    obtain ⟨hc, hrest⟩ := angleFree_cons.mp h
    rw [lowerAfter, angleFree_append]
    refine ⟨?_, ih _ hrest⟩
    split
    · split
      · decide
      · decide
    · exact angleFree_toLower hc

lemma angleFree_lower {t : List Char} (h : AngleFree t) : AngleFree (lower t) :=
  angleFree_lowerAfter [] h

lemma angleFree_capitalize {t : List Char} (h : AngleFree t) : AngleFree (capitalize t) := by
  cases t with
  | nil => exact h
  | cons c rest =>
    obtain ⟨hc, hrest⟩ := angleFree_cons.mp h
    rw [capitalize, angleFree_append]
    exact ⟨angleFree_toUpper hc, angleFree_lower hrest⟩

lemma angleFree_titleFrom (wordStart : Bool) {t : List Char} (h : AngleFree t) :
    AngleFree (titleFrom wordStart t) := by
  induction t generalizing wordStart with
  | nil => simp [titleFrom]
  | cons c rest ih =>
    obtain ⟨hc, hrest⟩ := angleFree_cons.mp h
    rw [titleFrom]
    split
    · rw [angleFree_append]
      refine ⟨?_, ih _ hrest⟩
      split
      · exact angleFree_toUpper hc
      · exact angleFree_toLower hc
    · exact angleFree_cons.mpr ⟨hc, ih _ hrest⟩

lemma angleFree_trim {t : List Char} (h : AngleFree t) : AngleFree (trim t) := by
  refine h.mono fun c hc => ?_
  have hc := List.dropWhile_subset _ (List.mem_reverse.mp hc)
  exact List.dropWhile_subset _ (List.mem_reverse.mp hc)

/-! ### Replacing -/

/-- A text without the replaced one stays as it is, whatever the limit. -/
lemma replaceFirst_of_not_occursIn {old text : List Char} (limit : Nat) (new : List Char)
    (h : occursIn old text = false) : replaceFirst limit old new text = text := by
  unfold replaceFirst
  induction text with
  | nil =>
    cases old with
    | nil => simp [occursIn, splitAt?] at h
    | cons c o => simp [replaceFrom]
  | cons c rest ih =>
    simp only [occursIn, splitAt?] at h
    split at h
    · simp at h
    · rename_i hp
      rw [replaceFrom, if_neg (by simp [hp]), ih (by simpa [occursIn] using h)]

lemma replaceFirst_zero (old new text : List Char) : replaceFirst 0 old new text = text := by
  unfold replaceFirst
  induction text with
  | nil => simp [replaceFrom]
  | cons c rest ih => rw [replaceFrom, if_neg (by simp), ih]

/-- The replacement appears as soon as there is something to replace. -/
lemma subset_replaceFirst {old text : List Char} {limit : Nat} (new : List Char)
    (hl : limit ≠ 0) (h : occursIn old text = true) :
    new ⊆ replaceFirst limit old new text := by
  unfold replaceFirst
  induction text with
  | nil =>
    cases old with
    | nil => simp [replaceFrom, hl]
    | cons c o => simp [occursIn, splitAt?] at h
  | cons c rest ih =>
    by_cases hp : old.isPrefixOf (c :: rest) = true
    · rw [replaceFrom, if_pos (by simp [hl, hp])]
      split
      · exact List.subset_append_left _ _
      · exact List.subset_append_left _ _
    · have hrest : occursIn old rest = true := by
        simpa [occursIn, splitAt?, hp] using h
      rw [replaceFrom, if_neg (by simp [hp])]
      exact List.subset_cons_of_subset _ (ih hrest)

lemma angleFree_replaceFrom {old new : List Char} (hnew : AngleFree new) (limit skip : Nat)
    {t : List Char} (h : AngleFree t) : AngleFree (replaceFrom old new limit skip t) := by
  induction t generalizing limit skip with
  | nil =>
    rw [replaceFrom]
    split
    · exact hnew
    · exact h
  | cons c rest ih =>
    obtain ⟨hc, hrest⟩ := angleFree_cons.mp h
    cases skip with
    | succ skip => exact ih _ _ hrest
    | zero =>
      rw [replaceFrom]
      split
      · split
        · simp [hnew, hc, ih _ _ hrest]
        · simp [hnew, ih _ _ hrest]
      · simp [hc, ih _ _ hrest]

/-- Replacing brings in an angle exactly if the replacement has one and is used. -/
lemma angleFree_replaceFirst_iff {limit : Nat} {old new text : List Char} (h : AngleFree text) :
    AngleFree (replaceFirst limit old new text) ↔
      (limit ≠ 0 → occursIn old text = true → AngleFree new) := by
  constructor
  · intro hr hl ho
    exact hr.mono (subset_replaceFirst new hl ho)
  · intro hnew
    by_cases hl : limit = 0
    · rw [hl, replaceFirst_zero]
      exact h
    · by_cases ho : occursIn old text = true
      · exact angleFree_replaceFrom (hnew hl ho) _ _ h
      · rw [replaceFirst_of_not_occursIn limit new (by simpa using ho)]
        exact h

/-! ### Cutting and padding -/

lemma beforeLastSpace_subset (t : List Char) : beforeLastSpace t ⊆ t := by
  unfold beforeLastSpace
  split
  · exact List.Subset.refl t
  · rename_i s before hd
    intro c hc
    have hmem : c ∈ t.reverse.dropWhile (· != ' ') := by
      rw [hd]
      exact List.mem_cons_of_mem _ (List.mem_reverse.mp hc)
    exact List.mem_reverse.mp (List.dropWhile_subset _ hmem)

end Text

namespace Filter

/-- Shortening brings in an angle exactly if the ending has one and the text is too long. -/
lemma angleFree_truncated_iff {length leeway : Nat} {killWords : Bool} {ending text : List Char}
    (h : AngleFree text) :
    AngleFree (truncated length leeway killWords ending text) ↔
      (length + leeway < text.length → AngleFree ending) := by
  unfold truncated
  split
  · rename_i hl
    exact ⟨fun _ hlt => absurd hlt (Nat.not_lt.mpr hl), fun _ => h⟩
  · rename_i hl
    have hcut : AngleFree (text.take (length - ending.length)) := h.mono (List.take_subset _ _)
    rw [angleFree_append]
    constructor
    · intro ha _
      exact ha.2
    · intro he
      refine ⟨?_, he (Nat.lt_of_not_le hl)⟩
      split
      · exact hcut
      · exact hcut.mono (Text.beforeLastSpace_subset _)

/-- Whether some line of the text is padded. -/
def padsLine (first : Bool) (text : List Char) : Bool :=
  match Text.lines text with
  | [] => false
  | line :: more => (first && !isBlankLine line) || more.any fun l => !isBlankLine l

/-- Indenting brings in an angle exactly if the padding has one and some line is padded. -/
lemma angleFree_indented_iff {pad text : List Char} {first : Bool} (h : AngleFree text) :
    AngleFree (indented pad first text) ↔ (padsLine first text = true → AngleFree pad) := by
  rw [← Text.flatten_lines text] at h
  unfold indented padsLine
  cases hl : Text.lines text with
  | nil => simp
  | cons line more =>
    rw [hl, List.flatten_cons, angleFree_append] at h
    obtain ⟨hline, hmore⟩ := h
    simp only [angleFree_append, Bool.or_eq_true, Bool.and_eq_true, List.any_eq_true,
      Bool.not_eq_true']
    have hhead : AngleFree (if (first && !isBlankLine line) = true then pad ++ line else line) ↔
        (first = true ∧ isBlankLine line = false → AngleFree pad) := by
      split
      · simp_all
      · simp_all
    have hrest : AngleFree (more.map fun l => if isBlankLine l then l else pad ++ l).flatten ↔
        ((∃ l ∈ more, isBlankLine l = false) → AngleFree pad) := by
      clear hl hhead
      induction more with
      | nil => simp
      | cons l more ih =>
        obtain ⟨hl, hmore⟩ := angleFree_append.mp hmore
        rw [List.map_cons, List.flatten_cons, angleFree_append, ih hmore]
        cases hb : isBlankLine l <;> simp_all
    simp only [Bool.and_eq_true, Bool.not_eq_true'] at hhead
    rw [hhead, hrest, or_imp]

end Filter

/-- Joining brings in an angle exactly if the separator has one and stands between two texts. -/
lemma angleFree_intercalate_iff {separator : String} {texts : List String}
    (h : ∀ s ∈ texts, AngleFree s.toList) :
    AngleFree (separator.intercalate texts).toList ↔
      (2 ≤ texts.length → AngleFree separator.toList) := by
  induction texts with
  | nil => simp
  | cons s more ih =>
    obtain ⟨hs, hmore⟩ := List.forall_mem_cons.mp h
    cases more with
    | nil => simpa using hs
    | cons t more =>
      rw [String.intercalate_cons_cons, String.toList_append, String.toList_append,
        angleFree_append, angleFree_append, ih hmore]
      constructor
      · intro ha _
        exact ha.1.2
      · intro ha
        have hsep := ha (by simp)
        exact ⟨⟨hs, hsep⟩, fun _ => hsep⟩

end Stencil
