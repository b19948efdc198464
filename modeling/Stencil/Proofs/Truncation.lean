import Mathlib.Data.List.Basic
import Mathlib.Data.List.TakeWhile
import Stencil.Filter.Builtin
import Stencil.Proofs.IntegerArithmetic

/-! The filter `truncate` keeps within its bounds. Text that is at most as long as asked for, with
the leeway, stays as it is; of longer text a beginning is kept that leaves room for the ending. All
lengths are numbers of characters. -/
namespace Stencil

namespace Text

/-- What is kept of a text that has been cut: all of it where words may be cut, and else what comes
before its last space, if it has one. -/
inductive Keeps : (killWords : Bool) → (cut kept : List Char) → Prop where
  | all {cut : List Char} : Keeps true cut cut
  | oneWord {cut : List Char} (single : ' ' ∉ cut) : Keeps false cut cut
  | words {kept word : List Char} (last : ' ' ∉ word) : Keeps false (kept ++ ' ' :: word) kept

lemma Keeps.isPrefix {killWords : Bool} {cut kept : List Char} (h : Keeps killWords cut kept) :
    kept <+: cut := by
  cases h with
  | all | oneWord => exact List.prefix_rfl
  | words => exact List.prefix_append _ _

lemma beforeLastSpace_of_not_mem {text : List Char} (h : ' ' ∉ text) :
    beforeLastSpace text = text := by
  have hnone : text.reverse.dropWhile (· != ' ') = [] := by
    rw [List.dropWhile_eq_nil_iff]
    intro c hc
    rw [bne_iff_ne]
    exact ne_of_mem_of_not_mem (List.mem_reverse.mp hc) h
  rw [beforeLastSpace, hnone]

lemma beforeLastSpace_append {word : List Char} (h : ' ' ∉ word) (kept : List Char) :
    beforeLastSpace (kept ++ ' ' :: word) = kept := by
  have hreverse : (kept ++ ' ' :: word).reverse = word.reverse ++ ' ' :: kept.reverse := by simp
  have hword : ∀ c ∈ word.reverse, (c != ' ') = true := fun c hc =>
    bne_iff_ne.mpr (ne_of_mem_of_not_mem (List.mem_reverse.mp hc) h)
  have hdrop : (kept ++ ' ' :: word).reverse.dropWhile (· != ' ') = ' ' :: kept.reverse := by
    rw [hreverse, List.dropWhile_append_of_pos hword, List.dropWhile_cons_of_neg (by simp)]
  rw [beforeLastSpace, hdrop]
  exact List.reverse_reverse kept

/-- A text with a space has a last word. -/
lemma exists_last_word {text : List Char} (h : ' ' ∈ text) :
    ∃ kept word, text = kept ++ ' ' :: word ∧ ' ' ∉ word := by
  -- The last space is the first one of the text read backwards.
  obtain ⟨word, kept, htext, hword⟩ := List.eq_append_cons_of_mem (List.mem_reverse.mpr h)
  refine ⟨kept.reverse, word.reverse, ?_, by simpa using hword⟩
  rw [← text.reverse_reverse, htext]
  simp

lemma keeps_beforeLastSpace (text : List Char) : Keeps false text (beforeLastSpace text) := by
  by_cases h : ' ' ∈ text
  · obtain ⟨kept, word, rfl, hword⟩ := exists_last_word h
    rw [beforeLastSpace_append hword]
    exact .words hword
  · rw [beforeLastSpace_of_not_mem h]
    exact .oneWord h

end Text

namespace Filter

open Text (Keeps)

/-- What the arguments of `truncate` ask for: a length and a leeway, where negative numbers count as
zero, whether words may be cut, and what stands behind the cut. -/
structure Asks (args : List Value) (length leeway : ℕ) (killWords : Bool) (ending : String) :
    Prop where
  length : (length : ℤ) = max 0 (((argument? args 0).bind Value.int?).elim 255 Int64.toInt)
  leeway : (leeway : ℤ) = max 0 (((argument? args 3).bind Value.int?).elim 5 Int64.toInt)
  killWords : killWords = ((argument? args 1).map Value.isTruthy).getD false
  ending : ending = ((argument? args 2).map Value.display).getD "..."

variable {args : List Value} {length leeway : ℕ} {killWords : Bool} {ending text : List Char}

lemma sizeArgument_eq (args : List Value) (i default : ℕ) :
    (sizeArgument args i default : ℤ) =
      max 0 (((argument? args i).bind Value.int?).elim (default : ℤ) Int64.toInt) := by
  unfold sizeArgument
  cases (argument? args i).bind Value.int? with
  | none => exact (max_eq_right (Int.natCast_nonneg default)).symm
  | some n => exact (Int.toNat_eq_max n.toInt).trans (max_comm _ _)

/-- No integer of 64 bits asks for more than the greatest one. -/
lemma sizeArgument_le {default : ℕ} (h : default ≤ 9223372036854775807) (args : List Value)
    (i : ℕ) : sizeArgument args i default ≤ 9223372036854775807 := by
  unfold sizeArgument
  split
  · rename_i n _
    have hn := IsWord.iff_bounds.mp (.of_toInt n)
    omega
  · exact h

lemma asks_arguments (args : List Value) : Asks args (sizeArgument args 0 255)
    (sizeArgument args 3 5) (((argument? args 1).map Value.isTruthy).getD false)
    (((argument? args 2).map Value.display).getD "...") :=
  ⟨sizeArgument_eq args 0 255, sizeArgument_eq args 3 5, rfl, rfl⟩

lemma truncated_of_le (h : text.length ≤ length + leeway) :
    truncated length leeway killWords ending text = text := if_pos h

/-- Of a text that is too long, what is kept of its beginning and the ending make up the result. -/
lemma exists_truncated (killWords : Bool) (ending : List Char)
    (h : length + leeway < text.length) : ∃ cut kept,
      truncated length leeway killWords ending text = kept ++ ending ∧ cut <+: text ∧
        cut.length = length - ending.length ∧ Keeps killWords cut kept := by
  have hlength : (text.take (length - ending.length)).length = length - ending.length := by
    rw [List.length_take]
    omega
  rw [truncated, if_neg (by omega)]
  cases killWords with
  | true => exact ⟨_, _, rfl, List.take_prefix _ _, hlength, .all⟩
  | false => exact ⟨_, _, rfl, List.take_prefix _ _, hlength, Text.keeps_beforeLastSpace _⟩

/-- The same of strings: what is kept leaves room for the ending, so the result is no longer than
the length and the ending. -/
lemma exists_truncated_string {ending s : String} (h : length + leeway < s.length) :
    ∃ kept cut : String,
      String.ofList (truncated length leeway killWords ending.toList s.toList) = kept ++ ending ∧
      kept.toList <+: s.toList ∧
      kept.length ≤ length - ending.length ∧
      cut.toList <+: s.toList ∧
      cut.length = length - ending.length ∧
      Keeps killWords cut.toList kept.toList := by
  rw [← String.length_toList] at h
  obtain ⟨cut, kept, hresult, hcut, hlength, hkeeps⟩ :=
    exists_truncated killWords ending.toList h
  have hprefix := hkeeps.isPrefix
  refine ⟨String.ofList kept, String.ofList cut, ?_, ?_, ?_, ?_, ?_, ?_⟩
  · rw [hresult, String.ofList_append, String.ofList_toList]
  · rw [String.toList_ofList]
    exact hprefix.trans hcut
  · rw [String.length_ofList, ← String.length_toList, ← hlength]
    exact hprefix.length_le
  · rwa [String.toList_ofList]
  · rwa [String.length_ofList, ← String.length_toList]
  · rwa [String.toList_ofList, String.toList_ofList]

/-- Whatever the arguments of `truncate`, the sum of the length and the leeway that they ask for
fits into 64 bits. A text of at most as many characters stays as it is. The beginning of a longer
one, cut to leave room for the ending within the length, is kept with the ending behind it, and
unless words may be cut it ends before its last space. So no result is longer than the length and
the ending. Safe text stays safe, and plain text plain. -/
theorem truncate_within_bounds (args : List Value) :
    ∃ (length leeway : ℕ) (killWords : Bool) (ending : String),
      Asks args length leeway killWords ending ∧
      length + leeway < 18446744073709551616 ∧
      ∀ s : String, ∃ result : String,
        Registry.builtin.run? "truncate" (.str s) args = some (.ok (.str result)) ∧
        Registry.builtin.run? "truncate" (.safe s) args = some (.ok (.safe result)) ∧
        (s.length ≤ length + leeway → result = s) ∧
        (length + leeway < s.length → ∃ kept cut : String,
          result = kept ++ ending ∧
          kept.toList <+: s.toList ∧
          kept.length ≤ length - ending.length ∧
          result.length ≤ max length ending.length ∧
          cut.toList <+: s.toList ∧
          cut.length = length - ending.length ∧
          Keeps killWords cut.toList kept.toList) := by
  have hlength := sizeArgument_le (show 255 ≤ 9223372036854775807 by decide) args 0
  have hleeway := sizeArgument_le (show 5 ≤ 9223372036854775807 by decide) args 3
  refine ⟨_, _, _, _, asks_arguments args, by omega, fun s =>
    ⟨String.ofList (truncated _ _ _ _ s.toList), rfl, rfl, fun hshort => ?_, fun hlong => ?_⟩⟩
  · rw [truncated_of_le (by rwa [String.length_toList]), String.ofList_toList]
  · obtain ⟨kept, cut, hresult, hprefix, hkept, hcut⟩ := exists_truncated_string hlong
    refine ⟨kept, cut, hresult, hprefix, hkept, ?_, hcut⟩
    rw [hresult, String.length_append]
    omega

end Filter

end Stencil
