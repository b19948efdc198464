import Mathlib.Tactic.Common
import Stencil.Proofs.Coverage

/-! Scanning one token at a place of a source. String literals are scanned back to what was quoted,
and behind each token lies another place of the source, further on. -/
namespace Stencil

/-! ### Places and bytes -/

namespace Cursor

variable {c : Cursor} {source : String}

/-- The number of bytes before the place. -/
def bytes (c : Cursor) : String.Pos.Raw := (String.ofList c.before.reverse).rawEndPos

/-- The place of a source at a boundary between two of its characters. -/
def ofPos (source : String) (p : source.Pos) : Cursor :=
  (start source.toList).advance (source.sliceTo p).copy.length

lemma ofPos_of_splits {p : source.Pos} {before behind : String} (h : p.Splits before behind) :
    (ofPos source p).before = before.toList.reverse ∧ (ofPos source p).rest = behind.toList := by
  have hrest : (start source.toList).rest = before.toList ++ behind.toList := by
    rw [← String.toList_append, ← h.eq_append]
    rfl
  unfold ofPos
  rw [p.splits.eq_left h, ← String.length_toList]
  refine ⟨?_, rest_advance_of hrest⟩
  rw [before_advance_of hrest]
  exact List.append_nil _

lemma bytes_ofPos (p : source.Pos) : (ofPos source p).bytes = p.offset := by
  rw [bytes, (ofPos_of_splits p.splits).1, List.reverse_reverse, String.ofList_toList,
    ← p.splits.offset_eq_rawEndPos]

lemma in_ofPos (p : source.Pos) : (ofPos source p).In source.toList :=
  (in_start source.toList).advance _

/-- A place never lies inside of a character. -/
lemma In.isValid_bytes (h : c.In source.toList) : c.bytes.IsValid source := by
  refine String.Pos.Raw.isValid_iff_exists_append.mpr
    ⟨String.ofList c.before.reverse, String.ofList c.rest, ?_, rfl⟩
  rw [← String.ofList_append, ← h.split, String.ofList_toList]

/-- Behind a word of characters lie more bytes. -/
lemma bytes_lt_advance {text more : List Char} (h : c.rest = text ++ more) (htext : text ≠ []) :
    c.bytes < (c.advance text.length).bytes := by
  have hsize : (String.ofList text).utf8ByteSize ≠ 0 := by
    rw [Ne, String.utf8ByteSize_eq_zero_iff, String.ofList_eq_empty_iff]
    exact htext
  rw [bytes, bytes, before_advance_of h, List.reverse_append, List.reverse_reverse,
    String.ofList_append, String.Pos.Raw.lt_iff]
  simp only [String.byteIdx_rawEndPos, String.utf8ByteSize_append]
  omega

end Cursor

namespace Token

/-! ### Progress -/

section Progress

variable {c stop : Cursor} {kind : Kind} {source : String}

lemma bytes_lt_of_scanAt (h : scanAt c = .ok (kind, stop)) : c.bytes < stop.bytes := by
  obtain ⟨text, more, htext, hrest, rfl⟩ := exists_of_scanAt h
  exact Cursor.bytes_lt_advance hrest htext

lemma in_of_scanAt (hc : c.In source.toList) (h : scanAt c = .ok (kind, stop)) :
    stop.In source.toList := by
  obtain ⟨text, more, -, -, rfl⟩ := exists_of_scanAt h
  exact hc.advance _

end Progress

/-! ### Quotations -/

/-- A character as it is written between quotes. -/
def quotedChar (quote ch : Char) : List Char := if ch = '\\' ∨ ch = quote then ['\\', ch] else [ch]

/-- A text between quotes. A backslash stands before each backslash and each quote in it. -/
def inQuotes (quote : Char) (s : String) : String :=
  String.ofList (quote :: (s.toList.flatMap (quotedChar quote) ++ [quote]))

section Quotations

variable {quote : Char} (hquote : quote = '"' ∨ quote = '\'')
include hquote

/-- Behind a backslash neither another one nor a quote stands for anything else. -/
lemma unescape_of_quoted {ch : Char} (h : ch = '\\' ∨ ch = quote) : unescape ch = ch := by
  obtain rfl | rfl := h
  · rfl
  · obtain rfl | rfl := hquote <;> rfl

lemma scanString_inQuotes (s more : List Char) :
    scanString quote (s.flatMap (quotedChar quote) ++ quote :: more) =
      some (s, (s.flatMap (quotedChar quote)).length + 1) := by
  have hbackslash : ¬ '\\' = quote := by
    obtain rfl | rfl := hquote <;> decide
  induction s with
  | nil =>
    rw [List.flatMap_nil, List.nil_append, scanString.eq_def]
    exact if_pos rfl
  | cons ch s ih =>
    rw [List.flatMap_cons, List.append_assoc, quotedChar]
    split
    · rename_i hch
      rw [List.cons_append, scanString.eq_def]
      simp only [if_neg hbackslash, List.cons_append, List.nil_append, if_true, ih, Option.map_some,
        unescape_of_quoted hquote hch, List.length_cons]
    · rename_i hch
      obtain ⟨hescape, hend⟩ := not_or.mp hch
      rw [List.cons_append, scanString.eq_def]
      simp only [if_neg hend, if_neg hescape, List.nil_append, ih, Option.map_some,
        List.cons_append, List.length_cons]

/-- At the opening quote the whole quotation is scanned. -/
lemma scanAt_inQuotes {c : Cursor} {s : String} {more : List Char}
    (h : c.rest = (inQuotes quote s).toList ++ more) :
    scanAt c = .ok (.str s, c.advance (inQuotes quote s).length) := by
  have hrest : c.rest = quote :: (s.toList.flatMap (quotedChar quote) ++ quote :: more) := by
    rw [h, inQuotes, String.toList_ofList]
    simp
  have hscan : scan quote (s.toList.flatMap (quotedChar quote) ++ quote :: more) =
      .ok (.str s, (s.toList.flatMap (quotedChar quote)).length + 1) := by
    unfold scan
    rw [if_pos hquote, scanString_inQuotes hquote]
    simp only [String.ofList_toList]
  have hlength : (inQuotes quote s).length =
      (s.toList.flatMap (quotedChar quote)).length + 1 + 1 := by
    rw [inQuotes, String.length_ofList, List.length_cons, List.length_append, List.length_singleton]
  unfold scanAt
  rw [hlength]
  simp only [hrest, hscan]
  rfl

end Quotations

/-- A string between quotes of either kind is scanned back, wherever it stands, up to the byte
behind the closing quote. Whatever the token at a boundary of characters is, it ends at a later one,
so that from place to place less is left to scan. -/
theorem scans_quotations_and_advances :
    (∀ (quote : Char) (s before behind : String)
        (p : (before ++ inQuotes quote s ++ behind).Pos),
      quote = '"' ∨ quote = '\'' → p.offset = before.rawEndPos →
      ∃ stop, scanAt (.ofPos _ p) = .ok (.str s, stop) ∧
        stop.bytes = (before ++ inQuotes quote s).rawEndPos ∧ stop.rest = behind.toList) ∧
    (∀ (source : String) (p : source.Pos) (kind : Kind) (stop : Cursor),
      scanAt (.ofPos source p) = .ok (kind, stop) →
      p.offset < stop.bytes ∧ stop.bytes.IsValid source) ∧
    ∀ (c stop : Cursor) (kind : Kind), scanAt c = .ok (kind, stop) →
      stop.rest.length < c.rest.length := by
  refine ⟨fun quote s before behind p hquote hp => ?_, fun source p kind stop h => ?_,
    fun c stop kind h => @scanAt_lt c stop 0 kind h⟩
  · have hsplits : p.Splits before (inQuotes quote s ++ behind) := ⟨String.append_assoc, hp⟩
    obtain ⟨hbefore, hrest⟩ := Cursor.ofPos_of_splits hsplits
    rw [String.toList_append] at hrest
    refine ⟨_, scanAt_inQuotes hquote hrest, ?_, ?_⟩
    · rw [Cursor.bytes, ← String.length_toList, Cursor.before_advance_of hrest, hbefore,
        ← List.reverse_append, List.reverse_reverse, ← String.toList_append, String.ofList_toList]
    · rw [← String.length_toList, Cursor.rest_advance_of hrest]
  · have hlt := bytes_lt_of_scanAt h
    rw [Cursor.bytes_ofPos] at hlt
    exact ⟨hlt, (in_of_scanAt (Cursor.in_ofPos p) h).isValid_bytes⟩

/-- A doubled backslash before the closing quote, and one that stands for a quote. -/
example : inQuotes '\'' "é'n\\" = "'é\\'n\\\\'" := by decide +kernel

end Token

end Stencil
