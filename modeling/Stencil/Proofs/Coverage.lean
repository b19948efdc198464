import Stencil.Proofs.LineStart

/-! Which characters of a text stand in tokens: all but blanks, and hyphens in the tags that end raw
bodies. -/
namespace Stencil

/-! ### Gaps -/

/-- Nothing but blanks. -/
def IsBlank (text : List Char) : Prop := ∀ ch ∈ text, Unicode.isWhitespace ch = true

lemma isBlank_nil : IsBlank [] := List.forall_mem_nil _

lemma IsBlank.append {s t : List Char} (hs : IsBlank s) (ht : IsBlank t) : IsBlank (s ++ t) :=
  List.forall_mem_append.mpr ⟨hs, ht⟩

lemma IsBlank.reverse {s : List Char} (hs : IsBlank s) : IsBlank s.reverse :=
  fun ch hch => hs ch (List.mem_reverse.mp hch)

lemma isWhitespace_of_isLineBlank {ch : Char} (h : Cursor.isLineBlank ch = true) :
    Unicode.isWhitespace ch = true := by
  by_contra hch
  rw [Cursor.isLineBlank_of_not_isWhitespace (Bool.not_eq_true _ ▸ hch)] at h
  cases h

lemma isBlank_takeWhile {p : Char → Bool} (h : ∀ ch, p ch = true → Unicode.isWhitespace ch = true)
    (text : List Char) : IsBlank (text.takeWhile p) :=
  fun ch hch => h ch (List.all_eq_true.mp List.all_takeWhile ch hch)

/-- Blanks, behind a hyphen or none. -/
def IsHyphened (text : List Char) : Prop := IsBlank text ∨ ∃ gap, text = '-' :: gap ∧ IsBlank gap

namespace Token

/-- The number of characters up to the end of the token. -/
def stop (t : Token) : Nat := t.offset + t.lexeme.length

/-- Where the gap behind a token begins. Without a token it is the start of the text. -/
def stop? (t : Option Token) : Nat := (t.map stop).getD 0

/-- What may lie between two tokens, the ends of the text included: blanks, and in the tag that ends
a raw body a hyphen next to either sign. -/
inductive Gap (d : Dialect) : Option Token → Option Token → List Char → Prop
  | blank {left right : Option Token} {gap : List Char} : IsBlank gap → Gap d left right gap
  | beforeEndraw {left right : Token} {gap : List Char} : d = .jinja →
      left.kind = .directiveStart → right.kind = .ident "endraw" → IsBlank gap →
      Gap d (some left) (some right) ('-' :: gap)
  | behindEndraw {left right : Token} {gap : List Char} : d = .jinja →
      left.kind = .ident "endraw" → right.kind = .directiveEnd → IsBlank gap →
      Gap d (some left) (some right) (gap ++ ['-'])

lemma gap_beforeEndraw {d : Dialect} {left right : Token} {gap : List Char} (hd : d = .jinja)
    (hleft : left.kind = .directiveStart) (hright : right.kind = .ident "endraw")
    (hgap : IsHyphened gap) : Gap d (some left) (some right) gap := by
  rcases hgap with hgap | ⟨gap, rfl, hgap⟩
  · exact .blank hgap
  · exact .beforeEndraw hd hleft hright hgap

lemma gap_behindEndraw {d : Dialect} {left right : Token} {gap : List Char} (hd : d = .jinja)
    (hleft : left.kind = .ident "endraw") (hright : right.kind = .directiveEnd)
    (hgap : IsHyphened gap.reverse) : Gap d (some left) (some right) gap := by
  rcases hgap with hgap | ⟨blanks, hblanks, hgap⟩
  · exact .blank (by simpa using hgap.reverse)
  · obtain rfl : gap = blanks.reverse ++ ['-'] := by simpa using congrArg List.reverse hblanks
    exact .behindEndraw hd hleft hright hgap.reverse

/-- The token stands in the text where it says. -/
structure StandsIn (text : List Char) (t : Token) : Prop where
  bound : t.stop ≤ text.length
  lexeme : t.lexeme.toList = (text.drop t.offset).take t.lexeme.length
  line : t.pos.line = 1 + (text.take t.offset).count '\n'
  column : t.pos.column = 1 + ((text.take t.offset).reverse.takeWhile (· ≠ '\n')).length

/-- Behind `left` the tokens stand in the text one after the other, and what lies between them and
behind the last one is a gap. -/
def Lossless (d : Dialect) (text : List Char) : (left : Option Token) → List Token → Prop
  | left, [] => Gap d left none (text.drop (stop? left))
  | left, t :: more =>
    t.StandsIn text ∧ stop? left ≤ t.offset ∧
      Gap d left (some t) ((text.take t.offset).drop (stop? left)) ∧ Lossless d text (some t) more

end Token

/-! ### Cursors -/

namespace Cursor

variable {d : Dialect} {c : Cursor} {text : List Char} {ts us : List Token} {n m : Nat}

/-- The cursor is a place in the text. -/
structure In (text : List Char) (c : Cursor) : Prop where
  split : text = c.before.reverse ++ c.rest
  offset : c.offset = c.before.length
  line : c.pos.line = 1 + c.before.count '\n'
  column : c.pos.column = 1 + (c.before.takeWhile (· ≠ '\n')).length

lemma in_start (text : List Char) : (start text).In text := ⟨rfl, rfl, rfl, rfl⟩

lemma In.advance (h : c.In text) (n : Nat) : (c.advance n).In text := by
  induction n generalizing c with
  | zero => exact h
  | succ n ih =>
    unfold Cursor.advance
    split
    · exact h
    · rename_i ch rest hrest
      refine ih ⟨?_, ?_, ?_, ?_⟩
      · rw [h.split, hrest, List.reverse_cons, List.append_assoc, List.singleton_append]
      · rw [List.length_cons, h.offset]
      · unfold Position.advance
        split
        · rename_i hch
          rw [hch, List.count_cons_self, h.line, Nat.add_assoc]
        · rename_i hch
          rw [List.count_cons_of_ne hch, h.line]
      · unfold Position.advance
        split
        · rename_i hch
          simp [hch]
        · rename_i hch
          simp [hch, h.column, Nat.add_assoc]

lemma In.take_offset (h : c.In text) : text.take c.offset = c.before.reverse := by
  rw [h.split, h.offset, ← List.length_reverse, List.take_left]

lemma In.drop_offset (h : c.In text) : text.drop c.offset = c.rest := by
  rw [h.split, h.offset, ← List.length_reverse, List.drop_left]

lemma length_lexeme (kind : Token.Kind) (hn : n ≤ c.rest.length) :
    (c.token kind n).lexeme.length = n := by
  simp only [token, String.length_ofList, List.length_take]
  omega

lemma In.standsIn (h : c.In text) (kind : Token.Kind) (hn : n ≤ c.rest.length) :
    (c.token kind n).StandsIn text where
  bound := by
    have hlength := congrArg List.length h.split
    rw [List.length_append, List.length_reverse, ← h.offset] at hlength
    rw [Token.stop, length_lexeme kind hn]
    change c.offset + n ≤ text.length
    omega
  lexeme := by
    rw [length_lexeme kind hn]
    change (String.ofList _).toList = (text.drop c.offset).take n
    rw [h.drop_offset, String.toList_ofList]
  line := by
    change c.pos.line = 1 + (text.take c.offset).count '\n'
    rw [h.take_offset, List.count_reverse, h.line]
  column := by
    change c.pos.column = 1 + ((text.take c.offset).reverse.takeWhile _).length
    rw [h.take_offset, List.reverse_reverse, h.column]

lemma stop_token (kind : Token.Kind) (hn : n ≤ c.rest.length) :
    Token.stop? (some (c.token kind n)) = (c.advance n).offset := by
  change c.offset + (c.token kind n).lexeme.length = _
  rw [length_lexeme kind hn, offset_advance hn]

lemma In.offset_le (h : c.In text) (n : Nat) : c.offset ≤ (c.advance n).offset := by
  have hlength := congrArg List.length h.split
  have hlength' := congrArg List.length (h.advance n).split
  rw [List.length_append, List.length_reverse, ← h.offset] at hlength
  rw [List.length_append, List.length_reverse, ← (h.advance n).offset, rest_advance,
    List.length_drop] at hlength'
  omega

/-- What lies between an earlier place and one `n` characters further on. -/
lemma In.drop_take_advance (h : c.In text) {first : Nat} (hfirst : first ≤ c.offset) (n : Nat) :
    (text.take (c.advance n).offset).drop first =
      (text.take c.offset).drop first ++ c.rest.take n := by
  have hbefore : (c.advance n).before.reverse = c.before.reverse ++ c.rest.take n := by
    refine (List.append_left_inj (c.advance n).rest).mp ?_
    rw [← (h.advance n).split, rest_advance, List.append_assoc, List.take_append_drop, ← h.split]
  rw [(h.advance n).take_offset, hbefore, h.take_offset, List.drop_append_of_le_length]
  rw [List.length_reverse, ← h.offset]
  exact hfirst

lemma drop_take_self (text : List Char) (n : Nat) : (text.take n).drop n = [] :=
  List.drop_eq_nil_of_le (List.length_take_le n text)

lemma In.drop_take (h : c.In text) (n : Nat) :
    (text.take (c.advance n).offset).drop c.offset = c.rest.take n := by
  rw [h.drop_take_advance (Nat.le_refl c.offset), drop_take_self, List.nil_append]

/-! ### Blanks -/

lemma isBlank_blanks (c : Cursor) (acrossLines : Bool) :
    IsBlank (c.rest.take (c.blanks acrossLines)) := by
  unfold blanks
  rw [← List.prefix_iff_eq_take.mp (List.takeWhile_prefix _)]
  refine isBlank_takeWhile (fun ch hch => ?_) c.rest
  rw [Bool.or_eq_true, Bool.and_eq_true] at hch
  exact hch.elim isWhitespace_of_isLineBlank And.right

lemma isBlank_of_lineEnd? (h : c.lineEnd? = some n) : IsBlank (c.rest.take n) := by
  have hline : IsBlank (c.rest.takeWhile isLineBlank) :=
    isBlank_takeWhile (fun _ => isWhitespace_of_isLineBlank) c.rest
  have htake : c.rest.takeWhile isLineBlank = c.rest.take (c.rest.takeWhile isLineBlank).length :=
    List.prefix_iff_eq_take.mp (List.takeWhile_prefix _)
  unfold lineEnd? at h
  dsimp only at h
  split at h
  · cases h
    rw [← htake]
    exact hline
  · rename_i ch rest hdrop
    split at h
    · rename_i hch
      cases h
      rw [List.take_add, ← htake, hdrop, hch]
      exact hline.append (List.forall_mem_singleton.mpr (by decide))
    · cases h

lemma lineEnd?_le (h : c.lineEnd? = some n) : n ≤ c.rest.length := by
  have hline := Token.length_takeWhile_le isLineBlank c.rest
  unfold lineEnd? at h
  dsimp only at h
  split at h
  · cases h
    exact hline
  · rename_i ch rest hdrop
    split at h
    · have hlength := congrArg List.length hdrop
      rw [List.length_drop, List.length_cons] at hlength
      cases h
      omega
    · cases h

lemma isBlank_of_standsAlone {opener : Cursor} (h : opener.standsAlone c = some n) :
    IsBlank (c.rest.take n) := by
  unfold standsAlone at h
  split at h
  · exact isBlank_of_lineEnd? h
  · cases h

lemma all_of_dropEndWhile {p : Char → Bool} {text : List Char}
    (h : Text.dropEndWhile p text = []) : ∀ ch ∈ text, p ch = true := by
  unfold Text.dropEndWhile at h
  rw [List.reverse_eq_nil_iff, List.dropWhile_eq_nil_iff] at h
  exact fun ch hch => h ch (List.mem_reverse.mpr hch)

lemma isBlank_of_isIndent {text : List Char} (h : ∀ ch ∈ text, isIndent ch = true) :
    IsBlank text :=
  fun ch hch => isWhitespace_of_isLineBlank (isLineBlank_of_isIndent (h ch hch))

/-! ### Tokens and gaps -/

/-- The next `n` characters are cut into these tokens: those that stand in none of them are blanks,
or hyphens in a tag that ends a raw body. -/
inductive Covers (d : Dialect) : Cursor → List Token → Nat → Prop
  | done {c : Cursor} : Covers d c [] 0
  | blank {c : Cursor} {ts : List Token} {n m : Nat} :
      IsBlank (c.rest.take n) → Covers d (c.advance n) ts m → Covers d c ts (n + m)
  | token {c : Cursor} {ts : List Token} {m : Nat} (kind : Token.Kind) (n : Nat) :
      n ≤ c.rest.length → Covers d (c.advance n) ts m → Covers d c (c.token kind n :: ts) (n + m)
  | endraw {c : Cursor} {ts : List Token} {lead trail m : Nat} : d = .jinja →
      10 + lead + trail ≤ c.rest.length → IsHyphened ((c.rest.drop 2).take lead) →
      IsHyphened ((c.rest.drop (8 + lead)).take trail).reverse →
      Covers d (c.advance (10 + lead + trail)) ts m →
      Covers d c (c.token .directiveStart 2 :: (c.advance (2 + lead)).token (.ident "endraw") 6 ::
        (c.advance (8 + lead + trail)).token .directiveEnd 2 :: ts) (10 + lead + trail + m)

lemma In.lossless_endraw (hc : c.In text) {lead trail : Nat} {left : Option Token} (hd : d = .jinja)
    (hlength : 10 + lead + trail ≤ c.rest.length) (hlead : IsHyphened ((c.rest.drop 2).take lead))
    (htrail : IsHyphened ((c.rest.drop (8 + lead)).take trail).reverse)
    (hleft : Token.stop? left ≤ c.offset)
    (hgap : IsBlank ((text.take c.offset).drop (Token.stop? left)))
    (hrest : Token.Lossless d text
      (some ((c.advance (8 + lead + trail)).token .directiveEnd 2)) ts) :
    Token.Lossless d text left (c.token .directiveStart 2 ::
      (c.advance (2 + lead)).token (.ident "endraw") 6 ::
      (c.advance (8 + lead + trail)).token .directiveEnd 2 :: ts) := by
  have hc₁ := hc.advance (2 + lead)
  have hc₂ := hc.advance (8 + lead + trail)
  have hn : 2 ≤ c.rest.length := by omega
  have hn₁ : 6 ≤ (c.advance (2 + lead)).rest.length := by
    rw [rest_advance, List.length_drop]
    omega
  have hn₂ : 2 ≤ (c.advance (8 + lead + trail)).rest.length := by
    rw [rest_advance, List.length_drop]
    omega
  have hstop := stop_token .directiveStart hn
  have hstop₁ := stop_token (.ident "endraw") hn₁
  rw [← advance_add, show 2 + lead + 6 = 8 + lead by omega] at hstop₁
  have hgap₁ := (hc.advance 2).drop_take lead
  have hgap₂ := (hc.advance (8 + lead)).drop_take trail
  have hle₁ := (hc.advance 2).offset_le lead
  have hle₂ := (hc.advance (8 + lead)).offset_le trail
  rw [← advance_add, ← hstop] at hgap₁ hle₁
  rw [← advance_add, ← hstop₁] at hgap₂ hle₂
  rw [rest_advance] at hgap₁ hgap₂
  refine ⟨hc.standsIn _ hn, hleft, .blank hgap, hc₁.standsIn _ hn₁, hle₁, ?_, hc₂.standsIn _ hn₂,
    hle₂, ?_, hrest⟩
  · refine Token.gap_beforeEndraw hd rfl rfl ?_
    change IsHyphened ((text.take (c.advance (2 + lead)).offset).drop _)
    rw [hgap₁]
    exact hlead
  · refine Token.gap_behindEndraw hd rfl rfl ?_
    change IsHyphened ((text.take (c.advance (8 + lead + trail)).offset).drop _).reverse
    rw [hgap₂]
    exact htrail

namespace Covers

lemma cast (h : Covers d c ts n) (hn : n = m) : Covers d c ts m := hn ▸ h

lemma append (h : Covers d c ts n) (h' : Covers d (c.advance n) us m) :
    Covers d c (ts ++ us) (n + m) := by
  induction h with
  | done => exact h'.cast (Nat.zero_add m).symm
  | blank hblank _ ih =>
    rw [advance_add] at h'
    exact (blank hblank (ih h')).cast (Nat.add_assoc _ _ _).symm
  | token kind n hn _ ih =>
    rw [advance_add] at h'
    exact (token kind n hn (ih h')).cast (Nat.add_assoc _ _ _).symm
  | endraw hd hlength hlead htrail _ ih =>
    rw [advance_add] at h'
    exact (endraw hd hlength hlead htrail (ih h')).cast (Nat.add_assoc _ _ _).symm

lemma singleton (kind : Token.Kind) (hn : n ≤ c.rest.length) : Covers d c [c.token kind n] n :=
  token kind n hn done

lemma blanks (hblank : IsBlank (c.rest.take n)) : Covers d c [] n := blank hblank done

/-- A token behind blanks. -/
lemma scanned {kind : Token.Kind} {stop : Cursor} {acrossLines : Bool}
    (hscan : Token.scanAt (c.advance (c.blanks acrossLines)) = .ok (kind, stop))
    (h : Covers d stop ts m) :
    Covers d c ((c.advance (c.blanks acrossLines)).token kind
        ((c.advance (c.blanks acrossLines)).distance stop) :: ts)
      (c.blanks acrossLines + (c.advance (c.blanks acrossLines)).distance stop + m) := by
  obtain ⟨text, more, -, hrest, rfl⟩ := Token.exists_of_scanAt hscan
  have hlength : text.length ≤ (c.advance (c.blanks acrossLines)).rest.length := by
    rw [hrest, List.length_append]
    exact Nat.le_add_right _ _
  rw [distance_advance hlength, Nat.add_assoc]
  exact blank (isBlank_blanks c acrossLines) (token kind text.length hlength h)

/-- The end of a construct behind blanks. -/
lemma ended (kind : Token.Kind) (acrossLines : Bool)
    (hn : n ≤ (c.advance (c.blanks acrossLines)).rest.length) :
    Covers d c [(c.advance (c.blanks acrossLines)).token kind n] (c.blanks acrossLines + n) :=
  blank (isBlank_blanks c acrossLines) (singleton kind hn)

lemma textToken {content : List Char} (hn : n ≤ c.rest.length)
    (hcontent : content = [] → IsBlank (c.rest.take n)) :
    Covers d c (c.textToken content n) n := by
  unfold Cursor.textToken
  split
  · rename_i hempty
    exact blanks (hcontent (List.isEmpty_iff.mp hempty))
  · exact singleton _ hn

/-- What stands alone on its line may take the blanks behind it. -/
lemma alone (h : Covers d c ts n) (opener : Cursor) :
    Covers d c ts (n + (opener.standsAlone (c.advance n)).getD 0) := by
  cases halone : opener.standsAlone (c.advance n) with
  | none => exact h
  | some more =>
    have hmore := h.append (blanks (isBlank_of_standsAlone halone))
    rw [List.append_nil] at hmore
    exact hmore

/-- Up to the end of the text nothing is lost. -/
lemma lossless (h : Covers d c ts n) (hc : c.In text) (hend : (c.advance n).rest = [])
    {left : Option Token} (hleft : Token.stop? left ≤ c.offset)
    (hgap : IsBlank ((text.take c.offset).drop (Token.stop? left))) :
    Token.Lossless d text left ts := by
  induction h generalizing left with
  | @done c =>
    have htext : text.take c.offset = text := by
      rw [hc.take_offset, ← List.append_nil c.before.reverse, ← show c.rest = [] from hend,
        ← hc.split]
    rw [htext] at hgap
    exact .blank hgap
  | @blank c ts n m hblank _ ih =>
    rw [advance_add] at hend
    refine ih (hc.advance n) hend (Nat.le_trans hleft (hc.offset_le n)) ?_
    rw [hc.drop_take_advance hleft]
    exact hgap.append hblank
  | @token c ts m kind n hn _ ih =>
    rw [advance_add] at hend
    have hstop := stop_token kind hn
    refine ⟨hc.standsIn kind hn, hleft, .blank hgap,
      ih (hc.advance n) hend (Nat.le_of_eq hstop) ?_⟩
    rw [hstop, drop_take_self]
    exact isBlank_nil
  | @endraw c ts lead trail m hd hlength hlead htrail _ ih =>
    rw [advance_add] at hend
    have hstop : Token.stop? (some ((c.advance (8 + lead + trail)).token .directiveEnd 2)) =
        (c.advance (10 + lead + trail)).offset := by
      rw [stop_token _ (by rw [rest_advance, List.length_drop]; omega),
        ← advance_add, show 8 + lead + trail + 2 = 10 + lead + trail by omega]
    refine hc.lossless_endraw hd hlength hlead htrail hleft hgap
      (ih (hc.advance _) hend (Nat.le_of_eq hstop) ?_)
    rw [hstop, drop_take_self]
    exact isBlank_nil

end Covers

end Cursor

end Stencil
