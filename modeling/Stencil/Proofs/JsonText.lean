import Mathlib.Tactic.Common
import Stencil.Json.Printer
import Stencil.Json.Reader
import Stencil.Proofs.NumberText

/-! Both layouts of a document are read back as the document, also where the text is rewritten in a
way that strings are read through. A text is cut into the tokens of its document, and the machine
that puts tokens together gives the document back. -/
namespace Stencil.Json

mutual

/-- The numbers in a document are numbers. -/
def Readable : Json → Prop
  | .number literal => isNumber literal.toList = true
  | .arr items => AllReadable items
  | .obj members => MembersReadable members
  | _ => True

def AllReadable : List Json → Prop
  | [] => True
  | j :: more => Readable j ∧ AllReadable more

def MembersReadable : List (String × Json) → Prop
  | [] => True
  | (_, j) :: more => Readable j ∧ MembersReadable more

end

mutual

/-- The tokens of a document. -/
def tokens : Json → List Token
  | .null => [.atom .null]
  | .bool b => [.atom (.bool b)]
  | .number literal => [.atom (.number literal)]
  | .str s => [.str s]
  | .arr [] => [.openBracket, .closeBracket]
  | .arr (item :: more) => .openBracket :: (tokens item ++ itemTokens more)
  | .obj [] => [.openBrace, .closeBrace]
  | .obj ((name, value) :: more) =>
    .openBrace :: .str name :: .colon :: (tokens value ++ memberTokens more)

/-- The tokens behind an item of an array. -/
def itemTokens : List Json → List Token
  | [] => [.closeBracket]
  | item :: more => .comma :: (tokens item ++ itemTokens more)

/-- The tokens behind a member of an object. -/
def memberTokens : List (String × Json) → List Token
  | [] => [.closeBrace]
  | (name, value) :: more => .comma :: .str name :: .colon :: (tokens value ++ memberTokens more)

end

/-- The characters that HTML gives a meaning. -/
def isMarkup (c : Char) : Bool := c == '<' || c == '>' || c == '&' || c == '\''

/-- A rewriting of finished text that its reader does not notice: only characters of markup are
rewritten, and a string in which they are reads as before. -/
structure Unnoticed (rewrite : Char → List Char) : Prop where
  plain : ∀ {c}, isMarkup c = false → rewrite c = [c]
  markup : ∀ {c}, isMarkup c = true → ∀ done rest,
    readString done (rewrite c ++ rest) = readString (c :: done) rest

/-- A character that needs no escape is read as itself. -/
lemma readString_cons {c : Char} (hquote : c ≠ '"') (hslash : c ≠ '\\') (hcontrol : 0x20 ≤ c.toNat)
    (done rest : List Char) : readString done (c :: rest) = readString (c :: done) rest := by
  rw [readString]
  · simp [Nat.not_lt.mpr hcontrol]
  all_goals simp_all

/-- The digits of a control character are read as its number. -/
lemma hex4_hexDigit {n : Nat} (h : n < 0x20) :
    hex4? '0' '0' (hexDigit (n / 16)) (hexDigit (n % 16)) = some n := by
  have hall : ∀ n < 0x20, hex4? '0' '0' (hexDigit (n / 16)) (hexDigit (n % 16)) = some n := by
    decide
  exact hall n h

/-- What is written for a character is read as the character. -/
lemma readString_escapeChar (c : Char) (done rest : List Char) :
    readString done (escapeChar c ++ rest) = readString (c :: done) rest := by
  unfold escapeChar
  split
  case h_8 hquote hslash _ _ _ _ _ =>
    split
    · rename_i h
      have hlow : ¬ (0xdc00 ≤ c.toNat ∧ c.toNat < 0xe000) := by omega
      have hhigh : ¬ (0xd800 ≤ c.toNat ∧ c.toNat < 0xdc00) := by omega
      simp only [List.cons_append, List.nil_append]
      rw [readString, hex4_hexDigit h]
      simp only [if_neg hlow, if_neg hhigh, Char.ofNat_toNat]
    · rename_i h
      exact readString_cons hquote hslash (by omega) done rest
  all_goals simp [readString, shortEscape?]

/-- Markup stands for itself in strings. -/
lemma escapeChar_markup {c : Char} (h : isMarkup c = true) : escapeChar c = [c] := by
  simp only [isMarkup, Bool.or_eq_true, beq_iff_eq] at h
  rcases h with ((rfl | rfl) | rfl) | rfl <;> rfl

/-- An escape holds no markup. -/
lemma isMarkup_of_mem_escapeChar {c d : Char} (h : isMarkup c = false) (hd : d ∈ escapeChar c) :
    isMarkup d = false := by
  have hhex : ∀ n < 16, isMarkup (hexDigit n) = false := by decide
  unfold escapeChar at hd
  split at hd
  case h_8 =>
    split at hd
    · rename_i hcontrol
      simp only [List.mem_cons, List.not_mem_nil, or_false] at hd
      rcases hd with rfl | rfl | rfl | rfl | rfl | rfl
      case inr.inr.inr.inr.inl => exact hhex _ (by omega)
      case inr.inr.inr.inr.inr => exact hhex _ (by omega)
      all_goals rfl
    · simp_all
  all_goals
    simp only [List.mem_cons, List.not_mem_nil, or_false] at hd
    rcases hd with rfl | rfl <;> rfl

/-- A character between the tokens of written documents, with the token that it is, if any. -/
inductive Mark : Char → List Token → Prop where
  | openBracket : Mark '[' [.openBracket]
  | closeBracket : Mark ']' [.closeBracket]
  | openBrace : Mark '{' [.openBrace]
  | closeBrace : Mark '}' [.closeBrace]
  | comma : Mark ',' [.comma]
  | colon : Mark ':' [.colon]
  | space : Mark ' ' []
  | newLine : Mark '\n' []

/-- A mark is a token, or none, by itself. -/
lemma Mark.tokens {c : Char} {tokens : List Token} (h : Mark c tokens) (rest : List Char) :
    tokens? (c :: rest) = (tokens? rest).map (tokens ++ ·) := by
  cases h <;> (rw [tokens?]; simp)

/-- A mark goes on with no word or number, and is no markup. -/
lemma Mark.plain {c : Char} {tokens : List Token} (h : Mark c tokens) :
    c.isAlpha = false ∧ isNumberChar c = false ∧ isMarkup c = false := by
  cases h <;> decide

/-- Neither a word nor a number goes on with the text. -/
def Ends (rest : List Char) : Prop :=
  ∀ c, rest.head? = some c → c.isAlpha = false ∧ isNumberChar c = false

lemma Mark.ends {c : Char} {tokens : List Token} (h : Mark c tokens) (rest : List Char) :
    Ends (c :: rest) := by
  intro d hd
  obtain rfl : c = d := by simpa using hd
  exact ⟨h.plain.1, h.plain.2.1⟩

/-- Nothing is taken from a text that ends words and numbers. -/
lemma Ends.takeWhile {rest : List Char} (h : Ends rest) {p : Char → Bool}
    (hp : ∀ c, c.isAlpha = false ∧ isNumberChar c = false → p c = false) :
    rest.takeWhile p = [] ∧ rest.dropWhile p = rest := by
  cases rest with
  | nil => exact ⟨rfl, rfl⟩
  | cons c rest => simp [hp c (h c rfl)]

/-- A run of characters of one kind is taken off a text that ends it. -/
lemma Ends.takeWhile_append {rest : List Char} (h : Ends rest) {p : Char → Bool}
    (hp : ∀ c, c.isAlpha = false ∧ isNumberChar c = false → p c = false) {text : List Char}
    (htext : text.all p = true) :
    (text ++ rest).takeWhile p = text ∧ (text ++ rest).dropWhile p = rest := by
  have hall := List.all_eq_true.mp htext
  rw [List.takeWhile_append_of_pos hall, List.dropWhile_append_of_pos hall, (h.takeWhile hp).1,
    (h.takeWhile hp).2]
  exact ⟨List.append_nil _, rfl⟩

/-- A quote begins a string. -/
lemma tokens_quote {text rest : List Char} {s : String} (h : readString [] text = some (s, rest)) :
    tokens? ('"' :: text) = (tokens? rest).map (.str s :: ·) := by
  rw [tokens?]
  simp only [Char.reduceEq, or_self, if_false, if_true]
  split
  · rename_i hread
    rw [h] at hread
    cases hread
    rfl
  · rename_i hread
    rw [h] at hread
    cases hread

/-- A character of a word or number is no mark and no quote. -/
lemma tokens_cons {c : Char} (hc : c.isAlpha = true ∨ isNumberChar c = true) (rest : List Char) :
    tokens? (c :: rest) =
      if c.isAlpha then
        (word? (c :: rest.takeWhile Char.isAlpha)).bind fun value =>
          (tokens? (rest.dropWhile Char.isAlpha)).map (.atom value :: ·)
      else if isNumber (c :: rest.takeWhile isNumberChar) then
        (tokens? (rest.dropWhile isNumberChar)).map
          (.atom (.number (String.ofList (c :: rest.takeWhile isNumberChar))) :: ·)
      else none := by
  have hne : ∀ {d : Char}, d.isAlpha = false ∧ isNumberChar d = false → c ≠ d := by
    rintro d ⟨halpha, hnumber⟩ rfl
    simp [halpha, hnumber] at hc
  rw [tokens?]
  simp only [hne (d := ' ') (by decide), hne (d := '\t') (by decide), hne (d := '\n') (by decide),
    hne (d := '\r') (by decide), hne (d := '[') (by decide), hne (d := ']') (by decide),
    hne (d := '{') (by decide), hne (d := '}') (by decide), hne (d := ',') (by decide),
    hne (d := ':') (by decide), hne (d := '"') (by decide), or_self, if_false]
  cases word? (c :: rest.takeWhile Char.isAlpha) <;> rfl

/-- Words and numbers hold no markup. -/
lemma isMarkup_of_word {c : Char} (h : c.isAlpha = true ∨ isNumberChar c = true) :
    isMarkup c = false := by
  by_contra hmarkup
  simp only [isMarkup, Bool.not_eq_false, Bool.or_eq_true, beq_iff_eq] at hmarkup
  rcases hmarkup with ((rfl | rfl) | rfl) | rfl <;> revert h <;> decide

/-- A word of the format is a token. -/
lemma tokens_word {word rest : List Char} {value : Json} (hword : word? word = some value)
    (halpha : word.all Char.isAlpha = true) (hrest : Ends rest) :
    tokens? (word ++ rest) = (tokens? rest).map (.atom value :: ·) := by
  cases word with
  | nil => cases hword
  | cons c word =>
    rw [List.all_cons, Bool.and_eq_true] at halpha
    obtain ⟨htake, hdrop⟩ := hrest.takeWhile_append (fun c h => h.1) halpha.2
    rw [List.cons_append, tokens_cons (.inl halpha.1), if_pos halpha.1, htake, hdrop, hword]
    rfl

/-- A number begins with a minus or a digit. -/
lemma isAlpha_of_isNumber {c : Char} {digits : List Char} (h : isNumber (c :: digits) = true) :
    c.isAlpha = false := by
  by_cases hminus : c = '-'
  · subst hminus
    rfl
  · by_cases hzero : c = '0'
    · subst hzero
      rfl
    · rw [isNumber_cons digits hminus hzero, Bool.and_eq_true] at h
      have hall : ∀ n < 58, 48 ≤ n → (Char.ofNat n).isAlpha = false := by decide
      have hdigit : 48 ≤ c.toNat ∧ c.toNat ≤ 57 := Char.isDigit_iff_toNat.mp h.1
      have hchar := hall c.toNat (by omega) hdigit.1
      rwa [Char.ofNat_toNat] at hchar

/-- A number is a token. -/
lemma tokens_number {literal rest : List Char} (h : isNumber literal = true) (hrest : Ends rest) :
    tokens? (literal ++ rest) =
      (tokens? rest).map (.atom (.number (String.ofList literal)) :: ·) := by
  cases literal with
  | nil => cases h
  | cons c digits =>
    have hall := all_isNumberChar h
    rw [List.all_cons, Bool.and_eq_true] at hall
    obtain ⟨htake, hdrop⟩ := hrest.takeWhile_append (fun c h => h.2) hall.2
    rw [List.cons_append, tokens_cons (.inr hall.1), isAlpha_of_isNumber h, htake, hdrop, if_pos h]
    rfl

section Rewritten
variable {rewrite : Char → List Char} (hrewrite : Unnoticed rewrite)
include hrewrite

/-- Text without markup stays as it is. -/
lemma flatMap_plain {text : List Char} (h : ∀ c ∈ text, isMarkup c = false) :
    text.flatMap rewrite = text := by
  induction text with
  | nil => rfl
  | cons c text ih =>
    have hc := hrewrite.plain (h c List.mem_cons_self)
    have htext := ih fun d hd => h d (List.mem_cons_of_mem c hd)
    rw [List.flatMap_cons, hc, htext, List.singleton_append]

/-- What is written for a character and rewritten is read as the character. -/
lemma readString_rewritten (c : Char) (done rest : List Char) :
    readString done ((escapeChar c).flatMap rewrite ++ rest) = readString (c :: done) rest := by
  cases h : isMarkup c with
  | false =>
    rw [flatMap_plain hrewrite fun d => isMarkup_of_mem_escapeChar h]
    exact readString_escapeChar c done rest
  | true =>
    rw [escapeChar_markup h, List.flatMap_singleton]
    exact hrewrite.markup h done rest

/-- A string is read up to its closing quote. -/
lemma readString_quoted (text done rest : List Char) :
    readString done ((text.flatMap escapeChar).flatMap rewrite ++ '"' :: rest) =
      some (String.ofList (done.reverse ++ text), rest) := by
  induction text generalizing done with
  | nil => simp [readString]
  | cons c text ih =>
    rw [List.flatMap_cons, List.flatMap_append, List.append_assoc,
      readString_rewritten hrewrite, ih]
    simp

/-- Whatever ends it, the text is cut into these tokens. -/
def Spells (rewrite : Char → List Char) (text : List Char) (tokens : List Token) : Prop :=
  ∀ rest, Ends rest → tokens? (text.flatMap rewrite ++ rest) = (tokens? rest).map (tokens ++ ·)

omit hrewrite in
lemma Spells.nil : Spells rewrite [] [] := by
  intro rest _
  simp

/-- Marks may stand before a text. -/
lemma Spells.mark {c : Char} {mark tokens : List Token} {text : List Char} (hmark : Mark c mark)
    (h : Spells rewrite text tokens) : Spells rewrite (c :: text) (mark ++ tokens) := by
  intro rest hrest
  rw [List.flatMap_cons, hrewrite.plain hmark.plain.2.2, List.singleton_append, List.cons_append,
    hmark.tokens, h rest hrest, Option.map_map]
  congr 1
  funext more
  exact (List.append_assoc ..).symm

/-- A text may stand before another one that begins with a mark. -/
lemma Spells.append {c : Char} {mark first second : List Token} {text more : List Char}
    (h : Spells rewrite text first) (hmark : Mark c mark)
    (hmore : Spells rewrite (c :: more) second) :
    Spells rewrite (text ++ c :: more) (first ++ second) := by
  intro rest hrest
  have hends : Ends ((c :: more).flatMap rewrite ++ rest) := by
    rw [List.flatMap_cons, hrewrite.plain hmark.plain.2.2]
    exact hmark.ends _
  rw [List.flatMap_append, List.append_assoc, h _ hends, hmore rest hrest, Option.map_map]
  congr 1
  funext tail
  exact (List.append_assoc ..).symm

/-- A string in quotes is one token. -/
lemma spells_quoted (s : String) : Spells rewrite (quoted s) [.str s] := by
  intro rest _
  have hquote : rewrite '"' = ['"'] := hrewrite.plain rfl
  have hread := readString_quoted hrewrite s.toList [] rest
  have htext : (quoted s).flatMap rewrite ++ rest =
      '"' :: ((s.toList.flatMap escapeChar).flatMap rewrite ++ '"' :: rest) := by
    simp [quoted, hquote]
  rw [htext, tokens_quote hread]
  simp

/-- A word of the format is one token. -/
lemma spells_word {word : List Char} {value : Json} (hword : word? word = some value)
    (halpha : word.all Char.isAlpha = true) : Spells rewrite word [.atom value] := by
  intro rest hrest
  have hplain : ∀ c ∈ word, isMarkup c = false := by
    intro c hc
    exact isMarkup_of_word (.inl (List.all_eq_true.mp halpha c hc))
  rw [flatMap_plain hrewrite hplain, tokens_word hword halpha hrest]
  rfl

/-- A number is one token. -/
lemma spells_number {literal : String} (h : isNumber literal.toList = true) :
    Spells rewrite literal.toList [.atom (.number literal)] := by
  intro rest hrest
  have hplain : ∀ c ∈ literal.toList, isMarkup c = false := by
    intro c hc
    exact isMarkup_of_word (.inr (List.all_eq_true.mp (all_isNumberChar h) c hc))
  rw [flatMap_plain hrewrite hplain, tokens_number h hrest, String.ofList_toList]
  rfl

mutual

/-- The text without spaces spells the tokens of its document. -/
lemma spells_compact : ∀ (j : Json), j.Readable → Spells rewrite j.compactChars j.tokens
  | .null, _ => spells_word hrewrite rfl rfl
  | .bool true, _ => spells_word hrewrite rfl rfl
  | .bool false, _ => spells_word hrewrite rfl rfl
  | .number _, h => spells_number hrewrite h
  | .str s, _ => spells_quoted hrewrite s
  | .arr [], _ => Spells.mark hrewrite .openBracket (Spells.mark hrewrite .closeBracket .nil)
  | .arr (item :: more), h =>
    Spells.mark hrewrite .openBracket (spells_compactItems item more h.1 h.2)
  | .obj [], _ => Spells.mark hrewrite .openBrace (Spells.mark hrewrite .closeBrace .nil)
  | .obj ((name, value) :: more), h =>
    Spells.mark hrewrite .openBrace (spells_compactMembers name value more h.1 h.2)
termination_by j => sizeOf j

lemma spells_compactItems : ∀ (item : Json) (more : List Json), item.Readable → AllReadable more →
    Spells rewrite (compactItems (item :: more) ++ [']']) (item.tokens ++ itemTokens more)
  | item, [], h, _ =>
    (spells_compact _ h).append hrewrite .closeBracket (Spells.mark hrewrite .closeBracket .nil)
  | item, next :: more, h, hmore => by
    have htail := Spells.mark hrewrite .comma (spells_compactItems next more hmore.1 hmore.2)
    have htext := (spells_compact _ h).append hrewrite .comma htail
    simpa [compactItems, itemTokens] using htext
termination_by item more => sizeOf (item :: more)

lemma spells_compactMembers : ∀ (name : String) (value : Json) (more : List (String × Json)),
    value.Readable → MembersReadable more →
    Spells rewrite (compactMembers ((name, value) :: more) ++ ['}'])
      (.str name :: .colon :: (value.tokens ++ memberTokens more))
  | name, value, [], h, _ => by
    have hclose := Spells.mark hrewrite .closeBrace Spells.nil
    have htail := Spells.mark hrewrite .colon
      ((spells_compact _ h).append hrewrite .closeBrace hclose)
    have htext := (spells_quoted hrewrite name).append hrewrite .colon htail
    simpa [compactMembers, memberTokens] using htext
  | name, value, (next, v) :: more, h, hmore => by
    have hrest := Spells.mark hrewrite .comma (spells_compactMembers next v more hmore.1 hmore.2)
    have htail := Spells.mark hrewrite .colon ((spells_compact _ h).append hrewrite .comma hrest)
    have htext := (spells_quoted hrewrite name).append hrewrite .colon htail
    simpa [compactMembers, memberTokens] using htext
termination_by name value more => sizeOf ((name, value) :: more)

end

/-- A line break with its blanks may stand before a text. -/
lemma Spells.newLine {text : List Char} {tokens : List Token} (h : Spells rewrite text tokens)
    (level : Nat) : Spells rewrite (Json.newLine level ++ text) tokens := by
  have hblanks : ∀ n, Spells rewrite (List.replicate n ' ' ++ text) tokens := by
    intro n
    induction n with
    | zero => exact h
    | succ n ih => exact Spells.mark hrewrite .space ih
  exact Spells.mark hrewrite .newLine (hblanks (2 * level))

mutual

/-- The text with lines spells the tokens of its document. -/
lemma spells_pretty : ∀ (j : Json) (level : Nat), j.Readable →
    Spells rewrite (j.prettyChars level) j.tokens
  | .null, _, _ => spells_word hrewrite rfl rfl
  | .bool true, _, _ => spells_word hrewrite rfl rfl
  | .bool false, _, _ => spells_word hrewrite rfl rfl
  | .number _, _, h => spells_number hrewrite h
  | .str s, _, _ => spells_quoted hrewrite s
  | .arr [], _, _ => Spells.mark hrewrite .openBracket (Spells.mark hrewrite .closeBracket .nil)
  | .arr (item :: more), level, h => by
    have hclose := (Spells.mark hrewrite .closeBracket .nil).newLine hrewrite level
    have htext := Spells.mark hrewrite .openBracket
      (spells_prettyItems (level + 1) hclose item more h.1 h.2)
    simpa [prettyChars, tokens, Json.newLine] using htext
  | .obj [], _, _ => Spells.mark hrewrite .openBrace (Spells.mark hrewrite .closeBrace .nil)
  | .obj ((name, value) :: more), level, h => by
    have hclose := (Spells.mark hrewrite .closeBrace .nil).newLine hrewrite level
    have htext := Spells.mark hrewrite .openBrace
      (spells_prettyMembers (level + 1) hclose name value more h.1 h.2)
    simpa [prettyChars, tokens, Json.newLine] using htext
termination_by j => sizeOf j

lemma spells_prettyItems (level : Nat) {close : List Char}
    (hclose : Spells rewrite ('\n' :: close) [.closeBracket]) :
    ∀ (item : Json) (more : List Json), item.Readable → AllReadable more →
    Spells rewrite (prettyItems level (item :: more) ++ '\n' :: close)
      (item.tokens ++ itemTokens more)
  | item, [], h, _ => by
    have htext := ((spells_pretty _ level h).append hrewrite .newLine hclose).newLine hrewrite level
    simpa [prettyItems, itemTokens] using htext
  | item, next :: more, h, hmore => by
    have htail := Spells.mark hrewrite .comma
      (spells_prettyItems level hclose next more hmore.1 hmore.2)
    have htext := ((spells_pretty _ level h).append hrewrite .comma htail).newLine hrewrite level
    simpa [prettyItems, itemTokens] using htext
termination_by item more => sizeOf (item :: more)

lemma spells_prettyMembers (level : Nat) {close : List Char}
    (hclose : Spells rewrite ('\n' :: close) [.closeBrace]) :
    ∀ (name : String) (value : Json) (more : List (String × Json)),
    value.Readable → MembersReadable more →
    Spells rewrite (prettyMembers level ((name, value) :: more) ++ '\n' :: close)
      (.str name :: .colon :: (value.tokens ++ memberTokens more))
  | name, value, [], h, _ => by
    have hvalue := Spells.mark hrewrite .space
      ((spells_pretty _ level h).append hrewrite .newLine hclose)
    have htext := ((spells_quoted hrewrite name).append hrewrite .colon
      (Spells.mark hrewrite .colon hvalue)).newLine hrewrite level
    simpa [prettyMembers, memberTokens] using htext
  | name, value, (next, v) :: more, h, hmore => by
    have hrest := Spells.mark hrewrite .comma
      (spells_prettyMembers level hclose next v more hmore.1 hmore.2)
    have hvalue := Spells.mark hrewrite .space
      ((spells_pretty _ level h).append hrewrite .comma hrest)
    have htext := ((spells_quoted hrewrite name).append hrewrite .colon
      (Spells.mark hrewrite .colon hvalue)).newLine hrewrite level
    simpa [prettyMembers, memberTokens] using htext
termination_by name value more => sizeOf ((name, value) :: more)

end

end Rewritten

/-- The tokens of a document do not begin with a closing bracket. -/
lemma readValue_openBracket (stack : List Frame) (j : Json) (rest : List Token) :
    readValue stack (.openBracket :: (j.tokens ++ rest)) =
      readValue (.arr [] :: stack) (j.tokens ++ rest) := by
  have hne : ∀ more, j.tokens ++ rest ≠ .closeBracket :: more := by
    intro more
    fun_cases tokens j <;> simp
  rw [readValue]
  exact hne

mutual

/-- The machine goes on behind the tokens of a document with the document. -/
lemma readValue_tokens : ∀ (j : Json) (stack : List Frame) (rest : List Token),
    readValue stack (j.tokens ++ rest) = readRest stack j rest
  | .null, _, _ => by simp [tokens, readValue]
  | .bool _, _, _ => by simp [tokens, readValue]
  | .number _, _, _ => by simp [tokens, readValue]
  | .str _, _, _ => by simp [tokens, readValue]
  | .arr [], _, _ => by simp [tokens, readValue]
  | .arr (item :: more), stack, rest => by
    rw [tokens, List.cons_append, List.append_assoc, readValue_openBracket, readValue_tokens item,
      readRest_itemTokens more]
    rfl
  | .obj [], _, _ => by simp [tokens, readValue]
  | .obj ((name, value) :: more), stack, rest => by
    rw [tokens, List.cons_append, List.cons_append, List.cons_append, List.append_assoc, readValue,
      readValue_tokens value, readRest_memberTokens more]
    rfl
termination_by j => sizeOf j

/-- Behind an item the machine reads the other items. -/
lemma readRest_itemTokens : ∀ (more : List Json) (done : List Json) (item : Json)
    (stack : List Frame) (rest : List Token),
    readRest (.arr done :: stack) item (itemTokens more ++ rest) =
      readRest stack (.arr (done.reverse ++ item :: more)) rest
  | [], done, item, stack, rest => by simp [itemTokens, readRest]
  | next :: more, done, item, stack, rest => by
    rw [itemTokens, List.cons_append, List.append_assoc, readRest, readValue_tokens next,
      readRest_itemTokens more]
    simp
termination_by more => sizeOf more

/-- Behind a member the machine reads the other members. -/
lemma readRest_memberTokens : ∀ (more done : List (String × Json)) (name : String) (value : Json)
    (stack : List Frame) (rest : List Token),
    readRest (.obj done name :: stack) value (memberTokens more ++ rest) =
      readRest stack (.obj (done.reverse ++ (name, value) :: more)) rest
  | [], done, name, value, stack, rest => by simp [memberTokens, readRest]
  | (next, v) :: more, done, name, value, stack, rest => by
    rw [memberTokens, List.cons_append, List.cons_append, List.cons_append, List.append_assoc,
      readRest, readValue_tokens v, readRest_memberTokens more]
    simp
termination_by more => sizeOf more

end

/-- A text that spells the tokens of a document is read as the document. -/
lemma read_of_spells {rewrite : Char → List Char} {text : List Char} {j : Json}
    (h : Spells rewrite text j.tokens) : read? (String.ofList (text.flatMap rewrite)) = some j := by
  have htokens : tokens? (text.flatMap rewrite) = some j.tokens := by
    simpa [tokens?] using h [] (by intro c hc; cases hc)
  have hread : readValue [] j.tokens = some j := by
    simpa [readRest] using readValue_tokens j [] []
  simp [read?, htokens, hread]

/-- Text that is not rewritten reads as itself. -/
lemma unnoticed_singleton : Unnoticed fun c => [c] where
  plain _ := rfl
  markup := by
    intro c hc done rest
    rw [List.singleton_append, ← readString_escapeChar, escapeChar_markup hc,
      List.singleton_append]

end Stencil.Json
