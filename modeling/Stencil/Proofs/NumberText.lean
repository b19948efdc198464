import Mathlib.Tactic.Common
import Stencil.Value.OfJson

/-! The numbers that are written are numbers to the reader of JSON documents: an optional minus,
digits without a leading zero, and an optional fraction and exponent. An integer is read back as
itself. -/
namespace Stencil

namespace Json

lemma isNumberChar_of_isDigit {c : Char} (h : c.isDigit = true) : isNumberChar c = true := by
  simp [isNumberChar, h]

/-- A run of digits is made of number characters if what follows it is. -/
lemma all_isNumberChar_of_dropWhile {text : List Char}
    (h : (text.dropWhile Char.isDigit).all isNumberChar = true) :
    text.all isNumberChar = true := by
  induction text with
  | nil => rfl
  | cons c rest ih =>
    by_cases hc : c.isDigit = true
    · simp_all [isNumberChar_of_isDigit]
    · simpa [hc] using h

/-- A fraction has digits, and an exponent may follow it. -/
lemma isNumberEnd_point (rest : List Char) :
    isNumberEnd ('.' :: rest) = (!(rest.takeWhile Char.isDigit).isEmpty &&
      (rest.dropWhile Char.isDigit).head? != some '.' &&
      isNumberEnd (rest.dropWhile Char.isDigit)) := by
  cases hdigits : rest.takeWhile Char.isDigit with
  | nil => simp [isNumberEnd, hdigits]
  | cons d digits =>
    cases htail : rest.dropWhile Char.isDigit with
    | nil => simp [isNumberEnd, hdigits, htail]
    | cons c tail =>
      by_cases hc : c = '.'
      · subst hc
        simp [isNumberEnd, hdigits, htail]
      · simp [isNumberEnd, hdigits, htail, hc]

/-- An exponent has a mark, maybe a sign, and digits: all of them characters of numbers. -/
lemma all_isNumberChar_of_exponent {mark : Char} {rest : List Char} (hpoint : mark ≠ '.')
    (h : isNumberEnd (mark :: rest) = true) : (mark :: rest).all isNumberChar = true := by
  cases rest with
  | nil => simp [isNumberEnd, hpoint] at h
  | cons s digits =>
    have hmark : mark = 'e' ∨ mark = 'E' := by
      by_contra hnot
      simp_all [isNumberEnd]
    have htail : (s :: digits).all isNumberChar = true := by
      by_cases hplus : s = '+'
      · simp_all [isNumberEnd, isNumberChar]
      · by_cases hminus : s = '-'
        · simp_all [isNumberEnd, isNumberChar]
        · simp_all [isNumberEnd, isNumberChar]
    rcases hmark with rfl | rfl
    · simpa [isNumberChar] using htail
    · simpa [isNumberChar] using htail

/-- Only number characters follow the digits of a number. -/
lemma all_isNumberChar_of_isNumberEnd {text : List Char} (h : isNumberEnd text = true) :
    text.all isNumberChar = true := by
  cases text with
  | nil => rfl
  | cons c rest =>
    by_cases hc : c = '.'
    · subst hc
      rw [isNumberEnd_point] at h
      simp only [Bool.and_eq_true, bne_iff_ne] at h
      have hrest : rest.all isNumberChar = true := by
        apply all_isNumberChar_of_dropWhile
        cases htail : rest.dropWhile Char.isDigit with
        | nil => rfl
        | cons mark tail =>
          rw [htail] at h
          exact all_isNumberChar_of_exponent (by simpa using h.1.2) h.2
      simpa [isNumberChar] using hrest
    · exact all_isNumberChar_of_exponent hc h

/-- Behind a minus stands a number without one. -/
lemma isNumber_minus (rest : List Char) :
    isNumber ('-' :: rest) = (rest.head? != some '-' && isNumber rest) := by
  cases rest with
  | nil => rfl
  | cons c rest =>
    by_cases hc : c = '-'
    · subst hc
      simp [isNumber]
    · simp [isNumber, hc]

lemma isNumber_zero (rest : List Char) : isNumber ('0' :: rest) = isNumberEnd rest := by
  simp [isNumber]

/-- A number that begins neither with a minus nor with a zero begins with its digits. -/
lemma isNumber_cons {c : Char} (rest : List Char) (hminus : c ≠ '-') (hzero : c ≠ '0') :
    isNumber (c :: rest) = (c.isDigit && isNumberEnd (rest.dropWhile Char.isDigit)) := by
  simp [isNumber, hminus]

/-- A number without a sign is made of number characters. -/
lemma all_isNumberChar_of_unsigned {text : List Char} (hminus : text.head? ≠ some '-')
    (h : isNumber text = true) : text.all isNumberChar = true := by
  cases text with
  | nil => rfl
  | cons c rest =>
    by_cases hzero : c = '0'
    · subst hzero
      rw [isNumber_zero] at h
      simpa [isNumberChar] using all_isNumberChar_of_isNumberEnd h
    · rw [isNumber_cons rest (by simpa using hminus) hzero, Bool.and_eq_true] at h
      have hrest := all_isNumberChar_of_dropWhile (all_isNumberChar_of_isNumberEnd h.2)
      rw [List.all_cons, hrest, isNumberChar_of_isDigit h.1, Bool.and_true]

/-- A number is made of number characters. -/
lemma all_isNumberChar {text : List Char} (h : isNumber text = true) :
    text.all isNumberChar = true := by
  by_cases hminus : text.head? = some '-'
  · obtain ⟨rest, rfl⟩ := List.head?_eq_some_iff.mp hminus
    rw [isNumber_minus, Bool.and_eq_true, bne_iff_ne] at h
    simpa [isNumberChar] using all_isNumberChar_of_unsigned h.1 h.2
  · exact all_isNumberChar_of_unsigned hminus h

/-- Digits of which the first is a zero only if it is the only one. -/
def IsWhole (digits : List Char) : Prop :=
  digits = ['0'] ∨
    digits ≠ [] ∧ digits.head? ≠ some '0' ∧ digits.all Char.isDigit = true

/-- The front of such digits is of the same kind. -/
lemma IsWhole.take {digits : List Char} (h : IsWhole digits) {n : Nat} (hn : 0 < n) :
    IsWhole (digits.take n) := by
  obtain ⟨n, rfl⟩ := Nat.exists_eq_add_of_lt hn
  rcases h with rfl | ⟨hne, hzero, hdigits⟩
  · left
    simp
  · right
    cases digits with
    | nil => exact absurd rfl hne
    | cons c digits =>
      rw [List.all_cons, Bool.and_eq_true] at hdigits
      simp only [Nat.zero_add, List.take_succ_cons]
      refine ⟨by simp, hzero, ?_⟩
      rw [List.all_cons, hdigits.1, Bool.true_and, List.all_eq_true]
      intro d hd
      exact List.all_eq_true.mp hdigits.2 d (List.mem_of_mem_take hd)

/-- A number ends at once, or goes on with a point or the mark of an exponent. -/
lemma dropWhile_isDigit_numberEnd {tail : List Char} (h : isNumberEnd tail = true) :
    tail.dropWhile Char.isDigit = tail := by
  cases tail with
  | nil => rfl
  | cons c rest =>
    rcases Bool.eq_false_or_eq_true c.isDigit with hc | hc
    · have hpoint : c ≠ '.' := by rintro rfl; simp at hc
      have he : c ≠ 'e' := by rintro rfl; simp at hc
      have hE : c ≠ 'E' := by rintro rfl; simp at hc
      simp [isNumberEnd, hpoint, he, hE] at h
    · simp [hc]

/-- Digits without a leading zero and an end behind them are a number. -/
lemma isNumber_append {whole tail : List Char} (hwhole : IsWhole whole)
    (htail : isNumberEnd tail = true) : isNumber (whole ++ tail) = true := by
  rcases hwhole with rfl | ⟨hne, hzero, hdigits⟩
  · rwa [List.singleton_append, isNumber_zero]
  · cases whole with
    | nil => exact absurd rfl hne
    | cons c digits =>
      rw [List.all_cons, Bool.and_eq_true] at hdigits
      have hminus : c ≠ '-' := by rintro rfl; simp at hdigits
      have hdrop : (digits ++ tail).dropWhile Char.isDigit = tail := by
        rw [List.dropWhile_append_of_pos (by simpa using hdigits.2),
          dropWhile_isDigit_numberEnd htail]
      rw [List.cons_append, isNumber_cons _ hminus (by simpa using hzero), hdrop, htail, hdigits.1,
        Bool.and_true]

/-- A minus before such digits changes nothing about that. -/
lemma isNumber_minus_append {whole tail : List Char} (hwhole : IsWhole whole)
    (htail : isNumberEnd tail = true) : isNumber ('-' :: (whole ++ tail)) = true := by
  have hhead : (whole ++ tail).head? ≠ some '-' := by
    rcases hwhole with rfl | ⟨hne, -, hdigits⟩
    · simp
    · cases whole with
      | nil => exact absurd rfl hne
      | cons c digits =>
        intro h
        obtain rfl : c = '-' := by simpa using h
        simp at hdigits
  rw [isNumber_minus, isNumber_append hwhole htail, Bool.and_true]
  exact bne_iff_ne.mpr hhead

/-- The digits of a positive number begin with another one than zero. -/
lemma head?_toDigits {n : Nat} (h : 0 < n) : (Nat.toDigits 10 n).head? ≠ some '0' := by
  induction n using Nat.strongRecOn with
  | ind n ih =>
    by_cases hn : n < 10
    · rw [Nat.toDigits_of_lt_base hn]
      simpa using Nat.digitChar_eq_zero.not.mpr (by omega)
    · have hfront := ih (n / 10) (by omega) (by omega)
      rw [Nat.toDigits_of_base_le (by omega) (by omega), List.head?_append]
      cases hdigits : Nat.toDigits 10 (n / 10) with
      | nil => exact absurd hdigits Nat.toDigits_ne_nil
      | cons c front => simpa [hdigits] using hfront

lemma all_isDigit_toDigits (n : Nat) : (Nat.toDigits 10 n).all Char.isDigit = true := by
  apply List.all_eq_true.mpr
  intro c hc
  exact Nat.isDigit_of_mem_toDigits (by omega) (by omega) hc

lemma all_isDigit_drop {digits : List Char} (h : digits.all Char.isDigit = true) (n : Nat) :
    (digits.drop n).all Char.isDigit = true := by
  apply List.all_eq_true.mpr
  intro c hc
  exact List.all_eq_true.mp h c (List.mem_of_mem_drop hc)

lemma isWhole_toDigits (n : Nat) : IsWhole (Nat.toDigits 10 n) := by
  rcases Nat.eq_zero_or_pos n with rfl | hn
  · exact .inl (Nat.toDigits_zero 10)
  · exact .inr ⟨Nat.toDigits_ne_nil, head?_toDigits hn, all_isDigit_toDigits n⟩

/-- The text of an integer: its digits, with a minus before them if it is negative. -/
lemma toList_repr (i : Int) :
    i.repr.toList = (if 0 ≤ i then [] else ['-']) ++ Nat.toDigits 10 i.natAbs := by
  rw [Int.repr_eq_if]
  split
  · have hsize : i.toNat = i.natAbs := by omega
    simp [Nat.repr_eq_ofList_toDigits, hsize]
  · have hsize : (-i).toNat = i.natAbs := by omega
    simp [Nat.repr_eq_ofList_toDigits, hsize]

/-- The text of an integer is a number. -/
lemma isNumber_toString (i : Int) : isNumber (toString i).toList = true := by
  have hwhole := isWhole_toDigits i.natAbs
  have hend : isNumberEnd [] = true := rfl
  rw [Int.toString_eq_repr, toList_repr]
  split
  · simpa using isNumber_append hwhole hend
  · simpa using isNumber_minus_append hwhole hend

/-- A point with digits behind it may stand before an exponent, or alone. -/
lemma isNumberEnd_fraction_append {digits tail : List Char} (hne : digits ≠ [])
    (h : digits.all Char.isDigit = true) (hpoint : tail.head? ≠ some '.')
    (htail : isNumberEnd tail = true) : isNumberEnd ('.' :: (digits ++ tail)) = true := by
  have hdrop : (digits ++ tail).dropWhile Char.isDigit = tail := by
    rw [List.dropWhile_append_of_pos (List.all_eq_true.mp h), dropWhile_isDigit_numberEnd htail]
  have htake : (digits ++ tail).takeWhile Char.isDigit ≠ [] := by
    rw [List.takeWhile_append_of_pos (List.all_eq_true.mp h)]
    simp [hne]
  rw [isNumberEnd_point, hdrop]
  simp [htake, hpoint, htail]

lemma isNumberEnd_fraction {digits : List Char} (hne : digits ≠ [])
    (h : digits.all Char.isDigit = true) : isNumberEnd ('.' :: digits) = true := by
  have hend : isNumberEnd [] = true := rfl
  simpa using isNumberEnd_fraction_append hne h (by simp) hend

/-- The mark of an exponent with a sign and digits behind it ends a number. -/
lemma isNumberEnd_exponent {s : Char} {digits : List Char} (hs : s = '+' ∨ s = '-')
    (hne : digits ≠ []) (h : digits.all Char.isDigit = true) :
    isNumberEnd ('e' :: s :: digits) = true := by
  rcases hs with rfl | rfl
  · simp_all [isNumberEnd]
  · simp_all [isNumberEnd]

end Json

namespace Decimal

open Json

/-- Zeros behind the digits of a positive number leave them without a leading zero. -/
lemma isWhole_append_zeros {n : Nat} (h : 0 < n) (k : Nat) :
    IsWhole (Nat.toDigits 10 n ++ List.replicate k '0') := by
  right
  refine ⟨by simp [Nat.toDigits_ne_nil], ?_, by simp [all_isDigit_toDigits]⟩
  cases hdigits : Nat.toDigits 10 n with
  | nil => exact absurd hdigits Nat.toDigits_ne_nil
  | cons c digits => simpa [hdigits] using head?_toDigits h

/-- A decimal that is positive or plainly zero. -/
def IsPlain (d : Decimal) : Prop := 0 < d.coefficient ∨ d = ⟨0, 0⟩

/-- A text that may stand behind a minus: digits without a leading zero, and the end of a number. -/
def IsUnsigned (text : String) : Prop :=
  ∃ whole tail, text.toList = whole ++ tail ∧ IsWhole whole ∧ isNumberEnd tail = true

/-- All places of a decimal, with a point and a zero at the end of whole ones, are a number. -/
lemma isUnsigned_positional {d : Decimal} (h : IsPlain d) : IsUnsigned (d.positional ".0") := by
  have hdigits := all_isDigit_toDigits d.coefficient
  simp only [positional]
  split
  · have hwhole :
        IsWhole (Nat.toDigits 10 d.coefficient ++ List.replicate d.exponent.toNat '0') := by
      rcases h with h | rfl
      · exact isWhole_append_zeros h _
      · exact isWhole_toDigits 0
    exact ⟨_, ['.', '0'], by simp [zeros], hwhole, rfl⟩
  · split
    · rename_i hexponent hplaces
      have hwhole := (isWhole_toDigits d.coefficient).take
        (n := (Nat.toDigits 10 d.coefficient).length - (-d.exponent).toNat) (by omega)
      have hne : (Nat.toDigits 10 d.coefficient).drop
          ((Nat.toDigits 10 d.coefficient).length - (-d.exponent).toNat) ≠ [] := by
        rw [ne_eq, List.drop_eq_nil_iff]
        omega
      have hfraction := isNumberEnd_fraction hne (all_isDigit_drop hdigits _)
      exact ⟨_, _, by simp, hwhole, hfraction⟩
    · have hne :
          List.replicate ((-d.exponent).toNat - (Nat.toDigits 10 d.coefficient).length) '0' ++
            Nat.toDigits 10 d.coefficient ≠ [] := by
        simp [Nat.toDigits_ne_nil]
      have hfraction := isNumberEnd_fraction hne (by simp [hdigits])
      exact ⟨['0'], _, by simp [zeros], .inl rfl, hfraction⟩

/-- The exponent as it is written: a mark, a sign of its own and digits. -/
lemma isNumberEnd_signed (e : Int) : ∃ tail, isNumberEnd ('e' :: tail) = true ∧
    (if 0 ≤ e then s!"e+{e}" else s!"e{e}").toList = 'e' :: tail := by
  have hne := Nat.toDigits_ne_nil (b := 10) (n := e.natAbs)
  have hdigits := all_isDigit_toDigits e.natAbs
  split
  · rename_i h
    exact ⟨_, isNumberEnd_exponent (.inl rfl) hne hdigits, by simp [toList_repr, h]; rfl⟩
  · rename_i h
    exact ⟨_, isNumberEnd_exponent (.inr rfl) hne hdigits, by simp [toList_repr, h]; rfl⟩

/-- One digit, maybe a fraction, and an exponent are a number. -/
lemma isUnsigned_scientific (d : Decimal) : IsUnsigned d.scientific := by
  have hwhole := (isWhole_toDigits d.coefficient).take Nat.one_pos
  have hdigits := all_isDigit_toDigits d.coefficient
  obtain ⟨tail, htail, hlist⟩ := isNumberEnd_signed
    (d.exponent + ((Nat.toDigits 10 d.coefficient).length - 1 : Nat))
  by_cases hfraction : (Nat.toDigits 10 d.coefficient).drop 1 = []
  · have htext : d.scientific.toList = (Nat.toDigits 10 d.coefficient).take 1 ++ 'e' :: tail := by
      simp only [scientific, String.toList_append, hlist, hfraction]
      simp
    exact ⟨_, _, htext, hwhole, htail⟩
  · have hback := isNumberEnd_fraction_append hfraction (all_isDigit_drop hdigits 1) (by simp) htail
    have htext : d.scientific.toList = (Nat.toDigits 10 d.coefficient).take 1 ++
        '.' :: ((Nat.toDigits 10 d.coefficient).drop 1 ++ 'e' :: tail) := by
      simp only [scientific, String.toList_append, hlist]
      rw [if_neg (by simpa using hfraction)]
      simp
    exact ⟨_, _, htext, hwhole, hback⟩

lemma pow2_pos (e : Int) : 0 < pow2 e := Nat.pow_pos (by omega)

lemma pow10_pos (e : Int) : 0 < pow10 e := Nat.pow_pos (by omega)

/-- A multiple that reads back as a number with a mantissa is positive. -/
lemma coefficient_nearestOnGrid {b : Binary} {tie : Tie} {k : Int} {d : Decimal}
    (hb : b.mantissa ≠ 0) (h : b.nearestOnGrid? tie k = some d) : 0 < d.coefficient := by
  have hlowest : 0 < (4 * b.mantissa - if b.narrow then 1 else 2) *
      (pow2 (b.exponent - 2) * pow10 (-k)) := by
    apply Nat.mul_pos
    · split <;> omega
    · exact Nat.mul_pos (pow2_pos _) (pow10_pos _)
  simp only [Binary.nearestOnGrid?] at h
  generalize (4 * b.mantissa - if b.narrow then 1 else 2) *
      (pow2 (b.exponent - 2) * pow10 (-k)) = lowest at h hlowest
  -- Zero lies below the lowest number that reads back, and only such multiples are taken.
  grind

lemma coefficient_stripped {d : Decimal} (h : IsPlain d) (fuel : Nat) :
    IsPlain (d.stripped fuel) := by
  induction fuel generalizing d with
  | zero => exact h
  | succ fuel ih =>
    rw [stripped]
    split
    · rename_i hzero
      apply ih
      left
      show 0 < d.coefficient / 10
      omega
    · exact h

/-- The shortest decimal for a binary number is plain. -/
lemma isPlain_shortest (b : Binary) (tie : Tie) : IsPlain (b.shortest tie) := by
  rw [Binary.shortest]
  split
  · exact .inr rfl
  · rename_i hmantissa
    apply coefficient_stripped
    cases hfound : (List.range 17).findSome? fun n : Nat => b.nearestOnGrid? tie
        (leadingExponent (b.mantissa * pow2 b.exponent) (pow2 (-b.exponent)) - n) with
    | none => exact .inr rfl
    | some d =>
      obtain ⟨n, -, hn⟩ := List.exists_of_findSome?_eq_some hfound
      exact .inl (coefficient_nearestOnGrid hmantissa hn)

end Decimal

/-- The text of a float in documents is a number. -/
lemma Json.isNumber_write (x : Float) : isNumber (Decimal.Style.json.write x).toList = true := by
  have hunsigned : ∀ text, Decimal.IsUnsigned text →
      isNumber ((if x.toBits ≥ 0x8000000000000000 then "-" else "") ++ text).toList = true := by
    rintro text ⟨whole, tail, htext, hwhole, htail⟩
    rw [String.toList_append, htext]
    split
    · simpa using isNumber_minus_append hwhole htail
    · simpa using isNumber_append hwhole htail
  simp only [Decimal.Style.write]
  apply hunsigned
  split
  · exact Decimal.isUnsigned_positional (Decimal.isPlain_shortest _ _)
  · exact Decimal.isUnsigned_scientific _

namespace Decimal

open Json

/-- The value of the digits of a number is the number. -/
lemma natOfDigits_toDigits (n : Nat) : natOfDigits (Nat.toDigits 10 n) = n := by
  have hfold : natOfDigits (Nat.toDigits 10 n) = Nat.ofDigitChars 10 (Nat.toDigits 10 n) 0 := by
    simp only [natOfDigits, Nat.ofDigitChars_eq_foldl, Nat.mul_comm]
  rw [hfold, Nat.ofDigitChars_ten_toDigits]

/-- Digits begin with no sign. -/
lemma splitSign_toDigits (n : Nat) :
    splitSign (Nat.toDigits 10 n) = (false, Nat.toDigits 10 n) := by
  have hdigits := all_isDigit_toDigits n
  rw [splitSign]
  · rintro rest h
    simp [h] at hdigits
  · rintro rest h
    simp [h] at hdigits

lemma toInt64_toInt (i : Int64) : toInt64? i.toInt = some i := by
  have hlow := i.le_toInt
  have hhigh := i.toInt_lt
  rw [toInt64?, if_pos (by omega), Int64.ofInt_toInt]

/-- The text of an integer of 64 bits reads back as it. -/
lemma readInt_toString (i : Int64) : readInt? (toString i.toInt).toList = some i := by
  have hne := Nat.toDigits_ne_nil (b := 10) (n := i.toInt.natAbs)
  have hdigits := all_isDigit_toDigits i.toInt.natAbs
  rw [Int.toString_eq_repr, toList_repr]
  split
  · have hsize : (i.toInt.natAbs : Int) = i.toInt := by omega
    simp only [readInt?, List.nil_append, splitSign_toDigits, natOfDigits_toDigits, hdigits, hsize]
    simpa [hne] using toInt64_toInt i
  · have hsize : -(i.toInt.natAbs : Int) = i.toInt := by omega
    simp only [readInt?, List.singleton_append, splitSign, natOfDigits_toDigits, hdigits, hsize]
    simpa [hne] using toInt64_toInt i

end Decimal

namespace Value

/-- Digits without a leading zero, with a minus or without one, are those of an integer. -/
lemma isIntegerLiteral_toString (i : Int) : isIntegerLiteral (toString i) = true := by
  have hchars : ((toString i).toList.all fun c => c.isDigit || c == '-') = true := by
    rw [Int.toString_eq_repr, Json.toList_repr, List.all_append, Bool.and_eq_true]
    constructor
    · split <;> simp
    · exact List.all_eq_true.mpr fun c hc =>
        by rw [List.all_eq_true.mp (Json.all_isDigit_toDigits _) c hc, Bool.true_or]
  have hzero : toString i ≠ "-0" := by
    intro h
    have hlist := congrArg String.toList h
    rw [Int.toString_eq_repr, Json.toList_repr] at hlist
    split at hlist
    · have hdigits := Json.all_isDigit_toDigits i.natAbs
      simp_all
    · have hhead := Json.head?_toDigits (n := i.natAbs) (by omega)
      simp_all
  rw [isIntegerLiteral, hchars, Bool.and_true]
  exact bne_iff_ne.mpr hzero

/-- The text of an integer of 64 bits stands for it. -/
lemma ofNumber_toString (i : Int64) : ofNumber (toString i.toInt) = .int i := by
  rw [ofNumber, if_pos (isIntegerLiteral_toString _), Decimal.readInt_toString]

end Value

end Stencil
