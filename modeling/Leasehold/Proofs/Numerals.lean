/-
This file proves that natural numbers are read back from the digits that are written for them, as
long as they fit in 64 bits. A reader goes on as long as there is more of a number, so that what
follows the digits has to begin with something else. A number whose digits are too many is held
against the largest binary number, but one that fits in 64 bits is far below it.
-/

import Leasehold.Proofs.Readings

namespace Leasehold

/-! ### Digits -/

theorem digitsValue_toDigits (number : Nat) : digitsValue (Nat.toDigits 10 number) = number := by
  have read := Nat.ofDigitChars_ten_toDigits (n := number)
  rw [Nat.ofDigitChars_eq_foldl] at read
  simpa only [digitsValue, Nat.mul_comm 10] using read

namespace Binary64

/-! ### Rounding -/

theorem exponentOf_le (numerator denominator : Nat) :
    exponentOf numerator denominator ≤
      max leastExponent (numerator.log2 - denominator.log2 - 52) := by
  unfold exponentOf
  simp only [Int.ofNat_eq_natCast]
  split <;> omega

theorem exponentOf_ge (numerator denominator : Nat) :
    (numerator.log2 - denominator.log2 - 53 : Int) ≤ exponentOf numerator denominator := by
  unfold exponentOf
  simp only [Int.ofNat_eq_natCast]
  split <;> omega

theorem roundedRatio_le (numerator denominator : Nat) :
    roundedRatio numerator denominator ≤ numerator + 1 := by
  have quotient : numerator / denominator ≤ numerator := Nat.div_le_self ..
  unfold roundedRatio
  dsimp only
  split <;> omega

/-- A number of up to a thousand binary digits is far from infinite. -/
theorem exists_finite_ofRatio {numerator : Nat} (denominator : Nat)
    (short : numerator.log2 ≤ 1000) :
    ∃ significand exponent,
      ofRatio false numerator denominator = finite false significand exponent ∧
        significand ≤ fullSignificand +
          (unscaled numerator denominator (exponentOf numerator denominator)).1 ∧
        exponent ≤ exponentOf numerator denominator + 1 := by
  have near := exponentOf_le numerator denominator
  have least : leastExponent ≤ exponentOf numerator denominator := Int.le_max_left ..
  have full : 0 < fullSignificand := by decide
  unfold ofRatio greatestExponent
  unfold leastExponent at near
  by_cases nothing : numerator = 0
  · rw [if_pos nothing]
    exact ⟨0, leastExponent, rfl, Nat.zero_le _, by omega⟩
  · rw [if_neg nothing]
    dsimp only
    generalize exponentOf numerator denominator = exponent at near least ⊢
    generalize unscaled numerator denominator exponent = reach
    have rounded := roundedRatio_le reach.1 reach.2
    by_cases carried : roundedRatio reach.1 reach.2 = significandBound
    · rw [if_pos carried, if_neg (by omega)]
      exact ⟨_, _, rfl, Nat.le_add_right .., Int.le_refl _⟩
    · rw [if_neg carried, if_neg (by omega)]
      exact ⟨_, _, rfl, by omega, by omega⟩

/-- No number of 64 bits becomes more than this when it is rounded. -/
def roundedBound : Nat := (fullSignificand + Json.largestWord <<< 53) <<< 12

theorem log2_le {number bound : Nat} (below : number ≤ bound) : number.log2 ≤ bound.log2 := by
  by_cases nothing : number = 0
  · simp [nothing]
  · exact (Nat.le_log2 (by omega)).mpr (Nat.le_trans (Nat.log2_self_le nothing) below)

theorem shiftLeft_le {number bound places most : Nat} (below : number ≤ bound)
    (few : places ≤ most) : number <<< places ≤ bound <<< most := by
  rw [Nat.shiftLeft_eq, Nat.shiftLeft_eq]
  exact Nat.mul_le_mul below (Nat.pow_le_pow_right (by decide) few)

theorem ratio_ofRatio_le {number : Nat} (word : number ≤ Json.largestWord) :
    (ofRatio false number 1).ratio.1 ≤ roundedBound := by
  have short : number.log2 ≤ 63 := log2_le word
  have above : -53 ≤ exponentOf number 1 := by
    have := exponentOf_ge number 1
    have one : Nat.log2 1 = 0 := by decide
    omega
  have below : exponentOf number 1 ≤ 11 := by
    have := exponentOf_le number 1
    unfold leastExponent at this
    omega
  obtain ⟨significand, exponent, rounded, bounded, near⟩ :=
    exists_finite_ofRatio 1 (show number.log2 ≤ 1000 by omega)
  have reach : (unscaled number 1 (exponentOf number 1)).1 ≤ Json.largestWord <<< 53 := by
    unfold unscaled
    split
    · exact Nat.le_trans word Nat.le_shiftLeft
    · exact shiftLeft_le word (by omega)
  have limited : significand ≤ fullSignificand + Json.largestWord <<< 53 := by omega
  rw [rounded, ratio]
  split
  · exact shiftLeft_le limited (by omega)
  · exact Nat.le_trans limited Nat.le_shiftLeft

/-- A number of 64 bits stays finite when it is rounded and multiplied by one. -/
theorem product_ofRatio_one_ne_infinite {number : Nat} (word : number ≤ Json.largestWord)
    (negative : Bool) :
    product (ofRatio false number 1) (ofRatio false 1 1) ≠ infinite negative := by
  have one : ratio (ofRatio false 1 1) = (fullSignificand, fullSignificand) := by decide
  have short : ((ofRatio false number 1).ratio.1 * fullSignificand).log2 ≤ 1000 := by
    have below := log2_le (Nat.mul_le_mul_right fullSignificand (ratio_ofRatio_le word))
    have bound : (roundedBound * fullSignificand).log2 ≤ 1000 := by decide
    omega
  obtain ⟨significand, exponent, rounded, -⟩ := exists_finite_ofRatio
    ((ofRatio false number 1).ratio.2 * fullSignificand) short
  rw [product, one, rounded]
  exact nofun

end Binary64

namespace Json

/-! ### Numbers of 64 bits -/

theorem foldl_digits_ge (digits : List Char) (value : Nat) :
    value ≤ digits.foldl (fun value digit => value * 10 + (digit.toNat - '0'.toNat)) value := by
  induction digits generalizing value with
  | nil => exact Nat.le_refl value
  | cons digit digits inductionHypothesis =>
    have next := inductionHypothesis (value * 10 + (digit.toNat - '0'.toNat))
    rw [List.foldl_cons]
    omega

theorem leadingDigits_of_fit {digits : List Char} {value : Nat}
    (fits : digits.foldl (fun value digit => value * 10 + (digit.toNat - '0'.toNat)) value ≤
      largestWord) :
    leadingDigits value digits =
      (digits.foldl (fun value digit => value * 10 + (digit.toNat - '0'.toNat)) value, []) := by
  induction digits generalizing value with
  | nil => rfl
  | cons digit digits inductionHypothesis =>
    rw [List.foldl_cons] at fits ⊢
    have next := Nat.le_trans (foldl_digits_ge digits _) fits
    rw [leadingDigits]
    simp only [if_pos next]
    exact inductionHypothesis fits

/-- A number of 64 bits is not too large. -/
theorem isTooLarge_of_word {digits : List Char} (word : digitsValue digits ≤ largestWord) :
    Numeral.isTooLarge ⟨false, digits, none, none⟩ = false := by
  have fits : leadingDigits 0 digits = (digitsValue digits, []) := leadingDigits_of_fit word
  unfold Numeral.isTooLarge
  simp only [fits, List.isEmpty_nil, if_true, Option.getD_none, leadingDigits, List.length_nil]
  split
  · rfl
  · rw [if_neg (by decide)]
    split
    next negative infinite =>
      exact absurd infinite (Binary64.product_ofRatio_one_ne_infinite word negative)
    next => rfl

/-! ### Digits alone -/

theorem Ends.not_number {rest : List Char} (ends : Ends rest) {char : Char}
    (begun : rest.head? = some char) :
    char.isDigit = false ∧ char ≠ '.' ∧ char ≠ 'e' ∧ char ≠ 'E' := by
  rcases ends char begun with blank | rfl | rfl | rfl
  · simp only [isBlank, Bool.or_eq_true, beq_iff_eq] at blank
    rcases blank with ((rfl | rfl) | rfl) | rfl <;> decide
  all_goals decide

/-- Digits, of which there is at least one. -/
structure Decimals (digits : List Char) : Prop where
  some : digits ≠ []
  digit : ∀ char ∈ digits, char.isDigit = true

/-- Digits that do not begin with a zero, unless they are a zero. -/
structure Digits (digits : List Char) : Prop extends Decimals digits where
  unpadded : ∀ rest, digits = '0' :: rest → rest = []

section Parts

variable {digits written rest : List Char}

theorem readDigits_append (valid : Decimals digits)
    (stops : ∀ char ∈ rest.head?, char.isDigit = false) (atEnd : Refusal) :
    readDigits atEnd (digits ++ rest) = .ok (digits, rest) := by
  have taken := takeWhile_append_of_head valid.digit stops
  have left := dropWhile_append_of_head valid.digit stops
  cases digits with
  | nil => exact absurd rfl valid.some
  | cons first more =>
    rw [List.cons_append] at taken left ⊢
    simp only [readDigits, valid.digit first List.mem_cons_self, if_true, taken, left]

theorem readWhole_append (valid : Digits digits)
    (stops : ∀ char ∈ rest.head?, char.isDigit = false) (atEnd : Refusal) :
    readWhole atEnd (digits ++ rest) = .ok (digits, rest) := by
  simp only [readWhole, readDigits_append valid.toDecimals stops, bind, Except.bind]
  split
  next next more =>
    exact absurd (valid.unpadded _ rfl) (List.cons_ne_nil next more)
  next => rfl

/-! ### Numbers as they may be written -/

/-- A minus in front of a number. -/
inductive MinusText : (negative : Bool) → List Char → Prop where
  | none : MinusText false []
  | minus : MinusText true ['-']

/-- The part of a number after its point. -/
inductive FractionText : Option (List Char) → List Char → Prop where
  | none : FractionText none []
  | some {digits : List Char} : Decimals digits → FractionText (some digits) ('.' :: digits)

/-- The sign of an exponent. -/
inductive SignText : (negative : Bool) → List Char → Prop where
  | none : SignText false []
  | plus : SignText false ['+']
  | minus : SignText true ['-']

/-- The exponent of a number. -/
inductive ExponentText : Option Int → List Char → Prop where
  | none : ExponentText none []
  | some {letter : Char} {negative : Bool} {sign digits : List Char} : letter = 'e' ∨ letter = 'E' →
    SignText negative sign → Decimals digits →
    ExponentText (some (if negative then -Int.ofNat (digitsValue digits)
      else Int.ofNat (digitsValue digits))) (letter :: (sign ++ digits))

/-- The ways to write a number. -/
inductive NumberText : Numeral → List Char → Prop where
  | intro {negative : Bool} {fraction : Option (List Char)} {exponent : Option Int}
    {sign whole places power : List Char} : MinusText negative sign → Digits whole →
    FractionText fraction places → ExponentText exponent power →
    NumberText ⟨negative, whole, fraction, exponent⟩ (sign ++ (whole ++ (places ++ power)))

theorem Decimals.exists_cons (valid : Decimals digits) :
    ∃ first more, digits = first :: more ∧ first.isDigit = true := by
  cases digits with
  | nil => exact absurd rfl valid.some
  | cons first more => exact ⟨first, more, rfl, valid.digit first List.mem_cons_self⟩

theorem SignText.splitSign {negative : Bool} (sign : SignText negative written)
    (valid : Decimals digits) :
    splitSign (written ++ (digits ++ rest)) = (negative, digits ++ rest) := by
  cases sign with
  | none =>
    obtain ⟨first, more, rfl, digit⟩ := valid.exists_cons
    unfold Leasehold.splitSign
    split
    next begun =>
      cases (List.cons.inj begun).1
      cases digit
    next begun =>
      cases (List.cons.inj begun).1
      cases digit
    next => rfl
  | plus => rfl
  | minus => rfl

theorem ExponentText.read {exponent : Option Int} (power : ExponentText exponent written)
    (stops : ∀ char ∈ rest.head?, char.isDigit = false ∧ char ≠ 'e' ∧ char ≠ 'E')
    (atEnd : Refusal) : readExponent atEnd (written ++ rest) = .ok (exponent, rest) := by
  cases power with
  | none =>
    rw [List.nil_append]
    unfold readExponent
    split
    next letter more =>
      obtain ⟨-, small, capital⟩ := stops letter rfl
      rw [if_neg (not_or.mpr ⟨small, capital⟩)]
    next => rfl
  | some letter sign valid =>
    have split : splitSign (_ ++ (_ ++ rest)) = _ := sign.splitSign valid
    have read := readDigits_append valid (fun char begun => (stops char begun).1) atEnd
    rw [List.cons_append, List.append_assoc]
    simp only [readExponent, if_pos letter, split, read, bind, Except.bind]

theorem FractionText.read {fraction : Option (List Char)} (places : FractionText fraction written)
    (stops : ∀ char ∈ rest.head?, char.isDigit = false ∧ char ≠ '.') (atEnd : Refusal) :
    readFraction atEnd (written ++ rest) = .ok (fraction, rest) := by
  cases places with
  | none =>
    rw [List.nil_append]
    unfold readFraction
    split
    next => exact absurd rfl (stops '.' rfl).2
    next => rfl
  | some valid =>
    have read := readDigits_append valid (fun char begun => (stops char begun).1) atEnd
    rw [List.cons_append]
    simp only [readFraction, read, bind, Except.bind]

theorem ExponentText.head {exponent : Option Int} (power : ExponentText exponent written)
    (ends : Ends rest) :
    ∀ char ∈ (written ++ rest).head?, char.isDigit = false ∧ char ≠ '.' := by
  intro char begun
  cases power with
  | none =>
    obtain ⟨digit, point, -⟩ := ends.not_number begun
    exact ⟨digit, point⟩
  | some letter =>
    obtain rfl := Option.some.inj begun
    rcases letter with rfl | rfl <;> decide

theorem FractionText.head {fraction : Option (List Char)} (places : FractionText fraction written)
    (stops : ∀ char ∈ rest.head?, char.isDigit = false) :
    ∀ char ∈ (written ++ rest).head?, char.isDigit = false := by
  cases places with
  | none => exact stops
  | some valid =>
    intro char begun
    obtain rfl := Option.some.inj begun
    rfl

theorem NumberText.readNumeral {numeral : Numeral} (number : NumberText numeral written)
    (ends : Ends rest) (atEnd : Refusal) :
    readNumeral atEnd (written ++ rest) = .ok (numeral, rest) := by
  obtain ⟨sign, valid, places, power⟩ := number
  have afterPlaces := power.head ends
  have afterWhole := places.head fun char begun => (afterPlaces char begun).1
  have whole := readWhole_append valid afterWhole atEnd
  have fraction := places.read afterPlaces atEnd
  have exponent := power.read (fun char begun => And.imp_right And.right (ends.not_number begun))
    atEnd
  simp only [List.append_assoc]
  cases sign with
  | minus =>
    simp only [Json.readNumeral, List.cons_append, List.nil_append, whole, fraction, exponent, bind,
      Except.bind]
  | none =>
    obtain ⟨first, more, rfl, digit⟩ := valid.exists_cons
    rw [List.nil_append, Json.readNumeral]
    · simp only [whole, fraction, exponent, bind, Except.bind]
    · intro left begun
      cases (List.cons.inj begun).1
      cases digit

theorem readNumeral_digits (valid : Digits digits) (ends : Ends rest) (atEnd : Refusal) :
    readNumeral atEnd (digits ++ rest) = .ok (⟨false, digits, none, none⟩, rest) := by
  have read := (NumberText.intro .none valid .none .none).readNumeral ends atEnd
  rwa [List.nil_append, List.append_nil, List.append_nil] at read

theorem readNumber_digits (valid : Digits digits) (ends : Ends rest)
    (word : digitsValue digits ≤ largestWord) :
    readNumber (digits ++ rest) = .ok (⟨false, digits, none, none⟩, rest) := by
  simp only [readNumber, readNumeral_digits valid ends, bind, Except.bind,
    isTooLarge_of_word word]
  rfl

end Parts

theorem head?_toDigits_ne_zero {number : Nat} (positive : 0 < number) :
    (Nat.toDigits 10 number).head? ≠ some '0' := by
  induction number using Nat.strongRecOn with
  | ind number inductionHypothesis =>
    by_cases single : number < 10
    · rw [Nat.toDigits_of_lt_base single]
      simp only [List.head?_cons, ne_eq, Option.some.injEq, Nat.digitChar_eq_zero]
      omega
    · rw [Nat.toDigits_of_base_le (by decide) (by omega),
        List.head?_append,
        Option.or_eq_left_of_isSome (List.isSome_head?.mpr Nat.toDigits_ne_nil)]
      exact inductionHypothesis (number / 10) (by omega) (by omega)

theorem digits_toDigits (number : Nat) : Digits (Nat.toDigits 10 number) where
  some := Nat.toDigits_ne_nil
  digit _ member := Nat.isDigit_of_mem_toDigits (by decide) (by decide) member
  unpadded rest padded := by
    rcases Nat.eq_zero_or_pos number with rfl | positive
    · rw [Nat.toDigits_zero] at padded
      exact (List.cons.inj padded).2.symm
    · have begun := head?_toDigits_ne_zero positive
      rw [padded] at begun
      exact absurd rfl begun

theorem word?_digits {digits : List Char} (word : digitsValue digits ≤ largestWord) :
    Numeral.word? ⟨false, digits, none, none⟩ = some (digitsValue digits) :=
  if_pos word

theorem isBlank_of_isDigit {char : Char} (digit : char.isDigit = true) : isBlank char = false := by
  refine Bool.eq_false_iff.mpr fun blank => ?_
  simp only [isBlank, Bool.or_eq_true, beq_iff_eq] at blank
  rcases blank with ((rfl | rfl) | rfl) | rfl <;> exact absurd digit (by decide)

/-- A number of 64 bits is read back from its digits. -/
theorem reads_natural {bound number : Nat} (bounded : bound ≤ largestWord)
    (below : number ≤ bound) : Reads (readNatural bound) (toString number).toList number := by
  intro rest ends
  have valid := digits_toDigits number
  have value := digitsValue_toDigits number
  rw [Nat.toString_eq_ofList_toDigits, String.toList_ofList]
  generalize Nat.toDigits 10 number = digits at valid value ⊢
  have word : digitsValue digits ≤ largestWord := by omega
  have read := readNumber_digits valid ends word
  cases digits with
  | nil => exact absurd rfl valid.some
  | cons first tail =>
    have digit := valid.digit first List.mem_cons_self
    rw [List.cons_append] at read ⊢
    simp only [readNatural, skipBlanks_cons (isBlank_of_isDigit digit), digit, or_true, if_true,
      read, bind, Except.bind, word?_digits word, value, if_pos below]

end Json

end Leasehold
