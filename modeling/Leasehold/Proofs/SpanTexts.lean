/-
This file proves that the text of a span says which span it is. The name of the unit begins where
the number ends, so it can be told from the text, and with it how many places there are after the
point. The zeros that were dropped at the end of the number are those that are missing to as many
places, and so the number says how many nanoseconds there are.
-/

import Leasehold.Proofs.Numerals
import Leasehold.Duration.Text

namespace Leasehold

/-! ### Cutting a text -/

/-- Two texts that are cut before the first character of another kind are cut alike. -/
theorem append_inj_of_head {isFront : Char → Bool} {front back other rest : List Char}
    (all : ∀ char ∈ front, isFront char = true) (stops : ∀ char ∈ back.head?, isFront char = false)
    (each : ∀ char ∈ other, isFront char = true) (halts : ∀ char ∈ rest.head?, isFront char = false)
    (same : front ++ back = other ++ rest) : front = other ∧ back = rest := by
  have fronts : front = other := by
    rw [← Json.takeWhile_append_of_head all stops, same,
      Json.takeWhile_append_of_head each halts]
  rw [fronts] at same
  exact ⟨fronts, List.append_cancel_left same⟩

/-! ### Decimal places -/

theorem length_lastDigits (places number : Nat) : (lastDigits places number).length = places := by
  induction places generalizing number with
  | zero => rfl
  | succ places inductionHypothesis =>
    rw [lastDigits, List.length_append, inductionHypothesis, List.length_singleton]

theorem digitChar_inj : ∀ digit < 10, ∀ other < 10,
    Nat.digitChar digit = Nat.digitChar other → digit = other := by
  decide

theorem isDigit_of_mem_lastDigits {places number : Nat} {char : Char}
    (member : char ∈ lastDigits places number) : char.isDigit = true := by
  induction places generalizing number with
  | zero => cases member
  | succ places inductionHypothesis =>
    rcases List.mem_append.mp member with front | last
    · exact inductionHypothesis front
    · have digit : ∀ value < 10, (Nat.digitChar value).isDigit = true := by decide
      rw [List.mem_singleton.mp last]
      exact digit _ (Nat.mod_lt number (by decide))

/-- The last decimal places of a number say what is left of it beyond them. -/
theorem lastDigits_inj {places number other : Nat}
    (same : lastDigits places number = lastDigits places other) :
    number % Nat.pow 10 places = other % Nat.pow 10 places := by
  induction places generalizing number other with
  | zero => exact (Nat.mod_one number).trans (Nat.mod_one other).symm
  | succ places inductionHypothesis =>
    obtain ⟨front, last⟩ := List.append_inj' same rfl
    have small (value : Nat) : value % 10 < 10 := Nat.mod_lt value (by decide)
    have units : number % 10 = other % 10 :=
      digitChar_inj _ (small number) _ (small other) (List.singleton_inj.mp last)
    have scaled : Nat.pow 10 (places + 1) = 10 * Nat.pow 10 places := Nat.mul_comm _ _
    rw [scaled, Nat.mod_mul, Nat.mod_mul, units, inductionHypothesis front]

/-- Only zeros are dropped. -/
theorem exists_dropTrailingZeros (digits : List Char) :
    ∃ count, dropTrailingZeros digits ++ List.replicate count '0' = digits := by
  have zero : ∀ char ∈ digits.reverse.takeWhile (· == '0'), char = '0' := fun char member =>
    eq_of_beq (List.all_eq_true.mp List.all_takeWhile char member)
  refine ⟨(digits.reverse.takeWhile (· == '0')).length, ?_⟩
  rw [← List.reverse_replicate, ← List.eq_replicate_of_mem zero, dropTrailingZeros,
    ← List.reverse_append, List.takeWhile_append_dropWhile, List.reverse_reverse]

theorem dropTrailingZeros_inj {digits others : List Char} (level : digits.length = others.length)
    (same : dropTrailingZeros digits = dropTrailingZeros others) : digits = others := by
  obtain ⟨count, whole⟩ := exists_dropTrailingZeros digits
  obtain ⟨number, entire⟩ := exists_dropTrailingZeros others
  have lengths : count = number := by
    rw [← whole, ← entire, same, List.length_append, List.length_append, List.length_replicate,
      List.length_replicate] at level
    exact Nat.add_left_cancel level
  rw [← whole, ← entire, same, lengths]

/-! ### Numbers of units -/

/-- What follows the whole units in a text. -/
def pointed (fraction : List Char) : List Char :=
  if fraction.isEmpty then [] else '.' :: fraction

theorem pointed_inj {fraction other : List Char} (same : pointed fraction = pointed other) :
    fraction = other := by
  cases fraction <;> cases other <;> simp_all [pointed]

theorem unitsText_eq (places parts : Nat) :
    unitsText places parts = Nat.toDigits 10 (parts / Nat.pow 10 places) ++
      pointed (dropTrailingZeros (lastDigits places parts)) := rfl

theorem isDigit_head_pointed (fraction : List Char) :
    ∀ char ∈ (pointed fraction).head?, char.isDigit = false := by
  cases fraction with
  | nil => exact nofun
  | cons => simp [pointed]

/-- The number of units in a text says how many parts there are. -/
theorem unitsText_inj {places parts other : Nat}
    (same : unitsText places parts = unitsText places other) : parts = other := by
  have digits (number : Nat) : ∀ char ∈ Nat.toDigits 10 number, char.isDigit = true :=
    (Json.digits_toDigits number).digit
  obtain ⟨whole, fraction⟩ := append_inj_of_head (digits _) (isDigit_head_pointed _) (digits _)
    (isDigit_head_pointed _) same
  have units : parts / Nat.pow 10 places = other / Nat.pow 10 places := by
    rw [← digitsValue_toDigits (parts / _), whole, digitsValue_toDigits]
  have rest := lastDigits_inj (dropTrailingZeros_inj
    ((length_lastDigits places parts).trans (length_lastDigits places other).symm)
    (pointed_inj fraction))
  rw [← Nat.div_add_mod parts (Nat.pow 10 places), units, rest, Nat.div_add_mod]

/-- The characters of numbers of units. -/
def isNumeric (char : Char) : Bool := char.isDigit || char == '.'

theorem isNumeric_of_isDigit {char : Char} (digit : char.isDigit = true) :
    isNumeric char = true := by
  rw [isNumeric, digit, Bool.true_or]

theorem isNumeric_of_mem_unitsText {places parts : Nat} {char : Char}
    (member : char ∈ unitsText places parts) : isNumeric char = true := by
  have decimal {digit : Char} (kept : digit ∈ dropTrailingZeros (lastDigits places parts)) :
      digit ∈ lastDigits places parts := by
    obtain ⟨count, whole⟩ := exists_dropTrailingZeros (lastDigits places parts)
    rw [← whole]
    exact List.mem_append_left _ kept
  rw [unitsText_eq, pointed, List.mem_append] at member
  rcases member with whole | after
  · exact isNumeric_of_isDigit ((Json.digits_toDigits _).digit char whole)
  · split at after
    · cases after
    · rcases List.mem_cons.mp after with rfl | digit
      · rfl
      · exact isNumeric_of_isDigit (isDigit_of_mem_lastDigits (decimal digit))

namespace Duration

/-! ### Units -/

/-- All units in which spans are written. -/
def units : List Scale := scales ++ [⟨"ns", 0⟩]

theorem scale_mem_units (duration : Duration) : duration.scale ∈ units := by
  unfold scale units
  cases found : scales.find? fun scale => Nat.pow 10 scale.places ≤ duration.nanos with
  | none => exact List.mem_append_right _ (List.mem_singleton.mpr rfl)
  | some scale => exact List.mem_append_left _ (List.mem_of_find?_eq_some found)

/-- A unit can be told by its name. -/
theorem places_eq_of_name_eq :
    ∀ one ∈ units, ∀ other ∈ units, one.name = other.name → one.places = other.places := by
  decide

theorem isNumeric_head_name :
    ∀ unit ∈ units, ∀ char ∈ unit.name.toList.head?, isNumeric char = false := by
  have heads : ∀ unit ∈ units,
      (unit.name.toList.head?.all fun char => !isNumeric char) = true := by decide
  intro unit member char head
  have plain := heads unit member
  rwa [Option.mem_def.mp head, Option.all_some, Bool.not_eq_true'] at plain

/-- No two spans have one text. -/
theorem text_inj {first second : Duration} (same : first.text = second.text) : first = second := by
  have chars := congrArg String.toList same
  simp only [text, String.toList_append, String.toList_ofList] at chars
  have one := first.scale_mem_units
  have other := second.scale_mem_units
  obtain ⟨numbers, names⟩ := append_inj_of_head (fun _ => isNumeric_of_mem_unitsText)
    (isNumeric_head_name _ one) (fun _ => isNumeric_of_mem_unitsText)
    (isNumeric_head_name _ other) chars
  rw [places_eq_of_name_eq _ one _ other (String.toList_inj.mp names)] at numbers
  exact ext (unitsText_inj numbers)

end Duration

end Leasehold
