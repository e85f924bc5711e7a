import GatewaySdk.Protocol
import Mathlib.Data.Nat.Digits

/-!
# Decimal digits

The decimal text of a natural number, as `Nat.toDigits` writes it and as the digit loops of the
C++ library read it back: a list of digits below ten, most significant first, and the number it
spells by Horner's rule.  Both the timestamp fields of `put_time` and the port of a URL are
read this way, after the white space of `isspace` is skipped.
-/

namespace GatewaySdk

/-- The number a list of decimal digits spells, most significant first. -/
def decimalValue (digits : List Nat) : Nat :=
  digits.foldl (fun value digit => value * 10 + digit) 0

theorem foldl_decimalValue (digits : List Nat) (acc : Nat) :
    digits.foldl (fun value digit => value * 10 + digit) acc =
      acc * 10 ^ digits.length + decimalValue digits := by
  induction digits generalizing acc with
  | nil => simp [decimalValue]
  | cons digit digits ih =>
    have head : decimalValue (digit :: digits) =
        digits.foldl (fun value digit => value * 10 + digit) digit := by
      simp [decimalValue]
    rw [List.foldl_cons, ih, head, ih, List.length_cons, Nat.pow_succ]
    ring

theorem decimalValue_append (front back : List Nat) :
    decimalValue (front ++ back) = decimalValue front * 10 ^ back.length + decimalValue back := by
  rw [decimalValue, List.foldl_append, foldl_decimalValue]
  rfl

theorem decimalValue_lt {digits : List Nat} (small : ∀ d ∈ digits, d < 10) :
    decimalValue digits < 10 ^ digits.length := by
  induction digits using List.reverseRecOn with
  | nil => simp [decimalValue]
  | append_singleton digits digit ih =>
    have last := small digit (by simp)
    have front := ih fun d member => small d (by simp [member])
    rw [decimalValue_append, List.length_append, List.length_singleton, Nat.pow_succ]
    simp only [decimalValue, List.foldl_cons, List.foldl_nil, Nat.zero_mul, Nat.zero_add,
      Nat.pow_one]
    calc decimalValue digits * 10 + digit
        < (decimalValue digits + 1) * 10 := by omega
      _ ≤ 10 ^ digits.length * 10 := Nat.mul_le_mul_right _ front

/-- A decimal digit is written as a character between `'0'` and `'9'` that reads back as
itself. -/
theorem digitChar_digit : ∀ d < 10,
    ('0' ≤ Nat.digitChar d ∧ Nat.digitChar d ≤ '9') ∧ (Nat.digitChar d).toNat = '0'.toNat + d := by
  decide

/-- A decimal digit is a digit of `isdigit`, and neither white space nor a sign. -/
theorem digitChar_isDigit : ∀ d < 10, (Nat.digitChar d).isDigit = true ∧
    Protocol.isSpace (Nat.digitChar d) = false ∧ Nat.digitChar d ≠ '-' ∧ Nat.digitChar d ≠ '+' := by
  decide

/-- `Nat.toDigits` writes the decimal digits of a number, given the fuel to write them all. -/
theorem toDigitsCore_decimal (fuel value : Nat) (acc : List Char) (enough : value < fuel) :
    ∃ digits, Nat.toDigitsCore 10 fuel value acc = digits.map Nat.digitChar ++ acc ∧
      digits ≠ [] ∧ (∀ d ∈ digits, d < 10) ∧ decimalValue digits = value := by
  induction fuel generalizing value acc with
  | zero => omega
  | succ fuel ih =>
    simp only [Nat.toDigitsCore]
    split
    · exact ⟨[value % 10], rfl, by simp, by simp [Nat.mod_lt], by simp [decimalValue]; omega⟩
    · obtain ⟨digits, written, -, small, spelled⟩ :=
        ih (value / 10) (Nat.digitChar (value % 10) :: acc) (by omega)
      refine ⟨digits ++ [value % 10], by simp [written], by simp, ?_, ?_⟩
      · simpa [or_imp, forall_and, Nat.mod_lt] using small
      · rw [decimalValue_append, spelled]
        simp [decimalValue]
        omega

/-- `toString` of a natural number is its decimal digits. -/
theorem toString_decimal (value : Nat) : ∃ digits, (toString value).data = digits.map Nat.digitChar ∧
    digits ≠ [] ∧ (∀ d ∈ digits, d < 10) ∧ decimalValue digits = value := by
  obtain ⟨digits, written, rest⟩ := toDigitsCore_decimal (value + 1) value [] (by omega)
  exact ⟨digits, by rw [← List.append_nil (digits.map _), ← written]; rfl, rest⟩

end GatewaySdk
