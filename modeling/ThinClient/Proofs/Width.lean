import ThinClient.Bytes.LittleEndian

/-!
# Arithmetic in words

Where a program computes in signed words, a result that a word cannot hold is a defect, although the
number itself is fine. `FitsIn octets n` says that a word can hold a number, and `fit? octets n` is
what arithmetic that is watched gives: the exact result, or nothing. A computation that is written
with it at every step gives a result if and only if no step overflows.
-/

namespace ThinClient

variable {octets : Nat} {n : Int}

/-- A signed word of so many octets can hold the number. -/
def FitsIn (octets : Nat) (n : Int) : Prop :=
  -(LittleEndian.capacity octets : Int) ≤ 2 * n ∧ 2 * n < LittleEndian.capacity octets

instance (octets : Nat) (n : Int) : Decidable (FitsIn octets n) :=
  inferInstanceAs (Decidable (_ ∧ _))

/-- The exact result of a computation in signed words of so many octets, if it does not overflow. -/
def fit? (octets : Nat) (n : Int) : Option Int :=
  if FitsIn octets n then some n else none

theorem fit?_of_fitsIn (h : FitsIn octets n) : fit? octets n = some n :=
  if_pos h

theorem fit?_bind_of_fitsIn {α : Type} (h : FitsIn octets n) (next : Int → Option α) :
    (fit? octets n >>= next) = next n := by
  rw [fit?_of_fitsIn h]
  rfl

theorem fit?_of_not_fitsIn (h : ¬ FitsIn octets n) : fit? octets n = none :=
  if_neg h

theorem fitsIn_four_iff : FitsIn 4 n ↔ -2147483648 ≤ n ∧ n ≤ 2147483647 := by
  have hcapacity : LittleEndian.capacity 4 = 4294967296 := rfl
  rw [FitsIn, hcapacity]
  omega

theorem fitsIn_eight_iff : FitsIn 8 n ↔ -9223372036854775808 ≤ n ∧ n ≤ 9223372036854775807 := by
  have hcapacity : LittleEndian.capacity 8 = 18446744073709551616 := rfl
  rw [FitsIn, hcapacity]
  omega

theorem fitsIn_sixteen_iff :
    FitsIn 16 n ↔ -170141183460469231731687303715884105728 ≤ n ∧
      n ≤ 170141183460469231731687303715884105727 := by
  have hcapacity : LittleEndian.capacity 16 = 340282366920938463463374607431768211456 := rfl
  rw [FitsIn, hcapacity]
  omega

theorem fitsIn_toInt (x : Int64) : FitsIn 8 x.toInt := by
  have hle := x.le_toInt
  have hlt := x.toInt_lt
  rw [fitsIn_eight_iff]
  omega

theorem toInt_ofInt_of_fitsIn (h : FitsIn 8 n) : (Int64.ofInt n).toInt = n := by
  rw [fitsIn_eight_iff] at h
  exact Int64.toInt_ofInt_of_le (by omega) (by omega)

end ThinClient
