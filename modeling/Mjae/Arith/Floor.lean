import Mathlib.Algebra.BigOperators.Group.List.Basic
import Mathlib.Algebra.Order.Group.Nat
import Mathlib.Algebra.Ring.Nat
import Mathlib.Data.Nat.ModEq

/-!
# Sums of floors

Rounding every summand down never gives more than rounding the sum down.  For a
product whose second factor is divided into equal parts, what is lost is the
rest of the division and the rest of every part.
-/

namespace Mjae.Arith

/-- A sum of floors is at most the floor of the sum. -/
theorem sum_map_div_le (divisor : Nat) (values : List Nat) :
    (values.map (· / divisor)).sum ≤ values.sum / divisor := by
  induction values with
  | nil => exact Nat.zero_le _
  | cons value rest ih =>
      rw [List.map_cons, List.sum_cons, List.sum_cons]
      exact (Nat.add_le_add_left ih _).trans Nat.div_add_div_le_add_div

/-- Rounding every summand down loses less than one for every summand but one. -/
theorem sum_div_le_add_length (divisor : Nat) (values : List Nat) (nonempty : values ≠ []) :
    values.sum / divisor ≤ (values.map (· / divisor)).sum + (values.length - 1) := by
  induction values with
  | nil => contradiction
  | cons value rest ih =>
      rw [List.map_cons, List.sum_cons, List.sum_cons, List.length_cons]
      cases rest with
      | nil => simp
      | cons second others =>
          have tail := ih (List.cons_ne_nil _ _)
          have carry : (value + (second :: others).sum) / divisor ≤
              value / divisor + (second :: others).sum / divisor + 1 :=
            Nat.add_div_le_div_add_div_add_one _ _ _
          rw [List.length_cons] at tail ⊢
          omega

/-- Floors of equal parts, and the floor of what they leave over, make up the floor
of the whole. -/
theorem parts_mul_div_add_rest_div {unit : Nat} (positive : 0 < unit) (rate whole parts : Nat) :
    parts * (rate * (whole / parts) / unit) +
        (parts * (rate * (whole / parts) % unit) + rate * (whole % parts)) / unit =
      rate * whole / unit := by
  have part := Nat.div_add_mod (rate * (whole / parts)) unit
  have split : rate * whole =
      unit * (parts * (rate * (whole / parts) / unit)) +
        (parts * (rate * (whole / parts) % unit) + rate * (whole % parts)) := by
    calc
      rate * whole = rate * (parts * (whole / parts) + whole % parts) := by
        rw [Nat.div_add_mod]
      _ = parts * (rate * (whole / parts)) + rate * (whole % parts) := by
        rw [Nat.mul_add, Nat.mul_left_comm]
      _ = parts * (unit * (rate * (whole / parts) / unit) + rate * (whole / parts) % unit) +
          rate * (whole % parts) := by rw [part]
      _ = _ := by rw [Nat.mul_add, Nat.mul_left_comm, Nat.add_assoc]
  rw [split, Nat.mul_add_div positive]

/-- Less than one unit is lost for each part exactly when what all parts leave over
is worth less than a unit for each. -/
theorem div_lt_parts_add_iff {unit : Nat} (positive : 0 < unit) (rate whole parts : Nat) :
    rate * whole / unit < parts * (rate * (whole / parts) / unit) + parts ↔
      parts * (rate * (whole / parts) % unit) + rate * (whole % parts) < parts * unit := by
  rw [← parts_mul_div_add_rest_div positive, Nat.add_lt_add_iff_left,
    Nat.div_lt_iff_lt_mul positive]

/-! ## A part of the time -/

/-- What a rate makes of a rounded part of the time is at most that part of what it makes
of the whole time. -/
theorem rate_mul_part_div_le {unit : Nat} (positive : 0 < unit) (rate time : Nat) {parts : Nat}
    (some_part : 0 < parts) :
    rate * (time * unit / parts) / unit ≤ rate * time / parts := by
  rw [Nat.le_div_iff_mul_le some_part]
  apply Nat.le_of_mul_le_mul_right _ positive
  calc
    rate * (time * unit / parts) / unit * parts * unit =
        rate * (time * unit / parts) / unit * unit * parts := Nat.mul_right_comm _ _ _
    _ ≤ rate * (time * unit / parts) * parts :=
      Nat.mul_le_mul_right _ (Nat.div_mul_le_self _ _)
    _ = rate * (time * unit / parts * parts) := Nat.mul_assoc _ _ _
    _ ≤ rate * (time * unit) := Nat.mul_le_mul_left _ (Nat.div_mul_le_self _ _)
    _ = rate * time * unit := (Nat.mul_assoc _ _ _).symm

/-- A part of a whole, rounded up, exceeds it by less than one. -/
theorem mul_lt_add_of_le_part {whole parts amount : Nat} (some_part : 0 < parts)
    (most : amount ≤ whole / parts + min (whole % parts) 1) : amount * parts < whole + parts := by
  have division := Nat.div_add_mod' whole parts
  have rest_lt := Nat.mod_lt whole some_part
  have scaled := Nat.mul_le_mul_right parts most
  rw [Nat.add_mul] at scaled
  rcases Nat.eq_zero_or_pos (whole % parts) with even | odd
  · rw [even, Nat.zero_min, Nat.zero_mul] at scaled
    omega
  · rw [min_eq_right odd] at scaled
    omega

/-- It falls short by what the rate makes of one unit of time, and by one for each of
the two roundings. -/
theorem le_rate_mul_part_div_add {unit : Nat} (positive : 0 < unit) {rate time parts amount : Nat}
    (some_part : 0 < parts)
    (most : amount ≤ rate * time / parts + min (rate * time % parts) 1) :
    amount ≤ rate * (time * unit / parts) / unit + rate / unit + 2 := by
  have part_of := mul_lt_add_of_le_part some_part most
  cases amount with
  | zero => exact Nat.zero_le _
  | succ whole =>
      have scaled : whole * unit < rate * (time * unit / parts) + rate := by
        apply Nat.lt_of_mul_lt_mul_right (a := parts)
        calc
          whole * unit * parts = whole * parts * unit := Nat.mul_right_comm _ _ _
          _ < rate * time * unit := by
            rw [Nat.succ_mul, Nat.add_lt_add_iff_right] at part_of
            exact Nat.mul_lt_mul_of_pos_right part_of positive
          _ = rate * (time * unit) := Nat.mul_assoc _ _ _
          _ ≤ rate * (parts * (time * unit / parts + 1)) :=
            Nat.mul_le_mul_left _ (Nat.lt_mul_div_succ _ some_part).le
          _ = (rate * (time * unit / parts) + rate) * parts := by
            rw [Nat.mul_left_comm, Nat.mul_comm parts, Nat.mul_succ]
      have floors := Nat.add_div_le_div_add_div_add_one
        (rate * (time * unit / parts)) rate unit
      have whole_le := (Nat.le_div_iff_mul_le positive).mpr scaled.le
      omega

end Mjae.Arith
