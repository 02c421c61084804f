import Mjae.Core.Registry

/-!
# Lists of payments

Amounts added to the registry one after another, and the payments of an equal
split: everyone in the list gets the share, and the first ones get a unit of the
remainder each.
-/

namespace Mjae.Core

open Mjae.Arith

/-- Exact sum of what a list of payments pays to `pid`. -/
def paidTo (pid : UInt32) (payments : List (UInt32 × UInt64)) : Nat :=
  (payments.map fun payment => if payment.1 = pid then payment.2.toNat else 0).sum

/-- Exact sum of a list of payments. -/
def paidTotal (payments : List (UInt32 × UInt64)) : Nat :=
  (payments.map fun payment => payment.2.toNat).sum

theorem paidTo_cons (pid : UInt32) (payment : UInt32 × UInt64)
    (rest : List (UInt32 × UInt64)) :
    paidTo pid (payment :: rest) =
      (if payment.1 = pid then payment.2.toNat else 0) + paidTo pid rest := by
  rw [paidTo, List.map_cons, List.sum_cons, ← paidTo]

theorem paidTotal_cons (payment : UInt32 × UInt64) (rest : List (UInt32 × UInt64)) :
    paidTotal (payment :: rest) = payment.2.toNat + paidTotal rest := by
  rw [paidTotal, List.map_cons, List.sum_cons, ← paidTotal]

theorem paidTo_append (pid : UInt32) (first second : List (UInt32 × UInt64)) :
    paidTo pid (first ++ second) = paidTo pid first + paidTo pid second := by
  simp [paidTo]

theorem paidTo_flatten (pid : UInt32) (logs : List (List (UInt32 × UInt64))) :
    paidTo pid logs.flatten = (logs.map (paidTo pid)).sum := by
  induction logs with
  | nil => rfl
  | cons log rest ih => rw [List.flatten_cons, paidTo_append, ih, List.map_cons, List.sum_cons]

theorem paidTotal_append (first second : List (UInt32 × UInt64)) :
    paidTotal (first ++ second) = paidTotal first + paidTotal second := by
  simp [paidTotal]

theorem paidTotal_flatten (logs : List (List (UInt32 × UInt64))) :
    paidTotal logs.flatten = (logs.map paidTotal).sum := by
  induction logs with
  | nil => rfl
  | cons log rest ih =>
      rw [List.flatten_cons, paidTotal_append, ih, List.map_cons, List.sum_cons]

/-- Nobody outside the list is paid. -/
theorem paidTo_eq_zero {pid : UInt32} {payments : List (UInt32 × UInt64)}
    (unlisted : pid ∉ payments.map Prod.fst) : paidTo pid payments = 0 := by
  induction payments with
  | nil => rfl
  | cons payment rest ih =>
      rw [List.map_cons, List.mem_cons, not_or] at unlisted
      rw [paidTo_cons, if_neg (Ne.symm unlisted.1), ih unlisted.2]

namespace AmalgafyRegistry

/-- Add every payment to its slot. -/
def addAll (registry : AmalgafyRegistry) (payments : List (UInt32 × UInt64)) :
    AmalgafyRegistry :=
  payments.foldl (fun paid payment => (paid.addMicroJoules payment.1 payment.2).2) registry

theorem addAll_append (registry : AmalgafyRegistry) (first second : List (UInt32 × UInt64)) :
    registry.addAll (first ++ second) = (registry.addAll first).addAll second :=
  List.foldl_append

/-- The slot of a process after a list of payments, none if there still is none. -/
theorem get_addAll (registry : AmalgafyRegistry) (payments : List (UInt32 × UInt64))
    (pid : UInt32) :
    (registry.addAll payments).get pid =
      if pid ∈ payments.map Prod.fst then
        some (U64.clamp ((registry.slot pid).toNat + paidTo pid payments))
      else registry.get pid := by
  induction payments generalizing registry with
  | nil => rfl
  | cons payment rest ih =>
      rw [addAll, List.foldl_cons, ← addAll, ih, slot, get_addMicroJoules, paidTo_cons,
        List.map_cons]
      by_cases own : payment.1 = pid
      · subst own
        rw [if_pos rfl, if_pos rfl, if_pos List.mem_cons_self, Option.getD_some]
        split
        · congr 1
          apply UInt64.toNat.inj
          rw [U64.toNat_clamp, U64.toNat_clamp, U64.toNat_saturatingAdd, min_min_add,
            Nat.add_assoc]
        · rename_i last
          rw [paidTo_eq_zero last, Nat.add_zero]
          rfl
      · rw [if_neg own, if_neg own, Nat.zero_add, ← slot]
        simp only [List.mem_cons, Ne.symm own, false_or]

theorem isSome_get_addAll (registry : AmalgafyRegistry) (payments : List (UInt32 × UInt64))
    (pid : UInt32) :
    ((registry.addAll payments).get pid).isSome ↔
      (registry.get pid).isSome ∨ pid ∈ payments.map Prod.fst := by
  rw [get_addAll]
  split
  · rename_i paid
    exact iff_of_true rfl (Or.inr paid)
  · rename_i unpaid
    exact (or_iff_left unpaid).symm

/-- A slot is worth what it was worth and what is paid into it. -/
theorem toNat_slot_addAll (registry : AmalgafyRegistry) (payments : List (UInt32 × UInt64))
    (pid : UInt32) :
    ((registry.addAll payments).slot pid).toNat =
      min ((registry.slot pid).toNat + paidTo pid payments) U64.maxNat := by
  rw [slot, get_addAll]
  split
  · rw [Option.getD_some, U64.toNat_clamp]
  · rename_i unpaid
    rw [paidTo_eq_zero unpaid, Nat.add_zero, ← slot, min_eq_left (U64.toNat_le_maxNat _)]

/-- Every payment ends up in the total. -/
theorem toNat_totalMicroJoules_addAll (registry : AmalgafyRegistry)
    (payments : List (UInt32 × UInt64)) :
    (registry.addAll payments).totalMicroJoules.toNat =
      min (registry.totalMicroJoules.toNat + paidTotal payments) U64.maxNat := by
  induction payments generalizing registry with
  | nil => exact (min_eq_left (U64.toNat_le_maxNat _)).symm
  | cons payment rest ih =>
      rw [addAll, List.foldl_cons, ← addAll, ih, totalMicroJoules_addMicroJoules,
        U64.toNat_saturatingAdd, min_min_add, paidTotal_cons, Nat.add_assoc]

end AmalgafyRegistry

/-! ## The payments of an equal split -/

/-- The share for every listed process, and one unit more for as many of the
first ones as there are units in `remainder`. -/
def sharePayments (share : UInt64) : UInt64 → List UInt32 → List (UInt32 × UInt64)
  | _, [] => []
  | remainder, pid :: rest =>
      let extra : UInt64 := if 0 < remainder then 1 else 0
      (pid, share + extra) :: sharePayments share (remainder - extra) rest

/-- A share has room for the unit that it is increased by, if there is one. -/
def SharesFit (share remainder : UInt64) : Prop :=
  0 < remainder.toNat → share.toNat < U64.maxNat

/-- A remainder means that there are at least two shares. -/
theorem sharesFit_div_mod (deltaUj count : UInt64) :
    SharesFit (deltaUj / count) (deltaUj % count) := by
  intro positive
  have delta_le := U64.toNat_le_maxNat deltaUj
  rw [UInt64.toNat_mod] at positive
  rw [UInt64.toNat_div]
  have division := Nat.div_add_mod deltaUj.toNat count.toNat
  rcases Nat.eq_zero_or_pos count.toNat with none_listed | some_listed
  · rw [none_listed, Nat.div_zero]
    decide
  · have share_le := Nat.le_mul_of_pos_left (deltaUj.toNat / count.toNat) some_listed
    omega

theorem toNat_extra (remainder : UInt64) :
    (if 0 < remainder then 1 else 0 : UInt64).toNat = min remainder.toNat 1 := by
  split
  · rename_i positive
    exact (min_eq_right ((U64.pos_iff_toNat_pos _).mp positive)).symm
  · rename_i spent
    rw [U64.pos_iff_toNat_pos, Nat.not_lt, Nat.le_zero] at spent
    rw [spent]
    rfl

theorem toNat_remainder_sub_extra (remainder : UInt64) :
    (remainder - if 0 < remainder then 1 else 0).toNat = remainder.toNat - 1 := by
  rw [U64.toNat_sub_of_le]
  · rw [toNat_extra]
    omega
  · rw [toNat_extra]
    exact min_le_left _ _

/-- Paying out one unit leaves room for the others. -/
theorem SharesFit.next {share remainder : UInt64} (fits : SharesFit share remainder) :
    SharesFit share (remainder - if 0 < remainder then 1 else 0) := by
  intro positive
  rw [toNat_remainder_sub_extra] at positive
  exact fits (positive.trans_le (Nat.sub_le _ _))

theorem SharesFit.share_add_extra_le {share remainder : UInt64} (fits : SharesFit share remainder) :
    share.toNat + (if 0 < remainder then 1 else 0 : UInt64).toNat ≤ U64.maxNat := by
  have share_le := U64.toNat_le_maxNat share
  rw [toNat_extra]
  rcases Nat.eq_zero_or_pos remainder.toNat with spent | positive
  · rw [spent]
    exact share_le
  · have below := fits positive
    omega

theorem SharesFit.toNat_amount {share remainder : UInt64} (fits : SharesFit share remainder) :
    (share + if 0 < remainder then 1 else 0).toNat = share.toNat + min remainder.toNat 1 := by
  rw [U64.toNat_add_of_le fits.share_add_extra_le, toNat_extra]

@[simp]
theorem map_fst_sharePayments (share remainder : UInt64) (pids : List UInt32) :
    (sharePayments share remainder pids).map Prod.fst = pids := by
  induction pids generalizing remainder with
  | nil => rfl
  | cons pid rest ih => rw [sharePayments, List.map_cons, ih]

/-- A remainder that is no longer than the list is handed out in full. -/
theorem paidTotal_sharePayments {share remainder : UInt64} {pids : List UInt32}
    (fits : SharesFit share remainder) (enough : remainder.toNat ≤ pids.length) :
    paidTotal (sharePayments share remainder pids) =
      share.toNat * pids.length + remainder.toNat := by
  induction pids generalizing remainder with
  | nil =>
      rw [Nat.le_zero.mp enough]
      rfl
  | cons pid rest ih =>
      rw [List.length_cons] at enough
      have tail := ih fits.next (by rw [toNat_remainder_sub_extra]; omega)
      rw [toNat_remainder_sub_extra] at tail
      rw [sharePayments, paidTotal_cons, tail, fits.toNat_amount, List.length_cons, Nat.mul_succ]
      omega

/-- The payments of a division are worth what is divided. -/
theorem paidTotal_div_mod (deltaUj : UInt64) {count : UInt64} {pids : List UInt32}
    (counted : count.toNat = pids.length) (listed : pids ≠ []) :
    paidTotal (sharePayments (deltaUj / count) (deltaUj % count) pids) = deltaUj.toNat := by
  rw [paidTotal_sharePayments (sharesFit_div_mod deltaUj count), UInt64.toNat_div,
    UInt64.toNat_mod, counted, Nat.mul_comm, Nat.div_add_mod]
  rw [UInt64.toNat_mod, counted]
  exact (Nat.mod_lt _ (List.length_pos_iff.mpr listed)).le

/-- A process gets the share once for every time it is listed, and a unit for
every time it is among the first. -/
theorem paidTo_sharePayments {share remainder : UInt64} (fits : SharesFit share remainder)
    (pids : List UInt32) (pid : UInt32) :
    paidTo pid (sharePayments share remainder pids) =
      share.toNat * pids.count pid + (pids.take remainder.toNat).count pid := by
  induction pids generalizing remainder with
  | nil => simp [sharePayments, paidTo]
  | cons first rest ih =>
      have tail := ih fits.next
      rw [toNat_remainder_sub_extra] at tail
      rw [sharePayments, paidTo_cons, tail, fits.toNat_amount, List.count_cons]
      cases remainder.toNat with
      | zero =>
          by_cases own : first = pid
          · simp [own, Nat.mul_add, Nat.add_comm]
          · simp [own]
      | succ units =>
          rw [List.take_succ_cons, List.count_cons, Nat.add_sub_cancel]
          by_cases own : first = pid
          · simp [own, Nat.mul_add]
            omega
          · simp [own]

end Mjae.Core
