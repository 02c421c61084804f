import Mathlib.Data.List.Basic

/-!
# Byte strings up to ASCII case

Comparison, prefix and infix tests that ignore the case of ASCII letters, and nothing
else.  Each one is the plain test on lowered bytes.
-/

namespace Mjae.Text

universe u

/-- All contiguous runs of `size` items, from the left. -/
def windows {α : Type u} (size : Nat) (items : List α) : List (List α) :=
  (List.range (items.length + 1 - size)).map fun start => (items.drop start).take size

theorem mem_windows_iff {α : Type u} {size : Nat} {items window : List α} :
    window ∈ windows size items ↔ window <:+: items ∧ window.length = size := by
  simp only [windows, List.mem_map, List.mem_range]
  constructor
  · rintro ⟨start, inside, rfl⟩
    constructor
    · exact (List.take_prefix _ _).isInfix.trans (List.drop_suffix _ _).isInfix
    · rw [List.length_take, List.length_drop]
      omega
  · rintro ⟨⟨before, after, rfl⟩, rfl⟩
    refine ⟨before.length, ?_, ?_⟩
    · simp only [List.length_append]
      omega
    · simp

/-! ## ASCII case -/

def toAsciiLowercase (byte : UInt8) : UInt8 :=
  if 65 ≤ byte ∧ byte ≤ 90 then byte + 32 else byte

/-- The bytes with ASCII letters lowered. -/
def lowered (bytes : List UInt8) : List UInt8 :=
  bytes.map toAsciiLowercase

def eqIgnoreAsciiCase (first second : List UInt8) : Bool :=
  first.length == second.length &&
    (first.zip second).all fun pair => toAsciiLowercase pair.1 == toAsciiLowercase pair.2

def startsWithIgnoreAsciiCase (haystack needle : List UInt8) : Bool :=
  needle.length ≤ haystack.length && eqIgnoreAsciiCase (haystack.take needle.length) needle

def containsIgnoreAsciiCase (haystack needle : List UInt8) : Bool :=
  if needle.isEmpty then true
  else if haystack.length < needle.length then false
  else (windows needle.length haystack).any fun window => eqIgnoreAsciiCase window needle

@[simp]
theorem length_lowered (bytes : List UInt8) : (lowered bytes).length = bytes.length :=
  List.length_map ..

theorem eqIgnoreAsciiCase_iff {first second : List UInt8} :
    eqIgnoreAsciiCase first second ↔ lowered first = lowered second := by
  induction first generalizing second with
  | nil => cases second <;> simp [eqIgnoreAsciiCase, lowered]
  | cons byte rest ih =>
      cases second with
      | nil => simp [eqIgnoreAsciiCase, lowered]
      | cons other others =>
          have tail : eqIgnoreAsciiCase rest others ↔ lowered rest = lowered others := ih
          simp only [eqIgnoreAsciiCase, lowered] at tail ⊢
          simp [← tail, and_left_comm]

theorem startsWithIgnoreAsciiCase_iff {haystack needle : List UInt8} :
    startsWithIgnoreAsciiCase haystack needle ↔ lowered needle <+: lowered haystack := by
  rw [startsWithIgnoreAsciiCase, Bool.and_eq_true, eqIgnoreAsciiCase_iff, lowered, List.map_take,
    ← lowered, decide_eq_true_iff, List.prefix_iff_eq_take, length_lowered, eq_comm]
  constructor
  · rintro ⟨-, same⟩
    exact same
  · intro same
    refine ⟨?_, same⟩
    have short := congrArg List.length same
    simp only [length_lowered, List.length_take] at short
    omega

theorem containsIgnoreAsciiCase_iff {haystack needle : List UInt8} :
    containsIgnoreAsciiCase haystack needle ↔ lowered needle <:+: lowered haystack := by
  rw [containsIgnoreAsciiCase]
  split
  · rename_i blank
    rw [List.isEmpty_iff] at blank
    subst blank
    simp [lowered]
  · split
    · rename_i short
      constructor
      · simp
      · intro inside
        have fits := inside.length_le
        rw [length_lowered, length_lowered] at fits
        omega
    · simp only [List.any_eq_true, mem_windows_iff, eqIgnoreAsciiCase_iff]
      constructor
      · rintro ⟨window, ⟨inside, -⟩, same⟩
        rw [← same]
        exact inside.map toAsciiLowercase
      · rintro ⟨before, after, same⟩
        rcases List.append_eq_map_iff.mp same with ⟨front, rear, rfl, front_eq, -⟩
        rcases List.append_eq_map_iff.mp front_eq.symm with ⟨lead, window, rfl, -, window_eq⟩
        refine ⟨window, ⟨⟨lead, rear, rfl⟩, ?_⟩, window_eq⟩
        have length_eq := congrArg List.length window_eq
        rwa [List.length_map, length_lowered] at length_eq

end Mjae.Text
