import Mjae.Text.Parse

/-!
# Decimal numerals

What the reader of a decimal word accepts: digits, at least one, after an optional plus
sign and between white space, as long as their value is a word.
-/

namespace Mjae.Text

open Mjae.Arith

/-- The characters are a numeral of this value. -/
def Spells (chars : List Char) (value : Nat) : Prop :=
  ∃ sign digits, chars = sign ++ digits ∧ (sign = [] ∨ sign = ['+']) ∧ digits ≠ [] ∧
    (∀ c ∈ digits, c.isDigit = true) ∧ Nat.ofDigitChars 10 digits 0 = value

/-- The text is a numeral of this value, between white space. -/
def Shows (text : String) (value : Nat) : Prop :=
  ∃ before chars after, text.toList = before ++ (chars ++ after) ∧
    (∀ c ∈ before, isWhitespace c = true) ∧ (∀ c ∈ after, isWhitespace c = true) ∧
    Spells chars value

/-! ## Digits -/

theorem le_ofDigitChars (digits : List Char) (total : Nat) :
    total ≤ Nat.ofDigitChars 10 digits total := by
  rw [Nat.ofDigitChars_eq_ofDigitChars_zero]
  apply Nat.le_add_right_of_le
  exact Nat.le_mul_of_pos_left total (Nat.pow_pos (by simp))

/-- Reading stops at the first character that is no digit or makes the value too large. -/
theorem parseDigits_eq_ok_iff {digits : List Char} {total : Nat} {value : UInt64}
    (fits : total ≤ U64.maxNat) :
    parseDigits total digits = .ok value ↔
      (∀ c ∈ digits, c.isDigit = true) ∧ Nat.ofDigitChars 10 digits total = value.toNat := by
  induction digits generalizing total with
  | nil =>
      rw [parseDigits, Nat.ofDigitChars_nil, Except.ok.injEq, ← UInt64.toNat_inj,
        UInt64.toNat_ofNat_of_lt' (Nat.lt_succ_of_le fits)]
      simp
  | cons c rest ih =>
      rw [parseDigits, Nat.ofDigitChars_cons, Nat.mul_comm 10, List.forall_mem_cons]
      by_cases digit : c.isDigit = true
      · rw [if_pos digit]
        dsimp only
        by_cases next_fits : total * 10 + (c.toNat - 48) ≤ U64.maxNat
        · rw [if_pos next_fits, ih next_fits]
          simp [digit]
        · rw [if_neg next_fits]
          constructor
          · intro parsed
            cases parsed
          · rintro ⟨-, value_eq⟩
            have grown := le_ofDigitChars rest (total * 10 + (c.toNat - 48))
            have bounded := U64.toNat_le_maxNat value
            exact absurd (grown.trans (value_eq.le.trans bounded)) next_fits
      · simp [digit]

/-! ## Numerals -/

/-- A numeral without a sign is its digits. -/
theorem spells_iff_of_not_plus {c : Char} {rest : List Char} {value : Nat} (unsigned : c ≠ '+') :
    Spells (c :: rest) value ↔
      (∀ d ∈ c :: rest, d.isDigit = true) ∧ Nat.ofDigitChars 10 (c :: rest) 0 = value := by
  constructor
  · rintro ⟨sign, digits, chars_eq, rfl | rfl, -, all_digits, value_eq⟩
    · rw [List.nil_append] at chars_eq
      rw [chars_eq]
      exact ⟨all_digits, value_eq⟩
    · rw [List.singleton_append, List.cons.injEq] at chars_eq
      exact absurd chars_eq.1 unsigned
  · rintro ⟨all_digits, value_eq⟩
    exact ⟨[], c :: rest, rfl, Or.inl rfl, List.cons_ne_nil _ _, all_digits, value_eq⟩

/-- After a sign there is at least one digit. -/
theorem spells_plus_iff {rest : List Char} {value : Nat} :
    Spells ('+' :: rest) value ↔
      rest ≠ [] ∧ (∀ c ∈ rest, c.isDigit = true) ∧ Nat.ofDigitChars 10 rest 0 = value := by
  constructor
  · rintro ⟨sign, digits, chars_eq, rfl | rfl, nonempty, all_digits, value_eq⟩
    · rw [List.nil_append] at chars_eq
      subst chars_eq
      have plus_digit := all_digits '+' List.mem_cons_self
      contradiction
    · rw [List.singleton_append, List.cons.injEq] at chars_eq
      rw [chars_eq.2]
      exact ⟨nonempty, all_digits, value_eq⟩
  · rintro ⟨nonempty, all_digits, value_eq⟩
    exact ⟨['+'], rest, rfl, Or.inr rfl, nonempty, all_digits, value_eq⟩

theorem not_spells_nil (value : Nat) : ¬ Spells [] value := by
  rintro ⟨sign, digits, chars_eq, -, nonempty, -⟩
  exact nonempty (List.append_eq_nil_iff.mp chars_eq.symm).2

/-- A numeral of a word is read as that word, and nothing else is read. -/
theorem parseU64_eq_ok_iff {text : String} {value : UInt64} :
    parseU64 text = .ok value ↔ Spells text.toList value.toNat := by
  rw [parseU64]
  generalize text.toList = chars
  cases chars with
  | nil => simp [not_spells_nil]
  | cons c rest =>
      by_cases signed : c = '+'
      · subst signed
        rw [spells_plus_iff]
        cases rest with
        | nil => simp
        | cons d others => simp [parseDigits_eq_ok_iff (Nat.zero_le _)]
      · rw [spells_iff_of_not_plus signed]
        simp [signed, parseDigits_eq_ok_iff (Nat.zero_le _)]

/-! ## White space -/

theorem isWhitespace_of_isDigit {c : Char} (digit : c.isDigit = true) :
    isWhitespace c = false := by
  have bounds : 48 ≤ c.toNat ∧ c.toNat ≤ 57 := by
    simpa [Char.isDigit, UInt32.le_iff_toNat_le] using digit
  simp only [isWhitespace, Bool.or_eq_false_iff, Bool.and_eq_false_iff, beq_eq_false_iff_ne,
    decide_eq_false_iff_not]
  omega

/-- No part of a numeral is white space. -/
theorem Spells.isWhitespace {chars : List Char} {value : Nat} (spells : Spells chars value)
    {c : Char} (listed : c ∈ chars) : isWhitespace c = false := by
  obtain ⟨sign, digits, rfl, signed, -, all_digits, -⟩ := spells
  rcases List.mem_append.mp listed with in_sign | in_digits
  · rcases signed with rfl | rfl
    · contradiction
    · rw [List.mem_singleton.mp in_sign]
      rfl
  · exact isWhitespace_of_isDigit (all_digits c in_digits)

theorem dropWhile_append_of_blank {blank rest : List Char}
    (all_blank : ∀ c ∈ blank, isWhitespace c = true)
    (kept : ∀ c ∈ rest.head?, isWhitespace c = false) :
    (blank ++ rest).dropWhile isWhitespace = rest := by
  rw [List.dropWhile_append_of_pos all_blank]
  cases rest with
  | nil => rfl
  | cons c others =>
      apply List.dropWhile_cons_of_neg
      simpa using kept c rfl

/-- Trimming leaves what stands between the white space. -/
theorem toList_trim_of_spells {text : String} {before chars after : List Char} {value : Nat}
    (text_eq : text.toList = before ++ (chars ++ after))
    (blank_before : ∀ c ∈ before, isWhitespace c = true)
    (blank_after : ∀ c ∈ after, isWhitespace c = true) (spells : Spells chars value) :
    (trim text).toList = chars := by
  have nonempty : chars ≠ [] := by
    rintro rfl
    exact not_spells_nil value spells
  have front : (before ++ (chars ++ after)).dropWhile isWhitespace = chars ++ after := by
    apply dropWhile_append_of_blank blank_before
    intro c first
    rw [List.head?_append_of_ne_nil _ nonempty] at first
    exact spells.isWhitespace (List.mem_of_mem_head? first)
  have back : (after.reverse ++ chars.reverse).dropWhile isWhitespace = chars.reverse := by
    apply dropWhile_append_of_blank
    · intro c listed
      exact blank_after c (List.mem_reverse.mp listed)
    · intro c first
      exact spells.isWhitespace (List.mem_reverse.mp (List.mem_of_mem_head? first))
  rw [trim, String.toList_ofList, text_eq, front, List.rdropWhile, List.reverse_append, back,
    List.reverse_reverse]

/-- What trimming cuts off is white space. -/
theorem toList_eq_append_trim (text : String) :
    text.toList = text.toList.takeWhile isWhitespace ++ ((trim text).toList ++
      (text.toList.dropWhile isWhitespace).rtakeWhile isWhitespace) := by
  have back (chars : List Char) :
      chars.rdropWhile isWhitespace ++ chars.rtakeWhile isWhitespace = chars := by
    rw [List.rdropWhile, List.rtakeWhile, ← List.reverse_append,
      List.takeWhile_append_dropWhile, List.reverse_reverse]
  rw [trim, String.toList_ofList, back, List.takeWhile_append_dropWhile]

theorem spells_trim_iff {text : String} {value : Nat} :
    Spells (trim text).toList value ↔ Shows text value := by
  constructor
  · intro spells
    exact ⟨_, _, _, toList_eq_append_trim text, fun _ => List.mem_takeWhile_imp,
      fun _ => List.mem_rtakeWhile_imp, spells⟩
  · rintro ⟨before, chars, after, text_eq, blank_before, blank_after, spells⟩
    rwa [toList_trim_of_spells text_eq blank_before blank_after spells]

/-- What is printed in decimal and ends the line is a numeral. -/
theorem shows_toString (value : Nat) : Shows (toString value ++ "\n") value := by
  have digits : Spells (Nat.toDigits 10 value) value :=
    ⟨[], _, rfl, Or.inl rfl, Nat.toDigits_ne_nil,
      fun _ => Nat.isDigit_of_mem_toDigits (by simp) (by simp), Nat.ofDigitChars_ten_toDigits⟩
  refine ⟨[], Nat.toDigits 10 value, ['\n'], ?_, by simp, ?_, digits⟩
  · simp [Nat.toString_eq_repr]
  · intro c listed
    rw [List.mem_singleton.mp listed]
    rfl

end Mjae.Text
