import Mathlib.Data.List.Basic

/-!
# JSON values and their text

Values whose numbers are integers, and the compact text of a value.  The text of
a value ends where it ends: no character that may follow a value can be read as
a part of it, so a value and what follows it are both determined by their text.
-/

namespace Mjae.Json

/-- A JSON value; the members of an object keep their order of insertion. -/
inductive Value
  | null
  | bool (flag : Bool)
  | number (integer : Int)
  | string (text : String)
  | array (items : List Value)
  | object (members : List (String × Value))

def quote : Char := '\x22'

def backslash : Char := '\x5c'

/-! ## Printing -/

/-- The escape of a character inside a string. -/
def escapeChar (c : Char) : List Char :=
  if c = quote then [backslash, quote]
  else if c = backslash then [backslash, backslash]
  else if c = '\x08' then [backslash, 'b']
  else if c = '\x09' then [backslash, 't']
  else if c = '\x0a' then [backslash, 'n']
  else if c = '\x0c' then [backslash, 'f']
  else if c = '\x0d' then [backslash, 'r']
  else if c.toNat < 32 then
    [backslash, 'u', '0', '0', Nat.digitChar (c.toNat / 16), Nat.digitChar (c.toNat % 16)]
  else [c]

def printString (text : String) : List Char :=
  quote :: (text.toList.flatMap escapeChar ++ [quote])

def printNumber : Int → List Char
  | .ofNat n => Nat.toDigits 10 n
  | .negSucc n => '-' :: Nat.toDigits 10 (n + 1)

/-- The comma before every element but the first. -/
def separator (first : Bool) : List Char :=
  if first then [] else [',']

mutual

/-- The text of a value, without insignificant white space. -/
def print : Value → List Char
  | .null => ['n', 'u', 'l', 'l']
  | .bool true => ['t', 'r', 'u', 'e']
  | .bool false => ['f', 'a', 'l', 's', 'e']
  | .number integer => printNumber integer
  | .string text => printString text
  | .array items => '[' :: printItems true items
  | .object members => '\x7b' :: printMembers true members

def printItems (first : Bool) : List Value → List Char
  | [] => [']']
  | item :: rest => separator first ++ (print item ++ printItems false rest)

def printMembers (first : Bool) : List (String × Value) → List Char
  | [] => ['\x7d']
  | (key, value) :: rest =>
      separator first ++ (printString key ++ ':' :: (print value ++ printMembers false rest))

end

/-- The text of a value as UTF-8 bytes. -/
def toVec (value : Value) : Array UInt8 :=
  (String.ofList (print value)).toUTF8.data

/-! ## Strings -/

/-- Value of a hexadecimal digit. -/
def hexValue (c : Char) : Nat :=
  if c.isDigit then c.toNat - 48 else c.toNat - 87

/-- The character that the text behind a backslash stands for. -/
def unescapeCode : List Char → Option (Char × List Char)
  | [] => none
  | code :: rest =>
      if code = 'u' then
        match rest with
        | _ :: _ :: high :: low :: later =>
            some (Char.ofNat (hexValue high * 16 + hexValue low), later)
        | _ => none
      else if code = 'b' then some ('\x08', rest)
      else if code = 't' then some ('\x09', rest)
      else if code = 'n' then some ('\x0a', rest)
      else if code = 'f' then some ('\x0c', rest)
      else if code = 'r' then some ('\x0d', rest)
      else some (code, rest)

/-- The first character of a string's inner text, unescaped. -/
def unescapeChar : List Char → Option (Char × List Char)
  | [] => none
  | c :: rest => if c = backslash then unescapeCode rest else some (c, rest)

theorem hexValue_digitChar : ∀ digit < 16, hexValue (Nat.digitChar digit) = digit := by
  decide

/-- Unescaping undoes the escape of a character. -/
theorem unescapeChar_escapeChar (c : Char) (rest : List Char) :
    unescapeChar (escapeChar c ++ rest) = some (c, rest) := by
  rw [escapeChar]
  split
  · simp_all [unescapeChar, unescapeCode, backslash, quote]
  split
  · simp_all [unescapeChar, unescapeCode, backslash, quote]
  split
  · simp_all [unescapeChar, unescapeCode]
  split
  · simp_all [unescapeChar, unescapeCode]
  split
  · simp_all [unescapeChar, unescapeCode]
  split
  · simp_all [unescapeChar, unescapeCode]
  split
  · simp_all [unescapeChar, unescapeCode]
  split
  · rename_i control
    have high := hexValue_digitChar (c.toNat / 16) (Nat.div_lt_of_lt_mul (by omega))
    have low := hexValue_digitChar (c.toNat % 16) (Nat.mod_lt _ (by decide))
    have code : c.toNat / 16 * 16 + c.toNat % 16 = c.toNat := Nat.div_add_mod' _ _
    simp [unescapeChar, unescapeCode, high, low, code]
  · rename_i ordinary _ _ _ _ _ _
    simp_all [unescapeChar]

theorem escapeChar_append_inj {c d : Char} {first second : List Char}
    (same : escapeChar c ++ first = escapeChar d ++ second) : c = d ∧ first = second := by
  have decoded := congrArg unescapeChar same
  rw [unescapeChar_escapeChar, unescapeChar_escapeChar] at decoded
  exact Prod.mk.inj (Option.some.inj decoded)

/-- No escape begins with a quote. -/
theorem quote_cons_ne_escapeChar (c : Char) (first second : List Char) :
    quote :: first ≠ escapeChar c ++ second := by
  intro same
  have decoded := congrArg unescapeChar same
  have quoted : c = quote := by
    rw [unescapeChar_escapeChar, unescapeChar, if_neg (by decide)] at decoded
    exact (congrArg Prod.fst (Option.some.inj decoded)).symm
  subst quoted
  rw [escapeChar, if_pos rfl] at same
  exact absurd (List.head_eq_of_cons_eq same) (by decide)

theorem escaped_unambiguous {first second later others : List Char}
    (same : first.flatMap escapeChar ++ quote :: later =
      second.flatMap escapeChar ++ quote :: others) : first = second ∧ later = others := by
  induction first generalizing second with
  | nil =>
      cases second with
      | nil => exact ⟨rfl, List.tail_eq_of_cons_eq same⟩
      | cons d rest =>
          rw [List.flatMap_cons, List.append_assoc] at same
          exact absurd same (quote_cons_ne_escapeChar d _ _)
  | cons c rest ih =>
      cases second with
      | nil =>
          rw [List.flatMap_cons, List.append_assoc] at same
          exact absurd same.symm (quote_cons_ne_escapeChar c _ _)
      | cons d others =>
          rw [List.flatMap_cons, List.flatMap_cons, List.append_assoc, List.append_assoc] at same
          rcases escapeChar_append_inj same with ⟨rfl, tails⟩
          rcases ih tails with ⟨rfl, ends⟩
          exact ⟨rfl, ends⟩

theorem printString_unambiguous {first second : String} {later others : List Char}
    (same : printString first ++ later = printString second ++ others) :
    first = second ∧ later = others := by
  have inner : first.toList.flatMap escapeChar ++ quote :: later =
      second.toList.flatMap escapeChar ++ quote :: others := by
    simpa [printString] using same
  rcases escaped_unambiguous inner with ⟨texts, ends⟩
  exact ⟨String.toList_inj.mp texts, ends⟩

/-! ## Numbers -/

/-- Text that cannot go on with the digits of a number before it. -/
def Closed (text : List Char) : Prop :=
  ∀ c ∈ text.head?, c.isDigit = false

theorem digits_unambiguous {first second later others : List Char}
    (firstDigits : ∀ c ∈ first, c.isDigit) (secondDigits : ∀ c ∈ second, c.isDigit)
    (closed : Closed later) (othersClosed : Closed others)
    (same : first ++ later = second ++ others) : first = second ∧ later = others := by
  induction first generalizing second with
  | nil =>
      cases second with
      | nil => exact ⟨rfl, same⟩
      | cons d rest =>
          have digit := secondDigits d List.mem_cons_self
          have ends : later.head? = some d := congrArg List.head? same
          rw [closed d ends] at digit
          cases digit
  | cons c rest ih =>
      have digit := firstDigits c List.mem_cons_self
      cases second with
      | nil =>
          have ends : others.head? = some c := congrArg List.head? same.symm
          rw [othersClosed c ends] at digit
          cases digit
      | cons d others =>
          rcases List.cons.inj same with ⟨rfl, tails⟩
          rcases ih (fun e member => firstDigits e (List.mem_cons_of_mem c member))
            (fun e member => secondDigits e (List.mem_cons_of_mem c member)) tails
            with ⟨rfl, ends⟩
          exact ⟨rfl, ends⟩

theorem isDigit_of_mem_toDigits {c : Char} {n : Nat} (member : c ∈ Nat.toDigits 10 n) :
    c.isDigit :=
  Nat.isDigit_of_mem_toDigits (by decide) (by decide) member

theorem toDigits_unambiguous {m n : Nat} {later others : List Char} (closed : Closed later)
    (othersClosed : Closed others)
    (same : Nat.toDigits 10 m ++ later = Nat.toDigits 10 n ++ others) :
    m = n ∧ later = others := by
  rcases digits_unambiguous (fun _ => isDigit_of_mem_toDigits)
    (fun _ => isDigit_of_mem_toDigits) closed othersClosed same with ⟨digits, ends⟩
  have values := congrArg (fun list => Nat.ofDigitChars 10 list 0) digits
  rw [Nat.ofDigitChars_ten_toDigits, Nat.ofDigitChars_ten_toDigits] at values
  exact ⟨values, ends⟩

/-- The digits of a number begin with a digit. -/
theorem exists_toDigits_eq_cons (n : Nat) :
    ∃ c rest, Nat.toDigits 10 n = c :: rest ∧ c.isDigit := by
  cases digits : Nat.toDigits 10 n with
  | nil => exact absurd digits Nat.toDigits_ne_nil
  | cons c rest =>
      exact ⟨c, rest, rfl, isDigit_of_mem_toDigits (digits ▸ List.mem_cons_self)⟩

theorem minus_cons_ne_toDigits (n : Nat) (later others : List Char) :
    '-' :: later ≠ Nat.toDigits 10 n ++ others := by
  intro same
  rcases exists_toDigits_eq_cons n with ⟨c, rest, digits, digit⟩
  rw [digits, List.cons_append] at same
  rw [← List.head_eq_of_cons_eq same] at digit
  contradiction

theorem printNumber_unambiguous {first second : Int} {later others : List Char}
    (closed : Closed later) (othersClosed : Closed others)
    (same : printNumber first ++ later = printNumber second ++ others) :
    first = second ∧ later = others := by
  cases first with
  | ofNat m =>
      cases second with
      | ofNat n =>
          rcases toDigits_unambiguous closed othersClosed same with ⟨rfl, ends⟩
          exact ⟨rfl, ends⟩
      | negSucc n => exact absurd same.symm (minus_cons_ne_toDigits m _ _)
  | negSucc m =>
      cases second with
      | ofNat n => exact absurd same (minus_cons_ne_toDigits n _ _)
      | negSucc n =>
          rcases toDigits_unambiguous closed othersClosed (List.tail_eq_of_cons_eq same)
            with ⟨next, ends⟩
          cases next
          exact ⟨rfl, ends⟩

/-! ## Values -/

/-- The constructors of a value. -/
inductive Kind
  | null
  | bool
  | number
  | string
  | array
  | object
  deriving DecidableEq

def Value.kind : Value → Kind
  | .null => .null
  | .bool _ => .bool
  | .number _ => .number
  | .string _ => .string
  | .array _ => .array
  | .object _ => .object

/-- The kind of the values whose text begins with a character. -/
def kindOf (c : Char) : Option Kind :=
  if c = '-' ∨ c.isDigit then some .number
  else if c = 'n' then some .null
  else if c = 't' ∨ c = 'f' then some .bool
  else if c = quote then some .string
  else if c = '[' then some .array
  else if c = '\x7b' then some .object
  else none

/-- The first character of a value's text tells its kind. -/
theorem exists_print_eq_cons (value : Value) :
    ∃ c rest, print value = c :: rest ∧ kindOf c = some value.kind := by
  cases value with
  | null => exact ⟨_, _, by rw [print], rfl⟩
  | bool flag => cases flag <;> exact ⟨_, _, by rw [print], rfl⟩
  | number integer =>
      cases integer with
      | ofNat n =>
          rcases exists_toDigits_eq_cons n with ⟨c, rest, digits, digit⟩
          exact ⟨c, rest, by rw [print, printNumber, digits], by simp [kindOf, digit, Value.kind]⟩
      | negSucc n => exact ⟨_, _, by rw [print, printNumber], rfl⟩
  | string text => exact ⟨_, _, by rw [print, printString], rfl⟩
  | array items => exact ⟨_, _, by rw [print], rfl⟩
  | object members => exact ⟨_, _, by rw [print], rfl⟩

theorem kind_eq_of_print {first second : Value} {later others : List Char}
    (same : print first ++ later = print second ++ others) : first.kind = second.kind := by
  rcases exists_print_eq_cons first with ⟨c, rest, text, kind⟩
  rcases exists_print_eq_cons second with ⟨d, tail, otherText, otherKind⟩
  rw [text, otherText, List.cons_append, List.cons_append] at same
  rw [List.head_eq_of_cons_eq same] at kind
  exact Option.some.inj (kind.symm.trans otherKind)

/-- A character that begins no value does not begin the text of one. -/
theorem cons_ne_print {c : Char} (foreign : kindOf c = none) (value : Value)
    (later others : List Char) : c :: later ≠ print value ++ others := by
  intro same
  rcases exists_print_eq_cons value with ⟨d, rest, text, kind⟩
  rw [text, List.cons_append] at same
  rw [List.head_eq_of_cons_eq same, kind] at foreign
  contradiction

theorem closed_printItems (items : List Value) (later : List Char) :
    Closed (printItems false items ++ later) := by
  cases items <;> simp [printItems, separator, Closed]

theorem closed_printMembers (members : List (String × Value)) (later : List Char) :
    Closed (printMembers false members ++ later) := by
  cases members with
  | nil => simp [printMembers, Closed]
  | cons entry rest => simp [printMembers, separator, Closed]

mutual

/-- A value and what follows it are determined by their text. -/
theorem print_unambiguous : ∀ (first second : Value) {later others : List Char},
    Closed later → Closed others → print first ++ later = print second ++ others →
    first = second ∧ later = others
  | .null, second, later, others, _, _, same => by
      cases second with
      | null => exact ⟨rfl, List.append_cancel_left same⟩
      | _ => cases kind_eq_of_print same
  | .bool flag, second, later, others, _, _, same => by
      cases second with
      | bool other =>
          cases flag <;> cases other <;> simp_all [print]
      | _ => cases kind_eq_of_print same
  | .number integer, second, later, others, closed, othersClosed, same => by
      cases second with
      | number other =>
          rw [print, print] at same
          rcases printNumber_unambiguous closed othersClosed same with ⟨rfl, ends⟩
          exact ⟨rfl, ends⟩
      | _ => cases kind_eq_of_print same
  | .string text, second, later, others, _, _, same => by
      cases second with
      | string other =>
          rw [print, print] at same
          rcases printString_unambiguous same with ⟨rfl, ends⟩
          exact ⟨rfl, ends⟩
      | _ => cases kind_eq_of_print same
  | .array items, second, later, others, _, _, same => by
      cases second with
      | array others =>
          rw [print, print, List.cons_append, List.cons_append] at same
          rcases printItems_unambiguous true items others (List.tail_eq_of_cons_eq same)
            with ⟨rfl, ends⟩
          exact ⟨rfl, ends⟩
      | _ => cases kind_eq_of_print same
  | .object members, second, later, others, _, _, same => by
      cases second with
      | object others =>
          rw [print, print, List.cons_append, List.cons_append] at same
          rcases printMembers_unambiguous true members others (List.tail_eq_of_cons_eq same)
            with ⟨rfl, ends⟩
          exact ⟨rfl, ends⟩
      | _ => cases kind_eq_of_print same

theorem printItems_unambiguous (first : Bool) : ∀ (items second : List Value)
    {later others : List Char}, printItems first items ++ later =
      printItems first second ++ others → items = second ∧ later = others
  | [], second, later, others, same => by
      cases second with
      | nil => exact ⟨rfl, List.append_cancel_left same⟩
      | cons value rest =>
          exfalso
          rw [printItems, printItems, List.append_assoc, List.append_assoc] at same
          cases first with
          | false => exact absurd (List.head_eq_of_cons_eq same) (by decide)
          | true => exact cons_ne_print (by decide) value _ _ same
  | item :: rest, second, later, others, same => by
      cases second with
      | nil =>
          exfalso
          rw [printItems, printItems, List.append_assoc, List.append_assoc] at same
          cases first with
          | false => exact absurd (List.head_eq_of_cons_eq same) (by decide)
          | true => exact cons_ne_print (by decide) item _ _ same.symm
      | cons value tail =>
          simp only [printItems, List.append_assoc] at same
          have texts := List.append_cancel_left same
          rcases print_unambiguous item value (closed_printItems rest later)
            (closed_printItems tail others) texts with ⟨rfl, rests⟩
          rcases printItems_unambiguous false rest tail rests with ⟨rfl, ends⟩
          exact ⟨rfl, ends⟩

theorem printMembers_unambiguous (first : Bool) : ∀ (members second : List (String × Value))
    {later others : List Char}, printMembers first members ++ later =
      printMembers first second ++ others → members = second ∧ later = others
  | [], second, later, others, same => by
      cases second with
      | nil => exact ⟨rfl, List.append_cancel_left same⟩
      | cons entry rest =>
          exfalso
          rcases entry with ⟨key, value⟩
          rw [printMembers, printMembers, List.append_assoc] at same
          cases first <;> exact absurd (List.head_eq_of_cons_eq same) (by decide)
  | (key, value) :: rest, second, later, others, same => by
      cases second with
      | nil =>
          exfalso
          rw [printMembers, printMembers, List.append_assoc] at same
          cases first <;> exact absurd (List.head_eq_of_cons_eq same) (by decide)
      | cons entry tail =>
          rcases entry with ⟨otherKey, other⟩
          simp only [printMembers, List.append_assoc, List.cons_append] at same
          have texts := List.append_cancel_left same
          rcases printString_unambiguous texts with ⟨rfl, values⟩
          have inner := List.tail_eq_of_cons_eq values
          rcases print_unambiguous value other (closed_printMembers rest later)
            (closed_printMembers tail others) inner with ⟨rfl, rests⟩
          rcases printMembers_unambiguous false rest tail rests with ⟨rfl, ends⟩
          exact ⟨rfl, ends⟩

end

/-- Values with the same bytes are the same. -/
theorem toVec_injective {first second : Value} (same : toVec first = toVec second) :
    first = second := by
  have bytes : (String.ofList (print first)).toByteArray =
      (String.ofList (print second)).toByteArray := ByteArray.ext same
  have texts := String.ofList_inj.mp (String.toByteArray_inj.mp bytes)
  have closed : Closed [] := by simp [Closed]
  apply (print_unambiguous first second closed closed _).1
  rw [texts]

end Mjae.Json
