import FerroCP.Exception
import Mathlib.Data.Nat.Digits

/-!
# `std::stoi`

The constructor of `DeviceInfo` (`ferrocp.hpp:147`) reads the device type with `std::stoi`. It
calls `strtol(str, &end, 10)` and throws `std::invalid_argument` when nothing was converted, and
`std::out_of_range` when `strtol` reports `ERANGE` or its result does not fit `int`. `strtol`
(C11 7.22.1.4) skips the leading `isspace` characters of the "C" locale, reads an optional sign
and the longest run of decimal digits, and ignores what follows.

`strtol` below computes the exact value of the digits; clamping it to `LONG_MIN`/`LONG_MAX` with
`ERANGE` is not modelled, as `long` covers `int` and every value outside `int` ends in
`std::out_of_range` either way. Where C reads bytes a Lean `Char` is a Unicode scalar; no byte of
a character outside ASCII is a space, a sign or a digit, so both stop at the same place.
-/

namespace FerroCP

/-- `isspace` in the "C" locale. -/
def isSpace (c : Char) : Bool :=
  c = ' ' || c = '\t' || c = '\n' || c = '\x0b' || c = '\x0c' || c = '\r'

/-- One decimal digit taken into the value read so far. -/
def digitStep (acc : Nat) (d : Char) : Nat := 10 * acc + (d.toNat - '0'.toNat)

/-- The value of a run of decimal digits. -/
def digitsValue (digits : List Char) : Nat :=
  digits.foldl digitStep 0

/-- The optional sign: whether it is `-`, and the text after it. -/
def readSign : List Char → Bool × List Char
  | [] => (false, [])
  | c :: rest =>
    if c = '-' then (true, rest) else if c = '+' then (false, rest) else (false, c :: rest)

/-- The value `strtol(s, &end, 10)` converts, before any clamping; `none` when it converts
    nothing and leaves `end == s`. -/
def strtol (s : List Char) : Option Int :=
  let signed := readSign (s.dropWhile isSpace)
  let digits := signed.2.takeWhile Char.isDigit
  if digits = [] then none
  else some (if signed.1 then -(digitsValue digits : Int) else digitsValue digits)

/-- `std::stoi(str)` with base 10 and no `pos` (libstdc++ `__stoa`). -/
def stoi (str : String) : Except Thrown CInt :=
  match strtol str.toList with
  | none => .error .invalidArgument
  | some v => if fits : intMin ≤ v ∧ v ≤ intMax then .ok ⟨v, fits⟩ else .error .outOfRange

/-- The text after a number does not go on with a digit. -/
def StartsNonDigit (rest : List Char) : Prop :=
  ∀ c ∈ rest.head?, c.isDigit = false

/-- The value a sign and a run of digits denote. -/
def signedValue (sign digits : List Char) : Int :=
  if sign = ['-'] then -(digitsValue digits : Int) else digitsValue digits

theorem isSpace_eq_false_of_isDigit {c : Char} (digit : c.isDigit = true) : isSpace c = false := by
  by_contra space
  simp only [isSpace, Bool.not_eq_false, Bool.or_eq_true, decide_eq_true_eq] at space
  rcases space with ((((rfl | rfl) | rfl) | rfl) | rfl) | rfl <;> revert digit <;> decide

theorem readSign_spec (l : List Char) :
    ∃ sign, l = sign ++ (readSign l).2 ∧ (sign = [] ∨ sign = ['+'] ∨ sign = ['-']) ∧
      ((readSign l).1 = true ↔ sign = ['-']) := by
  cases l with
  | nil => exact ⟨[], rfl, .inl rfl, by simp [readSign]⟩
  | cons c rest =>
    by_cases minus : c = '-'
    · exact ⟨['-'], by simp [readSign, minus], .inr (.inr rfl), by simp [readSign, minus]⟩
    · by_cases plus : c = '+'
      · exact ⟨['+'], by simp [readSign, plus], .inr (.inl rfl), by simp [readSign, plus]⟩
      · exact ⟨[], by simp [readSign, minus, plus], .inl rfl, by simp [readSign, minus, plus]⟩

theorem readSign_sign_digit {sign : List Char} {d : Char} {rest : List Char}
    (signs : sign = [] ∨ sign = ['+'] ∨ sign = ['-']) (digit : d.isDigit = true) :
    readSign (sign ++ d :: rest) = (decide (sign = ['-']), d :: rest) := by
  have minus : d ≠ '-' := by rintro rfl; revert digit; decide
  have plus : d ≠ '+' := by rintro rfl; revert digit; decide
  rcases signs with rfl | rfl | rfl <;> simp [readSign, minus, plus]

theorem takeWhile_digits {digits rest : List Char} (all : ∀ c ∈ digits, c.isDigit = true)
    (stop : StartsNonDigit rest) : (digits ++ rest).takeWhile Char.isDigit = digits := by
  rw [List.takeWhile_append_of_pos all]
  cases rest with
  | nil => simp
  | cons c rest => simp [stop c rfl]

/-- The text `strtol` converts: spaces, an optional sign, a nonempty run of digits, and text that
    does not go on with a digit. The shape is unique, so this describes `strtol` completely. -/
theorem strtol_eq_some_iff {s : List Char} {v : Int} :
    strtol s = some v ↔
      ∃ spaces sign digits rest, s = spaces ++ sign ++ digits ++ rest ∧
        (∀ c ∈ spaces, isSpace c = true) ∧ (sign = [] ∨ sign = ['+'] ∨ sign = ['-']) ∧
        digits ≠ [] ∧ (∀ c ∈ digits, c.isDigit = true) ∧ StartsNonDigit rest ∧
        v = signedValue sign digits := by
  constructor
  · intro parsed
    obtain ⟨sign, signed, signs, negative⟩ := readSign_spec (s.dropWhile isSpace)
    set rest := (readSign (s.dropWhile isSpace)).2
    have some_digits : rest.takeWhile Char.isDigit ≠ [] := by
      intro none_
      simp [strtol, rest, none_] at parsed
    refine ⟨s.takeWhile isSpace, sign, rest.takeWhile Char.isDigit, rest.dropWhile Char.isDigit,
      ?_, fun c mem => List.mem_takeWhile_imp mem, signs, some_digits,
      fun c mem => List.mem_takeWhile_imp mem, fun c first => ?_, ?_⟩
    · conv => lhs; rw [← List.takeWhile_append_dropWhile isSpace s, signed]
      simp
    · have stop := List.head?_dropWhile_not Char.isDigit rest
      rwa [Option.mem_def.mp first] at stop
    · simp only [strtol, some_digits, if_false, Option.some.injEq] at parsed
      rw [← parsed, signedValue]
      by_cases minus : sign = ['-'] <;> simp [negative, minus, rest]
  · rintro ⟨spaces, sign, digits, rest, rfl, blank, signs, some_digits, all, stop, rfl⟩
    obtain ⟨d, ds, rfl⟩ := List.exists_cons_of_ne_nil some_digits
    have digit := all d (List.mem_cons_self d ds)
    have start : (sign ++ (d :: ds ++ rest)).dropWhile isSpace = sign ++ (d :: ds ++ rest) := by
      have notSpace : ¬isSpace d = true := by simp [isSpace_eq_false_of_isDigit digit]
      rcases signs with rfl | rfl | rfl <;> simp [List.dropWhile_cons_of_neg notSpace, isSpace]
    have stripped : (spaces ++ sign ++ (d :: ds) ++ rest).dropWhile isSpace =
        sign ++ (d :: ds ++ rest) := by
      rw [List.append_assoc, List.append_assoc, List.dropWhile_append_of_pos blank, start]
    have taken : (d :: (ds ++ rest)).takeWhile Char.isDigit = d :: ds := by
      simpa using takeWhile_digits all stop
    simp only [strtol, stripped, List.cons_append, readSign_sign_digit signs digit, taken]
    simp [signedValue]

/-- A decimal digit follows the leading spaces and the optional sign: the texts `strtol` converts
    something from. -/
def HasNumber (s : List Char) : Prop :=
  ∃ spaces sign d rest, s = spaces ++ sign ++ d :: rest ∧ (∀ c ∈ spaces, isSpace c = true) ∧
    (sign = [] ∨ sign = ['+'] ∨ sign = ['-']) ∧ d.isDigit = true

/-- `strtol` converts nothing exactly when no digit follows the leading spaces and the optional
    sign. -/
theorem strtol_eq_none_iff {s : List Char} : strtol s = none ↔ ¬HasNumber s := by
  constructor
  · rintro none_ ⟨spaces, sign, d, rest, rfl, blank, signs, digit⟩
    have parsed := strtol_eq_some_iff.2 ⟨spaces, sign, (d :: rest).takeWhile Char.isDigit,
      (d :: rest).dropWhile Char.isDigit,
      by rw [List.append_assoc (spaces ++ sign), List.takeWhile_append_dropWhile], blank, signs,
      by rw [List.takeWhile_cons_of_pos digit]; exact List.cons_ne_nil _ _,
      fun c mem => List.mem_takeWhile_imp mem, fun c first => ?_, rfl⟩
    · rw [none_] at parsed
      cases parsed
    · have stop := List.head?_dropWhile_not Char.isDigit (d :: rest)
      rwa [Option.mem_def.mp first] at stop
  · intro none_
    cases parsed : strtol s with
    | none => rfl
    | some v =>
      obtain ⟨spaces, sign, digits, rest, rfl, blank, signs, some_digits, all, -, -⟩ :=
        strtol_eq_some_iff.1 parsed
      obtain ⟨d, ds, rfl⟩ := List.exists_cons_of_ne_nil some_digits
      exact absurd ⟨spaces, sign, d, ds ++ rest, by simp, blank, signs,
        all d (List.mem_cons_self d ds)⟩ none_

theorem digitChar_isDigit : ∀ d, d < 10 → (Nat.digitChar d).isDigit = true := by decide

theorem digitChar_value : ∀ d, d < 10 → (Nat.digitChar d).toNat - '0'.toNat = d := by decide

theorem digitsValue_append_singleton (digits : List Char) (d : Char) :
    digitsValue (digits ++ [d]) = digitStep (digitsValue digits) d := by
  simp [digitsValue]

/-- With enough fuel, `Nat.toDigitsCore` puts the decimal digits of `n` in front of `ds`. -/
theorem toDigitsCore_decimal : ∀ fuel n ds, n < fuel →
    ∃ front, Nat.toDigitsCore 10 fuel n ds = front ++ ds ∧ front ≠ [] ∧
      (∀ c ∈ front, c.isDigit = true) ∧ digitsValue front = n
  | 0, n, _, bound => absurd bound (Nat.not_lt_zero n)
  | fuel + 1, n, ds, bound => by
    have small := Nat.mod_lt n (by decide : 10 > 0)
    simp only [Nat.toDigitsCore]
    split
    · refine ⟨[Nat.digitChar (n % 10)], rfl, List.cons_ne_nil _ _,
        by simpa using digitChar_isDigit _ small, ?_⟩
      rw [show digitsValue [Nat.digitChar (n % 10)] = digitStep 0 (Nat.digitChar (n % 10)) from rfl,
        digitStep, digitChar_value _ small]
      omega
    · obtain ⟨front, built, -, all, value⟩ :=
        toDigitsCore_decimal fuel (n / 10) (Nat.digitChar (n % 10) :: ds) (by omega)
      refine ⟨front ++ [Nat.digitChar (n % 10)], by simp [built], by simp, ?_, ?_⟩
      · simpa [or_imp, forall_and] using ⟨all, digitChar_isDigit _ small⟩
      · rw [digitsValue_append_singleton, value, digitStep, digitChar_value _ small]
        omega

/-- `strtol` reads back the decimal text of every integer. -/
theorem strtol_toString (v : Int) : strtol (toString v).toList = some v := by
  cases v with
  | ofNat m =>
    obtain ⟨front, built, nonempty, all, value⟩ := toDigitsCore_decimal (m + 1) m [] (by omega)
    have text : (toString (Int.ofNat m)).toList = front := by simpa using built
    rw [text, strtol_eq_some_iff]
    exact ⟨[], [], front, [], by simp, by simp, .inl rfl, nonempty, all, by simp [StartsNonDigit],
      by simp [signedValue, value]⟩
  | negSucc m =>
    obtain ⟨front, built, nonempty, all, value⟩ :=
      toDigitsCore_decimal (m + 2) (m + 1) [] (by omega)
    have text : (toString (Int.negSucc m)).toList = '-' :: front := by
      rw [← List.append_nil front, ← built]
      rfl
    rw [text, strtol_eq_some_iff]
    exact ⟨[], ['-'], front, [], by simp, by simp, .inr (.inr rfl), nonempty, all,
      by simp [StartsNonDigit], by simp [signedValue, value, Int.negSucc_eq]⟩

theorem stoi_eq_ok_iff {str : String} {v : CInt} :
    stoi str = .ok v ↔ strtol str.toList = some v.val := by
  unfold stoi
  split <;> rename_i parsed <;> simp only [parsed]
  · simp
  · split <;> rename_i fits
    · simp [Subtype.ext_iff]
    · exact iff_of_false (by rintro ⟨⟩) fun same => fits (Option.some.inj same ▸ v.property)

/-- `std::stoi` reads back `std::to_string` of every `int`. -/
theorem stoi_toString (v : CInt) : stoi (toString v.val) = .ok v :=
  stoi_eq_ok_iff.mpr (strtol_toString v.val)

/-- The strings `std::stoi` accepts: spaces, an optional sign and a nonempty run of digits whose
    value fits `int`, followed by anything that does not go on with a digit. -/
theorem stoi_accepts_iff {str : String} {v : CInt} :
    stoi str = .ok v ↔
      ∃ spaces sign digits rest, str.toList = spaces ++ sign ++ digits ++ rest ∧
        (∀ c ∈ spaces, isSpace c = true) ∧ (sign = [] ∨ sign = ['+'] ∨ sign = ['-']) ∧
        digits ≠ [] ∧ (∀ c ∈ digits, c.isDigit = true) ∧ StartsNonDigit rest ∧
        v.val = signedValue sign digits :=
  stoi_eq_ok_iff.trans strtol_eq_some_iff

/-- `std::stoi` throws nothing but `std::invalid_argument`, when `strtol` converts nothing, and
    `std::out_of_range`, when the value does not fit `int`. -/
theorem stoi_eq_error_iff {str : String} {x : Thrown} :
    stoi str = .error x ↔
      (x = .invalidArgument ∧ strtol str.toList = none) ∨
      (x = .outOfRange ∧
        ∃ v, strtol str.toList = some v ∧ ¬(intMin ≤ v ∧ v ≤ intMax)) := by
  unfold stoi
  split <;> rename_i parsed <;> simp only [parsed]
  · simp [eq_comm]
  · split <;> simp_all [eq_comm]

end FerroCP
