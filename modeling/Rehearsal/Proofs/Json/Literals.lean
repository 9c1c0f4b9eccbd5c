import Mathlib.Data.List.Basic
import Rehearsal.Json.Printer
import Rehearsal.Json.Reader

/-!
Literals of JSON texts.

The literal of a string is read as the string, and the digits of a number of at most 64 bits as the
number.
-/

namespace Rehearsal

namespace Number

theorem digitValue_digitChar {digit : Nat} (single : digit < 10) :
    digitValue digit.digitChar = digit :=
  Nat.toNat_digitChar_sub_48_of_lt_ten single

/-- All digits of a number of at most 64 bits are gathered. -/
theorem foldl_gatherWhole {n : Nat} (narrow : n < Nat.pow 2 64) :
    (Nat.toDigits 10 n).foldl gatherWhole ⟨0, 0, false⟩ = ⟨n, 0, false⟩ := by
  induction n using Nat.strongRecOn with
  | ind n inductionHypothesis =>
      rw [Nat.toDigits_eq_if (by decide)]
      split
      next single =>
        have fit : fits 0 n = true := by
          have small : 0 * 10 + n < Nat.pow 2 64 := by omega
          exact decide_eq_true small
        rw [List.foldl_cons, gatherWhole, digitValue_digitChar single, fit]
        simp
      next =>
        have single : n % 10 < 10 := Nat.mod_lt n (by decide)
        have whole : n / 10 * 10 + n % 10 = n := Nat.div_add_mod' n 10
        have fit : fits (n / 10) (n % 10) = true := by
          rw [fits, decide_eq_true_eq, whole]
          exact narrow
        rw [List.foldl_append, inductionHypothesis (n / 10) (by omega) (by omega), List.foldl_cons,
          gatherWhole, digitValue_digitChar single, fit, List.foldl_nil]
        simp [whole]

end Number

/-- The digits of a number begin with one. -/
theorem exists_toDigits (n : Nat) :
    ∃ c rest, Nat.toDigits 10 n = c :: rest ∧ c.isDigit = true := by
  cases digits : Nat.toDigits 10 n with
  | nil => exact (Nat.toDigits_ne_nil digits).elim
  | cons c rest =>
      have inside : c ∈ Nat.toDigits 10 n := by simp [digits]
      exact ⟨c, rest, rfl, Nat.isDigit_of_mem_toDigits (by decide) (by decide) inside⟩

theorem head?_toDigits {n : Nat} (zero : (Nat.toDigits 10 n).head? = some '0') : n = 0 := by
  induction n using Nat.strongRecOn with
  | ind n inductionHypothesis =>
      rw [Nat.toDigits_eq_if (by decide)] at zero
      split at zero
      next => simpa using zero
      next large =>
        have small : n / 10 = 0 := by
          refine inductionHypothesis _ (by omega) ?_
          rwa [List.head?_append_of_ne_nil _ Nat.toDigits_ne_nil] at zero
        omega

namespace Json.Reader

open Source

/-- Behind a value the text ends, or a separator or closing bracket follows. -/
def Ends (rest : List Char) : Prop :=
  ∀ c ∈ rest.head?, c = ',' ∨ c = ']' ∨ c = '\x7d'

theorem Ends.not_isDigit {rest : List Char} (ends : Ends rest) :
    ∀ c ∈ rest.head?, c.isDigit = false := by
  intro c head
  rcases ends c head with rfl | rfl | rfl <;> rfl

theorem digits?_append {digits rest : List Char} (nonempty : digits ≠ [])
    (all : ∀ c ∈ digits, c.isDigit = true) (ends : Ends rest) :
    digits? (digits ++ rest) = some (digits, rest) := by
  have none : rest.takeWhile Char.isDigit = [] := by
    cases rest with
    | nil => rfl
    | cons c rest => rw [List.takeWhile_cons_of_neg (by simp [ends.not_isDigit c rfl])]
  have behind : rest.dropWhile Char.isDigit = rest := by
    cases rest with
    | nil => rfl
    | cons c rest => rw [List.dropWhile_cons_of_neg (by simp [ends.not_isDigit c rfl])]
  rw [digits?, List.takeWhile_append_of_pos all, List.dropWhile_append_of_pos all, none, behind]
  simp [nonempty]

theorem fraction?_of_ends {rest : List Char} (ends : Ends rest) :
    fraction? rest = some (none, rest) := by
  unfold fraction?
  split
  next => exact absurd (ends '.' rfl) (by decide)
  next => rfl

theorem power?_of_ends {rest : List Char} (ends : Ends rest) :
    power? rest = some (none, rest) := by
  cases rest with
  | nil => rfl
  | cons c rest =>
      have other : (c == 'e' || c == 'E') = false := by
        rcases ends c rfl with rfl | rfl | rfl <;> rfl
      simp [power?, other]

theorem literal?_of_unsigned {chars : List Char} (unsigned : ∀ rest, chars ≠ '-' :: rest) :
    literal? chars = (do
      let (whole, chars) ← digits? chars
      if whole.head? == some '0' && whole.length > 1 then none
      else do
        let (fraction, chars) ← fraction? chars
        let (power, chars) ← power? chars
        some ({ negative := false, whole, fraction, power }, chars)) := by
  unfold literal?
  split
  next negative rest same =>
    split at same
    next negated => exact (unsigned _ rfl).elim
    next => cases same; rfl

theorem literal?_toDigits (n : Nat) {rest : List Char} (ends : Ends rest) :
    literal? (Nat.toDigits 10 n ++ rest) =
      some ({ negative := false, whole := Nat.toDigits 10 n, fraction := none, power := none },
        rest) := by
  have unsigned : ∀ behind, Nat.toDigits 10 n ++ rest ≠ '-' :: behind := by
    intro behind same
    obtain ⟨c, others, digits, digit⟩ := exists_toDigits n
    rw [digits] at same
    cases same
    cases digit
  have unpadded : (Nat.toDigits 10 n).head? = some '0' → (Nat.toDigits 10 n).length ≤ 1 := by
    intro zero
    rw [head?_toDigits zero]
    exact Nat.le_refl 1
  have digits : digits? (Nat.toDigits 10 n ++ rest) = some (Nat.toDigits 10 n, rest) :=
    digits?_append Nat.toDigits_ne_nil
      (fun _ => Nat.isDigit_of_mem_toDigits (by decide) (by decide)) ends
  rw [literal?_of_unsigned unsigned, digits]
  simpa [fraction?_of_ends ends, power?_of_ends ends] using unpadded

theorem number_toDigits {n : Nat} (narrow : n < Nat.pow 2 64) {rest : List Char}
    (ends : Ends rest) :
    number (Nat.toDigits 10 n ++ rest) = (Node.ofAtom (.number (.integer n)), some rest) := by
  rw [number, literal?_toDigits n ends]
  simp [Number.ofLiteral, Number.foldl_gatherWhole narrow]

theorem hexNumber?_control {n : Nat} (control : n < 0x20) :
    Text.hexNumber? ['0', '0', hexDigit (n / 16), hexDigit (n % 16)] = some n := by
  have numbered : ∀ n < 0x20,
      Text.hexNumber? ['0', '0', hexDigit (n / 16), hexDigit (n % 16)] = some n := by decide
  exact numbered n control

section

variable {c : Char} {fuel : Nat} {rest behind : List Char} {more : List (Char ⊕ Nat)}

theorem units_letter {letter : Char} (escape : simpleEscape? letter = some c)
    (read : units fuel rest = some (more, behind)) :
    units (fuel + 1) ('\\' :: letter :: rest) = some (.inl c :: more, behind) := by
  have known : letter ≠ 'u' := by
    rintro rfl
    cases escape
  rw [units, escape, read]
  · rfl
  · exact known

theorem units_number (control : c.toNat < 0x20) (read : units fuel rest = some (more, behind)) :
    units (fuel + 1)
        ('\\' :: 'u' :: '0' :: '0' :: hexDigit (c.toNat / 16) :: hexDigit (c.toNat % 16) :: rest) =
      some (.inr c.toNat :: more, behind) := by
  have number : fourDigits?
      ('0' :: '0' :: hexDigit (c.toNat / 16) :: hexDigit (c.toNat % 16) :: rest) =
        some (c.toNat, rest) := by
    rw [fourDigits?, hexNumber?_control control]
    rfl
  rw [units, number]
  simp only [Option.bind_eq_bind, Option.bind_some, read]

theorem units_itself (quote : c ≠ '\x22') (backslash : c ≠ '\\') (printed : 0x20 ≤ c.toNat)
    (read : units fuel rest = some (more, behind)) :
    units (fuel + 1) (c :: rest) = some (.inl c :: more, behind) := by
  rw [units, if_neg (by simp [backslash]; omega), read]
  · rfl
  · exact quote
  · rintro _ rfl; exact (backslash rfl).elim
  · rintro _ _ rfl; exact (backslash rfl).elim

end

/-- A unit that tells a character of a string, by itself or by its number. -/
inductive Tells : Char ⊕ Nat → Char → Prop where
  | itself (c : Char) : Tells (.inl c) c
  | number {c : Char} : c.toNat < 0x20 → Tells (.inr c.toNat) c

theorem units_escaped (c : Char) {fuel : Nat} {rest behind : List Char} {more : List (Char ⊕ Nat)}
    (read : units fuel rest = some (more, behind)) :
    ∃ unit, Tells unit c ∧
      units (fuel + 1) (escaped c ++ rest) = some (unit :: more, behind) := by
  unfold escaped
  by_cases quote : c = '\x22'
  · subst quote
    exact ⟨_, .itself _, units_letter rfl read⟩
  by_cases backslash : c = '\\'
  · subst backslash
    exact ⟨_, .itself _, units_letter rfl read⟩
  rw [if_neg quote, if_neg backslash]
  by_cases control : c.toNat < 0x20
  · rw [if_pos control]
    split
    next same => exact ⟨_, .itself _, units_letter (by rw [same]; rfl) read⟩
    split
    next same => exact ⟨_, .itself _, units_letter (by rw [same]; rfl) read⟩
    split
    next same => exact ⟨_, .itself _, units_letter (by rw [same]; rfl) read⟩
    split
    next same => exact ⟨_, .itself _, units_letter (by rw [same]; rfl) read⟩
    split
    next same => exact ⟨_, .itself _, units_letter (by rw [same]; rfl) read⟩
    exact ⟨_, .number control, units_number control read⟩
  · rw [if_neg control]
    exact ⟨_, .itself c, units_itself quote backslash (Nat.le_of_not_lt control) read⟩

/-- The units of a string literal tell the content of it. -/
theorem units_flatMap (content rest : List Char) {fuel : Nat} (enough : content.length < fuel) :
    ∃ told, List.Forall₂ Tells told content ∧
      units fuel (content.flatMap escaped ++ '\x22' :: rest) = some (told, rest) := by
  induction content generalizing fuel with
  | nil =>
      obtain ⟨fuel, rfl⟩ := Nat.exists_eq_add_of_lt enough
      exact ⟨[], .nil, by rw [units.eq_def]; rfl⟩
  | cons c content inductionHypothesis =>
      obtain ⟨fuel, rfl⟩ := Nat.exists_eq_add_one_of_ne_zero (Nat.ne_zero_of_lt enough)
      obtain ⟨told, tells, read⟩ := inductionHypothesis (Nat.lt_of_succ_lt_succ enough)
      obtain ⟨unit, first, all⟩ := units_escaped c read
      refine ⟨unit :: told, .cons first tells, ?_⟩
      rw [List.flatMap_cons, List.append_assoc, all]

theorem joinUnits_of_tells {told : List (Char ⊕ Nat)} {content : List Char}
    (tells : List.Forall₂ Tells told content) : joinUnits told = some content := by
  induction tells with
  | nil => rfl
  | @cons unit c told content first others inductionHypothesis =>
      cases first with
      | itself => rw [joinUnits, inductionHypothesis]; rfl
      | number control =>
          have letter : Char.ofNat c.toNat = c := Char.ofNat_toNat c
          cases told with
          | nil =>
              cases others
              rw [joinUnits, if_neg (by simp; omega), letter]
          | cons next told =>
              rw [joinUnits.eq_def]
              dsimp only
              rw [if_neg (by simp; omega), if_neg (by simp; omega), inductionHypothesis, letter]
              rfl

/-- The literal of a string is read as the string. -/
theorem string_quoted (content : String) (rest : List Char) {fuel : Nat}
    (enough : content.length < fuel) :
    string fuel (content.toList.flatMap escaped ++ '\x22' :: rest) =
      (Node.ofAtom (.text content), some rest) := by
  obtain ⟨told, tells, read⟩ := units_flatMap content.toList rest (by rwa [String.length_toList])
  rw [string, read]
  simp [joinUnits_of_tells tells]

end Json.Reader

end Rehearsal
