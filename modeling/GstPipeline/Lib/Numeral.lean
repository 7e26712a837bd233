/-
**Integer numerals in the three bases of C.**

`IsNumeral text k`: the text is an integer numeral with value `k`, that is white space, a sign or
none, a literal, and white space. A literal is decimal, octal after `0`, or hexadecimal after `0x`.

`reading text` is the longest numeral that the text begins with, and what is left of the text behind
it. A text is a numeral if and only if only white space is left behind its reading, and then the
reading's value is the numeral's (`isNumeral_iff`). So a numeral has one value, that of its
`leading` numeral, and `IsNumeral` is decidable.
-/

import Mathlib.Algebra.Ring.Int.Defs
import Mathlib.Data.List.Basic

namespace GstPipeline.Lib

/-! ### The grammar -/

/-- White space, as in the C locale. -/
def isSpace (letter : Char) : Bool := [' ', '\t', '\n', '\x0b', '\x0c', '\r'].contains letter

/-- What a letter counts for, `36` where it is no digit in any base. -/
def digitValue (letter : Char) : ℕ :=
  if letter.isDigit then letter.toNat - '0'.toNat
  else if letter.isLower then letter.toNat - 'a'.toNat + 10
  else if letter.isUpper then letter.toNat - 'A'.toNat + 10
  else 36

def isDigit (base : ℕ) (letter : Char) : Bool := digitValue letter < base

def magnitude (base : ℕ) (digits : List Char) : ℕ :=
  digits.foldl (fun value letter => value * base + digitValue letter) 0

/-- A literal and its value. -/
inductive IsLiteral : List Char → ℕ → Prop
  | decimal {first : Char} {digits : List Char} : first ≠ '0' →
      (∀ letter ∈ first :: digits, isDigit 10 letter) →
      IsLiteral (first :: digits) (magnitude 10 (first :: digits))
  | octal {digits : List Char} : (∀ letter ∈ digits, isDigit 8 letter) →
      IsLiteral ('0' :: digits) (magnitude 8 digits)
  | hexadecimal {mark : Char} {digits : List Char} : mark = 'x' ∨ mark = 'X' → digits ≠ [] →
      (∀ letter ∈ digits, isDigit 16 letter) →
      IsLiteral ('0' :: mark :: digits) (magnitude 16 digits)

/-- A sign, and whether it is negative. -/
inductive IsSign : List Char → Bool → Prop
  | none : IsSign [] false
  | plus : IsSign ['+'] false
  | minus : IsSign ['-'] true

def signed (negative : Bool) (magnitude : ℕ) : ℤ := if negative then -magnitude else magnitude

/-- A numeral and its value. -/
inductive IsNumeral : List Char → ℤ → Prop
  | intro {before sign literal after : List Char} {negative : Bool} {size : ℕ} :
      (∀ letter ∈ before, isSpace letter) → IsSign sign negative → IsLiteral literal size →
      (∀ letter ∈ after, isSpace letter) →
      IsNumeral (before ++ (sign ++ (literal ++ after))) (signed negative size)

/-! ### The reading -/

/-- The text behind the mark of a hexadecimal literal, if there are digits. -/
def hexDigits : List Char → Option (List Char)
  | mark :: text =>
    if (mark = 'x' ∨ mark = 'X') ∧ text.takeWhile (isDigit 16) ≠ [] then some text else none
  | [] => none

/-- The longest literal that a text begins with: its value, and the text behind it. -/
def readLiteral : List Char → Option (ℕ × List Char)
  | [] => none
  | first :: text =>
    if first = '0' then
      match hexDigits text with
      | some digits =>
        some (magnitude 16 (digits.takeWhile (isDigit 16)), digits.dropWhile (isDigit 16))
      | none => some (magnitude 8 (text.takeWhile (isDigit 8)), text.dropWhile (isDigit 8))
    else if isDigit 10 first then
      some (magnitude 10 (first :: text.takeWhile (isDigit 10)), text.dropWhile (isDigit 10))
    else none

/-- The sign that a text begins with, and the text behind it. -/
def readSign : List Char → Bool × List Char
  | '-' :: text => (true, text)
  | '+' :: text => (false, text)
  | text => (false, text)

structure Reading where
  negative : Bool
  size : ℕ
  rest : List Char
  deriving DecidableEq

def Reading.value (found : Reading) : ℤ := signed found.negative found.size

theorem Reading.natAbs_value (found : Reading) : found.value.natAbs = found.size := by
  unfold Reading.value signed
  split
  · exact Int.natAbs_neg found.size
  · rfl

/-- The longest numeral that a text begins with. -/
def reading (text : List Char) : Option Reading :=
  let sign := readSign (text.dropWhile isSpace)
  (readLiteral sign.2).map fun literal => ⟨sign.1, literal.1, literal.2⟩

/-! ### What a reading finds -/

/-- A run of letters ends at the first letter of another kind. -/
theorem takeWhile_run {p : Char → Bool} {run rest : List Char} (inside : ∀ letter ∈ run, p letter)
    (outside : ∀ letter ∈ rest.head?, p letter = false) :
    (run ++ rest).takeWhile p = run ∧ (run ++ rest).dropWhile p = rest := by
  rw [List.takeWhile_append_of_pos inside, List.dropWhile_append_of_pos inside]
  cases rest with
  | nil => exact ⟨List.append_nil run, rfl⟩
  | cons letter rest =>
    have stops : ¬ p letter = true := Bool.eq_false_iff.mp (outside letter rfl)
    rw [List.takeWhile_cons_of_neg stops, List.dropWhile_cons_of_neg stops, List.append_nil]
    exact ⟨rfl, rfl⟩

theorem mem_takeWhile (p : Char → Bool) (text : List Char) :
    ∀ letter ∈ text.takeWhile p, p letter := List.all_eq_true.mp List.all_takeWhile

/-- White space is no digit. -/
theorem isDigit_of_isSpace {base : ℕ} {letter : Char} (small : base ≤ 36)
    (space : isSpace letter = true) : isDigit base letter = false := by
  have none : digitValue letter = 36 := by
    simp only [isSpace, List.contains_eq_mem, List.mem_cons, List.not_mem_nil, or_false,
      decide_eq_true_eq] at space
    rcases space with rfl | rfl | rfl | rfl | rfl | rfl <;> rfl
  rw [isDigit, none, decide_eq_false_iff_not]
  exact Nat.not_lt.mpr small

theorem hexDigits_eq_some {text digits : List Char} :
    hexDigits text = some digits ↔
      ∃ mark, text = mark :: digits ∧ (mark = 'x' ∨ mark = 'X') ∧
        digits.takeWhile (isDigit 16) ≠ [] := by
  cases text with
  | nil => simp [hexDigits]
  | cons mark text =>
    rw [hexDigits, Option.ite_none_right_eq_some, Option.some.injEq]
    constructor
    · rintro ⟨marked, rfl⟩
      exact ⟨mark, rfl, marked⟩
    · rintro ⟨other, same, marked⟩
      cases same
      exact ⟨marked, rfl⟩

/-- What `readLiteral` finds is a literal. -/
theorem isLiteral_of_readLiteral {text rest : List Char} {size : ℕ}
    (found : readLiteral text = some (size, rest)) :
    ∃ literal, text = literal ++ rest ∧ IsLiteral literal size := by
  cases text with
  | nil => cases found
  | cons first text =>
    rw [readLiteral] at found
    split at found
    · rename_i zero
      subst zero
      split at found
      · rename_i digits hex
        obtain ⟨mark, rfl, marked, nonempty⟩ := hexDigits_eq_some.mp hex
        cases found
        refine ⟨'0' :: mark :: digits.takeWhile (isDigit 16), ?_,
          .hexadecimal marked nonempty (mem_takeWhile _ _)⟩
        rw [List.cons_append, List.cons_append, List.takeWhile_append_dropWhile]
      · cases found
        refine ⟨'0' :: text.takeWhile (isDigit 8), ?_, .octal (mem_takeWhile _ _)⟩
        rw [List.cons_append, List.takeWhile_append_dropWhile]
    · rename_i nonzero
      split at found
      · rename_i digit
        cases found
        refine ⟨first :: text.takeWhile (isDigit 10), ?_, .decimal nonzero ?_⟩
        · rw [List.cons_append, List.takeWhile_append_dropWhile]
        · rw [List.forall_mem_cons]
          exact ⟨digit, mem_takeWhile _ _⟩
      · cases found

/-- Before white space, `readLiteral` finds the whole literal. -/
theorem readLiteral_of_isLiteral {literal rest : List Char} {size : ℕ}
    (grammar : IsLiteral literal size) (spaces : ∀ letter ∈ rest, isSpace letter) :
    readLiteral (literal ++ rest) = some (size, rest) := by
  have ends : ∀ base ≤ 36, ∀ letter ∈ rest.head?, isDigit base letter = false :=
    fun base small letter first =>
      isDigit_of_isSpace small (spaces letter (List.mem_of_mem_head? first))
  cases grammar with
  | @decimal first digits nonzero inside =>
    obtain ⟨digit, others⟩ := List.forall_mem_cons.mp inside
    obtain ⟨taken, dropped⟩ := takeWhile_run others (ends 10 (by decide))
    rw [List.cons_append, readLiteral, if_neg nonzero, if_pos digit, taken, dropped]
  | @octal digits inside =>
    have plain : hexDigits (digits ++ rest) = none := by
      rw [Option.eq_none_iff_forall_ne_some]
      intro behind hex
      obtain ⟨mark, same, marked, _⟩ := hexDigits_eq_some.mp hex
      -- The mark would be an octal digit or white space.
      have member : mark ∈ digits ++ rest := same ▸ List.mem_cons_self
      rcases List.mem_append.mp member with digit | space
      · have small := inside mark digit
        rcases marked with rfl | rfl <;> exact absurd small (by decide)
      · have blank := spaces mark space
        rcases marked with rfl | rfl <;> exact absurd blank (by decide)
    obtain ⟨taken, dropped⟩ := takeWhile_run inside (ends 8 (by decide))
    rw [List.cons_append, readLiteral, if_pos rfl, plain, taken, dropped]
  | @hexadecimal mark digits marked nonempty inside =>
    obtain ⟨taken, dropped⟩ := takeWhile_run inside (ends 16 (by decide))
    have hex : hexDigits (mark :: digits ++ rest) = some (digits ++ rest) :=
      hexDigits_eq_some.mpr ⟨mark, rfl, marked, taken.symm ▸ nonempty⟩
    rw [List.cons_append, readLiteral, if_pos rfl, hex]
    dsimp only
    rw [taken, dropped]

/-- A literal begins with a digit. -/
theorem isLiteral_cons {literal : List Char} {size : ℕ} (grammar : IsLiteral literal size) :
    ∃ first rest, literal = first :: rest ∧ isDigit 10 first := by
  cases grammar with
  | decimal _ inside => exact ⟨_, _, rfl, inside _ List.mem_cons_self⟩
  | octal => exact ⟨_, _, rfl, rfl⟩
  | hexadecimal => exact ⟨_, _, rfl, rfl⟩

theorem isSign_readSign (text : List Char) :
    ∃ sign, text = sign ++ (readSign text).2 ∧ IsSign sign (readSign text).1 := by
  unfold readSign
  split
  · exact ⟨['-'], rfl, .minus⟩
  · exact ⟨['+'], rfl, .plus⟩
  · exact ⟨[], rfl, .none⟩

/-- A sign is found whole before a digit, and is no white space. -/
theorem readSign_of_isSign {sign : List Char} {negative : Bool} {first : Char}
    (grammar : IsSign sign negative) (digit : isDigit 10 first = true) (rest : List Char) :
    readSign (sign ++ first :: rest) = (negative, first :: rest) ∧
      (sign ++ first :: rest).dropWhile isSpace = sign ++ first :: rest := by
  cases grammar with
  | none =>
    constructor
    · rw [List.nil_append, readSign]
      · rintro _ same
        cases same
        cases digit
      · rintro _ same
        cases same
        cases digit
    · refine List.dropWhile_cons_of_neg fun space => ?_
      rw [isDigit_of_isSpace (by decide) space] at digit
      cases digit
  | plus => exact ⟨rfl, rfl⟩
  | minus => exact ⟨rfl, rfl⟩

/-- **The grammar and the reading.** -/
theorem isNumeral_iff {text : List Char} {k : ℤ} :
    IsNumeral text k ↔
      ∃ found, reading text = some found ∧ (∀ letter ∈ found.rest, isSpace letter) ∧
        found.value = k := by
  constructor
  · intro grammar
    cases grammar with
    | @intro before sign literal after negative size blank signs literals spaces =>
      refine ⟨⟨negative, size, after⟩, ?_, spaces, rfl⟩
      have read := readLiteral_of_isLiteral literals spaces
      obtain ⟨first, rest, rfl, digit⟩ := isLiteral_cons literals
      obtain ⟨split, stays⟩ := readSign_of_isSign signs digit (rest ++ after)
      rw [List.cons_append] at read ⊢
      rw [reading, List.dropWhile_append_of_pos blank, stays, split, read, Option.map_some]
  · rintro ⟨found, read, spaces, rfl⟩
    obtain ⟨⟨size, rest⟩, literal, rfl⟩ := Option.map_eq_some_iff.mp read
    obtain ⟨sign, split, signs⟩ := isSign_readSign (text.dropWhile isSpace)
    obtain ⟨digits, behind, literals⟩ := isLiteral_of_readLiteral literal
    have whole : text.takeWhile isSpace ++ (sign ++ (digits ++ rest)) = text := by
      rw [← behind, ← split, List.takeWhile_append_dropWhile]
    have grammar := IsNumeral.intro (mem_takeWhile isSpace text) signs literals spaces
    rw [whole] at grammar
    exact grammar

/-- The value of the numeral that a text begins with, `0` if there is none. -/
def leading (text : List Char) : ℤ := ((reading text).map Reading.value).getD 0

/-- A numeral has one value. -/
theorem IsNumeral.leading_eq {text : List Char} {k : ℤ} (grammar : IsNumeral text k) :
    leading text = k := by
  obtain ⟨found, read, _, value⟩ := isNumeral_iff.mp grammar
  rw [leading, read, Option.map_some, Option.getD_some, value]

instance (text : List Char) (k : ℤ) : Decidable (IsNumeral text k) :=
  match read : reading text with
  | none => isFalse fun grammar => by
    obtain ⟨_, other, _⟩ := isNumeral_iff.mp grammar
    cases read.symm.trans other
  | some found => decidable_of_iff (found.rest.all isSpace = true ∧ found.value = k)
    ⟨fun whole => isNumeral_iff.mpr ⟨found, read, List.all_eq_true.mp whole.1, whole.2⟩,
      fun grammar => by
        obtain ⟨_, other, spaces, value⟩ := isNumeral_iff.mp grammar
        cases read.symm.trans other
        exact ⟨List.all_eq_true.mpr spaces, value⟩⟩

example : IsNumeral " -0x1F\n".toList (-31) ∧ IsNumeral "017".toList 15 ∧
    ¬ IsNumeral "0x\n".toList 0 ∧ ¬ IsNumeral "09".toList 9 := by decide +kernel

end GstPipeline.Lib
