import SchemaSeed.Json.Number

/-!
# The characters of numbers

A number is written with digits, signs, a point and the letter of the exponent
(`isNumeral_of_mem_text`), and is never the empty text (`text_ne_nil`). So a number needs
no quotes where commas or parentheses end a token.
-/

namespace SchemaSeed.Json

open Decimal (Binary64 Digits)

/-- A character that may stand in the text of a number. What is written around a number is told
apart from it by this. -/
def isNumeral (c : Char) : Bool := c.isDigit || c == '-' || c == '+' || c == '.' || c == 'e'

theorem isNumeral_of_mem_toDigits {n : Nat} {c : Char} (h : c ∈ Nat.toDigits 10 n) :
    isNumeral c = true := by
  simp [isNumeral, Nat.isDigit_of_mem_toDigits (by decide) (by decide) h]

/-- Integers are written as the library writes them. -/
theorem intText_eq_toString (i : Int) : String.ofList (intText i) = toString i := by
  rw [Int.toString_eq_repr]
  cases i with
  | ofNat n => rfl
  | negSucc n =>
    have hneg : Int.negSucc n < 0 := Int.negSucc_lt_zero n
    simp only [intText, hneg, if_true, Int.natAbs_negSucc, Int.repr, Nat.repr]
    rw [← String.ofList_append]
    rfl

theorem isNumeral_of_mem_intText {i : Int} {c : Char} (h : c ∈ intText i) :
    isNumeral c = true := by
  unfold intText at h
  split at h
  · rcases List.mem_cons.1 h with rfl | h
    · rfl
    · exact isNumeral_of_mem_toDigits h
  · exact isNumeral_of_mem_toDigits h

theorem intText_ne_nil (i : Int) : intText i ≠ [] := by
  unfold intText
  split
  · exact List.cons_ne_nil _ _
  · exact Nat.toDigits_ne_nil

/-- Whichever layout is chosen, only numerals are put around the digits. There is a case for each
layout of `Digits.text`. -/
theorem isNumeral_of_mem_digitsText {format : NumberFormat} {d : Digits} {c : Char}
    (h : c ∈ Digits.text format d) : isNumeral c = true := by
  have hdigits : ∀ {x}, x ∈ Nat.toDigits 10 d.digits → isNumeral x = true :=
    isNumeral_of_mem_toDigits
  have hzeros : ∀ {n x}, x ∈ List.replicate n '0' → isNumeral x = true := by
    intro n x hx
    rw [List.eq_of_mem_replicate hx]
    rfl
  unfold Digits.text at h
  simp only at h
  split at h
  -- A number without an exponent: the point comes behind the digits, among them or in front of
  -- them.
  · split at h
    · simp only [List.mem_append, List.mem_cons, List.not_mem_nil, or_false] at h
      rcases h with (h | h) | rfl | rfl
      · exact hdigits h
      · exact hzeros h
      · rfl
      · rfl
    · split at h
      · simp only [List.mem_append, List.mem_cons] at h
        rcases h with h | rfl | h
        · exact hdigits (List.mem_of_mem_take h)
        · rfl
        · exact hdigits (List.mem_of_mem_drop h)
      · simp only [List.cons_append, List.mem_append, List.mem_cons] at h
        rcases h with rfl | rfl | h | h
        · rfl
        · rfl
        · exact hzeros h
        · exact hdigits h
  -- With an exponent, its sign and its digits follow.
  · simp only [List.mem_append, List.mem_cons] at h
    rcases h with (h | h) | rfl | rfl | h
    · exact hdigits (List.mem_of_mem_take h)
    · split at h
      · exact (List.not_mem_nil h).elim
      · rcases List.mem_cons.1 h with rfl | h
        · rfl
        · exact hdigits (List.mem_of_mem_drop h)
    · rfl
    · split <;> rfl
    · exact isNumeral_of_mem_toDigits h

theorem digitsText_ne_nil (format : NumberFormat) (d : Digits) : Digits.text format d ≠ [] := by
  unfold Digits.text
  simp only
  split
  · split
    · simp
    · split <;> simp
  · simp

/-- A real number is written by its digits, its sign and what the layout adds. -/
theorem isNumeral_of_mem_realText {x : Binary64} {c : Char} (h : c ∈ realText x) :
    isNumeral c = true := by
  have hmagnitude : ∀ {c}, c ∈ (if x.isZero then ['0', '.', '0']
      else Digits.text .json (Digits.shortest x)) → isNumeral c = true := by
    intro c hc
    split at hc
    · exact List.all_eq_true.1 (show ['0', '.', '0'].all isNumeral = true by decide) c hc
    · exact isNumeral_of_mem_digitsText hc
  unfold realText at h
  simp only at h
  split at h
  · rcases List.mem_cons.1 h with rfl | h
    · rfl
    · exact hmagnitude h
  · exact hmagnitude h

theorem realText_ne_nil (x : Binary64) : realText x ≠ [] := by
  unfold realText
  simp only
  split
  · exact List.cons_ne_nil _ _
  · split
    · exact List.cons_ne_nil _ _
    · exact digitsText_ne_nil _ _

namespace Number

/-- No number has a blank, a comma, a quote or a bracket in its text. -/
theorem isNumeral_of_mem_text {n : Number} {c : Char} (h : c ∈ n.text) : isNumeral c = true := by
  cases n with
  | int i => exact isNumeral_of_mem_intText h
  | real x => exact isNumeral_of_mem_realText h

theorem text_ne_nil (n : Number) : n.text ≠ [] := by
  cases n with
  | int i => exact intText_ne_nil i
  | real x => exact realText_ne_nil x

end Number

end SchemaSeed.Json
