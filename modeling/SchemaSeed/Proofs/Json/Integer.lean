import SchemaSeed.Proofs.Json.Layout

/-!
# Integers that come back

An integer of 64 bits, signed or unsigned, is read back from its digits (`showsScalar_int`).
Its digits never fill the significand, so none of them is dropped.
-/

namespace SchemaSeed.Json

open Text (Stops ne_of_class)

variable {ds rest : List Char} {n : Nat} {negative : Bool}

/-! ## Digits -/

/-- Digits that follow a number make it no smaller. By induction on the digits. -/
theorem le_ofDigitChars (ds : List Char) (n : Nat) : n ≤ Nat.ofDigitChars 10 ds n := by
  induction ds generalizing n with
  | nil => exact Nat.le_refl n
  | cons d ds ih =>
    rw [Nat.ofDigitChars_cons]
    exact Nat.le_trans (by omega) (ih _)

/-- Digits of a number that fits are all taken. By induction on the digits: the numbers on the way
fit too, since they are smaller. -/
theorem significand_digits (hds : IsDigits ds) (hrest : Stops Char.isDigit rest)
    (hsize : Nat.ofDigitChars 10 ds n < UInt64.size) (count : Nat) :
    significand n count (ds ++ rest) = (Nat.ofDigitChars 10 ds n, count + ds.length, rest) := by
  -- The significand grows with each digit, and `hsize` says that it never gets too large.
  induction ds generalizing n count with
  | nil =>
    cases rest with
    | nil => rfl
    | cons c tail =>
      have hc : ¬ (c.isDigit ∧ n * 10 + digitValue c < UInt64.size) := by
        rw [hrest c rfl]
        exact fun h => Bool.false_ne_true h.1
      rw [List.nil_append, significand, if_neg hc]
      rfl
  | cons d ds ih =>
    obtain ⟨hd, hds⟩ := List.forall_mem_cons.1 hds
    have hvalue : 10 * n + (d.toNat - '0'.toNat) = n * 10 + digitValue d := by
      rw [Nat.mul_comm]
      rfl
    rw [Nat.ofDigitChars_cons, hvalue] at hsize ⊢
    have hlt := Nat.lt_of_le_of_lt (le_ofDigitChars ds _) hsize
    rw [List.cons_append, significand, if_pos ⟨hd, hlt⟩, ih hds hsize, List.length_cons]
    simp only [Prod.mk.injEq, true_and, and_true]
    omega

theorem isDigits_toDigits (n : Nat) : IsDigits (Nat.toDigits 10 n) := fun _ hc =>
  Nat.isDigit_of_mem_toDigits (by decide) (by decide) hc

/-- No number but zero begins with a zero, so that its first digit is taken for what it is. -/
theorem exists_cons_toDigits (hn : n ≠ 0) :
    ∃ d ds, Nat.toDigits 10 n = d :: ds ∧ d ≠ '0' := by
  induction n using Nat.strong_induction_on with
  | _ n ih =>
    rcases Nat.lt_or_ge n 10 with hlt | hle
    · have hdigit : ∀ m < 10, m ≠ 0 → Nat.digitChar m ≠ '0' := by decide
      exact ⟨_, [], Nat.toDigits_of_lt_base hlt, hdigit n hlt hn⟩
    · obtain ⟨d, ds, hds, hd⟩ := ih (n / 10) (by omega) (by omega)
      refine ⟨d, ds ++ [Nat.digitChar (n % 10)], ?_, hd⟩
      rw [Nat.toDigits_of_base_le (by decide) hle, hds, List.cons_append]

/-! ## Numbers without fraction and exponent -/

/-- Where no point and no exponent follows, the number ends with its integral part. -/
theorem afterInteger_stops (hrest : Stops continuesNumber rest) {start : Int}
    (whole : List Char → Except Fault (Number × List Char)) :
    afterInteger negative n start whole rest = whole rest := by
  cases rest with
  | nil => rfl
  | cons c tail =>
    have hc := hrest c rfl
    simp only [continuesNumber, Bool.or_eq_false_iff, decide_eq_false_iff_not] at hc
    obtain ⟨⟨⟨-, hpoint⟩, he⟩, hE⟩ := hc
    rw [afterInteger, if_neg hpoint, if_neg (not_or.2 ⟨he, hE⟩)]

/-- The digits of a natural number of 64 bits are read as that number. -/
theorem numeral_toDigits (negative : Bool) (hn : n < UInt64.size)
    (hrest : Stops continuesNumber rest) :
    numeral negative (Nat.toDigits 10 n ++ rest) = .ok (integerFrom negative n, rest) := by
  have hdigit := stops_isDigit hrest
  have hstart := startsWithDigit_of_stops hdigit
  by_cases hzero : n = 0
  · subst hzero
    rw [Nat.toDigits_zero, List.singleton_append, numeral, if_pos rfl, hstart,
      if_neg Bool.false_ne_true, afterInteger_stops hrest]
  · obtain ⟨d, ds, hds, hd⟩ := exists_cons_toDigits hzero
    have hvalue : Nat.ofDigitChars 10 ds (digitValue d) = n := by
      have hall := Nat.ofDigitChars_ten_toDigits (n := n)
      rwa [hds, Nat.ofDigitChars_cons, Nat.mul_zero, Nat.zero_add] at hall
    obtain ⟨hdDigit, hdsDigits⟩ := List.forall_mem_cons.1 (hds ▸ isDigits_toDigits n)
    rw [hds, List.cons_append, numeral, if_neg hd, if_pos hdDigit,
      significand_digits hdsDigits hdigit (hvalue ▸ hn)]
    simp only [hstart, Bool.false_eq_true, if_false]
    rw [afterInteger_stops hrest, hvalue]

/-- The same as a first token, with the proof that it takes something away. -/
theorem numeralFrom_toDigits (negative : Bool) (hn : n < UInt64.size)
    (hrest : Stops continuesNumber rest) :
    ∃ shorter, numeralFrom negative (Nat.toDigits 10 n ++ rest) =
      .ok (.scalar ⟨.number (integerFrom negative n), rest, shorter⟩) := by
  have hnumeral := numeral_toDigits negative hn hrest
  refine ⟨shorter_of_numeral hnumeral, ?_⟩
  rw [numeralFrom]
  split
  · next heq => rw [hnumeral] at heq; cases heq
  · next heq =>
    rw [hnumeral] at heq
    cases heq
    rfl

/-- A digit begins a number; the other tokens begin with other characters. -/
theorem opensScalar_digit {cs tail : List Char} {d : Char} {v : Value} (hcs : cs = d :: tail)
    (hd : d.isDigit = true)
    (h : ∃ shorter, numeralFrom false cs = .ok (.scalar ⟨v, rest, shorter⟩)) :
    OpensScalar cs v rest := by
  subst hcs
  obtain ⟨shorter, hread⟩ := h
  refine ⟨shorter, ?_⟩
  rw [openingFrom, if_neg (ne_of_class hd (by decide)), if_neg (ne_of_class hd (by decide)),
    if_neg (ne_of_class hd (by decide)), if_neg (ne_of_class hd (by decide)), if_pos hd, hread]

/-- An integer of 64 bits, signed or unsigned: those are read as integers, and all others as reals.
-/
def FitsInteger (i : Int) : Prop :=
  -9_223_372_036_854_775_808 ≤ i ∧ i < 18_446_744_073_709_551_616

/-- An integer that fits is read back as it was written, with whatever follows it. -/
theorem showsScalar_int {i : Int} (hi : FitsInteger i) :
    ShowsScalar (.number (.int i)) (intText i) := by
  intro rest hrest
  obtain ⟨hleast, hgreatest⟩ := hi
  have hnat : i.natAbs < UInt64.size := by
    simp only [UInt64.size]
    omega
  rw [intText]
  split_ifs with hneg
  -- A negative one: the minus is taken off, and the rest is read as a natural number.
  · obtain ⟨shorter, hread⟩ := numeralFrom_toDigits true hnat hrest
    have hint : integerFrom true i.natAbs = .int i := by
      rw [integerFrom, if_pos rfl, if_pos (by omega)]
      congr 1
      omega
    refine ⟨Nat.lt_succ_of_lt shorter, ?_⟩
    show (numeralFrom true (Nat.toDigits 10 i.natAbs ++ rest)).map _ = _
    rw [hread, hint]
    rfl
  -- A natural number: its first digit says that it is a number.
  · obtain ⟨shorter, hread⟩ := numeralFrom_toDigits false hnat hrest
    have hint : integerFrom false i.natAbs = .int i := by
      rw [integerFrom, if_neg Bool.false_ne_true]
      congr 1
      omega
    obtain ⟨d, tail, hds⟩ := List.exists_cons_of_ne_nil (Nat.toDigits_ne_nil (n := i.natAbs))
    have hd : d.isDigit = true := isDigits_toDigits i.natAbs d (hds ▸ List.mem_cons_self)
    exact opensScalar_digit (congrArg (· ++ rest) hds) hd ⟨shorter, hint ▸ hread⟩

end SchemaSeed.Json
