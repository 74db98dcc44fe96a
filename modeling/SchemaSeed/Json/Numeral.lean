import SchemaSeed.Json.Scan

/-!
# Reading numbers

The digits of a number are gathered in a significand below `2 ^ 64`. Once it is full,
further digits of the integral part only raise the exponent of ten, and further digits of
the fraction are dropped. A number without fraction and exponent whose significand is not
full is an integer if it fits 64 bits; any other number is a double, made from the
significand by one multiplication or division with a power of ten. What is left is
shorter than what was given (`shorter_of_numeral`).
-/

namespace SchemaSeed.Json

open Decimal (Binary64)

def digitValue (c : Char) : Nat := c.toNat - 48

/-- Digits appended to a significand as long as it stays below `2 ^ 64`, and how many. -/
def significand (n count : Nat) : List Char → Nat × Nat × List Char
  | [] => (n, count, [])
  | c :: rest =>
    if c.isDigit ∧ n * 10 + digitValue c < UInt64.size then
      significand (n * 10 + digitValue c) (count + 1) rest
    else (n, count, c :: rest)

def skipDigits (cs : List Char) : List Char := cs.dropWhile Char.isDigit

def startsWithDigit : List Char → Bool
  | [] => false
  | c :: _ => c.isDigit

def powerOfTen (e : Nat) : Binary64 := (Binary64.ofNat (Nat.pow 10 e)).getD (.zero false)

/-- Divides by the greatest power of ten a number of times, until nothing is left. -/
def divideOut : Nat → Binary64 → Binary64
  | 0, x => x
  | k + 1, x => if x.isZero then x else divideOut k ((x.div (powerOfTen 308)).getD x)

/-- `x · 10 ^ e`. A power below `10 ^ (-308)` is divided out in several steps. Nothing when
the result is too large. -/
def scaleByTen (x : Binary64) (e : Int) : Option Binary64 :=
  if 308 < e then if x.isZero then some x else none
  else if 0 ≤ e then x.mul (powerOfTen e.toNat)
  else
    let steps := ((-e).toNat - 1) / 308
    (divideOut steps x).div (powerOfTen ((-e).toNat - 308 * steps))

/-- A double from its sign, significand and power of ten. -/
def realFrom (negative : Bool) (n : Nat) (e : Int) (rest : List Char) :
    Except Fault (Number × List Char) :=
  match (Binary64.ofNat n).bind (scaleByTen · e) with
  | some x => .ok (.real { x with negative := negative }, rest)
  | none => .error (.before .numberOutOfRange rest)

def integerFrom (negative : Bool) (n : Nat) : Number :=
  if negative then
    if 1 ≤ n ∧ n ≤ 9_223_372_036_854_775_808 then .int (-(n : Int))
    else .real { (Binary64.ofNat n).getD (.zero true) with negative := true }
  else .int n

/-- The largest exponent that is read in full; sums are cut off at it. -/
def exponentLimit : Nat := 2_147_483_647

/-- The digits of an exponent after the first. Past the limit, the number is zero when it
has no significand or the exponent is negative, and too large otherwise. -/
def exponentDigits (negative : Bool) (n : Nat) (start : Int) (raising : Bool) (e : Nat) :
    List Char → Except Fault (Number × List Char)
  | c :: rest =>
    if c.isDigit then
      if e * 10 + digitValue c ≤ exponentLimit then
        exponentDigits negative n start raising (e * 10 + digitValue c) rest
      else if n ≠ 0 ∧ raising then .error (.before .numberOutOfRange rest)
      else .ok (.real (.zero negative), skipDigits rest)
    else finish (c :: rest)
  | [] => finish []
where
  finish (rest : List Char) : Except Fault (Number × List Char) :=
    let total := if raising then start + (e : Int) else start - (e : Int)
    let limit : Int := exponentLimit
    realFrom negative n (max (-limit - 1) (min limit total)) rest

def exponentPart (negative : Bool) (n : Nat) (start : Int) (cs : List Char) :
    Except Fault (Number × List Char) :=
  let (raising, digits) :=
    match cs with
    | c :: rest => if c = '+' then (true, rest) else if c = '-' then (false, rest) else (true, cs)
    | [] => (true, cs)
  match digits with
  | [] => .error (.before .endInValue [])
  | c :: rest =>
    if c.isDigit then exponentDigits negative n start raising (digitValue c) rest
    else .error (.ahead .invalidNumber (c :: rest))

def fractionPart (negative : Bool) (n : Nat) (start : Int) (cs : List Char) :
    Except Fault (Number × List Char) :=
  let (n, count, rest) := significand n 0 cs
  if count = 0 ∧ ¬ startsWithDigit rest then
    .error (.ahead (if rest.isEmpty then .endInValue else .invalidNumber) rest)
  else
    let e := start - (count : Int)
    match skipDigits rest with
    | c :: rest' =>
      if c = 'e' ∨ c = 'E' then exponentPart negative n e rest'
      else realFrom negative n e (c :: rest')
    | [] => realFrom negative n e []

/-- What may follow the integral part; `whole` is the number if nothing does. -/
def afterInteger (negative : Bool) (n : Nat) (start : Int)
    (whole : List Char → Except Fault (Number × List Char)) :
    List Char → Except Fault (Number × List Char)
  | [] => whole []
  | c :: rest =>
    if c = '.' then fractionPart negative n start rest
    else if c = 'e' ∨ c = 'E' then exponentPart negative n start rest
    else whole (c :: rest)

def numeral (negative : Bool) : List Char → Except Fault (Number × List Char)
  | [] => .error (.before .endInValue [])
  | c :: rest =>
    if c = '0' then
      if startsWithDigit rest then .error (.ahead .invalidNumber rest)
      else afterInteger negative 0 0 (fun rest => .ok (integerFrom negative 0, rest)) rest
    else if c.isDigit then
      let (n, _, rest) := significand (digitValue c) 0 rest
      if startsWithDigit rest then
        let after := skipDigits rest
        let extra : Int := ((rest.length - after.length : Nat) : Int)
        afterInteger negative n extra (realFrom negative n extra) after
      else afterInteger negative n 0 (fun rest => .ok (integerFrom negative n, rest)) rest
    else .error (.ahead .invalidNumber (c :: rest))

/-! ### What is left is shorter -/

theorem length_skipDigits_le (cs : List Char) : (skipDigits cs).length ≤ cs.length :=
  (List.dropWhile_sublist _).length_le

theorem length_significand_le (n count : Nat) (cs : List Char) :
    (significand n count cs).2.2.length ≤ cs.length := by
  fun_induction significand n count cs with
  | case1 => exact Nat.le_refl _
  | case2 _ _ _ _ _ ih => simp only [List.length_cons]; omega
  | case3 => exact Nat.le_refl _

def LeavesAtMost (cs : List Char) (r : Except Fault (Number × List Char)) : Prop :=
  ∀ number rest, r = .ok (number, rest) → rest.length ≤ cs.length

theorem LeavesAtMost.error (cs : List Char) (fault : Fault) : LeavesAtMost cs (.error fault) :=
  fun _ _ h => nomatch h

theorem LeavesAtMost.ok {cs rest : List Char} (number : Number) (h : rest.length ≤ cs.length) :
    LeavesAtMost cs (.ok (number, rest)) := by
  intro _ _ he; cases he; exact h

theorem LeavesAtMost.mono {cs ds : List Char} {r : Except Fault (Number × List Char)}
    (h : LeavesAtMost cs r) (hle : cs.length ≤ ds.length) : LeavesAtMost ds r :=
  fun number rest he => Nat.le_trans (h number rest he) hle

theorem leavesAtMost_realFrom (negative : Bool) (n : Nat) (e : Int) (rest : List Char) :
    LeavesAtMost rest (realFrom negative n e rest) := by
  unfold realFrom
  split
  · exact .ok _ (Nat.le_refl _)
  · exact .error _ _

theorem leavesAtMost_exponentDigits (negative : Bool) (n : Nat) (start : Int) (raising : Bool)
    (e : Nat) (cs : List Char) :
    LeavesAtMost cs (exponentDigits negative n start raising e cs) := by
  fun_induction exponentDigits negative n start raising e cs with
  | case1 _ _ _ _ _ ih => exact ih.mono (by simp)
  | case2 => exact .error _ _
  | case3 _ _ rest =>
    have := length_skipDigits_le rest
    exact .ok _ (by simp only [List.length_cons]; omega)
  | case4 => exact leavesAtMost_realFrom _ _ _ _
  | case5 => exact leavesAtMost_realFrom _ _ _ _

theorem leavesAtMost_exponentPart (negative : Bool) (n : Nat) (start : Int) (cs : List Char) :
    LeavesAtMost cs (exponentPart negative n start cs) := by
  unfold exponentPart
  split
  next raising digits heq =>
    have hle : digits.length ≤ cs.length := by
      split at heq
      · split at heq
        · cases heq; simp
        · split at heq <;> cases heq <;> simp
      · cases heq; simp
    split
    · exact .error _ _
    · split
      · exact (leavesAtMost_exponentDigits _ _ _ _ _ _).mono
          (by simp only [List.length_cons] at hle; omega)
      · exact .error _ _

theorem leavesAtMost_fractionPart (negative : Bool) (n : Nat) (start : Int) (cs : List Char) :
    LeavesAtMost cs (fractionPart negative n start cs) := by
  unfold fractionPart
  have hs := length_significand_le n 0 cs
  split
  next n' count rest heq =>
    rw [heq] at hs
    have hd := length_skipDigits_le rest
    split
    · exact .error _ _
    · split
      · next hrest =>
        rw [hrest] at hd
        simp only [List.length_cons] at hd
        split
        · exact (leavesAtMost_exponentPart _ _ _ _).mono (by simp only at hs; omega)
        · exact (leavesAtMost_realFrom _ _ _ _).mono
            (by simp only [List.length_cons] at hs ⊢; omega)
      · exact (leavesAtMost_realFrom _ _ _ _).mono (by simp)

theorem leavesAtMost_afterInteger {negative : Bool} {n : Nat} {start : Int}
    {whole : List Char → Except Fault (Number × List Char)}
    (hw : ∀ rest, LeavesAtMost rest (whole rest)) (cs : List Char) :
    LeavesAtMost cs (afterInteger negative n start whole cs) := by
  unfold afterInteger
  split
  · exact hw _
  · split
    · exact (leavesAtMost_fractionPart _ _ _ _).mono (by simp)
    · split
      · exact (leavesAtMost_exponentPart _ _ _ _).mono (by simp)
      · exact hw _

theorem shorter_of_numeral {negative : Bool} {cs rest : List Char} {number : Number}
    (h : numeral negative cs = .ok (number, rest)) : rest.length < cs.length := by
  unfold numeral at h
  split at h
  · cases h
  next c tail =>
    -- The first character was taken; what reads on from it takes what it likes.
    have : LeavesAtMost tail (.ok (number, rest)) := by
      split at h
      · split at h
        · cases h
        · rw [← h]; exact leavesAtMost_afterInteger (fun _ => .ok _ (Nat.le_refl _)) _
      · split at h
        · have hs := length_significand_le (digitValue c) 0 tail
          split at h
          next n count rest' heq =>
            rw [heq] at hs
            split at h
            · rw [← h]
              exact (leavesAtMost_afterInteger (leavesAtMost_realFrom _ _ _) _).mono
                (Nat.le_trans (length_skipDigits_le _) hs)
            · rw [← h]
              exact (leavesAtMost_afterInteger (fun _ => .ok _ (Nat.le_refl _)) _).mono hs
        · cases h
    have := this _ _ rfl
    simp only [List.length_cons]; omega

end SchemaSeed.Json
