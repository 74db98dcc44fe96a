import Mathlib.Tactic.SplitIfs
import SchemaSeed.Proofs.Json.Reading

/-!
# Tokens that were read

What was read as a string, a number or a word is one: the text that was taken is derived by
the grammar, and the rest is what follows it (`spells_of_stringFrom`, `isNumeral_of_numeral`,
`isOpening_of_openingFrom`).
-/

namespace SchemaSeed.Json

open Text (stops_dropWhile)

variable {cs rest : List Char} {c : Char} {n : Nat}

/-! ## Strings -/

/-- Four digits were read only if four digits are there. -/
theorem isQuad_of_hexQuad (h : hexQuad cs = .ok (n, rest)) : ∃ q, IsQuad q n ∧ cs = q ++ rest := by
  unfold hexQuad at h
  split at h
  · split at h
    · next ha hb hc hd =>
      cases h
      exact ⟨_, .digits ha hb hc hd, rfl⟩
    · cases h
  · cases h

/-- The table of the reader and that of the grammar agree. -/
theorem mem_shortEscapes {e : Char} (h : shortEscape? e = some c) : (e, c) ∈ shortEscapes := by
  unfold shortEscape? at h
  split_ifs at h with hself hb hf hn hr ht
  all_goals cases h
  · rcases hself with rfl | rfl | rfl <;> decide
  all_goals subst e; decide

/-- After the first half of a pair, an escape by the second half must have come. -/
theorem exists_quad_of_lowSurrogate {high : Nat} (h : lowSurrogate high cs = .ok (c, rest)) :
    ∃ q low, IsQuad q low ∧ (0xDC00 ≤ low ∧ low ≤ 0xDFFF) ∧ c = joinSurrogates high low ∧
      cs = '\\' :: 'u' :: (q ++ rest) := by
  unfold lowSurrogate at h
  split at h
  · cases h
  · cases h
  · split_ifs at h with hbackslash hunit
    obtain rfl := not_not.1 hbackslash
    obtain rfl := not_not.1 hunit
    split at h
    · cases h
    · next hquad =>
      obtain ⟨q, hq, rfl⟩ := isQuad_of_hexQuad hquad
      split_ifs at h with hlow
      obtain ⟨rfl, rfl⟩ := Prod.mk.inj (Except.ok.inj h)
      exact ⟨q, _, hq, hlow, rfl, rfl⟩

/-- An escape spells one character. There is a case for each kind of escape; a second half without a
first one was refused. -/
theorem spells_of_escape (h : escape cs = .ok (c, rest)) :
    ∃ e, cs = e ++ rest ∧
      ∀ text body, Spells text body → Spells (c :: text) ('\\' :: (e ++ body)) := by
  unfold escape at h
  split at h
  · cases h
  · next e tail =>
    split at h
    · next hshort =>
      cases h
      exact ⟨[e], rfl, fun text body hbody => .short (mem_shortEscapes hshort) hbody⟩
    · split_ifs at h with hunit
      obtain rfl := not_not.1 hunit
      split at h
      · cases h
      · next hquad =>
        obtain ⟨q, hq, rfl⟩ := isQuad_of_hexQuad hquad
        split_ifs at h with hhigh hlow
        -- The first half of a pair, and then the second one.
        · obtain ⟨q', low, hq', hlow, hc, rfl⟩ := exists_quad_of_lowSurrogate h
          refine ⟨'u' :: (q ++ '\\' :: 'u' :: q'), ?_, fun text body hbody => ?_⟩
          · rw [List.cons_append, List.append_assoc, List.cons_append, List.cons_append]
          · have hpair := Spells.pair hq hq' hhigh hlow hbody
            rwa [hc, joinSurrogates, List.cons_append, List.append_assoc, List.cons_append,
              List.cons_append]
        · cases h
          refine ⟨'u' :: q, rfl, fun text body hbody => ?_⟩
          -- Outside the surrogates the number is that of a character.
          exact .unit hq (by omega) hbody

/-- By induction on the literal: each character or escape spells the next character. -/
theorem spells_of_textFrom {done text : List Char} (h : textFrom done cs = .ok (text, rest)) :
    ∃ read body, text = done.reverse ++ read ∧ Spells read body ∧ cs = body ++ '"' :: rest := by
  fun_induction textFrom done cs with
  | case1 => cases h
  | case2 =>
    cases h
    exact ⟨[], [], (List.append_nil _).symm, .nil, rfl⟩
  | case3 => cases h
  | case4 done tail c tail' hescape _ _ ih =>
    obtain ⟨read, body, rfl, hbody, rfl⟩ := ih h
    obtain ⟨e, rfl, hspells⟩ := spells_of_escape hescape
    refine ⟨c :: read, _, by simp, hspells read body hbody, by simp⟩
  | case5 => cases h
  | case6 done c tail hquote hbackslash hcontrol ih =>
    obtain ⟨read, body, rfl, hbody, rfl⟩ := ih h
    exact ⟨c :: read, c :: body, by simp, .plain ⟨hquote, hbackslash, hcontrol⟩ hbody, rfl⟩

/-- What was read as a string spells it, and its quote was found. -/
theorem spells_of_stringFrom {t : Taken String cs.length} (h : stringFrom cs = .ok t) :
    ∃ body, Spells t.value.toList body ∧ cs = body ++ '"' :: t.rest := by
  unfold stringFrom at h
  split at h
  · cases h
  · next htext =>
    cases h
    obtain ⟨read, body, rfl, hbody, hcs⟩ := spells_of_textFrom htext
    refine ⟨body, ?_, hcs⟩
    rwa [String.toList_ofList]

/-! ## Numbers -/

section Numbers

variable {negative raising : Bool} {start : Int} {number : Number}

theorem isDigits_nil : IsDigits [] := fun _ h => nomatch h

theorem isDigits_cons {ds : List Char} (hc : c.isDigit = true) (hds : IsDigits ds) :
    IsDigits (c :: ds) :=
  List.forall_mem_cons.2 ⟨hc, hds⟩

/-- What is passed over as digits are digits, and none comes after them. -/
theorem exists_digits_skipDigits (cs : List Char) :
    ∃ ds, IsDigits ds ∧ cs = ds ++ skipDigits cs :=
  ⟨cs.takeWhile Char.isDigit, fun _ hc => List.mem_takeWhile_imp hc,
    List.takeWhile_append_dropWhile.symm⟩

theorem startsWithDigit_skipDigits (cs : List Char) : startsWithDigit (skipDigits cs) = false :=
  startsWithDigit_of_stops (stops_dropWhile cs)

/-- The significand took some digits, as many as it has counted. -/
theorem exists_digits_significand (n count : Nat) (cs : List Char) :
    ∃ ds, IsDigits ds ∧ cs = ds ++ (significand n count cs).2.2 ∧
      (significand n count cs).2.1 = count + ds.length := by
  fun_induction significand n count cs with
  | case1 => exact ⟨[], isDigits_nil, rfl, rfl⟩
  | case2 n count c tail hc ih =>
    obtain ⟨ds, hds, htail, hcount⟩ := ih
    refine ⟨c :: ds, isDigits_cons hc.1 hds, ?_, ?_⟩
    · rw [List.cons_append, ← htail]
    · rw [hcount, List.length_cons]
      omega
  | case3 => exact ⟨[], isDigits_nil, rfl, rfl⟩

/-- Making a number of its parts takes nothing more from the text. -/
theorem rest_of_realFrom {e : Int} {ds : List Char}
    (h : realFrom negative n e ds = .ok (number, rest)) : rest = ds := by
  unfold realFrom at h
  split at h
  · cases h
    rfl
  · cases h

theorem exists_digits_of_exponentDigits {e : Nat}
    (h : exponentDigits negative n start raising e cs = .ok (number, rest)) :
    ∃ ds, IsDigits ds ∧ cs = ds ++ rest := by
  fun_induction exponentDigits negative n start raising e cs with
  | case1 e c tail hc _ ih =>
    obtain ⟨ds, hds, rfl⟩ := ih h
    exact ⟨c :: ds, isDigits_cons hc hds, rfl⟩
  | case2 => cases h
  | case3 e c tail hc =>
    cases h
    obtain ⟨ds, hds, htail⟩ := exists_digits_skipDigits tail
    refine ⟨c :: ds, isDigits_cons hc hds, ?_⟩
    rw [List.cons_append, ← htail]
  | case4 => exact ⟨[], isDigits_nil, (rest_of_realFrom h).symm⟩
  | case5 => exact ⟨[], isDigits_nil, (rest_of_realFrom h).symm⟩

/-- What follows the letter of an exponent: a sign or none, and at least one digit. -/
theorem isExponent_of_exponentPart
    (h : exponentPart negative n start cs = .ok (number, rest)) :
    ∃ body, cs = body ++ rest ∧
      ∀ letter, letter = 'e' ∨ letter = 'E' → IsExponent (letter :: body) := by
  have hdigits : ∀ (sign : List Char) {raising : Bool} {d : Char} {tail : List Char},
      sign ∈ [[], ['+'], ['-']] → d.isDigit = true →
      exponentDigits negative n start raising (digitValue d) tail = .ok (number, rest) →
      ∃ body, sign ++ d :: tail = body ++ rest ∧
        ∀ letter, letter = 'e' ∨ letter = 'E' → IsExponent (letter :: body) := by
    intro sign raising d tail hsign hd h
    obtain ⟨ds, hds, rfl⟩ := exists_digits_of_exponentDigits h
    refine ⟨sign ++ d :: ds, ?_, fun letter hletter => .present hletter hsign hd hds⟩
    rw [List.append_assoc, List.cons_append]
  unfold exponentPart at h
  split at h
  next raising digits hsign =>
    split at h
    · cases h
    · next d tail =>
      split_ifs at h with hd
      -- The sign is a plus, a minus, or missing.
      split at hsign
      · split_ifs at hsign with hplus hminus
        · cases hsign
          exact hplus ▸ hdigits ['+'] (by decide) hd h
        · cases hsign
          exact hminus ▸ hdigits ['-'] (by decide) hd h
        · cases hsign
          exact hdigits [] (by decide) hd h
      · cases hsign

/-- The digits of a fraction: those of the significand, and those that were dropped. There is one at
least. -/
theorem exists_digits_of_startsWithDigit
    (h : ¬ ((significand n 0 cs).2.1 = 0 ∧ ¬ startsWithDigit (significand n 0 cs).2.2)) :
    ∃ body, IsFraction ('.' :: body) ∧ cs = body ++ skipDigits (significand n 0 cs).2.2 := by
  obtain ⟨ds, hds, hcs, hcount⟩ := exists_digits_significand n 0 cs
  obtain ⟨es, hes, hrest⟩ := exists_digits_skipDigits (significand n 0 cs).2.2
  have hall : IsDigits (ds ++ es) := fun c hc => (List.mem_append.1 hc).elim (hds c) (hes c)
  have hne : ds ++ es ≠ [] := by
    intro hnil
    obtain ⟨rfl, rfl⟩ := List.append_eq_nil_iff.1 hnil
    refine h ⟨hcount, ?_⟩
    rw [hrest, List.nil_append, startsWithDigit_skipDigits]
    decide
  obtain ⟨d, tail, hcons⟩ := List.exists_cons_of_ne_nil hne
  rw [hcons] at hall
  refine ⟨d :: tail, .present (hall d List.mem_cons_self) fun c hc =>
    hall c (List.mem_cons_of_mem _ hc), ?_⟩
  rw [← hcons, List.append_assoc, ← hrest, ← hcs]

/-- What follows the point of a fraction, and its exponent. -/
theorem isFraction_of_fractionPart
    (h : fractionPart negative n start cs = .ok (number, rest)) :
    ∃ body e, IsFraction ('.' :: body) ∧ IsExponent e ∧ cs = body ++ (e ++ rest) := by
  unfold fractionPart at h
  simp only at h
  split_ifs at h with hdigits
  obtain ⟨body, hbody, hcs⟩ := exists_digits_of_startsWithDigit hdigits
  split at h
  · next letter tail hskip =>
    rw [hskip] at hcs
    split_ifs at h with hletter
    · obtain ⟨e, rfl, he⟩ := isExponent_of_exponentPart h
      exact ⟨body, letter :: e, hbody, he letter hletter, hcs⟩
    · cases rest_of_realFrom h
      exact ⟨body, [], hbody, .absent, hcs⟩
  · next hskip =>
    rw [hskip] at hcs
    cases rest_of_realFrom h
    exact ⟨body, [], hbody, .absent, hcs⟩

/-- What follows the integral part of a number: a fraction, an exponent, both or neither. -/
theorem isFraction_of_afterInteger {whole : List Char → Except Fault (Number × List Char)}
    (hwhole : ∀ ds, whole ds = .ok (number, rest) → rest = ds)
    (h : afterInteger negative n start whole cs = .ok (number, rest)) :
    ∃ f e, IsFraction f ∧ IsExponent e ∧ cs = f ++ (e ++ rest) := by
  unfold afterInteger at h
  split at h
  · cases hwhole _ h
    exact ⟨[], [], .absent, .absent, rfl⟩
  · next c tail =>
    split_ifs at h with hpoint hletter
    · subst hpoint
      obtain ⟨body, e, hbody, he, rfl⟩ := isFraction_of_fractionPart h
      exact ⟨_, e, hbody, he, rfl⟩
    · obtain ⟨body, rfl, he⟩ := isExponent_of_exponentPart h
      exact ⟨[], _, .absent, he c hletter, rfl⟩
    · cases hwhole _ h
      exact ⟨[], [], .absent, .absent, rfl⟩

/-- A number that was read has the text of one. The integral part is zero alone, or begins with
another digit; the rest is the same for both. -/
theorem isNumeral_of_numeral (h : numeral negative cs = .ok (number, rest)) :
    ∃ body, IsNumeral body ∧ cs = body ++ rest := by
  have hparts : ∀ {i : List Char} {tail : List Char}, IsInteger i →
      (∃ f e, IsFraction f ∧ IsExponent e ∧ tail = f ++ (e ++ rest)) →
      ∃ body, IsNumeral body ∧ i ++ tail = body ++ rest := by
    rintro i _ hi ⟨f, e, hf, he, rfl⟩
    refine ⟨_, .parts hi hf he, ?_⟩
    rw [List.append_assoc, List.append_assoc]
  unfold numeral at h
  split at h
  · cases h
  · next c tail =>
    split_ifs at h with hzero hdigit hc
    · subst hzero
      refine hparts .zero (isFraction_of_afterInteger (fun ds h => ?_) h)
      cases h
      rfl
    · obtain ⟨ds, hds, htail, -⟩ := exists_digits_significand (digitValue c) 0 tail
      simp only at h
      -- If the number is too large, further digits were passed over; they belong to the integral
      -- part.
      split_ifs at h with hmore
      · obtain ⟨es, hes, hrest⟩ := exists_digits_skipDigits (significand (digitValue c) 0 tail).2.2
        have hi : IsInteger (c :: (ds ++ es)) := .positive hc hzero fun d hd =>
          (List.mem_append.1 hd).elim (hds d) (hes d)
        have hnumeral := hparts hi (isFraction_of_afterInteger (fun ds h => rest_of_realFrom h) h)
        rwa [List.cons_append, List.append_assoc, ← hrest, ← htail] at hnumeral
      · have hi : IsInteger (c :: ds) := .positive hc hzero hds
        have hnumeral := hparts hi (isFraction_of_afterInteger (fun ds h => by cases h; rfl) h)
        rwa [List.cons_append, ← htail] at hnumeral

end Numbers

/-! ## First tokens -/

theorem eq_append_of_letters {word : List Char} (h : letters word cs = .ok rest) :
    cs = word ++ rest := by
  fun_induction letters word cs with
  | case1 =>
    cases h
    rfl
  | case2 => cases h
  | case3 _ _ _ ih => rw [ih h, List.cons_append]
  | case4 => cases h

/-- What the first token is: the text of a scalar, or the bracket of a container. -/
def IsOpening (cs : List Char) : Opening cs.length → Prop
  | .scalar t => ∃ body, Derives .value body ∧ cs = body ++ t.rest
  | .list rest _ => cs = '[' :: rest
  | .object rest _ => cs = '\x7b' :: rest

/-- A word is read only where it is written in full. -/
theorem derives_of_wordFrom {word : List Char} {v : Value} {opening : Opening (cs.length + 1)}
    (h : wordFrom word v cs = .ok opening) (hword : Derives .value (c :: word)) :
    IsOpening (c :: cs) opening := by
  unfold wordFrom at h
  split at h
  · cases h
  · next hletters =>
    cases h
    exact ⟨_, hword, congrArg (c :: ·) (eq_append_of_letters hletters)⟩

/-- A number as its sign has it: whichever sign was read before, the text is that of a number
without one. -/
theorem exists_numeral_of_numeralFrom {negative : Bool} {opening : Opening cs.length}
    (h : numeralFrom negative cs = .ok opening) :
    ∃ body t, opening = .scalar t ∧ IsNumeral body ∧ cs = body ++ t.rest := by
  unfold numeralFrom at h
  split at h
  · cases h
  · next hnumeral =>
    cases h
    obtain ⟨body, hbody, hcs⟩ := isNumeral_of_numeral hnumeral
    exact ⟨body, _, rfl, hbody, hcs⟩

/-- What was taken for a first token is one. There is a case for each character that may begin a
value. -/
theorem isOpening_of_openingFrom {opening : Opening cs.length}
    (h : openingFrom cs = .ok opening) : IsOpening cs opening := by
  unfold openingFrom at h
  split at h
  · cases h
  · next c tail =>
    -- The first character decides what the token is.
    split_ifs at h with hn ht hf hminus hdigit hquote hlist hobject
    · subst hn
      exact derives_of_wordFrom h .null
    · subst ht
      exact derives_of_wordFrom h .true
    · subst hf
      exact derives_of_wordFrom h .false
    · subst hminus
      obtain ⟨opening, hnumeral, rfl⟩ := map_eq_ok.1 h
      obtain ⟨body, t, rfl, hbody, htail⟩ := exists_numeral_of_numeralFrom hnumeral
      exact ⟨'-' :: body, .negative hbody, congrArg ('-' :: ·) htail⟩
    · obtain ⟨body, t, rfl, hbody, hcs⟩ := exists_numeral_of_numeralFrom h
      exact ⟨body, .numeral hbody, hcs⟩
    · subst hquote
      obtain ⟨t, hstring, rfl⟩ := map_eq_ok.1 h
      obtain ⟨body, hbody, htail⟩ := spells_of_stringFrom hstring
      refine ⟨'"' :: (body ++ ['"']), .string hbody.isCharacters, ?_⟩
      rw [List.cons_append, List.append_assoc]
      exact congrArg ('"' :: ·) htail
    · subst hlist
      cases h
      rfl
    · subst hobject
      cases h
      rfl

end SchemaSeed.Json
