import SchemaSeed.Json.Raw
import SchemaSeed.Proofs.Json.Grammar

/-!
# Reading string literals

What spells a text is read as that text (`textFrom_spells`), and whatever the grammar allows
between quotes is passed over (`skimText_characters`).
-/

namespace SchemaSeed.Json

/-! ## Escapes -/

/-- Four digits are read as the number that they spell, whatever follows. -/
theorem hexQuad_append {q : List Char} {n : Nat} (h : IsQuad q n) (rest : List Char) :
    hexQuad (q ++ rest) = .ok (n, rest) := by
  cases h with
  | digits ha hb hc hd =>
    show hexQuad (_ :: _ :: _ :: _ :: rest) = _
    simp only [hexQuad, ha, hb, hc, hd]

theorem shortEscape?_of_mem {e c : Char} (h : (e, c) ∈ shortEscapes) :
    shortEscape? e = some c := by
  have hall : ∀ p ∈ shortEscapes, shortEscape? p.1 = some p.2 := by decide
  exact hall (e, c) h

theorem escape_short {e c : Char} (h : (e, c) ∈ shortEscapes) (rest : List Char) :
    escape (e :: rest) = .ok (c, rest) := by
  rw [escape, shortEscape?_of_mem h]

/-- An escape by a number outside the surrogates stands for the character with that number. -/
theorem escape_unit {q : List Char} {n : Nat} (hq : IsQuad q n)
    (hn : n < 0xD800 ∨ 0xDFFF < n) (rest : List Char) :
    escape ('u' :: (q ++ rest)) = .ok (Char.ofNat n, rest) := by
  have hhigh : ¬ (0xD800 ≤ n ∧ n ≤ 0xDBFF) := by omega
  have hlow : ¬ (0xDC00 ≤ n ∧ n ≤ 0xDFFF) := by omega
  rw [escape, show shortEscape? 'u' = none from rfl, hexQuad_append hq]
  simp only [hhigh, hlow, ne_eq, not_true_eq_false, if_false]

/-- Two escapes by the halves of a pair stand for one character beyond the basic plane. -/
theorem escape_pair {q q' : List Char} {high low : Nat} (hq : IsQuad q high)
    (hq' : IsQuad q' low) (hhigh : 0xD800 ≤ high ∧ high ≤ 0xDBFF)
    (hlow : 0xDC00 ≤ low ∧ low ≤ 0xDFFF) (rest : List Char) :
    escape ('u' :: (q ++ '\\' :: 'u' :: (q' ++ rest))) =
      .ok (Char.ofNat (0x10000 + (high - 0xD800) * 0x400 + (low - 0xDC00)), rest) := by
  rw [escape, show shortEscape? 'u' = none from rfl, hexQuad_append hq]
  simp only [hhigh, ne_eq, not_true_eq_false, if_false, and_self, if_true, lowSurrogate,
    hexQuad_append hq', hlow, joinSurrogates]

theorem skimEscape_short {e c : Char} (h : (e, c) ∈ shortEscapes) (rest : List Char) :
    skimEscape (e :: rest) = .ok rest := by
  rw [skimEscape, shortEscape?_of_mem h]
  rfl

/-- When a string is only passed over, it does not matter what the four digits are, and halves need
no other half. -/
theorem skimEscape_unit {q : List Char} {n : Nat} (hq : IsQuad q n) (rest : List Char) :
    skimEscape ('u' :: (q ++ rest)) = .ok rest := by
  rw [skimEscape, show shortEscape? 'u' = none from rfl, hexQuad_append hq]
  rfl

/-! ## Single characters -/

theorem textFrom_quote (done rest : List Char) :
    textFrom done ('"' :: rest) = .ok (done.reverse, rest) := by
  rw [textFrom, if_pos rfl]

/-- The three steps through a string: a plain character, an escape, and the quote at the end. -/
theorem textFrom_plain {c : Char} (hc : IsPlain c) (done rest : List Char) :
    textFrom done (c :: rest) = textFrom (c :: done) rest := by
  rw [textFrom, if_neg hc.ne_quote, if_neg hc.ne_backslash, if_neg hc.not_control]

theorem textFrom_escape {c : Char} {rest rest' : List Char} (h : escape rest = .ok (c, rest'))
    (done : List Char) : textFrom done ('\\' :: rest) = textFrom (c :: done) rest' := by
  rw [textFrom, if_neg (by decide), if_pos rfl]
  split
  · next hfault => rw [h] at hfault; cases hfault
  · next hescape => rw [h] at hescape; cases hescape; rfl

theorem skimText_quote (rest : List Char) : skimText ('"' :: rest) = .ok rest := by
  rw [skimText, if_pos rfl]

theorem skimText_plain {c : Char} (hc : IsPlain c) (rest : List Char) :
    skimText (c :: rest) = skimText rest := by
  rw [skimText, if_neg hc.ne_quote, if_neg hc.ne_backslash, if_neg hc.not_control]

theorem skimText_escape {rest rest' : List Char} (h : skimEscape rest = .ok rest') :
    skimText ('\\' :: rest) = skimText rest' := by
  rw [skimText, if_neg (by decide), if_pos rfl]
  split
  · next hfault => rw [h] at hfault; cases hfault
  · next hescape => rw [h] at hescape; cases hescape; rfl

/-! ## Whole literals -/

/-- By induction on what spells the text: each character or escape gives the next character. `done`
holds those that were read before. -/
theorem textFrom_spells {text cs : List Char} (h : Spells text cs) (done rest : List Char) :
    textFrom done (cs ++ '"' :: rest) = .ok (done.reverse ++ text, rest) := by
  induction h generalizing done with
  | nil => rw [List.nil_append, textFrom_quote, List.append_nil]
  | plain hc _ ih => rw [List.cons_append, textFrom_plain hc, ih, List.reverse_cons,
      List.append_assoc]; rfl
  | short he _ ih =>
    rw [List.cons_append, List.cons_append, textFrom_escape (escape_short he _), ih,
      List.reverse_cons, List.append_assoc]
    rfl
  | unit hq hn _ ih =>
    rw [List.cons_append, List.cons_append, List.append_assoc,
      textFrom_escape (escape_unit hq hn _), ih, List.reverse_cons, List.append_assoc]
    rfl
  | pair hq hq' hhigh hlow _ ih =>
    rw [List.cons_append, List.cons_append, List.append_assoc, List.cons_append,
      List.cons_append, List.append_assoc, textFrom_escape (escape_pair hq hq' hhigh hlow _), ih,
      List.reverse_cons, List.append_assoc]
    rfl

/-- Passing over a string finds the quote at its end, as none of its characters is taken for one. By
the same induction. -/
theorem skimText_characters {cs : List Char} (h : IsCharacters cs) (rest : List Char) :
    skimText (cs ++ '"' :: rest) = .ok rest := by
  induction h with
  | nil => exact skimText_quote rest
  | plain hc _ ih => rw [List.cons_append, skimText_plain hc, ih]
  | short he _ ih =>
    rw [List.cons_append, List.cons_append, skimText_escape (skimEscape_short he _), ih]
  | unit hq _ ih =>
    rw [List.cons_append, List.cons_append, List.append_assoc,
      skimText_escape (skimEscape_unit hq _), ih]

end SchemaSeed.Json
