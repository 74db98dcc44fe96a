import Mathlib.Data.List.DropRight
import SchemaSeed.Proofs.Json.Literal
import SchemaSeed.Proofs.Text.Stops

/-!
# Passing over what the grammar derives

The skimmer accepts every text that the grammar derives and stops right behind it
(`skim_append`). The brackets that it keeps in a list take the place of the derivation's
nesting, so each nonterminal is passed over whatever brackets are open (`Derives.passes`).
-/

namespace SchemaSeed.Json

open Text (ne_of_class Stops stops_cons dropWhile_append_stops dropWhile_of_stops)

variable {rest : List Char}

/-! ## Numbers -/

def continuesNumber (c : Char) : Bool := c.isDigit || c = '.' || c = 'e' || c = 'E'

/-- Where a number ends, its digits end: `continuesNumber` holds of the digits and of the point and
the exponent letter besides. -/
theorem stops_isDigit (h : Stops continuesNumber rest) : Stops Char.isDigit rest := by
  intro c hc
  have := h c hc
  simp only [continuesNumber, Bool.or_eq_false_iff] at this
  exact this.1.1.1

theorem startsWithDigit_of_stops (h : Stops Char.isDigit rest) : startsWithDigit rest = false := by
  cases rest with
  | nil => rfl
  | cons c tail => exact h c rfl

/-- Digits are skipped to the first character that is none, so that a text can be cut behind them.
-/
theorem skipDigits_append {ds : List Char} (hds : IsDigits ds) (h : Stops Char.isDigit rest) :
    skipDigits (ds ++ rest) = rest :=
  dropWhile_append_stops hds h

/-- An exponent is read behind its letter: a sign or none, then one digit at least. -/
theorem skimExponent_digits {sign : List Char} (hsign : sign ∈ [[], ['+'], ['-']]) {d : Char}
    {ds : List Char} (hd : d.isDigit = true) (hds : IsDigits ds) (h : Stops Char.isDigit rest) :
    skimExponent (sign ++ d :: (ds ++ rest)) = .ok rest := by
  have hne : ¬ (d = '+' ∨ d = '-') := by
    rintro (rfl | rfl) <;> exact absurd hd (by decide)
  have hskip := skipDigits_append hds h
  simp only [List.mem_cons, List.not_mem_nil, or_false] at hsign
  rcases hsign with rfl | rfl | rfl
  -- Without a sign, the first digit must not be taken for one.
  · simp only [skimExponent, List.nil_append, if_neg hne, if_pos hd, hskip]
  · simp only [skimExponent, List.cons_append, List.nil_append, true_or, if_true, if_pos hd,
      hskip]
  · simp only [skimExponent, List.cons_append, List.nil_append, or_true, if_true, if_pos hd,
      hskip]

theorem isDigit_exponentLetter {c : Char} (h : c = 'e' ∨ c = 'E') : c.isDigit = false := by
  rcases h with rfl | rfl <;> decide

/-- Digits in front of an exponent end at its letter, and in front of no exponent where the number
ends. -/
theorem stops_isDigit_exponent {e : List Char} (he : IsExponent e)
    (h : Stops continuesNumber rest) : Stops Char.isDigit (e ++ rest) := by
  cases he with
  | absent => exact stops_isDigit h
  | present hletter _ _ _ => exact stops_cons (isDigit_exponentLetter hletter)

/-- A number without a fraction: only an exponent may follow its digits, or nothing of the number at
all. -/
theorem skimFraction_exponent {e : List Char} (he : IsExponent e)
    (h : Stops continuesNumber rest) : skimFraction (e ++ rest) = .ok rest := by
  -- An exponent, or the end of the number.
  cases he with
  | absent =>
    rw [List.nil_append]
    cases rest with
    | nil => rfl
    | cons c tail =>
      have hc := h c rfl
      simp only [continuesNumber, Bool.or_eq_false_iff, decide_eq_false_iff_not] at hc
      obtain ⟨⟨⟨-, hpoint⟩, he⟩, hE⟩ := hc
      rw [skimFraction, if_neg hpoint, if_neg (not_or.2 ⟨he, hE⟩)]
  | @present letter sign d ds hletter hsign hd hds =>
    have hpoint : letter ≠ '.' := by rintro rfl; exact absurd hletter (by decide)
    have hexponent := skimExponent_digits hsign hd hds (stops_isDigit h)
    rw [List.cons_append, List.append_assoc, List.cons_append, skimFraction, if_neg hpoint,
      if_pos hletter, hexponent]

/-- After the digits of a fraction, an exponent is read as it is without one. There is no second
point, by `hpoint`. -/
theorem skimFraction_point {cs : List Char} {d : Char} (hd : d.isDigit = true) {ds : List Char}
    (hds : IsDigits ds) (hcs : Stops Char.isDigit cs) (hpoint : Stops (· = '.') cs) :
    skimFraction ('.' :: d :: (ds ++ cs)) = skimFraction cs := by
  have hskip : skipDigits (d :: (ds ++ cs)) = cs := by
    rw [← List.cons_append]
    refine skipDigits_append (fun c hc => ?_) hcs
    rcases List.mem_cons.1 hc with rfl | hc
    · exact hd
    · exact hds c hc
  rw [skimFraction, if_pos rfl, if_pos (show startsWithDigit (d :: (ds ++ cs)) = true from hd),
    hskip]
  -- What is left is looked at for an exponent only, as it is by the fraction's own reader
  -- when no point comes next.
  cases cs with
  | nil => rfl
  | cons c tail =>
    have hc : c ≠ '.' := of_decide_eq_false (hpoint c rfl)
    rw [skimFraction, if_neg hc]

/-- The two parts behind the digits of a number, each of which may be missing, up to where the
number ends. -/
theorem skimFraction_parts {f e : List Char} (hf : IsFraction f) (he : IsExponent e)
    (h : Stops continuesNumber rest) : skimFraction (f ++ (e ++ rest)) = .ok rest := by
  have hexponent := skimFraction_exponent he h
  cases hf with
  | absent => exact hexponent
  | present hd hds =>
    have hpoint : Stops (· = '.') (e ++ rest) := by
      cases he with
      | absent =>
        intro c hc
        have := h c hc
        simp only [continuesNumber, Bool.or_eq_false_iff] at this
        exact this.1.1.2
      | present hletter _ _ _ =>
        rcases hletter with rfl | rfl <;> exact stops_cons (by decide)
    rw [List.cons_append, List.cons_append,
      skimFraction_point hd hds (stops_isDigit_exponent he h) hpoint, hexponent]

/-- An unsigned number is passed over whole, and nothing behind it. A zero stands alone in front of
the fraction, as in the grammar. -/
theorem skimNumeral_append {cs : List Char} (hcs : IsNumeral cs) (h : Stops continuesNumber rest) :
    skimNumeral (cs ++ rest) = .ok rest := by
  -- The first digit is a zero, behind which no other digit is read, or not.
  cases hcs with
  | @parts i f e hi hf he =>
    have hfraction := skimFraction_parts hf he h
    have hstop : Stops Char.isDigit (f ++ (e ++ rest)) := by
      cases hf with
      | absent =>
        rw [List.nil_append]
        exact stops_isDigit_exponent he h
      | present _ _ => exact stops_cons (by decide)
    rw [List.append_assoc, List.append_assoc]
    cases hi with
    | zero =>
      rw [List.singleton_append, skimNumeral, if_pos rfl, startsWithDigit_of_stops hstop,
        if_neg Bool.false_ne_true, hfraction]
    | positive hd hne hds =>
      rw [List.cons_append, skimNumeral, if_neg hne, if_pos hd, skipDigits_append hds hstop,
        hfraction]

/-! ## Scalars -/

/-- A word is read letter by letter, which is all that the three words of the grammar need. -/
theorem letters_append (word rest : List Char) : letters word (word ++ rest) = .ok rest := by
  induction word with
  | nil => rfl
  | cons c word ih => rw [List.cons_append, letters, if_pos rfl, ih]

/-- A scalar that was read is one that is passed over; the bound that goes with it is the one the
reader proved. -/
theorem ofScalar_eq {r : Except Fault (List Char)} {n : Nat}
    {h : ∀ rest, r = .ok rest → rest.length < n} (hr : r = .ok rest) :
    ∃ shorter, SkimStep.ofScalar r n h = .ok (.past rest shorter) := by
  subst hr
  exact ⟨_, rfl⟩

/-- The first token of a text is a scalar, which is passed over. -/
def PassesScalar (cs rest : List Char) : Prop :=
  ∃ shorter, skimToken cs = .ok (.past rest shorter)

theorem passesScalar_null (rest : List Char) :
    PassesScalar (['n', 'u', 'l', 'l'] ++ rest) rest := by
  have hletters := letters_append ['u', 'l', 'l'] rest
  exact ofScalar_eq (h := fun _ h => Nat.lt_succ_of_le (length_le_of_letters h)) hletters

theorem passesScalar_true (rest : List Char) :
    PassesScalar (['t', 'r', 'u', 'e'] ++ rest) rest := by
  have hletters := letters_append ['r', 'u', 'e'] rest
  exact ofScalar_eq (h := fun _ h => Nat.lt_succ_of_le (length_le_of_letters h)) hletters

theorem passesScalar_false (rest : List Char) :
    PassesScalar (['f', 'a', 'l', 's', 'e'] ++ rest) rest := by
  have hletters := letters_append ['a', 'l', 's', 'e'] rest
  exact ofScalar_eq (h := fun _ h => Nat.lt_succ_of_le (length_le_of_letters h)) hletters

theorem passesScalar_string {cs : List Char} (h : IsCharacters cs) (rest : List Char) :
    PassesScalar ('"' :: (cs ++ '"' :: rest)) rest :=
  ofScalar_eq (skimText_characters h rest)

theorem passesScalar_negative {cs : List Char} (hcs : IsNumeral cs)
    (h : Stops continuesNumber rest) : PassesScalar ('-' :: (cs ++ rest)) rest :=
  ofScalar_eq (skimNumeral_append hcs h)

theorem IsNumeral.exists_cons {cs : List Char} (h : IsNumeral cs) :
    ∃ d tail, cs = d :: tail ∧ d.isDigit = true := by
  cases h with
  | parts hi _ _ =>
    cases hi with
    | zero => exact ⟨_, _, rfl, rfl⟩
    | positive hd _ _ => exact ⟨_, _, rfl, hd⟩

/-- A number that begins with a digit. The first digit decides that the token is a number, which is
then read from that digit on. -/
theorem passesScalar_numeral {cs : List Char} (hcs : IsNumeral cs)
    (h : Stops continuesNumber rest) : PassesScalar (cs ++ rest) rest := by
  have hskim := skimNumeral_append hcs h
  obtain ⟨d, tail, rfl, hd⟩ := hcs.exists_cons
  rw [PassesScalar, List.cons_append, skimToken, if_neg (ne_of_class hd (by decide)),
    if_neg (ne_of_class hd (by decide)), if_neg (ne_of_class hd (by decide)),
    if_neg (ne_of_class hd (by decide)), if_pos hd]
  exact ofScalar_eq hskim

/-! ## Brackets -/

variable {bound : Nat} {bracket : Bracket} {outer opened : List Bracket} {cs tail : List Char}

theorem closing_ne_comma (bracket : Bracket) : bracket.closing ≠ ',' := by
  cases bracket <;> decide

/-- A scalar is a whole value, so what comes next is what may follow an entry. -/
theorem skimValue_of_scalar (hscalar : PassesScalar (skipSpace cs) rest)
    (h : cs.length ≤ bound) : ∃ h', skimValue opened cs h = skimRest true opened rest h' := by
  obtain ⟨shorter, htoken⟩ := hscalar
  have hbound := Nat.lt_of_lt_of_le shorter (Nat.le_trans (length_skipSpace_le cs) h)
  refine ⟨hbound, ?_⟩
  rw [skimValue, htoken]

def Enters (bracket : Bracket) (cs tail : List Char) : Prop :=
  ∃ shorter, skimToken cs = .ok (.enter bracket tail shorter)

/-- An opening bracket is put on those that are open, and no entry has been seen inside it yet. -/
theorem skimValue_of_bracket (opened : List Bracket)
    (henters : Enters bracket (skipSpace cs) tail) (h : cs.length ≤ bound) :
    ∃ h', skimValue opened cs h = skimRest false (bracket :: opened) tail h' := by
  obtain ⟨shorter, htoken⟩ := henters
  have hbound := Nat.lt_of_lt_of_le shorter (Nat.le_trans (length_skipSpace_le cs) h)
  refine ⟨hbound, ?_⟩
  rw [skimValue, htoken]

/-- The text must not end while a bracket is open. The fault says which bracket it is. -/
theorem skimRest_nil {separated : Bool} (hs : skipSpace cs = []) (h : cs.length < bound) :
    skimRest separated (bracket :: outer) cs h = .error (.ahead bracket.unclosed []) := by
  rw [skimRest]
  split
  · rfl
  · next heq => rw [hs] at heq; cases heq

/-- What may stand at the next character that is no blank, inside an open bracket: a comma behind an
entry, the closing bracket, or the first entry. -/
theorem skimRest_cons {separated : Bool} {c : Char} (hs : skipSpace cs = c :: tail)
    (h : cs.length < bound) (hskip : (skipSpace tail).length < bound) (htail : tail.length < bound)
    (hcons : (c :: tail).length < bound) :
    skimRest separated (bracket :: outer) cs h =
      if c = ',' ∧ separated then skimEntry bracket outer (skipSpace tail) hskip
      else if c = bracket.closing then skimRest true outer tail htail
      else if separated then .error (.ahead bracket.unseparated (c :: tail))
      else skimEntry bracket outer (c :: tail) hcons := by
  -- The next character stands behind the blanks, one of which the definition skips for itself.
  rw [skimRest]
  split
  · next heq => rw [hs] at heq; cases heq
  · next d rest heq =>
    rw [hs] at heq
    cases heq
    rfl

theorem skimRest_comma (bracket : Bracket) (outer : List Bracket)
    (hs : skipSpace cs = ',' :: tail) (h : cs.length < bound) :
    ∃ h', skimRest true (bracket :: outer) cs h =
      skimEntry bracket outer (skipSpace tail) h' := by
  have hcons := lt_of_skipSpace hs h
  have htail := Nat.lt_of_succ_lt hcons
  have hskip := Nat.lt_of_le_of_lt (length_skipSpace_le tail) htail
  refine ⟨hskip, ?_⟩
  rw [skimRest_cons hs h hskip htail hcons, if_pos ⟨rfl, rfl⟩]

/-- The closing bracket ends its container, with entries or without any, and the container is then
an entry of the one around it. -/
theorem skimRest_close {separated : Bool} (hs : skipSpace cs = bracket.closing :: tail)
    (h : cs.length < bound) :
    ∃ h', skimRest separated (bracket :: outer) cs h = skimRest true outer tail h' := by
  have hcons := lt_of_skipSpace hs h
  have htail := Nat.lt_of_succ_lt hcons
  have hskip := Nat.lt_of_le_of_lt (length_skipSpace_le tail) htail
  refine ⟨htail, ?_⟩
  rw [skimRest_cons hs h hskip htail hcons,
    if_neg (fun hc => closing_ne_comma bracket hc.1), if_pos rfl]

/-- Directly behind the opening bracket, whatever does not close it is its first entry. -/
theorem skimRest_first (outer : List Bracket) {c : Char} (hs : skipSpace cs = c :: tail) (hc : c ≠ bracket.closing)
    (h : cs.length < bound) :
    ∃ h', skimRest false (bracket :: outer) cs h = skimEntry bracket outer (c :: tail) h' := by
  have hcons := lt_of_skipSpace hs h
  have htail := Nat.lt_of_succ_lt hcons
  have hskip := Nat.lt_of_le_of_lt (length_skipSpace_le tail) htail
  refine ⟨hcons, ?_⟩
  rw [skimRest_cons hs h hskip htail hcons, if_neg (fun hc => Bool.false_ne_true hc.2),
    if_neg hc, if_neg Bool.false_ne_true]

/-- Only what stands behind the blanks matters, and neither does the bound that the recursion was
given. -/
theorem skimRest_congr {cs' : List Char} {separated : Bool} (hs : skipSpace cs = skipSpace cs')
    (h : cs.length < bound) (h' : cs'.length < bound) :
    skimRest separated (bracket :: outer) cs h = skimRest separated (bracket :: outer) cs' h' := by
  cases hcs : skipSpace cs' with
  | nil => rw [skimRest_nil (hs.trans hcs), skimRest_nil hcs]
  | cons c tail =>
    have hcons := lt_of_skipSpace hcs h'
    have htail := Nat.lt_of_succ_lt hcons
    have hskip := Nat.lt_of_le_of_lt (length_skipSpace_le tail) htail
    rw [skimRest_cons (hs.trans hcs) h hskip htail hcons, skimRest_cons hcs h' hskip htail hcons]

/-! ## Blanks -/

theorem skipSpace_of_stops (h : Stops isSpace cs) : skipSpace cs = cs := dropWhile_of_stops h

theorem skipSpace_append {w : List Char} (hw : IsSpaces w) (cs : List Char) :
    skipSpace (w ++ cs) = skipSpace cs := List.dropWhile_append_of_pos hw

theorem skipSpace_skipSpace (cs : List Char) : skipSpace (skipSpace cs) = skipSpace cs :=
  List.dropWhile_idempotent isSpace cs

/-! ## Beginnings -/

def Begins (cs : List Char) : Prop :=
  ∃ c tail, cs = c :: tail ∧ isSpace c = false ∧ c ≠ ']' ∧ c ≠ '\x7d'

/-- What begins with a character of its own, no blank and no closing bracket, begins with an entry.
-/
theorem begins_cons {c : Char} (hspace : isSpace c = false) (hlist : c ≠ ']')
    (hobject : c ≠ '\x7d') (tail : List Char) : Begins (c :: tail) :=
  ⟨c, tail, rfl, hspace, hlist, hobject⟩

theorem Begins.skipSpace_eq (h : Begins cs) : skipSpace cs = cs := by
  obtain ⟨c, tail, rfl, hspace, -, -⟩ := h
  exact skipSpace_of_stops (stops_cons hspace)

theorem isSpace_digit {d : Char} (hd : d.isDigit = true) : isSpace d = false := by
  have hne := fun c hc => ne_of_class (d := c) hd hc
  simp only [isSpace, Bool.or_eq_false_iff, decide_eq_false_iff_not]
  exact ⟨⟨⟨hne ' ' (by decide), hne '\n' (by decide)⟩, hne '\t' (by decide)⟩, hne '\r' (by decide)⟩

/-- No value begins with a blank or a closing bracket, which is how the reader knows that a
container is not empty. -/
theorem Derives.begins_value (h : Derives .value cs) (rest : List Char) : Begins (cs ++ rest) := by
  cases h with
  | numeral h =>
    obtain ⟨d, tail, rfl, hd⟩ := h.exists_cons
    exact begins_cons (isSpace_digit hd) (ne_of_class hd (by decide))
      (ne_of_class hd (by decide)) _
  | _ => exact begins_cons (by decide) (by decide) (by decide) _

/-- Behind its blanks, whatever stands in a container begins with an entry. -/
theorem Derives.begins_element (h : Derives .element cs) (rest : List Char) :
    Begins (skipSpace (cs ++ rest)) := by
  cases h with
  | element hw h _ =>
    have hbegins := h.begins_value
    rw [List.append_assoc, List.append_assoc, skipSpace_append hw, (hbegins _).skipSpace_eq]
    exact hbegins _

theorem Derives.begins_elements (h : Derives .elements cs) (rest : List Char) :
    Begins (skipSpace (cs ++ rest)) := by
  cases h with
  | lastElement h => exact h.begins_element rest
  | elements h _ =>
    rw [List.append_assoc]
    exact h.begins_element _

theorem Derives.begins_member (h : Derives .member cs) (rest : List Char) :
    Begins (skipSpace (cs ++ rest)) := by
  cases h with
  | member hw _ _ _ =>
    have hbegins := fun tail => begins_cons (c := '"') (by decide) (by decide) (by decide) tail
    rw [List.append_assoc, skipSpace_append hw, List.cons_append, (hbegins _).skipSpace_eq]
    exact hbegins _

theorem Derives.begins_members (h : Derives .members cs) (rest : List Char) :
    Begins (skipSpace (cs ++ rest)) := by
  cases h with
  | lastMember h => exact h.begins_member rest
  | members h _ =>
    rw [List.append_assoc]
    exact h.begins_member _

/-! ## Values in containers -/

/-- A text that goes on after an entry of a container. -/
def Ends (rest : List Char) : Prop :=
  ∃ c tail, rest = c :: tail ∧ (c = ',' ∨ c = ']' ∨ c = '\x7d')

theorem Ends.comma (tail : List Char) : Ends (',' :: tail) := ⟨',', tail, rfl, .inl rfl⟩

/-- Both closing brackets end an entry, whichever container they close. -/
theorem Ends.closing (bracket : Bracket) (tail : List Char) : Ends (bracket.closing :: tail) := by
  cases bracket
  · exact ⟨_, tail, rfl, .inr (.inl rfl)⟩
  · exact ⟨_, tail, rfl, .inr (.inr rfl)⟩

/-- Neither a comma nor a closing bracket could go on with a number, so that an entry that is a
number ends there. -/
theorem Ends.stops_continuesNumber (h : Ends rest) : Stops continuesNumber rest := by
  obtain ⟨c, tail, rfl, rfl | rfl | rfl⟩ := h <;> exact stops_cons (by decide)

/-- Blanks end a number as well as what follows them. -/
theorem stops_spaces {w : List Char} (hw : IsSpaces w) (h : Stops continuesNumber rest) :
    Stops continuesNumber (w ++ rest) := by
  refine Text.stops_append (fun c hc => ?_) h
  have := hw c hc
  simp only [isSpace, Bool.or_eq_true, decide_eq_true_eq] at this
  obtain ((rfl | rfl) | rfl) | rfl := this <;> decide

/-- What is derived is passed over, inside whatever brackets are open: up to its end a value or a
member, up to the closing bracket of their container all elements or members. A value is given
without the blanks before it; an element has them with it, and so has a member. -/
def Passes : Nonterminal → List Char → Prop
  | .value, cs => ∀ ⦃bound : Nat⦄ (opened : List Bracket) ⦃ds rest : List Char⦄
      (h : ds.length ≤ bound), skipSpace ds = cs ++ rest → Stops continuesNumber rest →
      ∃ h', skimValue opened ds h = skimRest true opened rest h'
  | .element, cs => ∀ ⦃bound : Nat⦄ (bracket : Bracket) (outer : List Bracket)
      ⦃ds rest : List Char⦄ (h : ds.length ≤ bound), skipSpace ds = skipSpace (cs ++ rest) →
      Ends rest →
      ∃ h', skimValue (bracket :: outer) ds h = skimRest true (bracket :: outer) rest h'
  | .elements, cs => ∀ ⦃bound : Nat⦄ (outer : List Bracket) ⦃ds rest : List Char⦄
      (h : ds.length ≤ bound), skipSpace ds = skipSpace (cs ++ ']' :: rest) →
      ∃ h', skimValue (.list :: outer) ds h = skimRest true outer rest h'
  | .member, cs => ∀ ⦃bound : Nat⦄ (outer : List Bracket) ⦃ds rest : List Char⦄
      (h : ds.length < bound), ds = skipSpace (cs ++ rest) → Ends rest →
      ∃ h', skimEntry .object outer ds h = skimRest true (.object :: outer) rest h'
  | .members, cs => ∀ ⦃bound : Nat⦄ (outer : List Bracket) ⦃ds rest : List Char⦄
      (h : ds.length < bound), ds = skipSpace (cs ++ '\x7d' :: rest) →
      ∃ h', skimEntry .object outer ds h = skimRest true outer rest h'

/-- A scalar is passed over as a value is, since no bracket is opened by it. -/
theorem passes_scalar
    (hscalar : ∀ rest, Stops continuesNumber rest → PassesScalar (cs ++ rest) rest) :
    Passes .value cs := by
  intro bound opened ds rest h hds hstops
  refine skimValue_of_scalar ?_ h
  rw [hds]
  exact hscalar rest hstops

/-! ## Keys -/

/-- Blanks may stand before the colon behind a key. Those after it belong to the value. -/
theorem colon_append {w : List Char} (hw : IsSpaces w) (rest : List Char) :
    ∃ shorter, colon (w ++ ':' :: rest) = .ok ⟨(), rest, shorter⟩ := by
  have hs : skipSpace (w ++ ':' :: rest) = ':' :: rest := by
    rw [skipSpace_append hw, skipSpace_of_stops (stops_cons (by decide))]
  refine ⟨length_lt_of_skipSpace hs, ?_⟩
  rw [colon]
  split
  · next heq => rw [hs] at heq; cases heq
  · next heq =>
    rw [hs] at heq
    cases heq
    rw [if_pos rfl]

/-- The key of a member, up to and with the colon. What the key says does not matter here. -/
theorem skimKey_append {key w : List Char} (hkey : IsCharacters key) (hw : IsSpaces w)
    (rest : List Char) :
    ∃ shorter, skimKey ('"' :: (key ++ '"' :: (w ++ ':' :: rest))) = .ok ⟨(), rest, shorter⟩ := by
  have htext := skimText_characters hkey (w ++ ':' :: rest)
  obtain ⟨shorter, hcolon⟩ := colon_append hw rest
  have hlength := shorter_of_skimText htext
  refine ⟨Nat.lt_succ_of_lt (Nat.lt_trans shorter hlength), ?_⟩
  rw [skimKey, if_pos rfl]
  split
  · next heq => rw [htext] at heq; cases heq
  · next heq =>
    rw [htext] at heq
    cases heq
    rw [hcolon]
    rfl

/-- An entry of an object is a key and a value, and the brackets stay as they are between the two.
-/
theorem skimEntry_key {ds : List Char} {shorter : rest.length < ds.length}
    (hkey : skimKey ds = .ok ⟨(), rest, shorter⟩) (h : ds.length < bound) :
    ∃ h', skimEntry .object outer ds h = skimValue (.object :: outer) rest h' := by
  refine ⟨Nat.le_of_lt (Nat.lt_trans shorter h), ?_⟩
  rw [skimEntry, hkey]

/-! ## The grammar -/

/-- The same from the text of the member, behind the blanks before its key. -/
theorem skimEntry_member (outer : List Bracket) {w key w' : List Char} (hw : IsSpaces w) (hkey : IsCharacters key)
    (hw' : IsSpaces w') {ds : List Char}
    (hds : ds = skipSpace (w ++ '"' :: (key ++ '"' :: (w' ++ ':' :: rest))))
    (h : ds.length < bound) :
    ∃ h', skimEntry .object outer ds h = skimValue (.object :: outer) rest h' := by
  rw [skipSpace_append hw, skipSpace_of_stops (stops_cons (by decide))] at hds
  subst hds
  obtain ⟨shorter, hskim⟩ := skimKey_append hkey hw' rest
  exact skimEntry_key hskim h

theorem skipSpace_closing (bracket : Bracket) (rest : List Char) :
    skipSpace (bracket.closing :: rest) = bracket.closing :: rest :=
  skipSpace_of_stops (stops_cons (by cases bracket <;> decide))

theorem skipSpace_comma (rest : List Char) : skipSpace (',' :: rest) = ',' :: rest :=
  skipSpace_of_stops (stops_cons (by decide))

/-- The closing bracket of an empty container, or behind its last entry, may have blanks before it. -/
theorem skipSpace_spaces_closing (bracket : Bracket) {w : List Char} (hw : IsSpaces w)
    (rest : List Char) :
    skipSpace (w ++ bracket.closing :: rest) = bracket.closing :: rest := by
  rw [skipSpace_append hw, skipSpace_closing]

theorem passes_empty {c : Char} (henters : ∀ tail, Enters bracket (c :: tail) tail)
    {w : List Char} (hw : IsSpaces w) : Passes .value (c :: (w ++ [bracket.closing])) := by
  intro bound opened ds rest h hds _
  rw [List.cons_append, List.append_assoc, List.singleton_append] at hds
  have hclosing := skipSpace_spaces_closing bracket hw rest
  obtain ⟨hinside, henter⟩ := skimValue_of_bracket opened (hds ▸ henters _) h
  rw [henter]
  exact skimRest_close hclosing hinside

/-- A container with entries, which `hentries` passes over up to the closing bracket. That they
begin with an entry rules out that the container is taken for an empty one. -/
theorem passes_container (bracket : Bracket) {c : Char} (henters : ∀ tail, Enters bracket (c :: tail) tail)
    (hbegins : ∀ rest, Begins (skipSpace (cs ++ rest)))
    (hentries : ∀ ⦃bound : Nat⦄ (outer : List Bracket) ⦃ds rest : List Char⦄
      (h : ds.length < bound), ds = skipSpace (cs ++ bracket.closing :: rest) →
      ∃ h', skimEntry bracket outer ds h = skimRest true outer rest h') :
    Passes .value (c :: (cs ++ [bracket.closing])) := by
  intro bound opened ds rest h hds _
  rw [List.cons_append, List.append_assoc, List.singleton_append] at hds
  obtain ⟨d, tail, hskip, -, hlist, hobject⟩ := hbegins (bracket.closing :: rest)
  have hd : d ≠ bracket.closing := by cases bracket <;> assumption
  obtain ⟨hinside, henter⟩ := skimValue_of_bracket opened (hds ▸ henters _) h
  obtain ⟨hfirst, hentry⟩ := skimRest_first opened hskip hd hinside
  rw [henter, hentry]
  exact hentries opened hfirst hskip.symm

/-- The reader with its list of open brackets follows the grammar. By induction on the derivation.
An entry of a container hands on to what follows it, and the last one to what follows the container.
-/
theorem Derives.passes {n : Nonterminal} (h : Derives n cs) : Passes n cs := by
  have henters : ∀ tail, Enters .list ('[' :: tail) tail := fun tail => ⟨length_lt_cons _ _, rfl⟩
  have henters' : ∀ tail, Enters .object ('\x7b' :: tail) tail :=
    fun tail => ⟨length_lt_cons _ _, rfl⟩
  induction h with
  | null => exact passes_scalar fun rest _ => passesScalar_null rest
  | true => exact passes_scalar fun rest _ => passesScalar_true rest
  | false => exact passes_scalar fun rest _ => passesScalar_false rest
  | numeral h => exact passes_scalar fun rest hrest => passesScalar_numeral h hrest
  | negative h => exact passes_scalar fun rest hrest => passesScalar_negative h hrest
  | string h =>
    refine passes_scalar fun rest _ => ?_
    rw [List.cons_append, List.append_assoc]
    exact passesScalar_string h rest
  | emptyArray hw => exact passes_empty henters hw
  | emptyObject hw => exact passes_empty henters' hw
  | array h ih =>
    -- An entry of a list is a value, and its blanks were skipped once before.
    refine passes_container .list henters h.begins_elements ?_
    intro bound outer ds rest h hds
    rw [skimEntry]
    exact ih outer (Nat.le_of_lt h) (hds ▸ skipSpace_skipSpace _)
  | object h ih => exact passes_container .object henters' h.begins_members ih
  | @element w cs w' hw hcs hw' ih =>
    intro bound bracket outer ds rest h hds hends
    have hbegins := (hcs.begins_value (w' ++ rest)).skipSpace_eq
    rw [List.append_assoc, List.append_assoc, skipSpace_append hw, hbegins] at hds
    -- The value ends before its blanks; a comma or a bracket comes after them.
    obtain ⟨hblanks, hvalue⟩ := ih (bracket :: outer) h hds (stops_spaces hw' hends.stops_continuesNumber)
    have hrest : rest.length < bound := by
      rw [List.length_append] at hblanks
      exact Nat.lt_of_le_of_lt (Nat.le_add_left _ _) hblanks
    exact ⟨hrest, hvalue.trans (skimRest_congr (skipSpace_append hw' rest) hblanks hrest)⟩
  | lastElement _ ih =>
    intro bound outer ds rest h hds
    obtain ⟨hclosing, hvalue⟩ := ih .list outer h hds (.closing .list rest)
    rw [hvalue]
    exact skimRest_close (skipSpace_closing .list rest) hclosing
  -- The first entry ends at its comma, and the others follow behind it.
  | elements _ _ ih ih' =>
    intro bound outer ds rest h hds
    rw [List.append_assoc, List.cons_append] at hds
    obtain ⟨hcomma, hvalue⟩ := ih .list outer h hds (.comma _)
    obtain ⟨hnext, hentry⟩ := skimRest_comma .list outer (skipSpace_comma _) hcomma
    rw [hvalue, hentry, skimEntry]
    exact ih' outer (Nat.le_of_lt hnext) (skipSpace_skipSpace _)
  -- Before its value, a member is read to the colon; the value is an entry of the object.
  | member hw hkey hw' h ih =>
    intro bound outer ds rest h hds hends
    simp only [List.append_assoc, List.cons_append] at hds
    obtain ⟨hvalue, hentry⟩ := skimEntry_member outer hw hkey hw' hds h
    rw [hentry]
    exact ih .object outer hvalue rfl hends
  | lastMember _ ih =>
    intro bound outer ds rest h hds
    obtain ⟨hclosing, hmember⟩ := ih outer h hds (.closing .object rest)
    rw [hmember]
    exact skimRest_close (skipSpace_closing .object rest) hclosing
  | members _ _ ih ih' =>
    intro bound outer ds rest h hds
    rw [List.append_assoc, List.cons_append] at hds
    obtain ⟨hcomma, hmember⟩ := ih outer h hds (.comma _)
    obtain ⟨hnext, hentry⟩ := skimRest_comma .object outer (skipSpace_comma _) hcomma
    rw [hmember, hentry]
    exact ih' outer hnext rfl

/-- A value is passed over, with the blanks before it and nothing of what follows it. Only a number
could go on, and `h` says that it does not. -/
theorem skim_append {w : List Char} (hw : IsSpaces w) (hcs : Derives .value cs)
    (h : Stops continuesNumber rest) :
    ∃ shorter, skim (w ++ (cs ++ rest)) = .ok ⟨(), rest, shorter⟩ := by
  have hs : skipSpace (w ++ (cs ++ rest)) = cs ++ rest := by
    rw [skipSpace_append hw, (hcs.begins_value rest).skipSpace_eq]
  obtain ⟨shorter, hskim⟩ := hcs.passes [] (length_le_self _) hs h
  refine ⟨shorter, ?_⟩
  rw [skim, hskim, skimRest]

end SchemaSeed.Json
