import Mathlib.Tactic.SplitIfs
import SchemaSeed.Json.Writer
import SchemaSeed.Proofs.Json.Literal
import SchemaSeed.Proofs.Text.PrefixCode

/-!
# What was written can be told

A written string spells its text, so its end is known without a look at what follows. Truth
values, strings and flat containers of strings are prefix codes.
-/

namespace SchemaSeed.Json

open Text (IsPrefixCode entered entered_eq further)

/-! ## Strings -/

theorem hexDigit?_hexDigit (n : Nat) : Text.hexDigit? (hexDigit n) = some (n % 16) := by
  have hdigits : ∀ d < 16, Text.hexDigit? (Nat.digitChar d) = some d := by decide
  exact hdigits (n % 16) (Nat.mod_lt n (by decide))

/-- The escape of a control character spells its number. -/
theorem isQuad_control {c : Char} (hc : c.toNat < 0x20) :
    IsQuad ['0', '0', hexDigit (c.toNat / 16), hexDigit c.toNat] c.toNat := by
  have hzero : Text.hexDigit? '0' = some 0 := by decide
  have hquad := IsQuad.digits hzero hzero (hexDigit?_hexDigit (c.toNat / 16))
    (hexDigit?_hexDigit c.toNat)
  rwa [show ((0 * 16 + 0) * 16 + c.toNat / 16 % 16) * 16 + c.toNat % 16 = c.toNat by omega]
    at hquad

/-- However a character is written, it spells itself: by its short escape, by its number, or
plainly. -/
theorem spells_cons (c : Char) {text cs : List Char} (h : Spells text cs) :
    Spells (c :: text) (escaped c ++ cs) := by
  rw [escaped]
  -- The seven characters with a short escape come first, and then the other controls.
  split_ifs with hquote hbackslash hb hf hn hr ht hcontrol
  · subst hquote
    exact .short (by decide) h
  · subst hbackslash
    exact .short (by decide) h
  · subst hb
    exact .short (by decide) h
  · subst hf
    exact .short (by decide) h
  · subst hn
    exact .short (by decide) h
  · subst hr
    exact .short (by decide) h
  · subst ht
    exact .short (by decide) h
  · have hunit := Spells.unit (isQuad_control hcontrol) (.inl (by omega)) h
    rwa [Char.ofNat_toNat] at hunit
  · exact .plain ⟨hquote, hbackslash, hcontrol⟩ h

/-- A text is spelled by its characters, one after the other. -/
theorem spells_escaped (text : List Char) : Spells text (text.flatMap escaped) := by
  induction text with
  | nil => exact .nil
  | cons c text ih => exact spells_cons c ih

/-- The end of a string is where its text ends, since a quote inside it is escaped. So a string with
something after it can be read in one way only. -/
theorem isPrefixCode_literal : IsPrefixCode literal := by
  intro s t a b h
  have hread : ∀ (s : String) (a : List Char),
      literal s ++ a = '"' :: (s.toList.flatMap escaped ++ '"' :: a) := by
    intro s a
    rw [literal, List.cons_append, List.cons_append, List.append_assoc]
    rfl
  rw [hread, hread] at h
  -- A reader of the one text finds the string and the rest of the other.
  have htext := textFrom_spells (spells_escaped s.toList) [] a
  rw [(List.cons.inj h).2, textFrom_spells (spells_escaped t.toList)] at htext
  obtain ⟨htext, hrest⟩ := Prod.mk.inj (Except.ok.inj htext)
  exact ⟨String.toList_inj.1 htext.symm, hrest.symm⟩

theorem isPrefixCode_bool : IsPrefixCode fun b => scalarText (.bool b) := by
  intro x y a b h
  cases x <;> cases y
  · exact ⟨rfl, List.append_cancel_left h⟩
  · exact absurd (List.cons.inj h).1 (by decide)
  · exact absurd (List.cons.inj h).1 (by decide)
  · exact ⟨rfl, List.append_cancel_left h⟩

/-! ## Containers of strings -/

def stringMember (m : String × String) : String × Value := (m.1, .string m.2)

/-- A member is a key, a colon and a value, each of them told apart from what follows. -/
theorem isPrefixCode_member (colon : List Char) :
    IsPrefixCode fun m : String × String => literal m.1 ++ (colon ++ literal m.2) :=
  isPrefixCode_literal.pair (isPrefixCode_literal.prepend colon)

/-- A list of strings is written as entries with commas between them, and so are the other
containers below. -/
theorem compact_strings (es : List String) :
    compact (.array (es.map .string)) = ['['] ++ entered literal [']'] [']'] es := by
  rw [compact, List.cons_append, List.singleton_append]
  cases es with
  | nil => rfl
  | cons e es =>
    rw [entered]
    exact congrArg ('[' :: ·) (entered_eq (g := fun es => compactItems (es.map .string))
      (fun _ => rfl) (fun _ _ _ => rfl) _ e es)

theorem isPrefixCode_compact_strings :
    IsPrefixCode fun es : List String => compact (.array (es.map .string)) := by
  simp only [compact_strings]
  exact (isPrefixCode_literal.entered (by decide) fun s => ⟨_, _, rfl, by decide⟩).prepend _

theorem compact_stringMembers (ms : List (String × String)) :
    compact (.object (ms.map stringMember)) =
      ['\x7b'] ++ entered (fun m => literal m.1 ++ ([':'] ++ literal m.2)) ['\x7d'] ['\x7d'] ms := by
  rw [compact, List.cons_append, List.singleton_append]
  cases ms with
  | nil => rfl
  | cons m ms =>
    rw [entered]
    exact congrArg ('\x7b' :: ·) (entered_eq (g := fun ms => compactMembers (ms.map stringMember))
      (fun _ => rfl) (fun _ _ _ => rfl) _ m ms)

theorem isPrefixCode_compact_stringMembers :
    IsPrefixCode fun ms : List (String × String) => compact (.object (ms.map stringMember)) := by
  simp only [compact_stringMembers]
  exact ((isPrefixCode_member _).entered (by decide) fun m => ⟨_, _, rfl, by decide⟩).prepend _

theorem prettyAt_strings (depth : Nat) (es : List String) :
    prettyAt depth (.array (es.map .string)) =
      ['['] ++ entered (fun e => newLine (depth + 1) ++ literal e) [']'] (newLine depth ++ [']']) es := by
  rw [List.singleton_append]
  cases es with
  | nil => rfl
  | cons e es =>
    rw [List.map_cons, prettyAt, List.cons_append, List.cons_append, List.append_assoc, entered]
    exact congrArg ('[' :: ·) (entered_eq
      (g := fun es => prettyItems (depth + 1) (es.map .string)) (fun _ => rfl)
      (fun _ _ _ => rfl) _ e es)

theorem isPrefixCode_prettyAt_strings (depth : Nat) :
    IsPrefixCode fun es : List String => prettyAt depth (.array (es.map .string)) := by
  simp only [prettyAt_strings]
  have hentry := isPrefixCode_literal.prepend (newLine (depth + 1))
  exact (hentry.entered (by decide) fun s => ⟨_, _, rfl, by decide⟩).prepend _

theorem prettyAt_stringMembers (depth : Nat) (ms : List (String × String)) :
    prettyAt depth (.object (ms.map stringMember)) =
      ['\x7b'] ++ entered
        (fun m => newLine (depth + 1) ++ (literal m.1 ++ ([':', ' '] ++ literal m.2)))
        ['\x7d'] (newLine depth ++ ['\x7d']) ms := by
  rw [List.singleton_append]
  cases ms with
  | nil => rfl
  | cons m ms =>
    -- The last member ends the lines, and each one before it has a comma behind it.
    have hone : ∀ x, prettyMembers (depth + 1) ([x].map stringMember) =
        newLine (depth + 1) ++ (literal x.1 ++ ([':', ' '] ++ literal x.2)) := by
      intro x
      simp only [List.map_cons, List.map_nil, stringMember, prettyMembers, prettyAt, scalarText,
        List.append_assoc, List.cons_append, List.nil_append]
    have hmore : ∀ x y ys, prettyMembers (depth + 1) ((x :: y :: ys).map stringMember) =
        newLine (depth + 1) ++ (literal x.1 ++ ([':', ' '] ++ literal x.2)) ++
          ',' :: prettyMembers (depth + 1) ((y :: ys).map stringMember) := by
      intro x y ys
      simp only [List.map_cons, stringMember, prettyMembers, prettyAt, scalarText,
        List.append_assoc, List.cons_append, List.nil_append]
    have hentered := entered_eq (g := fun ms => prettyMembers (depth + 1) (ms.map stringMember))
      hone hmore (newLine depth ++ ['\x7d']) m ms
    rw [List.map_cons] at hentered
    rw [List.map_cons, prettyAt, List.cons_append, List.cons_append, List.append_assoc, entered,
      hentered]

/-- The indented layout tells members apart as the compact one does; the line ends are the same at
each depth. -/
theorem isPrefixCode_prettyAt_stringMembers (depth : Nat) :
    IsPrefixCode fun ms : List (String × String) =>
      prettyAt depth (.object (ms.map stringMember)) := by
  simp only [prettyAt_stringMembers]
  have hentry := (isPrefixCode_member [':', ' ']).prepend (newLine (depth + 1))
  exact (hentry.entered (by decide) fun m => ⟨_, _, rfl, by decide⟩).prepend _

end SchemaSeed.Json
