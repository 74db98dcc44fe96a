import SchemaSeed.Proofs.Json.Containers
import SchemaSeed.Proofs.Json.Integer

/-!
# Values in a text

The texts of values without fractions and exponents, told from the grammar alone. Such a text
shows its value (`ValueText.shows`), and a value of this kind is written as such a text
(`IsWritable.valueText`).
-/

namespace SchemaSeed.Json

variable {v : Value} {depth : Nat} {cs : List Char}

/-- The text of a scalar. A number is written in one way only here, without fraction and exponent.
-/
inductive ScalarText : Value → List Char → Prop
  | null : ScalarText .null ['n', 'u', 'l', 'l']
  | true : ScalarText (.bool true) ['t', 'r', 'u', 'e']
  | false : ScalarText (.bool false) ['f', 'a', 'l', 's', 'e']
  | int {i : Int} (hi : FitsInteger i) : ScalarText (.number (.int i)) (intText i)
  | string {s : String} {cs : List Char} (h : StringText s cs) : ScalarText (.string s) cs

/-- The text of a value with at most `depth` containers inside one another. A key that comes
again in an object stands where it came first, with the value that it has last. An object that
embeds a text is the text of the value that stands in it. -/
def ValueText : (depth : Nat) → Value → List Char → Prop
  | 0, v, cs => ScalarText v cs
  | depth + 1, v, cs =>
    ScalarText v cs ∨ (∃ vs, v = .array vs ∧ ListText (ValueText depth) vs cs) ∨
      (∃ ms, IsOrdinary ms ∧ v = .object (Assoc.lastOfEach ms) ∧
        ObjectText (ValueText depth) ms cs) ∨
      ∃ s, parseValue s = .ok v ∧ ObjectText StringText [(embeddedKey, s)] cs

/-! ## Reading -/

theorem ScalarText.shows (h : ScalarText v cs) : Shows depth v cs := by
  cases h with
  | null => exact ShowsScalar.shows fun rest _ => wordFrom_append ['u', 'l', 'l'] .null rest
  | true => exact shows_bool _
  | false => exact shows_bool _
  | int hi => exact (showsScalar_int hi).shows
  | string h => exact h.shows

/-- By induction on the depth: the entries of a container show one level below it, and so does what
is embedded. -/
theorem ValueText.shows (h : ValueText depth v cs) : Shows depth v cs := by
  induction depth generalizing v cs with
  | zero => exact ScalarText.shows h
  | succ depth ih =>
    obtain h | ⟨vs, rfl, h⟩ | ⟨ms, hms, rfl, h⟩ | h := h
    · exact h.shows
    · exact shows_array (h.imp (List.forall₂_same.2 fun _ _ _ => ih))
    · refine .inr (.inr (.inl ⟨ms, hms, ?_, h.imp (List.forall₂_same.2 fun _ _ => ?_)⟩))
      · rw [Assoc.ofPairs_eq_lastOfEach]
      · exact ⟨rfl, fun _ => ih⟩
    · exact .inr (.inr (.inr h))

theorem ValueText.readsEntry (h : ValueText depth v cs) : ReadsEntry (value depth) v cs :=
  h.shows.readsEntry

/-! ## Writing -/

/-- A value without fractions and exponents, of which no object has a key twice or begins like an
embedded text, with at most `depth` containers inside one another. For these values the text
determines the value. -/
inductive IsWritable : (depth : Nat) → Value → Prop
  | null {depth : Nat} : IsWritable depth .null
  | bool {depth : Nat} (b : Bool) : IsWritable depth (.bool b)
  | int {depth : Nat} {i : Int} (hi : FitsInteger i) : IsWritable depth (.number (.int i))
  | string {depth : Nat} (s : String) : IsWritable depth (.string s)
  | array {depth : Nat} {vs : List Value} (h : ∀ v ∈ vs, IsWritable depth v) :
      IsWritable (depth + 1) (.array vs)
  | object {depth : Nat} {ms : List (String × Value)} (hms : IsOrdinary ms)
      (hkeys : (Assoc.keys ms).Nodup) (h : ∀ m ∈ ms, IsWritable depth m.2) :
      IsWritable (depth + 1) (.object ms)

theorem ScalarText.valueText (h : ScalarText v cs) : ValueText depth v cs := by
  cases depth with
  | zero => exact h
  | succ depth => exact .inl h

/-- By induction on the value, in whichever layout it is written. An object without repeated keys is
what it settles to. -/
theorem IsWritable.valueText {write : Nat → Value → List Char} (hwrite : IsLayout write)
    (h : IsWritable depth v) (line : Nat) : ValueText depth v (write line v) := by
  -- The line is the one that the entry stands in, so it has to be free in the induction.
  induction h generalizing line with
  | null => exact hwrite.null line ▸ ScalarText.null.valueText
  | bool b =>
    rw [hwrite.bool]
    cases b with
    | true => exact ScalarText.true.valueText
    | false => exact ScalarText.false.valueText
  | int hi => exact hwrite.number line _ ▸ (ScalarText.int hi).valueText
  | string s => exact hwrite.string line s ▸ (ScalarText.string (stringText_literal s)).valueText
  | array _ ih =>
    refine .inr (.inl ⟨_, rfl, (hwrite.list line _).imp (List.forall₂_same.2 fun v hv cs => ?_)⟩)
    rintro rfl
    exact ih v hv (line + 1)
  | @object _ ms hms hkeys _ ih =>
    refine .inr (.inr (.inl ⟨ms, hms, ?_, (hwrite.object line ms).imp ?_⟩))
    · rw [← Assoc.ofPairs_eq_lastOfEach, Assoc.ofPairs_eq_self hkeys]
    · refine List.forall₂_same.2 fun m hm => ⟨rfl, ?_⟩
      rintro cs rfl
      exact ih m hm (line + 1)

end SchemaSeed.Json
