import SchemaSeed.Proofs.Json.Skim

/-!
# What readers take

A reader takes a text for a value if it does so behind any blanks and stops where the text
does. Stated with what follows in it, this carries over to texts that contain others.
-/

namespace SchemaSeed.Json

open Text (Stops stops_nil stops_cons)

variable {α : Type} {cs rest w : List Char}

/-- The reader takes a text for `a`: with blanks before it, and with anything behind it that does
not go on with a number. -/
def ReadsValue {α : Type u} (item : Reader α) (cs : List Char) (a : α) : Prop :=
  ∀ ⦃w rest : List Char⦄, IsSpaces w → Stops continuesNumber rest →
    ∃ shorter, item (w ++ (cs ++ rest)) = .ok ⟨a, rest, shorter⟩

theorem map_eq_ok {β : Type} {f : α → β} {x : Except Fault α} {b : β} :
    x.map f = .ok b ↔ ∃ a, x = .ok a ∧ f a = b := by
  cases x <;> simp [Except.map]

/-! ## Whole texts -/

theorem skipSpace_spaces (hw : IsSpaces w) : skipSpace w = [] :=
  List.dropWhile_eq_nil_iff.2 hw

/-- A text of which nothing but blanks is left is a whole document. -/
theorem document_of_taken {item : Reader α} {a : α}
    (h : ∃ shorter, item cs = .ok ⟨a, w, shorter⟩) (hw : IsSpaces w) :
    document item cs = .ok a := by
  obtain ⟨shorter, hread⟩ := h
  rw [document, hread]
  dsimp only
  rw [skipSpace_spaces hw]

/-- Blanks may stand around the value. This is how every result on whole texts begins. -/
theorem parse_padded_of_reads {item : Reader α} {a : α} {w' : List Char}
    (h : ReadsValue item cs a) (hw : IsSpaces w) (hw' : IsSpaces w') :
    parse item (String.ofList (w ++ (cs ++ w'))) = .ok a := by
  have hread := h hw (stops_spaces hw' (stops_nil (p := continuesNumber)))
  rw [List.append_nil] at hread
  rw [parse, String.toList_ofList, document_of_taken hread hw']
  rfl

theorem parse_append_of_reads {item : Reader α} {a : α} (h : ReadsValue item cs a)
    (hw : IsSpaces w) : parse item (String.ofList (cs ++ w)) = .ok a := by
  have hparse := parse_padded_of_reads h isSpaces_nil hw
  rwa [List.nil_append] at hparse

theorem parse_of_reads {item : Reader α} {a : α} (h : ReadsValue item cs a) :
    parse item (String.ofList cs) = .ok a := by
  have hparse := parse_append_of_reads h isSpaces_nil
  rwa [List.append_nil] at hparse

/-! ## Strings and truth values -/

/-- A string is read however its characters are written. -/
theorem stringFrom_spells {text : List Char} (h : Spells text cs) (rest : List Char) :
    ∃ shorter, stringFrom (cs ++ '"' :: rest) = .ok ⟨String.ofList text, rest, shorter⟩ := by
  have htext := textFrom_spells h [] rest
  refine ⟨shorter_of_textFrom htext, ?_⟩
  rw [stringFrom]
  split
  · next heq => rw [htext] at heq; cases heq
  · next heq =>
    rw [htext] at heq
    cases heq
    rfl

def OpensScalar (cs : List Char) (v : Value) (rest : List Char) : Prop :=
  ∃ shorter, openingFrom cs = .ok (.scalar ⟨v, rest, shorter⟩)

theorem opensScalar_string {text : List Char} (h : Spells text cs) (rest : List Char) :
    OpensScalar ('"' :: (cs ++ '"' :: rest)) (.string (String.ofList text)) rest := by
  obtain ⟨shorter, hstring⟩ := stringFrom_spells h rest
  refine ⟨Nat.lt_succ_of_lt shorter, ?_⟩
  show (stringFrom (cs ++ '"' :: rest)).map _ = _
  rw [hstring]
  rfl

/-- A reader of one type takes a scalar that it wants. -/
theorem scalar_of_opens {expected : String} {pick : Value → Option α} {v : Value} {a : α}
    (hopens : OpensScalar (skipSpace cs) v rest) (hpick : pick v = some a) :
    ∃ shorter, scalar expected pick cs = .ok ⟨a, rest, shorter⟩ := by
  obtain ⟨shorter, hopening⟩ := hopens
  refine ⟨Nat.lt_of_lt_of_le shorter (length_skipSpace_le cs), ?_⟩
  rw [scalar, hopening]
  dsimp only
  rw [hpick]

/-- Whoever wants a string takes it, however its characters are written. -/
theorem scalar_string_reads {expected : String} {pick : Value → Option String}
    (hpick : ∀ s, pick (.string s) = some s) {text : List Char} (h : Spells text cs) :
    ReadsValue (scalar expected pick) ('"' :: (cs ++ ['"'])) (String.ofList text) := by
  intro w rest hw _
  have hopens := opensScalar_string h rest
  rw [← skipSpace_of_stops (stops_cons (c := '"') (by decide)), ← skipSpace_append hw] at hopens
  rw [List.cons_append, List.append_assoc]
  exact scalar_of_opens hopens (hpick _)

theorem string_reads {text : List Char} (h : Spells text cs) :
    ReadsValue string ('"' :: (cs ++ ['"'])) (String.ofList text) :=
  scalar_string_reads (fun _ => rfl) h

theorem rawText_reads {text : List Char} (h : Spells text cs) :
    ReadsValue rawText ('"' :: (cs ++ ['"'])) (String.ofList text) :=
  scalar_string_reads (fun _ => rfl) h

/-! ## Values as they are written -/

/-- What was taken from a text is found by the length of the rest. -/
theorem upTo_append (cs rest : List Char) : upTo (cs ++ rest) rest.length = cs := by
  rw [upTo, List.length_append, Nat.add_sub_cancel, List.take_left]

/-- A value that is kept as it is written is its own text, whatever it means. -/
theorem rawValue_reads (h : Derives .value cs) : ReadsValue rawValue cs cs := by
  intro w rest hw hrest
  obtain ⟨shorter, hskim⟩ := skim_append hw h hrest
  refine ⟨shorter, ?_⟩
  rw [rawValue, hskim]
  simp only [Except.map, Taken.map, skipSpace_append hw, (h.begins_value rest).skipSpace_eq,
    upTo_append]

end SchemaSeed.Json
