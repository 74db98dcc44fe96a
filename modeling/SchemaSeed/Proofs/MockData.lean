import SchemaSeed.MockData
import SchemaSeed.Proofs.Assoc
import SchemaSeed.Proofs.Json.Reading

/-!
# Documents that were read

What a reader accepts of a whole text, and what is so of every object that was read: a key
that comes again in the text replaces its value, so a document has no table twice
(`nodup_keys_parse`).
-/

namespace SchemaSeed

namespace Json

variable {α : Type}

/-- Changing the error does not change what succeeds. -/
theorem mapError_eq_ok {f : Fault → String} {x : Except Fault α} {a : α} :
    x.mapError f = .ok a ↔ x = .ok a := by
  cases x with
  | error fault =>
    constructor
    · rintro ⟨⟩
    · rintro ⟨⟩
  | ok b =>
    constructor
    · rintro ⟨⟩
      rfl
    · rintro ⟨⟩
      rfl

/-- A text is accepted when its front is, and nothing but blanks follows. -/
theorem parse_eq_ok {item : Reader α} {source : String} {a : α} :
    parse item source = .ok a ↔
      ∃ t, item source.toList = .ok t ∧ skipSpace t.rest = [] ∧ t.value = a := by
  rw [parse, mapError_eq_ok, document]
  cases item source.toList with
  | error fault => simp
  | ok t => cases hrest : skipSpace t.rest <;> simp [hrest]

/-- The members of an object are put into a table one by one, so that a key which comes again does
not make a second entry. -/
theorem exists_ofPairs_of_objectFrom {item : Reader α} {rest : List Char}
    {t : Taken (List (String × α)) rest.length} (h : objectFrom item rest = .ok t) :
    ∃ pairs, t.value = Assoc.ofPairs pairs := by
  obtain ⟨members, -, rfl⟩ := map_eq_ok.1 h
  exact ⟨members.value, rfl⟩

theorem exists_ofPairs_of_object {depth : Nat} {item : Reader α} {cs : List Char}
    {t : Taken (List (String × α)) cs.length} (h : object depth item cs = .ok t) :
    ∃ pairs, t.value = Assoc.ofPairs pairs := by
  unfold object at h
  split at h
  · cases h
  · split at h
    · split at h
      · cases h
      · obtain ⟨u, hu, rfl⟩ := map_eq_ok.1 h
        obtain ⟨pairs, hpairs⟩ := exists_ofPairs_of_objectFrom hu
        exact ⟨pairs, hpairs⟩
    · cases h

end Json

/-- No table comes twice in a document, however often its text has it. -/
theorem nodup_keys_parse {mockData : String} {data : MockData}
    (h : MockData.parse mockData = .ok data) : (Assoc.keys data).Nodup := by
  obtain ⟨t, hobject, -, rfl⟩ := Json.parse_eq_ok.1 h
  obtain ⟨pairs, hpairs⟩ := Json.exists_ofPairs_of_object hobject
  rw [hpairs]
  exact Assoc.nodup_keys_ofPairs pairs

end SchemaSeed
