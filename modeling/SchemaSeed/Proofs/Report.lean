import SchemaSeed.Proofs.Json.Layout
import SchemaSeed.Report

/-!
# Reports told from their texts

Two reports with the same text are the same report, whether the text has blanks or not. As a
JSON value, a report shows in its text with an entry to a line.
-/

namespace SchemaSeed.Report

open Json (compact literal newLine prettyAt scalarText stringMember)
open Text (IsPrefixCode)

/-- All that a report holds, as one tuple, so that a code for the tuple is a code for reports. -/
def contents (r : Report) : (Bool × Bool) × List String × List (String × String) :=
  ((r.schemaValid, r.dataValid), r.errors, r.metrics.entries)

theorem eq_of_contents {r r' : Report} (h : r.contents = r'.contents) : r = r' := by
  obtain ⟨schemaValid, dataValid, errors, entries, sorted⟩ := r
  obtain ⟨schemaValid', dataValid', errors', entries', sorted'⟩ := r'
  cases h
  rfl

/-- The text of a report, with what stands before each of its parts. The layouts that are written
differ in these texts only. -/
def written (b₁ b₂ b₃ b₄ closing : List Char) (strings : List String → List Char)
    (members : List (String × String) → List Char)
    (c : (Bool × Bool) × List String × List (String × String)) : List Char :=
  ((b₁ ++ scalarText (.bool c.1.1)) ++ (b₂ ++ scalarText (.bool c.1.2))) ++
    ((b₃ ++ strings c.2.1) ++ (b₄ ++ members c.2.2)) ++ closing

/-- The parts come one after the other, and each of them is a prefix code. -/
theorem isPrefixCode_written {strings : List String → List Char}
    {members : List (String × String) → List Char} (hstrings : IsPrefixCode strings)
    (hmembers : IsPrefixCode members) (b₁ b₂ b₃ b₄ closing : List Char) :
    IsPrefixCode (written b₁ b₂ b₃ b₄ closing strings members) :=
  .append (.pair (.pair (Json.isPrefixCode_bool.prepend b₁) (Json.isPrefixCode_bool.prepend b₂))
    (.pair (hstrings.prepend b₃) (hmembers.prepend b₄))) closing

theorem toJson_eq (r : Report) :
    r.toJson = .object [
      ("schema_valid", .bool r.schemaValid),
      ("data_valid", .bool r.dataValid),
      ("errors", .array (r.errors.map .string)),
      ("performance_metrics", .object (r.metrics.entries.map stringMember))] := rfl

/-- The compact layout is of this form, and so is the indented one (`prettyAt_toJson`). -/
theorem compact_toJson (r : Report) :
    compact r.toJson = written ('\x7b' :: (literal "schema_valid" ++ [':']))
      (',' :: (literal "data_valid" ++ [':'])) (',' :: (literal "errors" ++ [':']))
      (',' :: (literal "performance_metrics" ++ [':'])) ['\x7d']
      (fun es => compact (.array (es.map .string)))
      (fun ms => compact (.object (ms.map stringMember))) r.contents := by
  rw [toJson_eq]
  simp only [compact, Json.compactMembers, written, contents, List.append_assoc,
    List.cons_append, List.nil_append]

/-- Reports that are sent as the same text are the same, since the text is read back as either of
them. -/
theorem eq_of_toCompact {r r' : Report} (h : r.toJson.toCompact = r'.toJson.toCompact) :
    r = r' := by
  have htext := String.ofList_inj.1 h
  rw [compact_toJson, compact_toJson] at htext
  exact eq_of_contents ((isPrefixCode_written Json.isPrefixCode_compact_strings
    Json.isPrefixCode_compact_stringMembers _ _ _ _ _).injective htext)

theorem prettyAt_toJson (r : Report) :
    prettyAt 0 r.toJson =
      written ('\x7b' :: (newLine 1 ++ (literal "schema_valid" ++ [':', ' '])))
        (',' :: (newLine 1 ++ (literal "data_valid" ++ [':', ' '])))
        (',' :: (newLine 1 ++ (literal "errors" ++ [':', ' '])))
        (',' :: (newLine 1 ++ (literal "performance_metrics" ++ [':', ' '])))
        (newLine 0 ++ ['\x7d']) (fun es => prettyAt 1 (.array (es.map .string)))
        (fun ms => prettyAt 1 (.object (ms.map stringMember))) r.contents := by
  have hbool : ∀ b, prettyAt 1 (.bool b) = scalarText (.bool b) := fun b => by rw [prettyAt]
  rw [toJson_eq, prettyAt]
  simp only [Json.prettyMembers, hbool, written, contents, List.append_assoc, List.cons_append,
    List.nil_append]

/-- Reports that are printed as the same text are the same. -/
theorem eq_of_toPretty {r r' : Report} (h : r.toJson.toPretty = r'.toJson.toPretty) :
    r = r' := by
  have htext := String.ofList_inj.1 h
  rw [prettyAt_toJson, prettyAt_toJson] at htext
  exact eq_of_contents ((isPrefixCode_written (Json.isPrefixCode_prettyAt_strings 1)
    (Json.isPrefixCode_prettyAt_stringMembers 1) _ _ _ _ _).injective htext)

/-! ## Reports in a text -/

open Json (Shows)

theorem nodup_keys_entries (m : Metrics) : (Assoc.keys m.entries).Nodup := by
  refine List.Pairwise.map _ (fun a b hlt heq => ?_) m.sorted
  rw [heq] at hlt
  exact String.lt_irrefl _ hlt

theorem keys_stringMember (entries : List (String × String)) :
    Assoc.keys (entries.map stringMember) = Assoc.keys entries := by
  rw [Assoc.keys, List.map_map]
  rfl

/-- The metrics of the report do not begin with the key of an embedded text. Every report of a run
is plain, since its metrics have other names. -/
def IsPlain (r : Report) : Prop := Json.IsOrdinary r.metrics.entries

theorem shows_string (depth line : Nat) (s : String) :
    Shows depth (.string s) (prettyAt line (.string s)) := by
  rw [prettyAt]
  exact Json.shows_string (Json.spells_escaped s.toList)

theorem shows_bool (depth line : Nat) (b : Bool) :
    Shows depth (.bool b) (prettyAt line (.bool b)) := by
  rw [prettyAt]
  exact Json.shows_bool b

theorem shows_errors (depth line : Nat) (errors : List String) :
    Shows (depth + 1) (.array (errors.map .string)) (prettyAt line (.array (errors.map .string))) := by
  refine Json.shows_array (Json.listText_pretty line _ fun v hv => ?_)
  obtain ⟨error, -, rfl⟩ := List.mem_map.1 hv
  exact shows_string depth _ error

/-- Only here the metrics have to be plain, as an object is read as something else if it begins with
that key. -/
theorem shows_metrics (depth line : Nat) {r : Report} (h : r.IsPlain) :
    Shows (depth + 1) (.object (r.metrics.entries.map stringMember))
      (prettyAt line (.object (r.metrics.entries.map stringMember))) := by
  rw [IsPlain, Json.isOrdinary_iff_keys, ← keys_stringMember, ← Json.isOrdinary_iff_keys] at h
  have hkeys : (Assoc.keys (r.metrics.entries.map stringMember)).Nodup :=
    keys_stringMember _ ▸ nodup_keys_entries r.metrics
  refine Json.shows_object h hkeys (Json.objectText_pretty line _ fun x hx => ?_)
  obtain ⟨metric, -, rfl⟩ := List.mem_map.1 hx
  exact shows_string depth _ metric.2

/-- A report is two containers deep: the report itself, and the errors or the metrics in it. -/
theorem shows_toJson (depth line : Nat) {r : Report} (h : r.IsPlain) :
    Shows (depth + 2) r.toJson (prettyAt line r.toJson) := by
  have hfirst : "schema_valid" ≠ Json.embeddedKey := by decide
  have hkeys : ["schema_valid", "data_valid", "errors", "performance_metrics"].Nodup := by decide
  rw [toJson_eq]
  refine Json.shows_object (Json.isOrdinary_cons.2 hfirst) hkeys
    (Json.objectText_pretty line _ ?_)
  simp only [List.forall_mem_cons]
  exact ⟨shows_bool _ _ _, shows_bool _ _ _, shows_errors _ _ _, shows_metrics _ _ h,
    fun _ h => nomatch h⟩

end SchemaSeed.Report
