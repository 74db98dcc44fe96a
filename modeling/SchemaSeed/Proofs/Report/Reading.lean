import SchemaSeed.Proofs.Json.Record
import SchemaSeed.Proofs.Report

/-!
# Reports that come back

A report is read back from each text that it is written as, compact or with an entry to a
line. The order of its fields does not matter, nor do other fields between them, whatever
their values, nor the blanks, nor which characters of a string are escaped
(`parse_written`).
-/

namespace SchemaSeed

/-! ## Metrics in their order -/

namespace Metrics

/-- A metric that comes after all others by its name goes to the end. -/
theorem place_greater {name value : String} {entries : List (String × String)}
    (h : ∀ entry ∈ entries, entry.1 < name) :
    place name value entries = entries ++ [(name, value)] := by
  induction entries with
  | nil => rfl
  | cons entry rest ih =>
    obtain ⟨hlt, hrest⟩ := List.forall_mem_cons.1 h
    have hle : ¬ name < entry.1 := String.lt_asymm hlt
    have hne : name ≠ entry.1 := by
      rintro rfl
      exact String.lt_irrefl _ hlt
    rw [place, if_neg hle, if_neg hne, ih hrest, List.cons_append]

/-- Metrics that come in the order of their names go to the end one by one, so that they are taken
back as they were written. -/
theorem entries_foldl_set (pairs : List (String × String)) (m : Metrics)
    (h : (m.entries ++ pairs).Pairwise fun a b => a.1 < b.1) :
    (pairs.foldl (fun m pair => m.set pair.1 pair.2) m).entries = m.entries ++ pairs := by
  induction pairs generalizing m with
  | nil => exact (List.append_nil _).symm
  | cons pair rest ih =>
    have hgreater : ∀ entry ∈ m.entries, entry.1 < pair.1 :=
      fun entry hentry => (List.pairwise_append.1 h).2.2 entry hentry pair List.mem_cons_self
    have hset : (m.set pair.1 pair.2).entries = m.entries ++ [pair] := place_greater hgreater
    rw [List.append_cons, ← hset] at h ⊢
    exact ih _ h

/-- Metrics are always in that order, and so they are read back unchanged. -/
theorem ofPairs_entries (m : Metrics) : ofPairs m.entries = m := by
  have hentries : (ofPairs m.entries).entries = m.entries :=
    entries_foldl_set m.entries empty m.sorted
  cases h : ofPairs m.entries with
  | mk entries sorted =>
    rw [h] at hentries
    cases hentries
    rfl

end Metrics

namespace Report

open Json (Derives IsLayout IsSpaces ListText ObjectText ReadsValue RecordReader StringText Value
  compact prettyAt scalarText stringMember)

/-! ## Texts of reports -/

def fieldNames : List String := recordReader.fields.map (·.name)

/-- The fields of a report and the texts of their values, in the order in which they are written. -/
inductive FieldTexts (r : Report) : List (String × List Char) → Prop
  | texts {errors metrics : List Char} (herrors : ListText StringText r.errors errors)
      (hmetrics : ObjectText StringText r.metrics.entries metrics) :
      FieldTexts r [("schema_valid", scalarText (.bool r.schemaValid)),
        ("data_valid", scalarText (.bool r.dataValid)), ("errors", errors),
        ("performance_metrics", metrics)]

/-- A field that a report has not, with any value. -/
structure IsUnknown (field : String × List Char) : Prop where
  name : field.1 ∉ fieldNames
  value : Derives .value field.2

/-- The text of an object that has the fields of the report and may have others, in any order. This
is more than what is ever written, and all of it is read back. -/
inductive WrittenAs (r : Report) : List Char → Prop
  | object {known unknown fields : List (String × List Char)} {cs : List Char}
      (hknown : FieldTexts r known) (hunknown : ∀ field ∈ unknown, IsUnknown field)
      (hfields : fields.Perm (known ++ unknown)) (h : ObjectText Eq fields cs) : WrittenAs r cs

variable {r : Report} {seen : List String} {field : String × List Char}
  {known unknown fields : List (String × List Char)} {cs : List Char}

theorem FieldTexts.map_name (h : FieldTexts r known) : known.map (·.1) = fieldNames := by
  cases h
  rfl

/-! ## Drafts -/

/-- The draft of a report of which these fields were seen, in whatever order they came. -/
def draft (r : Report) (seen : List String) : Draft where
  schemaValid := if "schema_valid" ∈ seen then some r.schemaValid else none
  dataValid := if "data_valid" ∈ seen then some r.dataValid else none
  errors := if "errors" ∈ seen then some r.errors else none
  metrics := if "performance_metrics" ∈ seen then some r.metrics.entries else none

theorem draft_nil (r : Report) : draft r [] = recordReader.blank := rfl

/-- A draft depends on the fields of a report only, so an unknown one leaves it as it is. -/
theorem draft_unknown {name : String} (h : name ∉ fieldNames) :
    draft r (name :: seen) = draft r seen := by
  have hmem : ∀ known ∈ fieldNames, (known ∈ name :: seen ↔ known ∈ seen) := by
    intro known hknown
    have hne : known ≠ name := fun heq => h (heq ▸ hknown)
    rw [List.mem_cons, or_iff_right hne]
  simp only [draft, hmem "schema_valid" (by decide), hmem "data_valid" (by decide),
    hmem "errors" (by decide), hmem "performance_metrics" (by decide)]

/-- A draft of which all fields were seen is complete, and it is the report. -/
theorem build_draft (h : ∀ name ∈ fieldNames, name ∈ seen) :
    recordReader.build (draft r seen) = some r := by
  have hdraft : draft r seen =
      ⟨some r.schemaValid, some r.dataValid, some r.errors, some r.metrics.entries⟩ := by
    simp only [draft, h "schema_valid" (by decide), h "data_valid" (by decide),
      h "errors" (by decide), h "performance_metrics" (by decide), if_true]
  rw [hdraft]
  show some (Report.mk r.schemaValid r.dataValid r.errors (.ofPairs r.metrics.entries)) = some r
  rw [Metrics.ofPairs_entries]

theorem isSet_draft (h : ∀ name ∈ fieldNames, name ∈ seen) :
    ∀ f ∈ recordReader.fields, f.isSet (draft r seen) = true := by
  intro f hf
  simp only [recordReader, List.mem_cons, List.not_mem_nil, or_false] at hf
  rcases hf with rfl | rfl | rfl | rfl
  · simp only [draft, h "schema_valid" (by decide), if_true, Option.isSome_some]
  · simp only [draft, h "data_valid" (by decide), if_true, Option.isSome_some]
  · simp only [draft, h "errors" (by decide), if_true, Option.isSome_some]
  · simp only [draft, h "performance_metrics" (by decide), if_true, Option.isSome_some]

/-! ## One field after the other -/

/-- A field of a report that was not seen is taken in. There is a case for each of the four fields,
since each has a reader of its own. -/
theorem takesIn_known (hknown : FieldTexts r known) (hfield : field ∈ known)
    (hseen : field.1 ∉ seen) :
    recordReader.TakesIn (draft r seen) field (draft r (field.1 :: seen)) := by
  cases hknown with
  | texts herrors hmetrics =>
    have hstring := fun s cs (h : StringText s cs) => h.readsEntry
    -- The metrics are a table without repeated names already.
    have hpairs := Assoc.ofPairs_eq_self (nodup_keys_entries r.metrics)
    have hdepth : Json.depthLimit - 1 ≠ 0 := by decide
    simp only [List.mem_cons, List.not_mem_nil, or_false] at hfield
    rcases hfield with rfl | rfl | rfl | rfl
    · refine .field rfl (by simp [draft, hseen]) ?_
      have hreads := (Json.bool_readsEntry r.schemaValid).reads.map
        fun b => { draft r seen with schemaValid := some b }
      simpa [draft] using hreads
    · refine .field rfl (by simp [draft, hseen]) ?_
      have hreads := (Json.bool_readsEntry r.dataValid).reads.map
        fun b => { draft r seen with dataValid := some b }
      simpa [draft] using hreads
    · refine .field rfl (by simp [draft, hseen]) ?_
      have hreads := (herrors.readsEntry hstring hdepth).reads.map
        fun errors => { draft r seen with errors := some errors }
      simpa [draft] using hreads
    · refine .field rfl (by simp [draft, hseen]) ?_
      have hreads := (hmetrics.readsEntry hstring hdepth).reads.map
        fun metrics => { draft r seen with metrics := some metrics }
      simpa [draft, hpairs] using hreads

/-- An unknown field is passed over, whatever its value is. -/
theorem takesIn_unknown (h : IsUnknown field) :
    recordReader.TakesIn (draft r seen) field (draft r (field.1 :: seen)) := by
  have hfind : recordReader.fields.find? (fun f => f.name == field.1) = none := by
    rw [List.find?_eq_none]
    intro f hf hname
    exact h.name (eq_of_beq hname ▸ List.mem_map_of_mem hf)
  rw [draft_unknown h.name]
  exact .unknown hfind h.value

/-- By induction on the fields: each is seen for the first time if a report has it. Unknown ones may
come again. -/
theorem takesAll_fields (hknown : FieldTexts r known)
    (hfields : ∀ field ∈ fields, field ∈ known ∨ IsUnknown field)
    (hnodup : ((fields.map (·.1)).filter (· ∈ fieldNames)).Nodup)
    (hseen : ∀ field ∈ fields, field.1 ∈ fieldNames → field.1 ∉ seen) :
    recordReader.TakesAll (draft r seen) fields
      (draft r ((fields.map (·.1)).reverse ++ seen)) := by
  induction fields generalizing seen with
  | nil => exact .nil
  | cons field rest ih =>
    obtain ⟨hfield, hrest⟩ := List.forall_mem_cons.1 hfields
    obtain ⟨hnew, hseen⟩ := List.forall_mem_cons.1 hseen
    have hname : field ∈ known → field.1 ∈ fieldNames := fun hmem =>
      hknown.map_name ▸ List.mem_map_of_mem hmem
    have htake : recordReader.TakesIn (draft r seen) field (draft r (field.1 :: seen)) := by
      rcases hfield with hmem | hunknown
      · exact takesIn_known hknown hmem (hnew (hname hmem))
      · exact takesIn_unknown hunknown
    rw [List.map_cons] at hnodup
    -- A field of a report that is seen now does not come again.
    have hnext : ∀ x ∈ rest, x.1 ∈ fieldNames → x.1 ∉ field.1 :: seen := by
      intro x hx hxname hmem
      rcases List.mem_cons.1 hmem with heq | hmem
      · rw [List.filter_cons_of_pos (by simpa [← heq] using hxname)] at hnodup
        refine (List.nodup_cons.1 hnodup).1 (List.mem_filter.2 ⟨?_, by simpa [← heq] using hxname⟩)
        exact heq ▸ List.mem_map_of_mem hx
      · exact hseen x hx hxname hmem
    have hrestnodup := hnodup.sublist ((List.sublist_cons_self _ _).filter _)
    rw [List.map_cons, List.reverse_cons, List.append_assoc]
    exact .cons htake (ih hrest hrestnodup hnext)

/-- Whatever the order of the fields, all of a report are seen, and each once: reordering neither
loses a field nor repeats one. -/
theorem takesAll_perm (hknown : FieldTexts r known)
    (hunknown : ∀ field ∈ unknown, IsUnknown field) (hfields : fields.Perm (known ++ unknown)) :
    ∃ seen, (∀ name ∈ fieldNames, name ∈ seen) ∧
      recordReader.TakesAll recordReader.blank fields (draft r seen) := by
  -- Unknown fields do not count when the known ones are looked for among all of them.
  have hnames : (unknown.map (·.1)).filter (· ∈ fieldNames) = [] := by
    rw [List.filter_eq_nil_iff]
    intro name hname
    obtain ⟨field, hfield, rfl⟩ := List.mem_map.1 hname
    simpa using (hunknown field hfield).name
  have hperm := (hfields.map (·.1)).filter (· ∈ fieldNames)
  rw [List.map_append, hknown.map_name, List.filter_append, hnames, List.append_nil] at hperm
  have hnodup : ((fields.map (·.1)).filter (· ∈ fieldNames)).Nodup :=
    hperm.nodup_iff.2 (by decide)
  refine ⟨(fields.map (·.1)).reverse ++ [], fun name hname => ?_, ?_⟩
  · have hmem := hperm.mem_iff.2 (List.mem_filter.2 ⟨hname, decide_eq_true hname⟩)
    rw [List.append_nil, List.mem_reverse]
    exact (List.mem_filter.1 hmem).1
  · rw [← draft_nil r]
    refine takesAll_fields hknown (fun field hfield => ?_) hnodup fun _ _ _ => List.not_mem_nil
    exact (List.mem_append.1 (hfields.mem_iff.1 hfield)).imp id (hunknown field)

/-- An object of this kind is read as its report, at the front of any text. -/
theorem WrittenAs.readsValue (h : WrittenAs r cs) : ReadsValue recordReader.read cs r := by
  cases h with
  | object hknown hunknown hfields h =>
    obtain ⟨seen, hseen, htakes⟩ := takesAll_perm hknown hunknown hfields
    exact RecordReader.read_object h htakes (isSet_draft hseen) (build_draft hseen)

/-! ## The layouts that are written -/

/-- A report as it is written is an object of its own fields, in their order and without others. -/
theorem writtenAs_toJson (r : Report) {write : Nat → Value → List Char} (hwrite : IsLayout write) :
    WrittenAs r (write 0 r.toJson) := by
  have hstring : ∀ s cs, write 2 (.string s) = cs → StringText s cs := by
    rintro s cs rfl
    rw [hwrite.string]
    exact Json.stringText_literal s
  have herrors : ListText StringText r.errors (write 1 (.array (r.errors.map .string))) :=
    (hwrite.list 1 _).of_map fun s _ => hstring s
  have hmetrics : ObjectText StringText r.metrics.entries
      (write 1 (.object (r.metrics.entries.map stringMember))) :=
    (hwrite.object 1 _).of_map fun m _ => hstring m.2
  have hunknown : ∀ field ∈ ([] : List (String × List Char)), IsUnknown field :=
    fun _ h => nomatch h
  refine .object (.texts herrors hmetrics) hunknown (.refl _) ?_
  rw [← hwrite.bool 1, ← hwrite.bool 1]
  exact (hwrite.object 0 r.toJson.members).map fun _ _ h => h

/-- A report is read back from the text that is sent, from the text that is printed with its
line end, and from every object that has its fields in whatever order, with others between
them and blanks around them. -/
theorem parse_written (r : Report) :
    parse r.toJson.toCompact = .ok r ∧ parse r.toJson.toPretty = .ok r ∧
      parse (r.toJson.toPretty ++ "\n") = .ok r ∧
        ∀ before cs after, IsSpaces before → WrittenAs r cs → IsSpaces after →
          parse (String.ofList (before ++ (cs ++ after))) = .ok r := by
  have hend : IsSpaces ['\n'] := List.forall_mem_singleton.2 rfl
  have hcompact : WrittenAs r (compact r.toJson) := writtenAs_toJson r Json.isLayout_compact
  have hpretty : WrittenAs r (prettyAt 0 r.toJson) := writtenAs_toJson r Json.isLayout_prettyAt
  refine ⟨Json.parse_of_reads hcompact.readsValue, Json.parse_of_reads hpretty.readsValue, ?_,
    fun before cs after hbefore h hafter => Json.parse_padded_of_reads h.readsValue hbefore hafter⟩
  rw [Value.toPretty, show "\n" = String.ofList ['\n'] from rfl, ← String.ofList_append]
  exact Json.parse_append_of_reads hpretty.readsValue hend

example : (parse ("\x7b\"errors\": [\"\\u0041\"], \"data_valid\": false, \"schema_valid\": true," ++
      "\"performance_metrics\": \x7b\x7d\x7d")).toOption.map contents =
    some ((true, false), ["A"], []) := by
  with_unfolding_all rfl

end Report

end SchemaSeed
