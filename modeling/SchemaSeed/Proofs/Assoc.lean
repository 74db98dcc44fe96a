import Mathlib.Data.List.Basic
import Mathlib.Data.List.Induction
import SchemaSeed.Assoc

/-!
# Keys of association lists

Which keys a lookup finds, and how the list of keys grows when an entry is inserted.
-/

namespace SchemaSeed.Assoc

variable {κ : Type u} {α : Type v} [BEq κ] [LawfulBEq κ] {entries : List (κ × α)} {key : κ}

/-- A lookup succeeds exactly at the keys of the table, so that membership of a key can be decided
by looking it up. -/
theorem isSome_find? (entries : List (κ × α)) (key : κ) :
    (find? entries key).isSome ↔ key ∈ keys entries := by
  induction entries with
  | nil => simp [find?, keys]
  | cons entry rest ih =>
    obtain ⟨k, v⟩ := entry
    simp only [find?, keys, List.map_cons, List.mem_cons] at ih ⊢
    by_cases hk : k = key
    · simp [hk]
    · simp [hk, Ne.symm hk, ih]

theorem mem_keys_of_find? {value : α} (h : find? entries key = some value) :
    key ∈ keys entries :=
  (isSome_find? entries key).1 (by rw [h]; rfl)

theorem exists_find?_of_mem_keys (h : key ∈ keys entries) :
    ∃ value, find? entries key = some value :=
  Option.isSome_iff_exists.1 ((isSome_find? entries key).2 h)

/-- A key that is there keeps its place: an insertion at it replaces the value only, and the keys
stay in their order. -/
theorem keys_insert_of_mem {value : α} (h : key ∈ keys entries) :
    keys (insert entries key value) = keys entries := by
  fun_induction insert entries key value with
  | case1 => simp [keys] at h
  | case2 => simp [keys]
  | case3 k v rest key value hk ih =>
    have hne : key ≠ k := fun heq => hk (by simp [heq])
    simp only [keys, List.map_cons, List.mem_cons, hne, false_or] at h ih ⊢
    rw [ih h]

/-- A new key goes to the end, behind all that were there before. So a table keeps the order in
which its keys first came. -/
theorem insert_of_notMem {value : α} (h : key ∉ keys entries) :
    insert entries key value = entries ++ [(key, value)] := by
  fun_induction insert entries key value with
  | case1 => rfl
  | case2 k v rest key value hk => simp [keys, eq_of_beq hk] at h
  | case3 k v rest key value hk ih =>
    simp only [keys, List.map_cons, List.mem_cons, not_or] at h ih
    rw [ih h.2, List.cons_append]

theorem keys_insert_of_notMem {value : α} (h : key ∉ keys entries) :
    keys (insert entries key value) = keys entries ++ [key] := by
  rw [insert_of_notMem h, keys, List.map_append]
  rfl

/-- Pairs without repeated keys are the table that is built from them. The induction is on the pairs
that are still to come, for any table `done` that the others have led to. -/
theorem ofPairs_eq_self (h : (keys entries).Nodup) : ofPairs entries = entries := by
  have hfold : ∀ done : List (κ × α), (keys (done ++ entries)).Nodup →
      entries.foldl (fun entries pair => insert entries pair.1 pair.2) done =
        done ++ entries := by
    induction entries with
    | nil =>
      intro done _
      exact (List.append_nil done).symm
    | cons entry rest ih =>
      intro done hdone
      -- The key of the entry is not in `done`, since all keys together differ.
      have hnew : entry.1 ∉ keys done := by
        intro hmem
        rw [keys, List.map_append] at hdone
        exact (List.nodup_append.1 hdone).2.2 _ hmem _ List.mem_cons_self rfl
      rw [List.append_cons] at hdone ⊢
      rw [List.foldl_cons, insert_of_notMem hnew]
      exact ih (List.nodup_cons.1 h).2 _ hdone
  exact hfold [] h

/-- A table that was built from pairs has no key twice: one that comes again only changes its value.
-/
theorem nodup_keys_ofPairs (pairs : List (κ × α)) : (keys (ofPairs pairs)).Nodup := by
  have hfold : ∀ entries : List (κ × α), (keys entries).Nodup →
      (keys (pairs.foldl (fun entries pair => insert entries pair.1 pair.2) entries)).Nodup := by
    induction pairs with
    | nil =>
      intro entries h
      exact h
    | cons pair rest ih =>
      intro entries h
      apply ih
      exact nodup_keys_insert h pair.1 pair.2
  exact hfold [] List.nodup_nil

/-- In a table without repeated keys, the entries of the table are what a lookup finds. With
repeated ones, only the first entry of each key would be found. -/
theorem find?_eq_some_iff (h : (keys entries).Nodup) {value : α} :
    find? entries key = some value ↔ (key, value) ∈ entries := by
  induction entries with
  | nil => simp [find?]
  | cons entry rest ih =>
    obtain ⟨k, v⟩ := entry
    simp only [keys, List.map_cons, List.nodup_cons] at h
    simp only [find?, List.mem_cons, Prod.mk.injEq]
    by_cases hk : k = key
    · subst hk
      have hmem : (k, value) ∉ rest := by
        intro hm
        exact h.1 (List.mem_map_of_mem (f := (·.1)) hm)
      simp [hmem, eq_comm]
    · simp [hk, Ne.symm hk, ih h.2]

/-- A table without repeated keys is known from its keys and what a lookup finds at them. In this
way two tables with the same keys are shown to be equal by their lookups. -/
theorem eq_map_keys (h : (keys entries).Nodup) {f : κ → α}
    (hf : ∀ k ∈ keys entries, find? entries k = some (f k)) :
    entries = (keys entries).map fun k => (k, f k) := by
  have hentry : ∀ entry ∈ entries, entry = (entry.1, f entry.1) := by
    rintro ⟨k, v⟩ hmem
    have hfind := hf k (List.mem_map_of_mem (f := (·.1)) hmem)
    rw [(find?_eq_some_iff h).2 hmem] at hfind
    rw [Option.some.inj hfind]
  rw [keys, List.map_map]
  exact (List.map_id entries).symm.trans (List.map_congr_left hentry)

/-! ## Repeated keys -/

/-- Each key once, where it comes first, with the value that it has last. -/
def lastOfEach (pairs : List (κ × α)) : List (κ × α) :=
  (pairs.map (·.1)).eraseDups.filterMap fun key => pairs.reverse.find? fun pair => pair.1 == key

omit [LawfulBEq κ] in
/-- One pair more at the end is one insertion more, which is how inductions from the end go on. -/
theorem ofPairs_concat (pairs : List (κ × α)) (pair : κ × α) :
    ofPairs (pairs ++ [pair]) = insert (ofPairs pairs) pair.1 pair.2 := by
  rw [ofPairs, List.foldl_append]
  rfl

/-- By induction from the end: a key that came before keeps its place, so that the keys stand in the
order of their first occurrences. -/
theorem keys_ofPairs (pairs : List (κ × α)) :
    keys (ofPairs pairs) = (pairs.map (·.1)).eraseDups := by
  induction pairs using List.reverseRecOn with
  | nil => rfl
  | append_singleton pairs pair ih =>
    rw [ofPairs_concat, List.map_append, List.map_singleton, List.eraseDups_append, ← ih]
    have hmem : pair.1 ∈ keys (ofPairs pairs) ↔ pair.1 ∈ pairs.map (·.1) := by
      rw [ih, List.mem_eraseDups]
    by_cases hold : pair.1 ∈ pairs.map (·.1)
    · rw [keys_insert_of_mem (hmem.2 hold)]
      simp [List.removeAll, hold]
    · rw [keys_insert_of_notMem (mt hmem.1 hold)]
      simp [List.removeAll, List.eraseDups_cons, hold]

/-- By induction from the end: the last value of a key is the one that is found, as each insertion
at the key replaces the one before. -/
theorem find?_ofPairs (pairs : List (κ × α)) (key : κ) :
    (find? (ofPairs pairs) key).map (fun value => (key, value)) =
      pairs.reverse.find? fun pair => pair.1 == key := by
  induction pairs using List.reverseRecOn with
  | nil => rfl
  | append_singleton pairs pair ih =>
    rw [ofPairs_concat, find?_insert, List.reverse_append, List.reverse_singleton,
      List.singleton_append, List.find?_cons, ← ih]
    cases hkey : pair.1 == key with
    | true =>
      obtain rfl := eq_of_beq hkey
      rfl
    | false => rfl

/-- A table is what a lookup finds at each of its keys, in their order. The keys that come out of
`keys_ofPairs` can then be put in their place. -/
theorem eq_filterMap_keys (h : (keys entries).Nodup) :
    entries = (keys entries).filterMap fun key =>
      (find? entries key).map fun value => (key, value) := by
  have hentry : ∀ entry ∈ entries,
      ((find? entries entry.1).map fun value => (entry.1, value)) = some entry := by
    intro entry hmem
    rw [(find?_eq_some_iff h).2 hmem]
    rfl
  rw [keys, List.filterMap_map]
  exact (List.filterMap_some.symm.trans (List.filterMap_congr fun e he => (hentry e he).symm))

/-- What is built from pairs in which keys come again: `keys_ofPairs` gives the keys and
`find?_ofPairs` the values. -/
theorem ofPairs_eq_lastOfEach (pairs : List (κ × α)) : ofPairs pairs = lastOfEach pairs := by
  rw [eq_filterMap_keys (nodup_keys_ofPairs pairs), keys_ofPairs, lastOfEach]
  exact List.filterMap_congr fun key _ => find?_ofPairs pairs key

end SchemaSeed.Assoc
