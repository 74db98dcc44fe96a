/-!
# Metrics

Named texts, sorted by name. The names are strictly ascending, so each comes once.
-/

namespace SchemaSeed

/-- Entries sorted by strictly ascending names. The order is part of the type, so that two lists of
metrics are equal when they hold the same. -/
structure Metrics where
  entries : List (String × String)
  sorted : entries.Pairwise fun a b => a.1 < b.1

namespace Metrics

def empty : Metrics := ⟨[], .nil⟩

instance : Inhabited Metrics := ⟨empty⟩

/-- Puts a value at its place among sorted entries. An entry with the same name is replaced. -/
def place (name value : String) : List (String × String) → List (String × String)
  | [] => [(name, value)]
  | (k, v) :: rest =>
    if name < k then (name, value) :: (k, v) :: rest
    else if name = k then (name, value) :: rest
    else (k, v) :: place name value rest

theorem mem_place {name value : String} {entries : List (String × String)}
    {entry : String × String} (h : entry ∈ place name value entries) :
    entry = (name, value) ∨ entry ∈ entries := by
  fun_induction place name value entries with
  | case1 => simpa using h
  | case2 => simpa using h
  | case3 =>
    rcases List.mem_cons.1 h with h | h
    · exact Or.inl h
    · exact Or.inr (List.mem_cons_of_mem _ h)
  | case4 _ _ _ _ _ ih =>
    rcases List.mem_cons.1 h with h | h
    · exact Or.inr (h ▸ List.mem_cons_self)
    · exact (ih h).imp id (List.mem_cons_of_mem _)

/-- The entries stay sorted. By induction along the search for the place. -/
theorem pairwise_place {name value : String} {entries : List (String × String)}
    (h : entries.Pairwise fun a b => a.1 < b.1) :
    (place name value entries).Pairwise fun a b => a.1 < b.1 := by
  fun_induction place name value entries with
  | case1 => simp
  | case2 k v rest hlt =>
    refine List.pairwise_cons.2 ⟨fun entry hentry => ?_, h⟩
    rcases List.mem_cons.1 hentry with rfl | hrest
    · exact hlt
    · exact String.lt_trans hlt ((List.pairwise_cons.1 h).1 _ hrest)
  | case3 v rest hlt =>
    have h := List.pairwise_cons.1 h
    exact List.pairwise_cons.2 ⟨h.1, h.2⟩
  -- The new name is greater than the one that it is put behind, since it is neither less nor equal.
  | case4 k v rest hlt hne ih =>
    have h := List.pairwise_cons.1 h
    refine List.pairwise_cons.2 ⟨fun entry hentry => ?_, ih h.2⟩
    rcases mem_place hentry with rfl | hrest
    · exact Classical.byContradiction fun hk =>
        hne (String.le_antisymm (String.not_lt.1 hk) (String.not_lt.1 hlt))
    · exact h.1 _ hrest

def set (m : Metrics) (name value : String) : Metrics :=
  ⟨place name value m.entries, pairwise_place m.sorted⟩

def get? (m : Metrics) (name : String) : Option String :=
  (m.entries.find? fun entry => entry.1 == name).map (·.2)

/-- The metrics that result from setting the pairs one by one. -/
def ofPairs (pairs : List (String × String)) : Metrics :=
  pairs.foldl (fun m pair => m.set pair.1 pair.2) empty

end Metrics

end SchemaSeed
