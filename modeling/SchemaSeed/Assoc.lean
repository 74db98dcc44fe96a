/-!
# Association lists in insertion order

A table of keys and values that keeps the order in which its keys first came. A value
given again to a key replaces the old one in place, so no key comes twice
(`nodup_keys_insert`).
-/

namespace SchemaSeed.Assoc

variable {κ : Type u} {α : Type v} [BEq κ]

def find? : List (κ × α) → κ → Option α
  | [], _ => none
  | (k, v) :: rest, key => if k == key then some v else find? rest key

def contains (entries : List (κ × α)) (key : κ) : Bool := (find? entries key).isSome

def keys (entries : List (κ × α)) : List κ := entries.map (·.1)

/-- Gives a key its value: in place when the key is there, at the end when it is new. -/
def insert : List (κ × α) → κ → α → List (κ × α)
  | [], key, value => [(key, value)]
  | (k, v) :: rest, key, value =>
    if k == key then (k, value) :: rest else (k, v) :: insert rest key value

/-- The table that results from inserting the pairs one by one. -/
def ofPairs (pairs : List (κ × α)) : List (κ × α) :=
  pairs.foldl (fun entries pair => insert entries pair.1 pair.2) []

variable [LawfulBEq κ]

theorem find?_insert (entries : List (κ × α)) (key : κ) (value : α) (k : κ) :
    find? (insert entries key value) k = if key == k then some value else find? entries k := by
  fun_induction insert entries key value with
  | case1 => simp [find?]
  | case2 k' v rest key value hk =>
    have hk := eq_of_beq hk
    subst hk
    by_cases h : (k' == k) = true <;> simp [find?, h]
  | case3 k' v rest key value hk ih =>
    by_cases h : (k' == k) = true
    · have h' := eq_of_beq h
      subst h'
      have hne : (key == k') = false := by
        rw [beq_eq_false_iff_ne]
        rintro rfl
        simp at hk
      simp [find?, hne]
    · simp [find?, h, ih]

theorem mem_keys_insert (entries : List (κ × α)) (key : κ) (value : α) (k : κ) :
    k ∈ keys (insert entries key value) ↔ k ∈ keys entries ∨ k = key := by
  fun_induction insert entries key value with
  | case1 => simp [keys]
  | case2 k' v rest key value hk =>
    have hk := eq_of_beq hk
    subst hk
    simp only [keys, List.map_cons, List.mem_cons]
    constructor
    · exact Or.inl
    · rintro (h | rfl)
      · exact h
      · exact Or.inl rfl
  | case3 k' v rest key value hk ih =>
    simp only [keys, List.map_cons, List.mem_cons] at ih ⊢
    rw [ih, or_assoc]

theorem nodup_keys_insert {entries : List (κ × α)} (h : (keys entries).Nodup) (key : κ)
    (value : α) : (keys (insert entries key value)).Nodup := by
  fun_induction insert entries key value with
  | case1 => simp [keys]
  | case2 k' v rest key value hk => simpa [keys] using h
  | case3 k' v rest key value hk ih =>
    simp only [keys, List.map_cons, List.nodup_cons] at h ⊢
    refine ⟨fun hmem => ?_, ih h.2⟩
    rcases (mem_keys_insert rest key value k').1 hmem with hmem | rfl
    · exact h.1 hmem
    · simp at hk

end SchemaSeed.Assoc
