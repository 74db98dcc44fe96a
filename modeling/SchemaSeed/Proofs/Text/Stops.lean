/-!
# Where a run of characters ends

A run of characters with a property is taken whole from the front of a text exactly when
none of its kind comes next.
-/

namespace SchemaSeed.Text

variable {rest : List Char}

/-- What has a property differs from what has it not. Most inequalities of characters in the readers
are of this kind. -/
theorem ne_of_class {p : Char → Bool} {c d : Char} (hc : p c = true) (hd : p d = false) :
    c ≠ d := by
  rintro rfl
  rw [hc] at hd
  cases hd

/-- No character with the property comes next: a reader that takes as many of them as there are
stops here. -/
def Stops (p : Char → Bool) (rest : List Char) : Prop := ∀ c ∈ rest.head?, p c = false

theorem stops_nil {p : Char → Bool} : Stops p [] := fun _ h => nomatch h

theorem stops_cons {p : Char → Bool} {c : Char} (h : p c = false) : Stops p (c :: rest) := by
  intro d hd
  cases hd
  exact h

instance {p : Char → Bool} : Decidable (Stops p rest) :=
  match rest with
  | [] => .isTrue stops_nil
  | c :: _ => decidable_of_iff (p c = false) ⟨stops_cons, fun h => h c rfl⟩

/-- Behind a run without the property, what comes next is without it, whether the run is empty or
not. -/
theorem stops_append {p : Char → Bool} {cs : List Char} (hcs : ∀ c ∈ cs, p c = false)
    (hrest : Stops p rest) : Stops p (cs ++ rest) := by
  cases cs with
  | nil => exact hrest
  | cons c cs => exact stops_cons (hcs c List.mem_cons_self)

/-- If the run is not empty, it does not matter what follows it. -/
theorem stops_append_of_ne_nil {p : Char → Bool} {cs : List Char} (hcs : ∀ c ∈ cs, p c = false)
    (hne : cs ≠ []) : Stops p (cs ++ rest) := by
  cases cs with
  | nil => exact absurd rfl hne
  | cons c cs => exact stops_cons (hcs c List.mem_cons_self)

/-- A run that was taken whole has none of its kind behind it, or it would have been longer. -/
theorem stops_dropWhile {p : Char → Bool} (cs : List Char) : Stops p (cs.dropWhile p) := by
  intro c hc
  have hhead := List.head?_dropWhile_not p cs
  rw [hc] at hhead
  simpa using hhead

theorem dropWhile_of_stops {p : Char → Bool} (h : Stops p rest) : rest.dropWhile p = rest := by
  cases rest with
  | nil => rfl
  | cons c tail => rw [List.dropWhile_cons_of_neg (by simp [h c rfl])]

/-- A reader that takes all characters of a kind is left with what was written after them; the
counterpart of `takeWhile_append_stops`. -/
theorem dropWhile_append_stops {p : Char → Bool} {cs : List Char} (hcs : ∀ c ∈ cs, p c = true)
    (h : Stops p rest) : (cs ++ rest).dropWhile p = rest := by
  rw [List.dropWhile_append_of_pos hcs, dropWhile_of_stops h]

/-- What follows may be added before or after a run is dropped, as the run cannot go on into it. -/
theorem dropWhile_append_of_stops {p : Char → Bool} (cs : List Char) (h : Stops p rest) :
    (cs ++ rest).dropWhile p = cs.dropWhile p ++ rest := by
  induction cs with
  | nil => exact dropWhile_of_stops h
  | cons c cs ih =>
    cases hc : p c with
    | true => rw [List.cons_append, List.dropWhile_cons_of_pos hc, List.dropWhile_cons_of_pos hc, ih]
    | false =>
      rw [List.cons_append, List.dropWhile_cons_of_neg (by simp [hc]),
        List.dropWhile_cons_of_neg (by simp [hc]), List.cons_append]

theorem takeWhile_of_stops {p : Char → Bool} (h : Stops p rest) : rest.takeWhile p = [] := by
  cases rest with
  | nil => rfl
  | cons c tail => rw [List.takeWhile_cons_of_neg (by simp [h c rfl])]

/-- A run that was written in front of something that stops it is taken back as it was written. -/
theorem takeWhile_append_stops {p : Char → Bool} {cs : List Char} (hcs : ∀ c ∈ cs, p c = true)
    (h : Stops p rest) : (cs ++ rest).takeWhile p = cs := by
  rw [List.takeWhile_append_of_pos hcs, takeWhile_of_stops h, List.append_nil]

theorem takeWhile_append_of_stops {p : Char → Bool} (cs : List Char) (h : Stops p rest) :
    (cs ++ rest).takeWhile p = cs.takeWhile p := by
  induction cs with
  | nil => exact takeWhile_of_stops h
  | cons c cs ih =>
    cases hc : p c with
    | true => rw [List.cons_append, List.takeWhile_cons_of_pos hc, List.takeWhile_cons_of_pos hc, ih]
    | false =>
      rw [List.cons_append, List.takeWhile_cons_of_neg (by simp [hc]),
        List.takeWhile_cons_of_neg (by simp [hc])]

end SchemaSeed.Text
