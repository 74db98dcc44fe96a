/-!
# Prefix codes

A way of writing values down is a prefix code if what was written can be told from the texts
that contain it, whatever follows it there. Pairs and lists of values that are written one
after the other, with commas between the entries of a list, are prefix codes again.
-/

namespace SchemaSeed.Text

variable {α β : Type}

/-- A text with something after it tells what was written first, and what follows. So what is
written by a prefix code can be read back without a mark at its end. -/
def IsPrefixCode (f : α → List Char) : Prop :=
  ∀ ⦃x y : α⦄ ⦃a b : List Char⦄, f x ++ a = f y ++ b → x = y ∧ a = b

namespace IsPrefixCode

variable {f : α → List Char} {g : β → List Char}

/-- Different things are written differently, even with nothing after them. -/
theorem injective (hf : IsPrefixCode f) {x y : α} (h : f x = f y) : x = y :=
  (hf (congrArg (· ++ []) h)).1

theorem prepend (hf : IsPrefixCode f) (cs : List Char) : IsPrefixCode fun x => cs ++ f x := by
  intro x y a b h
  rw [List.append_assoc, List.append_assoc] at h
  exact hf (List.append_cancel_left h)

theorem append (hf : IsPrefixCode f) (cs : List Char) : IsPrefixCode fun x => f x ++ cs := by
  intro x y a b h
  rw [List.append_assoc, List.append_assoc] at h
  obtain ⟨hxy, hrest⟩ := hf h
  exact ⟨hxy, List.append_cancel_left hrest⟩

/-- Two things written one after the other are told apart if each of them is: the first one ends
where its code says. -/
theorem pair (hf : IsPrefixCode f) (hg : IsPrefixCode g) :
    IsPrefixCode fun p : α × β => f p.1 ++ g p.2 := by
  rintro ⟨x, x'⟩ ⟨y, y'⟩ a b h
  simp only [List.append_assoc] at h
  obtain ⟨hxy, hrest⟩ := hf h
  obtain ⟨hxy', hrest⟩ := hg hrest
  exact ⟨Prod.ext hxy hxy', hrest⟩

end IsPrefixCode

/-! ## Lists -/

/-- Further entries of a list, each after a comma, and what closes it. -/
def further (f : α → List Char) (closing : List Char) : List α → List Char
  | [] => closing
  | x :: xs => ',' :: (f x ++ further f closing xs)

/-- The entries of a list and what closes it; an empty list may be closed in another way. -/
def entered (f : α → List Char) (empty closing : List Char) : List α → List Char
  | [] => empty
  | x :: xs => f x ++ further f closing xs

variable {f : α → List Char} {c : Char} {closing : List Char}

/-- By induction on both lists: a comma or what closes the list tells which goes on. If one list
ends where the other one goes on, the comma would be equal to what closes it. -/
theorem IsPrefixCode.further (hf : IsPrefixCode f) (hc : c ≠ ',') :
    IsPrefixCode (further f (c :: closing)) := by
  intro xs
  induction xs with
  | nil =>
    intro ys a b h
    cases ys with
    | nil => exact ⟨rfl, List.append_cancel_left h⟩
    | cons y ys => exact absurd (List.cons.inj h).1 hc
  | cons x xs ih =>
    intro ys a b h
    cases ys with
    | nil => exact absurd (List.cons.inj h).1.symm hc
    | cons y ys =>
      -- Both have an entry: it is the same one, and so are the rests.
      have htail := (List.cons.inj h).2
      rw [List.append_eq, List.append_eq, List.append_assoc, List.append_assoc] at htail
      obtain ⟨rfl, hrest⟩ := hf htail
      obtain ⟨rfl, rfl⟩ := ih hrest
      exact ⟨rfl, rfl⟩

/-- Lists are told apart if no entry begins as an empty list ends: then the first character decides
between an empty list and another one, and `further` does the rest. -/
theorem IsPrefixCode.entered {d : Char} {empty : List Char} (hf : IsPrefixCode f) (hc : c ≠ ',')
    (hbegins : ∀ x, ∃ e tail, f x = e :: tail ∧ e ≠ d) :
    IsPrefixCode (entered f (d :: empty) (c :: closing)) := by
  -- An empty list is not taken for the beginning of another.
  have hhead : ∀ x {a b : List Char}, d :: a ≠ f x ++ b := by
    intro x a b h
    obtain ⟨e, tail, hx, he⟩ := hbegins x
    rw [hx] at h
    exact he (List.cons.inj h).1.symm
  intro xs ys a b h
  cases xs with
  | nil =>
    cases ys with
    | nil => exact ⟨rfl, List.append_cancel_left h⟩
    | cons y ys =>
      rw [Text.entered, Text.entered, List.append_assoc] at h
      exact absurd h (hhead y)
  | cons x xs =>
    cases ys with
    | nil =>
      rw [Text.entered, Text.entered, List.append_assoc] at h
      exact absurd h.symm (hhead x)
    | cons y ys =>
      rw [Text.entered, Text.entered, List.append_assoc, List.append_assoc] at h
      obtain ⟨rfl, hrest⟩ := hf h
      obtain ⟨rfl, rfl⟩ := hf.further hc hrest
      exact ⟨rfl, rfl⟩

/-- A writer that puts commas between entries writes what `entered` does, which is given by two
equations instead of its definition. -/
theorem entered_eq {g : List α → List Char} (hone : ∀ x, g [x] = f x)
    (hmore : ∀ x y ys, g (x :: y :: ys) = f x ++ ',' :: g (y :: ys)) (closing : List Char)
    (x : α) (xs : List α) : g (x :: xs) ++ closing = f x ++ further f closing xs := by
  induction xs generalizing x with
  | nil => rw [hone, further]
  | cons y ys ih => rw [hmore, List.append_assoc, List.cons_append, ih, further]

end SchemaSeed.Text
