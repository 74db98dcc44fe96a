import Mathlib.Data.List.TakeWhile
import SchemaSeed.Proofs.Text.Stops
import SchemaSeed.Text.Split

/-!
# Cutting a text that was put together

What is cut at a separator falls into the parts that it was put together from, as long as
these do not contain the separator themselves: all of them for `split`, the first one for
`cut?` and the last one for `cutLast?`.
-/

namespace SchemaSeed.Text

variable {separator : Char} {cs : List Char}

/-! ## Up to a separator -/

theorem all_ne_of_notMem (h : separator ∉ cs) : ∀ c ∈ cs, (c != separator) = true := by
  intro c hc
  rw [bne_iff_ne]
  rintro rfl
  exact h hc

/-- The text in front of the first separator is taken whole, and nothing of what follows it. -/
theorem takeWhile_ne_append (h : separator ∉ cs) (rest : List Char) :
    (cs ++ separator :: rest).takeWhile (· != separator) = cs :=
  takeWhile_append_stops (all_ne_of_notMem h) (stops_cons (bne_self_eq_false separator))

theorem dropWhile_ne_append (h : separator ∉ cs) (rest : List Char) :
    (cs ++ separator :: rest).dropWhile (· != separator) = separator :: rest :=
  dropWhile_append_stops (all_ne_of_notMem h) (stops_cons (bne_self_eq_false separator))

theorem takeWhile_ne_of_notMem (h : separator ∉ cs) : cs.takeWhile (· != separator) = cs :=
  List.takeWhile_eq_self_iff.2 (all_ne_of_notMem h)

theorem dropWhile_ne_of_notMem (h : separator ∉ cs) : cs.dropWhile (· != separator) = [] :=
  List.dropWhile_eq_nil_iff.2 (all_ne_of_notMem h)

/-- A text without the separator in front of another is passed over; what is taken or dropped is
decided by the other one. -/
theorem takeWhile_ne_append_of_notMem (h : separator ∉ cs) (rest : List Char) :
    (cs ++ rest).takeWhile (· != separator) = cs ++ rest.takeWhile (· != separator) :=
  List.takeWhile_append_of_pos (all_ne_of_notMem h)

theorem dropWhile_ne_append_of_notMem (h : separator ∉ cs) (rest : List Char) :
    (cs ++ rest).dropWhile (· != separator) = rest.dropWhile (· != separator) :=
  List.dropWhile_append_of_pos (all_ne_of_notMem h)

theorem notMem_takeWhile_ne (cs : List Char) : separator ∉ cs.takeWhile (· != separator) := by
  intro h
  have hne := List.mem_takeWhile_imp h
  simp at hne

/-! ## Every separator -/

/-- The two equations of `split`, by what is left in front of the first separator: here there is
none. -/
theorem split_of_dropWhile_eq_nil (h : cs.dropWhile (· != separator) = []) :
    split separator cs = [cs] := by
  rw [split]
  split
  · rfl
  · next heq =>
    rw [h] at heq
    cases heq

/-- With a separator, the text in front of it is the first piece, and what comes after it is cut in
turn. -/
theorem split_of_dropWhile_eq_cons {c : Char} {rest : List Char}
    (h : cs.dropWhile (· != separator) = c :: rest) :
    split separator cs = cs.takeWhile (· != separator) :: split separator rest := by
  rw [split]
  split
  · next heq =>
    rw [h] at heq
    cases heq
  · next heq =>
    rw [h] at heq
    cases heq
    rfl

theorem split_of_notMem (h : separator ∉ cs) : split separator cs = [cs] :=
  split_of_dropWhile_eq_nil (dropWhile_ne_of_notMem h)

/-- The first piece is cut off at the first separator, and the rest is cut without regard to it. -/
theorem split_append (h : separator ∉ cs) (rest : List Char) :
    split separator (cs ++ separator :: rest) = cs :: split separator rest := by
  rw [split_of_dropWhile_eq_cons (dropWhile_ne_append h rest), takeWhile_ne_append h]

/-- A text with a separator in it is cut there. By strong induction on the length of what comes
before, since pieces are cut off there one at a time. -/
theorem split_append_separator (separator : Char) (as bs : List Char) :
    split separator (as ++ separator :: bs) = split separator as ++ split separator bs := by
  induction hlength : as.length using Nat.strongRecOn generalizing as with
  | ind n ih =>
    by_cases hmem : separator ∈ as
    · obtain ⟨front, back, rfl, hfront⟩ := List.eq_append_cons_of_mem hmem
      have hlt : back.length < n := by
        rw [← hlength, List.length_append, List.length_cons]
        omega
      rw [List.append_assoc, List.cons_append, split_append hfront, split_append hfront,
        ih _ hlt back rfl, List.cons_append]
    · rw [split_append hmem, split_of_notMem hmem, List.singleton_append]

/-- Pieces without the separator are found again, however many there are. (An empty list of pieces
would come back as one empty piece.) -/
theorem split_intercalate {pieces : List (List Char)} (hne : pieces ≠ [])
    (h : ∀ piece ∈ pieces, separator ∉ piece) :
    split separator ([separator].intercalate pieces) = pieces := by
  induction pieces with
  | nil => exact absurd rfl hne
  | cons piece pieces ih =>
    cases pieces with
    | nil =>
      rw [List.intercalate_singleton, split_of_notMem (h piece List.mem_cons_self)]
    | cons next pieces =>
      rw [List.intercalate_cons_cons, List.append_assoc, List.singleton_append,
        split_append (h piece List.mem_cons_self),
        ih (List.cons_ne_nil _ _) fun q hq => h q (List.mem_cons_of_mem _ hq)]

/-- No piece contains the separator. By the induction of `split` itself, which has a case for the
last piece and one for the others. -/
theorem separator_notMem_of_mem_split {piece : List Char} (h : piece ∈ split separator cs) :
    separator ∉ piece := by
  fun_induction split separator cs with
  | case1 cs hnone =>
    -- Nothing was cut off: the whole text was taken, and it has no separator.
    rw [List.mem_singleton.1 h]
    intro hmem
    have hne := List.dropWhile_eq_nil_iff.1 hnone separator hmem
    simp at hne
  | case2 cs c rest hcut ih =>
    rcases List.mem_cons.1 h with rfl | hrest
    · exact notMem_takeWhile_ne cs
    · exact ih hrest

/-- Cutting invents no characters: what stands in a piece stands in the text. -/
theorem mem_of_mem_split {piece : List Char} (h : piece ∈ split separator cs) {c : Char}
    (hc : c ∈ piece) : c ∈ cs := by
  fun_induction split separator cs with
  | case1 cs hnone => rwa [List.mem_singleton.1 h] at hc
  | case2 cs d rest hcut ih =>
    rcases List.mem_cons.1 h with rfl | hrest
    · exact (List.takeWhile_sublist _).subset hc
    · have hmem : c ∈ cs.dropWhile (· != separator) := by
        rw [hcut]
        exact List.mem_cons_of_mem _ (ih hrest)
      exact (List.dropWhile_sublist _).subset hmem

/-! ## The first separator and the last one -/

/-- The first separator decides, whatever comes after it, if there is none in front of it. -/
theorem cut?_append (h : separator ∉ cs) (rest : List Char) :
    cut? separator (cs ++ separator :: rest) = some (cs, rest) := by
  rw [cut?, dropWhile_ne_append h, takeWhile_ne_append h]

theorem cut?_of_notMem (h : separator ∉ cs) : cut? separator cs = none := by
  rw [cut?, dropWhile_ne_of_notMem h]

/-- The last separator is the first one of the reversed text. -/
theorem cutLast?_append (h : separator ∉ cs) (front : List Char) :
    cutLast? separator (front ++ separator :: cs) = some (front, cs) := by
  have hreverse : separator ∉ cs.reverse := by rwa [List.mem_reverse]
  rw [cutLast?, List.reverse_append, List.reverse_cons, List.append_assoc, List.singleton_append,
    cut?_append hreverse, Option.map_some]
  simp only [List.reverse_reverse]

theorem cutLast?_of_notMem (h : separator ∉ cs) : cutLast? separator cs = none := by
  rw [cutLast?, cut?_of_notMem (by rwa [List.mem_reverse]), Option.map_none]

/-- A text with the separator has a last one, and can be written with it in the middle. -/
theorem exists_cutLast? (h : separator ∈ cs) :
    ∃ front back, separator ∉ back ∧ cs = front ++ separator :: back := by
  obtain ⟨back, front, heq, hback⟩ := List.eq_append_cons_of_mem (List.mem_reverse.2 h)
  refine ⟨front.reverse, back.reverse, by rwa [List.mem_reverse], ?_⟩
  rw [← List.reverse_reverse cs, heq]
  simp

end SchemaSeed.Text
