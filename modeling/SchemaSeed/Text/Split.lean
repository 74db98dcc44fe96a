/-!
# Cutting a text at a character

`split` cuts at every occurrence of a separator, `cut?` at the first one. The pieces and
the separators make up the text again (`intercalate_split`).
-/

namespace SchemaSeed.Text

/-- The pieces of a text between the occurrences of `separator`. -/
def split (separator : Char) (cs : List Char) : List (List Char) :=
  match _h : cs.dropWhile (· != separator) with
  | [] => [cs]
  | _ :: rest => cs.takeWhile (· != separator) :: split separator rest
termination_by cs.length
decreasing_by
  have := (List.dropWhile_sublist (· != separator) : (cs.dropWhile _).Sublist cs).length_le
  rw [_h] at this
  exact this

/-- The text before and after the first occurrence of `separator`. -/
def cut? (separator : Char) (cs : List Char) : Option (List Char × List Char) :=
  match cs.dropWhile (· != separator) with
  | [] => none
  | _ :: rest => some (cs.takeWhile (· != separator), rest)

/-- The text before and after the last occurrence of `separator`. -/
def cutLast? (separator : Char) (cs : List Char) : Option (List Char × List Char) :=
  (cut? separator cs.reverse).map fun (after, before) => (before.reverse, after.reverse)

theorem intercalate_split (separator : Char) (cs : List Char) :
    [separator].intercalate (split separator cs) = cs := by
  fun_induction split separator cs with
  | case1 => simp [List.intercalate]
  | case2 cs c rest h ih =>
    have hc : c = separator := by
      have := List.head?_dropWhile_not (fun x => x != separator) cs
      rw [h] at this
      simpa using this
    have hcs : cs.takeWhile (· != separator) ++ c :: rest = cs := by
      rw [← h]; exact List.takeWhile_append_dropWhile
    -- There is at least one piece behind the separator.
    rcases hs : split separator rest with _ | ⟨w, ws⟩
    · rw [hs] at ih; simp [List.intercalate] at ih
      unfold split at hs; split at hs <;> cases hs
    · rw [hs] at ih
      simp only [List.intercalate, List.intersperse_cons_cons, List.flatten_cons,
        List.singleton_append] at ih ⊢
      rw [ih]
      rw [hc] at hcs
      exact hcs

end SchemaSeed.Text
