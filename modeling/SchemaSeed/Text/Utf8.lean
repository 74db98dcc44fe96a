/-!
# Lengths in bytes

Positions and limits count the bytes of a text in UTF-8.
-/

namespace SchemaSeed.Text

def byteCount (cs : List Char) : Nat := cs.foldl (fun n c => n + c.utf8Size) 0

@[simp] theorem byteCount_nil : byteCount [] = 0 := rfl

@[simp] theorem byteCount_cons (c : Char) (cs : List Char) :
    byteCount (c :: cs) = c.utf8Size + byteCount cs := by
  have from_start : ∀ (cs : List Char) (n : Nat),
      cs.foldl (fun n c => n + c.utf8Size) n = n + cs.foldl (fun n c => n + c.utf8Size) 0 := by
    intro cs
    induction cs with
    | nil => exact fun _ => rfl
    | cons c cs ih =>
      intro n
      simp only [List.foldl_cons]
      rw [ih (n + c.utf8Size), ih (0 + c.utf8Size)]
      omega
  simp only [byteCount, List.foldl_cons]
  rw [from_start cs (0 + c.utf8Size), Nat.zero_add]

end SchemaSeed.Text
