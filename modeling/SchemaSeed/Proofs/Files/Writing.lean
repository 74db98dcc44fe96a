import SchemaSeed.Proofs.Files.Tree

/-!
# Writing a file

A file that is written, with the directories that its path needs, can be read again, and
everything else is left as it was (`wrote_put`).
-/

namespace SchemaSeed.Files

namespace Tree

variable {t t' t'' : Tree} {path text : String} {place : List String}

/-! ## Additional directories -/

def KeptAt (t t' : Tree) (place : List String) : Prop :=
  t'.entry? place = t.entry? place ∨
    t.entry? place = none ∧ t'.entry? place = some .directory

/-- Nothing was changed, but directories may have been added. It is what remains of creating
directories when a later step fails. -/
structure AddsDirectories (t t' : Tree) : Prop where
  workingDirectory : t'.workingDirectory = t.workingDirectory
  kept : ∀ place, KeptAt t t' place

theorem AddsDirectories.refl (t : Tree) : AddsDirectories t t := ⟨rfl, fun _ => .inl rfl⟩

/-- An entry that was added first is kept afterwards, and one that is added later was missing
before. -/
theorem AddsDirectories.trans (h : AddsDirectories t t') (h' : AddsDirectories t' t'') :
    AddsDirectories t t'' := by
  refine ⟨h'.workingDirectory.trans h.workingDirectory, fun place => ?_⟩
  rcases h.kept place with heq | ⟨hnone, hdirectory⟩
  · rcases h'.kept place with heq' | ⟨hnone, hdirectory⟩
    · exact .inl (heq'.trans heq)
    · exact .inr ⟨heq ▸ hnone, hdirectory⟩
  · rcases h'.kept place with heq' | ⟨hnone', -⟩
    · exact .inr ⟨hnone, heq'.trans hdirectory⟩
    -- Nothing is added where a directory was added before.
    · rw [hdirectory] at hnone'
      cases hnone'

/-- More directories do not change where paths are followed from. -/
theorem AddsDirectories.start_eq (h : AddsDirectories t t') (path : String) :
    t'.start path = t.start path := by
  rw [start, start, h.workingDirectory]

/-- A directory may be put where nothing is. Above the working directory it changes nothing. -/
theorem addsDirectories_put (h : t.entry? place = none) :
    AddsDirectories t (t.put place .directory) := by
  refine ⟨rfl, fun q => ?_⟩
  rw [KeptAt, entry?_put]
  by_cases hwork : q.isPrefixOf t.workingDirectory
  · exact .inl (by simp [hwork, entry?_of_isPrefixOf])
  · by_cases hq : place == q
    · rw [← eq_of_beq hq]
      exact .inr ⟨h, by simp⟩
    · exact .inl (by simp [hwork, hq])

theorem addsDirectories_createDirectory {names : List String}
    (h : t.createDirectory place names = .ok t') : AddsDirectories t t' := by
  obtain ⟨found, -, h⟩ := exists_of_bind_eq_ok h
  split at h
  · cases h
  · next hnone =>
    cases h
    exact addsDirectories_put (Option.not_isSome_iff_eq_none.1 hnone)

/-- Being content with what is there leaves the tree alone. -/
theorem eq_of_settle {names : List String} {f : Fault} (h : t.settle place names f = .ok t') :
    t' = t := by
  rw [settle] at h
  split at h
  · split at h
    · cases h; rfl
    · cases h
  · cases h

/-- By induction on the names: the directories above come first, and each of them only adds to the
tree. -/
theorem addsDirectories_createDirectories {names : List String}
    (h : t.createDirectories place names = .ok t') : AddsDirectories t t' := by
  induction names generalizing t' with
  | nil =>
    cases h
    exact .refl t
  | cons name parents ih =>
    rw [createDirectories_cons] at h
    -- The last directory was created at once, or after those above, or it was there.
    split at h
    · next hcreate =>
      cases h
      exact addsDirectories_createDirectory hcreate
    · obtain ⟨a, habove, h⟩ := exists_of_bind_eq_ok h
      split at h
      · next hcreate =>
        cases h
        exact (ih habove).trans (addsDirectories_createDirectory hcreate)
      · rw [eq_of_settle h]
        exact ih habove
    · rw [eq_of_settle h]
      exact .refl t

theorem addsDirectories_createParent (h : t.createParent path = .ok t') :
    AddsDirectories t t' := by
  rw [createParent] at h
  split at h
  · cases h
    exact .refl t
  · dsimp only at h
    generalize List.tail _ = parents at h
    split at h
    · cases h
    · exact addsDirectories_createDirectories h

/-! ## Written files -/

/-- There is room for a file with the path, once the directories are there that it needs.
`admits_iff` says so of the tree as it is. -/
def Admits (t : Tree) (path : String) : Prop :=
  ∃ t' place, t.createParent path = .ok t' ∧ t'.fileToCreate path = .ok place

/-- The file with the path holds the text. All else is as it was, but directories may have been
added. The file is found by its path in the new tree. -/
structure Wrote (t : Tree) (path text : String) (t' : Tree) : Prop where
  workingDirectory : t'.workingDirectory = t.workingDirectory
  readText : t'.readText path = .ok text
  others : ∀ place, t'.resolve path ≠ .ok place → KeptAt t t' place

/-- A path with a name at its end leads to the place that the file gets. Of the path of the
root, nothing but the root itself could be left, which is a directory. -/
theorem resolve_of_fileToCreate (h : t.fileToCreate path = .ok place) :
    t.resolve path = .ok place ∧ t.isDirectory place = false := by
  obtain ⟨q, hresolve, h⟩ := exists_of_bind_eq_ok h
  split at h
  · cases h
  · next hfree =>
    cases h
    obtain ⟨hname, hdirectory⟩ := not_or.1 hfree
    rw [Decidable.not_not.1 hname, ite_self] at hresolve
    exact ⟨hresolve, Bool.eq_false_iff.2 hdirectory⟩

theorem entry?_put_self (hplace : t.isDirectory place = false) (e : Entry) :
    Tree.entry? (t.put place e) place = some e := by
  have hwork : ¬ place.isPrefixOf t.workingDirectory := by
    intro hwork
    rw [isDirectory, entry?_of_isPrefixOf hwork] at hplace
    cases hplace
  rw [entry?_put, if_neg hwork, if_pos BEq.rfl]

theorem entry?_put_of_ne {q : List String} (hq : place ≠ q) (e : Entry) :
    Tree.entry? (t.put place e) q = t.entry? q := by
  rw [entry?_put, entry?]
  have hne : (place == q) = false := by simpa using hq
  rw [hne]
  split <;> rfl

/-- A file leads nowhere, so that no path goes another way after it was put there: every directory
was one before. -/
theorem resolve_put_file (hresolve : t.resolve path = .ok place)
    (hplace : t.isDirectory place = false) (content : Content) :
    (t.put place (.file content)).resolve path = .ok place := by
  refine resolve_eq_ok_of_isDirectory (workingDirectory_put t place _).symm (fun q hq => ?_) hresolve
  have hne : place ≠ q := by
    rintro rfl
    rw [hplace] at hq
    cases hq
  rwa [isDirectory, entry?_put_of_ne hne]

/-- The directories of the path come first (`hadds`), then the file itself. Only the entry at
the place of the file is not what it was after the first step. -/
theorem wrote_put (hadds : AddsDirectories t t') (hfile : t'.fileToCreate path = .ok place) :
    Wrote t path text (t'.put place (.file (.text text))) := by
  obtain ⟨hresolve, hplace⟩ := resolve_of_fileToCreate hfile
  have hresolve' := resolve_put_file hresolve hplace (.text text)
  refine ⟨hadds.workingDirectory, ?_, ?_⟩
  · rw [readText, hresolve']
    simp only [bind, Except.bind, entry?_put_self hplace, Content.text?]
  · intro q hq
    have hne : place ≠ q := by
      rintro rfl
      exact hq hresolve'
    rw [KeptAt, entry?_put_of_ne hne]
    exact hadds.kept q

end Tree

end SchemaSeed.Files
