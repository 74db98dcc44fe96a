import SchemaSeed.Files.Tree
import SchemaSeed.Proofs.Attempts

/-!
# Trees that differ in what their files hold

Where a path leads, and whether something can be put there, depends on the files and
directories that there are, not on what the files hold. So two trees that differ only in
that (`SameButContents`) are changed in the same way: what is written in one is written in
the other, and the rest stays as it was (`SameChanges`).
-/

namespace SchemaSeed.Files

namespace Tree

/-- There are the same files and directories, and the work is done in the same one. Only what the
files hold may differ. -/
structure SameButContents (t t' : Tree) : Prop where
  workingDirectory : t.workingDirectory = t'.workingDirectory
  entries : ∀ place, t.entry? place = t'.entry? place ∨
    ∃ c c', t.entry? place = some (.file c) ∧ t'.entry? place = some (.file c')

/-- The trees `a` and `a'` have come from `t` and `t'`: what was changed is the same now, and
the work is still done in the same directory. -/
structure SameChanges (t t' a a' : Tree) : Prop where
  left : a.workingDirectory = t.workingDirectory
  right : a'.workingDirectory = t'.workingDirectory
  entries : ∀ place, a.entry? place = a'.entry? place ∨
    a.entry? place = t.entry? place ∧ a'.entry? place = t'.entry? place

variable {t t' a a' : Tree}

theorem SameChanges.refl (t t' : Tree) : SameChanges t t' t t' :=
  ⟨rfl, rfl, fun _ => .inr ⟨rfl, rfl⟩⟩

@[simp]
theorem workingDirectory_put (t : Tree) (place : List String) (e : Entry) :
    (t.put place e).workingDirectory = t.workingDirectory := rfl

/-- The root, the working directory and those between them are there in every tree, whatever else
was put into it. -/
theorem entry?_of_isPrefixOf {place : List String} (h : place.isPrefixOf t.workingDirectory) :
    t.entry? place = some .directory := if_pos h

/-- Nothing can be put in the place of the working directory, or of one that it is in. -/
theorem entry?_put (t : Tree) (place : List String) (e : Entry) (q : List String) :
    Tree.entry? (t.put place e) q =
      if q.isPrefixOf t.workingDirectory then some .directory
      else if place == q then some e else t.entry? q := by
  rw [put, entry?, entry?, Assoc.find?_insert]
  split <;> rfl

/-- Two trees that are changed alike and then take the same entry are changed alike. The place
may lie above one working directory only if it lies above the other. -/
theorem SameChanges.put (hcontents : t.SameButContents t') (h : SameChanges t t' a a')
    (place : List String) (e : Entry) :
    SameChanges t t' (a.put place e) (a'.put place e) := by
  refine ⟨h.left, h.right, fun q => ?_⟩
  rw [entry?_put, entry?_put, h.left, h.right, ← hcontents.workingDirectory]
  by_cases hwork : q.isPrefixOf t.workingDirectory
  · exact .inl (by simp [hwork])
  · by_cases hq : place == q
    · exact .inl (by simp [hwork, hq])
    · simpa [hwork, hq] using h.entries q

/-- One file may hold something else: the secret that two trees differ in is put at its place this
way. -/
theorem sameButContents_put (t : Tree) (place : List String) (c c' : Content) :
    (t.put place (.file c)).SameButContents (t.put place (.file c')) := by
  refine ⟨rfl, fun q => ?_⟩
  rw [entry?_put, entry?_put]
  split
  · exact .inl rfl
  · split
    · exact .inr ⟨c, c', rfl, rfl⟩
    · exact .inl rfl

/-- Trees that differ only in what their files hold still do so after the same changes. -/
theorem SameChanges.sameButContents (h : SameChanges t t' a a') (hcontents : t.SameButContents t') :
    a.SameButContents a' := by
  refine ⟨by rw [h.left, h.right, hcontents.workingDirectory], fun place => ?_⟩
  rcases h.entries place with h | ⟨h, h'⟩
  · exact .inl h
  · rw [h, h']
    exact hcontents.entries place

/-! ## Paths -/

section Paths

variable (h : t.SameButContents t')

include h

theorem isDirectory_congr (place : List String) : t.isDirectory place = t'.isDirectory place := by
  rw [isDirectory, isDirectory]
  rcases h.entries place with h | ⟨c, c', h, h'⟩
  · rw [h]
  · rw [h, h']
    rfl

theorem isSome_entry?_congr (place : List String) :
    (t.entry? place).isSome = (t'.entry? place).isSome := by
  rcases h.entries place with h | ⟨c, c', h, h'⟩
  · rw [h]
  · rw [h, h']
    rfl

/-- Whatever files hold, a name is followed or not by the kind of the entry alone. By induction on
the names. -/
theorem walk_congr (place names : List String) : t.walk place names = t'.walk place names := by
  induction names generalizing place with
  | nil => rfl
  | cons name rest ih =>
    simp only [walk, ih]
    rcases h.entries place with h | ⟨c, c', h, h'⟩
    · rw [h]
    · rw [h, h']

theorem start_congr (path : String) : t.start path = t'.start path := by
  rw [start, start, h.workingDirectory]

/-- A path leads to the same place in both trees, or fails for the same reason. -/
theorem resolve_congr (path : String) : t.resolve path = t'.resolve path := by
  rw [resolve, resolve, walk_congr h, start_congr h]

theorem fileToCreate_congr (path : String) : t.fileToCreate path = t'.fileToCreate path := by
  simp only [fileToCreate, resolve_congr h, isDirectory_congr h]

end Paths

/-! ## Changes -/

/-- Is content with a directory that is there already. It is what creating directories falls back on
when one of them could not be created. -/
def settle (t : Tree) (place names : List String) (f : Fault) : Except Fault Tree :=
  match t.walk place names with
  | .ok place => if t.isDirectory place then .ok t else .error f
  | .error _ => .error f

/-- One step of creating directories from the last one on, with `settle` for its local function: the
last one is tried first, and those above only if it has no place yet. -/
theorem createDirectories_cons (t : Tree) (place : List String) (name : String)
    (parents : List String) :
    t.createDirectories place (name :: parents) =
      match t.createDirectory place (name :: parents).reverse with
      | .ok a => .ok a
      | .error .notFound => do
        let a ← t.createDirectories place parents
        match a.createDirectory place (name :: parents).reverse with
        | .ok b => .ok b
        | .error f => a.settle place (name :: parents).reverse f
      | .error f => t.settle place (name :: parents).reverse f := by
  rw [createDirectories]
  rfl

section Changes

variable (hcontents : t.SameButContents t')

include hcontents

/-- Both trees take the same content at the same place, or neither does. -/
theorem write_alike (h : SameChanges t t' a a') (path : String) (content : Content) :
    GoAlike (SameChanges t t') (a.write path content) (a'.write path content) := by
  rw [write, write, fileToCreate_congr (h.sameButContents hcontents)]
  refine GoAlike.bind_same _ fun place => ?_
  exact .ok (h.put hcontents place _)

/-- Something is put where there is nothing, or else the trees are left as they are; which of the
two happens is the same in both. -/
theorem openForAppending_alike (h : SameChanges t t' a a') (path : String) :
    GoAlike (SameChanges t t') (a.openForAppending path) (a'.openForAppending path) := by
  rw [openForAppending, openForAppending, fileToCreate_congr (h.sameButContents hcontents)]
  refine GoAlike.bind_same _ fun place => ?_
  rw [isSome_entry?_congr (h.sameButContents hcontents)]
  split
  · exact .ok h
  · exact .ok (h.put hcontents place _)

/-- A directory is created in both trees, or fails for the same reason: whether the place is taken
depends on no content. -/
theorem createDirectory_alike (h : SameChanges t t' a a') (place path : List String) :
    GoAlike (SameChanges t t') (a.createDirectory place path) (a'.createDirectory place path) := by
  rw [createDirectory, createDirectory, walk_congr (h.sameButContents hcontents)]
  refine GoAlike.bind_same _ fun place => ?_
  rw [isSome_entry?_congr (h.sameButContents hcontents)]
  split
  · exact .error _
  · exact .ok (h.put hcontents place _)

theorem settle_alike (h : SameChanges t t' a a') (place path : List String) (f : Fault) :
    GoAlike (SameChanges t t') (a.settle place path f) (a'.settle place path f) := by
  rw [settle, settle, walk_congr (h.sameButContents hcontents)]
  cases a'.walk place path with
  | error _ => exact .error f
  | ok place =>
    simp only [isDirectory_congr (h.sameButContents hcontents)]
    split
    · exact .ok h
    · exact .error f

/-- By induction on the names: the directories above are created in the same way. Each outcome of
the first attempt is one case, since only a missing directory leads further. -/
theorem createDirectories_alike (h : SameChanges t t' a a') (place names : List String) :
    GoAlike (SameChanges t t') (a.createDirectories place names)
      (a'.createDirectories place names) := by
  induction names generalizing a a' with
  | nil => exact .ok h
  | cons name parents ih =>
    have hcreate := createDirectory_alike hcontents h place (name :: parents).reverse
    rw [createDirectories_cons, createDirectories_cons]
    generalize a.createDirectory place (name :: parents).reverse = created at hcreate ⊢
    generalize a'.createDirectory place (name :: parents).reverse = created' at hcreate ⊢
    cases hcreate with
    | ok h => exact .ok h
    | error f =>
      cases f with
      | notFound =>
        -- The same is tried again, once the directories above are there in both trees.
        refine (ih h).bind fun b b' h => ?_
        have hagain := createDirectory_alike hcontents h place (name :: parents).reverse
        generalize b.createDirectory place (name :: parents).reverse = created at hagain ⊢
        generalize b'.createDirectory place (name :: parents).reverse = created' at hagain ⊢
        cases hagain with
        | ok h => exact .ok h
        | error f => exact settle_alike hcontents h _ _ f
      | «exists» | notDirectory | isDirectory | notText | badPath =>
        exact settle_alike hcontents h _ _ _

theorem createParent_alike (h : SameChanges t t' a a') (path : String) :
    GoAlike (SameChanges t t') (a.createParent path) (a'.createParent path) := by
  rw [createParent, createParent, start_congr (h.sameButContents hcontents)]
  cases names path with
  | nil => exact .ok h
  | cons first rest =>
    dsimp only
    generalize List.tail _ = parents
    split
    · exact .error _
    · exact createDirectories_alike hcontents h _ _

end Changes

/-! ## Contents -/

/-- Where a path leads depends on the directories alone: what was found through directories that
were there before is found in the tree from before. -/
theorem walk_eq_ok_of_isDirectory
    (h : ∀ place, a.isDirectory place = true → t.isDirectory place = true)
    {place names found : List String} (hwalk : a.walk place names = .ok found) :
    t.walk place names = .ok found := by
  induction names generalizing place with
  | nil => exact hwalk
  | cons name rest ih =>
    -- The walk went on, so that it was at a directory.
    have hplace : a.entry? place = some .directory := by
      rw [walk] at hwalk
      split at hwalk
      · cases hwalk
      · cases hwalk
      · next heq => exact heq
    have hplace' : t.entry? place = some .directory := by
      have hdirectory := h place
      simp only [isDirectory, decide_eq_true_eq] at hdirectory
      exact hdirectory hplace
    simp only [walk, hplace, hplace'] at hwalk ⊢
    by_cases hhere : name = "" ∨ name = "."
    · rw [if_pos hhere] at hwalk ⊢
      exact ih hwalk
    · rw [if_neg hhere] at hwalk ⊢
      by_cases habove : name = ".."
      · rw [if_pos habove] at hwalk ⊢
        exact ih hwalk
      · rw [if_neg habove] at hwalk ⊢
        exact ih hwalk

theorem resolve_eq_ok_of_isDirectory (hwork : a.workingDirectory = t.workingDirectory)
    (h : ∀ place, a.isDirectory place = true → t.isDirectory place = true)
    {path : String} {place : List String} (hresolve : a.resolve path = .ok place) :
    t.resolve path = .ok place := by
  rw [resolve] at hresolve ⊢
  split at hresolve
  · cases hresolve
  · next hpath =>
    rw [if_neg hpath]
    split at hresolve
    · cases hresolve
    · next hsome =>
      rw [if_neg hsome, start, ← hwork]
      exact walk_eq_ok_of_isDirectory h hresolve

/-- Opening a file creates no directory, so that paths lead nowhere else than before. -/
theorem isDirectory_of_openForAppending {path : String} {place : List String}
    (hopen : t.openForAppending path = .ok a) (h : a.isDirectory place = true) :
    t.isDirectory place = true := by
  rw [openForAppending] at hopen
  cases hcreate : t.fileToCreate path with
  | error f =>
    rw [hcreate] at hopen
    cases hopen
  | ok q =>
    rw [hcreate] at hopen
    simp only [bind, Except.bind] at hopen
    -- The file was there, or an empty one was put there, which is no directory.
    split at hopen
    · cases hopen
      exact h
    · cases hopen
      rw [isDirectory, entry?_put] at h
      split at h
      · next hwork =>
        rw [isDirectory, entry?_of_isPrefixOf hwork]
        rfl
      · split at h
        · cases h
        · exact h

/-- What is read is the same if it was before, and no way leads elsewhere now. The changes made
since are the same in both trees. -/
theorem readText_congr (hcontents : t.SameButContents t') (h : SameChanges t t' a a')
    (hdirectory : ∀ place, a.isDirectory place = true → t.isDirectory place = true)
    {path : String} (htext : t.readText path = t'.readText path) :
    a.readText path = a'.readText path := by
  have hsame := resolve_congr (h.sameButContents hcontents) path
  rw [readText, readText, ← hsame]
  cases hplace : a.resolve path with
  | error f => rfl
  | ok place =>
    have hplace := resolve_eq_ok_of_isDirectory h.left hdirectory hplace
    rw [readText, readText, ← resolve_congr hcontents, hplace] at htext
    simp only [bind, Except.bind] at htext ⊢
    -- The file was changed, and is the same now, or it is what it was.
    rcases h.entries place with h | ⟨h, h'⟩
    · rw [h]
    · rw [h, h']
      exact htext

end Tree

end SchemaSeed.Files
