import SchemaSeed.Proofs.Files.Writing
import SchemaSeed.Proofs.Text.Split

/-!
# Room for a file

On a path without detours there is room for a file unless a file stands where the path needs
a directory, or a directory where it needs the file (`admits_iff`). Directories that are
missing do not matter, since they are created one after the other.
-/

namespace SchemaSeed.Files

namespace Tree

variable {t t' t'' : Tree} {path : String} {place : List String}

/-! ## Ways -/

/-- A name that leads downwards, to something in the directory where it is followed. -/
def IsPlainName (name : String) : Prop := name ≠ "" ∧ name ≠ "." ∧ name ≠ ".."

/-- One step of a walk, for a name without a meaning of its own: the walk goes on below. -/
theorem walk_cons_of_plain {name : String} {ns : List String} (hname : IsPlainName name)
    (hplace : t.isDirectory place = true) :
    t.walk place (name :: ns) = t.walk (place ++ [name]) ns := by
  obtain ⟨hempty, hdot, habove⟩ := hname
  rw [isDirectory, decide_eq_true_eq] at hplace
  simp only [walk, hplace, hempty, hdot, habove, or_self, if_false]

/-- Following names that lead downwards succeeds exactly if every place on the way is a
directory, apart from the last one, of which nothing is asked. -/
theorem walk_eq_ok_iff {ns found : List String} (hplain : ∀ name ∈ ns, IsPlainName name) :
    t.walk place ns = .ok found ↔ found = place ++ ns ∧
      ∀ q, place <+: q → q <+: place ++ ns → q ≠ place ++ ns → t.isDirectory q = true := by
  induction ns generalizing place with
  | nil =>
    rw [walk, List.append_nil, Except.ok.injEq]
    refine ⟨fun h => ⟨h.symm, fun q hq hq' hne => ?_⟩, fun h => h.1.symm⟩
    exact (hne (hq'.eq_of_length_le hq.length_le)).elim
  | cons name ns ih =>
    cases hplace : t.isDirectory place with
    | false =>
      -- The walk ends where it begins, and the statement on the right asks for a directory there.
      constructor
      · intro h
        rw [walk] at h
        split at h
        · cases h
        · cases h
        · next heq =>
          rw [isDirectory, heq] at hplace
          cases hplace
      · rintro ⟨-, hdirectory⟩
        have hdirectory := hdirectory place (List.prefix_refl _) (List.prefix_append _ _) (by simp)
        rw [hplace] at hdirectory
        cases hdirectory
    | true =>
      -- The walk goes on below, and what lies between is one place less.
      rw [walk_cons_of_plain (hplain name List.mem_cons_self) hplace,
        ih fun n hn => hplain n (List.mem_cons_of_mem _ hn), ← List.append_cons place name ns]
      refine and_congr_right fun _ => ⟨fun h q hq hq' hne => ?_, fun h q hq => ?_⟩
      · -- The place itself is a directory.
        rcases Nat.lt_or_ge place.length q.length with hlt | hge
        · refine h q (List.prefix_of_prefix_length_le ⟨ns, ?_⟩ hq' ?_) hq' hne
          · exact (List.append_cons place name ns).symm
          · rw [List.length_append]
            exact hlt
        · rw [← hq.eq_of_length_le hge]
          exact hplace
      · exact h q ((List.prefix_append _ _).trans hq)

/-- A way without files on it ends early only where nothing is. -/
theorem walk_eq_notFound {ns : List String} {f : Fault} (hplain : ∀ name ∈ ns, IsPlainName name)
    (hfiles : ∀ q, q <+: place ++ ns → ∀ c, t.entry? q ≠ some (.file c))
    (h : t.walk place ns = .error f) : f = .notFound := by
  induction ns generalizing place with
  | nil => cases h
  | cons name ns ih =>
    cases hplace : t.entry? place with
    | none =>
      rw [walk, hplace] at h
      cases h
      rfl
    | some e =>
      cases e with
      | file c => exact (hfiles place (List.prefix_append _ _) c hplace).elim
      | directory =>
        rw [walk_cons_of_plain (hplain name List.mem_cons_self) (decide_eq_true hplace)] at h
        rw [List.append_cons place name ns] at hfiles
        exact ih (fun n hn => hplain n (List.mem_cons_of_mem _ hn)) hfiles h

/-! ## Creating directories -/

def IsWay (t : Tree) (place : List String) : Prop := ∀ q, q <+: place → t.isDirectory q = true

/-- There is a way to the place, and what is not on it is as it was. -/
structure Paved (t : Tree) (place : List String) (t' : Tree) : Prop where
  isWay : t'.IsWay place
  others : ∀ q, ¬ q <+: place → t'.entry? q = t.entry? q

/-- What is below a place is not on the way to it. -/
theorem not_below_above (place : List String) (name : String) :
    ¬ place ++ [name] <+: place := by
  intro h
  have hlength := h.length_le
  rw [List.length_append, List.length_singleton] at hlength
  omega

/-- A way is a way to what is above and a directory at its end, which is how ways are built up. -/
theorem isWay_concat {name : String} :
    t.IsWay (place ++ [name]) ↔ t.IsWay place ∧ t.isDirectory (place ++ [name]) = true := by
  refine ⟨fun h => ⟨fun q hq => ?_, h _ (List.prefix_refl _)⟩, fun h q hq => ?_⟩
  · exact h q (hq.trans (List.prefix_append _ _))
  · rcases List.prefix_concat_iff.1 hq with rfl | hq
    · exact h.2
    · exact h.1 q hq

/-- Wherever a path is followed from, there is a way to it: the root and the working directory
are always there, with all that the latter is in. -/
theorem isWay_start (t : Tree) (path : String) : t.IsWay (t.start path) := by
  intro q hq
  have hwork : q <+: t.workingDirectory := by
    rw [start] at hq
    split at hq
    · exact hq.trans List.nil_prefix
    · exact hq
  rw [isDirectory, entry?_of_isPrefixOf (List.isPrefixOf_iff_prefix.2 hwork)]
  rfl

/-- From the end of a way, only what comes after it is in question. -/
theorem walk_eq_ok_iff_of_isWay {ns found : List String} (hway : t.IsWay place)
    (hplain : ∀ name ∈ ns, IsPlainName name) :
    t.walk place ns = .ok found ↔ found = place ++ ns ∧
      ∀ q, q <+: place ++ ns → q ≠ place ++ ns → t.isDirectory q = true := by
  rw [walk_eq_ok_iff hplain]
  refine and_congr_right fun _ => ⟨fun h q hq hne => ?_, fun h q _ hq => h q hq⟩
  rcases List.prefix_or_prefix_of_prefix hq (List.prefix_append place ns) with habove | hbelow
  · exact hway q habove
  · exact h q hbelow hq hne

/-- A directory more blocks no way, wherever it is put. -/
theorem IsWay.put_directory (h : t.IsWay place) (q : List String) :
    (t.put q .directory).IsWay place := by
  intro r hr
  have hr := h r hr
  rw [isDirectory, decide_eq_true_eq] at hr ⊢
  rw [entry?_put]
  split
  · rfl
  · split
    · rfl
    · exact hr

/-- A way may be made in two steps, the last directory after those above it. -/
theorem Paved.trans {name : String} (h : Paved t place t') (h' : Paved t' (place ++ [name]) t'') :
    Paved t (place ++ [name]) t'' := by
  refine ⟨h'.isWay, fun q hq => ?_⟩
  have hq' : ¬ q <+: place := fun hq' => hq (hq'.trans (List.prefix_append _ _))
  rw [h'.others q hq, h.others q hq']

/-- At the end of a way a directory is put where nothing was; all that changes is the place itself.
-/
theorem paved_put {name : String} (h : t.IsWay place)
    (hnone : t.entry? (place ++ [name]) = none) :
    Paved t (place ++ [name]) (t.put (place ++ [name]) .directory) := by
  have hfree : t.isDirectory (place ++ [name]) = false := by rw [isDirectory, hnone]; rfl
  refine ⟨isWay_concat.2 ⟨h.put_directory _, ?_⟩, fun q hq => entry?_put_of_ne ?_ _⟩
  · rw [isDirectory, entry?_put_self hfree]
    rfl
  · rintro rfl
    exact hq (List.prefix_refl _)

section Creation

variable {above : List String} {name : String}
  (hplain : ∀ n ∈ above ++ [name], IsPlainName n)

include hplain

/-- Once the directories above are there, the names lead to the last one, which may be
missing. -/
theorem walk_of_isWay (h : t.IsWay (place ++ above)) :
    t.walk place (above ++ [name]) = .ok (place ++ above ++ [name]) := by
  rw [List.append_assoc]
  refine (walk_eq_ok_iff hplain).2 ⟨rfl, fun q _ hq hne => ?_⟩
  rw [← List.append_assoc] at hq hne
  exact h q ((List.prefix_concat_iff.1 hq).resolve_left hne)

/-- At the end of a way a directory is created, or is there already. -/
theorem createDirectory_of_isWay (h : t.IsWay (place ++ above))
    (hfile : ∀ c, t.entry? (place ++ above ++ [name]) ≠ some (.file c)) :
    (t.createDirectory place (above ++ [name]) = .error .exists ∧
        Paved t (place ++ above ++ [name]) t) ∨
      ∃ t', t.createDirectory place (above ++ [name]) = .ok t' ∧
        Paved t (place ++ above ++ [name]) t' := by
  rw [createDirectory, walk_of_isWay hplain h]
  simp only [bind, Except.bind]
  cases hentry : t.entry? (place ++ above ++ [name]) with
  | none => exact .inr ⟨_, rfl, paved_put h hentry⟩
  | some e =>
    cases e with
    | file c => exact (hfile c hentry).elim
    | directory =>
      exact .inl ⟨rfl, isWay_concat.2 ⟨h, decide_eq_true hentry⟩, fun _ _ => rfl⟩

/-- It is no failure that a directory could not be created where there is one. -/
theorem settle_of_isWay (h : t.IsWay (place ++ above ++ [name])) (f : Fault) :
    t.settle place (above ++ [name]) f = .ok t := by
  rw [settle, walk_of_isWay hplain (isWay_concat.1 h).1]
  exact if_pos (isWay_concat.1 h).2

end Creation

/-- By induction on the names, the last one first: where no file is on the way to a
directory, it can be created. Either the names lead to it, and one directory is made at most,
or something above is missing, which the induction hypothesis makes first. -/
theorem exists_createDirectories (hstart : t.IsWay place) {names : List String}
    (hplain : ∀ n ∈ names, IsPlainName n)
    (hfiles : ∀ q, q <+: place ++ names.reverse → ∀ c, t.entry? q ≠ some (.file c)) :
    ∃ t', t.createDirectories place names = .ok t' ∧ Paved t (place ++ names.reverse) t' := by
  induction names with
  | nil =>
    rw [List.reverse_nil, List.append_nil]
    exact ⟨t, rfl, hstart, fun _ _ => rfl⟩
  | cons name parents ih =>
    have hplain' : ∀ n ∈ parents.reverse ++ [name], IsPlainName n := by
      intro n hn
      rw [← List.reverse_cons, List.mem_reverse] at hn
      exact hplain n hn
    rw [createDirectories_cons]
    rw [List.reverse_cons] at hfiles ⊢
    have hfiles' := hfiles
    rw [← List.append_assoc] at hfiles' ⊢
    cases hwalk : t.walk place (parents.reverse ++ [name]) with
    | error f =>
      cases walk_eq_notFound hplain' hfiles hwalk
      have hmissing : t.createDirectory place (parents.reverse ++ [name]) = .error .notFound := by
        rw [createDirectory, hwalk]
        rfl
      obtain ⟨a, habove, hpaved⟩ := ih (fun n hn => hplain n (List.mem_cons_of_mem _ hn))
        fun q hq => hfiles' q (hq.trans (List.prefix_append _ _))
      have hfile : ∀ c, a.entry? (place ++ parents.reverse ++ [name]) ≠ some (.file c) := by
        rw [hpaved.others _ (not_below_above _ _)]
        exact hfiles' _ (List.prefix_refl _)
      rw [hmissing, habove]
      simp only [bind, Except.bind]
      rcases createDirectory_of_isWay hplain' hpaved.isWay hfile with
        ⟨hexists, hpaved'⟩ | ⟨b, hcreated, hpaved'⟩
      · rw [hexists]
        exact ⟨a, settle_of_isWay hplain' hpaved'.isWay _, hpaved.trans hpaved'⟩
      · rw [hcreated]
        exact ⟨b, rfl, hpaved.trans hpaved'⟩
    | ok found =>
      -- The names could be followed to the last one, so all that is above it is there.
      have hway : t.IsWay (place ++ parents.reverse) := by
        intro q hq
        have hdirectory := ((walk_eq_ok_iff_of_isWay hstart hplain').1 hwalk).2 q
        rw [← List.append_assoc] at hdirectory
        refine hdirectory (hq.trans (List.prefix_append _ _)) ?_
        rintro rfl
        exact not_below_above _ _ hq
      rcases createDirectory_of_isWay hplain' hway (hfiles' _ (List.prefix_refl _)) with
        ⟨hexists, hpaved⟩ | ⟨b, hcreated, hpaved⟩
      · rw [hexists]
        exact ⟨t, settle_of_isWay hplain' hpaved.isWay _, hpaved⟩
      · rw [hcreated]
        exact ⟨b, rfl, hpaved⟩

/-! ## Plain paths -/

/-- The names to follow from where a path is followed from: the slash in front of a path from
the root has an empty name before it, which stays at the root. -/
def steps (path : String) : List String :=
  if isAbsolute path then (names path).tail else names path

structure IsPlain (path : String) : Prop where
  noEnd : '\x00' ∉ path.toList
  down : ∀ name ∈ steps path, IsPlainName name

def destination (t : Tree) (path : String) : List String := t.start path ++ steps path

/-- No file is where the path needs a directory, and no directory where it needs a file. -/
structure IsFree (t : Tree) (path : String) : Prop where
  above : ∀ q, q <+: t.destination path → q ≠ t.destination path →
    ∀ c, t.entry? q ≠ some (.file c)
  here : t.isDirectory (t.destination path) = false

/-- There is always a piece, if only an empty one. -/
theorem split_ne_nil (cs : List Char) : Text.split '/' cs ≠ [] := by
  rw [Text.split]
  split
  · exact List.cons_ne_nil _ _
  · exact List.cons_ne_nil _ _

/-- Before the slash of a path from the root there is an empty name. -/
theorem exists_names_of_isAbsolute (h : isAbsolute path = true) :
    ∃ cs, names path = "" :: (Text.split '/' cs).map String.ofList := by
  rw [isAbsolute, decide_eq_true_eq] at h
  obtain ⟨cs, hcs⟩ := List.head?_eq_some_iff.1 h
  refine ⟨cs, ?_⟩
  rw [names, hcs, ← List.nil_append ('/' :: cs), Text.split_append List.not_mem_nil]
  rfl

/-- In front of the steps of a path from the root there is one empty name, and nothing else. -/
theorem names_of_isAbsolute (h : isAbsolute path = true) : names path = "" :: steps path := by
  obtain ⟨cs, hcs⟩ := exists_names_of_isAbsolute h
  rw [steps, if_pos h, hcs, List.tail_cons]

theorem names_of_isRelative (h : ¬ isAbsolute path) : names path = steps path := by
  rw [steps, if_neg h]

/-- No path is without a last name, though this may be empty. -/
theorem steps_ne_nil (path : String) : steps path ≠ [] := by
  rw [steps]
  split
  · next h =>
    obtain ⟨cs, hcs⟩ := exists_names_of_isAbsolute h
    rw [hcs, List.tail_cons, ne_eq, List.map_eq_nil_iff]
    exact split_ne_nil cs
  · rw [names, ne_eq, List.map_eq_nil_iff]
    exact split_ne_nil _

/-- Following all the names is following the steps. -/
theorem walk_names (t : Tree) (path : String) :
    t.walk (t.start path) (names path) = t.walk (t.start path) (steps path) := by
  by_cases h : isAbsolute path
  · have hroot : t.entry? [] = some .directory := entry?_of_isPrefixOf rfl
    rw [names_of_isAbsolute h, start, if_pos h, walk, hroot]
    exact if_pos (.inl rfl)
  · rw [names_of_isRelative h]

/-- A plain path is neither empty nor cut short, so that its steps are followed. -/
theorem IsPlain.resolve_eq (h : IsPlain path) (t : Tree) :
    t.resolve path = t.walk (t.start path) (steps path) := by
  have hsome : ¬ path.isEmpty := by
    intro hempty
    rw [String.isEmpty_iff] at hempty
    have hsteps : steps "" = [""] := by
      rw [steps, if_neg (by decide), names]
      exact congrArg _ (Text.split_of_notMem List.not_mem_nil)
    subst hempty
    exact (h.down "" (hsteps ▸ List.mem_cons_self)).1 rfl
  rw [resolve, if_neg (by simpa using h.noEnd), if_neg hsome, walk_names]

/-- The path does not end in a slash: otherwise the last of its steps would be empty. -/
theorem IsPlain.trimmed (h : IsPlain path) :
    String.ofList (path.toList.reverse.dropWhile (· = '/')).reverse = path := by
  rw [← String.toList_inj, String.toList_ofList]
  rcases List.eq_nil_or_concat path.toList with hpath | ⟨cs, c, hpath⟩
  · rw [hpath]
    rfl
  · rw [List.concat_eq_append] at hpath
    have hne : c ≠ '/' := by
      rintro rfl
      have hnames : names path = (Text.split '/' cs).map String.ofList ++ [""] := by
        rw [names, hpath, Text.split_append_separator, Text.split_of_notMem List.not_mem_nil,
          List.map_append]
        rfl
      have hempty : "" ∈ steps path := by
        rw [steps, hnames, List.tail_append_of_ne_nil (by simpa using split_ne_nil cs)]
        split <;> exact List.mem_append_right _ List.mem_cons_self
      exact (h.down "" hempty).1 rfl
    simp [hpath, hne]

/-- A character that is not in the path is in none of its names. -/
theorem notMem_name {name : String} {c : Char} (hname : name ∈ names path)
    (hc : c ∉ path.toList) : c ∉ name.toList := by
  obtain ⟨piece, hpiece, rfl⟩ := List.mem_map.1 hname
  rw [String.toList_ofList]
  exact fun hmem => hc (Text.mem_of_mem_split hpiece hmem)

/-- Nothing is left out of the steps of a plain path: those in front of the last one are the
directories to be created. -/
theorem IsPlain.createParent_eq (h : IsPlain path) (t : Tree) :
    t.createParent path = t.createDirectories (t.start path) (steps path).reverse.tail := by
  have hsteps : ∀ ns : List String, (∀ n ∈ ns, IsPlainName n) →
      (ns.filter fun n => n ≠ "" ∧ n ≠ ".") = ns := by
    refine fun ns hns => List.filter_eq_self.2 fun n hn => ?_
    obtain ⟨hempty, hdot, -⟩ := hns n hn
    exact decide_eq_true ⟨hempty, hdot⟩
  -- No name has the character that ends a path, so the check before the creation passes.
  have hends : ((steps path).reverse.tail.any (·.toList.contains '\x00')) = false := by
    rw [List.any_eq_false]
    intro n hn
    have hmem : n ∈ names path := by
      have hn := List.mem_reverse.1 (List.mem_of_mem_tail hn)
      rw [steps] at hn
      split at hn
      · exact List.mem_of_mem_tail hn
      · exact hn
    simpa using notMem_name hmem h.noEnd
  have hnames := h.down
  rw [createParent]
  -- In a path from the root the empty name in front is dropped, as it is from the steps.
  by_cases habsolute : isAbsolute path
  · simp only [names_of_isAbsolute habsolute, if_true, List.nil_append, hsteps _ hnames, hends,
      Bool.false_eq_true, if_false]
  · rw [names_of_isRelative habsolute]
    cases hcons : steps path with
    | nil => exact (steps_ne_nil path hcons).elim
    | cons first rest =>
      rw [hcons] at hnames hends
      have hrest := hsteps rest fun n hn => hnames n (List.mem_cons_of_mem _ hn)
      simp only [(hnames first List.mem_cons_self).1, if_false, hrest, List.singleton_append,
        hends, Bool.false_eq_true]

/-- Directories that are missing are created. Then they are a way to the place of the file, so that
the path leads there, and nothing is in the way of the file itself. -/
theorem IsFree.admits (hplain : IsPlain path) (hfree : t.IsFree path) : t.Admits path := by
  obtain ⟨above, name, hsteps⟩ :=
    (List.eq_nil_or_concat (steps path)).resolve_left (steps_ne_nil path)
  rw [List.concat_eq_append] at hsteps
  have hplain' := hplain.down
  obtain ⟨habove, hhere⟩ := hfree
  rw [destination] at habove hhere
  rw [hsteps] at hplain' habove hhere
  rw [← List.append_assoc] at habove hhere
  -- The directories above the file.
  have hcreated : ∃ t', t.createDirectories (t.start path) above.reverse = .ok t' ∧
      Paved t (t.start path ++ above.reverse.reverse) t' := by
    refine exists_createDirectories (isWay_start t path) (fun n hn => ?_) (fun q hq => ?_)
    · exact hplain' n (List.mem_append_left _ (List.mem_reverse.1 hn))
    · rw [List.reverse_reverse] at hq
      refine habove q (hq.trans (List.prefix_append _ _)) ?_
      rintro rfl
      exact not_below_above _ _ hq
  rw [List.reverse_reverse] at hcreated
  obtain ⟨t', hparent, hpaved⟩ := hcreated
  have hparent' : t.createParent path = .ok t' := by
    rw [hplain.createParent_eq, hsteps, List.reverse_append]
    exact hparent
  have hstart := (addsDirectories_createParent hparent').start_eq path
  -- The file itself.
  have hresolve : t'.resolve path = .ok (t.start path ++ above ++ [name]) := by
    rw [hplain.resolve_eq, hsteps, hstart]
    exact walk_of_isWay hplain' hpaved.isWay
  have hhere' : t'.isDirectory (t.start path ++ above ++ [name]) = false := by
    rw [isDirectory, hpaved.others _ (not_below_above _ _)]
    exact hhere
  refine ⟨t', t.start path ++ above ++ [name], hparent', ?_⟩
  simp only [fileToCreate, hplain.trimmed, ite_self, hresolve, hhere', bind, Except.bind, ne_eq,
    not_true_eq_false, Bool.false_eq_true, or_self, if_false]

/-- What is on the way afterwards was there before, or nothing was: a file can neither appear nor
vanish when directories are added. -/
theorem Admits.isFree (hplain : IsPlain path) (h : t.Admits path) : t.IsFree path := by
  obtain ⟨t', place, hparent, hfile⟩ := h
  have hadds := addsDirectories_createParent hparent
  have hway := isWay_start t' path
  obtain ⟨hresolve, hhere⟩ := resolve_of_fileToCreate hfile
  rw [hplain.resolve_eq, walk_eq_ok_iff_of_isWay hway hplain.down, hadds.start_eq,
    ← destination] at hresolve
  obtain ⟨rfl, hdirectory⟩ := hresolve
  -- Above the file there are directories now; at its place there is none.
  constructor
  · intro q hq hne c hc
    have hq := hdirectory q hq hne
    rw [isDirectory, decide_eq_true_eq] at hq
    rcases hadds.kept q with heq | ⟨hnone, -⟩
    · rw [heq, hc] at hq
      cases hq
    · rw [hc] at hnone
      cases hnone
  · rcases hadds.kept (t.destination path) with heq | ⟨hnone, -⟩
    · rw [isDirectory, ← heq]
      exact hhere
    · rw [isDirectory, hnone]
      rfl

/-- Whether a file can be written on a plain path is seen from the tree as it is, without
creating anything: only an entry of the wrong kind can be in the way. -/
theorem admits_iff (hplain : IsPlain path) : t.Admits path ↔ t.IsFree path :=
  ⟨Admits.isFree hplain, IsFree.admits hplain⟩

end Tree

end SchemaSeed.Files
