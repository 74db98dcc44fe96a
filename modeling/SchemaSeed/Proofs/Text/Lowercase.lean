import SchemaSeed.Text.Lowercase

/-!
# Lowercase text stays as it is

The characters that lowercasing changes are the capitals: those of ASCII, the dotted capital I,
and those of the runs of the table. No run moves a character to one that another run moves
(`capitalRuns_miss`), and the two forms of a small sigma are no capitals. So no capital is left
in a text in lowercase, which hence is its own lowercase form (`lowercase_lowercase`). What
stands before the letters in ASCII, such as a space, is neither changed nor made
(`mem_lowercase_iff`).
-/

namespace SchemaSeed.Text

open Table (LowercaseRun)

variable {run other : LowercaseRun} {n : Nat} {c d : Char} {cs before : List Char}

/-! ## Runs -/

namespace Table.LowercaseRun

def Has (run : LowercaseRun) (n : Nat) : Prop :=
  run.first ≤ n ∧ n ≤ run.last ∧ (n - run.first) % run.step = 0

instance : Decidable (run.Has n) := inferInstanceAs (Decidable (_ ∧ _ ∧ _))

def image (run : LowercaseRun) (n : Nat) : Nat := (n + run.offset).toNat

/-- The images of a run lie before another run or after it, or else between the members of the
other one. There are many pairs of runs to check, so this is a test that computes fast. -/
def misses (run other : LowercaseRun) : Bool :=
  Nat.blt (run.image run.last) other.first || Nat.blt other.last (run.image run.first) ||
    (run.first == run.last || run.step % 2 == 0) && other.step == 2 &&
      (run.image run.first + other.first) % 2 == 1

/-- The images of a run are characters from the small letters of ASCII on, and valid ones: a run
does not reach into the surrogates. -/
def MovesToLetters (run : LowercaseRun) : Prop :=
  'a'.toNat ≤ run.image run.first ∧ (run.image run.last < 0xD800 ∨
    0xDFFF < run.image run.first ∧ run.image run.last < 0x110000)

instance : Decidable run.MovesToLetters := inferInstanceAs (Decidable (_ ∧ _))

/-- A run is moved as a whole: each of its members by the same distance, so that the images lie
between those of the first and the last member. -/
theorem MovesToLetters.image_eq (h : run.MovesToLetters) (hn : run.Has n) :
    run.image n = run.image run.first + (n - run.first) ∧ run.image n ≤ run.image run.last := by
  obtain ⟨hfirst, hlast, -⟩ := hn
  have hletter : 97 ≤ run.image run.first := h.1
  simp only [image] at hletter ⊢
  omega

theorem MovesToLetters.le_image (h : run.MovesToLetters) (hn : run.Has n) :
    'a'.toNat ≤ run.image n := by
  rw [(h.image_eq hn).1]
  exact Nat.le_add_right_of_le h.1

theorem MovesToLetters.isValidChar (h : run.MovesToLetters) (hn : run.Has n) :
    (run.image n).isValidChar := by
  obtain ⟨heq, hle⟩ := h.image_eq hn
  rcases h.2 with hlast | ⟨hfirst, hlast⟩
  · exact .inl (by omega)
  · exact .inr ⟨by omega, by omega⟩

/-- What a run moves is moved to where the other run has nothing. It lies outside the other run, or
between its members, by the parity of the first images. -/
theorem not_has_image (hletters : run.MovesToLetters) (hmiss : run.misses other = true)
    (hn : run.Has n) : ¬other.Has (run.image n) := by
  obtain ⟨heq, hle⟩ := hletters.image_eq hn
  rintro ⟨hfirst, hlast, hstep⟩
  simp only [misses, Bool.or_eq_true, Bool.and_eq_true, Nat.blt_eq, beq_iff_eq] at hmiss
  rcases hmiss with (hbefore | hafter) | ⟨⟨halone | heven, htwo⟩, hodd⟩
  · omega
  · omega
  -- The other run has every second code point, and the images are the ones between.
  · obtain ⟨hlow, hhigh, -⟩ := hn
    rw [htwo] at hstep
    omega
  · have hshift : (n - run.first) % 2 = 0 :=
      Nat.mod_eq_zero_of_dvd
        (Nat.dvd_trans (Nat.dvd_of_mod_eq_zero heven) (Nat.dvd_of_mod_eq_zero hn.2.2))
    rw [htwo] at hstep
    omega

end Table.LowercaseRun

/-! ## Capitals -/

/-- All runs of capitals, with those that are not in the table. -/
def capitalRuns : List LowercaseRun :=
  ⟨'A'.toNat, 'Z'.toNat, 1, 32⟩ :: ⟨0x130, 0x130, 1, -199⟩ :: Table.lowercaseRuns

def IsCapital (c : Char) : Prop := ∃ run ∈ capitalRuns, run.Has c.toNat

instance : Decidable (IsCapital c) := inferInstanceAs (Decidable (∃ run ∈ _, _))

/-- Checked for all pairs of runs by evaluation, with the fast test of `misses`. -/
theorem capitalRuns_miss {run other : LowercaseRun} (hrun : run ∈ capitalRuns)
    (hother : other ∈ capitalRuns) : run.misses other = true := by
  have hall : (capitalRuns.all fun run => capitalRuns.all run.misses) = true := by decide +kernel
  exact List.all_eq_true.1 (List.all_eq_true.1 hall run hrun) other hother

theorem capitalRuns_moveToLetters : ∀ run ∈ capitalRuns, run.MovesToLetters := by decide +kernel

/-- A capital is one of ASCII, or the dotted I, or in the table; these are the three branches of
`lowerChar`. -/
theorem isCapital_iff : IsCapital c ↔ ('A'.toNat ≤ c.toNat ∧ c.toNat ≤ 'Z'.toNat) ∨
    c.toNat = 0x130 ∨ ∃ run ∈ Table.lowercaseRuns, run.Has c.toNat := by
  have hdotted : 0x130 ≤ c.toNat ∧ c.toNat ≤ 0x130 ↔ c.toNat = 0x130 := by omega
  simp only [IsCapital, capitalRuns, List.mem_cons, exists_eq_or_imp, LowercaseRun.Has,
    Nat.mod_one, and_true, hdotted]

theorem le_of_mem_lowercaseRuns : ∀ run ∈ Table.lowercaseRuns, 128 ≤ run.first := by
  decide +kernel

theorem le_of_isCapital (h : IsCapital c) : 'A'.toNat ≤ c.toNat := by
  rcases isCapital_iff.1 h with hupper | hdotted | ⟨run, hrun, hhas⟩
  · exact hupper.1
  · rw [hdotted]
    decide
  · have htable := Nat.le_trans (le_of_mem_lowercaseRuns run hrun) hhas.1
    exact Nat.le_trans (by decide) htable

/-- What the table is searched for, in the form in which `lowerChar` asks for it. -/
theorem has_iff : run.Has n ↔
    (run.first ≤ n && n ≤ run.last && (n - run.first) % run.step == 0) = true := by
  simp only [LowercaseRun.Has, Bool.and_eq_true, decide_eq_true_eq, beq_iff_eq, and_assoc]

/-- A capital of ASCII is moved to its small letter. -/
theorem toLower_eq_of_upper (h : 'A'.toNat ≤ c.toNat ∧ c.toNat ≤ 'Z'.toNat) :
    c.toLower = Char.ofNat (LowercaseRun.image ⟨'A'.toNat, 'Z'.toNat, 1, 32⟩ c.toNat) := by
  have hall : ∀ n, n < 128 → 'A'.toNat ≤ n ∧ n ≤ 'Z'.toNat → (Char.ofNat n).toLower =
      Char.ofNat (LowercaseRun.image ⟨'A'.toNat, 'Z'.toNat, 1, 32⟩ n) := by decide +kernel
  have hc := hall c.toNat (Nat.lt_of_le_of_lt h.2 (by decide)) h
  rwa [Char.ofNat_toNat] at hc

/-- Lowercasing leaves a character as it is, if it is no capital: none of the branches of
`lowerChar` applies to it. -/
theorem lowerChar_of_not_isCapital (h : ¬IsCapital c) : lowerChar c = [c] := by
  simp only [isCapital_iff, not_or, not_exists, not_and] at h
  obtain ⟨hupper, hdotted, htable⟩ := h
  have hlower : c.toLower = c := by
    unfold Char.toLower
    rw [dif_neg]
    exact fun hle => hupper (UInt32.le_iff_toNat_le.1 hle.1) (UInt32.le_iff_toNat_le.1 hle.2)
  have hnone : (Table.lowercaseRuns.find? fun run =>
      run.first ≤ c.toNat && c.toNat ≤ run.last && (c.toNat - run.first) % run.step == 0) = none :=
    List.find?_eq_none.2 fun run hrun hhas => htable run hrun (has_iff.2 hhas)
  rw [lowerChar, hlower, if_neg hdotted, hnone]
  split <;> rfl

/-- It moves a capital as the run of the capital says. The dotted I gets a dot besides, which is no
capital either. -/
theorem mem_lowerChar_of_isCapital (hcapital : IsCapital c) (h : d ∈ lowerChar c) :
    (∃ run ∈ capitalRuns, run.Has c.toNat ∧ d = Char.ofNat (run.image c.toNat)) ∨
      d = '\u0307' := by
  unfold lowerChar at h
  -- The dotted I is the one capital that becomes two characters.
  by_cases hdotted : c.toNat = 0x130
  · rw [if_neg (by omega), if_pos hdotted] at h
    rcases List.mem_cons.1 h with rfl | hdot
    · refine .inl ⟨_, List.mem_cons_of_mem _ List.mem_cons_self, ?_⟩
      rw [hdotted]
      decide
    · exact .inr (List.mem_singleton.1 hdot)
  · left
    rcases isCapital_iff.1 hcapital with hupper | hcontra | ⟨run, hrun, hhas⟩
    · rw [if_pos (Nat.lt_of_le_of_lt hupper.2 (by decide)), List.mem_singleton] at h
      refine ⟨_, List.mem_cons_self, ⟨hupper.1, hupper.2, Nat.mod_one _⟩, ?_⟩
      rw [h, toLower_eq_of_upper hupper]
    · exact absurd hcontra hdotted
    · have hascii : ¬c.toNat < 128 :=
        Nat.not_lt.2 (Nat.le_trans (le_of_mem_lowercaseRuns run hrun) hhas.1)
      rw [if_neg hascii, if_neg hdotted] at h
      split at h
      -- The run that was found need not be the one that is known, but it has the character too.
      · next found hfound =>
        have hsome := List.find?_some hfound
        refine ⟨found, ?_, has_iff.2 hsome, List.mem_singleton.1 h⟩
        exact List.mem_cons_of_mem _ (List.mem_cons_of_mem _ (List.mem_of_find?_eq_some hfound))
      · next hnone => exact absurd (has_iff.1 hhas) (List.find?_eq_none.1 hnone run hrun)

theorem toNat_ofNat (h : n.isValidChar) : (Char.ofNat n).toNat = n := by
  rw [Char.ofNat, dif_pos h]
  rfl

/-- No capital comes of lowercasing: the image of a run is in no run (`capitalRuns_miss`). -/
theorem not_isCapital_of_mem_lowerChar (h : d ∈ lowerChar c) : ¬IsCapital d := by
  by_cases hcapital : IsCapital c
  · rcases mem_lowerChar_of_isCapital hcapital h with ⟨run, hrun, hhas, rfl⟩ | rfl
    · have hletters := capitalRuns_moveToLetters run hrun
      rintro ⟨other, hother, himage⟩
      rw [toNat_ofNat (hletters.isValidChar hhas)] at himage
      exact LowercaseRun.not_has_image hletters (capitalRuns_miss hrun hother) hhas himage
    · decide +kernel
  · rw [lowerChar_of_not_isCapital hcapital, List.mem_singleton] at h
    rwa [h]

/-- What lowercasing changes becomes a letter, so that characters before the letters are never made
by it. -/
theorem eq_of_mem_lowerChar (h : d ∈ lowerChar c) (hd : d.toNat < 'A'.toNat) : c = d := by
  by_cases hcapital : IsCapital c
  · rcases mem_lowerChar_of_isCapital hcapital h with ⟨run, hrun, hhas, rfl⟩ | rfl
    · have hletters := capitalRuns_moveToLetters run hrun
      rw [toNat_ofNat (hletters.isValidChar hhas)] at hd
      exact absurd (hletters.le_image hhas) (Nat.not_le.2 (Nat.lt_trans hd (by decide)))
    · exact absurd hd (by decide)
  · rw [lowerChar_of_not_isCapital hcapital, List.mem_singleton] at h
    exact h.symm

/-! ## Texts -/

/-- What comes out of a text comes out of one of its characters, or is a small sigma of either form.
-/
theorem mem_lowercaseAfter (h : d ∈ lowercaseAfter before cs) :
    (∃ c ∈ cs, d ∈ lowerChar c) ∨ d = 'σ' ∨ d = 'ς' := by
  induction cs generalizing before with
  | nil => cases h
  | cons c cs ih =>
    rcases List.mem_append.1 h with hc | hrest
    · split at hc
      · split at hc
        · exact .inr (.inr (List.mem_singleton.1 hc))
        · exact .inr (.inl (List.mem_singleton.1 hc))
      · exact .inl ⟨c, List.mem_cons_self, hc⟩
    · exact (ih hrest).imp_left fun ⟨e, he, hd⟩ => ⟨e, List.mem_cons_of_mem _ he, hd⟩

/-- Every character but a sigma is lowercased by itself, whatever stands around it. -/
theorem mem_lowercaseAfter_of_mem (hc : c ∈ cs) (hsigma : c ≠ 'Σ') (hd : d ∈ lowerChar c) :
    d ∈ lowercaseAfter before cs := by
  induction cs generalizing before with
  | nil => cases hc
  | cons e cs ih =>
    apply List.mem_append.2
    rcases List.mem_cons.1 hc with rfl | hc
    · left
      rwa [if_neg hsigma]
    · exact .inr (ih hc)

/-- No capital is left in a lowercased text, since both forms of the sigma are small letters. -/
theorem not_isCapital_of_mem_lowercase (h : d ∈ lowercase cs) : ¬IsCapital d := by
  rcases mem_lowercaseAfter h with ⟨c, -, hd⟩ | rfl | rfl
  · exact not_isCapital_of_mem_lowerChar hd
  · decide +kernel
  · decide +kernel

/-- A text without capitals is left as it is. In particular it has no capital sigma, for which the
context would matter. -/
theorem lowercaseAfter_eq_self (h : ∀ c ∈ cs, ¬IsCapital c) : lowercaseAfter before cs = cs := by
  induction cs generalizing before with
  | nil => rfl
  | cons c cs ih =>
    obtain ⟨hc, hcs⟩ := List.forall_mem_cons.1 h
    have hsigma : c ≠ 'Σ' := by
      rintro rfl
      exact hc (by decide +kernel)
    rw [lowercaseAfter, if_neg hsigma, lowerChar_of_not_isCapital hc, ih hcs]
    rfl

/-- Lowercasing twice is lowercasing once: the first time leaves no capitals. -/
theorem lowercase_lowercase (cs : List Char) : lowercase (lowercase cs) = lowercase cs :=
  lowercaseAfter_eq_self fun _ h => not_isCapital_of_mem_lowercase h

@[simp]
theorem toLowercase_toLowercase (s : String) : toLowercase (toLowercase s) = toLowercase s := by
  rw [toLowercase, toLowercase, String.toList_ofList, lowercase_lowercase]

/-- The characters before the letters of ASCII are the same in a text and in its lowercase form.
Blanks, digits, quotes and the like are among them. -/
theorem mem_lowercase_iff (hd : d.toNat < 'A'.toNat) : d ∈ lowercase cs ↔ d ∈ cs := by
  constructor
  · intro h
    rcases mem_lowercaseAfter h with ⟨c, hc, hlower⟩ | rfl | rfl
    · rwa [← eq_of_mem_lowerChar hlower hd]
    · exact absurd hd (by decide)
    · exact absurd hd (by decide)
  · intro h
    have hcapital : ¬IsCapital d := fun hcapital =>
      absurd (le_of_isCapital hcapital) (Nat.not_le.2 hd)
    have hsigma : d ≠ 'Σ' := by
      rintro rfl
      exact absurd hd (by decide)
    refine mem_lowercaseAfter_of_mem h hsigma ?_
    rw [lowerChar_of_not_isCapital hcapital]
    exact List.mem_singleton_self d

end SchemaSeed.Text
