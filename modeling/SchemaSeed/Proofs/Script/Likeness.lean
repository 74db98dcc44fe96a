import SchemaSeed.Proofs.Script.Reference

/-!
# Texts that are recognised alike

When two texts are related, what is recognised at their fronts should be related too: the
same clauses are found in both or missed in both, the names are related, and so are the
texts that follow. `Respects` asks this of the smallest recognisers, and the lemmas here
carry it up to declarations (`Respects.declaredName`) and to foreign keys, whose parentheses
may hold anything and are left to whoever relates the texts (`Respects.foreignKey`).
-/

namespace SchemaSeed.Script

/-! ## Related options -/

section Options

variable {α β γ δ : Type} {r : α → β → Prop} {s : γ → δ → Prop}

/-- Two recognisers one after another: if both steps find related things, so do they together. -/
theorem rel_bind {a : Option α} {b : Option β} (h : Option.Rel r a b) {f : α → Option γ}
    {g : β → Option δ} (hnext : ∀ x y, r x y → Option.Rel s (f x) (g y)) :
    Option.Rel s (a.bind f) (b.bind g) := by
  cases h with
  | some h => exact hnext _ _ h
  | none => exact .none

/-- A recogniser with another one to fall back on. It fails on both texts or on none. -/
theorem rel_or {a a' : Option α} {b b' : Option β} (h : Option.Rel r a b)
    (h' : Option.Rel r a' b') : Option.Rel r (a.or a') (b.or b') := by
  cases h with
  | some h => exact .some h
  | none => exact h'

/-- What is made from related results is related when the function keeps them so. -/
theorem rel_map {a : Option α} {b : Option β} (h : Option.Rel r a b) {f : α → γ} {g : β → δ}
    (hnext : ∀ x y, r x y → s (f x) (g y)) : Option.Rel s (a.map f) (b.map g) := by
  cases h with
  | some h => exact .some (hnext _ _ h)
  | none => exact .none

/-- If one value determines the related one, so it is with options. -/
theorem eq_map_of_rel {a : Option α} {b : Option β} (h : Option.Rel r a b) {f : α → β}
    (hf : ∀ x y, r x y → y = f x) : b = a.map f := by
  cases h with
  | some h => rw [hf _ _ h, Option.map_some]
  | none => rfl

end Options

/-! ## Foreign keys in two parts -/

def keyOpening (cs : List Char) : Option (List Char) :=
  ((spacedKeyword "foreign" cs).bind (keyword "key".toList)).bind (character '(' <| skipBlanks ·)

/-- The closing parenthesis, `REFERENCES` and the name, for a text after `FOREIGN KEY (`. -/
def keyTarget (cs : List Char) : Option (List Char × List Char) :=
  ((character ')' (cs.dropWhile (· != ')'))).bind (spacedKeyword "references" <| skipBlanks ·)).bind
    tableName

/-- The recogniser of foreign keys in the two parts. Between them stand the columns, which may hold
anything but a closing parenthesis. -/
theorem foreignKey_eq (cs : List Char) : foreignKey cs = (keyOpening cs).bind keyTarget := by
  show _ = (keyOpening cs).bind fun inside => keyTarget inside
  simp only [foreignKey, keyOpening, keyTarget, parenthesised, Option.bind_assoc]

/-! ## What is respected -/

variable {texts names : List Char → List Char → Prop} {cs ds : List Char} {word : String}

/-- A name and what follows it, related to another name and what follows that. -/
def Named (texts names : List Char → List Char → Prop) (a b : List Char × List Char) : Prop :=
  names a.1 b.1 ∧ texts a.2 b.2

/-- The smallest recognisers find related things in related texts. The recognisers of names,
modifiers and clauses are put together from these, so that one proof serves every notion of
likeness. -/
structure Respects (texts names : List Char → List Char → Prop) : Prop where
  keyword {letters cs ds : List Char} : (∀ k ∈ letters, k.isLower = true) → texts cs ds →
    Option.Rel texts (keyword letters cs) (keyword letters ds)
  blanks {cs ds : List Char} : texts cs ds → Option.Rel texts (blanks cs) (blanks ds)
  skipBlanks {cs ds : List Char} : texts cs ds → texts (skipBlanks cs) (skipBlanks ds)
  mark {c : Char} {cs ds : List Char} : c ∈ ['.', '('] → texts cs ds →
    Option.Rel texts (character c cs) (character c ds)
  simpleName {cs ds : List Char} : texts cs ds →
    Option.Rel (Named texts names) (simpleName cs) (simpleName ds)

namespace Respects

variable (respects : Respects texts names)

include respects

theorem spacedKeyword (hword : IsSmall word) (h : texts cs ds) :
    Option.Rel texts (spacedKeyword word cs) (spacedKeyword word ds) :=
  rel_bind (respects.keyword hword h) fun _ _ => respects.blanks

theorem temporary (h : texts cs ds) :
    Option.Rel texts (modifier.temporary cs) (modifier.temporary ds) :=
  rel_or (respects.spacedKeyword (by decide) h) (respects.spacedKeyword (by decide) h)

/-- The modifiers are tried one after another, and each of them respects the likeness. -/
theorem modifier (h : texts cs ds) : Option.Rel texts (modifier cs) (modifier ds) := by
  have hglobal : IsSmall "global" := by decide
  have hlocal : IsSmall "local" := by decide
  have hscope := rel_or (respects.spacedKeyword hglobal h) (respects.spacedKeyword hlocal h)
  refine rel_or (rel_bind hscope fun _ _ => respects.temporary) ?_
  exact rel_or (respects.temporary h) (respects.spacedKeyword (by decide) h)

theorem ifNotExists (h : texts cs ds) : Option.Rel texts (ifNotExists cs) (ifNotExists ds) :=
  rel_bind
    (rel_bind (respects.spacedKeyword (by decide) h) fun _ _ => respects.spacedKeyword (by decide))
    fun _ _ => respects.spacedKeyword (by decide)

theorem qualifier (h : texts cs ds) : Option.Rel texts (qualifier cs) (qualifier ds) := by
  refine rel_bind (respects.simpleName h) fun a b hname => ?_
  have hpoint := respects.mark (c := '.') (by decide) (respects.skipBlanks hname.2)
  exact rel_map hpoint fun _ _ => respects.skipBlanks

theorem tableName (h : texts cs ds) :
    Option.Rel (Named texts names) (tableName cs) (tableName ds) :=
  rel_or (rel_bind (respects.qualifier h) fun _ _ => respects.simpleName) (respects.simpleName h)

/-- From the word `TABLE` on: a guard or none, a qualifier or none, and the name. -/
theorem tableClause (h : texts cs ds) :
    Option.Rel names (tableClause cs) (tableClause ds) := by
  refine rel_bind (respects.spacedKeyword (by decide) h) fun _ _ hrest => ?_
  have hguarded := rel_bind (respects.ifNotExists hrest) fun _ _ => respects.tableName
  exact rel_map (rel_or hguarded (respects.tableName hrest)) fun _ _ hname => hname.1

/-- Related texts declare tables with related names, or neither of them declares one. -/
theorem declaredName (h : texts cs ds) :
    Option.Rel names (declaredName cs) (declaredName ds) := by
  refine rel_bind (respects.spacedKeyword (by decide) h) fun _ _ hrest => ?_
  have hmodified := rel_bind (respects.modifier hrest) fun _ _ => respects.tableClause
  exact rel_or hmodified (respects.tableClause hrest)

/-- The two words and the parenthesis are recognised alike, with the blanks between them. -/
theorem keyOpening (h : texts cs ds) : Option.Rel texts (keyOpening cs) (keyOpening ds) := by
  have hforeign : IsSmall "foreign" := by decide
  have hletters : IsSmall "key" := by decide
  have hkey := rel_bind (respects.spacedKeyword hforeign h) fun _ _ => respects.keyword hletters
  refine rel_bind hkey fun _ _ hrest => ?_
  exact respects.mark (by decide) (respects.skipBlanks hrest)

/-- What follows the columns is recognised alike once their parenthesis is closed. -/
theorem keyTarget (h : Option.Rel texts (character ')' (cs.dropWhile (· != ')')))
      (character ')' (ds.dropWhile (· != ')')))) :
    Option.Rel (Named texts names) (keyTarget cs) (keyTarget ds) := by
  refine rel_bind (rel_bind h fun _ _ hrest => ?_) fun _ _ => respects.tableName
  exact respects.spacedKeyword (by decide) (respects.skipBlanks hrest)

/-- Related texts begin with foreign keys to tables with related names, as long as their parentheses
are closed in the same way. That is a hypothesis, since what stands between the parentheses is free
text in which a likeness may fail. -/
theorem foreignKey (h : texts cs ds)
    (hclose : ∀ inside inside', Script.keyOpening cs = some inside → texts inside inside' →
      Option.Rel texts (character ')' (inside.dropWhile (· != ')')))
        (character ')' (inside'.dropWhile (· != ')')))) :
    Option.Rel (Named texts names) (foreignKey cs) (foreignKey ds) := by
  rw [foreignKey_eq, foreignKey_eq]
  have hopening := respects.keyOpening h
  -- The opening is found in both texts or in none.
  cases hcs : Script.keyOpening cs with
  | none =>
    rw [hcs] at hopening
    cases hds : Script.keyOpening ds with
    | none => exact .none
    | some inside' => rw [hds] at hopening; cases hopening
  | some inside =>
    rw [hcs] at hopening
    cases hds : Script.keyOpening ds with
    | none => rw [hds] at hopening; cases hopening
    | some inside' =>
      rw [hds] at hopening
      cases hopening with
      | some hinside => exact respects.keyTarget (hclose inside inside' hcs hinside)

end Respects

end SchemaSeed.Script
