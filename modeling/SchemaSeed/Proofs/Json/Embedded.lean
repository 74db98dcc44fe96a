import SchemaSeed.Proofs.Json.Entries
import SchemaSeed.Proofs.Json.Token

/-!
# Values that are embedded as texts

An object whose first key is `embeddedKey` stands for the value whose text it holds, and any
other object for itself.

* **Recursion** (`readText_eq`): a text is longer than the texts that are embedded in it, so
  that reading it needs no guard. What is embedded is read as a document is.
* **Reading** (`embeddedFrom_text`): the object with that key and a string is read as the value
  that the string is the text of.
-/

namespace SchemaSeed.Json

variable {α : Type} {v : Value} {cs ds rest : List Char} {n : Nat}

/-! ## Which objects embed a text -/

/-- The members do not begin with the key of an embedded text, and so are those of an object. The
reader looks at the first key only. -/
def IsOrdinary (ms : List (String × α)) : Prop := ms.head?.map (·.1) ≠ some embeddedKey

instance (ms : List (String × α)) : Decidable (IsOrdinary ms) :=
  inferInstanceAs (Decidable (_ ≠ _))

theorem isOrdinary_cons {k : String} {a : α} {ms : List (String × α)} :
    IsOrdinary ((k, a) :: ms) ↔ k ≠ embeddedKey := by
  simp only [IsOrdinary, List.head?_cons, Option.map_some, ne_eq, Option.some.injEq]

theorem isOrdinary_iff_keys {ms : List (String × α)} :
    IsOrdinary ms ↔ (Assoc.keys ms).head? ≠ some embeddedKey := by
  rw [IsOrdinary, Assoc.keys, List.head?_map]

/-- The first member decides, which comes behind blanks. -/
theorem embedding?_text {k : String} {m : MemberText} (hkey : Spells k.toList m.key)
    (rest : List Char) : ∃ shorter, embedding? (m.text rest) =
      if k = embeddedKey then some ⟨(), m.tail rest, shorter⟩ else none := by
  obtain ⟨shorter, hturn⟩ := objectTurn_next hkey (next_first (m.text rest))
  refine ⟨shorter, ?_⟩
  rw [embedding?, hturn]
  rfl

/-- Ordinary members are not mistaken for an embedded text, and neither is an empty object. -/
theorem embedding?_of_isOrdinary {P : α → List Char → Prop} {ms : List (String × α)}
    (hms : IsOrdinary ms) (h : ObjectText P ms ('\x7b' :: ds)) (rest : List Char) :
    embedding? (ds ++ rest) = none := by
  cases h with
  | @empty w hw =>
    have hskip : skipSpace (w ++ ['\x7d'] ++ rest) = '\x7d' :: rest := by
      rw [List.append_assoc]
      exact skipSpace_spaces_closing .object hw rest
    obtain ⟨shorter, hclose⟩ := objectTurn_close stringFrom true hskip
    rw [embedding?, hclose]
  | filled h =>
    cases h with
    | last m hkey _ =>
      obtain ⟨_, hembedding⟩ := embedding?_text hkey (['\x7d'] ++ rest)
      rw [MemberText.text_append, hembedding, if_neg (isOrdinary_cons.1 hms)]
    | more m hkey _ _ =>
      obtain ⟨_, hembedding⟩ := embedding?_text hkey (',' :: _ ++ rest)
      rw [MemberText.text_append, hembedding, if_neg (isOrdinary_cons.1 hms)]

/-! ## What is embedded is shorter -/

/-- Each character of a text takes at least one in its literal, and an escape takes more. -/
theorem Spells.length_le {text : List Char} (h : Spells text cs) : text.length ≤ cs.length := by
  induction h with
  | nil => exact Nat.le_refl _
  | plain _ _ ih => exact Nat.succ_le_succ ih
  | short _ _ ih => exact Nat.succ_le_succ (Nat.le_succ_of_le ih)
  | unit _ _ _ ih =>
    simp only [List.length_cons, List.length_append]
    omega
  | pair _ _ _ _ _ ih =>
    simp only [List.length_cons, List.length_append]
    omega

/-- Only a literal is taken for a string: words and numbers give other values. -/
theorem spells_of_openingFrom {t : Taken Value cs.length} {s : String}
    (h : openingFrom cs = .ok (.scalar t)) (hs : t.value = .string s) :
    ∃ body, Spells s.toList body ∧ cs = '"' :: (body ++ '"' :: t.rest) := by
  have hword : ∀ {word : List Char} {u : Value} {tail : List Char}
      {t : Taken Value (tail.length + 1)}, wordFrom word u tail = .ok (.scalar t) →
      t.value = u := by
    intro word u tail t h
    unfold wordFrom at h
    split at h
    · cases h
    · cases h
      rfl
  have hnumber : ∀ {negative : Bool} {tail : List Char} {o : Opening tail.length},
      numeralFrom negative tail = .ok o → ∃ t n, o = .scalar t ∧ t.value = .number n := by
    intro negative tail o h
    unfold numeralFrom at h
    split at h
    · cases h
    · cases h
      exact ⟨_, _, rfl, rfl⟩
  unfold openingFrom at h
  split at h
  · cases h
  · next c tail =>
    split_ifs at h with hn ht hf hminus hdigit hquote hlist hobject
    · cases (hword h).symm.trans hs
    · cases (hword h).symm.trans hs
    · cases (hword h).symm.trans hs
    · obtain ⟨o, hnumeral, ho⟩ := map_eq_ok.1 h
      obtain ⟨t', n, rfl, hn⟩ := hnumber hnumeral
      cases ho
      cases hn.symm.trans hs
    · obtain ⟨t', n, ho, hn⟩ := hnumber h
      cases ho
      cases hn.symm.trans hs
    · subst hquote
      obtain ⟨t', hstring, ht'⟩ := map_eq_ok.1 h
      obtain ⟨body, hbody, htail⟩ := spells_of_stringFrom hstring
      cases ht'
      cases hs
      exact ⟨body, hbody, congrArg ('"' :: ·) htail⟩
    · cases h
    · cases h

/-- A text that was taken is shorter than what it was taken from, which has its quotes too. -/
theorem length_lt_of_rawText {t : Taken String cs.length} (h : rawText cs = .ok t) :
    t.value.toList.length < cs.length := by
  unfold rawText scalar at h
  split at h
  · cases h
  · next hopening =>
    split at h
    · next t' =>
      split at h
      · next s hpick =>
        cases h
        have hstring : t'.value = .string s := by
          dsimp only at hpick
          split at hpick
          · next heq =>
            cases hpick
            exact heq
          · cases hpick
        -- The literal spells the text, with a quote at either end.
        obtain ⟨body, hbody, hskip⟩ := spells_of_openingFrom hopening hstring
        have hlength := congrArg List.length hskip
        have hle := length_skipSpace_le cs
        have hspells := hbody.length_le
        simp only [List.length_cons, List.length_append] at hlength
        dsimp only
        omega
      · cases h
    · cases h

/-! ## Readers that agree on shorter texts -/

section Congruence

variable {item item' : Reader α}
  (hitem : ∀ ds : List Char, ds.length ≤ n → item ds = item' ds)

include hitem

/-- Readers of entries that agree on short texts read the same list from a short text. By induction
on the length of what is left. -/
theorem entries_congr {bound : Nat} {first : Bool} {done : List α} (hn : cs.length ≤ n)
    (h : cs.length ≤ bound) :
    entries item first done cs h = entries item' first done cs h := by
  fun_induction entries item first done cs h with
  | case1 first done cs h fault hturn => rw [entries, hturn]
  | case2 first done cs h rest hr hturn => rw [entries, hturn]
  | case3 first done cs h rest hr hturn fault hfault =>
    rw [entries, hturn]
    dsimp only
    rw [← hitem rest (Nat.le_trans hr hn), hfault]
  | case4 first done cs h rest hr hturn t htaken hshorter ih =>
    rw [ih (by omega), entries.eq_1 item' first, hturn]
    dsimp only
    rw [← hitem rest (Nat.le_trans hr hn), htaken]

/-- The same for objects: each value stands in a shorter text than its object. -/
theorem memberList_congr {κ : Type} {literal : Reader κ} {bound : Nat} {first : Bool}
    {done : List (κ × α)} (hn : cs.length ≤ n) (h : cs.length ≤ bound) :
    memberList literal item first done cs h = memberList literal item' first done cs h := by
  fun_induction memberList literal item first done cs h with
  | case1 first done cs h fault hturn => rw [memberList, hturn]
  | case2 first done cs h rest hr hturn => rw [memberList, hturn]
  | case3 first done cs h k hturn fault hcolon =>
    rw [memberList, hturn]
    dsimp only
    rw [hcolon]
  -- Here a value is read, from a text that is shorter by its key and its colon.
  | case4 first done cs h k hturn c hcolon fault hfault =>
    have hc : c.rest.length ≤ n := by have := k.shorter; have := c.shorter; omega
    rw [memberList, hturn]
    dsimp only
    rw [hcolon]
    dsimp only
    rw [← hitem c.rest hc, hfault]
  | case5 first done cs h k hturn c hcolon t htaken hk hc ht ih =>
    rw [ih (by omega), memberList.eq_1 literal item' first, hturn]
    dsimp only
    rw [hcolon]
    dsimp only
    rw [← hitem c.rest (by omega), htaken]

end Congruence

section Locality

variable {readText' readText'' : List Char → Except String Value}
  (hread : ∀ text : List Char, text.length < n → readText' text = readText'' text)

include hread

/-- A text that is embedded is shorter than the object around it, quotes and all. -/
theorem embeddedFrom_congr (hn : cs.length ≤ n) :
    embeddedFrom readText' cs = embeddedFrom readText'' cs := by
  unfold embeddedFrom
  cases colon cs with
  | error fault => rfl
  | ok c =>
    dsimp only
    cases htext : rawText c.rest with
    | error fault => rfl
    | ok t =>
      have hlength := length_lt_of_rawText htext
      have hc := c.shorter
      dsimp only
      rw [hread _ (by omega)]

/-- What a text is read as depends only on how shorter texts are read. By induction on the
depth, since the entries of a container are read in the same way. -/
theorem valueWith_congr (depth : Nat) (hn : cs.length ≤ n) :
    valueWith readText' depth cs = valueWith readText'' depth cs := by
  induction depth generalizing cs with
  | zero => unfold valueWith; rfl
  | succ depth ih =>
    unfold valueWith
    -- Both readers see the same first token, and only its inside may be read differently.
    cases openingFrom (skipSpace cs) with
    | error fault => rfl
    | ok opening =>
      cases opening with
      | scalar t => rfl
      | list rest h =>
        have hrest := Nat.le_trans (length_le_of_lt_skipSpace h) hn
        dsimp only
        rw [listFrom, entries_congr (fun ds hds => ih hds) hrest, listFrom]
      | object rest h =>
        have hrest := Nat.le_trans (length_le_of_lt_skipSpace h) hn
        dsimp only
        cases embedding? rest with
        | some k =>
          dsimp only
          rw [embeddedFrom_congr hread (Nat.le_trans (Nat.le_of_lt k.shorter) hrest)]
        | none =>
          dsimp only
          rw [objectFrom, memberList_congr (fun ds hds => ih hds) hrest, objectFrom]

end Locality

/-- What is embedded is read as a document: its own limit of depth applies to it, and the place
of a fault is told in it. -/
theorem readText_eq (cs : List Char) :
    readText cs = (document (value depthLimit) cs).mapError (Fault.message cs) := by
  have hguard : ∀ text : List Char, text.length < cs.length →
      (if text.length < cs.length then readText text else .error "") = readText text :=
    fun text h => if_pos h
  rw [readText]
  simp only [document, value]
  rw [valueWith_congr hguard depthLimit (Nat.le_refl _)]

/-- In other words, an embedded text is parsed like any other. -/
theorem readText_toList (s : String) : readText s.toList = parseValue s := readText_eq s.toList

/-! ## What is embedded is read -/

theorem objectEnd_append {w : List Char} (hw : IsSpaces w) (rest : List Char) :
    ∃ shorter, objectEnd (w ++ '\x7d' :: rest) = .ok ⟨(), rest, shorter⟩ := by
  have hskip : skipSpace (w ++ '\x7d' :: rest) = '\x7d' :: rest :=
    skipSpace_spaces_closing .object hw rest
  refine ⟨length_lt_of_skipSpace hskip, ?_⟩
  rw [objectEnd]
  split
  · next heq => rw [hskip] at heq; cases heq
  · next heq =>
    rw [hskip] at heq
    cases heq
    rw [if_pos rfl]

/-- Key, colon, text and brace are read one after the other. -/
theorem embeddedFrom_tail {m : MemberText} {s : String} (hvalue : StringText s m.value)
    (hv : parseValue s = .ok v) (rest : List Char) :
    ∃ shorter, embeddedFrom readText (m.tail ('\x7d' :: rest)) = .ok ⟨v, rest, shorter⟩ := by
  have hends : Ends ('\x7d' :: rest) := .closing .object rest
  obtain ⟨hcolon, hcolonEq⟩ := colon_append m.isSpaces_afterKey
    (m.beforeValue ++ (m.value ++ (m.afterValue ++ '\x7d' :: rest)))
  obtain ⟨htext, htextEq⟩ := hvalue.readsRaw m.isSpaces_beforeValue
    (stops_spaces m.isSpaces_afterValue hends.stops_continuesNumber)
  obtain ⟨hend, hendEq⟩ := objectEnd_append m.isSpaces_afterValue rest
  refine ⟨Nat.lt_trans hend (Nat.lt_trans htext hcolon), ?_⟩
  change embeddedFrom readText (m.afterKey ++ ':' :: _) = _
  rw [embeddedFrom, hcolonEq]
  dsimp only
  rw [htextEq]
  dsimp only
  rw [readText_toList, hv, hendEq]
  rfl

/-- An object with the one member of an embedded text is read as the value of that text. -/
theorem embedding_text {s : String} (h : ObjectText StringText [(embeddedKey, s)] ('\x7b' :: ds))
    (hv : parseValue s = .ok v) (rest : List Char) :
    ∃ k shorter, embedding? (ds ++ rest) = some k ∧
      embeddedFrom readText k.rest = .ok ⟨v, rest, shorter⟩ := by
  cases h with
  | filled h =>
    cases h with
    | last m hkey hvalue =>
      obtain ⟨_, hembedding⟩ := embedding?_text hkey (['\x7d'] ++ rest)
      obtain ⟨shorter, hfrom⟩ := embeddedFrom_tail hvalue hv rest
      rw [MemberText.text_append, hembedding, if_pos rfl]
      exact ⟨_, shorter, rfl, hfrom⟩
    | more _ _ _ hmore => cases hmore

end SchemaSeed.Json
