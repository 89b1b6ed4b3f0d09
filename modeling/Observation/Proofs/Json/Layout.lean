import Mathlib.Data.List.Forall2
import Observation.Proofs.Json.Written

/-!
# Layout of lists and objects

How a list or an object is put together from the texts of its parts, whatever these parts are:
commas separate them, brackets or braces enclose them, and blanks may stand in between.

* `Separated`, `Enclosed` - parts between commas, and between an opening and a closing character.
* `MemberLayout`, `ObjectText` - members of an object, and objects whose names are read.
* `Starts` - texts that are neither blank at their front nor look like the end of a list.
* `Written.exists_items`, `Written.exists_members` - the texts of lists and objects are laid out so.
* `Enclosed.written` - what is laid out so is the text of a list.
-/

namespace Observation.Json

section Beside

variable {α β γ : Type} {R : α → β → Prop} {S : α → γ → Prop} {T : β → γ → Prop}

theorem exists_beside {as : List α} {bs : List β} (h : List.Forall₂ R as bs) :
    ∀ b ∈ bs, ∃ a ∈ as, R a b := by
  induction h with
  | nil => simp
  | cons head _ ih =>
    intro b hb
    rcases List.mem_cons.1 hb with rfl | hb
    · exact ⟨_, List.mem_cons_self, head⟩
    · obtain ⟨a, ha, hab⟩ := ih b hb
      exact ⟨a, List.mem_cons_of_mem _ ha, hab⟩

/-- Two lists beside a third one are beside each other. -/
theorem forall₂_beside (hT : ∀ {a b c}, R a b → S a c → T b c) {as : List α} {bs : List β}
    {cs : List γ} (hb : List.Forall₂ R as bs) (hc : List.Forall₂ S as cs) :
    List.Forall₂ T bs cs := by
  induction hb generalizing cs with
  | nil =>
    cases hc with
    | nil => exact .nil
  | cons head _ ih =>
    cases hc with
    | cons head' tail' => exact .cons (hT head head') (ih tail')

end Beside

/-! ## Parts in a row -/

/-- Parts after the first one, each with a comma before it, up to what closes the row. -/
inductive Separated : List (List Char) → List Char → Prop
  | nil {bs : List Char} (blanks : Blanks bs) : Separated [] bs
  | cons {part : List Char} {parts : List (List Char)} {as bs ds : List Char} (blanks : Blanks as)
      (blanks' : Blanks bs) (tail : Separated parts ds) :
      Separated (part :: parts) (as ++ ',' :: (bs ++ (part ++ ds)))

/-- Parts in a row between an opening and a closing character. -/
inductive Enclosed (opening closing : Char) : List (List Char) → List Char → Prop
  | nil {bs : List Char} (blanks : Blanks bs) :
      Enclosed opening closing [] (opening :: (bs ++ [closing]))
  | cons {part : List Char} {parts : List (List Char)} {bs ds : List Char} (blanks : Blanks bs)
      (tail : Separated parts ds) :
      Enclosed opening closing (part :: parts) (opening :: (bs ++ (part ++ (ds ++ [closing]))))

/-- A member of an object, with the text of its name between quotes and that of its value. -/
inductive MemberLayout (key value : List Char) : List Char → Prop
  | mk {as bs : List Char} (blanks : Blanks as) (blanks' : Blanks bs) :
      MemberLayout key value ('"' :: (key ++ '"' :: (as ++ ':' :: (bs ++ value))))

/-- A member whose name is a given one, however it is spelled.  The name has to be a text even where
nothing is done with it: half of a surrogate pair may stand in a value that is passed by, but not in
a name. -/
def NamedMember (member : String × List Char) (part : List Char) : Prop :=
  ∃ key, StringSpelling member.1.toList key ∧ MemberLayout key member.2 part

/-- An object with these members, each a name and the text of its value. -/
def ObjectText (members : List (String × List Char)) (cs : List Char) : Prop :=
  ∃ parts, List.Forall₂ NamedMember members parts ∧ Enclosed '{' '}' parts cs

section Row

variable {parts : List (List Char)} {cs ds : List Char} {opening closing : Char}

/-- No number goes on into what follows a part. -/
theorem Separated.delimited (h : Separated parts ds) (hc : goesOn closing = false)
    (rest : List Char) : Delimited (ds ++ closing :: rest) := by
  cases h with
  | nil blanks => exact delimited_append blanks (delimited_cons hc _)
  | cons blanks blanks' tail =>
    rw [List.append_assoc, List.cons_append]
    exact delimited_append blanks (delimited_cons (by decide) _)

theorem Separated.length_le (h : Separated parts ds) : parts.length ≤ ds.length := by
  induction h with
  | nil blanks => exact Nat.zero_le _
  | cons blanks blanks' tail ih =>
    simp only [List.length_cons, List.length_append]
    omega

theorem MemberLayout.length_lt {key value part : List Char} (h : MemberLayout key value part) :
    value.length < part.length := by
  cases h with
  | mk blanks blanks' =>
    simp only [List.length_cons, List.length_append]
    omega

end Row

/-! ## Where a part starts -/

/-- The text starts with a character that is no blank and closes neither a list nor an object. -/
def Starts (cs : List Char) : Prop :=
  ∃ c ds, cs = c :: ds ∧ isBlank c = false ∧ c ≠ ']' ∧ c ≠ '}'

section Starts

variable {c : Char} {cs bs : List Char}

theorem starts_cons (hblank : isBlank c = false) (hlist : c ≠ ']') (hobject : c ≠ '}')
    (cs : List Char) : Starts (c :: cs) :=
  ⟨c, cs, rfl, hblank, hlist, hobject⟩

theorem starts_of_isOpening (hc : isOpening c = true) (cs : List Char) : Starts (c :: cs) :=
  starts_cons (isBlank_of_isOpening hc) (ne_of_isOpening hc (by decide))
    (ne_of_isOpening hc (by decide)) cs

theorem Starts.skipBlanks_append (h : Starts cs) (hb : Blanks bs) (rest : List Char) :
    skipBlanks (bs ++ (cs ++ rest)) = cs ++ rest := by
  obtain ⟨c, ds, rfl, hc, -⟩ := h
  exact skipBlanks_append_cons hb hc (ds ++ rest)

theorem Starts.append_ne_nil (h : Starts cs) (rest : List Char) : cs ++ rest ≠ [] := by
  obtain ⟨c, ds, rfl, -⟩ := h
  exact List.cons_ne_nil _ _

theorem Starts.append_ne_bracket (h : Starts cs) (rest v : List Char) :
    cs ++ rest ≠ ']' :: v := by
  obtain ⟨c, ds, rfl, -, hc, -⟩ := h
  intro heq
  rw [List.cons_append, List.cons.injEq] at heq
  exact hc heq.1

theorem Starts.append_ne_brace (h : Starts cs) (rest v : List Char) :
    cs ++ rest ≠ '}' :: v := by
  obtain ⟨c, ds, rfl, -, -, hc⟩ := h
  intro heq
  rw [List.cons_append, List.cons.injEq] at heq
  exact hc heq.1

theorem MemberLayout.starts {key value part : List Char} (h : MemberLayout key value part) :
    Starts part := by
  cases h with
  | mk blanks blanks' => exact starts_of_isOpening (by decide) _

theorem Written.starts {v : Value} (h : Written v cs) : Starts cs := by
  obtain ⟨c, ds, rfl, hc⟩ := h.exists_opening
  exact starts_of_isOpening hc ds

end Starts

/-! ## Texts of values -/

theorem ItemsWritten.exists_parts {vs : List Value} {ds : List Char} (h : ItemsWritten vs ds) :
    ∃ parts, List.Forall₂ Written vs parts ∧ Separated parts ds := by
  induction vs generalizing ds with
  | nil =>
    cases h with
    | nil blanks => exact ⟨[], .nil, .nil blanks⟩
  | cons v vs ih =>
    cases h with
    | cons blanks blanks' head tail =>
      obtain ⟨parts, hparts, hds⟩ := ih tail
      exact ⟨_, .cons head hparts, .cons blanks blanks' hds⟩

/-- The text of a list encloses the texts of its items. -/
theorem Written.exists_items {vs : List Value} {cs : List Char} (h : Written (.list vs) cs) :
    ∃ items, List.Forall₂ Written vs items ∧ Enclosed '[' ']' items cs := by
  cases h with
  | list_nil blanks => exact ⟨[], .nil, .nil blanks⟩
  | list_cons blanks head tail =>
    obtain ⟨items, hitems, hds⟩ := tail.exists_parts
    exact ⟨_, .cons head hitems, .cons blanks hds⟩

theorem Separated.itemsWritten {vs : List Value} {parts : List (List Char)} {ds : List Char}
    (hparts : List.Forall₂ Written vs parts) (h : Separated parts ds) : ItemsWritten vs ds := by
  induction hparts generalizing ds with
  | nil =>
    cases h with
    | nil blanks => exact .nil blanks
  | cons head _ ih =>
    cases h with
    | cons blanks blanks' tail => exact .cons blanks blanks' head (ih tail)

/-- The texts of the items, enclosed, are a text of the list. -/
theorem Enclosed.written {vs : List Value} {items : List (List Char)} {cs : List Char}
    (hitems : List.Forall₂ Written vs items) (h : Enclosed '[' ']' items cs) :
    Written (.list vs) cs := by
  cases h with
  | nil blanks =>
    cases hitems with
    | nil => exact .list_nil blanks
  | cons blanks tail =>
    cases hitems with
    | cons head hitems => exact .list_cons blanks head (tail.itemsWritten hitems)

/-- The text of a member's value, under its name. -/
def MemberOf (member : String × Value) (text : String × List Char) : Prop :=
  text.1 = member.1 ∧ Written member.2 text.2

theorem MemberWritten.exists_text {k : String} {v : Value} {cs : List Char}
    (h : MemberWritten k v cs) : ∃ text, MemberOf (k, v) text ∧ NamedMember text cs := by
  cases h with
  | @mk _ _ ks _ _ value key blanks blanks' written =>
    exact ⟨(k, value), ⟨rfl, written⟩, ks, key, .mk blanks blanks'⟩

theorem MembersWritten.exists_parts {ms : List (String × Value)} {ds : List Char}
    (h : MembersWritten ms ds) : ∃ texts parts, List.Forall₂ MemberOf ms texts ∧
      List.Forall₂ NamedMember texts parts ∧ Separated parts ds := by
  induction ms generalizing ds with
  | nil =>
    cases h with
    | nil blanks => exact ⟨[], [], .nil, .nil, .nil blanks⟩
  | cons m ms ih =>
    cases h with
    | cons blanks blanks' head tail =>
      obtain ⟨text, htext, hpart⟩ := head.exists_text
      obtain ⟨texts, parts, htexts, hparts, hds⟩ := ih tail
      exact ⟨_, _, .cons htext htexts, .cons hpart hparts, .cons blanks blanks' hds⟩

/-- The text of an object encloses its members. -/
theorem Written.exists_members {ms : List (String × Value)} {cs : List Char}
    (h : Written (.object ms) cs) :
    ∃ texts, List.Forall₂ MemberOf ms texts ∧ ObjectText texts cs := by
  cases h with
  | object_nil blanks => exact ⟨[], .nil, [], .nil, .nil blanks⟩
  | object_cons blanks head tail =>
    obtain ⟨text, htext, hpart⟩ := head.exists_text
    obtain ⟨texts, parts, htexts, hparts, hds⟩ := tail.exists_parts
    exact ⟨_, .cons htext htexts, _, .cons hpart hparts, .cons blanks hds⟩

end Observation.Json
