import Observation.Proofs.Json.Takes

/-!
# What is read of a record

A record that is read is an object or a list of texts of its fields, and these texts are those of
the record that is made in the end: what one of them fills stays as it is.

* `FieldsFit` - what reading one field says about its text and about the draft before and after.
* `MembersTaken`, `ItemsTaken` - what reading many of them says.
* `takes_record` - the objects and lists that are read as a record.
-/

namespace Observation.Json

variable {α σ : Type} {s t u rest : List Char}

/-! ## Members -/

theorem skipBlanks_of_nextKey_close {isFirst : Bool} (h : nextKey isFirst s = .ok (.close t)) :
    skipBlanks s = '}' :: t := by
  unfold nextKey at h
  split at h
  · cases h
  · next u hs =>
    cases h
    exact hs
  · split at h
    · split at h <;> cases h
    · split at h
      · split at h <;> cases h
      · cases h

theorem skipBlanks_of_nextKey_first (h : nextKey true s = .ok (.item t)) :
    skipBlanks s = '"' :: t := by
  unfold nextKey at h
  split at h
  · cases h
  · cases h
  · next hs =>
    rw [if_pos rfl] at h
    split at h
    · next hc =>
      cases h
      exact hc ▸ hs
    · cases h

theorem exists_of_nextKey_comma (h : nextKey false s = .ok (.item t)) :
    ∃ u, skipBlanks s = ',' :: u ∧ skipBlanks u = '"' :: t := by
  unfold nextKey at h
  split at h
  · cases h
  · cases h
  · next c u _ hs =>
    rw [if_neg Bool.false_ne_true] at h
    split at h
    · next hc =>
      subst hc
      split at h
      · cases h
      · next v hu =>
        cases h
        exact ⟨u, hs, hu⟩
      · cases h
      · cases h
    · cases h

theorem skipBlanks_of_colon {a : Unit} (h : colon s = .ok (a, t)) : skipBlanks s = ':' :: t := by
  unfold colon at h
  split at h
  · cases h
  · next u hs =>
    cases h
    exact hs
  · cases h

/-- A name, a colon and a text are a member. -/
theorem exists_namedMember {name cs v : List Char} {a : Unit} (hname : stringBody s = .ok (name, t))
    (hcolon : colon t = .ok (a, u)) (hleads : Leads cs u v) :
    ∃ part, NamedMember (String.ofList name, cs) part ∧ '"' :: s = part ++ v := by
  obtain ⟨key, hkey, rfl⟩ := exists_of_stringBody hname
  obtain ⟨as, has, rfl⟩ := exists_blanks (skipBlanks_of_colon hcolon)
  obtain ⟨bs, hbs, rfl⟩ := hleads
  refine ⟨_, ⟨key, ?_, .mk has hbs⟩, by simp⟩
  rwa [String.toList_ofList]

theorem read_bind_iff {β : Type} {r : Reader α} {k : α → Reader β} {b : β} :
    (r >>= k) s = .ok (b, rest) ↔ ∃ a t, r s = .ok (a, t) ∧ k a t = .ok (b, rest) := by
  constructor
  · intro h
    obtain ⟨⟨a, t⟩, ha, hk⟩ := Except.bind_eq_ok_iff.1 h
    exact ⟨a, t, ha, hk⟩
  · rintro ⟨a, t, ha, hk⟩
    exact Except.bind_eq_ok_iff.2 ⟨(a, t), ha, hk⟩

/-- What is put somewhere else has been read before. -/
theorem exists_of_set {r : Reader α} {set : α → σ} {d : σ}
    (h : (do return set (← r) : Reader σ) s = .ok (d, rest)) :
    ∃ a, r s = .ok (a, rest) ∧ set a = d := by
  obtain ⟨a, t, ha, heq⟩ := read_bind_iff.1 h
  cases heq
  exact ⟨a, ha, rfl⟩

section Members

variable {fields : List (Field σ)} {holds : σ → Prop} {fits : String → List Char → Prop}
  {d d' d'' : σ} {name : String} {members : List (String × List Char)}

/-- After the name of a member comes a colon, and then the value of the field of that name, which
is empty so far, or any value if there is no such field. -/
theorem exists_of_fieldMember (h : fieldMember fields d name s = .ok (d', rest)) :
    ∃ a t, colon s = .ok (a, t) ∧
      ((∃ f, fields.find? (fun f => f.name == name) = some f ∧ f.isFilled d = false ∧
          f.fill d t = .ok (d', rest)) ∨
        fields.find? (fun f => f.name == name) = none ∧ d' = d ∧
          ∃ b, skipValue t = .ok (b, rest)) := by
  unfold fieldMember at h
  cases hfind : fields.find? (fun f => f.name == name) with
  | none =>
    simp only [hfind, read_bind_iff] at h
    obtain ⟨a, t, hcolon, b, u, hvalue, heq⟩ := h
    cases heq
    exact ⟨a, t, hcolon, .inr ⟨rfl, rfl, b, hvalue⟩⟩
  | some f =>
    simp only [hfind] at h
    cases hfilled : f.isFilled d with
    | true =>
      simp only [hfilled, if_true, read_bind_iff] at h
      obtain ⟨a, t, hrefused, -⟩ := h
      cases hrefused
    | false =>
      simp only [hfilled, Bool.false_eq_true, if_false, read_bind_iff] at h
      obtain ⟨a, t, hcolon, hfill⟩ := h
      exact ⟨a, t, hcolon, .inl ⟨f, rfl, hfilled, hfill⟩⟩

/-- Fields that are told apart by their names.  Each of them fills its own place in a draft; if it
was empty, what `holds` of the draft after it did so before it, and `fits` tells of its text. -/
structure FieldsFit (fields : List (Field σ)) (holds : σ → Prop)
    (fits : String → List Char → Prop) : Prop where
  distinct : ∀ f ∈ fields, ∀ g ∈ fields, g.name = f.name → g = f
  text : ∀ f ∈ fields, ∀ {d d' : σ} {s rest : List Char}, f.fill d s = .ok (d', rest) →
    f.isFilled d = false → holds d' → holds d ∧ ∃ cs, fits f.name cs ∧ Leads cs s rest
  filled : ∀ f ∈ fields, ∀ {d d' : σ} {s rest : List Char}, f.fill d s = .ok (d', rest) →
    ∀ g ∈ fields, g.isFilled d' = (g.name == f.name || g.isFilled d)

/-- The text under a name is one of the field of that name, or one of any value if there is none. -/
def MemberFits (fields : List (Field σ)) (fits : String → List Char → Prop)
    (m : String × List Char) : Prop :=
  fits m.1 m.2 ∨ m.1 ∉ fields.map Field.name ∧ ValueText m.2

/-- What members that are read one after another are, and which fields they fill. -/
structure MembersTaken (fields : List (Field σ)) (fits : String → List Char → Prop) (d d' : σ)
    (members : List (String × List Char)) : Prop where
  texts : ∀ m ∈ members, MemberFits fields fits m
  once : ∀ f ∈ fields, (members.map Prod.fst).count f.name + (f.isFilled d).toNat ≤ 1
  filled : ∀ f ∈ fields, f.isFilled d' = true ↔
    f.isFilled d = true ∨ f.name ∈ members.map Prod.fst

theorem MembersTaken.nil (d : σ) : MembersTaken fields fits d d [] where
  texts := List.forall_mem_nil _
  once f _ := by simpa using Bool.toNat_le (f.isFilled d)
  filled f _ := by simp

theorem MembersTaken.field {f : Field σ} {cs : List Char} (hfit : FieldsFit fields holds fits)
    (hf : f ∈ fields) (hempty : f.isFilled d = false) (hfill : f.fill d s = .ok (d', rest))
    (hcs : fits f.name cs) (h : MembersTaken fields fits d' d'' members) :
    MembersTaken fields fits d d'' ((f.name, cs) :: members) where
  texts := List.forall_mem_cons.2 ⟨.inl hcs, h.texts⟩
  once g hg := by
    have honce := h.once g hg
    rw [hfit.filled f hf hfill g hg] at honce
    by_cases hname : g.name = f.name
    · obtain rfl := hfit.distinct f hf g hg hname
      simpa [hempty] using honce
    · rw [beq_false_of_ne hname, Bool.false_or] at honce
      rwa [List.map_cons, List.count_cons_of_ne (Ne.symm hname)]
  filled g hg := by
    rw [h.filled g hg, hfit.filled f hf hfill g hg]
    simp [or_assoc, or_left_comm]

theorem MembersTaken.other {cs : List Char} (hname : name ∉ fields.map Field.name)
    (hcs : ValueText cs) (h : MembersTaken fields fits d d' members) :
    MembersTaken fields fits d d' ((name, cs) :: members) where
  texts := List.forall_mem_cons.2 ⟨.inr ⟨hname, hcs⟩, h.texts⟩
  once f hf := by
    have hne : name ≠ f.name := fun heq => hname (List.mem_map.2 ⟨f, hf, heq.symm⟩)
    simpa [hne] using h.once f hf
  filled f hf := by
    have hne : f.name ≠ name := fun heq => hname (List.mem_map.2 ⟨f, hf, heq⟩)
    rw [h.filled f hf]
    simp [hne]

/-- One member, read before others. -/
theorem exists_of_member (hfit : FieldsFit fields holds fits) {name : List Char}
    (hname : stringBody s = .ok (name, t))
    (hmember : fieldMember fields d (String.ofList name) t = .ok (d', rest)) (hd' : holds d') :
    holds d ∧ ∃ m part, NamedMember m part ∧ '"' :: s = part ++ rest ∧
      ∀ {d'' members}, MembersTaken fields fits d' d'' members →
        MembersTaken fields fits d d'' (m :: members) := by
  obtain ⟨a, u, hcolon, ⟨f, hfind, hempty, hfill⟩ | ⟨hfind, rfl, b, hvalue⟩⟩ :=
    exists_of_fieldMember hmember
  · have hf := List.mem_of_find?_eq_some hfind
    have hfname : f.name = String.ofList name := by simpa using List.find?_some hfind
    obtain ⟨hd, cs, hcs, hleads⟩ := hfit.text f hf hfill hempty hd'
    obtain ⟨part, hpart, hs⟩ := exists_namedMember hname hcolon hleads
    rw [← hfname] at hpart
    exact ⟨hd, _, part, hpart, hs, .field hfit hf hempty hfill hcs⟩
  · have hunknown : String.ofList name ∉ fields.map Field.name := by
      rw [List.find?_eq_none] at hfind
      intro hmem
      obtain ⟨f, hf, heq⟩ := List.mem_map.1 hmem
      exact hfind f hf (beq_iff_eq.2 heq)
    obtain ⟨cs, hcs, hleads⟩ := exists_of_skipValue hvalue
    obtain ⟨part, hpart, hs⟩ := exists_namedMember hname hcolon hleads
    exact ⟨hd', _, part, hpart, hs, .other hunknown hcs⟩

/-- The members after the first one stand in the text one by one. -/
theorem exists_of_membersFrom (hfit : FieldsFit fields holds fits) {n : Nat}
    (h : membersFrom (fieldMember fields) n false d s = .ok (d', rest)) (hd' : holds d') :
    holds d ∧ ∃ members parts, List.Forall₂ NamedMember members parts ∧
      Continues parts '}' s rest ∧ MembersTaken fields fits d d' members := by
  induction n generalizing s d with
  | zero => cases h
  | succ n ih =>
    simp only [membersFrom, Except.bind_eq_ok_iff] at h
    obtain ⟨next, hnext, h⟩ := h
    cases next with
    | close t =>
      cases h
      exact ⟨hd', [], [], .nil, .nil (skipBlanks_of_nextKey_close hnext), .nil _⟩
    | item t =>
      simp only [Except.bind_eq_ok_iff] at h
      obtain ⟨⟨name, u⟩, hname, ⟨d₁, v⟩, hmember, hmembers⟩ := h
      obtain ⟨w, hcomma, hquote⟩ := exists_of_nextKey_comma hnext
      -- The members after this one say what holds of the draft that it makes.
      obtain ⟨hd₁, members, parts, hparts, hcontinues, htaken⟩ := ih hmembers
      obtain ⟨hd, m, part, hpart, hs, hcons⟩ := exists_of_member hfit hname hmember hd₁
      have hleads : Leads part w v := leads_of_skipBlanks (hquote.trans hs)
      exact ⟨hd, m :: members, part :: parts, .cons hpart hparts, hcontinues.cons hcomma hleads,
        hcons htaken⟩

/-- All members of an object that is read. -/
theorem exists_of_members (hfit : FieldsFit fields holds fits) {n : Nat}
    (h : membersFrom (fieldMember fields) n true d s = .ok (d', rest)) (hd' : holds d') :
    ∃ members cs, ObjectText members cs ∧ MembersTaken fields fits d d' members ∧
      '{' :: s = cs ++ rest := by
  cases n with
  | zero => cases h
  | succ n =>
    simp only [membersFrom, Except.bind_eq_ok_iff] at h
    obtain ⟨next, hnext, h⟩ := h
    cases next with
    | close t =>
      cases h
      obtain ⟨cs, layout, heq⟩ := exists_enclosed_nil '{' (skipBlanks_of_nextKey_close hnext)
      exact ⟨[], cs, ⟨[], .nil, layout⟩, .nil _, heq⟩
    | item t =>
      simp only [Except.bind_eq_ok_iff] at h
      obtain ⟨⟨name, u⟩, hname, ⟨d₁, v⟩, hmember, hmembers⟩ := h
      obtain ⟨hd₁, members, parts, hparts, hcontinues, htaken⟩ :=
        exists_of_membersFrom hfit hmembers hd'
      obtain ⟨-, m, part, hpart, hs, hcons⟩ := exists_of_member hfit hname hmember hd₁
      have hleads : Leads part s v :=
        leads_of_skipBlanks ((skipBlanks_of_nextKey_first hnext).trans hs)
      obtain ⟨cs, layout, heq⟩ := hcontinues.exists_enclosed hleads
      exact ⟨m :: members, cs, ⟨part :: parts, .cons hpart hparts, layout⟩, hcons htaken, heq⟩

end Members

/-! ## Records as lists -/

section Items

variable {fields left : List (Field σ)} {holds : σ → Prop} {fits : String → List Char → Prop}
  {f : Field σ} {wanted : String} {position : Nat} {d d' d'' : σ} {names : List String}
  {items : List (List Char)}

/-- What items that are read one after another are, where `left` are the fields still to come, and
which fields they fill. -/
structure ItemsTaken (fields left : List (Field σ)) (fits : String → List Char → Prop) (d d' : σ)
    (names : List String) (items : List (List Char)) : Prop where
  order : names <+: left.map Field.name
  texts : List.Forall₂ fits names items
  filled : ∀ f ∈ fields, f.isFilled d' = true ↔ f.isFilled d = true ∨ f.name ∈ names

theorem ItemsTaken.nil (left : List (Field σ)) (d : σ) :
    ItemsTaken fields left fits d d [] [] where
  order := List.nil_prefix
  texts := .nil
  filled f _ := by simp

theorem ItemsTaken.cons {cs : List Char} (hfit : FieldsFit fields holds fits) (hf : f ∈ fields)
    (hfill : f.fill d s = .ok (d', rest)) (hcs : fits f.name cs)
    (h : ItemsTaken fields left fits d' d'' names items) :
    ItemsTaken fields (f :: left) fits d d'' (f.name :: names) (cs :: items) where
  order := List.cons_prefix_cons.2 ⟨rfl, h.order⟩
  texts := .cons hcs h.texts
  filled g hg := by
    rw [h.filled g hg, hfit.filled f hf hfill g hg]
    simp [or_assoc, or_left_comm]

/-- A row of items goes on with the value of a field, or ends. -/
theorem fieldItems_cases (h : fieldItems wanted position (f :: left) d s = .ok (d', rest)) :
    nextItem (position == 0) s = .ok (.close rest) ∧ d' = d ∨
      ∃ t d₁ u, nextItem (position == 0) s = .ok (.item t) ∧ f.fill d t = .ok (d₁, u) ∧
        fieldItems wanted (position + 1) left d₁ u = .ok (d', rest) := by
  simp only [fieldItems, Except.bind_eq_ok_iff] at h
  obtain ⟨next, hnext, h⟩ := h
  cases next with
  | close t =>
    refine .inl ?_
    dsimp only at h
    split at h
    · cases h
    · split at h
      · cases h
      · cases h
        exact ⟨hnext, rfl⟩
  | item t =>
    simp only [Except.bind_eq_ok_iff] at h
    obtain ⟨⟨d₁, u⟩, hfill, hitems⟩ := h
    exact .inr ⟨t, d₁, u, hnext, hfill, hitems⟩

/-- After the last field the row ends. -/
theorem skipBlanks_of_fieldItems_nil (h : fieldItems wanted position [] d s = .ok (d', rest)) :
    skipBlanks s = ']' :: rest ∧ d' = d := by
  unfold fieldItems at h
  split at h
  · cases h
  · next t hs =>
    cases h
    exact ⟨hs, rfl⟩
  · split at h <;> cases h
  · cases h

/-- What is known before the fields that are left are read: all of them are empty. -/
structure ItemsLeft (fields left : List (Field σ)) (d : σ) : Prop where
  mem : ∀ f ∈ left, f ∈ fields
  nodup : (left.map Field.name).Nodup
  empty : ∀ f ∈ left, f.isFilled d = false

theorem ItemsLeft.tail (hfit : FieldsFit fields holds fits)
    (hfill : f.fill d s = .ok (d', rest)) (h : ItemsLeft fields (f :: left) d) :
    ItemsLeft fields left d' := by
  obtain ⟨hf, hleft⟩ := List.forall_mem_cons.1 h.mem
  have hnodup := List.nodup_cons.1 h.nodup
  refine ⟨hleft, hnodup.2, fun g hg => ?_⟩
  have hne : g.name ≠ f.name := fun heq => hnodup.1 (heq ▸ List.mem_map_of_mem hg)
  rw [hfit.filled f hf hfill g (hleft g hg), beq_false_of_ne hne, Bool.false_or]
  exact h.empty g (List.mem_cons_of_mem f hg)

/-- The items after the first one stand in the text one by one. -/
theorem exists_of_fieldItems (hfit : FieldsFit fields holds fits) (hleft : ItemsLeft fields left d)
    (hposition : 0 < position) (h : fieldItems wanted position left d s = .ok (d', rest))
    (hd' : holds d') : holds d ∧ ∃ names items, Continues items ']' s rest ∧
      ItemsTaken fields left fits d d' names items := by
  induction left generalizing s d position with
  | nil =>
    obtain ⟨hs, rfl⟩ := skipBlanks_of_fieldItems_nil h
    exact ⟨hd', [], [], .nil hs, .nil [] _⟩
  | cons f left ih =>
    have hfirst : (position == 0) = false := beq_false_of_ne (Nat.ne_of_gt hposition)
    have hf := hleft.mem f List.mem_cons_self
    rcases fieldItems_cases h with ⟨hnext, rfl⟩ | ⟨t, d₁, u, hnext, hfill, hitems⟩
    · exact ⟨hd', [], [], .nil (skipBlanks_of_nextItem_close hnext), .nil _ _⟩
    · obtain ⟨hd₁, names, items, hcontinues, htaken⟩ :=
        ih (hleft.tail hfit hfill) (Nat.succ_pos position) hitems
      obtain ⟨hd, cs, hcs, hleads⟩ :=
        hfit.text f hf hfill (hleft.empty f List.mem_cons_self) hd₁
      rw [hfirst] at hnext
      obtain ⟨v, hcomma, rfl⟩ := exists_of_nextItem_comma hnext
      exact ⟨hd, _, _, hcontinues.cons hcomma hleads.of_skipBlanks, .cons hfit hf hfill hcs htaken⟩

/-- All items of a list that is read. -/
theorem exists_of_items (hfit : FieldsFit fields holds fits) (hleft : ItemsLeft fields left d)
    (h : fieldItems wanted 0 left d s = .ok (d', rest)) (hd' : holds d') :
    ∃ names items cs, Enclosed '[' ']' items cs ∧
      ItemsTaken fields left fits d d' names items ∧ '[' :: s = cs ++ rest := by
  cases left with
  | nil =>
    obtain ⟨hs, rfl⟩ := skipBlanks_of_fieldItems_nil h
    obtain ⟨cs, layout, heq⟩ := exists_enclosed_nil '[' hs
    exact ⟨[], [], cs, layout, .nil [] _, heq⟩
  | cons f left =>
    have hf := hleft.mem f List.mem_cons_self
    rcases fieldItems_cases h with ⟨hnext, rfl⟩ | ⟨t, d₁, u, hnext, hfill, hitems⟩
    · obtain ⟨cs, layout, heq⟩ := exists_enclosed_nil '[' (skipBlanks_of_nextItem_close hnext)
      exact ⟨[], [], cs, layout, .nil _ _, heq⟩
    · obtain ⟨hd₁, names, items, hcontinues, htaken⟩ :=
        exists_of_fieldItems hfit (hleft.tail hfit hfill) (Nat.succ_pos 0) hitems hd'
      obtain ⟨-, part, hpart, hleads⟩ :=
        hfit.text f hf hfill (hleft.empty f List.mem_cons_self) hd₁
      obtain rfl := skipBlanks_of_nextItem_first hnext
      obtain ⟨cs, layout, heq⟩ := hcontinues.exists_enclosed hleads.of_skipBlanks
      exact ⟨_, _, cs, layout, .cons hfit hf hfill hpart htaken, heq⟩

end Items

/-! ## Records -/

section Records

variable {fields : List (Field σ)} {blank : σ} {build : σ → Except ReadError α}
  {holds : α → σ → Prop} {fits : α → String → List Char → Prop}

/-- A text that is read as a record, an object or a list, and the draft that is made of it. -/
inductive RecordTaken (fields : List (Field σ)) (blank : σ) (fits : String → List Char → Prop)
    (d : σ) (cs : List Char) : Prop
  | object {members : List (String × List Char)} (layout : ObjectText members cs)
      (taken : MembersTaken fields fits blank d members)
  | list {names : List String} {items : List (List Char)} (layout : Enclosed '[' ']' items cs)
      (taken : ItemsTaken fields fields fits blank d names items)

/-- A record is read from an object or a list of texts that are those of the record. -/
theorem takes_record (wanted : String) (hfit : ∀ a, FieldsFit fields (holds a) (fits a))
    (hblank : ItemsLeft fields fields blank) (hbuild : ∀ {d a}, build d = .ok a → holds a d) :
    Takes (record wanted fields blank build) fun a cs =>
      ∃ d, build d = .ok a ∧ RecordTaken fields blank (fits a) d cs := by
  intro s a rest h
  unfold record at h
  split at h
  · next t hs =>
    simp only [Except.bind_eq_ok_iff, Except.pure_eq_ok_iff] at h
    obtain ⟨⟨d, u⟩, hitems, a, hd, heq⟩ := h
    cases heq
    obtain ⟨names, items, cs, layout, htaken, heq⟩ :=
      exists_of_items (hfit a) hblank hitems (hbuild hd)
    exact ⟨cs, ⟨d, hd, .list layout htaken⟩, leads_of_skipBlanks (hs.trans heq)⟩
  · next t hs =>
    simp only [Except.bind_eq_ok_iff, Except.pure_eq_ok_iff] at h
    obtain ⟨⟨d, u⟩, hmembers, a, hd, heq⟩ := h
    cases heq
    obtain ⟨members, cs, layout, htaken, heq⟩ :=
      exists_of_members (hfit a) hmembers (hbuild hd)
    exact ⟨cs, ⟨d, hd, .object layout htaken⟩, leads_of_skipBlanks (hs.trans heq)⟩
  · cases h

end Records

end Observation.Json
