import Observation.Proofs.Json.Reads

/-!
# What readers make of a record

A record is read from an object, whose members may come in any order and among others, or from a
list of its fields.

* `MemberFills`, `FillsText`, `readsText_object` - objects whose members fill the fields of a draft.
* `Fills`, `reads_record` - the same for objects as they are written.
* `FillsInOrder`, `readsText_list` - lists whose items fill the fields of a draft in their order.
-/

namespace Observation.Json

variable {α β σ : Type}

/-! ## Objects -/

section Objects

variable {fields : List (Field σ)} {f : Field σ} {name : String} {d d' d'' : σ}
  {build : σ → Except ReadError α} {a : α}

theorem nextKey_close {bs : List Char} (hb : Blanks bs) (isFirst : Bool) (rest : List Char) :
    nextKey isFirst (bs ++ '}' :: rest) = .ok (.close rest) := by
  unfold nextKey
  rw [skipBlanks_append_cons hb (by decide)]
  rfl

theorem nextKey_first {bs : List Char} (hb : Blanks bs) (rest : List Char) :
    nextKey true (bs ++ '"' :: rest) = .ok (.item rest) := by
  unfold nextKey
  rw [skipBlanks_append_cons hb (by decide)]
  rfl

theorem nextKey_comma {as bs : List Char} (ha : Blanks as) (hb : Blanks bs) (rest : List Char) :
    nextKey false (as ++ ',' :: (bs ++ '"' :: rest)) = .ok (.item rest) := by
  have hskip := skipBlanks_append_cons hb (c := '"') (by decide) rest
  unfold nextKey
  rw [skipBlanks_append_cons ha (by decide)]
  split
  · next heq => cases heq
  · next heq => cases heq
  · next heq =>
    cases heq
    rw [if_neg Bool.false_ne_true, if_pos rfl, hskip]
    rfl

theorem membersFrom_close {member : σ → String → Reader σ} {isFirst : Bool} {s t : List Char}
    {n : Nat} (h : nextKey isFirst s = .ok (.close t)) :
    membersFrom member (n + 1) isFirst d s = .ok (d, t) := by
  unfold membersFrom
  simp only [h]
  rfl

theorem membersFrom_item {member : σ → String → Reader σ} {isFirst : Bool}
    {s t u w x name : List Char} {n : Nat} (h : nextKey isFirst s = .ok (.item t))
    (hname : stringBody t = .ok (name, u)) (hd : member d (String.ofList name) u = .ok (d', w))
    (hds : membersFrom member n false d' w = .ok (d'', x)) :
    membersFrom member (n + 1) isFirst d s = .ok (d'', x) := by
  rw [membersFrom]
  simp only [h, Except.bind_eq_ok_iff, Except.ok.injEq, exists_eq_left']
  exact ⟨_, hname, _, hd, hds⟩

/-- What a member makes of a draft: it fills the field of its name, which was empty, or there is no
such field and it leaves the draft as it is. -/
inductive MemberFills (fields : List (Field σ)) (d : σ) : String × List Char → σ → Prop
  | field {f : Field σ} {name : String} {cs : List Char} {d' : σ}
      (field : fields.find? (fun f => f.name == name) = some f) (empty : f.isFilled d = false)
      (value : ReadsText (f.fill d) cs d') : MemberFills fields d (name, cs) d'
  | other {name : String} {cs : List Char}
      (unknown : fields.find? (fun f => f.name == name) = none) (value : ValueText cs) :
      MemberFills fields d (name, cs) d

/-- What members, read one after another, make of a draft. -/
inductive FillsText (fields : List (Field σ)) : σ → List (String × List Char) → σ → Prop
  | nil (d : σ) : FillsText fields d [] d
  | cons {m : String × List Char} {ms : List (String × List Char)} {d d' d'' : σ}
      (head : MemberFills fields d m d') (tail : FillsText fields d' ms d'') :
      FillsText fields d (m :: ms) d''

theorem fieldMember_append {m : String × List Char} {as bs rest : List Char}
    (h : MemberFills fields d m d') (ha : Blanks as) (hb : Blanks bs) (hrest : Delimited rest) :
    fieldMember fields d m.1 (as ++ ':' :: (bs ++ (m.2 ++ rest))) = .ok (d', rest) := by
  unfold fieldMember
  cases h with
  | field field empty value =>
    rw [field]
    simp only [empty, Bool.false_eq_true, if_false]
    rw [bind_apply (colon_append ha _)]
    exact value bs rest hb hrest
  | other unknown value =>
    rw [unknown]
    simp only
    rw [bind_apply (colon_append ha _), bind_apply (skipValue_append value hb hrest)]
    rfl

/-- The members after the first one are read one by one. -/
theorem membersFrom_separated {ms : List (String × List Char)} {parts : List (List Char)}
    {ds : List Char} {fuel : Nat} (h : FillsText fields d ms d')
    (hparts : List.Forall₂ NamedMember ms parts) (hds : Separated parts ds)
    (hfuel : ms.length < fuel) (rest : List Char) :
    membersFrom (fieldMember fields) fuel false d (ds ++ '}' :: rest) = .ok (d', rest) := by
  induction h generalizing parts ds fuel with
  | nil d =>
    obtain ⟨n, rfl⟩ := Nat.exists_eq_succ_of_ne_zero (Nat.ne_of_gt hfuel)
    cases hparts with
    | nil =>
      cases hds with
      | nil blanks => exact membersFrom_close (nextKey_close blanks false rest)
  | cons head _ ih =>
    obtain ⟨n, rfl⟩ := Nat.exists_eq_succ_of_ne_zero (Nat.ne_zero_of_lt hfuel)
    cases hparts with
    | cons named hparts =>
      cases hds with
      | @cons _ _ _ _ ds blanks blanks' tail =>
        obtain ⟨key, spelling, ⟨as, bs⟩⟩ := named
        have hmembers := ih hparts tail (Nat.lt_of_succ_lt_succ hfuel)
        have hdelimited : Delimited (ds ++ '}' :: rest) := tail.delimited (by decide) rest
        simp only [List.append_assoc, List.cons_append]
        refine membersFrom_item (nextKey_comma blanks blanks' _) (stringBody_append spelling _) ?_
          hmembers
        rw [String.ofList_toList]
        exact fieldMember_append head as bs hdelimited

/-- An object is read as the record that its members fill. -/
theorem readsText_object {ms : List (String × List Char)} {cs : List Char} (wanted : String)
    (h : FillsText fields d ms d') (hbuild : build d' = .ok a) (hcs : ObjectText ms cs) :
    ReadsText (record wanted fields d build) cs a := by
  intro bs rest hb hrest
  obtain ⟨parts, hparts, layout⟩ := hcs
  unfold record
  cases layout with
  | nil blanks =>
    cases hparts with
    | nil =>
      cases h with
      | nil =>
        rw [List.cons_append, skipBlanks_append_cons hb (by decide)]
        simp only [List.cons_append, List.append_assoc, List.nil_append, Except.bind_eq_ok_iff,
          Except.pure_eq_ok_iff]
        exact ⟨_, membersFrom_close (nextKey_close blanks true rest), _, hbuild, rfl⟩
  | @cons _ _ _ ds blanks tail =>
    cases hparts with
    | cons named hparts =>
      cases h with
      | cons head hfills =>
        obtain ⟨key, spelling, ⟨as, bs⟩⟩ := named
        have hdelimited : Delimited (ds ++ '}' :: rest) := tail.delimited (by decide) rest
        have hlength := hparts.length_eq
        have hle := tail.length_le
        rw [List.cons_append, skipBlanks_append_cons hb (by decide)]
        simp only [List.cons_append, List.append_assoc, List.nil_append, Except.bind_eq_ok_iff,
          Except.pure_eq_ok_iff]
        refine ⟨_, membersFrom_item (nextKey_first blanks _) (stringBody_append spelling _) ?_
          (membersFrom_separated hfills hparts tail ?_ rest), _, hbuild, rfl⟩
        · rw [String.ofList_toList]
          exact fieldMember_append head as bs hdelimited
        · simp only [List.length_append, List.length_cons]
          omega

/-- Members, read one after another, fill the fields of a draft: each has a field of its name that
was empty. -/
inductive Fills (fields : List (Field σ)) : σ → List (String × Value) → σ → Prop
  | nil (d : σ) : Fills fields d [] d
  | cons {f : Field σ} {name : String} {v : Value} {ms : List (String × Value)} {d d' d'' : σ}
      (field : fields.find? (fun f => f.name == name) = some f) (empty : f.isFilled d = false)
      (value : Reads (f.fill d) v d') (tail : Fills fields d' ms d'') :
      Fills fields d ((name, v) :: ms) d''

theorem Fills.append {ms ns : List (String × Value)} (h : Fills fields d ms d')
    (h' : Fills fields d' ns d'') : Fills fields d (ms ++ ns) d'' := by
  induction h with
  | nil d => exact h'
  | cons field empty value _ ih => exact .cons field empty value (ih h')

theorem Fills.single {v : Value} (field : fields.find? (fun f => f.name == name) = some f)
    (empty : f.isFilled d = false) (value : Reads (f.fill d) v d') :
    Fills fields d [(name, v)] d' :=
  .cons field empty value (.nil d')

/-- A member that is left out when there is nothing to write leaves the draft as it is. -/
theorem Fills.ofOption {toValue : β → Value} (put : Option β → σ)
    (field : fields.find? (fun f => f.name == name) = some f) (empty : f.isFilled d = false)
    (value : ∀ b, Reads (f.fill d) (toValue b) (put (some b))) (absent : put none = d)
    (o : Option β) : Fills fields d (o.map fun b => (name, toValue b)).toList (put o) := by
  cases o with
  | none =>
    rw [absent]
    exact .nil d
  | some b => exact .single field empty (value b)

theorem Fills.fillsText {ms : List (String × Value)} {texts : List (String × List Char)}
    (h : Fills fields d ms d') (htexts : List.Forall₂ MemberOf ms texts) :
    FillsText fields d texts d' := by
  induction h generalizing texts with
  | nil d =>
    cases htexts with
    | nil => exact .nil d
  | cons field empty value _ ih =>
    cases htexts with
    | @cons _ text _ _ head tail =>
      obtain ⟨name, cs⟩ := text
      obtain ⟨rfl, written⟩ := head
      exact .cons (.field field empty (value.readsText written)) (ih tail)

theorem reads_record {ms : List (String × Value)} (wanted : String) (h : Fills fields d ms d')
    (hbuild : build d' = .ok a) : Reads (record wanted fields d build) (.object ms) a := by
  intro bs cs rest hb hw hrest
  obtain ⟨texts, htexts, hcs⟩ := hw.exists_members
  exact readsText_object wanted (h.fillsText htexts) hbuild hcs bs rest hb hrest

end Objects

/-! ## Records as lists -/

section Positional

variable {fields : List (Field σ)} {f : Field σ} {wanted : String} {position : Nat}
  {items : List (List Char)} {d d' : σ}

/-- Items, read one after another, fill the first fields of a record, and the others need not be
there. -/
inductive FillsInOrder : List (Field σ) → σ → List (List Char) → σ → Prop
  | nil {fields : List (Field σ)} {d : σ} (optional : ∀ f ∈ fields, f.isRequired = false) :
      FillsInOrder fields d [] d
  | cons {f : Field σ} {fields : List (Field σ)} {cs : List Char} {items : List (List Char)}
      {d d' d'' : σ} (starts : Starts cs) (value : ReadsText (f.fill d) cs d')
      (tail : FillsInOrder fields d' items d'') : FillsInOrder (f :: fields) d (cs :: items) d''

theorem fieldItems_close {bs : List Char} (hb : Blanks bs)
    (hoptional : ∀ f ∈ fields, f.isRequired = false) (rest : List Char) :
    fieldItems wanted position fields d (bs ++ ']' :: rest) = .ok (d, rest) := by
  cases fields with
  | nil =>
    have hskip := skipBlanks_append_cons hb (c := ']') (by decide) rest
    simp only [fieldItems, hskip]
  | cons f fields =>
    obtain ⟨hf, hfields⟩ := List.forall_mem_cons.1 hoptional
    have hnone : (fields.zipIdx (position + 1)).find? (fun g => g.1.isRequired) = none := by
      rw [List.find?_eq_none]
      intro g hg
      rw [hfields g.1 (List.fst_mem_of_mem_zipIdx hg)]
      exact Bool.false_ne_true
    have hnext := nextItem_close hb (position == 0) rest
    simp only [fieldItems, hnext, bind, Except.bind, hf, Bool.false_eq_true, if_false, hnone]
    rfl

theorem fieldItems_item {s t u : List Char} (hnext : nextItem (position == 0) s = .ok (.item t))
    (hvalue : f.fill d t = .ok (d', u)) : fieldItems wanted position (f :: fields) d s =
      fieldItems wanted (position + 1) fields d' u := by
  simp only [fieldItems, hnext, bind, Except.bind, hvalue]

/-- The items after the first one are read one by one. -/
theorem fieldItems_separated {ds : List Char} (h : FillsInOrder fields d items d')
    (hds : Separated items ds) (hposition : 0 < position) (rest : List Char) :
    fieldItems wanted position fields d (ds ++ ']' :: rest) = .ok (d', rest) := by
  induction h generalizing ds position with
  | nil optional =>
    cases hds with
    | nil blanks => exact fieldItems_close blanks optional rest
  | cons starts value _ ih =>
    cases hds with
    | @cons _ _ _ _ ds blanks blanks' tail =>
      have hfirst : (position == 0) = false := beq_false_of_ne (Nat.ne_of_gt hposition)
      have hdelimited : Delimited (ds ++ ']' :: rest) := tail.delimited (by decide) rest
      have hnext := nextItem_comma blanks blanks' starts (ds ++ ']' :: rest)
      have hvalue := value [] _ blanks_nil hdelimited
      rw [← hfirst] at hnext
      simp only [List.append_assoc, List.cons_append]
      rw [fieldItems_item hnext hvalue]
      exact ih tail (Nat.succ_pos position)

/-- A list is read as the record that its items fill in the order of the fields. -/
theorem readsText_list {build : σ → Except ReadError α} {a : α} {cs : List Char}
    (h : FillsInOrder fields d items d') (hbuild : build d' = .ok a)
    (layout : Enclosed '[' ']' items cs) : ReadsText (record wanted fields d build) cs a := by
  intro bs rest hb hrest
  unfold record
  cases layout with
  | nil blanks =>
    cases h with
    | nil optional =>
      rw [List.cons_append, skipBlanks_append_cons hb (by decide)]
      simp only [List.cons_append, List.append_assoc, List.nil_append, Except.bind_eq_ok_iff,
        Except.pure_eq_ok_iff]
      exact ⟨_, fieldItems_close blanks optional rest, _, hbuild, rfl⟩
  | @cons _ _ _ ds blanks tail =>
    cases h with
    | cons starts value hitems =>
      have hdelimited : Delimited (ds ++ ']' :: rest) := tail.delimited (by decide) rest
      have hnext : nextItem ((0 : Nat) == 0) _ = _ :=
        nextItem_first blanks starts (ds ++ ']' :: rest)
      have hvalue := value [] _ blanks_nil hdelimited
      rw [List.cons_append, skipBlanks_append_cons hb (by decide)]
      simp only [List.cons_append, List.append_assoc, List.nil_append, Except.bind_eq_ok_iff,
        Except.pure_eq_ok_iff]
      exact ⟨_, (fieldItems_item hnext hvalue).trans
        (fieldItems_separated hitems tail (Nat.succ_pos 0) rest), _, hbuild, rfl⟩

end Positional

end Observation.Json
