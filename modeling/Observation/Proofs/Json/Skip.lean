import Observation.Json.Skip
import Observation.Proofs.Json.WellFormed

/-!
# Well-formed values are passed over

Whatever value stands there, passing over it stops at its end: no well-formed text is refused, and
the steps that the length of the text allows are enough at any depth.

* `skipString_append` - passing over a string.
* `Skipped` - a text that is passed over, given as many steps as it is long.
* `ValueText.skipped` - every well-formed value is.
-/

namespace Observation.Json

/-! ## Strings -/

theorem skipString_plain {c : Char} (hquote : c ≠ '"') (hback : c ≠ '\\')
    (hctl : isControl c = false) (rest : List Char) :
    skipString (c :: rest) = skipString rest := by
  rw [skipString, if_neg (by rw [hctl]; exact Bool.false_ne_true)]
  · exact hquote
  -- What is left are the cases of an escape.
  all_goals simp [hback]

theorem skipString_short {e : Char} (h : (shortEscape? e).isSome) (rest : List Char) :
    skipString ('\\' :: e :: rest) = skipString rest := by
  have hu : e ≠ 'u' := by
    rintro rfl
    cases h
  obtain ⟨c, hc⟩ := Option.isSome_iff_exists.1 h
  rw [skipString]
  · rw [hc]
  · intro _ _ _ _ _ he
    exact absurd he hu
  · exact hu

theorem skipString_unit {w x y z : Char} (h : (hexUnit? w x y z).isSome) (rest : List Char) :
    skipString ('\\' :: 'u' :: w :: x :: y :: z :: rest) = skipString rest := by
  obtain ⟨n, hn⟩ := Option.isSome_iff_exists.1 h
  rw [skipString]
  simp only [hn]

theorem skipString_append {cs : List Char} (h : StringText cs) (rest : List Char) :
    skipString (cs ++ '"' :: rest) = .ok rest := by
  induction h with
  | nil => rw [List.nil_append, skipString]
  | cons head _ ih =>
    cases head with
    | plain not_quote not_backslash not_control =>
      exact (skipString_plain not_quote not_backslash not_control _).trans ih
    | short escape => exact (skipString_short escape _).trans ih
    | unit hex => exact (skipString_unit hex _).trans ih

/-! ## Values -/

/-- With as many steps as it is long, the text is passed over as one value, whatever blanks come
before it and wherever it stands. -/
def Skipped (cs : List Char) : Prop :=
  ∀ ⦃bs rest : List Char⦄ ⦃fuel : Nat⦄, Blanks bs → Delimited rest → cs.length < fuel →
    skipValueFrom fuel (bs ++ (cs ++ rest)) = .ok rest

section Steps

variable {parts : List (List Char)} {bs ds s t u w : List Char} {fuel : Nat}

theorem literal_append (word rest : List Char) : literal word (word ++ rest) = .ok rest := by
  induction word with
  | nil => rfl
  | cons c word ih => rw [List.cons_append, literal, if_pos rfl, ih]

theorem skipValueFrom_digit {c : Char} (hs : skipBlanks s = c :: t) (hc : Text.isDigit c = true) :
    skipValueFrom (fuel + 1) s = skipNumber (c :: t) := by
  rw [skipValueFrom, hs]
  split
  case h_1 heq => cases heq
  case h_9 heq =>
    cases heq
    rw [if_pos hc]
  -- No digit opens a value of another kind.
  all_goals
    next heq =>
    cases heq
    exact absurd hc (by decide)

theorem skipValueFrom_list (hs : skipBlanks s = '[' :: t) (ht : skipBlanks t = u)
    (hu : ∀ v, u ≠ ']' :: v) (hne : u ≠ []) (hv : skipValueFrom fuel u = .ok w) :
    skipValueFrom (fuel + 1) s = skipItemsFrom fuel w := by
  rw [skipValueFrom, hs]
  simp only [ht]
  rw [hv]
  rfl

theorem skipItemsFrom_item (hs : skipBlanks s = ',' :: t) (hv : skipValueFrom fuel t = .ok w) :
    skipItemsFrom (fuel + 1) s = skipItemsFrom fuel w := by
  rw [skipItemsFrom, hs]
  simp only [hv, bind, Except.bind]

/-- The items after the first one are passed over one by one. -/
theorem skipItemsFrom_separated (h : Separated parts ds) (hparts : ∀ part ∈ parts, Skipped part)
    (hfuel : ds.length < fuel) (rest : List Char) :
    skipItemsFrom fuel (ds ++ ']' :: rest) = .ok rest := by
  induction h generalizing fuel with
  | nil blanks =>
    obtain ⟨n, rfl⟩ := Nat.exists_eq_succ_of_ne_zero (Nat.ne_zero_of_lt hfuel)
    rw [Nat.succ_eq_add_one, skipItemsFrom, skipBlanks_append_cons blanks (by decide)]
    rfl
  | @cons part parts as bs ds blanks blanks' tail ih =>
    obtain ⟨n, rfl⟩ := Nat.exists_eq_succ_of_ne_zero (Nat.ne_zero_of_lt hfuel)
    simp only [List.length_append, List.length_cons] at hfuel
    have hpart : Skipped part := hparts part List.mem_cons_self
    have hrest : Delimited (ds ++ ']' :: rest) := tail.delimited (by decide) rest
    have hvalue := hpart blanks' hrest (show part.length < n by omega)
    have hitems := ih (fun p hp => hparts p (List.mem_cons_of_mem _ hp))
      (show ds.length < n by omega)
    simp only [List.append_assoc, List.cons_append]
    rw [Nat.succ_eq_add_one,
      skipItemsFrom_item (skipBlanks_append_cons blanks (by decide) _) hvalue, hitems]

end Steps

/-- The text is passed over as one member of an object, like `Skipped`. -/
def MemberSkipped (part : List Char) : Prop :=
  ∀ ⦃bs rest : List Char⦄ ⦃fuel : Nat⦄, Blanks bs → Delimited rest → part.length < fuel →
    (skipKey (bs ++ (part ++ rest)) >>= skipValueFrom fuel) = .ok rest

section Members

variable {parts : List (List Char)} {key value part bs ds s t u w : List Char} {fuel : Nat}

theorem skipKey_append {as : List Char} (hb : Blanks bs) (hkey : StringText key) (ha : Blanks as)
    (rest : List Char) : skipKey (bs ++ '"' :: (key ++ '"' :: (as ++ ':' :: rest))) = .ok rest := by
  have hcolon := skipBlanks_append_cons ha (c := ':') (by decide) rest
  unfold skipKey
  rw [skipBlanks_append_cons hb (by decide)]
  simp only [skipString_append hkey, bind, Except.bind, hcolon]

theorem memberSkipped (h : MemberLayout key value part) (hkey : StringText key)
    (hvalue : Skipped value) : MemberSkipped part := by
  intro bs rest fuel hb hrest hfuel
  have hlength := h.length_lt
  cases h with
  | mk blanks blanks' =>
    have hskip := hvalue blanks' hrest (Nat.lt_trans hlength hfuel)
    simp only [List.cons_append, List.append_assoc]
    rw [skipKey_append hb hkey blanks]
    exact hskip

theorem skipValueFrom_object (hs : skipBlanks s = '{' :: t) (ht : skipBlanks t = u)
    (hu : ∀ v, u ≠ '}' :: v) (hne : u ≠ []) (hv : (skipKey u >>= skipValueFrom fuel) = .ok w) :
    skipValueFrom (fuel + 1) s = skipMembersFrom fuel w := by
  rw [skipValueFrom, hs]
  simp only [ht]
  rw [← bind_assoc, hv]
  rfl

theorem skipMembersFrom_member (hs : skipBlanks s = ',' :: t)
    (hv : (skipKey t >>= skipValueFrom fuel) = .ok w) :
    skipMembersFrom (fuel + 1) s = skipMembersFrom fuel w := by
  rw [skipMembersFrom, hs]
  simp only
  rw [← bind_assoc, hv]
  rfl

/-- The members after the first one are passed over one by one. -/
theorem skipMembersFrom_separated (h : Separated parts ds)
    (hparts : ∀ part ∈ parts, MemberSkipped part) (hfuel : ds.length < fuel) (rest : List Char) :
    skipMembersFrom fuel (ds ++ '}' :: rest) = .ok rest := by
  induction h generalizing fuel with
  | nil blanks =>
    obtain ⟨n, rfl⟩ := Nat.exists_eq_succ_of_ne_zero (Nat.ne_zero_of_lt hfuel)
    rw [Nat.succ_eq_add_one, skipMembersFrom, skipBlanks_append_cons blanks (by decide)]
    rfl
  | @cons part parts as bs ds blanks blanks' tail ih =>
    obtain ⟨n, rfl⟩ := Nat.exists_eq_succ_of_ne_zero (Nat.ne_zero_of_lt hfuel)
    simp only [List.length_append, List.length_cons] at hfuel
    have hpart : MemberSkipped part := hparts part List.mem_cons_self
    have hrest : Delimited (ds ++ '}' :: rest) := tail.delimited (by decide) rest
    have hmember := hpart blanks' hrest (show part.length < n by omega)
    have hmembers := ih (fun p hp => hparts p (List.mem_cons_of_mem _ hp))
      (show ds.length < n by omega)
    simp only [List.append_assoc, List.cons_append]
    rw [Nat.succ_eq_add_one,
      skipMembersFrom_member (skipBlanks_append_cons blanks (by decide) _) hmember, hmembers]

end Members

/-! ## Values at any depth -/

section Whole

variable {parts : List (List Char)} {cs : List Char}

/-- A text is passed over if it is from its first character on. -/
theorem skipped_of_step (hcs : Starts cs)
    (hstep : ∀ {s rest : List Char} {fuel : Nat}, skipBlanks s = cs ++ rest → Delimited rest →
      cs.length ≤ fuel → skipValueFrom (fuel + 1) s = .ok rest) : Skipped cs := by
  intro bs rest fuel hb hrest hfuel
  obtain ⟨n, rfl⟩ := Nat.exists_eq_succ_of_ne_zero (Nat.ne_zero_of_lt hfuel)
  exact hstep (hcs.skipBlanks_append hb rest) hrest (Nat.le_of_lt_succ hfuel)

theorem skipped_of_digits (h : NumberText cs) : Skipped cs := by
  obtain ⟨c, ds, rfl, hc⟩ := h.exists_digit
  refine skipped_of_step (starts_of_isDigit hc ds) ?_
  intro s rest fuel hs hrest hfuel
  have hnumber := skipNumber_append h hrest
  rw [List.cons_append] at hs hnumber
  rw [skipValueFrom_digit hs hc, hnumber]

theorem skipped_of_list (layout : Enclosed '[' ']' parts cs) (hstarts : ∀ part ∈ parts, Starts part)
    (hparts : ∀ part ∈ parts, Skipped part) : Skipped cs := by
  cases layout with
  | nil blanks =>
    refine skipped_of_step (starts_of_isOpening (by decide) _) ?_
    intro s rest fuel hs hrest hfuel
    have hclose := skipBlanks_append_cons blanks (c := ']') (by decide) rest
    simp only [List.cons_append, List.append_assoc, List.nil_append] at hs
    rw [skipValueFrom, hs]
    simp only [hclose]
  | @cons part parts bs ds blanks tail =>
    refine skipped_of_step (starts_of_isOpening (by decide) _) ?_
    intro s rest fuel hs hrest hfuel
    simp only [List.length_append, List.length_cons] at hfuel
    obtain ⟨hstart, -⟩ := List.forall_mem_cons.1 hstarts
    obtain ⟨hpart, hparts⟩ := List.forall_mem_cons.1 hparts
    have hdelimited : Delimited (ds ++ ']' :: rest) := tail.delimited (by decide) rest
    have hfirst := hpart blanks_nil hdelimited (show part.length < fuel by omega)
    have hitems := skipItemsFrom_separated tail hparts (show ds.length < fuel by omega) rest
    simp only [List.cons_append, List.append_assoc, List.nil_append] at hs
    rw [skipValueFrom_list hs (hstart.skipBlanks_append blanks _) (hstart.append_ne_bracket _)
      (hstart.append_ne_nil _) hfirst, hitems]

theorem skipped_of_object (layout : Enclosed '{' '}' parts cs)
    (hstarts : ∀ part ∈ parts, Starts part) (hparts : ∀ part ∈ parts, MemberSkipped part) :
    Skipped cs := by
  cases layout with
  | nil blanks =>
    refine skipped_of_step (starts_of_isOpening (by decide) _) ?_
    intro s rest fuel hs hrest hfuel
    have hclose := skipBlanks_append_cons blanks (c := '}') (by decide) rest
    simp only [List.cons_append, List.append_assoc, List.nil_append] at hs
    rw [skipValueFrom, hs]
    simp only [hclose]
  | @cons part parts bs ds blanks tail =>
    refine skipped_of_step (starts_of_isOpening (by decide) _) ?_
    intro s rest fuel hs hrest hfuel
    simp only [List.length_append, List.length_cons] at hfuel
    obtain ⟨hstart, -⟩ := List.forall_mem_cons.1 hstarts
    obtain ⟨hpart, hparts⟩ := List.forall_mem_cons.1 hparts
    have hdelimited : Delimited (ds ++ '}' :: rest) := tail.delimited (by decide) rest
    have hfirst := hpart blanks_nil hdelimited (show part.length < fuel by omega)
    have hmembers := skipMembersFrom_separated tail hparts (show ds.length < fuel by omega) rest
    simp only [List.cons_append, List.append_assoc, List.nil_append] at hs
    rw [skipValueFrom_object hs (hstart.skipBlanks_append blanks _) (hstart.append_ne_brace _)
      (hstart.append_ne_nil _) hfirst, hmembers]

/-- Every well-formed value is passed over.  The induction is on how the value is put together: its
parts are passed over with the steps that are left. -/
theorem ValueText.skipped (h : ValueText cs) : Skipped cs := by
  have hstarts := h.starts
  induction h with
  | null =>
    refine skipped_of_step hstarts ?_
    intro s rest fuel hs hrest hfuel
    simp only [List.cons_append, List.nil_append] at hs
    rw [skipValueFrom, hs]
    exact literal_append ['u', 'l', 'l'] rest
  | boolean b =>
    refine skipped_of_step hstarts ?_
    intro s rest fuel hs hrest hfuel
    rw [skipValueFrom, hs]
    cases b with
    | true => exact literal_append ['r', 'u', 'e'] rest
    | false => exact literal_append ['a', 'l', 's', 'e'] rest
  | number unsigned => exact skipped_of_digits unsigned
  | negative unsigned =>
    refine skipped_of_step hstarts ?_
    intro s rest fuel hs hrest hfuel
    rw [skipValueFrom, hs]
    exact skipNumber_append unsigned hrest
  | string body =>
    refine skipped_of_step hstarts ?_
    intro s rest fuel hs hrest hfuel
    simp only [List.cons_append, List.append_assoc, List.nil_append] at hs
    rw [skipValueFrom, hs]
    exact skipString_append body rest
  | list values layout ih =>
    have hitems : ∀ item ∈ _, Starts item := fun item hitem => (values item hitem).starts
    exact skipped_of_list layout hitems fun item hitem => ih item hitem (hitems item hitem)
  | @object members parts cs keys values parted layout ih =>
    have hparts : ∀ part ∈ parts, Starts part ∧ MemberSkipped part := by
      intro part hpart
      obtain ⟨m, hm, hlayout⟩ := exists_beside parted part hpart
      exact ⟨hlayout.starts, memberSkipped hlayout (keys m hm) (ih m hm (values m hm).starts)⟩
    exact skipped_of_object layout (fun part h => (hparts part h).1) fun part h => (hparts part h).2

theorem skipValue_append {bs rest : List Char} (h : ValueText cs) (hb : Blanks bs)
    (hrest : Delimited rest) : skipValue (bs ++ (cs ++ rest)) = .ok ((), rest) := by
  have hlength : cs.length < (bs ++ (cs ++ rest)).length + 1 := by
    simp only [List.length_append]
    omega
  unfold skipValue
  rw [h.skipped hb hrest hlength]
  rfl

end Whole

end Observation.Json
