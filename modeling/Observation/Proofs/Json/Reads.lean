import Observation.Json.Reader
import Observation.Proofs.Except
import Observation.Proofs.Json.Skip

/-!
# What readers make of a value

A reader that suits a value gets the same from each of its texts, whatever blanks come before it and
whatever comes after it.

* `ReadsText`, `Reads` - what a reader gets from a text, and from all texts of a value.
* `reads_text`, `reads_flag`, `reads_word`, `reads_optional`, `reads_listOf` - simple values and
  lists.
* `reads_mapped`, `reads_tagged_bare`, `reads_tagged_object` - checked values and named variants.
* `document_of_holds`, `document_of_written` - texts that hold one value.
-/

namespace Observation.Json

/-- From the text `cs`, after blanks, the reader `r` gets `a` and stops at its end. -/
def ReadsText {α : Type} (r : Reader α) (cs : List Char) (a : α) : Prop :=
  ∀ bs rest, Blanks bs → Delimited rest → r (bs ++ (cs ++ rest)) = .ok (a, rest)

/-- From a text of `v`, after blanks, the reader `r` gets `a` and stops at its end. -/
def Reads {α : Type} (r : Reader α) (v : Value) (a : α) : Prop :=
  ∀ bs cs rest, Blanks bs → Written v cs → Delimited rest → r (bs ++ (cs ++ rest)) = .ok (a, rest)

theorem Reads.readsText {α : Type} {r : Reader α} {v : Value} {a : α} {cs : List Char}
    (h : Reads r v a) (hw : Written v cs) : ReadsText r cs a :=
  fun bs rest hb hrest => h bs cs rest hb hw hrest

/-! ## Simple values -/

theorem reads_text (s : String) : Reads text (.text s) s := by
  intro bs cs rest hb hw hrest
  have hskip := hw.skipBlanks_append hb rest
  cases hw with
  | text spelling =>
    rw [List.cons_append, List.append_assoc, List.singleton_append] at hskip ⊢
    unfold text
    rw [hskip]
    simp only [stringBody_append spelling, Except.map, String.ofList_toList]

theorem reads_flag (b : Bool) : Reads flag (.boolean b) b := by
  intro bs cs rest hb hw hrest
  have hskip := hw.skipBlanks_append hb rest
  cases hw with
  | boolean =>
    unfold flag
    rw [hskip]
    cases b with
    | true => exact congrArg (Except.map _) (literal_append ['r', 'u', 'e'] rest)
    | false => exact congrArg (Except.map _) (literal_append ['a', 'l', 's', 'e'] rest)

theorem reads_word (n : UInt32) : Reads word (.number n.toNat) n := by
  intro bs cs rest hb hw hrest
  have hskip := hw.skipBlanks_append hb rest
  cases hw with
  | number =>
    have hlt : n.toNat < UInt32.size := n.toNat_lt
    have hmax : n.toNat ≤ maxWord := Nat.le_trans (Nat.le_of_lt hlt) (by decide)
    have hint : intChars n.toNat = Nat.toDigits 10 n.toNat := by simp [intChars]
    obtain ⟨c, ds, hc, hdigit⟩ := Text.exists_toDigits_cons n.toNat
    have hnumber := number_toDigits hmax hrest
    rw [hint] at hskip ⊢
    rw [hc, List.cons_append] at hskip hnumber ⊢
    unfold word
    rw [hskip]
    simp only [hdigit, or_true, if_true, hnumber, Except.bind_eq_ok_iff, Except.pure_eq_ok_iff]
    exact ⟨_, rfl, n, by rw [wordOf, if_pos hlt, UInt32.ofNat_toNat], rfl⟩

variable {α β σ : Type}

theorem reads_optional {r : Reader α} {v : Value} {a : α} (h : Reads r v a) :
    Reads (optional r) v (some a) := by
  intro bs cs rest hb hw hrest
  have hitem := h [] cs rest blanks_nil hw hrest
  obtain ⟨c, ds, rfl, hc⟩ := hw.exists_opening
  have hn : c ≠ 'n' := ne_of_isOpening hc (by decide)
  unfold optional
  rw [hw.skipBlanks_append hb, List.cons_append]
  split
  · next heq =>
    rw [List.cons.injEq] at heq
    exact absurd heq.1 hn
  · rw [List.nil_append, List.cons_append] at hitem
    rw [hitem]
    rfl

/-- Where a value may be absent, `null` says that it is. -/
theorem readsText_null (item : Reader α) :
    ReadsText (optional item) ['n', 'u', 'l', 'l'] none := by
  intro bs rest hb hrest
  have hskip := skipBlanks_append_cons hb (c := 'n') (by decide) (['u', 'l', 'l'] ++ rest)
  simp only [List.cons_append, List.nil_append] at hskip ⊢
  unfold optional
  rw [hskip]
  exact congrArg (Except.map _) (literal_append ['u', 'l', 'l'] rest)

/-! ## Lists -/

section Lists

variable {item : Reader α} {items : List (List Char)} {as : List α}

theorem nextItem_close {bs : List Char} (hb : Blanks bs) (isFirst : Bool) (rest : List Char) :
    nextItem isFirst (bs ++ ']' :: rest) = .ok (.close rest) := by
  unfold nextItem
  rw [skipBlanks_append_cons hb (by decide)]
  rfl

theorem nextItem_first {bs cs : List Char} (hb : Blanks bs) (hcs : Starts cs) (rest : List Char) :
    nextItem true (bs ++ (cs ++ rest)) = .ok (.item (cs ++ rest)) := by
  have hclose := hcs.append_ne_bracket rest
  have hskip := hcs.skipBlanks_append hb rest
  obtain ⟨c, ds, rfl, -⟩ := hcs
  unfold nextItem
  rw [hskip]
  split
  · next heq => cases heq
  · next heq => exact absurd heq (hclose _)
  · next heq => rw [if_pos rfl, heq]

theorem nextItem_comma {as bs cs : List Char} (ha : Blanks as) (hb : Blanks bs) (hcs : Starts cs)
    (rest : List Char) :
    nextItem false (as ++ ',' :: (bs ++ (cs ++ rest))) = .ok (.item (cs ++ rest)) := by
  have hne := hcs.append_ne_nil rest
  have hclose := hcs.append_ne_bracket rest
  have hskip := hcs.skipBlanks_append hb rest
  unfold nextItem
  rw [skipBlanks_append_cons ha (by decide)]
  split
  · next heq => cases heq
  · next heq => cases heq
  · next heq =>
    cases heq
    rw [if_neg Bool.false_ne_true, if_pos rfl, hskip]
    split
    · next heq => exact absurd heq hne
    · next heq => exact absurd heq (hclose _)
    · rfl

theorem itemsFrom_close {isFirst : Bool} {s t : List Char} {n : Nat}
    (h : nextItem isFirst s = .ok (.close t)) : itemsFrom item (n + 1) isFirst s = .ok ([], t) := by
  unfold itemsFrom
  simp only [h]
  rfl

theorem itemsFrom_item {isFirst : Bool} {s t u w : List Char} {n : Nat} {a : α}
    (h : nextItem isFirst s = .ok (.item t)) (ha : item t = .ok (a, u))
    (has : itemsFrom item n false u = .ok (as, w)) :
    itemsFrom item (n + 1) isFirst s = .ok (a :: as, w) := by
  rw [itemsFrom]
  simp only [h, Except.bind_eq_ok_iff, Except.pure_eq_ok_iff, Except.ok.injEq, exists_eq_left']
  exact ⟨_, ha, _, has, rfl⟩

/-- The items after the first one are read one by one. -/
theorem itemsFrom_separated {ds : List Char} {fuel : Nat}
    (h : List.Forall₂ (ReadsText item) items as) (hstarts : ∀ cs ∈ items, Starts cs)
    (hds : Separated items ds) (hfuel : items.length < fuel) (rest : List Char) :
    itemsFrom item fuel false (ds ++ ']' :: rest) = .ok (as, rest) := by
  induction h generalizing ds fuel with
  | nil =>
    obtain ⟨n, rfl⟩ := Nat.exists_eq_succ_of_ne_zero (Nat.ne_of_gt hfuel)
    cases hds with
    | nil blanks => exact itemsFrom_close (nextItem_close blanks false rest)
  | @cons cs _ _ _ head _ ih =>
    obtain ⟨n, rfl⟩ := Nat.exists_eq_succ_of_ne_zero (Nat.ne_zero_of_lt hfuel)
    obtain ⟨hstart, hstarts⟩ := List.forall_mem_cons.1 hstarts
    cases hds with
    | @cons _ _ _ _ ds blanks blanks' tail =>
      have hdelimited : Delimited (ds ++ ']' :: rest) := tail.delimited (by decide) rest
      have hnext := nextItem_comma blanks blanks' hstart (ds ++ ']' :: rest)
      have hitem := head [] _ blanks_nil hdelimited
      have hitems := ih hstarts tail (Nat.lt_of_succ_lt_succ hfuel)
      simp only [List.append_assoc, List.cons_append]
      exact itemsFrom_item hnext hitem hitems

theorem readsText_listOf {cs : List Char} (h : List.Forall₂ (ReadsText item) items as)
    (hstarts : ∀ cs ∈ items, Starts cs) (layout : Enclosed '[' ']' items cs) :
    ReadsText (listOf item) cs as := by
  intro bs rest hb hrest
  unfold listOf
  cases layout with
  | nil blanks =>
    cases h with
    | nil =>
      rw [List.cons_append, skipBlanks_append_cons hb (by decide)]
      simp only [List.append_assoc, List.cons_append, List.nil_append]
      exact itemsFrom_close (nextItem_close blanks true rest)
  | @cons _ _ _ ds blanks tail =>
    cases h with
    | cons hhead htail =>
      obtain ⟨hstart, hstarts⟩ := List.forall_mem_cons.1 hstarts
      have hdelimited : Delimited (ds ++ ']' :: rest) := tail.delimited (by decide) rest
      have hnext := nextItem_first blanks hstart (ds ++ ']' :: rest)
      have hitem := hhead [] _ blanks_nil hdelimited
      have hle := tail.length_le
      rw [List.cons_append, skipBlanks_append_cons hb (by decide)]
      simp only [List.cons_append, List.append_assoc, List.nil_append]
      refine itemsFrom_item hnext hitem (itemsFrom_separated htail hstarts tail ?_ rest)
      simp only [List.length_append, List.length_cons]
      omega

theorem reads_listOf {vs : List Value} (h : List.Forall₂ (Reads item) vs as) :
    Reads (listOf item) (.list vs) as := by
  intro bs cs rest hb hw hrest
  obtain ⟨items, hitems, layout⟩ := hw.exists_items
  have hreads : List.Forall₂ (ReadsText item) items as :=
    forall₂_beside (fun hw hr => hr.readsText hw) hitems h
  have hstarts : ∀ cs ∈ items, Starts cs := by
    intro cs hcs
    obtain ⟨v, -, hv⟩ := exists_beside hitems cs hcs
    exact hv.starts
  exact readsText_listOf hreads hstarts layout bs rest hb hrest

theorem reads_texts (ts : List String) : Reads (listOf text) (.texts ts) ts := by
  apply reads_listOf
  rw [List.forall₂_map_left_iff, List.forall₂_same]
  exact fun t _ => reads_text t

end Lists

/-! ## Checks and variants -/

theorem bind_apply {r : Reader α} {k : α → Reader β} {s t : List Char} {a : α}
    (h : r s = .ok (a, t)) : (r >>= k) s = k a t := by
  simp [bind, StateT.bind, h, Except.bind]

/-- A reader that puts what it gets somewhere else reads the same text. -/
theorem readsText_set {r : Reader α} {cs : List Char} {a : α} (h : ReadsText r cs a)
    (set : α → σ) : ReadsText (do return set (← r)) cs (set a) := by
  intro bs rest hb hrest
  rw [bind_apply (h bs rest hb hrest)]
  rfl

theorem reads_set {r : Reader α} {v : Value} {a : α} (h : Reads r v a) (set : α → σ) :
    Reads (do return set (← r)) v (set a) :=
  fun bs _ rest hb hw hrest => readsText_set (h.readsText hw) set bs rest hb hrest

theorem colon_append {bs : List Char} (hb : Blanks bs) (rest : List Char) :
    colon (bs ++ ':' :: rest) = .ok ((), rest) := by
  unfold colon
  rw [skipBlanks_append_cons hb (by decide)]
  rfl

/-- A reader whose result is put into another form reads the same texts. -/
theorem reads_map {r : Reader α} {v : Value} {a : α} (h : Reads r v a) (f : α → β) :
    Reads (f <$> r) v (f a) :=
  reads_set h f

/-- A value that passes its check is read. -/
theorem reads_mapped {r : Reader α} {v : Value} {a : α} {b : β} {check : α → Except String β}
    (h : Reads r v a) (hcheck : check a = .ok b) : Reads (mapped r check) v b := by
  intro bs cs rest hb hw hrest
  unfold mapped
  rw [bind_apply (h bs cs rest hb hw hrest), hcheck]
  rfl

section Tagged

variable {bare : String → Except ReadError α} {payload : String → Except ReadError (Reader α)}

/-- A bare name is read as its variant. -/
theorem reads_tagged_bare {name : String} {a : α} (h : bare name = .ok a) :
    Reads (tagged bare payload) (.text name) a := by
  intro bs cs rest hb hw hrest
  have hskip := hw.skipBlanks_append hb rest
  have hname : bare (String.ofList name.toList) = .ok a := by rwa [String.ofList_toList]
  cases hw with
  | text spelling =>
    rw [List.cons_append, List.append_assoc, List.singleton_append] at hskip ⊢
    unfold tagged
    rw [hskip]
    simp only [stringBody_append spelling, Except.bind_eq_ok_iff, Except.pure_eq_ok_iff]
    exact ⟨_, rfl, a, hname, rfl⟩

/-- An object with one member is read as the variant of that name. -/
theorem reads_tagged_object {name : String} {r : Reader α} {v : Value} {a : α}
    (h : payload name = .ok r) (hr : Reads r v a) :
    Reads (tagged bare payload) (.object [(name, v)]) a := by
  intro bs cs rest hb hw hrest
  have hskip := hw.skipBlanks_append hb rest
  have hname : payload (String.ofList name.toList) = .ok r := by rwa [String.ofList_toList]
  cases hw with
  | @object_cons _ _ _ _ _ ds blanks head tail =>
    cases tail with
    | nil blanks' =>
      cases head with
      | @mk _ _ ks as bs' cs' key blanksKey blanksColon written =>
        have hclose : Delimited (ds ++ '}' :: rest) :=
          delimited_append blanks' (delimited_cons (by decide) _)
        have hopen := skipBlanks_append_cons blanks (c := '"') (by decide)
          (ks ++ '"' :: (as ++ ':' :: (bs' ++ (cs' ++ (ds ++ '}' :: rest)))))
        simp only [List.cons_append, List.append_assoc, List.nil_append] at hskip ⊢
        unfold tagged
        rw [hskip]
        simp only [hopen, stringBody_append key, Except.bind_eq_ok_iff]
        refine ⟨_, rfl, r, hname, _, colon_append blanksKey _, _,
          hr bs' cs' _ blanksColon written hclose, ?_⟩
        rw [skipBlanks_append_cons blanks' (by decide)]
        rfl

end Tagged

/-! ## Whole texts -/

/-- A text that holds one value is read as that value. -/
theorem document_of_holds {r : Reader α} {a : α} {P : List Char → Prop} {s : String}
    (h : Holds P s) (hP : ∀ cs, P cs → ReadsText r cs a) : document r s = .ok a := by
  obtain ⟨as, cs, bs, ha, hb, hcs, hs⟩ := h
  have hvalue := hP cs hcs as bs ha (List.append_nil bs ▸ delimited_append hb delimited_nil)
  have hend : skipBlanks bs = [] := List.append_nil bs ▸ skipBlanks_append hb []
  unfold document
  rw [hs, hvalue]
  simp only [Except.bind_eq_ok_iff]
  exact ⟨_, rfl, by rw [if_pos hend]; rfl⟩

theorem document_of_written {r : Reader α} {v : Value} {a : α} {s : String} (h : Reads r v a)
    (hs : Holds (Written v) s) : document r s = .ok a :=
  document_of_holds hs fun _ hw => h.readsText hw

theorem Value.holds_compact (v : Value) : Holds (Written v) v.compact := by
  refine ⟨[], v.compactChars, [], blanks_nil, blanks_nil, v.written_compact, ?_⟩
  unfold compact
  rw [String.toList_ofList, List.append_nil, List.nil_append]

end Observation.Json
