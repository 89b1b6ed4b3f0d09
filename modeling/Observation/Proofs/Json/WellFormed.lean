import Observation.Proofs.Json.Layout
import Observation.Proofs.Json.Numbers

/-!
# Well-formed JSON

The syntax of JSON as such, whatever is to be read: numbers have any size, surrogates may stand
alone, objects may repeat a name, and values nest to any depth.

* `StringText`, `ValueText` - the texts between quotes, and those of values.
* `MemberPart` - the texts of members, whatever their names and values are.
* `Holds`, `IsDocument` - texts that hold one value between blanks.
* `Written.valueText` - what is written of a value is well formed.
-/

namespace Observation.Json

/-! ## Strings -/

/-- One character or one escape between quotes; half of a surrogate pair is an escape too. -/
inductive CharText : List Char → Prop
  | plain {c : Char} (not_quote : c ≠ '"') (not_backslash : c ≠ '\\')
      (not_control : isControl c = false) : CharText [c]
  | short {e : Char} (escape : (shortEscape? e).isSome) : CharText ['\\', e]
  | unit {w x y z : Char} (hex : (hexUnit? w x y z).isSome) : CharText ['\\', 'u', w, x, y, z]

/-- What may stand between quotes. -/
inductive StringText : List Char → Prop
  | nil : StringText []
  | cons {cs ds : List Char} (head : CharText cs) (tail : StringText ds) : StringText (cs ++ ds)

theorem CharSpelling.append_stringText {c : Char} {cs ds : List Char} (h : CharSpelling c cs)
    (hds : StringText ds) : StringText (cs ++ ds) := by
  cases h with
  | plain not_quote not_backslash not_control =>
    exact .cons (.plain not_quote not_backslash not_control) hds
  | short escape => exact .cons (.short (by rw [escape]; rfl)) hds
  | unit hex not_low not_high => exact .cons (.unit (by rw [hex]; rfl)) hds
  | pair hex hex' high low =>
    -- The two halves are escapes of their own.
    have hlow := StringText.cons (.unit (by rw [hex']; rfl)) hds
    have hboth := StringText.cons (.unit (by rw [hex]; rfl)) hlow
    exact hboth

theorem StringSpelling.stringText {s cs : List Char} (h : StringSpelling s cs) :
    StringText cs := by
  induction h with
  | nil => exact .nil
  | cons head _ ih => exact head.append_stringText ih

/-! ## Values -/

/-- The text of some value. -/
inductive ValueText : List Char → Prop
  | null : ValueText ['n', 'u', 'l', 'l']
  | boolean (b : Bool) : ValueText (boolChars b)
  | number {cs : List Char} (unsigned : NumberText cs) : ValueText cs
  | negative {cs : List Char} (unsigned : NumberText cs) : ValueText ('-' :: cs)
  | string {cs : List Char} (body : StringText cs) : ValueText ('"' :: (cs ++ ['"']))
  | list {items : List (List Char)} {cs : List Char} (values : ∀ item ∈ items, ValueText item)
      (layout : Enclosed '[' ']' items cs) : ValueText cs
  | object {members : List (List Char × List Char)} {parts : List (List Char)} {cs : List Char}
      (keys : ∀ m ∈ members, StringText m.1) (values : ∀ m ∈ members, ValueText m.2)
      (parted : List.Forall₂ (fun m part => MemberLayout m.1 m.2 part) members parts)
      (layout : Enclosed '{' '}' parts cs) : ValueText cs

/-- A text that holds one value, of which `P` tells the text, and nothing else but blanks. -/
def Holds (P : List Char → Prop) (s : String) : Prop :=
  ∃ as cs bs, Blanks as ∧ Blanks bs ∧ P cs ∧ s.toList = as ++ (cs ++ bs)

/-- A text that holds one value, whatever it is. -/
def IsDocument (s : String) : Prop :=
  Holds ValueText s

theorem NumberText.exists_digit {cs : List Char} (h : NumberText cs) :
    ∃ c ds, cs = c :: ds ∧ Text.isDigit c = true := by
  cases h with
  | @mk ds fs es whole fraction exponent =>
    obtain ⟨hne, hall⟩ := whole.digitsText
    cases ds with
    | nil => exact absurd rfl hne
    | cons c ds => exact ⟨c, _, rfl, hall c List.mem_cons_self⟩

theorem Enclosed.exists_cons {opening closing : Char} {parts : List (List Char)} {cs : List Char}
    (h : Enclosed opening closing parts cs) : ∃ ds, cs = opening :: ds := by
  cases h with
  | nil blanks => exact ⟨_, rfl⟩
  | cons blanks tail => exact ⟨_, rfl⟩

theorem starts_of_isDigit {c : Char} (hc : Text.isDigit c = true) (cs : List Char) :
    Starts (c :: cs) := by
  refine starts_of_isOpening ?_ cs
  unfold isOpening
  rw [hc, Bool.true_or]

theorem ValueText.starts {cs : List Char} (h : ValueText cs) : Starts cs := by
  cases h with
  | null => exact starts_cons (by decide) (by decide) (by decide) _
  | boolean b =>
    cases b with
    | true => exact starts_of_isOpening (by decide) _
    | false => exact starts_of_isOpening (by decide) _
  | number unsigned =>
    obtain ⟨c, ds, rfl, hc⟩ := unsigned.exists_digit
    exact starts_of_isDigit hc ds
  | negative unsigned => exact starts_of_isOpening (by decide) _
  | string body => exact starts_of_isOpening (by decide) _
  | list values layout =>
    obtain ⟨ds, rfl⟩ := layout.exists_cons
    exact starts_of_isOpening (by decide) _
  | object keys values parted layout =>
    obtain ⟨ds, rfl⟩ := layout.exists_cons
    exact starts_of_isOpening (by decide) _

/-- The text of a member, whatever its name and its value are. -/
def MemberPart (part : List Char) : Prop :=
  ∃ key value, StringText key ∧ ValueText value ∧ MemberLayout key value part

theorem valueText_of_memberParts {parts : List (List Char)} {cs : List Char}
    (hparts : ∀ part ∈ parts, MemberPart part) (layout : Enclosed '{' '}' parts cs) :
    ValueText cs := by
  have hmembers : ∃ members : List (List Char × List Char), (∀ m ∈ members, StringText m.1) ∧
      (∀ m ∈ members, ValueText m.2) ∧
      List.Forall₂ (fun m part => MemberLayout m.1 m.2 part) members parts := by
    clear layout
    induction parts with
    | nil => exact ⟨[], List.forall_mem_nil _, List.forall_mem_nil _, .nil⟩
    | cons part parts ih =>
      obtain ⟨⟨key, value, hkey, hvalue, hpart⟩, hparts⟩ := List.forall_mem_cons.1 hparts
      obtain ⟨members, hkeys, hvalues, hmembers⟩ := ih hparts
      exact ⟨(key, value) :: members, List.forall_mem_cons.2 ⟨hkey, hkeys⟩,
        List.forall_mem_cons.2 ⟨hvalue, hvalues⟩, .cons hpart hmembers⟩
  obtain ⟨members, hkeys, hvalues, hparted⟩ := hmembers
  exact .object hkeys hvalues hparted layout

/-- An object with names that can be read is one with names. -/
theorem ObjectText.valueText {members : List (String × List Char)} {cs : List Char}
    (h : ObjectText members cs) (hvalues : ∀ m ∈ members, ValueText m.2) : ValueText cs := by
  obtain ⟨parts, hparts, layout⟩ := h
  refine valueText_of_memberParts (fun part hpart => ?_) layout
  obtain ⟨m, hm, key, spelling, member⟩ := exists_beside hparts part hpart
  exact ⟨key, m.2, spelling.stringText, hvalues m hm, member⟩

/-! ## What is written -/

theorem valueText_intChars (n : Int) : ValueText (intChars n) := by
  have hdigits : NumberText (Nat.toDigits 10 n.natAbs) := by
    have hparts := NumberText.mk (wholeText_toDigits n.natAbs) .absent .absent
    rwa [List.append_nil, List.append_nil] at hparts
  unfold intChars
  split
  · exact .negative hdigits
  · exact .number hdigits

mutual

/-- The texts of a value are well formed. -/
theorem Written.valueText {v : Value} {cs : List Char} (h : Written v cs) : ValueText cs := by
  cases v with
  | number n =>
    cases h with
    | number => exact valueText_intChars n
  | boolean b =>
    cases h with
    | boolean => exact .boolean b
  | text s =>
    cases h with
    | text spelling => exact .string spelling.stringText
  | list vs =>
    obtain ⟨items, hitems, layout⟩ := h.exists_items
    exact .list (items_valueText hitems) layout
  | object ms =>
    obtain ⟨texts, hmembers, hobject⟩ := h.exists_members
    exact hobject.valueText (members_valueText hmembers)

theorem items_valueText {vs : List Value} {items : List (List Char)}
    (h : List.Forall₂ Written vs items) : ∀ item ∈ items, ValueText item := by
  cases vs with
  | nil =>
    cases h with
    | nil => simp
  | cons v vs =>
    cases h with
    | cons head tail =>
      exact List.forall_mem_cons.2 ⟨Written.valueText head, items_valueText tail⟩

theorem members_valueText {ms : List (String × Value)} {texts : List (String × List Char)}
    (h : List.Forall₂ MemberOf ms texts) : ∀ text ∈ texts, ValueText text.2 := by
  cases ms with
  | nil =>
    cases h with
    | nil => simp
  | cons m ms =>
    obtain ⟨k, v⟩ := m
    cases h with
    | cons head tail =>
      exact List.forall_mem_cons.2 ⟨Written.valueText head.2, members_valueText tail⟩

end

end Observation.Json
