import Mathlib.Data.List.Sort
import Mathlib.Data.Nat.Bitwise
import Observation.EventType
import Observation.Proofs.Except

/-!
# Masks and the types in them

A mask stands for a set of types, and the types of a mask are listed in the order of their bits.
Only a bit of no known type keeps a mask from being listed, and the lowest one is reported.

* `TypeMask.Has`, `TypeMask.IsKnown` - the bits of a mask by their positions, and the positions of
  the bits of types; `TypeMask.ext_has` tells masks apart by them.
* `TypeMask.mem_setBits_iff`, `TypeMask.pairwise_setBits` - the bits of a mask, listed.
* `TypeMask.has_ofList`, `TypeMask.contains_ofList` - the mask of a list.
* `TypeMask.types_eq_ok_iff`, `TypeMask.types_eq_error_iff` - the list of a mask.
* `TypeMask.types_correspond` - the two are inverse to each other.
-/

namespace Observation

/-! ## Bits of types -/

namespace EventType

variable {t : EventType}

/-- The word of a type is a single bit. -/
theorem exists_toNat_bit (t : EventType) : ∃ k, t.bit.toNat = 2 ^ k := by
  cases t with
  | nodeAdded => exact ⟨0, rfl⟩
  | nodeRemoved => exact ⟨1, rfl⟩
  | propertyAdded => exact ⟨2, rfl⟩
  | propertyRemoved => exact ⟨3, rfl⟩
  | propertyChanged => exact ⟨4, rfl⟩

theorem ofBit?_eq_some_iff {bit : UInt32} : ofBit? bit = some t ↔ t.bit = bit := by
  constructor
  · intro h
    simpa using List.find?_some h
  · rintro rfl
    exact ofBit?_bit t

theorem ofBit?_eq_none_iff {bit : UInt32} : ofBit? bit = none ↔ ∀ t : EventType, t.bit ≠ bit := by
  rw [Option.eq_none_iff_forall_ne_some]
  exact forall_congr' fun t => not_congr ofBit?_eq_some_iff

theorem ofBit_eq_ok_iff {bit : UInt32} : ofBit bit = .ok t ↔ t.bit = bit := by
  rw [← ofBit?_eq_some_iff, ofBit]
  cases ofBit? bit <;> simp

theorem ofBit_eq_error_iff {bit error : UInt32} :
    ofBit bit = .error error ↔ bit = error ∧ ∀ t : EventType, t.bit ≠ bit := by
  rw [← ofBit?_eq_none_iff, ofBit]
  cases ofBit? bit <;> simp

theorem bit_injective : Function.Injective bit := by
  intro t u h
  have ht := ofBit?_bit t
  rw [h, ofBit?_bit, Option.some.injEq] at ht
  exact ht.symm

end EventType

namespace TypeMask

variable {m n : TypeMask} {t : EventType} {ts us : List EventType} {bit : UInt32} {k : Nat}

/-! ## Bits of masks -/

/-- The bit at a position is set; positions count from 0, the lowest one. -/
def Has (m : TypeMask) (k : Nat) : Prop :=
  m.bits.toNat.testBit k = true

/-- The position is that of the bit of a type. -/
def IsKnown (k : Nat) : Prop :=
  ∃ t : EventType, t.bit.toNat = 2 ^ k

theorem ext_has (h : ∀ k, m.Has k ↔ n.Has k) : m = n := by
  have hbits : m.bits.toNat = n.bits.toNat :=
    Nat.eq_of_testBit_eq fun k => Bool.eq_iff_iff.2 (h k)
  cases m
  cases n
  rw [TypeMask.mk.injEq]
  exact UInt32.toNat_inj.1 hbits

theorem Has.lt (h : m.Has k) : k < 32 := by
  by_contra hk
  have hlt : m.bits.toNat < 2 ^ k :=
    Nat.lt_of_lt_of_le m.bits.toNat_lt (Nat.pow_le_pow_right (by decide) (Nat.not_lt.1 hk))
  unfold Has at h
  rw [Nat.testBit_lt_two_pow hlt] at h
  cases h

/-- A mask shares a word of one bit exactly if it has that bit. -/
theorem and_ne_zero_iff (hbit : bit.toNat = 2 ^ k) : m.bits &&& bit ≠ 0 ↔ m.Has k := by
  have hpow : 2 ^ k ≠ 0 := Nat.ne_of_gt (Nat.two_pow_pos k)
  unfold Has
  rw [Ne, ← UInt32.toNat_inj, UInt32.toNat_and, hbit, Nat.and_two_pow]
  cases m.bits.toNat.testBit k <;> simp

theorem toNat_shiftLeft (hk : k < 32) : ((1 : UInt32) <<< UInt32.ofNat k).toNat = 2 ^ k := by
  have hlt : 2 ^ k < 2 ^ 32 := Nat.pow_lt_pow_right (by decide) hk
  have hof : (UInt32.ofNat k).toNat = k := by
    rw [UInt32.toNat_ofNat', Nat.mod_eq_of_lt (Nat.lt_trans hk (by decide))]
  rw [UInt32.toNat_shiftLeft, hof, Nat.mod_eq_of_lt hk, UInt32.toNat_one, Nat.one_shiftLeft,
    Nat.mod_eq_of_lt hlt]

/-- The bits that are listed are those that the mask has. -/
theorem mem_setBits_iff : bit ∈ m.setBits ↔ ∃ k, bit.toNat = 2 ^ k ∧ m.Has k := by
  unfold setBits
  rw [List.mem_filter, List.mem_map, bne_iff_ne]
  constructor
  · rintro ⟨⟨k, hk, rfl⟩, hand⟩
    have hbit := toNat_shiftLeft (List.mem_range.1 hk)
    exact ⟨k, hbit, (and_ne_zero_iff hbit).1 hand⟩
  · rintro ⟨k, hbit, hhas⟩
    have hshift := toNat_shiftLeft hhas.lt
    refine ⟨⟨k, List.mem_range.2 hhas.lt, ?_⟩, (and_ne_zero_iff hbit).2 hhas⟩
    rw [← UInt32.toNat_inj, hshift, hbit]

theorem has_iff : m.Has k ↔ ∃ bit ∈ m.setBits, bit.toNat = 2 ^ k := by
  constructor
  · intro h
    exact ⟨_, mem_setBits_iff.2 ⟨k, toNat_shiftLeft h.lt, h⟩, toNat_shiftLeft h.lt⟩
  · rintro ⟨bit, hmem, hbit⟩
    obtain ⟨j, hj, h⟩ := mem_setBits_iff.1 hmem
    rwa [Nat.pow_right_injective (Nat.le_refl 2) (hbit.symm.trans hj)]

/-- The bits are listed from the lowest one on. -/
theorem pairwise_setBits (m : TypeMask) : m.setBits.Pairwise (· < ·) := by
  refine List.Pairwise.filter _ ?_
  rw [List.pairwise_map]
  refine List.pairwise_lt_range.imp_of_mem fun hj hk hlt => ?_
  rw [UInt32.lt_iff_toNat_lt, toNat_shiftLeft (List.mem_range.1 hj),
    toNat_shiftLeft (List.mem_range.1 hk)]
  exact Nat.pow_lt_pow_right (by decide) hlt

theorem contains_iff : m.contains t = true ↔ t.bit ∈ m.setBits := by
  obtain ⟨k, hbit⟩ := t.exists_toNat_bit
  rw [contains, bne_iff_ne, and_ne_zero_iff hbit, has_iff, ← hbit]
  simp only [UInt32.toNat_inj, exists_eq_right]

/-! ## Masks of lists -/

theorem has_ofType : (ofType t).Has k ↔ t.bit.toNat = 2 ^ k := by
  obtain ⟨j, hbit⟩ := t.exists_toNat_bit
  show t.bit.toNat.testBit k = true ↔ _
  rw [hbit, Nat.testBit_two_pow, decide_eq_true_eq]
  exact (Nat.pow_right_injective (Nat.le_refl 2)).eq_iff.symm

theorem has_union : (m.union n).Has k ↔ m.Has k ∨ n.Has k := by
  show (m.bits ||| n.bits).toNat.testBit k = true ↔ _
  rw [UInt32.toNat_or, Nat.testBit_or, Bool.or_eq_true]
  rfl

theorem has_insert : (m.insert t).Has k ↔ m.Has k ∨ t.bit.toNat = 2 ^ k := by
  rw [insert, has_union, has_ofType]

theorem not_has_none : ¬none.Has k := by
  show ¬(0 : UInt32).toNat.testBit k = true
  rw [UInt32.toNat_zero, Nat.zero_testBit]
  exact Bool.false_ne_true

/-- Types that are put into a mask one by one add their bits to it. -/
theorem has_foldl_insert :
    (ts.foldl insert m).Has k ↔ m.Has k ∨ ∃ t ∈ ts, t.bit.toNat = 2 ^ k := by
  induction ts generalizing m with
  | nil => simp
  | cons t ts ih =>
    rw [List.foldl_cons, ih, has_insert, List.exists_mem_cons_iff, or_assoc]

theorem has_ofList : (ofList ts).Has k ↔ ∃ t ∈ ts, t.bit.toNat = 2 ^ k := by
  rw [ofList, has_foldl_insert, or_iff_right not_has_none]

/-- The bits in the mask of a list are those of the types in the list. -/
theorem mem_setBits_ofList : bit ∈ (ofList ts).setBits ↔ ∃ t ∈ ts, t.bit = bit := by
  rw [mem_setBits_iff]
  constructor
  · rintro ⟨k, hbit, hhas⟩
    obtain ⟨t, ht, htbit⟩ := has_ofList.1 hhas
    exact ⟨t, ht, UInt32.toNat_inj.1 (htbit.trans hbit.symm)⟩
  · rintro ⟨t, ht, rfl⟩
    obtain ⟨k, hbit⟩ := t.exists_toNat_bit
    exact ⟨k, hbit, has_ofList.2 ⟨t, ht, hbit⟩⟩

theorem contains_ofList : (ofList ts).contains t = true ↔ t ∈ ts := by
  rw [contains_iff, mem_setBits_ofList]
  constructor
  · rintro ⟨u, hu, hbit⟩
    exact EventType.bit_injective hbit ▸ hu
  · intro ht
    exact ⟨t, ht, rfl⟩

/-- The order in which types are put into a mask does not matter, nor do repetitions. -/
theorem ofList_congr (h : ∀ t, t ∈ ts ↔ t ∈ us) : ofList ts = ofList us := by
  refine ext_has fun k => ?_
  rw [has_ofList, has_ofList]
  exact exists_congr fun t => and_congr_left fun _ => h t

/-! ## Lists of masks -/

/-- The types of a mask are listed if each of its bits is that of a type. -/
theorem types_eq_ok_iff : m.types = .ok ts ↔ ts.map EventType.bit = m.setBits := by
  rw [types, Except.mapM_eq_ok_iff]
  simp only [EventType.ofBit_eq_ok_iff]
  rw [← List.forall₂_eq_eq_eq, List.forall₂_map_left_iff]
  exact ⟨List.Forall₂.flip, List.Forall₂.flip⟩

/-- The first bit of no type is reported, which is the lowest one because the bits increase. -/
theorem types_eq_error_iff : m.types = .error bit ↔ bit ∈ m.setBits ∧
    (∀ t : EventType, t.bit ≠ bit) ∧ ∀ b ∈ m.setBits, b < bit → ∃ t : EventType, t.bit = b := by
  have hsorted := m.pairwise_setBits
  rw [types, Except.mapM_eq_error_iff]
  simp only [EventType.ofBit_eq_ok_iff, EventType.ofBit_eq_error_iff]
  constructor
  · rintro ⟨before, b, after, hbits, hbefore, rfl, hnone⟩
    rw [hbits] at hsorted ⊢
    refine ⟨List.mem_append_right _ List.mem_cons_self, hnone, fun c hc hlt => ?_⟩
    rcases List.mem_append.1 hc with hc | hc
    · exact hbefore c hc
    · exfalso
      rcases List.mem_cons.1 hc with rfl | hc
      · exact UInt32.lt_irrefl c hlt
      · have hgt := (List.pairwise_cons.1 (List.pairwise_append.1 hsorted).2.1).1 c hc
        exact UInt32.lt_asymm hlt hgt
  · rintro ⟨hmem, hnone, hbelow⟩
    obtain ⟨before, after, hbits⟩ := List.append_of_mem hmem
    refine ⟨before, bit, after, hbits, fun b hb => ?_, rfl, hnone⟩
    rw [hbits] at hsorted hbelow
    exact hbelow b (List.mem_append_left _ hb)
      ((List.pairwise_append.1 hsorted).2.2 b hb bit List.mem_cons_self)

/-- The same by positions: those below the reported bit are empty or known. -/
theorem types_eq_error_iff_has : m.types = .error bit ↔
    ∃ k, bit.toNat = 2 ^ k ∧ m.Has k ∧ ¬IsKnown k ∧ ∀ j < k, m.Has j → IsKnown j := by
  rw [types_eq_error_iff, mem_setBits_iff]
  constructor
  · rintro ⟨⟨k, hbit, hhas⟩, hnone, hbelow⟩
    refine ⟨k, hbit, hhas, ?_, ?_⟩
    · rintro ⟨t, ht⟩
      exact hnone t (UInt32.toNat_inj.1 (ht.trans hbit.symm))
    · intro j hj hhas
      obtain ⟨b, hb, hpow⟩ := has_iff.1 hhas
      have hlt : b < bit := by
        rw [UInt32.lt_iff_toNat_lt, hpow, hbit]
        exact Nat.pow_lt_pow_right (by decide) hj
      obtain ⟨t, rfl⟩ := hbelow b hb hlt
      exact ⟨t, hpow⟩
  · rintro ⟨k, hbit, hhas, hnone, hbelow⟩
    refine ⟨⟨k, hbit, hhas⟩, ?_, ?_⟩
    · rintro t rfl
      exact hnone ⟨t, hbit⟩
    · intro b hb hlt
      obtain ⟨j, hpow, hhas⟩ := mem_setBits_iff.1 hb
      rw [UInt32.lt_iff_toNat_lt, hpow, hbit] at hlt
      obtain ⟨t, ht⟩ := hbelow j ((Nat.pow_lt_pow_iff_right (by decide)).1 hlt) hhas
      exact ⟨t, UInt32.toNat_inj.1 (ht.trans hpow.symm)⟩

/-- What is listed of the mask of a list are the types in it, each once and by their bits. -/
theorem types_ofList_eq_ok_iff : (ofList ts).types = .ok us ↔
    us.Pairwise (fun t u => t.bit < u.bit) ∧ ∀ t, t ∈ us ↔ t ∈ ts := by
  have hbits (t : EventType) : t.bit ∈ (ofList ts).setBits ↔ t ∈ ts := by
    rw [← contains_iff, contains_ofList]
  have hmap (t : EventType) : t.bit ∈ us.map EventType.bit ↔ t ∈ us :=
    List.mem_map_of_injective EventType.bit_injective
  rw [types_eq_ok_iff, ← List.pairwise_map (R := (· < ·))]
  constructor
  · intro h
    rw [h]
    refine ⟨pairwise_setBits _, fun t => ?_⟩
    rw [← hmap, h, hbits]
  · rintro ⟨hsorted, hmem⟩
    refine hsorted.eq_of_mem_iff (pairwise_setBits _) fun b => ?_
    rw [mem_setBits_ofList, List.mem_map]
    exact exists_congr fun t => and_congr_left fun _ => hmem t

/-- The types that are listed of a mask make up that mask, and they are listed by their bits. -/
theorem types_iff_ofList :
    m.types = .ok ts ↔ ts.Pairwise (fun t u => t.bit < u.bit) ∧ ofList ts = m := by
  constructor
  · intro h
    have hbits := types_eq_ok_iff.1 h
    constructor
    · rw [← List.pairwise_map (R := (· < ·)), hbits]
      exact m.pairwise_setBits
    · refine ext_has fun k => ?_
      rw [has_ofList, has_iff (m := m), ← hbits]
      simp only [List.mem_map, exists_exists_and_eq_and]
  · rintro ⟨hsorted, rfl⟩
    exact types_ofList_eq_ok_iff.2 ⟨hsorted, fun _ => Iff.rfl⟩

theorem exists_types_iff : (∃ ts, m.types = .ok ts) ↔ ∀ k, m.Has k → IsKnown k := by
  constructor
  · rintro ⟨ts, h⟩ k hhas
    rw [← (types_iff_ofList.1 h).2, has_ofList] at hhas
    obtain ⟨t, -, ht⟩ := hhas
    exact ⟨t, ht⟩
  · intro h
    cases htypes : m.types with
    | ok ts => exact ⟨ts, rfl⟩
    | error bit =>
      obtain ⟨k, -, hhas, hnone, -⟩ := types_eq_error_iff_has.1 htypes
      exact absurd (h k hhas) hnone

/-- The mask of a list holds the types in it and lists them, each once and by their bits, however
the list is ordered.  A mask whose bits are all known lists the types that make it up, and for any
other one the lowest bit that is not known is the error. -/
theorem types_correspond :
    (∀ ts us : List EventType, us.Perm ts → us.foldl insert none = ofList ts) ∧
    (∀ ts t, (ofList ts).contains t = true ↔ t ∈ ts) ∧
    (∀ ts, ∃ us, (ofList ts).types = .ok us) ∧
    (∀ ts us, (ofList ts).types = .ok us ↔
      us.Pairwise (fun t u => t.bit < u.bit) ∧ ∀ t, t ∈ us ↔ t ∈ ts) ∧
    (∀ m : TypeMask, (∃ ts, m.types = .ok ts) ↔ ∀ k, m.Has k → IsKnown k) ∧
    (∀ (m : TypeMask) (ts : List EventType),
      m.types = .ok ts ↔ ts.Pairwise (fun t u => t.bit < u.bit) ∧ ofList ts = m) ∧
    ∀ (m : TypeMask) (bit : UInt32), m.types = .error bit ↔
      ∃ k, bit.toNat = 2 ^ k ∧ m.Has k ∧ ¬IsKnown k ∧ ∀ j < k, m.Has j → IsKnown j := by
  refine ⟨fun ts us hperm => ofList_congr fun _ => hperm.mem_iff, fun _ _ => contains_ofList, ?_,
    fun _ _ => types_ofList_eq_ok_iff, fun _ => exists_types_iff, fun _ _ => types_iff_ofList,
    fun _ _ => types_eq_error_iff_has⟩
  intro ts
  rw [exists_types_iff]
  intro k hhas
  obtain ⟨t, -, ht⟩ := has_ofList.1 hhas
  exact ⟨t, ht⟩

end TypeMask

end Observation
