import KitSurface.Proofs.Layout.Growth
/-!
Unions without their order and their nesting. Of the multiples of its alignment the size of a union
is the least one that no member exceeds (`Extent.size_ofUnion_le_iff`), so that two unions of one
alignment are equal if the same multiples bound their members (`Extent.ofUnion_eq`). The order of the
members has no part in that, and the padding of a union inside has none either: it is cut off by the
next multiple of its own alignment, which divides the alignment of the union around it. Main
statement: a union inside a union can be replaced by its fields, and the fields can be put in any
order (`Aggregate.extent_union`).
-/

namespace KitSurface

theorem greatest_perm {ns ns' : List Nat} (h : ns.Perm ns') : greatest ns = greatest ns' := by
  apply Nat.le_antisymm
  · exact greatest_le (greatest_pos ns') fun n hn => le_greatest (h.mem_iff.mp hn)
  · exact greatest_le (greatest_pos ns) fun n hn => le_greatest (h.mem_iff.mpr hn)

namespace Extent

variable {ms ns : List Member} {n : Nat}

theorem align_ofUnion (ms : List Member) : (ofUnion ms).align = greatest (Member.aligns ms) :=
  align_ofMembers .union ms

/-- Of the multiples of its alignment the size of a union is the least one that no member
exceeds. -/
theorem size_ofUnion_le_iff (hd : (ofUnion ms).align ∣ n) :
    (ofUnion ms).size ≤ n ↔ ∀ m ∈ ms, m.extent.size ≤ n := by
  have hpos := align_ofMembers_pos .union ms
  constructor
  · intro h m hm
    calc m.extent.size
        ≤ (ms.foldl cover ⟨0, 1⟩).size := size_le_foldl_cover ms _ hm
      _ ≤ (ofUnion ms).size := le_roundUp _ hpos
      _ ≤ n := h
  · intro h
    exact roundUp_le hpos hd (size_foldl_cover_le ms _ (Nat.zero_le n) h)

/-- Unions of one alignment are equal if the same multiples of it bound their members. -/
theorem ofUnion_eq (halign : (ofUnion ms).align = (ofUnion ns).align)
    (hbound : ∀ n, (ofUnion ns).align ∣ n →
      ((∀ m ∈ ms, m.extent.size ≤ n) ↔ ∀ m ∈ ns, m.extent.size ≤ n)) :
    ofUnion ms = ofUnion ns := by
  have hiff : ∀ n, (ofUnion ns).align ∣ n → ((ofUnion ms).size ≤ n ↔ (ofUnion ns).size ≤ n) := by
    intro n hn
    rw [size_ofUnion_le_iff (halign ▸ hn), size_ofUnion_le_iff hn]
    exact hbound n hn
  have hms : (ofUnion ns).align ∣ (ofUnion ms).size := halign ▸ align_dvd_size .union ms
  have hns : (ofUnion ns).align ∣ (ofUnion ns).size := align_dvd_size .union ns
  have hsize : (ofUnion ms).size = (ofUnion ns).size :=
    Nat.le_antisymm ((hiff _ hns).mpr (Nat.le_refl _)) ((hiff _ hms).mp (Nat.le_refl _))
  calc ofUnion ms
      = ⟨(ofUnion ms).size, (ofUnion ms).align⟩ := rfl
    _ = ⟨(ofUnion ns).size, (ofUnion ns).align⟩ := by rw [hsize, halign]
    _ = ofUnion ns := rfl

theorem ofUnion_perm (h : ms.Perm ns) : ofUnion ms = ofUnion ns := by
  apply ofUnion_eq
  · rw [align_ofUnion, align_ofUnion]
    exact greatest_perm (h.map _)
  · intro n _
    exact ⟨fun hn m hm => hn m (h.mem_iff.mpr hm), fun hn m hm => hn m (h.mem_iff.mp hm)⟩

/-- A union among the members of a union can be replaced by its own members, if its alignment
divides the one of the union around it. -/
theorem ofUnion_flatten {xs ys zs : List Member}
    (hd : (ofUnion ys).align ∣ (ofUnion (xs ++ ys ++ zs)).align) :
    ofUnion (xs ++ [.whole (ofUnion ys)] ++ zs) = ofUnion (xs ++ ys ++ zs) := by
  apply ofUnion_eq
  · have hinner : greatest (Member.aligns [.whole (ofUnion ys)]) = greatest (Member.aligns ys) := by
      rw [← align_ofUnion ys]
      exact Nat.max_eq_left (align_ofMembers_pos .union ys)
    simp only [align_ofUnion, Member.aligns, List.map_append, greatest_append] at hinner ⊢
    rw [hinner]
  · intro n hn
    have hinner := size_ofUnion_le_iff (Nat.dvd_trans hd hn)
    simp only [List.forall_mem_append, List.forall_mem_singleton]
    rw [Member.extent, hinner]

end Extent

/-! ## Fields -/

namespace Field

theorem members_append (fs gs : List Field) : members (fs ++ gs) = members fs ++ members gs := by
  simp only [members_eq_map, List.map_append]

theorem members_union (name : Option String) (fields : List Field) :
    members [.nested name .union fields] = [.whole (Extent.ofUnion (members fields))] := by
  simp only [members, member, Extent.ofMembers]

theorem align_ofUnion_dvd {fs gs : List Field} (h : fs.Sublist gs) :
    (Extent.ofUnion (members fs)).align ∣ (Extent.ofUnion (members gs)).align := by
  apply align_dvd_of_areWithin .union (Member.areWithin_of_sublist _)
  rw [members_eq_map, members_eq_map]
  exact h.map member

end Field

namespace Aggregate

theorem extent_of_union (fields : List Field) :
    (Aggregate.mk .union fields).extent = Extent.ofUnion (Field.members fields) :=
  rfl

/-- **A union does not depend on the grouping and the order of its fields.** A union among its
fields, named or not, can be replaced by the fields of that union, and the fields can be put in any
order. -/
theorem extent_union :
    (∀ (name : Option String) (xs ys zs : List Field),
      (Aggregate.mk .union (xs ++ [.nested name .union ys] ++ zs)).extent =
        (Aggregate.mk .union (xs ++ ys ++ zs)).extent) ∧
    ∀ xs ys : List Field, xs.Perm ys →
      (Aggregate.mk .union xs).extent = (Aggregate.mk .union ys).extent := by
  constructor
  · intro name xs ys zs
    have hsub : ys.Sublist (xs ++ ys ++ zs) :=
      (List.sublist_append_right xs ys).trans (List.sublist_append_left (xs ++ ys) zs)
    have hd := Field.align_ofUnion_dvd hsub
    simp only [Field.members_append] at hd
    rw [extent_of_union, extent_of_union]
    simp only [Field.members_append, Field.members_union]
    exact Extent.ofUnion_flatten hd
  · intro xs ys h
    have hmembers : (Field.members xs).Perm (Field.members ys) := by
      rw [Field.members_eq_map, Field.members_eq_map]
      exact h.map Field.member
    exact Extent.ofUnion_perm hmembers

theorem extent_union_segment :
    Supplement.segmentDescriptor.layout.fields.Perm
      Supplement.segmentDescriptor.layout.fields.reverse ∧
    Supplement.segmentDescriptor.layout.extent =
      (Aggregate.mk .union Supplement.segmentDescriptor.layout.fields.reverse).extent := by
  have hperm := (List.reverse_perm Supplement.segmentDescriptor.layout.fields).symm
  exact ⟨hperm, extent_union.2 _ _ hperm⟩

end Aggregate

end KitSurface
