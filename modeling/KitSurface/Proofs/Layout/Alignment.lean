import KitSurface.Proofs.Layout.Extent
import KitSurface.Proofs.Layout.Declaration
import Mathlib.Order.Bounds.Basic
/-!
The alignment of an aggregate, and what it says about the size. While a struct is measured, an open
unit is the last thing placed and counts for the alignment (`Cursor.EndsInUnit`); one step keeps
that, so that a bit-field which joins a unit needs no alignment beyond the one there is. In a struct
as in a union the alignment is the greatest one of the members (`Extent.align_ofMembers`), and over
all depths it is the size of the largest scalar (`Field.align_member`), hence a power of two.
Main statement: what the alignment is, that it divides the size, that no member is larger than the
aggregate, and that an aggregate alone in another one keeps its extent (`Aggregate.extent_aligned`).
-/

namespace KitSurface

/-! ## The greatest of some sizes -/

/-- The greatest of some numbers, and one if there are none. -/
def greatest (ns : List Nat) : Nat :=
  ns.foldr max 1

theorem greatest_pos : ∀ ns : List Nat, 0 < greatest ns
  | [] => Nat.one_pos
  | _ :: ns => Nat.lt_of_lt_of_le (greatest_pos ns) (Nat.le_max_right _ _)

theorem greatest_append (ns ns' : List Nat) :
    greatest (ns ++ ns') = max (greatest ns) (greatest ns') := by
  induction ns with
  | nil => exact (Nat.max_eq_right (greatest_pos ns')).symm
  | cons n ns ih =>
    calc greatest (n :: ns ++ ns')
        = max n (greatest (ns ++ ns')) := rfl
      _ = max n (max (greatest ns) (greatest ns')) := by rw [ih]
      _ = max (greatest (n :: ns)) (greatest ns') := (Nat.max_assoc _ _ _).symm

theorem le_greatest : ∀ {ns : List Nat} {n : Nat}, n ∈ ns → n ≤ greatest ns
  | n :: ns, m, h => by
    rcases List.mem_cons.mp h with rfl | h
    · exact Nat.le_max_left _ _
    · exact Nat.le_trans (le_greatest h) (Nat.le_max_right _ _)

theorem greatest_le {b : Nat} (hb : 0 < b) : ∀ {ns : List Nat}, (∀ n ∈ ns, n ≤ b) →
    greatest ns ≤ b
  | [], _ => hb
  | n :: ns, h => by
    have hns := greatest_le hb fun k hk => h k (List.mem_cons_of_mem n hk)
    exact Nat.max_le.mpr ⟨h n List.mem_cons_self, hns⟩

theorem greatest_eq_one_or_mem : ∀ ns : List Nat, greatest ns = 1 ∨ greatest ns ∈ ns
  | [] => Or.inl rfl
  | n :: ns => by
    have hmax : greatest (n :: ns) = max n (greatest ns) := rfl
    rcases Nat.le_total n (greatest ns) with hle | hle
    · rw [hmax, Nat.max_eq_right hle]
      exact (greatest_eq_one_or_mem ns).imp_right (List.mem_cons_of_mem n)
    · rw [hmax, Nat.max_eq_left hle]
      exact Or.inr List.mem_cons_self

theorem isGreatest_greatest {ns : List Nat} (hne : ns ≠ []) (hpos : ∀ n ∈ ns, 0 < n) :
    IsGreatest {n | n ∈ ns} (greatest ns) := by
  refine ⟨?_, fun n hn => le_greatest hn⟩
  rcases greatest_eq_one_or_mem ns with hone | hmem
  · -- Then every number of the list is one, and so is the first.
    obtain ⟨n, hn⟩ := List.exists_mem_of_ne_nil ns hne
    have hle := le_greatest hn
    have hn' : greatest ns = n := by
      have := hpos n hn
      omega
    exact hn' ▸ hn
  · exact hmem

theorem isPowerOfTwo_greatest {ns : List Nat} (h : ∀ n ∈ ns, n.isPowerOfTwo) :
    (greatest ns).isPowerOfTwo := by
  rcases greatest_eq_one_or_mem ns with hone | hmem
  · exact ⟨0, hone⟩
  · exact h _ hmem

theorem dvd_of_isPowerOfTwo_of_le {a b : Nat} (ha : a.isPowerOfTwo) (hb : b.isPowerOfTwo)
    (h : a ≤ b) : a ∣ b := by
  obtain ⟨i, rfl⟩ := ha
  obtain ⟨j, rfl⟩ := hb
  exact Nat.pow_dvd_pow 2 ((Nat.pow_le_pow_iff_right (by decide)).mp h)

theorem Scalar.isPowerOfTwo_size (t : Scalar) : t.size.isPowerOfTwo := by
  cases t with
  | unsignedChar => exact ⟨0, rfl⟩
  | unsignedShort => exact ⟨1, rfl⟩
  | unsignedLong => exact ⟨2, rfl⟩
  | unsignedInt64 => exact ⟨3, rfl⟩

namespace Member

def aligns (members : List Member) : List Nat :=
  members.map fun m => m.extent.align

end Member

/-! ## One step of a struct -/

namespace Cursor

/-- A unit of the type ends at the cursor, and the alignment is at least the one of the type. -/
structure EndsWith (c : Cursor) (t : Scalar) : Prop where
  dvd_offset : t.size ∣ c.offset
  size_le_offset : t.size ≤ c.offset
  size_le_align : t.size ≤ c.align

/-- An open unit is the last thing placed. -/
def EndsInUnit (c : Cursor) : Prop :=
  ∀ t used, c.unit = some (t, used) → c.EndsWith t

theorem endsInUnit_start : start.EndsInUnit := by
  intro t used h
  cases h

variable {c : Cursor}

theorem EndsInUnit.place (hc : c.EndsInUnit) (m : Member) : (c.place m).EndsInUnit := by
  intro t used hu
  rcases c.place_cases m with ⟨t', width, used', rfl, hopen, -, hp⟩ | ⟨unit, hp, hopens⟩
  · -- The member joins the open unit, which stays where it is.
    rw [hp] at hu ⊢
    cases hu
    have h := hc _ _ hopen
    exact ⟨h.dvd_offset, h.size_le_offset, h.size_le_align⟩
  · rw [hp] at hu ⊢
    rcases hopens with ⟨rfl, -⟩ | ⟨t', width, rfl, rfl⟩
    · cases hu
    · cases hu
      exact {
        dvd_offset := Nat.dvd_add (dvd_roundUp _ _) (Nat.dvd_refl _)
        size_le_offset := Nat.le_add_left _ _
        size_le_align := Nat.le_max_right _ _ }

/-- Every member counts for the alignment, also one that joins a unit. -/
theorem align_place (hc : c.EndsInUnit) (m : Member) :
    (c.place m).align = max c.align m.extent.align := by
  rcases c.place_cases m with ⟨t, width, used, rfl, hopen, -, hp⟩ | ⟨unit, hp, -⟩
  · rw [hp]
    exact (Nat.max_eq_left (hc t used hopen).size_le_align).symm
  · rw [hp]
    rfl

/-- Behind a member there is room for it before the cursor. -/
theorem size_le_place (hc : c.EndsInUnit) (m : Member) :
    m.extent.size ≤ (c.place m).offset := by
  rcases c.place_cases m with ⟨t, width, used, rfl, hopen, -, hp⟩ | ⟨unit, hp, -⟩
  · rw [hp]
    exact (hc t used hopen).size_le_offset
  · rw [hp]
    exact Nat.le_add_left _ _

/-! ## A whole struct -/

theorem align_foldl_place : ∀ (ms : List Member) {c : Cursor}, c.EndsInUnit → 0 < c.align →
    (ms.foldl place c).align = max c.align (greatest (Member.aligns ms))
  | [], _, _, hpos => (Nat.max_eq_left hpos).symm
  | m :: ms, c, hc, hpos => by
    have hstep := align_place hc m
    have hpos' : 0 < (c.place m).align := by omega
    calc ((m :: ms).foldl place c).align
        = (ms.foldl place (c.place m)).align := rfl
      _ = max (c.place m).align (greatest (Member.aligns ms)) :=
          align_foldl_place ms (hc.place m) hpos'
      _ = max (max c.align m.extent.align) (greatest (Member.aligns ms)) := by rw [hstep]
      _ = max c.align (greatest (Member.aligns (m :: ms))) := Nat.max_assoc _ _ _

theorem size_le_foldl_place : ∀ (ms : List Member) {c : Cursor}, c.EndsInUnit →
    (∀ m ∈ ms, 0 < m.extent.align) → ∀ m ∈ ms, m.extent.size ≤ (ms.foldl place c).offset
  | n :: ms, c, hc, hp, m, hm => by
    have hms : ∀ m ∈ ms, 0 < m.extent.align := fun m hm => hp m (List.mem_cons_of_mem n hm)
    rcases List.mem_cons.mp hm with rfl | hm
    · exact Nat.le_trans (size_le_place hc m) (offset_le_foldl ms _ hms)
    · exact size_le_foldl_place ms (hc.place n) hms m hm

end Cursor

/-! ## Structs and unions -/

namespace Extent

variable {kind : AggregateKind}

theorem align_foldl_cover : ∀ (ms : List Member) {e : Extent}, 0 < e.align →
    (ms.foldl cover e).align = max e.align (greatest (Member.aligns ms))
  | [], _, hpos => (Nat.max_eq_left hpos).symm
  | m :: ms, e, hpos => by
    have hpos' : 0 < (e.cover m).align := Nat.lt_of_lt_of_le hpos (Nat.le_max_left _ _)
    calc ((m :: ms).foldl cover e).align
        = (ms.foldl cover (e.cover m)).align := rfl
      _ = max (e.cover m).align (greatest (Member.aligns ms)) := align_foldl_cover ms hpos'
      _ = max e.align (greatest (Member.aligns (m :: ms))) := Nat.max_assoc _ _ _

theorem align_ofMembers (kind : AggregateKind) (ms : List Member) :
    (ofMembers kind ms).align = greatest (Member.aligns ms) := by
  have hone : max 1 (greatest (Member.aligns ms)) = greatest (Member.aligns ms) :=
    Nat.max_eq_right (greatest_pos (Member.aligns ms))
  cases kind with
  | struct =>
    exact (Cursor.align_foldl_place ms Cursor.endsInUnit_start Nat.one_pos).trans hone
  | union => exact (align_foldl_cover ms Nat.one_pos).trans hone

theorem align_dvd_size (kind : AggregateKind) (ms : List Member) :
    (ofMembers kind ms).align ∣ (ofMembers kind ms).size := by
  cases kind with
  | struct => exact dvd_roundUp _ _
  | union => exact dvd_roundUp _ _

theorem size_le_ofMembers {ms : List Member} (hp : ∀ m ∈ ms, 0 < m.extent.align) {m : Member}
    (hm : m ∈ ms) : m.extent.size ≤ (ofMembers kind ms).size := by
  have hpos := align_ofMembers_pos kind ms
  cases kind with
  | struct =>
    have hsize := Cursor.size_le_foldl_place ms Cursor.endsInUnit_start hp m hm
    exact Nat.le_trans hsize (le_roundUp _ hpos)
  | union =>
    have hsize := size_le_foldl_cover ms ⟨0, 1⟩ hm
    exact Nat.le_trans hsize (le_roundUp _ hpos)

theorem ofMembers_whole {e : Extent} (hpos : 0 < e.align) (hd : e.align ∣ e.size) :
    ofMembers kind [.whole e] = e := by
  have hzero : roundUp 0 e.align = 0 := roundUp_eq_self hpos (Nat.dvd_zero _)
  have hone : max 1 e.align = e.align := Nat.max_eq_right hpos
  have hsize : roundUp e.size e.align = e.size := roundUp_eq_self hpos hd
  cases kind with
  | struct =>
    show (⟨roundUp (roundUp 0 e.align + e.size) (max 1 e.align), max 1 e.align⟩ : Extent) = e
    rw [hone, hzero, Nat.zero_add, hsize]
  | union =>
    show (⟨roundUp (max 0 e.size) (max 1 e.align), max 1 e.align⟩ : Extent) = e
    rw [hone, Nat.zero_max, hsize]

end Extent

/-! ## Aggregates at every depth -/

namespace Field

/-- The declared type of a scalar or a bit-field. -/
def type? : Field → Option Scalar
  | scalar _ t | bits _ t _ => some t
  | nested _ _ _ => none

/-- The sizes of the scalars and bit-fields among some fields. -/
def leafSizes (fields : List Field) : List Nat :=
  (fields.filterMap type?).map Scalar.size

theorem leafSizes_append (fs gs : List Field) :
    leafSizes (fs ++ gs) = leafSizes fs ++ leafSizes gs := by
  simp [leafSizes]

mutual

theorem align_member : ∀ f : Field, f.member.extent.align = greatest (leafSizes f.withInner)
  | .scalar _ t => (Nat.max_eq_left t.size_pos).symm
  | .bits _ t _ => (Nat.max_eq_left t.size_pos).symm
  | .nested _ kind fields =>
    calc (Extent.ofMembers kind (members fields)).align
        = greatest (Member.aligns (members fields)) := Extent.align_ofMembers kind _
      _ = greatest (leafSizes (allWithInner fields)) := greatest_aligns_members fields

theorem greatest_aligns_members : ∀ fields : List Field,
    greatest (Member.aligns (members fields)) = greatest (leafSizes (allWithInner fields))
  | [] => rfl
  | f :: fields =>
    calc greatest (Member.aligns (members (f :: fields)))
        = max f.member.extent.align (greatest (Member.aligns (members fields))) := rfl
      _ = max (greatest (leafSizes f.withInner)) (greatest (leafSizes (allWithInner fields))) := by
          rw [align_member f, greatest_aligns_members fields]
      _ = greatest (leafSizes (allWithInner (f :: fields))) := by
          rw [allWithInner, leafSizes_append, greatest_append]

end

theorem isPowerOfTwo_greatest_leafSizes (fields : List Field) :
    (greatest (leafSizes fields)).isPowerOfTwo := by
  apply isPowerOfTwo_greatest
  intro n hn
  obtain ⟨t, -, rfl⟩ := List.mem_map.mp hn
  exact t.isPowerOfTwo_size

theorem align_pos_of_mem_members {fields : List Field} {m : Member} (h : m ∈ members fields) :
    0 < m.extent.align := by
  rw [members_eq_map] at h
  obtain ⟨f, -, rfl⟩ := List.mem_map.mp h
  exact f.align_pos

end Field

namespace Aggregate

/-- The declared types of the scalars and bit-fields of an aggregate, at every depth. -/
def leafTypes (a : Aggregate) : List Scalar :=
  (Field.allWithInner a.fields).filterMap Field.type?

theorem align_extent (a : Aggregate) : a.extent.align = greatest (a.leafTypes.map Scalar.size) := by
  rw [extent, Extent.align_ofMembers, Field.greatest_aligns_members]
  rfl

/-- **The alignment of an aggregate is the size of the largest scalar in it**, at whatever depth. It
divides the size, no member is larger than the aggregate, and an aggregate that is the only member
of another one gives it its own extent. -/
theorem extent_aligned (a : Aggregate) :
    (a.leafTypes ≠ [] → IsGreatest {n | ∃ t ∈ a.leafTypes, t.size = n} a.extent.align) ∧
    (a.leafTypes = [] → a.extent.align = 1) ∧
    a.extent.align ∣ a.extent.size ∧
    (∀ f ∈ a.fields, f.member.extent.size ≤ a.extent.size) ∧
    ∀ kind name, (Aggregate.mk kind [.nested name a.kind a.fields]).extent = a.extent := by
  have halign := a.align_extent
  have hdvd : a.extent.align ∣ a.extent.size := Extent.align_dvd_size a.kind _
  refine ⟨?_, ?_, hdvd, ?_, ?_⟩
  · intro h
    have hne : a.leafTypes.map Scalar.size ≠ [] := fun hnil => h (List.map_eq_nil_iff.mp hnil)
    have hpos : ∀ n ∈ a.leafTypes.map Scalar.size, 0 < n := by
      intro n hn
      obtain ⟨t, -, rfl⟩ := List.mem_map.mp hn
      exact t.size_pos
    rw [halign]
    simpa only [List.mem_map] using isGreatest_greatest hne hpos
  · intro h
    rw [halign, h]
    rfl
  · intro f hf
    apply Extent.size_le_ofMembers fun m hm => Field.align_pos_of_mem_members hm
    rw [Field.members_eq_map]
    exact List.mem_map_of_mem hf
  · intro kind name
    exact Extent.ofMembers_whole (Extent.align_ofMembers_pos a.kind _) hdvd

/-- An aggregate without scalars, inside another one. -/
def hollow : Aggregate :=
  ⟨.struct, [.nested none .union []]⟩

theorem extent_aligned_segment :
    (Supplement.segmentDescriptor.layout.leafTypes ≠ [] ∧
      IsGreatest {n | ∃ t ∈ Supplement.segmentDescriptor.layout.leafTypes, t.size = n}
        Supplement.segmentDescriptor.layout.extent.align) ∧
    (∃ f ∈ Supplement.segmentDescriptor.layout.fields,
      f.member.extent.size ≤ Supplement.segmentDescriptor.layout.extent.size) ∧
    hollow.leafTypes = [] ∧ hollow.extent.align = 1 := by
  have hleaf : Supplement.segmentDescriptor.layout.leafTypes ≠ [] := by decide
  have hhollow : hollow.leafTypes = [] := rfl
  obtain ⟨hgreatest, -, -, hsize, -⟩ := extent_aligned Supplement.segmentDescriptor.layout
  have hfield := hsize _ List.mem_cons_self
  exact ⟨⟨hleaf, hgreatest hleaf⟩, ⟨_, List.mem_cons_self, hfield⟩, hhollow,
    (extent_aligned hollow).2.1 hhollow⟩

end Aggregate

end KitSurface
