import KitSurface.Proofs.Layout.Extent
import KitSurface.Supplement
/-!
The extent of an aggregate is the extent of a placement of its members. A placement gives each
member a byte to start at and a first bit; a bit-field starts with the unit that it lies in.
`IsPlacement` says when a placement is one of an aggregate of some extent: what stands alone is
aligned, what is packed lies in one unit of its own type, the members of a struct are disjoint and
in order and share nothing but units of their type, and the size is the least one possible.

Measuring a struct places its members one by one. Between two members the open unit is the last
thing placed (`Cursor.UnitFits`); one step keeps that, and puts its member into the bits from
`Cursor.frontier` on. Main statement: every aggregate whose bit-fields fit, and every aggregate
inside it, has a placement (`exists_isPlacement`).
-/

namespace KitSurface

/-- The place of a member in an aggregate: the byte at which the member starts, or for a bit-field
its unit, and the first bit of the member from there on. -/
structure Slot where
  start : Nat
  bit : Nat
  deriving DecidableEq, Repr

namespace Member

def width : Member → Nat
  | whole e => 8 * e.size
  | bits _ width => width

/-- A member can be placed if it has an alignment, and a bit-field if its unit has enough bits. -/
structure Placeable (m : Member) : Prop where
  align_pos : 0 < m.extent.align
  width_le : m.width ≤ 8 * m.extent.size

end Member

namespace Slot

def firstBit (s : Slot) : Nat :=
  8 * s.start + s.bit

/-- The bit behind the last one of the member. -/
def endBit (s : Slot) (m : Member) : Nat :=
  s.firstBit + m.width

/-- The byte behind the member, or behind the unit of a bit-field. -/
def endByte (s : Slot) (m : Member) : Nat :=
  s.start + m.extent.size

/-- A slot is one for a member. -/
structure Holds (s : Slot) (m : Member) : Prop where
  /-- The member, or the unit of a bit-field, starts at a multiple of its alignment, which for a
  unit is its size. -/
  aligned : m.extent.align ∣ s.start
  /-- The bits of the member lie in it; those of a whole member fill it. -/
  inside : s.bit + m.width ≤ 8 * m.extent.size

end Slot

/-- The members of a struct follow each other. -/
structure InOrder (members : List Member) (slot : Nat → Slot) : Prop where
  /-- No bit belongs to two members, and the bits of the earlier member come first. -/
  ordered : ∀ i j m n, i < j → members[i]? = some m → members[j]? = some n →
    (slot i).endBit m ≤ (slot j).firstBit
  /-- Two members share no byte, unless they and all members between them are bit-fields of one
  type in one unit. -/
  separate : ∀ i j m n, i < j → members[i]? = some m → members[j]? = some n →
    (slot i).endByte m ≤ (slot j).start ∨
    ((slot i).start = (slot j).start ∧
      ∃ t, ∀ k, i ≤ k → k ≤ j → ∃ width, members[k]? = some (.bits t width))

/-- The slots are those of the members of an aggregate with some extent. -/
structure IsPlacement (kind : AggregateKind) (members : List Member) (e : Extent)
    (slot : Nat → Slot) : Prop where
  holds : ∀ i m, members[i]? = some m → (slot i).Holds m
  /-- Every bit of every member lies in the aggregate. -/
  within : ∀ i m, members[i]? = some m → (slot i).endBit m ≤ 8 * e.size
  /-- The aggregate covers every member and every unit. -/
  covers : ∀ i m, members[i]? = some m → (slot i).endByte m ≤ e.size
  aligned : e.align ∣ e.size
  /-- No smaller multiple of the alignment covers them. -/
  least : ∀ n, e.align ∣ n → (∀ i m, members[i]? = some m → (slot i).endByte m ≤ n) → e.size ≤ n
  inOrder : kind = .struct → InOrder members slot
  /-- Every member of a union starts where the union starts. -/
  atStart : kind = .union → ∀ i m, members[i]? = some m → slot i = ⟨0, 0⟩

theorem Slot.Holds.endBit_le {s : Slot} {m : Member} (h : s.Holds m) :
    s.endBit m ≤ 8 * s.endByte m := by
  have := h.inside
  unfold Slot.endBit Slot.firstBit Slot.endByte
  omega

/-! ## One step -/

namespace Cursor

/-- The open unit is the last thing placed: it starts at a multiple of its size, it ends at the
offset, and it has no more bits in use than it has. -/
def UnitFits (c : Cursor) : Prop :=
  ∀ t used, c.unit = some (t, used) →
    ∃ start, t.size ∣ start ∧ start + t.size = c.offset ∧ used ≤ t.bits

/-- The slot of the member that was placed last. -/
def lastSlot (c : Cursor) (m : Member) : Slot where
  start := c.offset - m.extent.size
  bit :=
    match c.unit with
    | some (_, used) => used - m.width
    | none => 0

/-- The first bit that the members so far leave free. -/
def frontier (c : Cursor) : Nat :=
  match c.unit with
  | some (t, used) => 8 * (c.offset - t.size) + used
  | none => 8 * c.offset

/-- What one step does: the slot of its member, and where the cursor stands behind it. -/
structure Places (c : Cursor) (m : Member) : Prop where
  unitFits : (c.place m).UnitFits
  holds : ((c.place m).lastSlot m).Holds m
  frontier_le : c.frontier ≤ ((c.place m).lastSlot m).firstBit
  endBit_eq : ((c.place m).lastSlot m).endBit m = (c.place m).frontier
  endByte_eq : ((c.place m).lastSlot m).endByte m = (c.place m).offset
  /-- The member goes behind all bytes in use, or into the open unit. -/
  start_cases : c.offset ≤ ((c.place m).lastSlot m).start ∨
    ∃ t width used, m = .bits t width ∧ c.unit = some (t, used) ∧
      (c.place m).offset = c.offset

variable {c : Cursor} {m : Member}

theorem frontier_le_offset (hc : c.UnitFits) : c.frontier ≤ 8 * c.offset := by
  unfold frontier
  split
  · next t used hu =>
    obtain ⟨start, -, hs, hb⟩ := hc t used hu
    unfold Scalar.bits at hb
    omega
  · exact Nat.le_refl _

theorem places_of_join (hc : c.UnitFits) {t : Scalar} {width used : Nat}
    (hu : c.unit = some (t, used)) (hfit : used + width ≤ t.bits)
    (hp : c.place (.bits t width) = { c with unit := some (t, used + width) }) :
    c.Places (.bits t width) := by
  obtain ⟨start, hd, hs, -⟩ := hc t used hu
  -- The unit stays where it is, and the member takes the bits behind those in use.
  have hstart : c.offset - t.size = start := by omega
  have hslot : (c.place (.bits t width)).lastSlot (.bits t width) = ⟨start, used⟩ := by
    simp only [hp, lastSlot, Member.extent, Member.width, Scalar.extent_size, hstart,
      Nat.add_sub_cancel]
  refine ⟨?_, ?_, ?_, ?_, ?_, Or.inr ⟨t, width, used, rfl, hu, by rw [hp]⟩⟩
  · intro t' used' h'
    rw [hp] at h' ⊢
    cases h'
    exact ⟨start, hd, hs, hfit⟩
  · rw [hslot]
    exact ⟨hd, hfit⟩
  · rw [hslot]
    simp only [frontier, hu, hstart, Slot.firstBit]
    exact Nat.le_refl _
  · rw [hslot, hp]
    simp only [frontier, hstart, Slot.endBit, Slot.firstBit, Member.width]
    omega
  · rw [hslot, hp]
    exact hs

theorem places_of_append (hc : c.UnitFits) (hm : m.Placeable) {unit : Option (Scalar × Nat)}
    (hp : c.place m = c.append m.extent unit)
    (hu : unit = none ∧ m = .whole m.extent ∨
      ∃ t width, m = .bits t width ∧ unit = some (t, width)) :
    c.Places m := by
  have hle := le_roundUp c.offset hm.align_pos
  have hfree := frontier_le_offset hc
  have hoff : (c.place m).offset = roundUp c.offset m.extent.align + m.extent.size := by
    rw [hp]; rfl
  have hunit : (c.place m).unit = unit := by rw [hp]; rfl
  -- A whole member leaves no unit open, and a bit-field begins the unit that it opens.
  have hslot : (c.place m).lastSlot m = ⟨roundUp c.offset m.extent.align, 0⟩ := by
    rcases hu with ⟨rfl, -⟩ | ⟨t, width, rfl, rfl⟩ <;>
      simp only [lastSlot, hoff, hunit, Member.width, Nat.add_sub_cancel, Nat.sub_self]
  refine ⟨?_, ?_, ?_, ?_, ?_, Or.inl ?_⟩
  · intro t used h
    rw [hunit] at h
    rcases hu with ⟨rfl, -⟩ | ⟨t', width, rfl, rfl⟩
    · cases h
    · cases h
      exact ⟨_, dvd_roundUp _ _, hoff.symm, hm.width_le⟩
  · rw [hslot]
    exact ⟨dvd_roundUp _ _, by simpa using hm.width_le⟩
  · rw [hslot]
    unfold Slot.firstBit
    dsimp only
    omega
  · rw [hslot]
    unfold frontier Slot.endBit Slot.firstBit
    rw [hoff, hunit]
    rcases hu with ⟨rfl, hw⟩ | ⟨t, width, rfl, rfl⟩
    · rw [hw]
      simp only [Member.extent, Member.width]
      omega
    · simp only [Member.extent, Member.width, Scalar.extent_size, Nat.add_sub_cancel]
      omega
  · rw [hslot, hoff]
    rfl
  · rw [hslot]
    exact hle

theorem places (hc : c.UnitFits) (hm : m.Placeable) : c.Places m := by
  rcases c.place_cases m with ⟨t, width, used, rfl, hu, hfit, hp⟩ | ⟨unit, hp, hu⟩
  · exact places_of_join hc hu hfit hp
  · exact places_of_append hc hm hp hu

/-! ## A whole struct -/

/-- The slots of members that are placed from here on. -/
def slotAt (c : Cursor) : List Member → Nat → Slot
  | [], _ => ⟨0, 0⟩
  | m :: _, 0 => (c.place m).lastSlot m
  | m :: ms, i + 1 => slotAt (c.place m) ms i

variable {ms : List Member}

theorem slotAt_holds : ∀ (ms : List Member) {c : Cursor}, c.UnitFits → (∀ m ∈ ms, m.Placeable) →
    ∀ {i m}, ms[i]? = some m → (c.slotAt ms i).Holds m
  | [], _, _, _, _, _, h => by simp at h
  | m :: ms, c, hc, hp, 0, n, h => by
    cases h
    exact (places hc (hp m List.mem_cons_self)).holds
  | m :: ms, c, hc, hp, i + 1, n, h =>
    slotAt_holds ms (places hc (hp m List.mem_cons_self)).unitFits
      (fun k hk => hp k (List.mem_cons_of_mem m hk)) h

theorem frontier_le_firstBit : ∀ (ms : List Member) {c : Cursor}, c.UnitFits →
    (∀ m ∈ ms, m.Placeable) → ∀ {i m}, ms[i]? = some m → c.frontier ≤ (c.slotAt ms i).firstBit
  | [], _, _, _, _, _, h => by simp at h
  | m :: ms, c, hc, hp, 0, n, h => (places hc (hp m List.mem_cons_self)).frontier_le
  | m :: ms, c, hc, hp, i + 1, n, h => by
    have hs := places hc (hp m List.mem_cons_self)
    have ih := frontier_le_firstBit ms hs.unitFits (fun k hk => hp k (List.mem_cons_of_mem m hk)) h
    have hfirst := hs.frontier_le
    have hend := hs.endBit_eq
    unfold Slot.endBit at hend
    show c.frontier ≤ ((c.place m).slotAt ms i).firstBit
    omega

/-- A later member starts behind all bytes in use, or it is in the open unit, and so is all that
comes before it. -/
theorem offset_le_start_or_unit : ∀ (ms : List Member) {c : Cursor}, c.UnitFits →
    (∀ m ∈ ms, m.Placeable) → ∀ {i m}, ms[i]? = some m →
    c.offset ≤ (c.slotAt ms i).start ∨
    ∃ t used, c.unit = some (t, used) ∧ (c.slotAt ms i).start + t.size = c.offset ∧
      ∀ k ≤ i, ∃ width, ms[k]? = some (.bits t width)
  | [], _, _, _, _, _, h => by simp at h
  | m :: ms, c, hc, hp, 0, n, h => by
    have hs := places hc (hp m List.mem_cons_self)
    rcases hs.start_cases with hle | ⟨t, width, used, rfl, hu, hoff⟩
    · exact Or.inl hle
    · refine Or.inr ⟨t, used, hu, hs.endByte_eq.trans hoff, fun k hk => ⟨width, ?_⟩⟩
      rw [Nat.le_zero.mp hk]
      rfl
  | m :: ms, c, hc, hp, i + 1, n, h => by
    have hm := hp m List.mem_cons_self
    have hs := places hc hm
    have hoff := c.offset_le_place hm.align_pos
    rcases offset_le_start_or_unit ms hs.unitFits (fun k hk => hp k (List.mem_cons_of_mem m hk)) h
      with hle | ⟨t, used, hu, hend, hbits⟩
    · exact Or.inl (Nat.le_trans hoff hle)
    · -- The unit that is open behind `m` was open before it, or `m` opened it.
      obtain ⟨width, rfl, ⟨used', hu', hsame⟩ | hnew⟩ := unit_place hu
      · refine Or.inr ⟨t, used', hu', hend.trans hsame, fun k hk => ?_⟩
        cases k with
        | zero => exact ⟨width, rfl⟩
        | succ k => exact hbits k (Nat.le_of_succ_le_succ hk)
      · rw [← hend] at hnew
        exact Or.inl (Nat.le_of_add_le_add_right hnew)

theorem slotAt_ordered : ∀ (ms : List Member) {c : Cursor}, c.UnitFits →
    (∀ m ∈ ms, m.Placeable) → ∀ i j m n, i < j → ms[i]? = some m → ms[j]? = some n →
    (c.slotAt ms i).endBit m ≤ (c.slotAt ms j).firstBit
  | [], _, _, _, _, _, _, _, _, h, _ => by simp at h
  | a :: ms, c, hc, hp, 0, j + 1, m, n, _, hm, hn => by
    cases hm
    have hs := places hc (hp a List.mem_cons_self)
    have hj := frontier_le_firstBit ms hs.unitFits
      (fun k hk => hp k (List.mem_cons_of_mem a hk)) hn
    exact hs.endBit_eq ▸ hj
  | a :: ms, c, hc, hp, i + 1, j + 1, m, n, hij, hm, hn =>
    slotAt_ordered ms (places hc (hp a List.mem_cons_self)).unitFits
      (fun k hk => hp k (List.mem_cons_of_mem a hk)) i j m n (Nat.lt_of_succ_lt_succ hij) hm hn

theorem slotAt_separate : ∀ (ms : List Member) {c : Cursor}, c.UnitFits →
    (∀ m ∈ ms, m.Placeable) → ∀ i j m n, i < j → ms[i]? = some m → ms[j]? = some n →
    (c.slotAt ms i).endByte m ≤ (c.slotAt ms j).start ∨
    ((c.slotAt ms i).start = (c.slotAt ms j).start ∧
      ∃ t, ∀ k, i ≤ k → k ≤ j → ∃ width, ms[k]? = some (.bits t width))
  | [], _, _, _, _, _, _, _, _, h, _ => by simp at h
  | a :: ms, c, hc, hp, 0, j + 1, m, n, _, hm, hn => by
    cases hm
    have hs := places hc (hp a List.mem_cons_self)
    rcases offset_le_start_or_unit ms hs.unitFits (fun k hk => hp k (List.mem_cons_of_mem a hk)) hn
      with hle | ⟨t, used, hu, hend, hbits⟩
    · exact Or.inl (hs.endByte_eq ▸ hle)
    · obtain ⟨width, rfl, -⟩ := unit_place hu
      refine Or.inr ⟨?_, t, fun k _ hk => ?_⟩
      · exact Nat.add_right_cancel (hs.endByte_eq.trans hend.symm)
      · cases k with
        | zero => exact ⟨width, rfl⟩
        | succ k => exact hbits k (Nat.le_of_succ_le_succ hk)
  | a :: ms, c, hc, hp, i + 1, j + 1, m, n, hij, hm, hn => by
    have hs := places hc (hp a List.mem_cons_self)
    rcases slotAt_separate ms hs.unitFits (fun k hk => hp k (List.mem_cons_of_mem a hk)) i j m n
      (Nat.lt_of_succ_lt_succ hij) hm hn with hle | ⟨hstart, t, hbits⟩
    · exact Or.inl hle
    · refine Or.inr ⟨hstart, t, fun k hik hkj => ?_⟩
      cases k with
      | zero => exact absurd hik (by omega)
      | succ k => exact hbits k (Nat.le_of_succ_le_succ hik) (Nat.le_of_succ_le_succ hkj)

theorem endByte_le_foldl : ∀ (ms : List Member) {c : Cursor}, c.UnitFits →
    (∀ m ∈ ms, m.Placeable) → ∀ i m, ms[i]? = some m →
    (c.slotAt ms i).endByte m ≤ (ms.foldl place c).offset
  | [], _, _, _, _, _, h => by simp at h
  | a :: ms, c, hc, hp, 0, m, h => by
    cases h
    have hs := places hc (hp a List.mem_cons_self)
    show ((c.place a).lastSlot a).endByte a ≤ (ms.foldl place (c.place a)).offset
    rw [hs.endByte_eq]
    exact offset_le_foldl ms _ (fun k hk => (hp k (List.mem_cons_of_mem a hk)).align_pos)
  | a :: ms, c, hc, hp, i + 1, m, h =>
    endByte_le_foldl ms (places hc (hp a List.mem_cons_self)).unitFits
      (fun k hk => hp k (List.mem_cons_of_mem a hk)) i m h

/-- The end of a struct is where it began, or the end of some member or unit. -/
theorem offset_foldl_le {n : Nat} : ∀ (ms : List Member) {c : Cursor}, c.UnitFits →
    (∀ m ∈ ms, m.Placeable) → c.offset ≤ n →
    (∀ i m, ms[i]? = some m → (c.slotAt ms i).endByte m ≤ n) → (ms.foldl place c).offset ≤ n
  | [], _, _, _, hn, _ => hn
  | a :: ms, c, hc, hp, _, h => by
    have hs := places hc (hp a List.mem_cons_self)
    refine offset_foldl_le ms hs.unitFits (fun k hk => hp k (List.mem_cons_of_mem a hk)) ?_
      (fun i m hm => h (i + 1) m hm)
    rw [← hs.endByte_eq]
    exact h 0 a rfl

theorem unitFits_start : start.UnitFits := by
  intro t used h
  cases h

end Cursor

/-! ## Placements -/

section
variable {ms : List Member} (hp : ∀ m ∈ ms, m.Placeable)
include hp

theorem isPlacement_struct :
    IsPlacement .struct ms (Extent.ofStruct ms) (Cursor.start.slotAt ms) := by
  have hc := Cursor.unitFits_start
  have hpos : 0 < (Extent.ofStruct ms).align := Cursor.align_le_foldl ms Cursor.start
  have hcovers : ∀ i m, ms[i]? = some m →
      (Cursor.start.slotAt ms i).endByte m ≤ (Extent.ofStruct ms).size := fun i m h =>
    Nat.le_trans (Cursor.endByte_le_foldl ms hc hp i m h) (le_roundUp _ hpos)
  exact {
    holds := fun i m h => Cursor.slotAt_holds ms hc hp h
    within := fun i m h => Nat.le_trans (Cursor.slotAt_holds ms hc hp h).endBit_le
      (Nat.mul_le_mul_left 8 (hcovers i m h))
    covers := hcovers
    aligned := dvd_roundUp _ _
    least := fun n hn h => roundUp_le hpos hn
      (Cursor.offset_foldl_le ms hc hp (Nat.zero_le n) h)
    inOrder := fun _ => ⟨Cursor.slotAt_ordered ms hc hp, Cursor.slotAt_separate ms hc hp⟩
    atStart := nofun }

theorem isPlacement_union : IsPlacement .union ms (Extent.ofUnion ms) (fun _ => ⟨0, 0⟩) := by
  have hpos : 0 < (Extent.ofUnion ms).align := (Extent.le_foldl_cover ms ⟨0, 1⟩).2
  have hholds : ∀ (i : Nat) m, ms[i]? = some m → (⟨0, 0⟩ : Slot).Holds m := fun i m h =>
    ⟨Nat.dvd_zero _, by simpa using (hp m (List.mem_of_getElem? h)).width_le⟩
  have hcovers : ∀ (i : Nat) m, ms[i]? = some m →
      (⟨0, 0⟩ : Slot).endByte m ≤ (Extent.ofUnion ms).size := by
    intro i m h
    have hsize := Extent.size_le_foldl_cover ms ⟨0, 1⟩ (List.mem_of_getElem? h)
    have hend : (⟨0, 0⟩ : Slot).endByte m = m.extent.size := Nat.zero_add _
    rw [hend]
    exact Nat.le_trans hsize (le_roundUp _ hpos)
  exact {
    holds := hholds
    within := fun i m h => Nat.le_trans (hholds i m h).endBit_le
      (Nat.mul_le_mul_left 8 (hcovers i m h))
    covers := hcovers
    aligned := dvd_roundUp _ _
    least := by
      intro n hn h
      refine roundUp_le hpos hn (Extent.size_foldl_cover_le ms ⟨0, 1⟩ (Nat.zero_le n) ?_)
      intro m hm
      obtain ⟨i, hi⟩ := List.getElem?_of_mem hm
      have hend : (⟨0, 0⟩ : Slot).endByte m = m.extent.size := Nat.zero_add _
      exact hend ▸ h i m hi
    inOrder := nofun
    atStart := fun _ _ _ _ => rfl }

theorem exists_isPlacement_ofMembers (kind : AggregateKind) :
    ∃ slot, IsPlacement kind ms (Extent.ofMembers kind ms) slot := by
  cases kind with
  | struct => exact ⟨_, isPlacement_struct hp⟩
  | union => exact ⟨_, isPlacement_union hp⟩

end

/-! ## Aggregates at every depth -/

namespace Aggregate

/-- An aggregate contains itself, and what a nested aggregate of its fields contains. -/
inductive Contains : Aggregate → Aggregate → Prop where
  | self (a : Aggregate) : Contains a a
  | nested {a b : Aggregate} {name : Option String} {kind : AggregateKind} {fields : List Field} :
      Field.nested name kind fields ∈ a.fields → Contains ⟨kind, fields⟩ b → Contains a b

theorem widthsFit_of_mem : ∀ {fields : List Field} {f : Field},
    Field.allWidthsFit fields = true → f ∈ fields → f.widthsFit = true
  | g :: fields, f, h, hf => by
    obtain ⟨hg, hfields⟩ := Bool.and_eq_true_iff.mp h
    rcases List.mem_cons.mp hf with rfl | hf
    · exact hg
    · exact widthsFit_of_mem hfields hf

theorem Contains.widthsFit {a b : Aggregate} (hb : a.Contains b) (h : a.widthsFit = true) :
    b.widthsFit = true := by
  induction hb with
  | self a => exact h
  | nested hf _ ih => exact ih (widthsFit_of_mem h hf)

theorem placeable_of_widthsFit {f : Field} (h : f.widthsFit = true) : f.member.Placeable := by
  refine ⟨f.align_pos, ?_⟩
  cases f with
  | scalar _ t => exact Nat.le_refl _
  | bits _ t width =>
    simp only [Field.widthsFit, Bool.and_eq_true, decide_eq_true_eq] at h
    exact h.2
  | nested _ kind fields => exact Nat.le_refl _

/-- **The extent of an aggregate is that of a placement of its fields**, and so is the extent of
every aggregate inside it. -/
theorem exists_isPlacement (a b : Aggregate) (h : a.widthsFit = true) (hb : a.Contains b) :
    ∃ slot, IsPlacement b.kind (b.fields.map Field.member) b.extent slot := by
  have hfit : Field.allWidthsFit b.fields = true := hb.widthsFit h
  have hp : ∀ m ∈ b.fields.map Field.member, m.Placeable := by
    intro m hm
    obtain ⟨f, hf, rfl⟩ := List.mem_map.mp hm
    exact placeable_of_widthsFit (widthsFit_of_mem hfit hf)
  have hext : b.extent = Extent.ofMembers b.kind (b.fields.map Field.member) := by
    rw [extent, Field.members_eq_map]
  rw [hext]
  exact exists_isPlacement_ofMembers hp b.kind

theorem exists_isPlacement_gate :
    ∃ b, Supplement.interruptDescriptor.layout.Contains b ∧ b.kind = .struct ∧
      b.fields.length = 10 ∧
      ∃ slot, IsPlacement b.kind (b.fields.map Field.member) b.extent slot := by
  have hb := Contains.nested (a := Supplement.interruptDescriptor.layout) List.mem_cons_self
    (Contains.self _)
  exact ⟨_, hb, rfl, rfl, exists_isPlacement _ _ (by decide) hb⟩

end Aggregate

end KitSurface
