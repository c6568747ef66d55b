import KitSurface.Proofs.Layout.Growth
import Mathlib.Algebra.GroupWithZero.Nat
/-!
Bit-fields of one type are packed into as few units as their order allows. The packing is greedy: a
unit is closed when the next bit-field does not fit. That gives a cut of the list into groups, one
for each unit (`Cursor.packs`). For the bound from below a cut is itself written as a struct,
with a gap behind each group that ends the unit; such a struct takes one unit for each group
(`Cursor.offset_separated`), and without its gaps it is no larger, by the growth of layouts.
Main statement: alignment and size of a struct of bit-fields (`Aggregate.extent_ofBitFields`).
-/

namespace KitSurface

/-- A list of widths is cut into groups of consecutive ones, each of which fits into some bits. -/
structure IsCut (bits : Nat) (widths : List Nat) (groups : List (List Nat)) : Prop where
  flatten_eq : groups.flatten = widths
  ne_nil : ∀ g ∈ groups, g ≠ []
  sum_le : ∀ g ∈ groups, g.sum ≤ bits

namespace IsCut

variable {bits : Nat} {widths g : List Nat} {groups : List (List Nat)}

theorem cons (hg : g ≠ []) (hsum : g.sum ≤ bits) (h : IsCut bits widths groups) :
    IsCut bits (g ++ widths) (g :: groups) where
  flatten_eq := by rw [List.flatten_cons, h.flatten_eq]
  ne_nil := List.forall_mem_cons.mpr ⟨hg, h.ne_nil⟩
  sum_le := List.forall_mem_cons.mpr ⟨hsum, h.sum_le⟩

theorem nil : IsCut bits [] [] :=
  ⟨rfl, nofun, nofun⟩

end IsCut

namespace Member

def bitFields (t : Scalar) (widths : List Nat) : List Member :=
  widths.map (.bits t)

/-- A member that takes nothing and ends an open unit. -/
def gap : Member :=
  .whole ⟨0, 1⟩

/-- Groups of bit-fields with a gap behind each group. -/
def separated (t : Scalar) (groups : List (List Nat)) : List Member :=
  groups.flatMap fun g => bitFields t g ++ [gap]

variable {t : Scalar}

theorem bitFields_append (t : Scalar) (ws ws' : List Nat) :
    bitFields t (ws ++ ws') = bitFields t ws ++ bitFields t ws' :=
  List.map_append

theorem separated_cons (t : Scalar) (g : List Nat) (groups : List (List Nat)) :
    separated t (g :: groups) = bitFields t g ++ gap :: separated t groups := by
  simp [separated]

theorem bitFields_flatten_sublist (t : Scalar) : ∀ groups : List (List Nat),
    (bitFields t groups.flatten).Sublist (separated t groups)
  | [] => List.Sublist.refl []
  | g :: groups => by
    rw [List.flatten_cons, bitFields_append, separated_cons]
    apply List.Sublist.append (List.Sublist.refl _)
    exact (bitFields_flatten_sublist t groups).cons gap

theorem align_pos_of_mem_separated {groups : List (List Nat)} {m : Member}
    (h : m ∈ separated t groups) : 0 < m.extent.align := by
  obtain ⟨g, -, hm⟩ := List.mem_flatMap.mp h
  rcases List.mem_append.mp hm with hm | hm
  · obtain ⟨w, -, rfl⟩ := List.mem_map.mp hm
    exact t.size_pos
  · rw [List.mem_singleton.mp hm]
    exact Nat.one_pos

theorem greatest_aligns_bitFields {ws : List Nat} (h : ws ≠ []) :
    greatest (aligns (bitFields t ws)) = t.size := by
  apply Nat.le_antisymm
  · apply greatest_le t.size_pos
    intro a ha
    obtain ⟨m, hm, rfl⟩ := List.mem_map.mp ha
    obtain ⟨w, -, rfl⟩ := List.mem_map.mp hm
    exact Nat.le_refl _
  · obtain ⟨w, hw⟩ := List.exists_mem_of_ne_nil ws h
    have hm : Member.bits t w ∈ bitFields t ws := List.mem_map_of_mem hw
    exact le_greatest (List.mem_map_of_mem hm)

end Member

/-! ## Groups as units -/

namespace Cursor

variable {c : Cursor} {t : Scalar}

theorem foldl_place_of_room : ∀ (ws : List Nat) {c : Cursor} {used : Nat},
    c.unit = some (t, used) → used + ws.sum ≤ t.bits →
    (Member.bitFields t ws).foldl place c = { c with unit := some (t, used + ws.sum) }
  | [], c, used, hu, _ => by
    cases c
    cases hu
    rfl
  | w :: ws, c, used, hu, hfit => by
    rw [List.sum_cons, ← Nat.add_assoc] at hfit ⊢
    have hstep : c.place (.bits t w) = { c with unit := some (t, used + w) } :=
      place_of_room hu (by omega)
    have ih := foldl_place_of_room ws (c := { c with unit := some (t, used + w) }) rfl hfit
    exact (congrArg (List.foldl place · (Member.bitFields t ws)) hstep).trans ih

theorem place_of_closed (hu : c.unit = none) (w : Nat) :
    c.place (.bits t w) = c.append t.extent (some (t, w)) := by
  simp [place, room?, hu]

theorem offset_append_of_dvd (hd : t.size ∣ c.offset) (unit : Option (Scalar × Nat)) :
    (c.append t.extent unit).offset = c.offset + t.size := by
  show roundUp c.offset t.size + t.size = c.offset + t.size
  rw [roundUp_eq_self t.size_pos hd]

theorem offset_foldl_group (hu : c.unit = none) (hd : t.size ∣ c.offset) : ∀ {g : List Nat},
    g ≠ [] → g.sum ≤ t.bits →
    ((Member.bitFields t g).foldl place c).offset = c.offset + t.size
  | w :: ws, _, hsum => by
    rw [List.sum_cons] at hsum
    calc ((Member.bitFields t (w :: ws)).foldl place c).offset
        = ((Member.bitFields t ws).foldl place (c.place (.bits t w))).offset := rfl
      _ = (c.append t.extent (some (t, w))).offset := by
          rw [place_of_closed hu, foldl_place_of_room ws rfl hsum]
      _ = c.offset + t.size := offset_append_of_dvd hd _

theorem offset_place_gap (c : Cursor) : (c.place Member.gap).offset = c.offset :=
  roundUp_eq_self Nat.one_pos (Nat.one_dvd _)

theorem offset_separated : ∀ (groups : List (List Nat)) {c : Cursor}, c.unit = none →
    t.size ∣ c.offset → (∀ g ∈ groups, g ≠ []) → (∀ g ∈ groups, g.sum ≤ t.bits) →
    ((Member.separated t groups).foldl place c).offset = c.offset + t.size * groups.length
  | [], _, _, _, _, _ => rfl
  | g :: groups, c, hu, hd, hne, hsum => by
    obtain ⟨hg, hne⟩ := List.forall_mem_cons.mp hne
    obtain ⟨hgsum, hsum⟩ := List.forall_mem_cons.mp hsum
    have hgroup := offset_foldl_group hu hd hg hgsum
    generalize hc' : (Member.bitFields t g).foldl place c = c' at hgroup
    have hoff : (c'.place Member.gap).offset = c.offset + t.size :=
      c'.offset_place_gap.trans hgroup
    have hd' : t.size ∣ (c'.place Member.gap).offset := by
      rw [hoff]
      exact Nat.dvd_add hd (Nat.dvd_refl _)
    have ih := offset_separated groups (c := c'.place Member.gap) rfl hd' hne hsum
    calc ((Member.separated t (g :: groups)).foldl place c).offset
        = ((Member.separated t groups).foldl place (c'.place Member.gap)).offset := by
          rw [Member.separated_cons, List.foldl_append, hc', List.foldl_cons]
      _ = (c'.place Member.gap).offset + t.size * groups.length := ih
      _ = c.offset + t.size * (groups.length + 1) := by
          rw [hoff, Nat.mul_succ]
          omega

/-! ## Units as groups -/

/-- The packing from an open unit on: some bit-fields join the unit, and there is a group of the rest
for each further unit. -/
def Packs (c : Cursor) (t : Scalar) (used : Nat) (ws : List Nat) : Prop :=
  ∃ joined rest groups, ws = joined ++ rest ∧ used + joined.sum ≤ t.bits ∧
    IsCut t.bits rest groups ∧
    ((Member.bitFields t ws).foldl place c).offset = c.offset + t.size * groups.length

/-- A bit-field that opens a unit is the first one of a group, and those that join the unit are the
others. -/
theorem Packs.exists_isCut {w : Nat} {ws : List Nat} (hd : t.size ∣ c.offset)
    (hp : c.place (.bits t w) = c.append t.extent (some (t, w)))
    (h : (c.append t.extent (some (t, w))).Packs t w ws) :
    ∃ groups, IsCut t.bits (w :: ws) groups ∧
      ((Member.bitFields t (w :: ws)).foldl place c).offset =
        c.offset + t.size * groups.length := by
  obtain ⟨joined, rest, groups, rfl, hsum, hcut, hoff⟩ := h
  refine ⟨(w :: joined) :: groups, ?_, ?_⟩
  · exact hcut.cons (List.cons_ne_nil w joined) (by rwa [List.sum_cons])
  · calc ((Member.bitFields t (w :: (joined ++ rest))).foldl place c).offset
        = ((Member.bitFields t (joined ++ rest)).foldl place (c.place (.bits t w))).offset := rfl
      _ = (c.append t.extent (some (t, w))).offset + t.size * groups.length := by rw [hp, hoff]
      _ = c.offset + t.size * (groups.length + 1) := by
          rw [offset_append_of_dvd hd, Nat.mul_succ]
          omega

theorem packs : ∀ (ws : List Nat) {c : Cursor} {used : Nat}, c.unit = some (t, used) →
    t.size ∣ c.offset → used ≤ t.bits → (∀ w ∈ ws, w ≤ t.bits) → c.Packs t used ws
  | [], _, _, _, _, hused, _ => ⟨[], [], [], rfl, hused, .nil, rfl⟩
  | w :: ws, c, used, hu, hd, hused, hfit => by
    obtain ⟨hw, hws⟩ := List.forall_mem_cons.mp hfit
    rcases c.place_bits_cases t w with ⟨used', hu', hroom, hp⟩ | hp
    · -- The bit-field joins the unit.
      rw [hu] at hu'
      cases hu'
      obtain ⟨joined, rest, groups, rfl, hsum, hcut, hoff⟩ :=
        packs ws (c := { c with unit := some (t, used + w) }) rfl hd hroom hws
      refine ⟨w :: joined, rest, groups, rfl, ?_, hcut, ?_⟩
      · rw [List.sum_cons]
        omega
      · rw [← hoff, ← hp]
        rfl
    · -- It opens the next one, so that nothing joins the unit any more.
      have hnext := packs ws rfl (c.dvd_offset_append t (some (t, w))) hw hws
      obtain ⟨groups, hcut, hoff⟩ := hnext.exists_isCut hd hp
      exact ⟨[], w :: ws, groups, rfl, hused, hcut, hoff⟩

end Cursor

/-! ## Structs of bit-fields -/

namespace Extent

variable {t : Scalar} {ws : List Nat}

theorem exists_isCut (hne : ws ≠ []) (hfit : ∀ w ∈ ws, w ≤ t.bits) :
    ∃ groups, IsCut t.bits ws groups ∧
      ((Member.bitFields t ws).foldl Cursor.place Cursor.start).offset =
        t.size * groups.length := by
  obtain ⟨w, ws, rfl⟩ := List.exists_cons_of_ne_nil hne
  obtain ⟨hw, hws⟩ := List.forall_mem_cons.mp hfit
  have hfirst := Cursor.place_of_closed (c := Cursor.start) (t := t) rfl w
  have hpacks := Cursor.packs ws rfl (Cursor.start.dvd_offset_append t (some (t, w))) hw hws
  obtain ⟨groups, hcut, hoff⟩ := hpacks.exists_isCut (Nat.dvd_zero t.size) hfirst
  exact ⟨groups, hcut, hoff.trans (Nat.zero_add _)⟩

theorem offset_le_of_isCut {groups : List (List Nat)} (h : IsCut t.bits ws groups) :
    ((Member.bitFields t ws).foldl Cursor.place Cursor.start).offset ≤
      t.size * groups.length := by
  have hsub : (Member.bitFields t ws).Sublist (Member.separated t groups) :=
    h.flatten_eq ▸ Member.bitFields_flatten_sublist t groups
  have hbehind := (Cursor.IsBehind.refl Cursor.start).foldl (Member.areWithin_of_sublist hsub)
    Cursor.endsInUnit_start fun n hn => Member.align_pos_of_mem_separated hn
  have hoff := Cursor.offset_separated groups (c := Cursor.start) rfl (Nat.dvd_zero t.size)
    h.ne_nil h.sum_le
  have hzero : Cursor.start.offset = 0 := rfl
  have hle := hbehind.offset_le
  omega

end Extent

namespace Aggregate

/-- The struct of bit-fields of one type, from their names and widths. -/
def ofBitFields (t : Scalar) (fields : List (Option String × Nat)) : Aggregate :=
  ⟨.struct, fields.map fun f => .bits f.1 t f.2⟩

theorem members_ofBitFields (t : Scalar) (fields : List (Option String × Nat)) :
    Field.members (ofBitFields t fields).fields = Member.bitFields t (fields.map Prod.snd) := by
  rw [Field.members_eq_map, ofBitFields, Member.bitFields, List.map_map, List.map_map]
  rfl

/-- **Bit-fields of one type take as many units as the shortest cut of their widths has groups**,
and the struct is aligned as one unit is. Bit-fields without bits may be among them. -/
theorem extent_ofBitFields (t : Scalar) {fields : List (Option String × Nat)} (hne : fields ≠ [])
    (hfit : ∀ f ∈ fields, f.2 ≤ t.bits) :
    (ofBitFields t fields).extent.align = t.size ∧
    ∃ n, IsLeast {n | ∃ groups, IsCut t.bits (fields.map Prod.snd) groups ∧ groups.length = n} n ∧
      (ofBitFields t fields).extent.size = t.size * n := by
  have hne' : fields.map Prod.snd ≠ [] := fun h => hne (List.map_eq_nil_iff.mp h)
  have hfit' : ∀ w ∈ fields.map Prod.snd, w ≤ t.bits := List.forall_mem_map.mpr hfit
  have halign : (ofBitFields t fields).extent.align = t.size := by
    rw [extent, Extent.align_ofMembers, members_ofBitFields]
    exact Member.greatest_aligns_bitFields hne'
  obtain ⟨groups, hcut, hoff⟩ := Extent.exists_isCut hne' hfit'
  refine ⟨halign, groups.length, ⟨⟨groups, hcut, rfl⟩, ?_⟩, ?_⟩
  · rintro n ⟨groups', hcut', rfl⟩
    have hle := Extent.offset_le_of_isCut hcut'
    rw [hoff] at hle
    exact Nat.le_of_mul_le_mul_left hle t.size_pos
  · have hsize : (ofBitFields t fields).extent.size =
        roundUp ((Member.bitFields t (fields.map Prod.snd)).foldl Cursor.place
          Cursor.start).offset (ofBitFields t fields).extent.align := by
      rw [extent, members_ofBitFields]
      rfl
    rw [hsize, halign, hoff]
    exact roundUp_eq_self t.size_pos (Nat.dvd_mul_right _ _)

/-- Bit-fields of which the first two fill a unit, so that the third one opens the next. -/
def filling : List (Option String × Nat) :=
  [(some "Low", 20), (some "Middle", 12), (some "High", 1), (some "Rest", 31)]

/-- Two units are enough for two groups that both fill theirs, and one is not. -/
theorem extent_ofBitFields_filling :
    filling ≠ [] ∧ (∀ f ∈ filling, f.2 ≤ Scalar.unsignedLong.bits) ∧
    (ofBitFields .unsignedLong filling).extent = ⟨8, 4⟩ ∧
    (ofBitFields .unsignedLong filling).extent.align = Scalar.unsignedLong.size ∧
    ∃ n, IsLeast {n | ∃ groups, IsCut Scalar.unsignedLong.bits (filling.map Prod.snd) groups ∧
        groups.length = n} n ∧
      (ofBitFields .unsignedLong filling).extent.size = Scalar.unsignedLong.size * n := by
  have hne : filling ≠ [] := by decide
  have hfit : ∀ f ∈ filling, f.2 ≤ Scalar.unsignedLong.bits := by decide
  exact ⟨hne, hfit, by decide, extent_ofBitFields .unsignedLong hne hfit⟩

end Aggregate

end KitSurface
