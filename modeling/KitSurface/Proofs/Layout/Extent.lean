import KitSurface.Layout.Measure
/-!
How sizes and alignments grow while an aggregate is measured. `roundUp n a` is the least multiple
of `a` that is at least `n` (`le_roundUp`, `dvd_roundUp`, `roundUp_le`). In a struct the end and the
alignment of the members only grow (`Cursor.offset_le_foldl`, `Cursor.align_le_foldl`), in a union
the size and the alignment are the greatest of those of the members (`Extent.size_le_foldl_cover`,
`Extent.size_foldl_cover_le`). Every extent of an aggregate has a positive alignment
(`Field.align_pos`), so that rounding up to it means something.
-/

namespace KitSurface

/-! ## Rounding up -/

theorem dvd_roundUp (n a : Nat) : a ∣ roundUp n a :=
  Nat.dvd_mul_left _ _

theorem le_roundUp (n : Nat) {a : Nat} (ha : 0 < a) : n ≤ roundUp n a := by
  have hd := Nat.div_add_mod (n + a - 1) a
  have hm := Nat.mod_lt (n + a - 1) ha
  rw [Nat.mul_comm] at hd
  unfold roundUp
  omega

theorem roundUp_lt (n : Nat) {a : Nat} (ha : 0 < a) : roundUp n a < n + a := by
  have hd := Nat.div_mul_le_self (n + a - 1) a
  unfold roundUp
  omega

theorem roundUp_le {n a m : Nat} (ha : 0 < a) (hd : a ∣ m) (hm : n ≤ m) : roundUp n a ≤ m := by
  obtain ⟨k, rfl⟩ := hd
  obtain ⟨q, hq⟩ := dvd_roundUp n a
  have hlt : a * q < a * (k + 1) := by
    rw [← hq, Nat.mul_add, Nat.mul_one]
    exact Nat.lt_of_lt_of_le (roundUp_lt n ha) (by omega)
  have hk : q < k + 1 := Nat.lt_of_mul_lt_mul_left hlt
  rw [hq]
  exact Nat.mul_le_mul_left a (Nat.le_of_lt_succ hk)

theorem roundUp_eq_self {n a : Nat} (ha : 0 < a) (hd : a ∣ n) : roundUp n a = n :=
  Nat.le_antisymm (roundUp_le ha hd (Nat.le_refl n)) (le_roundUp n ha)

/-- Rounding keeps the order, also to a multiple of the alignment. -/
theorem roundUp_le_roundUp {n m a b : Nat} (hb : 0 < b) (hd : a ∣ b) (h : n ≤ m) :
    roundUp n a ≤ roundUp m b := by
  apply roundUp_le (Nat.pos_of_dvd_of_pos hd hb)
  · exact Nat.dvd_trans hd (dvd_roundUp m b)
  · exact Nat.le_trans h (le_roundUp m hb)

/-! ## Structs -/

namespace Scalar

@[simp] theorem extent_size (t : Scalar) : t.extent.size = t.size := rfl

@[simp] theorem extent_align (t : Scalar) : t.extent.align = t.size := rfl

end Scalar

namespace Cursor

/-- A unit takes only bit-fields of its own type for which it has bits left. -/
theorem room?_eq_some {c : Cursor} {t : Scalar} {width used : Nat}
    (h : c.room? t width = some used) : c.unit = some (t, used) ∧ used + width ≤ t.bits := by
  unfold room? at h
  split at h
  · next type used' hu =>
    split at h
    · next hfit =>
      cases h
      exact ⟨hfit.1 ▸ hu, hfit.2⟩
    · cases h
  · cases h

/-- What placing a member does: it joins the open unit, or it goes behind all that is placed. -/
theorem place_cases (c : Cursor) (m : Member) :
    (∃ t width used, m = .bits t width ∧ c.unit = some (t, used) ∧ used + width ≤ t.bits ∧
      c.place m = { c with unit := some (t, used + width) }) ∨
    (∃ unit, c.place m = c.append m.extent unit ∧
      (unit = none ∧ m = .whole m.extent ∨ ∃ t width, m = .bits t width ∧ unit = some (t, width))) := by
  cases m with
  | whole e => exact Or.inr ⟨none, rfl, Or.inl ⟨rfl, rfl⟩⟩
  | bits t width =>
    cases hr : c.room? t width with
    | none =>
      refine Or.inr ⟨some (t, width), ?_, Or.inr ⟨t, width, rfl, rfl⟩⟩
      simp only [place, hr, Member.extent]
    | some used =>
      obtain ⟨hu, hfit⟩ := room?_eq_some hr
      refine Or.inl ⟨t, width, used, rfl, hu, hfit, ?_⟩
      simp only [place, hr]

/-- A unit that is open behind a member is one that the member joined, or one that it opened. -/
theorem unit_place {c : Cursor} {m : Member} {t : Scalar} {used : Nat}
    (h : (c.place m).unit = some (t, used)) : ∃ width, m = .bits t width ∧
      ((∃ used', c.unit = some (t, used') ∧ (c.place m).offset = c.offset) ∨
        c.offset + t.size ≤ (c.place m).offset) := by
  rcases c.place_cases m with ⟨t', width, used', rfl, hu, -, hj⟩ | ⟨unit, ha, hopen⟩
  · rw [hj] at h ⊢
    cases h
    exact ⟨width, rfl, Or.inl ⟨used', hu, rfl⟩⟩
  · rw [ha] at h ⊢
    rcases hopen with ⟨rfl, -⟩ | ⟨t', width, rfl, rfl⟩
    · cases h
    · cases h
      exact ⟨used, rfl, Or.inr (Nat.add_le_add_right (le_roundUp _ t.size_pos) _)⟩

theorem offset_le_place (c : Cursor) {m : Member} (hm : 0 < m.extent.align) :
    c.offset ≤ (c.place m).offset := by
  rcases c.place_cases m with ⟨_, _, _, -, -, -, h⟩ | ⟨_, h, -⟩
  · exact Nat.le_of_eq (congrArg Cursor.offset h).symm
  · rw [h]
    exact Nat.le_trans (le_roundUp _ hm) (Nat.le_add_right _ _)

theorem align_le_place (c : Cursor) (m : Member) : c.align ≤ (c.place m).align := by
  rcases c.place_cases m with ⟨_, _, _, -, -, -, h⟩ | ⟨_, h, -⟩
  · exact Nat.le_of_eq (congrArg Cursor.align h).symm
  · rw [h]; exact Nat.le_max_left _ _

theorem offset_le_foldl : ∀ (ms : List Member) (c : Cursor), (∀ m ∈ ms, 0 < m.extent.align) →
    c.offset ≤ (ms.foldl place c).offset
  | [], _, _ => Nat.le_refl _
  | m :: ms, c, hp => by
    have hm := c.offset_le_place (hp m List.mem_cons_self)
    have hms := offset_le_foldl ms (c.place m) (fun n hn => hp n (List.mem_cons_of_mem m hn))
    exact Nat.le_trans hm hms

theorem align_le_foldl : ∀ (ms : List Member) (c : Cursor), c.align ≤ (ms.foldl place c).align
  | [], _ => Nat.le_refl _
  | m :: ms, c => Nat.le_trans (c.align_le_place m) (align_le_foldl ms (c.place m))

end Cursor

/-! ## Unions -/

namespace Extent

theorem le_foldl_cover : ∀ (ms : List Member) (e : Extent),
    e.size ≤ (ms.foldl cover e).size ∧ e.align ≤ (ms.foldl cover e).align
  | [], _ => ⟨Nat.le_refl _, Nat.le_refl _⟩
  | m :: ms, e => by
    obtain ⟨hs, ha⟩ := le_foldl_cover ms (e.cover m)
    exact ⟨Nat.le_trans (Nat.le_max_left _ _) hs, Nat.le_trans (Nat.le_max_left _ _) ha⟩

theorem size_le_foldl_cover : ∀ (ms : List Member) (e : Extent) {m : Member}, m ∈ ms →
    m.extent.size ≤ (ms.foldl cover e).size
  | m :: ms, e, n, hn => by
    rcases List.mem_cons.mp hn with rfl | hn
    · exact Nat.le_trans (Nat.le_max_right _ _) (le_foldl_cover ms (e.cover n)).1
    · exact size_le_foldl_cover ms (e.cover m) hn

theorem size_foldl_cover_le {n : Nat} : ∀ (ms : List Member) (e : Extent), e.size ≤ n →
    (∀ m ∈ ms, m.extent.size ≤ n) → (ms.foldl cover e).size ≤ n
  | [], _, he, _ => he
  | m :: ms, e, he, hn => by
    refine size_foldl_cover_le ms (e.cover m) ?_ (fun k hk => hn k (List.mem_cons_of_mem m hk))
    exact Nat.max_le.mpr ⟨he, hn m List.mem_cons_self⟩

theorem align_ofMembers_pos (kind : AggregateKind) (ms : List Member) :
    0 < (ofMembers kind ms).align := by
  cases kind with
  | struct => exact Cursor.align_le_foldl ms Cursor.start
  | union => exact (le_foldl_cover ms ⟨0, 1⟩).2

end Extent

theorem Field.align_pos (f : Field) : 0 < f.member.extent.align := by
  cases f with
  | scalar _ t => exact t.size_pos
  | bits _ t _ => exact t.size_pos
  | nested _ kind fields => exact Extent.align_ofMembers_pos kind _

end KitSurface
