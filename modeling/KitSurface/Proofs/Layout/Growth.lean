import KitSurface.Proofs.Layout.Alignment
import Mathlib.Data.List.Forall2
/-!
A field more never makes an aggregate smaller. Two structs are measured side by side, the second one
with members more, and with larger aggregates in the place of those of the first one
(`Member.AreWithin`). The cursors stay in step (`Cursor.IsBehind`): the first one is no further, and
it pays nothing for that. Where the second one has a unit open, the first one has the same unit open
with no more bits in use, or it could still put a whole unit before the end of that one; so that a
bit-field which is free in the second struct leads no further in the first. In a union only the
greatest member counts. Main statement: a field that is put in, at any position and depth, lets
neither the size nor the alignment of the aggregate decrease (`Aggregate.extent_le_insertField`).
-/

namespace KitSurface

/-- An extent is at most another one in its size and in its alignment. -/
instance : LE Extent :=
  ⟨fun e e' => e.size ≤ e'.size ∧ e.align ≤ e'.align⟩

theorem Extent.le_refl (e : Extent) : e ≤ e :=
  ⟨Nat.le_refl _, Nat.le_refl _⟩

namespace Member

/-- Where the second member fits, the first one does. -/
inductive IsWithin : Member → Member → Prop
  | whole {e e' : Extent} (hsize : e.size ≤ e'.size) (hdvd : e.align ∣ e'.align) :
    IsWithin (.whole e) (.whole e')
  | bits (t : Scalar) (width : Nat) : IsWithin (.bits t width) (.bits t width)

variable {m n : Member}

theorem IsWithin.refl : ∀ m : Member, m.IsWithin m
  | .whole _ => .whole (Nat.le_refl _) (Nat.dvd_refl _)
  | .bits t width => .bits t width

instance : Std.Refl IsWithin :=
  ⟨IsWithin.refl⟩

theorem IsWithin.size_le (h : m.IsWithin n) : m.extent.size ≤ n.extent.size := by
  cases h with
  | whole hsize _ => exact hsize
  | bits t _ => exact Nat.le_refl _

theorem IsWithin.align_dvd (h : m.IsWithin n) : m.extent.align ∣ n.extent.align := by
  cases h with
  | whole _ hdvd => exact hdvd
  | bits t _ => exact Nat.dvd_refl _

/-- The members of the first list are within members of the second one, in their order. -/
def AreWithin (ms ns : List Member) : Prop :=
  List.SublistForall₂ IsWithin ms ns

variable {ms ns : List Member}

theorem areWithin_of_sublist (h : ms.Sublist ns) : AreWithin ms ns :=
  h.sublistForall₂

theorem AreWithin.exists_mem (h : AreWithin ms ns) (hm : m ∈ ms) : ∃ n ∈ ns, m.IsWithin n := by
  induction h with
  | nil => cases hm
  | cons hwithin _ ih =>
    rcases List.mem_cons.mp hm with rfl | hm
    · exact ⟨_, List.mem_cons_self, hwithin⟩
    · obtain ⟨n, hn, hmn⟩ := ih hm
      exact ⟨n, List.mem_cons_of_mem _ hn, hmn⟩
  | cons_right _ ih =>
    obtain ⟨n, hn, hmn⟩ := ih hm
    exact ⟨n, List.mem_cons_of_mem _ hn, hmn⟩

theorem AreWithin.greatest_aligns_le (h : AreWithin ms ns) (hp : ∀ n ∈ ns, 0 < n.extent.align) :
    greatest (aligns ms) ≤ greatest (aligns ns) := by
  apply greatest_le (greatest_pos _)
  intro a ha
  obtain ⟨m, hm, rfl⟩ := List.mem_map.mp ha
  obtain ⟨n, hn, hmn⟩ := h.exists_mem hm
  calc m.extent.align
      ≤ n.extent.align := Nat.le_of_dvd (hp n hn) hmn.align_dvd
    _ ≤ greatest (aligns ns) := le_greatest (List.mem_map_of_mem hn)

end Member

/-! ## One step of two structs -/

theorem add_le_of_dvd_of_lt {a m n : Nat} (hm : a ∣ m) (hn : a ∣ n) (h : m < n) : m + a ≤ n := by
  have hle : a ≤ n - m := Nat.le_of_dvd (by omega) (Nat.dvd_sub hn hm)
  omega

namespace Cursor

/-- The first cursor is no further than the second one, and it has no less room. -/
structure IsBehind (c d : Cursor) : Prop where
  offset_le : c.offset ≤ d.offset
  /-- Before the end of an open unit of `d` there is room for a whole unit in `c`, or `c` has the
  unit open too, with no more bits in use. -/
  room : ∀ t used, d.unit = some (t, used) →
    roundUp c.offset t.size + t.size ≤ d.offset ∨
    c.offset = d.offset ∧ ∃ used' ≤ used, c.unit = some (t, used')

variable {c d : Cursor} {m n : Member}

theorem IsBehind.refl (c : Cursor) : c.IsBehind c :=
  ⟨Nat.le_refl _, fun _ used h => Or.inr ⟨rfl, used, Nat.le_refl _, h⟩⟩

/-- A bit-field joins the open unit, or it opens one. -/
theorem place_bits_cases (c : Cursor) (t : Scalar) (width : Nat) :
    (∃ used, c.unit = some (t, used) ∧ used + width ≤ t.bits ∧
      c.place (.bits t width) = { c with unit := some (t, used + width) }) ∨
    c.place (.bits t width) = c.append t.extent (some (t, width)) := by
  rcases c.place_cases (.bits t width) with ⟨t', w, used, hm, hu, hfit, hp⟩ | ⟨unit, hp, hopens⟩
  · cases hm
    exact Or.inl ⟨used, hu, hfit, hp⟩
  · rcases hopens with ⟨-, hm⟩ | ⟨t', w, hm, rfl⟩
    · cases hm
    · cases hm
      exact Or.inr hp

theorem place_of_room {t : Scalar} {width used : Nat} (hu : c.unit = some (t, used))
    (hfit : used + width ≤ t.bits) :
    c.place (.bits t width) = { c with unit := some (t, used + width) } := by
  simp [place, room?, hu, hfit]

/-- The first cursor has not come to the open unit of the second one yet. -/
theorem isBehind_of_room {t : Scalar} {used : Nat} (hle : c.offset ≤ d.offset)
    (hdu : d.unit = some (t, used)) (hroom : roundUp c.offset t.size + t.size ≤ d.offset) :
    c.IsBehind d := by
  refine ⟨hle, fun t' bits h => ?_⟩
  rw [hdu] at h
  cases h
  exact Or.inl hroom

theorem isBehind_of_shared {t : Scalar} {used used' : Nat} (heq : c.offset = d.offset)
    (hcu : c.unit = some (t, used)) (hdu : d.unit = some (t, used')) (hused : used ≤ used') :
    c.IsBehind d := by
  refine ⟨Nat.le_of_eq heq, fun t' bits h => ?_⟩
  rw [hdu] at h
  cases h
  exact Or.inr ⟨heq, used, hused, hcu⟩

/-- Two open units of one type end at multiples of its size: at the same one, or with a whole unit
between them. -/
theorem isBehind_of_units {t : Scalar} {used used' : Nat} (hle : c.offset ≤ d.offset)
    (hc : t.size ∣ c.offset) (hd : t.size ∣ d.offset) (hcu : c.unit = some (t, used))
    (hdu : d.unit = some (t, used')) (hused : used ≤ used') : c.IsBehind d := by
  rcases Nat.lt_or_eq_of_le hle with hlt | heq
  · apply isBehind_of_room hle hdu
    rw [roundUp_eq_self t.size_pos hc]
    exact add_le_of_dvd_of_lt hc hd hlt
  · exact isBehind_of_shared heq hcu hdu hused

theorem dvd_offset_append (c : Cursor) (t : Scalar) (unit : Option (Scalar × Nat)) :
    t.size ∣ (c.append t.extent unit).offset :=
  Nat.dvd_add (dvd_roundUp _ _) (Nat.dvd_refl _)

theorem IsBehind.place_right (h : c.IsBehind d) (hn : 0 < n.extent.align) :
    c.IsBehind (d.place n) := by
  have hle : c.offset ≤ (d.place n).offset := Nat.le_trans h.offset_le (d.offset_le_place hn)
  rcases d.place_cases n with ⟨t, width, used, rfl, hopen, -, hp⟩ | ⟨unit, hp, hopens⟩
  · -- The member joins a unit, which only has more bits in use then.
    rw [hp] at hle ⊢
    rcases h.room t used hopen with hroom | ⟨heq, used', hused, hunit⟩
    · exact isBehind_of_room hle rfl hroom
    · exact isBehind_of_shared heq hunit rfl (Nat.le_trans hused (Nat.le_add_right _ _))
  · rw [hp] at hle ⊢
    rcases hopens with ⟨rfl, -⟩ | ⟨t, width, rfl, rfl⟩
    · exact ⟨hle, nofun⟩
    · -- The unit that it opens could be opened in the first struct too.
      have hround := roundUp_le_roundUp t.size_pos (Nat.dvd_refl _) h.offset_le
      exact isBehind_of_room hle rfl (Nat.add_le_add_right hround _)

theorem IsBehind.place_bits (h : c.IsBehind d) (hd : d.EndsInUnit) (t : Scalar) (width : Nat) :
    (c.place (.bits t width)).IsBehind (d.place (.bits t width)) := by
  have hopen : roundUp c.offset t.size + t.size ≤ roundUp d.offset t.size + t.size :=
    Nat.add_le_add_right (roundUp_le_roundUp t.size_pos (Nat.dvd_refl _) h.offset_le) _
  have hle : c.offset ≤ roundUp d.offset t.size + t.size :=
    calc c.offset
        ≤ d.offset := h.offset_le
      _ ≤ roundUp d.offset t.size := le_roundUp _ t.size_pos
      _ ≤ roundUp d.offset t.size + t.size := Nat.le_add_right _ _
  rcases d.place_bits_cases t width with ⟨used, hunit, hfit, hdp⟩ | hdp
  · rcases h.room t used hunit with hroom | ⟨heq, used', hused, hunit'⟩
    · rcases c.place_bits_cases t width with ⟨_, -, -, hcp⟩ | hcp
      · rw [hdp, hcp]
        exact isBehind_of_room h.offset_le rfl hroom
      · -- What the first struct opens ends no later than what the bit-field joins in the second.
        rw [hdp, hcp]
        exact isBehind_of_units hroom (c.dvd_offset_append t _) (hd t used hunit).dvd_offset rfl rfl
          (Nat.le_add_left _ _)
    · -- The unit is open in both structs, and the first one has no fewer bits left.
      have hfit' : used' + width ≤ t.bits := Nat.le_trans (Nat.add_le_add_right hused _) hfit
      rw [hdp, place_of_room hunit' hfit']
      exact isBehind_of_shared heq rfl rfl (Nat.add_le_add_right hused _)
  · rcases c.place_bits_cases t width with ⟨_, -, -, hcp⟩ | hcp
    · rw [hdp, hcp]
      exact isBehind_of_room hle rfl hopen
    · rw [hdp, hcp]
      exact isBehind_of_units hopen (c.dvd_offset_append t _) (d.dvd_offset_append t _) rfl rfl
        (Nat.le_refl _)

/-- A member in the first struct, and one that it is within in the second. -/
theorem IsBehind.place (h : c.IsBehind d) (hd : d.EndsInUnit) (hmn : m.IsWithin n)
    (hn : 0 < n.extent.align) : (c.place m).IsBehind (d.place n) := by
  cases hmn with
  | bits t width => exact h.place_bits hd t width
  | whole hsize hdvd =>
    have hround := roundUp_le_roundUp hn hdvd h.offset_le
    exact ⟨Nat.add_le_add hround hsize, nofun⟩

/-! ## Whole structs -/

theorem IsBehind.foldl_right : ∀ (ns : List Member) {c d : Cursor}, c.IsBehind d →
    (∀ n ∈ ns, 0 < n.extent.align) → c.IsBehind (ns.foldl Cursor.place d)
  | [], _, _, h, _ => h
  | n :: ns, _, _, h, hp =>
    foldl_right ns (h.place_right (hp n List.mem_cons_self))
      fun k hk => hp k (List.mem_cons_of_mem n hk)

theorem IsBehind.foldl {ms ns : List Member} (hms : Member.AreWithin ms ns) (h : c.IsBehind d)
    (hd : d.EndsInUnit) (hp : ∀ n ∈ ns, 0 < n.extent.align) :
    (ms.foldl Cursor.place c).IsBehind (ns.foldl Cursor.place d) := by
  induction hms generalizing c d with
  | nil => exact foldl_right _ h hp
  | cons hmn _ ih =>
    have hstep := h.place hd hmn (hp _ List.mem_cons_self)
    exact ih hstep (hd.place _) fun k hk => hp k (List.mem_cons_of_mem _ hk)
  | cons_right _ ih =>
    have hstep := h.place_right (hp _ List.mem_cons_self)
    exact ih hstep (hd.place _) fun k hk => hp k (List.mem_cons_of_mem _ hk)

end Cursor

/-! ## Structs and unions -/

namespace Extent

variable {ms ns : List Member}

/-- The alignments must divide each other, or else the padding at the end could be less in spite of
the larger alignment. -/
theorem size_ofMembers_le (kind : AggregateKind) (h : Member.AreWithin ms ns)
    (hp : ∀ n ∈ ns, 0 < n.extent.align)
    (hdvd : (ofMembers kind ms).align ∣ (ofMembers kind ns).align) :
    (ofMembers kind ms).size ≤ (ofMembers kind ns).size := by
  have hpos := align_ofMembers_pos kind ns
  cases kind with
  | struct =>
    have hbehind := (Cursor.IsBehind.refl Cursor.start).foldl h Cursor.endsInUnit_start hp
    exact roundUp_le_roundUp hpos hdvd hbehind.offset_le
  | union =>
    have hcover : (ms.foldl cover ⟨0, 1⟩).size ≤ (ns.foldl cover ⟨0, 1⟩).size := by
      apply size_foldl_cover_le ms ⟨0, 1⟩ (Nat.zero_le _)
      intro m hm
      obtain ⟨n, hn, hmn⟩ := h.exists_mem hm
      exact Nat.le_trans hmn.size_le (size_le_foldl_cover ns ⟨0, 1⟩ hn)
    exact roundUp_le_roundUp hpos hdvd hcover

end Extent

/-! ## Fields at every depth -/

namespace Field

variable {fs gs : List Field}

/-- The alignments of aggregates are powers of two, so that they divide each other. -/
theorem align_dvd_of_areWithin (kind : AggregateKind)
    (h : Member.AreWithin (members fs) (members gs)) :
    (Extent.ofMembers kind (members fs)).align ∣ (Extent.ofMembers kind (members gs)).align := by
  have hle := h.greatest_aligns_le fun n hn => align_pos_of_mem_members hn
  rw [Extent.align_ofMembers, Extent.align_ofMembers]
  rw [greatest_aligns_members, greatest_aligns_members] at hle ⊢
  exact dvd_of_isPowerOfTwo_of_le (isPowerOfTwo_greatest_leafSizes _)
    (isPowerOfTwo_greatest_leafSizes _) hle

theorem isWithin_of_areWithin (kind : AggregateKind)
    (h : Member.AreWithin (members fs) (members gs)) :
    (Member.whole (Extent.ofMembers kind (members fs))).IsWithin
      (.whole (Extent.ofMembers kind (members gs))) := by
  have hdvd := align_dvd_of_areWithin kind h
  have hsize := Extent.size_ofMembers_le kind h (fun n hn => align_pos_of_mem_members hn) hdvd
  exact .whole hsize hdvd

/-- The second list is the first one with one field more, in the list itself or inside one of its
fields. -/
inductive Inserts : List Field → List Field → Prop
  | here (f : Field) (fields : List Field) : Inserts fields (f :: fields)
  | later {fs gs : List Field} (f : Field) (h : Inserts fs gs) : Inserts (f :: fs) (f :: gs)
  | inside {fs gs : List Field} (name : Option String) (kind : AggregateKind) (rest : List Field)
    (h : Inserts fs gs) : Inserts (nested name kind fs :: rest) (nested name kind gs :: rest)

theorem Inserts.areWithin (h : Inserts fs gs) : Member.AreWithin (members fs) (members gs) := by
  induction h with
  | here f fields => exact Member.areWithin_of_sublist (List.sublist_cons_self _ _)
  | later f _ ih => exact .cons (.refl _) ih
  | inside name kind rest _ ih =>
    have hrest := Member.areWithin_of_sublist (List.Sublist.refl (members rest))
    exact .cons (isWithin_of_areWithin kind ih) hrest

theorem inserts_insertIdx (f : Field) : ∀ {fields : List Field} {i : Nat}, i ≤ fields.length →
    Inserts fields (fields.insertIdx i f)
  | fields, 0, _ => .here f fields
  | g :: fields, i + 1, h => by
    rw [List.insertIdx_succ_cons]
    exact .later g (inserts_insertIdx f (Nat.le_of_succ_le_succ h))

theorem eraseIdx_inserts : ∀ {fields : List Field} {i : Nat}, i < fields.length →
    Inserts (fields.eraseIdx i) fields
  | f :: fields, 0, _ => .here f fields
  | f :: _, _ + 1, h => .later f (eraseIdx_inserts (Nat.lt_of_succ_lt_succ h))

end Field

namespace Aggregate

variable {a b : Aggregate}

/-- The second aggregate is the first one with one field more, at some depth. -/
def Inserts (a b : Aggregate) : Prop :=
  a.kind = b.kind ∧ Field.Inserts a.fields b.fields

/-- An aggregate with one field more. The field is put before the one at the position, and at the
end where the position is the number of fields; there is no position behind that one. -/
def insertField (a : Aggregate) (i : Nat) (f : Field) : Aggregate :=
  { a with fields := a.fields.insertIdx i f }

/-- An aggregate without the field at the position. -/
def eraseField (a : Aggregate) (i : Nat) : Aggregate :=
  { a with fields := a.fields.eraseIdx i }

theorem Inserts.extent_le (h : a.Inserts b) : a.extent ≤ b.extent := by
  have hwithin := Field.isWithin_of_areWithin b.kind h.2.areWithin
  have hpos := Extent.align_ofMembers_pos b.kind (Field.members b.fields)
  rw [extent, extent, h.1]
  exact ⟨hwithin.size_le, Nat.le_of_dvd hpos hwithin.align_dvd⟩

/-- **A field more never makes an aggregate smaller**, whatever the field is and wherever it is put:
between the fields of the aggregate, where a field less makes it no larger either, or inside them at
any depth. -/
theorem extent_le_insertField (a : Aggregate) :
    (∀ i f, a.extent ≤ (a.insertField i f).extent) ∧
    (∀ i, (a.eraseField i).extent ≤ a.extent) ∧
    ∀ b, a.Inserts b → a.extent ≤ b.extent := by
  refine ⟨?_, ?_, fun b h => h.extent_le⟩
  · intro i f
    rcases Nat.lt_or_ge a.fields.length i with hi | hi
    · rw [insertField, List.insertIdx_of_length_lt hi]
      exact Extent.le_refl _
    · have h : a.Inserts (a.insertField i f) := ⟨rfl, Field.inserts_insertIdx f hi⟩
      exact h.extent_le
  · intro i
    rcases Nat.lt_or_ge i a.fields.length with hi | hi
    · have h : (a.eraseField i).Inserts a := ⟨rfl, Field.eraseIdx_inserts hi⟩
      exact h.extent_le
    · rw [eraseField, List.eraseIdx_of_length_le hi]
      exact Extent.le_refl _

/-- Two bit-fields in one unit, at some depth. -/
def packedPair : Aggregate :=
  ⟨.union, [.nested (some "Bits") .struct
    [.bits (some "Low") .unsignedLong 20, .bits (some "High") .unsignedLong 12]]⟩

/-- The same with a scalar between them, which ends the unit. -/
def splitPair : Aggregate :=
  ⟨.union, [.nested (some "Bits") .struct
    [.bits (some "Low") .unsignedLong 20, .scalar (some "Tag") .unsignedChar,
     .bits (some "High") .unsignedLong 12]]⟩

theorem extent_le_insertField_pair :
    packedPair.Inserts splitPair ∧ packedPair.extent ≤ splitPair.extent ∧
    packedPair.extent = ⟨4, 4⟩ ∧ splitPair.extent = ⟨12, 4⟩ := by
  have h : packedPair.Inserts splitPair := ⟨rfl, .inside _ _ _ (.later _ (.here _ _))⟩
  exact ⟨h, (extent_le_insertField packedPair).2.2 splitPair h, by decide, by decide⟩

end Aggregate

end KitSurface
