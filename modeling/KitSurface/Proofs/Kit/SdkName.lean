import KitSurface.Proofs.Kit.Versions
/-!
Names of the development kit. The documented form of a name is ten and three runs of digits, with
points between them (`IsKitName`), and such a name is read as its four numbers. Other names are read
as numbers too (`IsStrayName`): those with a sign, and those with fewer or more than four numbers.
Main statement: the names that are read are these two kinds, so that a name is read as its form is
documented exactly if it is not a stray one (`sdkNumbers?_eq_some_iff_isKitName`).
-/

namespace KitSurface.Kit

variable {name : String} {numbers : List UInt32} {x y z : List Char}

/-- A name is ten and three runs of digits, with points between them, whose values fit words of 32
bits; the numbers are ten and these values. -/
def IsKitName (name : String) (numbers : List UInt32) : Prop :=
  ∃ (x y z : List Char) (a b c : UInt32),
    name.toList = "10.".toList ++ x ++ '.' :: y ++ '.' :: z ∧
    Text.IsDigits x a.toNat ∧ Text.IsDigits y b.toNat ∧ Text.IsDigits z c.toNat ∧
    numbers = [10, a, b, c]

/-- A name begins with ten and a point and has numerals between its points, but one of them has a
sign, or there are not four of them. -/
def IsStrayName (name : String) (numbers : List UInt32) : Prop :=
  NamesSdk name numbers ∧ (numbers.length ≠ 4 ∨ '+' ∈ name.toList)

/-! ## Parts between points -/

theorem intercalate_kitName (x y z : List Char) :
    ['.'].intercalate ["10".toList, x, y, z] = "10.".toList ++ x ++ '.' :: y ++ '.' :: z := by
  simp [List.intercalate]

theorem splitOn_kitName (hx : '.' ∉ x) (hy : '.' ∉ y) (hz : '.' ∉ z) :
    ("10.".toList ++ x ++ '.' :: y ++ '.' :: z).splitOn '.' = ["10".toList, x, y, z] := by
  have hparts : ∀ part ∈ ["10".toList, x, y, z], '.' ∉ part := by simp [hx, hy, hz]
  rw [← intercalate_kitName]
  exact List.splitOn_intercalate '.' hparts (List.cons_ne_nil _ _)

/-- The first part of a name that begins with ten and a point is ten. -/
theorem exists_splitOn_of_beginsWithTen {text : List Char} (h : "10.".toList <+: text) :
    ∃ parts, text.splitOn '.' = "10".toList :: parts := by
  obtain ⟨rest, rfl⟩ := h
  have hten : '.' ∉ "10".toList := by decide
  exact ⟨rest.splitOn '.', List.splitOn_append_cons_self_of_not_mem hten rest⟩

theorem eq_of_denotes_ten {n : UInt32} (h : Text.Denotes "10".toList n.toNat) : n = 10 := by
  have hread : Text.parseWord? "10".toList = some 10 := by decide
  rw [Text.parseWord?_eq_some_iff.mpr h] at hread
  exact Option.some.inj hread

/-! ## The documented form -/

theorem IsKitName.namesSdk (h : IsKitName name numbers) : NamesSdk name numbers := by
  obtain ⟨x, y, z, a, b, c, hname, hx, hy, hz, rfl⟩ := h
  obtain ⟨hx, -⟩ := Text.isDigits_iff.mp hx
  obtain ⟨hy, -⟩ := Text.isDigits_iff.mp hy
  obtain ⟨hz, -⟩ := Text.isDigits_iff.mp hz
  have hten : Text.Denotes "10".toList (10 : UInt32).toNat := Text.denotes_repr 10
  refine ⟨?_, ?_⟩
  · rw [hname, List.append_assoc, List.append_assoc]
    exact List.prefix_append _ _
  · rw [hname, splitOn_kitName hx.point_not_mem hy.point_not_mem hz.point_not_mem]
    exact .cons hten (.cons hx (.cons hy (.cons hz .nil)))

theorem IsKitName.plus_not_mem (h : IsKitName name numbers) : '+' ∉ name.toList := by
  obtain ⟨x, y, z, a, b, c, hname, hx, hy, hz, -⟩ := h
  obtain ⟨-, hx⟩ := Text.isDigits_iff.mp hx
  obtain ⟨-, hy⟩ := Text.isDigits_iff.mp hy
  obtain ⟨-, hz⟩ := Text.isDigits_iff.mp hz
  simp [hname, hx, hy, hz]

/-- Of the names that are read those are of the documented form that have four numbers and no
sign. -/
theorem isKitName_iff : IsKitName name numbers ↔
    NamesSdk name numbers ∧ numbers.length = 4 ∧ '+' ∉ name.toList := by
  constructor
  · intro h
    refine ⟨h.namesSdk, ?_, h.plus_not_mem⟩
    obtain ⟨x, y, z, a, b, c, -, -, -, -, rfl⟩ := h
    rfl
  · rintro ⟨⟨hten, hparts⟩, hlength, hplus⟩
    obtain ⟨parts, hsplit⟩ := exists_splitOn_of_beginsWithTen hten
    -- The name is what its parts make up, and none of them has a sign that the name has not.
    have hname : ['.'].intercalate ("10".toList :: parts) = name.toList := by
      rw [← hsplit, List.intercalate_splitOn]
    match numbers, hlength with
    | [n, a, b, c], _ =>
      rw [hsplit] at hparts
      cases hparts with
      | cons hn hparts =>
        match parts, hparts with
        | [x, y, z], .cons hx (.cons hy (.cons hz .nil)) =>
          obtain rfl := eq_of_denotes_ten hn
          rw [intercalate_kitName] at hname
          have hsign : '+' ∉ x ∧ '+' ∉ y ∧ '+' ∉ z := by
            simpa [← hname, not_or] using hplus
          exact ⟨x, y, z, a, b, c, hname.symm, Text.isDigits_iff.mpr ⟨hx, hsign.1⟩,
            Text.isDigits_iff.mpr ⟨hy, hsign.2.1⟩, Text.isDigits_iff.mpr ⟨hz, hsign.2.2⟩, rfl⟩

theorem IsKitName.not_isStrayName (h : IsKitName name numbers) : ¬ IsStrayName name numbers := by
  obtain ⟨-, hlength, hplus⟩ := isKitName_iff.mp h
  rintro ⟨-, hstray | hstray⟩
  · exact hstray hlength
  · exact hplus hstray

theorem namesSdk_iff_isKitName_or_isStrayName :
    NamesSdk name numbers ↔ IsKitName name numbers ∨ IsStrayName name numbers := by
  constructor
  · intro h
    by_cases hform : numbers.length = 4 ∧ '+' ∉ name.toList
    · exact Or.inl (isKitName_iff.mpr ⟨h, hform⟩)
    · exact Or.inr ⟨h, by rwa [not_and_or, not_not] at hform⟩
  · rintro (h | h)
    · exact h.namesSdk
    · exact h.1

/-- **A name is read as numbers if it is of the documented form or a stray name**, and the
documented form is all that is read exactly where the name is not stray. -/
theorem sdkNumbers?_eq_some_iff_isKitName (name : String) (numbers : List UInt32) :
    (sdkNumbers? name = some numbers ↔ IsKitName name numbers ∨ IsStrayName name numbers) ∧
    ((sdkNumbers? name = some numbers ↔ IsKitName name numbers) ↔ ¬ IsStrayName name numbers) := by
  rw [sdkNumbers?_eq_some_iff, namesSdk_iff_isKitName_or_isStrayName]
  refine ⟨Iff.rfl, fun hform hstray => ?_, fun hstray => or_iff_left hstray⟩
  exact (hform.mp (Or.inr hstray)).not_isStrayName hstray

/-- A name of two numbers is read, but it is not of the documented form. -/
theorem not_forall_sdkNumbers?_iff_isKitName : ¬ ∀ name numbers,
    sdkNumbers? name = some numbers ↔ IsKitName name numbers := by
  intro h
  have hread : sdkNumbers? "10.1" = some [10, 1] := by decide +kernel
  have hkit := isKitName_iff.mp ((h "10.1" [10, 1]).mp hread)
  exact absurd hkit.2.1 (by decide)

end KitSurface.Kit
