import KitSurface.Proofs.Text.Cut
import KitSurface.Proofs.Text.Numeral
import KitSurface.Version
import Mathlib.Data.List.TakeWhile
/-!
Versions as texts, and the greatest one of a list. A version is read from two numerals with a point
between them and from nothing else (`parse?_eq_some_iff`), so that its own text is read back
(`parse_text`); other texts are read as the same version, and of them its own one is the one of plain
numerals (`eq_text_iff`). The greatest version of a list is told by what is in the list alone
(`greatest?_eq_some_iff`), whatever its order and its repeats.
-/

namespace KitSurface

namespace Version

variable {v w : Version} {vs ws : List Version} {name : List Char}

/-! ## Texts -/

theorem toList_text (v : Version) : v.text.toList =
    (Nat.repr v.major.toNat).toList ++ '.' :: (Nat.repr v.minor.toNat).toList := by
  simp [text]

theorem isDigit_or_of_mem_text {c : Char} (h : c ∈ v.text.toList) : c.isDigit = true ∨ c = '.' := by
  rw [toList_text] at h
  rcases List.mem_append.mp h with h | h
  · exact Or.inl (Text.isDigit_of_mem_repr h)
  · exact (List.mem_cons.mp h).symm.imp_left Text.isDigit_of_mem_repr

theorem length_text (v : Version) : 3 ≤ v.text.toList.length ∧ v.text.toList.length ≤ 21 := by
  have hlength : v.text.toList.length =
      (Nat.repr v.major.toNat).length + 1 + (Nat.repr v.minor.toNat).length := by
    rw [toList_text, List.length_append, List.length_cons, String.length_toList,
      String.length_toList]
    omega
  have hdigits : ∀ n : UInt32,
      0 < (Nat.repr n.toNat).length ∧ (Nat.repr n.toNat).length ≤ 10 := fun n =>
    ⟨Nat.length_repr_pos, (Nat.length_repr_le_iff (by decide)).mpr
      (Nat.lt_trans n.toNat_lt (by decide))⟩
  have hmajor := hdigits v.major
  have hminor := hdigits v.minor
  omega

theorem exists_getLast?_text (v : Version) :
    ∃ c, v.text.toList.getLast? = some c ∧ c.isDigit = true := by
  have hne := Text.toList_repr_ne_nil v.minor.toNat
  refine ⟨(Nat.repr v.minor.toNat).toList.getLast hne, ?_,
    Text.isDigit_of_mem_repr (List.getLast_mem hne)⟩
  rw [toList_text, ← List.singleton_append, ← List.append_assoc,
    List.getLast?_append_of_ne_nil _ hne, List.getLast?_eq_some_getLast hne]

theorem parse?_append {major minor : List Char} (h : '.' ∉ major) :
    parse? (major ++ '.' :: minor) =
      (Text.parseWord? major).bind fun a => (Text.parseWord? minor).map (Version.mk a) := by
  have hne : ∀ c ∈ major, (c != '.') = true := by
    intro c hc
    rw [bne_iff_ne]
    rintro rfl
    exact h hc
  rw [parse?, List.takeWhile_append_of_pos hne, List.dropWhile_append_of_pos hne]
  simp only [List.takeWhile_cons, List.dropWhile_cons, bne_self_eq_false, Bool.false_eq_true,
    if_false, List.append_nil]
  cases Text.parseWord? major with
  | none => rfl
  | some a => cases Text.parseWord? minor <;> rfl

theorem parse?_of_not_mem (h : '.' ∉ name) : parse? name = none := by
  have hdrop : name.dropWhile (· != '.') = [] := by
    rw [List.dropWhile_eq_nil_iff]
    intro c hc
    rw [bne_iff_ne]
    rintro rfl
    exact h hc
  rw [parse?, hdrop]

/-- **A version is read from two numerals with a point between them, and from nothing else.** -/
theorem parse?_eq_some_iff : parse? name = some v ↔ ∃ major minor,
    name = major ++ '.' :: minor ∧ Text.Denotes major v.major.toNat ∧
      Text.Denotes minor v.minor.toNat := by
  constructor
  · intro h
    by_cases hpoint : '.' ∈ name
    · obtain ⟨major, minor, rfl, hmajor⟩ := List.eq_append_cons_of_mem hpoint
      rw [parse?_append hmajor] at h
      obtain ⟨a, ha, h⟩ := Option.bind_eq_some_iff.mp h
      obtain ⟨b, hb, rfl⟩ := Option.map_eq_some_iff.mp h
      exact ⟨major, minor, rfl, Text.parseWord?_eq_some_iff.mp ha,
        Text.parseWord?_eq_some_iff.mp hb⟩
    · rw [parse?_of_not_mem hpoint] at h
      cases h
  · intro h
    obtain ⟨major, minor, rfl, hmajor, hminor⟩ := h
    rw [parse?_append hmajor.point_not_mem, Text.parseWord?_eq_some_iff.mpr hmajor,
      Text.parseWord?_eq_some_iff.mpr hminor]
    rfl

theorem parse?_text (v : Version) : parse? v.text.toList = some v :=
  parse?_eq_some_iff.mpr
    ⟨_, _, toList_text v, Text.denotes_repr v.major.toNat, Text.denotes_repr v.minor.toNat⟩

/-- **The text of a version is read back.** -/
theorem parse_text (v : Version) : parse v.text = .ok v := by
  rw [parse, parse?_text]

theorem text_injective : Function.Injective text :=
  fun v w h => Except.ok.inj ((parse_text v).symm.trans ((congrArg parse h).trans (parse_text w)))

/-- A text is two numerals with a point between them. -/
def Spells (text : List Char) (a b : Nat) : Prop :=
  ∃ major minor, text = major ++ '.' :: minor ∧ Text.Denotes major a ∧ Text.Denotes minor b

/-- Two numerals are read if both numbers fit a word of 32 bits. -/
theorem exists_parse?_iff {a b : Nat} :
    (∃ v, parse? name = some v ∧ v.major.toNat = a ∧ v.minor.toNat = b) ↔
      Spells name a b ∧ a ≤ 4294967295 ∧ b ≤ 4294967295 := by
  constructor
  · rintro ⟨v, hv, rfl, rfl⟩
    have hmajor : v.major.toNat < 4294967296 := v.major.toNat_lt
    have hminor : v.minor.toNat < 4294967296 := v.minor.toNat_lt
    exact ⟨parse?_eq_some_iff.mp hv, by omega, by omega⟩
  · rintro ⟨hspells, ha, hb⟩
    have hmajor : (UInt32.ofNat a).toNat = a := UInt32.toNat_ofNat_of_lt' (Nat.lt_succ_of_le ha)
    have hminor : (UInt32.ofNat b).toNat = b := UInt32.toNat_ofNat_of_lt' (Nat.lt_succ_of_le hb)
    refine ⟨⟨UInt32.ofNat a, UInt32.ofNat b⟩, parse?_eq_some_iff.mpr ?_, hmajor, hminor⟩
    rw [hmajor, hminor]
    exact hspells

theorem parse_eq_ok_iff {text : String} : parse text = .ok v ↔ parse? text.toList = some v := by
  rw [parse]
  cases parse? text.toList <;> simp

theorem parse_eq_error_iff {text : String} {error : VersionError} :
    parse text = .error error ↔ error = ⟨text⟩ ∧ parse? text.toList = none := by
  rw [parse]
  cases parse? text.toList <;> simp [eq_comm]

/-- **A version is read from two numerals of at most 32 bits with a point between them; every other
text comes back in an error; and versions are told apart by their texts, which are read back.** -/
theorem parse_exact :
    (∀ (text : String) (a b : Nat),
      (∃ v, parse text = .ok v ∧ v.major.toNat = a ∧ v.minor.toNat = b) ↔
        Spells text.toList a b ∧ a ≤ 4294967295 ∧ b ≤ 4294967295) ∧
    (∀ (text : String) (error : VersionError), parse text = .error error ↔ error = ⟨text⟩ ∧
      ¬ ∃ a b, Spells text.toList a b ∧ a ≤ 4294967295 ∧ b ≤ 4294967295) ∧
    (∀ v : Version, parse v.text = .ok v) ∧
    ∀ v w : Version, v.text = w.text ↔ v = w := by
  refine ⟨fun text a b => ?_, fun text error => ?_, parse_text, fun v w => text_injective.eq_iff⟩
  · simp only [parse_eq_ok_iff]
    exact exists_parse?_iff
  · rw [parse_eq_error_iff]
    refine and_congr_right fun _ => ?_
    simp only [← exists_parse?_iff]
    rw [Option.eq_none_iff_forall_ne_some]
    constructor
    · rintro hnone ⟨a, b, v, hv, -⟩
      exact hnone v hv
    · exact fun hnone v hv => hnone ⟨_, _, v, hv, rfl, rfl⟩

example : parse "+1.033" = .ok ⟨1, 33⟩ := rfl

example : parse "1.4294967296" = .error ⟨"1.4294967296"⟩ := rfl

/-- A name of two plain numerals with a point between them. -/
def IsPlainName (name : List Char) : Prop :=
  ∃ major minor, name = major ++ '.' :: minor ∧ Text.IsPlainNumeral major ∧
    Text.IsPlainNumeral minor

/-- **Of the texts that a version is read from exactly the plain one is its own text.** -/
theorem eq_text_iff (h : parse? name = some v) : name = v.text.toList ↔ IsPlainName name := by
  obtain ⟨major, minor, rfl, hmajor, hminor⟩ := parse?_eq_some_iff.mp h
  -- Numerals have no point, so that a name is cut in one way only.
  have hcut : ∀ major' minor', major ++ '.' :: minor = major' ++ '.' :: minor' →
      major = major' ∧ minor = minor' := fun _ _ heq =>
    Text.eq_of_append_cons_of_not_mem hmajor.point_not_mem hminor.point_not_mem heq
  rw [toList_text]
  constructor
  · intro heq
    obtain ⟨hmajor', hminor'⟩ := hcut _ _ heq
    exact ⟨major, minor, rfl, hmajor.eq_repr_iff.mp hmajor', hminor.eq_repr_iff.mp hminor'⟩
  · intro hplain
    obtain ⟨major', minor', heq, hmajor', hminor'⟩ := hplain
    obtain ⟨rfl, rfl⟩ := hcut _ _ heq
    rw [← hmajor.eq_repr_iff.mpr hmajor', ← hminor.eq_repr_iff.mpr hminor']

/-! ## The greatest version -/

theorem le_iff : v.le w = true ↔
    v.major.toNat < w.major.toNat ∨ v.major = w.major ∧ v.minor.toNat ≤ w.minor.toNat := by
  simp [le, UInt32.lt_iff_toNat_lt, UInt32.le_iff_toNat_le]

theorem le_total (v w : Version) : v.le w = true ∨ w.le v = true := by
  simp only [le_iff, ← UInt32.toNat_inj]
  omega

theorem le_trans {u : Version} (huv : u.le v = true) (hvw : v.le w = true) : u.le w = true := by
  simp only [le_iff, ← UInt32.toNat_inj] at *
  omega

theorem le_antisymm (hvw : v.le w = true) (hwv : w.le v = true) : v = w := by
  obtain ⟨major, minor⟩ := v
  obtain ⟨major', minor'⟩ := w
  simp only [le_iff, ← UInt32.toNat_inj] at hvw hwv
  rw [Version.mk.injEq, ← UInt32.toNat_inj, ← UInt32.toNat_inj]
  omega

theorem greatest?_eq_none_iff : greatest? vs = none ↔ vs = [] := by
  cases vs with
  | nil => simp [greatest?]
  | cons v rest =>
    rw [greatest?]
    cases greatest? rest <;> simp

theorem mem_of_greatest? : ∀ {vs : List Version} {v : Version}, greatest? vs = some v →
    v ∈ vs ∧ ∀ w ∈ vs, w.le v = true
  | u :: rest, _, h => by
    rw [greatest?] at h
    cases hrest : greatest? rest with
    | none =>
      rw [hrest] at h
      obtain rfl := Option.some.inj h
      obtain rfl := greatest?_eq_none_iff.mp hrest
      simpa using le_total u u
    | some w =>
      obtain ⟨hmem, hle⟩ := mem_of_greatest? hrest
      rw [hrest] at h
      obtain rfl := Option.some.inj h
      rw [List.forall_mem_cons]
      split
      · next huw => exact ⟨List.mem_cons_of_mem u hmem, huw, hle⟩
      · next huw =>
        have hwu : w.le u = true := (le_total u w).resolve_left huw
        exact ⟨List.mem_cons_self, by simpa using le_total u u,
          fun x hx => le_trans (hle x hx) hwu⟩

/-- **The greatest version of a list is the version in it that none exceeds.** -/
theorem greatest?_eq_some_iff :
    greatest? vs = some v ↔ v ∈ vs ∧ ∀ w ∈ vs, w.le v = true := by
  constructor
  · exact mem_of_greatest?
  · intro h
    obtain ⟨hmem, hle⟩ := h
    cases hgreatest : greatest? vs with
    | none =>
      rw [greatest?_eq_none_iff.mp hgreatest] at hmem
      cases hmem
    | some w =>
      obtain ⟨hmem', hle'⟩ := mem_of_greatest? hgreatest
      rw [le_antisymm (hle w hmem') (hle' v hmem)]

theorem greatest?_congr (h : ∀ v, v ∈ vs ↔ v ∈ ws) : greatest? vs = greatest? ws := by
  ext v
  simp only [greatest?_eq_some_iff, h]

end Version

end KitSurface
