import KitSurface.Config.Basic
import KitSurface.Proofs.Text.Numeral
/-!
Symbols of function tables. The symbol of a pinned framework has two numbers of two or three digits
with a zero between them, and nothing says where the first one ends. A number of three digits does
not begin with a zero, so that the zero of one symbol cannot be a digit of the same symbol read with
other widths (`length_ne_of_append_zero`). Main statement: two pins have the same symbol exactly if
their major and target versions are the same (`functionTable?_eq_iff`).
-/

namespace KitSurface

namespace Text

variable {m n m' n' : Nat} {x y x' y' : List Char}

/-- At least two digits of a number still are digits of its value. -/
theorem isDigits_twoDigits (n : Nat) : IsDigits (twoDigits n).toList n := by
  have hplain : IsDigits (Nat.repr n).toList n :=
    isDigits_iff.mpr ⟨denotes_repr n, fun hplus =>
      absurd (isDigit_of_mem_repr hplus) (by decide)⟩
  unfold twoDigits
  split
  · -- A zero in front does not count.
    have hzero : ("0" ++ Nat.repr n).toList = '0' :: (Nat.repr n).toList := by
      rw [String.toList_append]
      rfl
    rw [hzero]
    exact ⟨List.cons_ne_nil _ _, List.forall_mem_cons.mpr ⟨by decide, hplain.isDigit⟩, hplain.value⟩
  · exact hplain

theorem twoDigits_injective (h : (twoDigits m).toList = (twoDigits n).toList) : m = n := by
  calc m = Nat.ofDigitChars 10 (twoDigits m).toList 0 := (isDigits_twoDigits m).value.symm
    _ = Nat.ofDigitChars 10 (twoDigits n).toList 0 := by rw [h]
    _ = n := (isDigits_twoDigits n).value

/-- A number below a thousand has two digits, or three of which the first is not zero. -/
theorem length_twoDigits (h : n < 1000) : (twoDigits n).toList.length = 2 ∨
    (twoDigits n).toList.length = 3 ∧ (twoDigits n).toList.head? ≠ some '0' := by
  have hone : (Nat.repr n).length ≤ 1 ↔ n < 10 := Nat.length_repr_le_iff (by decide)
  have htwo : (Nat.repr n).length ≤ 2 ↔ n < 100 := Nat.length_repr_le_iff (by decide)
  have hthree : (Nat.repr n).length ≤ 3 ↔ n < 1000 := Nat.length_repr_le_iff (by decide)
  have hpos : 0 < (Nat.repr n).toList.length := List.length_pos_iff.mpr (toList_repr_ne_nil n)
  rw [String.length_toList] at hpos
  unfold twoDigits
  split
  · left
    have hzero : "0".length = 1 := rfl
    rw [String.length_toList, String.length_append, hzero]
    omega
  · rw [String.length_toList]
    by_cases hn : n < 100
    · left
      omega
    · right
      refine ⟨by omega, ?_⟩
      rw [Nat.toList_repr]
      exact head?_toDigits (by omega)

/-- If two texts with a zero each are equal and the zeros stand one place apart, a zero stands right
behind the first one too. -/
theorem head?_of_append_zero (h : x ++ '0' :: y = x' ++ '0' :: y')
    (hlength : x'.length = x.length + 1) : y.head? = some '0' := by
  obtain ⟨front, hx', hrest⟩ : ∃ front, x' = x ++ front ∧ '0' :: y = front ++ '0' :: y' := by
    rcases List.append_eq_append_iff.mp h with ⟨front, hx', hrest⟩ | ⟨front, hx, -⟩
    · exact ⟨front, hx', hrest⟩
    · rw [hx, List.length_append] at hlength
      omega
  have hfront : front.length = 1 := by
    rw [hx', List.length_append] at hlength
    omega
  obtain ⟨c, rfl⟩ := List.length_eq_one_iff.mp hfront
  have hy : y = '0' :: y' := (List.cons.inj hrest).2
  rw [hy]
  rfl

/-- Behind the zero stand two digits, or three that do not begin with a zero, so that the zero of two
equal texts is not one place further on in one of them. -/
theorem length_ne_of_append_zero (hn : n < 1000) (hn' : n' < 1000)
    (h : x ++ '0' :: (twoDigits n).toList = x' ++ '0' :: (twoDigits n').toList) :
    x'.length ≠ x.length + 1 := by
  intro hlength
  have hzero := head?_of_append_zero h hlength
  have hsum := congrArg List.length h
  simp only [List.length_append, List.length_cons] at hsum
  -- The shorter first number leaves three digits for the second one.
  rcases length_twoDigits hn with htwo | ⟨-, hhead⟩
  · rcases length_twoDigits hn' with htwo' | ⟨hthree', -⟩ <;> omega
  · exact hhead hzero

/-- Two numbers below a thousand with a zero between them are told apart by their digits. -/
theorem eq_of_twoDigits_append (hm : m < 1000) (hn : n < 1000) (hm' : m' < 1000) (hn' : n' < 1000)
    (h : (twoDigits m).toList ++ '0' :: (twoDigits n).toList =
      (twoDigits m').toList ++ '0' :: (twoDigits n').toList) : m = m' ∧ n = n' := by
  have hlength : (twoDigits m).toList.length = (twoDigits m').toList.length := by
    have hnext := length_ne_of_append_zero hn hn' h
    have hnext' := length_ne_of_append_zero hn' hn h.symm
    rcases length_twoDigits hm with h2 | ⟨h3, -⟩ <;>
      rcases length_twoDigits hm' with h2' | ⟨h3', -⟩ <;> omega
  obtain ⟨hmajor, hrest⟩ := List.append_inj h hlength
  exact ⟨twoDigits_injective hmajor, twoDigits_injective (List.cons.inj hrest).2⟩

end Text

namespace FrameworkPin

def symbolDigits (pin : FrameworkPin) : List Char :=
  (Text.twoDigits pin.major.toNat).toList ++ '0' :: (Text.twoDigits pin.target.toNat).toList

variable {pin pin' : FrameworkPin}

theorem symbolDigits_eq_iff : pin.symbolDigits = pin'.symbolDigits ↔
    pin.major = pin'.major ∧ pin.target = pin'.target := by
  have hlt : ∀ w : UInt8, w.toNat < 1000 := fun w => Nat.lt_trans w.toNat_lt (by decide)
  constructor
  · intro h
    obtain ⟨hmajor, htarget⟩ :=
      Text.eq_of_twoDigits_append (hlt _) (hlt _) (hlt _) (hlt _) h
    exact ⟨UInt8.toNat_inj.mp hmajor, UInt8.toNat_inj.mp htarget⟩
  · intro h
    unfold symbolDigits
    rw [h.1, h.2]

end FrameworkPin

namespace Config

variable {c c' : Config} {kind kind' : Framework} {pin pin' : FrameworkPin}

theorem functionTable?_of_framework (h : c.driverModel = some (.framework kind pin)) :
    ∃ symbol, c.functionTable? = some symbol ∧
      symbol.toList = "WdfFunctions_".toList ++ pin.symbolDigits := by
  refine ⟨_, by rw [functionTable?, h]; rfl, ?_⟩
  simp only [String.toList_append, FrameworkPin.symbolDigits, List.append_assoc]
  rfl

/-- **The symbol of the function table tells the pinned versions apart.** It says neither which
framework is pinned nor the least version that must be there at run time. -/
theorem functionTable?_eq_iff (h : c.driverModel = some (.framework kind pin))
    (h' : c'.driverModel = some (.framework kind' pin')) :
    c.functionTable? = c'.functionTable? ↔
      pin.major = pin'.major ∧ pin.target = pin'.target := by
  obtain ⟨symbol, hsymbol, hdigits⟩ := functionTable?_of_framework h
  obtain ⟨symbol', hsymbol', hdigits'⟩ := functionTable?_of_framework h'
  rw [hsymbol, hsymbol', Option.some.injEq, ← String.toList_inj, hdigits, hdigits',
    List.append_cancel_left_eq, FrameworkPin.symbolDigits_eq_iff]

/-- A driver in kernel mode on a version of the framework. -/
def pinned (major target : UInt8) : Config where
  root := ⟨"kit"⟩
  architecture := .amd64
  context := .kernelMode
  driverModel := some (.framework .kmdf ⟨major, target, none⟩)

/-- The same six digits would be read for both versions, but for one place. -/
theorem functionTable?_pinned_ne :
    (pinned 20 115).driverModel = some (.framework .kmdf ⟨20, 115, none⟩) ∧
    (pinned 200 15).driverModel = some (.framework .kmdf ⟨200, 15, none⟩) ∧
    (pinned 20 115).functionTable? = some "WdfFunctions_200115" ∧
    (pinned 200 15).functionTable? = some "WdfFunctions_200015" ∧
    (pinned 20 115).functionTable? ≠ (pinned 200 15).functionTable? := by
  have h : (pinned 20 115).driverModel = some (.framework .kmdf ⟨20, 115, none⟩) := rfl
  have h' : (pinned 200 15).driverModel = some (.framework .kmdf ⟨200, 15, none⟩) := rfl
  refine ⟨h, h', by decide +kernel, by decide +kernel, ?_⟩
  rw [ne_eq, functionTable?_eq_iff h h']
  decide

end Config

end KitSurface
