import KitSurface.Text.Basic
/-!
Numerals. A numeral is one or more ASCII digits after at most one plus sign, and it denotes the
value of its digits (`Denotes`). A text is read as a number exactly if it is a numeral of that
number and the number is below the bound (`parseBelow?_eq_some_iff`). Leading zeros and the sign do
not count for the value, so that a number has many numerals. Main statement: of these the one that
the number is printed as is the one without sign and leading zeros (`Denotes.eq_repr_iff`).
-/

namespace KitSurface.Text

/-- A numeral with its value. -/
inductive Denotes : List Char → Nat → Prop
  | plain {digits : List Char} (hne : digits ≠ []) (hdigits : ∀ c ∈ digits, c.isDigit = true) :
    Denotes digits (Nat.ofDigitChars 10 digits 0)
  | signed {digits : List Char} (hne : digits ≠ []) (hdigits : ∀ c ∈ digits, c.isDigit = true) :
    Denotes ('+' :: digits) (Nat.ofDigitChars 10 digits 0)

variable {bound n : Nat} {text digits : List Char}

theorem isDigit_of_mem_repr {c : Char} (h : c ∈ (Nat.repr n).toList) : c.isDigit = true := by
  rw [Nat.toList_repr] at h
  exact Nat.isDigit_of_mem_toDigits (by decide) (by decide) h

theorem toList_repr_ne_nil (n : Nat) : (Nat.repr n).toList ≠ [] := by
  rw [Nat.toList_repr]
  exact Nat.toDigits_ne_nil

theorem denotes_repr (n : Nat) : Denotes (Nat.repr n).toList n := by
  have hplain := Denotes.plain (toList_repr_ne_nil n) fun c hc => isDigit_of_mem_repr hc
  rwa [Nat.toList_repr, Nat.ofDigitChars_ten_toDigits, ← Nat.toList_repr] at hplain

theorem Denotes.isDigit_or (h : Denotes text n) : ∀ c ∈ text, c.isDigit = true ∨ c = '+' := by
  intro c hc
  cases h with
  | plain _ hdigits => exact Or.inl (hdigits c hc)
  | signed _ hdigits => exact (List.mem_cons.mp hc).symm.imp_left (hdigits c)

theorem Denotes.point_not_mem (h : Denotes text n) : '.' ∉ text :=
  fun hpoint => absurd (h.isDigit_or '.' hpoint) (by decide)

/-- A text is one or more ASCII digits, of the value `n`. -/
structure IsDigits (text : List Char) (n : Nat) : Prop where
  ne_nil : text ≠ []
  isDigit : ∀ c ∈ text, c.isDigit = true
  value : Nat.ofDigitChars 10 text 0 = n

/-- The numerals without a sign are the runs of digits. -/
theorem isDigits_iff : IsDigits text n ↔ Denotes text n ∧ '+' ∉ text := by
  constructor
  · rintro ⟨hne, hdigits, rfl⟩
    exact ⟨.plain hne hdigits, fun hplus => absurd (hdigits '+' hplus) (by decide)⟩
  · rintro ⟨hnumeral, hplus⟩
    cases hnumeral with
    | plain hne hdigits => exact ⟨hne, hdigits, rfl⟩
    | signed _ _ => exact absurd List.mem_cons_self hplus

/-! ## What is read as a number -/

theorem digitsValue_eq_ofDigitChars (digits : List Char) :
    digitsValue 0 digits = Nat.ofDigitChars 10 digits 0 := by
  simp only [digitsValue, Nat.ofDigitChars_eq_foldl, Nat.mul_comm]

theorem parseBelow?_of_isDigit (hne : digits ≠ []) (hdigits : ∀ c ∈ digits, c.isDigit = true)
    (hbound : digitsValue 0 digits < bound) :
    parseBelow? bound digits = some (digitsValue 0 digits) := by
  have hall : digits.all Char.isDigit = true := List.all_eq_true.mpr hdigits
  have hempty : digits.isEmpty = false := List.isEmpty_eq_false_iff.mpr hne
  unfold parseBelow?
  split
  · next rest =>
    have hplus : ('+').isDigit = true := hdigits '+' List.mem_cons_self
    exact absurd hplus (by decide)
  · simp only [hempty, hall, hbound, Bool.not_false, Bool.and_self, decide_true, if_true]

theorem parseBelow?_plus (hdigits : ∀ c ∈ digits, c.isDigit = true) :
    parseBelow? bound ('+' :: digits) = parseBelow? bound digits := by
  unfold parseBelow?
  split
  · next rest heq =>
    obtain rfl := (List.cons.inj heq).2
    split
    · next rest' => exact absurd (hdigits '+' List.mem_cons_self) (by decide)
    · rfl
  · next hno => exact absurd rfl (hno digits)

theorem exists_digits_of_parseBelow? (h : parseBelow? bound text = some n) :
    ∃ digits, (text = digits ∨ text = '+' :: digits) ∧ digits ≠ [] ∧
      (∀ c ∈ digits, c.isDigit = true) ∧ digitsValue 0 digits = n ∧ n < bound := by
  have hdigits : ∀ digits : List Char, (if !digits.isEmpty && digits.all Char.isDigit &&
      digitsValue 0 digits < bound then some (digitsValue 0 digits) else none) = some n →
      digits ≠ [] ∧ (∀ c ∈ digits, c.isDigit = true) ∧ digitsValue 0 digits = n ∧ n < bound := by
    intro digits h
    rw [Option.ite_none_right_eq_some] at h
    obtain ⟨hcond, heq⟩ := h
    obtain rfl := Option.some.inj heq
    simp only [Bool.and_eq_true, Bool.not_eq_true', List.isEmpty_eq_false_iff, List.all_eq_true,
      decide_eq_true_eq] at hcond
    exact ⟨hcond.1.1, hcond.1.2, rfl, hcond.2⟩
  unfold parseBelow? at h
  dsimp only at h
  split at h
  · next rest => exact ⟨rest, .inr rfl, hdigits rest h⟩
  · exact ⟨text, .inl rfl, hdigits text h⟩

/-- **A number is read from its numerals, and from nothing else.** -/
theorem parseBelow?_eq_some_iff :
    parseBelow? bound text = some n ↔ Denotes text n ∧ n < bound := by
  constructor
  · intro h
    obtain ⟨digits, htext, hne, hdigits, hvalue, hbound⟩ := exists_digits_of_parseBelow? h
    rw [digitsValue_eq_ofDigitChars] at hvalue
    obtain rfl := hvalue
    rcases htext with rfl | rfl
    · exact ⟨.plain hne hdigits, hbound⟩
    · exact ⟨.signed hne hdigits, hbound⟩
  · intro h
    obtain ⟨hnumeral, hbound⟩ := h
    cases hnumeral with
    | plain hne hdigits =>
      rw [← digitsValue_eq_ofDigitChars] at hbound ⊢
      exact parseBelow?_of_isDigit hne hdigits hbound
    | signed hne hdigits =>
      rw [← digitsValue_eq_ofDigitChars] at hbound ⊢
      rw [parseBelow?_plus hdigits]
      exact parseBelow?_of_isDigit hne hdigits hbound

theorem parseWord?_eq_some_iff {w : UInt32} : parseWord? text = some w ↔ Denotes text w.toNat := by
  rw [parseWord?, Option.map_eq_some_iff]
  simp only [parseBelow?_eq_some_iff]
  constructor
  · intro h
    obtain ⟨n, ⟨hnumeral, hbound⟩, rfl⟩ := h
    rwa [UInt32.toNat_ofNat_of_lt' hbound]
  · intro h
    exact ⟨w.toNat, ⟨h, w.toNat_lt_size⟩, UInt32.ofNat_toNat⟩

/-! ## Printed numerals -/

/-- A numeral as it is printed: it has no sign, and no zero stands in front of other digits. -/
def IsPlainNumeral (text : List Char) : Prop :=
  text.head? ≠ some '+' ∧ (text.head? = some '0' → text = ['0'])

instance (text : List Char) : Decidable (IsPlainNumeral text) :=
  inferInstanceAs (Decidable (text.head? ≠ some '+' ∧ (text.head? = some '0' → text = ['0'])))

theorem digitChar_of_isDigit {c : Char} (h : c.isDigit = true) :
    c.toNat - '0'.toNat < 10 ∧ Nat.digitChar (c.toNat - '0'.toNat) = c := by
  have hrange : '0'.toNat ≤ c.toNat ∧ c.toNat ≤ '9'.toNat := by
    simpa [Char.isDigit, UInt32.le_iff_toNat_le] using h
  have hzero : '0'.toNat = 48 := rfl
  have hnine : '9'.toNat = 57 := rfl
  have hlt : c.toNat - '0'.toNat < 10 := by omega
  refine ⟨hlt, Char.toNat_inj.mp ?_⟩
  rw [Nat.toNat_digitChar_of_lt_ten hlt]
  omega

/-- Digits behind those of a positive number make up the digits of the value they lead to. -/
theorem toDigits_append_digits {acc : Nat} (hacc : 0 < acc)
    (hdigits : ∀ c ∈ digits, c.isDigit = true) :
    Nat.toDigits 10 acc ++ digits = Nat.toDigits 10 (Nat.ofDigitChars 10 digits acc) := by
  induction digits generalizing acc with
  | nil => simp
  | cons c digits ih =>
    obtain ⟨hc, hdigits⟩ := List.forall_mem_cons.mp hdigits
    obtain ⟨hlt, hchar⟩ := digitChar_of_isDigit hc
    have hpos : 0 < 10 * acc + (c.toNat - '0'.toNat) := by omega
    calc Nat.toDigits 10 acc ++ c :: digits
        = (Nat.toDigits 10 acc ++ Nat.toDigits 10 (c.toNat - '0'.toNat)) ++ digits := by
          rw [Nat.toDigits_of_lt_base hlt, hchar, List.append_assoc, List.singleton_append]
      _ = Nat.toDigits 10 (10 * acc + (c.toNat - '0'.toNat)) ++ digits := by
          rw [Nat.toDigits_append_toDigits (by decide) hacc hlt]
      _ = Nat.toDigits 10 (Nat.ofDigitChars 10 (c :: digits) acc) := by
          rw [ih hpos hdigits, Nat.ofDigitChars_cons]

theorem head?_toDigits {n : Nat} (h : 0 < n) : (Nat.toDigits 10 n).head? ≠ some '0' := by
  by_cases hlt : n < 10
  · rw [Nat.toDigits_of_lt_base hlt, List.head?_cons, ne_eq, Option.some.injEq,
      Nat.digitChar_eq_zero]
    omega
  · obtain ⟨c, rest, hdigits⟩ := List.exists_cons_of_ne_nil (Nat.toDigits_ne_nil (n := n / 10))
    have hhead := head?_toDigits (n := n / 10) (by omega)
    rw [Nat.toDigits_of_base_le (by decide) (by omega)]
    rw [hdigits] at hhead ⊢
    exact hhead
termination_by n

theorem isPlainNumeral_repr (n : Nat) : IsPlainNumeral (Nat.repr n).toList := by
  constructor
  · intro hplus
    exact absurd (isDigit_of_mem_repr (List.mem_of_mem_head? hplus)) (by decide)
  · intro hzero
    rw [Nat.toList_repr] at hzero ⊢
    by_cases hn : 0 < n
    · exact absurd hzero (head?_toDigits hn)
    · obtain rfl : n = 0 := by omega
      rfl

/-- **Of the numerals of a number exactly the plain one is what the number is printed as.** -/
theorem Denotes.eq_repr_iff (h : Denotes text n) :
    text = (Nat.repr n).toList ↔ IsPlainNumeral text := by
  constructor
  · intro heq
    rw [heq]
    exact isPlainNumeral_repr n
  · intro hplain
    rw [Nat.toList_repr]
    cases h with
    | signed _ _ => exact absurd rfl hplain.1
    | plain hne hdigits =>
      obtain ⟨c, rest, rfl⟩ := List.exists_cons_of_ne_nil hne
      by_cases hc : c = '0'
      · have hzero : c :: rest = ['0'] := hplain.2 (by rw [hc]; rfl)
        rw [hzero]
        rfl
      · obtain ⟨hdigit, hrest⟩ := List.forall_mem_cons.mp hdigits
        obtain ⟨hlt, hchar⟩ := digitChar_of_isDigit hdigit
        have hpos : 0 < c.toNat - '0'.toNat := by
          refine Nat.pos_of_ne_zero fun h0 => hc ?_
          rw [← hchar, h0]
          rfl
        have happend := toDigits_append_digits hpos hrest
        rw [Nat.toDigits_of_lt_base hlt, hchar] at happend
        rw [Nat.ofDigitChars_cons]
        simpa using happend

end KitSurface.Text
