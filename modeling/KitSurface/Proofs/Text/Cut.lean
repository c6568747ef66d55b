import KitSurface.Text.Word
import Mathlib.Data.List.Basic
/-!
Where a text is cut. Two texts with a cut each, at characters that stand nowhere before the cuts,
are equal only if they are cut alike (`eq_of_append_cons`), and what lacks the character of a cut
stands on one side of it (`infix_of_infix_append`). So a word ends where its word characters
end (`eq_of_word_append_cons`), among them numbers in decimal (`isWord_of_mem_repr`), and a text of
lines has no other lines (`eq_of_flatMap_line`).
-/

namespace KitSurface.Text

variable {a b x y : List Char} {c d : Char}

theorem eq_of_append_cons : ∀ {a b : List Char}, d ∉ a → c ∉ b →
    a ++ c :: x = b ++ d :: y → a = b ∧ c = d ∧ x = y
  | [], [], _, _, h => by
    obtain ⟨hcd, hxy⟩ := List.cons.inj h
    exact ⟨rfl, hcd, hxy⟩
  | [], e :: b, _, hc, h => by
    obtain ⟨rfl, -⟩ := List.cons.inj h
    exact absurd List.mem_cons_self hc
  | e :: a, [], hd, _, h => by
    obtain ⟨rfl, -⟩ := List.cons.inj h
    exact absurd List.mem_cons_self hd
  | e :: a, e' :: b, hd, hc, h => by
    obtain ⟨rfl, htail⟩ := List.cons.inj h
    obtain ⟨rfl, hcd, hxy⟩ := eq_of_append_cons (mt (List.mem_cons_of_mem e) hd)
      (mt (List.mem_cons_of_mem e) hc) htail
    exact ⟨rfl, hcd, hxy⟩

theorem eq_of_append_cons_of_not_mem (ha : c ∉ a) (hx : c ∉ x) (h : a ++ c :: x = b ++ c :: y) :
    a = b ∧ x = y := by
  have hb : c ∉ b := by
    intro hmem
    obtain ⟨front, rest, rfl, hfront⟩ := List.eq_append_cons_of_mem hmem
    rw [List.append_assoc, List.cons_append] at h
    obtain ⟨-, -, rfl⟩ := eq_of_append_cons ha hfront h
    exact hx (List.mem_append_right rest List.mem_cons_self)
  obtain ⟨hab, -, hxy⟩ := eq_of_append_cons ha hb h
  exact ⟨hab, hxy⟩

/-- The end of a text that lacks the character of a cut is the end of what is behind the cut. -/
theorem suffix_of_suffix_append (hd : d ∉ x) (h : x <:+ a ++ d :: b) : x <:+ b := by
  rcases List.suffix_or_suffix_of_suffix h (List.suffix_append a (d :: b)) with hx | hx
  · rcases List.suffix_cons_iff.mp hx with rfl | hb
    · exact absurd List.mem_cons_self hd
    · exact hb
  · exact absurd (hx.mem List.mem_cons_self) hd

/-- A part of a text that lacks the character of a cut is on one side of the cut. -/
theorem infix_of_infix_append (hd : d ∉ x) (h : x <:+: a ++ d :: b) : x <:+: a ∨ x <:+: b := by
  -- What begins at the cut, or goes on to it, is empty.
  have hnil : ∀ y : List Char, d ∉ y → y <+: d :: b → y = [] := by
    intro y hy hprefix
    rcases List.prefix_cons_iff.mp hprefix with rfl | ⟨tail, rfl, -⟩
    · rfl
    · exact absurd List.mem_cons_self hy
  rcases List.infix_append_iff.mp h with ha | hb | ⟨front, back, rfl, hfront, hback⟩
  · exact Or.inl ha
  · rcases List.infix_cons_iff.mp hb with hprefix | hb
    · rw [hnil x hd hprefix]
      exact Or.inl List.nil_infix
    · exact Or.inr hb
  · rw [hnil back (fun hmem => hd (List.mem_append_right front hmem)) hback, List.append_nil]
    exact Or.inl hfront.isInfix

/-- Words that end where their word characters end are the same word. -/
theorem eq_of_word_append_cons (ha : ∀ e ∈ a, isWord e = true) (hb : ∀ e ∈ b, isWord e = true)
    (hc : isWord c = false) (hd : isWord d = false) (h : a ++ c :: x = b ++ d :: y) :
    a = b ∧ c = d ∧ x = y := by
  refine eq_of_append_cons (fun hmem => ?_) (fun hmem => ?_) h
  · rw [ha d hmem] at hd
    cases hd
  · rw [hb c hmem] at hc
    cases hc

/-! ## Numbers -/

theorem isWord_of_isDigit {c : Char} (h : c.isDigit = true) : isWord c = true := by
  have hlow : c.toNat < 0x80 := by
    simp only [Char.isDigit, Bool.and_eq_true, decide_eq_true_eq] at h
    exact Nat.lt_of_le_of_lt (UInt32.le_iff_toNat_le.mp h.2) (by decide)
  simp [isWord, hlow, isAsciiWord, Char.isAlphanum, h]

theorem isWord_of_mem_repr (n : Nat) : ∀ c ∈ (Nat.repr n).toList, isWord c = true := by
  intro c hc
  rw [Nat.toList_repr] at hc
  exact isWord_of_isDigit (Nat.isDigit_of_mem_toDigits (by decide) (by decide) hc)

theorem not_mem_repr (n : Nat) (hc : isWord c = false) : c ∉ (Nat.repr n).toList := by
  intro h
  rw [isWord_of_mem_repr n c h] at hc
  cases hc

/-! ## Lines -/

theorem eq_of_flatMap_line : ∀ {xs ys : List (List Char)}, (∀ line ∈ xs, c ∉ line) →
    (∀ line ∈ ys, c ∉ line) → xs.flatMap (· ++ [c]) = ys.flatMap (· ++ [c]) → xs = ys
  | [], [], _, _, _ => rfl
  | [], line :: ys, _, _, h => by simp at h
  | line :: xs, [], _, _, h => by simp at h
  | line :: xs, line' :: ys, hx, hy, h => by
    obtain ⟨hline, hxs⟩ := List.forall_mem_cons.mp hx
    obtain ⟨hline', hys⟩ := List.forall_mem_cons.mp hy
    simp only [List.flatMap_cons, List.append_assoc, List.cons_append, List.nil_append] at h
    obtain ⟨rfl, -, hrest⟩ := eq_of_append_cons hline hline' h
    rw [eq_of_flatMap_line hxs hys hrest]

end KitSurface.Text
