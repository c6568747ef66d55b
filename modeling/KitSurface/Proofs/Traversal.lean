import Mathlib.Data.List.Forall2
import Mathlib.Data.List.Nodup
import Mathlib.Data.List.Perm.Basic
/-!
Passes over a list that the first element with a property decides (`IsFirst`), so that another one
can be left out (`isFirst_append_cons`). A pass that can fail gives a value for every element
(`mapM_eq_ok_iff`), or the error of the first element that fails (`mapM_eq_error_iff`). Where each
name of a list stands once, a value is looked up in every order (`rel_lookup`). The members of a list
without its repeats stand there once each (`nodup_eraseDups`).
-/

namespace KitSurface

/-! ## The first element with a property -/

/-- An element is the first one of a list with a property. -/
def IsFirst {α : Type} (p : α → Prop) (xs : List α) (x : α) : Prop :=
  p x ∧ ∃ front back, xs = front ++ x :: back ∧ ∀ y ∈ front, ¬ p y

section
variable {α β : Type} {p q : α → Prop} {xs : List α} {x : α}

theorem IsFirst.mem (h : IsFirst p xs x) : x ∈ xs := by
  obtain ⟨-, front, back, rfl, -⟩ := h
  simp

theorem isFirst_cons {a : α} :
    IsFirst p (a :: xs) x ↔ p a ∧ x = a ∨ ¬ p a ∧ IsFirst p xs x := by
  constructor
  · intro h
    obtain ⟨hx, front, back, heq, hfront⟩ := h
    cases front with
    | nil =>
      obtain ⟨rfl, -⟩ := List.cons.inj heq
      exact Or.inl ⟨hx, rfl⟩
    | cons b front =>
      obtain ⟨rfl, rfl⟩ := List.cons.inj heq
      obtain ⟨ha, hfront⟩ := List.forall_mem_cons.mp hfront
      exact Or.inr ⟨ha, hx, front, back, rfl, hfront⟩
  · intro h
    rcases h with ⟨ha, rfl⟩ | ⟨ha, hx, front, back, rfl, hfront⟩
    · exact ⟨ha, [], xs, rfl, by simp⟩
    · exact ⟨hx, a :: front, back, rfl, List.forall_mem_cons.mpr ⟨ha, hfront⟩⟩

theorem isFirst_congr (h : ∀ y ∈ xs, p y ↔ q y) : IsFirst p xs x ↔ IsFirst q xs x := by
  induction xs with
  | nil => simp [IsFirst]
  | cons a xs ih =>
    obtain ⟨ha, hxs⟩ := List.forall_mem_cons.mp h
    rw [isFirst_cons, isFirst_cons, ha, ih hxs]

theorem isFirst_map {f : β → α} {ys : List β} :
    IsFirst p (ys.map f) x ↔ ∃ y, f y = x ∧ IsFirst (fun y => p (f y)) ys y := by
  induction ys with
  | nil => simp [IsFirst]
  | cons b ys ih =>
    simp only [List.map_cons, isFirst_cons, ih]
    constructor
    · intro h
      rcases h with ⟨hb, rfl⟩ | ⟨hb, y, rfl, hy⟩
      · exact ⟨b, rfl, Or.inl ⟨hb, rfl⟩⟩
      · exact ⟨y, rfl, Or.inr ⟨hb, hy⟩⟩
    · intro h
      obtain ⟨y, rfl, ⟨hb, rfl⟩ | ⟨hb, hy⟩⟩ := h
      · exact Or.inl ⟨hb, rfl⟩
      · exact Or.inr ⟨hb, y, rfl, hy⟩

/-- Behind a front without the property the first element is that of the rest. -/
theorem isFirst_append {ys : List α} :
    IsFirst p (xs ++ ys) x ↔ IsFirst p xs x ∨ (∀ y ∈ xs, ¬ p y) ∧ IsFirst p ys x := by
  induction xs with
  | nil => simp [IsFirst]
  | cons a xs ih =>
    rw [List.cons_append, isFirst_cons, isFirst_cons, ih, List.forall_mem_cons, and_or_left,
      or_assoc, and_assoc]

/-- An element that is not the first one with the property can be left out. -/
theorem isFirst_append_cons {a : α} {ys : List α} (h : p a → ∃ y ∈ xs, p y) :
    IsFirst p (xs ++ a :: ys) x ↔ IsFirst p (xs ++ ys) x := by
  rw [isFirst_append, isFirst_append]
  refine or_congr_right (and_congr_right fun hfront => ?_)
  have ha : ¬ p a := fun ha => by
    obtain ⟨y, hy, hpy⟩ := h ha
    exact hfront y hy hpy
  rw [isFirst_cons]
  simp only [ha, false_and, false_or, not_false_eq_true, true_and]

theorem find?_eq_some_iff_isFirst {test : α → Bool} :
    xs.find? test = some x ↔ IsFirst (fun y => test y = true) xs x := by
  rw [List.find?_eq_some_iff_append]
  simp only [IsFirst, Bool.not_eq_true', Bool.not_eq_true]

end

/-! ## Passes that can fail -/

section
variable {ε α β : Type} {f : α → Except ε β} {xs : List α}

theorem bind_eq_ok_iff {x : Except ε α} {g : α → Except ε β} {b : β} :
    x >>= g = .ok b ↔ ∃ a, x = .ok a ∧ g a = .ok b := by
  cases x <;> simp [bind, Except.bind]

theorem mapM_eq_ok_iff {ys : List β} :
    xs.mapM f = .ok ys ↔ List.Forall₂ (fun x y => f x = .ok y) xs ys := by
  induction xs generalizing ys with
  | nil => cases ys <;> simp [pure, Except.pure]
  | cons x xs ih =>
    rw [List.mapM_cons, List.forall₂_cons_left_iff]
    simp only [← ih]
    cases f x with
    | error e => simp [bind, Except.bind]
    | ok y =>
      cases xs.mapM f with
      | error e => simp [bind, Except.bind]
      | ok rest => simp [bind, Except.bind, pure, Except.pure, eq_comm]

theorem mapM_eq_some_iff {f : α → Option β} {ys : List β} :
    xs.mapM f = some ys ↔ List.Forall₂ (fun x y => f x = some y) xs ys := by
  induction xs generalizing ys with
  | nil => cases ys <;> simp
  | cons x xs ih =>
    rw [List.mapM_cons, List.forall₂_cons_left_iff]
    simp only [← ih]
    cases f x with
    | none => simp
    | some y => cases xs.mapM f <;> simp [eq_comm]

theorem exists_mem_of_forall₂ {R : α → β → Prop} : ∀ {xs : List α} {ys : List β},
    List.Forall₂ R xs ys → ∀ y ∈ ys, ∃ x ∈ xs, R x y
  | _, _, .cons (a := a) (b := b) hab hrest, y, hy => by
    rcases List.mem_cons.mp hy with rfl | hy
    · exact ⟨a, List.mem_cons_self, hab⟩
    · obtain ⟨x, hx, hxy⟩ := exists_mem_of_forall₂ hrest y hy
      exact ⟨x, List.mem_cons_of_mem a hx, hxy⟩

theorem forall₂_congr_of_mem {R S : α → β → Prop} {ys : List β}
    (h : ∀ x ∈ xs, ∀ y, R x y ↔ S x y) : List.Forall₂ R xs ys ↔ List.Forall₂ S xs ys := by
  induction xs generalizing ys with
  | nil => simp
  | cons x xs ih =>
    obtain ⟨hx, hxs⟩ := List.forall_mem_cons.mp h
    simp only [List.forall₂_cons_left_iff, hx, ih hxs]

/-- A pass fails with the error of the first element that fails. -/
theorem mapM_eq_error_iff {e : ε} : xs.mapM f = .error e ↔
    ∃ x, IsFirst (fun x => ∃ e, f x = .error e) xs x ∧ f x = .error e := by
  induction xs with
  | nil => simp [IsFirst, pure, Except.pure]
  | cons a xs ih =>
    simp only [List.mapM_cons, isFirst_cons]
    cases ha : f a with
    | error e' =>
      constructor
      · intro h
        have he : e' = e := Except.error.inj h
        exact ⟨a, Or.inl ⟨⟨e', rfl⟩, rfl⟩, he ▸ ha⟩
      · intro h
        obtain ⟨x, ⟨-, rfl⟩ | ⟨hno, -⟩, hx⟩ := h
        · have he : e' = e := Except.error.inj (ha.symm.trans hx)
          exact congrArg Except.error he
        · exact absurd ⟨e', rfl⟩ hno
    | ok y =>
      have hrest : (do let ys ← xs.mapM f; pure (y :: ys) : Except ε (List β)) = .error e ↔
          xs.mapM f = .error e := by
        cases xs.mapM f <;> simp [bind, Except.bind, pure, Except.pure]
      simpa [bind, Except.bind, ih] using hrest

end

/-! ## Names and their values -/

section
variable {α β γ : Type} [BEq α] [LawfulBEq α] {a : α} {xs : List (α × β)}

theorem lookup_of_not_mem (h : a ∉ xs.map (·.1)) : xs.lookup a = none := by
  rw [List.lookup_eq_none_iff]
  intro x hx
  rw [bne_iff_ne]
  rintro rfl
  exact h (List.mem_map_of_mem hx)

theorem lookup_of_mem {b : β} : ∀ {xs : List (α × β)}, (xs.map (·.1)).Nodup → (a, b) ∈ xs →
    xs.lookup a = some b
  | (k, v) :: rest, hnodup, h => by
    obtain ⟨hk, hrest⟩ := List.nodup_cons.mp hnodup
    rcases List.mem_cons.mp h with heq | hmem
    · obtain ⟨rfl, rfl⟩ := Prod.mk.inj heq
      rw [List.lookup_cons_self]
    · have hne : (a == k) = false := by
        rw [beq_eq_false_iff_ne]
        rintro rfl
        exact hk (List.mem_map.mpr ⟨_, hmem, rfl⟩)
      rw [List.lookup_cons, hne]
      exact lookup_of_mem hrest hmem

theorem eq_of_mem_of_nodup {b b' : β} (hnodup : (xs.map (·.1)).Nodup) (h : (a, b) ∈ xs)
    (h' : (a, b') ∈ xs) : b = b' :=
  Option.some.inj ((lookup_of_mem hnodup h).symm.trans (lookup_of_mem hnodup h'))

theorem mem_of_lookup {b : β} (h : xs.lookup a = some b) : (a, b) ∈ xs := by
  obtain ⟨front, back, rfl, -⟩ := List.lookup_eq_some_iff.mp h
  simp

/-- Lists with the same names, each name once, have related values of every name. -/
theorem rel_lookup {S : β → γ → Prop} {ys : List (α × γ)} (hnodup : (xs.map (·.1)).Nodup)
    (hnames : (xs.map (·.1)).Perm (ys.map (·.1)))
    (hvalues : ∀ a b c, (a, b) ∈ xs → (a, c) ∈ ys → S b c) (a : α) :
    Option.Rel S (xs.lookup a) (ys.lookup a) := by
  by_cases ha : a ∈ xs.map (·.1)
  · obtain ⟨⟨_, b⟩, hb, rfl⟩ := List.mem_map.mp ha
    obtain ⟨⟨_, c⟩, hc, rfl⟩ := List.mem_map.mp (hnames.mem_iff.mp ha)
    rw [lookup_of_mem hnodup hb, lookup_of_mem (hnames.nodup_iff.mp hnodup) hc]
    exact .some (hvalues _ b c hb hc)
  · rw [lookup_of_not_mem ha, lookup_of_not_mem (mt hnames.mem_iff.mpr ha)]
    exact .none

end

/-! ## Repeats -/

theorem nodup_eraseDups {α : Type} [DecidableEq α] (xs : List α) : xs.eraseDups.Nodup := by
  match xs with
  | [] => simp
  | x :: xs =>
    rw [List.eraseDups_cons, List.nodup_cons]
    refine ⟨?_, nodup_eraseDups _⟩
    simp [List.mem_eraseDups]
termination_by xs.length
decreasing_by exact Nat.lt_succ_of_le (List.length_filter_le _ _)

theorem eraseDups_eq_self {α : Type} [DecidableEq α] : ∀ {xs : List α}, xs.Nodup →
    xs.eraseDups = xs
  | [], _ => rfl
  | x :: xs, h => by
    obtain ⟨hx, hxs⟩ := List.nodup_cons.mp h
    have hfilter : (xs.filter fun y => !y == x) = xs :=
      List.filter_eq_self.mpr fun y hy => by simpa using fun he : y = x => hx (he ▸ hy)
    rw [List.eraseDups_cons, hfilter, eraseDups_eq_self hxs]

end KitSurface
