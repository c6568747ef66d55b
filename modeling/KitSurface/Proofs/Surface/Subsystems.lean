import KitSurface.Surface.Basic
/-!
The subsystems of a surface. They are those of its groups (`mem_subsystems_iff`), each once and in
the order of all subsystems (`pairwise_subsystems`), and the core is always among them
(`core_mem_subsystems`).
-/

namespace KitSurface

/-! ## Dropping repeats -/

section
variable {α : Type} [DecidableEq α]

theorem mem_dropRepeats {x : α} : ∀ {xs : List α}, x ∈ dropRepeats xs ↔ x ∈ xs
  | [] => Iff.rfl
  | [a] => Iff.rfl
  | a :: b :: rest => by
    have ih : x ∈ dropRepeats (b :: rest) ↔ x ∈ b :: rest := mem_dropRepeats
    unfold dropRepeats
    split
    · next hab =>
      subst hab
      rw [ih]
      simp
    · rw [List.mem_cons, ih]
      exact List.mem_cons.symm

/-- A list in ascending order has no element twice once its repeats are dropped. -/
theorem pairwise_dropRepeats {rank : α → Nat} (inj : ∀ a b, rank a = rank b → a = b) :
    ∀ {xs : List α}, xs.Pairwise (fun a b => rank a ≤ rank b) →
      (dropRepeats xs).Pairwise (fun a b => rank a < rank b)
  | [], _ => List.Pairwise.nil
  | [a], _ => List.pairwise_singleton _ a
  | a :: b :: rest, h => by
    obtain ⟨ha, hrest⟩ := List.pairwise_cons.mp h
    have ih := pairwise_dropRepeats inj hrest
    unfold dropRepeats
    split
    · exact ih
    · next hab =>
      refine List.pairwise_cons.mpr ⟨fun x hx => ?_, ih⟩
      have hlt : rank a < rank b :=
        Nat.lt_of_le_of_ne (ha b List.mem_cons_self) (fun he => hab (inj a b he))
      rcases List.mem_cons.mp (mem_dropRepeats.mp hx) with rfl | hx
      · exact hlt
      · exact Nat.lt_of_lt_of_le hlt ((List.pairwise_cons.mp hrest).1 x hx)

end

/-! ## The subsystems of a surface -/

namespace Subsystem

/-- The place of a subsystem in the order of all of them. -/
def rank (sub : Subsystem) : Nat :=
  all.idxOf sub

theorem rank_injective (a b : Subsystem) (h : a.rank = b.rank) : a = b := by
  revert h
  cases a <;> cases b <;> decide

end Subsystem

theorem Group.pairwise_rank_all :
    (Group.all.map Group.subsystem).Pairwise (fun a b => a.rank ≤ b.rank) := by
  decide

namespace Surface

variable {s : Surface} {sub : Subsystem} {g : Group}

theorem mem_groups_iff :
    g ∈ s.groups ↔ g.inclusion.admits s.context = true ∧ g.isEnabled s.options = true := by
  simp [groups, Group.mem_all]

theorem mem_groupsIn_iff : g ∈ s.groupsIn sub ↔ g ∈ s.groups ∧ g.subsystem = sub := by
  simp [groupsIn]

theorem mem_subsystems_iff : sub ∈ s.subsystems ↔ ∃ g ∈ s.groups, g.subsystem = sub := by
  rw [subsystems, mem_dropRepeats, List.mem_map]

theorem groupsIn_ne_nil_iff : s.groupsIn sub ≠ [] ↔ sub ∈ s.subsystems := by
  rw [mem_subsystems_iff]
  constructor
  · intro h
    obtain ⟨g, hg⟩ := List.exists_mem_of_ne_nil _ h
    exact ⟨g, mem_groupsIn_iff.mp hg⟩
  · intro hx
    obtain ⟨g, hg⟩ := hx
    exact List.ne_nil_of_mem (mem_groupsIn_iff.mpr hg)

/-- The subsystems of a surface are in order, so none is there twice. -/
theorem pairwise_subsystems (s : Surface) : s.subsystems.Pairwise (fun a b => a.rank < b.rank) := by
  have hsub : (s.groups.map Group.subsystem).Sublist (Group.all.map Group.subsystem) :=
    List.Sublist.map _ List.filter_sublist
  exact pairwise_dropRepeats Subsystem.rank_injective (Group.pairwise_rank_all.sublist hsub)

theorem nodup_subsystems (s : Surface) : s.subsystems.Nodup :=
  s.pairwise_subsystems.imp (fun h he => absurd (he ▸ h) (Nat.lt_irrefl _))

/-- Every context admits a group of the core that no toggle turns off. -/
theorem core_mem_subsystems (s : Surface) : .core ∈ s.subsystems := by
  rw [mem_subsystems_iff]
  cases hk : s.context.isKernelMode with
  | true => exact ⟨.ntKernel, mem_groups_iff.mpr ⟨hk, rfl⟩, rfl⟩
  | false =>
    have hw : Group.windows.inclusion.admits s.context = true := by
      simp [Group.inclusion, Inclusion.admits, hk]
    exact ⟨.windows, mem_groups_iff.mpr ⟨hw, rfl⟩, rfl⟩

end Surface

end KitSurface
