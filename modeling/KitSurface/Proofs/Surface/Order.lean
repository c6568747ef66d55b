import KitSurface.Proofs.Surface.Difference
import KitSurface.Proofs.Traversal
import Mathlib.Data.List.Sort
/-!
The order of groups and headers. The groups of a subsystem stand together among all groups, so that
the groups of a surface are those of its subsystems, one subsystem after the other
(`groups_eq_flatMap_groupsIn`). A header belongs to one group and is there once, so that no repeat
has to be dropped: the headers of a surface are those of its subsystems, in the same order
(`headers_eq_flatMap_headersIn`).
-/

namespace KitSurface

namespace Subsystem

theorem mem_all (sub : Subsystem) : sub ∈ all := by
  cases sub <;> decide

theorem pairwise_rank_all : all.Pairwise (fun a b => a.rank < b.rank) := by
  decide

instance : Std.Irrefl fun a b : Subsystem => a.rank < b.rank :=
  ⟨fun a => Nat.lt_irrefl a.rank⟩

instance : Std.Antisymm fun a b : Subsystem => a.rank < b.rank :=
  ⟨fun _ _ h h' => absurd h' (Nat.lt_asymm h)⟩

end Subsystem

namespace Group

/-- The groups of a subsystem stand together, and in the order of the subsystems. -/
theorem all_eq_flatMap_groups : all = Subsystem.all.flatMap Subsystem.groups := by
  decide

theorem nodup_all : all.Nodup := by
  decide

theorem nodup_headers (g : Group) (o : Options) : (g.headers o).Nodup := by
  cases g <;> simp [headers]

theorem nodup_flatMap_headers {groups : List Group} (h : groups.Nodup) (o : Options) :
    (groups.flatMap fun g => g.headers o).Nodup := by
  refine List.nodup_flatMap.mpr ⟨fun g _ => g.nodup_headers o, h.imp fun hne => ?_⟩
  exact List.disjoint_left.mpr fun _ hx hx' => hne (eq_of_mem_headers hx hx')

end Group

namespace Surface

variable {s : Surface} {sub : Subsystem}

theorem nodup_groups (s : Surface) : s.groups.Nodup :=
  Group.nodup_all.filter _

theorem filter_groups_eq_groupsIn (s : Surface) (sub : Subsystem) :
    (sub.groups.filter fun g => g.inclusion.admits s.context && g.isEnabled s.options) =
      s.groupsIn sub := by
  simp only [groupsIn, groups, Subsystem.groups, List.filter_filter, Bool.and_comm]

theorem subsystems_eq_filter (s : Surface) :
    s.subsystems = Subsystem.all.filter fun sub => sub ∈ s.subsystems :=
  s.pairwise_subsystems.eq_of_mem_iff (Subsystem.pairwise_rank_all.sublist List.filter_sublist)
    fun sub => by simp [Subsystem.mem_all]

theorem flatMap_subsystems {α : Type} (s : Surface) {f : Subsystem → List α}
    (h : ∀ sub, sub ∉ s.subsystems → f sub = []) :
    s.subsystems.flatMap f = Subsystem.all.flatMap f := by
  rw [subsystems_eq_filter]
  induction Subsystem.all with
  | nil => rfl
  | cons sub subs ih =>
    by_cases hsub : sub ∈ s.subsystems
    · rw [List.filter_cons_of_pos (by simpa using hsub), List.flatMap_cons, List.flatMap_cons, ih]
    · rw [List.filter_cons_of_neg (by simpa using hsub), List.flatMap_cons, h sub hsub,
        List.nil_append, ih]

/-- The groups of a surface are those of its subsystems, one subsystem after the other. -/
theorem groups_eq_flatMap_groupsIn (s : Surface) :
    s.groups = s.subsystems.flatMap s.groupsIn := by
  have hnone : ∀ sub, sub ∉ s.subsystems → s.groupsIn sub = [] := by
    intro sub hsub
    by_contra hne
    exact hsub (groupsIn_ne_nil_iff.mp hne)
  -- With the subsystems that have no group in the surface, all groups are listed.
  rw [s.flatMap_subsystems hnone, groups, Group.all_eq_flatMap_groups, List.filter_flatMap]
  simp only [filter_groups_eq_groupsIn]

theorem nodup_flatMap_headers (s : Surface) :
    (s.groups.flatMap fun g => g.headers s.options).Nodup :=
  Group.nodup_flatMap_headers s.nodup_groups s.options

theorem nodup_headers (s : Surface) : s.headers.Nodup :=
  nodup_eraseDups _

/-- The headers of a surface are those of its subsystems, one subsystem after the other. -/
theorem headers_eq_flatMap_headersIn (s : Surface) :
    s.headers = s.subsystems.flatMap s.headersIn := by
  have hgroups := s.nodup_flatMap_headers
  rw [headers, eraseDups_eq_self hgroups, groups_eq_flatMap_groupsIn, List.flatMap_assoc]
  rfl

end Surface

end KitSurface
