import KitSurface.Proofs.Surface.Change
import KitSurface.Proofs.Version
/-!
What options change. Two surfaces of one context differ in the groups that the options of only one
of them enable, in the headers of these groups, and in the header of the one class extension whose
version the options set. Main statement: nothing else is added or removed
(`difference_of_options`).
-/

namespace KitSurface

namespace Group

theorem mem_headers_spbCx_iff {o o' : Options} :
    "spb/" ++ o'.spbCxVersion.text ++ "/spbcx.h" ∈ spbCx.headers o ↔
      o.spbCxVersion = o'.spbCxVersion := by
  rw [headers_spbCx, List.mem_singleton]
  constructor
  · intro h
    have hlist := congrArg String.toList h
    simp only [String.toList_append, List.append_cancel_left_eq, List.append_cancel_right_eq] at hlist
    exact (Version.text_injective (String.toList_injective hlist)).symm
  · intro h
    rw [h]

end Group

namespace Surface

variable {c : BuildContext} {o o' : Options} {g : Group} {header : String}

/-- The header of the class extension in a new version; there is none if the version stays. -/
def newExtension (o o' : Options) : List String :=
  if o.spbCxVersion = o'.spbCxVersion then [] else ["spb/" ++ o'.spbCxVersion.text ++ "/spbcx.h"]

theorem mem_newExtension_iff : header ∈ newExtension o o' ↔
    o.spbCxVersion ≠ o'.spbCxVersion ∧ header ∈ Group.spbCx.headers o' := by
  unfold newExtension
  split
  · next h => simp [h]
  · next h => simp [h, Group.headers_spbCx]

theorem addedGroups_of_options (c : BuildContext) (o o' : Options) :
    (difference ⟨c, o⟩ ⟨c, o'⟩).addedGroups =
      Group.all.filter fun g => g.inclusion.admits c && !g.isEnabled o && g.isEnabled o' := by
  simp only [difference, without, groups, List.filter_filter]
  refine List.filter_congr fun g _ => ?_
  cases ha : g.inclusion.admits c <;> cases he : g.isEnabled o <;> cases he' : g.isEnabled o' <;>
    simp [ha, he, Group.mem_all]

theorem spbCx_not_mem_addedGroups (a b : Surface) : .spbCx ∉ (a.difference b).addedGroups :=
  fun h => (mem_without.mp h).2 a.spbCx_mem_groups

theorem mem_addedHeaders_iff : header ∈ (difference ⟨c, o⟩ ⟨c, o'⟩).addedHeaders ↔
    (∃ g ∈ (difference ⟨c, o⟩ ⟨c, o'⟩).addedGroups, header ∈ g.headers o') ∨
      header ∈ newExtension o o' := by
  simp only [difference, mem_without, mem_newExtension_iff, mem_headers_iff]
  constructor
  · intro h
    obtain ⟨⟨g, hg, hheader⟩, hnew⟩ := h
    by_cases hold : g ∈ groups ⟨c, o⟩
    · -- The group stays, so the header was there unless it names the version.
      have hgone : header ∉ g.headers o := fun hheader => hnew ⟨g, hold, hheader⟩
      obtain rfl : g = .spbCx := by
        by_contra hne
        exact hgone (Group.headers_eq_of_ne_spbCx hne o o' ▸ hheader)
      refine Or.inr ⟨fun heq => hgone ?_, hheader⟩
      rw [Group.headers_spbCx, heq]
      exact hheader
    · exact Or.inl ⟨g, ⟨hg, hold⟩, hheader⟩
  · intro h
    rcases h with ⟨g, ⟨hg, hold⟩, hheader⟩ | ⟨hne, hheader⟩
    · refine ⟨⟨g, hg, hheader⟩, fun hx => ?_⟩
      obtain ⟨g', hg', hheader'⟩ := hx
      exact hold (Group.eq_of_mem_headers hheader hheader' ▸ hg')
    · refine ⟨⟨.spbCx, spbCx_mem_groups _, hheader⟩, fun hx => ?_⟩
      obtain ⟨g', -, hheader'⟩ := hx
      obtain rfl := Group.eq_of_mem_headers hheader hheader'
      rw [List.mem_singleton.mp hheader] at hheader'
      exact hne (Group.mem_headers_spbCx_iff.mp hheader')

theorem nodup_newExtension (o o' : Options) : (newExtension o o').Nodup := by
  unfold newExtension
  split
  · exact List.nodup_nil
  · exact List.nodup_singleton _

/-- The new headers are those of the new groups and the one in a new version. -/
theorem addedHeaders_of_options (c : BuildContext) (o o' : Options) :
    (difference ⟨c, o⟩ ⟨c, o'⟩).addedHeaders.Perm
      ((difference ⟨c, o⟩ ⟨c, o'⟩).addedGroups.flatMap (·.headers o') ++ newExtension o o') := by
  have hnodup : (difference ⟨c, o⟩ ⟨c, o'⟩).addedHeaders.Nodup := (nodup_headers _).filter _
  have hadded : (difference ⟨c, o⟩ ⟨c, o'⟩).addedGroups.Nodup := (nodup_groups _).filter _
  refine (List.perm_ext_iff_of_nodup hnodup ?_).mpr fun header => ?_
  · have hgroups := Group.nodup_flatMap_headers hadded o'
    refine hgroups.append (nodup_newExtension o o') (List.disjoint_left.mpr fun header hx hx' => ?_)
    obtain ⟨g, hg, hheader⟩ := List.mem_flatMap.mp hx
    obtain rfl := Group.eq_of_mem_headers hheader (mem_newExtension_iff.mp hx').2
    exact spbCx_not_mem_addedGroups _ _ hg
  · rw [mem_addedHeaders_iff, List.mem_append, List.mem_flatMap]

/-- **Options change the groups that they turn on or off, with their headers, and the version of the
class extension, and nothing else.** -/
theorem difference_of_options (c : BuildContext) (o o' : Options) :
    let d := difference ⟨c, o⟩ ⟨c, o'⟩
    d.addedSupplements = [] ∧ d.removedSupplements = [] ∧
    d.addedGroups =
      Group.all.filter (fun g => g.inclusion.admits c && !g.isEnabled o && g.isEnabled o') ∧
    d.removedGroups =
      Group.all.filter (fun g => g.inclusion.admits c && !g.isEnabled o' && g.isEnabled o) ∧
    d.addedHeaders.Perm (d.addedGroups.flatMap (·.headers o') ++ newExtension o o') ∧
    d.removedHeaders.Perm (d.removedGroups.flatMap (·.headers o) ++ newExtension o' o) := by
  have hsame : ∀ s s' : Surface, s.context = s'.context → without s.tags s'.tags = [] :=
    fun s s' h => without_eq_nil_iff.mpr fun _ ht => tags_eq_of_context h ▸ ht
  -- What is removed is what is added the other way round.
  exact ⟨hsame _ _ rfl, hsame _ _ rfl, addedGroups_of_options c o o', addedGroups_of_options c o' o,
    addedHeaders_of_options c o o', addedHeaders_of_options c o' o⟩

end Surface

end KitSurface
