import KitSurface.Proofs.Surface.Order
/-!
What a difference tells. The entries that are added to a list and removed from it lead from the old
list to the new one (`isChange_without`), and lists in one order are merged into the new one
(`merge_without`). The lines of a difference are told apart by their heads, so that the text of a
difference determines it (`Difference.eq_of_text_eq`). Main statement: the difference of two surfaces
leads from the groups, headers and tags of the first to those of the second, the difference the
other way round is the same with added and removed entries exchanged, and no other difference has
its text (`difference_leads_and_text_unique`).
-/

namespace KitSurface

/-! ## Entries that are added and removed -/

/-- Added and removed entries lead from an old list to a new one: what is added is new and stands in
the new order, what is removed is gone and stands in the old order, and all else stays. -/
structure IsChange {α : Type} (old new added removed : List α) : Prop where
  added_sublist : added.Sublist new
  added_disjoint : added.Disjoint old
  removed_sublist : removed.Sublist old
  removed_disjoint : removed.Disjoint new
  mem_new_iff : ∀ x, x ∈ new ↔ x ∈ old ∧ x ∉ removed ∨ x ∈ added

section
variable {α : Type} [DecidableEq α] {old new : List α}

theorem mem_without {x : α} {xs ys : List α} : x ∈ without xs ys ↔ x ∈ xs ∧ x ∉ ys := by
  simp [without]

theorem without_disjoint (xs ys : List α) : (without xs ys).Disjoint ys :=
  fun _ hx hy => (mem_without.mp hx).2 hy

theorem isChange_without (old new : List α) :
    IsChange old new (without new old) (without old new) where
  added_sublist := List.filter_sublist
  added_disjoint := without_disjoint new old
  removed_sublist := List.filter_sublist
  removed_disjoint := without_disjoint old new
  mem_new_iff := by
    intro x
    simp only [mem_without]
    tauto

theorem without_without_perm (hold : old.Nodup) (hnew : new.Nodup) :
    (without old (without old new) ++ without new old).Perm new := by
  have hstay : (without old (without old new)).Perm (new.filter fun x => x ∈ old) := by
    refine (List.perm_ext_iff_of_nodup (hold.filter _) (hnew.filter _)).mpr fun x => ?_
    simp only [mem_without, List.mem_filter, decide_eq_true_eq]
    tauto
  refine (hstay.append_right _).trans ?_
  have hparts := List.filter_append_perm (fun x => decide (x ∈ old)) new
  simpa only [without, decide_not] using hparts

/-- Two lists in one order: what stays of the old one, merged with what is added, is the new one. -/
theorem merge_without {rank : α → Nat} (inj : ∀ a b, rank a = rank b → a = b)
    (hold : old.Nodup) (hnew : new.Nodup) (sold : old.Pairwise fun a b => rank a ≤ rank b)
    (snew : new.Pairwise fun a b => rank a ≤ rank b) :
    List.merge (without old (without old new)) (without new old) (fun a b => rank a ≤ rank b) =
      new := by
  have htrans : ∀ a b c : α, decide (rank a ≤ rank b) = true → decide (rank b ≤ rank c) = true →
      decide (rank a ≤ rank c) = true := by
    intro a b c hab hbc
    exact decide_eq_true (Nat.le_trans (of_decide_eq_true hab) (of_decide_eq_true hbc))
  have htotal : ∀ a b : α, (decide (rank a ≤ rank b) || decide (rank b ≤ rank a)) = true := by
    intro a b
    simpa using Nat.le_total (rank a) (rank b)
  have hmerge := List.pairwise_merge htrans htotal (without old (without old new)) (without new old)
    ((sold.imp decide_eq_true).filter _) ((snew.imp decide_eq_true).filter _)
  exact List.Perm.eq_of_pairwise (fun a b _ _ hab hba => inj a b (Nat.le_antisymm hab hba))
    (hmerge.imp of_decide_eq_true) snew
    ((List.merge_perm_append _).trans (without_without_perm hold hnew))

end

namespace Group

/-- The place of a group in the order of all of them. -/
def rank (g : Group) : Nat :=
  all.idxOf g

theorem rank_injective (g g' : Group) (h : g.rank = g'.rank) : g = g' :=
  (List.idxOf_inj g.mem_all).mp h

theorem pairwise_rank_le : all.Pairwise fun g g' => g.rank ≤ g'.rank := by
  decide

theorem name_injective : Function.Injective name := by
  intro g g' h
  revert h
  cases g <;> cases g' <;> decide

end Group

namespace Surface

/-- The groups that stay, merged with those that are added, are the groups of the second surface. -/
theorem merge_groups (a b : Surface) :
    List.merge (without a.groups (a.difference b).removedGroups) (a.difference b).addedGroups
      (fun g g' => g.rank ≤ g'.rank) = b.groups :=
  merge_without Group.rank_injective a.nodup_groups b.nodup_groups
    (Group.pairwise_rank_le.filter _) (Group.pairwise_rank_le.filter _)

end Surface

/-! ## The text of a difference -/

namespace Difference

/-- The difference the other way round. -/
def swap (d : Difference) : Difference where
  addedGroups := d.removedGroups
  removedGroups := d.addedGroups
  addedHeaders := d.removedHeaders
  removedHeaders := d.addedHeaders
  addedSupplements := d.removedSupplements
  removedSupplements := d.addedSupplements

/-- The entries of a difference in the order of its text, each list with what its lines begin
with. -/
def blocks (d : Difference) : List (String × List String) :=
  [("- group ", d.removedGroups.map Group.name), ("+ group ", d.addedGroups.map Group.name),
   ("- header ", d.removedHeaders), ("+ header ", d.addedHeaders),
   ("- shim ", d.removedSupplements), ("+ shim ", d.addedSupplements)]

/-- The lines of a block: its head and an entry each. -/
def blockLines (block : String × List String) : List String :=
  block.2.map (block.1 ++ ·)

def hasHead (head line : String) : Bool :=
  head.toList.isPrefixOf line.toList

/-- No line begins with both heads. -/
def Apart (head head' : String) : Prop :=
  ¬ head.toList <+: head'.toList ∧ ¬ head'.toList <+: head.toList

instance (head head' : String) : Decidable (Apart head head') :=
  inferInstanceAs (Decidable (_ ∧ _))

theorem toList_text (d : Difference) : d.text.toList =
    ((d.blocks.flatMap blockLines).map String.toList).flatMap (· ++ ['\n']) := by
  simp [text, lines, blocks, blockLines, Surface.line, List.flatMap_map]

theorem filter_blockLines_self (block : String × List String) :
    (blockLines block).filter (hasHead block.1) = blockLines block := by
  refine List.filter_eq_self.mpr fun line hline => ?_
  obtain ⟨entry, -, rfl⟩ := List.mem_map.mp hline
  simp [hasHead]

theorem filter_blockLines_of_apart {head : String} {block : String × List String}
    (h : Apart head block.1) : (blockLines block).filter (hasHead head) = [] := by
  refine List.filter_eq_nil_iff.mpr fun line hline hhead => ?_
  obtain ⟨entry, -, rfl⟩ := List.mem_map.mp hline
  rw [hasHead, List.isPrefixOf_iff_prefix, String.toList_append] at hhead
  rcases List.prefix_or_prefix_of_prefix hhead (List.prefix_append _ _) with hp | hp
  · exact h.1 hp
  · exact h.2 hp

theorem filter_flatMap_blockLines {head : String} {entries : List String}
    {rest : List (String × List String)} (h : ∀ block ∈ rest, Apart head block.1) :
    (((head, entries) :: rest).flatMap blockLines).filter (hasHead head) =
      blockLines (head, entries) := by
  rw [List.flatMap_cons, List.filter_append, filter_blockLines_self (head, entries),
    List.filter_flatMap,
    List.flatMap_congr fun block hb => filter_blockLines_of_apart (h block hb)]
  simp

/-- Lines under heads that are told apart determine the entries of every block. -/
theorem eq_of_flatMap_blockLines : ∀ {xs ys : List (String × List String)},
    xs.map Prod.fst = ys.map Prod.fst → (xs.map Prod.fst).Pairwise Apart →
    xs.flatMap blockLines = ys.flatMap blockLines → xs = ys
  | [], ys, hheads, _, _ => (List.map_eq_nil_iff.mp hheads.symm).symm
  | x :: xs, [], hheads, _, _ => by cases hheads
  | (head, entries) :: xs, (head', entries') :: ys, hheads, hapart, h => by
    simp only [List.map_cons, List.cons.injEq] at hheads
    obtain ⟨rfl, htail⟩ := hheads
    obtain ⟨hhead, hrest⟩ := List.pairwise_cons.mp hapart
    have hxs : ∀ block ∈ xs, Apart head block.1 :=
      fun block hb => hhead _ (List.mem_map_of_mem hb)
    have hys : ∀ block ∈ ys, Apart head block.1 :=
      fun block hb => hhead _ (htail ▸ List.mem_map_of_mem hb)
    have hlines : blockLines (head, entries) = blockLines (head, entries') := by
      rw [← filter_flatMap_blockLines hxs, h, filter_flatMap_blockLines hys]
    have hentries : entries = entries' :=
      List.map_injective_iff.mpr (fun _ _ he => String.append_right_inj head |>.mp he) hlines
    subst hentries
    rw [List.flatMap_cons, List.flatMap_cons, List.append_cancel_left_eq] at h
    rw [eq_of_flatMap_blockLines htail hrest h]

/-- What the lines of a difference begin with. -/
def heads : List String :=
  ["- group ", "+ group ", "- header ", "+ header ", "- shim ", "+ shim "]

theorem map_fst_blocks (d : Difference) : d.blocks.map Prod.fst = heads :=
  rfl

theorem pairwise_apart_heads : heads.Pairwise Apart := by
  decide +kernel

theorem eq_of_blocks {d d' : Difference} (h : d.blocks = d'.blocks) : d = d' := by
  have hnames : ∀ xs ys : List Group, xs.map Group.name = ys.map Group.name → xs = ys :=
    fun _ _ => fun hxy => List.map_injective_iff.mpr Group.name_injective hxy
  simp only [blocks, List.cons.injEq, Prod.mk.injEq, true_and, and_true] at h
  obtain ⟨hgone, hadded, hheaders, hheaders', htags, htags'⟩ := h
  cases d
  cases d'
  simp only [mk.injEq]
  exact ⟨hnames _ _ hadded, hnames _ _ hgone, hheaders', hheaders, htags', htags⟩

/-- The text of a difference whose entries have no line feed determines it. -/
theorem eq_of_text_eq {d d' : Difference}
    (hd : ∀ line ∈ d.blocks.flatMap blockLines, '\n' ∉ line.toList)
    (hd' : ∀ line ∈ d'.blocks.flatMap blockLines, '\n' ∉ line.toList) (h : d.text = d'.text) :
    d = d' := by
  have htext := congrArg String.toList h
  rw [toList_text, toList_text] at htext
  have hlists := Text.eq_of_flatMap_line (List.forall_mem_map.mpr hd) (List.forall_mem_map.mpr hd')
    htext
  have hlines : d.blocks.flatMap blockLines = d'.blocks.flatMap blockLines :=
    List.map_injective_iff.mpr (fun _ _ he => String.toList_injective he) hlists
  exact eq_of_blocks (eq_of_flatMap_blockLines (d.map_fst_blocks.trans d'.map_fst_blocks.symm)
    (d.map_fst_blocks ▸ pairwise_apart_heads) hlines)

end Difference

namespace Surface

theorem newline_not_mem_of_mem_tags {s : Surface} {tag : String} (h : tag ∈ s.tags) :
    '\n' ∉ tag.toList := by
  have hknown : ∀ t ∈ Supplement.known, '\n' ∉ t.tag.toList := by decide
  obtain ⟨t, ht, rfl⟩ := List.mem_map.mp h
  exact hknown t (List.mem_of_mem_filter ht)

theorem newline_not_mem_of_mem_headers {s : Surface} {header : String} (h : header ∈ s.headers) :
    '\n' ∉ header.toList := by
  obtain ⟨g, -, hg⟩ := mem_headers_iff.mp h
  exact (Group.isLine_of_mem_headers hg).1

theorem newline_not_mem_of_mem_difference (a b : Surface) :
    ∀ line ∈ (a.difference b).blocks.flatMap Difference.blockLines, '\n' ∉ line.toList := by
  have hgroups : ∀ groups : List Group, ∀ entry ∈ groups.map Group.name, '\n' ∉ entry.toList :=
    fun groups => List.forall_mem_map.mpr fun g _ => (Group.isLine_name g).1
  have hentries : ∀ block ∈ (a.difference b).blocks, '\n' ∉ block.1.toList ∧
      ∀ entry ∈ block.2, '\n' ∉ entry.toList := by
    simp only [Difference.blocks, difference, List.forall_mem_cons]
    refine ⟨⟨by decide, hgroups _⟩, ⟨by decide, hgroups _⟩, ⟨by decide, ?_⟩, ⟨by decide, ?_⟩,
      ⟨by decide, ?_⟩, ⟨by decide, ?_⟩, by simp⟩
    · exact fun _ h => newline_not_mem_of_mem_headers (mem_without.mp h).1
    · exact fun _ h => newline_not_mem_of_mem_headers (mem_without.mp h).1
    · exact fun _ h => newline_not_mem_of_mem_tags (mem_without.mp h).1
    · exact fun _ h => newline_not_mem_of_mem_tags (mem_without.mp h).1
  intro line hline
  obtain ⟨block, hblock, hline⟩ := List.mem_flatMap.mp hline
  obtain ⟨entry, hentry, rfl⟩ := List.mem_map.mp hline
  obtain ⟨hhead, hall⟩ := hentries block hblock
  rw [String.toList_append, List.mem_append, not_or]
  exact ⟨hhead, hall entry hentry⟩

/-- **The difference of two surfaces leads from the first to the second, and its text tells it.** -/
theorem difference_leads_and_text_unique (a b : Surface) :
    List.merge (without a.groups (a.difference b).removedGroups) (a.difference b).addedGroups
      (fun g g' => g.rank ≤ g'.rank) = b.groups ∧
    IsChange a.groups b.groups (a.difference b).addedGroups (a.difference b).removedGroups ∧
    IsChange a.headers b.headers (a.difference b).addedHeaders (a.difference b).removedHeaders ∧
    IsChange a.tags b.tags (a.difference b).addedSupplements (a.difference b).removedSupplements ∧
    b.difference a = (a.difference b).swap ∧
    ∀ a' b' : Surface, (a'.difference b').text = (a.difference b).text →
      a'.difference b' = a.difference b :=
  ⟨merge_groups a b, isChange_without _ _, isChange_without _ _, isChange_without _ _, rfl,
    fun a' b' h => Difference.eq_of_text_eq (newline_not_mem_of_mem_difference a' b')
      (newline_not_mem_of_mem_difference a b) h⟩

end Surface

end KitSurface
