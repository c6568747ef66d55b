import KitSurface.FileTree.Basic
import KitSurface.Proofs.Traversal
/-!
Distinct names. No two entries of a directory have one name, at any depth
(`Entry.hasDistinctNames`). Every operation on a tree keeps this, since it puts an entry in the place
of the one with its name. Main statement: the trees that operations make from the empty one have
distinct names (`FileTree.Made.hasDistinctNames`).
-/

namespace KitSurface

namespace Entry

variable {e value : Entry} {es : List (String × Entry)} {name : String}

/-! ## Distinct names -/

mutual

/-- No two entries of a directory have one name, at any depth. -/
def hasDistinctNames : Entry → Bool
  | file _ => true
  | directory es => (es.map Prod.fst).Nodup && allHaveDistinctNames es

/-- All entries of a listing have distinct names below them. -/
def allHaveDistinctNames : List (String × Entry) → Bool
  | [] => true
  | (_, e) :: rest => e.hasDistinctNames && allHaveDistinctNames rest

end

theorem allHaveDistinctNames_iff :
    allHaveDistinctNames es = true ↔ ∀ name e, (name, e) ∈ es → e.hasDistinctNames = true := by
  induction es with
  | nil => simp [allHaveDistinctNames]
  | cons entry rest ih =>
    obtain ⟨name, e⟩ := entry
    rw [allHaveDistinctNames, Bool.and_eq_true, ih]
    simp [or_imp, forall_and]

theorem hasDistinctNames_directory : (directory es).hasDistinctNames = true ↔
    (es.map (·.1)).Nodup ∧ ∀ name e, (name, e) ∈ es → e.hasDistinctNames = true := by
  rw [hasDistinctNames, Bool.and_eq_true, decide_eq_true_eq, allHaveDistinctNames_iff]

theorem hasDistinctNames_entries (h : e.hasDistinctNames = true) :
    (directory e.entries).hasDistinctNames = true := by
  cases e with
  | file content => rfl
  | directory es => exact h

/-- What is below a name has distinct names, and so has the empty directory in its stead. -/
theorem hasDistinctNames_below (h : e.hasDistinctNames = true) (name : String) :
    ((e.child? name).getD (directory [])).hasDistinctNames = true := by
  cases hchild : e.child? name with
  | none => rfl
  | some below =>
    have hentries := hasDistinctNames_directory.mp (hasDistinctNames_entries h)
    exact hentries.2 name below (mem_of_lookup hchild)

/-! ## Changes of an entry -/

theorem mem_putIn {n : String} : (n, e) ∈ putIn name value es →
    (n, e) = (name, value) ∨ (n, e) ∈ es := by
  induction es with
  | nil => simp [putIn]
  | cons entry rest ih =>
    obtain ⟨k, v⟩ := entry
    rw [putIn]
    split
    · next heq =>
      intro h
      exact (List.mem_cons.mp h).imp (fun h => heq ▸ h) (List.mem_cons_of_mem _)
    · intro h
      rcases List.mem_cons.mp h with h | h
      · exact Or.inr (h ▸ List.mem_cons_self)
      · exact (ih h).imp_right (List.mem_cons_of_mem _)

theorem nodup_putIn (h : (es.map (·.1)).Nodup) : ((putIn name value es).map (·.1)).Nodup := by
  induction es with
  | nil => simp [putIn]
  | cons entry rest ih =>
    obtain ⟨k, v⟩ := entry
    obtain ⟨hk, hrest⟩ := List.nodup_cons.mp h
    rw [putIn]
    split
    · exact h
    · next hne =>
      refine List.nodup_cons.mpr ⟨fun hmem => ?_, ih hrest⟩
      obtain ⟨⟨n, e⟩, he, heq⟩ := List.mem_map.mp hmem
      rcases mem_putIn he with hput | hold
      · exact hne (heq.symm.trans (Prod.mk.inj hput).1)
      · exact hk (heq ▸ List.mem_map_of_mem hold)

/-- **An entry that takes the place of the one with its name keeps the names distinct.** -/
theorem hasDistinctNames_putIn (h : (directory es).hasDistinctNames = true)
    (hvalue : value.hasDistinctNames = true) :
    (directory (putIn name value es)).hasDistinctNames = true := by
  obtain ⟨hnodup, hbelow⟩ := hasDistinctNames_directory.mp h
  refine hasDistinctNames_directory.mpr ⟨nodup_putIn hnodup, fun n e he => ?_⟩
  rcases mem_putIn he with hput | hold
  · rw [(Prod.mk.inj hput).2]
    exact hvalue
  · exact hbelow n e hold

theorem hasDistinctNames_put (hvalue : value.hasDistinctNames = true) :
    ∀ {names : List String} {e : Entry}, e.hasDistinctNames = true →
      (e.put names value).hasDistinctNames = true
  | [], _, _ => hvalue
  | name :: _, _, h =>
    hasDistinctNames_putIn (hasDistinctNames_entries h)
      (hasDistinctNames_put hvalue (hasDistinctNames_below h name))

theorem hasDistinctNames_makeDirectory : ∀ {names : List String} {e : Entry},
    e.hasDistinctNames = true → (e.makeDirectory names).hasDistinctNames = true
  | [], _, h => h
  | name :: _, _, h =>
    hasDistinctNames_putIn (hasDistinctNames_entries h)
      (hasDistinctNames_makeDirectory (hasDistinctNames_below h name))

theorem hasDistinctNames_filter (h : (directory es).hasDistinctNames = true)
    (keep : String × Entry → Bool) : (directory (es.filter keep)).hasDistinctNames = true := by
  obtain ⟨hnodup, hbelow⟩ := hasDistinctNames_directory.mp h
  exact hasDistinctNames_directory.mpr
    ⟨hnodup.sublist (List.filter_sublist.map _), fun n e he => hbelow n e (List.mem_filter.mp he).1⟩

theorem hasDistinctNames_erase : ∀ {names : List String} {e : Entry},
    e.hasDistinctNames = true → (e.erase names).hasDistinctNames = true
  | [], _, h => h
  | [_], _, h => hasDistinctNames_filter (hasDistinctNames_entries h) _
  | name :: next :: names, e, h => by
    -- What is left below the first name is put back in its place.
    rw [erase]
    · have hbelow := hasDistinctNames_below h name
      split
      · next below hchild =>
        rw [hchild] at hbelow
        exact hasDistinctNames_putIn (hasDistinctNames_entries h) (hasDistinctNames_erase hbelow)
      · exact h
    · exact List.cons_ne_nil next names

end Entry

/-! ## Operations on a tree -/

namespace FileTree

variable {t t' : FileTree}

theorem hasDistinctNames_makeAlong : ∀ {cs : List Component} {root : Entry}
    {names : List String}, root.hasDistinctNames = true →
    (makeAlong root names cs).hasDistinctNames = true
  | [], _, _, h => h
  | c :: cs, root, names, h => by
    rw [makeAlong]
    exact hasDistinctNames_makeAlong (Entry.hasDistinctNames_makeDirectory h)

/-- The trees that operations make from the empty one. -/
inductive Made : FileTree → Prop
  | empty (current : List String) : Made ⟨.directory [], current⟩
  | putFile {t : FileTree} (p : Path) (content : List UInt8) (h : Made t) :
    Made (t.putFile p content)
  | putDirectory {t : FileTree} (p : Path) (h : Made t) : Made (t.putDirectory p)
  | remove {t : FileTree} (p : Path) (h : Made t) : Made (t.remove p)
  | write {t t' : FileTree} (p : Path) (text : String) (h : Made t)
    (hwrite : t.write p text = .ok t') : Made t'

/-- Behind a guard that throws, a result comes from the rest. -/
theorem of_guard_eq_ok {c : Prop} [Decidable c] {fault : FileFault}
    {f : Unit → Except FileFault FileTree} {x : Except FileFault FileTree}
    (h : (if c then throw fault >>= f else x) = .ok t) : x = .ok t := by
  split at h
  · cases h
  · exact h

theorem exists_put_of_write {p : Path} {text : String} (h : t.write p text = .ok t') :
    ∃ names, t' = { t with root := t.root.put names (.file (Text.encode text)) } := by
  unfold write at h
  obtain ⟨_, -, h⟩ := bind_eq_ok_iff.mp h
  split at h
  · cases h
  · obtain ⟨_, -, h⟩ := bind_eq_ok_iff.mp h
    obtain ⟨place, -, h⟩ := bind_eq_ok_iff.mp h
    obtain ⟨_, -, h⟩ := bind_eq_ok_iff.mp (of_guard_eq_ok (of_guard_eq_ok h))
    exact ⟨_, (Except.ok.inj (of_guard_eq_ok h)).symm⟩

/-- **Operations keep the names distinct.** -/
theorem Made.hasDistinctNames (h : Made t) : t.root.hasDistinctNames = true := by
  induction h with
  | empty current => rfl
  | putFile p content _ ih =>
    exact Entry.hasDistinctNames_put rfl (hasDistinctNames_makeAlong ih)
  | putDirectory p _ ih => exact hasDistinctNames_makeAlong ih
  | remove p _ ih => exact Entry.hasDistinctNames_erase ih
  | write p text _ hwrite ih =>
    obtain ⟨names, rfl⟩ := exists_put_of_write hwrite
    exact Entry.hasDistinctNames_put rfl ih

end FileTree

end KitSurface
