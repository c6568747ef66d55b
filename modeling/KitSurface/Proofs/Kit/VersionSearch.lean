import KitSurface.Proofs.Kit.Versions
/-!
The newest version directory, below one path and below several. Only the directories count that are
named after versions (`IsVersionDirectory`). Below one path the greatest of their versions is taken
(`newestVersion_eq_ok_iff_isGreatest`), and a path fails to have one if it cannot be listed or if
there is no such directory (`newestVersion_eq_error_iff`). Below several paths these failures are
passed over: the greatest version is that of all the directories together
(`newestVersionIn?_isGreatest`).
-/

namespace KitSurface

/-- A version has a property and none that has it exceeds the version: the major number decides, and
the minor number between equal major numbers. -/
def Version.IsGreatest (q : Version → Prop) (v : Version) : Prop :=
  q v ∧ ∀ w, q w → w.major.toNat < v.major.toNat ∨ w.major = v.major ∧
    w.minor.toNat ≤ v.minor.toNat

theorem Version.isGreatest_iff {q : Version → Prop} {v : Version} :
    Version.IsGreatest q v ↔ q v ∧ ∀ w, q w → w.le v = true := by
  simp only [IsGreatest, le_iff]

theorem Version.greatest?_eq_some_iff_isGreatest {vs : List Version} {v : Version} :
    greatest? vs = some v ↔ Version.IsGreatest (· ∈ vs) v := by
  rw [greatest?_eq_some_iff, isGreatest_iff]

namespace Kit

variable {tree tree' : FileTree} {p : Path} {paths paths' : List Path} {directory name : String}
  {entries : List (String × Entry)} {v w : Version}

/-! ## Below one path -/

/-- A directory below a path, with the version that it is named after. -/
def IsVersionDirectory (tree : FileTree) (p : Path) (name : String) (v : Version) : Prop :=
  ∃ entries, tree.list p = .ok entries ∧ (∃ e, (name, e) ∈ entries ∧ e.isDirectory = true) ∧
    Version.parse? name.toList = some v

/-- A directory below a path is named after a version. -/
def HasVersion (tree : FileTree) (p : Path) (v : Version) : Prop :=
  ∃ name, IsVersionDirectory tree p name v

theorem hasVersion_iff_mem (hlist : tree.list p = .ok entries) :
    HasVersion tree p v ↔ v ∈ versionsOf entries := by
  simp only [HasVersion, IsVersionDirectory, hlist, Except.ok.injEq, exists_eq_left',
    mem_versionsOf, mem_directoryNames]

theorem not_hasVersion_of_error {fault : FileFault} (hlist : tree.list p = .error fault) :
    ¬ HasVersion tree p v := by
  rintro ⟨name, entries, hentries, -⟩
  rw [hlist] at hentries
  cases hentries

/-- **Below a path the greatest version is taken.** -/
theorem newestVersion_eq_ok_iff_isGreatest :
    newestVersion tree p = .ok v ↔ Version.IsGreatest (HasVersion tree p) v := by
  cases hlist : tree.list p with
  | error fault =>
    rw [newestVersion, hlist]
    refine iff_of_false (fun h => ?_) fun h => not_hasVersion_of_error hlist h.1
    cases h
  | ok entries =>
    have hmem : HasVersion tree p = (· ∈ versionsOf entries) :=
      funext fun w => propext (hasVersion_iff_mem hlist)
    rw [hmem, ← Version.greatest?_eq_some_iff_isGreatest, newestVersion_eq hlist]
    cases Version.greatest? (versionsOf entries) <;> simp

/-- **A path has no newest version if it cannot be listed, or if it is listed and no directory is
named after a version.** -/
theorem newestVersion_eq_error_iff {error : FileError} :
    newestVersion tree p = .error error ↔
      (∃ fault, tree.list p = .error fault ∧ error = ⟨p, fault⟩) ∨
      (∃ entries, tree.list p = .ok entries) ∧ (∀ v, ¬ HasVersion tree p v) ∧
        error = ⟨p, .noVersion p⟩ := by
  cases hlist : tree.list p with
  | error fault => simp [newestVersion, hlist, eq_comm]
  | ok entries =>
    have hnone : (∀ v, ¬ HasVersion tree p v) ↔
        Version.greatest? (versionsOf entries) = none := by
      simp only [hasVersion_iff_mem hlist, Version.greatest?_eq_none_iff,
        List.eq_nil_iff_forall_not_mem]
    rw [hnone, newestVersion_eq hlist]
    cases Version.greatest? (versionsOf entries) <;> simp [eq_comm]

theorem exists_newestVersion (h : HasVersion tree p v) :
    ∃ w, newestVersion tree p = .ok w := by
  cases hnewest : newestVersion tree p with
  | ok w => exact ⟨w, rfl⟩
  | error error =>
    rcases newestVersion_eq_error_iff.mp hnewest with ⟨fault, hlist, -⟩ | ⟨-, hnone, -⟩
    · exact absurd h (not_hasVersion_of_error hlist)
    · exact absurd h (hnone v)

/-! ## Below several paths -/

/-- A directory below one of several paths, in the place that is named, is named after a version. -/
def HasVersionBelow (tree : FileTree) (paths : List Path) (directory : String) (v : Version) :
    Prop :=
  ∃ p ∈ paths, HasVersion tree (p.join directory) v

theorem mem_newestVersions :
    v ∈ paths.filterMap (fun p => (newestVersion tree (p.join directory)).toOption) ↔
      ∃ p ∈ paths, newestVersion tree (p.join directory) = .ok v := by
  rw [List.mem_filterMap]
  refine exists_congr fun p => and_congr_right fun _ => ?_
  cases newestVersion tree (p.join directory) <;> simp [Except.toOption]

/-- **The greatest of the newest versions is the greatest version of all paths together.** -/
theorem newestVersionIn?_eq_some_iff : newestVersionIn? tree paths directory = some v ↔
    Version.IsGreatest (HasVersionBelow tree paths directory) v := by
  rw [newestVersionIn?, Version.greatest?_eq_some_iff, Version.isGreatest_iff]
  simp only [mem_newestVersions, newestVersion_eq_ok_iff_isGreatest, Version.isGreatest_iff]
  constructor
  · rintro ⟨⟨p, hp, hv, -⟩, hmax⟩
    refine ⟨⟨p, hp, hv⟩, ?_⟩
    rintro w ⟨p', hp', hw⟩
    -- What is below a path is exceeded by the newest version there, which is one of the maximands.
    obtain ⟨u, hu⟩ := exists_newestVersion hw
    obtain ⟨hmem, hle⟩ := Version.isGreatest_iff.mp (newestVersion_eq_ok_iff_isGreatest.mp hu)
    exact Version.le_trans (hle w hw) (hmax u ⟨p', hp', hmem, hle⟩)
  · rintro ⟨⟨p, hp, hv⟩, hmax⟩
    refine ⟨⟨p, hp, hv, fun w hw => hmax w ⟨p, hp, hw⟩⟩, ?_⟩
    rintro w ⟨p', hp', hw, -⟩
    exact hmax w ⟨p', hp', hw⟩

theorem newestVersionIn?_eq_none_iff : newestVersionIn? tree paths directory = none ↔
    ∀ v, ¬ HasVersionBelow tree paths directory v := by
  rw [newestVersionIn?, Version.greatest?_eq_none_iff, List.eq_nil_iff_forall_not_mem]
  simp only [mem_newestVersions]
  constructor
  · rintro hnone v ⟨p, hp, hv⟩
    obtain ⟨w, hw⟩ := exists_newestVersion hv
    exact hnone w ⟨p, hp, hw⟩
  · rintro hnone v ⟨p, hp, hv⟩
    exact hnone v ⟨p, hp, (newestVersion_eq_ok_iff_isGreatest.mp hv).1⟩

/-- The versions alone count, not the paths and the listings that they come from. -/
theorem newestVersionIn?_congr
    (h : ∀ v, HasVersionBelow tree' paths' directory v ↔ HasVersionBelow tree paths directory v) :
    newestVersionIn? tree' paths' directory = newestVersionIn? tree paths directory := by
  have hsame : HasVersionBelow tree' paths' directory = HasVersionBelow tree paths directory :=
    funext fun v => propext (h v)
  ext v
  rw [newestVersionIn?_eq_some_iff, newestVersionIn?_eq_some_iff, hsame]

/-- **Below several paths the greatest version of all directories is taken, and none exactly if no
directory is named after a version.** The order of the paths does not count, nor does a path that
cannot be listed; and of the listings nothing counts but the directories named after versions. -/
theorem newestVersionIn?_isGreatest (tree : FileTree) (paths : List Path) (directory : String) :
    (∀ v, newestVersionIn? tree paths directory = some v ↔
      Version.IsGreatest (HasVersionBelow tree paths directory) v) ∧
    (newestVersionIn? tree paths directory = none ↔
      ∀ v, ¬ HasVersionBelow tree paths directory v) ∧
    (∀ paths', paths'.Perm paths →
      newestVersionIn? tree paths' directory = newestVersionIn? tree paths directory) ∧
    (∀ front p back fault, paths = front ++ p :: back →
      tree.list (p.join directory) = .error fault →
      newestVersionIn? tree (front ++ back) directory = newestVersionIn? tree paths directory) ∧
    ∀ tree', (∀ p ∈ paths, ∀ name v, IsVersionDirectory tree' (p.join directory) name v ↔
        IsVersionDirectory tree (p.join directory) name v) →
      newestVersionIn? tree' paths directory = newestVersionIn? tree paths directory := by
  refine ⟨fun v => newestVersionIn?_eq_some_iff, newestVersionIn?_eq_none_iff, ?_, ?_, ?_⟩
  · intro paths' hperm
    refine newestVersionIn?_congr fun v => ?_
    simp only [HasVersionBelow, hperm.mem_iff]
  · rintro front p back fault rfl hlist
    refine newestVersionIn?_congr fun v => ?_
    have hno := not_hasVersion_of_error (v := v) hlist
    simp only [HasVersionBelow, List.mem_append, List.mem_cons, or_and_right, exists_or,
      exists_eq_left, hno, false_or]
  · intro tree' hsame
    refine newestVersionIn?_congr fun v => ?_
    refine exists_congr fun p => and_congr_right fun hp => exists_congr fun name => ?_
    exact hsame p hp name v

/-- Two kits with versions of a class extension, a file that is named as one, and another directory. -/
def extensionKits : FileTree where
  root := .directory
    [("first", .directory [("spb", .directory
      [("1.9", .directory []), ("2.0", .file []), ("latest", .directory [])])]),
     ("second", .directory [("spb", .directory [("1.10", .directory [])])])]
  current := []

/-- The second of two kits has the greater version, with a path between them that is missing and
without it. -/
theorem newestVersionIn?_extensionKits :
    Version.IsGreatest
      (HasVersionBelow extensionKits [⟨"/first"⟩, ⟨"/third"⟩, ⟨"/second"⟩] "spb") ⟨1, 10⟩ ∧
    extensionKits.list ((Path.mk "/third").join "spb") = .error .notFound ∧
    newestVersionIn? extensionKits [⟨"/first"⟩, ⟨"/second"⟩] "spb" = some ⟨1, 10⟩ := by
  have hlist : extensionKits.list ((Path.mk "/third").join "spb") = .error .notFound := rfl
  have hnewest : newestVersionIn? extensionKits [⟨"/first"⟩, ⟨"/third"⟩, ⟨"/second"⟩] "spb" =
      some ⟨1, 10⟩ := rfl
  obtain ⟨hsome, -, -, hremove, -⟩ := newestVersionIn?_isGreatest extensionKits
    [⟨"/first"⟩, ⟨"/third"⟩, ⟨"/second"⟩] "spb"
  refine ⟨(hsome _).mp hnewest, hlist, ?_⟩
  rw [← hnewest]
  exact hremove [⟨"/first"⟩] ⟨"/third"⟩ [⟨"/second"⟩] .notFound rfl hlist

end Kit

end KitSurface
