import KitSurface.Proofs.Config.Consistency
import KitSurface.Proofs.FileTree.FullPath
import KitSurface.Proofs.Kit.Versions
/-!
Include paths and the listings that they depend on. The version of the development kit is that of a
directory whose numbers none exceeds, and what is no such directory does not count; a directory is
passed over if its path is too long (`resolveSdk_newest`). The directory of a framework is spelled anew
from the version that was read, so that it is there exactly if one of the directories of this version
is spelled without signs and leading zeros (`newestFramework_exists_iff`). The order of the listings
does not count exactly if one name alone has the greatest numbers (`includePaths_of_relisted_iff`).
-/

namespace KitSurface.Config

open Kit (IsSdkDirectory IsNewestSdk NamesSdk)

variable {c : Config} {tree tree' : FileTree} {entries : List (String × Entry)}

/-! ## Kits -/

/-- A version of the development kit. -/
def sdkEntry : Entry :=
  .directory [("km", .directory [("crt", .directory [])]), ("um", .directory []),
    ("shared", .directory [])]

/-- Entries that stand before the versions of the kernel-mode framework. -/
def listingOf (versions : List (String × Entry)) (frameworks : List String) :
    List (String × Entry) :=
  versions ++ [("wdf", .directory
    [("kmdf", .directory (frameworks.map fun name => (name, .directory [])))])]

/-- A kit of versions of the development kit and of the kernel-mode framework. -/
def kitOf (versions : List (String × Entry)) (frameworks : List String) : FileTree where
  root := .directory [("Include", .directory (listingOf versions frameworks))]
  current := []

/-- A kit with a directory for the greatest numbers of either kind, and lesser ones. -/
def plainKit : FileTree :=
  kitOf [("10.0.9999.0", sdkEntry), ("10.0.26100.0", sdkEntry)] ["1.9", "01.33", "1.33"]

/-- A build in kernel mode on the newest versions of a kit. -/
def newestBuild : Config where
  root := ⟨"/"⟩
  architecture := .amd64
  context := .kernelMode

/-! ## The version of the development kit -/

theorem endsInName_includeDirectory (c : Config) : c.includeDirectory.EndsInName :=
  .join c.root ⟨'e', by decide, by decide⟩

theorem resolveSdk_eq (hsdk : c.sdkVersion = none)
    (hlist : tree.list c.includeDirectory = .ok entries) :
    c.resolveSdk tree = (Kit.newestSdkIn? tree c.includeDirectory entries).elim
      (.error (.directoryNotFound ("Windows SDK Directory in " ++ c.includeDirectory.text)))
      .ok := by
  simp only [resolveSdk, hsdk, hlist]
  cases Kit.newestSdkIn? tree c.includeDirectory entries <;> rfl

theorem resolveSdk_eq_iff {entries' : List (String × Entry)} (hsdk : c.sdkVersion = none)
    (hlist : tree.list c.includeDirectory = .ok entries)
    (hlist' : tree'.list c.includeDirectory = .ok entries') :
    c.resolveSdk tree' = c.resolveSdk tree ↔
      Kit.newestSdkIn? tree' c.includeDirectory entries' =
        Kit.newestSdkIn? tree c.includeDirectory entries := by
  rw [resolveSdk_eq hsdk hlist, resolveSdk_eq hsdk hlist']
  cases Kit.newestSdkIn? tree c.includeDirectory entries <;>
    cases Kit.newestSdkIn? tree' c.includeDirectory entries' <;> simp

theorem isNewestSdk_of_resolveSdk {name : String} (hsdk : c.sdkVersion = none)
    (h : c.resolveSdk tree = .ok name) : IsNewestSdk tree c.includeDirectory name := by
  cases hlist : tree.list c.includeDirectory with
  | error fault =>
    rw [resolveSdk, hsdk, hlist] at h
    cases h
  | ok entries =>
    rw [resolveSdk_eq hsdk hlist] at h
    refine Kit.isNewestSdk_of_newestSdkIn? hlist ?_
    cases hnewest : Kit.newestSdkIn? tree c.includeDirectory entries with
    | none =>
      rw [hnewest] at h
      cases h
    | some newest =>
      rw [hnewest] at h
      exact congrArg some (Except.ok.inj h)

/-- **The version of the development kit is that of a directory whose numbers none exceeds, and without
such a directory none is found.** Such a directory is an entry that is one itself and whose path is not
too long, and other entries do not count. -/
theorem resolveSdk_newest (hsdk : c.sdkVersion = none)
    (hlist : tree.list c.includeDirectory = .ok entries) :
    ((∃ name, c.resolveSdk tree = .ok name) ↔
      ∃ name numbers, IsSdkDirectory tree c.includeDirectory name numbers) ∧
    (∀ name, c.resolveSdk tree = .ok name →
      ∃ numbers, IsSdkDirectory tree c.includeDirectory name numbers ∧
        ∀ name' numbers', IsSdkDirectory tree c.includeDirectory name' numbers' →
          numbers' ≤ numbers) ∧
    ((¬ ∃ name numbers, IsSdkDirectory tree c.includeDirectory name numbers) →
      c.resolveSdk tree = .error (.directoryNotFound
        ("Windows SDK Directory in " ++ c.includeDirectory.text))) ∧
    ((entries.map (·.1)).Nodup →
      (∀ name numbers, IsSdkDirectory tree c.includeDirectory name numbers ↔
        (∃ e, (name, e) ∈ entries ∧ e.isDirectory = true) ∧ NamesSdk name numbers ∧
          c.includeDirectory.HasRoomFor name) ∧
      ∀ front entry back, entries = front ++ entry :: back →
        (∀ numbers, ¬ IsSdkDirectory tree c.includeDirectory entry.1 numbers) →
        ∀ tree' : FileTree, tree'.list c.includeDirectory = .ok (front ++ back) →
          c.resolveSdk tree' = c.resolveSdk tree) := by
  have hresult := resolveSdk_eq hsdk hlist
  have hok : ∀ name, c.resolveSdk tree = .ok name ↔
      Kit.newestSdkIn? tree c.includeDirectory entries = some name := by
    intro name
    rw [hresult]
    cases Kit.newestSdkIn? tree c.includeDirectory entries <;> simp
  have hnone : (¬ ∃ name numbers, IsSdkDirectory tree c.includeDirectory name numbers) ↔
      Kit.newestSdkIn? tree c.includeDirectory entries = none := by
    rw [Kit.newestSdkIn?_eq_none_iff hlist]
    simp only [not_exists]
  refine ⟨?_, ?_, ?_, fun hnodup => ⟨fun name numbers => ?_, ?_⟩⟩
  · simp only [hok]
    rw [← Option.isSome_iff_exists, ← not_iff_not, hnone, Option.not_isSome_iff_eq_none]
  · exact fun name h => Kit.isNewestSdk_of_newestSdkIn? hlist ((hok name).mp h)
  · intro h
    rw [hresult, hnone.mp h, Option.elim_none]
  · exact Kit.isSdkDirectory_iff (endsInName_includeDirectory c) hlist hnodup
  · rintro front entry back rfl hentry tree' hlist'
    rw [hresult, resolveSdk_eq hsdk hlist',
      Kit.newestSdkIn?_insert (endsInName_includeDirectory c) hlist hlist' hnodup hentry]

/-- Entries of which two are versions of the development kit. -/
def mixedListing : List (String × Entry) :=
  [("10.0.9999.0", sdkEntry), ("10.0.26100.0", sdkEntry), ("10.0.26100.backup", sdkEntry),
   ("10.0.4294967296.0", sdkEntry), ("10.0.99999.0", .file [])]

/-- Of versions, of other directories and of files the greatest version is taken. -/
theorem resolveSdk_mixedListing : newestBuild.sdkVersion = none ∧
    (kitOf mixedListing []).list newestBuild.includeDirectory = .ok (listingOf mixedListing []) ∧
    newestBuild.resolveSdk (kitOf mixedListing []) = .ok "10.0.26100.0" ∧
    ∃ numbers, IsSdkDirectory (kitOf mixedListing []) ⟨"/Include"⟩ "10.0.26100.0" numbers ∧
      ∀ name' numbers', IsSdkDirectory (kitOf mixedListing []) ⟨"/Include"⟩ name' numbers' →
        numbers' ≤ numbers := by
  have hlist : (kitOf mixedListing []).list newestBuild.includeDirectory =
      .ok (listingOf mixedListing []) := rfl
  have hresolve : newestBuild.resolveSdk (kitOf mixedListing []) = .ok "10.0.26100.0" := rfl
  obtain ⟨-, hgreatest, -, -⟩ := resolveSdk_newest (c := newestBuild) rfl hlist
  exact ⟨rfl, hlist, hresolve, hgreatest _ hresolve⟩

/-- A build whose root is spelled with many slashes. -/
def slashedBuild (n : Nat) : Config :=
  { newestBuild with root := ⟨Path.slashes n⟩ }

theorem includeDirectory_slashedBuild {n : Nat} (hn : n ≠ 0) :
    (slashedBuild n).includeDirectory = ⟨Path.slashes n ++ "Include"⟩ :=
  Path.join_slashes hn (by decide)

theorem utf8ByteSize_join_slashedBuild {n : Nat} {name : String} (hn : n ≠ 0)
    (hname : name.toList.head? ≠ some '/') :
    ((slashedBuild n).includeDirectory.join name).text.utf8ByteSize =
      n + 8 + name.utf8ByteSize := by
  have hinclude : "Include".utf8ByteSize = 7 := rfl
  have hslash : "/".utf8ByteSize = 1 := rfl
  rw [Path.text_join (endsInName_includeDirectory _) hname, includeDirectory_slashedBuild hn,
    String.utf8ByteSize_append, String.utf8ByteSize_append, String.utf8ByteSize_append,
    Path.utf8ByteSize_slashes]
  omega

/-- Below a long path an entry is a directory that is named after a version, but its own path is too
long, and no version is found. -/
theorem resolveSdk_slashedBuild : (slashedBuild 4080).sdkVersion = none ∧
    (kitOf [("10.0.26100.0", sdkEntry)] []).list (slashedBuild 4080).includeDirectory =
      .ok (listingOf [("10.0.26100.0", sdkEntry)] []) ∧
    (∃ e, ("10.0.26100.0", e) ∈ listingOf [("10.0.26100.0", sdkEntry)] [] ∧
      e.isDirectory = true) ∧ NamesSdk "10.0.26100.0" [10, 0, 26100, 0] ∧
    ¬ ∃ name, (slashedBuild 4080).resolveSdk (kitOf [("10.0.26100.0", sdkEntry)] []) = .ok name := by
  have hinclude := includeDirectory_slashedBuild (n := 4080) (by decide)
  have hlist : (kitOf [("10.0.26100.0", sdkEntry)] []).list (slashedBuild 4080).includeDirectory =
      .ok (listingOf [("10.0.26100.0", sdkEntry)] []) := by
    rw [hinclude, FileTree.list, FileTree.find_slashes (by decide) rfl (by decide) (by decide)]
    rfl
  refine ⟨rfl, hlist, ⟨sdkEntry, List.mem_cons_self, rfl⟩,
    Kit.sdkNumbers?_eq_some_iff.mp (by decide +kernel), ?_⟩
  rintro ⟨name, hname⟩
  have hends := endsInName_includeDirectory (slashedBuild 4080)
  obtain ⟨numbers, hsdk, -⟩ := isNewestSdk_of_resolveSdk rfl hname
  obtain ⟨⟨e, he, -⟩, hnames, hroom⟩ := (Kit.isSdkDirectory_iff hends hlist (by decide)).mp hsdk
  have hlong := utf8ByteSize_join_slashedBuild (n := 4080) (by decide) hnames.isPieceName.head?_ne
  have hfits : name.utf8ByteSize < 8 := by
    have hlimit : FileTree.pathLimit = 4096 := rfl
    have hshort := hroom.2
    omega
  have hlisted : name = "10.0.26100.0" ∨ name = "wdf" := by
    have hname : name ∈ (listingOf [("10.0.26100.0", sdkEntry)] []).map (·.1) :=
      List.mem_map_of_mem he
    simpa [listingOf] using hname
  rcases hlisted with rfl | rfl
  · exact absurd hfits (by decide)
  · exact absurd hnames.1 (by decide)

/-! ## The directory of a framework -/

def frameworkDirectory (c : Config) (kind : Framework) : Path :=
  c.includeDirectory.join ("wdf/" ++ kind.name)

theorem newestFramework_eq (c : Config) (tree : FileTree) (kind : Framework) :
    c.newestFramework tree kind =
      ((Kit.newestVersion tree (c.frameworkDirectory kind)).map fun v =>
        (c.frameworkDirectory kind).join v.text).mapError .file := by
  unfold newestFramework frameworkDirectory
  dsimp only
  cases Kit.newestVersion tree (c.includeDirectory.join ("wdf/" ++ kind.name)) <;> rfl

/-- A build on a framework of which it pins no version. -/
structure UsesNewest (c : Config) (kind : Framework) : Prop where
  context_eq : c.context = kind.context
  not_pinned : ∀ kind' pin, c.driverModel ≠ some (.framework kind' pin)

/-- The directory that is searched for a version of a framework. -/
def versionDirectory (c : Config) (kind : Framework) (v : Version) : Path :=
  (c.frameworkDirectory kind).join v.text

variable {kind : Framework} {v : Version} {p : Path} {d : String}

theorem endsInName_frameworkDirectory (c : Config) (kind : Framework) :
    (c.frameworkDirectory kind).EndsInName :=
  .join _ ⟨'f', by cases kind <;> decide, by decide⟩

theorem UsesNewest.frameworkPath_eq_map (h : c.UsesNewest kind) :
    c.frameworkPath tree = (c.newestFramework tree kind).map some := by
  obtain ⟨hcontext, hmodel⟩ := h
  unfold frameworkPath
  split
  · next kind' pin heq => exact absurd heq (hmodel kind' pin)
  · next hkernel _ =>
    cases kind with
    | kmdf => rfl
    | umdf => exact absurd (hcontext.symm.trans hkernel) (by decide)
  · next humdf _ =>
    cases kind with
    | kmdf => exact absurd (hcontext.symm.trans humdf) (by decide)
    | umdf => rfl
  · next huser _ =>
    cases kind with
    | kmdf => exact absurd (hcontext.symm.trans huser) (by decide)
    | umdf => exact absurd (hcontext.symm.trans huser) (by decide)

theorem UsesNewest.frameworkPath_eq (h : c.UsesNewest kind)
    (hnewest : Kit.newestVersion tree (c.frameworkDirectory kind) = .ok v) :
    c.frameworkPath tree = .ok (some (c.versionDirectory kind v)) := by
  rw [h.frameworkPath_eq_map, newestFramework_eq, hnewest]
  rfl

theorem canonicalDirectory_eq_ok_iff {q : Path} : canonicalDirectory tree p = .ok q ↔
    tree.isDirectory p = true ∧ tree.InReach p ∧ tree.IsFullPath p q := by
  rw [← FileTree.canonical_eq_ok_iff]
  unfold canonicalDirectory
  split
  · next h => cases tree.canonical p <;> simp [Except.mapError, h]
  · next h => simp [h]

/-- What is no directory is missed. A directory fails only if it is too far from the root to have a
full path. -/
theorem canonicalDirectory_eq_error_iff {error : ConfigError} :
    canonicalDirectory tree p = .error error ↔
      tree.isDirectory p = false ∧ error = .directoryNotFound p.text ∨
      tree.isDirectory p = true ∧ ¬ tree.InReach p ∧ error = .file ⟨p, .nameTooLong⟩ := by
  by_cases h : tree.isDirectory p = true
  · obtain ⟨place, hfind, -⟩ := FileTree.isDirectory_iff.mp h
    by_cases hreach : tree.InReach p
    · obtain ⟨q, hq⟩ := FileTree.exists_isFullPath hfind
      rw [canonicalDirectory_eq_ok_iff.mpr ⟨h, hreach, hq⟩]
      simp [h, hreach]
    · rw [canonicalDirectory, if_pos h, FileTree.canonical_eq_error hfind hreach]
      simp [h, hreach, Except.mapError, eq_comm]
  · simp [canonicalDirectory, h, eq_comm]

theorem exists_canonicalDirectory_eq_error_iff : (∃ error, canonicalDirectory tree p = .error error) ↔
    ¬ (tree.isDirectory p = true ∧ tree.InReach p) := by
  simp only [canonicalDirectory_eq_error_iff, exists_or, ← and_assoc, exists_and_left, exists_eq,
    and_true]
  rw [← Bool.not_eq_true]
  tauto

theorem canonicalDirectory_eq_directoryNotFound_iff {text : String} :
    canonicalDirectory tree p = .error (.directoryNotFound text) ↔
      tree.isDirectory p = false ∧ text = p.text := by
  simp [canonicalDirectory_eq_error_iff]

def EndsInDigit (text : String) : Prop :=
  ∃ a, text.toList.getLast? = some a ∧ a.isDigit = true

theorem EndsInDigit.ne {text : String} (h : EndsInDigit d) (b : Char)
    (htext : text.toList.getLast? = some b) (hb : b.isDigit = false) : text ≠ d := by
  obtain ⟨a, hlast, hdigit⟩ := h
  rintro rfl
  obtain rfl := Option.some.inj (htext.symm.trans hlast)
  rw [hdigit] at hb
  cases hb

theorem EndsInDigit.join_ne {rest : String} (h : EndsInDigit d) (base : Path) (b : Char)
    (hrest : rest.toList.getLast? = some b) (hb : b.isDigit = false) :
    (base.join rest).text ≠ d := by
  refine h.ne b ((Path.getLast?_join base ?_).trans hrest) hb
  rintro rfl
  cases hrest

theorem endsInDigit_versionDirectory (c : Config) (kind : Framework) (v : Version) :
    EndsInDigit (c.versionDirectory kind v).text := by
  obtain ⟨a, hlast, hdigit⟩ := v.exists_getLast?_text
  refine ⟨a, (Path.getLast?_join _ ?_).trans hlast, hdigit⟩
  intro hempty
  rw [hempty] at hlast
  cases hlast

/-- Where no version is found, what is said ends in the name of the directory of all versions. -/
theorem failsWith_ne_resolveSdk (hdigit : EndsInDigit d) :
    FailsWith (· ≠ .directoryNotFound d) (c.resolveSdk tree) := by
  have hinclude : c.includeDirectory.text.toList.getLast? = some 'e' :=
    (Path.getLast?_join c.root (by decide)).trans (by decide)
  have hsome : c.includeDirectory.text ≠ "" := by
    intro hempty
    rw [hempty] at hinclude
    cases hinclude
  have hne := hdigit.ne 'e' ((Path.getLast?_append "Windows SDK Directory in " hsome).trans hinclude)
    (by decide)
  unfold resolveSdk
  split
  · exact .ok _
  · split
    · exact .error nofun
    · split
      · exact .ok _
      · exact .error fun heq => hne (ConfigError.directoryNotFound.inj heq)

/-- The directories of the development kit end in letters. -/
theorem failsWith_ne_sdkPaths (hdigit : EndsInDigit d) (sdk : String) :
    FailsWith (· ≠ .directoryNotFound d) ((c.sdkPaths sdk).mapM (canonicalDirectory tree)) := by
  refine .mapM fun p hp e he heq => ?_
  obtain ⟨-, htext⟩ := canonicalDirectory_eq_directoryNotFound_iff.mp (heq ▸ he)
  simp only [sdkPaths, List.mem_cons, List.not_mem_nil, or_false] at hp
  rcases hp with rfl | rfl | rfl
  · exact hdigit.join_ne _ 't' (by decide) (by decide) htext.symm
  · refine hdigit.join_ne _ 'm' ?_ (by decide) htext.symm
    cases c.context.isKernelMode <;> decide
  · exact hdigit.join_ne _ 'd' (by decide) (by decide) htext.symm

/-- The include paths are those of the development kit and then that of the framework. -/
theorem includePaths_eq (hvalid : c.validate = .ok ()) (hpath : c.frameworkPath tree = .ok (some p)) :
    c.includePaths tree = do
      let sdk ← c.resolveSdk tree
      let paths ← (c.sdkPaths sdk).mapM (canonicalDirectory tree)
      return paths ++ [← canonicalDirectory tree p] := by
  rw [includePaths, hvalid, candidatePaths, hpath]
  cases c.resolveSdk tree with
  | error e => rfl
  | ok sdk =>
    simp only [bind, Except.bind, pure, Except.pure, Option.toList_some]
    rw [List.mapM_append]
    simp only [List.mapM_cons, List.mapM_nil]
    cases (c.sdkPaths sdk).mapM (canonicalDirectory tree) with
    | error e => rfl
    | ok paths => cases canonicalDirectory tree p <;> rfl

/-- The include paths fail for the path of the framework if it alone is missing. -/
theorem includePaths_eq_directoryNotFound_iff (hvalid : c.validate = .ok ())
    (hpath : c.frameworkPath tree = .ok (some p))
    (hdigit : EndsInDigit p.text) :
    c.includePaths tree = .error (.directoryNotFound p.text) ↔ tree.isDirectory p = false ∧
      ∃ sdk paths, c.resolveSdk tree = .ok sdk ∧
        (c.sdkPaths sdk).mapM (canonicalDirectory tree) = .ok paths := by
  rw [includePaths_eq hvalid hpath]
  -- The framework comes last, so that its path is missed only where all before it are there; and
  -- what is missed before it has another name.
  cases hsdk : c.resolveSdk tree with
  | error e =>
    have hne : e ≠ .directoryNotFound p.text := failsWith_ne_resolveSdk hdigit e hsdk
    simp [bind, Except.bind, hne]
  | ok sdk =>
    cases hfirst : (c.sdkPaths sdk).mapM (canonicalDirectory tree) with
    | error e =>
      have hne : e ≠ .directoryNotFound p.text := failsWith_ne_sdkPaths hdigit sdk e hfirst
      simp [bind, Except.bind, hfirst, hne]
    | ok paths =>
      have hmissing : canonicalDirectory tree p = .error (.directoryNotFound p.text) ↔
          tree.isDirectory p = false := by
        rw [canonicalDirectory_eq_directoryNotFound_iff, and_iff_left rfl]
      rw [← hmissing]
      cases canonicalDirectory tree p <;> simp [bind, Except.bind, pure, Except.pure, hfirst]

/-- **The directory of the newest version of a framework is there exactly if some directory is named
after the version in plain numerals and the path to it is not too long. Else the include paths fail
for it, if what is before it is there.** -/
theorem newestFramework_exists_iff (hvalid : c.validate = .ok ()) (huses : c.UsesNewest kind)
    (hnames : tree.root.hasDistinctNames = true)
    (hlist : tree.list (c.frameworkDirectory kind) = .ok entries)
    (hnewest : Kit.newestVersion tree (c.frameworkDirectory kind) = .ok v) :
    ((∃ e, (v.text, e) ∈ entries ∧ e.isDirectory = true) ↔ Kit.HasPlainName entries v) ∧
    (tree.isDirectory (c.versionDirectory kind v) = true ↔ Kit.HasPlainName entries v ∧
      (c.versionDirectory kind v).text.utf8ByteSize < FileTree.pathLimit) ∧
    (c.includePaths tree = .error (.directoryNotFound (c.versionDirectory kind v).text) ↔
      tree.isDirectory (c.versionDirectory kind v) = false ∧
        ∃ sdk paths, c.resolveSdk tree = .ok sdk ∧
          (c.sdkPaths sdk).mapM (canonicalDirectory tree) = .ok paths) := by
  obtain ⟨hnodup, -⟩ := FileTree.list_reversed hnames hlist
  have hentry : (∃ e, (v.text, e) ∈ entries ∧ e.isDirectory = true) ↔
      Kit.HasPlainName entries v := by
    rw [← Kit.mem_directoryNames, Kit.text_mem_directoryNames_iff]
  refine ⟨hentry, ?_, ?_⟩
  · obtain ⟨hpiece, hsize⟩ := Kit.isPieceName_text v
    rw [versionDirectory, FileTree.isDirectory_join_iff (endsInName_frameworkDirectory c kind)
      hpiece hlist hnodup, hentry, and_comm, Path.HasRoomFor, and_iff_right hsize]
  · exact includePaths_eq_directoryNotFound_iff hvalid (huses.frameworkPath_eq hnewest)
      (endsInDigit_versionDirectory c kind v)

/-- Of names with and without leading zeros the one without them is found. -/
theorem newestFramework_plainKit : newestBuild.validate = .ok () ∧
    plainKit.root.hasDistinctNames = true ∧
    Kit.newestVersion plainKit (newestBuild.frameworkDirectory .kmdf) = .ok ⟨1, 33⟩ ∧
    newestBuild.includePaths plainKit ≠
      .error (.directoryNotFound (newestBuild.versionDirectory .kmdf ⟨1, 33⟩).text) := by
  have huses : newestBuild.UsesNewest .kmdf := ⟨rfl, nofun⟩
  have hnames : plainKit.root.hasDistinctNames = true := by decide
  have hlist : plainKit.list (newestBuild.frameworkDirectory .kmdf) =
      .ok (["1.9", "01.33", "1.33"].map fun name => (name, .directory [])) := rfl
  have hplain : Kit.HasPlainName
      (["1.9", "01.33", "1.33"].map fun name => (name, .directory [])) ⟨1, 33⟩ :=
    Kit.text_mem_directoryNames_iff.mp (by decide)
  obtain ⟨-, hthere, hfails⟩ := newestFramework_exists_iff rfl huses hnames hlist rfl
  have hdirectory := hthere.mpr ⟨hplain, by decide⟩
  refine ⟨rfl, hnames, rfl, fun herror => ?_⟩
  rw [(hfails.mp herror).1] at hdirectory
  cases hdirectory

/-- A kit whose framework has a name with a leading zero. -/
def leadingZeroKit : FileTree :=
  kitOf [("10.0.26100.0", sdkEntry)] ["02.0"]

/-- A name with a leading zero is taken for the newest version, and then missed. -/
theorem includePaths_leadingZeroKit : newestBuild.validate = .ok () ∧
    leadingZeroKit.list (newestBuild.frameworkDirectory .kmdf) = .ok [("02.0", .directory [])] ∧
    Kit.newestVersion leadingZeroKit (newestBuild.frameworkDirectory .kmdf) = .ok ⟨2, 0⟩ ∧
    (¬ ∃ e, ((⟨2, 0⟩ : Version).text, e) ∈ [("02.0", Entry.directory [])]) ∧
    newestBuild.includePaths leadingZeroKit =
      .error (.directoryNotFound (newestBuild.versionDirectory .kmdf ⟨2, 0⟩).text) := by
  refine ⟨rfl, rfl, rfl, ?_, rfl⟩
  rintro ⟨e, he⟩
  have hname : (⟨2, 0⟩ : Version).text = "02.0" := (Prod.mk.inj (List.mem_singleton.mp he)).1
  exact absurd hname (by decide)

/-! ## The order of listings -/

section
variable (hnames : tree.root.hasDistinctNames = true) (h : tree.Relisted tree')
include hnames h

theorem frameworkPath_of_relisted : c.frameworkPath tree' = c.frameworkPath tree := by
  have hnewest : ∀ kind, c.newestFramework tree' kind = c.newestFramework tree kind := by
    intro kind
    rw [newestFramework_eq, newestFramework_eq, Kit.newestVersion_of_relisted hnames h]
  unfold frameworkPath
  rw [hnewest, hnewest]

theorem canonicalDirectory_of_relisted (p : Path) :
    canonicalDirectory tree' p = canonicalDirectory tree p := by
  rw [canonicalDirectory, canonicalDirectory, h.isDirectory_eq hnames, h.canonical_eq hnames]

/-- Where one name alone has the greatest numbers, its place does not count. -/
theorem resolveSdk_of_relisted (hunique : c.sdkVersion = none → ∀ name name',
      IsNewestSdk tree c.includeDirectory name → IsNewestSdk tree c.includeDirectory name' →
      name = name') :
    c.resolveSdk tree' = c.resolveSdk tree := by
  cases hsdk : c.sdkVersion with
  | some version => simp only [resolveSdk, hsdk]
  | none =>
    have hlists := h.corresponds_list hnames c.includeDirectory
    cases hlist : tree.list c.includeDirectory with
    | error fault =>
      rw [hlist] at hlists
      have hlist' := hlists.eq_of_error
      simp only [resolveSdk, hsdk, hlist, hlist']
    | ok entries =>
      rw [hlist] at hlists
      obtain ⟨entries', hlist', -⟩ := hlists.exists_of_ok
      refine (resolveSdk_eq_iff hsdk hlist hlist').mpr ?_
      exact (Kit.newestSdkIn?_congr hlist hlist'
        (fun name numbers => Kit.isSdkDirectory_of_relisted hnames h) (hunique hsdk)).symm

/-- With the same version of the development kit the include paths are the same. -/
theorem includePaths_of_relisted (hsdk : c.resolveSdk tree' = c.resolveSdk tree) :
    c.includePaths tree' = c.includePaths tree := by
  have hcanonical : canonicalDirectory tree' = canonicalDirectory tree :=
    funext (canonicalDirectory_of_relisted hnames h)
  rw [includePaths, includePaths, candidatePaths, candidatePaths, hsdk,
    frameworkPath_of_relisted hnames h, hcanonical]

end

/-- **Two-part versions do not depend on the order of listings. The version of the development kit
and the include paths do not exactly if no two names have the greatest numbers.** -/
theorem includePaths_of_relisted_iff (hnames : tree.root.hasDistinctNames = true) :
    (∀ tree', tree.Relisted tree' →
      ∀ p, Kit.newestVersion tree' p = Kit.newestVersion tree p) ∧
    ((∀ tree', tree.Relisted tree' → c.resolveSdk tree' = c.resolveSdk tree ∧
        c.includePaths tree' = c.includePaths tree) ↔
      (c.sdkVersion = none → ∀ name name', IsNewestSdk tree c.includeDirectory name →
        IsNewestSdk tree c.includeDirectory name' → name = name')) := by
  refine ⟨fun tree' h p => (Kit.newestVersion_of_relisted hnames h p).symm, ?_, ?_⟩
  · intro hsame hsdk name name' hname hname'
    -- One other order is enough: the reversed one takes the first name where this one takes the last.
    obtain ⟨entries, hlist⟩ := hname.exists_list
    obtain ⟨-, hreversed⟩ := FileTree.list_reversed hnames hlist
    obtain ⟨hresolve, -⟩ := hsame tree.reversed (FileTree.relisted_reversed hnames)
    exact Kit.unique_of_newestSdkIn?_reversed hnames hlist
      ((resolveSdk_eq_iff hsdk hlist hreversed).mp hresolve) hname hname'
  · intro hunique tree' h
    have hsdk := resolveSdk_of_relisted hnames h hunique
    exact ⟨hsdk, includePaths_of_relisted hnames h hsdk⟩

/-- With one name of the greatest numbers every order gives the same version. -/
theorem resolveSdk_plainKit : plainKit.root.hasDistinctNames = true ∧
    ∀ tree', plainKit.Relisted tree' → newestBuild.resolveSdk tree' = .ok "10.0.26100.0" := by
  have hnames : plainKit.root.hasDistinctNames = true := by decide
  obtain ⟨-, hsame⟩ := includePaths_of_relisted_iff (c := newestBuild) hnames
  refine ⟨hnames, fun tree' h => (hsame.mpr ?_ tree' h).1.trans rfl⟩
  intro _ name name'
  have hlist : plainKit.list newestBuild.includeDirectory = .ok (listingOf
    [("10.0.9999.0", sdkEntry), ("10.0.26100.0", sdkEntry)] ["1.9", "01.33", "1.33"]) := rfl
  exact Kit.unique_of_newestSdkIn?_reversed hnames hlist rfl

/-- A kit with two names of the same numbers, in the order that is given. -/
def tiedKit (first second : String) : FileTree :=
  kitOf [(first, sdkEntry), (second, sdkEntry)] ["1.33"]

/-- Of two names of the same numbers the one that is listed last is taken. -/
theorem includePaths_tiedKit :
    (tiedKit "10.0.01.0" "10.0.1.0").Relisted (tiedKit "10.0.1.0" "10.0.01.0") ∧
    newestBuild.resolveSdk (tiedKit "10.0.01.0" "10.0.1.0") ≠
      newestBuild.resolveSdk (tiedKit "10.0.1.0" "10.0.01.0") ∧
    newestBuild.includePaths (tiedKit "10.0.01.0" "10.0.1.0") ≠
      newestBuild.includePaths (tiedKit "10.0.1.0" "10.0.01.0") := by
  refine ⟨⟨.directory (.refl _) fun name e e' he he' => ?_, rfl⟩, fun heq => ?_, fun heq => ?_⟩
  · obtain ⟨-, rfl⟩ := Prod.mk.inj (List.mem_singleton.mp he)
    obtain ⟨-, rfl⟩ := Prod.mk.inj (List.mem_singleton.mp he')
    exact .of_perm (by decide) (.swap _ _ _)
  · exact absurd (congrArg Except.toOption heq) (by decide)
  · exact absurd (congrArg Except.toOption heq) (by decide +kernel)

end KitSurface.Config
