import KitSurface.Proofs.Config.Definitions
import KitSurface.Proofs.Config.Include
import KitSurface.Proofs.Kit.VersionSearch
/-!
The candidates for the include paths of a build: three directories of the development kit, and that
of one version of the framework where the build has one (`Config.candidates`). The version is the one
that the driver model pins; only without a pin is it the newest one there is
(`Config.SearchesFramework`). Main statement: the include paths are the full paths of the candidates,
in their order, if all of them are directories with a full path that can be looked up; and an error is
that of the version of the development kit, that of the version of the framework, or that of the first
candidate without a full path, whichever comes first. Below an absolute root every directory has one
(`Config.includePaths_eq_iff_located`).
-/

namespace KitSurface

def FrameworkPin.version (pin : FrameworkPin) : Version :=
  ⟨pin.major.toUInt32, pin.target.toUInt32⟩

namespace Config

open Kit (IsNewestSdk HasVersion)

variable {c : Config} {tree : FileTree} {kind : Framework} {pin : FrameworkPin} {sdk : String}
  {framework : Option Path} {paths : List Path} {p : Path} {error : ConfigError}

/-! ## The version of the development kit -/

theorem text_versionDirectory (c : Config) (kind : Framework) (v : Version) :
    (c.versionDirectory kind v).text =
      c.includeDirectory.text ++ "/" ++ ("wdf/" ++ kind.name) ++ "/" ++ v.text := by
  have hwdf : ("wdf/" ++ kind.name).toList.head? ≠ some '/' := by cases kind <;> decide
  rw [versionDirectory, Path.text_join (endsInName_frameworkDirectory c kind)
    (Kit.isPieceName_text v).1.head?_ne, frameworkDirectory,
    Path.text_join (endsInName_includeDirectory c) hwdf]

theorem join_directory (c : Config) (kind : Framework) (pin : FrameworkPin) :
    c.includeDirectory.join (pin.directory kind) = c.versionDirectory kind pin.version := by
  have hdirectory : pin.directory kind = "wdf/" ++ kind.name ++ "/" ++ pin.version.text := by
    simp only [FrameworkPin.directory, FrameworkPin.version, Version.text, UInt8.toNat_toUInt32,
      String.append_assoc]
  have hhead : (pin.directory kind).toList.head? ≠ some '/' := by
    rw [hdirectory]
    cases kind <;> simp [Framework.name]
  have htext : (c.includeDirectory.join (pin.directory kind)).text =
      (c.versionDirectory kind pin.version).text := by
    rw [text_versionDirectory, Path.text_join (endsInName_includeDirectory c) hhead, hdirectory]
    simp only [String.append_assoc]
  exact Path.eq_of_text_eq htext

/-- The directory of a framework that a build searches. -/
inductive SearchesFramework (c : Config) (tree : FileTree) : Option Path → Prop
  /-- The driver model pins a version. -/
  | pinned {kind : Framework} {pin : FrameworkPin}
    (hmodel : c.driverModel = some (.framework kind pin)) :
    SearchesFramework c tree (some (c.versionDirectory kind pin.version))
  /-- No version is pinned, and none that there is exceeds this one. Its directory is looked for
  under the version's own text. -/
  | newest {kind : Framework} {v : Version} (huses : c.UsesNewest kind)
    (hversion : Version.IsGreatest (HasVersion tree (c.frameworkDirectory kind)) v) :
    SearchesFramework c tree (some (c.versionDirectory kind v))
  /-- Plain user mode has no framework. -/
  | none (hcontext : c.context = .userMode) : SearchesFramework c tree none

/-- A consistent build pins a version of a framework, uses the newest one, or has no framework. -/
theorem framework_cases (hvalid : c.validate = .ok ()) :
    (∃ kind pin, c.driverModel = some (.framework kind pin)) ∨ (∃ kind, c.UsesNewest kind) ∨
      c.context = .userMode := by
  cases hmodel : c.driverModel with
  | some model =>
    cases model with
    | framework kind pin => exact Or.inl ⟨kind, pin, rfl⟩
    | wdm =>
      refine Or.inr (Or.inl ⟨.kmdf, (context_eq_of_validate hvalid hmodel).symm, ?_⟩)
      simp [hmodel]
  | none =>
    refine Or.inr ?_
    cases hcontext : c.context with
    | kernelMode => exact Or.inl ⟨.kmdf, hcontext, by simp [hmodel]⟩
    | umdf => exact Or.inl ⟨.umdf, hcontext, by simp [hmodel]⟩
    | userMode => exact Or.inr rfl

theorem frameworkPath_of_pinned (hmodel : c.driverModel = some (.framework kind pin)) :
    c.frameworkPath tree = .ok (some (c.versionDirectory kind pin.version)) := by
  rw [frameworkPath, hmodel, ← join_directory]

theorem frameworkPath_of_userMode (hvalid : c.validate = .ok ()) (hcontext : c.context = .userMode) :
    c.frameworkPath tree = .ok none := by
  cases hmodel : c.driverModel with
  | none => rw [frameworkPath, hmodel, hcontext]
  | some model =>
    -- Every driver model builds in another context.
    have heq := (context_eq_of_validate hvalid hmodel).trans hcontext
    cases model with
    | wdm => cases heq
    | framework kind pin => cases kind <;> cases heq

theorem frameworkPath_eq_ok_iff (hvalid : c.validate = .ok ()) :
    c.frameworkPath tree = .ok framework ↔ c.SearchesFramework tree framework := by
  constructor
  · intro h
    rcases framework_cases hvalid with ⟨kind, pin, hmodel⟩ | ⟨kind, huses⟩ | hcontext
    · rw [frameworkPath_of_pinned hmodel] at h
      obtain rfl := Except.ok.inj h
      exact .pinned hmodel
    · rw [huses.frameworkPath_eq_map, newestFramework_eq] at h
      cases hversion : Kit.newestVersion tree (c.frameworkDirectory kind) with
      | error fault =>
        rw [hversion] at h
        cases h
      | ok v =>
        rw [hversion] at h
        obtain rfl := Except.ok.inj h
        exact .newest huses (Kit.newestVersion_eq_ok_iff_isGreatest.mp hversion)
    · rw [frameworkPath_of_userMode hvalid hcontext] at h
      obtain rfl := Except.ok.inj h
      exact .none hcontext
  · intro h
    cases h with
    | pinned hmodel => exact frameworkPath_of_pinned hmodel
    | newest huses hversion =>
      exact huses.frameworkPath_eq (Kit.newestVersion_eq_ok_iff_isGreatest.mpr hversion)
    | none hcontext => exact frameworkPath_of_userMode hvalid hcontext

theorem frameworkPath_eq_error_iff (hvalid : c.validate = .ok ()) :
    c.frameworkPath tree = .error error ↔ ∃ kind fault, c.UsesNewest kind ∧
      Kit.newestVersion tree (c.frameworkDirectory kind) = .error fault ∧ error = .file fault := by
  constructor
  · intro h
    rcases framework_cases hvalid with ⟨kind, pin, hmodel⟩ | ⟨kind, huses⟩ | hcontext
    · rw [frameworkPath_of_pinned hmodel] at h
      cases h
    · rw [huses.frameworkPath_eq_map, newestFramework_eq] at h
      cases hversion : Kit.newestVersion tree (c.frameworkDirectory kind) with
      | error fault =>
        rw [hversion] at h
        exact ⟨kind, fault, huses, hversion, (Except.error.inj h).symm⟩
      | ok v =>
        rw [hversion] at h
        cases h
    · rw [frameworkPath_of_userMode hvalid hcontext] at h
      cases h
  · rintro ⟨kind, fault, huses, hversion, rfl⟩
    rw [huses.frameworkPath_eq_map, newestFramework_eq, hversion]
    rfl

/-! ## The candidates -/

/-- The directories that a build searches, in their order. -/
def candidates (c : Config) (sdk : String) (framework : Option Path) : List Path :=
  ["km/crt", if c.context = .kernelMode then "km" else "um", "shared"].map
    ((c.root.join "Include").join sdk).join ++ framework.toList

theorem candidatePaths_eq (hsdk : c.resolveSdk tree = .ok sdk)
    (hframework : c.frameworkPath tree = .ok framework) :
    c.candidatePaths tree = .ok (c.candidates sdk framework) := by
  rw [candidatePaths, hsdk, hframework]
  cases hcontext : c.context <;>
    simp [bind, Except.bind, pure, Except.pure, sdkPaths, candidates, includeDirectory, hcontext,
      BuildContext.isKernelMode]

theorem includePaths_eq_mapM (hvalid : c.validate = .ok ()) (hsdk : c.resolveSdk tree = .ok sdk)
    (hframework : c.frameworkPath tree = .ok framework) :
    c.includePaths tree = (c.candidates sdk framework).mapM (canonicalDirectory tree) := by
  simp only [includePaths, hvalid, candidatePaths_eq hsdk hframework, bind, Except.bind]

/-- A candidate is a directory whose full path can be looked up. -/
def IsReachable (tree : FileTree) (p : Path) : Prop :=
  tree.isDirectory p = true ∧ tree.InReach p

/-- A candidate is such a directory, with its full path. -/
def IsDirectoryAt (tree : FileTree) (p q : Path) : Prop :=
  IsReachable tree p ∧ tree.IsFullPath p q

/-- What the include paths of a build are. -/
inductive Located (c : Config) (tree : FileTree) : Except ConfigError (List Path) → Prop
  /-- The version of the development kit cannot be told. -/
  | unknownSdk {error : ConfigError} (hsdk : c.resolveSdk tree = .error error) :
    Located c tree (.error error)
  /-- The newest version of the framework cannot be told. -/
  | unknownVersion {sdk : String} {kind : Framework} {fault : FileError}
    (hsdk : c.resolveSdk tree = .ok sdk) (huses : c.UsesNewest kind)
    (hversion : Kit.newestVersion tree (c.frameworkDirectory kind) = .error fault) :
    Located c tree (.error (.file fault))
  /-- The first candidate that fails is no directory. -/
  | missing {sdk : String} {framework : Option Path} {p : Path}
    (hsdk : c.resolveSdk tree = .ok sdk) (hframework : c.SearchesFramework tree framework)
    (h : IsFirst (fun p => ¬ IsReachable tree p) (c.candidates sdk framework) p)
    (hdirectory : tree.isDirectory p = false) : Located c tree (.error (.directoryNotFound p.text))
  /-- The first candidate that fails is a directory, too far from the root to have a full path. -/
  | tooFar {sdk : String} {framework : Option Path} {p : Path}
    (hsdk : c.resolveSdk tree = .ok sdk) (hframework : c.SearchesFramework tree framework)
    (h : IsFirst (fun p => ¬ IsReachable tree p) (c.candidates sdk framework) p)
    (hdirectory : tree.isDirectory p = true) : Located c tree (.error (.file ⟨p, .nameTooLong⟩))
  /-- All candidates are directories that have a full path. -/
  | found {sdk : String} {framework : Option Path} {paths : List Path}
    (hsdk : c.resolveSdk tree = .ok sdk) (hframework : c.SearchesFramework tree framework)
    (h : List.Forall₂ (IsDirectoryAt tree) (c.candidates sdk framework) paths) :
    Located c tree (.ok paths)

section
variable (hvalid : c.validate = .ok ()) (hsdk : c.resolveSdk tree = .ok sdk)
  (hframework : c.SearchesFramework tree framework)
include hvalid hsdk hframework

theorem includePaths_eq_ok_iff : c.includePaths tree = .ok paths ↔
    List.Forall₂ (IsDirectoryAt tree) (c.candidates sdk framework) paths := by
  have hpath := (frameworkPath_eq_ok_iff hvalid).mpr hframework
  simp only [includePaths_eq_mapM hvalid hsdk hpath, mapM_eq_ok_iff, canonicalDirectory_eq_ok_iff,
    ← and_assoc]
  rfl

theorem includePaths_eq_error_iff : c.includePaths tree = .error error ↔
    ∃ p, IsFirst (fun p => ¬ IsReachable tree p) (c.candidates sdk framework) p ∧
      canonicalDirectory tree p = .error error := by
  have hpath := (frameworkPath_eq_ok_iff hvalid).mpr hframework
  have hfails : ∀ p, (∃ e, canonicalDirectory tree p = .error e) ↔ ¬ IsReachable tree p :=
    fun p => exists_canonicalDirectory_eq_error_iff
  simp only [includePaths_eq_mapM hvalid hsdk hpath, mapM_eq_error_iff, hfails]

end

theorem Located.includePaths_eq (hvalid : c.validate = .ok ())
    {r : Except ConfigError (List Path)} (h : c.Located tree r) : c.includePaths tree = r := by
  cases h with
  | unknownSdk hsdk =>
    rw [includePaths, hvalid, candidatePaths, hsdk]
    rfl
  | unknownVersion hsdk huses hversion =>
    have hpath := (frameworkPath_eq_error_iff hvalid).mpr ⟨_, _, huses, hversion, rfl⟩
    rw [includePaths, hvalid, candidatePaths, hsdk, hpath]
    rfl
  | missing hsdk hframework h hno =>
    exact (includePaths_eq_error_iff hvalid hsdk hframework).mpr
      ⟨_, h, canonicalDirectory_eq_error_iff.mpr (.inl ⟨hno, rfl⟩)⟩
  | tooFar hsdk hframework h hdirectory =>
    exact (includePaths_eq_error_iff hvalid hsdk hframework).mpr ⟨_, h,
      canonicalDirectory_eq_error_iff.mpr (.inr ⟨hdirectory, fun hreach => h.1 ⟨hdirectory, hreach⟩, rfl⟩)⟩
  | found hsdk hframework h => exact (includePaths_eq_ok_iff hvalid hsdk hframework).mpr h

section
variable (habsolute : c.root.isAbsolute = true)
include habsolute

variable (hframework : c.SearchesFramework tree framework) (hp : p ∈ c.candidates sdk framework)
include hframework hp

end

/-- A tree that is below directories of some names. -/
def below : List String → Entry → Entry
  | [], e => e
  | name :: names, e => .directory [(name, below names e)]

end Config

end KitSurface
