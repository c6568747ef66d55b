import KitSurface.Generator
import KitSurface.Proofs.BuildScript
import KitSurface.Proofs.Config.Check
/-!
Inconsistent configurations. A configuration is checked before anything is looked up or printed, so
that a conflict between its driver model and its context is what comes out of that, whatever the
files are. The other way round nothing but the check speaks of a conflict: the include paths fail
with errors of files and directories besides (`failsWith_includePaths`), and the check of the surface
and the runs of the generator take their errors about the configuration from the include paths.
Main statement: an operation refuses a configuration with a conflict exactly if its check does
(`Config.refused_iff_validate`).
-/

namespace KitSurface

/-! ## How a computation fails -/

section
variable {ε ε' α β : Type} {q : ε → Prop} {x : Except ε α} {f : α → Except ε β}

/-- A computation that fails does so with an error of some kind. -/
def FailsWith (q : ε → Prop) (x : Except ε α) : Prop :=
  ∀ error, x = .error error → q error

namespace FailsWith

theorem ok (a : α) : FailsWith q (.ok a) :=
  nofun

theorem error {e : ε} (h : q e) : FailsWith q (.error e : Except ε α) := by
  intro e' he
  cases he
  exact h

theorem bind (hx : FailsWith q x) (hf : ∀ a, FailsWith q (f a)) : FailsWith q (x >>= f) := by
  intro e h
  cases x with
  | error e' => exact hx e (congrArg Except.error (Except.error.inj h))
  | ok a => exact hf a e h

theorem map (hx : FailsWith q x) (g : α → β) : FailsWith q (x.map g) := by
  intro e h
  cases x with
  | error e' => exact hx e (congrArg Except.error (Except.error.inj h))
  | ok a => cases h

theorem mapError {y : Except ε' α} {g : ε' → ε} (h : ∀ e, q (g e)) :
    FailsWith q (y.mapError g) := by
  cases y with
  | error e => exact .error (h e)
  | ok a => exact .ok a

theorem mapM {xs : List α} (h : ∀ a ∈ xs, FailsWith q (f a)) : FailsWith q (xs.mapM f) := by
  intro e he
  obtain ⟨a, hfirst, ha⟩ := mapM_eq_error_iff.mp he
  exact h a hfirst.mem e ha

end FailsWith

end

/-! ## The check of a configuration -/

/-- The error is about a file or a directory. -/
inductive ConfigError.IsLookup : ConfigError → Prop
  | file (error : FileError) : IsLookup (.file error)
  | directoryNotFound (directory : String) : IsLookup (.directoryNotFound directory)

namespace Config

variable {c : Config} {tree : FileTree} {error : ConfigError} {p : Path}

theorem validate_eq_error_iff : c.validate = .error error ↔
    ∃ model, c.driverModel = some model ∧ model.context ≠ c.context ∧
      error = .conflictingModel c.context model := by
  rw [validate]
  cases c.driverModel with
  | none => simp
  | some model =>
    by_cases h : model.context = c.context
    · simp [h]
    · simp [h, eq_comm (a := error)]

/-! ## Include paths -/

theorem failsWith_resolveSdk : FailsWith ConfigError.IsLookup (c.resolveSdk tree) := by
  unfold resolveSdk
  split
  · exact .ok _
  · split
    · exact .error (.file _)
    · split
      · exact .ok _
      · exact .error (.directoryNotFound _)

theorem failsWith_newestFramework (kind : Framework) :
    FailsWith ConfigError.IsLookup (c.newestFramework tree kind) := by
  unfold newestFramework
  dsimp only
  split
  · exact .ok _
  · exact .error (.file _)

theorem failsWith_frameworkPath : FailsWith ConfigError.IsLookup (c.frameworkPath tree) := by
  unfold frameworkPath
  split
  · exact .ok _
  · exact (failsWith_newestFramework .kmdf).map some
  · exact (failsWith_newestFramework .umdf).map some
  · exact .ok _

theorem failsWith_candidatePaths : FailsWith ConfigError.IsLookup (c.candidatePaths tree) := by
  unfold candidatePaths
  apply failsWith_resolveSdk.bind
  intro sdk
  apply failsWith_frameworkPath.bind
  exact fun path => .ok _

theorem failsWith_canonicalDirectory :
    FailsWith ConfigError.IsLookup (canonicalDirectory tree p) := by
  unfold canonicalDirectory
  split
  · exact .mapError fun fault => .file _
  · exact .error (.directoryNotFound _)

theorem includePaths_of_validate_error (h : c.validate = .error error) (tree : FileTree) :
    c.includePaths tree = .error error := by
  rw [includePaths, h]
  rfl

theorem failsWith_includePaths (h : c.validate = .ok ()) :
    FailsWith ConfigError.IsLookup (c.includePaths tree) := by
  rw [includePaths, h]
  apply failsWith_candidatePaths.bind
  exact fun paths => .mapM fun p _ => failsWith_canonicalDirectory

theorem includePaths_eq_conflict_iff {context : BuildContext} {model : DriverModel} :
    c.includePaths tree = .error (.conflictingModel context model) ↔
      c.validate = .error (.conflictingModel context model) := by
  constructor
  · intro h
    cases hvalid : c.validate with
    | ok _ => exact absurd (failsWith_includePaths hvalid _ h) nofun
    | error e =>
      rw [includePaths_of_validate_error hvalid] at h
      cases h
      rfl
  · exact fun h => includePaths_of_validate_error h tree

/-! ## Check of the surface -/

theorem check_eq_config_iff :
    c.check tree = .error (.config error) ↔ c.includePaths tree = .error error := by
  constructor
  · intro h
    -- Of the phases of the check only the first one has errors about the configuration.
    have hchecked := c.checked_check tree
    rw [h] at hchecked
    cases hchecked with
    | unpathed hpaths => exact hpaths
    | searched _ hsurface => cases hsurface
  · exact check_of_includePaths_error

/-! ## Build of a library -/

theorem configureLibrary_eq_error_iff :
    c.configureLibrary = ⟨[], .error (.error error)⟩ ↔ c.validate = .error error := by
  constructor
  · intro h
    cases hvalid : c.validate with
    | ok _ =>
      rw [configureLibrary_of_validate hvalid] at h
      cases h
    | error e =>
      rw [configureLibrary_of_validate_error hvalid] at h
      cases h
      rfl
  · exact configureLibrary_of_validate_error

end Config

/-! ## Runs of the generator -/

namespace Generator

variable {c : Config} {tree : FileTree} {error : ConfigError} {paths : List Path}

theorem arguments_eq_error_iff {s : Surface} {pass : Option Subsystem} :
    arguments s c tree pass = .error error ↔ c.includePaths tree = .error error := by
  rw [arguments]
  cases c.includePaths tree with
  | ok paths => exact ⟨nofun, nofun⟩
  | error e => simp [bind, Except.bind]

theorem exists_run (h : c.includePaths tree = .ok paths) (name : String)
    (pass : Option Subsystem) : ∃ r, run c tree name pass = .ok r := by
  rw [run]
  cases harguments : arguments c.surface c tree pass with
  | ok args => exact ⟨_, rfl⟩
  | error e =>
    have hpaths := arguments_eq_error_iff.mp harguments
    rw [h] at hpaths
    cases hpaths

theorem exists_runs (h : c.includePaths tree = .ok paths) : ∃ rs, runs c tree = .ok rs := by
  obtain ⟨types, htypes⟩ := exists_run h "types" none
  obtain ⟨constants, hconstants⟩ := exists_run h "constants" none
  rw [runs, htypes, hconstants]
  cases hpasses : c.surface.subsystems.mapM fun sub => run c tree sub.name (some sub) with
  | ok passes => exact ⟨_, rfl⟩
  | error e =>
    obtain ⟨sub, -, hsub⟩ := mapM_eq_error_iff.mp hpasses
    obtain ⟨r, hr⟩ := exists_run h sub.name (some sub)
    rw [hr] at hsub
    cases hsub

theorem runs_of_includePaths_error (h : c.includePaths tree = .error error) :
    runs c tree = .error (.config error) := by
  have htypes : run c tree "types" none = .error (.config error) := by
    rw [run, arguments_eq_error_iff.mpr h]
  rw [runs, htypes]
  rfl

theorem runs_eq_config_iff :
    runs c tree = .error (.config error) ↔ c.includePaths tree = .error error := by
  constructor
  · intro h
    cases hpaths : c.includePaths tree with
    | ok paths =>
      obtain ⟨rs, hrs⟩ := exists_runs hpaths
      rw [hrs] at h
      cases h
    | error e =>
      rw [runs_of_includePaths_error hpaths] at h
      cases h
      rfl
  · exact runs_of_includePaths_error

end Generator

/-! ## Refusals -/

/-- **Whatever looks something up or prints refuses an inconsistent configuration.** The driver model
and the context alone decide about that. Then the include paths, the check of the surface, the build
of the library, which prints nothing, and every set-up and run of the generator give the error of the
check, whatever the files are; and no other configuration gives it. -/
theorem Config.refused_iff_validate (c : Config) (context : BuildContext) (model : DriverModel) :
    (c.validate = .error (.conflictingModel context model) ↔
      c.driverModel = some model ∧ c.context = context ∧ model.context ≠ context) ∧
    (∀ tree, c.includePaths tree = .error (.conflictingModel context model) ↔
      c.validate = .error (.conflictingModel context model)) ∧
    (∀ tree, c.check tree = .error (.config (.conflictingModel context model)) ↔
      c.validate = .error (.conflictingModel context model)) ∧
    (c.configureLibrary = ⟨[], .error (.error (.conflictingModel context model))⟩ ↔
      c.validate = .error (.conflictingModel context model)) ∧
    (∀ s tree pass, Generator.arguments s c tree pass = .error (.conflictingModel context model) ↔
      c.validate = .error (.conflictingModel context model)) ∧
    ∀ tree, Generator.runs c tree = .error (.config (.conflictingModel context model)) ↔
      c.validate = .error (.conflictingModel context model) := by
  refine ⟨?_, fun tree => includePaths_eq_conflict_iff, ?_, configureLibrary_eq_error_iff, ?_, ?_⟩
  · rw [validate_eq_error_iff]
    constructor
    · intro h
      obtain ⟨model', hmodel, hne, herror⟩ := h
      cases herror
      exact ⟨hmodel, rfl, hne⟩
    · intro h
      obtain ⟨hmodel, rfl, hne⟩ := h
      exact ⟨model, hmodel, hne, rfl⟩
  · exact fun tree => check_eq_config_iff.trans includePaths_eq_conflict_iff
  · exact fun s tree pass => Generator.arguments_eq_error_iff.trans includePaths_eq_conflict_iff
  · exact fun tree => Generator.runs_eq_config_iff.trans includePaths_eq_conflict_iff

example : ({ root := ⟨"/"⟩, architecture := .amd64, context := .umdf, driverModel := some .wdm } :
    Config).configureLibrary = ⟨[], .error (.error (.conflictingModel .umdf .wdm))⟩ :=
  rfl

end KitSurface
