import KitSurface.BuildScript
import KitSurface.Proofs.Surface.Difference
import KitSurface.Proofs.Workspace.Settings
/-!
What a build script does where others see it. The configuration of a build is read in one of three
ways (`ConfigRun`): it stops before the settings are known, it finds that there are none, or it
watches the manifests and goes on. A configuration that is read is consistent, so that the build of
the library cannot fail behind it. What is printed is read line by line: a directive is one line,
unless the path in it holds a line feed (`Directive.read_rerunOnFile_of_lineFeed`). Main statements:
the settings are declared and set altogether or not at all, behind the lines that watch the manifests
(`configureThen_isAllOrNothing`); and a build that ends well has watched the manifests exactly if there
was a section of settings (`watches_iff`).
-/

namespace KitSurface

/-! ## Directives -/

namespace Directive

variable {line : String}

/-- The line declares the values of a setting. -/
def IsDeclaration (line : String) : Prop :=
  "cargo::rustc-check-cfg=".toList <+: line.toList

/-- The line gives a setting a value. -/
def IsAssignment (line : String) : Prop :=
  "cargo::rustc-cfg=".toList <+: line.toList

/-- The line asks for another run of the script when something changes. -/
def IsWatch (line : String) : Prop :=
  "cargo::rerun-if-".toList <+: line.toList

theorem not_prefix_of_prefix {start start' line : List Char} (h : start <+: line)
    (hne : ¬ start <+: start') (hne' : ¬ start' <+: start) : ¬ start' <+: line :=
  fun h' => (List.prefix_or_prefix_of_prefix h h').elim hne hne'

theorem prefix_append {start : List Char} {front : String} (h : start <+: front.toList)
    (rest : String) : start <+: (front ++ rest).toList := by
  rw [String.toList_append]
  exact h.trans (List.prefix_append _ _)

theorem isDeclaration_declare (setting : String) (values : List String) :
    IsDeclaration (declare setting values) := by
  have hstart : "cargo::rustc-check-cfg=".toList <+: "cargo::rustc-check-cfg=cfg(".toList := by
    decide
  exact prefix_append (prefix_append (prefix_append (prefix_append hstart _) _) _) _

theorem isDeclaration_of_mem (h : line ∈ declarations) : IsDeclaration line := by
  rw [declarations, List.mem_cons, List.mem_singleton] at h
  rcases h with rfl | rfl
  · exact isDeclaration_declare _ _
  · exact isDeclaration_declare _ _

theorem isWatch_rerunOnFile (p : Path) : IsWatch (rerunOnFile p) := by
  have hstart : "cargo::rerun-if-".toList <+: "cargo::rerun-if-changed=".toList := by decide
  exact prefix_append hstart _

theorem isWatch_rerunOnVariable (name : String) : IsWatch (rerunOnVariable name) := by
  have hstart : "cargo::rerun-if-".toList <+: "cargo::rerun-if-env-changed=".toList := by decide
  exact prefix_append hstart _

theorem IsDeclaration.not_isAssignment (h : IsDeclaration line) : ¬ IsAssignment line :=
  not_prefix_of_prefix h (by decide) (by decide)

theorem IsWatch.not_isDeclaration (h : IsWatch line) : ¬ IsDeclaration line :=
  not_prefix_of_prefix h (by decide) (by decide)

theorem IsWatch.not_isAssignment (h : IsWatch line) : ¬ IsAssignment line :=
  not_prefix_of_prefix h (by decide) (by decide)

/-! ### Lines as they are read -/

/-- What the build tool reads where a line is printed. -/
def read (line : String) : List String :=
  Text.lines (line ++ "\n")

theorem read_of_isLine (h : Text.IsLine line) : read line = [line] := by
  have hlines : Text.lines (line ++ "\n") = [line] ++ Text.lines "" :=
    Text.lines_of_toList [line] "" (by simpa using h) (by simp)
  exact hlines

/-- A line feed in a path ends the line there. The rest of the path is read as lines of its own. -/
theorem read_rerunOnFile_of_lineFeed (front back : String) :
    read (rerunOnFile ⟨front ++ "\n" ++ back⟩) = read (rerunOnFile ⟨front⟩) ++ read back := by
  have hprint : rerunOnFile ⟨front ++ "\n" ++ back⟩ ++ "\n" =
      rerunOnFile ⟨front⟩ ++ "\n" ++ (back ++ "\n") := by
    unfold rerunOnFile
    generalize "cargo::rerun-if-changed=" = start
    simp only [String.append_assoc]
  rw [read, hprint, Text.lines_append_lineFeed]
  rfl

theorem isLine_quoted {text : String} (h : Text.IsLine text) : Text.IsLine (quoted text) :=
  Text.isLine_append.mpr ⟨Text.isLine_append.mpr ⟨by decide, h⟩, by decide⟩

theorem isLine_assign {setting value : String} (hsetting : Text.IsLine setting)
    (hvalue : Text.IsLine value) : Text.IsLine (assign setting value) := by
  have hstart : Text.IsLine ("cargo::rustc-cfg=" ++ setting) :=
    Text.isLine_append.mpr ⟨by decide, hsetting⟩
  exact Text.isLine_append.mpr ⟨Text.isLine_append.mpr ⟨hstart, by decide⟩, isLine_quoted hvalue⟩

theorem isLine_declare {setting : String} {values : List String} (hsetting : Text.IsLine setting)
    (hvalues : ∀ value ∈ values, Text.IsLine value) : Text.IsLine (declare setting values) := by
  have hstart : Text.IsLine ("cargo::rustc-check-cfg=cfg(" ++ setting) :=
    Text.isLine_append.mpr ⟨by decide, hsetting⟩
  have hquoted : ∀ text ∈ values.map quoted, Text.IsLine text :=
    List.forall_mem_map.mpr fun value hvalue => isLine_quoted (hvalues value hvalue)
  have hlist : Text.IsLine (", ".intercalate (values.map quoted)) :=
    Text.isLine_intercalate (by decide) hquoted
  exact Text.isLine_append.mpr ⟨Text.isLine_append.mpr
    ⟨Text.isLine_append.mpr ⟨hstart, by decide⟩, hlist⟩, by decide⟩

theorem isLine_of_mem_declarations (h : line ∈ declarations) : Text.IsLine line := by
  rw [declarations, List.mem_cons, List.mem_singleton] at h
  rcases h with rfl | rfl
  · exact isLine_declare (by decide) (by decide)
  · exact isLine_declare (by decide) (List.forall_mem_map.mpr fun g _ => g.isLine_name)

theorem isLine_of_mem_settingLines {c : Config} (h : line ∈ c.settingLines) :
    Text.IsLine line := by
  rcases List.mem_cons.mp h with rfl | h
  · exact isLine_assign (by decide) (by cases c.context <;> decide)
  · obtain ⟨g, -, rfl⟩ := List.mem_map.mp h
    exact isLine_assign (by decide) g.isLine_name

end Directive

/-! ## Consistent configurations -/

theorem Settings.context_eq_of_resolveContext {s : Settings} {override : Option String}
    {context : BuildContext} {model : DriverModel} (hmodel : s.driverModel = some model)
    (h : s.resolveContext override = .ok context) : model.context = context := by
  rw [resolveContext, hmodel] at h
  cases hrequested : s.requestedContext override with
  | error e =>
    rw [hrequested] at h
    cases h
  | ok requested =>
    rw [hrequested] at h
    cases requested with
    | none => exact Except.ok.inj h
    | some requested =>
      have hagree : (if requested = model.context then .ok requested
          else .error (ResolveError.conflicting requested model.context)) = Except.ok context := h
      split at hagree
      · next heq => rw [← heq, Except.ok.inj hagree]
      · cases hagree

namespace Config

/-- What settings give: the context is resolved first, and the root of the kit comes next. -/
theorem ofSettings_cases (s : Settings) (override : Option String) (root : Option Path)
    (a : Architecture) :
    (∃ e, s.resolveContext override = .error e ∧
      ofSettings s override root a = .error (.unresolved e)) ∨
    (root = none ∧ ofSettings s override root a = .error .rootNotFound) ∨
    ∃ context path, s.resolveContext override = .ok context ∧ root = some path ∧
      ofSettings s override root a =
        .ok { root := path, architecture := a, context, driverModel := s.driverModel,
              options := s.options } := by
  rw [ofSettings]
  cases s.resolveContext override with
  | error e => exact Or.inl ⟨e, rfl, rfl⟩
  | ok context =>
    cases root with
    | none => exact Or.inr (Or.inl ⟨rfl, rfl⟩)
    | some path => exact Or.inr (Or.inr ⟨context, path, rfl, rfl, rfl⟩)

theorem validate_eq_ok_of_agree {c : Config}
    (h : ∀ model, c.driverModel = some model → model.context = c.context) :
    c.validate = .ok () := by
  rw [validate]
  cases hmodel : c.driverModel with
  | none => rfl
  | some model => exact if_pos (h model hmodel)

theorem configureLibrary_of_validate_error {c : Config} {error : ConfigError}
    (h : c.validate = .error error) : c.configureLibrary = ⟨[], .error (.error error)⟩ := by
  rw [configureLibrary, h]
  rfl

theorem configureLibrary_of_validate {c : Config} (h : c.validate = .ok ()) :
    c.configureLibrary = ⟨Directive.declarations ++ c.settingLines, .ok ()⟩ := by
  rw [configureLibrary, h]
  rfl

end Config

/-! ## Manifests of a workspace -/

namespace Workspace

variable {w : Workspace} {p q : Path} {kept paths : List Path}

/-- The manifests of the packages, and that of the workspace. -/
def manifestPaths (w : Workspace) : List Path :=
  w.packages.map (·.manifest) ++ [w.root.join "Cargo.toml"]

/-- Paths with one more, unless one of the same components is there. -/
def keep (kept : List Path) (p : Path) : List Path :=
  if kept.any fun q => q.components == p.components then kept else kept ++ [p]

theorem manifests_eq_foldl (w : Workspace) : w.manifests = w.manifestPaths.foldl keep [] :=
  rfl

theorem subset_keep : kept ⊆ keep kept p := by
  unfold keep
  split
  · exact List.Subset.refl _
  · exact List.subset_append_left _ _

theorem mem_of_mem_keep (h : q ∈ keep kept p) : q ∈ kept ∨ q = p := by
  unfold keep at h
  split at h
  · exact Or.inl h
  · rwa [List.mem_append, List.mem_singleton] at h

theorem exists_mem_keep (kept : List Path) (p : Path) :
    ∃ q ∈ keep kept p, q.components = p.components := by
  unfold keep
  split
  · next hany =>
    obtain ⟨q, hq, heq⟩ := List.any_eq_true.mp hany
    exact ⟨q, hq, beq_iff_eq.mp heq⟩
  · exact ⟨p, List.mem_append_right _ List.mem_cons_self, rfl⟩

theorem subset_foldl_keep : ∀ {paths kept : List Path}, kept ⊆ paths.foldl keep kept
  | [], _ => List.Subset.refl _
  | _ :: _, _ => List.Subset.trans subset_keep subset_foldl_keep

theorem mem_of_mem_foldl_keep : ∀ {paths kept : List Path}, q ∈ paths.foldl keep kept →
    q ∈ kept ∨ q ∈ paths
  | [], _, h => Or.inl h
  | p :: paths, kept, h => by
    rw [List.foldl_cons] at h
    rcases mem_of_mem_foldl_keep h with hkept | hpaths
    · rcases mem_of_mem_keep hkept with hq | rfl
      · exact Or.inl hq
      · exact Or.inr List.mem_cons_self
    · exact Or.inr (List.mem_cons_of_mem _ hpaths)

theorem exists_mem_foldl_keep : ∀ {paths kept : List Path}, p ∈ paths →
    ∃ q ∈ paths.foldl keep kept, q.components = p.components
  | p' :: paths, kept, h => by
    rw [List.foldl_cons]
    rcases List.mem_cons.mp h with rfl | hp
    -- What one step keeps in place of the path is kept by all later steps.
    · obtain ⟨q, hq, heq⟩ := exists_mem_keep kept p
      exact ⟨q, subset_foldl_keep hq, heq⟩
    · exact exists_mem_foldl_keep hp

/-- Every manifest is among those that are watched, perhaps as another manifest spells it. -/
theorem exists_mem_manifests (h : p ∈ w.manifestPaths) :
    ∃ q ∈ w.manifests, q ∈ w.manifestPaths ∧ q.components = p.components := by
  rw [manifests_eq_foldl]
  obtain ⟨q, hq, heq⟩ := exists_mem_foldl_keep h
  have hpath : q ∈ w.manifestPaths := (mem_of_mem_foldl_keep hq).resolve_left List.not_mem_nil
  exact ⟨q, hq, hpath, heq⟩

end Workspace

/-! ## Reading the configuration of a build -/

namespace BuildHost

/-- How the configuration of a build is read. -/
inductive ConfigRun (host : BuildHost) : Script ConfigError Config → Prop where
  /-- The settings are not known, but not for want of a section. -/
  | stopped {failure} (h : failure ≠ .error (.settings .noSection)) :
    ConfigRun host ⟨[], .error failure⟩
  /-- There is no section of settings. -/
  | unset {workspace} (hworkspace : Workspace.ofRun host.describe = .ok workspace)
    (h : workspace.sections = []) :
    ConfigRun host ⟨[], .error (.error (.settings .noSection))⟩
  /-- The manifests are watched, but the settings do not give a configuration. -/
  | unresolved {manifests topLevel failure} (h : failure ≠ .error (.settings .noSection)) :
    ConfigRun host ⟨watchLines manifests topLevel, .error failure⟩
  /-- The manifests are watched, and the settings give a consistent configuration. -/
  | configured {workspace topLevel config}
    (hworkspace : Workspace.ofRun host.describe = .ok workspace) (h : workspace.sections ≠ [])
    (hvalid : config.validate = .ok ()) :
    ConfigRun host ⟨watchLines workspace.manifests topLevel, .ok config⟩

/-- The configuration that settings give in a build, where the target of the build counts first. -/
def resolve (host : BuildHost) (s : Settings) : Except (Failure ConfigError) Config :=
  match host.environment.architecture with
  | .error fault => .error (.fault fault)
  | .ok architecture =>
    (Config.ofSettings s (host.environment.get? Environment.contextVariable)
      (Kit.detectRoot host.environment host.tree) architecture).mapError .error

variable {host : BuildHost} {topLevel : Path} {s : Settings} {config : Config}

theorem workspaceSettings_of_ofRun {workspace : Workspace}
    (h : Workspace.ofRun host.describe = .ok workspace) : host.workspaceSettings =
      (workspace.settings.mapError .settings).map fun s => (workspace, s) := by
  rw [workspaceSettings, h]
  show (workspace.settings.mapError ConfigError.settings).bind (fun s => .ok (workspace, s)) = _
  cases workspace.settings <;> rfl

theorem config_of_workspaceSettings
    (htop : host.environment.topLevelManifest host.tree = .ok topLevel) {workspace : Workspace}
    (h : host.workspaceSettings = .ok (workspace, s)) :
    host.config = ⟨watchLines workspace.manifests topLevel, host.resolve s⟩ := by
  rw [BuildHost.config, htop, h]
  simp only [Script.andThen, Script.print, Script.ofResult, List.append_nil]
  rfl

theorem config_of_workspaceSettings_error {error : ConfigError}
    (htop : host.environment.topLevelManifest host.tree = .ok topLevel)
    (h : host.workspaceSettings = .error error) : host.config = ⟨[], .error (.error error)⟩ := by
  rw [BuildHost.config, htop, h]
  rfl

/-- Settings that are there do not fail for want of a section, and what they give is consistent. -/
theorem resolve_cases (host : BuildHost) (s : Settings) :
    (∃ failure, host.resolve s = .error failure ∧ failure ≠ .error (.settings .noSection)) ∨
      ∃ config, host.resolve s = .ok config ∧ config.validate = .ok () := by
  unfold resolve
  split
  · exact Or.inl ⟨_, rfl, nofun⟩
  · next a ha =>
    obtain ⟨e, -, hof⟩ | ⟨-, hof⟩ | ⟨context, path, hcontext, -, hof⟩ :=
      Config.ofSettings_cases s (host.environment.get? Environment.contextVariable)
        (Kit.detectRoot host.environment host.tree) a
    · rw [hof]
      exact Or.inl ⟨_, rfl, nofun⟩
    · rw [hof]
      exact Or.inl ⟨_, rfl, nofun⟩
    · rw [hof]
      refine Or.inr ⟨_, rfl, Config.validate_eq_ok_of_agree fun model hmodel => ?_⟩
      exact Settings.context_eq_of_resolveContext hmodel hcontext

theorem configRun (host : BuildHost) : ConfigRun host host.config := by
  -- The cases follow the order in which a build reads: its manifest, its workspace, its settings.
  cases htop : host.environment.topLevelManifest host.tree with
  | error fault =>
    have hconfig : host.config = ⟨[], .error (.fault fault)⟩ := by
      rw [BuildHost.config, htop]
      rfl
    rw [hconfig]
    exact .stopped nofun
  | ok topLevel =>
    cases hworkspace : Workspace.ofRun host.describe with
    | error e =>
      have hsettings : host.workspaceSettings = .error (.description e.message) := by
        rw [workspaceSettings, hworkspace]
        rfl
      rw [config_of_workspaceSettings_error htop hsettings]
      exact .stopped nofun
    | ok workspace =>
      have hsettings := workspaceSettings_of_ofRun hworkspace
      cases hs : workspace.settings with
      | error error =>
        rw [hs] at hsettings
        rw [config_of_workspaceSettings_error htop hsettings]
        cases error with
        | noSection => exact .unset hworkspace (Workspace.settings_eq_noSection_iff.mp hs)
        | severalSettings vs => exact .stopped nofun
        | unreadable source cause => exact .stopped nofun
      | ok s =>
        rw [hs] at hsettings
        -- Settings cannot come from nothing: without a section the outcome would be `noSection`.
        have hsections : workspace.sections ≠ [] := by
          intro hnil
          rw [Workspace.settings_eq_noSection_iff.mpr hnil] at hs
          cases hs
        rw [config_of_workspaceSettings htop hsettings]
        obtain ⟨failure, hresolve, hne⟩ | ⟨config, hresolve, hvalid⟩ := host.resolve_cases s
        · rw [hresolve]
          exact .unresolved hne
        · rw [hresolve]
          exact .configured hworkspace hsections hvalid

/-! What each way of reading comes to. -/

theorem exists_watchLines_of_ok (h : host.config.result = .ok config) :
    ∃ workspace topLevel, Workspace.ofRun host.describe = .ok workspace ∧
      workspace.sections ≠ [] ∧ host.config.lines = watchLines workspace.manifests topLevel ∧
      config.validate = .ok () := by
  have hrun := host.configRun
  generalize host.config = script at hrun h ⊢
  cases hrun with
  | stopped _ => cases h
  | unset _ _ => cases h
  | unresolved _ => cases h
  | configured hworkspace hsections hvalid =>
    cases h
    exact ⟨_, _, hworkspace, hsections, rfl, hvalid⟩

theorem exists_sections_eq_nil_of_noSection
    (h : host.config.result = .error (.error (.settings .noSection))) :
    (∃ workspace, Workspace.ofRun host.describe = .ok workspace ∧ workspace.sections = []) ∧
      host.config.lines = [] := by
  have hrun := host.configRun
  generalize host.config = script at hrun h ⊢
  cases hrun with
  | stopped hne => exact absurd (Except.error.inj h) hne
  | unset hworkspace hsections => exact ⟨⟨_, hworkspace, hsections⟩, rfl⟩
  | unresolved hne => exact absurd (Except.error.inj h) hne
  | configured _ _ _ => cases h

theorem isWatch_of_mem_watchLines {line : String} {manifests : List Path}
    (h : line ∈ watchLines manifests topLevel) : Directive.IsWatch line := by
  rcases List.mem_append.mp h with hfile | hlast
  · obtain ⟨p, -, rfl⟩ := List.mem_map.mp hfile
    exact Directive.isWatch_rerunOnFile p
  · rw [List.mem_cons, List.mem_singleton] at hlast
    rcases hlast with rfl | rfl
    · exact Directive.isWatch_rerunOnFile _
    · exact Directive.isWatch_rerunOnVariable _

theorem isWatch_of_mem_config_lines {line : String} (h : line ∈ host.config.lines) :
    Directive.IsWatch line := by
  have hrun := host.configRun
  generalize host.config = script at hrun h
  cases hrun with
  | stopped _ => cases h
  | unset _ _ => cases h
  | unresolved _ => exact isWatch_of_mem_watchLines h
  | configured _ _ _ => exact isWatch_of_mem_watchLines h

/-- The build of a workspace without packages that has this metadata table. -/
def hostOf (metadata : String) : BuildHost where
  environment :=
    ⟨[("OUT_DIR", "/w/target"), ("CARGO_CFG_TARGET_ARCH", "x86_64"), ("WDKContentRoot", "/w")]⟩
  tree := ⟨.directory [("w", .directory [("Cargo.lock", .file []), ("target", .directory [])])], []⟩
  describe :=
    { succeeded := true
      output := "\x7b\"packages\":[],\"workspace_members\":[],\"workspace_root\":\"/w\"," ++
        "\"target_directory\":\"/w/target\",\"version\":1,\"metadata\":" ++ metadata ++ "\x7d"
      errors := "" }

/-- A build whose workspace names the user-mode framework. -/
def umdfHost : BuildHost :=
  hostOf "\x7b\"wdk-surface\":\x7b\"build-context\":\"umdf\"\x7d\x7d"

def umdfConfig : Config where
  root := ⟨"/w"⟩
  architecture := .amd64
  context := .umdf

theorem config_umdfHost : umdfHost.config.result = .ok umdfConfig := by
  have h : umdfHost.config.result.toOption = some umdfConfig := by decide +kernel
  cases hresult : umdfHost.config.result with
  | error failure => rw [hresult] at h; cases h
  | ok config => rw [hresult] at h; exact congrArg Except.ok (Option.some.inj h)

/-! ## The build of a library -/

namespace BuildStep

@[simp] theorem line?_print (line : String) : (print line).line? = some line := rfl
@[simp] theorem config?_print (line : String) : (print line).config? = none := rfl
@[simp] theorem config?_handOn (config : Config) : (handOn config).config? = some config := rfl

theorem filterMap_line?_print (lines : List String) : (lines.map print).filterMap line? = lines := by
  simp [List.filterMap_map, Function.comp_def]

theorem filterMap_config?_print (lines : List String) :
    (lines.map print).filterMap config? = [] := by
  simp [List.filterMap_map, Function.comp_def]

end BuildStep

section
variable {ε : Type} {host : BuildHost} {wrap : ConfigError → ε} {next : Config → Script ε Unit}
variable {config : Config}

/-- A configuration that is read is consistent, so that it is handed on. -/
theorem configureThen_of_ok (h : host.config.result = .ok config) :
    host.configureThen wrap next =
      ⟨(host.config.lines ++ (Directive.declarations ++ config.settingLines)).map .print ++
          .handOn config :: (next config).lines.map .print, (next config).result⟩ := by
  obtain ⟨-, -, -, -, -, hvalid⟩ := exists_watchLines_of_ok h
  simp only [configureThen, h, Config.configureLibrary_of_validate hvalid]

theorem configureThen_of_noSection
    (h : host.config.result = .error (.error (.settings .noSection))) :
    host.configureThen wrap next = ⟨Directive.declarations.map .print, .ok ()⟩ := by
  obtain ⟨-, hlines⟩ := exists_sections_eq_nil_of_noSection h
  simp only [configureThen, h, hlines, List.nil_append]

theorem configureThen_of_failure {failure : Failure ConfigError}
    (h : host.config.result = .error failure) (hne : failure ≠ .error (.settings .noSection)) :
    host.configureThen wrap next =
      ⟨host.config.lines.map .print, .error (failure.map wrap)⟩ := by
  simp only [configureThen, h]

theorem lines_output (b : LibraryBuild ε) :
    Text.lines b.output = b.lines.flatMap Directive.read := by
  rw [LibraryBuild.output]
  induction b.lines with
  | nil => rfl
  | cons line lines ih =>
    rw [List.map_cons, String.join_cons, Text.lines_append_lineFeed, ih, List.flatMap_cons]
    rfl

/-- What the build of a library does, as its configuration comes out. A line is what one print
writes. -/
structure IsAllOrNothing (host : BuildHost) (wrap : ConfigError → ε)
    (next : Config → Script ε Unit) (build : LibraryBuild ε) : Prop where
  /-- A configuration that is read is handed on, once, and nothing else is. -/
  configs_eq : build.configs = host.config.result.toOption.toList
  /-- All settings are declared and set before the configuration is handed on, and what it is handed
  to decides on the end. -/
  configured : ∀ config, host.config.result = .ok config →
    (∃ earlier : List String,
      (∀ line ∈ earlier, Directive.IsWatch line ∧ ¬ Directive.IsDeclaration line ∧
        ¬ Directive.IsAssignment line) ∧
      build.steps = (earlier ++ (Directive.declarations ++ config.settingLines)).map .print ++
        .handOn config :: (next config).lines.map .print) ∧
    build.result = (next config).result
  /-- Without a section the settings are declared, and none of them is set. -/
  unset : host.config.result = .error (.error (.settings .noSection)) →
    build.steps = Directive.declarations.map .print ∧
    (∀ line ∈ build.lines, ¬ Directive.IsAssignment line) ∧ build.result = .ok ()
  /-- On any other failure no setting is declared or set. -/
  failed : ∀ failure, host.config.result = .error failure →
    failure ≠ .error (.settings .noSection) →
    (∀ line ∈ build.lines, Directive.IsWatch line ∧ ¬ Directive.IsDeclaration line ∧
      ¬ Directive.IsAssignment line) ∧
    build.result = .error (failure.map wrap)
  /-- The output is read print by print, and lines about settings are read as they are printed. -/
  lines_output : Text.lines build.output = build.lines.flatMap Directive.read ∧
    ∀ config : Config, ∀ line ∈ Directive.declarations ++ config.settingLines,
      Directive.read line = [line]
  /-- The line that watches a manifest is broken where the path has a line feed: what is behind it is
  read as lines of its own, whatever they say. -/
  read_rerunOnFile : ∀ front back : String,
    Directive.read (Directive.rerunOnFile ⟨front ++ "\n" ++ back⟩) =
      Directive.read (Directive.rerunOnFile ⟨front⟩) ++ Directive.read back

theorem isWatch_and_not_of_mem_config_lines {line : String} (h : line ∈ host.config.lines) :
    Directive.IsWatch line ∧ ¬ Directive.IsDeclaration line ∧ ¬ Directive.IsAssignment line :=
  have hwatch := isWatch_of_mem_config_lines h
  ⟨hwatch, hwatch.not_isDeclaration, hwatch.not_isAssignment⟩

theorem configs_configureThen : (host.configureThen wrap next).configs =
    host.config.result.toOption.toList := by
  cases hresult : host.config.result with
  | ok config =>
    rw [configureThen_of_ok hresult, LibraryBuild.configs, List.filterMap_append,
      List.filterMap_cons_some (BuildStep.config?_handOn config),
      BuildStep.filterMap_config?_print, BuildStep.filterMap_config?_print]
    rfl
  | error failure =>
    by_cases hne : failure = .error (.settings .noSection)
    · rw [hne] at hresult
      rw [configureThen_of_noSection hresult]
      exact BuildStep.filterMap_config?_print _
    · rw [configureThen_of_failure hresult hne]
      exact BuildStep.filterMap_config?_print _

/-- **The settings of a build are declared and set altogether or not at all**, and only a build that
is configured goes on. -/
theorem configureThen_isAllOrNothing (host : BuildHost) (wrap : ConfigError → ε)
    (next : Config → Script ε Unit) :
    host.IsAllOrNothing wrap next (host.configureThen wrap next) where
  configs_eq := configs_configureThen
  configured config h := by
    rw [configureThen_of_ok h]
    exact ⟨⟨_, fun _ => isWatch_and_not_of_mem_config_lines, rfl⟩, rfl⟩
  unset h := by
    rw [configureThen_of_noSection h]
    refine ⟨rfl, fun line hline => ?_, rfl⟩
    rw [LibraryBuild.lines, BuildStep.filterMap_line?_print] at hline
    exact (Directive.isDeclaration_of_mem hline).not_isAssignment
  failed failure h hne := by
    rw [configureThen_of_failure h hne]
    refine ⟨fun line hline => ?_, rfl⟩
    rw [LibraryBuild.lines, BuildStep.filterMap_line?_print] at hline
    exact isWatch_and_not_of_mem_config_lines hline
  lines_output := by
    refine ⟨lines_output _, fun config line hline => Directive.read_of_isLine ?_⟩
    rcases List.mem_append.mp hline with hline | hline
    · exact Directive.isLine_of_mem_declarations hline
    · exact Directive.isLine_of_mem_settingLines hline
  read_rerunOnFile := Directive.read_rerunOnFile_of_lineFeed

end

def idle (_ : Config) : Script ConfigError Unit :=
  .ofResult (.ok ())

theorem configs_umdfHost : (umdfHost.configureThen id idle).configs = [umdfConfig] ∧
    (umdfHost.configureThen id idle).result = .ok () := by
  obtain ⟨hconfigs, hconfigured, -, -, -, -⟩ := configureThen_isAllOrNothing umdfHost id idle
  rw [config_umdfHost] at hconfigs
  exact ⟨hconfigs, (hconfigured umdfConfig config_umdfHost).2⟩

/-! ## Watched manifests -/

section
variable {ε : Type} {host : BuildHost} {wrap : ConfigError → ε} {next : Config → Script ε Unit}
variable {config : Config}

/-- The build asks for another run when a manifest of the workspace changes or the override of the
context does. Of two manifests that are the same path in other words one is named. -/
def LibraryBuild.Watches (build : LibraryBuild ε) (w : Workspace) : Prop :=
  (∀ p ∈ w.manifestPaths, ∃ q ∈ w.manifestPaths, q.components = p.components ∧
    Directive.rerunOnFile q ∈ build.lines) ∧
  Directive.rerunOnVariable Environment.contextVariable ∈ build.lines

theorem watches_of_watchLines_subset {build : LibraryBuild ε} {w : Workspace} {topLevel : Path}
    (h : watchLines w.manifests topLevel ⊆ build.lines) : build.Watches w := by
  refine ⟨fun p hp => ?_, h (by simp [watchLines])⟩
  obtain ⟨q, hq, hpath, heq⟩ := Workspace.exists_mem_manifests hp
  exact ⟨q, hpath, heq, h (List.mem_append_left _ (List.mem_map_of_mem hq))⟩

/-- What is printed while the configuration is read stays printed. -/
theorem lines_config_subset (h : host.config.result = .ok config) :
    host.config.lines ⊆ (host.configureThen wrap next).lines := by
  rw [configureThen_of_ok h, LibraryBuild.lines, List.filterMap_append,
    BuildStep.filterMap_line?_print, List.append_assoc]
  exact List.subset_append_left _ _

/-- **A build that ends well watches the manifests exactly if there is a section of settings.** -/
theorem watches_iff (h : (host.configureThen wrap next).result = .ok ()) :
    ∃ workspace, Workspace.ofRun host.describe = .ok workspace ∧
      ((host.configureThen wrap next).Watches workspace ↔ workspace.sections ≠ []) := by
  cases hresult : host.config.result with
  | ok config =>
    obtain ⟨workspace, topLevel, hworkspace, hsections, hlines, -⟩ :=
      exists_watchLines_of_ok hresult
    have hsubset : host.config.lines ⊆ (host.configureThen wrap next).lines :=
      lines_config_subset hresult
    rw [hlines] at hsubset
    exact ⟨workspace, hworkspace, iff_of_true (watches_of_watchLines_subset hsubset) hsections⟩
  | error failure =>
    by_cases hne : failure = .error (.settings .noSection)
    · rw [hne] at hresult
      obtain ⟨⟨workspace, hworkspace, hsections⟩, -⟩ :=
        exists_sections_eq_nil_of_noSection hresult
      refine ⟨workspace, hworkspace, iff_of_false (fun hwatches => ?_) (· hsections)⟩
      -- Only declarations are printed, and none of them asks for another run.
      have hvariable := hwatches.2
      rw [configureThen_of_noSection hresult, LibraryBuild.lines,
        BuildStep.filterMap_line?_print] at hvariable
      exact (Directive.isWatch_rerunOnVariable _).not_isDeclaration
        (Directive.isDeclaration_of_mem hvariable)
    · rw [configureThen_of_failure hresult hne] at h
      cases h

end

theorem watches_umdfHost : (umdfHost.configureThen id idle).result = .ok () ∧
    ∃ workspace, Workspace.ofRun umdfHost.describe = .ok workspace ∧
      (umdfHost.configureThen id idle).Watches workspace := by
  have hok : (umdfHost.configureThen id idle).result = .ok () := by
    rw [configureThen_of_ok config_umdfHost]
    rfl
  obtain ⟨workspace, -, hworkspace, hsections, -⟩ := exists_watchLines_of_ok config_umdfHost
  obtain ⟨workspace', hworkspace', hiff⟩ := watches_iff hok
  obtain rfl : workspace = workspace' := Except.ok.inj (hworkspace.symm.trans hworkspace')
  exact ⟨hok, workspace, hworkspace, hiff.mpr hsections⟩

def bareHost : BuildHost :=
  hostOf "null"

/-- Not every build that ends well watches the manifests that it read. -/
theorem not_forall_watches : ¬ ∀ host : BuildHost, (host.configureThen id idle).result = .ok () →
    ∃ workspace, Workspace.ofRun host.describe = .ok workspace ∧
      (host.configureThen id idle).Watches workspace := by
  intro hall
  have hbare : (bareHost.configureThen id idle).result.toOption = some () ∧
      Directive.rerunOnVariable Environment.contextVariable ∉
        (bareHost.configureThen id idle).lines := by decide +kernel
  have hok : (bareHost.configureThen id idle).result = .ok () := by
    cases hresult : (bareHost.configureThen id idle).result with
    | error failure => rw [hresult] at hbare; cases hbare.1
    | ok done => rfl
  obtain ⟨workspace, -, hwatches⟩ := hall bareHost hok
  exact hbare.2 hwatches.2

end BuildHost

end KitSurface
