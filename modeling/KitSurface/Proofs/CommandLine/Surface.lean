import KitSurface.Proofs.CommandLine.Reading
import KitSurface.Proofs.Serialized.OptionsTable
/-!
The command line reaches every surface. Options are asked for by a flag for each toggle that is not
at its default, and by the version (`Options.settings`), and what is gathered from these arguments
are the options (`Given.surfaceOptions_eq`). The arguments of a command can be written in many ways
and in any order (`AreWritten`), and what each of them says is gathered (`exists_read`). Main
statement: however they are written, the commands that list a surface and that compare two of them
are about exactly the contexts and options that are asked for (`parse_reaches_surface`).
-/

namespace KitSurface

namespace Options

def changedToggles (o : Options) : List Toggle :=
  Toggle.all.filter fun t => o.isOn t != t.default

def settings (o : Options) : List CommandLine.Setting :=
  .version o.spbCxVersion :: o.changedToggles.map .toggle

variable {o : Options} {t : Toggle}

theorem mem_changedToggles_iff : t ∈ o.changedToggles ↔ o.isOn t ≠ t.default := by
  simp [changedToggles, t.mem_all]

/-- Toggles that are set in turn are all set in the end, and no others. -/
theorem isOn_foldl_set (t : Toggle) : ∀ (ts : List Toggle) (o : Options),
    (ts.foldl (fun o u => o.set u (!u.default)) o).isOn t = if t ∈ ts then !t.default else o.isOn t
  | [], _ => rfl
  | u :: ts, o => by
    rw [List.foldl_cons, isOn_foldl_set t ts, isOn_set]
    by_cases hts : t ∈ ts
    · rw [if_pos hts, if_pos (List.mem_cons_of_mem u hts)]
    · rw [if_neg hts]
      by_cases htu : t = u
      · rw [if_pos htu, if_pos (htu ▸ List.mem_cons_self), htu]
      · rw [if_neg htu, if_neg (fun hmem => (List.mem_cons.mp hmem).elim htu hts)]

end Options

namespace CommandLine

namespace Given

variable {g : Given} {o : Options}

/-- The options that are gathered: toggles away from their defaults, and the version. -/
theorem surfaceOptions_eq (hversion : g.spbCxVersion = some o.spbCxVersion)
    (htoggles : ∀ t, t ∈ g.toggles ↔ o.isOn t ≠ t.default) : g.surfaceOptions = o := by
  have hoptions : g.surfaceOptions =
      { g.toggles.foldl (fun o t => o.set t (!t.default)) Options.default with
        spbCxVersion := o.spbCxVersion } := by
    rw [surfaceOptions, hversion]
  rw [hoptions]
  refine Options.ext_isOn (fun t => ?_) rfl
  have hon := Options.isOn_foldl_set t g.toggles Options.default
  rw [Options.isOn_default] at hon
  calc _ = (g.toggles.foldl (fun o t => o.set t (!t.default)) Options.default).isOn t := by
        cases t <;> rfl
    _ = if t ∈ g.toggles then !t.default else t.default := hon
    _ = o.isOn t := by
        split
        · next hmem => exact (Bool.eq_not_of_ne ((htoggles t).mp hmem)).symm
        · next hmem => exact (not_not.mp (mt (htoggles t).mpr hmem)).symm

theorem Gathers.mem_toggles_iff {xs : List Setting} (h : g.Gathers xs) (t : Toggle) :
    t ∈ g.toggles ↔ .toggle t ∈ xs := by
  have hargument : Argument.toggle t ∈ xs.map Setting.argument ↔ .toggle t ∈ xs := by
    constructor
    · intro hmem
      obtain ⟨x, hx, heq⟩ := List.mem_map.mp hmem
      cases x <;> cases heq
      exact hx
    · exact List.mem_map_of_mem
  have hhas : g.toggles.contains t = decide (Argument.toggle t ∈ xs.map Setting.argument) :=
    h.has (.toggle t)
  rw [List.contains_eq_mem, decide_eq_decide] at hhas
  exact hhas.trans hargument

/-- The arguments that ask for options are gathered as these options, unless there are other ones
for toggles. -/
theorem Gathers.surfaceOptions_eq {front : List Setting} (h : g.Gathers (front ++ o.settings))
    (hfront : ∀ t, .toggle t ∉ front) : g.surfaceOptions = o := by
  have hversion : g.Holds (.version o.spbCxVersion) :=
    h.holds _ (List.mem_append_right front List.mem_cons_self)
  refine Given.surfaceOptions_eq hversion fun t => ?_
  rw [h.mem_toggles_iff, List.mem_append, or_iff_right (hfront t), ← Options.mem_changedToggles_iff]
  simp [Options.settings]

end Given

/-! ## Commands -/

variable {c first : BuildContext} {o : Options} {g : Given} {n : CommandName} {command : Command}
  {words : List String}

namespace CommandName

theorem hasDistinctNames_signature (n : CommandName) : n.signature.HasDistinctNames := by
  cases n <;> decide +kernel

theorem name_mem_subcommands (n : CommandName) : n.name ∈ headSignature.subcommands := by
  cases n <;> decide +kernel

theorem find?_name (n : CommandName) : (all.find? fun m => m.name = n.name) = some n := by
  cases n <;> decide +kernel

end CommandName

theorem parse_eq_ok (hread : n.signature.read words = .ok g) (hcounts : g.counts = [])
    (hcommand : n.command? g = some command) : parse (n.name :: words) = .ok ⟨command, .error⟩ := by
  have hhead : headSignature.readHead {} (n.name :: words) = .ok ({}, some (n.name, words)) := by
    rw [Signature.readHead, if_pos]
    simpa using n.name_mem_subcommands
  have hverbosity : verbosity {} g = .error := by
    unfold verbosity Given.count?
    rw [hcounts]
    rfl
  have hcomplete : n.command g = .ok command := by
    rw [CommandName.command, hcommand]
  refine bind_eq_ok_iff.mpr ⟨_, hhead, ?_⟩
  dsimp only
  rw [n.find?_name]
  refine bind_eq_ok_iff.mpr ⟨g, hread, bind_eq_ok_iff.mpr ⟨(), rfl, ?_⟩⟩
  exact bind_eq_ok_iff.mpr ⟨command, hcomplete, by rw [hverbosity]; rfl⟩

/-! ## Surfaces -/

theorem argument_mem_surfaceOptions {x : Setting} (h : x ∈ o.settings) :
    x.argument ∈ CommandName.surfaceOptions ∧ x.isPositional = false := by
  rcases List.mem_cons.mp h with rfl | h
  · exact ⟨List.mem_append_right _ List.mem_cons_self, rfl⟩
  · obtain ⟨t, -, rfl⟩ := List.mem_map.mp h
    exact ⟨List.mem_append_left _ (List.mem_map_of_mem t.mem_all), rfl⟩

theorem nodup_argument_settings (o : Options) : (o.settings.map Setting.argument).Nodup := by
  have hall : Toggle.all.Nodup := by decide
  have hinjective : Function.Injective Argument.toggle := fun _ _ h => Argument.toggle.inj h
  rw [Options.settings, List.map_cons, List.map_map]
  refine List.nodup_cons.mpr ⟨by simp [Setting.argument], ?_⟩
  exact (hall.filter _).map hinjective

theorem exists_read_settings {front : List Setting} {arguments : List Argument}
    (hfront : front.map Setting.argument = arguments) (htakes : n.signature.Takes 0 front)
    (hoptions : CommandName.surfaceOptions ⊆ n.signature.options) (hnodup : arguments.Nodup)
    (hnew : ∀ a ∈ arguments, a ∉ CommandName.surfaceOptions)
    (hrequired : n.signature.required ⊆ arguments)
    (hwords : AreWritten (front ++ o.settings) words) :
    ∃ g, n.signature.read words = .ok g ∧ g.Gathers (front ++ o.settings) ∧
      g.surfaceOptions = o := by
  have hpositional : o.settings.filter Setting.isPositional = [] := by
    rw [List.filter_eq_nil_iff]
    intro x hx
    rw [(argument_mem_surfaceOptions hx).2]
    decide
  have htakes' : n.signature.Takes 0 (front ++ o.settings) := by
    refine ⟨List.forall_mem_append.mpr ⟨htakes.named, fun x hx _ => ?_⟩, ?_⟩
    · exact hoptions (argument_mem_surfaceOptions hx).1
    · rw [List.filter_append, hpositional, List.append_nil]
      exact htakes.positional
  have hnodup' : ((front ++ o.settings).map Setting.argument).Nodup := by
    rw [List.map_append, hfront]
    refine hnodup.append (nodup_argument_settings o) fun a ha hsettings => hnew a ha ?_
    obtain ⟨x, hx, rfl⟩ := List.mem_map.mp hsettings
    exact (argument_mem_surfaceOptions hx).1
  have hrequired' : n.signature.required ⊆ (front ++ o.settings).map Setting.argument := by
    rw [List.map_append, hfront]
    exact List.subset_append_of_subset_left _ hrequired
  obtain ⟨g, hread, hgathers⟩ := Signature.exists_read n.hasDistinctNames_signature htakes' hnodup'
    hrequired' hwords
  refine ⟨g, hread, hgathers, hgathers.surfaceOptions_eq fun t ht => ?_⟩
  have ht' : Argument.toggle t ∈ arguments := hfront ▸ List.mem_map_of_mem ht
  exact hnew _ ht' (List.mem_append_left _ (List.mem_map_of_mem t.mem_all))

theorem parse_list (hwords : AreWritten (.context c :: o.settings) words) :
    parse ("list" :: words) = .ok ⟨.list ⟨c, o⟩, .error⟩ := by
  have hfront : [Setting.context c].map Setting.argument = [.context] := rfl
  have htakes : CommandName.list.signature.Takes 0 [.context c] := by
    refine ⟨fun x hx _ => ?_, List.nil_prefix⟩
    rw [List.mem_singleton.mp hx]
    exact List.mem_cons_self
  obtain ⟨g, hread, hgathers, hoptions⟩ := exists_read_settings hfront htakes (by decide) (by decide)
    (by decide) (by decide) hwords
  have hcontext : g.context = some c := hgathers.holds (.context c) List.mem_cons_self
  have hcommand : CommandName.list.command? g = some (.list ⟨c, o⟩) := by
    rw [CommandName.command?, hcontext, hoptions]
    rfl
  exact parse_eq_ok hread hgathers.counts hcommand

/-- A difference from a surface of default options is asked for by both contexts and the options. -/
theorem parse_diff (hwords : AreWritten (.first first :: .second c :: o.settings) words) :
    parse ("diff" :: words) = .ok ⟨.diff ⟨first, .default⟩ ⟨c, o⟩, .error⟩ := by
  have hfront : [Setting.first first, .second c].map Setting.argument =
      [.firstContext, .secondContext] := rfl
  have htakes : CommandName.diff.signature.Takes 0 [.first first, .second c] := by
    refine ⟨fun x hx hnamed => ?_, [], rfl⟩
    rcases List.mem_cons.mp hx with rfl | hx
    · cases hnamed
    · rw [List.mem_singleton.mp hx] at hnamed
      cases hnamed
  obtain ⟨g, hread, hgathers, hoptions⟩ := exists_read_settings hfront htakes (by decide) (by decide)
    (by decide) (by decide) hwords
  have hfirst : g.firstContext = some first := hgathers.holds (.first first) List.mem_cons_self
  have hsecond : g.secondContext = some c :=
    hgathers.holds (.second c) (List.mem_cons_of_mem _ List.mem_cons_self)
  have hcommand : CommandName.diff.command? g = some (.diff ⟨first, .default⟩ ⟨c, o⟩) := by
    rw [CommandName.command?, hfirst, hsecond, hoptions]
    rfl
  exact parse_eq_ok hread hgathers.counts hcommand

/-- **The command line reaches every surface.** In whatever way and order the arguments for a context
and options are written, the surface of exactly these is listed, and it is compared with the one of
default options in another context; and they can be written. -/
theorem parse_reaches_surface (c : BuildContext) (o : Options) (env : Environment)
    (tree : FileTree) :
    (∀ words, AreWritten (.context c :: o.settings) words →
      ∃ asked, parse ("list" :: words) = .ok asked ∧ asked.command = .list ⟨c, o⟩ ∧
        asked.command.run env tree = .ok ⟨(Surface.mk c o).listing, tree⟩) ∧
    (∀ first words, AreWritten (.first first :: .second c :: o.settings) words →
      ∃ asked, parse ("diff" :: words) = .ok asked ∧
        asked.command = .diff ⟨first, .default⟩ ⟨c, o⟩ ∧
        asked.command.run env tree =
          .ok ⟨Command.differenceText ⟨first, .default⟩ ⟨c, o⟩, tree⟩) ∧
    ∀ xs, ∃ words, AreWritten xs words :=
  ⟨fun _ hwords => ⟨_, parse_list hwords, rfl, rfl⟩,
    fun _ _ hwords => ⟨_, parse_diff hwords, rfl, rfl⟩, exists_areWritten⟩

/-- Options with a toggle on, one off, and an older version. -/
def narrowed : Options :=
  { hidExtendedHeaders := true, storage := false, spbCxVersion := ⟨1, 0⟩ }

/-- Arguments out of order: the version is in one word or two, and the contexts are spelled with
blanks and capitals. -/
theorem parse_reaches_surface_narrowed :
    AreWritten (.context .kernelMode :: narrowed.settings)
      ["--no-storage", "--spb-cx-version=1.0", "--context", "\tKM ", "--hid-extended-headers"] ∧
    AreWritten (.first .userMode :: .second .kernelMode :: narrowed.settings)
      ["--no-storage", " User", "--spb-cx-version", "1.0", "\tKM ", "--hid-extended-headers"] ∧
    (∃ asked, parse ["list", "--no-storage", "--spb-cx-version=1.0", "--context", "\tKM ",
        "--hid-extended-headers"] = .ok asked ∧ asked.command = .list ⟨.kernelMode, narrowed⟩ ∧
      asked.command.run ⟨[]⟩ ⟨.directory [], []⟩ =
        .ok ⟨(Surface.mk .kernelMode narrowed).listing, ⟨.directory [], []⟩⟩) ∧
    ∃ asked, parse ["diff", "--no-storage", " User", "--spb-cx-version", "1.0", "\tKM ",
        "--hid-extended-headers"] = .ok asked ∧
      asked.command = .diff ⟨.userMode, .default⟩ ⟨.kernelMode, narrowed⟩ ∧
      asked.command.run ⟨[]⟩ ⟨.directory [], []⟩ =
        .ok ⟨Command.differenceText ⟨.userMode, .default⟩ ⟨.kernelMode, narrowed⟩,
          ⟨.directory [], []⟩⟩ := by
  have hversion : (Setting.version ⟨1, 0⟩).IsReadFrom "1.0" := by rfl
  have hkernel : BuildContext.parse "\tKM " = .ok .kernelMode := by
    rw [BuildContext.parse, show BuildContext.ofSpelling? ((Text.trim "\tKM ").map Char.toLower) =
      some .kernelMode by decide +kernel]
  have huser : BuildContext.parse " User" = .ok .userMode := by
    rw [BuildContext.parse, show BuildContext.ofSpelling? ((Text.trim " User").map Char.toLower) =
      some .userMode by decide +kernel]
  have hversionName : (Setting.version ⟨1, 0⟩).argument.long? = some "spb-cx-version" := rfl
  have hcontextName : (Setting.context .kernelMode).argument.long? = some "context" := rfl
  have hlist : AreWritten (.context .kernelMode :: narrowed.settings)
      ["--no-storage", "--spb-cx-version=1.0", "--context", "\tKM ", "--hid-extended-headers"] :=
    ⟨[.toggle .storage, .version ⟨1, 0⟩, .context .kernelMode, .toggle .hidExtendedHeaders],
      [["--no-storage"], ["--spb-cx-version=1.0"], ["--context", "\tKM "],
        ["--hid-extended-headers"]], by decide, by decide,
      .cons (.flag .storage) (.cons (.joined hversionName hversion) (.cons
        (.separate hcontextName hkernel) (.cons (.flag .hidExtendedHeaders) .nil))), rfl⟩
  have hdiff : AreWritten (.first .userMode :: .second .kernelMode :: narrowed.settings)
      ["--no-storage", " User", "--spb-cx-version", "1.0", "\tKM ", "--hid-extended-headers"] :=
    ⟨[.toggle .storage, .first .userMode, .version ⟨1, 0⟩, .second .kernelMode,
        .toggle .hidExtendedHeaders],
      [["--no-storage"], [" User"], ["--spb-cx-version", "1.0"], ["\tKM "],
        ["--hid-extended-headers"]], by decide, by decide,
      .cons (.flag .storage) (.cons (.plain rfl huser) (.cons (.separate hversionName hversion)
        (.cons (.plain rfl hkernel) (.cons (.flag .hidExtendedHeaders) .nil)))), rfl⟩
  obtain ⟨hlists, hdiffs, -⟩ :=
    parse_reaches_surface .kernelMode narrowed ⟨[]⟩ ⟨.directory [], []⟩
  exact ⟨hlist, hdiff, hlists _ hlist, hdiffs _ _ hdiff⟩

end CommandLine

end KitSurface
