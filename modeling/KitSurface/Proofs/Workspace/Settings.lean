import KitSurface.Proofs.Traversal
import KitSurface.Workspace.Settings
import Mathlib.Data.List.Perm.Basic
/-!
The settings that a workspace gives. Its sections are the tables of its packages that are not empty
and the table of its own (`contents`). A section that cannot be read decides, and of several such
sections the first one. Otherwise only the values count that the sections hold, not how many
sections hold them nor which (`sameOutcome_of_contents`). Main statement: a workspace gives
settings exactly if all its sections hold them, and it makes no difference which package has which
section, or whether the workspace has it (`settings_outcome`).
-/

namespace KitSurface

/-! ## Sections of a metadata table -/

namespace Json

/-- The section of settings in a metadata table. A table that has null for it has none. -/
def section? (metadata : Json) : Option Json :=
  match metadata.get? Package.sectionKey with
  | none | some .null => none
  | some content => some content

/-- The value is an object without members. -/
def isEmptyObject : Json → Bool
  | object [] => true
  | _ => false

end Json

theorem Package.content_section? (p : Package) : p.section?.map (·.content) =
    p.metadata.section?.filter fun content => !content.isEmptyObject := by
  unfold section? Json.section?
  split
  · next h => rw [h]; rfl
  · next h => rw [h]; rfl
  · next h => rw [h]; rfl
  · next content hnull hempty h =>
    rw [h]
    have hkeep : content.isEmptyObject = false := by
      unfold Json.isEmptyObject
      split
      · exact absurd rfl hempty
      · rfl
    simp [Option.filter, hkeep]

theorem Workspace.content_section? (w : Workspace) :
    w.section?.map (·.content) = w.metadata.section? := by
  unfold Workspace.section? Json.section?
  cases w.metadata.get? Package.sectionKey with
  | none => rfl
  | some content => cases content <;> rfl

/-! ## Reading a section -/

namespace Section

variable {x : Section} {v : Settings}

theorem read_eq_ok_iff : x.read = .ok v ↔ Settings.ofJson x.content = .ok v := by
  unfold read
  cases Settings.ofJson x.content <;> simp [Except.mapError]

theorem read_eq_error_iff {error : SettingsError} : x.read = .error error ↔
    ∃ cause, Settings.ofJson x.content = .error cause ∧ error = .unreadable x.source cause := by
  unfold read
  cases Settings.ofJson x.content <;> simp [Except.mapError, eq_comm]

end Section

namespace Workspace

variable {w w' : Workspace} {v : Settings}

/-- What the sections of a workspace hold: the tables of the packages but for empty ones, and then
the table of the workspace. -/
def contents (w : Workspace) : List Json :=
  (w.packages.filterMap fun p => p.metadata.section?.filter fun content => !content.isEmptyObject) ++
    w.metadata.section?.toList

/-- Some section holds the settings. -/
def Holds (w : Workspace) (v : Settings) : Prop :=
  ∃ content ∈ w.contents, Settings.ofJson content = .ok v

/-- Every section holds settings. -/
def IsReadable (w : Workspace) : Prop :=
  ∀ content ∈ w.contents, ∃ v, Settings.ofJson content = .ok v

theorem map_content_sections (w : Workspace) : w.sections.map (·.content) = w.contents := by
  rw [sections, contents, List.map_append, List.map_filterMap, ← content_section?,
    Option.toList_map]
  simp only [Package.content_section?]

/-! ## The outcome -/

/-- What a workspace gives whose sections hold these distinct settings. -/
def outcomeOf : List Settings → Except SettingsError Settings
  | [] => .error .noSection
  | [s] => .ok s
  | several => .error (.severalSettings several)

/-- Two outcomes are the same, whatever the order in which several settings are reported. -/
def SameOutcome (r r' : Except SettingsError Settings) : Prop :=
  r = r' ∨ ∃ vs vs', r = .error (.severalSettings vs) ∧ r' = .error (.severalSettings vs') ∧
    vs.Perm vs'

/-- The settings that an outcome reports. -/
def reported : Except SettingsError Settings → List Settings
  | .ok s => [s]
  | .error (.severalSettings vs) => vs
  | .error _ => []

theorem reported_outcomeOf : ∀ vs : List Settings, reported (outcomeOf vs) = vs
  | [] => rfl
  | [_] => rfl
  | _ :: _ :: _ => rfl

theorem SameOutcome.perm_reported {r r' : Except SettingsError Settings} (h : SameOutcome r r') :
    (reported r).Perm (reported r') := by
  rcases h with rfl | ⟨vs, vs', rfl, rfl, hperm⟩
  · exact List.Perm.refl _
  · exact hperm

theorem outcomeOf_eq_noSection_iff {vs : List Settings} :
    outcomeOf vs = .error .noSection ↔ vs = [] := by
  match vs with
  | [] => simp [outcomeOf]
  | [s] => simp [outcomeOf]
  | a :: b :: vs => simp [outcomeOf]

theorem outcomeOf_eq_ok_iff {vs : List Settings} {s : Settings} (h : vs.Nodup) :
    outcomeOf vs = .ok s ↔ ∀ v, v ∈ vs ↔ v = s := by
  match vs with
  | [] => simp [outcomeOf]
  | [a] =>
    simp only [outcomeOf, Except.ok.injEq, List.mem_singleton]
    exact ⟨fun he v => he ▸ Iff.rfl, fun hv => (hv a).mp rfl⟩
  | a :: b :: vs =>
    simp only [outcomeOf, reduceCtorEq, false_iff]
    intro hv
    have hab : a = b := ((hv a).mp (by simp)).trans ((hv b).mp (by simp)).symm
    simp [hab] at h

theorem outcomeOf_eq_several_iff {vs us : List Settings} (h : vs.Nodup) :
    outcomeOf vs = .error (.severalSettings us) ↔ us = vs ∧ ∃ u ∈ vs, ∃ v ∈ vs, u ≠ v := by
  match vs with
  | [] => simp [outcomeOf]
  | [a] => simp [outcomeOf]
  | a :: b :: vs =>
    have hab : a ≠ b := by
      intro he
      simp [he] at h
    have htwo : ∃ u ∈ a :: b :: vs, ∃ v ∈ a :: b :: vs, u ≠ v := ⟨a, by simp, b, by simp, hab⟩
    simp only [outcomeOf, Except.error.injEq, SettingsError.severalSettings.injEq, htwo, and_true,
      eq_comm]

theorem settings_eq_bind (w : Workspace) : w.settings =
    (w.sections.mapM Section.read).bind fun values => outcomeOf values.eraseDups :=
  rfl

theorem settings_eq_unreadable_iff_mapM {source : String} {cause : DecodeError} :
    w.settings = .error (.unreadable source cause) ↔
      w.sections.mapM Section.read = .error (.unreadable source cause) := by
  rw [settings_eq_bind]
  cases w.sections.mapM Section.read with
  | error error => simp [Except.bind]
  | ok values =>
    have hne : outcomeOf values.eraseDups ≠ .error (.unreadable source cause) := by
      unfold outcomeOf
      split <;> simp
    simpa [Except.bind] using hne

/-- The first section that cannot be read decides. -/
theorem settings_eq_unreadable_iff {source : String} {cause : DecodeError} :
    w.settings = .error (.unreadable source cause) ↔
      ∃ x, IsFirst (fun x => ∃ cause, Settings.ofJson x.content = .error cause) w.sections x ∧
        x.source = source ∧ Settings.ofJson x.content = .error cause := by
  have hfails : ∀ x : Section, (∃ error, x.read = .error error) ↔
      ∃ cause, Settings.ofJson x.content = .error cause := by
    intro x
    simp only [Section.read_eq_error_iff]
    exact ⟨fun ⟨_, cause, h, _⟩ => ⟨cause, h⟩, fun ⟨cause, h⟩ => ⟨_, cause, h, rfl⟩⟩
  rw [settings_eq_unreadable_iff_mapM, mapM_eq_error_iff]
  simp only [hfails]
  simp only [Section.read_eq_error_iff, SettingsError.unreadable.injEq]
  refine exists_congr fun x => and_congr_right fun _ => ?_
  constructor
  · intro h
    obtain ⟨cause', hcause, rfl, rfl⟩ := h
    exact ⟨rfl, hcause⟩
  · intro h
    exact ⟨cause, h.2, h.1.symm, rfl⟩

theorem mem_iff_holds {values : List Settings} (h : w.sections.mapM Section.read = .ok values)
    (v : Settings) : v ∈ values ↔ w.Holds v := by
  have hvalues := mapM_eq_ok_iff.mp h
  rw [Holds, ← map_content_sections]
  simp only [List.mem_map, exists_exists_and_eq_and, ← Section.read_eq_ok_iff]
  constructor
  · exact fun hv => exists_mem_of_forall₂ hvalues v hv
  · intro hv
    obtain ⟨x, hx, hread⟩ := hv
    obtain ⟨u, hu, hread'⟩ := exists_mem_of_forall₂ hvalues.flip x hx
    rwa [Except.ok.inj (hread.symm.trans hread')]

theorem isReadable_iff : w.IsReadable ↔ ∃ values, w.sections.mapM Section.read = .ok values := by
  rw [IsReadable, ← map_content_sections, List.forall_mem_map]
  simp only [← Section.read_eq_ok_iff]
  constructor
  · intro h
    cases hm : w.sections.mapM Section.read with
    | ok values => exact ⟨values, rfl⟩
    | error error =>
      obtain ⟨x, hfirst, hx⟩ := mapM_eq_error_iff.mp hm
      obtain ⟨v, hv⟩ := h x hfirst.mem
      rw [hx] at hv
      cases hv
  · intro h x hx
    obtain ⟨values, hvalues⟩ := h
    obtain ⟨v, -, hread⟩ := exists_mem_of_forall₂ (mapM_eq_ok_iff.mp hvalues).flip x hx
    exact ⟨v, hread⟩

/-- If all sections can be read, the distinct settings among them decide. -/
theorem IsReadable.exists_settings_eq (h : w.IsReadable) : ∃ vs : List Settings, vs.Nodup ∧
    (∀ v, v ∈ vs ↔ w.Holds v) ∧ w.settings = outcomeOf vs := by
  obtain ⟨values, hvalues⟩ := isReadable_iff.mp h
  refine ⟨values.eraseDups, nodup_eraseDups values, fun v => ?_, ?_⟩
  · rw [List.mem_eraseDups, mem_iff_holds hvalues]
  · rw [settings_eq_bind, hvalues, Except.bind]

theorem sameOutcome_of_perm {vs vs' : List Settings} (h : vs.Perm vs') :
    SameOutcome (outcomeOf vs) (outcomeOf vs') := by
  match vs, vs', h with
  | [], vs', h => rw [List.nil_perm.mp h]; exact Or.inl rfl
  | [s], vs', h => rw [List.singleton_perm.mp h]; exact Or.inl rfl
  | a :: b :: vs, [], h => cases h.eq_nil
  | a :: b :: vs, [s], h => cases List.perm_singleton.mp h
  | a :: b :: vs, a' :: b' :: vs', h => exact Or.inr ⟨_, _, rfl, rfl, h⟩

theorem sameOutcome_of_holds_iff (h : w.IsReadable) (h' : w'.IsReadable)
    (hiff : ∀ v, w'.Holds v ↔ w.Holds v) : SameOutcome w'.settings w.settings := by
  obtain ⟨vs, hnodup, hmem, heq⟩ := h.exists_settings_eq
  obtain ⟨vs', hnodup', hmem', heq'⟩ := h'.exists_settings_eq
  rw [heq, heq']
  refine sameOutcome_of_perm ((List.perm_ext_iff_of_nodup hnodup' hnodup).mpr fun v => ?_)
  rw [hmem', hmem, hiff]

/-- What the sections are called and how often they come does not count. -/
theorem sameOutcome_of_contents (h : w.IsReadable)
    (hiff : ∀ content, content ∈ w'.contents ↔ content ∈ w.contents) :
    SameOutcome w'.settings w.settings := by
  refine sameOutcome_of_holds_iff h (fun content hc => h content ((hiff content).mp hc)) fun v => ?_
  simp only [Holds, hiff]

/-! ## Sections that change hands -/

/-- A package hands its section over to a workspace that has none, and has none afterwards. -/
def HandsOver (w w' : Workspace) : Prop :=
  ∃ front p back bare content, w.packages = front ++ p :: back ∧
    w'.packages = front ++ { p with metadata := bare } :: back ∧
    p.metadata.section? = some content ∧ content.isEmptyObject = false ∧ bare.section? = none ∧
    w.metadata.section? = none ∧ w'.metadata.section? = some content

theorem mem_contents_iff {content : Json} : content ∈ w.contents ↔
    (∃ p ∈ w.packages, p.metadata.section? = some content ∧ content.isEmptyObject = false) ∨
      w.metadata.section? = some content := by
  simp [contents, Option.filter_eq_some_iff]

theorem contents_eq_nil_iff : w.contents = [] ↔ w.sections = [] := by
  rw [← map_content_sections, List.map_eq_nil_iff]

/-- Without a section there are no settings, and this is told from every other outcome. -/
theorem settings_eq_noSection_iff : w.settings = .error .noSection ↔ w.sections = [] := by
  rw [settings_eq_bind]
  cases hm : w.sections.mapM Section.read with
  | error error =>
    obtain ⟨x, hfirst, hx⟩ := mapM_eq_error_iff.mp hm
    obtain ⟨cause, -, rfl⟩ := Section.read_eq_error_iff.mp hx
    have hne : w.sections ≠ [] := List.ne_nil_of_mem hfirst.mem
    simp [Except.bind, hne]
  | ok values =>
    have hlength := (mapM_eq_ok_iff.mp hm).length_eq
    rw [Except.bind, outcomeOf_eq_noSection_iff, List.eq_nil_iff_forall_not_mem]
    simp only [List.mem_eraseDups, ← List.eq_nil_iff_forall_not_mem]
    rw [← List.length_eq_zero_iff, ← List.length_eq_zero_iff, hlength]

theorem exists_mem_append_cons_iff {α : Type} {front back : List α} {a : α} {P : α → Prop} :
    (∃ x ∈ front ++ a :: back, P x) ↔ (∃ x ∈ front ++ back, P x) ∨ P a := by
  simp only [List.mem_append, List.mem_cons, or_and_right, exists_or, exists_eq_left]
  exact ⟨fun h => h.elim (Or.inl ∘ Or.inl) (Or.elim · Or.inr (Or.inl ∘ Or.inr)),
    fun h => h.elim (Or.elim · Or.inl (Or.inr ∘ Or.inr)) (Or.inr ∘ Or.inl)⟩

theorem HandsOver.mem_contents_iff (h : w.HandsOver w') (content : Json) :
    content ∈ w'.contents ↔ content ∈ w.contents := by
  obtain ⟨front, p, back, bare, moved, hpackages, hpackages', hp, hmoved, hbare, hw, hw'⟩ := h
  have hnew : some moved = some content ↔ some moved = some content ∧
      content.isEmptyObject = false :=
    (and_iff_left_of_imp fun he => Option.some.inj he ▸ hmoved).symm
  simp only [Workspace.mem_contents_iff, hpackages, hpackages', exists_mem_append_cons_iff, hp,
    hbare, hw, hw', reduceCtorEq, false_and, or_false]
  rw [← hnew]

/-- **A workspace gives the settings that all its sections hold.** -/
theorem settings_outcome (w : Workspace) :
    w.sections.map (·.content) = w.contents ∧
    (∀ source cause, w.settings = .error (.unreadable source cause) ↔
      ∃ x, IsFirst (fun x => ∃ cause, Settings.ofJson x.content = .error cause) w.sections x ∧
        x.source = source ∧ Settings.ofJson x.content = .error cause) ∧
    (w.IsReadable →
      (∀ s, w.settings = .ok s ↔ ∀ v, w.Holds v ↔ v = s) ∧
      (w.settings = .error .noSection ↔ w.sections = []) ∧
      ((∃ vs, w.settings = .error (.severalSettings vs)) ↔ ∃ u v, w.Holds u ∧ w.Holds v ∧ u ≠ v) ∧
      (∀ vs, w.settings = .error (.severalSettings vs) → vs.Nodup ∧ ∀ v, v ∈ vs ↔ w.Holds v) ∧
      (∀ w' : Workspace, w'.metadata = w.metadata → (∀ p, p ∈ w'.packages ↔ p ∈ w.packages) →
        SameOutcome w'.settings w.settings) ∧
      (∀ w', w.HandsOver w' → SameOutcome w'.settings w.settings)) := by
  refine ⟨w.map_content_sections, fun _ _ => settings_eq_unreadable_iff, fun h => ?_⟩
  obtain ⟨vs, hnodup, hmem, heq⟩ := h.exists_settings_eq
  refine ⟨fun s => ?_, ?_, ?_, fun us hus => ?_, fun w' hmetadata hpackages => ?_, fun w' hw => ?_⟩
  · simp only [heq, outcomeOf_eq_ok_iff hnodup, hmem]
  · rw [heq, outcomeOf_eq_noSection_iff, ← contents_eq_nil_iff, List.eq_nil_iff_forall_not_mem,
      List.eq_nil_iff_forall_not_mem]
    simp only [hmem, Holds, not_exists, not_and]
    constructor
    · intro hno content hc
      obtain ⟨v, hv⟩ := h content hc
      exact hno v content hc hv
    · exact fun hno v content hc => absurd hc (hno content)
  · simp only [heq, outcomeOf_eq_several_iff hnodup, exists_and_right, exists_eq, true_and, hmem]
    simp only [← exists_and_left]
  · rw [heq, outcomeOf_eq_several_iff hnodup] at hus
    rw [hus.1]
    exact ⟨hnodup, hmem⟩
  · refine sameOutcome_of_contents h fun content => ?_
    rw [mem_contents_iff, mem_contents_iff, hmetadata]
    simp only [hpackages]
  · exact sameOutcome_of_contents h hw.mem_contents_iff

/-- A package whose section names the kernel. -/
def kernelPackage : Package :=
  ⟨"driver", ⟨"/w/driver/Cargo.toml"⟩, .object
    [("wdk-surface", .object [("build-context", .string "kernel-mode")])]⟩

/-- A package whose section names the user-mode framework. -/
def umdfPackage : Package :=
  ⟨"filter", ⟨"/w/filter/Cargo.toml"⟩, .object
    [("wdk-surface", .object [("build-context", .string "umdf"), ("options", .object [])])]⟩

def dividedWorkspace : Workspace :=
  ⟨[kernelPackage, umdfPackage], ⟨"/w"⟩, .null⟩

/-- The same sections, one of them in the workspace. -/
def handedOver : Workspace :=
  ⟨[{ kernelPackage with metadata := .null }, umdfPackage], ⟨"/w"⟩, kernelPackage.metadata⟩

/-- Two packages that do not agree, in another order, once more, or through the workspace. -/
theorem settings_outcome_divided : dividedWorkspace.IsReadable ∧
    (∃ vs, dividedWorkspace.settings = .error (.severalSettings vs) ∧ vs.Nodup ∧
      ∀ v, v ∈ vs ↔ dividedWorkspace.Holds v) ∧
    (∀ p, p ∈ [umdfPackage, kernelPackage, umdfPackage] ↔ p ∈ dividedWorkspace.packages) ∧
    SameOutcome
      { dividedWorkspace with packages := [umdfPackage, kernelPackage, umdfPackage] }.settings
      dividedWorkspace.settings ∧
    dividedWorkspace.HandsOver handedOver ∧
    SameOutcome handedOver.settings dividedWorkspace.settings := by
  have hreadable : dividedWorkspace.IsReadable :=
    isReadable_iff.mpr ⟨[{ context := some .kernelMode }, { context := some .umdf }], rfl⟩
  have hpackages : ∀ p, p ∈ [umdfPackage, kernelPackage, umdfPackage] ↔
      p ∈ dividedWorkspace.packages := by
    intro p
    simp only [dividedWorkspace, List.mem_cons, List.not_mem_nil, or_false]
    tauto
  have hhanded : dividedWorkspace.HandsOver handedOver :=
    ⟨[], kernelPackage, [umdfPackage], .null, _, rfl, rfl, rfl, rfl, rfl, rfl, rfl⟩
  obtain ⟨-, -, houtcome⟩ := settings_outcome dividedWorkspace
  obtain ⟨-, -, -, hseveral, hmoved, hhands⟩ := houtcome hreadable
  have hsettings : dividedWorkspace.settings =
      .error (.severalSettings [{ context := some .kernelMode }, { context := some .umdf }]) := rfl
  exact ⟨hreadable, ⟨_, hsettings, hseveral _ hsettings⟩, hpackages, hmoved _ rfl hpackages,
    hhanded, hhands _ hhanded⟩

end Workspace

end KitSurface
