import KitSurface.Proofs.Workspace.Settings
/-!
Empty sections of settings. A package can have one to say that it takes part, and it counts as none
(`section?_eq_none_of_gainsEmptySection`). An empty section of the workspace counts, and holds the
settings in which nothing is set (`holds_of_gainsEmptySection`). Main statement: an empty section of
a package changes nothing, and one of the workspace changes nothing exactly if some section cannot
be read or holds the settings in which nothing is set (`settings_emptySection`).
-/

namespace KitSurface

def Settings.unset : Settings := {}

/-- A table has a section that another one has not, and the section is empty. -/
def Json.GainsEmptySection (before after : Json) : Prop :=
  before.section? = none ∧ after.section? = some (.object [])

namespace Workspace

variable {w : Workspace}

theorem section?_eq_none_of_gainsEmptySection {p : Package} {metadata : Json}
    (h : p.metadata.GainsEmptySection metadata) :
    p.section? = none ∧ { p with metadata : Package }.section? = none := by
  have hnone : ∀ q : Package, (q.metadata.section?.filter fun content =>
      !content.isEmptyObject) = none → q.section? = none := by
    intro q hq
    rwa [← q.content_section?, Option.map_eq_none_iff] at hq
  constructor
  · exact hnone p (by rw [h.1]; rfl)
  · exact hnone { p with metadata } (by rw [h.2]; rfl)

/-- An empty section holds the settings in which nothing is set. -/
theorem holds_of_gainsEmptySection {metadata : Json} (h : w.metadata.GainsEmptySection metadata)
    (v : Settings) : { w with metadata : Workspace }.Holds v ↔ w.Holds v ∨ v = .unset := by
  have hempty : ∀ v, Settings.ofJson (.object []) = .ok v ↔ v = .unset := by
    intro v
    have hread : Settings.ofJson (.object []) = .ok .unset := rfl
    rw [hread, Except.ok.injEq, eq_comm]
  simp only [Holds, contents, h.1, h.2, Option.toList_none, Option.toList_some, List.append_nil,
    List.mem_append, List.mem_singleton, or_and_right, exists_or, exists_eq_left, hempty]

theorem sections_of_gainsEmptySection {metadata : Json}
    (h : w.metadata.GainsEmptySection metadata) : ∃ x : Section, x.read = .ok .unset ∧
      { w with metadata : Workspace }.sections = w.sections ++ [x] := by
  have hbefore : w.section? = none := by
    rw [← Option.map_eq_none_iff, content_section?, h.1]
  obtain ⟨x, hx, hcontent⟩ := Option.map_eq_some_iff.mp
    ((content_section? { w with metadata }).trans h.2)
  have hread : x.read = .ok .unset := by
    rw [Section.read_eq_ok_iff, hcontent]
    rfl
  refine ⟨x, hread, ?_⟩
  rw [sections, sections, hbefore, hx, Option.toList_none, List.append_nil, Option.toList_some]

theorem isReadable_of_gainsEmptySection {metadata : Json}
    (h : w.metadata.GainsEmptySection metadata) (hw : w.IsReadable) :
    { w with metadata : Workspace }.IsReadable := by
  obtain ⟨values, hvalues⟩ := isReadable_iff.mp hw
  obtain ⟨x, hx, hsections⟩ := sections_of_gainsEmptySection h
  refine isReadable_iff.mpr ⟨values ++ [.unset], ?_⟩
  rw [hsections, List.mapM_append, hvalues, List.mapM_cons, hx]
  rfl

/-- **An empty section of a package changes nothing. One of the workspace changes what comes out**,
unless some section cannot be read, or some section holds the settings in which nothing is set. -/
theorem settings_emptySection (w : Workspace) (metadata : Json) :
    (∀ front p back, w.packages = front ++ p :: back → p.metadata.GainsEmptySection metadata →
      { w with packages := front ++ { p with metadata } :: back : Workspace }.settings =
        w.settings) ∧
    (w.metadata.GainsEmptySection metadata →
      (¬ w.IsReadable ∨ w.Holds .unset → { w with metadata : Workspace }.settings = w.settings) ∧
      (SameOutcome { w with metadata : Workspace }.settings w.settings →
        ¬ w.IsReadable ∨ w.Holds .unset)) := by
  refine ⟨fun front p back hpackages h => ?_, fun h => ⟨fun hw => ?_, fun hsame => ?_⟩⟩
  · obtain ⟨hbefore, hafter⟩ := section?_eq_none_of_gainsEmptySection h
    rw [settings_eq_bind, settings_eq_bind]
    simp only [sections, section?, hpackages, List.filterMap_append, List.filterMap_cons, hbefore,
      hafter]
  · obtain ⟨x, hx, hsections⟩ := sections_of_gainsEmptySection h
    rw [settings_eq_bind, settings_eq_bind, hsections, List.mapM_append]
    cases hm : w.sections.mapM Section.read with
    | error error => rfl
    | ok values =>
      have hmem : Settings.unset ∈ values := by
        rcases hw with hno | hholds
        · exact absurd (isReadable_iff.mpr ⟨values, hm⟩) hno
        · exact (mem_iff_holds hm _).mpr hholds
      have herase : (values ++ [Settings.unset]).eraseDups = values.eraseDups := by
        rw [List.eraseDups_append]
        simp [List.removeAll, hmem]
      rw [List.mapM_cons, hx]
      exact congrArg outcomeOf herase
  · by_contra hno
    obtain ⟨hw, hholds⟩ := not_or.mp hno
    rw [not_not] at hw
    obtain ⟨vs, -, hmem, heq⟩ := hw.exists_settings_eq
    obtain ⟨vs', -, hmem', heq'⟩ := (isReadable_of_gainsEmptySection h hw).exists_settings_eq
    have hperm := hsame.perm_reported
    rw [heq, heq', reported_outcomeOf, reported_outcomeOf] at hperm
    have hempty : Settings.unset ∈ vs' :=
      (hmem' .unset).mpr ((holds_of_gainsEmptySection h .unset).mpr (Or.inr rfl))
    exact hholds ((hmem .unset).mp (hperm.mem_iff.mp hempty))

def plainPackage : Package :=
  ⟨"library", ⟨"/w/library/Cargo.toml"⟩, .null⟩

def kernelWorkspace : Workspace :=
  ⟨[kernelPackage, plainPackage], ⟨"/w"⟩, .null⟩

def emptyMetadata : Json :=
  .object [("wdk-surface", .object [])]

theorem settings_emptySection_kernel : Json.null.GainsEmptySection emptyMetadata ∧
    kernelWorkspace.settings = .ok { context := some .kernelMode } ∧
    { kernelWorkspace with packages := [kernelPackage,
      { plainPackage with metadata := emptyMetadata }] }.settings = kernelWorkspace.settings ∧
    ¬ SameOutcome { kernelWorkspace with metadata := emptyMetadata }.settings
      kernelWorkspace.settings := by
  have hgains : Json.null.GainsEmptySection emptyMetadata := ⟨rfl, rfl⟩
  have hread : kernelWorkspace.sections.mapM Section.read =
      .ok [{ context := some .kernelMode }] := rfl
  obtain ⟨hpackage, hworkspace⟩ := settings_emptySection kernelWorkspace emptyMetadata
  refine ⟨hgains, rfl, hpackage [kernelPackage] plainPackage [] rfl hgains, fun hsame => ?_⟩
  rcases (hworkspace hgains).2 hsame with hno | hholds
  · exact hno (isReadable_iff.mpr ⟨_, hread⟩)
  · exact absurd ((mem_iff_holds hread _).mpr hholds) (by decide)

/-- An empty section of the workspace does count, beside a package that says something else. -/
theorem not_settings_emptySection : ¬ ∀ (w : Workspace) (metadata : Json),
    w.metadata.GainsEmptySection metadata →
      SameOutcome { w with metadata : Workspace }.settings w.settings := by
  intro h
  have hsame := h kernelWorkspace emptyMetadata ⟨rfl, rfl⟩
  have hlength := hsame.perm_reported.length_eq
  have hafter : (reported { kernelWorkspace with metadata := emptyMetadata }.settings).length = 2 :=
    rfl
  have hbefore : (reported kernelWorkspace.settings).length = 1 := rfl
  rw [hafter, hbefore] at hlength
  cases hlength

end Workspace

end KitSurface
