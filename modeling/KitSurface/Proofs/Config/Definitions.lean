import KitSurface.Config.Definitions
/-!
The context of a build and the context that its definitions select. What a list of definitions
selects depends on two facts only, whether it has a kernel definition and whether it has one of the
user-mode framework (`ofDefinitions_eq`). The definitions of an architecture have neither, those of
a context have the kernel definition in kernel mode, and those of a driver model have the one of its
framework. Main statement: the definitions of a consistent build select its context, except that
those of a build for the user-mode framework without a driver model select plain user mode
(`ofDefinitions_definitions_iff`).
-/

namespace KitSurface

namespace Definition

/-- The definition is one of those that select kernel mode. -/
def selectsKernel (d : Definition) : Bool :=
  d.name = BuildContext.kernelModeDefinition || d.name = BuildContext.kmdfMajorDefinition

/-- The definition is the one that selects the user-mode framework. -/
def selectsUmdf (d : Definition) : Bool :=
  d.name = BuildContext.umdfMajorDefinition

theorem any_eq_filter (p : Definition → Bool) (ds : List Definition) :
    ds.any p = !(ds.filter p).isEmpty := by
  induction ds with
  | nil => rfl
  | cons d ds ih => cases h : p d <;> simp [h, ih]

end Definition

open Definition

namespace BuildContext

/-- The context that definitions select is known from which kinds of definition are there. -/
theorem ofDefinitions_eq (ds : List Definition) : ofDefinitions ds =
    match ds.any selectsKernel, ds.any selectsUmdf with
    | false, false => .ok userMode
    | true, false => .ok kernelMode
    | false, true => .ok umdf
    | true, true => .error (.conflicting
        ((ds.filter selectsKernel ++ ds.filter selectsUmdf).map (·.name))) := by
  have hk : (ds.map (·.name)).filter (fun n => n = kernelModeDefinition || n = kmdfMajorDefinition) =
      (ds.filter selectsKernel).map (·.name) := List.filter_map
  have hu : (ds.map (·.name)).filter (fun n => n = umdfMajorDefinition) =
      (ds.filter selectsUmdf).map (·.name) := List.filter_map
  unfold ofDefinitions
  simp only [hk, hu, any_eq_filter, List.map_append]
  cases ds.filter selectsKernel <;> cases ds.filter selectsUmdf <;> rfl

end BuildContext

/-! ## Which kinds of definition a build has -/

theorem Architecture.any_definitions (a : Architecture) :
    a.definitions.any selectsKernel = false ∧ a.definitions.any selectsUmdf = false := by
  cases a <;> decide

theorem BuildContext.any_definitions (c : BuildContext) :
    c.definitions.any selectsKernel = c.isKernelMode ∧ c.definitions.any selectsUmdf = false := by
  cases c <;> decide

namespace DriverModel

theorem any_definitions_wdm :
    wdm.definitions.any selectsKernel = false ∧ wdm.definitions.any selectsUmdf = false :=
  ⟨rfl, rfl⟩

theorem any_definitions_kmdf (pin : FrameworkPin) :
    (framework .kmdf pin).definitions.any selectsKernel = true ∧
    (framework .kmdf pin).definitions.any selectsUmdf = false := by
  obtain ⟨major, target, minimum⟩ := pin
  cases minimum <;> exact ⟨rfl, rfl⟩

theorem any_definitions_umdf (pin : FrameworkPin) :
    (framework .umdf pin).definitions.any selectsKernel = false ∧
    (framework .umdf pin).definitions.any selectsUmdf = true := by
  obtain ⟨major, target, minimum⟩ := pin
  by_cases hm : 2 ≤ major.toNat <;> cases minimum <;> simp only [definitions, hm] <;>
    exact ⟨rfl, rfl⟩

end DriverModel

namespace Config

theorem context_eq_of_validate {c : Config} {model : DriverModel} (h : c.validate = .ok ())
    (hm : c.driverModel = some model) : model.context = c.context := by
  unfold validate at h
  rw [hm] at h
  by_cases heq : model.context = c.context
  · exact heq
  · simp [heq] at h

theorem any_definitions (c : Config) :
    c.definitions.any selectsKernel = (c.context.isKernelMode ||
      ((c.driverModel.map DriverModel.definitions).getD []).any selectsKernel) ∧
    c.definitions.any selectsUmdf =
      ((c.driverModel.map DriverModel.definitions).getD []).any selectsUmdf := by
  obtain ⟨hak, hau⟩ := c.architecture.any_definitions
  obtain ⟨hck, hcu⟩ := c.context.any_definitions
  unfold definitions
  simp only [List.any_append, hak, hau, hck, hcu, Bool.false_or, and_self]

/-- **The definitions of a consistent build select its context**, unless it builds for the user-mode
framework without a driver model; then they select plain user mode. -/
theorem ofDefinitions_definitions_iff (c : Config) (h : c.validate = .ok ()) :
    (BuildContext.ofDefinitions c.definitions = .ok c.context ↔
      ¬ (c.context = .umdf ∧ c.driverModel = none)) ∧
    (c.context = .umdf → c.driverModel = none →
      BuildContext.ofDefinitions c.definitions = .ok .userMode) := by
  obtain ⟨hk, hu⟩ := c.any_definitions
  rw [BuildContext.ofDefinitions_eq, hk, hu]
  cases hm : c.driverModel with
  -- Only the definition of kernel mode is left, and plain user mode and UMDF both lack it.
  | none => cases c.context <;> simp [BuildContext.isKernelMode]
  | some model =>
    have hctx := context_eq_of_validate h hm
    rw [← hctx]
    cases model with
    | wdm =>
      obtain ⟨hmk, hmu⟩ := DriverModel.any_definitions_wdm
      simp [hmk, hmu, DriverModel.context, BuildContext.isKernelMode]
    | framework kind pin =>
      cases kind with
      | kmdf =>
        obtain ⟨hmk, hmu⟩ := DriverModel.any_definitions_kmdf pin
        simp [hmk, hmu, DriverModel.context, Framework.context]
      | umdf =>
        obtain ⟨hmk, hmu⟩ := DriverModel.any_definitions_umdf pin
        simp [hmk, hmu, DriverModel.context, Framework.context, BuildContext.isKernelMode]

/-- A build for the first version of the user-mode framework. -/
def pinnedUmdf : Config where
  root := ⟨"/kit"⟩
  architecture := .arm64
  context := .umdf
  driverModel := some (.framework .umdf ⟨1, 11, some 9⟩)

theorem ofDefinitions_pinnedUmdf :
    pinnedUmdf.validate = .ok () ∧
    BuildContext.ofDefinitions pinnedUmdf.definitions = .ok .umdf := by
  have h : pinnedUmdf.validate = .ok () := rfl
  exact ⟨h, (ofDefinitions_definitions_iff pinnedUmdf h).1.mpr (by decide)⟩

/-- A build for the user-mode framework in the version that the kit has. -/
def unpinnedUmdf : Config where
  root := ⟨"/kit"⟩
  architecture := .amd64
  context := .umdf

theorem not_ofDefinitions_definitions_eq : ¬ ∀ c : Config, c.validate = .ok () →
    BuildContext.ofDefinitions c.definitions = .ok c.context := by
  intro h
  have hc := h unpinnedUmdf rfl
  have huser : BuildContext.ofDefinitions unpinnedUmdf.definitions = .ok .userMode := rfl
  rw [huser] at hc
  cases hc

end Config

end KitSurface
