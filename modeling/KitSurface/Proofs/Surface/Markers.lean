import KitSurface.Proofs.Surface.Wrapper
/-!
Markers and options. A scope that has something in a context under all options is steady
(`isSteady`): no toggle hides it, and the surfaces of the context hold it (`holds_of_isSteady`). The
scopes of all markers are steady where the markers matter, but for one (`isSteady_of_mem`): all
groups of the storage subsystem have toggles, and without them nothing is left for the marker to
stand under (`holds_storage`). Main statement: the markers of a surface do not depend on its options,
except that those of storage are gone in kernel mode once both of its groups are turned off
(`markers_eq_iff`).
-/

namespace KitSurface

namespace Options

/-- Both groups of the storage subsystem are turned off. -/
def emptiesStorage (o : Options) : Bool :=
  !o.storage && !o.usbDeviceEmulation

end Options

namespace Surface

variable {s : Surface} {c : BuildContext} {o o' : Options} {sub : Subsystem} {scope : MarkerScope}
  {m : Marker}

/-! ## Scopes that no toggle hides -/

/-- Something in the scope is admitted to the context, and no toggle turns it off. -/
def isSteady (c : BuildContext) : MarkerScope → Bool
  | .subsystem sub => Group.all.any fun g =>
      g.subsystem = sub && g.toggle?.isNone && g.inclusion.admits c
  | .supplements => Supplement.known.any fun t => t.inclusion.admits c

theorem holds_subsystem_iff :
    s.holds (.subsystem sub) = true ↔ ∃ g ∈ s.groups, g.subsystem = sub := by
  rw [← mem_subsystems_iff, ← groupsIn_ne_nil_iff, holds, Bool.not_eq_true',
    List.isEmpty_eq_false_iff]

theorem holds_of_isSteady (h : isSteady c scope = true) (o : Options) :
    holds ⟨c, o⟩ scope = true := by
  cases scope with
  | subsystem sub =>
    obtain ⟨g, -, hg⟩ := List.any_eq_true.mp h
    simp only [Bool.and_eq_true, decide_eq_true_eq, Option.isNone_iff_eq_none] at hg
    obtain ⟨⟨hsub, htoggle⟩, hadmits⟩ := hg
    have henabled : g.isEnabled o = true := by rw [Group.isEnabled, htoggle, Option.all_none]
    exact holds_subsystem_iff.mpr ⟨g, mem_groups_iff.mpr ⟨hadmits, henabled⟩, hsub⟩
  | supplements =>
    obtain ⟨t, ht, hadmits⟩ := List.any_eq_true.mp h
    have hmem : t ∈ supplements ⟨c, o⟩ := List.mem_filter.mpr ⟨ht, hadmits⟩
    rw [holds, Bool.not_eq_true', List.isEmpty_eq_false_iff]
    exact List.ne_nil_of_mem hmem

/-- Where a marker matters its scope is steady, unless the scope is the storage subsystem. -/
theorem isSteady_of_mem : ∀ m ∈ Marker.all, m.inclusion.admits c = true →
    m.scope ≠ .subsystem .storage → isSteady c m.scope = true := by
  cases c <;> decide +kernel

theorem holds_storage :
    holds ⟨c, o⟩ (.subsystem .storage) = true ↔ c = .kernelMode ∧ o.emptiesStorage = false := by
  have hgroups : ∀ g : Group, g.subsystem = .storage ↔ g = .storage ∨ g = .usbDeviceEmulation := by
    intro g
    cases g <;> decide
  have hkernel : c.isKernelMode = true ↔ c = .kernelMode := by simp [BuildContext.isKernelMode]
  rw [holds_subsystem_iff]
  simp only [hgroups, mem_groups_iff, and_or_left, exists_or, exists_eq_right]
  simp only [Group.inclusion, Inclusion.admits, Group.isEnabled, Group.toggle?, Option.all_some,
    Options.isOn, hkernel, ← and_or_left]
  cases hs : o.storage <;> cases hu : o.usbDeviceEmulation <;> simp [Options.emptiesStorage, hs, hu]

/-! ## Markers of a surface -/

theorem mem_markers_iff : m ∈ s.markers ↔
    m ∈ Marker.all ∧ m.inclusion.admits s.context = true ∧ s.holds m.scope = true := by
  simp [markers]

theorem Marker.inclusion_of_storage : ∀ m ∈ Marker.all, m.scope = .subsystem .storage →
    m.inclusion = .kernelModeOnly := by
  decide +kernel

theorem Marker.kernelMode_of_storage (hm : m ∈ Marker.all) (hscope : m.scope = .subsystem .storage)
    (hadmits : m.inclusion.admits c = true) : c = .kernelMode := by
  rw [Marker.inclusion_of_storage m hm hscope] at hadmits
  simpa [Inclusion.admits, BuildContext.isKernelMode] using hadmits

/-- Of what the markers are about only storage can be hidden. -/
theorem holds_scope_iff (hm : m ∈ Marker.all) (hadmits : m.inclusion.admits c = true) :
    holds ⟨c, o⟩ m.scope = true ↔ ¬ (m.scope = .subsystem .storage ∧ o.emptiesStorage = true) := by
  by_cases hscope : m.scope = .subsystem .storage
  · simp [hscope, holds_storage, Marker.kernelMode_of_storage hm hscope hadmits]
  · simp [hscope, holds_of_isSteady (isSteady_of_mem m hm hadmits hscope) o]

theorem mem_markers_iff_comment_mem (hm : m ∈ Marker.all) :
    m ∈ s.markers ↔ m.comment ∈ Text.lines s.wrapperHeader := by
  constructor
  · intro h
    exact List.count_pos_iff.mp (by rw [count_comment h]; exact Nat.one_pos)
  · intro h
    have hcomment : m.comment ∈ (Text.lines s.wrapperHeader).filter isComment :=
      List.mem_filter.mpr ⟨h, isComment_iff.mpr ⟨m, hm, rfl⟩⟩
    rw [filter_isComment_lines] at hcomment
    obtain ⟨m', hm', heq⟩ := List.mem_map.mp hcomment
    obtain ⟨scope, -, hm'⟩ := List.mem_flatMap.mp hm'
    have hmarker : m' ∈ s.markers := List.mem_of_mem_filter hm'
    rwa [eq_of_comment_eq m' (mem_markers_iff.mp hmarker).1 m hm heq] at hmarker

/-- Options count for the markers only in that they may empty storage. -/
theorem markers_congr (h : c = .kernelMode → o.emptiesStorage = o'.emptiesStorage) :
    markers ⟨c, o⟩ = markers ⟨c, o'⟩ := by
  refine List.filter_congr fun m hm => ?_
  cases hadmits : m.inclusion.admits c with
  | false => simp
  | true =>
    have hholds : holds ⟨c, o⟩ m.scope = true ↔ holds ⟨c, o'⟩ m.scope = true := by
      rw [holds_scope_iff hm hadmits, holds_scope_iff hm hadmits]
      refine not_congr (and_congr_right fun hscope => ?_)
      rw [h (Marker.kernelMode_of_storage hm hscope hadmits)]
    rw [Bool.eq_iff_iff.mpr hholds]

theorem exists_storage_marker : ∃ m ∈ Marker.all,
    m.scope = .subsystem .storage ∧ m.inclusion.admits .kernelMode = true := by
  decide +kernel

/-- **The markers of a surface are those of its context, whatever the options, except that the
marker on storage is neither listed nor written in kernel mode once both groups of storage are turned
off.** -/
theorem markers_eq_iff (c : BuildContext) (o o' : Options) :
    (markers ⟨c, o⟩ = markers ⟨c, o'⟩ ↔
      (c = .kernelMode → o.emptiesStorage = o'.emptiesStorage)) ∧
    ∀ m ∈ Marker.all, m.inclusion.admits c = true →
      (m ∈ markers ⟨c, o⟩ ↔ ¬ (m.scope = .subsystem .storage ∧ o.emptiesStorage = true)) ∧
      (m ∈ markers ⟨c, o⟩ ↔ m.comment ∈ Text.lines (wrapperHeader ⟨c, o⟩)) := by
  have hlisted : ∀ m ∈ Marker.all, m.inclusion.admits c = true → ∀ o : Options,
      m ∈ markers ⟨c, o⟩ ↔ ¬ (m.scope = .subsystem .storage ∧ o.emptiesStorage = true) := by
    intro m hm hadmits o
    rw [mem_markers_iff, holds_scope_iff hm hadmits]
    simp only [hm, hadmits, true_and]
  refine ⟨⟨?_, markers_congr⟩, fun m hm hadmits =>
    ⟨hlisted m hm hadmits o, mem_markers_iff_comment_mem hm⟩⟩
  rintro heq rfl
  obtain ⟨m, hm, hscope, hadmits⟩ := exists_storage_marker
  have hsame := hlisted m hm hadmits o
  rw [heq, hlisted m hm hadmits o', not_iff_not] at hsame
  simp only [hscope, true_and] at hsame
  exact Bool.eq_iff_iff.mpr hsame.symm

theorem markers_of_storage_off :
    markers ⟨.kernelMode, { storage := false }⟩ = markers ⟨.kernelMode, .default⟩ ∧
    ∃ m ∈ Marker.all, m.scope = .subsystem .storage ∧
      m ∈ markers ⟨.kernelMode, { storage := false }⟩ ∧
      m.comment ∈ Text.lines (wrapperHeader ⟨.kernelMode, { storage := false }⟩) := by
  obtain ⟨hsame, hlisted⟩ := markers_eq_iff .kernelMode { storage := false } .default
  obtain ⟨m, hm, hscope, hadmits⟩ := exists_storage_marker
  obtain ⟨hmem, hcomment⟩ := hlisted m hm hadmits
  have hmarker := hmem.mpr fun h => Bool.false_ne_true h.2
  exact ⟨hsame.mpr fun _ => rfl, m, hm, hscope, hmarker, hcomment.mp hmarker⟩

theorem not_forall_markers_eq :
    ¬ ∀ c o o', markers ⟨c, o⟩ = markers ⟨c, o'⟩ := by
  intro h
  have hlength := congrArg List.length
    (h .kernelMode { storage := false, usbDeviceEmulation := false } .default)
  exact absurd hlength (by decide +kernel)

end Surface

end KitSurface
