import KitSurface.Proofs.Surface.Pass
import KitSurface.Proofs.Text.Cut
import KitSurface.Proofs.Text.Line
import KitSurface.Surface.Text
/-!
What two surfaces have in common. The headers of a surface determine its groups, since no two groups
have a header of one name, and the groups determine the context (`groups_eq_of_sameHeaders`,
`context_eq_of_groups`). The wrapper header names the context in its first line, and each header has
a line of its own (`include_mem_lines_iff`). Main statement: between two surfaces nothing is added
and nothing is removed exactly if their wrapper headers are the same text
(`isEmpty_difference_iff`).
-/

namespace KitSurface

/-! ## Headers and groups -/

namespace Group

theorem eq_of_mem_fileNames : ∀ g ∈ all, ∀ g' ∈ all, ∀ name ∈ g.fileNames, name ∈ g'.fileNames →
    g = g' := by
  decide +kernel

/-- No two groups have a header of one name, whatever the options. -/
theorem eq_of_mem_headers {g g' : Group} {o o' : Options} {header : String}
    (h : header ∈ g.headers o) (h' : header ∈ g'.headers o') : g = g' := by
  refine eq_of_mem_fileNames g (mem_all g) g' (mem_all g') (Surface.fileName header) ?_ ?_
  · rw [← g.map_fileName_headers o]
    exact List.mem_map_of_mem h
  · rw [← g'.map_fileName_headers o']
    exact List.mem_map_of_mem h'

theorem isLine_name (g : Group) : Text.IsLine g.name := by
  cases g <;> decide

/-- A header is one line, since a version is made of two numbers. -/
theorem isLine_of_mem_headers {g : Group} {o : Options} {header : String}
    (h : header ∈ g.headers o) : Text.IsLine header := by
  cases g with
  | spbCx =>
    have hnumber : ∀ n : Nat, Text.IsLine n.repr := fun n =>
      ⟨Text.not_mem_repr n (by decide), Text.not_mem_repr n (by decide)⟩
    have hversion : Text.IsLine o.spbCxVersion.text := by
      simp only [Version.text, Text.isLine_append]
      exact ⟨⟨hnumber _, by decide⟩, hnumber _⟩
    rw [List.mem_singleton.mp h]
    exact Text.isLine_append.mpr ⟨Text.isLine_append.mpr ⟨by decide, hversion⟩, by decide⟩
  | _ =>
    revert header
    simp [headers, Text.IsLine]

theorem headers_eq_of_ne_spbCx {g : Group} (h : g ≠ .spbCx) (o o' : Options) :
    g.headers o = g.headers o' := by
  cases g with
  | spbCx => exact absurd rfl h
  | _ => rfl

theorem headers_eq_of_spbCx {o o' : Options} (h : spbCx.headers o = spbCx.headers o') (g : Group) :
    g.headers o = g.headers o' := by
  by_cases hg : g = .spbCx
  · exact hg ▸ h
  · exact headers_eq_of_ne_spbCx hg o o'

theorem headers_spbCx (o : Options) :
    spbCx.headers o = ["spb/" ++ o.spbCxVersion.text ++ "/spbcx.h"] :=
  rfl

end Group

/-! ## Markers -/

namespace Marker

variable {m : Marker}

theorem isLine_note (h : m ∈ all) : Text.IsLine m.note := by
  simp only [all, List.mem_cons, List.not_mem_nil, or_false] at h
  rcases h with rfl | rfl | rfl | rfl | rfl | rfl | rfl <;>
    exact Text.isLine_of_eq_ofList rfl (by decide)

theorem isLine_reference (h : m ∈ all) : ∀ reference ∈ m.reference, Text.IsLine reference := by
  have hknown : ∀ m ∈ all, ∀ reference ∈ m.reference,
      reference = hidReference ∨ reference = storageReference := by
    decide
  intro reference hr
  rcases hknown m h reference hr with rfl | rfl <;>
    exact Text.isLine_of_eq_ofList rfl (by decide)

theorem isLine_comment (h : m ∈ all) : Text.IsLine m.comment := by
  have hkind : Text.IsLine m.kind.tag := by
    cases m.kind <;> decide
  have hnote := isLine_note h
  simp only [comment, remark, Text.isLine_append]
  cases hr : m.reference with
  | none => exact ⟨by decide, ⟨⟨hkind, by decide⟩, hnote⟩, by decide⟩
  | some reference =>
    have hreference := isLine_reference h reference hr
    simp only [Text.isLine_append]
    exact ⟨by decide, ⟨⟨hkind, by decide⟩, hnote⟩, ⟨by decide, hreference⟩, by decide⟩

end Marker

/-! ## Groups of a surface -/

namespace Surface

/-- Two surfaces have the same headers. -/
def SameHeaders (a b : Surface) : Prop :=
  ∀ header, header ∈ a.headers ↔ header ∈ b.headers

variable {a b s : Surface} {sub : Subsystem} {header : String}

theorem mem_headers_iff : header ∈ s.headers ↔ ∃ g ∈ s.groups, header ∈ g.headers s.options := by
  rw [headers, List.mem_eraseDups, List.mem_flatMap]

theorem mem_headers_iff_headersIn :
    header ∈ s.headers ↔ ∃ sub ∈ s.subsystems, header ∈ s.headersIn sub := by
  simp only [mem_headers_iff, mem_headersIn_iff, mem_subsystems_iff]
  constructor
  · intro h
    obtain ⟨g, hg, hheader⟩ := h
    exact ⟨g.subsystem, ⟨g, hg, rfl⟩, g, hg, rfl, hheader⟩
  · intro h
    obtain ⟨_, -, g, hg, -, hheader⟩ := h
    exact ⟨g, hg, hheader⟩

theorem mem_groups_of_sameHeaders (h : SameHeaders a b) {g : Group}
    (hg : g ∈ a.groups) : g ∈ b.groups := by
  obtain ⟨x, hx⟩ := List.exists_mem_of_ne_nil _ (headers_ne_nil g a.options)
  obtain ⟨g', hg', hx'⟩ := mem_headers_iff.mp ((h x).mp (mem_headers_iff.mpr ⟨g, hg, hx⟩))
  rwa [Group.eq_of_mem_headers hx hx']

theorem groups_eq_of_sameHeaders (h : SameHeaders a b) :
    a.groups = b.groups := by
  refine List.filter_congr fun g _ => ?_
  have hiff : g ∈ a.groups ↔ g ∈ b.groups :=
    ⟨mem_groups_of_sameHeaders h, mem_groups_of_sameHeaders fun x => (h x).symm⟩
  rw [Bool.eq_iff_iff, Bool.and_eq_true, Bool.and_eq_true, ← mem_groups_iff, ← mem_groups_iff]
  exact hiff

/-- The kernel and the framework tell the contexts apart. -/
theorem context_eq_of_groups (h : a.groups = b.groups) : a.context = b.context := by
  have hkernel : ∀ s : Surface, .ntKernel ∈ s.groups ↔ s.context.isKernelMode = true :=
    fun s => mem_groups_iff.trans (and_iff_left rfl)
  have hframework : ∀ s : Surface, .wdf ∈ s.groups ↔ s.context.usesFramework = true :=
    fun s => mem_groups_iff.trans (and_iff_left rfl)
  have hk : a.context.isKernelMode = b.context.isKernelMode := by
    rw [Bool.eq_iff_iff, ← hkernel a, ← hkernel b, h]
  have hf : a.context.usesFramework = b.context.usesFramework := by
    rw [Bool.eq_iff_iff, ← hframework a, ← hframework b, h]
  revert hk hf
  cases a.context <;> cases b.context <;> decide

theorem spbCx_mem_groups (s : Surface) : .spbCx ∈ s.groups :=
  mem_groups_iff.mpr ⟨rfl, rfl⟩

/-- The headers of every group are the same, since the version of the class extension is in the name
of a directory. -/
theorem headers_eq_of_sameHeaders (h : SameHeaders a b) (g : Group) :
    g.headers a.options = g.headers b.options := by
  have hx : "spb/" ++ a.options.spbCxVersion.text ++ "/spbcx.h" ∈
      Group.spbCx.headers a.options := List.mem_singleton_self _
  obtain ⟨g', -, hx'⟩ :=
    mem_headers_iff.mp ((h _).mp (mem_headers_iff.mpr ⟨_, a.spbCx_mem_groups, hx⟩))
  obtain rfl := Group.eq_of_mem_headers hx hx'
  refine Group.headers_eq_of_spbCx ?_ g
  rw [Group.headers_spbCx] at hx'
  rw [Group.headers_spbCx, Group.headers_spbCx, List.mem_singleton.mp hx']

/-! ## What depends on the groups -/

theorem supplements_eq_of_context (h : a.context = b.context) : a.supplements = b.supplements := by
  rw [supplements, supplements, h]

theorem tags_eq_of_context (h : a.context = b.context) : a.tags = b.tags := by
  rw [tags, tags, supplements_eq_of_context h]

/-- The markers on a scope depend on the context and on what the surface holds of that scope. -/
theorem markersIn_congr {scope : MarkerScope} (hc : a.context = b.context)
    (hs : a.holds scope = b.holds scope) : a.markersIn scope = b.markersIn scope := by
  simp only [markersIn, markers, List.filter_filter, hc]
  refine List.filter_congr fun m _ => ?_
  by_cases hm : m.scope = scope
  · rw [hm, hs]
  · simp [hm]

theorem supplementBlock_congr (h : a.context = b.context) :
    a.supplementBlock = b.supplementBlock := by
  have hsupplements := supplements_eq_of_context h
  have hmarkers : a.markersIn .supplements = b.markersIn .supplements :=
    markersIn_congr h (by rw [holds, holds, hsupplements])
  rw [supplementBlock, supplementBlock, blockHead, blockHead, hsupplements, hmarkers]

theorem wrapperHeader_congr (hc : a.context = b.context) (hg : a.groups = b.groups)
    (hh : ∀ g : Group, g.headers a.options = g.headers b.options) :
    a.wrapperHeader = b.wrapperHeader := by
  have hin : ∀ sub, a.groupsIn sub = b.groupsIn sub := by
    intro sub
    rw [groupsIn, groupsIn, hg]
  have hblock : a.subsystemBlock = b.subsystemBlock := by
    funext sub
    have hmarkers : a.markersIn (.subsystem sub) = b.markersIn (.subsystem sub) :=
      markersIn_congr hc (by rw [holds, holds, hin])
    have hheaders : a.headersIn sub = b.headersIn sub := by
      rw [headersIn, headersIn, hin]
      simp only [hh]
    rw [subsystemBlock, subsystemBlock, blockHead, blockHead, hmarkers, hheaders]
  rw [wrapperHeader, wrapperHeader, hc, hblock, subsystems, subsystems, hg,
    supplementBlock_congr hc]

/-! ## The lines of a wrapper header -/

def blockLines (s : Surface) (sub : Subsystem) : List String :=
  "" :: ("// " ++ sub.title) :: ((s.markersIn (.subsystem sub)).map Marker.comment ++
    (s.headersIn sub).map fun header => "#include \"" ++ header ++ "\"")

/-- The lines between the banner and the block of the supplemental types. -/
def lines (s : Surface) : List String :=
  s.subsystems.flatMap s.blockLines

theorem toList_subsystemBlock (s : Surface) (sub : Subsystem) : (s.subsystemBlock sub).toList =
    ((s.blockLines sub).map String.toList).flatMap (· ++ ['\n']) := by
  simp [subsystemBlock, blockHead, blockLines, includeLine, line, List.flatMap_map]

theorem toList_wrapperHeader (s : Surface) : s.wrapperHeader.toList =
    (banner s.context).toList ++ ((s.lines.map String.toList).flatMap (· ++ ['\n']) ++
      s.supplementBlock.toList) := by
  simp [wrapperHeader, lines, List.flatMap_map, toList_subsystemBlock, List.flatMap_assoc]

/-- The banner names the context between backquotes, and is the same text otherwise. -/
theorem exists_toList_banner : ∃ rest : List Char, ∀ c : BuildContext, (banner c).toList =
    "// Declaration surface for the \x60".toList ++ (c.name.toList ++ '\x60' :: rest) :=
  ⟨" build context.\n// Generated by wdk-surface. Do not edit.\n\n#pragma once\n".toList,
    fun c => by simp [banner, line]⟩

theorem context_eq_of_banner_append {c c' : BuildContext} {x y : List Char}
    (h : (banner c).toList ++ x = (banner c').toList ++ y) : c = c' := by
  obtain ⟨rest, hbanner⟩ := exists_toList_banner
  have hquote : ∀ c : BuildContext, '\x60' ∉ c.name.toList := by
    intro c
    cases c <;> decide
  simp only [hbanner, List.append_assoc, List.append_cancel_left_eq, List.cons_append] at h
  have hname : c.name = c'.name :=
    String.toList_injective (Text.eq_of_append_cons (hquote c) (hquote c') h).1
  have hparse := congrArg BuildContext.parse hname
  rw [BuildContext.parse_name, BuildContext.parse_name] at hparse
  exact Except.ok.inj hparse

theorem mem_all_of_mem_markersIn {scope : MarkerScope} {m : Marker} (h : m ∈ s.markersIn scope) :
    m ∈ Marker.all :=
  List.mem_of_mem_filter (List.mem_of_mem_filter h)

theorem isLine_of_mem_blockLines : ∀ text ∈ s.blockLines sub, Text.IsLine text := by
  intro text htext
  simp only [blockLines, List.mem_cons, List.mem_append, List.mem_map] at htext
  rcases htext with rfl | rfl | ⟨m, hm, rfl⟩ | ⟨header, hheader, rfl⟩
  · decide
  · have htitle : Text.IsLine sub.title := by
      cases sub <;> exact Text.isLine_of_eq_ofList rfl (by decide)
    exact Text.isLine_append.mpr ⟨by decide, htitle⟩
  · exact Marker.isLine_comment (mem_all_of_mem_markersIn hm)
  · obtain ⟨g, -, -, hg⟩ := mem_headersIn_iff.mp hheader
    exact Text.isLine_append.mpr
      ⟨Text.isLine_append.mpr ⟨by decide, Group.isLine_of_mem_headers hg⟩, by decide⟩

theorem newline_not_mem_of_mem_lines : ∀ text ∈ s.lines, '\n' ∉ text.toList := by
  intro text htext
  obtain ⟨sub, -, hsub⟩ := List.mem_flatMap.mp htext
  exact (isLine_of_mem_blockLines text hsub).1

/-- In the block of a subsystem all lines but those of its headers are empty or comments. -/
theorem include_mem_blockLines_iff :
    "#include \"" ++ header ++ "\"" ∈ s.blockLines sub ↔ header ∈ s.headersIn sub := by
  have hcomment : ∀ text : String, "#include \"" ++ header ++ "\"" ≠ "// " ++ text := by
    intro text h
    have hlist := congrArg String.toList h
    simp at hlist
  have hinclude : ∀ header' : String, "#include \"" ++ header' ++ "\"" =
      "#include \"" ++ header ++ "\"" ↔ header' = header := by
    intro header'
    simp [← String.toList_inj]
  have hempty : "#include \"" ++ header ++ "\"" ≠ "" := by
    intro h
    have hlist := congrArg String.toList h
    simp at hlist
  simp only [blockLines, List.mem_cons, List.mem_append, List.mem_map, hempty, hcomment,
    hinclude, Marker.comment, false_or]
  simp [(hcomment _).symm]

theorem include_mem_lines_iff :
    "#include \"" ++ header ++ "\"" ∈ s.lines ↔ header ∈ s.headers := by
  simp only [lines, List.mem_flatMap, include_mem_blockLines_iff, mem_headers_iff_headersIn]

theorem wrapperHeader_eq_iff :
    a.wrapperHeader = b.wrapperHeader ↔ SameHeaders a b := by
  constructor
  · intro h x
    have htext := congrArg String.toList h
    rw [toList_wrapperHeader, toList_wrapperHeader] at htext
    have hc := context_eq_of_banner_append htext
    rw [hc, supplementBlock_congr hc, List.append_cancel_left_eq,
      List.append_cancel_right_eq] at htext
    have hlists := Text.eq_of_flatMap_line
      (List.forall_mem_map.mpr newline_not_mem_of_mem_lines)
      (List.forall_mem_map.mpr newline_not_mem_of_mem_lines) htext
    have hlines : a.lines = b.lines :=
      List.map_injective_iff.mpr (fun _ _ he => String.toList_injective he) hlists
    rw [← include_mem_lines_iff, hlines, include_mem_lines_iff]
  · intro h
    have hg := groups_eq_of_sameHeaders h
    exact wrapperHeader_congr (context_eq_of_groups hg) hg (headers_eq_of_sameHeaders h)

/-! ## Differences -/

theorem without_eq_nil_iff {α : Type} [DecidableEq α] {xs ys : List α} :
    without xs ys = [] ↔ ∀ x ∈ xs, x ∈ ys := by
  simp [without]

theorem isEmpty_difference_iff_headers :
    (a.difference b).isEmpty = true ↔ SameHeaders a b := by
  simp only [Difference.isEmpty, difference, Bool.and_eq_true, List.isEmpty_iff,
    without_eq_nil_iff]
  constructor
  · intro h x
    obtain ⟨⟨⟨⟨-, hadded⟩, hremoved⟩, -⟩, -⟩ := h
    exact ⟨hremoved x, hadded x⟩
  · intro h
    have hg := groups_eq_of_sameHeaders h
    have ht := tags_eq_of_context (context_eq_of_groups hg)
    rw [hg, ht]
    exact ⟨⟨⟨⟨⟨fun _ => id, fun _ => id⟩, fun x => (h x).mpr⟩, fun x => (h x).mp⟩,
      fun _ => id⟩, fun _ => id⟩

/-- **Between two surfaces nothing is added and nothing is removed exactly if they have one wrapper
header.** -/
theorem isEmpty_difference_iff (a b : Surface) :
    (a.difference b).isEmpty = true ↔ a.wrapperHeader = b.wrapperHeader :=
  isEmpty_difference_iff_headers.trans wrapperHeader_eq_iff.symm

end Surface

end KitSurface
