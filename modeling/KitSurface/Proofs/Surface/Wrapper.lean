import KitSurface.Proofs.Header.Rendered
import KitSurface.Proofs.Surface.Outline
/-!
The outline of a wrapper header. Its lines are laid out in blocks (`lines_wrapperHeader`), with the
C text of the supplemental types behind them, which has neither comments nor directives. The comment
on a marker is there once (`count_comment`), in the block that the marker is about
(`standsUnder_comment`).
-/

namespace KitSurface

namespace Outline

def wrapperTitle : MarkerScope → String
  | .subsystem sub => "// " ++ sub.title
  | .supplements => "// Supplemental Type Definitions"

def includeOf (name : String) : String :=
  "#include \"" ++ name ++ "\""

def isInclude (line : String) : Bool :=
  "#include".toList.isPrefixOf line.toList

theorem wrapperTitle_injective : Function.Injective wrapperTitle :=
  MarkerScope.injective_of_nodup (by decide +kernel)

theorem includeOf_injective : Function.Injective includeOf := by
  intro a b h
  simpa [includeOf, ← String.toList_inj] using h

theorem isInclude_wrapperTitle (scope : MarkerScope) : isInclude (wrapperTitle scope) = false := by
  rcases scope with sub | _
  · simp [isInclude, wrapperTitle, List.isPrefixOf]
  · decide

/-- In a wrapper header titles are comments, and headers are included. -/
def wrapperHeader : Outline where
  title := wrapperTitle
  header := includeOf
  isHeader := isInclude
  title_injective := wrapperTitle_injective
  header_injective := includeOf_injective
  isHeader_title := isInclude_wrapperTitle

theorem exists_title_wrapperHeader (scope : MarkerScope) :
    ∃ text, wrapperHeader.title scope = "// " ++ text := by
  cases scope with
  | subsystem sub => exact ⟨sub.title, rfl⟩
  | supplements => exact ⟨"Supplemental Type Definitions", by decide⟩

theorem isHeader_wrapperHeader_header (name : String) :
    wrapperHeader.isHeader (wrapperHeader.header name) = true := by
  simp [wrapperHeader, isInclude, includeOf]

theorem isHeader_wrapperHeader_comment (m : Marker) : wrapperHeader.isHeader m.comment = false := by
  simp [wrapperHeader, isInclude, Marker.comment, List.isPrefixOf]

theorem isTitle_wrapperHeader_header (name : String) :
    wrapperHeader.isTitle (wrapperHeader.header name) = false := by
  rw [Bool.eq_false_iff, Ne, isTitle_iff]
  intro h
  obtain ⟨scope, h⟩ := h
  obtain ⟨text, htitle⟩ := exists_title_wrapperHeader scope
  have hlist := congrArg String.toList (h.trans htitle)
  simp [wrapperHeader, includeOf] at hlist

theorem isTitle_wrapperHeader_comment (m : Marker) :
    wrapperHeader.isTitle m.comment = false := by
  rw [Bool.eq_false_iff, Ne, isTitle_iff]
  intro h
  obtain ⟨scope, h⟩ := h
  -- A comment on a marker begins with the letter of its kind, and no title has that letter there.
  have hlist := congrArg String.toList h
  rcases scope with sub | _
  · cases sub <;> cases hkind : m.kind <;>
      simp [wrapperHeader, wrapperTitle, Marker.comment, Marker.remark, MarkerKind.tag, hkind,
        Subsystem.title] at hlist
  · cases hkind : m.kind <;>
      simp [wrapperHeader, wrapperTitle, Marker.comment, Marker.remark, MarkerKind.tag,
        hkind] at hlist

end Outline

namespace Surface

/-- The lines that a wrapper header begins with. -/
def bannerLines (c : BuildContext) : List String :=
  ["// Declaration surface for the \x60" ++ c.name ++ "\x60 build context.",
   "// Generated by wdk-surface. Do not edit.", "", "#pragma once"]

/-- The C text of the supplemental types of a surface. -/
def declarations (s : Surface) : String :=
  String.join ((s.supplements.filterMap Supplement.declaration).map fun text => "\n" ++ text)

/-- What stands below the title of a scope in a wrapper header. -/
def wrapperBody (s : Surface) (scope : MarkerScope) : List String :=
  (s.markersIn scope).map Marker.comment ++
    (s.headersOf scope).map Outline.wrapperHeader.header

variable {s : Surface} {scope : MarkerScope}

theorem isPlain_declarations (s : Surface) : Field.IsPlain s.declarations.toList := by
  intro c hc
  simp only [declarations, String.toList_join, List.mem_flatMap, List.mem_map,
    List.mem_filterMap] at hc
  obtain ⟨_, ⟨text, ⟨t, ht, htext⟩, rfl⟩, hc⟩ := hc
  have hknown : t ∈ Supplement.known := List.mem_of_mem_filter ht
  rw [String.toList_append, List.mem_append] at hc
  rcases hc with hc | hc
  · exact (show Field.IsPlain "\n".toList by decide) c hc
  · exact Supplement.isPlain_render (Supplement.isIdentified_of_mem_known hknown)
      (Supplement.render_eq_ok_iff.mpr htext) c hc

theorem ne_comment_of_mem_lines_declarations {line : String}
    (h : line ∈ Text.lines s.declarations) (text : String) : line ≠ "// " ++ text := by
  intro heq
  have hslash : '/' ∈ line.toList := by
    simp [heq]
  exact absurd (s.isPlain_declarations '/' (Text.mem_of_mem_lines h hslash)) (by decide)

/-- The C text of the types has neither titles nor directives. -/
theorem outside_of_mem_lines_declarations {line : String}
    (h : line ∈ Text.lines s.declarations) : Outline.wrapperHeader.isTitle line = false ∧
      Outline.wrapperHeader.isHeader line = false := by
  constructor
  · rw [Bool.eq_false_iff, Ne, Outline.isTitle_iff]
    intro htitle
    obtain ⟨scope, heq⟩ := htitle
    obtain ⟨text, htext⟩ := Outline.exists_title_wrapperHeader scope
    exact ne_comment_of_mem_lines_declarations h text (heq.trans htext)
  · rw [Bool.eq_false_iff]
    intro hheader
    have hprefix : "#include".toList <+: line.toList := List.isPrefixOf_iff_prefix.mp hheader
    have hmark : '#' ∈ line.toList := hprefix.subset (by decide)
    exact absurd (s.isPlain_declarations '#' (Text.mem_of_mem_lines h hmark)) (by decide)

theorem outside_of_mem_bannerLines {c : BuildContext} : ∀ line ∈ bannerLines c,
    Outline.wrapperHeader.isTitle line = false ∧ Outline.wrapperHeader.isHeader line = false := by
  cases c <;> decide +kernel

/-- The wrapper header of a surface, block by block. -/
def wrapperLayout (s : Surface) : Outline.wrapperHeader.Layout s where
  lead := bannerLines s.context
  gap := [""]
  body := s.wrapperBody
  tail := Text.lines s.declarations
  outside := by
    intro line hline
    rcases List.mem_append.mp hline with hline | hline
    · rcases List.mem_append.mp hline with hline | hline
      · exact outside_of_mem_bannerLines line hline
      · rw [List.mem_singleton.mp hline]
        decide +kernel
    · exact outside_of_mem_lines_declarations hline
  inside := by
    intro scope _ line hline
    rcases List.mem_append.mp hline with hline | hline
    · obtain ⟨m, -, rfl⟩ := List.mem_map.mp hline
      exact Outline.isTitle_wrapperHeader_comment m
    · obtain ⟨header, -, rfl⟩ := List.mem_map.mp hline
      exact Outline.isTitle_wrapperHeader_header header
  headers := by
    intro scope _
    have hcomments : ((s.markersIn scope).map Marker.comment).filter
        Outline.wrapperHeader.isHeader = [] := by
      refine List.filter_eq_nil_iff.mpr (List.forall_mem_map.mpr fun m _ => ?_)
      rw [Outline.isHeader_wrapperHeader_comment]
      exact Bool.false_ne_true
    have hheaders : ((s.headersOf scope).map Outline.wrapperHeader.header).filter
        Outline.wrapperHeader.isHeader = (s.headersOf scope).map Outline.wrapperHeader.header :=
      List.filter_eq_self.mpr (List.forall_mem_map.mpr fun header _ =>
        Outline.isHeader_wrapperHeader_header header)
    rw [wrapperBody, List.filter_append, hcomments, hheaders, List.nil_append]

theorem toList_supplementBlock (s : Surface) : s.supplementBlock.toList =
    (((if s.supplements.isEmpty then [] else [.supplements]).flatMap fun scope : MarkerScope =>
      "" :: Outline.wrapperHeader.title scope :: s.wrapperBody scope).map String.toList).flatMap
        (· ++ ['\n']) ++ s.declarations.toList := by
  unfold supplementBlock
  cases h : s.supplements.isEmpty with
  | true => simp [declarations, List.isEmpty_iff.mp h]
  | false =>
    simp [blockHead, line, wrapperBody, headersOf, declarations, Outline.wrapperHeader,
      Outline.wrapperTitle, List.flatMap_map]

theorem isLine_of_mem_bannerLines {c : BuildContext} :
    ∀ line ∈ bannerLines c, Text.IsLine line := by
  cases c <;> decide +kernel

theorem isLine_of_mem_wrapperBlock : ∀ line ∈
    "" :: Outline.wrapperHeader.title scope :: s.wrapperBody scope, Text.IsLine line := by
  cases scope with
  | subsystem sub => exact isLine_of_mem_blockLines
  | supplements =>
    have htitle : Text.IsLine (Outline.wrapperHeader.title .supplements) :=
      Text.isLine_of_eq_ofList rfl (by decide)
    refine List.forall_mem_cons.mpr ⟨by decide, List.forall_mem_cons.mpr ⟨htitle, ?_⟩⟩
    intro line hline
    rw [wrapperBody, headersOf, List.map_nil, List.append_nil] at hline
    obtain ⟨m, hm, rfl⟩ := List.mem_map.mp hline
    exact Marker.isLine_comment (mem_all_of_mem_markersIn hm)

theorem lines_wrapperHeader (s : Surface) :
    Text.lines s.wrapperHeader = s.wrapperLayout.lines := by
  refine Text.lines_of_toList (bannerLines s.context ++ s.scopes.flatMap fun scope =>
    [""] ++ Outline.wrapperHeader.title scope :: s.wrapperBody scope) s.declarations ?_ ?_
  · intro line hline
    rcases List.mem_append.mp hline with hline | hline
    · exact isLine_of_mem_bannerLines line hline
    · obtain ⟨scope, -, hline⟩ := List.mem_flatMap.mp hline
      exact isLine_of_mem_wrapperBlock line hline
  · have hblocks : s.lines = (s.subsystems.map MarkerScope.subsystem).flatMap fun scope =>
        "" :: Outline.wrapperHeader.title scope :: s.wrapperBody scope := by
      rw [List.flatMap_map]
      rfl
    have hbanner : (banner s.context).toList =
        ((bannerLines s.context).map String.toList).flatMap (· ++ ['\n']) := by
      simp [banner, bannerLines, line]
    rw [toList_wrapperHeader, toList_supplementBlock, hblocks, hbanner, scopes]
    simp only [List.map_append, List.flatMap_append, List.append_assoc, List.cons_append,
      List.nil_append]

/-! ## Markers in a wrapper header -/

def isComment (line : String) : Bool :=
  Marker.all.any fun m => line = m.comment

theorem isComment_iff {line : String} :
    isComment line = true ↔ ∃ m ∈ Marker.all, line = m.comment := by
  simp [isComment]

theorem isComment_of_mem_outside : ∀ line ∈ s.wrapperLayout.lead ++ s.wrapperLayout.gap ++
    s.wrapperLayout.tail, isComment line = false := by
  intro line hline
  rcases List.mem_append.mp hline with hline | hline
  · have hbanner : ∀ c, ∀ line ∈ bannerLines c ++ [""], isComment line = false := by
      intro c
      cases c <;> decide +kernel
    exact hbanner s.context line hline
  · rw [Bool.eq_false_iff, Ne, isComment_iff]
    intro h
    obtain ⟨m, -, heq⟩ := h
    exact ne_comment_of_mem_lines_declarations hline m.remark heq

/-- The comments of a block are those on the markers of its scope. -/
theorem filter_isComment_block (s : Surface) (scope : MarkerScope) :
    (Outline.wrapperHeader.title scope :: s.wrapperBody scope).filter isComment =
      (s.markersIn scope).map Marker.comment := by
  -- Neither a title nor a header reads as the comment on a marker.
  have htitle : isComment (Outline.wrapperHeader.title scope) = false := by
    rw [Bool.eq_false_iff, Ne, isComment_iff]
    intro h
    obtain ⟨m, -, heq⟩ := h
    have hcomment := Outline.isTitle_wrapperHeader_comment m
    rw [← heq, Outline.isTitle_iff.mpr ⟨scope, rfl⟩] at hcomment
    cases hcomment
  have hcomments : ((s.markersIn scope).map Marker.comment).filter isComment =
      (s.markersIn scope).map Marker.comment :=
    List.filter_eq_self.mpr (List.forall_mem_map.mpr fun m hm =>
      isComment_iff.mpr ⟨m, mem_all_of_mem_markersIn hm, rfl⟩)
  have hheaders : ((s.headersOf scope).map Outline.wrapperHeader.header).filter isComment = [] := by
    refine List.filter_eq_nil_iff.mpr (List.forall_mem_map.mpr fun header _ => ?_)
    rw [isComment_iff]
    intro h
    obtain ⟨m, -, heq⟩ := h
    have hheader := Outline.isHeader_wrapperHeader_header header
    rw [heq, Outline.isHeader_wrapperHeader_comment] at hheader
    cases hheader
  rw [List.filter_cons_of_neg (by simp [htitle]), wrapperBody, List.filter_append, hcomments,
    hheaders, List.append_nil]

/-- The comments of a wrapper header are those on the markers of the surface, block by block. -/
theorem filter_isComment_lines (s : Surface) : (Text.lines s.wrapperHeader).filter isComment =
    (s.scopes.flatMap s.markersIn).map Marker.comment := by
  have hblocks := s.wrapperLayout.filter_lines isComment_of_mem_outside
  have hblock : ∀ scope, (Outline.wrapperHeader.title scope :: s.wrapperLayout.body scope).filter
      isComment = (s.markersIn scope).map Marker.comment := s.filter_isComment_block
  rw [lines_wrapperHeader, hblocks, List.map_flatMap]
  simp only [hblock]

theorem nodup_flatMap_markersIn (s : Surface) : (s.scopes.flatMap s.markersIn).Nodup := by
  have hall : Marker.all.Nodup := by
    decide +kernel
  refine List.nodup_flatMap.mpr ⟨fun scope _ => (hall.filter _).filter _, ?_⟩
  refine s.nodup_scopes.imp fun hne => List.disjoint_left.mpr fun m hm hm' => hne ?_
  have hscope : ∀ {scope}, m ∈ s.markersIn scope → m.scope = scope := fun h => by
    simpa using List.of_mem_filter h
  exact (hscope hm).symm.trans (hscope hm')

theorem eq_of_comment_eq : ∀ m ∈ Marker.all, ∀ m' ∈ Marker.all,
    m.comment = m'.comment → m = m' := by
  decide +kernel

theorem mem_markersIn {m : Marker} (h : m ∈ s.markers) : m ∈ s.markersIn m.scope :=
  List.mem_filter.mpr ⟨h, by simp⟩

theorem count_comment {m : Marker} (h : m ∈ s.markers) :
    (Text.lines s.wrapperHeader).count m.comment = 1 := by
  have hm : isComment m.comment = true := isComment_iff.mpr ⟨m, List.mem_of_mem_filter h, rfl⟩
  have hnodup : ((s.scopes.flatMap s.markersIn).map Marker.comment).Nodup := by
    have hmem : ∀ m ∈ s.scopes.flatMap s.markersIn, m ∈ Marker.all := by
      intro m hm
      obtain ⟨scope, -, hm⟩ := List.mem_flatMap.mp hm
      exact mem_all_of_mem_markersIn hm
    exact s.nodup_flatMap_markersIn.map_on fun m hm m' hm' =>
      eq_of_comment_eq m (hmem m hm) m' (hmem m' hm')
  rw [← List.count_filter hm, filter_isComment_lines]
  exact List.count_eq_one_of_mem hnodup
    (List.mem_map_of_mem (List.mem_flatMap.mpr ⟨m.scope, scope_mem_scopes h, mem_markersIn h⟩))

/-- The comment on a marker stands in the block that the marker is about. -/
theorem standsUnder_comment {m : Marker} (h : m ∈ s.markers) :
    Outline.wrapperHeader.StandsUnder (Text.lines s.wrapperHeader) m.scope m.comment := by
  rw [lines_wrapperHeader]
  exact s.wrapperLayout.standsUnder (scope_mem_scopes h)
    (List.mem_append_left _ (List.mem_map_of_mem (mem_markersIn h)))

end Surface

end KitSurface
