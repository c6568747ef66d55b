import KitSurface.Proofs.Surface.Order
/-!
The surface that a text shows. An outline tells the titles and the headers among the lines of a
text. Main statement: a text that is laid out in blocks, one for each scope, shows the surface that
it was written from (`Outline.Layout.shows`).
-/

namespace KitSurface

/-! ## Outlines -/

/-- Every scope, in the order of the blocks of a surface. -/
def MarkerScope.all : List MarkerScope :=
  Subsystem.all.map .subsystem ++ [.supplements]

theorem MarkerScope.mem_all (scope : MarkerScope) : scope ∈ all := by
  cases scope with
  | subsystem sub => simp [all, Subsystem.mem_all]
  | supplements => simp [all]

theorem MarkerScope.injective_of_nodup {text : MarkerScope → String} (h : (all.map text).Nodup) :
    Function.Injective text :=
  fun _ _ heq => List.inj_on_of_nodup_map h (mem_all _) (mem_all _) heq

/-- How a text writes titles and headers, each on a line of its own, and which of its lines read as
a header. -/
structure Outline where
  title : MarkerScope → String
  header : String → String
  isHeader : String → Bool
  title_injective : Function.Injective title
  header_injective : Function.Injective header
  isHeader_title : ∀ scope, isHeader (title scope) = false

namespace Surface

def scopes (s : Surface) : List MarkerScope :=
  s.subsystems.map .subsystem ++ if s.supplements.isEmpty then [] else [.supplements]

def headersOf (s : Surface) : MarkerScope → List String
  | .subsystem sub => s.headersIn sub
  | .supplements => []

end Surface

namespace Outline

def isTitle (o : Outline) (line : String) : Bool :=
  MarkerScope.all.any fun scope => line = o.title scope

/-- A line stands under the title of a scope: no other title comes between them. -/
def StandsUnder (o : Outline) (lines : List String) (scope : MarkerScope) (line : String) : Prop :=
  ∃ front between back, lines = front ++ o.title scope :: (between ++ line :: back) ∧
    ∀ other ∈ between, o.isTitle other = false

/-- Lines show a surface: their titles are those of its scopes and their headers are its headers,
both in order, and each header stands under the title of its own subsystem. -/
structure Shows (o : Outline) (lines : List String) (s : Surface) : Prop where
  titles : lines.filter o.isTitle = s.scopes.map o.title
  headers : lines.filter o.isHeader = s.headers.map o.header
  own : ∀ g ∈ s.groups, ∀ header ∈ g.headers s.options,
    o.StandsUnder lines (.subsystem g.subsystem) (o.header header)

/-- A text of a surface, block by block. For each scope there are a gap, the title and a body; no
other line is a title, and only lines of bodies are headers. -/
structure Layout (o : Outline) (s : Surface) where
  lead : List String
  gap : List String
  body : MarkerScope → List String
  tail : List String
  outside : ∀ line ∈ lead ++ gap ++ tail, o.isTitle line = false ∧ o.isHeader line = false
  inside : ∀ scope ∈ s.scopes, ∀ line ∈ body scope, o.isTitle line = false
  headers : ∀ scope ∈ s.scopes, (body scope).filter o.isHeader = (s.headersOf scope).map o.header

theorem isTitle_iff {o : Outline} {line : String} :
    o.isTitle line = true ↔ ∃ scope, line = o.title scope := by
  simp [isTitle, MarkerScope.mem_all]

end Outline

/-! ## Scopes -/

namespace Surface

variable {s : Surface} {sub : Subsystem} {scope : MarkerScope}

theorem subsystem_mem_scopes_iff : .subsystem sub ∈ s.scopes ↔ sub ∈ s.subsystems := by
  unfold scopes
  split <;> simp

theorem supplements_mem_scopes_iff : .supplements ∈ s.scopes ↔ s.supplements ≠ [] := by
  unfold scopes
  split <;> simp_all

theorem nodup_scopes (s : Surface) : s.scopes.Nodup := by
  have hsubsystems : (s.subsystems.map MarkerScope.subsystem).Nodup :=
    s.nodup_subsystems.map fun _ _ => MarkerScope.subsystem.inj
  unfold scopes
  split
  · rwa [List.append_nil]
  · refine hsubsystems.append (List.nodup_singleton _) ?_
    simp

theorem scope_mem_scopes {m : Marker} (h : m ∈ s.markers) : m.scope ∈ s.scopes := by
  have hholds : s.holds m.scope = true := by
    simp only [markers, List.mem_filter, Bool.and_eq_true] at h
    exact h.2.2
  cases hm : m.scope with
  | subsystem sub =>
    rw [hm, holds, Bool.not_eq_true', List.isEmpty_eq_false_iff] at hholds
    exact subsystem_mem_scopes_iff.mpr (groupsIn_ne_nil_iff.mp hholds)
  | supplements =>
    rw [hm, holds, Bool.not_eq_true', List.isEmpty_eq_false_iff] at hholds
    exact supplements_mem_scopes_iff.mpr hholds

theorem headers_eq_flatMap_headersOf (s : Surface) : s.headers = s.scopes.flatMap s.headersOf := by
  have hsubsystems : (s.subsystems.map MarkerScope.subsystem).flatMap s.headersOf =
      s.subsystems.flatMap s.headersIn := by
    rw [List.flatMap_map]
    rfl
  rw [headers_eq_flatMap_headersIn, scopes, List.flatMap_append, hsubsystems]
  split <;> simp [headersOf]

end Surface

/-! ## Texts in blocks -/

namespace Outline.Layout

variable {o : Outline} {s : Surface} (l : o.Layout s)

def blocks (scopes : List MarkerScope) : List String :=
  scopes.flatMap fun scope => l.gap ++ o.title scope :: l.body scope

def lines : List String :=
  l.lead ++ l.blocks s.scopes ++ l.tail

/-- Lines with a property that none of the lines outside the blocks has are found block by
block. -/
theorem filter_lines {p : String → Bool} (h : ∀ line ∈ l.lead ++ l.gap ++ l.tail, p line = false) :
    l.lines.filter p = s.scopes.flatMap fun scope => (o.title scope :: l.body scope).filter p := by
  have hnil : ∀ {lines : List String}, (∀ line ∈ lines, p line = false) → lines.filter p = [] :=
    fun hlines => List.filter_eq_nil_iff.mpr fun line hline => by simp [hlines line hline]
  obtain ⟨hfront, htail⟩ := List.forall_mem_append.mp h
  obtain ⟨hlead, hgap⟩ := List.forall_mem_append.mp hfront
  simp only [lines, blocks, List.filter_append, List.filter_flatMap, hnil hlead, hnil hgap, hnil htail,
    List.nil_append, List.append_nil]

theorem standsUnder {scope : MarkerScope} (h : scope ∈ s.scopes) {line : String}
    (hline : line ∈ l.body scope) : o.StandsUnder l.lines scope line := by
  -- The text is cut at the block of the scope, and the block at the line.
  obtain ⟨front, back, hscopes⟩ := List.append_of_mem h
  obtain ⟨between, rest, hbody⟩ := List.append_of_mem hline
  refine ⟨l.lead ++ l.blocks front ++ l.gap, between, rest ++ l.blocks back ++ l.tail, ?_, ?_⟩
  · simp [lines, blocks, hscopes, hbody]
  · intro other hother
    refine l.inside scope h other ?_
    rw [hbody]
    exact List.mem_append_left _ hother

theorem shows : o.Shows l.lines s where
  titles := by
    have hblock : ∀ scope ∈ s.scopes,
        (o.title scope :: l.body scope).filter o.isTitle = [o.title scope] := by
      intro scope hscope
      have hbody : (l.body scope).filter o.isTitle = [] :=
        List.filter_eq_nil_iff.mpr fun line hline => by simp [l.inside scope hscope line hline]
      rw [List.filter_cons_of_pos (isTitle_iff.mpr ⟨scope, rfl⟩), hbody]
    rw [l.filter_lines fun line hline => (l.outside line hline).1,
      List.flatMap_congr hblock, List.map_eq_flatMap]
  headers := by
    have hblock : ∀ scope ∈ s.scopes, (o.title scope :: l.body scope).filter o.isHeader =
        (s.headersOf scope).map o.header := by
      intro scope hscope
      rw [List.filter_cons_of_neg (by simp [o.isHeader_title]), l.headers scope hscope]
    rw [l.filter_lines fun line hline => (l.outside line hline).2,
      List.flatMap_congr hblock, s.headers_eq_flatMap_headersOf, List.map_flatMap]
  own := by
    -- A header line is one of the lines that are left of the body when only headers are kept.
    intro g hg header hheader
    have hscope : .subsystem g.subsystem ∈ s.scopes :=
      Surface.subsystem_mem_scopes_iff.mpr (Surface.mem_subsystems_iff.mpr ⟨g, hg, rfl⟩)
    have hline : o.header header ∈ (l.body (.subsystem g.subsystem)).filter o.isHeader := by
      rw [l.headers _ hscope]
      exact List.mem_map_of_mem (Surface.mem_headersIn_iff.mpr ⟨g, hg, rfl, hheader⟩)
    exact l.standsUnder hscope (List.mem_of_mem_filter hline)

end Outline.Layout

end KitSurface
