import KitSurface.Proofs.HeaderSearch
import KitSurface.Proofs.Surface.Wrapper
import KitSurface.Surface.Text
/-!
The outline of a listing, in which titles are not indented and headers are indented by four spaces.
Its lines are laid out in blocks (`lines_listing`). Main statement: the wrapper header, the listing
and a header search see the headers of a surface, each once and in one order; both texts have each
header under the title of its own subsystem, and the wrapper header has each marker once, in the
block that the marker is about (`wrapperHeader_listing_locateAll_agree`).
-/

namespace KitSurface

namespace Outline

/-- The number of spaces that a line starts with. -/
def indent (line : String) : Nat :=
  (line.toList.takeWhile fun c => c = ' ').length

def listingTitle : MarkerScope → String
  | .subsystem sub => sub.name ++ " (" ++ sub.title ++ ")"
  | .supplements => "supplemental types"

theorem listingTitle_injective : Function.Injective listingTitle :=
  MarkerScope.injective_of_nodup (by decide +kernel)

theorem indent_listingTitle (scope : MarkerScope) : indent (listingTitle scope) = 0 := by
  rcases scope with sub | _
  · cases sub <;> decide +kernel
  · decide +kernel

theorem indented_injective : Function.Injective fun name : String => "    " ++ name := by
  intro a b h
  simpa [← String.toList_inj] using h

/-- In a listing titles are not indented, and headers are indented by four spaces. -/
def listing : Outline where
  title := listingTitle
  header name := "    " ++ name
  isHeader line := indent line = 4
  title_injective := listingTitle_injective
  header_injective := indented_injective
  isHeader_title scope := decide_eq_false (by rw [indent_listingTitle]; decide)

theorem indent_indentation_append (columns : Nat) {text : String}
    (h : text.toList.head? ≠ some ' ') : indent (indentation columns ++ text) = columns := by
  have hrest : text.toList.takeWhile (fun c => c = ' ') = [] := by
    cases htext : text.toList with
    | nil => rfl
    | cons c rest =>
      rw [htext] at h
      exact List.takeWhile_cons_of_neg (by simpa using h)
  have hspaces : ∀ c ∈ List.replicate columns ' ', decide (c = ' ') = true :=
    fun c hc => decide_eq_true (List.eq_of_mem_replicate hc)
  rw [indent, String.toList_append, Field.toList_indentation,
    List.takeWhile_append_of_pos hspaces, hrest, List.append_nil, List.length_replicate]

theorem isTitle_listing_of_indent {line : String} (h : indent line ≠ 0) :
    listing.isTitle line = false := by
  rw [Bool.eq_false_iff, Ne, isTitle_iff]
  intro htitle
  obtain ⟨scope, rfl⟩ := htitle
  exact h (indent_listingTitle scope)

theorem isHeader_listing_iff {line : String} : listing.isHeader line = true ↔ indent line = 4 := by
  simp [listing]

end Outline

namespace Group

/-- Behind the spaces of an indented line there is a name, which has no space in front. -/
theorem head?_name (g : Group) : g.name.toList.head? ≠ some ' ' := by
  cases g <;> decide

theorem head?_of_mem_headers {g : Group} {o : Options} {header : String}
    (h : header ∈ g.headers o) : header.toList.head? ≠ some ' ' := by
  cases g <;> revert header <;> simp [headers]

end Group

namespace Surface

variable {s : Surface} {scope : MarkerScope}

def groupLine (g : Group) : String :=
  "  " ++ g.name

/-- The line of a supplemental type in a listing. -/
def supplementLine (t : Supplement) : String :=
  "  " ++ t.tag ++ " (" ++ t.typedefName ++ ", " ++ t.pointerName ++ "): " ++ t.reason

/-- What stands below the title of a scope in a listing. -/
def listingBody (s : Surface) : MarkerScope → List String
  | .subsystem sub => (s.groupsIn sub).flatMap fun g =>
    groupLine g :: (g.headers s.options).map Outline.listing.header
  | .supplements => s.supplements.map supplementLine

theorem indent_groupLine (g : Group) : Outline.indent (groupLine g) = 2 :=
  Outline.indent_indentation_append 2 g.head?_name

theorem indent_header {g : Group} {o : Options} {header : String} (h : header ∈ g.headers o) :
    Outline.indent (Outline.listing.header header) = 4 :=
  Outline.indent_indentation_append 4 (Group.head?_of_mem_headers h)

theorem indent_supplementLine {t : Supplement} (h : t ∈ Supplement.known) :
    Outline.indent (supplementLine t) = 2 := by
  have htag := (Supplement.isIdentified_of_mem_known h).tag
  simp only [supplementLine, String.append_assoc]
  refine Outline.indent_indentation_append 2 fun hhead => ?_
  obtain ⟨c, rest, heq⟩ := List.exists_cons_of_ne_nil htag.1
  have hc : c = ' ' := by
    simpa [heq] using hhead
  exact htag.not_mem (c := ' ') (by decide) (by simp [heq, hc])

def listingLayout (s : Surface) : Outline.listing.Layout s where
  lead := ["build context: " ++ s.context.name]
  gap := []
  body := s.listingBody
  tail := []
  outside := by
    cases s.context <;> decide +kernel
  inside := by
    intro scope _ line hline
    refine Outline.isTitle_listing_of_indent ?_
    cases scope with
    | subsystem sub =>
      obtain ⟨g, -, hline⟩ := List.mem_flatMap.mp hline
      rcases List.mem_cons.mp hline with rfl | hline
      · simp [indent_groupLine]
      · obtain ⟨header, hheader, rfl⟩ := List.mem_map.mp hline
        simp [indent_header hheader]
    | supplements =>
      obtain ⟨t, ht, rfl⟩ := List.mem_map.mp hline
      simp [indent_supplementLine (List.mem_of_mem_filter ht)]
  headers := by
    intro scope _
    cases scope with
    | subsystem sub =>
      have hgroup : ∀ g : Group, (groupLine g :: (g.headers s.options).map
          Outline.listing.header).filter Outline.listing.isHeader =
            (g.headers s.options).map Outline.listing.header := by
        intro g
        have hname : ¬ Outline.listing.isHeader (groupLine g) = true := by
          rw [Outline.isHeader_listing_iff, indent_groupLine]
          decide
        rw [List.filter_cons_of_neg hname, List.filter_eq_self]
        exact List.forall_mem_map.mpr fun header hheader =>
          Outline.isHeader_listing_iff.mpr (indent_header hheader)
      simp only [listingBody, List.filter_flatMap, hgroup, headersOf, headersIn, List.map_flatMap]
    | supplements =>
      refine List.filter_eq_nil_iff.mpr (List.forall_mem_map.mpr fun t ht => ?_)
      rw [Outline.isHeader_listing_iff, indent_supplementLine (List.mem_of_mem_filter ht)]
      decide

theorem isLine_supplementLine {t : Supplement} (h : t ∈ Supplement.known) :
    Text.IsLine (supplementLine t) := by
  have ht := Supplement.isIdentified_of_mem_known h
  have hname : ∀ {name : String}, Header.IsIdentifier name.toList → Text.IsLine name :=
    fun hidentifier => ⟨hidentifier.not_mem (by decide), hidentifier.not_mem (by decide)⟩
  have hreason : Text.IsLine t.reason := by
    simp only [Supplement.known, List.mem_cons, List.not_mem_nil, or_false] at h
    rcases h with rfl | rfl <;>
      exact Text.isLine_append.mpr ⟨Text.isLine_of_eq_ofList rfl (by decide),
        Text.isLine_of_eq_ofList rfl (by decide)⟩
  simp only [supplementLine, Text.isLine_append]
  exact ⟨⟨⟨⟨⟨⟨⟨by decide, hname ht.tag⟩, by decide⟩, hname ht.typedefName⟩, by decide⟩,
    hname ht.pointerName⟩, by decide⟩, hreason⟩

theorem isLine_of_mem_listingBlock : ∀ line ∈
    Outline.listing.title scope :: s.listingBody scope, Text.IsLine line := by
  cases scope with
  | subsystem sub =>
    have htitle : Text.IsLine (Outline.listing.title (.subsystem sub)) := by
      cases sub <;> decide +kernel
    refine List.forall_mem_cons.mpr ⟨htitle, fun line hline => ?_⟩
    obtain ⟨g, -, hline⟩ := List.mem_flatMap.mp hline
    rcases List.mem_cons.mp hline with rfl | hline
    · exact Text.isLine_append.mpr ⟨by decide, g.isLine_name⟩
    · obtain ⟨header, hheader, rfl⟩ := List.mem_map.mp hline
      exact Text.isLine_append.mpr ⟨by decide, Group.isLine_of_mem_headers hheader⟩
  | supplements =>
    refine List.forall_mem_cons.mpr ⟨by decide, List.forall_mem_map.mpr fun t ht => ?_⟩
    exact isLine_supplementLine (List.mem_of_mem_filter ht)

theorem lines_listing (s : Surface) : Text.lines s.listing = s.listingLayout.lines := by
  have hcontext : Text.IsLine ("build context: " ++ s.context.name) := by
    cases s.context <;> decide +kernel
  refine Text.lines_of_toList (("build context: " ++ s.context.name) ::
    s.scopes.flatMap fun scope => Outline.listing.title scope :: s.listingBody scope) "" ?_ ?_
  · refine List.forall_mem_cons.mpr ⟨hcontext, fun line hline => ?_⟩
    obtain ⟨scope, -, hline⟩ := List.mem_flatMap.mp hline
    exact isLine_of_mem_listingBlock line hline
  · have hgroup : ∀ g : Group, (s.groupListing g).toList = ((groupLine g ::
        (g.headers s.options).map Outline.listing.header).map String.toList).flatMap
          (· ++ ['\n']) := by
      intro g
      simp [groupListing, groupLine, line, Outline.listing, List.flatMap_map]
    have hsubsystem : ∀ sub : Subsystem, (s.subsystemListing sub).toList =
        ((Outline.listing.title (.subsystem sub) :: s.listingBody (.subsystem sub)).map
          String.toList).flatMap (· ++ ['\n']) := by
      intro sub
      simp [subsystemListing, line, Outline.listing, Outline.listingTitle, listingBody, hgroup,
        List.flatMap_map, List.flatMap_assoc]
    have hsupplement : ∀ t : Supplement, (supplementListing t).toList =
        (supplementLine t).toList ++ ['\n'] := by
      intro t
      simp [supplementListing, supplementLine, line]
    cases h : s.supplements.isEmpty <;>
      simp [listing, h, scopes, hsubsystem, hsupplement, line, listingBody, Outline.listing,
        Outline.listingTitle, List.flatMap_map, List.flatMap_assoc]

/-! ## What texts and searches agree on -/

/-- **The wrapper header, the listing and a header search see the same surface.** The headers of a
surface are the headers of both texts and of every search that finds them, in one order and each
once, below the titles of their subsystems. Each marker has one comment in the wrapper header, in
the block that it is about. -/
theorem wrapperHeader_listing_locateAll_agree (s : Surface) :
    s.headers.Nodup ∧ s.subsystems.Pairwise (fun a b => a.rank < b.rank) ∧
    Outline.wrapperHeader.Shows (Text.lines s.wrapperHeader) s ∧
    Outline.listing.Shows (Text.lines s.listing) s ∧
    (∀ search : HeaderSearch,
      (∀ header ∈ s.headers, ∃ p ∈ search.includePaths,
        search.access.isFile (p.join header) = true) →
      ∃ found, search.locateAll s = .ok found ∧ found.map (·.header) = s.headers) ∧
    ∀ m ∈ s.markers, (Text.lines s.wrapperHeader).count m.comment = 1 ∧
      Outline.wrapperHeader.StandsUnder (Text.lines s.wrapperHeader) m.scope m.comment := by
  refine ⟨s.nodup_headers, s.pairwise_subsystems, ?_, ?_, ?_, ?_⟩
  · rw [lines_wrapperHeader]
    exact s.wrapperLayout.shows
  · rw [lines_listing]
    exact s.listingLayout.shows
  · intro search hfound
    have hmiss : ∀ header ∈ s.headers, ¬ search.Misses header := by
      intro header hheader hmiss
      obtain ⟨p, hp, hfile⟩ := hfound header hheader
      rw [hmiss p hp] at hfile
      cases hfile
    obtain ⟨found, hall⟩ := HeaderSearch.exists_locateAll hmiss
    exact ⟨found, hall, HeaderSearch.map_header_of_locateAll hall⟩
  · exact fun m hm => ⟨count_comment hm, standsUnder_comment hm⟩

/-- Where every file is there, all headers of kernel mode are found, and the wrapper header has the
comment on the supplemental types once. -/
theorem wrapperHeader_listing_locateAll_agree_kernelMode :
    (∀ header ∈ (⟨.kernelMode, .default⟩ : Surface).headers, ∃ p ∈ [Path.mk "km"],
      (fun _ : Path => true) (p.join header) = true) ∧
    (∃ found, HeaderSearch.locateAll ⟨[⟨"km"⟩], ⟨fun _ => true, fun _ => .ok ""⟩⟩
      ⟨.kernelMode, .default⟩ = .ok found ∧
        found.map (·.header) = (⟨.kernelMode, .default⟩ : Surface).headers) ∧
    ∃ m ∈ (⟨.kernelMode, .default⟩ : Surface).markers, m.scope = .supplements ∧
      (Text.lines (⟨.kernelMode, .default⟩ : Surface).wrapperHeader).count m.comment = 1 := by
  obtain ⟨-, -, -, -, hsearch, hmarkers⟩ :=
    wrapperHeader_listing_locateAll_agree ⟨.kernelMode, .default⟩
  have hfile : ∀ header ∈ (⟨.kernelMode, .default⟩ : Surface).headers, ∃ p ∈ [Path.mk "km"],
      (fun _ : Path => true) (p.join header) = true :=
    fun _ _ => ⟨⟨"km"⟩, List.mem_cons_self, rfl⟩
  have hmarker : ∃ m ∈ (⟨.kernelMode, .default⟩ : Surface).markers, m.scope = .supplements := by
    decide
  obtain ⟨m, hm, hscope⟩ := hmarker
  exact ⟨hfile, hsearch ⟨[⟨"km"⟩], ⟨fun _ => true, fun _ => .ok ""⟩⟩ hfile,
    m, hm, hscope, (hmarkers m hm).1⟩

end Surface

end KitSurface
