import KitSurface.HeaderSearch
import KitSurface.Proofs.Traversal
/-!
What a header search gives. A header is found as the first file that an include path leads to
(`locate_eq_ok_iff`), and a search for all headers of a surface fails with the first header that no
include path leads to (`locateAll_eq_error_iff`). A file can be read unless its bytes are no text
(`read_eq_error_iff`). Of headers with their texts the first one with a conflict decides, and of its
conflicts the first one (`refuseConflicts_eq_error_iff`). The check of a surface has three phases, and
each of them goes over all headers before the next one begins: the files of the headers, their texts,
and the conflicts of these texts with the supplemental types. `Checked` says what comes out, with one
constructor for each phase that can fail and one for a surface that fits.
-/

namespace KitSurface

/-! ## Texts of files -/

namespace FileTree

variable {t : FileTree} {p : Path} {content : List UInt8} {text : String}

/-- A path leads to a file with a text. -/
def HasText (t : FileTree) (p : Path) (text : String) : Prop :=
  ∃ content, t.entry? p = some (.file content) ∧ Text.decode? content = some text

/-- A path leads to a file whose bytes are no text. -/
def HasNoText (t : FileTree) (p : Path) : Prop :=
  ∃ content, t.entry? p = some (.file content) ∧ Text.decode? content = none

theorem isFile_iff : t.isFile p = true ↔ ∃ content, t.entry? p = some (.file content) := by
  rw [isFile, Option.any_eq_true]
  constructor
  · intro h
    obtain ⟨e, he, hfile⟩ := h
    cases e with
    | file content => exact ⟨content, he⟩
    | directory entries => cases hfile
  · intro h
    obtain ⟨content, he⟩ := h
    exact ⟨.file content, he, rfl⟩

theorem read_of_file (h : t.entry? p = some (.file content)) : t.read p =
    match Text.decode? content with
    | some text => .ok text
    | none => .error .notText := by
  unfold entry? at h
  unfold read
  cases hfind : t.find p with
  | error fault =>
    rw [hfind] at h
    cases h
  | ok place =>
    rw [hfind] at h
    have hentry : place.entry = .file content := Option.some.inj h
    simp only [bind, Except.bind, hentry]
    cases Text.decode? content <;> rfl

theorem read_eq_ok_iff (h : t.isFile p = true) : t.read p = .ok text ↔ t.HasText p text := by
  obtain ⟨content, he⟩ := isFile_iff.mp h
  rw [read_of_file he]
  simp only [HasText, he, Option.some.injEq, Entry.file.injEq, exists_eq_left']
  cases Text.decode? content <;> simp

theorem read_eq_error_iff {fault : FileFault} (h : t.isFile p = true) :
    t.read p = .error fault ↔ t.HasNoText p ∧ fault = .notText := by
  obtain ⟨content, he⟩ := isFile_iff.mp h
  rw [read_of_file he]
  simp only [HasNoText, he, Option.some.injEq, Entry.file.injEq, exists_eq_left']
  cases Text.decode? content <;> simp [eq_comm]

end FileTree

/-! ## Searches -/

namespace HeaderSearch

variable {search : HeaderSearch} {s : Surface} {header : String} {f : FoundHeader}
  {found : List FoundHeader} {error : CheckError}

/-- A header is found as the first file that an include path leads to. -/
def Finds (search : HeaderSearch) (header : String) (f : FoundHeader) : Prop :=
  f.header = header ∧ IsFirst (fun p => search.access.isFile p = true)
    (search.includePaths.map (·.join header)) f.path

/-- No include path leads to a header. -/
def Misses (search : HeaderSearch) (header : String) : Prop :=
  ∀ p ∈ search.includePaths, search.access.isFile (p.join header) = false

theorem locate_eq_ok_iff : search.locate header = .ok f ↔ search.Finds header f := by
  simp only [Finds, ← find?_eq_some_iff_isFirst, locate]
  cases (search.includePaths.map (·.join header)).find? search.access.isFile with
  | none => simp
  | some path =>
    obtain ⟨header', path'⟩ := f
    simp [eq_comm]

theorem Finds.unique {f' : FoundHeader} (h : search.Finds header f) (h' : search.Finds header f') :
    f = f' := by
  rw [← locate_eq_ok_iff] at h h'
  exact Except.ok.inj (h.symm.trans h')

theorem Finds.not_misses (h : search.Finds header f) : ¬ search.Misses header := by
  intro hmiss
  obtain ⟨p, hp, heq⟩ := List.mem_map.mp h.2.mem
  have hfile := h.2.1
  rw [← heq, hmiss p hp] at hfile
  cases hfile

theorem locate_eq_error_iff : search.locate header = .error error ↔
    search.Misses header ∧ error = .missingHeader header search.includePaths := by
  have hmiss : search.Misses header ↔
      (search.includePaths.map (·.join header)).find? search.access.isFile = none := by
    simp [Misses]
  rw [hmiss, locate]
  cases (search.includePaths.map (·.join header)).find? search.access.isFile <;> simp [eq_comm]

/-- A search that succeeds gives every header of the surface, in order. -/
theorem locateAll_eq_ok_iff :
    search.locateAll s = .ok found ↔ List.Forall₂ search.Finds s.headers found := by
  simp only [locateAll, mapM_eq_ok_iff, locate_eq_ok_iff]

theorem locateAll_eq_error_iff : search.locateAll s = .error error ↔
    ∃ header, IsFirst search.Misses s.headers header ∧
      error = .missingHeader header search.includePaths := by
  simp only [locateAll, mapM_eq_error_iff, locate_eq_error_iff, exists_and_left, exists_eq,
    and_true]
  exact exists_congr fun header => and_congr_right fun h => and_iff_right h.1

/-- The files that are found are those of the headers, one for each. -/
theorem map_header_of_locateAll (h : search.locateAll s = .ok found) :
    found.map (·.header) = s.headers := by
  have hheaders : List.Forall₂ Eq s.headers (found.map (·.header)) := by
    rw [List.forall₂_map_right_iff]
    exact (locateAll_eq_ok_iff.mp h).imp fun _ _ hf => hf.1.symm
  exact (List.forall₂_eq_eq_eq ▸ hheaders).symm

/-- A search succeeds if some include path leads to every header. -/
theorem exists_locateAll (h : ∀ header ∈ s.headers, ¬ search.Misses header) :
    ∃ found, search.locateAll s = .ok found := by
  cases hall : search.locateAll s with
  | ok found => exact ⟨found, rfl⟩
  | error e =>
    obtain ⟨header, hfirst, -⟩ := locateAll_eq_error_iff.mp hall
    exact absurd hfirst.1 (h header hfirst.mem)

/-! ## Texts of headers -/

theorem readHeader_eq_ok_iff {source : FoundHeader × String} :
    search.readHeader f = .ok source ↔ search.access.read f.path = .ok source.2 ∧ f = source.1 := by
  obtain ⟨f', text⟩ := source
  unfold readHeader
  cases search.access.read f.path <;> simp [and_comm]

theorem readHeader_eq_error_iff : search.readHeader f = .error error ↔
    ∃ fault, search.access.read f.path = .error fault ∧ error = .file ⟨f.path, fault⟩ := by
  unfold readHeader
  cases search.access.read f.path <;> simp [eq_comm]

/-- The texts of headers come with the headers, in their order. -/
theorem of_readAll {sources : List (FoundHeader × String)}
    (h : search.readAll found = .ok sources) : sources.map (·.1) = found ∧
      ∀ source ∈ sources, search.access.read source.1.path = .ok source.2 := by
  have hread := mapM_eq_ok_iff.mp h
  clear h
  induction hread with
  | nil => exact ⟨rfl, nofun⟩
  | cons hsource _ ih =>
    obtain ⟨htext, rfl⟩ := readHeader_eq_ok_iff.mp hsource
    exact ⟨by rw [List.map_cons, ih.1], List.forall_mem_cons.mpr ⟨htext, ih.2⟩⟩

/-- Reading fails with the first header that cannot be read. -/
theorem readAll_eq_error_iff : search.readAll found = .error error ↔
    ∃ f, IsFirst (fun f => ∃ fault, search.access.read f.path = .error fault) found f ∧
      ∃ fault, search.access.read f.path = .error fault ∧ error = .file ⟨f.path, fault⟩ := by
  have hfails : ∀ f : FoundHeader, (∃ e, search.readHeader f = .error e) ↔
      ∃ fault, search.access.read f.path = .error fault := by
    intro f
    simp only [readHeader_eq_error_iff]
    exact ⟨fun ⟨_, fault, h, _⟩ => ⟨fault, h⟩, fun ⟨fault, h⟩ => ⟨_, fault, h, rfl⟩⟩
  simp only [readAll, mapM_eq_error_iff, hfails]
  simp only [readHeader_eq_error_iff]

end HeaderSearch

/-! ## Conflicts -/

namespace Supplement

variable {registry : List Supplement} {text : String} {sources : List (Path × String)}

/-- A header defines a name of a type. -/
def IsDefinedIn (t : Supplement) (text : String) : Prop :=
  ∃ name, t.definitionIn? text = some name

theorem not_isDefinedIn_iff {t : Supplement} :
    ¬ t.IsDefinedIn text ↔ t.definitionIn? text = none := by
  simp [IsDefinedIn, Option.eq_none_iff_forall_ne_some]

theorem conflicts_eq_nil_iff :
    conflicts registry text = [] ↔ ∀ t ∈ registry, ¬ t.IsDefinedIn text := by
  simp only [conflicts, List.filterMap_eq_nil_iff, Option.map_eq_none_iff, not_isDefinedIn_iff]

/-- The first conflict is with the first type that the header defines a name of. -/
theorem head?_conflicts_eq_some_iff {found : Conflict} :
    (conflicts registry text).head? = some found ↔
      IsFirst (·.IsDefinedIn text) registry found.type ∧
        found.type.definitionIn? text = some found.name := by
  obtain ⟨type, name⟩ := found
  induction registry with
  | nil => simp [conflicts, IsFirst]
  | cons t registry ih =>
    unfold conflicts at ih ⊢
    rw [List.filterMap_cons, isFirst_cons]
    cases ht : t.definitionIn? text with
    | none =>
      have hno : ¬ t.IsDefinedIn text := not_isDefinedIn_iff.mpr ht
      simpa only [hno, Option.map_none, false_and, false_or, not_false_eq_true, true_and] using ih
    | some name' =>
      have hyes : t.IsDefinedIn text := ⟨name', ht⟩
      simp only [hyes, Option.map_some, List.head?_cons, Option.some.injEq, Conflict.mk.injEq,
        not_true_eq_false, true_and, false_and, or_false]
      constructor
      · intro h
        obtain ⟨rfl, rfl⟩ := h
        exact ⟨rfl, ht⟩
      · intro h
        obtain ⟨rfl, hname⟩ := h
        exact ⟨rfl, Option.some.inj (ht.symm.trans hname)⟩

/-- A header defines a name of one of the types. -/
def IsTaken (registry : List Supplement) (text : String) : Prop :=
  ∃ t ∈ registry, t.IsDefinedIn text

theorem not_isTaken_iff :
    ¬ IsTaken registry text ↔ ∀ t ∈ registry, t.definitionIn? text = none := by
  simp only [IsTaken, not_exists, not_and, not_isDefinedIn_iff]

theorem refuseConflicts_eq_ok_iff : refuseConflicts registry sources = .ok () ↔
    ∀ source ∈ sources, ¬ IsTaken registry source.2 := by
  induction sources with
  | nil => simp [refuseConflicts]
  | cons source sources ih =>
    obtain ⟨path, text⟩ := source
    have hnil : conflicts registry text = [] ↔ ¬ IsTaken registry text := by
      simp [conflicts_eq_nil_iff, IsTaken]
    rw [refuseConflicts, List.forall_mem_cons, ← ih, ← hnil]
    cases conflicts registry text <;> simp

/-- The first header of which one of the types is taken decides, and the first one of its types. -/
theorem refuseConflicts_eq_error_iff {error : CheckError} :
    refuseConflicts registry sources = .error error ↔
      ∃ source, IsFirst (fun source => IsTaken registry source.2) sources source ∧
        ∃ t name, IsFirst (·.IsDefinedIn source.2) registry t ∧
          t.definitionIn? source.2 = some name ∧ error = .conflict name source.1 := by
  induction sources with
  | nil => simp [refuseConflicts, IsFirst]
  | cons source sources ih =>
    obtain ⟨path, text⟩ := source
    rw [refuseConflicts]
    cases hc : conflicts registry text with
    | nil =>
      have hno : ¬ IsTaken registry text := by
        simpa [IsTaken] using conflicts_eq_nil_iff.mp hc
      simp only [ih, isFirst_cons, hno, false_and, false_or, not_false_eq_true, true_and]
    | cons found rest =>
      obtain ⟨hfirst, hname⟩ := head?_conflicts_eq_some_iff.mp (congrArg List.head? hc)
      have hyes : IsTaken registry text := ⟨found.type, hfirst.mem, hfirst.1⟩
      simp only [isFirst_cons, hyes, true_and, not_true_eq_false, false_and, or_false,
        exists_eq_left, Except.error.injEq]
      constructor
      · intro h
        exact ⟨found.type, found.name, hfirst, hname, h.symm⟩
      · intro h
        obtain ⟨t, name, ht, htname, rfl⟩ := h
        have hfound : (conflicts registry text).head? = some ⟨t, name⟩ :=
          head?_conflicts_eq_some_iff.mpr ⟨ht, htname⟩
        rw [hc] at hfound
        rw [Option.some.inj hfound]

end Supplement

/-! ## The check of a surface -/

namespace HeaderSearch

variable {search : HeaderSearch} {s : Surface} {found : List FoundHeader}

/-- A header that was found has a text. -/
def IsReadable (search : HeaderSearch) (f : FoundHeader) : Prop :=
  ∃ text, search.access.read f.path = .ok text

/-- The text of a header that was found defines a name of a supplemental type of a surface. -/
def Clashes (search : HeaderSearch) (s : Surface) (f : FoundHeader) : Prop :=
  ∃ text, search.access.read f.path = .ok text ∧ Supplement.IsTaken s.supplements text

/-- What the check of a surface gives, whatever files are like. -/
inductive Checked (search : HeaderSearch) (s : Surface) :
    Except CheckError (List FoundHeader) → Prop
  /-- No include path leads to a header, and this is the first one. -/
  | missing {header : String} (h : IsFirst search.Misses s.headers header) :
    Checked search s (.error (.missingHeader header search.includePaths))
  /-- A header cannot be read, and this is the first one. -/
  | unreadable {found : List FoundHeader} {f : FoundHeader} {fault : FileFault}
    (hfound : List.Forall₂ search.Finds s.headers found)
    (h : IsFirst (fun f => ¬ search.IsReadable f) found f)
    (hfault : search.access.read f.path = .error fault) :
    Checked search s (.error (.file ⟨f.path, fault⟩))
  /-- A header defines a name of a supplemental type. The header and the type are the first ones. -/
  | conflict {found : List FoundHeader} {f : FoundHeader} {text : String} {t : Supplement}
    {name : String} (hfound : List.Forall₂ search.Finds s.headers found)
    (htexts : ∀ f ∈ found, search.IsReadable f) (h : IsFirst (search.Clashes s) found f)
    (htext : search.access.read f.path = .ok text)
    (ht : IsFirst (·.IsDefinedIn text) s.supplements t) (hname : t.definitionIn? text = some name) :
    Checked search s (.error (.conflict name f.path))
  /-- Nothing is wrong. -/
  | fits {found : List FoundHeader} (hfound : List.Forall₂ search.Finds s.headers found)
    (htexts : ∀ f ∈ found, search.IsReadable f) (h : ∀ f ∈ found, ¬ search.Clashes s f) :
    Checked search s (.ok found)

theorem check_eq_bind (search : HeaderSearch) (s : Surface) :
    search.check s = (search.locateAll s).bind fun found => (search.readAll found).bind fun sources =>
      (Supplement.refuseConflicts s.supplements
        (sources.map fun source => (source.1.path, source.2))).bind fun _ => .ok found :=
  rfl

theorem not_isReadable_iff {f : FoundHeader} :
    ¬ search.IsReadable f ↔ ∃ fault, search.access.read f.path = .error fault := by
  rw [IsReadable]
  cases search.access.read f.path <;> simp

theorem exists_readAll (h : ∀ f ∈ found, search.IsReadable f) :
    ∃ sources, search.readAll found = .ok sources := by
  cases hread : search.readAll found with
  | ok sources => exact ⟨sources, rfl⟩
  | error e =>
    obtain ⟨f, hfirst, -⟩ := readAll_eq_error_iff.mp hread
    exact absurd (h f hfirst.mem) (not_isReadable_iff.mpr hfirst.1)

section
variable {sources : List (FoundHeader × String)}

/-- A header has one text, so that a clash is one with the text that was read. -/
theorem clashes_iff {source : FoundHeader × String}
    (h : search.access.read source.1.path = .ok source.2) :
    search.Clashes s source.1 ↔ Supplement.IsTaken s.supplements source.2 := by
  simp only [Clashes, h, Except.ok.injEq, exists_eq_left']

variable (htexts : ∀ source ∈ sources, search.access.read source.1.path = .ok source.2)
include htexts

theorem refuseConflicts_eq_ok_iff : Supplement.refuseConflicts s.supplements
      (sources.map fun source => (source.1.path, source.2)) = .ok () ↔
      ∀ f ∈ sources.map (·.1), ¬ search.Clashes s f := by
  rw [Supplement.refuseConflicts_eq_ok_iff, List.forall_mem_map, List.forall_mem_map]
  exact forall₂_congr fun source hsource => not_congr (clashes_iff (htexts source hsource)).symm

theorem refuseConflicts_eq_error_iff {error : CheckError} :
    Supplement.refuseConflicts s.supplements
      (sources.map fun source => (source.1.path, source.2)) = .error error ↔
      ∃ f text t name, IsFirst (search.Clashes s) (sources.map (·.1)) f ∧
        search.access.read f.path = .ok text ∧ IsFirst (·.IsDefinedIn text) s.supplements t ∧
        t.definitionIn? text = some name ∧ error = .conflict name f.path := by
  simp only [Supplement.refuseConflicts_eq_error_iff, isFirst_map]
  have hfirst : ∀ source, IsFirst (fun source => search.Clashes s source.1) sources source ↔
      IsFirst (fun source => Supplement.IsTaken s.supplements source.2) sources source :=
    fun source => isFirst_congr fun source hsource => clashes_iff (htexts source hsource)
  constructor
  · intro h
    obtain ⟨_, ⟨source, rfl, hs⟩, t, name, ht, hname, rfl⟩ := h
    exact ⟨source.1, source.2, t, name, ⟨source, rfl, (hfirst source).mpr hs⟩,
      htexts source hs.mem, ht, hname, rfl⟩
  · intro h
    obtain ⟨_, text, t, name, ⟨source, rfl, hs⟩, htext, ht, hname, rfl⟩ := h
    obtain rfl := Except.ok.inj ((htexts source hs.mem).symm.trans htext)
    exact ⟨_, ⟨source, rfl, (hfirst source).mp hs⟩, t, name, ht, hname, rfl⟩

end

theorem checked_check (search : HeaderSearch) (s : Surface) : search.Checked s (search.check s) := by
  rw [check_eq_bind]
  cases hall : search.locateAll s with
  | error error =>
    obtain ⟨header, hfirst, rfl⟩ := locateAll_eq_error_iff.mp hall
    exact .missing hfirst
  | ok found =>
    have hfound := locateAll_eq_ok_iff.mp hall
    rw [Except.bind]
    cases hread : search.readAll found with
    | error error =>
      obtain ⟨f, hfirst, fault, hfault, rfl⟩ := readAll_eq_error_iff.mp hread
      simp only [← not_isReadable_iff] at hfirst
      exact .unreadable hfound hfirst hfault
    | ok sources =>
      obtain ⟨rfl, hsources⟩ := of_readAll hread
      have htexts : ∀ f ∈ sources.map (·.1), search.IsReadable f :=
        List.forall_mem_map.mpr fun source hsource => ⟨source.2, hsources source hsource⟩
      rw [Except.bind]
      cases hrefuse : Supplement.refuseConflicts s.supplements
          (sources.map fun source => (source.1.path, source.2)) with
      | error error =>
        obtain ⟨f, text, t, name, hfirst, htext, ht, hname, rfl⟩ :=
          (refuseConflicts_eq_error_iff hsources).mp hrefuse
        exact .conflict hfound htexts hfirst htext ht hname
      | ok _ => exact .fits hfound htexts ((refuseConflicts_eq_ok_iff hsources).mp hrefuse)

/-- Once all headers are found and can be read, their texts decide. -/
theorem check_of_texts (hfound : List.Forall₂ search.Finds s.headers found)
    (htexts : ∀ f ∈ found, search.IsReadable f) :
    ∃ sources : List (FoundHeader × String), sources.map (·.1) = found ∧
      (∀ source ∈ sources, search.access.read source.1.path = .ok source.2) ∧
      search.check s = (Supplement.refuseConflicts s.supplements
        (sources.map fun source => (source.1.path, source.2))).bind fun _ => .ok found := by
  obtain ⟨sources, hread⟩ := exists_readAll htexts
  obtain ⟨hmap, hsources⟩ := of_readAll hread
  refine ⟨sources, hmap, hsources, ?_⟩
  rw [check_eq_bind, locateAll_eq_ok_iff.mpr hfound, Except.bind, hread, Except.bind]

theorem Checked.check_eq {r : Except CheckError (List FoundHeader)} (h : search.Checked s r) :
    search.check s = r := by
  cases h with
  | missing h =>
    rw [check_eq_bind, locateAll_eq_error_iff.mpr ⟨_, h, rfl⟩]
    rfl
  | unreadable hfound h hfault =>
    simp only [not_isReadable_iff] at h
    rw [check_eq_bind, locateAll_eq_ok_iff.mpr hfound, Except.bind,
      readAll_eq_error_iff.mpr ⟨_, h, _, hfault, rfl⟩]
    rfl
  | conflict hfound htexts h htext ht hname =>
    obtain ⟨sources, rfl, hsources, hcheck⟩ := check_of_texts hfound htexts
    rw [hcheck, (refuseConflicts_eq_error_iff hsources).mpr ⟨_, _, _, _, h, htext, ht, hname, rfl⟩]
    rfl
  | fits hfound htexts h =>
    obtain ⟨sources, rfl, hsources, hcheck⟩ := check_of_texts hfound htexts
    rw [hcheck, (refuseConflicts_eq_ok_iff hsources).mpr h]
    rfl

/-- A header of a surface that fits: it is found, it can be read, and it defines no name of a
supplemental type. -/
def Suits (search : HeaderSearch) (s : Surface) (header : String) : Prop :=
  ∃ f text, search.Finds header f ∧ search.access.read f.path = .ok text ∧
    ∀ t ∈ s.supplements, t.definitionIn? text = none

theorem Suits.of_finds {header : String} {f : FoundHeader} (h : search.Suits s header)
    (hf : search.Finds header f) : search.IsReadable f ∧ ¬ search.Clashes s f := by
  obtain ⟨f', text, hf', htext, hnone⟩ := h
  obtain rfl := hf.unique hf'
  refine ⟨⟨text, htext⟩, fun hclash => ?_⟩
  obtain ⟨text', htext', htaken⟩ := hclash
  obtain rfl := Except.ok.inj (htext.symm.trans htext')
  exact Supplement.not_isTaken_iff.mpr hnone htaken

theorem exists_check_eq_ok_iff : (∃ found, search.check s = .ok found) ↔
    ∀ header ∈ s.headers, search.Suits s header := by
  constructor
  · rintro ⟨found, hcheck⟩ header hheader
    have hchecked := search.checked_check s
    rw [hcheck] at hchecked
    cases hchecked with
    | fits hfound htexts hclash =>
      obtain ⟨f, hf, hfinds⟩ := exists_mem_of_forall₂ hfound.flip header hheader
      obtain ⟨text, htext⟩ := htexts f hf
      exact ⟨f, text, hfinds, htext,
        Supplement.not_isTaken_iff.mp fun htaken => hclash f hf ⟨text, htext, htaken⟩⟩
  · intro hsuits
    -- What a header is found as does not depend on who asks, so that no phase can fail.
    have hall : ∀ found, List.Forall₂ search.Finds s.headers found →
        ∀ f ∈ found, search.IsReadable f ∧ ¬ search.Clashes s f := by
      intro found hfound f hf
      obtain ⟨header, hheader, hfinds⟩ := exists_mem_of_forall₂ hfound f hf
      exact (hsuits header hheader).of_finds hfinds
    have hchecked := search.checked_check s
    generalize search.check s = r at hchecked ⊢
    cases hchecked with
    | missing hfirst =>
      obtain ⟨f, text, hfinds, -⟩ := hsuits _ hfirst.mem
      exact absurd hfirst.1 hfinds.not_misses
    | unreadable hfound hfirst => exact absurd (hall _ hfound _ hfirst.mem).1 hfirst.1
    | conflict hfound _ hfirst => exact absurd hfirst.1 (hall _ hfound _ hfirst.mem).2
    | fits => exact ⟨_, rfl⟩

end HeaderSearch

end KitSurface
