import KitSurface.Proofs.Config.Check
/-!
The order of the include paths in a search. A header is found below the first path that it is a file
below (`HeaderSearch.finds_iff`), so that paths behind all others change nothing for a header that is
found (`HeaderSearch.Finds.append`), and neither does it to leave a path out below which the header
is not found (`HeaderSearch.finds_without_iff`). Main statement: what a search for all headers of a
surface gives, and when it gives the same on other paths (`HeaderSearch.locateAll_stable`).
-/

namespace KitSurface

namespace HeaderSearch

variable {access : FileAccess} {front back paths more : List Path} {p : Path} {header : String}
  {f : FoundHeader} {s : Surface} {found : List FoundHeader}

/-- A header is a file below a path. -/
def IsBelow (access : FileAccess) (header : String) (p : Path) : Prop :=
  access.isFile (p.join header) = true

/-- A header is found below the path that stands behind some others: it is no file below them. -/
def IsFoundBehind (access : FileAccess) (front : List Path) (p : Path) (header : String) : Prop :=
  IsBelow access header p ∧ ∀ q ∈ front, ¬ IsBelow access header q

theorem finds_iff : Finds ⟨paths, access⟩ header f ↔
    ∃ p, IsFirst (IsBelow access header) paths p ∧ f = ⟨header, p.join header⟩ := by
  obtain ⟨header', path⟩ := f
  simp only [Finds, isFirst_map, FoundHeader.mk.injEq]
  constructor
  · rintro ⟨rfl, p, rfl, hfirst⟩
    exact ⟨p, hfirst, rfl, rfl⟩
  · rintro ⟨p, hfirst, rfl, rfl⟩
    exact ⟨rfl, p, rfl, hfirst⟩

theorem misses_iff : Misses ⟨paths, access⟩ header ↔ ∀ p ∈ paths, ¬ IsBelow access header p := by
  simp only [Misses, IsBelow, Bool.not_eq_true]

theorem Finds.append (h : Finds ⟨paths, access⟩ header f) (more : List Path) :
    Finds ⟨paths ++ more, access⟩ header f := by
  obtain ⟨p, hfirst, rfl⟩ := finds_iff.mp h
  exact finds_iff.mpr ⟨p, isFirst_append.mpr (Or.inl hfirst), rfl⟩

/-! ## Without one path -/

section
variable (h : ¬ IsFoundBehind access front p header)
include h

theorem exists_isBelow_of_isBelow (hp : IsBelow access header p) :
    ∃ q ∈ front, IsBelow access header q := by
  by_contra hfront
  exact h ⟨hp, fun q hq hbelow => hfront ⟨q, hq, hbelow⟩⟩

theorem finds_without_iff :
    Finds ⟨front ++ back, access⟩ header f ↔ Finds ⟨front ++ p :: back, access⟩ header f := by
  rw [finds_iff, finds_iff]
  simp only [isFirst_append_cons (exists_isBelow_of_isBelow h)]

theorem misses_without_iff :
    Misses ⟨front ++ back, access⟩ header ↔ Misses ⟨front ++ p :: back, access⟩ header := by
  have hp : (∀ q ∈ front, ¬ IsBelow access header q) → ¬ IsBelow access header p :=
    fun hfront hbelow => h ⟨hbelow, hfront⟩
  rw [misses_iff, misses_iff, List.forall_mem_append, List.forall_mem_append, List.forall_mem_cons]
  exact and_congr_right fun hfront => (and_iff_right (hp hfront)).symm

end

/-! ## All headers of a surface -/

theorem exists_locateAll_iff : (∃ found, locateAll ⟨paths, access⟩ s = .ok found) ↔
    ∀ header ∈ s.headers, ∃ p ∈ paths, IsBelow access header p := by
  constructor
  · rintro ⟨found, hfound⟩ header hheader
    obtain ⟨f, -, hfinds⟩ := exists_mem_of_forall₂ (locateAll_eq_ok_iff.mp hfound).flip header hheader
    obtain ⟨p, hfirst, -⟩ := finds_iff.mp hfinds
    exact ⟨p, hfirst.mem, hfirst.1⟩
  · intro h
    refine exists_locateAll fun header hheader hmiss => ?_
    obtain ⟨p, hp, hbelow⟩ := h header hheader
    exact misses_iff.mp hmiss p hp hbelow

/-- **A search gives for every header the file below the first path that has one, and fails for the
first header that no path has. Paths behind the others leave what is found, and without a path below
which no header is found the search gives the same.** -/
theorem locateAll_stable (access : FileAccess) (paths : List Path) (s : Surface) :
    ((∃ found, locateAll ⟨paths, access⟩ s = .ok found) ↔
      ∀ header ∈ s.headers, ∃ p ∈ paths, IsBelow access header p) ∧
    (∀ found, locateAll ⟨paths, access⟩ s = .ok found ↔ List.Forall₂ (fun header f =>
      ∃ p, IsFirst (IsBelow access header) paths p ∧ f = ⟨header, p.join header⟩) s.headers found) ∧
    (∀ error, locateAll ⟨paths, access⟩ s = .error error ↔
      ∃ header, IsFirst (fun header => ∀ p ∈ paths, ¬ IsBelow access header p) s.headers header ∧
        error = .missingHeader header paths) ∧
    (∀ more found, locateAll ⟨paths, access⟩ s = .ok found →
      locateAll ⟨paths ++ more, access⟩ s = .ok found) ∧
    ∀ front p back, paths = front ++ p :: back →
      (∀ header ∈ s.headers, ¬ IsFoundBehind access front p header) →
      (∀ found, locateAll ⟨front ++ back, access⟩ s = .ok found ↔
        locateAll ⟨paths, access⟩ s = .ok found) ∧
      ∀ header, locateAll ⟨front ++ back, access⟩ s =
          .error (.missingHeader header (front ++ back)) ↔
        locateAll ⟨paths, access⟩ s = .error (.missingHeader header paths) := by
  have hfinds : Finds ⟨paths, access⟩ = fun header f =>
      ∃ p, IsFirst (IsBelow access header) paths p ∧ f = ⟨header, p.join header⟩ :=
    funext fun header => funext fun f => propext finds_iff
  have hmisses : Misses ⟨paths, access⟩ = fun header => ∀ p ∈ paths, ¬ IsBelow access header p :=
    funext fun header => propext misses_iff
  refine ⟨exists_locateAll_iff, fun found => hfinds ▸ locateAll_eq_ok_iff,
    fun error => hmisses ▸ locateAll_eq_error_iff, fun more found hfound => ?_, ?_⟩
  · exact locateAll_eq_ok_iff.mpr ((locateAll_eq_ok_iff.mp hfound).imp fun _ _ h => h.append more)
  · rintro front p back rfl hunused
    constructor
    · intro found
      rw [locateAll_eq_ok_iff, locateAll_eq_ok_iff]
      exact forall₂_congr_of_mem fun header hheader f => finds_without_iff (hunused header hheader)
    · intro header
      have hfirst : ∀ header', IsFirst (Misses ⟨front ++ back, access⟩) s.headers header' ↔
          IsFirst (Misses ⟨front ++ p :: back, access⟩) s.headers header' := fun header' =>
        isFirst_congr fun header'' hheader => misses_without_iff (hunused header'' hheader)
      simp only [locateAll_eq_error_iff, hfirst, CheckError.missingHeader.injEq, and_true]

/-- A build whose headers are all below one path finds them behind a path that has none, without
this path, and whatever stands behind both. -/
theorem locateAll_umdfKit : ∃ found,
    locateAll ⟨[⟨"/Include/10/um"⟩, ⟨"/Include/10/km/crt"⟩], Config.umdfKit.access⟩
      Config.umdfBuild.surface = .ok found ∧
    locateAll ⟨[⟨"/Include/10/km/crt"⟩], Config.umdfKit.access⟩
      Config.umdfBuild.surface = .ok found ∧
    ∀ more, locateAll ⟨[⟨"/Include/10/um"⟩, ⟨"/Include/10/km/crt"⟩] ++ more, Config.umdfKit.access⟩
      Config.umdfBuild.surface = .ok found := by
  have hcrt : ∀ header ∈ Config.umdfBuild.surface.headers,
      Config.umdfKit.isFile ((Path.mk "/Include/10/km/crt").join header) = true := by
    decide +kernel
  have hum : ∀ header ∈ Config.umdfBuild.surface.headers,
      Config.umdfKit.isFile ((Path.mk "/Include/10/um").join header) = false := by
    decide +kernel
  obtain ⟨hsome, -, -, happend, hremove⟩ := locateAll_stable Config.umdfKit.access
    [⟨"/Include/10/um"⟩, ⟨"/Include/10/km/crt"⟩] Config.umdfBuild.surface
  obtain ⟨found, hfound⟩ := hsome.mpr fun header hheader =>
    ⟨⟨"/Include/10/km/crt"⟩, by simp, hcrt header hheader⟩
  have hunused : ∀ header ∈ Config.umdfBuild.surface.headers,
      ¬ IsFoundBehind Config.umdfKit.access [] ⟨"/Include/10/um"⟩ header := fun header hheader h =>
    absurd h.1 (ne_true_of_eq_false (hum header hheader))
  obtain ⟨hsame, -⟩ := hremove [] ⟨"/Include/10/um"⟩ [⟨"/Include/10/km/crt"⟩] rfl hunused
  exact ⟨found, hfound, (hsame found).mpr hfound, fun more => happend more found hfound⟩

end HeaderSearch

end KitSurface
