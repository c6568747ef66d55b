import KitSurface.Proofs.HeaderSearch
/-!
What the check of a build says. The include paths come first, and then the phases of the check of its
surface (`HeaderSearch.Checked`) on the files of the tree. Main statement: the check gives what
`Checked` says and nothing else; it succeeds exactly if every header is found, can be read and defines
none of the types; and there is no conflict under the user-mode framework (`check_eq_iff_checked`).
-/

namespace KitSurface.Config

variable {c : Config} {tree : FileTree} {paths : List Path}

/-- What the check of a build gives. -/
inductive Checked (c : Config) (tree : FileTree) : Except CheckError (List FoundHeader) → Prop
  /-- The include paths cannot be told. -/
  | unpathed {error : ConfigError} (h : c.includePaths tree = .error error) :
    Checked c tree (.error (.config error))
  /-- The surface is checked on the files below the include paths. -/
  | searched {paths : List Path} {r : Except CheckError (List FoundHeader)}
    (hpaths : c.includePaths tree = .ok paths)
    (h : HeaderSearch.Checked ⟨paths, tree.access⟩ c.surface r) : Checked c tree r

theorem check_of_includePaths_error {error : ConfigError}
    (h : c.includePaths tree = .error error) : c.check tree = .error (.config error) := by
  rw [check, searchPaths, h]
  rfl

theorem check_of_includePaths_ok (h : c.includePaths tree = .ok paths) :
    c.check tree = HeaderSearch.check ⟨paths, tree.access⟩ c.surface := by
  rw [check, searchPaths, h]
  rfl

theorem checked_check (c : Config) (tree : FileTree) : c.Checked tree (c.check tree) := by
  cases hpaths : c.includePaths tree with
  | error error =>
    rw [check_of_includePaths_error hpaths]
    exact .unpathed hpaths
  | ok paths =>
    rw [check_of_includePaths_ok hpaths]
    exact .searched hpaths (HeaderSearch.checked_check _ _)

theorem Checked.check_eq {r : Except CheckError (List FoundHeader)} (h : c.Checked tree r) :
    c.check tree = r := by
  cases h with
  | unpathed h => exact check_of_includePaths_error h
  | searched hpaths h => exact (check_of_includePaths_ok hpaths).trans h.check_eq

/-! ## The files of a tree -/

/-- A header of a surface that fits: it is found, it can be read, and it defines no name of a
supplemental type. -/
def Suits (c : Config) (tree : FileTree) (paths : List Path) (header : String) : Prop :=
  ∃ f text, HeaderSearch.Finds ⟨paths, tree.access⟩ header f ∧ tree.HasText f.path text ∧
    ∀ t ∈ c.surface.supplements, t.definitionIn? text = none

section
variable {header : String} {f : FoundHeader} (h : HeaderSearch.Finds ⟨paths, tree.access⟩ header f)
include h

theorem read_of_finds_eq_ok_iff {text : String} :
    tree.access.read f.path = .ok text ↔ tree.HasText f.path text :=
  FileTree.read_eq_ok_iff h.2.1

/-- In a tree a header that is found cannot be read only because its bytes are no text. -/
theorem read_of_finds_eq_error_iff {fault : FileFault} :
    tree.access.read f.path = .error fault ↔ tree.HasNoText f.path ∧ fault = .notText :=
  FileTree.read_eq_error_iff h.2.1

end

theorem suits_iff {header : String} : c.Suits tree paths header ↔
    HeaderSearch.Suits ⟨paths, tree.access⟩ c.surface header := by
  refine exists₂_congr fun f text => and_congr_right fun hfinds => and_congr_left' ?_
  exact (read_of_finds_eq_ok_iff hfinds).symm

theorem exists_check_eq_ok_iff : (∃ found, c.check tree = .ok found) ↔
    ∃ paths, c.includePaths tree = .ok paths ∧
      ∀ header ∈ c.surface.headers, c.Suits tree paths header := by
  simp only [suits_iff, ← HeaderSearch.exists_check_eq_ok_iff]
  cases hpaths : c.includePaths tree with
  | error error => simp [check_of_includePaths_error hpaths]
  | ok paths => simp [check_of_includePaths_ok hpaths]

/-- No supplemental type is part of a surface of the user-mode framework. -/
theorem supplements_umdf (h : c.context = .umdf) : c.surface.supplements = [] := by
  rw [Surface.supplements, surface, h]
  rfl

/-- **The check of a build, phase by phase.** It gives what the first phase that fails says, and the
files of the headers if none fails. A header that is found in a tree cannot be read exactly if its
bytes are no text. -/
theorem check_eq_iff_checked (c : Config) (tree : FileTree) :
    (∀ r, c.check tree = r ↔ c.Checked tree r) ∧
    (∀ paths header f fault, HeaderSearch.Finds ⟨paths, tree.access⟩ header f →
      (tree.access.read f.path = .error fault ↔ tree.HasNoText f.path ∧ fault = .notText)) ∧
    (∀ found, c.check tree = .ok found → found.map (·.header) = c.surface.headers) ∧
    ((∃ found, c.check tree = .ok found) ↔ ∃ paths, c.includePaths tree = .ok paths ∧
      ∀ header ∈ c.surface.headers, c.Suits tree paths header) ∧
    (c.context = .umdf → ∀ name path, c.check tree ≠ .error (.conflict name path)) := by
  have hchecked : ∀ r, c.check tree = r ↔ c.Checked tree r :=
    fun r => ⟨fun h => h ▸ c.checked_check tree, Checked.check_eq⟩
  refine ⟨hchecked, fun paths header f fault hfinds => read_of_finds_eq_error_iff hfinds,
    fun found h => ?_, exists_check_eq_ok_iff, fun hc name path h => ?_⟩
  · cases (hchecked _).mp h with
    | searched hpaths hsurface =>
      cases hsurface with
      | fits hfound =>
        exact HeaderSearch.map_header_of_locateAll (HeaderSearch.locateAll_eq_ok_iff.mpr hfound)
  · cases (hchecked _).mp h with
    | searched hpaths hsurface =>
      cases hsurface with
      | conflict _ _ _ _ ht _ =>
        have hmem := ht.mem
        rw [supplements_umdf hc] at hmem
        cases hmem

/-- A kit whose first include directory has the headers of a build on the user-mode framework, each
of them empty. -/
def umdfKit : FileTree where
  root := .directory
    [("Include", .directory
      [("10", .directory
        [("km", .directory [("crt", .directory
          [("windows.h", .file []), ("spb.h", .file []),
           ("spb", .directory [("1.1", .directory [("spbcx.h", .file [])])]),
           ("reshub.h", .file []), ("pwmutil.h", .file []), ("gpio.h", .file []),
           ("gpioclx.h", .file []), ("ntddpar.h", .file []), ("parallel.h", .file []),
           ("ntddser.h", .file []), ("wdf.h", .file []), ("wdfusb.h", .file []),
           ("TraceLoggingProvider.h", .file [])])]),
         ("um", .directory []), ("shared", .directory [])]),
       ("wdf", .directory [("umdf", .directory [("2.33", .directory [])])])])]
  current := []

/-- A build on the newest user-mode framework of a kit. -/
def umdfBuild : Config where
  root := ⟨"/"⟩
  architecture := .amd64
  context := .umdf
  sdkVersion := some "10"

/-- The surface of a build on the user-mode framework fits a kit that has all its headers. -/
theorem check_umdfBuild : umdfBuild.context = .umdf ∧
    ∃ found, umdfBuild.check umdfKit = .ok found ∧
      found.map (·.header) = umdfBuild.surface.headers ∧
      ∀ name path, umdfBuild.check umdfKit ≠ .error (.conflict name path) := by
  have hok : (umdfBuild.check umdfKit).toOption.isSome = true := by decide +kernel
  obtain ⟨-, -, hheaders, -, humdf⟩ := check_eq_iff_checked umdfBuild umdfKit
  cases hcheck : umdfBuild.check umdfKit with
  | error e => rw [hcheck] at hok; cases hok
  | ok found => exact ⟨rfl, found, rfl, hheaders found hcheck, hcheck ▸ humdf rfl⟩

end KitSurface.Config
