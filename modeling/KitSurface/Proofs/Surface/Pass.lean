import KitSurface.Proofs.Surface.Pattern
import KitSurface.Proofs.Surface.Subsystems
import KitSurface.Surface.Pass
import Mathlib.Logic.ExistsUnique
/-!
Which passes take a file. The core takes what no other pass asks for (`claims_core_iff`), and any
other pass takes what its patterns accept (`claims_iff_isAllowed`). No file is asked for by two of
the leaf subsystems, those that ask for their own headers by name (`isLeaf_unique`), but the
framework asks for every path with `wdf` in it. Main statement: a file of a path of one line is
taken by exactly one pass, except that a path that contains `wdf` and ends in the name of a header
of a leaf subsystem is taken by two, the framework and that subsystem (`existsUnique_takes_iff`).
-/

namespace KitSurface

namespace Subsystem

/-- The subsystems that ask for their own headers by name: all but the core and the framework. -/
def isLeaf : Subsystem → Bool
  | core | framework => false
  | _ => true

theorem cases_isLeaf (sub : Subsystem) :
    sub = core ∨ sub = framework ∨ sub.isLeaf = true := by
  cases sub <;> simp [isLeaf]

theorem ne_core_of_isLeaf {sub : Subsystem} (h : sub.isLeaf = true) : sub ≠ core := by
  intro he
  subst he
  cases h

theorem ne_framework_of_isLeaf {sub : Subsystem} (h : sub.isLeaf = true) : sub ≠ framework := by
  intro he
  subst he
  cases h

end Subsystem

namespace Surface

variable {s : Surface} {sub : Subsystem} {path : String}

/-- The pass of a subsystem takes a file, as the texts of its patterns say: it has no pattern or one
of them matches the path, and no pattern that blocks a file does. -/
def Takes (s : Surface) (sub : Subsystem) (path : String) : Prop :=
  (s.allowed sub = [] ∨ ∃ p ∈ s.allowed sub, FilePattern.Reads p.text path) ∧
    ∀ p ∈ s.blocked sub, ¬ FilePattern.Reads p.text path

/-- The patterns of a subsystem ask for a file. -/
def IsAllowed (s : Surface) (sub : Subsystem) (path : String) : Prop :=
  ∃ p ∈ s.allowed sub, p.accepts path = true

/-- Two passes ask for a file: the framework is there and the path contains `wdf`, and the path ends
in the name of a header of a leaf subsystem. -/
def IsContested (s : Surface) (path : String) : Prop :=
  .framework ∈ s.subsystems ∧ (FilePattern.contains "wdf").accepts path = true ∧
    ∃ sub, sub.isLeaf = true ∧ ∃ header ∈ s.headersIn sub,
      (FilePattern.endsIn (fileName header)).accepts path = true

theorem claims_iff_takes (line : '\n' ∉ path.toList) :
    s.claims sub path = true ↔ s.Takes sub path := by
  simp only [claims, Takes, Bool.and_eq_true, Bool.or_eq_true, List.isEmpty_iff, List.any_eq_true,
    Bool.not_eq_true', List.any_eq_false, FilePattern.accepts_iff_reads _ line]

/-! ## What a pass asks for -/

theorem headers_ne_nil (g : Group) (o : Options) : g.headers o ≠ [] := by
  cases g <;> simp [Group.headers]

theorem mem_headersIn_iff {header : String} : header ∈ s.headersIn sub ↔
    ∃ g ∈ s.groups, g.subsystem = sub ∧ header ∈ g.headers s.options := by
  simp [headersIn, mem_groupsIn_iff, and_assoc]

theorem headersIn_ne_nil (hs : sub ∈ s.subsystems) : s.headersIn sub ≠ [] := by
  obtain ⟨g, hg, hsub⟩ := mem_subsystems_iff.mp hs
  obtain ⟨header, hh⟩ := List.exists_mem_of_ne_nil _ (headers_ne_nil g s.options)
  exact List.ne_nil_of_mem (mem_headersIn_iff.mpr ⟨g, hg, hsub, hh⟩)

theorem allowed_of_isLeaf (h : sub.isLeaf = true) :
    s.allowed sub = (s.headersIn sub).map fun header => .endsIn (fileName header) := by
  cases sub <;> first | rfl | cases h

theorem allowed_framework (h : .framework ∈ s.subsystems) :
    s.allowed .framework = [.contains "wdf"] := by
  have hne := groupsIn_ne_nil_iff.mpr h
  simp [allowed, hne]

theorem isAllowed_iff_of_isLeaf (h : sub.isLeaf = true) : s.IsAllowed sub path ↔
    ∃ header ∈ s.headersIn sub, (FilePattern.endsIn (fileName header)).accepts path = true := by
  unfold IsAllowed
  rw [allowed_of_isLeaf h]
  constructor
  · intro hx
    obtain ⟨p, hp, hpath⟩ := hx
    obtain ⟨header, hh, rfl⟩ := List.mem_map.mp hp
    exact ⟨header, hh, hpath⟩
  · intro hx
    obtain ⟨header, hh, hpath⟩ := hx
    exact ⟨_, List.mem_map_of_mem hh, hpath⟩

theorem isAllowed_framework_iff (h : .framework ∈ s.subsystems) :
    s.IsAllowed .framework path ↔ (FilePattern.contains "wdf").accepts path = true := by
  unfold IsAllowed
  rw [allowed_framework h]
  simp

theorem allowed_ne_nil (hs : sub ∈ s.subsystems) (hc : sub ≠ .core) : s.allowed sub ≠ [] := by
  rcases sub.cases_isLeaf with rfl | rfl | hl
  · exact absurd rfl hc
  · rw [allowed_framework hs]
    exact List.cons_ne_nil _ _
  · rw [allowed_of_isLeaf hl]
    exact fun h => headersIn_ne_nil hs (List.map_eq_nil_iff.mp h)

theorem claims_iff_isAllowed (hs : sub ∈ s.subsystems) (hc : sub ≠ .core) :
    s.claims sub path = true ↔ s.IsAllowed sub path := by
  have hne := allowed_ne_nil hs hc
  simp [claims, IsAllowed, blocked, hc, hne]

theorem claims_core_iff : s.claims .core path = true ↔
    ∀ sub ∈ s.subsystems, sub ≠ .core → ¬ s.IsAllowed sub path := by
  simp [claims, IsAllowed, blocked, allowed]

/-! ## The names of headers -/

theorem fileName_append_slash (dir : String) {name : String} (h : '/' ∉ name.toList) :
    fileName (dir ++ "/" ++ name) = name := by
  have hrev : (dir ++ "/" ++ name).toList.reverse =
      name.toList.reverse ++ '/' :: dir.toList.reverse := by simp
  have hall : ∀ c ∈ name.toList.reverse, (c != '/') = true := by
    intro c hc
    rw [List.mem_reverse] at hc
    exact bne_iff_ne.mpr (fun he => h (he ▸ hc))
  unfold fileName
  rw [hrev, List.takeWhile_append_of_pos hall]
  simp

end Surface

namespace Group

/-- The file names of the headers of a group. -/
def fileNames (g : Group) : List String :=
  (g.headers .default).map Surface.fileName

/-- The version of a header is in its directory, not in its name. -/
theorem map_fileName_headers (g : Group) (o : Options) :
    (g.headers o).map Surface.fileName = g.fileNames := by
  cases g with
  | spbCx =>
    have hname : ∀ v : String, Surface.fileName ("spb/" ++ v ++ "/spbcx.h") = "spbcx.h" :=
      fun v => by
        have hslash : "/spbcx.h" = "/" ++ "spbcx.h" := by decide
        rw [hslash, ← String.append_assoc]
        exact Surface.fileName_append_slash ("spb/" ++ v) (by decide)
    simp only [headers, fileNames, List.map_cons, List.map_nil, hname]
  | _ => rfl

/-- No name of a header of a leaf subsystem is the end of one of another leaf subsystem. -/
theorem not_suffix_of_subsystem_ne : ∀ g ∈ all, ∀ g' ∈ all, g.subsystem.isLeaf = true →
    g'.subsystem.isLeaf = true → g.subsystem ≠ g'.subsystem →
    ∀ name ∈ g.fileNames, ∀ name' ∈ g'.fileNames,
      ¬ name.toList.map FilePattern.foldCase <:+ name'.toList.map FilePattern.foldCase := by
  decide +kernel

end Group

namespace Surface

variable {s : Surface} {sub sub' : Subsystem} {path : String}

theorem suffix_of_isAllowed (h : sub.isLeaf = true) (line : '\n' ∉ path.toList)
    (hs : s.IsAllowed sub path) : ∃ g : Group, g.subsystem = sub ∧ ∃ name ∈ g.fileNames,
      name.toList.map FilePattern.foldCase <:+ path.toList.map FilePattern.foldCase := by
  obtain ⟨header, hh, hpath⟩ := (isAllowed_iff_of_isLeaf h).mp hs
  obtain ⟨g, -, hsub, hg⟩ := mem_headersIn_iff.mp hh
  obtain ⟨front, tail, heq, htail⟩ := (FilePattern.accepts_endsIn_iff line).mp hpath
  refine ⟨g, hsub, fileName header, ?_, front.map FilePattern.foldCase, ?_⟩
  · rw [← g.map_fileName_headers s.options]
    exact List.mem_map_of_mem hg
  · rw [heq, List.map_append, htail]

theorem isLeaf_unique (line : '\n' ∉ path.toList) (h : sub.isLeaf = true)
    (h' : sub'.isLeaf = true) (hs : s.IsAllowed sub path) (hs' : s.IsAllowed sub' path) :
    sub = sub' := by
  obtain ⟨g, rfl, name, hname, hsuffix⟩ := suffix_of_isAllowed h line hs
  obtain ⟨g', rfl, name', hname', hsuffix'⟩ := suffix_of_isAllowed h' line hs'
  by_cases he : g.subsystem = g'.subsystem
  · exact he
  · -- Both names end the path, so that one of them is the end of the other.
    rcases List.suffix_or_suffix_of_suffix hsuffix hsuffix' with hsub | hsub
    · exact absurd hsub (Group.not_suffix_of_subsystem_ne g (Group.mem_all g) g' (Group.mem_all g')
        h h' he name hname name' hname')
    · exact absurd hsub (Group.not_suffix_of_subsystem_ne g' (Group.mem_all g') g (Group.mem_all g)
        h' h (Ne.symm he) name' hname' name hname)

/-! ## Who takes a file -/

theorem mem_subsystems_of_isAllowed (h : sub.isLeaf = true) (hs : s.IsAllowed sub path) :
    sub ∈ s.subsystems := by
  obtain ⟨header, hh, -⟩ := (isAllowed_iff_of_isLeaf h).mp hs
  obtain ⟨g, hg, hsub, -⟩ := mem_headersIn_iff.mp hh
  exact mem_subsystems_iff.mpr ⟨g, hg, hsub⟩

theorem isContested_iff : s.IsContested path ↔ .framework ∈ s.subsystems ∧
    s.IsAllowed .framework path ∧ ∃ sub, sub.isLeaf = true ∧ s.IsAllowed sub path := by
  unfold IsContested
  refine and_congr_right fun hf => ?_
  rw [isAllowed_framework_iff hf]
  refine and_congr_right fun _ => exists_congr fun sub => and_congr_right fun hl => ?_
  exact (isAllowed_iff_of_isLeaf hl).symm

/-- Every pass that takes a file which a leaf subsystem asks for is that of the subsystem, or the
framework's. -/
theorem claims_iff_of_isLeaf (line : '\n' ∉ path.toList) (h : sub.isLeaf = true)
    (hs : s.IsAllowed sub path) (hs' : sub' ∈ s.subsystems) :
    s.claims sub' path = true ↔ sub' = sub ∨ sub' = .framework ∧ s.IsAllowed .framework path := by
  have hmem := mem_subsystems_of_isAllowed h hs
  have hcore := Subsystem.ne_core_of_isLeaf h
  rcases sub'.cases_isLeaf with rfl | rfl | hl
  · rw [claims_core_iff]
    constructor
    · exact fun hno => absurd hs (hno sub hmem hcore)
    · intro hx
      rcases hx with he | ⟨he, -⟩
      · exact absurd he.symm hcore
      · cases he
  · rw [claims_iff_isAllowed hs' (by decide)]
    constructor
    · exact fun hf => Or.inr ⟨rfl, hf⟩
    · intro hx
      rcases hx with rfl | ⟨-, hf⟩
      · exact hs
      · exact hf
  · rw [claims_iff_isAllowed hs' (Subsystem.ne_core_of_isLeaf hl)]
    constructor
    · exact fun hs' => Or.inl (isLeaf_unique line hl h hs' hs)
    · intro hx
      rcases hx with rfl | ⟨rfl, -⟩
      · exact hs
      · cases hl

/-- A file that no leaf subsystem asks for is the framework's if it asks for it, and else the
core's. -/
theorem claims_iff_of_not_isLeaf
    (hno : ∀ sub : Subsystem, sub.isLeaf = true → ¬ s.IsAllowed sub path) (hs : sub ∈ s.subsystems) :
    s.claims sub path = true ↔
      sub = .framework ∧ s.IsAllowed .framework path ∨
      sub = .core ∧ ¬ (.framework ∈ s.subsystems ∧ s.IsAllowed .framework path) := by
  rcases sub.cases_isLeaf with rfl | rfl | hl
  · rw [claims_core_iff]
    constructor
    · exact fun h => Or.inr ⟨rfl, fun hf => h _ hf.1 (by decide) hf.2⟩
    · intro hx
      rcases hx with ⟨he, -⟩ | ⟨-, hf⟩
      · cases he
      · -- Any other pass would be a leaf subsystem's or the framework's.
        intro other ho hc ha
        rcases other.cases_isLeaf with rfl | rfl | hl
        · exact hc rfl
        · exact hf ⟨ho, ha⟩
        · exact hno other hl ha
  · rw [claims_iff_isAllowed hs (by decide)]
    constructor
    · exact fun h => Or.inl ⟨rfl, h⟩
    · intro hx
      rcases hx with ⟨-, h⟩ | ⟨he, -⟩
      · exact h
      · cases he
  · rw [claims_iff_isAllowed hs (Subsystem.ne_core_of_isLeaf hl)]
    constructor
    · exact fun h => absurd h (hno sub hl)
    · rintro (⟨rfl, -⟩ | ⟨rfl, -⟩) <;> cases hl

/-- **A file is taken by exactly one pass unless it is contested**, and then by two of them. -/
theorem existsUnique_takes_iff (s : Surface) (path : String) (line : '\n' ∉ path.toList) :
    s.subsystems.Nodup ∧
    ((∃! sub, sub ∈ s.subsystems ∧ s.Takes sub path) ↔ ¬ s.IsContested path) ∧
    (s.IsContested path → ∃ leaf ∈ s.subsystems, leaf ≠ .framework ∧
      ∀ sub ∈ s.subsystems, s.Takes sub path ↔ sub = leaf ∨ sub = .framework) := by
  simp only [← claims_iff_takes line]
  have htwo : s.IsContested path → ∃ leaf ∈ s.subsystems, leaf ≠ .framework ∧
      ∀ sub ∈ s.subsystems, s.claims sub path = true ↔ sub = leaf ∨ sub = .framework := by
    intro h
    obtain ⟨-, hf, leaf, hl, ha⟩ := isContested_iff.mp h
    refine ⟨leaf, mem_subsystems_of_isAllowed hl ha, Subsystem.ne_framework_of_isLeaf hl,
      fun sub hs => ?_⟩
    rw [claims_iff_of_isLeaf line hl ha hs]
    simp [hf]
  refine ⟨s.nodup_subsystems, ⟨fun hu hc => ?_, fun hc => ?_⟩, htwo⟩
  · obtain ⟨leaf, hl, hne, htakes⟩ := htwo hc
    have hf := (isContested_iff.mp hc).1
    exact hne (hu.unique ⟨hl, (htakes leaf hl).mpr (Or.inl rfl)⟩
      ⟨hf, (htakes .framework hf).mpr (Or.inr rfl)⟩)
  · by_cases hleaf : ∃ sub : Subsystem, sub.isLeaf = true ∧ s.IsAllowed sub path
    · -- A leaf subsystem asks for the file, so the framework does not.
      obtain ⟨leaf, hl, ha⟩ := hleaf
      have hmem := mem_subsystems_of_isAllowed hl ha
      refine ⟨leaf, ⟨hmem, (claims_iff_of_isLeaf line hl ha hmem).mpr (Or.inl rfl)⟩, ?_⟩
      intro sub hx
      obtain ⟨hs, hclaims⟩ := hx
      rcases (claims_iff_of_isLeaf line hl ha hs).mp hclaims with he | ⟨rfl, hf⟩
      · exact he
      · exact absurd (isContested_iff.mpr ⟨hs, hf, leaf, hl, ha⟩) hc
    · have hno : ∀ sub : Subsystem, sub.isLeaf = true → ¬ s.IsAllowed sub path :=
        fun sub hl ha => hleaf ⟨sub, hl, ha⟩
      by_cases hf : .framework ∈ s.subsystems ∧ s.IsAllowed .framework path
      · refine ⟨.framework, ⟨hf.1, ?_⟩, ?_⟩
        · exact (claims_iff_of_not_isLeaf hno hf.1).mpr (Or.inl ⟨rfl, hf.2⟩)
        · intro sub hx
          obtain ⟨hs, hclaims⟩ := hx
          rcases (claims_iff_of_not_isLeaf hno hs).mp hclaims with ⟨he, -⟩ | ⟨-, hn⟩
          · exact he
          · exact absurd hf hn
      · have hcore := s.core_mem_subsystems
        refine ⟨.core, ⟨hcore, (claims_iff_of_not_isLeaf hno hcore).mpr (Or.inr ⟨rfl, hf⟩)⟩, ?_⟩
        intro sub hx
        obtain ⟨hs, hclaims⟩ := hx
        rcases (claims_iff_of_not_isLeaf hno hs).mp hclaims with ⟨rfl, ha⟩ | ⟨he, -⟩
        · exact absurd ⟨hs, ha⟩ hf
        · exact he

/-- A header that the kernel includes on its own belongs to the core. -/
theorem existsUnique_takes_wdm : '\n' ∉ "km/wdm.h".toList ∧
    ¬ (⟨.kernelMode, .default⟩ : Surface).IsContested "km/wdm.h" ∧
    ∃! sub, sub ∈ (⟨.kernelMode, .default⟩ : Surface).subsystems ∧
      (⟨.kernelMode, .default⟩ : Surface).Takes sub "km/wdm.h" := by
  have line : '\n' ∉ "km/wdm.h".toList := by decide
  have hc : ¬ (⟨.kernelMode, .default⟩ : Surface).IsContested "km/wdm.h" :=
    fun h => absurd h.2.1 (by decide)
  exact ⟨line, hc, (existsUnique_takes_iff ⟨.kernelMode, .default⟩ "km/wdm.h" line).2.1.mpr hc⟩

/-- The USB header of the framework ends in the name of the USB header, so that the passes of both
subsystems take it. -/
theorem not_existsUnique_takes_wdfusb : ¬ ∀ (s : Surface) (path : String), '\n' ∉ path.toList →
    ∃! sub, sub ∈ s.subsystems ∧ s.Takes sub path := by
  intro h
  have line : '\n' ∉ "wdfusb.h".toList := by decide
  have hu := h ⟨.kernelMode, .default⟩ "wdfusb.h" line
  have husb := (claims_iff_takes line).mp
    (show (⟨.kernelMode, .default⟩ : Surface).claims .usb "wdfusb.h" = true by decide +kernel)
  have hwdf := (claims_iff_takes line).mp
    (show (⟨.kernelMode, .default⟩ : Surface).claims .framework "wdfusb.h" = true by decide +kernel)
  exact absurd (hu.unique ⟨by decide, husb⟩ ⟨by decide, hwdf⟩) (by decide)

end Surface

end KitSurface
