import KitSurface.Proofs.Surface.Difference
/-!
No file is left out. No header of the core has a name that another pass asks for
(`not_asked_of_core`), and the name of a directory cannot change that, unless it has `wdf` in it
(`not_isAllowed_header_of_core`). Main statement: every pass takes the headers of its own subsystem
from any directory without `wdf`, and the core takes exactly the files that no other pass takes
(`takes_header_and_takes_core_iff`).
-/

namespace KitSurface

/-! ## Headers of the core -/

namespace Group

theorem ne_spbCx_of_core {g : Group} (h : g.subsystem = .core) : g ≠ .spbCx := by
  rintro rfl
  cases h

/-- No header of the core contains `wdf` or ends in the name of a header of a leaf subsystem. -/
theorem not_asked_of_core : ∀ g ∈ all, g.subsystem = .core → ∀ header ∈ g.headers .default,
    ¬ "wdf".toList.map FilePattern.foldCase <:+: header.toList.map FilePattern.foldCase ∧
    ∀ g' ∈ all, g'.subsystem.isLeaf = true → ∀ name ∈ g'.fileNames,
      ¬ name.toList.map FilePattern.foldCase <:+ header.toList.map FilePattern.foldCase := by
  decide +kernel

/-- The names of headers have no slash, whatever the case of their letters. -/
theorem slash_not_mem_fileNames : ∀ g ∈ all, ∀ name ∈ g.fileNames,
    '/' ∉ name.toList.map FilePattern.foldCase := by
  decide +kernel

theorem wdf_isPrefix_of_framework {g : Group} (h : g.subsystem = .framework) {o : Options}
    {header : String} (hheader : header ∈ g.headers o) : "wdf".toList <+: header.toList := by
  cases g <;> cases h
  · rw [List.mem_singleton.mp hheader]
    decide
  · rw [List.mem_singleton.mp hheader]
    decide

end Group

/-! ## Who takes a header -/

namespace Surface

variable {s : Surface} {sub : Subsystem} {header dir path : String}

theorem fileName_isSuffix (header : String) : (fileName header).toList <:+ header.toList := by
  rw [fileName, String.toList_ofList, ← List.reverse_prefix, List.reverse_reverse]
  exact List.takeWhile_prefix _

theorem isAllowed_header_of_isLeaf (hl : sub.isLeaf = true) (hh : header ∈ s.headersIn sub)
    (line : '\n' ∉ (dir ++ "/" ++ header).toList) : s.IsAllowed sub (dir ++ "/" ++ header) := by
  obtain ⟨front, hfront⟩ := fileName_isSuffix header
  refine (isAllowed_iff_of_isLeaf hl).mpr ⟨header, hh, (FilePattern.accepts_endsIn_iff line).mpr ?_⟩
  refine ⟨(dir ++ "/").toList ++ front, (fileName header).toList, ?_, rfl⟩
  rw [String.toList_append, ← hfront, List.append_assoc]

theorem isAllowed_header_of_framework (hh : header ∈ s.headersIn .framework)
    (line : '\n' ∉ (dir ++ "/" ++ header).toList) : s.IsAllowed .framework (dir ++ "/" ++ header) := by
  obtain ⟨g, hg, hsub, hheader⟩ := mem_headersIn_iff.mp hh
  obtain ⟨rest, hrest⟩ := Group.wdf_isPrefix_of_framework hsub hheader
  refine (isAllowed_framework_iff (mem_subsystems_iff.mpr ⟨g, hg, hsub⟩)).mpr ?_
  refine (FilePattern.accepts_contains_iff line).mpr ⟨(dir ++ "/").toList, "wdf".toList, rest, ?_, rfl⟩
  rw [hrest, String.toList_append]

theorem toLower_eq_foldCase {c : Char} (hk : FilePattern.foldCase c ≠ 'k')
    (hs : FilePattern.foldCase c ≠ 's') : c.toLower = FilePattern.foldCase c := by
  unfold FilePattern.foldCase at *
  split_ifs at * with hkelvin hlong
  · exact absurd rfl hk
  · exact absurd rfl hs
  · rfl

theorem wdf_infix_map_toLower {text : List Char}
    (h : "wdf".toList.map FilePattern.foldCase <:+: text.map FilePattern.foldCase) :
    "wdf".toList <:+: text.map Char.toLower := by
  obtain ⟨front, rest, heq⟩ := h
  obtain ⟨lead, back, rfl, hlead, -⟩ := List.map_eq_append_iff.mp heq.symm
  obtain ⟨lead, middle, rfl, -, hmiddle⟩ := List.map_eq_append_iff.mp hlead
  have hlower : middle.map Char.toLower = middle.map FilePattern.foldCase := by
    refine List.map_congr_left fun c hc => ?_
    have hmem : FilePattern.foldCase c ∈ "wdf".toList.map FilePattern.foldCase :=
      hmiddle ▸ List.mem_map_of_mem hc
    exact toLower_eq_foldCase (fun he => absurd (he ▸ hmem) (by decide))
      (fun he => absurd (he ▸ hmem) (by decide))
  refine ⟨lead.map Char.toLower, back.map Char.toLower, ?_⟩
  rw [List.map_append, List.map_append, hlower, hmiddle]
  rfl

/-- No other pass asks for a header of the core, in a directory without `wdf`. -/
theorem not_isAllowed_header_of_core (hh : header ∈ s.headersIn .core)
    (line : '\n' ∉ (dir ++ "/" ++ header).toList) (hdir : ¬ "wdf".toList <:+: dir.toList.map Char.toLower)
    (hs : sub ∈ s.subsystems) (hc : sub ≠ .core) : ¬ s.IsAllowed sub (dir ++ "/" ++ header) := by
  obtain ⟨g, hg, hcore, hheader⟩ := mem_headersIn_iff.mp hh
  rw [Group.headers_eq_of_ne_spbCx (Group.ne_spbCx_of_core hcore) _ .default] at hheader
  obtain ⟨hwdf, hleaf⟩ := Group.not_asked_of_core g g.mem_all hcore header hheader
  have hpath : (dir ++ "/" ++ header).toList.map FilePattern.foldCase =
      dir.toList.map FilePattern.foldCase ++ '/' :: header.toList.map FilePattern.foldCase := by
    simp [FilePattern.foldCase]
  intro h
  rcases sub.cases_isLeaf with rfl | rfl | hl
  · exact hc rfl
  · obtain ⟨front, middle, rest, heq, hmiddle⟩ :=
      (FilePattern.accepts_contains_iff line).mp ((isAllowed_framework_iff hs).mp h)
    have hinfix : "wdf".toList.map FilePattern.foldCase <:+:
        (dir ++ "/" ++ header).toList.map FilePattern.foldCase := by
      rw [heq, ← hmiddle, List.map_append, List.map_append, ← List.append_assoc]
      exact List.infix_append _ _ _
    rw [hpath] at hinfix
    rcases Text.infix_of_infix_append (by decide) hinfix with hd | hd
    · exact hdir (wdf_infix_map_toLower hd)
    · exact hwdf hd
  · obtain ⟨g', hsub, name, hname, hsuffix⟩ := suffix_of_isAllowed hl line h
    rw [hpath] at hsuffix
    exact hleaf g' g'.mem_all (hsub ▸ hl) name hname (Text.suffix_of_suffix_append
      (Group.slash_not_mem_fileNames g' g'.mem_all name hname) hsuffix)

/-- **The pass of a subsystem takes its headers.** -/
theorem takes_header (hs : sub ∈ s.subsystems) (hh : header ∈ s.headersIn sub)
    (hline : '\n' ∉ dir.toList) (hdir : ¬ "wdf".toList <:+: dir.toList.map Char.toLower) :
    s.Takes sub (dir ++ "/" ++ header) := by
  have line : '\n' ∉ (dir ++ "/" ++ header).toList := by
    obtain ⟨g, -, -, hheader⟩ := mem_headersIn_iff.mp hh
    simp [hline, (Group.isLine_of_mem_headers hheader).1]
  rw [← claims_iff_takes line]
  rcases sub.cases_isLeaf with rfl | rfl | hl
  · exact claims_core_iff.mpr fun other ho hc => not_isAllowed_header_of_core hh line hdir ho hc
  · exact (claims_iff_isAllowed hs (by decide)).mpr (isAllowed_header_of_framework hh line)
  · exact (claims_iff_isAllowed hs (Subsystem.ne_core_of_isLeaf hl)).mpr
      (isAllowed_header_of_isLeaf hl hh line)

/-- Outside the core a pass takes the files that one of its patterns reads. -/
theorem takes_iff_of_ne_core (hs : sub ∈ s.subsystems) (hc : sub ≠ .core) :
    s.Takes sub path ↔ ∃ p ∈ s.allowed sub, FilePattern.Reads p.text path := by
  have hne := allowed_ne_nil hs hc
  simp [Takes, blocked, hc, hne]

theorem mem_blocked_core_iff {p : FilePattern} :
    p ∈ s.blocked .core ↔ ∃ sub ∈ s.subsystems, sub ≠ .core ∧ p ∈ s.allowed sub := by
  simp [blocked, and_assoc]

theorem takes_core_iff : s.Takes .core path ↔ ∀ sub ∈ s.subsystems, sub ≠ .core →
    ¬ s.Takes sub path := by
  have hcore : s.Takes .core path ↔ ∀ p ∈ s.blocked .core, ¬ FilePattern.Reads p.text path :=
    and_iff_right (Or.inl rfl)
  simp only [hcore, mem_blocked_core_iff]
  constructor
  · intro h sub hs hc htakes
    obtain ⟨p, hp, hreads⟩ := (takes_iff_of_ne_core hs hc).mp htakes
    exact h p ⟨sub, hs, hc, hp⟩ hreads
  · intro h p hx hreads
    obtain ⟨sub, hs, hc, hp⟩ := hx
    exact h sub hs hc ((takes_iff_of_ne_core hs hc).mpr ⟨p, hp, hreads⟩)

/-- **Every pass takes the headers of its own subsystem, and the core what no other pass takes.** -/
theorem takes_header_and_takes_core_iff (s : Surface) :
    (∀ sub ∈ s.subsystems, ∀ header ∈ s.headersIn sub, ∀ dir : String, '\n' ∉ dir.toList →
      ¬ "wdf".toList <:+: dir.toList.map Char.toLower → s.Takes sub (dir ++ "/" ++ header)) ∧
    ∀ path, s.Takes .core path ↔ ∀ sub ∈ s.subsystems, sub ≠ .core → ¬ s.Takes sub path :=
  ⟨fun _ hs _ hh _ hline hdir => takes_header hs hh hline hdir, fun _ => takes_core_iff⟩

/-- The core takes its own headers, though it takes only what is left. -/
theorem takes_header_ntddk : .core ∈ (⟨.kernelMode, .default⟩ : Surface).subsystems ∧
    "ntddk.h" ∈ (⟨.kernelMode, .default⟩ : Surface).headersIn .core ∧
    '\n' ∉ "C:/Include/km".toList ∧ ¬ "wdf".toList <:+: "C:/Include/km".toList.map Char.toLower ∧
    (⟨.kernelMode, .default⟩ : Surface).Takes .core ("C:/Include/km" ++ "/" ++ "ntddk.h") := by
  have hs : .core ∈ (⟨.kernelMode, .default⟩ : Surface).subsystems := core_mem_subsystems _
  have hh : "ntddk.h" ∈ (⟨.kernelMode, .default⟩ : Surface).headersIn .core := by decide +kernel
  have hline : '\n' ∉ "C:/Include/km".toList := by decide
  have hdir : ¬ "wdf".toList <:+: "C:/Include/km".toList.map Char.toLower := by decide +kernel
  exact ⟨hs, hh, hline, hdir,
    (takes_header_and_takes_core_iff ⟨.kernelMode, .default⟩).1 _ hs _ hh _ hline hdir⟩

end Surface

end KitSurface
