import KitSurface.Kit
import KitSurface.Proofs.FileTree.Join
import KitSurface.Proofs.FileTree.Listing
import KitSurface.Proofs.Version
/-!
The newest versions in a listing. The greatest two-part version depends on the names of the
directories alone (`newestVersion_of_relisted`). Of the directories of the development kit
(`IsSdkDirectory`) the last one with the greatest numbers is taken (`greatestSdk?_eq_some_iff`): one
whose numbers none exceeds (`isNewestSdk_of_newestSdkIn?`). Such a directory is an entry that is one
itself, unless its path is too long (`isSdkDirectory_iff`). Since names with different zeros have equal
numbers, the order of the listing counts, unless one name has the greatest numbers
(`newestSdkIn?_congr`, `unique_of_newestSdkIn?_reversed`).
-/

namespace KitSurface.Kit

variable {tree tree' : FileTree} {p : Path} {entries entries' : List (String × Entry)}
  {name name' : String} {numbers numbers' : List UInt32}

/-! ## Names of directories -/

theorem mem_directoryNames :
    name ∈ directoryNames entries ↔ ∃ e, (name, e) ∈ entries ∧ e.isDirectory = true := by
  simp [directoryNames, and_comm]

theorem mem_versionsOf {v : Version} : v ∈ versionsOf entries ↔
    ∃ name ∈ directoryNames entries, Version.parse? name.toList = some v := by
  rw [versionsOf, List.mem_filterMap]

/-- Listings of the same entries have the same directories. -/
theorem mem_directoryNames_of_relisted
    (h : Entry.Relisted (.directory entries) (.directory entries')) :
    name ∈ directoryNames entries ↔ name ∈ directoryNames entries' := by
  have hsub : ∀ {es es' : List (String × Entry)}, Entry.Relisted (.directory es) (.directory es') →
      name ∈ directoryNames es → name ∈ directoryNames es' := by
    intro es es' h hmem
    obtain ⟨e, he, hdir⟩ := mem_directoryNames.mp hmem
    obtain ⟨e', he', hbelow⟩ := h.exists_of_mem he
    exact mem_directoryNames.mpr ⟨e', he', hbelow.isDirectory_eq ▸ hdir⟩
  exact ⟨hsub h, hsub h.symm⟩

/-! ## Two-part versions -/

theorem newestVersion_eq (hlist : tree.list p = .ok entries) :
    newestVersion tree p =
      (Version.greatest? (versionsOf entries)).elim (.error ⟨p, .noVersion p⟩) .ok := by
  simp only [newestVersion, hlist]
  cases Version.greatest? (versionsOf entries) <;> rfl

/-- Some directory of a listing is named after a version in plain numerals. -/
def HasPlainName (entries : List (String × Entry)) (v : Version) : Prop :=
  ∃ name ∈ directoryNames entries,
    Version.parse? name.toList = some v ∧ Version.IsPlainName name.toList

/-- **The text of a version is the name of a directory exactly if some directory is named after the
version in plain numerals.** -/
theorem text_mem_directoryNames_iff {v : Version} :
    v.text ∈ directoryNames entries ↔ HasPlainName entries v := by
  constructor
  · intro h
    exact ⟨v.text, h, v.parse?_text, (Version.eq_text_iff v.parse?_text).mp rfl⟩
  · rintro ⟨name, hname, hparse, hplain⟩
    have heq : name = v.text := String.toList_inj.mp ((Version.eq_text_iff hparse).mpr hplain)
    exact heq ▸ hname

theorem isPieceName_text (v : Version) : IsPieceName v.text ∧ v.text.utf8ByteSize ≤ Place.nameLimit := by
  obtain ⟨hlong, hshort⟩ := v.length_text
  have hnot : ∀ c : Char, c.isDigit = false → c ≠ '.' → c ∉ v.text.toList := by
    intro c hdigit hpoint hmem
    rcases Version.isDigit_or_of_mem_text hmem with h | h
    · rw [hdigit] at h
      cases h
    · exact hpoint h
  refine ⟨⟨fun hmem => ?_, hnot '/' (by decide) (by decide), hnot '\x00' (by decide) (by decide)⟩, ?_⟩
  · -- The dots have two characters at most.
    have hdots : v.text.toList.length ≤ 2 := by
      simp only [List.mem_cons, List.not_mem_nil, or_false] at hmem
      rcases hmem with h | h | h <;> rw [h] <;> decide
    omega
  · have hsize := utf8ByteSize_le v.text
    show v.text.utf8ByteSize ≤ 255
    omega

/-- **The greatest two-part version does not depend on the order of a listing.** -/
theorem newestVersion_of_relisted
    (hnames : tree.root.hasDistinctNames = true) (h : tree.Relisted tree') (p : Path) :
    newestVersion tree p = newestVersion tree' p := by
  have hlists := h.corresponds_list hnames p
  unfold newestVersion
  cases hlist : tree.list p with
  | error fault =>
    rw [hlist] at hlists
    rw [hlists.eq_of_error]
  | ok entries =>
    rw [hlist] at hlists
    obtain ⟨entries', hlist', hentries⟩ := hlists.exists_of_ok
    have hgreatest : Version.greatest? (versionsOf entries) =
        Version.greatest? (versionsOf entries') := by
      refine Version.greatest?_congr fun v => ?_
      simp only [mem_versionsOf, mem_directoryNames_of_relisted hentries]
    rw [hlist']
    dsimp only
    rw [hgreatest]

/-! ## Names of the development kit -/

/-- A name begins with ten and a point, and its parts between points are numerals of the numbers. -/
def NamesSdk (name : String) (numbers : List UInt32) : Prop :=
  "10.".toList <+: name.toList ∧
    List.Forall₂ (fun part n => Text.Denotes part n.toNat) (name.toList.splitOn '.') numbers

theorem sdkNumbers?_eq_some_iff : sdkNumbers? name = some numbers ↔ NamesSdk name numbers := by
  have hten : ['1', '0', '.'].isPrefixOf name.toList = true ↔
      "10.".toList <+: name.toList := List.isPrefixOf_iff_prefix
  unfold sdkNumbers? NamesSdk
  split
  · next h =>
    rw [mapM_eq_some_iff]
    simp only [Text.parseWord?_eq_some_iff, hten.mp h, true_and]
  · next h => exact iff_of_false nofun fun hname => h (hten.mpr hname.1)

theorem NamesSdk.unique (h : NamesSdk name numbers) (h' : NamesSdk name numbers') :
    numbers = numbers' :=
  Option.some.inj
    ((sdkNumbers?_eq_some_iff.mpr h).symm.trans (sdkNumbers?_eq_some_iff.mpr h'))

theorem eq_or_exists_of_mem_intercalate {a c : Char} : ∀ {parts : List (List Char)},
    c ∈ [a].intercalate parts → c = a ∨ ∃ part ∈ parts, c ∈ part
  | [], h => by simp [List.intercalate] at h
  | [part], h => Or.inr ⟨part, List.mem_cons_self, by simpa [List.intercalate] using h⟩
  | part :: next :: parts, h => by
    have hcases : c ∈ part ∨ c = a ∨ c ∈ [a].intercalate (next :: parts) := by
      simpa [List.intercalate] using h
    rcases hcases with h | h | h
    · exact Or.inr ⟨part, List.mem_cons_self, h⟩
    · exact Or.inl h
    · exact (eq_or_exists_of_mem_intercalate h).imp_right fun ⟨part', hpart, hc⟩ =>
        ⟨part', List.mem_cons_of_mem part hpart, hc⟩

/-- What names a version of the development kit has digits, signs and points. -/
theorem NamesSdk.isPieceName (h : NamesSdk name numbers) : IsPieceName name := by
  obtain ⟨⟨rest, htext⟩, hparts⟩ := h
  have hchars : ∀ c ∈ name.toList, c.isDigit = true ∨ c = '+' ∨ c = '.' := by
    intro c hc
    have hname : ['.'].intercalate (name.toList.splitOn '.') = name.toList :=
      List.intercalate_splitOn '.'
    rw [← hname] at hc
    rcases eq_or_exists_of_mem_intercalate hc with rfl | ⟨part, hpart, hc⟩
    · exact Or.inr (Or.inr rfl)
    · obtain ⟨n, -, hn⟩ := exists_mem_of_forall₂ hparts.flip part hpart
      exact (hn.isDigit_or c hc).imp_right Or.inl
  refine ⟨fun hmem => ?_, fun hslash => ?_, fun hnul => ?_⟩
  · have hdots : ∀ dots ∈ ["", ".", ".."], dots.toList.head? ≠ some '1' := by decide
    exact hdots name hmem (htext ▸ rfl)
  · exact absurd (hchars '/' hslash) (by decide)
  · exact absurd (hchars '\x00' hnul) (by decide)

/-- A name in the listing of a path is that of a version of the development kit, and the path of the
name leads to a directory. -/
def IsSdkDirectory (tree : FileTree) (p : Path) (name : String) (numbers : List UInt32) : Prop :=
  (∃ entries, tree.list p = .ok entries ∧ name ∈ entries.map (·.1)) ∧
    tree.isDirectory (p.join name) = true ∧ NamesSdk name numbers

theorem sdkDirectory?_eq_some_iff : sdkDirectory? tree p name' = some (numbers, name) ↔
    name' = name ∧ tree.isDirectory (p.join name) = true ∧ NamesSdk name numbers := by
  rw [sdkDirectory?, Option.ite_none_right_eq_some, Option.map_eq_some_iff]
  simp only [Prod.mk.injEq, ← sdkNumbers?_eq_some_iff]
  constructor
  · rintro ⟨hdir, _, hnumbers, rfl, rfl⟩
    exact ⟨rfl, hdir, hnumbers⟩
  · rintro ⟨rfl, hdir, hnumbers⟩
    exact ⟨hdir, _, hnumbers, rfl, rfl⟩

theorem mem_sdkDirectories (hlist : tree.list p = .ok entries) :
    (numbers, name) ∈ sdkDirectories tree p entries ↔ IsSdkDirectory tree p name numbers := by
  simp only [sdkDirectories, List.mem_filterMap, sdkDirectory?_eq_some_iff, IsSdkDirectory, hlist,
    Except.ok.injEq, exists_eq_left']
  constructor
  · rintro ⟨_, hmem, rfl, h⟩
    exact ⟨hmem, h⟩
  · rintro ⟨hmem, h⟩
    exact ⟨name, hmem, rfl, h⟩

/-- **A directory of the development kit is an entry that is a directory itself, unless its name or its
path is too long.** -/
theorem isSdkDirectory_iff (hp : p.EndsInName) (hlist : tree.list p = .ok entries)
    (hnodup : (entries.map (·.1)).Nodup) : IsSdkDirectory tree p name numbers ↔
      (∃ e, (name, e) ∈ entries ∧ e.isDirectory = true) ∧ NamesSdk name numbers ∧
        p.HasRoomFor name := by
  simp only [IsSdkDirectory, hlist, Except.ok.injEq, exists_eq_left']
  constructor
  · rintro ⟨-, hdir, hname⟩
    obtain ⟨hroom, hentry⟩ :=
      (FileTree.isDirectory_join_iff hp hname.isPieceName hlist hnodup).mp hdir
    exact ⟨hentry, hname, hroom⟩
  · rintro ⟨⟨e, he, hdir⟩, hname, hroom⟩
    exact ⟨List.mem_map_of_mem he, (FileTree.isDirectory_join_iff hp hname.isPieceName hlist
      hnodup).mpr ⟨hroom, e, he, hdir⟩, hname⟩

/-- Below a path that two trees list without repeated names a name counts in the same way if it stands
for the same entry. -/
theorem sdkDirectory?_congr (hp : p.EndsInName) (hlist : tree.list p = .ok entries)
    (hlist' : tree'.list p = .ok entries') (hnodup : (entries.map (·.1)).Nodup)
    (hnodup' : (entries'.map (·.1)).Nodup)
    (h : ∀ e, (name, e) ∈ entries ↔ (name, e) ∈ entries') :
    sdkDirectory? tree p name = sdkDirectory? tree' p name := by
  cases hnumbers : sdkNumbers? name with
  | none => simp only [sdkDirectory?, hnumbers, Option.map_none, ite_self]
  | some numbers =>
    have hpiece := (sdkNumbers?_eq_some_iff.mp hnumbers).isPieceName
    have hdir : tree.isDirectory (p.join name) = tree'.isDirectory (p.join name) := by
      rw [Bool.eq_iff_iff, FileTree.isDirectory_join_iff hp hpiece hlist hnodup,
        FileTree.isDirectory_join_iff hp hpiece hlist' hnodup']
      simp only [h]
    rw [sdkDirectory?, sdkDirectory?, hdir]

section
variable (hnames : tree.root.hasDistinctNames = true) (h : tree.Relisted tree')
include hnames h

theorem sdkDirectory?_of_relisted : sdkDirectory? tree' p = sdkDirectory? tree p := by
  funext name
  rw [sdkDirectory?, sdkDirectory?, h.isDirectory_eq hnames]

theorem isSdkDirectory_of_relisted :
    IsSdkDirectory tree p name numbers ↔ IsSdkDirectory tree' p name numbers := by
  have hlists := h.corresponds_list hnames p
  rw [IsSdkDirectory, IsSdkDirectory, h.isDirectory_eq hnames]
  refine and_congr_left fun _ => ?_
  cases hlist : tree.list p with
  | error fault =>
    rw [hlist] at hlists
    rw [hlists.eq_of_error]
  | ok entries =>
    rw [hlist] at hlists
    obtain ⟨entries', hlist', hentries⟩ := hlists.exists_of_ok
    simp only [hlist', Except.ok.injEq, exists_eq_left', hentries.names_perm.mem_iff]

end

/-! ## The greatest numbers -/

theorem leNumbers_iff : ∀ {as bs : List UInt32}, leNumbers as bs = true ↔ as ≤ bs
  | [], bs => by simp [leNumbers]
  | a :: as, [] => by simp [leNumbers]
  | a :: as, b :: bs => by
    rw [leNumbers, List.cons_le_cons_iff, Bool.or_eq_true, Bool.and_eq_true, decide_eq_true_eq,
      beq_iff_eq, leNumbers_iff]

variable {cs : List (List UInt32 × String)} {best : List UInt32 × String}

theorem greatestSdk?_eq_none_iff : greatestSdk? cs = none ↔ cs = [] := by
  cases cs with
  | nil => simp [greatestSdk?]
  | cons c rest =>
    rw [greatestSdk?]
    cases greatestSdk? rest <;> simp

theorem le_of_mem_append {front back : List (List UInt32 × String)}
    (hfront : ∀ c ∈ front, c.1 ≤ best.1) (hback : ∀ c ∈ back, c.1 < best.1) :
    ∀ c ∈ front ++ best :: back, c.1 ≤ best.1 := by
  intro c hc
  rcases List.mem_append.mp hc with hc | hc
  · exact hfront c hc
  · rcases List.mem_cons.mp hc with rfl | hc
    · exact List.le_refl c.1
    · exact List.le_of_lt (hback c hc)

theorem exists_append_of_greatestSdk? : ∀ {cs : List (List UInt32 × String)}
    {best : List UInt32 × String}, greatestSdk? cs = some best →
    ∃ front back, cs = front ++ best :: back ∧ (∀ c ∈ front, c.1 ≤ best.1) ∧
      ∀ c ∈ back, c.1 < best.1
  | c :: rest, _, h => by
    rw [greatestSdk?] at h
    cases hrest : greatestSdk? rest with
    | none =>
      rw [hrest] at h
      obtain rfl := Option.some.inj h
      obtain rfl := greatestSdk?_eq_none_iff.mp hrest
      exact ⟨[], [], rfl, by simp, by simp⟩
    | some last =>
      rw [hrest] at h
      obtain rfl := Option.some.inj h
      obtain ⟨front, back, rfl, hfront, hback⟩ := exists_append_of_greatestSdk? hrest
      split
      · next hle =>
        exact ⟨c :: front, back, rfl,
          List.forall_mem_cons.mpr ⟨leNumbers_iff.mp hle, hfront⟩, hback⟩
      · next hle =>
        -- Nothing behind the candidate exceeds the last one, which is less than the candidate.
        have hlt : last.1 < c.1 := List.not_le.mp (mt leNumbers_iff.mpr hle)
        exact ⟨[], _, rfl, by simp, fun x hx =>
          List.lt_of_le_of_lt (le_of_mem_append hfront hback x hx) hlt⟩

/-- **Of the candidates with the greatest numbers the last one is taken.** -/
theorem greatestSdk?_eq_some_iff : greatestSdk? cs = some best ↔
    ∃ front back, cs = front ++ best :: back ∧ (∀ c ∈ front, c.1 ≤ best.1) ∧
      ∀ c ∈ back, c.1 < best.1 := by
  constructor
  · exact exists_append_of_greatestSdk?
  · rintro ⟨front, back, rfl, hfront, hback⟩
    induction front with
    | nil =>
      rw [List.nil_append, greatestSdk?]
      cases h : greatestSdk? back with
      | none => rfl
      | some last =>
        obtain ⟨_, _, rfl, -, -⟩ := exists_append_of_greatestSdk? h
        have hlt : last.1 < best.1 := hback last (by simp)
        have hle : ¬ leNumbers best.1 last.1 = true := fun hle =>
          List.not_lt.mpr (leNumbers_iff.mp hle) hlt
        simp only [hle, if_false, Bool.false_eq_true]
    | cons c front ih =>
      obtain ⟨hc, hfront⟩ := List.forall_mem_cons.mp hfront
      rw [List.cons_append, greatestSdk?, ih hfront]
      simp only [leNumbers_iff.mpr hc, if_true]

theorem mem_of_greatestSdk? (h : greatestSdk? cs = some best) : best ∈ cs := by
  obtain ⟨front, back, rfl, -, -⟩ := greatestSdk?_eq_some_iff.mp h
  simp

theorem le_of_greatestSdk? (h : greatestSdk? cs = some best) : ∀ c ∈ cs, c.1 ≤ best.1 := by
  obtain ⟨front, back, rfl, hfront, hback⟩ := greatestSdk?_eq_some_iff.mp h
  exact le_of_mem_append hfront hback

theorem lt_of_greatestSdk?_reverse (hnodup : cs.Nodup) (h : greatestSdk? cs = some best)
    (hreverse : greatestSdk? cs.reverse = some best) : ∀ c ∈ cs, c ≠ best → c.1 < best.1 := by
  obtain ⟨front, back, rfl, -, hback⟩ := greatestSdk?_eq_some_iff.mp h
  obtain ⟨front', back', heq, -, hback'⟩ := greatestSdk?_eq_some_iff.mp hreverse
  obtain ⟨hfront, hrest⟩ :=
    not_or.mp (mt List.mem_append.mpr (List.nodup_cons.mp (List.nodup_middle.mp hnodup)).1)
  -- The best one stands in one place only: what is before it is behind it on the way back.
  have hbehind : front.reverse = back' := by
    rw [List.reverse_append, List.reverse_cons, List.append_assoc, List.singleton_append,
      List.append_cons_inj_of_notMem (by simpa using hrest) (by simpa using hfront)] at heq
    exact heq.2.2
  intro c hc hne
  rcases List.mem_append.mp hc with hc | hc
  · exact hback' c (hbehind ▸ List.mem_reverse.mpr hc)
  · exact hback c ((List.mem_cons.mp hc).resolve_left hne)

/-! ## The newest version of the development kit -/

/-- A name of the development kit below a path whose numbers none there exceeds. -/
def IsNewestSdk (tree : FileTree) (p : Path) (name : String) : Prop :=
  ∃ numbers, IsSdkDirectory tree p name numbers ∧
    ∀ name' numbers', IsSdkDirectory tree p name' numbers' → numbers' ≤ numbers

theorem IsNewestSdk.exists_list (h : IsNewestSdk tree p name) :
    ∃ entries, tree.list p = .ok entries := by
  obtain ⟨_, ⟨⟨entries, hlist, -⟩, -⟩, -⟩ := h
  exact ⟨entries, hlist⟩

section
variable (hlist : tree.list p = .ok entries)
include hlist

theorem newestSdkIn?_eq_none_iff : newestSdkIn? tree p entries = none ↔
    ∀ name numbers, ¬ IsSdkDirectory tree p name numbers := by
  rw [newestSdkIn?, Option.map_eq_none_iff, greatestSdk?_eq_none_iff, List.eq_nil_iff_forall_not_mem]
  simp only [Prod.forall, mem_sdkDirectories hlist]
  exact forall_comm

/-- **The newest version is that of a directory whose numbers none exceeds.** -/
theorem isNewestSdk_of_newestSdkIn? (h : newestSdkIn? tree p entries = some name) :
    IsNewestSdk tree p name := by
  obtain ⟨⟨numbers, _⟩, hbest, rfl⟩ := Option.map_eq_some_iff.mp h
  exact ⟨numbers, (mem_sdkDirectories hlist).mp (mem_of_greatestSdk? hbest),
    fun name' numbers' h' => le_of_greatestSdk? hbest _ ((mem_sdkDirectories hlist).mpr h')⟩

theorem IsNewestSdk.eq_of_forall_lt (h : IsNewestSdk tree p name)
    (hbest : best ∈ sdkDirectories tree p entries)
    (hless : ∀ c ∈ sdkDirectories tree p entries, c ≠ best → c.1 < best.1) : name = best.2 := by
  obtain ⟨numbers, hname, hmax⟩ := h
  by_contra hne
  have hlt : numbers < best.1 :=
    hless _ ((mem_sdkDirectories hlist).mpr hname) fun heq => hne (congrArg Prod.snd heq)
  exact List.not_le.mpr hlt (hmax best.2 best.1 ((mem_sdkDirectories hlist).mp hbest))

end

/-- Where one name is the newest, only the set of the directories counts. -/
theorem newestSdkIn?_congr (hlist : tree.list p = .ok entries)
    (hlist' : tree'.list p = .ok entries')
    (hsame : ∀ name numbers, IsSdkDirectory tree p name numbers ↔
      IsSdkDirectory tree' p name numbers)
    (hunique : ∀ name name', IsNewestSdk tree p name → IsNewestSdk tree p name' → name = name') :
    newestSdkIn? tree p entries = newestSdkIn? tree' p entries' := by
  have hnewest : ∀ name, IsNewestSdk tree p name ↔ IsNewestSdk tree' p name := by
    intro name
    simp only [IsNewestSdk, hsame]
  cases h : newestSdkIn? tree p entries with
  | none =>
    simp only [newestSdkIn?_eq_none_iff hlist, hsame] at h
    exact ((newestSdkIn?_eq_none_iff hlist').mpr h).symm
  | some name =>
    cases h' : newestSdkIn? tree' p entries' with
    | none =>
      simp only [newestSdkIn?_eq_none_iff hlist', ← hsame] at h'
      rw [(newestSdkIn?_eq_none_iff hlist).mpr h'] at h
      cases h
    | some name' =>
      rw [hunique name name' (isNewestSdk_of_newestSdkIn? hlist h)
        ((hnewest name').mpr (isNewestSdk_of_newestSdkIn? hlist' h'))]

/-- An entry that is no directory of the development kit does not count, wherever it stands. -/
theorem newestSdkIn?_insert {front back : List (String × Entry)} {entry : String × Entry}
    (hp : p.EndsInName) (hlist : tree.list p = .ok (front ++ entry :: back))
    (hlist' : tree'.list p = .ok (front ++ back))
    (hnodup : ((front ++ entry :: back).map (·.1)).Nodup)
    (h : ∀ numbers, ¬ IsSdkDirectory tree p entry.1 numbers) :
    newestSdkIn? tree p (front ++ entry :: back) = newestSdkIn? tree' p (front ++ back) := by
  have hentry : sdkDirectory? tree p entry.1 = none := by
    rw [Option.eq_none_iff_forall_ne_some]
    rintro ⟨numbers, name⟩ hsome
    obtain ⟨rfl, hsdk⟩ := sdkDirectory?_eq_some_iff.mp hsome
    exact h numbers ⟨⟨_, hlist, List.mem_map_of_mem (by simp)⟩, hsdk⟩
  have hnames : ((front ++ back).map (·.1)).Sublist ((front ++ entry :: back).map (·.1)) :=
    ((List.sublist_cons_self entry back).append_left front).map _
  have hrest : ∀ name ∈ (front ++ back).map (·.1),
      sdkDirectory? tree p name = sdkDirectory? tree' p name := by
    intro name hname
    have hne : name ≠ entry.1 := by
      rintro rfl
      rw [List.map_append, List.map_cons] at hnodup
      exact (List.nodup_cons.mp (List.nodup_middle.mp hnodup)).1 (by simpa using hname)
    refine sdkDirectory?_congr hp hlist hlist' hnodup (hnodup.sublist hnames) fun e => ?_
    have hother : (name, e) ≠ entry := fun heq => hne (congrArg Prod.fst heq)
    simp [hother]
  have hcandidates : sdkDirectories tree p (front ++ entry :: back) =
      sdkDirectories tree' p (front ++ back) := by
    rw [sdkDirectories, sdkDirectories, ← List.filterMap_congr hrest]
    simp [hentry]
  rw [newestSdkIn?, newestSdkIn?, hcandidates]

theorem sdkDirectories_reversed (hnames : tree.root.hasDistinctNames = true) :
    sdkDirectories tree.reversed p (Entry.reversedListing entries) =
      (sdkDirectories tree p entries).reverse := by
  rw [sdkDirectories, sdkDirectories,
    sdkDirectory?_of_relisted hnames (FileTree.relisted_reversed hnames), Entry.reversedListing,
    List.map_reverse, List.filterMap_reverse, List.map_map]
  rfl

theorem nodup_sdkDirectories (h : (entries.map (·.1)).Nodup) :
    (sdkDirectories tree p entries).Nodup := by
  refine h.filterMap fun name name' candidate hname hname' => ?_
  exact (sdkDirectory?_eq_some_iff.mp hname).1.trans (sdkDirectory?_eq_some_iff.mp hname').1.symm

/-- **If the reversed tree has the same newest version, then one name is the newest.** -/
theorem unique_of_newestSdkIn?_reversed (hnames : tree.root.hasDistinctNames = true)
    (hlist : tree.list p = .ok entries)
    (h : newestSdkIn? tree.reversed p (Entry.reversedListing entries) = newestSdkIn? tree p entries)
    (hname : IsNewestSdk tree p name) (hname' : IsNewestSdk tree p name') : name = name' := by
  obtain ⟨hnodup, -⟩ := FileTree.list_reversed hnames hlist
  cases hbest : greatestSdk? (sdkDirectories tree p entries) with
  | none =>
    have hnone : newestSdkIn? tree p entries = none := by
      rw [newestSdkIn?, hbest, Option.map_none]
    obtain ⟨_, hsdk, -⟩ := hname
    exact absurd hsdk ((newestSdkIn?_eq_none_iff hlist).mp hnone _ _)
  | some best =>
    rw [newestSdkIn?, newestSdkIn?, hbest, sdkDirectories_reversed hnames, Option.map_some] at h
    obtain ⟨first, hreverse, hfirst⟩ := Option.map_eq_some_iff.mp h
    have hmem := mem_of_greatestSdk? hbest
    have hmem' := List.mem_reverse.mp (mem_of_greatestSdk? hreverse)
    -- What both ways end at has one name, and with it the same numbers.
    obtain rfl : first = best := by
      obtain ⟨numbers, last⟩ := best
      obtain ⟨numbers', _⟩ := first
      obtain rfl := hfirst
      obtain ⟨-, -, hnumbers⟩ := (mem_sdkDirectories hlist).mp hmem
      obtain ⟨-, -, hnumbers'⟩ := (mem_sdkDirectories hlist).mp hmem'
      rw [hnumbers.unique hnumbers']
    have hless := lt_of_greatestSdk?_reverse (nodup_sdkDirectories hnodup) hbest hreverse
    rw [hname.eq_of_forall_lt hlist hmem hless, hname'.eq_of_forall_lt hlist hmem hless]

end KitSurface.Kit
