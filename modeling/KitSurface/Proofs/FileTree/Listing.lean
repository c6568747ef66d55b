import KitSurface.Proofs.FileTree.Names
import KitSurface.Proofs.FileTree.Simulation
/-!
The order in which directories are listed. No two entries of a directory have one name
(`Entry.hasDistinctNames`), so that a name leads to the same entry in every order. Trees that differ
in these orders only, at any depth (`FileTree.Relisted`), have the same directories and the same full
paths, and listings of the same names (`FileTree.Relisted.corresponds_list`). One such tree lists every
directory backwards (`FileTree.reversed`).
-/

namespace KitSurface

namespace Entry

variable {e e' : Entry} {es es' : List (String × Entry)}

/-- What holds of a directory whenever it holds of all its entries holds of every entry. -/
theorem induction {motive : Entry → Prop} (file : ∀ content, motive (.file content))
    (directory : ∀ es, (∀ name e, (name, e) ∈ es → motive e) → motive (.directory es)) :
    ∀ e, motive e
  | .file content => file content
  | .directory es => directory es fun _ e _ => induction file directory e
decreasing_by
  have hlt := List.sizeOf_lt_of_mem ‹_ ∈ es›
  simp only [Prod.mk.sizeOf_spec] at hlt
  simp only [Entry.directory.sizeOf_spec]
  omega

/-! ## Other orders -/

/-- Entries that differ in the orders of listings only, at any depth. -/
inductive Relisted : Entry → Entry → Prop
  | file (content : List UInt8) : Relisted (.file content) (.file content)
  | directory {es es' : List (String × Entry)} (hnames : (es.map (·.1)).Perm (es'.map (·.1)))
    (hbelow : ∀ name e e', (name, e) ∈ es → (name, e') ∈ es' → Relisted e e') :
    Relisted (.directory es) (.directory es')

theorem Relisted.isDirectory_eq (h : Relisted e e') : e.isDirectory = e'.isDirectory := by
  cases h <;> rfl

theorem Relisted.refl (e : Entry) : e.hasDistinctNames = true → Relisted e e := by
  induction e using Entry.induction with
  | file content => exact fun _ => .file content
  | directory es ih =>
    intro hnames
    obtain ⟨hnodup, hbelow⟩ := hasDistinctNames_directory.mp hnames
    refine .directory (List.Perm.refl _) fun name e e' he he' => ?_
    rw [← eq_of_mem_of_nodup hnodup he he']
    exact ih name e he (hbelow name e he)

theorem Relisted.symm (h : Relisted e e') : Relisted e' e := by
  induction h with
  | file content => exact .file content
  | directory hperm _ ih =>
    exact .directory hperm.symm fun name e' e he' he => ih name e e' he he'

theorem Relisted.names_perm (h : Relisted (.directory es) (.directory es')) :
    (es.map (·.1)).Perm (es'.map (·.1)) := by
  cases h with
  | directory hperm _ => exact hperm

theorem Relisted.exists_of_mem {name : String} (h : Relisted (.directory es) (.directory es'))
    (he : (name, e) ∈ es) : ∃ e', (name, e') ∈ es' ∧ Relisted e e' := by
  obtain ⟨⟨_, e'⟩, he', rfl⟩ := List.mem_map.mp (h.names_perm.mem_iff.mp (List.mem_map_of_mem he))
  cases h with
  | directory _ hbelow => exact ⟨e', he', hbelow _ e e' he he'⟩

theorem Relisted.of_perm (hnames : (Entry.directory es).hasDistinctNames = true) (h : es.Perm es') :
    Relisted (.directory es) (.directory es') := by
  obtain ⟨hnodup, hbelow⟩ := hasDistinctNames_directory.mp hnames
  refine .directory (h.map _) fun name e e' he he' => ?_
  rw [← eq_of_mem_of_nodup hnodup he (h.mem_iff.mpr he')]
  exact .refl e (hbelow name e he)

theorem isSimulation_relisted :
    IsSimulation fun e e' => e.hasDistinctNames = true ∧ Relisted e e' where
  isDirectory_eq h := h.2.isDirectory_eq
  child := by
    rintro e e' ⟨hnames, hrelisted⟩ name
    cases hrelisted with
    | file content => exact .none
    | @directory es es' hperm hbelow =>
      obtain ⟨hnodup, hdistinct⟩ := hasDistinctNames_directory.mp hnames
      exact rel_lookup hnodup hperm
        (fun n b c hb hc => ⟨hdistinct n b hb, hbelow n b c hb hc⟩) name

/-! ## The reversed order -/

mutual

/-- An entry with every listing backwards. -/
def reversed : Entry → Entry
  | file content => file content
  | directory es => directory (allReversed es).reverse

/-- The entries of a listing, each with every listing below it backwards. -/
def allReversed : List (String × Entry) → List (String × Entry)
  | [] => []
  | (name, e) :: rest => (name, e.reversed) :: allReversed rest

end

/-- The entries of a directory that is listed backwards. -/
def reversedListing (es : List (String × Entry)) : List (String × Entry) :=
  (es.map fun entry => (entry.1, entry.2.reversed)).reverse

theorem reversed_directory (es : List (String × Entry)) :
    (directory es).reversed = directory (reversedListing es) := by
  have hall : allReversed es = es.map fun entry => (entry.1, entry.2.reversed) := by
    induction es with
    | nil => rfl
    | cons entry rest ih => rw [allReversed, ih, List.map_cons]
  rw [reversed, hall, reversedListing]

theorem isDirectory_reversed (e : Entry) : e.reversed.isDirectory = e.isDirectory := by
  cases e <;> rfl

theorem names_reversedListing (es : List (String × Entry)) :
    (es.map (·.1)).Perm ((reversedListing es).map (·.1)) := by
  rw [reversedListing, List.map_reverse, List.map_map]
  exact (List.reverse_perm _).symm

/-- What stands in a reversed listing is what stood there under this name, reversed. -/
theorem eq_reversed_of_mem (hnodup : (es.map (·.1)).Nodup) (name : String) (e e' : Entry)
    (he : (name, e) ∈ es) (he' : (name, e') ∈ reversedListing es) : e' = e.reversed := by
  obtain ⟨⟨_, b⟩, hb, heq⟩ := List.mem_map.mp (List.mem_reverse.mp he')
  obtain ⟨rfl, rfl⟩ := Prod.mk.inj heq
  rw [eq_of_mem_of_nodup hnodup he hb]

theorem relisted_reversed (e : Entry) :
    e.hasDistinctNames = true → Relisted e e.reversed := by
  induction e using Entry.induction with
  | file content => exact fun _ => .file content
  | directory es ih =>
    intro hnames
    obtain ⟨hnodup, hbelow⟩ := hasDistinctNames_directory.mp hnames
    rw [reversed_directory]
    refine .directory (names_reversedListing es) fun name e e' he he' => ?_
    rw [eq_reversed_of_mem hnodup name e e' he he']
    exact ih name e he (hbelow name e he)

theorem isSimulation_reversed :
    IsSimulation fun e e' => e.hasDistinctNames = true ∧ e' = e.reversed where
  isDirectory_eq h := by rw [h.2, isDirectory_reversed]
  child := by
    rintro e _ ⟨hnames, rfl⟩ name
    cases e with
    | file content => exact .none
    | directory es =>
      obtain ⟨hnodup, hbelow⟩ := hasDistinctNames_directory.mp hnames
      rw [reversed_directory]
      exact rel_lookup hnodup (names_reversedListing es)
        (fun n b c hb hc => ⟨hbelow n b hb, eq_reversed_of_mem hnodup n b c hb hc⟩) name

end Entry

/-! ## Trees -/

namespace FileTree

variable {t t' : FileTree} {p : Path} {es : List (String × Entry)}

/-- Trees that differ in the orders of listings only. -/
def Relisted (t t' : FileTree) : Prop :=
  Related Entry.Relisted t t'

/-- A tree with every listing backwards. -/
def reversed (t : FileTree) : FileTree :=
  { t with root := t.root.reversed }

section
variable (hnames : t.root.hasDistinctNames = true) (h : Relisted t t')
include hnames h

theorem Relisted.related :
    Related (fun e e' => e.hasDistinctNames = true ∧ Entry.Relisted e e') t t' :=
  ⟨⟨hnames, h.root⟩, h.current⟩

theorem Relisted.canonical_eq (p : Path) : t.canonical p = t'.canonical p :=
  canonical_eq_of_related Entry.isSimulation_relisted (h.related hnames) p

theorem Relisted.isDirectory_eq (p : Path) : t.isDirectory p = t'.isDirectory p :=
  isDirectory_eq_of_related Entry.isSimulation_relisted (h.related hnames) p

/-- **A path leads to listings of the same entries, or to none for the same reason.** -/
theorem Relisted.corresponds_list (p : Path) :
    Corresponds (fun es es' => Entry.Relisted (.directory es) (.directory es'))
      (t.list p) (t'.list p) :=
  (FileTree.corresponds_list Entry.isSimulation_relisted (h.related hnames) p).imp
    fun _ _ hlisted => hlisted.2

end

theorem relisted_reversed (hnames : t.root.hasDistinctNames = true) : Relisted t t.reversed :=
  ⟨Entry.relisted_reversed t.root hnames, rfl⟩

/-- In the reversed tree a path leads to the reversed listing, which has distinct names. -/
theorem list_reversed (hnames : t.root.hasDistinctNames = true) (hlist : t.list p = .ok es) :
    (es.map (·.1)).Nodup ∧ t.reversed.list p = .ok (Entry.reversedListing es) := by
  have hrelated : Related (fun e e' => e.hasDistinctNames = true ∧ e' = e.reversed) t t.reversed :=
    ⟨⟨hnames, rfl⟩, rfl⟩
  have hlists := FileTree.corresponds_list Entry.isSimulation_reversed hrelated p
  rw [hlist] at hlists
  obtain ⟨es', hlist', hdistinct, heq⟩ := hlists.exists_of_ok
  rw [Entry.reversed_directory, Entry.directory.injEq] at heq
  exact ⟨(Entry.hasDistinctNames_directory.mp hdistinct).1, heq ▸ hlist'⟩

end FileTree

end KitSurface
