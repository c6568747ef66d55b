import KitSurface.Proofs.FileTree.Join
/-!
Full paths. What a path leads to is where the names of its place lead to from the root, step by step
(`Place.IsReached`): every step keeps this, whether it stays, leads up or leads down. A full path is
looked up name by name, so that it is found only if none of them is too far from the root
(`FileTree.InReach`). Main statement: the full path of a path that is in reach is the one whose names,
none of them empty or dots, lead from the root to the same place (`FileTree.canonical_eq_ok_iff`), and
what is not in reach has none (`FileTree.canonical_eq_error`). A path that begins with the root is as
long as what it leads to, and so it is in reach (`FileTree.inReach_of_isAbsolute`).
-/

namespace KitSurface

namespace Path

variable {names : List String}

end Path

namespace Place

variable {root : Entry} {p q : Place} {piece : String} {pieces names : List String}

theorem step_cases (h : p.step piece = .ok q) :
    (piece = "" ∨ piece = ".") ∧ q = p ∨
    piece = ".." ∧ q = { p with above := p.above.tail } ∨
    piece ∉ ["", ".", ".."] ∧ ∃ e, q = { p with above := (piece, e) :: p.above } := by
  unfold step at h
  split at h
  · cases h
  · next entries _ =>
    split at h
    · next hhere => exact Or.inl ⟨by simpa using hhere, (Except.ok.inj h).symm⟩
    · next hhere =>
      split at h
      · next hup => exact Or.inr (Or.inl ⟨hup, (Except.ok.inj h).symm⟩)
      · next hup =>
        obtain ⟨-, -, h⟩ := bind_eq_ok_iff.mp h
        cases hlookup : entries.lookup piece with
        | none =>
          rw [hlookup] at h
          cases h
        | some e =>
          rw [hlookup] at h
          exact Or.inr (Or.inr ⟨by simp_all, e, (Except.ok.inj h).symm⟩)

theorem exists_of_step (hpiece : piece ∉ ["", ".", ".."]) (h : p.step piece = .ok q) :
    ∃ e, q = { p with above := (piece, e) :: p.above } := by
  rcases step_cases h with ⟨rfl | rfl, -⟩ | ⟨rfl, -⟩ | ⟨-, hdown⟩
  · simp at hpiece
  · simp at hpiece
  · simp at hpiece
  · exact hdown

theorem names_cons (name : String) (e : Entry) (above : List (String × Entry)) (root : Entry) :
    (Place.mk ((name, e) :: above) root).names = (Place.mk above root).names ++ [name] := by
  simp [names]

/-- A place is where its names lead to from the root, and none of them is empty or dots. -/
structure IsReached (root : Entry) (p : Place) : Prop where
  walk_names : (Place.mk [] root).walk p.names = .ok p
  ne_dots : ∀ name ∈ p.names, name ∉ ["", ".", ".."]

theorem isReached_root (root : Entry) : IsReached root ⟨[], root⟩ :=
  ⟨rfl, by simp [names]⟩

theorem walk_concat (p : Place) (pieces : List String) (piece : String) :
    p.walk (pieces ++ [piece]) = p.walk pieces >>= fun q => q.step piece := by
  rw [walk, List.foldlM_append]
  refine bind_congr fun q => ?_
  rw [List.foldlM_cons]
  cases q.step piece <;> rfl

/-- The place above a place is reached on the way to it. -/
theorem IsReached.up (h : IsReached root p) :
    IsReached root { p with above := p.above.tail } := by
  obtain ⟨above, root'⟩ := p
  cases above with
  | nil => exact h
  | cons entry above =>
    obtain ⟨name, e⟩ := entry
    obtain ⟨hwalk, hdots⟩ := h
    rw [names_cons] at hwalk hdots
    obtain ⟨hdots, hname⟩ := List.forall_mem_append.mp hdots
    rw [walk_concat] at hwalk
    obtain ⟨mid, hmid, hstep⟩ := bind_eq_ok_iff.mp hwalk
    -- The last name led down to the place, so that the place before it is the one above.
    obtain ⟨e', heq⟩ := exists_of_step (hname name (by simp)) hstep
    obtain ⟨habove, rfl⟩ := Place.mk.inj heq
    obtain ⟨-, rfl⟩ := List.cons.inj habove
    exact ⟨hmid, hdots⟩

/-- **A step leads from what is reached to what is reached.** -/
theorem IsReached.step (h : IsReached root p) (hstep : p.step piece = .ok q) :
    IsReached root q := by
  rcases step_cases hstep with ⟨-, rfl⟩ | ⟨-, rfl⟩ | ⟨hpiece, e, rfl⟩
  · exact h
  · exact h.up
  · obtain ⟨hwalk, hdots⟩ := h
    refine ⟨?_, ?_⟩
    · rw [names_cons, walk_concat, hwalk]
      exact hstep
    · rw [names_cons]
      exact List.forall_mem_append.mpr ⟨hdots, by simpa using hpiece⟩

theorem IsReached.walk : ∀ {pieces : List String} {p : Place}, IsReached root p →
    p.walk pieces = .ok q → IsReached root q
  | [], _, h, hwalk => Except.ok.inj hwalk ▸ h
  | piece :: pieces, p, h, hwalk => by
    rw [Place.walk, List.foldlM_cons] at hwalk
    obtain ⟨mid, hstep, hwalk⟩ := bind_eq_ok_iff.mp hwalk
    exact (h.step hstep).walk hwalk

theorem names_of_walk : ∀ {names : List String} {p : Place},
    (∀ name ∈ names, name ∉ ["", ".", ".."]) → p.walk names = .ok q → q.names = p.names ++ names
  | [], p, _, h => by
    rw [← Except.ok.inj h, List.append_nil]
  | name :: names, p, hdots, h => by
    obtain ⟨hname, hdots⟩ := List.forall_mem_cons.mp hdots
    rw [Place.walk, List.foldlM_cons] at h
    obtain ⟨mid, hstep, hwalk⟩ := bind_eq_ok_iff.mp h
    obtain ⟨e, rfl⟩ := exists_of_step hname hstep
    rw [names_of_walk hdots hwalk, names_cons, List.append_assoc, List.singleton_append]

/-! ## What is in reach -/

/-- A piece stays, leads up, or leads to a name whose full path is short enough to be looked up. -/
def IsNear (p : Place) (piece : String) : Prop :=
  piece ∉ ["", ".", ".."] →
    (Path.ofNames (p.names ++ [piece])).text.utf8ByteSize < FileTree.pathLimit

/-- The full path to every name on the way is short enough to be looked up. -/
def InReach (p : Place) (pieces : List String) : Prop :=
  ∀ front piece back q, pieces = front ++ piece :: back → p.walk front = .ok q → q.IsNear piece

theorem inReach_nil (p : Place) : p.InReach [] :=
  fun front _ _ _ h => absurd h.symm (List.append_ne_nil_of_right_ne_nil front (List.cons_ne_nil _ _))

theorem inReach_cons : p.InReach (piece :: pieces) ↔
    p.IsNear piece ∧ ∀ q, p.step piece = .ok q → q.InReach pieces := by
  constructor
  · intro h
    refine ⟨h [] piece pieces p rfl rfl, ?_⟩
    rintro q hstep front next back mid rfl hwalk
    refine h (piece :: front) next back mid rfl ?_
    rw [walk, List.foldlM_cons, hstep]
    exact hwalk
  · rintro ⟨hnear, hrest⟩ front next back q hpieces hwalk
    cases front with
    | nil =>
      obtain ⟨rfl, -⟩ := List.cons.inj hpieces
      exact Except.ok.inj hwalk ▸ hnear
    | cons first front =>
      obtain ⟨rfl, rfl⟩ := List.cons.inj hpieces
      rw [walk, List.foldlM_cons] at hwalk
      obtain ⟨mid, hstep, hwalk⟩ := bind_eq_ok_iff.mp hwalk
      exact hrest mid hstep front next back q rfl hwalk

theorem inReach_cons_of_step (h : p.step piece = .ok q) :
    p.InReach (piece :: pieces) ↔ p.IsNear piece ∧ q.InReach pieces := by
  simp only [inReach_cons, h, Except.ok.injEq, forall_eq']

theorem stepInFull_of_isNear (h : p.IsNear piece) : p.stepInFull piece = p.step piece :=
  if_neg fun ⟨hpiece, hfar⟩ => Nat.not_le.mpr (h hpiece) (of_decide_eq_true hfar)

theorem stepInFull_of_not_isNear (h : ¬ p.IsNear piece) :
    p.stepInFull piece = .error .nameTooLong := by
  obtain ⟨hpiece, hfar⟩ := Classical.not_imp.mp h
  exact if_pos ⟨hpiece, decide_eq_true (Nat.not_lt.mp hfar)⟩

theorem walkInFull_eq_ok_iff {pieces : List String} {p q : Place} :
    p.walkInFull pieces = .ok q ↔ p.InReach pieces ∧ p.walk pieces = .ok q := by
  induction pieces generalizing p with
  | nil => exact (and_iff_right p.inReach_nil).symm
  | cons piece pieces ih =>
    rw [walkInFull, walk, List.foldlM_cons, List.foldlM_cons]
    by_cases hnear : p.IsNear piece
    · rw [stepInFull_of_isNear hnear]
      cases hstep : p.step piece with
      | error fault => simp [bind, Except.bind]
      | ok mid =>
        rw [inReach_cons_of_step hstep, and_iff_right hnear]
        exact ih
    · have hfar : ¬ p.InReach (piece :: pieces) := fun hreach => hnear (inReach_cons.mp hreach).1
      rw [stepInFull_of_not_isNear hnear]
      simp [bind, Except.bind, hfar]

/-- A path that leads somewhere fails in full only for the length of a full path. -/
theorem walkInFull_eq_error : ∀ {pieces : List String} {p q : Place}, p.walk pieces = .ok q →
    ¬ p.InReach pieces → p.walkInFull pieces = .error .nameTooLong
  | [], p, _, _, h => (h p.inReach_nil).elim
  | piece :: pieces, p, q, hwalk, h => by
    rw [walk, List.foldlM_cons] at hwalk
    obtain ⟨mid, hstep, hwalk⟩ := bind_eq_ok_iff.mp hwalk
    rw [walkInFull, List.foldlM_cons]
    rw [inReach_cons_of_step hstep] at h
    by_cases hnear : p.IsNear piece
    · have hrest : ¬ mid.InReach pieces := fun hmid => h ⟨hnear, hmid⟩
      rw [stepInFull_of_isNear hnear, hstep]
      exact walkInFull_eq_error hwalk hrest
    · rw [stepInFull_of_not_isNear hnear]
      rfl

end Place

namespace FileTree

variable {t : FileTree} {p q : Path} {place : Place}

/-- A full path to what a path leads to: its names lead from the root to the same place, and none of
them is empty or dots. -/
def IsFullPath (t : FileTree) (p q : Path) : Prop :=
  ∃ place names, t.find p = .ok place ∧ (Place.mk [] t.root).walk names = .ok place ∧
    (∀ name ∈ names, name ∉ ["", ".", ".."]) ∧ q = Path.ofNames names

theorem isReached_of_find (h : t.find p = .ok place) : place.IsReached t.root := by
  obtain ⟨-, first, hstart, hwalk⟩ := find_eq_ok_iff.mp h
  have hfirst : first.IsReached t.root := by
    unfold start at hstart
    split at hstart
    · exact Except.ok.inj hstart ▸ Place.isReached_root t.root
    · exact (Place.isReached_root t.root).walk hstart
  exact hfirst.walk hwalk

/-- Every name on the way of a path has a full path that is short enough to be looked up. -/
def InReach (t : FileTree) (p : Path) : Prop :=
  ∀ first, t.start p = .ok first → first.InReach p.pieces

/-- **The full path that is found is the one of names that lead to the same place, all of them in
reach.** -/
theorem canonical_eq_ok_iff : t.canonical p = .ok q ↔ t.InReach p ∧ t.IsFullPath p q := by
  have hcanonical : t.canonical p = .ok q ↔ checkPath p = .ok () ∧ ∃ first, t.start p = .ok first ∧
      ∃ place, first.walkInFull p.pieces = .ok place ∧ q = Path.ofNames place.names := by
    have hpaths : ∀ place : Place, (pure (Path.ofNames place.names) : Except FileFault Path) = .ok q ↔
        q = Path.ofNames place.names := fun place =>
      ⟨fun heq => (Except.ok.inj heq).symm, fun heq => heq ▸ rfl⟩
    rw [canonical, bind_eq_ok_iff]
    simp only [bind_eq_ok_iff, hpaths]
    exact ⟨fun ⟨_, hcheck, h⟩ => ⟨hcheck, h⟩, fun ⟨hcheck, h⟩ => ⟨(), hcheck, h⟩⟩
  rw [hcanonical]
  constructor
  · rintro ⟨hcheck, first, hstart, place, hwalk, rfl⟩
    obtain ⟨hreach, hplace⟩ := Place.walkInFull_eq_ok_iff.mp hwalk
    have hfind : t.find p = .ok place := find_eq_ok_iff.mpr ⟨hcheck, first, hstart, hplace⟩
    obtain ⟨hnames, hdots⟩ := isReached_of_find hfind
    refine ⟨fun first' hstart' => ?_, place, place.names, hfind, hnames, hdots, rfl⟩
    obtain rfl := Except.ok.inj (hstart.symm.trans hstart')
    exact hreach
  · rintro ⟨hreach, place, names, hfind, hnames, hdots, rfl⟩
    obtain ⟨hcheck, first, hstart, hwalk⟩ := find_eq_ok_iff.mp hfind
    have hinFull := Place.walkInFull_eq_ok_iff.mpr ⟨hreach first hstart, hwalk⟩
    have heq : place.names = names := Place.names_of_walk hdots hnames
    exact ⟨hcheck, first, hstart, place, hinFull, heq ▸ rfl⟩

/-- **What is not in reach has no full path, though something is there.** -/
theorem canonical_eq_error (h : t.find p = .ok place) (hreach : ¬ t.InReach p) :
    t.canonical p = .error .nameTooLong := by
  obtain ⟨hcheck, first, hstart, hwalk⟩ := find_eq_ok_iff.mp h
  have hfirst : ¬ first.InReach p.pieces := fun hfirst =>
    hreach fun first' hstart' => Except.ok.inj (hstart.symm.trans hstart') ▸ hfirst
  rw [canonical, hcheck, hstart]
  show (first.walkInFull p.pieces >>= fun q => pure (Path.ofNames q.names)) = _
  rw [Place.walkInFull_eq_error hwalk hfirst]
  rfl

theorem exists_isFullPath (h : t.find p = .ok place) : ∃ q, t.IsFullPath p q := by
  obtain ⟨hwalk, hdots⟩ := isReached_of_find h
  exact ⟨.ofNames place.names, place, place.names, h, hwalk, hdots, rfl⟩

end FileTree

end KitSurface
