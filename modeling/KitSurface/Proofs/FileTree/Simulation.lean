import KitSurface.FileTree.Basic
import Mathlib.Data.List.Forall2
/-!
Trees in which the same paths lead to the same places. A relation of entries is a simulation if
related entries are of one kind and have related entries of every name (`Entry.IsSimulation`). Then a
step leads from related places to related places or fails in the same way (`Place.Related.step`), and
so does a whole path (`Place.Related.walk`). Main statement: what is found in related trees is related
(`FileTree.corresponds_find`), so that they have the same directories and the same full paths.
-/

namespace KitSurface

/-- Two results are related, or they are the same error. -/
inductive Corresponds {ε α β : Type} (S : α → β → Prop) : Except ε α → Except ε β → Prop
  | ok {a : α} {b : β} (h : S a b) : Corresponds S (.ok a) (.ok b)
  | error (e : ε) : Corresponds S (.error e) (.error e)

theorem Corresponds.bind {ε α β γ δ : Type} {S : α → β → Prop} {T : γ → δ → Prop}
    {x : Except ε α} {y : Except ε β} {f : α → Except ε γ} {g : β → Except ε δ}
    (h : Corresponds S x y) (hfg : ∀ a b, S a b → Corresponds T (f a) (g b)) :
    Corresponds T (x >>= f) (y >>= g) := by
  cases h with
  | ok h => exact hfg _ _ h
  | error e => exact .error e

theorem Corresponds.imp {ε α β : Type} {S T : α → β → Prop} {x : Except ε α} {y : Except ε β}
    (h : Corresponds S x y) (himp : ∀ a b, S a b → T a b) : Corresponds T x y := by
  cases h with
  | ok h => exact .ok (himp _ _ h)
  | error e => exact .error e

theorem Corresponds.exists_of_ok {ε α β : Type} {S : α → β → Prop} {a : α} {y : Except ε β}
    (h : Corresponds S (.ok a) y) : ∃ b, y = .ok b ∧ S a b := by
  cases h with
  | ok h => exact ⟨_, rfl, h⟩

theorem Corresponds.eq_of_error {ε α β : Type} {S : α → β → Prop} {e : ε} {y : Except ε β}
    (h : Corresponds S (.error e) y) : y = .error e := by
  cases h
  rfl

theorem Corresponds.eq {ε α : Type} {x y : Except ε α} (h : Corresponds Eq x y) : x = y := by
  cases h with
  | ok h => rw [h]
  | error e => rfl

/-- Related entries are of one kind, and have related entries of every name. -/
structure Entry.IsSimulation (R : Entry → Entry → Prop) : Prop where
  isDirectory_eq {e e' : Entry} : R e e' → e.isDirectory = e'.isDirectory
  child {e e' : Entry} : R e e' → ∀ name, Option.Rel R (e.child? name) (e'.child? name)

variable {R : Entry → Entry → Prop}

/-- Related entries are two files or two directories. -/
theorem Entry.IsSimulation.kinds (hR : Entry.IsSimulation R) {e e' : Entry} (h : R e e') :
    (∃ content content', e = .file content ∧ e' = .file content') ∨
      ∃ es es', e = .directory es ∧ e' = .directory es' := by
  have hkind := hR.isDirectory_eq h
  cases e with
  | file content =>
    cases e' with
    | file content' => exact Or.inl ⟨content, content', rfl, rfl⟩
    | directory es' => cases hkind
  | directory es =>
    cases e' with
    | file content' => cases hkind
    | directory es' => exact Or.inr ⟨es, es', rfl, rfl⟩

/-! ## Places -/

namespace Place

/-- Two places of the same names in related trees, with related entries on the way to them. -/
structure Related (R : Entry → Entry → Prop) (p p' : Place) : Prop where
  above : List.Forall₂ (fun a a' => a.1 = a'.1 ∧ R a.2 a'.2) p.above p'.above
  root : R p.root p'.root

variable {p p' : Place}

theorem Related.entry (h : Related R p p') : R p.entry p'.entry := by
  obtain ⟨above, root⟩ := p
  obtain ⟨above', root'⟩ := p'
  obtain ⟨habove, hroot⟩ := h
  cases habove with
  | nil => exact hroot
  | cons hentry _ => exact hentry.2

theorem Related.names_eq (h : Related R p p') : p.names = p'.names := by
  have hnames : List.Forall₂ Eq (p.above.map (·.1)) (p'.above.map (·.1)) := by
    rw [List.forall₂_map_left_iff, List.forall₂_map_right_iff]
    exact h.above.imp fun _ _ hentry => hentry.1
  rw [List.forall₂_eq_eq_eq] at hnames
  rw [names, names, List.map_reverse, List.map_reverse, hnames]

theorem Related.up (h : Related R p p') :
    Related R { p with above := p.above.tail } { p' with above := p'.above.tail } := by
  obtain ⟨above, root⟩ := p
  obtain ⟨above', root'⟩ := p'
  obtain ⟨habove, hroot⟩ := h
  cases habove with
  | nil => exact ⟨.nil, hroot⟩
  | cons _ hrest => exact ⟨hrest, hroot⟩

/-- **A step leads to related places, or fails in the same way.** -/
theorem Related.step (hR : Entry.IsSimulation R) (h : Related R p p') (piece : String) :
    Corresponds (Related R) (p.step piece) (p'.step piece) := by
  have hentry := h.entry
  have hchild := hR.child hentry piece
  unfold Place.step
  obtain ⟨_, _, he, he'⟩ | ⟨es, es', he, he'⟩ := hR.kinds hentry
  · rw [he, he']
    exact .error _
  · rw [he, he'] at hchild ⊢
    dsimp only
    -- A piece stays where it is, leads up or leads down; only then the entries count.
    split
    · exact .ok h
    · split
      · exact .ok h.up
      · cases checkName piece with
        | error fault => exact .error fault
        | ok _ =>
          change Option.Rel R (es.lookup piece) (es'.lookup piece) at hchild
          revert hchild
          generalize es.lookup piece = below, es'.lookup piece = below'
          intro hchild
          cases hchild with
          | none => exact .error _
          | some hsub => exact .ok ⟨.cons ⟨rfl, hsub⟩ h.above, h.root⟩

theorem Related.foldlM {f : Place → String → Except FileFault Place}
    (hf : ∀ {p p' : Place} (piece : String), Related R p p' →
      Corresponds (Related R) (f p piece) (f p' piece)) :
    ∀ {pieces : List String} {p p' : Place}, Related R p p' →
      Corresponds (Related R) (pieces.foldlM f p) (pieces.foldlM f p')
  | [], _, _, h => .ok h
  | piece :: pieces, p, p', h => by
    rw [List.foldlM_cons, List.foldlM_cons]
    exact (hf piece h).bind fun _ _ hplace => hplace.foldlM hf

theorem Related.walk (hR : Entry.IsSimulation R) (h : Related R p p') (pieces : List String) :
    Corresponds (Related R) (p.walk pieces) (p'.walk pieces) :=
  h.foldlM fun piece hplace => hplace.step hR piece

/-- Related places have the same names, and so their full paths are too long together. -/
theorem Related.walkInFull (hR : Entry.IsSimulation R) (h : Related R p p') (pieces : List String) :
    Corresponds (Related R) (p.walkInFull pieces) (p'.walkInFull pieces) := by
  refine h.foldlM fun {q q'} piece hplace => ?_
  rw [stepInFull, stepInFull, isTooFar, isTooFar, hplace.names_eq]
  split
  · exact .error _
  · exact hplace.step hR piece

end Place

/-! ## Trees -/

namespace FileTree

variable {t t' : FileTree}

/-- Trees with related roots and the same current directory. -/
structure Related (R : Entry → Entry → Prop) (t t' : FileTree) : Prop where
  root : R t.root t'.root
  current : t.current = t'.current

variable (hR : Entry.IsSimulation R) (h : Related R t t') (p : Path)
include hR h

theorem corresponds_start : Corresponds (Place.Related R) (t.start p) (t'.start p) := by
  have hroot : Place.Related R ⟨[], t.root⟩ ⟨[], t'.root⟩ := ⟨.nil, h.root⟩
  unfold start
  split
  · exact .ok hroot
  · rw [← h.current]
    exact hroot.walk hR t.current

/-- **A path leads to related places, or to none in the same way.** -/
theorem corresponds_find : Corresponds (Place.Related R) (t.find p) (t'.find p) := by
  unfold find
  cases checkPath p with
  | error fault => exact .error fault
  | ok _ => exact (corresponds_start hR h p).bind fun _ _ hplace => hplace.walk hR p.pieces

theorem canonical_eq_of_related : t.canonical p = t'.canonical p := by
  have hpaths : Corresponds Eq
      (t.start p >>= fun first => first.walkInFull p.pieces >>= fun q => .ok (Path.ofNames q.names))
      (t'.start p >>= fun first => first.walkInFull p.pieces >>= fun q =>
        .ok (Path.ofNames q.names)) :=
    (corresponds_start hR h p).bind fun _ _ hplace =>
      (hplace.walkInFull hR p.pieces).bind fun _ _ hend => .ok (congrArg Path.ofNames hend.names_eq)
  unfold canonical
  cases checkPath p with
  | error fault => rfl
  | ok _ => exact hpaths.eq

theorem isDirectory_eq_of_related : t.isDirectory p = t'.isDirectory p := by
  have hfind := corresponds_find hR h p
  unfold isDirectory entry?
  cases hfirst : t.find p with
  | error fault =>
    rw [hfirst] at hfind
    rw [hfind.eq_of_error]
  | ok place =>
    rw [hfirst] at hfind
    obtain ⟨place', hfirst', hplace⟩ := hfind.exists_of_ok
    rw [hfirst']
    exact hR.isDirectory_eq hplace.entry

theorem corresponds_list : Corresponds (fun es es' => R (.directory es) (.directory es'))
    (t.list p) (t'.list p) := by
  unfold list
  refine (corresponds_find hR h p).bind fun place place' hplace => ?_
  have hentry := hplace.entry
  obtain ⟨_, _, he, he'⟩ | ⟨es, es', he, he'⟩ := hR.kinds hentry
  · rw [he, he']
    exact .error _
  · rw [he, he'] at hentry ⊢
    exact .ok hentry

end FileTree

end KitSurface
