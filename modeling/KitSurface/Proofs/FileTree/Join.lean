import KitSurface.FileTree.Basic
import KitSurface.Proofs.Traversal
import Mathlib.Data.List.Basic
import Mathlib.Data.String.Basic
/-!
Paths below a directory. A path that ends in a name has the pieces of what is joined to it behind its
own (`Path.pieces_join`). Main statement: a name joined to the path of a directory leads to the entry
that the listing has under the name, unless the name or the path is too long
(`FileTree.isDirectory_join_iff`).
-/

namespace KitSurface

namespace Path

variable {base : Path} {rest : String}

/-- The last character of a path is there and is no slash. -/
def EndsInName (p : Path) : Prop :=
  ∃ c, p.text.toList.getLast? = some c ∧ c ≠ '/'

theorem eq_of_text_eq {p q : Path} (h : p.text = q.text) : p = q :=
  congrArg Path.mk h

theorem EndsInName.ne_nil (h : EndsInName base) : base.text.toList ≠ [] := by
  obtain ⟨c, hlast, -⟩ := h
  intro hnil
  rw [hnil] at hlast
  cases hlast

theorem text_join (hbase : EndsInName base) (hrest : rest.toList.head? ≠ some '/') :
    (base.join rest).text = base.text ++ "/" ++ rest := by
  have hempty : base.text.isEmpty = false := by
    simpa [String.isEmpty_iff] using hbase.ne_nil
  obtain ⟨c, hlast, hc⟩ := hbase
  have hslash : base.text.toList.getLast? ≠ some '/' := by
    rw [hlast]
    exact fun heq => hc (Option.some.inj heq)
  simp [join, isAbsolute, hrest, hempty, hslash]

theorem getLast?_append (front : String) (hrest : rest ≠ "") :
    (front ++ rest).toList.getLast? = rest.toList.getLast? := by
  rw [String.toList_append, List.getLast?_append_of_ne_nil]
  exact mt String.toList_eq_nil_iff.mp hrest

theorem getLast?_join (base : Path) (hrest : rest ≠ "") :
    (base.join rest).text.toList.getLast? = rest.toList.getLast? := by
  unfold join
  split
  · rfl
  · split
    · exact getLast?_append _ hrest
    · exact getLast?_append _ hrest

theorem EndsInName.join (base : Path) (hrest : EndsInName ⟨rest⟩) : EndsInName (base.join rest) := by
  have hne : rest ≠ "" := fun heq => hrest.ne_nil (by rw [heq]; rfl)
  obtain ⟨c, hlast, hc⟩ := hrest
  exact ⟨c, (getLast?_join base hne).trans hlast, hc⟩

theorem pieces_join (hbase : EndsInName base) (hrest : rest.toList.head? ≠ some '/') :
    (base.join rest).pieces = base.pieces ++ (Path.mk rest).pieces := by
  rw [pieces, text_join hbase hrest, String.toList_append, String.toList_append,
    List.append_assoc]
  show ((base.text.toList ++ '/' :: rest.toList).splitOn '/').map String.ofList = _
  rw [List.splitOn_append_cons_self, List.map_append, pieces, pieces]

theorem isAbsolute_join (hbase : EndsInName base) (hrest : rest.toList.head? ≠ some '/') :
    (base.join rest).isAbsolute = base.isAbsolute := by
  obtain ⟨c, cs, htext⟩ := List.exists_cons_of_ne_nil hbase.ne_nil
  rw [isAbsolute, isAbsolute, text_join hbase hrest, String.toList_append, String.toList_append,
    htext]
  rfl

def slashes (n : Nat) : String :=
  String.ofList (List.replicate n '/')

theorem utf8ByteSize_slashes (n : Nat) : (slashes n).utf8ByteSize = n := by
  rw [← String.utf8Len_toList, slashes, String.toList_ofList]
  induction n with
  | zero => rfl
  | succ n ih =>
    rw [List.replicate_succ, String.utf8Len_cons, ih]
    rfl

theorem join_slashes {n : Nat} (hn : n ≠ 0) (hrest : rest.toList.head? ≠ some '/') :
    (Path.mk (slashes n)).join rest = ⟨slashes n ++ rest⟩ := by
  obtain ⟨m, rfl⟩ := Nat.exists_eq_succ_of_ne_zero hn
  have hlast : (slashes (m + 1)).toList.getLast? = some '/' := by
    rw [slashes, String.toList_ofList, List.replicate_succ', List.getLast?_concat]
  have hempty : slashes (m + 1) ≠ "" := by
    intro hnil
    rw [hnil] at hlast
    cases hlast
  simp [join, isAbsolute, hrest, hempty, hlast]

theorem pieces_slashes (n : Nat) (text : String) :
    (Path.mk (slashes n ++ text)).pieces = List.replicate n "" ++ (Path.mk text).pieces := by
  have hsplit : ∀ n, (List.replicate n '/' ++ text.toList).splitOn '/' =
      List.replicate n [] ++ text.toList.splitOn '/' := by
    intro n
    induction n with
    | zero => rfl
    | succ n ih =>
      have hslash := List.splitOn_append_cons_self_of_not_mem (List.not_mem_nil (a := '/'))
        (List.replicate n '/' ++ text.toList)
      rw [List.replicate_succ, List.replicate_succ, List.cons_append, List.cons_append, ← ih]
      exact hslash
  rw [pieces, pieces, String.toList_append, slashes, String.toList_ofList, hsplit,
    List.map_append, List.map_replicate]

end Path

theorem Place.walk_replicate_empty {place : Place} (h : place.entry.isDirectory = true)
    (pieces : List String) : ∀ n, place.walk (List.replicate n "" ++ pieces) = place.walk pieces
  | 0 => rfl
  | n + 1 => by
    have hstay : place.step "" = .ok place := by
      cases hentry : place.entry with
      | file content =>
        rw [hentry] at h
        cases h
      | directory entries =>
        rw [Place.step, hentry]
        rfl
    rw [List.replicate_succ, List.cons_append, Place.walk, List.foldlM_cons, hstay]
    exact walk_replicate_empty h pieces n

/-! ## Names -/

theorem utf8ByteSize_le (text : String) : text.utf8ByteSize ≤ 4 * text.toList.length := by
  rw [← String.utf8Len_toList]
  induction text.toList with
  | nil => simp
  | cons c cs ih =>
    have hc := c.utf8Size_le_four
    rw [String.utf8Len_cons, List.length_cons]
    omega

/-- A name that is one piece of a path and leads down. -/
structure IsPieceName (name : String) : Prop where
  ne_dots : name ∉ ["", ".", ".."]
  slash_not_mem : '/' ∉ name.toList
  nul_not_mem : '\x00' ∉ name.toList

/-- Neither a name nor the path of it below another path is too long to be looked up. -/
def Path.HasRoomFor (p : Path) (name : String) : Prop :=
  name.utf8ByteSize ≤ Place.nameLimit ∧ (p.join name).text.utf8ByteSize < FileTree.pathLimit

namespace IsPieceName

variable {name : String} {es : List (String × Entry)}

theorem head?_ne (h : IsPieceName name) : name.toList.head? ≠ some '/' :=
  fun hhead => h.slash_not_mem (List.mem_of_mem_head? hhead)

theorem pieces_eq (h : IsPieceName name) : (Path.mk name).pieces = [name] := by
  have hsplit : name.toList.splitOn '/' = [name.toList] :=
    List.splitOn_eq_singleton h.slash_not_mem
  rw [Path.pieces, hsplit, List.map_singleton, String.ofList_toList]

/-- In a directory a name leads to the entry of this name, if it is not too long. -/
theorem step_eq_ok_iff (h : IsPieceName name) {place q : Place} (hplace : place.entry = .directory es) :
    place.step name = .ok q ↔ name.utf8ByteSize ≤ Place.nameLimit ∧
      ∃ e, es.lookup name = some e ∧ q = { place with above := (name, e) :: place.above } := by
  obtain ⟨hempty, hhere, hup⟩ : name ≠ "" ∧ name ≠ "." ∧ name ≠ ".." := by
    simpa using h.ne_dots
  rw [Place.step, hplace]
  simp only [hempty, hhere, hup, decide_false, Bool.or_self, Bool.false_eq_true, if_false,
    Place.checkName]
  by_cases hsize : name.utf8ByteSize ≤ Place.nameLimit
  · rw [if_pos hsize]
    cases es.lookup name <;> simp [hsize, bind, Except.bind, pure, Except.pure, throw, eq_comm]
  · rw [if_neg hsize]
    exact iff_of_false nofun fun hq => hsize hq.1

end IsPieceName

/-! ## What a path below a directory leads to -/

namespace FileTree

variable {t : FileTree} {p : Path} {name : String} {es : List (String × Entry)}

theorem checkPath_eq_ok_iff : checkPath p = .ok () ↔
    '\x00' ∉ p.text.toList ∧ p.text.utf8ByteSize < pathLimit ∧ p.text.isEmpty = false := by
  unfold checkPath
  split
  · next h => simp [h]
  · next h =>
    split
    · next h' => simp [Nat.not_lt.mpr h']
    · next h' =>
      split
      · next h'' => simp [h'']
      · next h'' => simp [h, Nat.not_le.mp h', h'']

theorem find_eq_ok_iff {place : Place} : t.find p = .ok place ↔
    checkPath p = .ok () ∧ ∃ first, t.start p = .ok first ∧ first.walk p.pieces = .ok place := by
  simp only [find, bind_eq_ok_iff]
  exact ⟨fun ⟨_, hcheck, h⟩ => ⟨hcheck, h⟩, fun ⟨hcheck, h⟩ => ⟨(), hcheck, h⟩⟩

theorem list_eq_ok_iff : t.list p = .ok es ↔
    ∃ place, t.find p = .ok place ∧ place.entry = .directory es := by
  rw [list, bind_eq_ok_iff]
  refine exists_congr fun place => and_congr_right fun _ => ?_
  cases place.entry <;> simp [pure, Except.pure]

theorem isDirectory_iff : t.isDirectory p = true ↔
    ∃ place, t.find p = .ok place ∧ place.entry.isDirectory = true := by
  unfold isDirectory entry?
  cases t.find p <;> simp [Except.map, Except.toOption]

/-- Below a directory a path is followed to the directory and then to the name. -/
theorem find_join {place : Place} (hp : p.EndsInName) (hname : IsPieceName name)
    (hfind : t.find p = .ok place) (hcheck : checkPath (p.join name) = .ok ()) :
    t.find (p.join name) = place.step name := by
  obtain ⟨-, first, hstart, hwalk⟩ := find_eq_ok_iff.mp hfind
  have hstart' : t.start (p.join name) = .ok first := by
    rw [← hstart, start, start, Path.isAbsolute_join hp hname.head?_ne]
  have hwalk' : first.walk (p.join name).pieces = place.step name := by
    rw [Place.walk] at hwalk ⊢
    rw [Path.pieces_join hp hname.head?_ne, hname.pieces_eq, List.foldlM_append, hwalk]
    show List.foldlM Place.step place [name] = _
    rw [List.foldlM_cons]
    cases place.step name <;> rfl
  rw [find, hcheck, hstart']
  exact hwalk'

/-- **A name below a listed directory leads to a directory exactly if the listing has a directory of
this name and neither the name nor the path is too long.** -/
theorem isDirectory_join_iff (hp : p.EndsInName) (hname : IsPieceName name)
    (hlist : t.list p = .ok es) (hnodup : (es.map (·.1)).Nodup) :
    t.isDirectory (p.join name) = true ↔
      p.HasRoomFor name ∧ ∃ e, (name, e) ∈ es ∧ e.isDirectory = true := by
  obtain ⟨place, hfind, hentry⟩ := list_eq_ok_iff.mp hlist
  obtain ⟨hnul, -, -⟩ := checkPath_eq_ok_iff.mp (find_eq_ok_iff.mp hfind).1
  have htext := Path.text_join hp hname.head?_ne
  -- The path of the directory could be looked up: only the length of the longer one is in doubt.
  have hcheck : checkPath (p.join name) = .ok () ↔
      (p.join name).text.utf8ByteSize < pathLimit := by
    rw [checkPath_eq_ok_iff]
    refine ⟨fun h => h.2.1, fun h => ⟨?_, h, ?_⟩⟩
    · simp [htext, hnul, hname.nul_not_mem]
    · simp [htext]
  constructor
  · intro h
    obtain ⟨below, hbelow, hdir⟩ := isDirectory_iff.mp h
    have hfits := (find_eq_ok_iff.mp hbelow).1
    rw [find_join hp hname hfind hfits, hname.step_eq_ok_iff hentry] at hbelow
    obtain ⟨hsize, e, hlookup, rfl⟩ := hbelow
    exact ⟨⟨hsize, hcheck.mp hfits⟩, e, mem_of_lookup hlookup, hdir⟩
  · rintro ⟨⟨hsize, hfits⟩, e, he, hdir⟩
    refine isDirectory_iff.mpr ⟨{ place with above := (name, e) :: place.above }, ?_, hdir⟩
    rw [find_join hp hname hfind (hcheck.mpr hfits), hname.step_eq_ok_iff hentry]
    exact ⟨hsize, e, lookup_of_mem hnodup he, rfl⟩

/-! ## Slashes -/

/-- Slashes in front of the names of a path stay at the root. -/
theorem find_slashes {n : Nat} {text : String} (hn : n ≠ 0) (hroot : t.root.isDirectory = true)
    (hnul : '\x00' ∉ text.toList) (hsize : n + text.utf8ByteSize < pathLimit) :
    t.find ⟨Path.slashes n ++ text⟩ = (Place.mk [] t.root).walk (Path.mk text).pieces := by
  have hentry : (Place.mk [] t.root).entry.isDirectory = true := hroot
  have hlist : (Path.slashes n ++ text).toList = List.replicate n '/' ++ text.toList := by
    rw [String.toList_append, Path.slashes, String.toList_ofList]
  have habsolute : (Path.mk (Path.slashes n ++ text)).isAbsolute = true := by
    obtain ⟨m, rfl⟩ := Nat.exists_eq_succ_of_ne_zero hn
    rw [Path.isAbsolute, hlist, List.replicate_succ]
    rfl
  have hcheck : checkPath ⟨Path.slashes n ++ text⟩ = .ok () := by
    refine checkPath_eq_ok_iff.mpr ⟨?_, ?_, ?_⟩
    · simp [hlist, hnul]
    · rwa [String.utf8ByteSize_append, Path.utf8ByteSize_slashes]
    · simp [Path.slashes, hn]
  rw [find, hcheck, start, if_pos habsolute]
  show (Place.mk [] t.root).walk (Path.mk (Path.slashes n ++ text)).pieces = _
  rw [Path.pieces_slashes, Place.walk_replicate_empty hentry]

end FileTree

end KitSurface
