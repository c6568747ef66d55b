import KitSurface.Text.Basic
/-!
The lines of a text. A text that was written as lines, each with a line feed behind it, has those
lines and the ones of what follows (`lines_of_toList`). A line has no characters but those of the
text (`mem_of_mem_lines`). A line feed ends a line wherever it stands (`lines_append_lineFeed`).
-/

namespace KitSurface.Text

/-- A line that is read as it was written: neither a line feed nor a carriage return is in it. -/
def IsLine (line : String) : Prop :=
  '\n' ∉ line.toList ∧ '\r' ∉ line.toList

instance (line : String) : Decidable (IsLine line) :=
  inferInstanceAs (Decidable ('\n' ∉ line.toList ∧ '\r' ∉ line.toList))

theorem IsLine.dropReturn {line : String} (h : IsLine line) :
    dropReturn line.toList = line.toList := by
  have hreturn : line.toList.getLast? ≠ some '\r' :=
    fun hlast => h.2 (List.mem_of_getLast? hlast)
  rw [Text.dropReturn, if_neg hreturn]

theorem isLine_append {front back : String} :
    IsLine (front ++ back) ↔ IsLine front ∧ IsLine back := by
  simp only [IsLine, String.toList_append, List.mem_append, not_or]
  exact and_and_and_comm

theorem isLine_intercalate {separator : String} (hseparator : IsLine separator) :
    ∀ {texts : List String}, (∀ text ∈ texts, IsLine text) → IsLine (separator.intercalate texts)
  | [], _ => ⟨List.not_mem_nil, List.not_mem_nil⟩
  | [text], h => by
    rw [String.intercalate_singleton]
    exact h text List.mem_cons_self
  | text :: next :: texts, h => by
    obtain ⟨htext, htexts⟩ := List.forall_mem_cons.mp h
    rw [String.intercalate_cons_cons, isLine_append, isLine_append]
    exact ⟨⟨htext, hseparator⟩, isLine_intercalate hseparator htexts⟩

/-- A literal is the list of its characters, so that none of its bytes has to be decoded. -/
theorem isLine_of_eq_ofList {text : String} {chars : List Char} (h : text = String.ofList chars)
    (hchars : '\n' ∉ chars ∧ '\r' ∉ chars) : IsLine text := by
  rwa [IsLine, h, String.toList_ofList]

/-! ## Lines that were written -/

theorem linesOfPieces_cons (piece : List Char) {pieces : List (List Char)} (h : pieces ≠ []) :
    linesOfPieces (piece :: pieces) = dropReturn piece :: linesOfPieces pieces := by
  cases pieces with
  | nil => exact absurd rfl h
  | cons _ _ => rfl

theorem linesOfPieces_append (pieces : List (List Char)) {rest : List (List Char)}
    (h : rest ≠ []) :
    linesOfPieces (pieces ++ rest) = pieces.map dropReturn ++ linesOfPieces rest := by
  induction pieces with
  | nil => rfl
  | cons piece pieces ih =>
    rw [List.cons_append, linesOfPieces_cons _ (List.append_ne_nil_of_right_ne_nil _ h), ih,
      List.map_cons, List.cons_append]

theorem lines_append_lineFeed (front rest : String) :
    lines (front ++ "\n" ++ rest) = lines (front ++ "\n") ++ lines rest := by
  have hlines : ∀ rest : String, lines (front ++ "\n" ++ rest) =
      ((front.toList.splitOn '\n').map dropReturn).map String.ofList ++ lines rest := by
    intro rest
    have hpieces : (front ++ "\n" ++ rest).toList.splitOn '\n' =
        front.toList.splitOn '\n' ++ rest.toList.splitOn '\n' := by
      rw [← List.splitOn_append_cons_self]
      simp
    rw [lines, hpieces, linesOfPieces_append _ (List.splitOn_ne_nil _ _), List.map_append, ← lines]
  have hempty : lines "" = [] := rfl
  have hfront := hlines ""
  rw [String.append_empty, hempty, List.append_nil] at hfront
  rw [hlines, hfront]

theorem lines_of_toList (written : List String) (rest : String) {text : String}
    (hwritten : ∀ line ∈ written, IsLine line)
    (h : text.toList = (written.map String.toList).flatMap (· ++ ['\n']) ++ rest.toList) :
    lines text = written ++ lines rest := by
  unfold lines
  rw [h]
  clear h
  induction written with
  | nil => rfl
  | cons line written ih =>
    -- The first line feed of the text is the one behind the first line.
    obtain ⟨hline, hlines⟩ := List.forall_mem_cons.mp hwritten
    have hcut : ((line :: written).map String.toList).flatMap (· ++ ['\n']) ++ rest.toList =
        line.toList ++ '\n' :: ((written.map String.toList).flatMap (· ++ ['\n']) ++
          rest.toList) := by
      simp
    rw [hcut, List.splitOn_append_cons_self_of_not_mem hline.1,
      linesOfPieces_cons _ (List.splitOn_ne_nil _ _), hline.dropReturn, List.map_cons,
      String.ofList_toList, ih hlines, List.cons_append]

/-! ## Characters of lines -/

theorem exists_subset_of_mem_linesOfPieces {line : List Char} : ∀ {pieces : List (List Char)},
    line ∈ linesOfPieces pieces → ∃ piece ∈ pieces, line ⊆ piece
  | [], h => by cases h
  | [rest], h => by
    rw [linesOfPieces] at h
    split at h
    · cases h
    · rw [List.mem_singleton.mp h]
      exact ⟨rest, List.mem_cons_self, List.Subset.refl rest⟩
  | piece :: next :: pieces, h => by
    rcases List.mem_cons.mp h with rfl | h
    · refine ⟨piece, List.mem_cons_self, ?_⟩
      unfold dropReturn
      split
      · exact List.dropLast_subset piece
      · exact List.Subset.refl piece
    · obtain ⟨found, hfound, hsub⟩ := exists_subset_of_mem_linesOfPieces h
      exact ⟨found, List.mem_cons_of_mem piece hfound, hsub⟩

theorem subset_of_mem_splitOn {a : Char} {piece : List Char} : ∀ {text : List Char},
    piece ∈ text.splitOn a → piece ⊆ text
  | [], h => by
    rw [List.splitOn_nil, List.mem_singleton] at h
    rw [h]
    exact List.Subset.refl []
  | c :: text, h => by
    rw [List.splitOn_cons_eq_if_modifyHead] at h
    split at h
    · rcases List.mem_cons.mp h with rfl | h
      · exact List.nil_subset _
      · exact List.subset_cons_of_subset c (subset_of_mem_splitOn h)
    · obtain ⟨first, rest, hpieces⟩ := List.exists_cons_of_ne_nil (List.splitOn_ne_nil a text)
      have hsub : ∀ piece ∈ first :: rest, piece ⊆ text := fun piece hp =>
        subset_of_mem_splitOn (hpieces ▸ hp)
      rw [hpieces, List.modifyHead_cons] at h
      rcases List.mem_cons.mp h with rfl | h
      · exact List.cons_subset_cons c (hsub first List.mem_cons_self)
      · exact List.subset_cons_of_subset c (hsub piece (List.mem_cons_of_mem first h))

theorem mem_of_mem_lines {text line : String} {c : Char} (h : line ∈ lines text)
    (hc : c ∈ line.toList) : c ∈ text.toList := by
  obtain ⟨chars, hchars, rfl⟩ := List.mem_map.mp h
  obtain ⟨piece, hpiece, hsub⟩ := exists_subset_of_mem_linesOfPieces hchars
  rw [String.toList_ofList] at hc
  exact subset_of_mem_splitOn hpiece (hsub hc)

end KitSurface.Text
