import KitSurface.Surface.Pass
/-!
What the text of a file pattern says. A text is read as pieces (`FilePattern.pieces?`): a run of any
characters of one line, or one character whatever its case, and a path matches if it is used up
piece by piece (`FilePattern.Matches`). On paths of one line a pattern accepts a path exactly if its
text, read from the front of the path to its end, matches it (`accepts_iff_reads`).
-/

namespace KitSurface.FilePattern

/-- A piece of a pattern text. -/
inductive Piece where
  /-- Any characters of one line. -/
  | anyRun
  /-- A character, whatever its case. -/
  | letter (c : Char)
  deriving DecidableEq, Repr

/-- The pieces of a text: `.*` is a run, a character with a meaning of its own stands for itself
behind a backslash, and any other one stands for itself. -/
def pieces? : List Char → Option (List Piece)
  | [] => some []
  | '.' :: '*' :: rest => (pieces? rest).map (.anyRun :: ·)
  | '\\' :: c :: rest => if isMeta c then (pieces? rest).map (.letter c :: ·) else none
  | c :: rest => if isMeta c then none else (pieces? rest).map (.letter c :: ·)

/-- The pieces match the characters from end to end. -/
inductive Matches : List Piece → List Char → Prop where
  | done : Matches [] []
  | skip {ps : List Piece} {cs : List Char} : Matches ps cs → Matches (.anyRun :: ps) cs
  | take {ps : List Piece} {c : Char} {cs : List Char} :
      c ≠ '\n' → Matches (.anyRun :: ps) cs → Matches (.anyRun :: ps) (c :: cs)
  | letter {ps : List Piece} {c d : Char} {cs : List Char} :
      foldCase c = foldCase d → Matches ps cs → Matches (.letter c :: ps) (d :: cs)

/-- A text that ignores case matches a path. -/
def Reads (text path : String) : Prop :=
  ∃ body ps, text.toList = "(?i)".toList ++ body ∧ pieces? body = some ps ∧ Matches ps path.toList

/-! ## Matching -/

theorem matches_nil_iff {cs : List Char} : Matches [] cs ↔ cs = [] := by
  constructor
  · intro h
    cases h
    rfl
  · intro he
    subst he
    exact .done

theorem matches_anyRun_iff {ps : List Piece} {cs : List Char} :
    Matches (.anyRun :: ps) cs ↔ ∃ front rest, cs = front ++ rest ∧ '\n' ∉ front ∧ Matches ps rest := by
  constructor
  · intro h
    induction cs with
    | nil =>
      cases h with
      | skip h => exact ⟨[], [], rfl, List.not_mem_nil, h⟩
    | cons c cs ih =>
      cases h with
      | skip h => exact ⟨[], c :: cs, rfl, List.not_mem_nil, h⟩
      | take hc h =>
        obtain ⟨front, rest, rfl, hline, hrest⟩ := ih h
        exact ⟨c :: front, rest, rfl, by simp [hline, Ne.symm hc], hrest⟩
  · intro hx
    obtain ⟨front, rest, rfl, hline, hrest⟩ := hx
    induction front with
    | nil => exact .skip hrest
    | cons c front ih =>
      simp only [List.mem_cons, not_or] at hline
      exact .take (Ne.symm hline.1) (ih hline.2)

theorem matches_letters_iff {ps : List Piece} {name cs : List Char} :
    Matches (name.map .letter ++ ps) cs ↔
      ∃ front rest, cs = front ++ rest ∧ front.map foldCase = name.map foldCase ∧ Matches ps rest := by
  induction name generalizing cs with
  | nil =>
    constructor
    · exact fun h => ⟨[], cs, rfl, rfl, h⟩
    · intro hx
      obtain ⟨front, rest, rfl, hfront, hrest⟩ := hx
      rw [List.map_eq_nil_iff.mp hfront]
      exact hrest
  | cons c name ih =>
    constructor
    · intro h
      cases h with
      | letter hc h =>
        obtain ⟨front, rest, rfl, hfront, hrest⟩ := ih.mp h
        exact ⟨_ :: front, rest, rfl, by simp [hfront, hc], hrest⟩
    · intro hx
      obtain ⟨front, rest, rfl, hfront, hrest⟩ := hx
      obtain ⟨d, front, rfl, hd, hfront⟩ := List.map_eq_cons_iff.mp hfront
      exact .letter hd.symm (ih.mpr ⟨front, rest, rfl, hfront, hrest⟩)

/-! ## Reading a text -/

theorem pieces?_cons_of_not_isMeta {c : Char} {rest : List Char} (hc : isMeta c = false) :
    pieces? (c :: rest) = (pieces? rest).map (.letter c :: ·) := by
  have hdot : c ≠ '.' := by rintro rfl; exact absurd hc (by decide)
  have hslash : c ≠ '\\' := by rintro rfl; exact absurd hc (by decide)
  rw [pieces?, if_neg (by simp [hc])]
  · intro rest' h
    exact absurd h hdot
  · intro d rest' h
    exact absurd h hslash

theorem escape_toList (name : String) : (escape name).toList =
    name.toList.flatMap fun c => if isMeta c then ['\\', c] else [c] :=
  String.toList_ofList

theorem pieces?_escape (name : String) (rest : List Char) :
    pieces? ((escape name).toList ++ rest) =
      (pieces? rest).map (name.toList.map .letter ++ ·) := by
  rw [escape_toList]
  -- A backslash and its character are read together, as one character of the name.
  induction name.toList with
  | nil => simp
  | cons c name ih =>
    cases hc : isMeta c with
    | true =>
      simp only [List.flatMap_cons, hc, if_true, List.cons_append, List.nil_append]
      rw [pieces?, if_pos hc, ih, Option.map_map]
      rfl
    | false =>
      simp only [List.flatMap_cons, hc, Bool.false_eq_true, if_false, List.cons_append,
        List.nil_append]
      rw [pieces?_cons_of_not_isMeta hc, ih, Option.map_map]
      rfl

/-! ## Patterns -/

theorem hasInfix_iff {word text : List Char} :
    hasInfix word text = true ↔ ∃ front rest, text = front ++ word ++ rest := by
  induction text with
  | nil => simp [hasInfix]
  | cons c text ih =>
    simp only [hasInfix, Bool.or_eq_true, ih, List.isPrefixOf_iff_prefix]
    constructor
    · intro hx
      rcases hx with ⟨rest, h⟩ | ⟨front, rest, rfl⟩
      · exact ⟨[], rest, h.symm⟩
      · exact ⟨c :: front, rest, rfl⟩
    · intro hx
      obtain ⟨front, rest, h⟩ := hx
      cases front with
      | nil => exact Or.inl ⟨rest, h.symm⟩
      | cons d front =>
        cases h
        exact Or.inr ⟨front, rest, rfl⟩

variable {name path : String}

theorem accepts_endsIn_iff (line : '\n' ∉ path.toList) :
    (endsIn name).accepts path = true ↔
      ∃ front tail, path.toList = front ++ tail ∧
        tail.map foldCase = name.toList.map foldCase := by
  have hline : path.toList.contains '\n' = false := by simpa using line
  simp only [accepts, hline, Bool.not_false, Bool.true_and, List.isSuffixOf_iff_suffix]
  constructor
  · intro hx
    obtain ⟨front, h⟩ := hx
    obtain ⟨front, tail, heq, -, htail⟩ := List.map_eq_append_iff.mp h.symm
    exact ⟨front, tail, heq, htail⟩
  · intro hx
    obtain ⟨front, tail, heq, htail⟩ := hx
    exact ⟨front.map foldCase, by rw [← htail, ← List.map_append, heq]⟩

theorem accepts_contains_iff (line : '\n' ∉ path.toList) :
    (contains name).accepts path = true ↔
      ∃ front middle rest, path.toList = front ++ (middle ++ rest) ∧
        middle.map foldCase = name.toList.map foldCase := by
  have hline : path.toList.contains '\n' = false := by simpa using line
  simp only [accepts, hline, Bool.not_false, Bool.true_and, hasInfix_iff, List.append_assoc]
  constructor
  · intro hx
    obtain ⟨front, rest, h⟩ := hx
    obtain ⟨front, tail, heq, -, htail⟩ := List.map_eq_append_iff.mp h
    obtain ⟨middle, rest, rfl, hmiddle, -⟩ := List.map_eq_append_iff.mp htail
    exact ⟨front, middle, rest, heq, hmiddle⟩
  · intro hx
    obtain ⟨front, middle, rest, heq, hmiddle⟩ := hx
    exact ⟨front.map foldCase, rest.map foldCase, by rw [heq, ← hmiddle]; simp⟩

def pieces : FilePattern → List Piece
  | endsIn name => .anyRun :: name.toList.map .letter
  | contains name => .anyRun :: (name.toList.map .letter ++ [.anyRun])

theorem text_eq (p : FilePattern) : ∃ body,
    p.text.toList = "(?i)".toList ++ body ∧ pieces? body = some p.pieces := by
  cases p with
  | endsIn name =>
    have h := pieces?_escape name []
    rw [List.append_nil] at h
    exact ⟨'.' :: '*' :: (escape name).toList, by simp [text], by simp [pieces?, h, pieces]⟩
  | contains name =>
    have h := pieces?_escape name ['.', '*']
    exact ⟨'.' :: '*' :: ((escape name).toList ++ ['.', '*']), by simp [text],
      by simp [pieces?, h, pieces]⟩

theorem reads_text_iff (p : FilePattern) : Reads p.text path ↔ Matches p.pieces path.toList := by
  obtain ⟨body, htext, hpieces⟩ := p.text_eq
  constructor
  · intro hx
    obtain ⟨body', ps, htext', hpieces', hmatch⟩ := hx
    rw [List.append_cancel_left (htext.symm.trans htext')] at hpieces
    rw [hpieces'] at hpieces
    cases hpieces
    exact hmatch
  · exact fun h => ⟨body, p.pieces, htext, hpieces, h⟩

/-- **A pattern accepts a path of one line exactly if its text matches the path.** -/
theorem accepts_iff_reads (p : FilePattern) (line : '\n' ∉ path.toList) :
    p.accepts path = true ↔ Reads p.text path := by
  rw [reads_text_iff]
  cases p with
  | endsIn name =>
    -- Behind the name nothing is left of the path.
    have hnil := @matches_letters_iff [] name.toList
    rw [accepts_endsIn_iff line, pieces, matches_anyRun_iff]
    constructor
    · intro hx
      obtain ⟨front, tail, heq, htail⟩ := hx
      refine ⟨front, tail, heq, fun h => line (heq ▸ List.mem_append_left _ h), ?_⟩
      rw [← List.append_nil (name.toList.map _), hnil]
      exact ⟨tail, [], (List.append_nil _).symm, htail, .done⟩
    · intro hx
      obtain ⟨front, rest, heq, -, hrest⟩ := hx
      rw [← List.append_nil (name.toList.map _), hnil] at hrest
      obtain ⟨tail, last, rfl, htail, hlast⟩ := hrest
      rw [matches_nil_iff.mp hlast, List.append_nil] at heq
      exact ⟨front, tail, heq, htail⟩
  | contains name =>
    rw [accepts_contains_iff line, pieces, matches_anyRun_iff]
    constructor
    · intro hx
      obtain ⟨front, middle, rest, heq, hmiddle⟩ := hx
      -- Both runs stay on the line, as the path does.
      refine ⟨front, middle ++ rest, heq, fun h => line (heq ▸ List.mem_append_left _ h), ?_⟩
      refine matches_letters_iff.mpr ⟨middle, rest, rfl, hmiddle, matches_anyRun_iff.mpr ?_⟩
      refine ⟨rest, [], (List.append_nil _).symm, fun h => line ?_, .done⟩
      rw [heq]
      exact List.mem_append_right _ (List.mem_append_right _ h)
    · intro hx
      obtain ⟨front, rest, heq, -, hrest⟩ := hx
      obtain ⟨middle, last, rfl, hmiddle, -⟩ := matches_letters_iff.mp hrest
      exact ⟨front, middle, last, heq, hmiddle⟩

end KitSurface.FilePattern
