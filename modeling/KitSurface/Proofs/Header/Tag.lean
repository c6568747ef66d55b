import KitSurface.Header.Conflict
import KitSurface.Proofs.Header.Comment
import Mathlib.Data.List.Basic
/-!
Definitions and aliases of a tag, said of the text: the keyword, a gap, the tag, and an opening
brace or the edge of a word. Main statements: an alias of a tag is the keyword, a gap and the tag
(`aliasesTag_iff`), and a text without an opening brace brings no definition of a tag along
(`definesTag_append`).
-/

namespace KitSurface.Header

def IsBlank (text : List Char) : Prop :=
  ∀ c ∈ text, Text.isBlank c = true

/-- What stands between two words: one or more blanks. -/
def IsGap (text : List Char) : Prop :=
  text ≠ [] ∧ IsBlank text

/-- A name of word characters, as every identifier of C is one. -/
def IsIdentifier (name : List Char) : Prop :=
  name ≠ [] ∧ ∀ c ∈ name, Text.isWord c = true

instance (text : List Char) : Decidable (IsBlank text) :=
  List.decidableBAll _ text

instance (text : List Char) : Decidable (IsGap text) :=
  inferInstanceAs (Decidable (text ≠ [] ∧ IsBlank text))

instance (name : List Char) : Decidable (IsIdentifier name) :=
  have : Decidable (∀ c ∈ name, Text.isWord c = true) := List.decidableBAll _ name
  inferInstanceAs (Decidable (name ≠ [] ∧ ∀ c ∈ name, Text.isWord c = true))

variable {condition : List Char → Bool} {keyword tag text : List Char}

theorem isBlank_nil : IsBlank [] :=
  List.forall_mem_nil _

theorem isGap_space : IsGap [' '] := by
  decide

theorem IsBlank.not_mem {blanks : List Char} (h : IsBlank blanks) {c : Char}
    (hc : Text.isBlank c = false) : c ∉ blanks := by
  intro hmem
  rw [h c hmem] at hc
  cases hc

theorem IsIdentifier.not_mem {name : List Char} (h : IsIdentifier name) {c : Char}
    (hc : Text.isWord c = false) : c ∉ name := by
  intro hmem
  rw [h.2 c hmem] at hc
  cases hc

theorem isBlank_of_isWord {c : Char} (h : Text.isWord c = true) : Text.isBlank c = false := by
  cases hc : Text.isBlank c
  · rfl
  · rw [Text.isWord_of_isBlank hc] at h
    cases h

theorem IsIdentifier.head?_append {name : List Char} (h : IsIdentifier name) (rest : List Char) :
    (name ++ rest).head?.any Text.isBlank = false := by
  obtain ⟨c, name, rfl⟩ := List.exists_cons_of_ne_nil h.1
  exact isBlank_of_isWord (h.2 c List.mem_cons_self)

theorem IsIdentifier.isWordEdge_iff {name : List Char} (h : IsIdentifier name)
    (before : Option Char) (rest : List Char) :
    Text.isWordEdge before (name ++ rest).head? = true ↔ before.any Text.isWord = false := by
  obtain ⟨c, name, rfl⟩ := List.exists_cons_of_ne_nil h.1
  simp [Text.isWordEdge, h.2 c List.mem_cons_self]

theorem IsGap.head?_append {gap : List Char} (h : IsGap gap) (rest : List Char) :
    (gap ++ rest).head?.any Text.isWord = false := by
  obtain ⟨c, gap, rfl⟩ := List.exists_cons_of_ne_nil h.1
  exact Text.isWord_of_isBlank (h.2 c List.mem_cons_self)

/-- No word runs into what stands behind blanks, if none runs into the blanks. -/
theorem IsBlank.getLast?_or {blanks : List Char} (h : IsBlank blanks) {before : Option Char}
    (hbefore : before.any Text.isWord = false) :
    (blanks.getLast?.or before).any Text.isWord = false := by
  cases hlast : blanks.getLast? with
  | none => exact hbefore
  | some c => exact Text.isWord_of_isBlank (h c (List.mem_of_getLast? hlast))

theorem exists_dropBlanks (text : List Char) : ∃ blanks, IsBlank blanks ∧
    text = blanks ++ Text.dropBlanks text := by
  refine ⟨text.takeWhile Text.isBlank, ?_, List.takeWhile_append_dropWhile.symm⟩
  exact fun c hc => List.all_eq_true.mp List.all_takeWhile c hc

theorem dropBlanks_append {blanks : List Char} (h : IsBlank blanks) (text : List Char) :
    Text.dropBlanks (blanks ++ text) = Text.dropBlanks text :=
  List.dropWhile_append_of_pos h

theorem dropBlanks_eq_self (h : text.head?.any Text.isBlank = false) :
    Text.dropBlanks text = text := by
  cases text with
  | nil => rfl
  | cons c rest => exact List.dropWhile_cons_of_neg (by simpa using h)

theorem head?_dropBlanks_append_of_ne_nil {a : List Char} (h : Text.dropBlanks a ≠ [])
    (b : List Char) : (Text.dropBlanks (a ++ b)).head? = (Text.dropBlanks a).head? := by
  obtain ⟨c, rest, heq⟩ := List.exists_cons_of_ne_nil h
  unfold Text.dropBlanks at heq ⊢
  rw [List.dropWhile_append, heq]
  rfl

/-- The blanks behind a word are told from the word. -/
theorem append_eq_of_append_blanks {a b name name' blanks blanks' : List Char}
    (hname : IsIdentifier name) (hname' : IsIdentifier name') (hblanks : IsBlank blanks)
    (hblanks' : IsBlank blanks') (h : a ++ name ++ blanks = b ++ name' ++ blanks') :
    a ++ name = b ++ name' := by
  have hdrop : ∀ {a name blanks : List Char}, IsIdentifier name → IsBlank blanks →
      Text.dropBlanks (a ++ name ++ blanks).reverse = (a ++ name).reverse := by
    intro a name blanks hname hblanks
    rw [List.reverse_append,
      dropBlanks_append fun c hc => hblanks c (List.mem_reverse.mp hc)]
    refine dropBlanks_eq_self ?_
    obtain ⟨c, last, heq⟩ := List.exists_cons_of_ne_nil (List.reverse_ne_nil_iff.mpr hname.1)
    have hc : Text.isWord c = true := hname.2 c (List.mem_reverse.mp (heq ▸ List.mem_cons_self))
    rw [List.reverse_append, heq]
    exact isBlank_of_isWord hc
  have hrev := hdrop (a := b) hname' hblanks'
  rw [← h, hdrop hname hblanks] at hrev
  exact List.reverse_inj.mp hrev

theorem startsWith_iff {word : List Char} : startsWith word condition text = true ↔
    ∃ rest, text = word ++ rest ∧ condition rest = true := by
  unfold startsWith
  rw [Option.any_eq_true]
  simp only [List.isPrefixOf?_eq_some_iff_append_eq, eq_comm (a := text)]

theorem afterBlanks_iff {text : List Char} : afterBlanks condition text = true ↔
    ∃ gap rest, text = gap ++ rest ∧ IsGap gap ∧ condition rest = true := by
  induction text with
  | nil =>
    refine ⟨nofun, ?_⟩
    intro h
    obtain ⟨gap, rest, heq, ⟨hne, -⟩, -⟩ := h
    exact absurd (List.append_eq_nil_iff.mp heq.symm).1 hne
  | cons c text ih =>
    simp only [afterBlanks, Bool.and_eq_true, Bool.or_eq_true, ih]
    constructor
    · intro h
      obtain ⟨hc, h⟩ := h
      rcases h with hrest | ⟨gap, rest, rfl, ⟨-, hgap⟩, hrest⟩
      · exact ⟨[c], text, rfl, ⟨List.cons_ne_nil _ _, by simpa [IsBlank] using hc⟩, hrest⟩
      · refine ⟨c :: gap, rest, rfl, ⟨List.cons_ne_nil _ _, ?_⟩, hrest⟩
        exact List.forall_mem_cons.mpr ⟨hc, hgap⟩
    · intro h
      obtain ⟨gap, rest, heq, ⟨hne, hgap⟩, hrest⟩ := h
      obtain ⟨d, gap, rfl⟩ := List.exists_cons_of_ne_nil hne
      obtain ⟨rfl, rfl⟩ := List.cons.inj heq
      obtain ⟨hc, hgap⟩ := List.forall_mem_cons.mp hgap
      refine ⟨hc, ?_⟩
      cases gap with
      | nil => exact Or.inl hrest
      | cons d gap => exact Or.inr ⟨d :: gap, rest, rfl, ⟨List.cons_ne_nil _ _, hgap⟩, hrest⟩

theorem afterAnyBlanks_iff : afterAnyBlanks condition text = true ↔
    ∃ blanks rest, text = blanks ++ rest ∧ IsBlank blanks ∧ condition rest = true := by
  rw [afterAnyBlanks, Bool.or_eq_true, afterBlanks_iff]
  constructor
  · intro hx
    rcases hx with h | ⟨gap, rest, heq, ⟨-, hgap⟩, h⟩
    · exact ⟨[], text, rfl, nofun, h⟩
    · exact ⟨gap, rest, heq, hgap, h⟩
  · intro hx
    obtain ⟨blanks, rest, heq, hblanks, h⟩ := hx
    by_cases hne : blanks = []
    · subst hne
      exact Or.inl (heq ▸ h)
    · exact Or.inr ⟨blanks, rest, heq, ⟨hne, hblanks⟩, h⟩

theorem definesHere_iff : definesHere keyword tag text = true ↔
    ∃ gap blanks rest, IsGap gap ∧ IsBlank blanks ∧
      text = keyword ++ gap ++ tag ++ blanks ++ '\x7b' :: rest := by
  unfold definesHere
  simp only [startsWith_iff, afterBlanks_iff, afterAnyBlanks_iff, beq_iff_eq]
  constructor
  · intro h
    obtain ⟨_, rfl, gap, _, rfl, hgap, _, rfl, blanks, last, rfl, hblanks, hbrace⟩ := h
    obtain ⟨rest, rfl⟩ := List.head?_eq_some_iff.mp hbrace
    exact ⟨gap, blanks, rest, hgap, hblanks, by simp⟩
  · intro h
    obtain ⟨gap, blanks, rest, hgap, hblanks, rfl⟩ := h
    refine ⟨gap ++ tag ++ blanks ++ '\x7b' :: rest, by simp, gap, tag ++ blanks ++ '\x7b' :: rest,
      by simp, hgap, blanks ++ '\x7b' :: rest, by simp, blanks, '\x7b' :: rest, rfl, hblanks, rfl⟩

/-- The character before the rest of a text, of which one more character is known. -/
theorem getLast?_cons_or (c : Char) (front : List Char) (before : Option Char) :
    (c :: front).getLast?.or before = front.getLast?.or (some c) := by
  rw [List.getLast?_cons]
  cases front.getLast? <;> rfl

theorem definesTag_iff {before : Option Char} {text : List Char} :
    definesTag keyword tag before text = true ↔ ∃ front rest, text = front ++ rest ∧ rest ≠ [] ∧
      Text.isWordEdge (front.getLast?.or before) rest.head? = true ∧
      definesHere keyword tag rest = true := by
  induction text generalizing before with
  | nil =>
    refine ⟨nofun, ?_⟩
    intro h
    obtain ⟨front, rest, heq, hne, -⟩ := h
    exact absurd (List.append_eq_nil_iff.mp heq.symm).2 hne
  | cons c text ih =>
    rw [definesTag, Bool.or_eq_true, Bool.and_eq_true, ih]
    constructor
    · intro h
      rcases h with ⟨hedge, hdef⟩ | ⟨front, rest, rfl, hne, hedge, hdef⟩
      · exact ⟨[], c :: text, rfl, List.cons_ne_nil _ _, hedge, hdef⟩
      · exact ⟨c :: front, rest, rfl, hne, by rwa [getLast?_cons_or], hdef⟩
    · intro h
      obtain ⟨front, rest, heq, hne, hedge, hdef⟩ := h
      cases front with
      | nil =>
        rw [List.nil_append] at heq
        subst heq
        exact Or.inl ⟨hedge, hdef⟩
      | cons d front =>
        obtain ⟨rfl, rfl⟩ := List.cons.inj heq
        rw [getLast?_cons_or] at hedge
        exact Or.inr ⟨front, rest, rfl, hne, hedge, hdef⟩

theorem definesTag_append_of {before : Option Char} {a : List Char}
    (h : definesTag keyword tag before a = true) (b : List Char) :
    definesTag keyword tag before (a ++ b) = true := by
  obtain ⟨front, rest, rfl, hne, hedge, hdef⟩ := definesTag_iff.mp h
  refine definesTag_iff.mpr ⟨front, rest ++ b, List.append_assoc _ _ _, by simp [hne], ?_, ?_⟩
  · obtain ⟨c, rest, rfl⟩ := List.exists_cons_of_ne_nil hne
    exact hedge
  · obtain ⟨gap, blanks, last, hgap, hblanks, rfl⟩ := definesHere_iff.mp hdef
    exact definesHere_iff.mpr ⟨gap, blanks, last ++ b, hgap, hblanks, by simp⟩

/-- The brace of a definition stands in the first of two joined texts if the second has none. -/
theorem definesTag_append {before : Option Char} {a b : List Char} (hb : '\x7b' ∉ b) :
    definesTag keyword tag before (a ++ b) = definesTag keyword tag before a := by
  rw [Bool.eq_iff_iff]
  constructor
  · rw [definesTag_iff, definesTag_iff]
    intro h
    obtain ⟨front, rest, heq, -, hedge, hdef⟩ := h
    obtain ⟨gap, blanks, last, hgap, hblanks, rfl⟩ := definesHere_iff.mp hdef
    -- A definition ends in its brace, and the brace is in `a`.
    rw [← List.append_assoc] at heq
    obtain ⟨tail, rfl, rfl⟩ := exists_of_append_eq heq.symm hb
    refine ⟨front, _, List.append_assoc _ _ _, by simp, ?_, ?_⟩
    · simpa [List.head?_append] using hedge
    · exact definesHere_iff.mpr ⟨gap, blanks, tail, hgap, hblanks, rfl⟩
  · exact fun h => definesTag_append_of h b

/-- **An alias of a tag, said of the text**: the tag that it names ends where the word ends. -/
theorem aliasesTag_iff (htag : IsIdentifier tag) : aliasesTag keyword tag text = true ↔
    ∃ gap rest, IsGap gap ∧ rest.head?.any Text.isWord = false ∧
      text = keyword ++ gap ++ tag ++ rest := by
  have hlast : Text.isWord (tag.getLast htag.1) = true := htag.2 _ (List.getLast_mem htag.1)
  have hedge : ∀ rest : List Char,
      Text.isWordEdge (tag.getLast?.or (some ' ')) rest.head? = true ↔
        rest.head?.any Text.isWord = false := by
    intro rest
    rw [List.getLast?_eq_some_getLast htag.1]
    simp [Text.isWordEdge, hlast]
  unfold aliasesTag
  simp only [startsWith_iff, afterBlanks_iff, hedge]
  constructor
  · intro h
    obtain ⟨_, rfl, gap, _, rfl, hgap, rest, rfl, hrest⟩ := h
    exact ⟨gap, rest, hgap, hrest, by simp⟩
  · intro h
    obtain ⟨gap, rest, hgap, hrest, rfl⟩ := h
    exact ⟨gap ++ tag ++ rest, by simp, gap, tag ++ rest, by simp, hgap, rest, rfl, hrest⟩

theorem aliasesTag_of_eq {gap rest : List Char} (hgap : IsGap gap) (htag : IsIdentifier tag)
    (hrest : rest.head?.any Text.isWord = false) :
    aliasesTag keyword tag (keyword ++ gap ++ tag ++ rest) = true :=
  (aliasesTag_iff htag).mpr ⟨gap, rest, hgap, hrest, rfl⟩

end KitSurface.Header
