import KitSurface.Context
import KitSurface.Proofs.Header.Tag
/-!
Spellings of contexts. Blanks at the ends of a text are told from the rest of it (`trims_iff`), and a
context is read from a text exactly if the text, without these blanks and in lower case, is one of
the spellings of the context (`parse_eq_ok_iff`); a text that spells no context is given back as it
is (`parse_eq_error_iff`).
-/

namespace KitSurface

open Header (IsBlank)

/-! ## Blanks at the ends -/

namespace Text

/-- A text is a body between blanks, and the body neither begins nor ends with a blank. -/
structure Trims (text body : String) : Prop where
  between : ∃ front back, text.toList = front ++ (body.toList ++ back) ∧ IsBlank front ∧ IsBlank back
  head : body.toList.head?.any isBlank = false
  last : body.toList.getLast?.any isBlank = false

variable {text body : String}

theorem dropBlanks_of_isBlank {blanks : List Char} (h : IsBlank blanks) : dropBlanks blanks = [] := by
  have hdrop := Header.dropBlanks_append h []
  rwa [List.append_nil] at hdrop

theorem head?_any_dropBlanks (text : List Char) : (dropBlanks text).head?.any isBlank = false := by
  cases hhead : (dropBlanks text).head? with
  | none => rfl
  | some c => exact head?_dropBlanks hhead

theorem trims_trim (text : String) : Trims text (trim text) := by
  obtain ⟨front, hfront, heq⟩ := Header.exists_dropBlanks text.toList
  obtain ⟨back, hback, heq'⟩ := Header.exists_dropBlanks (dropBlanks text.toList).reverse
  have hbody : dropBlanks text.toList = (trim text).toList ++ back.reverse := by
    rw [← List.reverse_reverse (dropBlanks text.toList), heq', List.reverse_append, trim,
      String.toList_ofList]
  refine ⟨⟨front, back.reverse, ?_, hfront, fun c hc => hback c (List.mem_reverse.mp hc)⟩, ?_, ?_⟩
  · rw [← hbody]
    exact heq
  · -- What is cut off behind leaves the first character in place, unless nothing is left.
    cases hlist : (trim text).toList with
    | nil => rfl
    | cons c rest =>
      have hhead := head?_any_dropBlanks text.toList
      rwa [hbody, hlist] at hhead
  · rw [trim, String.toList_ofList, List.getLast?_reverse]
    exact head?_any_dropBlanks _

theorem Trims.eq_trim (h : Trims text body) : trim text = body := by
  obtain ⟨⟨front, back, htext, hfront, hback⟩, hhead, hlast⟩ := h
  have hbody : dropBlanks (dropBlanks text.toList).reverse = body.toList.reverse := by
    rw [htext, Header.dropBlanks_append hfront]
    cases hlist : body.toList with
    | nil =>
      rw [List.nil_append, dropBlanks_of_isBlank hback]
      rfl
    | cons c rest =>
      rw [hlist] at hhead hlast
      have hkeep : dropBlanks (c :: rest ++ back) = c :: rest ++ back :=
        Header.dropBlanks_eq_self hhead
      rw [hkeep, List.reverse_append,
        Header.dropBlanks_append fun c hc => hback c (List.mem_reverse.mp hc)]
      exact Header.dropBlanks_eq_self (by rwa [List.head?_reverse])
  rw [trim, hbody, List.reverse_reverse, String.ofList_toList]

/-- **A text has one body between its blanks.** -/
theorem trims_iff : Trims text body ↔ trim text = body :=
  ⟨Trims.eq_trim, fun h => h ▸ trims_trim text⟩

theorem trim_trim (text : String) : trim (trim text) = trim text := by
  obtain ⟨-, hhead, hlast⟩ := trims_trim text
  exact Trims.eq_trim ⟨⟨[], [], by simp, Header.isBlank_nil, Header.isBlank_nil⟩, hhead, hlast⟩

theorem trim_eq_empty_iff : trim text = "" ↔ IsBlank text.toList := by
  constructor
  · intro h
    obtain ⟨⟨front, back, htext, hfront, hback⟩, -, -⟩ := trims_iff.mpr h
    rw [htext]
    exact List.forall_mem_append.mpr ⟨hfront, hback⟩
  · intro h
    exact Trims.eq_trim ⟨⟨text.toList, [], by simp, h, Header.isBlank_nil⟩, rfl, rfl⟩

end Text

/-! ## Spellings -/

namespace BuildContext

/-- The spellings of a context, in lower case. -/
def spellings : BuildContext → List String
  | kernelMode => ["kernel-mode", "kernel", "km"]
  | umdf => ["umdf", "user-mode-driver-framework"]
  | userMode => ["user-mode", "user", "um"]

/-- A text spells a context: blanks around it and the case of ASCII letters do not count. -/
def IsSpelledBy (c : BuildContext) (text : String) : Prop :=
  ∃ body, Text.Trims text body ∧ body.map Char.toLower ∈ c.spellings

variable {c : BuildContext} {text spelling : String}

theorem ofSpelling?_eq_some_iff : ofSpelling? spelling = some c ↔ spelling ∈ c.spellings := by
  constructor
  · intro h
    unfold ofSpelling? at h
    split at h
    · next hmem => cases h; exact hmem
    · split at h
      · next hmem => cases h; exact hmem
      · split at h
        · next hmem => cases h; exact hmem
        · cases h
  · have hread : ∀ c : BuildContext, ∀ s ∈ c.spellings, ofSpelling? s = some c := by
      intro c
      cases c <;> decide +kernel
    exact hread c spelling

theorem isSpelledBy_iff : c.IsSpelledBy text ↔
    ofSpelling? ((Text.trim text).map Char.toLower) = some c := by
  simp only [IsSpelledBy, Text.trims_iff, exists_eq_left', ofSpelling?_eq_some_iff]

theorem not_isSpelledBy_of_isBlank (h : IsBlank text.toList) : ¬ c.IsSpelledBy text := by
  have hempty : ofSpelling? ("".map Char.toLower) = none := by decide +kernel
  rw [isSpelledBy_iff, Text.trim_eq_empty_iff.mpr h, hempty]
  exact nofun

theorem parse_eq_ok_iff : parse text = .ok c ↔ c.IsSpelledBy text := by
  rw [parse, isSpelledBy_iff]
  cases ofSpelling? ((Text.trim text).map Char.toLower) <;> simp

theorem parse_eq_error_iff {error : ContextError} :
    parse text = .error error ↔ (∀ c, ¬ IsSpelledBy c text) ∧ error = .unknown text := by
  simp only [isSpelledBy_iff]
  rw [parse]
  cases ofSpelling? ((Text.trim text).map Char.toLower) <;> simp [eq_comm]

/-- The blanks around a text can be cut off before it is read. -/
theorem isSpelledBy_trim : c.IsSpelledBy (Text.trim text) ↔ c.IsSpelledBy text := by
  rw [isSpelledBy_iff, isSpelledBy_iff, Text.trim_trim]

end BuildContext

end KitSurface
