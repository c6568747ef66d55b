import KitSurface.Proofs.Header.Definition
import KitSurface.Proofs.Header.Occurrence
/-!
Headers without typedefs. In a header without the word `typedef` nothing declares a typedef name, but
the scan takes every text between a closing brace and a semicolon for the declarators of a typedef:
the name of a member whose type has a body, of a variable behind its type, and of whatever else
stands there (`typedefIn?_eq_none_iff`). Main statement: the scan reports no typedef name in such a
header exactly if it reports the tag, which must be another name then, or nothing that stands
between a closing brace and a semicolon has the name of a typedef of the type
(`namesTagOnly_definitionIn?_iff`).
-/

namespace KitSurface

namespace Header

/-- A declarator stands in the list between a closing brace and the next semicolon, with no brace in
between. -/
def StandsBehindBrace (d : WrittenDeclarator) (source : List Char) : Prop :=
  ∃ pre front back post, source = pre ++ '\x7d' :: (front ++ d.text ++ back ++ ';' :: post) ∧
    IsPlain front ∧ IsPlain back ∧ Declarator.IsListed d front back

end Header

namespace Supplement

open Header

variable {t : Supplement} {source : List Char}

/-- What is reported of a header is the tag of the type, or nothing, and no name of a typedef. -/
def NamesTagOnly (t : Supplement) (found : Option String) : Prop :=
  (found = none ∨ found = some t.tag) ∧ found ≠ some t.typedefName ∧ found ≠ some t.pointerName

/-- The tag is found where its body stands with the keyword of the type. -/
theorem definesTag_iff_standsIn (t : Supplement) (source : List Char) :
    definesTag t.layout.kind.keyword.toList t.tag.toList none source = true ↔
      t.StandsIn (.body t.layout.kind) source := by
  constructor
  · intro h
    obtain ⟨pre, rest, rfl, -, hedge, hdef⟩ := definesTag_iff.mp h
    obtain ⟨gap, blanks, post, hgap, hblanks, rfl⟩ := definesHere_iff.mp hdef
    rw [List.append_assoc, List.append_assoc, List.append_assoc,
      (isIdentifier_keyword t.layout.kind).isWordEdge_iff, Option.or_none] at hedge
    exact .body hedge hgap hblanks
  · intro h
    cases h with
    | body edge isGap isBlank => exact definesTag_of_body edge isGap isBlank

/-- **A header without typedefs is scanned for names behind closing braces.** -/
theorem typedefIn?_eq_none_iff (hword : ¬ ContainsWord Statement.typedefWord source) :
    t.typedefIn? source = none ↔ ∀ d, StandsBehindBrace d source → ¬ t.Declares d := by
  unfold typedefIn?
  rw [List.findSome?_eq_none_iff]
  constructor
  · intro h d hd
    obtain ⟨pre, front, back, post, rfl, hfront, hback, hlisted⟩ := hd
    have hst := Statement.afterBody_mem_ofSource (d.isPlain_append hfront hback) pre post
    have hd : d.declarator ∈ t.foreignDeclarators (.afterBody (front ++ d.text ++ back)) :=
      Declarator.mem_ofList_append hlisted
    exact nameDeclared?_eq_none_iff.mp (h _ (List.mem_flatMap.mpr ⟨_, hst, hd⟩))
  · intro h d' hd'
    obtain ⟨st, hst, hd'⟩ := List.mem_flatMap.mp hd'
    obtain ⟨pre, body, post, rfl, hplain, rfl⟩ :=
      Statement.exists_afterBody_of_mem_ofSource hword hst
    obtain ⟨d, front, back, rfl, hlisted, rfl⟩ := Declarator.mem_ofList_iff.mp hd'
    obtain ⟨hfront, hback⟩ := List.forall_mem_append.mp hplain
    refine nameDeclared?_eq_none_iff.mpr (h d ⟨pre, front, back, post, rfl, ?_, hback, hlisted⟩)
    exact (List.forall_mem_append.mp hfront).1

theorem typedefName_or_pointerName_of_typedefIn? {name : String}
    (h : t.typedefIn? source = some name) : name = t.typedefName ∨ name = t.pointerName := by
  obtain ⟨d, -, hd⟩ := List.exists_of_findSome?_eq_some h
  unfold nameDeclared? at hd
  split at hd
  · exact Or.inl (Option.some.inj hd).symm
  · split at hd
    · exact Or.inr (Option.some.inj hd).symm
    · cases hd

/-- **No typedef name is reported of a header without typedefs**, exactly if the tag is defined in it
and is no such name, or it is not defined and no declarator behind a closing brace is one. -/
theorem namesTagOnly_definitionIn?_iff (t : Supplement) (header : String)
    (hword : ¬ ContainsWord Statement.typedefWord (stripComments header.toList)) :
    t.NamesTagOnly (t.definitionIn? header) ↔
      (t.StandsIn (.body t.layout.kind) (stripComments header.toList) ∧
        t.tag ≠ t.typedefName ∧ t.tag ≠ t.pointerName) ∨
      (¬ t.StandsIn (.body t.layout.kind) (stripComments header.toList) ∧
        ∀ d, StandsBehindBrace d (stripComments header.toList) → ¬ t.Declares d) := by
  rw [← definesTag_iff_standsIn, ← typedefIn?_eq_none_iff hword, definitionIn?, definitionInCode?]
  unfold NamesTagOnly
  split
  · next htag => simp [htag]
  · next htag =>
    cases hname : t.typedefIn? (stripComments header.toList) with
    | none => simp [htag]
    | some name =>
      rcases typedefName_or_pointerName_of_typedefIn? hname with rfl | rfl <;> simp [htag]

/-- The tag is reported of a header that has a variable of the type behind its body. -/
theorem namesTagOnly_definitionIn?_variable :
    ¬ ContainsWord Statement.typedefWord
      (stripComments "union _KGDTENTRY64 \x7b int Low; \x7d KGDTENTRY64;".toList) ∧
    segmentDescriptor.NamesTagOnly (segmentDescriptor.definitionIn?
      "union _KGDTENTRY64 \x7b int Low; \x7d KGDTENTRY64;") := by
  have hstrip : stripComments "union _KGDTENTRY64 \x7b int Low; \x7d KGDTENTRY64;".toList =
      "union _KGDTENTRY64 \x7b int Low; \x7d KGDTENTRY64;".toList :=
    stripComments_of_commentFree (.of_not_mem (by decide))
  have hword : ¬ ContainsWord Statement.typedefWord
      (stripComments "union _KGDTENTRY64 \x7b int Low; \x7d KGDTENTRY64;".toList) := by
    rw [hstrip]
    exact not_containsWord_of_not_mem (show 'y' ∈ Statement.typedefWord by decide) (by decide)
  have hstands : segmentDescriptor.StandsIn (.body .union) ([] ++ ("union".toList ++ [' '] ++
      "_KGDTENTRY64".toList ++ [' '] ++ '\x7b' :: " int Low; \x7d KGDTENTRY64;".toList)) :=
    .body rfl (by decide) (by decide)
  refine ⟨hword, (namesTagOnly_definitionIn?_iff segmentDescriptor _ hword).mpr (Or.inl ⟨?_, ?_⟩)⟩
  · rw [hstrip]
    exact hstands
  · decide

theorem not_namesTagOnly_definitionIn?_member : ¬ ∀ (t : Supplement) (header : String),
    (∀ name ∈ t.names, IsIdentifier name.toList) →
    ¬ ContainsWord Statement.typedefWord (stripComments header.toList) →
    t.NamesTagOnly (t.definitionIn? header) := by
  intro h
  have hstrip : stripComments
      "struct _TASK \x7b union \x7b int Low; \x7d KGDTENTRY64; \x7d;".toList =
      "struct _TASK \x7b union \x7b int Low; \x7d KGDTENTRY64; \x7d;".toList :=
    stripComments_of_commentFree (.of_not_mem (by decide))
  have hword : ¬ ContainsWord Statement.typedefWord (stripComments
      "struct _TASK \x7b union \x7b int Low; \x7d KGDTENTRY64; \x7d;".toList) := by
    rw [hstrip]
    exact not_containsWord_of_not_mem (show 'y' ∈ Statement.typedefWord by decide) (by decide)
  have hnames := h segmentDescriptor
    "struct _TASK \x7b union \x7b int Low; \x7d KGDTENTRY64; \x7d;" (by decide) hword
  have hfound : segmentDescriptor.definitionIn?
      "struct _TASK \x7b union \x7b int Low; \x7d KGDTENTRY64; \x7d;" = some "KGDTENTRY64" := by
    decide +kernel
  exact hnames.2.1 hfound

end Supplement

end KitSurface
