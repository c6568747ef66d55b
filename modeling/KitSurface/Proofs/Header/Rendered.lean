import KitSurface.Proofs.Header.Comment
import KitSurface.Proofs.Layout.Declaration
/-!
A type is found in every header that holds its own text. The text of a type has no slash, so that it
opens no comment, and behind a text in which no comment begins nothing of it is stripped
(`stripComments_append_render_append`). It defines the tag on its first two lines. Main statement:
the conflict that is reported is the one on the tag (`definitionIn?_append_render_append`).
-/

namespace KitSurface

open Header

namespace Supplement

variable {t : Supplement} {text : String}

/-- The text of a type begins with the word `typedef`, the keyword, the tag and a brace. -/
theorem exists_render (h : t.render = .ok text) : ∃ rest, text.toList = "typedef ".toList ++
    (t.layout.kind.keyword.toList ++ ' ' :: (t.tag.toList ++ '\n' :: '\x7b' :: rest)) := by
  obtain ⟨members, -, htext⟩ := declaration_eq_some_iff.mp (render_eq_ok_iff.mp h)
  exact ⟨_, htext⟩

/-- Words and the marks between them are all that the text of a type has. -/
theorem isPlain_render (ht : t.IsIdentified) (h : t.render = .ok text) :
    Field.IsPlain text.toList := by
  obtain ⟨members, hmembers, htext⟩ := declaration_eq_some_iff.mp (render_eq_ok_iff.mp h)
  have hbody := Field.isPlain_declarations t.layout.fields hmembers ht.layout
  rw [htext]
  simp only [Field.isPlain_append, Field.isPlain_cons]
  exact ⟨by decide, Field.isPlain_keyword t.layout.kind, by decide,
    Field.isPlain_of_isIdentifier ht.tag, by decide, by decide, by decide, hbody, by decide,
    by decide, Field.isPlain_of_isIdentifier ht.typedefName, by decide, by decide, by decide,
    Field.isPlain_of_isIdentifier ht.pointerName, by decide⟩

theorem stripComments_append_render_append (ht : t.IsIdentified) (h : t.render = .ok text)
    {p : List Char} (hp : OpenerFree p) (q : List Char) :
    stripComments (p ++ text.toList ++ q) = p ++ text.toList ++ stripComments q := by
  have hslash : '/' ∉ text.toList := fun hmem => absurd (isPlain_render ht h '/' hmem) (by decide)
  obtain ⟨rest, htext⟩ := exists_render h
  have hhead : text.toList.head? ≠ some '*' := by
    rw [htext]
    simp
  have hlast : (p ++ text.toList).getLast? ≠ some '/' := by
    intro hl
    have hne : text.toList ≠ [] := by
      rw [htext]
      simp
    rw [List.getLast?_append_of_ne_nil p hne] at hl
    exact hslash (List.mem_of_getLast? hl)
  exact (hp.append hslash hhead).stripComments_append hlast q

/-- The text of a type defines its tag, whatever stands around it. -/
theorem definesTag_append_render_append (h : t.render = .ok text) (p q : List Char) :
    definesTag t.layout.kind.keyword.toList t.tag.toList none (p ++ text.toList ++ q) = true := by
  obtain ⟨rest, htext⟩ := exists_render h
  have hkeyword : t.layout.kind.keyword.toList ≠ [] := by
    cases t.layout.kind <;> decide
  refine definesTag_iff.mpr ⟨p ++ "typedef ".toList, t.layout.kind.keyword.toList ++
    ' ' :: (t.tag.toList ++ '\n' :: '\x7b' :: rest) ++ q, ?_, ?_, ?_, ?_⟩
  · rw [htext]
    simp
  · simp
  · -- A blank stands before the keyword.
    have hbefore : (p ++ "typedef ".toList).getLast? = some ' ' := by
      simp
    rw [hbefore]
    cases t.layout.kind <;> rfl
  · exact definesHere_iff.mpr ⟨[' '], ['\n'], rest ++ q, by decide, by decide, by simp⟩

/-- **A header that holds the text of a type conflicts with the type on its tag**, if no comment
begins before that text. -/
theorem definitionIn?_append_render_append (t : Supplement) (ht : t.IsIdentified)
    (hnamed : t.layout.IsNamed) : ∃ text, t.render = .ok text ∧
      ∀ p q : String, OpenerFree p.toList → t.definitionIn? (p ++ text ++ q) = some t.tag := by
  obtain ⟨text, h⟩ := (exists_render_iff t).mpr hnamed
  refine ⟨text, h, fun p q hp => ?_⟩
  have hstrip : stripComments (p ++ text ++ q).toList =
      p.toList ++ text.toList ++ stripComments q.toList := by
    rw [String.toList_append, String.toList_append]
    exact stripComments_append_render_append ht h hp q.toList
  rw [definitionIn?, hstrip, definitionInCode?,
    if_pos (definesTag_append_render_append h _ _)]

theorem definitionIn?_append_render_segment : segmentDescriptor.IsIdentified ∧
    segmentDescriptor.layout.IsNamed ∧ OpenerFree "struct GATE;\n".toList ∧
    ∃ text, segmentDescriptor.render = .ok text ∧
      segmentDescriptor.definitionIn? ("struct GATE;\n" ++ text ++ "/*") =
        some segmentDescriptor.tag := by
  have ht := isIdentified_segmentDescriptor
  have hnamed : segmentDescriptor.layout.IsNamed := by decide
  have hp : OpenerFree "struct GATE;\n".toList := .of_not_mem (by decide)
  obtain ⟨text, hrender, hfound⟩ := definitionIn?_append_render_append segmentDescriptor ht hnamed
  exact ⟨ht, hnamed, hp, text, hrender, hfound "struct GATE;\n" "/*" hp⟩

end Supplement

end KitSurface
