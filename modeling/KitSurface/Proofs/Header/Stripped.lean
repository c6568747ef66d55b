import KitSurface.Header.Conflict
import KitSurface.Proofs.Header.Lexeme
/-!
What is left of a text without its comments. A space stands for every comment, so that the parts of
a stripped text that have no blank stand in the text itself (`infix_of_infix_stripFrom`), and no
comment is put together from what stood around another one (`commentFree_stripFrom`). The texts that
are left as they are are those without comments (`stripComments_eq_self_iff`). Main statement:
stripping once is enough, for the text and for what a header defines, and a block comment counts as
one space (`stripComments_settles`).
-/

namespace KitSurface

namespace Header

variable {place : Place} {text rest part : List Char} {c : Char}

/-! ## Parts without blanks -/

/-- What stands without blanks at the front of a stripped text stands there in the text itself. -/
theorem prefix_of_prefix_stripFrom : ∀ {text part : List Char}, ' ' ∉ part →
    part <+: stripFrom .code text → part <+: text
  | [], _, _, h => h
  | _ :: _, [], _, _ => List.nil_prefix
  | c :: text, d :: part, hpart, h => by
    cases hbegins : beginsComment (c :: text) with
    | true =>
      -- The part would begin with the space of the comment.
      obtain ⟨tail, heq⟩ := h
      have hhead := head?_stripFrom_of_beginsComment hbegins
      rw [← heq] at hhead
      obtain rfl : d = ' ' := Option.some.inj hhead
      exact absurd List.mem_cons_self hpart
    | false =>
      rw [stripFrom_of_not_beginsComment hbegins] at h
      obtain ⟨rfl, htail⟩ := List.cons_prefix_cons.mp h
      have hprefix := prefix_of_prefix_stripFrom (List.not_mem_of_not_mem_cons hpart) htail
      exact List.cons_prefix_cons.mpr ⟨rfl, hprefix⟩

/-- In front of stripped code a character stands as in front of the code. -/
theorem infix_cons_stripFrom (c : Char) (hpart : ' ' ∉ part)
    (hrest : part <:+: stripFrom .code rest → part <:+: rest)
    (h : part <:+: c :: stripFrom .code rest) : part <:+: c :: rest := by
  rcases List.infix_cons_iff.mp h with h | h
  · cases part with
    | nil => exact List.nil_infix
    | cons d part =>
      obtain ⟨rfl, htail⟩ := List.cons_prefix_cons.mp h
      have hprefix := prefix_of_prefix_stripFrom (List.not_mem_of_not_mem_cons hpart) htail
      exact (List.cons_prefix_cons.mpr ⟨rfl, hprefix⟩).isInfix
  · exact List.infix_cons (hrest h)

/-- **What stands without blanks in a stripped text stands in the text itself.** -/
theorem infix_of_infix_stripFrom (hpart : ' ' ∉ part) (h : part <:+: stripFrom place text) :
    part <:+: text := by
  -- The space of a comment is in no such part.
  have hspace : ∀ {rest : List Char}, part <:+: ' ' :: rest → part <:+: rest := by
    intro rest h
    rcases List.infix_cons_iff.mp h with h | h
    · cases part with
      | nil => exact List.nil_infix
      | cons d part =>
        obtain ⟨rfl, -⟩ := List.cons_prefix_cons.mp h
        exact absurd List.mem_cons_self hpart
    · exact h
  fun_induction stripFrom place text with
  | case1 => exact h
  | case2 rest _ ih => exact List.infix_cons (List.infix_cons (ih (hspace h)))
  | case3 rest _ ih =>
    have hstar : stripFrom .code ('*' :: rest) = '*' :: stripFrom .code rest := rfl
    rw [← hstar] at h
    exact infix_cons_stripFrom '/' hpart (infix_cons_stripFrom '*' hpart ih) h
  | case4 rest ih => exact List.infix_cons (List.infix_cons (ih (hspace h)))
  | case5 c rest _ _ ih => exact infix_cons_stripFrom c hpart ih h
  | case6 rest ih => exact List.infix_cons (List.infix_cons (ih h))
  | case7 c rest _ ih => exact List.infix_cons (ih h)
  | case8 rest ih => exact infix_cons_stripFrom '\n' hpart ih h
  | case9 c rest _ ih => exact List.infix_cons (ih h)

/-! ## Texts that are left as they are -/

/-- A character begins no comment with stripped code unless it does with the code. -/
theorem beginsComment_of_stripFrom (h : beginsComment (c :: stripFrom .code rest) = true) :
    beginsComment (c :: rest) = true := by
  unfold beginsComment at h
  split at h
  · next tail heq =>
    obtain ⟨rfl, hrest⟩ := List.cons.inj heq
    have hslash : ['/'] <+: rest := prefix_of_prefix_stripFrom (by decide) ⟨tail, hrest.symm⟩
    obtain ⟨rest, rfl⟩ := hslash
    rfl
  · next tail heq =>
    obtain ⟨rfl, hrest⟩ := List.cons.inj heq
    have hstar : ['*'] <+: rest := prefix_of_prefix_stripFrom (by decide) ⟨tail, hrest.symm⟩
    obtain ⟨rest, rfl⟩ := hstar
    obtain rfl : stripFrom .code rest = tail := (List.cons.inj hrest).2
    have hclose : ['*', '/'] <:+: rest :=
      infix_of_infix_stripFrom (by decide) (closesBlock_iff.mp h)
    exact closesBlock_iff.mpr hclose
  · cases h

/-- A comment begins at the front of a text, or it stands in the rest. -/
theorem commentFree_cons_iff :
    CommentFree (c :: text) ↔ beginsComment (c :: text) = false ∧ CommentFree text := by
  constructor
  · intro h
    refine ⟨?_, h.of_cons⟩
    rw [← Bool.not_eq_true]
    intro hbegins
    unfold beginsComment at hbegins
    split at hbegins
    · next heq => exact h.noLine (heq ▸ ⟨[], _, rfl⟩)
    · next heq => exact h.noBlock [] _ heq (closesBlock_iff.mp hbegins)
    · cases hbegins
  · rintro ⟨hbegins, h⟩
    refine ⟨fun hx => ?_, fun front rest heq => ?_⟩
    · rcases List.infix_cons_iff.mp hx with ⟨tail, heq⟩ | hx
      · rw [← heq] at hbegins
        cases hbegins
      · exact h.noLine hx
    · cases front with
      | nil =>
        rw [heq] at hbegins
        intro hx
        rw [← closesBlock_iff] at hx
        exact absurd (hx.symm.trans hbegins) (by decide)
      | cons d front => exact h.noBlock front rest (List.cons.inj heq).2

theorem CommentFree.cons_stripFrom (hbegins : beginsComment (c :: rest) = false)
    (h : CommentFree (stripFrom .code rest)) : CommentFree (c :: stripFrom .code rest) := by
  refine commentFree_cons_iff.mpr ⟨?_, h⟩
  rw [← Bool.not_eq_true] at hbegins ⊢
  exact mt beginsComment_of_stripFrom hbegins

/-- **No comment is left, and none is put together.** -/
theorem commentFree_stripFrom (place : Place) (text : List Char) :
    CommentFree (stripFrom place text) := by
  have hspace : ∀ {rest : List Char}, CommentFree rest → CommentFree (' ' :: rest) := fun h =>
    h.prepend (a := [' ']) (by decide)
  fun_induction stripFrom place text with
  | case1 => exact .of_not_mem List.not_mem_nil
  | case2 rest _ ih => exact hspace ih
  | case3 rest hopen ih =>
    -- The opener is kept, since nothing closes it.
    have hbegins : beginsComment ('/' :: '*' :: rest) = false := Bool.not_eq_true _ ▸ hopen
    have hstar : CommentFree (stripFrom .code ('*' :: rest)) := ih.cons_stripFrom rfl
    exact hstar.cons_stripFrom hbegins
  | case4 rest ih => exact hspace ih
  | case5 c rest hblock hline ih =>
    refine ih.cons_stripFrom ?_
    unfold beginsComment
    split
    · next heq => exact (hline _ (List.cons.inj heq).1 (List.cons.inj heq).2).elim
    · next heq => exact (hblock _ (List.cons.inj heq).1 (List.cons.inj heq).2).elim
    · rfl
  | case6 rest ih => exact ih
  | case7 c rest _ ih => exact ih
  | case8 rest ih => exact ih.prepend (a := ['\n']) (by decide)
  | case9 c rest _ ih => exact ih

/-- **The texts that stripping leaves as they are are those without comments.** -/
theorem stripComments_eq_self_iff : stripComments text = text ↔ CommentFree text :=
  ⟨fun h => h ▸ commentFree_stripFrom .code text, stripComments_of_commentFree⟩

/-- Behind a text in which no comment begins, a block comment counts as a space. -/
theorem stripComments_append_blockComment {front body : List Char} (hfront : OpenerFree front)
    (hend : front.getLast? ≠ some '/') (hbody : ¬ ['*', '/'] <:+: body) (rest : List Char) :
    stripComments (front ++ ((Lexeme.blockComment body).text ++ rest)) =
      stripComments (front ++ ' ' :: rest) := by
  rw [hfront.stripComments_append hend, hfront.stripComments_append hend,
    stripComments_blockComment hbody]
  rfl

end Header

namespace Supplement

open Header

variable {t : Supplement} {a b c : String}

theorem definitionIn?_congr (h : stripComments a.toList = stripComments b.toList) :
    t.definitionIn? a = t.definitionIn? b := by
  rw [definitionIn?, definitionIn?, h]

theorem definitionIn?_append_blockComment (ha : OpenerFree a.toList)
    (hend : a.toList.getLast? ≠ some '/') (hc : ¬ ['*', '/'] <:+: c.toList) :
    t.definitionIn? (a ++ "/*" ++ c ++ "*/" ++ b) = t.definitionIn? (a ++ " " ++ b) := by
  refine definitionIn?_congr ?_
  have hcomment : (a ++ "/*" ++ c ++ "*/" ++ b).toList =
      a.toList ++ ((Lexeme.blockComment c.toList).text ++ b.toList) := by
    simp [Lexeme.text]
  have hspace : (a ++ " " ++ b).toList = a.toList ++ ' ' :: b.toList := by
    simp
  rw [hcomment, hspace, stripComments_append_blockComment ha hend hc]

/-- **Comments are stripped in one pass.** What is left has no comment, so that it is left as it is
by a second pass and defines what the header defines; and where no comment is begun or half begun, a
block comment may stand for a space. -/
theorem stripComments_settles :
    (∀ text, CommentFree (stripComments text)) ∧
    (∀ text, stripComments text = text ↔ CommentFree text) ∧
    (∀ text, stripComments (stripComments text) = stripComments text) ∧
    (∀ (t : Supplement) (header : String),
      t.definitionIn? header = t.definitionIn? (String.ofList (stripComments header.toList))) ∧
    ∀ (t : Supplement) (a c b : String), OpenerFree a.toList → a.toList.getLast? ≠ some '/' →
      ¬ ['*', '/'] <:+: c.toList →
        t.definitionIn? (a ++ "/*" ++ c ++ "*/" ++ b) = t.definitionIn? (a ++ " " ++ b) := by
  have hfree : ∀ text, CommentFree (stripComments text) := commentFree_stripFrom .code
  have htwice : ∀ text, stripComments (stripComments text) = stripComments text := fun text =>
    stripComments_of_commentFree (hfree text)
  refine ⟨hfree, fun _ => stripComments_eq_self_iff, htwice, fun t header => ?_,
    fun t a c b => definitionIn?_append_blockComment⟩
  refine definitionIn?_congr ?_
  rw [String.toList_ofList, htwice]

/-- Behind a division, a comment that begins and ends with a slash, in the definition of a tag. -/
theorem definitionIn?_slashesInComment :
    OpenerFree "int n = 4 / 2; union".toList ∧
    "int n = 4 / 2; union".toList.getLast? ≠ some '/' ∧
    ¬ ['*', '/'] <:+: "/ gate //".toList ∧
    segmentDescriptor.definitionIn?
      ("int n = 4 / 2; union" ++ "/*" ++ "/ gate //" ++ "*/" ++ "_KGDTENTRY64 \x7b int Low; \x7d;") =
      segmentDescriptor.definitionIn?
        ("int n = 4 / 2; union" ++ " " ++ "_KGDTENTRY64 \x7b int Low; \x7d;") ∧
    segmentDescriptor.definitionIn?
      ("int n = 4 / 2; union" ++ " " ++ "_KGDTENTRY64 \x7b int Low; \x7d;") =
        some "_KGDTENTRY64" := by
  have ha : OpenerFree "int n = 4 / 2; union".toList := ⟨by decide +kernel, by decide +kernel⟩
  have hend : "int n = 4 / 2; union".toList.getLast? ≠ some '/' := by decide +kernel
  have hc : ¬ ['*', '/'] <:+: "/ gate //".toList := by decide +kernel
  obtain ⟨-, -, -, -, hspace⟩ := stripComments_settles
  exact ⟨ha, hend, hc, hspace segmentDescriptor _ _ _ ha hend hc, by decide +kernel⟩

end Supplement

end KitSurface
