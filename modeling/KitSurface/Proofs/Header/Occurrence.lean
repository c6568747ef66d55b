import KitSurface.Proofs.Header.Alias
import KitSurface.Proofs.Header.Scan
/-!
Where the statements of a scan stand. A scan finds no statement that is not written in the text
(`Statement.exists_of_mem_scan`), and a typedef that it finds has the word `typedef` in front, so that
a text without that word and without closing braces has no statement (`Statement.ofSource_eq_nil`).
What is found in a text is found in every longer one too (`Statement.scan_isPrefix`): a statement
that begins in the first part of a text and ends behind it has no semicolon before its end, and so
it has no other statement behind it in the first part. What a header defines stays defined if text is
put behind it: the definition of a tag stands where it stood, and the statements of the scan are still
the first ones. Main statements: behind a header that declares a name of a type, more text makes no
difference, unless it completes the definition of the tag (`definitionInCode?_append`), so that it
never hides a conflict (`isSome_definitionIn?_append`).
-/

namespace KitSurface

/-! ## Statements of a text -/

namespace Header

/-- A word stands in a text, with no word character at its sides. -/
def ContainsWord (word text : List Char) : Prop :=
  ∃ front rest, text = front ++ (word ++ rest) ∧ front.getLast?.any Text.isWord = false ∧
    rest.head?.any Text.isWord = false

theorem not_containsWord_of_not_mem {word text : List Char} {c : Char} (hc : c ∈ word)
    (h : c ∉ text) : ¬ ContainsWord word text := by
  intro hword
  obtain ⟨front, rest, rfl, -, -⟩ := hword
  exact h (List.mem_append_right front (List.mem_append_left rest hc))

theorem ContainsWord.of_concat {word text : List Char} {z : Char} (hne : word ≠ []) (hz : z ∉ word)
    (h : ContainsWord word (text ++ [z])) : ContainsWord word text := by
  obtain ⟨front, rest, heq, hfront, hrest⟩ := h
  rcases List.eq_nil_or_concat rest with rfl | ⟨rest, c, rfl⟩
  · rw [List.append_nil] at heq
    have hlast : word.getLast? = some z := by
      rw [← List.getLast?_append_of_ne_nil front hne, ← heq, List.getLast?_concat]
    exact absurd (List.mem_of_getLast? hlast) hz
  · rw [List.concat_eq_append, ← List.append_assoc, ← List.append_assoc] at heq
    obtain ⟨htext, -⟩ := List.append_inj' heq rfl
    refine ⟨front, rest, by rw [htext, List.append_assoc], hfront, ?_⟩
    cases rest with
    | nil => rfl
    | cons d rest => exact hrest

namespace Statement

variable {before : Option Char} {inside : Bool} {front rest text : List Char} {st : Statement}

/-- **A scan finds only what is written.** -/
theorem exists_of_mem_scan (h : st ∈ scan inside before text) : ∃ pre front rest,
    text = pre ++ (front ++ ';' :: rest) ∧ st.IsWritten (pre.getLast?.or before) front := by
  induction text generalizing inside before with
  | nil => cases h
  | cons c text ih =>
    have hlater : ∀ inside, st ∈ scan inside (some c) text → ∃ pre front rest,
        c :: text = pre ++ (front ++ ';' :: rest) ∧
          st.IsWritten (pre.getLast?.or before) front := by
      intro inside h
      obtain ⟨pre, front, rest, rfl, hst⟩ := ih h
      exact ⟨c :: pre, front, rest, rfl, by rwa [getLast?_cons_or]⟩
    cases inside with
    | true =>
      rw [scan, if_pos rfl] at h
      exact hlater _ h
    | false =>
      rw [scan_outside] at h
      split at h
      · next st' hat =>
        rcases List.mem_cons.mp h with rfl | h
        · obtain ⟨front, rest, heq, hst⟩ := at?_eq_some_iff.mp hat
          exact ⟨[], front, rest, heq, hst⟩
        · exact hlater _ h
      · exact hlater _ h

theorem containsWord_of_isWritten {pre : List Char}
    (h : (ofTypedef text).IsWritten (pre.getLast?.or none) front) (rest : List Char) :
    ContainsWord typedefWord (pre ++ (front ++ rest)) := by
  obtain ⟨hbefore, -, -, gap, hgap, rfl⟩ := h
  exact ⟨pre, gap ++ (text ++ rest), by simp, by simpa using hbefore, hgap.head?_append _⟩

/-- A text without the word `typedef` has only statements that begin with a closing brace. -/
theorem exists_afterBody_of_mem_ofSource (hword : ¬ ContainsWord typedefWord text)
    (h : st ∈ ofSource text) : ∃ pre body rest,
      text = pre ++ '\x7d' :: (body ++ ';' :: rest) ∧ IsPlain body ∧ st = afterBody body := by
  obtain ⟨pre, front, rest, rfl, hst⟩ := exists_of_mem_scan h
  cases st with
  | afterBody body =>
    obtain ⟨rfl, hplain⟩ := hst
    exact ⟨pre, body, rest, rfl, hplain, rfl⟩
  | ofTypedef body => exact absurd (containsWord_of_isWritten hst _) hword

theorem ofSource_eq_nil (hword : ¬ ContainsWord typedefWord text) (hbrace : '\x7d' ∉ text) :
    ofSource text = [] := by
  apply List.eq_nil_iff_forall_not_mem.mpr
  intro st h
  obtain ⟨pre, body, rest, rfl, -, -⟩ := exists_afterBody_of_mem_ofSource hword h
  exact hbrace (List.mem_append_right pre List.mem_cons_self)

/-- Where no word runs into it, a text is scanned like a header of its own. -/
theorem scan_eq_ofSource (h : before.any Text.isWord = false) (text : List Char) :
    scan false before text = ofSource text := by
  cases text with
  | nil => rfl
  | cons c text =>
    have hat : at? before (c :: text) = at? none (c :: text) := by
      unfold at?
      split
      · rfl
      · rw [h]
        rfl
    rw [ofSource, scan_outside, scan_outside, hat]

/-! ## Longer texts -/

/-- A statement that begins in a text and ends behind it leaves no semicolon in the text. -/
theorem semicolon_not_mem_of_at? {c : Char} {a b : List Char} (hnone : at? before (c :: a) = none)
    (h : at? before (c :: (a ++ b)) = some st) : ';' ∉ a := by
  obtain ⟨front, rest, heq, hst⟩ := at?_eq_some_iff.mp h
  obtain ⟨d, tail, rfl, hplain⟩ := hst.exists_cons
  obtain ⟨rfl, htail⟩ := List.cons.inj heq
  rcases List.append_eq_append_iff.mp htail with ⟨mid, rfl, -⟩ | ⟨mid, rfl, hmid⟩
  · intro hmem
    exact absurd (hplain _ (List.mem_append_left mid hmem)) (by decide)
  · cases mid with
    | nil =>
      rw [List.append_nil]
      intro hmem
      exact absurd (hplain _ hmem) (by decide)
    | cons d mid =>
      -- Then the semicolon stands in `a`, and the statement is one of `a` already.
      obtain ⟨rfl, -⟩ := List.cons.inj hmid
      have hat := at?_eq_some_iff.mpr ⟨c :: tail, mid, rfl, hst⟩
      rw [List.cons_append, hnone] at hat
      cases hat

/-- **What a scan finds in a text it finds in every longer one too.** -/
theorem scan_isPrefix (inside : Bool) (before : Option Char) (a b : List Char) :
    scan inside before a <+: scan inside before (a ++ b) := by
  induction a generalizing inside before with
  | nil => exact List.nil_prefix
  | cons c a ih =>
    cases inside with
    | true =>
      simp only [List.cons_append, scan, if_true]
      exact ih _ _
    | false =>
      rw [List.cons_append, scan_outside, scan_outside c]
      cases ha : at? before (c :: a) with
      | some st =>
        obtain ⟨front, rest, heq, hst⟩ := at?_eq_some_iff.mp ha
        have hab : at? before (c :: (a ++ b)) = some st :=
          at?_eq_some_iff.mpr ⟨front, rest ++ b, by rw [← List.cons_append, heq]; simp, hst⟩
        rw [hab]
        exact (List.prefix_cons_inj st).mpr (ih _ _)
      | none =>
        cases hab : at? before (c :: (a ++ b)) with
        | none => exact ih _ _
        | some st =>
          have hnil : scan false (some c) a = [] := scan_eq_nil (semicolon_not_mem_of_at? ha hab)
          rw [hnil]
          exact List.nil_prefix

end Statement

end Header

/-! ## Longer headers -/

namespace Supplement

open Header

variable {t : Supplement} {a : List Char} {name : String}

/-- The first name that is declared stays the first one. -/
theorem typedefIn?_append (h : t.typedefIn? a = some name) (b : List Char) :
    t.typedefIn? (a ++ b) = some name := by
  obtain ⟨later, hscan⟩ := Statement.scan_isPrefix false none a b
  unfold typedefIn? Statement.ofSource at h ⊢
  rw [← hscan, List.flatMap_append, List.findSome?_append, h, Option.some_or]

/-- More text changes what is found only if it completes the definition of the tag. -/
theorem definitionInCode?_append (h : t.definitionInCode? a = some name) (b : List Char) :
    t.definitionInCode? (a ++ b) = some name ∨ t.definitionInCode? (a ++ b) = some t.tag := by
  unfold definitionInCode? at h ⊢
  split at h
  · next htag =>
    rw [if_pos (definesTag_append_of htag b)]
    exact Or.inr rfl
  · split
    · exact Or.inr rfl
    · exact Or.inl (typedefIn?_append h b)

/-- **More text never hides a conflict**, if the comments of the header end in it. -/
theorem isSome_definitionIn?_append (t : Supplement) (a b : String)
    (hcomments : stripComments (a ++ b).toList =
      stripComments a.toList ++ stripComments b.toList)
    (h : (t.definitionIn? a).isSome = true) : (t.definitionIn? (a ++ b)).isSome = true := by
  obtain ⟨name, hname⟩ := Option.isSome_iff_exists.mp h
  unfold definitionIn? at hname ⊢
  rw [hcomments]
  rcases definitionInCode?_append hname (stripComments b.toList) with h | h <;> rw [h] <;> rfl

/-- A header that breaks off in a typedef, and the rest of it with a comment. -/
theorem isSome_definitionIn?_append_gate :
    stripComments ("typedef struct _GATE KGDTENTRY64; typedef int" ++ " /* gates */ GATE;").toList =
      stripComments "typedef struct _GATE KGDTENTRY64; typedef int".toList ++
        stripComments " /* gates */ GATE;".toList ∧
    (segmentDescriptor.definitionIn? "typedef struct _GATE KGDTENTRY64; typedef int").isSome =
      true ∧
    (segmentDescriptor.definitionIn?
      ("typedef struct _GATE KGDTENTRY64; typedef int" ++ " /* gates */ GATE;")).isSome = true := by
  have hcomments : stripComments
      ("typedef struct _GATE KGDTENTRY64; typedef int" ++ " /* gates */ GATE;").toList =
      stripComments "typedef struct _GATE KGDTENTRY64; typedef int".toList ++
        stripComments " /* gates */ GATE;".toList := by decide +kernel
  have hfound : (segmentDescriptor.definitionIn?
      "typedef struct _GATE KGDTENTRY64; typedef int").isSome = true := by decide +kernel
  exact ⟨hcomments, hfound, isSome_definitionIn?_append segmentDescriptor _ _ hcomments hfound⟩

end Supplement

end KitSurface
