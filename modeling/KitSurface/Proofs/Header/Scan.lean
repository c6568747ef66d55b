import KitSurface.Proofs.Header.Tag
/-!
The statements that a scan finds. A statement is written as a closing brace or the word `typedef`
with the text that it holds, up to a semicolon (`Statement.IsWritten`). Main statements: a scan
starts a statement where one is written (`at?_eq_some_iff`), and what follows a semicolon or a brace
is scanned on its own (`scan_append`).
-/

namespace KitSurface.Header

/-- A text without semicolons and braces. -/
def IsPlain (text : List Char) : Prop :=
  ∀ c ∈ text, Statement.isPlain c = true

instance (text : List Char) : Decidable (IsPlain text) :=
  List.decidableBAll _ text

namespace Statement

/-- What stands in front of the semicolon of a statement, with the character before it. -/
def IsWritten (before : Option Char) (front : List Char) : Statement → Prop
  | afterBody text => front = '\x7d' :: text ∧ IsPlain text
  | ofTypedef text => before.any Text.isWord = false ∧ IsPlain text ∧
      text.head?.any Text.isBlank = false ∧ ∃ gap, IsGap gap ∧ front = typedefWord ++ gap ++ text

variable {before : Option Char} {front rest text a b : List Char} {st : Statement} {z : Char}

/-- A class of characters without the semicolon and the braces. -/
theorem isPlain_of_class {p : Char → Bool} {c : Char} (h : p c = true)
    (hp : p ';' = false ∧ p '\x7b' = false ∧ p '\x7d' = false) : isPlain c = true := by
  have hne : ∀ d : Char, p d = false → c ≠ d := fun d hd he => by
    rw [he, hd] at h
    cases h
  simp [isPlain, hne _ hp.1, hne _ hp.2.1, hne _ hp.2.2]

theorem isPlain_of_isBlank {c : Char} (h : Text.isBlank c = true) : isPlain c = true :=
  isPlain_of_class h (by decide)

theorem isPlain_of_isWord {c : Char} (h : Text.isWord c = true) : isPlain c = true :=
  isPlain_of_class h (by decide)

theorem upToSemicolon?_cons (c : Char) (rest : List Char) : upToSemicolon? (c :: rest) =
    if isPlain c then (upToSemicolon? rest).map (c :: ·) else if c = ';' then some [] else none := by
  unfold upToSemicolon?
  by_cases hc : isPlain c = true
  · rw [List.dropWhile_cons_of_pos hc, List.takeWhile_cons_of_pos hc, if_pos hc]
    split <;> rfl
  · rw [List.dropWhile_cons_of_neg hc, List.takeWhile_cons_of_neg hc, if_neg hc]
    by_cases he : c = ';'
    · rw [he]
      rfl
    · rw [if_neg he]
      split
      · next heq => exact absurd (List.cons.inj heq).1 he
      · rfl

theorem upToSemicolon?_eq_some_iff {text body : List Char} : upToSemicolon? text = some body ↔
    IsPlain body ∧ ∃ rest, text = body ++ ';' :: rest := by
  induction text generalizing body with
  | nil => simp [upToSemicolon?]
  | cons c text ih =>
    rw [upToSemicolon?_cons]
    constructor
    · intro h
      split at h
      · next hc =>
        obtain ⟨body, hbody, rfl⟩ := Option.map_eq_some_iff.mp h
        obtain ⟨hplain, rest, rfl⟩ := ih.mp hbody
        exact ⟨List.forall_mem_cons.mpr ⟨hc, hplain⟩, rest, rfl⟩
      · split at h
        · next he =>
          cases h
          exact ⟨nofun, text, by rw [he]; rfl⟩
        · cases h
    · intro hx
      obtain ⟨hplain, rest, heq⟩ := hx
      cases body with
      | nil =>
        obtain ⟨rfl, rfl⟩ := List.cons.inj heq
        rfl
      | cons d body =>
        obtain ⟨rfl, rfl⟩ := List.cons.inj heq
        obtain ⟨hc, hplain⟩ := List.forall_mem_cons.mp hplain
        rw [if_pos hc, ih.mpr ⟨hplain, rest, rfl⟩]
        rfl

/-- Behind its first character no semicolon and no brace stands in front of a statement's end. -/
theorem IsWritten.exists_cons (h : st.IsWritten before front) :
    ∃ c tail, front = c :: tail ∧ IsPlain tail := by
  cases st with
  | afterBody text => exact ⟨_, text, h.1, h.2⟩
  | ofTypedef text =>
    obtain ⟨-, hplain, -, gap, ⟨-, hgap⟩, rfl⟩ := h
    refine ⟨'t', "ypedef".toList ++ gap ++ text, rfl, ?_⟩
    have hword : IsPlain "ypedef".toList := by decide
    refine List.forall_mem_append.mpr ⟨List.forall_mem_append.mpr ⟨hword, ?_⟩, hplain⟩
    exact fun c hc => isPlain_of_isBlank (hgap c hc)

theorem at?_typedef (hb : before.any Text.isWord = false) {c : Char} (hc : Text.isBlank c = true)
    (rest : List Char) : at? before (typedefWord ++ c :: rest) =
      (upToSemicolon? (Text.dropBlanks rest)).map ofTypedef := by
  have hword : typedefWord.isPrefixOf? (typedefWord ++ c :: rest) = some (c :: rest) :=
    List.isPrefixOf?_eq_some_iff_append_eq.mpr rfl
  unfold at?
  split
  · next heq => cases heq
  · rw [hb, hword]
    simp [hc]

theorem isWritten_of_at? (h : at? before text = some st) :
    ∃ front rest, text = front ++ ';' :: rest ∧ st.IsWritten before front := by
  unfold at? at h
  split at h
  · next rest =>
    obtain ⟨body, hbody, rfl⟩ := Option.map_eq_some_iff.mp h
    obtain ⟨hplain, tail, rfl⟩ := upToSemicolon?_eq_some_iff.mp hbody
    exact ⟨'\x7d' :: body, tail, rfl, rfl, hplain⟩
  · split at h
    · cases h
    · next hb =>
      split at h
      · next c rest hword =>
        split at h
        · next hc =>
          obtain ⟨body, hbody, rfl⟩ := Option.map_eq_some_iff.mp h
          obtain ⟨hplain, tail, heq⟩ := upToSemicolon?_eq_some_iff.mp hbody
          obtain ⟨blanks, hblanks, hrest⟩ := exists_dropBlanks rest
          have htext := List.append_eq_of_isPrefixOf?_eq_some hword
          refine ⟨typedefWord ++ (c :: blanks) ++ body, tail, ?_, by simpa using hb, hplain, ?_,
            c :: blanks, ⟨List.cons_ne_nil _ _, List.forall_mem_cons.mpr ⟨hc, hblanks⟩⟩, rfl⟩
          · rw [← htext, hrest, heq]
            simp
          · cases body with
            | nil => rfl
            | cons d body => exact Text.head?_dropBlanks (congrArg List.head? heq)
        · cases h
      · cases h

theorem IsWritten.at? (h : st.IsWritten before front) (rest : List Char) :
    at? before (front ++ ';' :: rest) = some st := by
  cases st with
  | afterBody text =>
    obtain ⟨rfl, hplain⟩ := h
    show (upToSemicolon? (text ++ ';' :: rest)).map afterBody = _
    rw [upToSemicolon?_eq_some_iff.mpr ⟨hplain, rest, rfl⟩]
    rfl
  | ofTypedef text =>
    obtain ⟨hb, hplain, hhead, gap, ⟨hne, hgap⟩, rfl⟩ := h
    obtain ⟨c, gap, rfl⟩ := List.exists_cons_of_ne_nil hne
    obtain ⟨hc, hgap⟩ := List.forall_mem_cons.mp hgap
    have hfront : typedefWord ++ (c :: gap) ++ text ++ ';' :: rest =
        typedefWord ++ c :: (gap ++ (text ++ ';' :: rest)) := by simp
    have hdrop : Text.dropBlanks (text ++ ';' :: rest) = text ++ ';' :: rest := by
      refine dropBlanks_eq_self ?_
      cases text with
      | nil => rfl
      | cons d text => exact hhead
    rw [hfront, at?_typedef hb hc, dropBlanks_append hgap, hdrop,
      upToSemicolon?_eq_some_iff.mpr ⟨hplain, rest, rfl⟩]
    rfl

/-- **A scan starts a statement where one is written.** -/
theorem at?_eq_some_iff : at? before text = some st ↔
    ∃ front rest, text = front ++ ';' :: rest ∧ st.IsWritten before front := by
  refine ⟨isWritten_of_at?, ?_⟩
  intro hx
  obtain ⟨front, rest, rfl, h⟩ := hx
  exact h.at? rest

/-! ## Scans of joined texts -/

/-- The first semicolon or brace of a text decides where a statement ends. -/
theorem exists_semicolon (hz : isPlain z = false) (ha : IsPlain a)
    (h : front ++ z :: rest = a ++ ';' :: b) (rest' : List Char) :
    ∃ b', front ++ z :: rest' = a ++ ';' :: b' := by
  rcases List.append_eq_append_iff.mp h with ⟨mid, rfl, hz'⟩ | ⟨mid, rfl, hz'⟩
  · -- The semicolon is `z`, since `z` cannot stand in front of it.
    cases mid with
    | nil => exact ⟨rest', by rw [(List.cons.inj hz').1, List.append_nil]⟩
    | cons c mid =>
      have hc := ha c (List.mem_append_right front List.mem_cons_self)
      rw [← (List.cons.inj hz').1, hz] at hc
      cases hc
  · cases mid with
    | nil => exact ⟨rest', by rw [(List.cons.inj hz').1, List.append_nil]⟩
    | cons c mid =>
      obtain ⟨rfl, -⟩ := List.cons.inj hz'
      exact ⟨mid ++ z :: rest', by simp⟩

theorem at?_of_append (hz : isPlain z = false) {c : Char}
    (h : at? before (c :: front ++ z :: rest) = some st) (rest' : List Char) :
    at? before (c :: front ++ z :: rest') = some st := by
  obtain ⟨a, b, heq, hst⟩ := at?_eq_some_iff.mp h
  obtain ⟨d, a, rfl, hplain⟩ := hst.exists_cons
  obtain ⟨rfl, htail⟩ := List.cons.inj heq
  obtain ⟨b', htail'⟩ := exists_semicolon hz hplain htail rest'
  exact at?_eq_some_iff.mpr ⟨c :: a, b', congrArg (c :: ·) htail', hst⟩

/-- What follows a semicolon or a brace has no part in a statement that begins before it. -/
theorem at?_append (hz : isPlain z = false) (c : Char) (front rest rest' : List Char) :
    at? before (c :: front ++ z :: rest) = at? before (c :: front ++ z :: rest') := by
  ext st
  exact ⟨fun h => at?_of_append hz h rest', fun h => at?_of_append hz h rest⟩

theorem at?_singleton (c : Char) : at? before [c] = none := by
  refine Option.eq_none_iff_forall_ne_some.mpr fun st h => ?_
  obtain ⟨front, rest, heq, hst⟩ := at?_eq_some_iff.mp h
  obtain ⟨d, tail, rfl, -⟩ := hst.exists_cons
  simp at heq

theorem at?_eq_none {c : Char} (hc : c ≠ '\x7d') (ht : c ≠ 't') : at? before (c :: rest) = none := by
  refine Option.eq_none_iff_forall_ne_some.mpr fun st h => ?_
  obtain ⟨front, tail, heq, hst⟩ := at?_eq_some_iff.mp h
  cases st with
  | afterBody text =>
    obtain ⟨rfl, -⟩ := hst
    exact hc (List.cons.inj heq).1
  | ofTypedef text =>
    obtain ⟨-, -, -, gap, -, rfl⟩ := hst
    exact ht (List.cons.inj heq).1

theorem scan_outside (c : Char) (rest : List Char) : scan false before (c :: rest) =
    match at? before (c :: rest) with
    | some statement => statement :: scan true (some c) rest
    | none => scan false (some c) rest := by
  rw [scan]
  exact if_neg Bool.false_ne_true

/-- A semicolon or a brace separates words, so that what stands before it does not matter. -/
theorem scan_of_not_isPlain (hz : isPlain z = false) :
    scan false before (z :: rest) = scan false none (z :: rest) := by
  have hat : at? before (z :: rest) = at? none (z :: rest) := by
    by_cases hc : z = '\x7d'
    · rw [hc]
      rfl
    · have ht : z ≠ 't' := by
        intro he
        subst he
        cases hz
      rw [at?_eq_none hc ht, at?_eq_none hc ht]
  rw [scan_outside, scan_outside, hat]

/-- **What follows a semicolon or a brace is scanned on its own.** -/
theorem scan_append (hz : isPlain z = false) {inside : Bool} {front : List Char}
    (hin : inside = true → ∃ a b, front ++ [z] = a ++ ';' :: b ∧ IsPlain a) (rest : List Char) :
    scan inside before (front ++ z :: rest) =
      scan inside before (front ++ [z]) ++ scan false none (z :: rest) := by
  -- Inside a statement its semicolon is still to come, at `z` or before it.
  induction front generalizing inside before with
  | nil =>
    simp only [List.nil_append]
    cases inside with
    | false =>
      rw [scan_of_not_isPlain hz]
      simp [scan, at?_singleton]
    | true =>
      -- The statement ends here, so that this is its semicolon.
      obtain ⟨a, b, heq, -⟩ := hin rfl
      cases a with
      | nil =>
        obtain ⟨rfl, -⟩ := List.cons.inj heq
        have hat : at? none (';' :: rest) = none := at?_eq_none (by decide) (by decide)
        simp [scan, hat]
      | cons c a => simp at heq
  | cons c front ih =>
    cases inside with
    | false =>
      have hat : at? before (c :: (front ++ z :: rest)) = at? before (c :: (front ++ [z])) :=
        at?_append hz c front rest []
      rw [List.cons_append, List.cons_append, scan_outside, scan_outside c, hat]
      split
      · next st hst =>
        obtain ⟨a, b, heq, hwritten⟩ := at?_eq_some_iff.mp hst
        obtain ⟨d, a, rfl, hplain⟩ := hwritten.exists_cons
        rw [ih fun _ => ⟨a, b, (List.cons.inj heq).2, hplain⟩, List.cons_append]
      · exact ih (fun h => absurd h Bool.false_ne_true)
    | true =>
      obtain ⟨a, b, heq, hplain⟩ := hin rfl
      simp only [List.cons_append, scan, if_true]
      refine ih fun hc => ?_
      cases a with
      | nil =>
        obtain ⟨rfl, -⟩ := List.cons.inj heq
        cases hc
      | cons d a =>
        exact ⟨a, b, (List.cons.inj heq).2, (List.forall_mem_cons.mp hplain).2⟩

theorem scan_skip {c : Char} (hc : c ≠ '\x7d') (ht : c ≠ 't') (rest : List Char) :
    scan false before (c :: rest) = scan false (some c) rest := by
  rw [scan_outside, at?_eq_none hc ht]

theorem scan_blanks {blanks : List Char} (h : IsBlank blanks) (rest : List Char) :
    scan false before (blanks ++ rest) = scan false (blanks.getLast?.or before) rest := by
  induction blanks generalizing before with
  | nil => rfl
  | cons c blanks ih =>
    obtain ⟨hc, hblanks⟩ := List.forall_mem_cons.mp h
    have hne : ∀ d : Char, Text.isBlank d = false → c ≠ d := fun d hd he => by
      rw [he, hd] at hc
      cases hc
    rw [List.cons_append, scan_skip (hne _ (by decide)) (hne _ (by decide)), ih hblanks,
      getLast?_cons_or]

theorem scan_eq_nil {inside : Bool} (h : ';' ∉ text) : scan inside before text = [] := by
  induction text generalizing inside before with
  | nil => rfl
  | cons c text ih =>
    have htext : ';' ∉ text := fun hs => h (List.mem_cons_of_mem c hs)
    have hat : at? before (c :: text) = none := by
      refine Option.eq_none_iff_forall_ne_some.mpr fun st hst => ?_
      obtain ⟨front, rest, heq, -⟩ := at?_eq_some_iff.mp hst
      exact h (heq ▸ List.mem_append_right front List.mem_cons_self)
    simp [scan, hat, ih htext]

theorem ofSource_append (hz : isPlain z = false) (front rest : List Char) :
    ofSource (front ++ z :: rest) = ofSource (front ++ [z]) ++ scan false none (z :: rest) := by
  unfold ofSource
  rw [scan_append hz (fun h => absurd h Bool.false_ne_true)]

/-- Inside a statement the scan passes over everything up to the semicolon. -/
theorem scan_inside (ha : ';' ∉ a) (rest : List Char) :
    scan true before (a ++ ';' :: rest) = scan false (some ';') rest := by
  induction a generalizing before with
  | nil => rfl
  | cons c a ih =>
    obtain ⟨hc, ha⟩ := not_or.mp (mt List.mem_cons.mpr ha)
    have hne : (c != ';') = true := bne_iff_ne.mpr (Ne.symm hc)
    simp only [List.cons_append, scan, if_true, hne]
    exact ih ha

theorem IsWritten.scan (h : st.IsWritten before front) (rest : List Char) :
    scan false before (front ++ ';' :: rest) = st :: scan false (some ';') rest := by
  have hat := h.at? rest
  obtain ⟨c, a, rfl, hplain⟩ := h.exists_cons
  have ha : ';' ∉ a := fun hs => absurd (hplain _ hs) (by decide)
  rw [List.cons_append] at hat ⊢
  rw [scan_outside, hat]
  simp only [scan_inside ha]

end Statement

end KitSurface.Header
