import KitSurface.Header.Statement
/-!
Texts without comments. Main statements: a text without comments is left as it is
(`stripComments_of_commentFree`), and a text without slashes can be put behind it or before it
(`CommentFree.append`, `CommentFree.prepend`). A text in which no comment even begins is left as it
is in front of any other text (`OpenerFree.stripComments_append`). A block comment is left at its
first closer, and a line comment at the end of its line (`stripFrom_block_append`,
`stripFrom_line_append`).
-/

namespace KitSurface.Header

/-- A text without comments: two slashes never meet, and no opener of a block comment has a closer
behind it. -/
structure CommentFree (text : List Char) : Prop where
  noLine : ¬ ['/', '/'] <:+: text
  noBlock : ∀ front rest, text = front ++ '/' :: '*' :: rest → ¬ ['*', '/'] <:+: rest

theorem closesBlock_iff {text : List Char} :
    closesBlock text = true ↔ ['*', '/'] <:+: text := by
  fun_induction closesBlock text with
  | case1 => simp
  | case2 rest => simpa using List.infix_append [] ['*', '/'] rest
  | case3 c rest hne ih =>
    rw [ih, List.infix_cons_iff]
    refine ⟨Or.inr, fun h => h.resolve_left ?_⟩
    intro hx
    obtain ⟨tail, heq⟩ := hx
    simp only [List.cons_append, List.nil_append, List.cons.injEq] at heq
    exact hne tail heq.1.symm heq.2.symm

/-- Where a character stands that the second of two joined texts does not have. -/
theorem exists_of_append_eq {front rest a b : List Char} {z : Char}
    (h : front ++ z :: rest = a ++ b) (hz : z ∉ b) :
    ∃ tail, a = front ++ z :: tail ∧ rest = tail ++ b := by
  rcases List.append_eq_append_iff.mp h with ⟨mid, ha, hrest⟩ | ⟨mid, -, hb⟩
  · cases mid with
    | nil =>
      rw [List.nil_append] at hrest
      exact absurd (hrest ▸ List.mem_cons_self) hz
    | cons c mid =>
      simp only [List.cons_append, List.cons.injEq] at hrest
      exact ⟨mid, hrest.1 ▸ ha, hrest.2⟩
  · exact absurd (hb ▸ List.mem_append_right mid List.mem_cons_self) hz

/-- Where a character stands that the first of two joined texts does not have. -/
theorem exists_of_append_eq_left {front rest a b : List Char} {z : Char}
    (h : front ++ z :: rest = a ++ b) (hz : z ∉ a) : ∃ lead, b = lead ++ z :: rest := by
  rcases List.append_eq_append_iff.mp h with ⟨mid, ha, hrest⟩ | ⟨mid, -, hb⟩
  · cases mid with
    | nil => exact ⟨[], hrest.symm⟩
    | cons c mid =>
      obtain ⟨rfl, -⟩ := List.cons.inj hrest
      exact absurd (ha ▸ List.mem_append_right front List.mem_cons_self) hz
  · exact ⟨mid, hb⟩

namespace CommentFree

variable {a b : List Char}

theorem of_append (h : CommentFree (a ++ b)) : CommentFree b where
  noLine := fun hb => h.noLine (hb.trans (List.suffix_append a b).isInfix)
  noBlock := fun front rest hb => h.noBlock (a ++ front) rest (by rw [hb, List.append_assoc])

theorem of_cons {c : Char} (h : CommentFree (c :: b)) : CommentFree b :=
  of_append (a := [c]) h

/-- A comment needs a slash at its end or, if it runs to the end of the line, two at its front. -/
theorem append (h : CommentFree a) (hb : '/' ∉ b) : CommentFree (a ++ b) where
  noLine := by
    intro hx
    obtain ⟨front, rest, heq⟩ := hx
    rw [show front ++ ['/', '/'] ++ rest = (front ++ ['/']) ++ '/' :: rest by simp] at heq
    obtain ⟨tail, ha, -⟩ := exists_of_append_eq heq hb
    exact h.noLine ⟨front, tail, by simp [ha]⟩
  noBlock := by
    intro front rest heq hx
    obtain ⟨x, y, rfl⟩ := hx
    rw [show front ++ '/' :: '*' :: (x ++ ['*', '/'] ++ y) =
      (front ++ '/' :: '*' :: (x ++ ['*'])) ++ '/' :: y by simp] at heq
    obtain ⟨tail, ha, -⟩ := exists_of_append_eq heq.symm hb
    exact h.noBlock front (x ++ ['*', '/'] ++ tail) (by simp [ha]) ⟨x, tail, rfl⟩

theorem prepend (h : CommentFree b) (ha : '/' ∉ a) : CommentFree (a ++ b) where
  noLine := by
    intro hx
    obtain ⟨front, rest, heq⟩ := hx
    rw [List.append_assoc] at heq
    obtain ⟨lead, hb⟩ := exists_of_append_eq_left heq ha
    exact h.noLine ⟨lead, rest, by simp [hb]⟩
  noBlock := by
    intro front rest heq hx
    obtain ⟨lead, hb⟩ := exists_of_append_eq_left heq.symm ha
    exact h.noBlock lead rest hb hx

theorem of_not_mem {text : List Char} (h : '/' ∉ text) : CommentFree text :=
  append (a := []) ⟨by decide, fun front rest heq => by simp at heq⟩ h

end CommentFree

theorem stripFrom_code_of_commentFree {place : Place} {text : List Char} (hp : place = .code)
    (h : CommentFree text) : stripFrom place text = text := by
  fun_induction stripFrom place text <;> try cases hp
  case case1 => rfl
  case case2 rest hclose _ => exact absurd (closesBlock_iff.mp hclose) (h.noBlock [] rest rfl)
  case case3 rest _ ih => rw [ih rfl h.of_cons.of_cons]
  case case4 rest _ => exact absurd ⟨[], rest, rfl⟩ h.noLine
  case case5 c rest _ _ ih => rw [ih rfl h.of_cons]

theorem stripComments_of_commentFree {text : List Char} (h : CommentFree text) :
    stripComments text = text :=
  stripFrom_code_of_commentFree rfl h

/-! ## Texts in which no comment begins -/

/-- No comment begins in a text, closed or not. -/
structure OpenerFree (text : List Char) : Prop where
  noLine : ¬ ['/', '/'] <:+: text
  noBlock : ¬ ['/', '*'] <:+: text

theorem stripFrom_code_cons {c : Char} {rest : List Char}
    (h : c = '/' → rest.head? ≠ some '/' ∧ rest.head? ≠ some '*') :
    stripFrom .code (c :: rest) = c :: stripFrom .code rest := by
  by_cases hc : c = '/'
  · obtain ⟨hline, hblock⟩ := h hc
    subst hc
    cases rest with
    | nil => rfl
    | cons d rest => simp_all [stripFrom]
  · simp [stripFrom, hc]

namespace OpenerFree

variable {a b : List Char}

theorem of_cons {c : Char} (h : OpenerFree (c :: a)) : OpenerFree a where
  noLine := fun ha => h.noLine (ha.trans (List.suffix_cons c a).isInfix)
  noBlock := fun ha => h.noBlock (ha.trans (List.suffix_cons c a).isInfix)

/-- Nothing is stripped in front of a text, unless a slash at the end opens a comment there. -/
theorem stripComments_append (h : OpenerFree a) (hend : a.getLast? ≠ some '/') (b : List Char) :
    stripComments (a ++ b) = a ++ stripComments b := by
  unfold stripComments
  induction a with
  | nil => rfl
  | cons c a ih =>
    cases a with
    | nil =>
      refine stripFrom_code_cons fun hc => ?_
      rw [hc] at hend
      exact absurd rfl hend
    | cons d a =>
      have hcode : c = '/' → (d :: a ++ b).head? ≠ some '/' ∧ (d :: a ++ b).head? ≠ some '*' := by
        intro hc
        subst hc
        constructor
        · intro hd
          cases hd
          exact h.noLine ⟨[], a, rfl⟩
        · intro hd
          cases hd
          exact h.noBlock ⟨[], a, rfl⟩
      rw [List.getLast?_cons_cons] at hend
      rw [List.cons_append, stripFrom_code_cons hcode, ih h.of_cons hend]
      rfl

/-- A text without slashes opens no comment, unless its first character does behind a slash. -/
theorem append (h : OpenerFree a) (hb : '/' ∉ b) (hhead : b.head? ≠ some '*') :
    OpenerFree (a ++ b) where
  noLine := by
    intro hx
    obtain ⟨front, rest, heq⟩ := hx
    rw [show front ++ ['/', '/'] ++ rest = (front ++ ['/']) ++ '/' :: rest by simp] at heq
    obtain ⟨tail, ha, -⟩ := exists_of_append_eq heq hb
    exact h.noLine ⟨front, tail, by simp [ha]⟩
  noBlock := by
    intro hx
    obtain ⟨front, rest, heq⟩ := hx
    rw [show front ++ ['/', '*'] ++ rest = front ++ '/' :: ('*' :: rest) by simp] at heq
    obtain ⟨tail, ha, htail⟩ := exists_of_append_eq heq hb
    cases tail with
    | nil => exact hhead (congrArg List.head? htail).symm
    | cons c tail =>
      obtain ⟨rfl, -⟩ := List.cons.inj htail
      exact h.noBlock ⟨front, tail, by simp [ha]⟩

theorem of_not_mem {text : List Char} (h : '/' ∉ text) : OpenerFree text where
  noLine := fun hx => h (hx.subset List.mem_cons_self)
  noBlock := fun hx => h (hx.subset List.mem_cons_self)

end OpenerFree

/-! ## Closed comments -/

theorem stripFrom_block_cons {c : Char} {rest : List Char} (h : ¬ ['*', '/'] <+: c :: rest) :
    stripFrom .block (c :: rest) = stripFrom .block rest := by
  rw [stripFrom]
  rintro tail rfl rfl
  exact h ⟨tail, rfl⟩

theorem stripFrom_block_append (rest : List Char) : ∀ {body : List Char}, ¬ ['*', '/'] <:+: body →
    stripFrom .block (body ++ '*' :: '/' :: rest) = stripFrom .code rest
  | [], _ => rfl
  | c :: body, h => by
    have hbody : ¬ ['*', '/'] <:+: body :=
      fun hx => h (hx.trans (List.suffix_cons c body).isInfix)
    have hopen : ¬ ['*', '/'] <+: c :: (body ++ '*' :: '/' :: rest) := by
      intro hx
      obtain ⟨rfl, hnext⟩ := List.cons_prefix_cons.mp hx
      cases body with
      | nil => exact absurd (List.cons_prefix_cons.mp hnext).1 (by decide)
      | cons d body =>
        obtain ⟨rfl, -⟩ := List.cons_prefix_cons.mp hnext
        exact h ⟨[], body, rfl⟩
    rw [List.cons_append, stripFrom_block_cons hopen, stripFrom_block_append rest hbody]

theorem stripFrom_line_append {rest : List Char} (hrest : rest = [] ∨ rest.head? = some '\n') :
    ∀ {body : List Char}, '\n' ∉ body → stripFrom .line (body ++ rest) = stripFrom .code rest
  | [], _ => by
    cases rest with
    | nil => rfl
    | cons c rest =>
      obtain rfl : c = '\n' := by simpa using hrest
      rfl
  | c :: body, h => by
    obtain ⟨hc, hbody⟩ := List.ne_and_not_mem_of_not_mem_cons h
    have hstep : stripFrom .line (c :: (body ++ rest)) = stripFrom .line (body ++ rest) := by
      rw [stripFrom]
      exact hc.symm
    rw [List.cons_append, hstep, stripFrom_line_append hrest hbody]

end KitSurface.Header
