import KitSurface.Proofs.Header.Comment
/-!
The lexemes of C source. A source is a sequence of characters of tokens and of the space between
them, literals in quotes, and closed comments (`IsSource`), and its code is its text with one space
for every comment. The scan for comments knows no literals, so that a comment can open inside one
(`OpensIn`). Main statement: stripping the comments from the text of a source leaves its code exactly
if no comment opens inside a literal (`stripComments_textOf_iff`).
-/

namespace KitSurface.Header

/-! ## Lexemes -/

/-- The quotes around a character and around a string. -/
inductive Quote where
  | single
  | double
  deriving DecidableEq, Repr

def Quote.mark : Quote → Char
  | single => '\x27'
  | double => '"'

/-- What stands between the quotes of a literal. -/
inductive LiteralPart where
  | char (c : Char)
  /-- A backslash and the character that it gives a meaning of its own. -/
  | escape (c : Char)
  deriving DecidableEq, Repr

namespace LiteralPart

def text : LiteralPart → List Char
  | char c => [c]
  | escape c => ['\\', c]

/-- A character without a backslash neither ends the literal or its line, nor begins an escape. -/
def FitsIn (quote : Quote) : LiteralPart → Prop
  | char c => c ≠ quote.mark ∧ c ≠ '\\' ∧ c ≠ '\n'
  | escape _ => True

instance (quote : Quote) : DecidablePred (FitsIn quote)
  | char c => inferInstanceAs (Decidable (c ≠ quote.mark ∧ c ≠ '\\' ∧ c ≠ '\n'))
  | escape _ => .isTrue trivial

end LiteralPart

/-- A lexical element of C source. -/
inductive Lexeme where
  /-- A character of a token or of the space between tokens. -/
  | plain (c : Char)
  /-- A string or a character in quotes. -/
  | literal (quote : Quote) (parts : List LiteralPart)
  | blockComment (body : List Char)
  | lineComment (body : List Char)
  deriving DecidableEq, Repr

namespace Lexeme

def text : Lexeme → List Char
  | plain c => [c]
  | literal quote parts => quote.mark :: (parts.flatMap LiteralPart.text ++ [quote.mark])
  | blockComment body => '/' :: '*' :: (body ++ ['*', '/'])
  | lineComment body => '/' :: '/' :: body

/-- A lexeme as the compiler sees it: one space for a comment. -/
def code : Lexeme → List Char
  | blockComment _ | lineComment _ => [' ']
  | lexeme => lexeme.text

/-- A quote begins a literal, a block comment ends at its first closer, and a line comment is on one
line, to which no backslash joins the next one. -/
def IsWellFormed : Lexeme → Prop
  | plain c => c ≠ Quote.single.mark ∧ c ≠ Quote.double.mark
  | literal quote parts => ∀ part ∈ parts, part.FitsIn quote
  | blockComment body => ¬ ['*', '/'] <:+: body
  | lineComment body => '\n' ∉ body ∧ body.getLast? ≠ some '\\'

/-- A lexeme ends where the rest begins: a slash of a token opens no comment with it, and a line
comment goes on to the end of the line. -/
def EndsBefore (rest : List Char) : Lexeme → Prop
  | plain c => c = '/' → rest.head? ≠ some '/' ∧ rest.head? ≠ some '*'
  | lineComment _ => rest = [] ∨ rest.head? = some '\n'
  | literal _ _ | blockComment _ => True

instance : DecidablePred IsWellFormed
  | plain c => inferInstanceAs (Decidable (c ≠ Quote.single.mark ∧ c ≠ Quote.double.mark))
  | literal quote parts => inferInstanceAs (Decidable (∀ part ∈ parts, part.FitsIn quote))
  | blockComment _ => decidable_of_iff _ (not_congr closesBlock_iff)
  | lineComment body => inferInstanceAs (Decidable ('\n' ∉ body ∧ body.getLast? ≠ some '\\'))

instance (rest : List Char) : DecidablePred (EndsBefore rest)
  | plain c => inferInstanceAs (Decidable (c = '/' → rest.head? ≠ some '/' ∧ rest.head? ≠ some '*'))
  | lineComment _ => inferInstanceAs (Decidable (rest = [] ∨ rest.head? = some '\n'))
  | literal _ _ => .isTrue trivial
  | blockComment _ => .isTrue trivial

end Lexeme

def textOf (source : List Lexeme) : List Char :=
  source.flatMap Lexeme.text

/-- The text of a sequence of lexemes with one space for every comment. -/
def codeOf (source : List Lexeme) : List Char :=
  source.flatMap Lexeme.code

/-- Every lexeme is well formed and ends where the next one begins. -/
def IsSource : List Lexeme → Prop
  | [] => True
  | lexeme :: rest => lexeme.IsWellFormed ∧ lexeme.EndsBefore (textOf rest) ∧ IsSource rest

instance decidableIsSource : DecidablePred IsSource
  | [] => .isTrue trivial
  | lexeme :: rest =>
    have := decidableIsSource rest
    inferInstanceAs (Decidable (lexeme.IsWellFormed ∧ lexeme.EndsBefore (textOf rest) ∧ IsSource rest))

/-- A comment opens inside a text in front of another one. A block comment opens only if it is closed
somewhere, in the text or behind it. -/
def OpensIn (rest text : List Char) : Prop :=
  ∃ front back, text = front ++ '/' :: '/' :: back ∨
    text = front ++ '/' :: '*' :: back ∧ ['*', '/'] <:+: back ++ rest

/-- No comment opens inside a literal. -/
def LiteralsOpenNoComment (source : List Lexeme) : Prop :=
  ∀ front quote parts back, source = front ++ .literal quote parts :: back →
    ¬ OpensIn (textOf back) (Lexeme.literal quote parts).text

/-! ## Where a comment opens -/

/-- A comment begins at the front of a text. -/
def beginsComment : List Char → Bool
  | '/' :: '/' :: _ => true
  | '/' :: '*' :: rest => closesBlock rest
  | _ => false

variable {text rest : List Char} {c : Char}

theorem head?_stripFrom_of_beginsComment (h : beginsComment text = true) :
    (stripFrom .code text).head? = some ' ' := by
  unfold beginsComment at h
  split at h
  · rfl
  · rw [stripFrom, if_pos h]
    rfl
  · cases h

theorem slash_of_beginsComment (h : beginsComment text = true) : text.head? = some '/' := by
  unfold beginsComment at h
  split at h
  · rfl
  · rfl
  · cases h

theorem stripFrom_of_not_beginsComment (h : beginsComment (c :: rest) = false) :
    stripFrom .code (c :: rest) = c :: stripFrom .code rest := by
  by_cases hslash : c = '/'
  · subst hslash
    cases rest with
    | nil => rfl
    | cons d rest =>
      by_cases hline : d = '/'
      · subst hline
        cases h
      · by_cases hblock : d = '*'
        · -- The opener of a comment without a closer is text.
          subst hblock
          have hopen : closesBlock rest = false := h
          rw [stripFrom, if_neg (by simp [hopen])]
          rfl
        · exact stripFrom_code_cons fun _ => ⟨by simpa using hline, by simpa using hblock⟩
  · exact stripFrom_code_cons fun hc => absurd hc hslash

theorem getLast?_ne_of_cons {z : Char} (h : (c :: text).getLast? ≠ some z) :
    text.getLast? ≠ some z := by
  cases text with
  | nil => simp
  | cons d text => rwa [List.getLast?_cons_cons] at h

theorem opensIn_cons_iff (hend : (c :: text).getLast? ≠ some '/') : OpensIn rest (c :: text) ↔
    beginsComment (c :: (text ++ rest)) = true ∨ OpensIn rest text := by
  constructor
  · intro h
    obtain ⟨front, back, h⟩ := h
    cases front with
    | nil =>
      left
      rcases h with h | ⟨h, hclose⟩
      · obtain ⟨rfl, rfl⟩ := List.cons.inj h
        rfl
      · obtain ⟨rfl, rfl⟩ := List.cons.inj h
        exact closesBlock_iff.mpr hclose
    | cons d front =>
      right
      rcases h with h | ⟨h, hclose⟩
      · exact ⟨front, back, Or.inl (List.cons.inj h).2⟩
      · exact ⟨front, back, Or.inr ⟨(List.cons.inj h).2, hclose⟩⟩
  · intro h
    rcases h with h | ⟨front, back, h⟩
    · have hslash : c = '/' := by simpa using slash_of_beginsComment h
      subst hslash
      cases text with
      | nil => exact absurd rfl hend
      | cons d text =>
        unfold beginsComment at h
        split at h
        · next heq =>
          obtain ⟨rfl, -⟩ := List.cons.inj (List.cons.inj heq).2
          exact ⟨[], text, Or.inl rfl⟩
        · next heq =>
          obtain ⟨rfl, rfl⟩ := List.cons.inj (List.cons.inj heq).2
          exact ⟨[], text, Or.inr ⟨rfl, closesBlock_iff.mp h⟩⟩
        · cases h
    · refine ⟨c :: front, back, h.imp (congrArg (c :: ·)) (And.imp_left (congrArg (c :: ·)))⟩

theorem stripComments_append_of_not_opensIn (hend : text.getLast? ≠ some '/')
    (h : ¬ OpensIn rest text) : stripComments (text ++ rest) = text ++ stripComments rest := by
  unfold stripComments
  induction text with
  | nil => rfl
  | cons c text ih =>
    rw [opensIn_cons_iff hend, not_or, Bool.not_eq_true] at h
    rw [List.cons_append, stripFrom_of_not_beginsComment h.1, ih (getLast?_ne_of_cons hend) h.2]
    rfl

theorem not_isPrefix_stripComments (hend : text.getLast? ≠ some '/') (h : OpensIn rest text) :
    ¬ text <+: stripComments (text ++ rest) := by
  unfold stripComments
  induction text with
  | nil =>
    obtain ⟨front, back, h⟩ := h
    simp at h
  | cons c text ih =>
    cases hbegins : beginsComment (c :: (text ++ rest)) with
    | true =>
      -- A space stands where the comment opens.
      intro hprefix
      obtain ⟨tail, heq⟩ := hprefix
      have hhead := head?_stripFrom_of_beginsComment hbegins
      rw [← List.cons_append, ← heq] at hhead
      obtain rfl : c = ' ' := by simpa using hhead
      exact absurd (slash_of_beginsComment hbegins) (by simp)
    | false =>
      have hopens : OpensIn rest text := by
        rw [opensIn_cons_iff hend, hbegins] at h
        exact h.resolve_left (by decide)
      rw [List.cons_append, stripFrom_of_not_beginsComment hbegins, List.cons_prefix_cons]
      exact fun hprefix => ih (getLast?_ne_of_cons hend) hopens hprefix.2

/-! ## Lexeme by lexeme -/

theorem stripComments_blockComment {body : List Char} (h : ¬ ['*', '/'] <:+: body) :
    stripComments ((Lexeme.blockComment body).text ++ rest) = ' ' :: stripComments rest := by
  have hclose : closesBlock (body ++ '*' :: '/' :: rest) = true :=
    closesBlock_iff.mpr ⟨body, rest, by simp⟩
  have htext : (Lexeme.blockComment body).text ++ rest =
      '/' :: '*' :: (body ++ '*' :: '/' :: rest) := by
    simp [Lexeme.text]
  rw [htext, stripComments, stripFrom, if_pos hclose, stripFrom_block_append rest h]
  rfl

theorem stripComments_lineComment {body : List Char} (h : '\n' ∉ body)
    (hrest : rest = [] ∨ rest.head? = some '\n') :
    stripComments ((Lexeme.lineComment body).text ++ rest) = ' ' :: stripComments rest := by
  have hline := stripFrom_line_append hrest h
  exact congrArg (' ' :: ·) hline

theorem getLast?_literal (quote : Quote) (parts : List LiteralPart) :
    (Lexeme.literal quote parts).text.getLast? ≠ some '/' := by
  rw [Lexeme.text, ← List.cons_append, List.getLast?_concat]
  cases quote <;> decide

theorem stripComments_text_append {lexeme : Lexeme} (hform : lexeme.IsWellFormed)
    (hends : lexeme.EndsBefore rest)
    (hopen : ∀ quote parts, lexeme = .literal quote parts → ¬ OpensIn rest lexeme.text) :
    stripComments (lexeme.text ++ rest) = lexeme.code ++ stripComments rest := by
  cases lexeme with
  | plain c => exact stripFrom_code_cons hends
  | literal quote parts =>
    exact stripComments_append_of_not_opensIn (getLast?_literal quote parts) (hopen quote parts rfl)
  | blockComment body => exact stripComments_blockComment hform
  | lineComment body => exact stripComments_lineComment hform.1 hends

theorem literalsOpenNoComment_cons_iff {lexeme : Lexeme} {source : List Lexeme} :
    LiteralsOpenNoComment (lexeme :: source) ↔
      (∀ quote parts, lexeme = .literal quote parts → ¬ OpensIn (textOf source) lexeme.text) ∧
        LiteralsOpenNoComment source := by
  constructor
  · intro h
    refine ⟨?_, fun front quote parts back heq => ?_⟩
    · rintro quote parts rfl
      exact h [] quote parts source rfl
    · exact h (lexeme :: front) quote parts back (by rw [heq, List.cons_append])
  · intro h front quote parts back heq
    cases front with
    | nil =>
      obtain ⟨rfl, rfl⟩ := List.cons.inj heq
      exact h.1 quote parts rfl
    | cons _ front => exact h.2 front quote parts back (List.cons.inj heq).2

/-- **Stripping the comments from a source leaves its code exactly if no comment opens inside a
literal.** -/
theorem stripComments_textOf_iff {source : List Lexeme} (h : IsSource source) :
    stripComments (textOf source) = codeOf source ↔ LiteralsOpenNoComment source := by
  induction source with
  | nil => exact iff_of_true rfl fun front _ _ _ heq => by simp at heq
  | cons lexeme source ih =>
    obtain ⟨hform, hends, hsource⟩ := h
    rw [literalsOpenNoComment_cons_iff, ← ih hsource]
    have htext : textOf (lexeme :: source) = lexeme.text ++ textOf source := rfl
    have hcode : codeOf (lexeme :: source) = lexeme.code ++ codeOf source := rfl
    rw [htext, hcode]
    by_cases hopen : ∀ quote parts, lexeme = .literal quote parts →
        ¬ OpensIn (textOf source) lexeme.text
    · rw [stripComments_text_append hform hends hopen, List.append_cancel_left_eq, and_iff_right hopen]
    · refine iff_of_false (fun heq => hopen ?_) fun hboth => hopen hboth.1
      -- The code of a literal is its text, which stripping does not leave.
      rintro quote parts rfl hin
      exact not_isPrefix_stripComments (getLast?_literal quote parts) hin ⟨codeOf source, heq.symm⟩

/-- A string with the opener of a comment that nothing closes, between two comments with quotes. -/
def openerInString : List Lexeme :=
  [.blockComment "\" //".toList, .literal .double [.escape '"', .char '/', .char '*'], .plain ';',
   .lineComment " it's".toList]

theorem stripComments_openerInString : IsSource openerInString ∧
    stripComments (textOf openerInString) = codeOf openerInString ∧
    LiteralsOpenNoComment openerInString := by
  have h : IsSource openerInString := by decide +kernel
  have hstrip : stripComments (textOf openerInString) = codeOf openerInString := by decide +kernel
  exact ⟨h, hstrip, (stripComments_textOf_iff h).mp hstrip⟩

/-- A string with the two slashes of a line comment, in front of the definition of a tag. -/
def slashesInString : List Lexeme :=
  "char Mark[] = ".toList.map .plain ++ .literal .double [.char '/', .char '/'] ::
    "; union _KGDTENTRY64 \x7b int Low; \x7d;".toList.map .plain

/-- What stands behind the slashes is lost up to the end of the line. -/
theorem not_stripComments_slashesInString :
    ¬ ∀ source : List Lexeme, IsSource source → stripComments (textOf source) = codeOf source := by
  intro h
  have hstrip := h slashesInString (by decide +kernel)
  have hlost : stripComments (textOf slashesInString) = "char Mark[] = \" ".toList := by
    decide +kernel
  rw [hlost] at hstrip
  exact absurd hstrip (by decide +kernel)

end KitSurface.Header
