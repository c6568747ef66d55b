import KitSurface.Proofs.Header.Alias
import KitSurface.Proofs.Header.Occurrence
/-!
Headers that are lists of typedefs, with other statements between them. A typedef is written as the
words of a base type and a list of declarators (`WrittenTypedef`); every other statement does without
the word `typedef`. The scan takes such a header statement by statement
(`WrittenStatement.ofSource_source_append`), and it passes over a typedef whose base type begins with
the keyword and the tag of the type, as whole words (`BaseType.aliasesTag_text_append`). Main
statement: of the other declarators the first one that declares a name of the type is reported
(`definitionIn?_source`).
-/

namespace KitSurface

namespace Header

/-! ## Base types -/

/-- Texts that begin with words go on alike behind the words. -/
theorem eq_of_isIdentifier_append {a b x y : List Char} (ha : IsIdentifier a) (hb : IsIdentifier b)
    (hx : x.head?.any Text.isWord = false) (hy : y.head?.any Text.isWord = false)
    (h : a ++ x = b ++ y) : a = b ∧ x = y := by
  obtain ⟨htake, hdrop⟩ := Declarator.span_name ha.2 hx
  obtain ⟨htake', hdrop'⟩ := Declarator.span_name hb.2 hy
  rw [h] at htake hdrop
  exact ⟨htake.symm.trans htake', hdrop.symm.trans hdrop'⟩

theorem dropBlanks_append_word {blanks name : List Char} (hblanks : IsBlank blanks)
    (hname : IsIdentifier name) (rest : List Char) :
    Text.dropBlanks (blanks ++ (name ++ rest)) = name ++ rest := by
  rw [dropBlanks_append hblanks]
  exact dropBlanks_eq_self (hname.head?_append rest)

def spaced (words : List (List Char × List Char)) : List Char :=
  words.flatMap fun next => next.1 ++ next.2

theorem head?_spaced_append {words : List (List Char × List Char)} {rest : List Char}
    (h : ∀ next ∈ words, IsGap next.1) (hrest : rest.head?.any Text.isWord = false) :
    (spaced words ++ rest).head?.any Text.isWord = false := by
  cases words with
  | nil => exact hrest
  | cons next words =>
    have hhead := (h next List.mem_cons_self).head?_append (next.2 ++ (spaced words ++ rest))
    simpa [spaced] using hhead

/-- A base type as it is written: words with gaps between them. The last word is not the keyword of a
tag, because the tag belongs to the base type too. -/
structure BaseType where
  first : List Char
  others : List (List Char × List Char)
  named : ∀ word ∈ first :: others.map Prod.snd, IsIdentifier word
  gapped : ∀ next ∈ others, IsGap next.1
  complete : ∀ kind : AggregateKind,
    (first :: others.map Prod.snd).getLast? ≠ some kind.keyword.toList

namespace BaseType

variable {b : BaseType} {tag rest : List Char} {kind : AggregateKind}

def words (b : BaseType) : List (List Char) :=
  b.first :: b.others.map Prod.snd

def text (b : BaseType) : List Char :=
  b.first ++ spaced b.others

def ofTag (kind : AggregateKind) (tag : List Char) (htag : IsIdentifier tag)
    (hkeyword : ∀ kind : AggregateKind, tag ≠ kind.keyword.toList) : BaseType where
  first := kind.keyword.toList
  others := [([' '], tag)]
  named := List.forall_mem_cons.mpr
    ⟨Supplement.isIdentifier_keyword kind, List.forall_mem_singleton.mpr htag⟩
  gapped := List.forall_mem_singleton.mpr isGap_space
  complete kind heq := hkeyword kind (Option.some.inj heq)

theorem of_mem_text {c : Char} (h : c ∈ b.text) : Text.isBlank c = true ∨ Text.isWord c = true := by
  rcases List.mem_append.mp h with h | h
  · exact Or.inr ((b.named _ List.mem_cons_self).2 c h)
  · obtain ⟨next, hnext, hc⟩ := List.mem_flatMap.mp h
    rcases List.mem_append.mp hc with hc | hc
    · exact Or.inl ((b.gapped next hnext).2 c hc)
    · have hword := b.named _ (List.mem_cons_of_mem _ (List.mem_map_of_mem hnext))
      exact Or.inr (hword.2 c hc)

theorem isPlain_text (b : BaseType) : IsPlain b.text := by
  intro c hc
  rcases of_mem_text hc with h | h
  · exact Statement.isPlain_of_isBlank h
  · exact Statement.isPlain_of_isWord h

theorem not_mem_text {c : Char} (hblank : Text.isBlank c = false) (hword : Text.isWord c = false) :
    c ∉ b.text := by
  intro hc
  rcases of_mem_text hc with h | h
  · rw [hblank] at h
    cases h
  · rw [hword] at h
    cases h

/-- **A base type names a tag if its first two words are the keyword and the tag.** -/
theorem aliasesTag_text_append (htag : IsIdentifier tag)
    (hrest : rest.head?.any Text.isWord = false) :
    aliasesTag kind.keyword.toList tag (b.text ++ rest) = true ↔
      [kind.keyword.toList, tag] <+: b.words := by
  have hkeyword : IsIdentifier kind.keyword.toList := Supplement.isIdentifier_keyword kind
  obtain ⟨first, others, named, gapped, complete⟩ := b
  obtain ⟨hfirst, hothers⟩ := List.forall_mem_cons.mp named
  rw [aliasesTag_iff htag, text, words]
  constructor
  · intro h
    obtain ⟨gap, rest', hgap, hrest', heq⟩ := h
    obtain ⟨rfl, htail⟩ := eq_of_isIdentifier_append hfirst hkeyword
      (head?_spaced_append gapped hrest) (hgap.head?_append (tag ++ rest')) (by simpa using heq)
    cases others with
    | nil => exact absurd rfl (complete kind)
    | cons next others =>
      -- Behind the keyword both texts have a gap and a word.
      obtain ⟨-, hgapped⟩ := List.forall_mem_cons.mp gapped
      have hnext : IsIdentifier next.2 := hothers _ List.mem_cons_self
      have hwords : next.2 ++ (spaced others ++ rest) = tag ++ rest' := by
        rw [← dropBlanks_append_word (gapped next List.mem_cons_self).2 hnext,
          ← dropBlanks_append_word hgap.2 htag, ← htail]
        simp [spaced]
      obtain ⟨rfl, -⟩ := eq_of_isIdentifier_append hnext htag
        (head?_spaced_append hgapped hrest) hrest' hwords
      exact ⟨others.map Prod.snd, rfl⟩
  · intro h
    obtain ⟨last, heq⟩ := h
    obtain ⟨rfl, htail⟩ := List.cons.inj heq
    cases others with
    | nil => cases htail
    | cons next others =>
      obtain ⟨rfl, -⟩ := List.cons.inj htail
      obtain ⟨hgap, hgapped⟩ := List.forall_mem_cons.mp gapped
      exact ⟨next.1, spaced others ++ rest, hgap, head?_spaced_append hgapped hrest,
        by simp [spaced]⟩

end BaseType

/-! ## Statements -/

/-- A typedef without a body as it is written: what stands before and behind the word `typedef`, the
base type and the declarators. -/
structure WrittenTypedef where
  lead : List Char
  gap : List Char
  base : BaseType
  list : DeclaratorList
  isBlank : IsBlank lead
  isGap : IsGap gap
  isApart : list.first.before ≠ []

namespace WrittenTypedef

variable {d : WrittenTypedef}

/-- What stands behind the word `typedef`. -/
def body (d : WrittenTypedef) : List Char :=
  d.base.text ++ d.list.text

def text (d : WrittenTypedef) : List Char :=
  d.lead ++ (Statement.typedefWord ++ d.gap ++ d.body)

def withSpaces (base : BaseType) (list : DeclaratorList) (h : list.first.before ≠ []) :
    WrittenTypedef where
  lead := [' ']
  gap := [' ']
  base := base
  list := list
  isBlank := isGap_space.2
  isGap := isGap_space
  isApart := h

theorem isPlain_body (d : WrittenTypedef) : IsPlain d.body :=
  List.forall_mem_append.mpr ⟨d.base.isPlain_text, d.list.isPlain_text⟩

theorem ofSource_text_append (d : WrittenTypedef) (rest : List Char) :
    Statement.ofSource (d.text ++ ';' :: rest) = .ofTypedef d.body :: Statement.ofSource rest := by
  have hlead : (d.lead.getLast?.or none).any Text.isWord = false := d.isBlank.getLast?_or rfl
  have hhead : d.body.head?.any Text.isBlank = false := by
    rw [body, BaseType.text, List.append_assoc]
    exact (d.base.named _ List.mem_cons_self).head?_append _
  have hwritten : (Statement.ofTypedef d.body).IsWritten (d.lead.getLast?.or none)
      (Statement.typedefWord ++ d.gap ++ d.body) :=
    ⟨hlead, d.isPlain_body, hhead, d.gap, d.isGap, rfl⟩
  calc Statement.ofSource (d.text ++ ';' :: rest)
      = Statement.scan false none
          (d.lead ++ (Statement.typedefWord ++ d.gap ++ d.body ++ ';' :: rest)) := by
        rw [text, List.append_assoc]
        rfl
    _ = Statement.scan false (d.lead.getLast?.or none)
          (Statement.typedefWord ++ d.gap ++ d.body ++ ';' :: rest) :=
        Statement.scan_blanks d.isBlank _
    _ = .ofTypedef d.body :: Statement.scan false (some ';') rest := hwritten.scan rest
    _ = .ofTypedef d.body :: Statement.ofSource rest := by
        rw [Statement.scan_eq_ofSource (by decide)]

theorem ofList_body (d : WrittenTypedef) :
    Declarator.ofList d.body = d.list.all.map WrittenDeclarator.declarator := by
  refine d.list.ofList_append (BaseType.not_mem_text (by decide) (by decide)) ?_
    (absurd · d.isApart)
  intro hstar
  have hmem : '*' ∈ d.base.text.reverse :=
    (List.dropWhile_suffix Text.isBlank).subset (List.mem_of_mem_head? hstar)
  exact BaseType.not_mem_text (by decide) (by decide) (List.mem_reverse.mp hmem)

theorem aliasesTag_body (d : WrittenTypedef) {kind : AggregateKind} {tag : List Char}
    (htag : IsIdentifier tag) : aliasesTag kind.keyword.toList tag d.body = true ↔
      [kind.keyword.toList, tag] <+: d.base.words :=
  BaseType.aliasesTag_text_append htag (d.list.isWord_head?_text d.isApart)

end WrittenTypedef

/-- A statement without braces as it is written: a typedef, or a statement without that word. -/
inductive WrittenStatement where
  | typedef (d : WrittenTypedef)
  | other (text : List Char) (free : ¬ ContainsWord Statement.typedefWord text)

namespace WrittenStatement

def text : WrittenStatement → List Char
  | typedef d => d.text
  | other text _ => text

/-- What the scan finds of a statement. -/
def found : WrittenStatement → List Statement
  | typedef d => [.ofTypedef d.body]
  | other _ _ => []

/-- The text of a header that consists of some statements. -/
def source (statements : List WrittenStatement) : List Char :=
  statements.flatMap fun s => s.text ++ [';']

theorem ofSource_text_append (s : WrittenStatement) (hbrace : '\x7d' ∉ s.text) (rest : List Char) :
    Statement.ofSource (s.text ++ ';' :: rest) = s.found ++ Statement.ofSource rest := by
  cases s with
  | typedef d => exact d.ofSource_text_append rest
  | other text free =>
    have hword : ¬ ContainsWord Statement.typedefWord (text ++ [';']) :=
      fun h => free (h.of_concat (by decide) (by decide))
    have hclose : '\x7d' ∉ text ++ [';'] := by simpa [WrittenStatement.text] using hbrace
    have hrest : Statement.scan false none (';' :: rest) = Statement.ofSource rest := by
      rw [Statement.scan_skip (by decide) (by decide), Statement.scan_eq_ofSource (by decide)]
    show Statement.ofSource (text ++ ';' :: rest) = Statement.ofSource rest
    rw [Statement.ofSource_append (by decide), Statement.ofSource_eq_nil hword hclose, hrest]
    rfl

/-- **A header is scanned statement by statement.** -/
theorem ofSource_source_append {rest : List Char} : ∀ {statements : List WrittenStatement},
    '\x7d' ∉ source statements → Statement.ofSource (source statements ++ rest) =
      statements.flatMap found ++ Statement.ofSource rest
  | [], _ => rfl
  | s :: statements, h => by
    have hsource : source (s :: statements) = s.text ++ ';' :: source statements := by
      simp [source]
    rw [hsource, List.mem_append, List.mem_cons, not_or, not_or] at h
    obtain ⟨hs, -, hstatements⟩ := h
    calc Statement.ofSource (source (s :: statements) ++ rest)
        = Statement.ofSource (s.text ++ ';' :: (source statements ++ rest)) := by
          rw [hsource, List.append_assoc, List.cons_append]
      _ = s.found ++ Statement.ofSource (source statements ++ rest) := s.ofSource_text_append hs _
      _ = s.found ++ (statements.flatMap found ++ Statement.ofSource rest) := by
          rw [ofSource_source_append hstatements]
      _ = (s :: statements).flatMap found ++ Statement.ofSource rest := by
          rw [List.flatMap_cons, List.append_assoc]

end WrittenStatement

end Header

namespace Supplement

open Header

variable {t : Supplement}

instance (t : Supplement) (d : WrittenDeclarator) : Decidable (t.Declares d) :=
  inferInstanceAs (Decidable ('*' ∉ d.before ∧ d.name = t.typedefName.toList ∨
    '*' ∈ d.before ∧ d.name = t.pointerName.toList))

/-- The declarators of a statement, except for a typedef whose base type begins with the keyword and
the tag of the type. -/
def foreignDeclared (t : Supplement) : WrittenStatement → List WrittenDeclarator
  | .typedef d =>
    if [t.layout.kind.keyword.toList, t.tag.toList] <+: d.base.words then [] else d.list.all
  | .other _ _ => []

theorem foreignDeclarators_found (htag : IsIdentifier t.tag.toList) (s : WrittenStatement) :
    s.found.flatMap t.foreignDeclarators =
      (t.foreignDeclared s).map WrittenDeclarator.declarator := by
  cases s with
  | other text free => rfl
  | typedef d =>
    rw [WrittenStatement.found, List.flatMap_singleton, foreignDeclarators, foreignDeclared]
    by_cases h : [t.layout.kind.keyword.toList, t.tag.toList] <+: d.base.words
    · rw [if_pos h, if_pos ((d.aliasesTag_body htag).mpr h)]
      rfl
    · rw [if_neg h, if_neg (mt (d.aliasesTag_body htag).mp h), d.ofList_body]

theorem nameDeclared?_declarator (d : WrittenDeclarator) : t.nameDeclared? d.declarator =
    if t.Declares d then some (String.ofList d.name) else none := by
  by_cases hd : t.Declares d
  · rw [if_pos hd]
    rcases hd with ⟨hstar, hname⟩ | ⟨hstar, hname⟩
    · simp [nameDeclared?, WrittenDeclarator.declarator, hstar, hname]
    · simp [nameDeclared?, WrittenDeclarator.declarator, hstar, hname]
  · rw [if_neg hd]
    exact nameDeclared?_eq_none_iff.mpr hd

theorem findSome?_nameDeclared? : ∀ ds : List WrittenDeclarator,
    (ds.map WrittenDeclarator.declarator).findSome? t.nameDeclared? =
      (ds.find? fun d => t.Declares d).map fun d => String.ofList d.name
  | [] => rfl
  | d :: ds => by
    rw [List.map_cons, List.findSome?_cons, nameDeclared?_declarator, List.find?_cons]
    by_cases hd : t.Declares d
    · simp [hd]
    · simpa [hd] using findSome?_nameDeclared? ds

/-- **Of a list of typedefs the first declarator that declares a name of the type is reported**,
apart from the typedefs of the type's own tag. -/
theorem definitionIn?_source (t : Supplement) (statements : List WrittenStatement)
    (blanks : List Char) (htag : IsIdentifier t.tag.toList) (hblanks : IsBlank blanks)
    (hopen : '\x7b' ∉ WrittenStatement.source statements)
    (hclose : '\x7d' ∉ WrittenStatement.source statements)
    (hfree : CommentFree (WrittenStatement.source statements)) :
    t.definitionIn? (String.ofList (WrittenStatement.source statements ++ blanks)) =
      ((statements.flatMap t.foreignDeclared).find? fun d => t.Declares d).map
        fun d => String.ofList d.name := by
  have htext : CommentFree (WrittenStatement.source statements ++ blanks) :=
    hfree.append (hblanks.not_mem (by decide))
  have hbody : definesTag t.layout.kind.keyword.toList t.tag.toList none
      (WrittenStatement.source statements ++ blanks) = false := by
    have hbrace : '\x7b' ∉ WrittenStatement.source statements ++ blanks := by
      rw [List.mem_append, not_or]
      exact ⟨hopen, hblanks.not_mem (by decide)⟩
    exact definesTag_append (a := []) hbrace
  have hscan : Statement.ofSource (WrittenStatement.source statements ++ blanks) =
      statements.flatMap WrittenStatement.found := by
    have hnil : Statement.ofSource blanks = [] := Statement.scan_eq_nil (hblanks.not_mem (by decide))
    rw [WrittenStatement.ofSource_source_append hclose, hnil, List.append_nil]
  have hdeclarators : (statements.flatMap WrittenStatement.found).flatMap t.foreignDeclarators =
      (statements.flatMap t.foreignDeclared).map WrittenDeclarator.declarator := by
    rw [List.flatMap_assoc, List.map_flatMap]
    exact List.flatMap_congr fun s _ => foreignDeclarators_found htag s
  rw [definitionIn?, String.toList_ofList, stripComments_of_commentFree htext, definitionInCode?,
    hbody, if_neg Bool.false_ne_true, typedefIn?, hscan, hdeclarators, findSome?_nameDeclared?]

/-- Behind an alias of the type's own tag a typedef of another tag is found at its second
declarator. -/
theorem definitionIn?_source_gate : ∃ statements : List WrittenStatement,
    WrittenStatement.source statements = ("extern int Count; typedef union _KGDTENTRY64 KGDTENTRY64;" ++
      " typedef struct _KGDTENTRY64_NATIVE GATE, *PKGDTENTRY64;").toList ∧
    IsIdentifier segmentDescriptor.tag.toList ∧ IsBlank ['\n'] ∧
    '\x7b' ∉ WrittenStatement.source statements ∧ '\x7d' ∉ WrittenStatement.source statements ∧
    CommentFree (WrittenStatement.source statements) ∧
    segmentDescriptor.definitionIn?
      (String.ofList (WrittenStatement.source statements ++ ['\n'])) = some "PKGDTENTRY64" := by
  let count : WrittenStatement := .other "extern int Count".toList
    (not_containsWord_of_not_mem (show 'y' ∈ Statement.typedefWord by decide) (by decide))
  let ownBase := BaseType.ofTag .union "_KGDTENTRY64".toList (by decide) fun kind => by
    cases kind <;> decide
  let otherBase := BaseType.ofTag .struct "_KGDTENTRY64_NATIVE".toList (by decide) fun kind => by
    cases kind <;> decide
  let name : WrittenDeclarator :=
    ⟨[' '], "KGDTENTRY64".toList, [], WrittenDeclarator.starred_space, by decide, isBlank_nil⟩
  let gate : WrittenDeclarator :=
    ⟨[' '], "GATE".toList, [], WrittenDeclarator.starred_space, by decide, isBlank_nil⟩
  let pointer : WrittenDeclarator :=
    ⟨[' ', '*'], "PKGDTENTRY64".toList, [], WrittenDeclarator.starred_pointer, by decide, isBlank_nil⟩
  let statements : List WrittenStatement := [count,
    .typedef (.withSpaces ownBase ⟨name, []⟩ (List.cons_ne_nil _ _)),
    .typedef (.withSpaces otherBase ⟨gate, [pointer]⟩ (List.cons_ne_nil _ _))]
  have htag : IsIdentifier segmentDescriptor.tag.toList := by decide
  have hblanks : IsBlank ['\n'] := by decide
  have hopen : '\x7b' ∉ WrittenStatement.source statements := by decide
  have hclose : '\x7d' ∉ WrittenStatement.source statements := by decide
  have hcode : CommentFree (WrittenStatement.source statements) := .of_not_mem (by decide)
  have hfound := definitionIn?_source segmentDescriptor statements ['\n'] htag hblanks hopen hclose
    hcode
  exact ⟨statements, by decide, htag, hblanks, hopen, hclose, hcode, hfound.trans (by decide)⟩

end Supplement

end KitSurface
