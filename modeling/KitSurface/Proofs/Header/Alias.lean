import KitSurface.Proofs.Header.Declarator
/-!
Aliases of a type's own tag. Behind a semicolon, or at the front of a header, such an alias is a
typedef and no conflict. Behind a closing brace the scan takes it for the declarators of the body
that the brace closes, so that the names in it do conflict (`definitionIn?_append_ownAlias`). Main
statement: an alias of the own tag is no conflict, unless a closing brace stands before it and it
declares the typedef name or, with a star, the pointer typedef name
(`definitionIn?_ownAlias_eq_none_iff`).
-/

namespace KitSurface

namespace Header

/-- A typedef of a tag as it is written: what stands behind the word `typedef` and behind the
keyword, and the declarators. -/
structure TagAlias where
  gap : List Char
  gap' : List Char
  list : DeclaratorList
  isGap : IsGap gap
  isGap' : IsGap gap'
  isApart : list.first.before ≠ []

namespace TagAlias

variable {a : TagAlias} {keyword tag : List Char}

def base (a : TagAlias) (keyword tag : List Char) : List Char :=
  keyword ++ a.gap' ++ tag

def front (a : TagAlias) (keyword tag : List Char) : List Char :=
  Statement.typedefWord ++ a.gap ++ (a.base keyword tag ++ a.list.text)

def single (name : List Char) (h : IsIdentifier name) : TagAlias where
  gap := [' ']
  gap' := [' ']
  list := ⟨⟨[' '], name, [], WrittenDeclarator.starred_space, h, isBlank_nil⟩, []⟩
  isGap := by decide
  isGap' := by decide
  isApart := List.cons_ne_nil _ _

theorem of_mem_front (hk : IsIdentifier keyword) (ht : IsIdentifier tag) {c : Char}
    (h : c ∈ a.front keyword tag) :
    c = ',' ∨ c = '*' ∨ Text.isBlank c = true ∨ Text.isWord c = true := by
  have hword : IsIdentifier Statement.typedefWord := by decide
  simp only [front, base, List.mem_append, or_assoc] at h
  rcases h with h | h | h | h | h | h
  · exact Or.inr (Or.inr (Or.inr (hword.2 c h)))
  · exact Or.inr (Or.inr (Or.inl (a.isGap.2 c h)))
  · exact Or.inr (Or.inr (Or.inr (hk.2 c h)))
  · exact Or.inr (Or.inr (Or.inl (a.isGap'.2 c h)))
  · exact Or.inr (Or.inr (Or.inr (ht.2 c h)))
  · exact DeclaratorList.of_mem_text h

theorem not_mem_front (hk : IsIdentifier keyword) (ht : IsIdentifier tag) :
    '/' ∉ a.front keyword tag ∧ '\x7b' ∉ a.front keyword tag ∧ IsPlain (a.front keyword tag) := by
  refine ⟨fun h => ?_, fun h => ?_, fun c hc => ?_⟩
  · rcases of_mem_front hk ht h with h | h | h | h <;> revert h <;> decide
  · rcases of_mem_front hk ht h with h | h | h | h <;> revert h <;> decide
  · rcases of_mem_front hk ht hc with rfl | rfl | h | h
    · rfl
    · rfl
    · exact Statement.isPlain_of_isBlank h
    · exact Statement.isPlain_of_isWord h

theorem isWritten (hk : IsIdentifier keyword) (ht : IsIdentifier tag) {before : Option Char}
    (hb : before.any Text.isWord = false) :
    (Statement.ofTypedef (a.base keyword tag ++ a.list.text)).IsWritten before
      (a.front keyword tag) := by
  refine ⟨hb, fun c hc => ?_, ?_, a.gap, a.isGap, rfl⟩
  · exact (not_mem_front hk ht).2.2 c (List.mem_append_right _ hc)
  · rw [base, List.append_assoc, List.append_assoc]
    exact hk.head?_append _

/-- The statements of a header with an alias behind it. The alias is a typedef, unless a closing
brace stands before it. -/
theorem ofSource_append (hk : IsIdentifier keyword) (ht : IsIdentifier tag) {pre : List Char}
    (hend : ∀ c, pre.getLast? = some c → c = ';' ∨ c = '\x7d') :
    Statement.ofSource (pre ++ '\n' :: (a.front keyword tag ++ [';'])) = Statement.ofSource pre ++
      [if pre.getLast? = some '\x7d' then .afterBody ('\n' :: a.front keyword tag)
        else .ofTypedef (a.base keyword tag ++ a.list.text)] := by
  have htypedef : Statement.scan false (some '\n') (a.front keyword tag ++ [';']) =
      [.ofTypedef (a.base keyword tag ++ a.list.text)] :=
    (isWritten hk ht (by decide)).scan []
  rcases List.eq_nil_or_concat pre with rfl | ⟨front, z, rfl⟩
  · rw [List.nil_append, Statement.ofSource, Statement.scan_skip (by decide) (by decide), htypedef]
    rfl
  · rw [List.concat_eq_append] at hend ⊢
    rw [List.getLast?_concat] at hend ⊢
    rw [List.append_assoc, List.singleton_append]
    rcases hend z rfl with rfl | rfl
    · rw [Statement.ofSource_append (by decide), Statement.scan_skip (by decide) (by decide),
        Statement.scan_skip (by decide) (by decide), htypedef]
      rfl
    · -- The brace begins a statement of its own, and the alias is the text of it.
      have hwritten : (Statement.afterBody ('\n' :: a.front keyword tag)).IsWritten none
          ('\x7d' :: '\n' :: a.front keyword tag) :=
        ⟨rfl, List.forall_mem_cons.mpr ⟨rfl, (not_mem_front hk ht).2.2⟩⟩
      rw [Statement.ofSource_append (by decide)]
      exact congrArg _ (hwritten.scan [])

theorem aliasesTag_base (ht : IsIdentifier tag) :
    aliasesTag keyword tag (a.base keyword tag ++ a.list.text) = true := by
  exact aliasesTag_of_eq a.isGap' ht (a.list.isWord_head?_text a.isApart)

theorem ofList_front (hk : IsIdentifier keyword) (ht : IsIdentifier tag) :
    Declarator.ofList ('\n' :: a.front keyword tag) =
      a.list.all.map WrittenDeclarator.declarator := by
  have hfront : '\n' :: a.front keyword tag =
      '\n' :: (Statement.typedefWord ++ a.gap ++ keyword ++ a.gap') ++ tag ++ a.list.text := by
    simp [front, base]
  obtain ⟨c, last, heq⟩ := List.exists_cons_of_ne_nil (List.reverse_ne_nil_iff.mpr ht.1)
  have hc : Text.isWord c = true := ht.2 c (List.mem_reverse.mp (heq ▸ List.mem_cons_self))
  rw [hfront]
  refine a.list.ofList_append ?_ ?_ (absurd · a.isApart)
  · intro h
    simp only [List.cons_append, List.mem_cons, List.mem_append, or_assoc] at h
    rcases h with h | h | h | h | h | h
    · cases h
    · exact absurd h (by decide)
    · exact absurd (a.isGap.2 _ h) (by decide)
    · exact absurd (hk.2 _ h) (by decide)
    · exact absurd (a.isGap'.2 _ h) (by decide)
    · exact absurd (ht.2 _ h) (by decide)
  · have hblank : ((c :: last) ++ ('\n' :: (Statement.typedefWord ++ a.gap ++ keyword ++
        a.gap')).reverse).head?.any Text.isBlank = false := isBlank_of_isWord hc
    rw [List.reverse_append, heq, dropBlanks_eq_self hblank, List.cons_append, List.head?_cons]
    intro h
    rw [Option.some.inj h] at hc
    cases hc

end TagAlias

end Header

namespace Supplement

open Header

variable {t : Supplement}

def ownAlias (t : Supplement) (a : TagAlias) : String :=
  String.ofList (a.front t.layout.kind.keyword.toList t.tag.toList ++ [';'])

/-- A declarator declares a name of the type: the typedef name without a star, or the pointer typedef
name with one. -/
def Declares (t : Supplement) (d : WrittenDeclarator) : Prop :=
  '*' ∉ d.before ∧ d.name = t.typedefName.toList ∨ '*' ∈ d.before ∧ d.name = t.pointerName.toList

theorem isIdentifier_keyword (kind : AggregateKind) : IsIdentifier kind.keyword.toList := by
  cases kind <;> decide

theorem nameDeclared?_eq_none_iff {d : WrittenDeclarator} :
    t.nameDeclared? d.declarator = none ↔ ¬ t.Declares d := by
  unfold nameDeclared? Declares WrittenDeclarator.declarator
  by_cases hstar : '*' ∈ d.before <;> simp [hstar]

theorem definitionInCode?_eq_none_iff {source : List Char} : t.definitionInCode? source = none ↔
    definesTag t.layout.kind.keyword.toList t.tag.toList none source = false ∧
      t.typedefIn? source = none := by
  unfold definitionInCode?
  split <;> simp_all

/-- **An alias of the own tag defines nothing, unless a closing brace stands before it.** Then it
defines the first name of the type that it declares. -/
theorem definitionIn?_append_ownAlias (a : TagAlias) {pre : String}
    (htag : IsIdentifier t.tag.toList) (hfree : CommentFree pre.toList)
    (hend : ∀ c, pre.toList.getLast? = some c → c = ';' ∨ c = '\x7d')
    (hpre : t.definitionIn? pre = none) :
    t.definitionIn? (pre ++ "\n" ++ t.ownAlias a) =
      if pre.toList.getLast? = some '\x7d' then
        a.list.all.findSome? fun d => t.nameDeclared? d.declarator
      else none := by
  have hk := isIdentifier_keyword t.layout.kind
  obtain ⟨hslash, hbrace, -⟩ := TagAlias.not_mem_front (a := a) hk htag
  have htext : (pre ++ "\n" ++ t.ownAlias a).toList = pre.toList ++
      '\n' :: (a.front t.layout.kind.keyword.toList t.tag.toList ++ [';']) := by
    simp [ownAlias]
  have hfree' : CommentFree (pre ++ "\n" ++ t.ownAlias a).toList := by
    rw [htext]
    exact hfree.append (by simpa using hslash)
  unfold definitionIn? at hpre ⊢
  rw [stripComments_of_commentFree hfree, definitionInCode?_eq_none_iff] at hpre
  obtain ⟨htag', htypedef⟩ := hpre
  rw [stripComments_of_commentFree hfree', htext, definitionInCode?,
    definesTag_append (by simpa using hbrace), htag', if_neg Bool.false_ne_true]
  unfold typedefIn? at htypedef ⊢
  rw [TagAlias.ofSource_append hk htag hend, List.flatMap_append, List.findSome?_append, htypedef,
    Option.none_or, List.flatMap_singleton]
  split
  · rw [foreignDeclarators, TagAlias.ofList_front hk htag, List.findSome?_map]
    rfl
  · rw [foreignDeclarators, TagAlias.aliasesTag_base htag, if_pos rfl]
    rfl

/-- **An alias of the own tag is no conflict**, unless a closing brace stands before it and it
declares a name of the type. -/
theorem definitionIn?_ownAlias_eq_none_iff (t : Supplement) (a : TagAlias) (pre : String)
    (htag : IsIdentifier t.tag.toList) (hfree : CommentFree pre.toList)
    (hend : ∀ c, pre.toList.getLast? = some c → c = ';' ∨ c = '\x7d')
    (hpre : t.definitionIn? pre = none) :
    t.definitionIn? (pre ++ "\n" ++ t.ownAlias a) = none ↔
      ¬ (pre.toList.getLast? = some '\x7d' ∧ ∃ d ∈ a.list.all, t.Declares d) := by
  rw [definitionIn?_append_ownAlias a htag hfree hend hpre]
  split
  · next hbrace => simp [nameDeclared?_eq_none_iff, hbrace]
  · next hbrace => simp [hbrace]

/-- Behind a body of a function the alias of another name is no conflict. -/
theorem definitionIn?_ownAlias_gate : IsIdentifier segmentDescriptor.tag.toList ∧
    CommentFree "void f(void) \x7b \x7d".toList ∧
    segmentDescriptor.definitionIn? "void f(void) \x7b \x7d" = none ∧
    segmentDescriptor.definitionIn? ("void f(void) \x7b \x7d" ++ "\n" ++
      segmentDescriptor.ownAlias (.single "GATE".toList (by decide))) = none := by
  have htag : IsIdentifier segmentDescriptor.tag.toList := by decide
  have hfree : CommentFree "void f(void) \x7b \x7d".toList := .of_not_mem (by decide)
  have hpre : segmentDescriptor.definitionIn? "void f(void) \x7b \x7d" = none := by decide +kernel
  have hend : ∀ c, "void f(void) \x7b \x7d".toList.getLast? = some c → c = ';' ∨ c = '\x7d' :=
    fun c hc => Or.inr (Option.some.inj hc).symm
  refine ⟨htag, hfree, hpre, (definitionIn?_ownAlias_eq_none_iff segmentDescriptor
    (.single "GATE".toList (by decide)) _ htag hfree hend hpre).mpr ?_⟩
  intro h
  obtain ⟨-, d, hd, hdeclares⟩ := h
  rw [List.mem_singleton.mp hd] at hdeclares
  revert hdeclares
  unfold Declares
  decide

/-- Behind the body of a function the alias of the typedef name is taken for a declarator of the
body. -/
theorem not_definitionIn?_ownAlias_eq_none : ¬ ∀ (t : Supplement) (a : TagAlias) (pre : String),
    (∀ name ∈ t.names, IsIdentifier name.toList) → CommentFree pre.toList →
    (∀ c, pre.toList.getLast? = some c → c = ';' ∨ c = '\x7d') → t.definitionIn? pre = none →
    t.definitionIn? (pre ++ "\n" ++ t.ownAlias a) = none := by
  intro h
  have hnone := h segmentDescriptor (.single "KGDTENTRY64".toList (by decide))
    "void f(void) \x7b \x7d" (by decide) (.of_not_mem (by decide))
    (fun c hc => Or.inr (Option.some.inj hc).symm) (by decide +kernel)
  have hsome : segmentDescriptor.definitionIn? ("void f(void) \x7b \x7d" ++ "\n" ++
      segmentDescriptor.ownAlias (.single "KGDTENTRY64".toList (by decide))) =
      some "KGDTENTRY64" := by decide +kernel
  rw [hsome] at hnone
  cases hnone

end Supplement

end KitSurface
