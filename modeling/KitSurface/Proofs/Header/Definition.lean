import KitSurface.Proofs.Header.Alias
import KitSurface.Proofs.Text.Cut
/-!
Definitions of the names of a type, as a header can write them: the body of the tag as a `struct` or
as a `union`, and a typedef that declares the typedef name or the pointer typedef name, with any
stars before it or sizes behind it. Main statement: the scan finds a definition of some shape in
every header that it stands in exactly if the body has the type's own keyword, or the declarator is
the typedef name without stars and sizes or the pointer typedef name with stars and without sizes
(`forall_isSome_definitionIn?_iff`).
-/

namespace KitSurface

namespace Header

/-- A declarator of a typedef as it is written. If it is an array, the sizes stand in brackets
behind the name. -/
structure SizedDeclarator extends WrittenDeclarator where
  sizes : List Char
  bracketed : sizes = [] ∨
    sizes.head? = some '[' ∧ (Text.dropBlanks sizes.reverse).head? = some ']'
  plain : IsPlain sizes
  commaFree : ',' ∉ sizes
  commentFree : CommentFree sizes

namespace SizedDeclarator

def source (d : SizedDeclarator) : List Char :=
  d.text ++ d.sizes

theorem source_eq_text {d : SizedDeclarator} (h : d.sizes = []) : d.source = d.text := by
  rw [source, h, List.append_nil]

theorem commentFree_source (d : SizedDeclarator) : CommentFree d.source :=
  d.commentFree.prepend (d.not_mem_text (by decide))

theorem isPlain_source (d : SizedDeclarator) : IsPlain d.source :=
  List.forall_mem_append.mpr ⟨d.isPlain_text, d.plain⟩

theorem comma_not_mem_source (d : SizedDeclarator) : ',' ∉ d.source := by
  rw [source, List.mem_append, not_or]
  exact ⟨d.not_mem_text (by decide), d.commaFree⟩

theorem ofText?_append_source {d : SizedDeclarator}
    (h : (Text.dropBlanks d.sizes.reverse).head? = some ']') (front : List Char) :
    Declarator.ofText? (front ++ d.source) = none := by
  have hne : Text.dropBlanks d.sizes.reverse ≠ [] := by
    intro hnil
    rw [hnil] at h
    cases h
  have hrev : (front ++ d.source).reverse = d.sizes.reverse ++ (front ++ d.text).reverse := by
    simp [source]
  refine Declarator.ofText?_eq_none ?_
  rw [hrev, head?_dropBlanks_append_of_ne_nil hne, h]
  rfl

end SizedDeclarator

/-- A definition as it is written: the body of a tag, or a declarator of a typedef. -/
inductive WrittenDefinition where
  | body (kind : AggregateKind)
  | declarator (d : SizedDeclarator)

/-- A statement can begin behind a text: only blanks stand between it and a semicolon, a brace or
the front of the header. -/
def IsBoundary (pre : List Char) : Prop :=
  ∃ blanks, IsBlank blanks ∧
    (pre = blanks ∨ ∃ front z, Statement.isPlain z = false ∧ pre = front ++ z :: blanks)

namespace Statement

variable {gap text : List Char}

/-- What stands between a closing brace and a semicolon is a statement, whatever stands before
it. -/
theorem afterBody_mem_ofSource (h : IsPlain text) (front rest : List Char) :
    afterBody text ∈ ofSource (front ++ '\x7d' :: (text ++ ';' :: rest)) := by
  have hwritten : (afterBody text).IsWritten none ('\x7d' :: text) := ⟨rfl, h⟩
  have hscan := hwritten.scan rest
  rw [List.cons_append] at hscan
  rw [ofSource_append (by decide), hscan]
  exact List.mem_append_right _ List.mem_cons_self

theorem isPlain_typedef (hgap : IsGap gap) (h : IsPlain text) :
    IsPlain (typedefWord ++ gap ++ text) := by
  have hword : IsPlain typedefWord := by decide
  refine List.forall_mem_append.mpr ⟨List.forall_mem_append.mpr ⟨hword, ?_⟩, h⟩
  exact fun c hc => isPlain_of_isBlank (hgap.2 c hc)

theorem ofTypedef_mem_scan {before : Option Char} {blanks : List Char}
    (hbefore : before.any Text.isWord = false) (hblanks : IsBlank blanks) (hgap : IsGap gap)
    (h : IsPlain text) (hhead : text.head?.any Text.isBlank = false) (rest : List Char) :
    ofTypedef text ∈ scan false before
      (blanks ++ (typedefWord ++ gap ++ text ++ ';' :: rest)) := by
  have hwritten : (ofTypedef text).IsWritten (blanks.getLast?.or before)
      (typedefWord ++ gap ++ text) := ⟨hblanks.getLast?_or hbefore, h, hhead, gap, hgap, rfl⟩
  rw [scan_blanks hblanks, hwritten.scan]
  exact List.mem_cons_self

/-- **A typedef is scanned where a statement can begin.** Behind a closing brace it is taken for
the declarators of a body. -/
theorem exists_mem_ofSource {pre : List Char} (hpre : IsBoundary pre) (hgap : IsGap gap)
    (h : IsPlain text) (hhead : text.head?.any Text.isBlank = false) (rest : List Char) :
    ∃ st ∈ ofSource (pre ++ (typedefWord ++ gap ++ text ++ ';' :: rest)),
      st = ofTypedef text ∨ ∃ lead, st = afterBody (lead ++ text) := by
  obtain ⟨blanks, hblanks, rfl | ⟨front, z, hz, rfl⟩⟩ := hpre
  · exact ⟨_, ofTypedef_mem_scan rfl hblanks hgap h hhead rest, Or.inl rfl⟩
  · by_cases hbrace : z = '\x7d'
    · subst hbrace
      have hplain : IsPlain (blanks ++ (typedefWord ++ gap ++ text)) :=
        List.forall_mem_append.mpr
          ⟨fun c hc => isPlain_of_isBlank (hblanks c hc), isPlain_typedef hgap h⟩
      have hmem := afterBody_mem_ofSource hplain front rest
      refine ⟨_, ?_, Or.inr ⟨blanks ++ (typedefWord ++ gap), rfl⟩⟩
      simpa using hmem
    · have hne : z ≠ 't' := by
        intro he
        subst he
        cases hz
      have hword : (some z).any Text.isWord = false := by
        cases hw : Text.isWord z
        · simp [hw]
        · rw [isPlain_of_isWord hw] at hz
          cases hz
      have hmem := ofTypedef_mem_scan hword hblanks hgap h hhead rest
      refine ⟨ofTypedef text, ?_, Or.inl rfl⟩
      rw [List.append_assoc, List.cons_append, ofSource_append hz, scan_skip hbrace hne]
      exact List.mem_append_right _ hmem

end Statement

end Header

namespace Supplement

open Header

variable {t : Supplement}

/-- A definition is one of a name of the type. -/
def Names (t : Supplement) : WrittenDefinition → Prop
  | .body _ => True
  | .declarator d => d.name = t.typedefName.toList ∨ d.name = t.pointerName.toList

/-- The shapes that the scan knows: the body with the type's own keyword, the typedef name without a
star, and the pointer typedef name with one. -/
def Recognizes (t : Supplement) : WrittenDefinition → Prop
  | .body kind => kind = t.layout.kind
  | .declarator d => d.sizes = [] ∧ t.Declares d.toWrittenDeclarator

/-- What stands behind the word `typedef` is an alias of the type's own tag. -/
def IsOwnAlias (t : Supplement) (text : List Char) : Prop :=
  ∃ gap rest, IsGap gap ∧ rest.head?.any Text.isWord = false ∧
    text = t.layout.kind.keyword.toList ++ gap ++ t.tag.toList ++ rest

/-- A definition stands in a header. The body of the tag can stand anywhere. A declarator stands in
a typedef, which either is for a type that is named, other than the type's own tag, or has a body of
its own in front of the declarators. -/
inductive StandsIn (t : Supplement) : WrittenDefinition → List Char → Prop
  | body {kind : AggregateKind} {pre gap blanks post : List Char}
      (edge : pre.getLast?.any Text.isWord = false) (isGap : IsGap gap)
      (isBlank : IsBlank blanks) :
      StandsIn t (.body kind)
        (pre ++ (kind.keyword.toList ++ gap ++ t.tag.toList ++ blanks ++ '\x7b' :: post))
  | named {d : SizedDeclarator} {pre gap front back post : List Char}
      (boundary : IsBoundary pre) (isGap : IsGap gap) (plainFront : IsPlain front)
      (plainBack : IsPlain back) (base : ∃ c ∈ front.head?, Text.isBlank c = false)
      (listed : Declarator.IsListed d.toWrittenDeclarator front back)
      (foreign : ¬ t.IsOwnAlias (front ++ d.source ++ back)) :
      StandsIn t (.declarator d)
        (pre ++ (Statement.typedefWord ++ gap ++ (front ++ d.source ++ back) ++ ';' :: post))
  | behindBody {d : SizedDeclarator} {pre gap head members front back post : List Char}
      (boundary : IsBoundary pre) (isGap : IsGap gap) (plainHead : IsPlain head)
      (plainFront : IsPlain front) (plainBack : IsPlain back)
      (listed : Declarator.IsListed d.toWrittenDeclarator front back) :
      StandsIn t (.declarator d)
        (pre ++ (Statement.typedefWord ++ gap ++ head ++ '\x7b' :: members ++
          ('\x7d' :: (front ++ d.source ++ back) ++ ';' :: post)))

/-- An alias of the own tag begins with the keyword of the type. -/
theorem not_isOwnAlias {text : List Char}
    (h : text.head? ≠ t.layout.kind.keyword.toList.head?) : ¬ t.IsOwnAlias text := by
  intro hown
  obtain ⟨gap, rest, -, -, rfl⟩ := hown
  obtain ⟨c, keyword, heq⟩ := List.exists_cons_of_ne_nil (isIdentifier_keyword t.layout.kind).1
  exact h (by rw [heq]; rfl)

/-! ## What the scan finds -/

theorem aliasesTag_eq_false (htag : IsIdentifier t.tag.toList) {text : List Char}
    (h : ¬ t.IsOwnAlias text) :
    aliasesTag t.layout.kind.keyword.toList t.tag.toList text = false := by
  rw [← Bool.not_eq_true, aliasesTag_iff htag]
  exact h

theorem isSome_definitionInCode?_of_mem {source : List Char} {st : Statement} {d : WrittenDeclarator}
    (hst : st ∈ Statement.ofSource source) (hd : d.declarator ∈ t.foreignDeclarators st)
    (hdeclares : t.Declares d) : (t.definitionInCode? source).isSome = true := by
  rw [← Option.ne_none_iff_isSome]
  intro h
  have hnone := (definitionInCode?_eq_none_iff.mp h).2
  have hd' : t.nameDeclared? d.declarator = none :=
    List.findSome?_eq_none_iff.mp hnone _ (List.mem_flatMap.mpr ⟨st, hst, hd⟩)
  exact nameDeclared?_eq_none_iff.mp hd' hdeclares

/-- The body of the tag is found if it has the keyword of the type. -/
theorem definesTag_of_body {pre gap blanks post : List Char}
    (edge : pre.getLast?.any Text.isWord = false) (hgap : IsGap gap) (hblanks : IsBlank blanks) :
    definesTag t.layout.kind.keyword.toList t.tag.toList none
      (pre ++ (t.layout.kind.keyword.toList ++ gap ++ t.tag.toList ++ blanks ++
        '\x7b' :: post)) = true := by
  have hedge := (isIdentifier_keyword t.layout.kind).isWordEdge_iff (pre.getLast?.or none)
    (gap ++ t.tag.toList ++ blanks ++ '\x7b' :: post)
  refine definesTag_iff.mpr ⟨pre, _, rfl, by simp, ?_, ?_⟩
  · simpa using hedge.mpr (by simpa using edge)
  · exact definesHere_iff.mpr ⟨gap, blanks, post, hgap, hblanks, rfl⟩

/-- **A definition of a shape that the scan knows is found** in every header that it stands in. -/
theorem StandsIn.isSome_definitionInCode? {w : WrittenDefinition} {source : List Char}
    (htag : IsIdentifier t.tag.toList) (hw : t.Recognizes w) (h : t.StandsIn w source) :
    (t.definitionInCode? source).isSome = true := by
  cases h with
  | body edge isGap isBlank =>
    obtain rfl : _ = t.layout.kind := hw
    rw [definitionInCode?, if_pos (definesTag_of_body edge isGap isBlank)]
    rfl
  | @named d pre gap front back post boundary isGap plainFront plainBack base listed foreign =>
    obtain ⟨hsizes, hdeclares⟩ := hw
    obtain ⟨c, hc, hblank⟩ := base
    rw [SizedDeclarator.source_eq_text hsizes] at foreign ⊢
    have hplain := d.isPlain_append plainFront plainBack
    have hhead : (front ++ d.text ++ back).head?.any Text.isBlank = false := by
      simp [List.head?_append, Option.mem_def.mp hc, hblank]
    obtain ⟨st, hst, rfl | ⟨lead, rfl⟩⟩ :=
      Statement.exists_mem_ofSource boundary isGap hplain hhead post
    · refine isSome_definitionInCode?_of_mem hst ?_ hdeclares
      rw [foreignDeclarators, aliasesTag_eq_false htag foreign]
      exact Declarator.mem_ofList_append listed
    · -- The alias is not looked at behind a brace, but the declarators are the same.
      refine isSome_definitionInCode?_of_mem hst ?_ hdeclares
      have hmem := Declarator.mem_ofList_append
        (listed.prepend (List.mem_of_mem_head? hc) hblank lead)
      rw [foreignDeclarators]
      simpa using hmem
  | @behindBody d pre gap head members front back post boundary isGap plainHead plainFront
      plainBack listed =>
    obtain ⟨hsizes, hdeclares⟩ := hw
    rw [SizedDeclarator.source_eq_text hsizes]
    have hplain := d.isPlain_append plainFront plainBack
    have hst := Statement.afterBody_mem_ofSource hplain
      (pre ++ (Statement.typedefWord ++ gap ++ head ++ '\x7b' :: members)) post
    rw [List.append_assoc] at hst
    exact isSome_definitionInCode?_of_mem hst (Declarator.mem_ofList_append listed) hdeclares

/-! ## What the scan misses -/

/-- A header that defines the tag with some keyword. -/
def bodyHeader (t : Supplement) (kind : AggregateKind) : List Char :=
  kind.keyword.toList ++ [' '] ++ t.tag.toList ++ [' '] ++ '\x7b' :: ['\x7d', ';']

def integerHeader (d : SizedDeclarator) : List Char :=
  Statement.typedefWord ++ [' '] ++ ("int ".toList ++ d.source) ++ [';']

theorem standsIn_bodyHeader (kind : AggregateKind) :
    t.StandsIn (.body kind) (t.bodyHeader kind) := by
  have h : t.StandsIn (.body kind) ([] ++ t.bodyHeader kind) := .body rfl (by decide) (by decide)
  rwa [List.nil_append] at h

theorem standsIn_integerHeader (d : SizedDeclarator) :
    t.StandsIn (.declarator d) (integerHeader d) := by
  have h : t.StandsIn (.declarator d) ([] ++ (Statement.typedefWord ++ [' '] ++
      ("int ".toList ++ d.source ++ []) ++ ';' :: [])) := by
    refine .named ⟨[], List.forall_mem_nil _, Or.inl rfl⟩ (by decide) (by decide)
      (List.forall_mem_nil _) ⟨'i', rfl, by decide⟩
      ⟨fun _ => by decide, by decide, Or.inl rfl⟩ (not_isOwnAlias ?_)
    cases t.layout.kind <;> simp [AggregateKind.keyword]
  rwa [List.nil_append, List.append_nil] at h

theorem commentFree_bodyHeader (htag : IsIdentifier t.tag.toList) (kind : AggregateKind) :
    CommentFree (t.bodyHeader kind) := by
  have hk : '/' ∉ kind.keyword.toList := (isIdentifier_keyword kind).not_mem (by decide)
  have ht : '/' ∉ t.tag.toList := htag.not_mem (by decide)
  refine .of_not_mem ?_
  simp [bodyHeader, hk, ht]

theorem commentFree_integerHeader (d : SizedDeclarator) : CommentFree (integerHeader d) := by
  have hbase : '/' ∉ Statement.typedefWord ++ [' '] ++ "int ".toList := by decide
  have h := (d.commentFree_source.prepend hbase).append (b := [';']) (by decide)
  rwa [integerHeader, ← List.append_assoc]

theorem definesTag_bodyHeader (htag : IsIdentifier t.tag.toList) {kind : AggregateKind}
    (h : kind ≠ t.layout.kind) :
    definesTag t.layout.kind.keyword.toList t.tag.toList none (t.bodyHeader kind) = false := by
  have hkind := isIdentifier_keyword kind
  have hown := isIdentifier_keyword t.layout.kind
  rw [← Bool.not_eq_true, definesTag_iff]
  intro hx
  obtain ⟨front, _, heq, -, -, hdef⟩ := hx
  obtain ⟨gap, blanks, last, hgap, hblanks, rfl⟩ := definesHere_iff.mp hdef
  -- The header has one brace, and what stands before it is read from its end.
  have hbrace : '\x7b' ∉ kind.keyword.toList ++ [' '] ++ t.tag.toList ++ [' '] := by
    have hk : '\x7b' ∉ kind.keyword.toList := hkind.not_mem (by decide)
    have ht : '\x7b' ∉ t.tag.toList := htag.not_mem (by decide)
    simp [hk, ht]
  rw [bodyHeader, ← List.append_assoc] at heq
  obtain ⟨hfront, -⟩ := Text.eq_of_append_cons_of_not_mem hbrace (by decide) heq
  have hspace : IsBlank [' '] := by decide
  have htags : front ++ t.layout.kind.keyword.toList ++ gap ++ t.tag.toList =
      kind.keyword.toList ++ [' '] ++ t.tag.toList :=
    append_eq_of_append_blanks htag htag hblanks hspace (by simpa using hfront.symm)
  have hkeywords : front ++ t.layout.kind.keyword.toList = [] ++ kind.keyword.toList :=
    append_eq_of_append_blanks hown hkind hgap.2 hspace (List.append_cancel_right htags)
  have hlast := congrArg List.getLast? hkeywords
  rw [List.getLast?_append_of_ne_nil _ hown.1, List.nil_append] at hlast
  cases hk : t.layout.kind <;> cases kind <;> simp_all [AggregateKind.keyword]

theorem definitionInCode?_bodyHeader (htag : IsIdentifier t.tag.toList) {kind : AggregateKind}
    (h : kind ≠ t.layout.kind) : t.definitionInCode? (t.bodyHeader kind) = none := by
  refine definitionInCode?_eq_none_iff.mpr ⟨definesTag_bodyHeader htag h, ?_⟩
  have hnoEnd : ';' ∉ kind.keyword.toList ++ [' '] ++ t.tag.toList ++ [' '] ++ ['\x7b'] := by
    have hk : ';' ∉ kind.keyword.toList := (isIdentifier_keyword kind).not_mem (by decide)
    have ht : ';' ∉ t.tag.toList := htag.not_mem (by decide)
    simp [hk, ht]
  have hfront : Statement.ofSource
      (kind.keyword.toList ++ [' '] ++ t.tag.toList ++ [' '] ++ ['\x7b']) = [] :=
    Statement.scan_eq_nil hnoEnd
  have hback : Statement.scan false none ['\x7b', '\x7d', ';'] = [.afterBody []] := by decide
  rw [typedefIn?, bodyHeader, Statement.ofSource_append (by decide), hfront, hback]
  rfl

theorem nameDeclared?_of_mem_ofList {d : SizedDeclarator} (h : ¬ t.Recognizes (.declarator d)) :
    ∀ d' ∈ Declarator.ofList ("int ".toList ++ d.source), t.nameDeclared? d' = none := by
  have hcomma : ',' ∉ "int ".toList ++ d.source := by
    simp [d.comma_not_mem_source]
  rw [Declarator.ofList_of_not_mem hcomma]
  intro d' hd'
  rcases d.bracketed with hsizes | ⟨-, hlast⟩
  · rw [SizedDeclarator.source_eq_text hsizes, Declarator.ofText?_append _ _ (by decide)
      fun _ => by decide] at hd'
    rw [List.mem_singleton.mp hd', nameDeclared?_eq_none_iff]
    exact fun hdeclares => h ⟨hsizes, hdeclares⟩
  · rw [SizedDeclarator.ofText?_append_source hlast] at hd'
    cases hd'

/-- Whatever declarator the scan does not know, it misses in this header. -/
theorem definitionInCode?_integerHeader {d : SizedDeclarator}
    (h : ¬ t.Recognizes (.declarator d)) : t.definitionInCode? (integerHeader d) = none := by
  have hbase : IsPlain "int ".toList := by decide
  have hplain : IsPlain ("int ".toList ++ d.source) :=
    List.forall_mem_append.mpr ⟨hbase, d.isPlain_source⟩
  have hgap : IsGap [' '] := isGap_space
  have hwritten : (Statement.ofTypedef ("int ".toList ++ d.source)).IsWritten none
      (Statement.typedefWord ++ [' '] ++ ("int ".toList ++ d.source)) :=
    ⟨rfl, hplain, rfl, [' '], hgap, rfl⟩
  have hsource : Statement.ofSource (integerHeader d) =
      [.ofTypedef ("int ".toList ++ d.source)] := hwritten.scan []
  refine definitionInCode?_eq_none_iff.mpr ⟨?_, ?_⟩
  · have hbrace : '\x7b' ∉ integerHeader d := by
      intro hc
      rcases List.mem_append.mp hc with hc | hc
      · exact absurd (Statement.isPlain_typedef hgap hplain _ hc) (by decide)
      · exact absurd hc (by decide)
    exact definesTag_append (a := []) hbrace
  · rw [typedefIn?, hsource, List.flatMap_singleton, List.findSome?_eq_none_iff, foreignDeclarators]
    split
    · exact List.forall_mem_nil _
    · exact nameDeclared?_of_mem_ofList h

/-- A definition of a shape that the scan does not know is missed in some header. -/
theorem exists_standsIn_of_not_recognizes (htag : IsIdentifier t.tag.toList)
    {w : WrittenDefinition} (hw : ¬ t.Recognizes w) :
    ∃ source, t.StandsIn w source ∧ CommentFree source ∧ t.definitionInCode? source = none := by
  cases w with
  | body kind =>
    exact ⟨t.bodyHeader kind, standsIn_bodyHeader kind, commentFree_bodyHeader htag kind,
      definitionInCode?_bodyHeader htag hw⟩
  | declarator d =>
    exact ⟨integerHeader d, standsIn_integerHeader d, commentFree_integerHeader d,
      definitionInCode?_integerHeader hw⟩

/-! ## Headers -/

theorem definitionIn?_of_commentFree {header : String} (h : CommentFree header.toList) :
    t.definitionIn? header = t.definitionInCode? header.toList := by
  rw [definitionIn?, stripComments_of_commentFree h]

/-- **The definitions that the scan finds.** Of the definitions that a header can write, those of a
known shape are found in every header without comments, and each of the others is missed in one. -/
theorem forall_isSome_definitionIn?_iff (t : Supplement) (w : WrittenDefinition)
    (htag : IsIdentifier t.tag.toList) :
    (∀ header : String, t.StandsIn w header.toList → CommentFree header.toList →
      (t.definitionIn? header).isSome = true) ↔ t.Recognizes w := by
  constructor
  · intro h
    by_contra hw
    obtain ⟨source, hstands, hfree, hnone⟩ := exists_standsIn_of_not_recognizes htag hw
    have hsource : (String.ofList source).toList = source := String.toList_ofList
    rw [← hsource] at hstands hfree hnone
    have hsome := h (String.ofList source) hstands hfree
    rw [definitionIn?_of_commentFree hfree, hnone] at hsome
    cases hsome
  · intro hw header hstands hfree
    rw [definitionIn?_of_commentFree hfree]
    exact hstands.isSome_definitionInCode? htag hw

def pointerDeclarator (name : List Char) (h : IsIdentifier name) : SizedDeclarator where
  before := [' ', '*']
  name := name
  after := []
  starred := WrittenDeclarator.starred_pointer
  named := h
  blank := isBlank_nil
  sizes := []
  bracketed := Or.inl rfl
  plain := List.forall_mem_nil _
  commaFree := List.not_mem_nil
  commentFree := .of_not_mem List.not_mem_nil

theorem isSome_definitionIn?_gatePointer : IsIdentifier segmentDescriptor.tag.toList ∧
    (segmentDescriptor.definitionIn?
      "void f(void) \x7b \x7d\ntypedef struct _GATE *PKGDTENTRY64;").isSome = true := by
  have htag : IsIdentifier segmentDescriptor.tag.toList := by decide
  let d := pointerDeclarator "PKGDTENTRY64".toList (by decide)
  have hw : segmentDescriptor.Recognizes (.declarator d) := by
    refine ⟨rfl, Or.inr ⟨by decide, rfl⟩⟩
  have hstands : segmentDescriptor.StandsIn (.declarator d)
      ("void f(void) \x7b \x7d\n".toList ++ (Statement.typedefWord ++ [' '] ++
        ("struct _GATE".toList ++ d.source ++ []) ++ ';' :: [])) := by
    refine .named ⟨['\n'], by decide, Or.inr ⟨"void f(void) \x7b ".toList, '\x7d', rfl, by decide⟩⟩
      (by decide) (by decide) (List.forall_mem_nil _) ⟨'s', rfl, by decide⟩
      ⟨by decide, by decide, Or.inl rfl⟩ (not_isOwnAlias (by decide))
  exact ⟨htag, (forall_isSome_definitionIn?_iff segmentDescriptor (.declarator d) htag).mpr hw _
    hstands (.of_not_mem (by decide))⟩

def arrayDeclarator (name : List Char) (h : IsIdentifier name) : SizedDeclarator where
  before := [' ']
  name := name
  after := []
  starred := WrittenDeclarator.starred_space
  named := h
  blank := isBlank_nil
  sizes := ['[', '2', ']']
  bracketed := Or.inr ⟨rfl, by decide⟩
  plain := by decide
  commaFree := by decide
  commentFree := .of_not_mem (by decide)

theorem not_isSome_definitionIn?_gateArray :
    ¬ ∀ (t : Supplement) (w : WrittenDefinition) (header : String),
      (∀ name ∈ t.names, IsIdentifier name.toList) → t.Names w → t.StandsIn w header.toList →
      CommentFree header.toList → (t.definitionIn? header).isSome = true := by
  intro h
  let d := arrayDeclarator "KGDTENTRY64".toList (by decide)
  have hstands : segmentDescriptor.StandsIn (.declarator d)
      ([] ++ (Statement.typedefWord ++ [' '] ++ ("struct _GATE".toList ++ d.source ++ []) ++
        ';' :: [])) :=
    .named ⟨[], List.forall_mem_nil _, Or.inl rfl⟩ (by decide) (by decide)
      (List.forall_mem_nil _) ⟨'s', rfl, by decide⟩
      ⟨by decide, by decide, Or.inl rfl⟩ (not_isOwnAlias (by decide))
  have hsome := h segmentDescriptor (.declarator d) "typedef struct _GATE KGDTENTRY64[2];"
    (by decide) (Or.inl rfl) hstands (.of_not_mem (by decide))
  have hnone : segmentDescriptor.definitionIn? "typedef struct _GATE KGDTENTRY64[2];" = none := by
    decide +kernel
  rw [hnone] at hsome
  cases hsome

end Supplement

end KitSurface
