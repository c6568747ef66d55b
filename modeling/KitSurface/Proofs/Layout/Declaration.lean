import KitSurface.Proofs.Header.Tag
import KitSurface.Proofs.Text.Cut
/-!
What the C text of a layout says. A field can be written if every scalar and bit-field in it has a
name (`Field.isSome_declaration_iff`). Where the names are identifiers a declaration is read in one
way only, also in front of other text (`Field.eq_of_declaration_append`): the first word of a member
tells an aggregate from the others, a name ends where its word ends, and the brace of an aggregate
stands two columns before its members. Main statement: exactly the types whose members are named
can be written, and two types with one text have the same names and the same layout
(`Supplement.render_ok_iff_and_unique`).
-/

namespace KitSurface

open Header

/-! ## Fields at every depth -/

namespace Field

def isNested : Field → Bool
  | nested _ _ _ => true
  | _ => false

mutual

/-- A field and every field inside it. -/
def withInner : Field → List Field
  | .scalar name t => [.scalar name t]
  | .bits name t width => [.bits name t width]
  | .nested name kind fields => .nested name kind fields :: allWithInner fields

/-- The fields of a list and every field inside them. -/
def allWithInner : List Field → List Field
  | [] => []
  | field :: fields => field.withInner ++ allWithInner fields

end

/-- A field can do without a name only if it is an aggregate. -/
def IsNamed (f : Field) : Prop :=
  f.isNested = false → f.name?.isSome = true

/-- The name of a field, if it has one, is an identifier. -/
def IsIdentified (f : Field) : Prop :=
  ∀ name ∈ f.name?, IsIdentifier name.toList

instance (f : Field) : Decidable f.IsNamed :=
  inferInstanceAs (Decidable (f.isNested = false → f.name?.isSome = true))

instance (f : Field) : Decidable f.IsIdentified :=
  inferInstanceAs (Decidable (∀ name ∈ f.name?, IsIdentifier name.toList))

end Field

namespace Aggregate

/-- Every scalar and every bit-field of an aggregate has a name, at every depth. -/
def IsNamed (a : Aggregate) : Prop :=
  ∀ f ∈ Field.allWithInner a.fields, f.IsNamed

/-- Every name in an aggregate is an identifier, at every depth. -/
def IsIdentified (a : Aggregate) : Prop :=
  ∀ f ∈ Field.allWithInner a.fields, f.IsIdentified

instance (a : Aggregate) : Decidable a.IsNamed :=
  List.decidableBAll _ _

instance (a : Aggregate) : Decidable a.IsIdentified :=
  List.decidableBAll _ _

end Aggregate

theorem Aggregate.eq_of_kind_of_fields : ∀ {a b : Aggregate}, a.kind = b.kind →
    a.fields = b.fields → a = b
  | ⟨_, _⟩, ⟨_, _⟩, rfl, rfl => rfl

/-- The names of a type and of the fields of its layout are identifiers. -/
structure Supplement.IsIdentified (t : Supplement) : Prop where
  tag : IsIdentifier t.tag.toList
  typedefName : IsIdentifier t.typedefName.toList
  pointerName : IsIdentifier t.pointerName.toList
  layout : t.layout.IsIdentified

/-! ## What can be written -/

namespace Field

variable {columns : Nat}

theorem declaration_scalar (name : Option String) (t : Scalar) :
    (scalar name t).declaration columns =
      name.map fun n => indentation columns ++ t.spelling ++ " " ++ n ++ ";\n" := by
  cases name <;> rfl

theorem declaration_bits (name : Option String) (t : Scalar) (width : Nat) :
    (bits name t width).declaration columns =
      name.map fun n => indentation columns ++ t.spelling ++ " " ++ n ++ " : " ++
        Nat.repr width ++ ";\n" := by
  cases name <;> rfl

/-- The name behind the brace of an aggregate, if it has one. -/
def nameSuffix : Option String → String
  | some name => " " ++ name
  | none => ""

theorem declaration_nested (name : Option String) (kind : AggregateKind) (fields : List Field) :
    (nested name kind fields).declaration columns =
      (declarations (columns + 2) fields).map fun members =>
        indentation columns ++ kind.keyword ++ "\n" ++ braced columns members ++
          nameSuffix name ++ ";\n" := by
  unfold declaration
  cases declarations (columns + 2) fields <;> cases name <;> rfl

theorem declarations_cons (field : Field) (fields : List Field) :
    declarations columns (field :: fields) = (field.declaration columns).bind fun s =>
      (declarations columns fields).map (s ++ ·) := by
  rw [declarations]
  cases field.declaration columns <;> cases declarations columns fields <;> rfl

theorem declarations_cons_eq_some {field : Field} {fields : List Field} {s : String}
    (h : declarations columns (field :: fields) = some s) :
    ∃ s₁ s₂, field.declaration columns = some s₁ ∧ declarations columns fields = some s₂ ∧
      s = s₁ ++ s₂ := by
  rw [declarations_cons] at h
  obtain ⟨s₁, h₁, hmap⟩ := Option.bind_eq_some_iff.mp h
  obtain ⟨s₂, h₂, heq⟩ := Option.map_eq_some_iff.mp hmap
  exact ⟨s₁, s₂, h₁, h₂, heq.symm⟩

mutual

/-- **A field can be written iff the scalars and bit-fields in it have names.** -/
theorem isSome_declaration_iff : ∀ (columns : Nat) (f : Field),
    (f.declaration columns).isSome = true ↔ ∀ g ∈ f.withInner, g.IsNamed
  | _, .scalar name t => by
    simp [declaration_scalar, withInner, IsNamed, isNested, name?]
  | _, .bits name t width => by
    simp [declaration_bits, withInner, IsNamed, isNested, name?]
  | columns, .nested name kind fields => by
    have ih := isSome_declarations_iff (columns + 2) fields
    simp [declaration_nested, withInner, ih, IsNamed, isNested]

theorem isSome_declarations_iff : ∀ (columns : Nat) (fields : List Field),
    (declarations columns fields).isSome = true ↔ ∀ g ∈ allWithInner fields, g.IsNamed
  | _, [] => by simp [declarations, allWithInner]
  | columns, field :: fields => by
    have hfield := isSome_declaration_iff columns field
    have hfields := isSome_declarations_iff columns fields
    simp only [allWithInner, List.forall_mem_append, ← hfield, ← hfields, declarations_cons]
    cases field.declaration columns <;> simp

end

/-! ## How a declaration is read -/

/-- A scalar, or a bit-field of some width. -/
def leaf (name : Option String) (t : Scalar) : Option Nat → Field
  | none => scalar name t
  | some width => bits name t width

/-- What stands behind the name of a scalar or a bit-field. -/
def leafEnd : Option Nat → List Char
  | none => [';', '\n']
  | some width => [' ', ':', ' '] ++ (Nat.repr width).toList ++ [';', '\n']

/-- What stands behind the brace of an aggregate. -/
def nestedEnd (name : Option String) : List Char :=
  (nameSuffix name).toList ++ [';', '\n']

theorem toList_indentation (columns : Nat) :
    (indentation columns).toList = List.replicate columns ' ' := by
  simp [indentation]

theorem toList_declaration_leaf {name : Option String} {t : Scalar} (width : Option Nat)
    {s : String} (h : (leaf name t width).declaration columns = some s) : ∃ n, name = some n ∧
      s.toList = List.replicate columns ' ' ++
        (t.spelling.toList ++ ' ' :: (n.toList ++ leafEnd width)) := by
  cases width with
  | none =>
    rw [leaf, declaration_scalar] at h
    obtain ⟨n, hn, rfl⟩ := Option.map_eq_some_iff.mp h
    exact ⟨n, hn, by simp [toList_indentation, leafEnd]⟩
  | some width =>
    rw [leaf, declaration_bits] at h
    obtain ⟨n, hn, rfl⟩ := Option.map_eq_some_iff.mp h
    exact ⟨n, hn, by simp [toList_indentation, leafEnd]⟩

theorem toList_declaration_nested {name : Option String} {kind : AggregateKind}
    {fields : List Field} {s : String}
    (h : (nested name kind fields).declaration columns = some s) :
    ∃ members, declarations (columns + 2) fields = some members ∧
      s.toList = List.replicate columns ' ' ++ (kind.keyword.toList ++ '\n' ::
        (List.replicate columns ' ' ++ '\x7b' :: '\n' :: (members.toList ++
          (List.replicate columns ' ' ++ '\x7d' :: nestedEnd name)))) := by
  rw [declaration_nested] at h
  obtain ⟨members, hmembers, rfl⟩ := Option.map_eq_some_iff.mp h
  exact ⟨members, hmembers, by simp [toList_indentation, braced, nestedEnd]⟩

theorem exists_declaration {f : Field} {s : String} (h : f.declaration columns = some s) :
    ∃ tail, s.toList = List.replicate columns ' ' ++ tail := by
  cases f with
  | scalar name t =>
    obtain ⟨_, -, hs⟩ := toList_declaration_leaf none h
    exact ⟨_, hs⟩
  | bits name t width =>
    obtain ⟨_, -, hs⟩ := toList_declaration_leaf (some width) h
    exact ⟨_, hs⟩
  | nested name kind fields =>
    obtain ⟨_, -, hs⟩ := toList_declaration_nested h
    exact ⟨_, hs⟩

end Field

/-! ## Reading the pieces -/

variable {r r' : List Char}

theorem Scalar.eq_of_spelling_append {t t' : Scalar}
    (h : t.spelling.toList ++ ' ' :: r = t'.spelling.toList ++ ' ' :: r') : t = t' ∧ r = r' := by
  cases t <;> cases t' <;> simp [Scalar.spelling] at h ⊢ <;> exact h

theorem AggregateKind.eq_of_keyword_append {kind kind' : AggregateKind} {c : Char}
    (h : kind.keyword.toList ++ c :: r = kind'.keyword.toList ++ c :: r') :
    kind = kind' ∧ r = r' := by
  cases kind <;> cases kind' <;> simp [AggregateKind.keyword] at h ⊢ <;> exact h

theorem spelling_append_ne_keyword_append (t : Scalar) (kind : AggregateKind) :
    t.spelling.toList ++ r ≠ kind.keyword.toList ++ '\n' :: r' := by
  cases t <;> cases kind <;> simp [Scalar.spelling, AggregateKind.keyword]

theorem eq_of_identifier_append {name name' : String} {c c' : Char}
    (hname : IsIdentifier name.toList) (hname' : IsIdentifier name'.toList)
    (hc : Text.isWord c = false) (hc' : Text.isWord c' = false)
    (h : name.toList ++ c :: r = name'.toList ++ c' :: r') :
    name = name' ∧ c = c' ∧ r = r' := by
  obtain ⟨heq, hcs, hr⟩ := Text.eq_of_word_append_cons hname.2 hname'.2 hc hc' h
  exact ⟨String.toList_inj.mp heq, hcs, hr⟩

/-- A number in decimal ends where its word ends, as a name does. -/
theorem eq_of_repr_append {n n' : Nat} (h : (Nat.repr n).toList ++ ';' :: r =
    (Nat.repr n').toList ++ ';' :: r') : n = n' ∧ r = r' := by
  obtain ⟨heq, -, hr⟩ := Text.eq_of_word_append_cons (Text.isWord_of_mem_repr n)
    (Text.isWord_of_mem_repr n') (by decide) (by decide) h
  have hvalue : ∀ m : Nat, Nat.ofDigitChars 10 (Nat.repr m).toList 0 = m := by
    intro m
    rw [Nat.toList_repr]
    exact Nat.ofDigitChars_toDigits (by decide) (by decide)
  have hn : n = n' := by
    calc n = Nat.ofDigitChars 10 (Nat.repr n).toList 0 := (hvalue n).symm
      _ = Nat.ofDigitChars 10 (Nat.repr n').toList 0 := by rw [heq]
      _ = n' := hvalue n'
  exact ⟨hn, hr⟩

namespace Field

theorem eq_of_leafEnd_append {n n' : String} {width width' : Option Nat}
    (hn : IsIdentifier n.toList) (hn' : IsIdentifier n'.toList)
    (h : n.toList ++ (leafEnd width ++ r) = n'.toList ++ (leafEnd width' ++ r')) :
    n = n' ∧ width = width' ∧ r = r' := by
  cases width with
  | none =>
    cases width' with
    | none =>
      obtain ⟨rfl, -, hr⟩ := eq_of_identifier_append hn hn' (by decide) (by decide) h
      exact ⟨rfl, rfl, (List.cons.inj hr).2⟩
    | some width' =>
      obtain ⟨-, hc, -⟩ := eq_of_identifier_append hn hn' (by decide) (by decide) h
      cases hc
  | some width =>
    cases width' with
    | none =>
      obtain ⟨-, hc, -⟩ := eq_of_identifier_append hn hn' (by decide) (by decide) h
      cases hc
    | some width' =>
      obtain ⟨rfl, -, htail⟩ := eq_of_identifier_append hn hn' (by decide) (by decide) h
      have hrepr : (Nat.repr width).toList ++ ';' :: ('\n' :: r) =
          (Nat.repr width').toList ++ ';' :: ('\n' :: r') := by
        simpa using htail
      obtain ⟨rfl, hr⟩ := eq_of_repr_append hrepr
      exact ⟨rfl, rfl, (List.cons.inj hr).2⟩

theorem eq_of_nestedEnd_append {name name' : Option String}
    (hn : ∀ n ∈ name, IsIdentifier n.toList) (hn' : ∀ n ∈ name', IsIdentifier n.toList)
    (h : nestedEnd name ++ r = nestedEnd name' ++ r') : name = name' ∧ r = r' := by
  cases name with
  | none =>
    cases name' with
    | none => simpa [nestedEnd, nameSuffix] using h
    | some n' => simp [nestedEnd, nameSuffix] at h
  | some n =>
    cases name' with
    | none => simp [nestedEnd, nameSuffix] at h
    | some n' =>
      have hname : n.toList ++ ';' :: ('\n' :: r) = n'.toList ++ ';' :: ('\n' :: r') := by
        simpa [nestedEnd, nameSuffix] using h
      obtain ⟨rfl, -, hr⟩ := eq_of_identifier_append (hn n rfl) (hn' n' rfl) (by decide)
        (by decide) hname
      exact ⟨rfl, (List.cons.inj hr).2⟩

/-! ## Reading a declaration -/

variable {s s' : String}

theorem eq_of_leaf_append {name name' : Option String} {t t' : Scalar} (width width' : Option Nat)
    (h : (leaf name t width).declaration columns = some s)
    (h' : (leaf name' t' width').declaration columns = some s')
    (hn : ∀ n ∈ name, IsIdentifier n.toList) (hn' : ∀ n ∈ name', IsIdentifier n.toList)
    (heq : s.toList ++ r = s'.toList ++ r') :
    leaf name t width = leaf name' t' width' ∧ r = r' := by
  obtain ⟨n, rfl, hs⟩ := toList_declaration_leaf width h
  obtain ⟨n', rfl, hs'⟩ := toList_declaration_leaf width' h'
  rw [hs, hs'] at heq
  simp only [List.append_assoc, List.append_cancel_left_eq, List.cons_append] at heq
  obtain ⟨rfl, hrest⟩ := Scalar.eq_of_spelling_append heq
  obtain ⟨rfl, rfl, hr⟩ := eq_of_leafEnd_append (hn n rfl) (hn' n' rfl) hrest
  exact ⟨rfl, hr⟩

theorem leaf_append_ne_nested_append {name name' : Option String} {t : Scalar}
    (width : Option Nat) {kind : AggregateKind} {fields : List Field}
    (h : (leaf name t width).declaration columns = some s)
    (h' : (nested name' kind fields).declaration columns = some s') :
    s.toList ++ r ≠ s'.toList ++ r' := by
  obtain ⟨n, -, hs⟩ := toList_declaration_leaf width h
  obtain ⟨members, -, hs'⟩ := toList_declaration_nested h'
  rw [hs, hs']
  simp only [List.append_assoc, List.append_cancel_left_eq, List.cons_append, ne_eq]
  exact spelling_append_ne_keyword_append t kind

/-- A member stands two columns behind the brace that closes its aggregate. -/
theorem brace_ne_declaration_append {f : Field} (h : f.declaration (columns + 2) = some s) :
    List.replicate columns ' ' ++ '\x7d' :: r ≠ s.toList ++ r' := by
  obtain ⟨tail, hs⟩ := exists_declaration h
  rw [hs, List.replicate_add, List.append_assoc, List.append_assoc]
  simp

mutual

/-- **A declaration is read in one way only**, whatever follows it. -/
theorem eq_of_declaration_append : ∀ (f g : Field) {columns : Nat} {s s' : String}
    {r r' : List Char}, f.declaration columns = some s → g.declaration columns = some s' →
    (∀ h ∈ f.withInner, h.IsIdentified) → (∀ h ∈ g.withInner, h.IsIdentified) →
    s.toList ++ r = s'.toList ++ r' → f = g ∧ r = r'
  | .nested name kind fields, .nested name' kind' fields', columns, s, s', r, r', h, h', hf, hg,
      heq => by
    obtain ⟨hname, hfields⟩ := List.forall_mem_cons.mp hf
    obtain ⟨hname', hfields'⟩ := List.forall_mem_cons.mp hg
    obtain ⟨members, hmembers, hs⟩ := toList_declaration_nested h
    obtain ⟨members', hmembers', hs'⟩ := toList_declaration_nested h'
    rw [hs, hs'] at heq
    simp only [List.append_assoc, List.append_cancel_left_eq, List.cons_append] at heq
    obtain ⟨rfl, hbody⟩ := AggregateKind.eq_of_keyword_append heq
    simp only [List.append_cancel_left_eq, List.cons.injEq, true_and] at hbody
    obtain ⟨rfl, hend⟩ :=
      eq_of_declarations_append fields fields' columns hmembers hmembers' hfields hfields' hbody
    obtain ⟨rfl, hr⟩ := eq_of_nestedEnd_append hname hname' hend
    exact ⟨rfl, hr⟩
  | .scalar name t, .scalar name' t', _, _, _, _, _, h, h', hf, hg, heq =>
    eq_of_leaf_append none none h h' (List.forall_mem_singleton.mp hf)
      (List.forall_mem_singleton.mp hg) heq
  | .scalar name t, .bits name' t' width', _, _, _, _, _, h, h', hf, hg, heq =>
    eq_of_leaf_append none (some width') h h'
      (List.forall_mem_singleton.mp hf) (List.forall_mem_singleton.mp hg) heq
  | .bits name t width, .scalar name' t', _, _, _, _, _, h, h', hf, hg, heq =>
    eq_of_leaf_append (some width) none h h'
      (List.forall_mem_singleton.mp hf) (List.forall_mem_singleton.mp hg) heq
  | .bits name t width, .bits name' t' width', _, _, _, _, _, h, h', hf, hg, heq =>
    eq_of_leaf_append (some width) (some width') h h'
      (List.forall_mem_singleton.mp hf) (List.forall_mem_singleton.mp hg) heq
  | .scalar _ _, .nested _ _ _, _, _, _, _, _, h, h', _, _, heq =>
    absurd heq (leaf_append_ne_nested_append none h h')
  | .bits _ _ width, .nested _ _ _, _, _, _, _, _, h, h', _, _, heq =>
    absurd heq (leaf_append_ne_nested_append (some width) h h')
  | .nested _ _ _, .scalar _ _, _, _, _, _, _, h, h', _, _, heq =>
    absurd heq.symm (leaf_append_ne_nested_append none h' h)
  | .nested _ _ _, .bits _ _ width, _, _, _, _, _, h, h', _, _, heq =>
    absurd heq.symm (leaf_append_ne_nested_append (some width) h' h)

theorem eq_of_declarations_append : ∀ (fields fields' : List Field) (columns : Nat)
    {s s' : String} {r r' : List Char}, declarations (columns + 2) fields = some s →
    declarations (columns + 2) fields' = some s' →
    (∀ h ∈ allWithInner fields, h.IsIdentified) → (∀ h ∈ allWithInner fields', h.IsIdentified) →
    s.toList ++ (List.replicate columns ' ' ++ '\x7d' :: r) =
      s'.toList ++ (List.replicate columns ' ' ++ '\x7d' :: r') → fields = fields' ∧ r = r'
  | [], [], columns, _, _, r, r', h, h', _, _, heq => by
    cases h
    cases h'
    simpa using heq
  | [], field' :: fields', columns, _, s', r, r', h, h', _, _, heq => by
    cases h
    obtain ⟨s₁, s₂, h₁, -, rfl⟩ := declarations_cons_eq_some h'
    rw [String.toList_append, List.append_assoc] at heq
    exact absurd heq (brace_ne_declaration_append h₁)
  | field :: fields, [], columns, s, _, r, r', h, h', _, _, heq => by
    cases h'
    obtain ⟨s₁, s₂, h₁, -, rfl⟩ := declarations_cons_eq_some h
    rw [String.toList_append, List.append_assoc] at heq
    exact absurd heq.symm (brace_ne_declaration_append h₁)
  | field :: fields, field' :: fields', columns, s, s', r, r', h, h', hf, hf', heq => by
    obtain ⟨s₁, s₂, h₁, h₂, rfl⟩ := declarations_cons_eq_some h
    obtain ⟨s₁', s₂', h₁', h₂', rfl⟩ := declarations_cons_eq_some h'
    obtain ⟨hfield, hfields⟩ := List.forall_mem_append.mp hf
    obtain ⟨hfield', hfields'⟩ := List.forall_mem_append.mp hf'
    simp only [String.toList_append, List.append_assoc] at heq
    obtain ⟨rfl, hrest⟩ := eq_of_declaration_append field field' h₁ h₁' hfield hfield' heq
    obtain ⟨rfl, hr⟩ :=
      eq_of_declarations_append fields fields' columns h₂ h₂' hfields hfields' hrest
    exact ⟨rfl, hr⟩

end

/-! ## Characters of a declaration -/

/-- A character of a word, or a mark that stands between words in the C text of a type. -/
def IsWordOrMark (c : Char) : Prop :=
  Text.isWord c = true ∨ c ∈ [' ', '\n', '\x7b', '\x7d', ';', ':', ',', '*']

instance (c : Char) : Decidable (IsWordOrMark c) :=
  inferInstanceAs (Decidable (_ ∨ _))

/-- The text has words and marks only. -/
def IsPlain (text : List Char) : Prop :=
  ∀ c ∈ text, IsWordOrMark c

instance (text : List Char) : Decidable (IsPlain text) :=
  List.decidableBAll _ text

theorem isPlain_append {text text' : List Char} :
    IsPlain (text ++ text') ↔ IsPlain text ∧ IsPlain text' :=
  List.forall_mem_append

theorem isPlain_cons {c : Char} {text : List Char} :
    IsPlain (c :: text) ↔ IsWordOrMark c ∧ IsPlain text :=
  List.forall_mem_cons

theorem isPlain_of_isIdentifier {name : List Char} (h : IsIdentifier name) : IsPlain name :=
  fun c hc => Or.inl (h.2 c hc)

theorem isPlain_replicate (columns : Nat) : IsPlain (List.replicate columns ' ') := by
  intro c hc
  rw [List.eq_of_mem_replicate hc]
  decide

theorem isPlain_keyword (kind : AggregateKind) : IsPlain kind.keyword.toList := by
  cases kind <;> decide

theorem isPlain_leaf {n : String} {t : Scalar} {width : Option Nat} (hn : IsIdentifier n.toList) :
    IsPlain (List.replicate columns ' ' ++
      (t.spelling.toList ++ ' ' :: (n.toList ++ leafEnd width))) := by
  have hspelling : IsPlain t.spelling.toList := by
    cases t <;> decide
  have hend : IsPlain (leafEnd width) := by
    cases width with
    | none => decide
    | some width =>
      have hrepr : IsPlain (Nat.repr width).toList :=
        fun c hc => Or.inl (Text.isWord_of_mem_repr width c hc)
      exact isPlain_append.mpr ⟨isPlain_append.mpr ⟨by decide, hrepr⟩, by decide⟩
  simp only [isPlain_append, isPlain_cons]
  exact ⟨isPlain_replicate columns, hspelling, by decide, isPlain_of_isIdentifier hn, hend⟩

theorem isPlain_nestedEnd {name : Option String} (hn : ∀ n ∈ name, IsIdentifier n.toList) :
    IsPlain (nestedEnd name) := by
  cases name with
  | none => decide
  | some n =>
    have hname : IsPlain n.toList := isPlain_of_isIdentifier (hn n rfl)
    simp only [nestedEnd, nameSuffix, String.toList_append, isPlain_append]
    exact ⟨⟨by decide, hname⟩, by decide⟩

mutual

/-- Names, numbers and the marks between them are all that a declaration has. -/
theorem isPlain_declaration : ∀ (f : Field) {columns : Nat} {s : String},
    f.declaration columns = some s → (∀ g ∈ f.withInner, g.IsIdentified) → IsPlain s.toList
  | .scalar name t, columns, s, h, hf => by
    obtain ⟨n, rfl, hs⟩ := toList_declaration_leaf none h
    have hn : IsIdentifier n.toList := List.forall_mem_singleton.mp hf n rfl
    rw [hs]
    exact isPlain_leaf hn
  | .bits name t width, columns, s, h, hf => by
    obtain ⟨n, rfl, hs⟩ := toList_declaration_leaf (some width) h
    have hn : IsIdentifier n.toList := List.forall_mem_singleton.mp hf n rfl
    rw [hs]
    exact isPlain_leaf hn
  | .nested name kind fields, columns, s, h, hf => by
    obtain ⟨hname, hfields⟩ := List.forall_mem_cons.mp hf
    obtain ⟨members, hmembers, hs⟩ := toList_declaration_nested h
    have hcolumns := isPlain_replicate columns
    have hbody := isPlain_declarations fields hmembers hfields
    rw [hs]
    simp only [isPlain_append, isPlain_cons]
    exact ⟨hcolumns, isPlain_keyword kind, by decide, hcolumns, by decide, by decide, hbody,
      hcolumns, by decide, isPlain_nestedEnd hname⟩

theorem isPlain_declarations : ∀ (fields : List Field) {columns : Nat} {s : String},
    declarations columns fields = some s → (∀ g ∈ allWithInner fields, g.IsIdentified) →
    IsPlain s.toList
  | [], columns, s, h, _ => by
    cases h
    exact nofun
  | field :: fields, columns, s, h, hf => by
    obtain ⟨s₁, s₂, h₁, h₂, rfl⟩ := declarations_cons_eq_some h
    obtain ⟨hfield, hfields⟩ := List.forall_mem_append.mp hf
    rw [String.toList_append, isPlain_append]
    exact ⟨isPlain_declaration field h₁ hfield, isPlain_declarations fields h₂ hfields⟩

end

end Field

/-! ## Types -/

namespace Supplement

theorem declaration_eq_some_iff {t : Supplement} {text : String} :
    t.declaration = some text ↔ ∃ members, Field.declarations 2 t.layout.fields = some members ∧
      text.toList = "typedef ".toList ++ (t.layout.kind.keyword.toList ++ ' ' :: (t.tag.toList ++
        '\n' :: '\x7b' :: '\n' :: (members.toList ++ '\x7d' :: ' ' :: (t.typedefName.toList ++
          ',' :: ' ' :: '*' :: (t.pointerName.toList ++ [';', '\n']))))) := by
  have hzero : indentation 0 = "" := by decide
  simp only [declaration, Aggregate.body, Option.map_map, Option.map_eq_some_iff,
    ← String.toList_inj, Function.comp_apply]
  refine exists_congr fun members => and_congr_right fun _ => ?_
  simp [braced, hzero, eq_comm]

theorem render_eq_ok_iff {t : Supplement} {text : String} :
    t.render = .ok text ↔ t.declaration = some text := by
  unfold render
  cases t.declaration <;> simp

/-- Exactly the types whose scalars and bit-fields have names can be written. -/
theorem exists_render_iff (t : Supplement) :
    (∃ text, t.render = .ok text) ↔ t.layout.IsNamed := by
  have hfields := Field.isSome_declarations_iff 2 t.layout.fields
  rw [Aggregate.IsNamed, ← hfields, Option.isSome_iff_exists]
  simp only [render_eq_ok_iff, declaration, Aggregate.body, Option.map_map]
  simp

/-- **Exactly the types whose scalars and bit-fields have names can be written, and the text of a
type determines its names and its layout.** -/
theorem render_ok_iff_and_unique :
    (∀ t : Supplement, (∃ text, t.render = .ok text) ↔ t.layout.IsNamed) ∧
    ∀ (t u : Supplement) (text : String), t.IsIdentified → u.IsIdentified →
      t.render = .ok text → u.render = .ok text →
      t.tag = u.tag ∧ t.typedefName = u.typedefName ∧ t.pointerName = u.pointerName ∧
        t.layout = u.layout := by
  refine ⟨exists_render_iff, fun t u text ht hu hr hr' => ?_⟩
  obtain ⟨members, hmembers, htext⟩ := declaration_eq_some_iff.mp (render_eq_ok_iff.mp hr)
  obtain ⟨members', hmembers', htext'⟩ := declaration_eq_some_iff.mp (render_eq_ok_iff.mp hr')
  rw [htext, List.append_cancel_left_eq] at htext'
  -- The text is read from its front: the keyword, the tag, the members, and the two typedef names.
  obtain ⟨hkind, htail⟩ := AggregateKind.eq_of_keyword_append htext'
  obtain ⟨htag, -, hbody⟩ :=
    eq_of_identifier_append ht.tag hu.tag (by decide) (by decide) htail
  simp only [List.cons.injEq, true_and] at hbody
  obtain ⟨hfields, hend⟩ := Field.eq_of_declarations_append _ _ 0 hmembers hmembers'
    ht.layout hu.layout hbody
  obtain ⟨htypedef, -, hpointer⟩ := eq_of_identifier_append ht.typedefName hu.typedefName
    (by decide) (by decide) (List.cons.inj hend).2
  simp only [List.cons.injEq, true_and] at hpointer
  obtain ⟨hpointer, -, -⟩ := eq_of_identifier_append ht.pointerName hu.pointerName
    (by decide) (by decide) hpointer
  exact ⟨htag, htypedef, hpointer, Aggregate.eq_of_kind_of_fields hkind hfields⟩

theorem isIdentified_segmentDescriptor : segmentDescriptor.IsIdentified :=
  ⟨by decide, by decide, by decide, by decide⟩

theorem isIdentified_of_mem_known {t : Supplement} (h : t ∈ known) : t.IsIdentified := by
  simp only [known, List.mem_cons, List.not_mem_nil, or_false] at h
  rcases h with rfl | rfl
  · exact isIdentified_segmentDescriptor
  · exact ⟨by decide, by decide, by decide, by decide⟩

/-- The reason and the expected size of a type are no part of its text. -/
theorem render_unique_segment : ∃ text, segmentDescriptor.IsIdentified ∧
    { segmentDescriptor with reason := "", expectedSize := 0 }.IsIdentified ∧
    segmentDescriptor.render = .ok text ∧
    { segmentDescriptor with reason := "", expectedSize := 0 }.render = .ok text ∧
    segmentDescriptor.layout =
      { segmentDescriptor with reason := "", expectedSize := 0 }.layout := by
  have ht := isIdentified_segmentDescriptor
  have hu : { segmentDescriptor with reason := "", expectedSize := 0 }.IsIdentified :=
    ⟨ht.tag, ht.typedefName, ht.pointerName, ht.layout⟩
  obtain ⟨text, hr⟩ := (exists_render_iff segmentDescriptor).mpr (by decide)
  exact ⟨text, ht, hu, hr, hr, (render_ok_iff_and_unique.2 _ _ text ht hu hr hr).2.2.2⟩

end Supplement

end KitSurface
