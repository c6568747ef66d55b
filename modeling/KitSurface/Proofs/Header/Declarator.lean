import KitSurface.Proofs.Header.Scan
import Mathlib.Data.List.TakeWhile
/-!
Declarators as they are written: stars and blanks, a name, and blanks. Main statements: the
declarators of a written list are read back, also behind the name of a base type
(`DeclaratorList.ofList_append`), and the declarators that are read of any list are those that are
written in it (`Declarator.mem_ofList_iff`).
-/

namespace KitSurface.Header

/-- A declarator as it is written. -/
structure WrittenDeclarator where
  before : List Char
  name : List Char
  after : List Char
  starred : ∀ c ∈ before, c = '*' ∨ Text.isBlank c = true
  named : IsIdentifier name
  blank : IsBlank after

namespace WrittenDeclarator

def text (d : WrittenDeclarator) : List Char :=
  d.before ++ d.name ++ d.after

/-- The name of a declarator, and whether a star stands before it. -/
def declarator (d : WrittenDeclarator) : Declarator :=
  ⟨d.name, d.before.contains '*'⟩

theorem starred_space : ∀ c ∈ [' '], c = '*' ∨ Text.isBlank c = true :=
  List.forall_mem_singleton.mpr (Or.inr rfl)

theorem starred_pointer : ∀ c ∈ [' ', '*'], c = '*' ∨ Text.isBlank c = true :=
  List.forall_mem_cons.mpr ⟨Or.inr rfl, List.forall_mem_singleton.mpr (Or.inl rfl)⟩

theorem of_mem_text {d : WrittenDeclarator} {c : Char} (h : c ∈ d.text) :
    c = '*' ∨ Text.isBlank c = true ∨ Text.isWord c = true := by
  rcases List.mem_append.mp h with h | h
  · rcases List.mem_append.mp h with h | h
    · exact (d.starred c h).imp_right Or.inl
    · exact Or.inr (Or.inr (d.named.2 c h))
  · exact Or.inr (Or.inl (d.blank c h))

theorem isPlain_text (d : WrittenDeclarator) : IsPlain d.text := by
  intro c hc
  rcases of_mem_text hc with rfl | h | h
  · rfl
  · exact Statement.isPlain_of_isBlank h
  · exact Statement.isPlain_of_isWord h

theorem isPlain_append (d : WrittenDeclarator) {front back : List Char} (hfront : IsPlain front)
    (hback : IsPlain back) : IsPlain (front ++ d.text ++ back) :=
  List.forall_mem_append.mpr ⟨List.forall_mem_append.mpr ⟨hfront, d.isPlain_text⟩, hback⟩

theorem not_mem_text (d : WrittenDeclarator) {c : Char} (h : c ≠ '*' ∧ Text.isBlank c = false ∧
    Text.isWord c = false) : c ∉ d.text := by
  intro hc
  rcases of_mem_text hc with hstar | hblank | hword
  · exact h.1 hstar
  · rw [h.2.1] at hblank
    cases hblank
  · rw [h.2.2] at hword
    cases hword

end WrittenDeclarator

namespace Declarator

/-- Behind stars and blanks the last character that is not blank is a star if any is. -/
theorem head?_dropBlanks_append {stars rest : List Char}
    (h : ∀ c ∈ stars, c = '*' ∨ Text.isBlank c = true)
    (hrest : (Text.dropBlanks rest).head? ≠ some '*') :
    ((Text.dropBlanks (stars ++ rest)).head? == some '*') = stars.contains '*' := by
  induction stars with
  | nil => simpa using hrest
  | cons c stars ih =>
    obtain ⟨hc, hstars⟩ := List.forall_mem_cons.mp h
    rcases hc with rfl | hc
    · rfl
    · have hne : ¬ '*' = c := by
        intro he
        subst he
        cases hc
      have hdrop : Text.dropBlanks (c :: (stars ++ rest)) = Text.dropBlanks (stars ++ rest) :=
        List.dropWhile_cons_of_pos hc
      rw [List.cons_append, hdrop, ih hstars]
      simp [hne]

theorem span_name {name rest : List Char} (h : ∀ c ∈ name, Text.isWord c = true)
    (hrest : rest.head?.any Text.isWord = false) :
    (name ++ rest).takeWhile Text.isWord = name ∧ (name ++ rest).dropWhile Text.isWord = rest := by
  rw [List.takeWhile_append_of_pos h, List.dropWhile_append_of_pos h]
  cases rest with
  | nil => simp
  | cons c rest =>
    have hc : Text.isWord c = false := by simpa using hrest
    simp [hc]

/-- **A written declarator is read back** behind a text that does not end in a star or run into its
name. -/
theorem ofText?_append (front : List Char) (d : WrittenDeclarator)
    (hstar : (Text.dropBlanks front.reverse).head? ≠ some '*')
    (hword : d.before = [] → front.getLast?.any Text.isWord = false) :
    ofText? (front ++ d.text) = some d.declarator := by
  have hrev : (front ++ d.text).reverse =
      d.after.reverse ++ (d.name.reverse ++ (d.before.reverse ++ front.reverse)) := by
    simp [WrittenDeclarator.text]
  -- A declarator is read from its end: the blanks behind the name, the name, and what is before it.
  have hname : ∀ c ∈ d.name.reverse, Text.isWord c = true :=
    fun c hc => d.named.2 c (List.mem_reverse.mp hc)
  have hdrop : Text.dropBlanks (front ++ d.text).reverse =
      d.name.reverse ++ (d.before.reverse ++ front.reverse) := by
    rw [hrev, dropBlanks_append fun c hc => d.blank c (List.mem_reverse.mp hc)]
    refine dropBlanks_eq_self ?_
    obtain ⟨c, name, heq⟩ := List.exists_cons_of_ne_nil (List.reverse_ne_nil_iff.mpr d.named.1)
    rw [heq] at hname ⊢
    exact isBlank_of_isWord (hname c List.mem_cons_self)
  have hrest : (d.before.reverse ++ front.reverse).head?.any Text.isWord = false := by
    cases hbefore : d.before.reverse with
    | nil =>
      rw [List.nil_append, List.head?_reverse]
      exact hword (List.reverse_eq_nil_iff.mp hbefore)
    | cons c before =>
      have hc : c ∈ d.before := List.mem_reverse.mp (hbefore ▸ List.mem_cons_self)
      rcases d.starred c hc with rfl | hc
      · rfl
      · exact Text.isWord_of_isBlank hc
  obtain ⟨htake, hdropName⟩ := span_name hname hrest
  have hne : d.name.isEmpty = false := List.isEmpty_eq_false_iff.mpr d.named.1
  simp only [ofText?, hdrop, htake, hdropName, List.reverse_reverse, hne]
  rw [head?_dropBlanks_append (fun c hc => d.starred c (List.mem_reverse.mp hc)) hstar]
  simp [WrittenDeclarator.declarator]

theorem ofText?_eq_none {text : List Char}
    (h : (Text.dropBlanks text.reverse).head?.any Text.isWord = false) : ofText? text = none := by
  unfold ofText?
  cases hdrop : Text.dropBlanks text.reverse with
  | nil => rfl
  | cons c rest =>
    rw [hdrop] at h
    have hc : Text.isWord c = false := h
    simp [hc]

theorem ofList_append_cons (a b : List Char) :
    ofList (a ++ ',' :: b) = ofList a ++ ofList b := by
  simp [ofList, List.splitOn_eq_splitOnP, List.splitOnP_append_cons]

theorem ofList_of_not_mem {text : List Char} (h : ',' ∉ text) :
    ofList text = (ofText? text).toList := by
  have hsplit := List.splitOn_intercalate ',' (by simpa using h) (List.cons_ne_nil text [])
  rw [List.intercalate_singleton] at hsplit
  rw [ofList, hsplit]
  cases hd : ofText? text <;> simp [hd]

/-- A written declarator in a list: before it stands the base type or the comma of another
declarator, and behind it nothing or a comma. -/
structure IsListed (d : WrittenDeclarator) (front back : List Char) : Prop where
  apart : d.before = [] → front.getLast?.any Text.isWord = false
  noStar : (Text.dropBlanks front.reverse).head? ≠ some '*'
  ends : back = [] ∨ ∃ rest, back = ',' :: rest

/-- What stands before the last comma in front of a declarator has no part in it. -/
theorem IsListed.of_append {d : WrittenDeclarator} {a front back : List Char}
    (h : IsListed d (a ++ ',' :: front) back) : IsListed d front back where
  apart := by
    intro hbefore
    have happart := h.apart hbefore
    rcases List.eq_nil_or_concat front with rfl | ⟨front, c, rfl⟩
    · rfl
    · simpa [List.getLast?_cons] using happart
  noStar := by
    have hnoStar := h.noStar
    rw [List.reverse_append, List.reverse_cons, List.append_assoc] at hnoStar
    by_cases hnil : Text.dropBlanks front.reverse = []
    · rw [hnil]
      nofun
    · rwa [head?_dropBlanks_append_of_ne_nil hnil] at hnoStar
  ends := h.ends

/-- What stands before the base type has no part in a declarator. -/
theorem IsListed.prepend {d : WrittenDeclarator} {front back : List Char}
    (h : IsListed d front back) {c : Char} (hc : c ∈ front) (hblank : Text.isBlank c = false)
    (lead : List Char) : IsListed d (lead ++ front) back where
  apart := by
    intro hbefore
    rw [List.getLast?_append_of_ne_nil lead (List.ne_nil_of_mem hc)]
    exact h.apart hbefore
  noStar := by
    have hne : Text.dropBlanks front.reverse ≠ [] := by
      rw [Text.dropBlanks, ne_eq, List.dropWhile_eq_nil_iff]
      intro hall
      rw [hall c (List.mem_reverse.mpr hc)] at hblank
      cases hblank
    rw [List.reverse_append, head?_dropBlanks_append_of_ne_nil hne]
    exact h.noStar
  ends := h.ends

/-- **A declarator of a list is read back**, whatever else stands in the list. -/
theorem mem_ofList_append {d : WrittenDeclarator} {front back : List Char}
    (h : IsListed d front back) : d.declarator ∈ ofList (front ++ d.text ++ back) := by
  have hread : ∀ {x : List Char}, IsListed d x back → ',' ∉ x →
      d.declarator ∈ ofList (x ++ d.text) := by
    intro x hx hcomma
    have htext : ',' ∉ x ++ d.text := by
      simpa [hcomma] using d.not_mem_text (by decide)
    rw [ofList_of_not_mem htext, ofText?_append x d hx.noStar hx.apart]
    exact List.mem_singleton_self _
  have hfront : d.declarator ∈ ofList (front ++ d.text) := by
    by_cases hcomma : ',' ∈ front
    · -- The declarator stands behind the last comma of `front`.
      obtain ⟨x, a, heq, hx⟩ := List.eq_append_cons_of_mem (List.mem_reverse.mpr hcomma)
      have hsplit : front = a.reverse ++ ',' :: x.reverse := by
        rw [← List.reverse_reverse front, heq]
        simp
      subst hsplit
      rw [List.append_assoc, List.cons_append, ofList_append_cons]
      exact List.mem_append_right _ (hread h.of_append (by simpa using hx))
    · exact hread h hcomma
  rcases h.ends with rfl | ⟨rest, rfl⟩
  · rwa [List.append_nil]
  · rw [ofList_append_cons]
    exact List.mem_append_left _ hfront

theorem IsListed.append_comma {d : WrittenDeclarator} {front back : List Char}
    (h : IsListed d front back) (a : List Char) : IsListed d (a ++ ',' :: front) back where
  apart := by
    intro hbefore
    have happart := h.apart hbefore
    rw [List.getLast?_append_of_ne_nil a (List.cons_ne_nil _ _), List.getLast?_cons]
    cases hlast : front.getLast? with
    | none => decide
    | some c =>
      rw [hlast] at happart
      exact happart
  noStar := by
    rw [List.reverse_append, List.reverse_cons, List.append_assoc]
    by_cases hnil : Text.dropBlanks front.reverse = []
    · have hblank : IsBlank front.reverse := List.dropWhile_eq_nil_iff.mp hnil
      rw [dropBlanks_append hblank, dropBlanks_eq_self (by rfl)]
      simp
    · rw [head?_dropBlanks_append_of_ne_nil hnil]
      exact h.noStar
  ends := h.ends

/-- A text is cut where its first characters of a class end. -/
theorem exists_cut (p : Char → Bool) (text : List Char) : ∃ front rest, text = front ++ rest ∧
    (∀ c ∈ front, p c = true) ∧ rest.head?.any p = false := by
  refine ⟨text.takeWhile p, text.dropWhile p, List.takeWhile_append_dropWhile.symm, ?_, ?_⟩
  · exact fun c hc => List.all_eq_true.mp List.all_takeWhile c hc
  · have hhead := List.head?_dropWhile_not p text
    cases h : (text.dropWhile p).head? with
    | none => rfl
    | some c => simpa [h] using hhead

theorem exists_of_ofText? {text : List Char} {d' : Declarator} (h : ofText? text = some d') :
    ∃ (d : WrittenDeclarator) (front : List Char),
      text = front ++ d.text ∧ IsListed d front [] ∧ d.declarator = d' := by
  obtain ⟨blanks, hblanks, hreversed⟩ := exists_dropBlanks text.reverse
  obtain ⟨name, rest, hname, hword, hrest⟩ :=
    exists_cut Text.isWord (Text.dropBlanks text.reverse)
  obtain ⟨stars, front, rfl, hstars, hfront⟩ :=
    exists_cut (fun c => c == '*' || Text.isBlank c) rest
  have hne : name ≠ [] := by
    intro hnil
    rw [hnil, List.nil_append] at hname
    rw [ofText?_eq_none (hname ▸ hrest)] at h
    cases h
  obtain ⟨d, hbefore, htext⟩ : ∃ d : WrittenDeclarator,
      d.before = stars.reverse ∧ text = front.reverse ++ d.text := by
    refine ⟨⟨stars.reverse, name.reverse, blanks.reverse, ?_, ⟨?_, ?_⟩, ?_⟩, rfl, ?_⟩
    · exact fun c hc => by simpa using hstars c (List.mem_reverse.mp hc)
    · exact List.reverse_ne_nil_iff.mpr hne
    · exact fun c hc => hword c (List.mem_reverse.mp hc)
    · exact fun c hc => hblanks c (List.mem_reverse.mp hc)
    · rw [← List.reverse_reverse text, hreversed, hname]
      simp [WrittenDeclarator.text]
  have hlisted : IsListed d front.reverse [] := {
    apart := by
      intro hnil
      rw [hbefore] at hnil
      rw [List.reverse_eq_nil_iff.mp hnil, List.nil_append] at hrest
      rwa [List.getLast?_reverse]
    noStar := by
      rw [List.reverse_reverse]
      cases front with
      | nil => nofun
      | cons c front =>
        obtain ⟨hstar, hblank⟩ : c ≠ '*' ∧ Text.isBlank c = false := by simpa using hfront
        have hdrop : Text.dropBlanks (c :: front) = c :: front := dropBlanks_eq_self hblank
        rw [hdrop, List.head?_cons]
        exact fun hc => hstar (Option.some.inj hc)
    ends := Or.inl rfl }
  have hread := ofText?_append front.reverse d hlisted.noStar hlisted.apart
  rw [← htext, h] at hread
  exact ⟨d, front.reverse, htext, hlisted, (Option.some.inj hread).symm⟩

theorem exists_of_mem_ofList {text : List Char} {d' : Declarator} (h : d' ∈ ofList text) :
    ∃ (d : WrittenDeclarator) (front back : List Char),
      text = front ++ d.text ++ back ∧ IsListed d front back ∧ d.declarator = d' := by
  by_cases hcomma : ',' ∈ text
  · obtain ⟨a, b, rfl, ha⟩ := List.eq_append_cons_of_mem hcomma
    rw [ofList_append_cons] at h
    rcases List.mem_append.mp h with h | h
    · rw [ofList_of_not_mem ha, Option.mem_toList] at h
      obtain ⟨d, front, rfl, hlisted, hd⟩ := exists_of_ofText? h
      exact ⟨d, front, ',' :: b, rfl, ⟨hlisted.apart, hlisted.noStar, Or.inr ⟨b, rfl⟩⟩, hd⟩
    · obtain ⟨d, front, back, rfl, hlisted, hd⟩ := exists_of_mem_ofList h
      exact ⟨d, a ++ ',' :: front, back, by simp, hlisted.append_comma a, hd⟩
  · rw [ofList_of_not_mem hcomma, Option.mem_toList] at h
    obtain ⟨d, front, rfl, hlisted, hd⟩ := exists_of_ofText? h
    exact ⟨d, front, [], (List.append_nil _).symm, hlisted, hd⟩
termination_by text.length
decreasing_by subst_vars; simp; omega

/-- **The declarators of a list are those that are written in it.** -/
theorem mem_ofList_iff {text : List Char} {d' : Declarator} : d' ∈ ofList text ↔
    ∃ (d : WrittenDeclarator) (front back : List Char),
      text = front ++ d.text ++ back ∧ IsListed d front back ∧ d.declarator = d' := by
  refine ⟨exists_of_mem_ofList, ?_⟩
  intro h
  obtain ⟨d, front, back, rfl, hlisted, rfl⟩ := h
  exact mem_ofList_append hlisted

end Declarator

/-- A list of declarators as it is written, with a comma between two of them. -/
structure DeclaratorList where
  first : WrittenDeclarator
  others : List WrittenDeclarator

namespace DeclaratorList

def all (l : DeclaratorList) : List WrittenDeclarator :=
  l.first :: l.others

def text (l : DeclaratorList) : List Char :=
  [','].intercalate (l.all.map WrittenDeclarator.text)

theorem of_mem_intercalate {p : Char → Prop} (hcomma : p ',') : ∀ {pieces : List (List Char)},
    (∀ piece ∈ pieces, ∀ c ∈ piece, p c) → ∀ c ∈ [','].intercalate pieces, p c
  | [], _, _, hc => absurd hc (by simp)
  | [piece], h, c, hc => h piece List.mem_cons_self c (by simpa using hc)
  | piece :: piece' :: pieces, h, c, hc => by
    obtain ⟨hpiece, hpieces⟩ := List.forall_mem_cons.mp h
    simp only [List.intercalate_cons_cons, List.mem_append, List.mem_singleton] at hc
    rcases hc with (hc | rfl) | hc
    · exact hpiece c hc
    · exact hcomma
    · exact of_mem_intercalate hcomma hpieces c hc

theorem of_mem_text {l : DeclaratorList} {c : Char} (h : c ∈ l.text) :
    c = ',' ∨ c = '*' ∨ Text.isBlank c = true ∨ Text.isWord c = true := by
  refine of_mem_intercalate (p := fun c => c = ',' ∨ c = '*' ∨ Text.isBlank c = true ∨
    Text.isWord c = true) (Or.inl rfl) ?_ c h
  intro piece hpiece c hc
  obtain ⟨d, -, rfl⟩ := List.mem_map.mp hpiece
  exact Or.inr (WrittenDeclarator.of_mem_text hc)

theorem isPlain_text (l : DeclaratorList) : IsPlain l.text := by
  intro c hc
  rcases of_mem_text hc with rfl | rfl | h | h
  · rfl
  · rfl
  · exact Statement.isPlain_of_isBlank h
  · exact Statement.isPlain_of_isWord h

theorem head?_text (l : DeclaratorList) (h : l.first.before ≠ []) :
    l.text.head? = l.first.before.head? := by
  obtain ⟨c, before, heq⟩ := List.exists_cons_of_ne_nil h
  unfold text all
  cases l.others with
  | nil => simp [WrittenDeclarator.text, heq]
  | cons d ds => simp [WrittenDeclarator.text, heq, List.intercalate_cons_cons]

theorem isWord_head?_text (l : DeclaratorList) (h : l.first.before ≠ []) :
    l.text.head?.any Text.isWord = false := by
  obtain ⟨c, before, heq⟩ := List.exists_cons_of_ne_nil h
  rw [l.head?_text h, heq]
  rcases l.first.starred c (heq ▸ List.mem_cons_self) with rfl | hc
  · rfl
  · exact Text.isWord_of_isBlank hc

/-- **The declarators of a list are read back**, also behind the name of a base type. -/
theorem ofList_append (l : DeclaratorList) {front : List Char} (hcomma : ',' ∉ front)
    (hstar : (Text.dropBlanks front.reverse).head? ≠ some '*')
    (hword : l.first.before = [] → front.getLast?.any Text.isWord = false) :
    Declarator.ofList (front ++ l.text) = l.all.map WrittenDeclarator.declarator := by
  have hfront : front ++ l.text =
      [','].intercalate ((front ++ l.first.text) :: l.others.map WrittenDeclarator.text) := by
    -- The base type belongs to the first piece of the split.
    unfold text all
    cases l.others with
    | nil => simp
    | cons d ds => simp [List.intercalate_cons_cons]
  have hpieces : ∀ piece ∈ (front ++ l.first.text) :: l.others.map WrittenDeclarator.text,
      ',' ∉ piece := by
    have htext : ∀ d : WrittenDeclarator, ',' ∉ d.text := fun d => d.not_mem_text (by decide)
    refine List.forall_mem_cons.mpr ⟨fun h => ?_, fun piece hpiece => ?_⟩
    · exact (List.mem_append.mp h).elim hcomma (htext l.first)
    · obtain ⟨d, -, rfl⟩ := List.mem_map.mp hpiece
      exact htext d
  have hothers : (l.others.map WrittenDeclarator.text).filterMap Declarator.ofText? =
      l.others.map WrittenDeclarator.declarator := by
    have heq : Declarator.ofText? ∘ WrittenDeclarator.text =
        some ∘ WrittenDeclarator.declarator :=
      funext fun d => Declarator.ofText?_append [] d (by simp [Text.dropBlanks]) (fun _ => rfl)
    rw [List.filterMap_map, heq, List.filterMap_eq_map]
  rw [Declarator.ofList, hfront, List.splitOn_intercalate _ hpieces (List.cons_ne_nil _ _),
    List.filterMap_cons_some (Declarator.ofText?_append front l.first hstar hword), hothers]
  rfl

end DeclaratorList

end KitSurface.Header
