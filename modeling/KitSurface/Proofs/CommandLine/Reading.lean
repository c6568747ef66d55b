import KitSurface.CommandLine.Command
import KitSurface.Proofs.Context
import KitSurface.Proofs.Traversal
import KitSurface.Proofs.Version
import Mathlib.Data.List.Forall2
import Mathlib.Data.List.Nodup
/-!
Reading the arguments that say which surface a command is about. A value is looked at only when the
next argument is known, so that what is read so far is what there is once the pending argument is
looked at (`Progress.Settles`). From there the words of one argument add what it says and nothing
else (`exists_readWords`), and so do those of any number of arguments, in the order of the words
(`exists_readAll`). Main statement: arguments that stand once each are gathered whole, whatever their
order (`exists_read`).
-/

namespace KitSurface.CommandLine

/-! ## What arguments say -/

/-- What one argument says about the surfaces of a command. -/
inductive Setting where
  | toggle (t : Toggle)
  | version (v : Version)
  | context (c : BuildContext)
  | first (c : BuildContext)
  | second (c : BuildContext)
  deriving DecidableEq, Repr

namespace Setting

def argument : Setting → Argument
  | toggle t => .toggle t
  | version _ => .spbCxVersion
  | context _ => .context
  | first _ => .firstContext
  | second _ => .secondContext

/-- The argument has no name, so that its place tells which one it is. -/
def isPositional (x : Setting) : Bool :=
  x.argument.long?.isNone

/-- A text is read as the value of an argument; a toggle has none. -/
def IsReadFrom : Setting → String → Prop
  | toggle _, _ => False
  | version v, text => Version.parse text = .ok v
  | context c, text | first c, text | second c, text => BuildContext.parse text = .ok c

/-- The words of an argument: a flag, an option with its value as the next word or behind an equals
sign, or the value alone where the argument has no name. -/
inductive IsWritten : Setting → List String → Prop
  | flag (t : Toggle) : IsWritten (toggle t) ["--" ++ Argument.toggleName t]
  | separate {x : Setting} {name text : String} (hname : x.argument.long? = some name)
    (htext : x.IsReadFrom text) : IsWritten x ["--" ++ name, text]
  | joined {x : Setting} {name text : String} (hname : x.argument.long? = some name)
    (htext : x.IsReadFrom text) : IsWritten x ["--" ++ name ++ "=" ++ text]
  | plain {x : Setting} {text : String} (hname : x.argument.long? = none)
    (htext : x.IsReadFrom text) : IsWritten x [text]

variable {x : Setting} {text : String}

theorem isPositional_eq {name : Option String} (h : x.argument.long? = name) :
    x.isPositional = name.isNone := by
  rw [isPositional, h]

theorem exists_isWritten (x : Setting) : ∃ words, x.IsWritten words := by
  cases x with
  | toggle t => exact ⟨_, .flag t⟩
  | version v => exact ⟨_, .separate rfl (Version.parse_text v)⟩
  | context c => exact ⟨_, .separate rfl (BuildContext.parse_name c)⟩
  | first c => exact ⟨_, .plain rfl (BuildContext.parse_name c)⟩
  | second c => exact ⟨_, .plain rfl (BuildContext.parse_name c)⟩

theorem valueName?_of_isReadFrom (h : x.IsReadFrom text) : x.argument.valueName?.isSome = true := by
  cases x with
  | toggle => exact h.elim
  | _ => rfl

theorem head?_of_parse_context {c : BuildContext} (h : BuildContext.parse text = .ok c) :
    text.toList.head? ≠ some '-' := by
  obtain ⟨body, ⟨⟨front, back, htext, hfront, -⟩, -, -⟩, hbody⟩ := BuildContext.parse_eq_ok_iff.mp h
  have hspellings : ∀ s ∈ c.spellings, s.toList.head?.any (· != '-') = true := by
    cases c <;> decide +kernel
  have hhead := hspellings _ hbody
  rw [String.toList_map, List.head?_map, Option.any_map] at hhead
  intro hdash
  rw [htext] at hdash
  cases front with
  | nil =>
    cases hlist : body.toList with
    | nil =>
      rw [hlist] at hhead
      cases hhead
    | cons d rest =>
      rw [hlist] at hhead hdash
      obtain rfl : d = '-' := Option.some.inj hdash
      have hlower : ('-'.toLower != '-') = true := hhead
      exact absurd hlower (by decide)
  | cons d front =>
    obtain rfl : d = '-' := Option.some.inj hdash
    exact absurd (hfront '-' List.mem_cons_self) (by decide)

theorem head?_of_parse_version {v : Version} (h : Version.parse text = .ok v) :
    text.toList.head? ≠ some '-' := by
  obtain ⟨major, minor, htext, hmajor, -⟩ :=
    Version.parse?_eq_some_iff.mp (Version.parse_eq_ok_iff.mp h)
  rw [htext]
  generalize v.major.toNat = number at hmajor
  cases hmajor with
  | plain hne hdigits =>
    obtain ⟨d, rest, rfl⟩ := List.exists_cons_of_ne_nil hne
    intro hdash
    obtain rfl : d = '-' := Option.some.inj hdash
    exact absurd (hdigits '-' List.mem_cons_self) (by decide)
  | signed _ _ => exact fun hdash => absurd (Option.some.inj hdash) (by decide)

theorem head?_of_isReadFrom (h : x.IsReadFrom text) : text.toList.head? ≠ some '-' := by
  cases x with
  | toggle t => exact h.elim
  | version v => exact head?_of_parse_version h
  | context c => exact head?_of_parse_context h
  | first c => exact head?_of_parse_context h
  | second c => exact head?_of_parse_context h

end Setting

/-- The words of arguments in any order. Those without a name keep the order in which they are asked
for. -/
def AreWritten (xs : List Setting) (words : List String) : Prop :=
  ∃ ys pieces, ys.Perm xs ∧ ys.filter Setting.isPositional = xs.filter Setting.isPositional ∧
    List.Forall₂ Setting.IsWritten ys pieces ∧ words = pieces.flatten

theorem exists_areWritten (xs : List Setting) : ∃ words, AreWritten xs words := by
  have hpieces : ∃ pieces, List.Forall₂ Setting.IsWritten xs pieces := by
    induction xs with
    | nil => exact ⟨[], .nil⟩
    | cons x xs ih =>
      obtain ⟨words, hwords⟩ := x.exists_isWritten
      obtain ⟨pieces, hpieces⟩ := ih
      exact ⟨words :: pieces, .cons hwords hpieces⟩
  obtain ⟨pieces, hpieces⟩ := hpieces
  exact ⟨_, xs, pieces, .rfl, rfl, hpieces, rfl⟩

/-! ## What is gathered -/

namespace Given

/-- What is gathered, with what one more argument says. -/
def put (g : Given) : Setting → Given
  | .toggle t => { g with toggles := g.toggles ++ [t] }
  | .version v => { g with spbCxVersion := some v }
  | .context c => { g with context := some c }
  | .first c => { g with firstContext := some c }
  | .second c => { g with secondContext := some c }

/-- What an argument says is among what is gathered. -/
def Holds (g : Given) : Setting → Prop
  | .toggle t => t ∈ g.toggles
  | .version v => g.spbCxVersion = some v
  | .context c => g.context = some c
  | .first c => g.firstContext = some c
  | .second c => g.secondContext = some c

variable {g : Given} {x y : Setting} {xs : List Setting} {text : String}

theorem has_put (g : Given) (x : Setting) (a : Argument) :
    (g.put x).has a = (decide (a = x.argument) || g.has a) := by
  cases x <;> cases a <;> simp [put, has, count?, Setting.argument, Bool.or_comm]

theorem counts_put (g : Given) (x : Setting) : (g.put x).counts = g.counts := by
  cases x <;> rfl

theorem holds_put (g : Given) (x : Setting) : (g.put x).Holds x := by
  cases x with
  | toggle t => exact List.mem_append_right _ List.mem_cons_self
  | _ => rfl

theorem Holds.put (h : g.Holds y) (hne : x.argument ≠ y.argument) : (g.put x).Holds y := by
  cases x with
  | toggle t =>
    cases y with
    | toggle u => exact List.mem_append_left _ h
    | _ => exact h
  | _ => cases y <;> first | exact absurd rfl hne | exact h

theorem has_empty (a : Argument) : ({} : Given).has a = false := by
  cases a <;> rfl

theorem has_foldl_put : ∀ (xs : List Setting) (g : Given) (a : Argument),
    (xs.foldl put g).has a = (decide (a ∈ xs.map Setting.argument) || g.has a)
  | [], g, a => by simp
  | x :: xs, g, a => by
    rw [List.foldl_cons, has_foldl_put xs, has_put, List.map_cons]
    simp only [List.mem_cons, Bool.decide_or, Bool.or_left_comm, Bool.or_assoc]

theorem counts_foldl_put : ∀ (xs : List Setting) (g : Given), (xs.foldl put g).counts = g.counts
  | [], _ => rfl
  | x :: xs, g => by rw [List.foldl_cons, counts_foldl_put xs, counts_put]

theorem Holds.foldl_put : ∀ {xs : List Setting} {g : Given}, g.Holds y →
    y.argument ∉ xs.map Setting.argument → (xs.foldl Given.put g).Holds y
  | [], _, h, _ => h
  | x :: xs, g, h, hy => by
    rw [List.map_cons, List.mem_cons, not_or] at hy
    exact (h.put (Ne.symm hy.1)).foldl_put hy.2

theorem holds_foldl_put (hnodup : (xs.map Setting.argument).Nodup) (g : Given) :
    ∀ x ∈ xs, (xs.foldl put g).Holds x := by
  induction xs generalizing g with
  | nil => simp
  | cons y xs ih =>
    obtain ⟨hy, hnodup⟩ := List.nodup_cons.mp hnodup
    exact List.forall_mem_cons.mpr ⟨(holds_put g y).foldl_put hy, ih hnodup (g.put y)⟩

/-- What is gathered is what these arguments say, and nothing else. -/
structure Gathers (g : Given) (xs : List Setting) : Prop where
  counts : g.counts = []
  holds : ∀ x ∈ xs, g.Holds x
  has : ∀ a, g.has a = decide (a ∈ xs.map Setting.argument)

theorem gathers_foldl_put (hnodup : (xs.map Setting.argument).Nodup) :
    (xs.foldl put {}).Gathers xs where
  counts := counts_foldl_put xs {}
  holds := holds_foldl_put hnodup {}
  has a := by rw [has_foldl_put, has_empty, Bool.or_false]

theorem Gathers.of_perm {ys : List Setting} (h : g.Gathers ys) (hperm : ys.Perm xs) :
    g.Gathers xs where
  counts := h.counts
  holds x hx := h.holds x (hperm.mem_iff.mpr hx)
  has a := by rw [h.has, decide_eq_decide, (hperm.map Setting.argument).mem_iff]

theorem setOption_eq_ok (hfresh : g.has x.argument = false) (h : x.IsReadFrom text) :
    g.setOption x.argument (some text) = .ok (g.put x) := by
  have hset : g.setOption x.argument (some text) = g.setValue x.argument text :=
    if_neg (Bool.not_eq_true _ ▸ hfresh)
  have hcontext : ∀ {c : BuildContext} {a : Argument}, BuildContext.parse text = .ok c →
      contextOf a text = .ok c := fun hc => by rw [contextOf, hc]; rfl
  rw [hset]
  cases x with
  | toggle t => exact h.elim
  | version v =>
    have hversion : Version.parse text = .ok v := h
    rw [Setting.argument, setValue, hversion]
    rfl
  | context c =>
    rw [Setting.argument, setValue, hcontext h]
    rfl
  | first c =>
    rw [Setting.argument, setValue, hcontext h]
    rfl
  | second c =>
    rw [Setting.argument, setValue, hcontext h]
    rfl

theorem setFlag_eq_ok {t : Toggle} (hfresh : g.has (.toggle t) = false) :
    g.setFlag (.toggle t) = .ok (g.put (.toggle t)) := by
  have htoggle : g.toggles.contains t = false := hfresh
  rw [setFlag, htoggle]
  rfl

end Given

/-! ## Reading one argument -/

namespace Progress

/-- Nothing is pending behind these arguments. -/
def settled (g : Given) (n : Nat) : Progress :=
  { given := g, plainCount := n }

/-- What is read so far: what is gathered once the pending argument is looked at, and the number of
plain words. -/
def Settles (p : Progress) (g : Given) (n : Nat) : Prop :=
  p.resolve = .ok (settled g n)

variable {p : Progress} {g g' : Given} {n : Nat} {a : Argument} {text : String}

theorem settles_settled (g : Given) (n : Nat) : (settled g n).Settles g n :=
  rfl

/-- The words are arguments still, and no option waits for its value. -/
theorem Settles.cases (h : p.Settles g n) : p.plainOnly = false ∧ p.plainCount = n ∧
    ∀ a, p.pending ≠ some (a, none) := by
  obtain ⟨given, pending, plainOnly, plainCount⟩ := p
  unfold Settles resolve at h
  cases pending with
  | none =>
    cases h
    exact ⟨rfl, rfl, fun a ha => by cases ha⟩
  | some entry =>
    obtain ⟨b, value⟩ := entry
    cases value with
    | none => cases h
    | some text =>
      obtain ⟨g', -, h⟩ := bind_eq_ok_iff.mp h
      cases h
      exact ⟨rfl, rfl, fun a ha => by cases ha⟩

theorem settles_pending (h : g.setOption a (some text) = .ok g') :
    Settles { settled g n with pending := some (a, some text) } g' n :=
  bind_eq_ok_iff.mpr ⟨g', h, rfl⟩

theorem Settles.addFlag (h : p.Settles g n) (hset : g.setFlag a = .ok g') :
    p.addFlag a = .ok (settled g' n) :=
  bind_eq_ok_iff.mpr ⟨settled g n, h, bind_eq_ok_iff.mpr ⟨g', hset, rfl⟩⟩

theorem Settles.addOption_none (h : p.Settles g n) (a : Argument) :
    p.addOption a none = .ok { settled g n with pending := some (a, none) } :=
  bind_eq_ok_iff.mpr ⟨settled g n, h, rfl⟩

theorem Settles.addOption_some (h : p.Settles g n) (hset : g.setOption a (some text) = .ok g') :
    p.addOption a (some text) = .ok (settled g' n) :=
  bind_eq_ok_iff.mpr ⟨settled g n, h, bind_eq_ok_iff.mpr ⟨g', hset, rfl⟩⟩

end Progress

namespace Argument

theorem of_long? {a : Argument} {name : String} (h : a.long? = some name) :
    name.toList ≠ [] ∧ '=' ∉ name.toList := by
  cases a with
  | toggle t =>
    obtain rfl := Option.some.inj h
    cases t <;> decide +kernel
  | _ => first | (cases h; done) | (obtain rfl := Option.some.inj h; decide +kernel)

end Argument

namespace Signature

/-- No two options of a command have the same name. -/
def HasDistinctNames (s : Signature) : Prop :=
  (s.options.map Argument.long?).Nodup

instance (s : Signature) : Decidable s.HasDistinctNames :=
  inferInstanceAs (Decidable (s.options.map Argument.long?).Nodup)

variable {s : Signature} {p : Progress} {g : Given} {n : Nat} {a : Argument} {name word text : String}
  {x : Setting} {xs : List Setting} {words : List String}

theorem find?_long (hs : s.HasDistinctNames) (ha : a ∈ s.options) (hname : a.long? = some name) :
    (s.options.find? fun b => b.long? = some name) = some a := by
  cases hfind : s.options.find? fun b => b.long? = some name with
  | none =>
    have hno := List.find?_eq_none.mp hfind a ha
    exact absurd hname (by simpa using hno)
  | some b =>
    have hb : b.long? = some name := by simpa using List.find?_some hfind
    have hmem := List.mem_of_find?_eq_some hfind
    exact congrArg some (List.inj_on_of_nodup_map hs hmem ha (hb.trans hname.symm))

/-- The words in which an option is named, with the text behind its name. -/
theorem readWord_dashes (hp : p.plainOnly = false) (hname : a.long? = some name) {back : List Char}
    (hword : word.toList = '-' :: '-' :: (name.toList ++ back)) :
    s.readWord p word = s.readLong p (name.toList ++ back) := by
  obtain ⟨c, rest, hlist⟩ := List.exists_cons_of_ne_nil (Argument.of_long? hname).1
  rw [hlist, List.cons_append] at hword ⊢
  unfold readWord
  rw [hp, hword]
  rfl

theorem takeWhile_append_of_long? (hname : a.long? = some name) (back : List Char) :
    (name.toList ++ back).takeWhile (· != '=') = name.toList ++ back.takeWhile (· != '=') ∧
      (name.toList ++ back).dropWhile (· != '=') = back.dropWhile (· != '=') := by
  have hne : ∀ c ∈ name.toList, (c != '=') = true := by
    intro c hc
    rw [bne_iff_ne]
    rintro rfl
    exact (Argument.of_long? hname).2 hc
  exact ⟨List.takeWhile_append_of_pos hne, List.dropWhile_append_of_pos hne⟩

theorem readWord_name (hs : s.HasDistinctNames) (hp : p.plainOnly = false) (ha : a ∈ s.options)
    (hname : a.long? = some name) : s.readWord p ("--" ++ name) =
      if a.valueName?.isSome then p.addOption a none else p.addFlag a := by
  have hword : ("--" ++ name).toList = '-' :: '-' :: (name.toList ++ []) := by simp
  obtain ⟨htake, hdrop⟩ := takeWhile_append_of_long? hname []
  rw [readWord_dashes hp hname hword, readLong, htake, hdrop]
  simp only [List.takeWhile_nil, List.dropWhile_nil, List.append_nil, String.ofList_toList,
    find?_long hs ha hname]

/-- A word that is the name of an option and its value. -/
theorem readWord_joined (hs : s.HasDistinctNames) (hp : p.plainOnly = false) (ha : a ∈ s.options)
    (hname : a.long? = some name) (hvalue : a.valueName?.isSome = true) (text : String) :
    s.readWord p ("--" ++ name ++ "=" ++ text) = p.addOption a (some text) := by
  have hword : ("--" ++ name ++ "=" ++ text).toList =
      '-' :: '-' :: (name.toList ++ '=' :: text.toList) := by simp
  obtain ⟨htake, hdrop⟩ := takeWhile_append_of_long? hname ('=' :: text.toList)
  rw [readWord_dashes hp hname hword, readLong, htake, hdrop]
  simp only [List.takeWhile_cons, List.dropWhile_cons, bne_self_eq_false, Bool.false_eq_true, if_false,
    List.append_nil, String.ofList_toList, find?_long hs ha hname, hvalue, if_true]

theorem readWord_plain (hp : p.plainOnly = false) (hword : word.toList.head? ≠ some '-') :
    s.readWord p word = s.readPlain p word := by
  unfold readWord
  rw [hp]
  cases hlist : word.toList with
  | nil => rfl
  | cons c rest =>
    rw [hlist] at hword
    have hc : c ≠ '-' := fun heq => hword (congrArg some heq)
    simp [hc]

/-- A plain word where no option waits for its value is the next positional argument. -/
theorem readPlain_positional (hp : p.Settles g n) (ha : s.positionals[n]? = some a) (word : String) :
    s.readPlain p word =
      .ok { Progress.settled g (n + 1) with pending := some (a, some word) } := by
  obtain ⟨-, hcount, hwaits⟩ := hp.cases
  rw [← hcount] at ha
  unfold readPlain
  split
  · next b _ hpending => exact absurd hpending (hwaits b)
  · rw [ha]
    exact bind_eq_ok_iff.mpr ⟨_, hp, rfl⟩

/-- An argument can come next: one with a name is known to the command, and one without is the next
positional argument. -/
def Expects (s : Signature) (n : Nat) (x : Setting) : Prop :=
  if x.isPositional then s.positionals[n]? = some x.argument else x.argument ∈ s.options

/-- **The words of one argument add what it says, and nothing else.** -/
theorem exists_readWords (hs : s.HasDistinctNames) (hp : p.Settles g n) (hx : s.Expects n x)
    (hfresh : g.has x.argument = false) (hwords : x.IsWritten words) :
    ∃ p', words.foldlM s.readWord p = .ok p' ∧
      p'.Settles (g.put x) (if x.isPositional then n + 1 else n) := by
  have hdashes := hp.cases.1
  cases hwords with
  | flag t =>
    have hread : s.readWord p ("--" ++ Argument.toggleName t) = p.addFlag (.toggle t) :=
      readWord_name hs hdashes hx rfl
    refine ⟨_, ?_, Progress.settles_settled _ _⟩
    rw [List.foldlM_cons, hread, hp.addFlag (Given.setFlag_eq_ok hfresh)]
    rfl
  | @separate _ name text hname htext =>
    have hoption : x.isPositional = false := Setting.isPositional_eq hname
    rw [Expects, hoption] at hx
    rw [hoption]
    have hread : s.readWord p ("--" ++ name) = p.addOption x.argument none := by
      rw [readWord_name hs hdashes hx hname, if_pos (Setting.valueName?_of_isReadFrom htext)]
    refine ⟨_, ?_, Progress.settles_pending (Given.setOption_eq_ok hfresh htext)⟩
    rw [List.foldlM_cons, hread, hp.addOption_none]
    show [text].foldlM s.readWord _ = _
    rw [List.foldlM_cons, readWord_plain rfl (Setting.head?_of_isReadFrom htext)]
    rfl
  | @joined _ name text hname htext =>
    have hoption : x.isPositional = false := Setting.isPositional_eq hname
    rw [Expects, hoption] at hx
    rw [hoption]
    have hread := readWord_joined hs hdashes hx hname (Setting.valueName?_of_isReadFrom htext) text
    refine ⟨_, ?_, Progress.settles_settled _ _⟩
    rw [List.foldlM_cons, hread, hp.addOption_some (Given.setOption_eq_ok hfresh htext)]
    rfl
  | @plain _ text hname htext =>
    have hpositional : x.isPositional = true := Setting.isPositional_eq hname
    rw [Expects, hpositional] at hx
    rw [hpositional]
    refine ⟨_, ?_, Progress.settles_pending (Given.setOption_eq_ok hfresh htext)⟩
    rw [List.foldlM_cons, readWord_plain hdashes (Setting.head?_of_isReadFrom htext),
      readPlain_positional hp hx]
    rfl

/-! ## Reading all arguments -/

/-- Arguments that a command takes behind some plain words: those with a name are known to it, and
those without are the next positional ones in their order. -/
structure Takes (s : Signature) (n : Nat) (xs : List Setting) : Prop where
  named : ∀ x ∈ xs, x.isPositional = false → x.argument ∈ s.options
  positional : (xs.filter Setting.isPositional).map Setting.argument <+: s.positionals.drop n

theorem Takes.cons (h : s.Takes n (x :: xs)) :
    s.Expects n x ∧ s.Takes (if x.isPositional then n + 1 else n) xs := by
  obtain ⟨hnamed, hpositional⟩ := h
  obtain ⟨hx, hrest⟩ := List.forall_mem_cons.mp hnamed
  unfold Expects
  cases hplain : x.isPositional with
  | false =>
    rw [List.filter_cons_of_neg (by simp [hplain])] at hpositional
    exact ⟨hx hplain, hrest, hpositional⟩
  | true =>
    rw [List.filter_cons_of_pos hplain, List.map_cons] at hpositional
    obtain ⟨tail, htail⟩ := hpositional
    have hget : s.positionals[n]? = some x.argument := by
      rw [← List.head?_drop, ← htail]
      rfl
    have hdrop : s.positionals.drop (n + 1) =
        (xs.filter Setting.isPositional).map Setting.argument ++ tail := by
      rw [← List.tail_drop, ← htail]
      rfl
    exact ⟨hget, hrest, tail, hdrop.symm⟩

/-- **The words of any number of arguments add what these say, in their order.** -/
theorem exists_readAll (hs : s.HasDistinctNames) {pieces : List (List String)}
    (hwords : List.Forall₂ Setting.IsWritten xs pieces) : ∀ {p : Progress} {g : Given} {n : Nat},
    p.Settles g n → s.Takes n xs → (xs.map Setting.argument).Nodup →
    (∀ x ∈ xs, g.has x.argument = false) →
    ∃ p' n', pieces.flatten.foldlM s.readWord p = .ok p' ∧ p'.Settles (xs.foldl Given.put g) n' := by
  induction hwords with
  | nil => exact fun hp _ _ _ => ⟨_, _, rfl, hp⟩
  | @cons x words xs pieces hx _ ih =>
    intro p g n hp htakes hnodup hfresh
    obtain ⟨hexpects, htakes⟩ := htakes.cons
    obtain ⟨hother, hnodup⟩ := List.nodup_cons.mp hnodup
    obtain ⟨hnew, hfresh⟩ := List.forall_mem_cons.mp hfresh
    obtain ⟨p', hread, hp'⟩ := exists_readWords hs hp hexpects hnew hx
    have hfresh' : ∀ y ∈ xs, (g.put x).has y.argument = false := by
      intro y hy
      have hne : y.argument ≠ x.argument := fun heq =>
        hother (heq ▸ List.mem_map_of_mem hy)
      rw [Given.has_put, hfresh y hy, decide_eq_false hne]
      rfl
    obtain ⟨p'', n'', hread', hp''⟩ := ih hp' htakes hnodup hfresh'
    refine ⟨p'', n'', ?_, hp''⟩
    rw [List.flatten_cons, List.foldlM_append, hread]
    exact hread'

/-- **Arguments that stand once each are gathered whole, whatever their order.** -/
theorem exists_read (hs : s.HasDistinctNames) (htakes : s.Takes 0 xs)
    (hnodup : (xs.map Setting.argument).Nodup) (hrequired : s.required ⊆ xs.map Setting.argument)
    (hwords : AreWritten xs words) : ∃ g, s.read words = .ok g ∧ g.Gathers xs := by
  obtain ⟨ys, pieces, hperm, hpositional, hpieces, rfl⟩ := hwords
  have harguments := hperm.map Setting.argument
  have htakes' : s.Takes 0 ys :=
    ⟨fun y hy => htakes.named y (hperm.subset hy), hpositional ▸ htakes.positional⟩
  have hgathers : (ys.foldl Given.put {}).Gathers ys :=
    Given.gathers_foldl_put (harguments.nodup_iff.mpr hnodup)
  obtain ⟨p, n, hread, hp⟩ := exists_readAll hs hpieces (Progress.settles_settled {} 0) htakes'
    (harguments.nodup_iff.mpr hnodup) fun x _ => Given.has_empty x.argument
  have hexclusive : checkExclusive (ys.foldl Given.put {}) = .ok () := by
    rw [checkExclusive, hgathers.counts]
  have hmissing : (s.required.filter fun a => !(ys.foldl Given.put {}).has a) = [] := by
    rw [List.filter_eq_nil_iff]
    intro a ha
    have hmem : a ∈ ys.map Setting.argument := harguments.mem_iff.mpr (hrequired ha)
    rw [hgathers.has, decide_eq_true hmem]
    decide
  have hcheck : s.checkRequired (ys.foldl Given.put {}) = .ok () := by
    rw [checkRequired, hmissing]
  refine ⟨ys.foldl Given.put {}, bind_eq_ok_iff.mpr ⟨p, hread, bind_eq_ok_iff.mpr ⟨_, hp, ?_⟩⟩,
    hgathers.of_perm hperm⟩
  exact bind_eq_ok_iff.mpr ⟨(), hexclusive, bind_eq_ok_iff.mpr ⟨(), hcheck, rfl⟩⟩

end Signature

end KitSurface.CommandLine
