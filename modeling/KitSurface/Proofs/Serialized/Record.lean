import KitSurface.Serialized.Record
import Mathlib.Data.List.Nodup
import Mathlib.Data.List.Pairwise
import Mathlib.Data.List.Perm.Basic
/-!
Records in objects. An object holds the members that it is made of, sorted by their keys
(`exists_perm_ofMembers`). Where the fields of a record do not get into each other's way
(`Independent`), members with keys of their own can be read in any order
(`toOption_ofMembers_of_perm`), so that an object is read like the array of its values
(`ofJson_ofMembers_zip`). A member that cannot be read spoils the object, wherever it stands
(`ofMembers_eq_error`).
-/

namespace KitSurface

/-! ## Outcomes without their reasons -/

namespace Decoded

variable {α : Type} {x : Decoded α} {a : α}

theorem toOption_eq_some_iff : x.toOption = some a ↔ x = .ok a := by
  cases x <;> simp [Except.toOption]

theorem toOption_eq_none_iff : x.toOption = none ↔ ∃ e, x = .error e := by
  cases x <;> simp [Except.toOption]

theorem toOption_bind {β : Type} (f : α → Decoded β) :
    (x.bind f).toOption = x.toOption.bind fun a => (f a).toOption := by
  cases x <;> rfl

end Decoded

/-! ## Members of an object -/

namespace Json

variable {key : String} {value : Json} {members sorted : List (String × Json)}

theorem insertMember_perm : ∀ {members : List (String × Json)}, key ∉ members.map (·.1) →
    (insertMember key value members).Perm ((key, value) :: members)
  | [], _ => List.Perm.refl _
  | (k, v) :: rest, h => by
    obtain ⟨hk, hrest⟩ := not_or.mp (mt List.mem_cons.mpr h)
    by_cases hlt : key < k
    · rw [insertMember, if_pos hlt]
    · rw [insertMember, if_neg hlt, if_neg hk]
      exact ((insertMember_perm hrest).cons _).trans (List.Perm.swap _ _ _)

/-- Insertion one after another keeps all members, as long as no key comes twice. -/
theorem foldl_insertMember_perm : ∀ {members sorted : List (String × Json)},
    ((sorted ++ members).map (·.1)).Nodup →
    (members.foldl (fun sorted m => insertMember m.1 m.2 sorted) sorted).Perm (sorted ++ members)
  | [], sorted, _ => by rw [List.append_nil]; exact List.Perm.refl _
  | m :: members, sorted, h => by
    have hmiddle : (sorted ++ m :: members).Perm (m :: sorted ++ members) := List.perm_middle
    have hnodup : ((m :: sorted ++ members).map (·.1)).Nodup :=
      (hmiddle.map _).nodup_iff.mp h
    have hm : m.1 ∉ sorted.map (·.1) := by
      rw [List.cons_append, List.map_cons, List.map_append, List.nodup_cons] at hnodup
      exact fun hin => hnodup.1 (List.mem_append_left _ hin)
    have hinsert : (insertMember m.1 m.2 sorted ++ members).Perm (m :: sorted ++ members) :=
      (insertMember_perm hm).append_right members
    rw [List.foldl_cons]
    exact (foldl_insertMember_perm ((hinsert.map _).nodup_iff.mpr hnodup)).trans
      (hinsert.trans hmiddle.symm)

theorem exists_perm_ofMembers (h : (members.map (·.1)).Nodup) :
    ∃ sorted, ofMembers members = .object sorted ∧ sorted.Perm members :=
  ⟨_, rfl, foldl_insertMember_perm (by rwa [List.nil_append])⟩

end Json

/-! ## Fields -/

namespace RecordField

variable {δ β γ : Type}

/-- Two fields of which either can be read first. -/
def Commutes (f g : RecordField δ) : Prop :=
  ∀ a b d, ((f.read a d).bind (g.read b)).toOption = ((g.read b d).bind (f.read a)).toOption

instance : Std.Symm (Commutes (δ := δ)) where
  symm _ _ h a b d := (h b a d).symm

/-- Fields that are kept in different places of the draft commute. -/
theorem kept_commutes {key key' : String} {read : Json → Decoded β} {read' : Json → Decoded γ}
    {put : β → δ → δ} {put' : γ → δ → δ} (h : ∀ b c d, put' c (put b d) = put b (put' c d)) :
    (kept key read put).Commutes (kept key' read' put') := by
  intro a b d
  simp only [kept, Decoded.toOption_bind]
  cases read a with
  | error e => cases read' b <;> rfl
  | ok x =>
    cases read' b with
    | error e => rfl
    | ok y => exact congrArg some (h x y d)

end RecordField

namespace RecordForm

variable {δ α : Type} {form : RecordForm δ α} {f : RecordField δ} {d : δ} {m m' : String × Json}
variable {members sorted : List (String × Json)} {values : List Json} {a : α}

def keys (form : RecordForm δ α) : List String :=
  form.fields.map (·.key)

/-- The fields have keys of their own and can be read in any order. -/
structure Independent (form : RecordForm δ α) : Prop where
  nodup : form.keys.Nodup
  commutes : form.fields.Pairwise RecordField.Commutes

theorem field?_eq_none_iff {key : String} : form.field? key = none ↔ key ∉ form.keys := by
  simp [field?, keys]

theorem mem_of_field? {key : String} (h : form.field? key = some f) :
    f ∈ form.fields ∧ f.key = key := by
  have hkey := List.find?_some h
  exact ⟨List.mem_of_find?_eq_some h, of_decide_eq_true hkey⟩

theorem field?_key (h : form.keys.Nodup) (hf : f ∈ form.fields) : form.field? f.key = some f := by
  cases hg : form.field? f.key with
  | none => exact absurd (List.mem_map_of_mem hf) (field?_eq_none_iff.mp hg)
  | some g =>
    obtain ⟨hmem, hkey⟩ := mem_of_field? hg
    rw [List.inj_on_of_nodup_map h hmem hf hkey]

theorem readMember_of_field? (h : form.field? m.1 = some f) :
    form.readMember d m = f.read m.2 d := by
  rw [readMember, h]

/-! ## Members in any order -/

/-- Reads one more member, if all members before could be read. -/
def readMember? (form : RecordForm δ α) (draft : Option δ) (m : String × Json) : Option δ :=
  draft.bind fun d => (form.readMember d m).toOption

theorem foldl_readMember?_none : members.foldl form.readMember? none = none := by
  induction members with
  | nil => rfl
  | cons m members ih => exact ih

theorem toOption_foldlM : (members.foldlM form.readMember d).toOption =
    members.foldl form.readMember? (some d) := by
  induction members generalizing d with
  | nil => rfl
  | cons m members ih =>
    rw [List.foldlM_cons, List.foldl_cons, readMember?, Option.bind_some]
    refine (Decoded.toOption_bind _).trans ?_
    cases form.readMember d m with
    | error e => exact foldl_readMember?_none.symm
    | ok d' => exact ih

theorem toOption_ofMembers : (form.ofMembers members).toOption =
    (members.foldl form.readMember? (some form.blank)).bind fun d => (form.finish d).toOption := by
  rw [← toOption_foldlM]
  exact Decoded.toOption_bind _

theorem readMember?_of_not_mem_keys (h : m.1 ∉ form.keys) :
    (∀ draft, form.readMember? draft m = draft) ∨ ∀ draft, form.readMember? draft m = none := by
  have hnone := field?_eq_none_iff.mpr h
  cases hi : form.ignoresUnknown with
  | true =>
    refine Or.inl fun draft => ?_
    simp only [readMember?, readMember, hnone, hi, if_true]
    cases draft <;> rfl
  | false =>
    refine Or.inr fun draft => ?_
    simp only [readMember?, readMember, hnone, hi, Bool.false_eq_true, if_false]
    cases draft <;> rfl

theorem readMember?_comm (h : form.Independent) (hne : m.1 ≠ m'.1) (draft : Option δ) :
    form.readMember? (form.readMember? draft m) m' =
      form.readMember? (form.readMember? draft m') m := by
  cases hf : form.field? m.1 with
  | none =>
    rcases readMember?_of_not_mem_keys (field?_eq_none_iff.mp hf) with hpass | hrefuse
    · rw [hpass, hpass]
    · rw [hrefuse, hrefuse]
      rfl
  | some f =>
    cases hg : form.field? m'.1 with
    | none =>
      rcases readMember?_of_not_mem_keys (field?_eq_none_iff.mp hg) with hpass | hrefuse
      · rw [hpass, hpass]
      · rw [hrefuse, hrefuse]
        rfl
    | some g =>
      obtain ⟨hfmem, hfkey⟩ := mem_of_field? hf
      obtain ⟨hgmem, hgkey⟩ := mem_of_field? hg
      have hfg : f ≠ g := fun heq => hne (by rw [← hfkey, ← hgkey, heq])
      cases draft with
      | none => rfl
      | some d =>
        have hcomm := h.commutes.forall hfmem hgmem hfg m.2 m'.2 d
        rw [Decoded.toOption_bind, Decoded.toOption_bind] at hcomm
        simpa only [readMember?, Option.bind_some, readMember_of_field? hf,
          readMember_of_field? hg] using hcomm

/-- **Members with keys of their own can be read in any order.** -/
theorem toOption_ofMembers_of_perm (h : form.Independent) (hnodup : (members.map (·.1)).Nodup)
    (hperm : members.Perm sorted) :
    (form.ofMembers sorted).toOption = (form.ofMembers members).toOption := by
  rw [toOption_ofMembers, toOption_ofMembers]
  congr 1
  refine (hperm.foldl_eq' (fun m hm m' hm' draft => ?_) _).symm
  -- Members that differ have different keys, since no key comes twice.
  by_cases heq : m = m'
  · rw [heq]
  · have hne : m.1 ≠ m'.1 := fun hkey => heq (List.inj_on_of_nodup_map hnodup hm hm' hkey)
    exact readMember?_comm h hne draft

/-! ## An object as the array of its values -/

/-- A value that can be read goes into the draft, and the items behind it come next. -/
theorem readItems_kept {β : Type} {key : String} {read : Json → Decoded β} {put : β → δ → δ}
    {value : Json} {b : β} (h : read value = .ok b) (surplus : Surplus) (length : Nat)
    (fields : List (RecordField δ)) :
    form.readItems surplus length (.kept key read put :: fields) (value :: values) d =
      form.readItems surplus length fields values (put b d) := by
  have hread : (RecordField.kept key read put).read value d = .ok (put b d) :=
    congrArg (Except.map fun b => put b d) h
  rw [readItems, hread]
  rfl

theorem ofItems_of_readItems {surplus : Surplus}
    (h : form.readItems surplus values.length form.fields values form.blank = .ok d) :
    form.ofItems surplus values = form.finish d := by
  rw [ofItems, h]
  rfl

theorem foldlM_zip_keys (h : form.keys.Nodup) (surplus : Surplus) (length : Nat) :
    ∀ {fields : List (RecordField δ)} {values : List Json} {d : δ},
      (∀ f ∈ fields, f ∈ form.fields) → values.length = fields.length →
      ((fields.map (·.key)).zip values).foldlM form.readMember d =
        form.readItems surplus length fields values d
  | [], [], _, _, _ => rfl
  | f :: fields, value :: values, d, hmem, hlength => by
    obtain ⟨hf, hfields⟩ := List.forall_mem_cons.mp hmem
    have hread : form.readMember d (f.key, value) = f.read value d :=
      readMember_of_field? (field?_key h hf)
    rw [List.map_cons, List.zip_cons_cons, List.foldlM_cons, hread, readItems]
    exact bind_congr fun d' => foldlM_zip_keys h surplus length hfields (Nat.succ.inj hlength)

theorem ofMembers_zip (h : form.keys.Nodup) (surplus : Surplus)
    (hlength : values.length = form.fields.length) :
    form.ofMembers (form.keys.zip values) = form.ofItems surplus values := by
  rw [ofMembers, ofItems]
  exact congrArg (· >>= form.finish)
    (foldlM_zip_keys h surplus values.length (fun f hf => hf) hlength)

theorem map_fst_zip_keys (hlength : values.length = form.fields.length) :
    (form.keys.zip values).map (·.1) = form.keys :=
  List.map_fst_zip (by simp [keys, hlength])

/-- **A record is read from an object of its values as from an array of them.** -/
theorem ofJson_ofMembers_zip (h : form.Independent)
    (hlength : values.length = form.fields.length) (hitems : form.ofItems .plain values = .ok a) :
    form.ofJson (.ofMembers (form.keys.zip values)) = .ok a := by
  have hnodup : ((form.keys.zip values).map (·.1)).Nodup := by
    rw [map_fst_zip_keys hlength]
    exact h.nodup
  obtain ⟨sorted, hsorted, hperm⟩ := Json.exists_perm_ofMembers hnodup
  rw [hsorted, ofJson, ← Decoded.toOption_eq_some_iff,
    toOption_ofMembers_of_perm h hnodup hperm.symm, ofMembers_zip h.nodup .plain hlength, hitems]
  rfl

/-! ## Members that cannot be read -/

/-- A member that no draft takes spoils the whole object. -/
theorem ofMembers_eq_error (hm : m ∈ members)
    (hfail : ∀ d, ∃ e, form.readMember d m = .error e) :
    ∃ e, form.ofMembers members = .error e := by
  obtain ⟨front, rest, rfl⟩ := List.append_of_mem hm
  have hstep : ∀ draft, form.readMember? draft m = none := by
    intro draft
    cases draft with
    | none => rfl
    | some d => exact Decoded.toOption_eq_none_iff.mpr (hfail d)
  rw [← Decoded.toOption_eq_none_iff, toOption_ofMembers, List.foldl_append, List.foldl_cons,
    hstep, foldl_readMember?_none, Option.bind_none]

theorem ofMembers_eq_error_of_not_mem_keys (hstrict : form.ignoresUnknown = false)
    (hm : m ∈ members) (hkey : m.1 ∉ form.keys) : ∃ e, form.ofMembers members = .error e := by
  refine ofMembers_eq_error hm fun d => ⟨.unknownField m.1 form.keys, ?_⟩
  rw [readMember, field?_eq_none_iff.mpr hkey, hstrict]
  rfl

end RecordForm

end KitSurface
