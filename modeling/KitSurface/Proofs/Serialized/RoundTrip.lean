import KitSurface.Config.Basic
import KitSurface.Proofs.Serialized.Record
import KitSurface.Proofs.Traversal
import KitSurface.Proofs.Version
/-!
Values that are written as JSON and read back. The fields of each record go into its draft
independently, so that a record is read from its object as from the array of its values; and each
value of a field is read back by itself. Main statement: versions, options, pins, driver models,
settings and configurations are read back from what they are written as (`isCodec_all`).
-/

namespace KitSurface

/-- Every value is read back from what it is written as. Whatever a value was read from, what it is
written as then is its form for good. -/
structure IsCodec {α : Type} (write : α → Json) (read : Json → Decoded α) : Prop where
  read_write : ∀ a, read (write a) = .ok a
  stable : ∀ value form, (read value).map write = .ok form →
    read form = read value ∧ (read form).map write = .ok form

theorem IsCodec.of_read_write {α : Type} {write : α → Json} {read : Json → Decoded α}
    (h : ∀ a, read (write a) = .ok a) : IsCodec write read where
  read_write := h
  stable value form hform := by
    cases hread : read value with
    | error e =>
      rw [hread] at hform
      cases hform
    | ok a =>
      rw [hread] at hform
      cases hform
      rw [h a]
      exact ⟨rfl, rfl⟩

/-! ## Values of fields -/

namespace Json

theorem toByte_toNat (b : UInt8) : toByte (.integer b.toNat) = .ok b := by
  have hrange : (0 : Int) ≤ b.toNat ∧ (b.toNat : Int) < 256 :=
    ⟨Int.natCast_nonneg _, Int.ofNat_lt.mpr b.toNat_lt⟩
  rw [toByte, if_pos hrange, Int.toNat_natCast, UInt8.ofNat_toNat]

/-- A value that may be absent is read back, with null in its place. -/
theorem toOption_getD {α : Type} {write : α → Json} {read : Json → Decoded α}
    (h : ∀ a, read (write a) = .ok a) (hnull : ∀ a, write a ≠ .null) (o : Option α) :
    toOption read ((o.map write).getD .null) = .ok o := by
  cases o with
  | none => rfl
  | some a =>
    show toOption read (write a) = .ok (some a)
    unfold toOption
    split
    · next heq => exact absurd heq (hnull a)
    · rw [h a]
      rfl

end Json

theorem BuildContext.ofJson_toJson (c : BuildContext) : ofJson c.toJson = .ok c := by
  cases c <;> rfl

theorem Architecture.ofJson_toJson (a : Architecture) : ofJson a.toJson = .ok a := by
  cases a <;> rfl

theorem Version.ofJson_toJson (v : Version) : ofJson v.toJson = .ok v := by
  rw [toJson, ofJson, parse_text]
  rfl

/-! ## Options -/

namespace Options

theorem set_comm {t u : Toggle} (h : t ≠ u) (o : Options) (a b : Bool) :
    (o.set t a).set u b = (o.set u b).set t a := by
  cases t <;> cases u <;> first | rfl | exact absurd rfl h

theorem form_independent : form.Independent where
  nodup := by decide
  commutes := by
    -- Two toggles, or a toggle and the version.
    have hdistinct : Toggle.all.Pairwise (· ≠ ·) := by decide
    rw [form, List.pairwise_append, List.pairwise_map]
    refine ⟨?_, List.pairwise_singleton _ _, fun f hf g hg => ?_⟩
    · exact hdistinct.imp fun h => RecordField.kept_commutes fun a b o => set_comm h o a b
    · obtain ⟨t, -, rfl⟩ := List.mem_map.mp hf
      obtain rfl := List.mem_singleton.mp hg
      refine RecordField.kept_commutes fun on v o => ?_
      cases t <;> rfl

def values (o : Options) : List Json :=
  (Toggle.all.map fun t => .bool (o.isOn t)) ++ [o.spbCxVersion.toJson]

theorem readItems_values (o : Options) (length : Nat) : ∀ (toggles : List Toggle) (d : Options),
    form.readItems .plain length (toggles.map toggleField ++ [versionField])
      ((toggles.map fun t => .bool (o.isOn t)) ++ [o.spbCxVersion.toJson]) d =
      .ok { toggles.foldl (fun d t => d.set t (o.isOn t)) d with spbCxVersion := o.spbCxVersion }
  | [], _ => RecordForm.readItems_kept (Version.ofJson_toJson _) _ _ _
  | t :: toggles, d => by
    have hflag : Json.toBool (.bool (o.isOn t)) = .ok (o.isOn t) := rfl
    exact (RecordForm.readItems_kept hflag _ _ _).trans
      (readItems_values o length toggles (d.set t (o.isOn t)))

theorem ofItems_values (o : Options) : form.ofItems .plain o.values = .ok o := by
  have hread := readItems_values o o.values.length Toggle.all default
  have hall : { Toggle.all.foldl (fun d t => d.set t (o.isOn t)) default with
      spbCxVersion := o.spbCxVersion } = o := by
    cases o
    rfl
  rw [hall] at hread
  exact RecordForm.ofItems_of_readItems hread

theorem toJson_eq_zip (o : Options) : o.toJson = .ofMembers (form.keys.zip o.values) :=
  rfl

theorem ofJson_toJson (o : Options) : ofJson o.toJson = .ok o := by
  rw [toJson_eq_zip]
  exact RecordForm.ofJson_ofMembers_zip form_independent rfl (ofItems_values o)

end Options

/-! ## Driver models -/

namespace FrameworkPin

theorem form_independent (kind : Framework) : (form kind).Independent where
  nodup := by cases kind <;> decide
  commutes := by simp [form, RecordField.kept_commutes]

def values (pin : FrameworkPin) : List Json :=
  [.integer pin.major.toNat, .integer pin.target.toNat,
    (pin.minimum.map fun n => .integer n.toNat).getD .null]

theorem members_eq_zip (kind : Framework) (pin : FrameworkPin) :
    pin.members kind = (form kind).keys.zip pin.values := by
  unfold members values
  cases pin.minimum <;> rfl

theorem ofItems_values (kind : Framework) (surplus : Surplus) (pin : FrameworkPin) :
    (form kind).ofItems surplus pin.values = .ok pin := by
  have hminimum := Json.toOption_getD Json.toByte_toNat (fun _ => Json.noConfusion) pin.minimum
  have hread : (form kind).readItems surplus pin.values.length (form kind).fields pin.values {} =
      .ok ⟨some pin.major, some pin.target, pin.minimum⟩ :=
    (RecordForm.readItems_kept (Json.toByte_toNat _) _ _ _).trans
      ((RecordForm.readItems_kept (Json.toByte_toNat _) _ _ _).trans
        (RecordForm.readItems_kept hminimum _ _ _))
  exact RecordForm.ofItems_of_readItems hread

theorem map_fst_members (kind : Framework) (pin : FrameworkPin) :
    (pin.members kind).map (·.1) = (form kind).keys := by
  rw [members_eq_zip, RecordForm.map_fst_zip_keys rfl]

theorem ofMembers_of_perm {kind : Framework} {pin : FrameworkPin} {members : List (String × Json)}
    (h : (pin.members kind).Perm members) : (form kind).ofMembers members = .ok pin := by
  have hform := form_independent kind
  have hnodup : ((pin.members kind).map (·.1)).Nodup := by
    rw [map_fst_members]
    exact hform.nodup
  rw [← Decoded.toOption_eq_some_iff, RecordForm.toOption_ofMembers_of_perm hform hnodup h,
    members_eq_zip, RecordForm.ofMembers_zip hform.nodup .plain rfl, ofItems_values]
  rfl

theorem ofJson_toJson (kind : Framework) (pin : FrameworkPin) :
    ofJson kind (pin.toJson kind) = .ok pin := by
  have hnodup : ((pin.members kind).map (·.1)).Nodup := by
    rw [map_fst_members]
    exact (form_independent kind).nodup
  obtain ⟨sorted, hsorted, hperm⟩ := Json.exists_perm_ofMembers hnodup
  rw [toJson, hsorted]
  exact ofMembers_of_perm hperm.symm

end FrameworkPin

namespace DriverModel

theorem readTag_kindTag (kind : Option Framework) : readTag (.string (kindTag kind)) = .ok kind := by
  match kind with
  | none => rfl
  | some .kmdf => rfl
  | some .umdf => rfl

theorem tagKey_not_mem_keys (kind : Framework) : tagKey ∉ (FrameworkPin.form kind).keys := by
  cases kind <;> decide

theorem ofJson_toJson (model : DriverModel) : ofJson model.toJson = .ok model := by
  cases model with
  | wdm => rfl
  | framework kind pin =>
    have htag : tagKey ∉ (pin.members kind).map (·.1) := by
      rw [FrameworkPin.map_fst_members]
      exact tagKey_not_mem_keys kind
    have hnodup : (((tagKey, Json.string (kindTag (some kind))) :: pin.members kind).map
        (·.1)).Nodup := by
      rw [List.map_cons, FrameworkPin.map_fst_members]
      exact List.nodup_cons.mpr
        ⟨tagKey_not_mem_keys kind, (FrameworkPin.form_independent kind).nodup⟩
    -- Sorting may move the tag behind some of the numbers, so it is looked up there, and what is
    -- left without it is the table of the pin in another order.
    obtain ⟨sorted, hsorted, hperm⟩ := Json.exists_perm_ofMembers hnodup
    have hlookup : sorted.lookup tagKey = some (.string (kindTag (some kind))) :=
      lookup_of_mem ((hperm.map _).nodup_iff.mpr hnodup)
        (hperm.mem_iff.mpr List.mem_cons_self)
    have hothers : (pin.members kind).filter (fun m => m.1 ≠ tagKey) = pin.members kind :=
      List.filter_eq_self.mpr fun m hm =>
        decide_eq_true fun heq => htag (heq ▸ List.mem_map_of_mem hm)
    have hrest : (pin.members kind).Perm (sorted.filter fun m => m.1 ≠ tagKey) := by
      have hfilter := (hperm.filter fun m => m.1 ≠ tagKey).symm
      rwa [List.filter_cons_of_neg (by simp), hothers] at hfilter
    rw [toJson, hsorted, ofJson, hlookup]
    simp only [readTag_kindTag]
    show ((FrameworkPin.form kind).ofMembers _).map (framework kind) = _
    rw [FrameworkPin.ofMembers_of_perm hrest]
    rfl

end DriverModel

/-! ## Settings and configurations -/

theorem BuildContext.toJson_ne_null (c : BuildContext) : c.toJson ≠ .null :=
  Json.noConfusion

theorem DriverModel.toJson_ne_null (model : DriverModel) : model.toJson ≠ .null := by
  cases model <;> exact Json.noConfusion

namespace Settings

theorem form_independent : form.Independent where
  nodup := by decide
  commutes := by simp [form, RecordField.kept_commutes]

def values (s : Settings) : List Json :=
  [(s.context.map BuildContext.toJson).getD .null,
    (s.driverModel.map DriverModel.toJson).getD .null, s.options.toJson]

theorem toJson_eq_zip (s : Settings) : s.toJson = .ofMembers (form.keys.zip s.values) :=
  rfl

theorem ofItems_values (s : Settings) : form.ofItems .plain s.values = .ok s := by
  have hcontext := Json.toOption_getD BuildContext.ofJson_toJson BuildContext.toJson_ne_null
    s.context
  have hmodel := Json.toOption_getD DriverModel.ofJson_toJson DriverModel.toJson_ne_null
    s.driverModel
  have hread : form.readItems .plain s.values.length form.fields s.values {} = .ok s :=
    (RecordForm.readItems_kept hcontext _ _ _).trans
      ((RecordForm.readItems_kept hmodel _ _ _).trans
        (RecordForm.readItems_kept (Options.ofJson_toJson _) _ _ _))
  exact RecordForm.ofItems_of_readItems hread

theorem ofJson_toJson (s : Settings) : ofJson s.toJson = .ok s := by
  rw [toJson_eq_zip]
  exact RecordForm.ofJson_ofMembers_zip form_independent rfl (ofItems_values s)

end Settings

namespace Config

theorem form_independent : form.Independent where
  nodup := by decide
  commutes := by simp [form, RecordField.kept_commutes]

def values (c : Config) : List Json :=
  [.string c.root.text, c.architecture.toJson, c.context.toJson,
    (c.driverModel.map DriverModel.toJson).getD .null, c.options.toJson,
    (c.sdkVersion.map .string).getD .null]

theorem toJson_eq_zip (c : Config) : c.toJson = .ofMembers (form.keys.zip c.values) := by
  unfold toJson values
  cases c.sdkVersion <;> rfl

theorem ofItems_values (c : Config) : form.ofItems .plain c.values = .ok c := by
  have hroot : Json.toText "path string" (.string c.root.text) = .ok c.root.text := rfl
  have hmodel := Json.toOption_getD DriverModel.ofJson_toJson DriverModel.toJson_ne_null
    c.driverModel
  have htext : ∀ s, Json.toText "a string" (.string s) = .ok s := fun _ => rfl
  have hnull : ∀ s, Json.string s ≠ .null := fun _ => Json.noConfusion
  have hversion := Json.toOption_getD htext hnull c.sdkVersion
  have hread : form.readItems .plain c.values.length form.fields c.values {} =
      .ok ⟨some c.root, some c.architecture, some c.context, c.driverModel, some c.options,
        c.sdkVersion⟩ :=
    (RecordForm.readItems_kept hroot _ _ _).trans
      ((RecordForm.readItems_kept (Architecture.ofJson_toJson _) _ _ _).trans
        ((RecordForm.readItems_kept (BuildContext.ofJson_toJson _) _ _ _).trans
          ((RecordForm.readItems_kept hmodel _ _ _).trans
            ((RecordForm.readItems_kept (Options.ofJson_toJson _) _ _ _).trans
              (RecordForm.readItems_kept hversion _ _ _)))))
  exact RecordForm.ofItems_of_readItems hread

theorem ofJson_toJson (c : Config) : ofJson c.toJson = .ok c := by
  rw [toJson_eq_zip]
  exact RecordForm.ofJson_ofMembers_zip form_independent rfl (ofItems_values c)

end Config

/-- **What is written as JSON is read back**, and what is read from any value is written in a form
that stays as it is. -/
theorem isCodec_all :
    IsCodec Version.toJson Version.ofJson ∧
    IsCodec Options.toJson Options.ofJson ∧
    (∀ kind, IsCodec (FrameworkPin.toJson kind) (FrameworkPin.ofJson kind)) ∧
    IsCodec DriverModel.toJson DriverModel.ofJson ∧
    IsCodec Settings.toJson Settings.ofJson ∧
    IsCodec Config.toJson Config.ofJson :=
  ⟨.of_read_write Version.ofJson_toJson, .of_read_write Options.ofJson_toJson,
    fun kind => .of_read_write (FrameworkPin.ofJson_toJson kind),
    .of_read_write DriverModel.ofJson_toJson, .of_read_write Settings.ofJson_toJson,
    .of_read_write Config.ofJson_toJson⟩

end KitSurface
