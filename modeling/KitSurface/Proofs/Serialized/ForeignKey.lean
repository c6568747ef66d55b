import KitSurface.Proofs.Serialized.RoundTrip
import KitSurface.Settings
/-!
Keys that are no field of the table that they stand in. A settings table holds an options table and
the table of a driver model, whose fields depend on its tag. All of them refuse foreign keys but
one: the table of the plain model is read by its tag alone. Main statement: a foreign key is refused
wherever it stands, unless it stands beside the tag of the plain model, and there it does not count
(`ofJson_foreignKey`).
-/

namespace KitSurface

/-! ## Tables of driver models -/

namespace DriverModel

variable {table : List (String × Json)} {kind : Option Framework} {m : String × Json}

/-- The keys of the table of a model. -/
def keys (kind : Option Framework) : List String :=
  tagKey :: (kind.map fun k => (FrameworkPin.form k).keys).getD []

/-- A key that is no field of the table, if its tag is the one of a model. No key is a field of a
table with another tag or without one. -/
def IsForeign (table : List (String × Json)) (key : String) : Prop :=
  ∀ kind, table.lookup tagKey = some (.string (kindTag kind)) → key ∉ keys kind

/-- The table has the tag of the plain model. -/
def isPlain (table : List (String × Json)) : Bool :=
  match table.lookup tagKey with
  | some (.string tag) => tag = kindTag none
  | _ => false

/-- The table of the plain model without the members beside its tag, and any other value as it
is. -/
def withoutUnread : Json → Json
  | .object table => if isPlain table then wdm.toJson else .object table
  | other => other

theorem isPlain_iff : isPlain table ↔ table.lookup tagKey = some (.string (kindTag none)) := by
  unfold isPlain
  split
  · next tag h => rw [h, decide_eq_true_iff, Option.some.injEq, Json.string.injEq]
  · next hno => exact ⟨fun h => absurd h Bool.false_ne_true, fun h => absurd h (hno _)⟩

theorem readTag_eq_ok_iff {tag : Json} : readTag tag = .ok kind ↔ tag = .string (kindTag kind) := by
  constructor
  · intro h
    match tag with
    | .string name =>
      simp only [readTag, Json.variant] at h
      split at h
      · next hfind =>
        cases h
        have hname := List.find?_some hfind
        rw [of_decide_eq_true hname]
      · cases h
  · rintro rfl
    exact readTag_kindTag kind

theorem kindTag_inj {kind' : Option Framework} (h : kindTag kind = kindTag kind') :
    kind = kind' := by
  have hread := readTag_kindTag kind
  rw [h, readTag_kindTag] at hread
  exact (Except.ok.inj hread).symm

theorem isForeign_iff (h : table.lookup tagKey = some (.string (kindTag kind))) {key : String} :
    IsForeign table key ↔ key ∉ keys kind := by
  refine ⟨fun hforeign => hforeign kind h, fun hkey kind' hkind' => ?_⟩
  obtain rfl : kind = kind' := kindTag_inj (Json.string.inj (Option.some.inj (h.symm.trans hkind')))
  exact hkey

/-- Everything but the tag is foreign to the plain model. -/
theorem isForeign_iff_of_isPlain (h : isPlain table) {key : String} :
    IsForeign table key ↔ key ≠ tagKey := by
  rw [isForeign_iff (isPlain_iff.mp h)]
  exact not_congr List.mem_singleton

theorem ofJson_of_lookup {tag : Json} (h : table.lookup tagKey = some tag) :
    ofJson (.object table) =
      (readTag tag).bind fun kind => ofRest (table.filter fun m => m.1 ≠ tagKey) kind := by
  rw [ofJson, h]
  rfl

/-- A framework refuses a foreign key, and a table that is of no model is refused anyway. -/
theorem ofJson_eq_error_of_isForeign (hm : m ∈ table) (hforeign : IsForeign table m.1)
    (hplain : ¬ isPlain table) : ∃ e, ofJson (.object table) = .error e := by
  cases htag : table.lookup tagKey with
  | none => exact ⟨.missingField tagKey, by rw [ofJson, htag]⟩
  | some tag =>
    rw [ofJson_of_lookup htag]
    cases hread : readTag tag with
    | error e => exact ⟨e, rfl⟩
    | ok kind =>
      rw [readTag_eq_ok_iff.mp hread] at htag
      cases kind with
      | none => exact absurd (isPlain_iff.mpr htag) hplain
      | some kind =>
        obtain ⟨hne, hkey⟩ := not_or.mp (mt List.mem_cons.mpr (hforeign (some kind) htag))
        have hrest : m ∈ table.filter fun m => m.1 ≠ tagKey :=
          List.mem_filter.mpr ⟨hm, decide_eq_true hne⟩
        obtain ⟨e, he⟩ := RecordForm.ofMembers_eq_error_of_not_mem_keys rfl hrest hkey
        exact ⟨e, congrArg (Except.map (framework kind)) he⟩

theorem toOption_ofJson_withoutUnread (value : Json) :
    Json.toOption ofJson (withoutUnread value) = Json.toOption ofJson value := by
  match value with
  | .object table =>
    by_cases hplain : isPlain table
    · have hread : ofJson (.object table) = .ok wdm := by
        rw [ofJson_of_lookup (isPlain_iff.mp hplain)]
        rfl
      rw [withoutUnread, if_pos hplain]
      exact congrArg (Except.map some) ((ofJson_toJson wdm).trans hread.symm)
    · rw [withoutUnread, if_neg hplain]
  | .null | .bool _ | .integer _ | .float _ | .string _ | .array _ => rfl

theorem not_isPlain_of_withoutUnread {value : Json} (h : withoutUnread value = .object table)
    (hm : m ∈ table) (hforeign : IsForeign table m.1) :
    value = .object table ∧ ¬ isPlain table := by
  match value with
  | .object other =>
    by_cases hplain : isPlain other
    · rw [withoutUnread, if_pos hplain] at h
      obtain rfl : [(tagKey, .string (kindTag none))] = table := Json.object.inj h
      obtain rfl := List.mem_singleton.mp hm
      exact absurd rfl ((isForeign_iff_of_isPlain (by decide)).mp hforeign)
    · rw [withoutUnread, if_neg hplain] at h
      obtain rfl : other = table := Json.object.inj h
      exact ⟨rfl, hplain⟩
  | .null | .bool _ | .integer _ | .float _ | .string _ | .array _ => cases h

end DriverModel

/-! ## Settings tables -/

namespace Settings

variable {members : List (String × Json)}

/-- Some key in the settings table, in its options table or in the table of its driver model is no
field of that table. -/
inductive HoldsForeignKey (members : List (String × Json)) : Prop where
  | settings {m} (hm : m ∈ members) (hkey : m.1 ∉ form.keys)
  | options {table m} (htable : ("options", .object table) ∈ members) (hm : m ∈ table)
      (hkey : m.1 ∉ Options.form.keys)
  | driverModel {table m} (htable : ("driver-model", .object table) ∈ members) (hm : m ∈ table)
      (hkey : DriverModel.IsForeign table m.1)

/-- Some member stands beside the tag of the plain model. -/
def HoldsUnread (members : List (String × Json)) : Prop :=
  ∃ table, ("driver-model", .object table) ∈ members ∧ DriverModel.isPlain table ∧
    ∃ m ∈ table, m.1 ≠ DriverModel.tagKey

/-- The members without those beside the tag of the plain model. -/
def withoutUnread (members : List (String × Json)) : List (String × Json) :=
  members.map fun m => (m.1, if m.1 = "driver-model" then DriverModel.withoutUnread m.2 else m.2)

theorem mem_withoutUnread_of_ne {key : String} {value : Json} (h : key ≠ "driver-model") :
    (key, value) ∈ withoutUnread members ↔ (key, value) ∈ members := by
  simp only [withoutUnread, List.mem_map, Prod.exists, Prod.mk.injEq]
  constructor
  · rintro ⟨_, value', hm, rfl, rfl⟩
    rwa [if_neg h]
  · exact fun hm => ⟨key, value, hm, rfl, if_neg h⟩

theorem mem_withoutUnread_driverModel {value : Json} :
    ("driver-model", value) ∈ withoutUnread members ↔
      ∃ value', ("driver-model", value') ∈ members ∧ DriverModel.withoutUnread value' = value := by
  simp only [withoutUnread, List.mem_map, Prod.exists, Prod.mk.injEq]
  constructor
  · rintro ⟨_, value', hm, rfl, hvalue⟩
    exact ⟨value', hm, hvalue⟩
  · exact fun ⟨value', hm, hvalue⟩ => ⟨_, value', hm, rfl, hvalue⟩

theorem ofJson_withoutUnread (members : List (String × Json)) :
    ofJson (.object (withoutUnread members)) = ofJson (.object members) := by
  have hmember : ∀ draft m, form.readMember draft
      (m.1, if m.1 = "driver-model" then DriverModel.withoutUnread m.2 else m.2) =
        form.readMember draft m := by
    rintro draft ⟨key, value⟩
    by_cases hkey : key = "driver-model"
    · subst hkey
      have hread := DriverModel.toOption_ofJson_withoutUnread value
      exact congrArg (Except.map fun driverModel => { draft with driverModel }) hread
    · rw [if_neg hkey]
  have hfold : (withoutUnread members).foldlM form.readMember form.blank =
      members.foldlM form.readMember form.blank := by
    rw [withoutUnread, List.foldlM_map]
    simp only [hmember]
  exact congrArg (· >>= form.finish) hfold

theorem HoldsForeignKey.exists_error (h : HoldsForeignKey (withoutUnread members)) :
    ∃ e, ofJson (.object members) = .error e := by
  rw [← ofJson_withoutUnread]
  cases h with
  | settings hm hkey => exact RecordForm.ofMembers_eq_error_of_not_mem_keys rfl hm hkey
  | options htable hm hkey =>
    obtain ⟨e, he⟩ := RecordForm.ofMembers_eq_error_of_not_mem_keys rfl hm hkey
    refine RecordForm.ofMembers_eq_error htable fun draft => ⟨e, ?_⟩
    exact congrArg (Except.map fun options => { draft with options }) he
  | driverModel htable hm hkey =>
    obtain ⟨value, -, hvalue⟩ := mem_withoutUnread_driverModel.mp htable
    obtain ⟨rfl, hplain⟩ := DriverModel.not_isPlain_of_withoutUnread hvalue hm hkey
    obtain ⟨e, he⟩ := DriverModel.ofJson_eq_error_of_isForeign hm hkey hplain
    refine RecordForm.ofMembers_eq_error htable fun draft => ⟨e, ?_⟩
    exact congrArg (Except.map fun driverModel => { draft with driverModel })
      (congrArg (Except.map some) he)

theorem holdsForeignKey_iff :
    HoldsForeignKey members ↔ HoldsForeignKey (withoutUnread members) ∨ HoldsUnread members := by
  have hoptions : "options" ≠ "driver-model" := by decide
  constructor
  · rintro (⟨hm, hkey⟩ | ⟨htable, hm, hkey⟩ | @⟨table, m, htable, hm, hkey⟩)
    · exact Or.inl (.settings (List.mem_map_of_mem hm) hkey)
    · exact Or.inl (.options ((mem_withoutUnread_of_ne hoptions).mpr htable) hm hkey)
    -- Only here does it matter which table the key stands in.
    · by_cases hplain : DriverModel.isPlain table
      · have hne := (DriverModel.isForeign_iff_of_isPlain hplain).mp hkey
        exact Or.inr ⟨table, htable, hplain, m, hm, hne⟩
      · have htable' : ("driver-model", .object table) ∈ withoutUnread members :=
          mem_withoutUnread_driverModel.mpr ⟨_, htable, if_neg hplain⟩
        exact Or.inl (.driverModel htable' hm hkey)
  · rintro ((⟨hm, hkey⟩ | ⟨htable, hm, hkey⟩ | ⟨htable, hm, hkey⟩) | hunread)
    · obtain ⟨m, hm', rfl⟩ := List.mem_map.mp hm
      exact .settings hm' hkey
    · exact .options ((mem_withoutUnread_of_ne hoptions).mp htable) hm hkey
    · obtain ⟨value, hvalue, hcut⟩ := mem_withoutUnread_driverModel.mp htable
      obtain ⟨rfl, -⟩ := DriverModel.not_isPlain_of_withoutUnread hcut hm hkey
      exact .driverModel hvalue hm hkey
    · obtain ⟨table, htable, hplain, m, hm, hne⟩ := hunread
      exact .driverModel htable hm ((DriverModel.isForeign_iff_of_isPlain hplain).mpr hne)

/-- **A foreign key is refused wherever it stands, but for one place**: beside the tag of the plain
model it makes no difference. -/
theorem ofJson_foreignKey (members : List (String × Json)) :
    (HoldsForeignKey members ↔ HoldsForeignKey (withoutUnread members) ∨ HoldsUnread members) ∧
    (HoldsForeignKey (withoutUnread members) → ∃ e, ofJson (.object members) = .error e) ∧
    ofJson (.object members) = ofJson (.object (withoutUnread members)) :=
  ⟨holdsForeignKey_iff, HoldsForeignKey.exists_error, (ofJson_withoutUnread members).symm⟩

/-- A table of one framework with a key of the other one. -/
def strayPin : List (String × Json) :=
  [("driver-type", .string "KMDF"), ("kmdf-version-major", .integer 1),
    ("target-kmdf-version-minor", .integer 33), ("umdf-version-major", .integer 2)]

theorem ofJson_strayPin : HoldsForeignKey (withoutUnread [("driver-model", .object strayPin)]) ∧
    ∃ e, ofJson (.object [("driver-model", .object strayPin)]) = .error e := by
  have htable : ("driver-model", .object strayPin) ∈
      withoutUnread [("driver-model", .object strayPin)] := List.mem_cons_self
  have hm : ("umdf-version-major", .integer 2) ∈ strayPin := by simp [strayPin]
  have hkey : DriverModel.IsForeign strayPin "umdf-version-major" := by
    have htag : strayPin.lookup DriverModel.tagKey =
        some (.string (DriverModel.kindTag (some .kmdf))) := rfl
    exact (DriverModel.isForeign_iff htag).mpr (by decide)
  have hforeign := HoldsForeignKey.driverModel htable hm hkey
  exact ⟨hforeign, (ofJson_foreignKey _).2.1 hforeign⟩

/-- A table of the plain model with a key of a framework. -/
def pinnedPlain : List (String × Json) :=
  [("driver-type", .string "WDM"), ("kmdf-version-major", .integer 1)]

theorem not_forall_foreignKey_refused :
    ¬ ∀ members, HoldsForeignKey members → ∃ e, ofJson (.object members) = .error e := by
  intro h
  have hm : ("kmdf-version-major", .integer 1) ∈ pinnedPlain := by simp [pinnedPlain]
  have hkey : DriverModel.IsForeign pinnedPlain "kmdf-version-major" :=
    (DriverModel.isForeign_iff_of_isPlain rfl).mpr (by decide)
  obtain ⟨e, he⟩ := h [("driver-model", .object pinnedPlain)]
    (.driverModel List.mem_cons_self hm hkey)
  have hread : ofJson (.object [("driver-model", .object pinnedPlain)]) =
      .ok { driverModel := some .wdm } := rfl
  rw [hread] at he
  cases he

end Settings

end KitSurface
