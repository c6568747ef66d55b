import KitSurface.Proofs.Serialized.RoundTrip
/-!
Options tables. A member of a table gives one field its value and leaves the other fields as they
were (`readMember_eq_ok_iff`), so that a whole table overlays the options it is read on: every
member gives its field, and the fields without a member stay (`foldlM_readMember_eq_ok_iff`). Main
statement: a table is read exactly if each of its members is an option with a value of its kind, and
the options that it is read as are the default ones overlaid with it (`ofJson_object_overlays`).
-/

namespace KitSurface

theorem Toggle.mem_all (t : Toggle) : t ∈ all := by
  cases t <;> decide

theorem Toggle.key_injective : Function.Injective Toggle.key := by
  intro t u
  cases t <;> cases u <;> decide

theorem Toggle.key_ne_spbCxVersionKey (t : Toggle) : t.key ≠ Options.spbCxVersionKey := by
  cases t <;> decide

namespace Options

/-- A member of an options table: its key is the one of a toggle or the one of the version, the
value of a toggle is a boolean, and the value of the version is the text of a version. -/
structure IsOption (m : String × Json) : Prop where
  known : m.1 ∈ form.keys
  toggle : ∀ t : Toggle, t.key = m.1 → ∃ on, m.2 = .bool on
  version : spbCxVersionKey = m.1 → ∃ text v, m.2 = .string text ∧ Version.parse text = .ok v

/-- Options have the value that a member gives. -/
structure Has (o : Options) (m : String × Json) : Prop where
  known : m.1 ∈ form.keys
  toggle : ∀ t : Toggle, t.key = m.1 → m.2 = .bool (o.isOn t)
  version : spbCxVersionKey = m.1 →
    ∃ text, m.2 = .string text ∧ Version.parse text = .ok o.spbCxVersion

/-- Two options have the same value of the field with a key. -/
structure AgreeOn (o p : Options) (key : String) : Prop where
  toggle : ∀ t : Toggle, t.key = key → o.isOn t = p.isOn t
  version : spbCxVersionKey = key → o.spbCxVersion = p.spbCxVersion

/-- Options are those of a base, overlaid with a table: they have the value of every member, and
for all other keys those of the base. -/
structure Overlays (members : List (String × Json)) (base o : Options) : Prop where
  given : ∀ m ∈ members, o.Has m
  absent : ∀ key, key ∉ members.map (·.1) → o.AgreeOn base key

variable {o p base d : Options} {t : Toggle} {m : String × Json} {key : String} {value : Json}
  {members others : List (String × Json)}

/-! ## Fields of options -/

theorem mem_keys_iff : key ∈ form.keys ↔ (∃ t : Toggle, t.key = key) ∨ spbCxVersionKey = key := by
  have hkeys : form.keys = Toggle.all.map Toggle.key ++ [spbCxVersionKey] := rfl
  simp [hkeys, Toggle.mem_all, eq_comm]

example : form.keys = ["hid-extended-headers", "hid-spi-cx", "kernel-safe-integer",
    "kernel-safe-string", "power-framework", "storage", "usb-device-emulation",
    "spb-cx-version"] := rfl

theorem AgreeOn.symm (h : o.AgreeOn p key) : p.AgreeOn o key :=
  ⟨fun t ht => (h.toggle t ht).symm, fun hkey => (h.version hkey).symm⟩

theorem AgreeOn.trans (h : o.AgreeOn p key) (h' : p.AgreeOn d key) : o.AgreeOn d key :=
  ⟨fun t ht => (h.toggle t ht).trans (h'.toggle t ht),
    fun hkey => (h.version hkey).trans (h'.version hkey)⟩

theorem eq_of_agreeOn (h : ∀ key, o.AgreeOn p key) : o = p :=
  ext_isOn (fun t => (h t.key).toggle t rfl) ((h spbCxVersionKey).version rfl)

theorem Has.congr (h : o.Has m) (hagree : o.AgreeOn p m.1) : p.Has m where
  known := h.known
  toggle t ht := hagree.toggle t ht ▸ h.toggle t ht
  version hkey := hagree.version hkey ▸ h.version hkey

theorem Has.agreeOn (h : o.Has m) (h' : p.Has m) : o.AgreeOn p m.1 where
  toggle t ht := Json.bool.inj ((h.toggle t ht).symm.trans (h'.toggle t ht))
  version hkey := by
    obtain ⟨text, htext, hparse⟩ := h.version hkey
    obtain ⟨text', htext', hparse'⟩ := h'.version hkey
    obtain rfl := Json.string.inj (htext.symm.trans htext')
    exact Except.ok.inj (hparse.symm.trans hparse')

theorem Has.isOption (h : o.Has m) : IsOption m where
  known := h.known
  toggle t ht := ⟨_, h.toggle t ht⟩
  version hkey := by
    obtain ⟨text, htext, hparse⟩ := h.version hkey
    exact ⟨text, _, htext, hparse⟩

/-! ## Reading one member -/

theorem readMember_toggle (d : Options) (t : Toggle) (value : Json) :
    form.readMember d (t.key, value) = (Json.toBool value).map (d.set t) := by
  have hmem : toggleField t ∈ form.fields :=
    List.mem_append_left _ (List.mem_map_of_mem t.mem_all)
  have hfield : form.field? (t.key, value).1 = some (toggleField t) :=
    RecordForm.field?_key form_independent.nodup hmem
  exact RecordForm.readMember_of_field? hfield

theorem readMember_version (d : Options) (value : Json) :
    form.readMember d (spbCxVersionKey, value) =
      (Version.ofJson value).map fun v => { d with spbCxVersion := v } := by
  have hmem : versionField ∈ form.fields := List.mem_append_right _ List.mem_cons_self
  have hfield : form.field? (spbCxVersionKey, value).1 = some versionField :=
    RecordForm.field?_key form_independent.nodup hmem
  exact RecordForm.readMember_of_field? hfield

theorem readMember_unknown (h : m.1 ∉ form.keys) :
    form.readMember d m = .error (.unknownField m.1 form.keys) := by
  rw [RecordForm.readMember, RecordForm.field?_eq_none_iff.mpr h]
  rfl

theorem exists_readMember (h : IsOption m) (d : Options) :
    ∃ o, form.readMember d m = .ok o ∧ o.Has m ∧ ∀ key, key ≠ m.1 → o.AgreeOn d key := by
  obtain ⟨key, value⟩ := m
  rcases mem_keys_iff.mp h.known with ⟨t, rfl⟩ | rfl
  · obtain ⟨on, rfl⟩ := h.toggle t rfl
    refine ⟨d.set t on, readMember_toggle d t _, ⟨h.known, ?_, ?_⟩, fun key hkey => ⟨?_, ?_⟩⟩
    · intro u hu
      obtain rfl := Toggle.key_injective hu
      rw [isOn_set, if_pos rfl]
    · exact fun hversion => absurd hversion.symm t.key_ne_spbCxVersionKey
    · intro u hu
      have hne : u ≠ t := fun heq => hkey (hu ▸ congrArg Toggle.key heq)
      rw [isOn_set, if_neg hne]
    · exact fun _ => spbCxVersion_set d t on
  · obtain ⟨text, v, rfl, hparse⟩ := h.version rfl
    refine ⟨{ d with spbCxVersion := v }, ?_, ⟨h.known, ?_, ?_⟩, fun key hkey => ⟨?_, ?_⟩⟩
    · rw [readMember_version, Version.ofJson, hparse]
      rfl
    · exact fun t ht => absurd ht t.key_ne_spbCxVersionKey
    · exact fun _ => ⟨text, rfl, hparse⟩
    · exact fun t _ => by cases t <;> rfl
    · exact fun hversion => absurd hversion.symm hkey

theorem isOption_of_readMember (h : form.readMember d m = .ok o) : IsOption m := by
  have hknown : m.1 ∈ form.keys := by
    by_contra hunknown
    rw [readMember_unknown hunknown] at h
    cases h
  obtain ⟨key, value⟩ := m
  refine ⟨hknown, ?_, ?_⟩
  · rintro t rfl
    rw [readMember_toggle] at h
    cases value with
    | bool on => exact ⟨on, rfl⟩
    | _ => cases h
  · rintro rfl
    rw [readMember_version] at h
    cases value with
    | string text =>
      cases hparse : Version.parse text with
      | ok v => exact ⟨text, v, rfl, hparse⟩
      | error e =>
        rw [Version.ofJson, hparse] at h
        cases h
    | _ => cases h

/-- **Reading a member sets the field that it names, and nothing else.** -/
theorem readMember_eq_ok_iff : form.readMember d m = .ok o ↔
    o.Has m ∧ ∀ key, key ≠ m.1 → o.AgreeOn d key := by
  constructor
  · intro h
    obtain ⟨o', hread, hhas, hothers⟩ := exists_readMember (isOption_of_readMember h) d
    obtain rfl := Except.ok.inj (h.symm.trans hread)
    exact ⟨hhas, hothers⟩
  · intro h
    obtain ⟨hhas, hothers⟩ := h
    obtain ⟨o', hread, hhas', hothers'⟩ := exists_readMember hhas.isOption d
    have heq : o' = o := by
      refine eq_of_agreeOn fun key => ?_
      by_cases hkey : key = m.1
      · exact hkey ▸ hhas'.agreeOn hhas
      · exact (hothers' key hkey).trans (hothers key hkey).symm
    rw [hread, heq]

/-! ## Reading a table -/

theorem overlays_nil : Overlays [] base o ↔ o = base :=
  ⟨fun h => eq_of_agreeOn fun key => h.absent key List.not_mem_nil,
    fun h => h ▸ ⟨by simp, fun key _ => ⟨fun _ _ => rfl, fun _ => rfl⟩⟩⟩

theorem overlays_cons (h : m.1 ∉ members.map (·.1)) : Overlays (m :: members) base o ↔
    ∃ d, (d.Has m ∧ ∀ key, key ≠ m.1 → d.AgreeOn base key) ∧ Overlays members d o := by
  constructor
  · intro ⟨hgiven, habsent⟩
    obtain ⟨hm, hmembers⟩ := List.forall_mem_cons.mp hgiven
    obtain ⟨d, -, hd, hothers⟩ := exists_readMember hm.isOption base
    refine ⟨d, ⟨hd, hothers⟩, hmembers, fun key hkey => ?_⟩
    by_cases hm' : key = m.1
    · exact hm' ▸ hm.agreeOn hd
    · have hbase := habsent key (by simp [hm', hkey])
      exact hbase.trans (hothers key hm').symm
  · rintro ⟨d, ⟨hd, hothers⟩, hgiven, habsent⟩
    have hm : o.Has m := hd.congr (habsent m.1 h).symm
    refine ⟨List.forall_mem_cons.mpr ⟨hm, hgiven⟩, fun key hkey => ?_⟩
    obtain ⟨hne, hkey⟩ := not_or.mp (mt List.mem_cons.mpr hkey)
    exact (habsent key hkey).trans (hothers key hne)

/-- **Reading the members of a table overlays the draft with them.** -/
theorem foldlM_readMember_eq_ok_iff : ∀ {members : List (String × Json)} {d : Options},
    (members.map (·.1)).Nodup → (members.foldlM form.readMember d = .ok o ↔ Overlays members d o)
  | [], d, _ => by
    rw [overlays_nil, List.foldlM_nil, eq_comm]
    exact ⟨Except.ok.inj, fun h => congrArg _ h⟩
  | m :: members, d, h => by
    obtain ⟨hm, hmembers⟩ := List.nodup_cons.mp h
    rw [List.foldlM_cons, bind_eq_ok_iff, overlays_cons hm]
    simp only [readMember_eq_ok_iff, foldlM_readMember_eq_ok_iff hmembers]

theorem ofJson_object_eq_ok_iff (h : (members.map (·.1)).Nodup) :
    ofJson (.object members) = .ok o ↔ Overlays members default o := by
  rw [← foldlM_readMember_eq_ok_iff h]
  show (members.foldlM form.readMember default >>= .ok) = .ok o ↔ _
  rw [bind_eq_ok_iff]
  simp

theorem exists_overlays : ∀ {members : List (String × Json)} {base : Options},
    (members.map (·.1)).Nodup → (∀ m ∈ members, IsOption m) → ∃ o, Overlays members base o
  | [], base, _, _ => ⟨base, overlays_nil.mpr rfl⟩
  | m :: members, base, hnodup, h => by
    obtain ⟨hm, hmembers⟩ := List.forall_mem_cons.mp h
    obtain ⟨hkey, hnodup⟩ := List.nodup_cons.mp hnodup
    obtain ⟨d, -, hd⟩ := exists_readMember hm base
    have hrest : ∃ o, Overlays members d o := exists_overlays hnodup hmembers
    obtain ⟨o, ho⟩ := hrest
    exact ⟨o, (overlays_cons hkey).mpr ⟨d, hd, ho⟩⟩

theorem Overlays.agreeOn (h : Overlays members base o) (h' : Overlays others base p)
    (hlookup : members.lookup key = others.lookup key) : o.AgreeOn p key := by
  cases hvalue : members.lookup key with
  | some value =>
    have hm := h.given _ (mem_of_lookup hvalue)
    have hm' := h'.given _ (mem_of_lookup (hlookup ▸ hvalue))
    exact hm.agreeOn hm'
  | none =>
    have habsent : ∀ {table : List (String × Json)}, table.lookup key = none →
        key ∉ table.map (·.1) := by
      intro table hnone hmem
      obtain ⟨m, hm, rfl⟩ := List.mem_map.mp hmem
      simpa using List.lookup_eq_none_iff.mp hnone m hm
    exact (h.absent key (habsent hvalue)).trans (h'.absent key (habsent (hlookup ▸ hvalue))).symm

/-- **An options table is read exactly if its members are options, and what it leaves out stays at
its default.** What a table says of one key counts for the field of that key alone. -/
theorem ofJson_object_overlays (hkeys : (members.map (·.1)).Nodup) :
    ((∃ o, ofJson (.object members) = .ok o) ↔ ∀ m ∈ members, IsOption m) ∧
    (∀ o, ofJson (.object members) = .ok o ↔ Overlays members default o) ∧
    ∀ others o p, (others.map (·.1)).Nodup → ofJson (.object members) = .ok o →
      ofJson (.object others) = .ok p → ∀ key, members.lookup key = others.lookup key →
        o.AgreeOn p key := by
  refine ⟨?_, fun o => ofJson_object_eq_ok_iff hkeys, ?_⟩
  · simp only [ofJson_object_eq_ok_iff hkeys]
    exact ⟨fun ⟨o, ho⟩ m hm => (ho.given m hm).isOption, exists_overlays hkeys⟩
  · intro others o p hothers ho hp key hlookup
    rw [ofJson_object_eq_ok_iff hkeys] at ho
    rw [ofJson_object_eq_ok_iff hothers] at hp
    exact ho.agreeOn hp hlookup

/-- A null is no boolean, so it does not count as left out. -/
example : ofJson (.object [("storage", .null)]) = .error (.invalidType .null "a boolean") := rfl

/-- A table with two toggles and the version. -/
def narrowedTable : List (String × Json) :=
  [("hid-extended-headers", .bool true), ("spb-cx-version", .string "1.0"), ("storage", .bool false)]

/-- The options that the table is read as, with those that it has in common with another table. -/
theorem ofJson_object_narrowedTable :
    Overlays narrowedTable default
      { hidExtendedHeaders := true, storage := false, spbCxVersion := ⟨1, 0⟩ } ∧
    AgreeOn { hidExtendedHeaders := true, storage := false, spbCxVersion := ⟨1, 0⟩ }
      { storage := false } "storage" := by
  have hkeys : (narrowedTable.map (·.1)).Nodup := by decide
  have hread : ofJson (.object narrowedTable) = .ok
      { hidExtendedHeaders := true, storage := false, spbCxVersion := ⟨1, 0⟩ } := rfl
  have hother : ofJson (.object [("storage", .bool false)]) = .ok { storage := false } := rfl
  obtain ⟨-, hoverlays, hagree⟩ := ofJson_object_overlays hkeys
  exact ⟨(hoverlays _).mp hread,
    hagree [("storage", .bool false)] _ _ (by decide) hread hother "storage" rfl⟩

end Options

end KitSurface
