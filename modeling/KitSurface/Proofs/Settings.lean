import KitSurface.Proofs.BuildScript
import KitSurface.Proofs.Context
/-!
The context of a build. Three sources can name it: an override, the settings, and the driver model.
What is asked for comes from the override, unless it is blank, and then from the settings
(`Requests`); the driver model has to agree with it, and steps in where nothing is asked for.
`Resolves` says what comes out, with one constructor for each way to fail and one for each source
that the context can come from. Main statement: the context of a build is what `Resolves` says and
nothing else, a configuration made from it is consistent, and a context that cannot be resolved is
reported whether the kit is found or not (`resolveContext_eq_iff_resolves`).
-/

namespace KitSurface.Settings

open Header (IsBlank)

variable {s : Settings} {override : Option String} {requested : Option BuildContext}

/-! ## What is asked for -/

/-- The context that is asked for, if one is. An override that is blank counts as none. -/
inductive Requests (s : Settings) : Option String → Option BuildContext → Prop
  | unset : Requests s none s.context
  | blank {text : String} (h : IsBlank text.toList) : Requests s (some text) s.context
  | spelled {text : String} {c : BuildContext} (h : c.IsSpelledBy text) :
    Requests s (some text) (some c)

/-- An override that is not blank and spells no context. -/
def IsInvalid (text : String) : Prop :=
  ¬ IsBlank text.toList ∧ ∀ c : BuildContext, ¬ c.IsSpelledBy text

theorem requestedContext_of_isBlank {text : String} (h : IsBlank text.toList) :
    s.requestedContext (some text) = .ok s.context := by
  rw [requestedContext, Option.map_some, Text.trim_eq_empty_iff.mpr h]
  rfl

theorem requestedContext_of_not_isBlank {text : String} (h : ¬ IsBlank text.toList) :
    s.requestedContext (some text) =
      ((BuildContext.parse (Text.trim text)).mapError .invalidOverride).map some := by
  have hne : Text.trim text ≠ "" := mt Text.trim_eq_empty_iff.mp h
  rw [requestedContext, Option.map_some, Option.filter_some, decide_eq_true hne]
  rfl

theorem requestedContext_eq_ok_iff :
    s.requestedContext override = .ok requested ↔ s.Requests override requested := by
  constructor
  · intro h
    cases override with
    | none =>
      obtain rfl := Except.ok.inj h
      exact .unset
    | some text =>
      by_cases hblank : IsBlank text.toList
      · rw [requestedContext_of_isBlank hblank] at h
        obtain rfl := Except.ok.inj h
        exact .blank hblank
      · rw [requestedContext_of_not_isBlank hblank] at h
        cases hparse : BuildContext.parse (Text.trim text) with
        | error e =>
          rw [hparse] at h
          cases h
        | ok c =>
          rw [hparse] at h
          obtain rfl := Except.ok.inj h
          exact .spelled (BuildContext.isSpelledBy_trim.mp (BuildContext.parse_eq_ok_iff.mp hparse))
  · intro h
    cases h with
    | unset => rfl
    | blank hblank => exact requestedContext_of_isBlank hblank
    | spelled hspelled =>
      have hblank := mt BuildContext.not_isSpelledBy_of_isBlank (not_not_intro hspelled)
      rw [requestedContext_of_not_isBlank hblank,
        BuildContext.parse_eq_ok_iff.mpr (BuildContext.isSpelledBy_trim.mpr hspelled)]
      rfl

theorem requestedContext_eq_error_iff {error : ResolveError} :
    s.requestedContext override = .error error ↔ ∃ text body, override = some text ∧
      IsInvalid text ∧ Text.Trims text body ∧ error = .invalidOverride (.unknown body) := by
  constructor
  · intro h
    cases override with
    | none => cases h
    | some text =>
      by_cases hblank : IsBlank text.toList
      · rw [requestedContext_of_isBlank hblank] at h
        cases h
      · rw [requestedContext_of_not_isBlank hblank] at h
        cases hparse : BuildContext.parse (Text.trim text) with
        | ok c =>
          rw [hparse] at h
          cases h
        | error e =>
          obtain ⟨hno, rfl⟩ := BuildContext.parse_eq_error_iff.mp hparse
          rw [hparse] at h
          obtain rfl := Except.error.inj h
          exact ⟨text, Text.trim text, rfl,
            ⟨hblank, fun c => mt BuildContext.isSpelledBy_trim.mpr (hno c)⟩,
            Text.trims_trim text, rfl⟩
  · intro h
    obtain ⟨text, body, rfl, ⟨hblank, hno⟩, hbody, rfl⟩ := h
    obtain rfl := hbody.eq_trim
    have herror : BuildContext.parse (Text.trim text) = .error (.unknown (Text.trim text)) :=
      BuildContext.parse_eq_error_iff.mpr
        ⟨fun c => mt BuildContext.isSpelledBy_trim.mp (hno c), rfl⟩
    rw [requestedContext_of_not_isBlank hblank, herror]
    rfl

/-! ## What comes out -/

/-- What the context of a build comes to. -/
inductive Resolves (s : Settings) (override : Option String) :
    Except ResolveError BuildContext → Prop
  /-- The override spells no context; it is reported without the blanks around it. -/
  | invalid {text body : String} (hoverride : override = some text) (h : IsInvalid text)
    (hbody : Text.Trims text body) : Resolves s override (.error (.invalidOverride (.unknown body)))
  /-- The context that is asked for is not the one that the driver model builds in. -/
  | conflicting {context : BuildContext} {model : DriverModel}
    (hrequest : s.Requests override (some context)) (hmodel : s.driverModel = some model)
    (hne : context ≠ model.context) :
    Resolves s override (.error (.conflicting context model.context))
  /-- No context is asked for, and there is no driver model. -/
  | missing (hrequest : s.Requests override none) (hmodel : s.driverModel = none) :
    Resolves s override (.error .missing)
  /-- The context that is asked for, with which the driver model agrees if there is one. -/
  | requested {context : BuildContext} (hrequest : s.Requests override (some context))
    (hagree : ∀ model, s.driverModel = some model → context = model.context) :
    Resolves s override (.ok context)
  /-- No context is asked for, and the driver model says which one it builds in. -/
  | implied {model : DriverModel} (hrequest : s.Requests override none)
    (hmodel : s.driverModel = some model) : Resolves s override (.ok model.context)

/-- What the driver model makes of the context that is asked for. -/
def reconcile (s : Settings) : Option BuildContext → Except ResolveError BuildContext
  | some context =>
    match s.driverModel with
    | some model =>
      if context = model.context then .ok context else .error (.conflicting context model.context)
    | none => .ok context
  | none =>
    match s.driverModel with
    | some model => .ok model.context
    | none => .error .missing

theorem resolveContext_eq_bind (s : Settings) (override : Option String) :
    s.resolveContext override = (s.requestedContext override).bind s.reconcile := by
  rw [resolveContext]
  cases s.requestedContext override with
  | error e => rfl
  | ok requested =>
    show _ = s.reconcile requested
    unfold reconcile
    cases requested <;> cases s.driverModel <;> rfl

theorem resolveContext_of_requests (h : s.Requests override requested) :
    s.resolveContext override = s.reconcile requested := by
  rw [resolveContext_eq_bind, requestedContext_eq_ok_iff.mpr h]
  rfl

theorem resolves_resolveContext (s : Settings) (override : Option String) :
    s.Resolves override (s.resolveContext override) := by
  cases hrequested : s.requestedContext override with
  | error e =>
    obtain ⟨text, body, rfl, hinvalid, hbody, rfl⟩ := requestedContext_eq_error_iff.mp hrequested
    rw [resolveContext_eq_bind, hrequested]
    exact .invalid rfl hinvalid hbody
  | ok requested =>
    have hrequest := requestedContext_eq_ok_iff.mp hrequested
    rw [resolveContext_of_requests hrequest]
    cases requested with
    | none =>
      cases hmodel : s.driverModel with
      | none =>
        rw [reconcile, hmodel]
        exact .missing hrequest hmodel
      | some model =>
        rw [reconcile, hmodel]
        exact .implied hrequest hmodel
    | some context =>
      cases hmodel : s.driverModel with
      | none =>
        rw [reconcile, hmodel]
        exact .requested hrequest (by rw [hmodel]; exact nofun)
      | some model =>
        rw [reconcile, hmodel]
        dsimp only
        split
        · next hagree =>
          refine .requested hrequest fun model' hmodel' => ?_
          obtain rfl := Option.some.inj (hmodel.symm.trans hmodel')
          exact hagree
        · next hne => exact .conflicting hrequest hmodel hne

theorem Resolves.resolveContext_eq {r : Except ResolveError BuildContext}
    (h : s.Resolves override r) : s.resolveContext override = r := by
  cases h with
  | invalid hoverride hinvalid hbody =>
    rw [resolveContext_eq_bind,
      requestedContext_eq_error_iff.mpr ⟨_, _, hoverride, hinvalid, hbody, rfl⟩]
    rfl
  | conflicting hrequest hmodel hne =>
    rw [resolveContext_of_requests hrequest, reconcile, hmodel]
    exact if_neg hne
  | missing hrequest hmodel =>
    rw [resolveContext_of_requests hrequest, reconcile, hmodel]
  | requested hrequest hagree =>
    rw [resolveContext_of_requests hrequest, reconcile]
    cases hmodel : s.driverModel with
    | none => rfl
    | some model => exact if_pos (hagree model hmodel)
  | implied hrequest hmodel =>
    rw [resolveContext_of_requests hrequest, reconcile, hmodel]

theorem resolveContext_eq_iff {r : Except ResolveError BuildContext} :
    s.resolveContext override = r ↔ s.Resolves override r :=
  ⟨fun h => h ▸ s.resolves_resolveContext override, Resolves.resolveContext_eq⟩

end KitSurface.Settings

/-! ## Configurations from settings -/

namespace KitSurface

section
variable {s : Settings} {override : Option String} {root : Option Path} {a : Architecture}

theorem Config.exists_ofSettings_iff : (∃ config, ofSettings s override root a = .ok config) ↔
    (∃ context, s.resolveContext override = .ok context) ∧ root.isSome = true := by
  obtain ⟨e, hcontext, hof⟩ | ⟨rfl, hof⟩ | ⟨context, path, hcontext, rfl, hof⟩ :=
    ofSettings_cases s override root a
  · simp [hof, hcontext]
  · simp [hof]
  · simp [hof, hcontext]

theorem Config.validate_of_ofSettings {config : Config}
    (h : ofSettings s override root a = .ok config) : config.validate = .ok () := by
  obtain ⟨e, -, hof⟩ | ⟨-, hof⟩ | ⟨context, path, hcontext, -, hof⟩ :=
    ofSettings_cases s override root a
  · rw [hof] at h
    cases h
  · rw [hof] at h
    cases h
  · rw [hof] at h
    obtain rfl := Except.ok.inj h
    exact validate_eq_ok_of_agree fun model hmodel =>
      Settings.context_eq_of_resolveContext hmodel hcontext

theorem Config.ofSettings_of_resolveContext_error {error : ResolveError}
    (h : s.resolveContext override = .error error) :
    ofSettings s override root a = .error (.unresolved error) := by
  rw [ofSettings, h]
  rfl

end

/-- **The context of a build comes from the override, then the settings, then the driver model, and
the driver model has to agree.** Settings make up a configuration exactly if their context can be
resolved and the kit is found. Such a configuration is consistent, and an error of the context comes
before that of the kit. -/
theorem Settings.resolveContext_eq_iff_resolves (s : Settings) (override : Option String) :
    (∀ r, s.resolveContext override = r ↔ s.Resolves override r) ∧
    (∀ root architecture, (∃ config, Config.ofSettings s override root architecture = .ok config) ↔
      (∃ context, s.Resolves override (.ok context)) ∧ root.isSome = true) ∧
    (∀ root architecture config, Config.ofSettings s override root architecture = .ok config →
      config.validate = .ok ()) ∧
    ∀ root architecture error, s.Resolves override (.error error) →
      Config.ofSettings s override root architecture = .error (.unresolved error) := by
  refine ⟨fun r => resolveContext_eq_iff, fun root a => ?_,
    fun root a config => Config.validate_of_ofSettings, fun root a error h => ?_⟩
  · simp only [← resolveContext_eq_iff]
    exact Config.exists_ofSettings_iff
  · exact Config.ofSettings_of_resolveContext_error (resolveContext_eq_iff.mpr h)

example : ({ context := some .umdf, driverModel := some .wdm } : Settings).resolveContext
    (some " KM ") = .ok .kernelMode := by
  decide +kernel

end KitSurface
