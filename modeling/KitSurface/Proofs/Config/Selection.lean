import KitSurface.Proofs.Config.Definitions
import Mathlib.Data.List.Perm.Basic
/-!
The context that a list of definitions selects. Whether it selects one, and which, depends on the set
of its names alone (`toOption_ofDefinitions_congr`); definitions of both kinds are refused with all
of their names, each as often as it occurs and in the order of the list (`selects_iff`). Main
statement: neither the order of the definitions nor their repeats and values make a difference to
the context, and definitions of no kind make none to the outcome (`ofDefinitions_outcome`).
-/

namespace KitSurface

/-! ## Collected elements -/

section
variable {α : Type} [DecidableEq α] {xs collected : List α}

/-- A list has the elements of another one that have a property, each as often as the other one and
in its order. -/
structure Collects (p : α → Prop) (xs collected : List α) : Prop where
  sublist : collected.Sublist xs
  count : ∀ x, p x → collected.count x = xs.count x
  only : ∀ x ∈ collected, p x

theorem collects_iff_eq_filter {p : α → Prop} {test : α → Bool} (h : ∀ x, test x = true ↔ p x) :
    Collects p xs collected ↔ collected = xs.filter test := by
  constructor
  · rintro ⟨hsublist, hcount, honly⟩
    have hself : collected.filter test = collected :=
      List.filter_eq_self.mpr fun x hx => (h x).mpr (honly x hx)
    have hkept : collected.Sublist (xs.filter test) := hself ▸ hsublist.filter test
    -- A part of the filtered list in which nothing is missing is all of it.
    have hperm : collected.Perm (xs.filter test) := by
      rw [List.perm_iff_count]
      intro x
      by_cases hx : p x
      · rw [List.count_filter ((h x).mpr hx), hcount x hx]
      · rw [List.count_eq_zero_of_not_mem fun hmem => hx (honly x hmem),
          List.count_eq_zero_of_not_mem fun hmem => hx ((h x).mp (List.of_mem_filter hmem))]
    exact hkept.eq_of_length hperm.length_eq
  · rintro rfl
    exact ⟨List.filter_sublist, fun x hx => List.count_filter ((h x).mpr hx),
      fun x hx => (h x).mp (List.of_mem_filter hx)⟩

end

namespace BuildContext

open Definition

/-- The name is one of those that select kernel mode. -/
def IsKernelName (name : String) : Prop :=
  name = kernelModeDefinition ∨ name = kmdfMajorDefinition

/-- The name is the one that selects the user-mode framework. -/
def IsUmdfName (name : String) : Prop :=
  name = umdfMajorDefinition

instance (name : String) : Decidable (IsKernelName name) :=
  inferInstanceAs (Decidable (name = kernelModeDefinition ∨ name = kmdfMajorDefinition))

instance (name : String) : Decidable (IsUmdfName name) :=
  inferInstanceAs (Decidable (name = umdfMajorDefinition))

def namesOf (ds : List Definition) : List String :=
  ds.map (·.name)

/-- What definitions select: the context of the only kind of names that is there, plain user mode
without any, and none with both. Then the names of kernel mode are given, and behind them those of
the framework. -/
inductive Selects (ds : List Definition) : Except ContextError BuildContext → Prop
  | userMode (hkernel : ∀ n ∈ namesOf ds, ¬ IsKernelName n)
    (humdf : ∀ n ∈ namesOf ds, ¬ IsUmdfName n) : Selects ds (.ok .userMode)
  | kernelMode (hkernel : ∃ n ∈ namesOf ds, IsKernelName n)
    (humdf : ∀ n ∈ namesOf ds, ¬ IsUmdfName n) : Selects ds (.ok .kernelMode)
  | umdf (hkernel : ∀ n ∈ namesOf ds, ¬ IsKernelName n)
    (humdf : ∃ n ∈ namesOf ds, IsUmdfName n) : Selects ds (.ok .umdf)
  | conflicting {kernel framework : List String} (hkernel : ∃ n ∈ namesOf ds, IsKernelName n)
    (humdf : ∃ n ∈ namesOf ds, IsUmdfName n) (hcollect : Collects IsKernelName (namesOf ds) kernel)
    (hcollect' : Collects IsUmdfName (namesOf ds) framework) :
    Selects ds (.error (.conflicting (kernel ++ framework)))

variable {ds ds' front back : List Definition} {d : Definition}
  {outcome : Except ContextError BuildContext}

/-! ## Which kinds of names are there -/

/-- A test of definitions looks at their names only. -/
def TestsName (test : Definition → Bool) (p : String → Prop) : Prop :=
  ∀ d, test d = true ↔ p d.name

theorem testsName_kernel : TestsName selectsKernel IsKernelName :=
  fun d => by simp [selectsKernel, IsKernelName]

theorem testsName_umdf : TestsName selectsUmdf IsUmdfName :=
  fun d => by simp [selectsUmdf, IsUmdfName]

section
variable {test : Definition → Bool} {p : String → Prop}

theorem TestsName.any_iff (h : TestsName test p) : ds.any test = true ↔ ∃ n ∈ namesOf ds, p n := by
  simp only [List.any_eq_true, h _, namesOf, List.mem_map, exists_exists_and_eq_and]

theorem TestsName.any_eq_false_iff (h : TestsName test p) :
    ds.any test = false ↔ ∀ n ∈ namesOf ds, ¬ p n := by
  rw [← Bool.not_eq_true, h.any_iff]
  simp only [not_exists, not_and]

theorem TestsName.collects_iff (h : TestsName test p) {names : List String} :
    Collects p (namesOf ds) names ↔ names = namesOf (ds.filter test) := by
  have hnames : ∀ n, test ⟨n, none⟩ = true ↔ p n := fun n => h ⟨n, none⟩
  have htest : (fun n => test ⟨n, none⟩) ∘ Definition.name = test :=
    funext fun d => Bool.eq_iff_iff.mpr ((hnames d.name).trans (h d).symm)
  rw [collects_iff_eq_filter hnames, namesOf, List.filter_map, htest, namesOf]

end

/-! ## What is selected -/

theorem selects_ofDefinitions (ds : List Definition) : Selects ds (ofDefinitions ds) := by
  rw [ofDefinitions_eq]
  cases hk : ds.any selectsKernel with
  | false =>
    rw [testsName_kernel.any_eq_false_iff] at hk
    cases hu : ds.any selectsUmdf with
    | false => exact .userMode hk (testsName_umdf.any_eq_false_iff.mp hu)
    | true => exact .umdf hk (testsName_umdf.any_iff.mp hu)
  | true =>
    rw [testsName_kernel.any_iff] at hk
    cases hu : ds.any selectsUmdf with
    | false => exact .kernelMode hk (testsName_umdf.any_eq_false_iff.mp hu)
    | true =>
      rw [List.map_append]
      exact .conflicting hk (testsName_umdf.any_iff.mp hu) (testsName_kernel.collects_iff.mpr rfl)
        (testsName_umdf.collects_iff.mpr rfl)

theorem Selects.ofDefinitions_eq (h : Selects ds outcome) : ofDefinitions ds = outcome := by
  rw [BuildContext.ofDefinitions_eq]
  cases h with
  | userMode hk hu =>
    rw [testsName_kernel.any_eq_false_iff.mpr hk, testsName_umdf.any_eq_false_iff.mpr hu]
  | kernelMode hk hu =>
    rw [testsName_kernel.any_iff.mpr hk, testsName_umdf.any_eq_false_iff.mpr hu]
  | umdf hk hu =>
    rw [testsName_kernel.any_eq_false_iff.mpr hk, testsName_umdf.any_iff.mpr hu]
  | conflicting hk hu hkernel hframework =>
    obtain rfl := testsName_kernel.collects_iff.mp hkernel
    obtain rfl := testsName_umdf.collects_iff.mp hframework
    rw [testsName_kernel.any_iff.mpr hk, testsName_umdf.any_iff.mpr hu, List.map_append]
    rfl

theorem selects_iff : ofDefinitions ds = outcome ↔ Selects ds outcome :=
  ⟨fun h => h ▸ selects_ofDefinitions ds, Selects.ofDefinitions_eq⟩

/-- **The set of the names alone decides on the context.** -/
theorem toOption_ofDefinitions_congr (h : ∀ n, n ∈ namesOf ds' ↔ n ∈ namesOf ds) :
    (ofDefinitions ds').toOption = (ofDefinitions ds).toOption := by
  have hk : ds'.any selectsKernel = ds.any selectsKernel := by
    rw [Bool.eq_iff_iff, testsName_kernel.any_iff, testsName_kernel.any_iff]
    simp only [h]
  have hu : ds'.any selectsUmdf = ds.any selectsUmdf := by
    rw [Bool.eq_iff_iff, testsName_umdf.any_iff, testsName_umdf.any_iff]
    simp only [h]
  rw [ofDefinitions_eq, ofDefinitions_eq, hk, hu]
  cases ds.any selectsKernel <;> cases ds.any selectsUmdf <;> rfl

theorem ofDefinitions_of_names (h : namesOf ds' = namesOf ds) :
    ofDefinitions ds' = ofDefinitions ds := by
  have hnames : ds'.map (·.name) = ds.map (·.name) := h
  unfold ofDefinitions
  rw [hnames]

theorem ofDefinitions_insert (hk : ¬ IsKernelName d.name) (hu : ¬ IsUmdfName d.name) :
    ofDefinitions (front ++ d :: back) = ofDefinitions (front ++ back) := by
  have hk' : selectsKernel d = false := by simpa [selectsKernel, IsKernelName] using hk
  have hu' : selectsUmdf d = false := by simpa [selectsUmdf, IsUmdfName] using hu
  simp only [ofDefinitions_eq, List.any_append, List.any_cons, List.filter_append, List.filter_cons,
    hk', hu', Bool.false_or, Bool.false_eq_true, if_false]

/-- **Definitions select the context of the only kind that is there**, and are refused if there are
both kinds. The context does not depend on their order, their repeats and their values, and other
definitions do not count at all. -/
theorem ofDefinitions_outcome (ds : List Definition) :
    (∀ outcome, ofDefinitions ds = outcome ↔ Selects ds outcome) ∧
    (∀ ds', ds'.Perm ds → (ofDefinitions ds').toOption = (ofDefinitions ds).toOption) ∧
    (∀ front d back, ds = front ++ back → d.name ∈ namesOf ds →
      (ofDefinitions (front ++ d :: back)).toOption = (ofDefinitions ds).toOption) ∧
    (∀ ds', namesOf ds' = namesOf ds → ofDefinitions ds' = ofDefinitions ds) ∧
    ∀ front d back, ds = front ++ back → ¬ IsKernelName d.name → ¬ IsUmdfName d.name →
      ofDefinitions (front ++ d :: back) = ofDefinitions ds := by
  refine ⟨fun outcome => selects_iff, ?_, ?_, fun ds' => ofDefinitions_of_names, ?_⟩
  · intro ds' hperm
    exact toOption_ofDefinitions_congr fun n => (hperm.map _).mem_iff
  · rintro front d back rfl hd
    have hmiddle : (front ++ d :: back).Perm (d :: (front ++ back)) := List.perm_middle
    refine toOption_ofDefinitions_congr fun n => ?_
    rw [namesOf, (hmiddle.map _).mem_iff, List.map_cons, List.mem_cons]
    exact or_iff_right_of_imp fun heq => heq ▸ hd
  · rintro front d back rfl hk hu
    exact ofDefinitions_insert hk hu

def mixedDefinitions : List Definition :=
  [⟨"UMDF_VERSION_MAJOR", some "2"⟩, ⟨"KMDF_VERSION_MAJOR", some "1"⟩, ⟨"UNICODE", none⟩,
    ⟨"_KERNEL_MODE", none⟩]

/-- The names of kernel mode come first, in every order there is no context, and a repeat with a
value makes no difference to that; another definition makes none to the names. -/
theorem ofDefinitions_mixed :
    Selects mixedDefinitions (.error (.conflicting
      ["KMDF_VERSION_MAJOR", "_KERNEL_MODE", "UMDF_VERSION_MAJOR"])) ∧
    (ofDefinitions mixedDefinitions.reverse).toOption = none ∧
    (ofDefinitions (⟨"_KERNEL_MODE", some "1"⟩ :: mixedDefinitions)).toOption = none ∧
    ofDefinitions [⟨"UMDF_VERSION_MAJOR", none⟩, ⟨"KMDF_VERSION_MAJOR", none⟩, ⟨"UNICODE", none⟩,
      ⟨"_KERNEL_MODE", none⟩] = ofDefinitions mixedDefinitions ∧
    ofDefinitions (⟨"_AMD64_", none⟩ :: mixedDefinitions) = ofDefinitions mixedDefinitions := by
  have hread : ofDefinitions mixedDefinitions = .error (.conflicting
      ["KMDF_VERSION_MAJOR", "_KERNEL_MODE", "UMDF_VERSION_MAJOR"]) := rfl
  have hnone : (ofDefinitions mixedDefinitions).toOption = none := rfl
  obtain ⟨hselects, hperm, hrepeat, hvalues, hinsert⟩ := ofDefinitions_outcome mixedDefinitions
  refine ⟨(hselects _).mp hread, (hperm _ (List.reverse_perm _)).trans hnone, ?_,
    hvalues _ rfl, hinsert [] ⟨"_AMD64_", none⟩ _ rfl (by decide) (by decide)⟩
  exact (hrepeat [] ⟨"_KERNEL_MODE", some "1"⟩ _ rfl (by decide)).trans hnone

end BuildContext

end KitSurface
