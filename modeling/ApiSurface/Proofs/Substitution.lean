import ApiSurface.Proofs.SignatureShapes
import ApiSurface.Proofs.BeanPopulation

/-!
# Substituting first

A type can be described in an environment, where the binding of a variable is looked up when the
variable is met, or its variables can be substituted before. Both come to the same for types as
signatures write them, if the bound types have no variables themselves: the class of a base is not
a matter of its arguments, and a type without variables means the same in every environment,
whatever variables are followed.
-/

namespace ApiSurface

/-- The types that variables are bound to have no variables. -/
def TypeEnvironment.Closed (env : TypeEnvironment) : Prop :=
  ∀ name bound, env.lookup name = some bound → bound.variableNames = []

/-! ## Classes behind types -/

namespace JavaType

theorem variableNamesAll_eq_nil_iff {types : List JavaType} :
    variableNamesAll types = [] ↔ ∀ t ∈ types, t.variableNames = [] := by
  induction types with
  | nil => simp [variableNamesAll]
  | cons t types ih => simp [variableNamesAll, ih]

/-- The class behind a type does not depend on what its variables stand for. -/
theorem erasure_resolve {t : JavaType} (ht : t.erasure.isSome = true) (env : TypeEnvironment) :
    (t.resolve env).erasure = t.erasure := by
  induction t using induct with
  | basic name => rfl
  | parameterized base arguments ih _ => simpa [resolve, erasure] using ih ht
  | inner outer name ih =>
    have houter : outer.erasure.isSome = true := by simpa [erasure] using ht
    simp [resolve, erasure, ih houter]
  | array | var | wildcard => cases ht

theorem ne_wildcard {t : JavaType} (ht : t.erasure.isSome = true) (upper lower : Option JavaType) :
    t ≠ .wildcard upper lower := by
  rintro rfl
  cases ht

end JavaType

/-- The container of a base that has a class stays one when variables are substituted. -/
theorem ClassCollection.container?_resolve (classes : ClassCollection) {base : JavaType}
    (hbase : base.erasure.isSome = true) (env : TypeEnvironment) :
    classes.container? (base.resolve env) = classes.container? base := by
  have herasure := JavaType.erasure_resolve hbase env
  have hinstance : classes.isInstance (base.resolve env) = classes.isInstance base := by
    funext target
    rw [classes.isInstance_eq _ _ (JavaType.ne_wildcard hbase), classes.isInstance_eq, herasure]
    exact JavaType.ne_wildcard (by rw [herasure, hbase])
  funext arguments
  unfold container?
  rw [hinstance]

/-! ## Readings that agree -/

/-- What a reading gives, and the names of the classes that it meets. -/
def told {α : Type} (read : Option (α × List Sighting)) : Option (α × List String) :=
  read.map fun (a, met) => (a, met.map Sighting.className)

section

variable {α β : Type} {read read' : Option (α × List Sighting)}

/-- Two readings tell the same if both fail, or both give the same and meet the same classes. -/
theorem told_eq_iff : told read = told read' ↔ (read = none ∧ read' = none) ∨
    ∃ a met met', read = some (a, met) ∧ read' = some (a, met') ∧
      met.map Sighting.className = met'.map Sighting.className := by
  rcases read with _ | ⟨a, met⟩ <;> rcases read' with _ | ⟨a', met'⟩ <;> simp [told, eq_comm]

theorem readEach_map {γ : Type} (f : α → Option (β × List Sighting)) (g : γ → α) (cs : List γ) :
    readEach f (cs.map g) = readEach (fun c => f (g c)) cs := by
  induction cs with
  | nil => rfl
  | cons c cs ih => simp [readEach, ih]

theorem told_readEach {f g : α → Option (β × List Sighting)} {as : List α}
    (h : ∀ a ∈ as, told (f a) = told (g a)) : told (readEach f as) = told (readEach g as) := by
  induction as with
  | nil => rfl
  | cons a as ih =>
    have hrest := told_eq_iff.mp (ih fun a ha => h a (by simp [ha]))
    rcases told_eq_iff.mp (h a (by simp)) with ⟨hf, hg⟩ | ⟨b, met, met', hf, hg, hmet⟩
    · simp [readEach, hf, hg]
    · rcases hrest with ⟨hf', hg'⟩ | ⟨bs, more, more', hf', hg', hmore⟩
      · simp [readEach, hf, hg, hf', hg']
      · simp [readEach, hf, hg, hf', hg', told, hmet, hmore]

end

namespace Survey

variable (survey : Survey) {env env' : TypeEnvironment} {followed followed' : List String}

theorem told_array {element element' : JavaType}
    (h : told (survey.reading env followed element) =
      told (survey.reading env' followed' element')) :
    told (survey.reading env followed (.array element)) =
      told (survey.reading env' followed' (.array element')) := by
  rw [reading, reading]
  rcases told_eq_iff.mp h with ⟨hread, hread'⟩ | ⟨t, met, met', hread, hread', hmet⟩
  · simp [hread, hread']
  · simp [hread, hread', told, hmet]

theorem told_parameterized {base base' : JavaType} {arguments arguments' : List JavaType}
    (hcontainer : survey.classes.container? base = survey.classes.container? base')
    (harguments : told (survey.readingAll env followed arguments) =
      told (survey.readingAll env' followed' arguments'))
    (hbase : told (survey.reading env followed base) =
      told (survey.reading env' followed' base')) :
    told (survey.reading env followed (.parameterized base arguments)) =
      told (survey.reading env' followed' (.parameterized base' arguments')) := by
  rw [reading, reading]
  rcases told_eq_iff.mp harguments with ⟨hreads, hreads'⟩ | ⟨ts, met, met', hreads, hreads', hmet⟩
  · simp [hreads, hreads']
  · simp only [hreads, hreads', hcontainer, Option.bind_eq_bind, Option.bind_some]
    cases survey.classes.container? base' ts with
    | some t => simp [told, hmet]
    | none =>
      rcases told_eq_iff.mp hbase with ⟨hread, hread'⟩ | ⟨t, more, more', hread, hread', hmore⟩
      · simp [hread, hread']
      · simp [hread, hread', told, hmet, hmore]

/-- A type without variables is read the same from every environment, whatever is followed. -/
theorem told_of_variableNames_nil {t : JavaType} (ht : t.variableNames = []) :
    told (survey.reading env followed t) = told (survey.reading env' followed' t) := by
  induction t using JavaType.induct with
  | basic name =>
    rw [reading, reading]
    cases survey.classes.builtin? name <;> rfl
  | array element ih => exact survey.told_array (ih ht)
  | parameterized base arguments ihBase ihArguments =>
    obtain ⟨hbase, harguments⟩ := List.append_eq_nil_iff.mp ht
    refine survey.told_parameterized rfl ?_ (ihBase hbase)
    rw [readingAll_eq_readEach, readingAll_eq_readEach]
    exact told_readEach fun argument hargument => ihArguments argument hargument
      (JavaType.variableNamesAll_eq_nil_iff.mp harguments argument hargument)
  | var name => cases ht
  | wildcard upper lower ihUpper ihLower =>
    obtain ⟨hupper, hlower⟩ := List.append_eq_nil_iff.mp ht
    cases lower with
    | some lower => simpa only [reading] using ihLower lower rfl hlower
    | none =>
      cases upper with
      | some upper => simpa only [reading] using ihUpper upper rfl hupper
      | none => simp only [reading]
  | inner outer name _ => simp only [reading]

/-- The variable's binding is looked up on the one side and has been put in on the other. -/
theorem told_var (henv : env.Closed) (name : String) :
    told (survey.reading env [] (.var name)) =
      told (survey.reading .empty [] ((JavaType.var name).resolve env)) := by
  rw [reading_var, JavaType.resolve]
  cases hbound : env.lookup name with
  | none => simp [reading_var]
  | some bound =>
    have hclosed := henv name bound hbound
    have hself : bound ≠ .var name := by
      rintro rfl
      cases hclosed
    simpa [hself] using survey.told_of_variableNames_nil hclosed

/-- To read a type in an environment is to read it after the bindings were put in. -/
theorem told_resolve (henv : env.Closed) {t : JavaType} (ht : t.Written) :
    told (survey.reading env [] t) = told (survey.reading .empty [] (t.resolve env)) := by
  induction ht with
  | basic name => exact survey.told_of_variableNames_nil rfl
  | array _ ih => exact survey.told_array ih
  | @parameterized base arguments hclass _ _ ihBase ihArguments =>
    -- Whether the base is a container is asked before its variables are substituted on the one
    -- side and after it on the other.
    refine survey.told_parameterized ?_ ?_ ihBase
    · rw [survey.classes.container?_resolve hclass]
    · rw [JavaType.resolveAll_eq_map, readingAll_eq_readEach, readingAll_eq_readEach,
        readEach_map]
      exact told_readEach ihArguments
  | var name => exact survey.told_var henv name
  | @wildcard upper lower _ _ ihUpper ihLower =>
    cases lower with
    | some lower =>
      simpa only [reading, JavaType.resolve, JavaType.resolveBound] using ihLower lower rfl
    | none =>
      cases upper with
      | some upper =>
        simpa only [reading, JavaType.resolve, JavaType.resolveBound] using ihUpper upper rfl
      | none => simp only [reading, JavaType.resolve, JavaType.resolveBound]
  | inner _ _ _ => simp only [reading, JavaType.resolve]

/-- A type is described the same in an environment and after the bindings were put in, from a
description in which no variable is followed, if both succeed. -/
theorem describe_resolve (survey : Survey) {d : Description} (hd : d.followed = [])
    {env : TypeEnvironment} (henv : env.Closed) {type : JavaType} (htype : type.Written)
    {t u : ApiType} {after after' : Description}
    (hrun : Describing.run (survey.describe type env) d = (.ok t, after))
    (hrun' : Describing.run (survey.describe (type.resolve env) .empty) d = (.ok u, after')) :
    t = u := by
  obtain ⟨met, hread, -⟩ := tells_describe type env d t after hrun
  obtain ⟨met', hread', -⟩ := tells_describe (type.resolve env) .empty d u after' hrun'
  have htold := survey.told_resolve henv htype
  rw [hd] at hread hread'
  rw [hread, hread'] at htold
  exact (Prod.mk.inj (Option.some.inj htold)).1

/-- A map to a wildcard that is bounded by a variable, as a signature writes it, for a class that
is bound to the variable. -/
theorem describe_resolve_map :
    ∃ type env t u after after',
      Signature.parseType "Ljava/util/Map<Ljava/lang/String;+TT;>;" = .ok type ∧
      type.Written ∧ env = ⟨[("T", .basic "Left")]⟩ ∧ env.Closed ∧
      Describing.run (mutualBeans.describe type env) .empty = (.ok t, after) ∧
      Describing.run (mutualBeans.describe (type.resolve env) .empty) .empty = (.ok u, after') ∧
      t = u := by
  let env : TypeEnvironment := ⟨[("T", .basic "Left")]⟩
  let type : JavaType := .parameterized (.basic "java.util.Map")
    [.basic "java.lang.String", .wildcard (some (.var "T")) none]
  have hparse : Signature.parseType "Ljava/util/Map<Ljava/lang/String;+TT;>;" = .ok type := by
    decide +kernel
  have henv : env.Closed := by
    intro name bound hbound
    simp only [env, TypeEnvironment.lookup, List.lookup_cons, List.lookup_nil] at hbound
    split at hbound
    · cases hbound
      rfl
    · cases hbound
  have hrun : Describing.run (mutualBeans.describe type env) .empty =
      (.ok (.dictionary (.reference "Left")),
        (Describing.run (mutualBeans.describe type env) .empty).2) :=
    Describing.run_eq_of_fst (by decide +kernel)
  have hrun' : Describing.run (mutualBeans.describe (type.resolve env) .empty) .empty =
      (.ok (.dictionary (.reference "Left")),
        (Describing.run (mutualBeans.describe (type.resolve env) .empty) .empty).2) :=
    Describing.run_eq_of_fst (by decide +kernel)
  have htype := Signature.written_parseType hparse
  exact ⟨type, env, _, _, _, _, hparse, htype, rfl, henv, hrun, hrun',
    describe_resolve mutualBeans rfl henv htype hrun hrun'⟩

end Survey

end ApiSurface
