import ApiSurface.Proofs.Failures

/-!
# Internal failures

Four failures say that something is wrong inside, not in the classes: a name that is registered
twice, a definition completed without its placeholder, a property that is added twice, and a
variable that is bound to itself. No API leads to one of them. Names and properties are looked up
before they are added, and what is built in between leaves placeholders alone; and types are seen
only from environments that bind no variable to itself.
-/

namespace ApiSurface.Survey

variable {survey : Survey} {d : Description}

/-- Every way to halt but an internal failure. -/
def IsExternal : Halt → Prop
  | .failed e => e.isInternal = false
  | .endless => True

theorem tolerates_isExternal (survey : Survey) : survey.Tolerates IsExternal :=
  ⟨fun _ he => SurfaceError.isInternal_of_isOfClasses he, .inl trivial⟩

/-- From an environment without a binding of a variable to itself, types are described that are
seen from such environments. -/
def properBudget (survey : Survey) (allowed : Halt → Prop) : survey.Budget allowed where
  Within _ env _ := env.Proper
  Inner _ env _ := env.Proper
  kept _ h := h
  part _ h := h
  self h hself := absurd hself (h _)
  binding h _ _ := h
  value _ _ := JavaClass.proper_methodEnvironment _ _
  member _ _ _ _ _ hb := hb.proper

theorem heeds_describeTo_of_proper {allowed : Halt → Prop} (htolerates : survey.Tolerates allowed)
    (hendless : allowed .endless) (depth : Nat) (type : JavaType) {env : TypeEnvironment}
    (henv : env.Proper) : survey.Heeds allowed d (survey.describeTo depth type env) := by
  induction depth generalizing type env d with
  | zero => exact heeds_throw hendless
  | succ depth ih =>
    have hinner : ∀ type env d, (properBudget survey allowed).Inner type env d →
        survey.Heeds allowed d (survey.describeTo depth type env) :=
      fun type env d henv => ih type henv
    exact heeds_describeWithin htolerates (properBudget survey allowed)
      (Law.describes_describeTo depth) hinner henv

theorem isExternal_of_api {h : Halt} (herror : survey.api.1 = .error h) : IsExternal h := by
  have hdescribe : ∀ type (env : TypeEnvironment) d, env.Proper →
      survey.Heeds IsExternal d (survey.describe type env) :=
    fun type env d henv =>
      heeds_describeTo_of_proper (tolerates_isExternal survey) trivial _ type henv
  have hheeds := heeds_describeApi (d := .empty) (tolerates_isExternal survey) hdescribe fun _ => rfl
  exact (hheeds .empty (.nothing .empty)).2 h herror

/-- No API ends with an internal failure, whatever the classes and the settings are. -/
theorem api_ne_internal (survey : Survey) :
    (∀ name, survey.api.1 ≠ .error (.failed (.duplicateDefinition name))) ∧
    (∀ name, survey.api.1 ≠ .error (.failed (.missingPlaceholder name))) ∧
    (∀ name property, survey.api.1 ≠ .error (.failed (.duplicateProperty name property))) ∧
    (∀ name env, survey.api.1 ≠ .error (.failed (.selfReferentialBinding name env))) := by
  have hne : ∀ e : SurfaceError, e.isInternal = true →
      survey.api.1 ≠ .error (.failed e) := by
    intro e he herror
    have hexternal : e.isInternal = false := isExternal_of_api herror
    rw [he] at hexternal
    cases hexternal
  exact ⟨fun name => hne _ rfl, fun name => hne _ rfl, fun name property => hne _ rfl,
    fun name env => hne _ rfl⟩

end ApiSurface.Survey
