import ApiSurface.Proofs.Reading

/-!
# Walks through the classes that are met

Each class is registered where it is met first, together with the variables that are followed
there, and only then what it meets itself is walked through. A class that is written as a value is
registered once its target is known. The registry that a walk ends with is decided by the classes
met at its start, and so is the API.
-/

namespace ApiSurface

/-- The variables that are followed where a class is registered, by the name of the class. -/
abbrev Registry := NameMap (List String)

namespace Survey

def isValue (survey : Survey) (className : String) : Bool :=
  match survey.kind className with
  | .value .. => true
  | _ => false

/-- A walk through classes in the order in which they are met. -/
inductive Walk (survey : Survey) : Registry → List Sighting → Registry → Prop where
  | done (r : Registry) : Walk survey r [] r
  | known {r r' : Registry} {s : Sighting} {rest : List Sighting} :
      r.contains s.className = true → Walk survey r rest r' → Walk survey r (s :: rest) r'
  | enter {r r₁ r' : Registry} {s : Sighting} {entry : ApiEntry} {met rest : List Sighting} :
      r.contains s.className = false → survey.isValue s.className = false →
      survey.entryAt? s = some (entry, met) →
      Walk survey (r.insert s.className s.followed) met r₁ → Walk survey r₁ rest r' →
      Walk survey r (s :: rest) r'
  | leave {r r₁ r' : Registry} {s : Sighting} {entry : ApiEntry} {met rest : List Sighting} :
      r.contains s.className = false → survey.isValue s.className = true →
      survey.entryAt? s = some (entry, met) →
      Walk survey r met r₁ → Walk survey (r₁.insertNew s.className s.followed) rest r' →
      Walk survey r (s :: rest) r'

/-- The readings of types that are described one after the other. -/
def readCalls (survey : Survey) (calls : List (JavaType × TypeEnvironment)) :
    Option (List ApiType × List Sighting) :=
  readEach (fun (type, env) => survey.reading env [] type) calls

/-- The registry after types were described one after the other. -/
def Tour (survey : Survey) (calls : List (JavaType × TypeEnvironment)) (r : Registry) : Prop :=
  ∃ types met, survey.readCalls calls = some (types, met) ∧ survey.Walk .empty met r

/-- What stands under a name in the API by a registry: what the class that has this name gets
under the variables that are followed where it is registered. -/
def entryIn (survey : Survey) (r : Registry) (name : String) : ApiEntry :=
  match r.entries.find? fun e => survey.nameOf e.1 == name with
  | none => .none
  | some (className, followed) => ((survey.entryAt? ⟨className, followed⟩).map Prod.fst).getD .none

namespace Walk

variable {survey : Survey} {r r₁ r' r'' : Registry} {met more : List Sighting}

theorem append (h : survey.Walk r met r₁) (h' : survey.Walk r₁ more r') :
    survey.Walk r (met ++ more) r' := by
  induction h with
  | done r => exact h'
  | known hknown _ ih => exact .known hknown (ih h')
  | enter hnew hkind hentry hmet _ _ ih => exact .enter hnew hkind hentry hmet (ih h')
  | leave hnew hkind hentry hmet _ _ ih => exact .leave hnew hkind hentry hmet (ih h')

theorem enter_single {s : Sighting} {entry : ApiEntry} (hnew : r.contains s.className = false)
    (hkind : survey.isValue s.className = false) (hentry : survey.entryAt? s = some (entry, met))
    (h : survey.Walk (r.insert s.className s.followed) met r') : survey.Walk r [s] r' :=
  .enter hnew hkind hentry h (.done r')

theorem leave_single {s : Sighting} {entry : ApiEntry} (hnew : r.contains s.className = false)
    (hkind : survey.isValue s.className = true) (hentry : survey.entryAt? s = some (entry, met))
    (h : survey.Walk r met r') :
    survey.Walk r [s] (r'.insertNew s.className s.followed) :=
  .leave hnew hkind hentry h (.done _)

theorem known_single {s : Sighting} (hknown : r.contains s.className = true) :
    survey.Walk r [s] r :=
  .known hknown (.done r)

/-- What is registered stays as it is. -/
theorem keeps (h : survey.Walk r met r') {q : String} {followed : List String}
    (hq : r.get? q = some followed) : r'.get? q = some followed := by
  induction h with
  | done r => exact hq
  | known _ _ ih => exact ih hq
  | @enter r _ _ s _ _ _ hnew _ _ _ _ ihmet ih =>
    refine ih (ihmet ?_)
    have hne : q ≠ s.className := by
      rintro rfl
      simp [NameMap.contains, hq] at hnew
    simp [hne, hq]
  | @leave r r₁ _ s _ _ _ hnew _ _ _ _ ihmet ih =>
    refine ih ?_
    have hq₁ := ihmet hq
    by_cases hs : q = s.className
    · simp [NameMap.get?_insertNew, hs, hs ▸ hq₁]
    · simp [NameMap.get?_insertNew, hs, hq₁]

theorem contains (h : survey.Walk r met r') {q : String} (hq : r.contains q = true) :
    r'.contains q = true := by
  obtain ⟨followed, hq⟩ := Option.isSome_iff_exists.mp hq
  simp [NameMap.contains, h.keeps hq]

/-- Every class that is met is registered in the end. -/
theorem covers (h : survey.Walk r met r') : ∀ s ∈ met, r'.contains s.className = true := by
  induction h with
  | done r => simp
  | known hknown hrest ih => exact List.forall_mem_cons.mpr ⟨hrest.contains hknown, ih⟩
  | enter _ _ _ hmet hrest _ ih =>
    exact List.forall_mem_cons.mpr ⟨hrest.contains (hmet.contains (by simp)), ih⟩
  | leave _ _ _ _ hrest _ ih =>
    exact List.forall_mem_cons.mpr ⟨hrest.contains (by simp), ih⟩

/-- What holds of the classes that are met and, with a class that the walk looks into, of those that
it meets itself, holds of all that are registered. The walk looks into a class under the variables
that it is registered with, and into a class that is written as a value perhaps under others too. -/
theorem visits {P : Sighting → Prop} (h : survey.Walk r met r')
    (hclosed : ∀ s entry more, P s →
      survey.isValue s.className = true ∨ r'.get? s.className = some s.followed →
      survey.entryAt? s = some (entry, more) → ∀ s' ∈ more, P s')
    (hmet : ∀ s ∈ met, P s) (hr : ∀ q followed, r.get? q = some followed → P ⟨q, followed⟩) :
    ∀ q followed, r'.get? q = some followed → P ⟨q, followed⟩ := by
  induction h with
  | done r => exact hr
  | known _ _ ih => exact ih hclosed (fun s hs => hmet s (List.mem_cons_of_mem _ hs)) hr
  | @enter _ r₁ r' s _ _ _ _ _ hentry hinner hrest ihmet ih =>
    have hs := hmet s (by simp)
    have hhere : r'.get? s.className = some s.followed := hrest.keeps (hinner.keeps (by simp))
    refine ih hclosed (fun s hs => hmet s (List.mem_cons_of_mem _ hs))
      (ihmet (fun s entry more hs hlook => ?_) (hclosed s _ _ hs (.inr hhere) hentry)
        fun q followed hq => ?_)
    · exact hclosed s entry more hs (hlook.imp_right hrest.keeps)
    · rw [NameMap.get?_insert] at hq
      split_ifs at hq with heq
      · cases hq
        exact heq ▸ hs
      · exact hr q followed hq
  | @leave _ r₁ r' s _ _ _ _ hvalue hentry hinner hrest ihmet ih =>
    have hs := hmet s (by simp)
    have hold : ∀ {q followed}, r₁.get? q = some followed →
        (r₁.insertNew s.className s.followed).get? q = some followed := by
      intro q followed hq
      by_cases heq : q = s.className
      · simp [NameMap.get?_insertNew, heq, heq ▸ hq]
      · simp [NameMap.get?_insertNew, heq, hq]
    have hr₁ := ihmet (fun s entry more hs hlook => hclosed s entry more hs
      (hlook.imp_right fun hq => hrest.keeps (hold hq)))
      (hclosed s _ _ hs (.inl hvalue) hentry) hr
    refine ih hclosed (fun s hs => hmet s (List.mem_cons_of_mem _ hs)) fun q followed hq => ?_
    rw [NameMap.get?_insertNew] at hq
    split_ifs at hq with heq
    · cases hthere : r₁.get? s.className with
      | none =>
        rw [hthere] at hq
        cases hq
        exact heq ▸ hs
      | some old =>
        rw [hthere] at hq
        cases hq
        exact heq ▸ hr₁ _ _ hthere
    · exact hr₁ q followed hq

/-- What every class passes on to those that it meets holds of all that are registered. -/
theorem registered {P : Sighting → Prop} (h : survey.Walk r met r')
    (hclosed : ∀ s entry more, P s → survey.entryAt? s = some (entry, more) → ∀ s' ∈ more, P s')
    (hmet : ∀ s ∈ met, P s) (hr : ∀ q followed, r.get? q = some followed → P ⟨q, followed⟩) :
    ∀ q followed, r'.get? q = some followed → P ⟨q, followed⟩ :=
  h.visits (fun s entry more hs _ => hclosed s entry more hs) hmet hr

/-- What a registered class meets itself is registered too. -/
theorem closed (h : survey.Walk r met r') {q : String} {followed : List String}
    (hq : r'.get? q = some followed) :
    r.get? q = some followed ∨ ∃ entry more, survey.entryAt? ⟨q, followed⟩ = some (entry, more) ∧
      ∀ s ∈ more, r'.contains s.className = true := by
  induction h with
  | done r => exact .inl hq
  | known _ _ ih => exact ih hq
  | enter _ _ hentry hmet hrest ihmet ih =>
    obtain hq | hdone := ih hq
    · obtain hq | ⟨entry, more, hthere, hmore⟩ := ihmet hq
      · rw [NameMap.get?_insert] at hq
        split_ifs at hq with heq
        · cases hq
          subst heq
          exact .inr ⟨_, _, hentry, fun s hs => hrest.contains (hmet.covers s hs)⟩
        · exact .inl hq
      · exact .inr ⟨entry, more, hthere, fun s hs => hrest.contains (hmore s hs)⟩
    · exact .inr hdone
  | @leave r r₁ r' s _ _ _ _ _ hentry hmet hrest ihmet ih =>
    have hkeep : ∀ q', r₁.contains q' = true →
        (r₁.insertNew s.className s.followed).contains q' = true := fun q' hq' => by simp [hq']
    have hold : r₁.get? q = some followed → r.get? q = some followed ∨
        ∃ entry more, survey.entryAt? ⟨q, followed⟩ = some (entry, more) ∧
          ∀ s ∈ more, r'.contains s.className = true := by
      intro hq
      refine (ihmet hq).imp_right ?_
      rintro ⟨entry, more, hthere, hmore⟩
      exact ⟨entry, more, hthere, fun s hs => hrest.contains (hkeep _ (hmore s hs))⟩
    obtain hq₁ | hdone := ih hq
    · rw [NameMap.get?_insertNew] at hq₁
      split_ifs at hq₁ with heq
      · subst heq
        cases hthere : r₁.get? s.className with
        | none =>
          rw [hthere] at hq₁
          cases hq₁
          exact .inr ⟨_, _, hentry, fun s hs => hrest.contains (hkeep _ (hmet.covers s hs))⟩
        | some old =>
          rw [hthere] at hq₁
          cases hq₁
          exact hold hthere
      · exact hold hq₁
    · exact .inr hdone

/-- The classes met decide the registry. -/
theorem unique (h : survey.Walk r met r') (h' : survey.Walk r met r'') : r' = r'' := by
  induction h generalizing r'' with
  | done r => cases h' with | done => rfl
  | known hknown _ ih =>
    cases h' with
    | known _ hrest => exact ih hrest
    | enter hnew _ _ _ _ => simp [hknown] at hnew
    | leave hnew _ _ _ _ => simp [hknown] at hnew
  | enter hnew hkind hentry _ _ ihmet ih =>
    cases h' with
    | known hknown _ => simp [hknown] at hnew
    | enter _ _ hentry' hmet' hrest' =>
      obtain ⟨rfl, rfl⟩ := Prod.mk.inj (Option.some.inj (hentry.symm.trans hentry'))
      exact ih (ihmet hmet' ▸ hrest')
    | leave _ hvalue _ _ _ => simp [hkind] at hvalue
  | leave hnew hkind hentry _ _ ihmet ih =>
    cases h' with
    | known hknown _ => simp [hknown] at hnew
    | enter _ hvalue _ _ _ => simp [hkind] at hvalue
    | leave _ _ hentry' hmet' hrest' =>
      obtain ⟨rfl, rfl⟩ := Prod.mk.inj (Option.some.inj (hentry.symm.trans hentry'))
      exact ih (ihmet hmet' ▸ hrest')

end Walk

theorem Tour.unique {survey : Survey} {calls : List (JavaType × TypeEnvironment)}
    {r r' : Registry} (h : survey.Tour calls r) (h' : survey.Tour calls r') : r = r' := by
  obtain ⟨types, met, hread, hwalk⟩ := h
  obtain ⟨types', met', hread', hwalk'⟩ := h'
  obtain ⟨rfl, rfl⟩ := Prod.mk.inj (Option.some.inj (hread.symm.trans hread'))
  exact hwalk.unique hwalk'

end Survey

end ApiSurface
