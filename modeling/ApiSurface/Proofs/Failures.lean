import ApiSurface.Proofs.Building
import ApiSurface.Proofs.Levels

/-!
# Failures

What a run can end with if it gives no value. The composed actions add only failures that tell what
is wrong with the classes; all else comes from chains without an end and from the way that types
are described. So it is enough to say what the description of one type may end with, from which
descriptions on.
-/

namespace ApiSurface

open Describing

/-- The failures that no classes should lead to. -/
def SurfaceError.isInternal : SurfaceError → Bool
  | .duplicateDefinition _ | .missingPlaceholder _ | .duplicateProperty .. |
    .selfReferentialBinding .. => true
  | _ => false

/-- The failures that tell what is wrong with the classes. A type that is imported twice is a matter
of the settings. -/
def SurfaceError.isOfClasses : SurfaceError → Bool
  | .duplicateImport _ => false
  | e => !e.isInternal

theorem SurfaceError.isInternal_of_isOfClasses {e : SurfaceError} (h : e.isOfClasses = true) :
    e.isInternal = false := by
  cases e <;> first | rfl | cases h

theorem SurfaceError.IsArity.isOfClasses {e : SurfaceError} (h : e.IsArity) :
    e.isOfClasses = true := by
  obtain ⟨expected, found, rfl⟩ := h
  rfl

namespace ClassCollection

/-- The classes that the unwrapped members of a class's hierarchy lead to. -/
def unwrapTargets (collection : ClassCollection) (bound : BoundClass) : List BoundClass :=
  match collection.hierarchy bound with
  | .error _ => []
  | .ok levels => (hierarchyMembers levels).filterMap fun (env, member) =>
    member.unwrapping?.bind fun _ =>
      (collection.bind? (member.type.resolve env) env).toOption.join

theorem mem_unwrapTargets {collection : ClassCollection} {bound target : BoundClass}
    {levels : List BoundClass} (hlevels : collection.hierarchy bound = .ok levels)
    {env : TypeEnvironment} {member : BeanMember} (hmem : (env, member) ∈ hierarchyMembers levels)
    (hunwrap : member.unwrapping?.isSome = true)
    (hbind : collection.bind? (member.type.resolve env) env = .ok (some target)) :
    target ∈ collection.unwrapTargets bound := by
  obtain ⟨unwrapping, hunwrap⟩ := Option.isSome_iff_exists.mp hunwrap
  rw [unwrapTargets, hlevels]
  refine List.mem_filterMap.mpr ⟨(env, member), hmem, ?_⟩
  simp [hunwrap, hbind, Except.toOption]

/-- Every chain of unwrapped members from the class ends within the steps. -/
def UnwrapsWithin (collection : ClassCollection) : Nat → BoundClass → Prop
  | 0, _ => False
  | steps + 1, bound => ∀ target ∈ collection.unwrapTargets bound, UnwrapsWithin collection steps target

/-- What is taken from the levels stands beside the environment of one of them. -/
theorem exists_level_of_mem {γ : Type} {levels : List BoundClass} {f : BoundClass → List γ}
    {env : TypeEnvironment} {x : γ}
    (h : (env, x) ∈ levels.flatMap fun level => (f level).map fun y => (level.environment, y)) :
    ∃ level ∈ levels, level.environment = env := by
  obtain ⟨level, hlevel, hmem⟩ := List.mem_flatMap.mp h
  obtain ⟨y, -, heq⟩ := List.mem_map.mp hmem
  exact ⟨level, hlevel, (Prod.mk.inj heq).1⟩

end ClassCollection

namespace Survey

variable {α β : Type} {survey : Survey} {allowed : Halt → Prop} {describe : TypeDescriber}
  {d d' : Description}

/-- From here on, whatever else is built first, the action builds, and if it gives no value, then
by a halt that is allowed. -/
def Heeds (survey : Survey) (allowed : Halt → Prop) (d : Description) (act : Describing α) : Prop :=
  ∀ d', survey.Builds d d' →
    survey.Builds d' (run act d').2 ∧ ∀ h, (run act d').1 = .error h → allowed h

theorem Heeds.later {act : Describing α} (h : survey.Heeds allowed d act)
    (hbuilds : survey.Builds d d') : survey.Heeds allowed d' act :=
  fun d'' hbuilds' => h d'' (hbuilds.andThen hbuilds')

theorem heeds_pure (a : α) : survey.Heeds allowed d (pure a) :=
  fun d' _ => ⟨.nothing d', by rintro _ ⟨⟩⟩

theorem heeds_throw {h : Halt} (hallowed : allowed h) :
    survey.Heeds allowed d (throw h : Describing α) :=
  fun d' _ => ⟨.nothing d', by rintro _ ⟨⟩; exact hallowed⟩

theorem heeds_report (e : Event) : survey.Heeds allowed d (report e) :=
  fun d' _ => ⟨.tell d' e, by rintro _ ⟨⟩⟩

theorem heeds_bind {act : Describing α} {f : α → Describing β} (hact : survey.Heeds allowed d act)
    (hf : ∀ a, survey.Heeds allowed d (f a)) : survey.Heeds allowed d (act >>= f) := by
  intro d' hbuilds
  obtain ⟨hbuilds', herror⟩ := hact d' hbuilds
  rw [run_bind]
  rcases hrun : run act d' with ⟨h | a, between⟩ <;> simp only [hrun] at hbuilds' herror ⊢
  · exact ⟨hbuilds', by rintro _ ⟨⟩; exact herror h rfl⟩
  · obtain ⟨hbuilds'', herror'⟩ := hf a between (hbuilds.andThen hbuilds')
    exact ⟨hbuilds'.andThen hbuilds'', herror'⟩

theorem heeds_bind_lift {result : Except SurfaceError α} {f : α → Describing β}
    (hfault : ∀ e, result = .error e → allowed (.failed e))
    (hf : ∀ a, result = .ok a → survey.Heeds allowed d (f a)) :
    survey.Heeds allowed d (lift result >>= f) := by
  cases result with
  | error e => exact heeds_throw (hfault e rfl)
  | ok a => exact hf a rfl

theorem heeds_bind_liftHalt {result : Except Halt α} {f : α → Describing β}
    (hfault : ∀ h, result = .error h → allowed h)
    (hf : ∀ a, result = .ok a → survey.Heeds allowed d (f a)) :
    survey.Heeds allowed d (liftHalt result >>= f) := by
  cases result with
  | error h => exact heeds_throw (hfault h rfl)
  | ok a => exact hf a rfl

theorem heeds_lift {result : Except SurfaceError α}
    (hfault : ∀ e, result = .error e → allowed (.failed e)) :
    survey.Heeds allowed d (lift result) := by
  cases result with
  | error e => exact heeds_throw (hfault e rfl)
  | ok a => exact heeds_pure a

theorem heeds_foldlM {f : β → α → Describing β} {l : List α} {b : β}
    (hstep : ∀ b, ∀ a ∈ l, survey.Heeds allowed d (f b a)) :
    survey.Heeds allowed d (l.foldlM f b) := by
  induction l generalizing b with
  | nil => exact heeds_pure b
  | cons a l ih =>
    rw [List.foldlM_cons]
    exact heeds_bind (hstep b a (by simp)) fun b' => ih fun b a ha => hstep b a (by simp [ha])

theorem heeds_forM {f : α → Describing Unit} {l : List α}
    (hstep : ∀ a ∈ l, survey.Heeds allowed d (f a)) : survey.Heeds allowed d (l.forM f) := by
  induction l with
  | nil => exact heeds_pure ()
  | cons a l ih =>
    show survey.Heeds allowed d (f a >>= fun _ => l.forM f)
    exact heeds_bind (hstep a (by simp)) fun _ => ih fun a ha => hstep a (by simp [ha])

/-! ## Members -/

/-- What is allowed: every failure that tells what is wrong with the classes, and endless chains if
there are any. -/
structure Tolerates (survey : Survey) (allowed : Halt → Prop) : Prop where
  external : ∀ e : SurfaceError, e.isOfClasses = true → allowed (.failed e)
  ending : allowed .endless ∨
    (∀ b : BoundClass, b.Fits survey.classes → survey.classes.hierarchy b ≠ .error .endless) ∧
      ∀ decl, survey.classes.Loaded decl →
        survey.classes.UnwrapsWithin survey.unwrapBound (.raw decl)

/-- From here on, types can be described as they are seen from every level of a hierarchy. -/
def Reads (survey : Survey) (allowed : Halt → Prop) (describe : TypeDescriber) (d : Description) :
    Prop :=
  ∀ type (b : BoundClass), b.Fits survey.classes →
    survey.Heeds allowed d (describe type b.environment)

theorem Tolerates.hierarchy (h : survey.Tolerates allowed) {b : BoundClass}
    (hb : b.Fits survey.classes) {halt : Halt} (herror : survey.classes.hierarchy b = .error halt) :
    allowed halt := by
  obtain rfl | ⟨e, rfl, he⟩ := (ClassCollection.gives_hierarchy hb).error herror
  · exact h.ending.elim id fun hending => absurd herror (hending.1 b hb)
  · exact h.external e he.isOfClasses

theorem heeds_element {type : JavaType} {env : TypeEnvironment}
    (h : survey.Heeds allowed d (describe type env)) (annotations : List AnnotationUse) :
    survey.Heeds allowed d (describe.element annotations type env) :=
  heeds_bind h fun _ => heeds_pure _

/-- A property is added only if its name is free, so it can be added. -/
theorem heeds_addProperty {env : TypeEnvironment} {member : BeanMember}
    (h : survey.Heeds allowed d (describe member.type env)) (hidden : List String)
    (affixes : Affixes) (definition : ClassDefinition) :
    survey.Heeds allowed d (addProperty describe hidden affixes definition env member) := by
  simp only [addProperty]
  split_ifs with hskip
  · exact heeds_pure definition
  · refine heeds_bind (heeds_element h _) fun t => heeds_lift fun e he => ?_
    have hfree : definition.has (affixes.wrap member.name) = false := by
      simp only [Bool.or_eq_true, not_or, Bool.not_eq_true] at hskip
      exact hskip.1
    simp [ClassDefinition.add, hfree] at he

theorem heeds_addProperties (htolerates : survey.Tolerates allowed)
    (hreads : survey.Reads allowed describe d) (steps : Nat) (affixes : Affixes)
    {bound : BoundClass} (hbound : bound.Fits survey.classes) (definition : ClassDefinition)
    (hsteps : allowed .endless ∨ survey.classes.UnwrapsWithin steps bound) :
    survey.Heeds allowed d (survey.addProperties describe steps affixes bound definition) := by
  induction steps generalizing affixes bound definition with
  | zero => exact heeds_throw (hsteps.elim id fun h => h.elim)
  | succ steps ih =>
    rw [addProperties]
    refine heeds_bind_liftHalt (fun halt => htolerates.hierarchy hbound) fun levels hlevels => ?_
    refine heeds_foldlM ?_
    rintro definition ⟨env, member⟩ hmem
    obtain ⟨level, hlevel, rfl⟩ := ClassCollection.exists_level_of_mem hmem
    have hfits := (ClassCollection.gives_hierarchy hbound).ok hlevels level hlevel
    cases hunwrap : member.unwrapping? with
    | none =>
      simp only [hunwrap]
      exact heeds_addProperty (hreads _ level hfits) _ _ _
    | some unwrapping =>
      simp only [hunwrap]
      have hgives := survey.classes.gives_bind? (member.type.resolve level.environment)
        level.environment
      refine heeds_bind_lift (fun e he => htolerates.external e (hgives.error he).isOfClasses)
        fun target htarget => ?_
      cases target with
      | none => exact heeds_bind (heeds_report _) fun _ => heeds_pure _
      | some target =>
        have hmore : allowed .endless ∨ survey.classes.UnwrapsWithin steps target :=
          hsteps.imp_right fun h => h target <|
            ClassCollection.mem_unwrapTargets hlevels hmem (by simp [hunwrap]) htarget
        exact ih _ (hgives.ok htarget target rfl) _ hmore

theorem heeds_beanDefinition (htolerates : survey.Tolerates allowed)
    (hreads : survey.Reads allowed describe d) {decl : JavaClass}
    (hdecl : survey.classes.Loaded decl) (name : String) :
    survey.Heeds allowed d (survey.beanDefinition describe decl name) :=
  heeds_addProperties htolerates hreads _ _ (BoundClass.fits_raw hdecl) _
    (htolerates.ending.imp_right fun h => h.2 decl hdecl)

theorem heeds_addField {env : TypeEnvironment} {field : JavaField}
    (h : survey.Heeds allowed d (describe field.type env)) (definition : ClassDefinition) :
    survey.Heeds allowed d (addField describe definition env field) := by
  simp only [addField]
  split_ifs with hskip
  · exact heeds_pure definition
  all_goals
    refine heeds_bind (heeds_element h _) fun t => heeds_lift fun e he => ?_
    simp [ClassDefinition.add, hskip] at he

theorem heeds_serializedDefinition (htolerates : survey.Tolerates allowed)
    (hreads : survey.Reads allowed describe d) {decl : JavaClass}
    (hdecl : survey.classes.Loaded decl) (name : String) :
    survey.Heeds allowed d (survey.serializedDefinition describe decl name) := by
  have hfits : (BoundClass.raw decl).Fits survey.classes := BoundClass.fits_raw hdecl
  refine heeds_bind_liftHalt (fun halt => htolerates.hierarchy hfits) fun levels hlevels => ?_
  refine heeds_foldlM ?_
  rintro definition ⟨env, field⟩ hmem
  obtain ⟨level, hlevel, rfl⟩ := ClassCollection.exists_level_of_mem hmem
  have hmember : level ∈ levels := (List.mem_filter.mp hlevel).1
  have hlevel' := (ClassCollection.gives_hierarchy hfits).ok hlevels level hmember
  exact heeds_addField (hreads _ level hlevel') definition

/-! ## Registration -/

theorem heeds_displayName (htolerates : survey.Tolerates allowed) (q : String) :
    survey.Heeds allowed d (survey.displayName q) := by
  intro d' _
  rw [run_displayName]
  cases hclaim : d'.claims.get? (survey.nameOf q) with
  | none => exact ⟨.claim hclaim, by rintro _ ⟨⟩⟩
  | some owner =>
    simp only
    split_ifs
    · exact ⟨.nothing d', by rintro _ ⟨⟩⟩
    · exact ⟨.nothing d', by rintro _ ⟨⟩; exact htolerates.external _ rfl⟩

theorem heeds_addCase (htolerates : survey.Tolerates allowed) (union : UnionDefinition)
    (value : String) (subclass : JavaClass) {definition : String → Describing ClassDefinition}
    (h : ∀ name, survey.Heeds allowed d (definition name)) :
    survey.Heeds allowed d (survey.addCase union value subclass definition) := by
  refine heeds_bind (heeds_displayName htolerates _) fun name => ?_
  refine heeds_bind (h name) fun c => heeds_lift fun e he => ?_
  rw [UnionDefinition.add] at he
  split_ifs at he
  cases he
  exact htolerates.external _ rfl

theorem heeds_addSubtype (htolerates : survey.Tolerates allowed)
    (hreads : survey.Reads allowed describe d) (decl : JavaClass) (union : UnionDefinition)
    (subtype : BeanUnion.Subtype) :
    survey.Heeds allowed d (survey.addSubtype describe decl union subtype) := by
  unfold addSubtype
  cases hclass : survey.classes.classOf? subtype.type with
  | none => exact heeds_bind (heeds_report _) fun _ => heeds_pure _
  | some subclass =>
    have hsubclass := ClassCollection.loaded_of_classOf? hclass
    exact heeds_addCase htolerates _ _ _ (heeds_beanDefinition htolerates hreads hsubclass)

theorem heeds_addPermitted (htolerates : survey.Tolerates allowed)
    (hreads : survey.Reads allowed describe d) (decl : JavaClass) (union : UnionDefinition)
    (subclass : String) :
    survey.Heeds allowed d (survey.addPermitted describe decl union subclass) := by
  unfold addPermitted
  cases hclass : survey.classes.class? subclass with
  | none => exact heeds_bind (heeds_report _) fun _ => heeds_pure _
  | some subclass =>
    have hsubclass := ClassCollection.loaded_of_class? hclass
    exact heeds_addCase htolerates _ _ _ (heeds_serializedDefinition htolerates hreads hsubclass)

theorem gives_unlisted (classes : ClassCollection) (union : String) (subclass : JavaClass) :
    Gives (fun _ => True) (fun e => e.isOfClasses = true)
      (BeanUnion.unlisted classes union subclass) := by
  unfold BeanUnion.unlisted
  cases BeanUnion.ownName classes subclass.type with
  | none => exact rfl
  | some value => trivial

theorem gives_subtypes (classes : ClassCollection) (decl : JavaClass) :
    Gives (fun _ => True) (fun e => e.isOfClasses = true) (BeanUnion.subtypes classes decl) := by
  unfold BeanUnion.subtypes
  cases AnnotationUse.find? decl.annotations BeanUnion.subTypes with
  | none => exact gives_mapM fun subclass _ => gives_unlisted classes decl.name subclass
  | some list =>
    refine gives_bind (gives_mapM fun entry _ => ?_) fun _ _ => trivial
    unfold BeanUnion.listed
    cases entry.class? "value" with
    | none => trivial
    | some type =>
      simp only
      cases (entry.string? "name").filter (· != "") <|> BeanUnion.ownName classes type with
      | none => exact rfl
      | some value => trivial

/-- Where the opening succeeds and what is filled in can be completed, only the filling fails. -/
theorem allowed_of_fill {opening : ApiDefinition → Except SurfaceError ApiDefinition}
    {fill : Describing α} {complete : α → ApiDefinition → Except SurfaceError ApiDefinition}
    {opened : Description} (hopen : run (extend opening) d = (.ok (), opened))
    (hfill : survey.Heeds allowed opened fill)
    (hcomplete : ∀ a after, run fill opened = (.ok a, after) →
      ∃ api, complete a after.api = .ok api) {h : Halt}
    (herror : (run (do extend opening; let a ← fill; extend (complete a)) d).1 = .error h) :
    allowed h := by
  rw [run_bind_of_ok hopen, run_bind] at herror
  rcases hrun : run fill opened with ⟨e | a, after⟩
  · simp only [hrun] at herror
    cases herror
    exact (hfill opened (.nothing opened)).2 h (by rw [hrun])
  · obtain ⟨api, hapi⟩ := hcomplete a after hrun
    simp only [hrun, run_extend, hapi] at herror
    cases herror

theorem allowed_of_define {name : String} {definition : Describing ClassDefinition}
    (hfree : d.api.defines name = false)
    (hleads : ∀ d, (building survey).Leads definition d ((building survey).IsClass name))
    (hdefinition : survey.Heeds allowed (d.withClass (.empty name)) definition) {h : Halt}
    (herror : (run (define name definition) d).1 = .error h) : allowed h := by
  have hopen : run (extend (·.addClass (.empty name))) d = (.ok (), d.withClass (.empty name)) :=
    run_extend_eq_ok_iff.mpr ⟨_, ApiDefinition.addClass_eq_ok_iff.mpr ⟨hfree, rfl⟩, rfl⟩
  refine allowed_of_fill hopen hdefinition (fun c after hrun => ?_) herror
  obtain ⟨-, hbuilds, hclass⟩ := hleads (d.withClass (.empty name)) trivial
  rw [hrun] at hbuilds hclass
  have hplace : after.api.classes.contains name = true :=
    hbuilds.keeps.classes.contains (by simp [Description.withClass, ClassDefinition.empty])
  exact ⟨_, ApiDefinition.completeClass_eq_ok_iff.mpr ⟨(hclass c rfl).1 ▸ hplace, rfl⟩⟩

theorem allowed_of_defineUnion {name property : String}
    {fill : UnionDefinition → Describing UnionDefinition} (hfree : d.api.defines name = false)
    (hleads : ∀ d, (building survey).Leads (fill (.empty name property)) d
      ((building survey).IsUnion name))
    (hfill : survey.Heeds allowed (d.withUnion (.empty name property))
      (fill (.empty name property))) {h : Halt}
    (herror : (run (defineUnion (.empty name property) fill) d).1 = .error h) : allowed h := by
  have hopen : run (extend (·.addUnion (.empty name property))) d =
      (.ok (), d.withUnion (.empty name property)) :=
    run_extend_eq_ok_iff.mpr ⟨_, ApiDefinition.addUnion_eq_ok_iff.mpr ⟨hfree, rfl⟩, rfl⟩
  refine allowed_of_fill hopen hfill (fun u after hrun => ?_) herror
  obtain ⟨-, hbuilds, hunion⟩ := hleads (d.withUnion (.empty name property)) trivial
  rw [hrun] at hbuilds hunion
  have hplace : after.api.unions.contains name = true :=
    hbuilds.keeps.unions.contains (by simp [Description.withUnion, UnionDefinition.empty])
  exact ⟨_, ApiDefinition.completeUnion_eq_ok_iff.mpr ⟨(hunion u rfl).1 ▸ hplace, rfl⟩⟩

section

variable {q : String} (htolerates : survey.Tolerates allowed)
  (hlawful : (building survey).Describes describe)

include htolerates hlawful

/-- A class is registered where its name is free, and its members are described only where the name
is no longer free. -/
theorem allowed_of_register {decl : JavaClass} (hkind : survey.kind q = .defined decl)
    (hfree : d.api.defines (survey.nameOf q) = false)
    (hreads : ∀ d', survey.Builds d d' → d'.api.defines (survey.nameOf q) = true →
      survey.Reads allowed describe d') {h : Halt}
    (herror : (run (survey.register describe decl (survey.nameOf q) decl.form) d).1 = .error h) :
    allowed h := by
  have hdecl : survey.classes.Loaded decl :=
    ClassCollection.loaded_of_class? (class?_of_kind_defined hkind)
  have hclass : survey.Reads allowed describe (d.withClass (.empty (survey.nameOf q))) :=
    hreads _ (.openClass hfree) (by simp [Description.withClass, ApiDefinition.defines,
      ClassDefinition.empty])
  have hunion : ∀ property,
      survey.Reads allowed describe (d.withUnion (.empty (survey.nameOf q) property)) :=
    fun property => hreads _ (.openUnion hfree) (by simp [Description.withUnion,
      ApiDefinition.defines, UnionDefinition.empty])
  cases hform : decl.form with
  | enum =>
    rw [hform, register, run_extend, ApiDefinition.addEnum] at herror
    simp [hfree] at herror
  | bean =>
    rw [hform] at herror
    exact allowed_of_define hfree (Law.leads_beanDefinition hlawful decl _)
      (heeds_beanDefinition htolerates hclass hdecl _) herror
  | serialized =>
    rw [hform] at herror
    exact allowed_of_define hfree (Law.leads_serializedDefinition hlawful decl _)
      (heeds_serializedDefinition htolerates hclass hdecl _) herror
  | beanUnion info =>
    rw [hform, register, describeBeanUnion] at herror
    cases hproperty : BeanUnion.discriminator info with
    | error fault =>
      simp only [hproperty, run_throw] at herror
      cases herror
      exact htolerates.external _ rfl
    | ok property =>
      simp only [hproperty] at herror
      refine allowed_of_defineUnion hfree (fun d => (?_ : (building survey).Leads _ d _)) ?_ herror
      · refine Law.leads_bind (P := fun _ _ => True) (Law.leads_lift fun _ _ => trivial)
          fun subtypes after _ _ =>
            Law.leads_foldlM (fun union subtype d hd => ?_) (Law.isUnion_empty _ _ _)
        exact Law.leads_addSubtype hlawful decl hd subtype
      · have hgives := gives_subtypes survey.classes decl
        refine heeds_bind_lift (fun e he => htolerates.external e (hgives.error he))
          fun subtypes _ => heeds_foldlM fun union subtype _ => ?_
        exact heeds_addSubtype htolerates (hunion property) decl union subtype
  | sealedUnion =>
    rw [hform, register, describeSealedUnion] at herror
    refine allowed_of_defineUnion hfree (fun d => (?_ : (building survey).Leads _ d _)) ?_ herror
    · exact Law.leads_foldlM
        (fun union subclass d hd => Law.leads_addPermitted hlawful decl hd subclass)
        (Law.isUnion_empty _ _ _)
    · exact heeds_foldlM fun union subclass _ =>
        heeds_addPermitted htolerates (hunion _) decl union subclass

/-- What a class may end with, by its kind: a class written as a value ends as its method's return
type does. -/
theorem allowed_of_describeKind
    (hvalue : ∀ decl m, survey.kind q = .value decl m →
      survey.Heeds allowed d (describe m.returnType (decl.methodEnvironment m)))
    (hmember : ∀ decl, survey.kind q = .defined decl → d.api.defines (survey.nameOf q) = false →
      ∀ d', survey.Builds d d' → d'.api.defines (survey.nameOf q) = true →
        survey.Reads allowed describe d') {h : Halt}
    (herror : (run (survey.describeKind describe q (survey.kind q)) d).1 = .error h) :
    allowed h := by
  cases hkind : survey.kind q with
  | imported => rw [hkind] at herror; cases herror
  | unknown => rw [hkind] at herror; cases herror
  | blackBox => rw [hkind] at herror; cases herror
  | value decl method =>
    rw [hkind, describeKind, run_describeValueClass] at herror
    split_ifs at herror
    have hheeds : survey.Heeds allowed d (describe method.returnType (decl.methodEnvironment method)) :=
      hvalue decl method hkind
    rw [run_bind] at herror
    rcases hrun : run (describe method.returnType (decl.methodEnvironment method)) d with
      ⟨e | t, after⟩ <;> simp only [hrun] at herror
    · cases herror
      exact (hheeds d (.nothing d)).2 h (by rw [hrun])
    · cases herror
  | defined decl =>
    rw [hkind, describeKind, run_describeDefinition] at herror
    split_ifs at herror with hdefined
    have hfree : d.api.defines (survey.nameOf q) = false := by simpa using hdefined
    rw [run_bind] at herror
    rcases hrun : run (survey.register describe decl (survey.nameOf q) decl.form) d with
      ⟨e | _, after⟩ <;> simp only [hrun] at herror
    · cases herror
      exact allowed_of_register htolerates hlawful hkind hfree (hmember decl hkind hfree)
        (by rw [hrun])
    · cases herror

theorem heeds_describeClass
    (hvalue : ∀ decl m, survey.kind q = .value decl m →
      survey.Heeds allowed d (describe m.returnType (decl.methodEnvironment m)))
    (hmember : ∀ decl d', survey.kind q = .defined decl → survey.Builds d d' →
      d'.api.defines (survey.nameOf q) = false → ∀ d'', survey.Builds d' d'' →
        d''.api.defines (survey.nameOf q) = true → survey.Reads allowed describe d'') :
    survey.Heeds allowed d (survey.describeClass describe q) := by
  intro d' hbuilds
  refine ⟨(Law.leads_describeClass hlawful q d' trivial).2.1, fun h herror => ?_⟩
  obtain ⟨hname, hallowed⟩ := heeds_displayName htolerates q d' hbuilds
  obtain ⟨e, he⟩ | ⟨between, hok, -, -⟩ := run_displayName_cases q d'
  · rw [describeClass, run_bind_of_error he] at herror
    cases herror
    exact hallowed h (by rw [he])
  · rw [hok] at hname
    rw [run_describeClass describe hok] at herror
    have hbuilds' : survey.Builds d between := hbuilds.andThen hname
    exact allowed_of_describeKind htolerates hlawful
      (fun decl m hkind => (hvalue decl m hkind).later hbuilds')
      (fun decl hkind hfree => hmember decl between hkind hbuilds' hfree) herror

end

end Survey

/-! ## Types -/

/-- A type whose description lies within that of another one. Of a wildcard's bounds the lower one
counts. -/
inductive JavaType.Part : JavaType → JavaType → Prop where
  | element (element : JavaType) : Part (.array element) element
  | base (base : JavaType) (arguments : List JavaType) : Part (.parameterized base arguments) base
  | argument {base argument : JavaType} {arguments : List JavaType} :
      argument ∈ arguments → Part (.parameterized base arguments) argument
  | lower (upper : Option JavaType) (lower : JavaType) : Part (.wildcard upper (some lower)) lower
  | upper (upper : JavaType) : Part (.wildcard (some upper) none) upper

namespace Survey

/-- From which descriptions on a type can be described so that its run heeds what is allowed
(`Within`), and what has to be known for that of the types that are left to another describer
(`Inner`): those of bindings, of the methods of classes written as values, and of members. -/
structure Budget (survey : Survey) (allowed : Halt → Prop) where
  Within : JavaType → TypeEnvironment → Description → Prop
  Inner : JavaType → TypeEnvironment → Description → Prop
  kept {type : JavaType} {env : TypeEnvironment} {d d' : Description} : survey.Builds d d' →
    Within type env d → Within type env d'
  part {type inner : JavaType} {env : TypeEnvironment} {d : Description} : type.Part inner →
    Within type env d → Within inner env d
  self {name : String} {env : TypeEnvironment} {d : Description} : Within (.var name) env d →
    env.lookup name = some (.var name) → allowed (.failed (.selfReferentialBinding name env))
  binding {name : String} {env : TypeEnvironment} {d : Description} {bound : JavaType} :
    Within (.var name) env d → env.lookup name = some bound → name ∉ d.followed →
    Inner bound env (d.withFollowed (name :: d.followed))
  value {q : String} {env : TypeEnvironment} {d : Description} {decl : JavaClass} {m : JavaMethod} :
    Within (.basic q) env d → survey.kind q = .value decl m →
    Inner m.returnType (decl.methodEnvironment m) d
  member {q : String} {env : TypeEnvironment} {d d' : Description} {decl : JavaClass}
    {type : JavaType} {b : BoundClass} : Within (.basic q) env d → survey.kind q = .defined decl →
    d.api.defines (survey.nameOf q) = false → survey.Builds d d' →
    d'.api.defines (survey.nameOf q) = true → b.Fits survey.classes → Inner type b.environment d'

theorem heeds_describeAllWithin {survey : Survey} {allowed : Halt → Prop}
    {describe : TypeDescriber} {types : List JavaType} {env : TypeEnvironment} {d : Description}
    (h : ∀ type ∈ types, survey.Heeds allowed d (survey.describeWithin describe type env)) :
    survey.Heeds allowed d (survey.describeAllWithin describe types env) := by
  induction types with
  | nil => exact heeds_pure []
  | cons type types ih =>
    refine heeds_bind (h type (by simp)) fun t => ?_
    exact heeds_bind (ih fun type htype => h type (by simp [htype])) fun ts => heeds_pure _

section

variable {survey : Survey} {allowed : Halt → Prop} {describe : TypeDescriber}
  (htolerates : survey.Tolerates allowed) (budget : survey.Budget allowed)
  (hlawful : (building survey).Describes describe)
  (hinner : ∀ type env d, budget.Inner type env d → survey.Heeds allowed d (describe type env))

include htolerates hlawful hinner

theorem heeds_describeName {q : String} {env : TypeEnvironment} {d : Description}
    (h : budget.Within (.basic q) env d) :
    survey.Heeds allowed d (survey.describeName describe q) := by
  unfold describeName
  cases survey.classes.builtin? q with
  | some t => exact heeds_pure t
  | none =>
    refine heeds_describeClass htolerates hlawful
      (fun decl m hkind => hinner _ _ _ (budget.value h hkind)) ?_
    intro decl d' hkind hbuilds hfree d'' hbuilds' hdefined type b hb
    exact hinner _ _ _ (budget.member (budget.kept hbuilds h) hkind hfree hbuilds' hdefined hb)

omit htolerates hlawful in
theorem heeds_describeVariable {name : String} {env : TypeEnvironment} {d : Description}
    (h : budget.Within (.var name) env d) :
    survey.Heeds allowed d (describeVariable describe name env) := by
  unfold describeVariable
  cases hlookup : env.lookup name with
  | none => exact heeds_pure _
  | some bound =>
    simp only
    split_ifs with hself
    · exact heeds_throw (budget.self h (by rw [hlookup, hself]))
    · intro d' hbuilds
      rw [run_bind_of_ok (run_get d')]
      split_ifs with hfollowed
      · exact ⟨.nothing d', by rintro _ ⟨⟩⟩
      · have hfresh : name ∉ d'.followed := by simpa using hfollowed
        have hbound := hinner _ _ _ (budget.binding (budget.kept hbuilds h) hlookup hfresh)
        obtain ⟨hbuilds', herror⟩ := hbound _ (.nothing _)
        rw [run_following]
        exact ⟨.follow hfresh hbuilds', herror⟩

/-- What the single types within may end with, their description may end with. -/
theorem heeds_describeWithin {type : JavaType} {env : TypeEnvironment} {d : Description}
    (h : budget.Within type env d) :
    survey.Heeds allowed d (survey.describeWithin describe type env) := by
  induction type using JavaType.induct with
  | basic q => exact heeds_describeName htolerates budget hlawful hinner h
  | array element ih =>
    exact heeds_bind (ih (budget.part (.element element) h)) fun t => heeds_pure _
  | parameterized base arguments ihBase ihArguments =>
    refine heeds_bind (heeds_describeAllWithin fun argument hmem =>
      ihArguments argument hmem (budget.part (.argument hmem) h)) fun ts => ?_
    cases survey.classes.container? base ts with
    | some t => exact heeds_pure t
    | none => exact ihBase (budget.part (.base base arguments) h)
  | var name => exact heeds_describeVariable budget hinner h
  | wildcard upper lower ihUpper ihLower =>
    cases lower with
    | some lower => exact ihLower lower rfl (budget.part (.lower upper lower) h)
    | none =>
      cases upper with
      | some upper => exact ihUpper upper rfl (budget.part (.upper upper) h)
      | none => exact heeds_pure _
  | inner outer name _ => exact heeds_throw (htolerates.external _ rfl)

end

/-! ## The whole API -/

/-- Adding imports fails only on a type that is imported already. -/
theorem gives_addImport (api : ApiDefinition) (module : String) (types : List String) :
    Gives (fun _ => True) (fun e => ∃ type, e = .duplicateImport type)
      (api.addImport module types).1 := by
  induction types generalizing api with
  | nil => trivial
  | cons type types ih =>
    rw [ApiDefinition.addImport]
    split_ifs
    · exact ⟨type, rfl⟩
    · exact ih (api.importType module type)

/-- Describes the controllers and the roots that the settings select. -/
def describeSurface (survey : Survey) : Describing Unit := do
  (survey.classes.controllers survey.settings).forM survey.describeController
  survey.settings.roots.forM survey.describeRoot

def describeImports (imports : List (String × List String)) : Describing Unit :=
  imports.forM fun i => describeImport i.1 i.2

/-- The imports are added when all types are described. -/
theorem describeApi_eq (survey : Survey) :
    survey.describeApi = (do
      survey.describeSurface
      describeImports survey.settings.imports.entries
      let api ← Describing.api
      (apiEvents api).forM Describing.report
      pure api) := by
  simp only [describeApi, describeSurface, describeImports, bind_assoc]

section

variable {survey : Survey} {allowed : Halt → Prop} {d : Description}
  (htolerates : survey.Tolerates allowed)
  (hdescribe : ∀ type (env : TypeEnvironment) d, env.Proper →
    survey.Heeds allowed d (survey.describe type env))

include htolerates hdescribe

theorem heeds_describeParameter (controller : JavaClass) (method : JavaMethod)
    {env : TypeEnvironment} (henv : env.Proper) (index : Nat) (parameter : JavaParameter) :
    survey.Heeds allowed d (survey.describeParameter controller method env index parameter) := by
  unfold describeParameter
  cases survey.parameterBinding? parameter with
  | none => exact heeds_pure none
  | some binding =>
    refine heeds_bind_lift (fun e he => htolerates.external e ?_) fun _ _ => ?_
    · unfold boundParameter at he
      split at he <;> split at he <;> cases he <;> rfl
    · exact heeds_bind (heeds_element (hdescribe _ env d henv) _) fun _ => heeds_pure _

theorem heeds_describeParameters (controller : JavaClass) (method : JavaMethod)
    {env : TypeEnvironment} (henv : env.Proper) (index : Nat) (parameters : List JavaParameter) :
    survey.Heeds allowed d
      (survey.describeParameters controller method env index parameters) := by
  induction parameters generalizing index with
  | nil => exact heeds_pure []
  | cons parameter rest ih =>
    refine heeds_bind (heeds_describeParameter htolerates hdescribe controller method henv index
      parameter) fun _ => ?_
    exact heeds_bind (ih (index + 1)) fun _ => heeds_pure _

omit htolerates hdescribe in
theorem heeds_requestMethod? (annotations : List AnnotationUse) :
    survey.Heeds allowed d (survey.requestMethod? annotations) := by
  unfold requestMethod?
  cases survey.classes.mappedMethod? annotations with
  | none => exact heeds_pure none
  | some name =>
    simp only
    cases HttpMethod.ofName? name with
    | some method => exact heeds_pure _
    | none => exact heeds_bind (heeds_report _) fun _ => heeds_pure _

omit htolerates hdescribe in
theorem heeds_requestMethod (method : JavaMethod) (owner : JavaClass) :
    survey.Heeds allowed d (survey.requestMethod method owner) := by
  refine heeds_bind (heeds_requestMethod? _) fun found => ?_
  cases found with
  | some m => exact heeds_pure m
  | none => exact heeds_bind (heeds_requestMethod? _) fun _ => heeds_pure _

omit htolerates in
theorem heeds_describeBody (method : JavaMethod) {env : TypeEnvironment} (henv : env.Proper) :
    survey.Heeds allowed d (survey.describeBody method env) := by
  unfold describeBody
  split_ifs
  · exact heeds_pure none
  · exact heeds_bind (heeds_element (hdescribe _ env d henv) _) fun _ => heeds_pure _

theorem heeds_describeEndpoint (controller : JavaClass) {level : BoundClass}
    (hlevel : level.Fits survey.classes) (method : JavaMethod) :
    survey.Heeds allowed d (survey.describeEndpoint controller level method) := by
  have henv : (level.environment.merge (level.decl.methodEnvironment method)).Proper :=
    hlevel.proper.merge (level.decl.proper_methodEnvironment method)
  refine heeds_bind (heeds_describeBody hdescribe method henv) fun body => ?_
  refine heeds_bind (heeds_describeParameters htolerates hdescribe controller method henv 0 _)
    fun parameters => ?_
  refine heeds_bind_lift (fun e he => htolerates.external e ?_) fun uri _ =>
    heeds_bind (heeds_requestMethod method level.decl) fun _ => heeds_pure _
  simp only [uriTemplate, UriTemplate.parse] at he
  split at he
  · cases he
  · cases he
    rfl

theorem heeds_describeGroup {controller : JavaClass}
    (hcontroller : survey.classes.Loaded controller) :
    survey.Heeds allowed d (survey.describeGroup controller) := by
  have hfits : (BoundClass.raw controller).Fits survey.classes := BoundClass.fits_raw hcontroller
  refine heeds_bind_liftHalt (fun h => htolerates.hierarchy hfits) fun levels hlevels => ?_
  refine heeds_foldlM ?_
  rintro group ⟨level, method⟩ hmem
  obtain ⟨level, hlevel, hmem⟩ := List.mem_flatMap.mp hmem
  obtain ⟨_, _, heq⟩ := List.mem_map.mp hmem
  obtain ⟨rfl, rfl⟩ := Prod.mk.inj heq
  have hlevel' := (ClassCollection.gives_hierarchy hfits).ok hlevels level hlevel
  exact heeds_bind (heeds_describeEndpoint htolerates hdescribe controller hlevel' _)
    fun _ => heeds_pure _

theorem heeds_describeController {controller : JavaClass}
    (hcontroller : survey.classes.Loaded controller) :
    survey.Heeds allowed d (survey.describeController controller) := by
  have hadd : ∀ group, survey.Heeds allowed d (extend fun api => .ok (api.addGroup group)) :=
    fun group d' _ => ⟨.addGroup d' group, by rintro _ ⟨⟩⟩
  refine heeds_bind (heeds_describeGroup htolerates hdescribe hcontroller) fun group => ?_
  simp only
  split_ifs
  · exact heeds_bind (heeds_report _) fun _ => hadd group
  · exact hadd group

omit htolerates in
theorem heeds_describeRoot (root : String) :
    survey.Heeds allowed d (survey.describeRoot root) := by
  refine heeds_bind (hdescribe _ _ d TypeEnvironment.proper_empty) fun t => ?_
  cases t with
  | reference name =>
    intro d' hbuilds
    rw [run_bind_of_ok (run_api d')]
    split_ifs
    · exact heeds_pure () d' hbuilds
    · exact heeds_report _ d' hbuilds
  | _ => exact heeds_pure ()

/-- The controllers and roots of a survey fail only as the descriptions of types do. -/
theorem heeds_describeSurface : survey.Heeds allowed d survey.describeSurface := by
  refine heeds_bind (heeds_forM fun controller hmem => ?_) fun _ =>
    heeds_forM fun root _ => heeds_describeRoot hdescribe root
  have hcarries := (List.mem_filter.mp (List.mem_filter.mp hmem).1).1
  exact heeds_describeController htolerates hdescribe
    (ClassCollection.loaded_of_mem_select hcarries)

omit htolerates hdescribe in
theorem heeds_describeImport (himports : ∀ type, allowed (.failed (.duplicateImport type)))
    (module : String) (types : List String) :
    survey.Heeds allowed d (describeImport module types) := by
  intro d' _
  have hgives := gives_addImport d'.api module types
  rw [describeImport, run_bind_of_ok (run_api d'), run_bind_of_ok (run_modify _ d'), run_lift,
    ApiDefinition.addImport_snd]
  refine ⟨.setImports d' _, fun h herror => ?_⟩
  cases hresult : (d'.api.addImport module types).1 with
  | ok _ => rw [hresult] at herror; cases herror
  | error e =>
    rw [hresult] at herror
    cases herror
    obtain ⟨type, rfl⟩ := hgives.error hresult
    exact himports type

/-- What the descriptions of types heed, that of the whole API heeds. -/
theorem heeds_describeApi (himports : ∀ type, allowed (.failed (.duplicateImport type))) :
    survey.Heeds allowed d survey.describeApi := by
  rw [describeApi_eq]
  refine heeds_bind (heeds_describeSurface htolerates hdescribe) fun _ => ?_
  refine heeds_bind (heeds_forM fun import_ _ =>
    heeds_describeImport himports import_.1 import_.2) fun _ => ?_
  intro d' hbuilds
  rw [run_bind_of_ok (run_api d')]
  exact heeds_bind (heeds_forM fun e _ => heeds_report e) (fun _ => heeds_pure _) d' hbuilds

end

end Survey

end ApiSurface
