import ApiSurface.Proofs.ClassKind

/-!
# Runs side by side

Two ways to describe types lead to two runs of everything that is made of them. If both do the same
wherever certain variables are followed, then so do the two runs from there, since every action
leaves the variables that are followed as it finds them, also when it fails. Some halts may be
excused: where the one run ends so, nothing is said about the other. The second run may have more
patience than the first, if endless chains are excused: a run that comes to an end is the same at
every greater depth and with more patience.
-/

namespace ApiSurface

namespace Describing

variable {α β : Type} {excused : Halt → Prop} {followed : List String}

/-- Where these variables are followed, the first action leaves them so, and the second one does the
same, unless the halt of the first is excused. -/
def Alike (excused : Halt → Prop) (followed : List String) (act act' : Describing α) : Prop :=
  ∀ d, d.followed = followed → (run act d).2.followed = followed ∧
    ((∀ h, excused h → (run act d).1 ≠ .error h) → run act' d = run act d)

theorem alike_pure (a : α) : Alike excused followed (pure a) (pure a) :=
  fun _ hd => ⟨hd, fun _ => rfl⟩

theorem alike_throw (h : Halt) : Alike excused followed (throw h : Describing α) (throw h) :=
  fun _ hd => ⟨hd, fun _ => rfl⟩

theorem alike_excused {h : Halt} (hexcused : excused h) (act : Describing α) :
    Alike excused followed (throw h) act :=
  fun _ hd => ⟨hd, fun hne => absurd rfl (hne h hexcused)⟩

theorem alike_lift (result : Except SurfaceError α) :
    Alike excused followed (lift result) (lift result) := by
  cases result with
  | error e => exact alike_throw _
  | ok a => exact alike_pure a

theorem alike_liftHalt (result : Except Halt α) :
    Alike excused followed (liftHalt result) (liftHalt result) := by
  cases result with
  | error h => exact alike_throw h
  | ok a => exact alike_pure a

theorem alike_report (e : Event) : Alike excused followed (report e) (report e) :=
  fun _ hd => ⟨hd, fun _ => rfl⟩

theorem alike_extend (change : ApiDefinition → Except SurfaceError ApiDefinition) :
    Alike excused followed (extend change) (extend change) := by
  refine fun d hd => ⟨?_, fun _ => rfl⟩
  rw [run_extend]
  cases change d.api <;> exact hd

theorem alike_bind {act act' : Describing α} {f f' : α → Describing β}
    (h : Alike excused followed act act') (hf : ∀ a, Alike excused followed (f a) (f' a)) :
    Alike excused followed (act >>= f) (act' >>= f') := by
  intro d hd
  obtain ⟨hkept, hsame⟩ := h d hd
  simp only [run_bind]
  rcases hrun : run act d with ⟨e | a, between⟩ <;> rw [hrun] at hkept hsame
  · refine ⟨hkept, fun hne => ?_⟩
    rw [hsame fun h hexcused herror => hne h hexcused (by cases herror; rfl)]
  · obtain ⟨hkept', hsame'⟩ := hf a between hkept
    refine ⟨hkept', fun hne => ?_⟩
    rw [hsame fun h _ herror => by cases herror]
    exact hsame' hne

theorem alike_ite {c c' : Prop} [Decidable c] [Decidable c'] {act act' other other' : Describing α}
    (hc : c ↔ c') (h : Alike excused followed act act') (hother : Alike excused followed other other') :
    Alike excused followed (if c then act else other) (if c' then act' else other') := by
  by_cases hholds : c
  · rwa [if_pos hholds, if_pos (hc.mp hholds)]
  · rwa [if_neg hholds, if_neg fun hholds' => hholds (hc.mpr hholds')]

theorem alike_get {f f' : Description → Describing α}
    (hf : ∀ d, d.followed = followed → Alike excused followed (f d) (f' d)) :
    Alike excused followed (get >>= f) (get >>= f') := by
  intro d hd
  rw [run_bind_of_ok (run_get d), run_bind_of_ok (run_get d)]
  exact hf d hd d hd

theorem alike_foldlM {f f' : β → α → Describing β} {l : List α} {b : β}
    (hstep : ∀ b a, Alike excused followed (f b a) (f' b a)) :
    Alike excused followed (l.foldlM f b) (l.foldlM f' b) := by
  induction l generalizing b with
  | nil => exact alike_pure b
  | cons a l ih =>
    rw [List.foldlM_cons, List.foldlM_cons]
    exact alike_bind (hstep b a) fun b' => ih

/-- A variable is let go by what follows it. -/
theorem alike_following {act act' : Describing α} {name : String}
    (h : Alike excused (name :: followed) act act') :
    Alike excused followed (following name act) (following name act') := by
  intro d hd
  obtain ⟨hkept, hsame⟩ := h { d with followed := name :: d.followed } (by rw [← hd])
  rw [run_following, run_following]
  exact ⟨congrArg List.tail hkept, fun hne => by rw [hsame hne]⟩

end Describing

namespace Survey

open Describing

/-! ## Patience -/

def withPatience (survey : Survey) (patience : Nat) : Survey :=
  { survey with settings := { survey.settings with patience } }

@[simp] theorem classes_withPatience (survey : Survey) (patience : Nat) :
    (survey.withPatience patience).classes = survey.classes := rfl

/-- One number of steps stands for another one: it is the same, or it is greater and endless chains
are excused. -/
def Outlasts (excused : Halt → Prop) (steps steps' : Nat) : Prop :=
  steps' = steps ∨ steps ≤ steps' ∧ excused .endless

theorem outlasts_refl (excused : Halt → Prop) (steps : Nat) : Outlasts excused steps steps :=
  .inl rfl

theorem outlasts_of_le {steps steps' : Nat} (hle : steps ≤ steps') :
    Outlasts (· = .endless) steps steps' := .inr ⟨hle, rfl⟩

theorem Outlasts.add_left {excused : Halt → Prop} {steps steps' : Nat}
    (h : Outlasts excused steps steps') (more : Nat) :
    Outlasts excused (more + steps) (more + steps') :=
  h.imp (congrArg (more + ·)) fun ⟨hle, hexcused⟩ => ⟨Nat.add_le_add_left hle more, hexcused⟩

theorem Outlasts.pred {excused : Halt → Prop} {steps steps' : Nat}
    (h : Outlasts excused (steps + 1) steps') :
    ∃ less, steps' = less + 1 ∧ Outlasts excused steps less := by
  obtain rfl | ⟨hle, hexcused⟩ := h
  · exact ⟨steps, rfl, outlasts_refl _ _⟩
  · obtain ⟨less, rfl⟩ := Nat.exists_eq_add_of_le' hle
    exact ⟨less + steps, by omega, .inr ⟨Nat.le_add_left _ _, hexcused⟩⟩

variable {survey : Survey} {describe describe' : TypeDescriber} {excused : Halt → Prop}
  {followed : List String} {patience : Nat}

theorem alike_displayName (survey : Survey) (q : String) :
    Alike excused followed (survey.displayName q) (survey.displayName q) := by
  refine fun d hd => ⟨?_, fun _ => rfl⟩
  rw [run_displayName]
  cases d.claims.get? (survey.nameOf q) with
  | none => exact hd
  | some owner =>
    simp only
    split_ifs <;> exact hd

section

variable (h : ∀ type env, Alike excused followed (describe type env) (describe' type env))

include h

/-! ## Members -/

theorem alike_element (annotations : List AnnotationUse) (type : JavaType)
    (env : TypeEnvironment) :
    Alike excused followed (describe.element annotations type env)
      (describe'.element annotations type env) :=
  alike_bind (h type env) fun _ => alike_pure _

theorem alike_addProperty (hidden : List String) (affixes : Affixes)
    (definition : ClassDefinition) (env : TypeEnvironment) (member : BeanMember) :
    Alike excused followed (addProperty describe hidden affixes definition env member)
      (addProperty describe' hidden affixes definition env member) := by
  simp only [addProperty]
  split_ifs
  · exact alike_pure definition
  · exact alike_bind (alike_element h _ _ _) fun _ => alike_lift _

theorem alike_addProperties {steps steps' : Nat} (hsteps : Outlasts excused steps steps')
    (affixes : Affixes) (bound : BoundClass) (definition : ClassDefinition) :
    Alike excused followed (survey.addProperties describe steps affixes bound definition)
      ((survey.withPatience patience).addProperties describe' steps' affixes bound definition) := by
  induction steps generalizing steps' affixes bound definition with
  | zero =>
    obtain rfl | ⟨-, hexcused⟩ := hsteps
    · exact alike_throw _
    · exact alike_excused hexcused _
  | succ steps ih =>
    obtain ⟨less, rfl, hless⟩ := hsteps.pred
    refine alike_bind (alike_liftHalt _) fun levels => alike_foldlM ?_
    rintro definition ⟨env, member⟩
    cases hunwrap : member.unwrapping? with
    | none =>
      simp only [hunwrap]
      exact alike_addProperty h _ _ _ _ _
    | some unwrapping =>
      simp only [hunwrap]
      refine alike_bind (alike_lift _) fun target => ?_
      cases target with
      | none => exact alike_bind (alike_report _) fun _ => alike_pure _
      | some target => exact ih hless _ _ _

theorem alike_beanDefinition (hpatience : Outlasts excused survey.settings.patience patience)
    (decl : JavaClass) (name : String) :
    Alike excused followed (survey.beanDefinition describe decl name)
      ((survey.withPatience patience).beanDefinition describe' decl name) :=
  alike_addProperties h (hpatience.add_left _) _ _ _

theorem alike_addField (definition : ClassDefinition) (env : TypeEnvironment) (field : JavaField) :
    Alike excused followed (addField describe definition env field)
      (addField describe' definition env field) := by
  simp only [addField]
  split_ifs
  · exact alike_pure definition
  all_goals exact alike_bind (alike_element h _ _ _) fun _ => alike_lift _

theorem alike_serializedDefinition (decl : JavaClass) (name : String) :
    Alike excused followed (survey.serializedDefinition describe decl name)
      ((survey.withPatience patience).serializedDefinition describe' decl name) :=
  alike_bind (alike_liftHalt _) fun _ =>
    alike_foldlM fun definition level => alike_addField h definition level.1 level.2

/-! ## Classes -/

omit h in
theorem alike_addCase {definition definition' : String → Describing ClassDefinition}
    (hdefinition : ∀ name, Alike excused followed (definition name) (definition' name))
    (union : UnionDefinition) (value : String) (subclass : JavaClass) :
    Alike excused followed (survey.addCase union value subclass definition)
      ((survey.withPatience patience).addCase union value subclass definition') :=
  alike_bind (alike_displayName survey _) fun name =>
    alike_bind (hdefinition name) fun _ => alike_lift _

theorem alike_addSubtype (hpatience : Outlasts excused survey.settings.patience patience)
    (decl : JavaClass) (union : UnionDefinition) (subtype : BeanUnion.Subtype) :
    Alike excused followed (survey.addSubtype describe decl union subtype)
      ((survey.withPatience patience).addSubtype describe' decl union subtype) := by
  simp only [addSubtype, classes_withPatience]
  cases survey.classes.classOf? subtype.type with
  | none => exact alike_bind (alike_report _) fun _ => alike_pure _
  | some subclass => exact alike_addCase (alike_beanDefinition h hpatience subclass) _ _ _

theorem alike_addPermitted (decl : JavaClass) (union : UnionDefinition) (subclass : String) :
    Alike excused followed (survey.addPermitted describe decl union subclass)
      ((survey.withPatience patience).addPermitted describe' decl union subclass) := by
  simp only [addPermitted, classes_withPatience]
  cases survey.classes.class? subclass with
  | none => exact alike_bind (alike_report _) fun _ => alike_pure _
  | some subclass => exact alike_addCase (alike_serializedDefinition h subclass) _ _ _

theorem alike_register (hpatience : Outlasts excused survey.settings.patience patience)
    (decl : JavaClass) (name : String) (form : DefinitionForm) :
    Alike excused followed (survey.register describe decl name form)
      ((survey.withPatience patience).register describe' decl name form) := by
  cases form with
  | enum => exact alike_extend _
  | bean =>
    exact alike_bind (alike_extend _) fun _ =>
      alike_bind (alike_beanDefinition h hpatience decl name) fun _ => alike_extend _
  | serialized =>
    exact alike_bind (alike_extend _) fun _ =>
      alike_bind (alike_serializedDefinition h decl name) fun _ => alike_extend _
  | beanUnion info =>
    simp only [register, describeBeanUnion]
    cases BeanUnion.discriminator info with
    | error fault => exact alike_throw _
    | ok property =>
      refine alike_bind (alike_extend _) fun _ =>
        alike_bind (alike_bind (alike_lift _) fun subtypes => ?_) fun _ => alike_extend _
      exact alike_foldlM (alike_addSubtype h hpatience decl)
  | sealedUnion =>
    refine alike_bind (alike_extend _) fun _ => alike_bind ?_ fun _ => alike_extend _
    exact alike_foldlM (alike_addPermitted h decl)

theorem alike_describeDefinition (hpatience : Outlasts excused survey.settings.patience patience)
    (decl : JavaClass) (name : String) :
    Alike excused followed (survey.describeDefinition describe decl name)
      ((survey.withPatience patience).describeDefinition describe' decl name) := by
  intro d hd
  rw [run_describeDefinition, run_describeDefinition]
  split_ifs
  · exact ⟨hd, fun _ => rfl⟩
  · exact alike_bind (alike_register h hpatience decl name decl.form) (fun _ => alike_pure _) d hd

theorem alike_describeValueClass (decl : JavaClass) (name : String) (method : JavaMethod) :
    Alike excused followed (describeValueClass describe decl name method)
      (describeValueClass describe' decl name method) := by
  intro d hd
  rw [run_describeValueClass, run_describeValueClass]
  split_ifs
  · exact ⟨hd, fun _ => rfl⟩
  · refine alike_bind (h _ _) (fun _ => ?_) d hd
    exact alike_bind (alike_extend _) fun _ => alike_pure _

theorem alike_describeClass (hpatience : Outlasts excused survey.settings.patience patience)
    (q : String) :
    Alike excused followed (survey.describeClass describe q)
      ((survey.withPatience patience).describeClass describe' q) := by
  refine alike_bind (alike_displayName survey q) fun name => ?_
  refine alike_ite Iff.rfl (alike_pure _)
    (alike_ite Iff.rfl (alike_bind (alike_extend _) fun _ => alike_pure _) ?_)
  simp only [classes_withPatience]
  cases survey.classes.class? q with
  | none => exact alike_pure _
  | some decl =>
    simp only
    cases decl.annotatedMethod? valueType with
    | none => exact alike_describeDefinition h hpatience decl name
    | some method => exact alike_describeValueClass h decl name method

theorem alike_describeName (hpatience : Outlasts excused survey.settings.patience patience)
    (q : String) :
    Alike excused followed (survey.describeName describe q)
      ((survey.withPatience patience).describeName describe' q) := by
  simp only [describeName, classes_withPatience]
  cases survey.classes.builtin? q with
  | some t => exact alike_pure t
  | none => exact alike_describeClass h hpatience q

end

/-! ## Types -/

/-- A binding is described only where its variable is not followed yet, and it is followed there. -/
theorem alike_describeVariable
    (hbinding : ∀ name, name ∉ followed → ∀ type env,
      Alike excused (name :: followed) (describe type env) (describe' type env))
    (name : String) (env : TypeEnvironment) :
    Alike excused followed (describeVariable describe name env)
      (describeVariable describe' name env) := by
  unfold describeVariable
  cases env.lookup name with
  | none => exact alike_pure _
  | some bound =>
    simp only
    split_ifs
    · exact alike_throw _
    · refine alike_get fun d hd => ?_
      split_ifs with hfollowed
      · exact alike_pure _
      · rw [hd] at hfollowed
        exact alike_following (hbinding name (by simpa using hfollowed) bound env)

theorem alike_describeAllWithin {types : List JavaType} {env : TypeEnvironment}
    (htypes : ∀ type ∈ types, Alike excused followed (survey.describeWithin describe type env)
      ((survey.withPatience patience).describeWithin describe' type env)) :
    Alike excused followed (survey.describeAllWithin describe types env)
      ((survey.withPatience patience).describeAllWithin describe' types env) := by
  induction types with
  | nil => exact alike_pure _
  | cons type types ih =>
    refine alike_bind (htypes type (by simp)) fun t => ?_
    exact alike_bind (ih fun type htype => htypes type (by simp [htype])) fun _ => alike_pure _

theorem alike_describeWithin (hpatience : Outlasts excused survey.settings.patience patience)
    (h : ∀ type env, Alike excused followed (describe type env) (describe' type env))
    (hbinding : ∀ name, name ∉ followed → ∀ type env,
      Alike excused (name :: followed) (describe type env) (describe' type env))
    (type : JavaType) (env : TypeEnvironment) :
    Alike excused followed (survey.describeWithin describe type env)
      ((survey.withPatience patience).describeWithin describe' type env) := by
  induction type using JavaType.induct with
  | basic q => exact alike_describeName h hpatience q
  | array element ih => exact alike_bind ih fun _ => alike_pure _
  | parameterized base arguments ihBase ihArguments =>
    refine alike_bind (alike_describeAllWithin ihArguments) fun ts => ?_
    simp only [classes_withPatience]
    cases survey.classes.container? base ts with
    | some t => exact alike_pure t
    | none => exact ihBase
  | var name => exact alike_describeVariable hbinding name env
  | wildcard upper lower ihUpper ihLower =>
    cases lower with
    | some lower => exact ihLower lower rfl
    | none =>
      cases upper with
      | some upper => exact ihUpper upper rfl
      | none => exact alike_pure _
  | inner outer name _ => exact alike_throw _

/-- More depth and more patience do the same, unless the depth runs out. -/
theorem alike_describeTo (hpatience : Outlasts excused survey.settings.patience patience)
    {depth depth' : Nat} (hdepth : Outlasts excused depth depth') (followed : List String)
    (type : JavaType) (env : TypeEnvironment) :
    Alike excused followed (survey.describeTo depth type env)
      ((survey.withPatience patience).describeTo depth' type env) := by
  induction depth generalizing depth' followed type env with
  | zero =>
    obtain rfl | ⟨-, hexcused⟩ := hdepth
    · exact alike_throw _
    · exact alike_excused hexcused _
  | succ depth ih =>
    obtain ⟨less, rfl, hless⟩ := hdepth.pred
    exact alike_describeWithin hpatience (ih hless followed)
      (fun name _ => ih hless (name :: followed)) type env

/-- A depth that does not run out describes a type as every greater depth does. -/
theorem run_describeTo_of_le {depth more : Nat} (hle : depth ≤ more) (type : JavaType)
    (env : TypeEnvironment) (d : Description)
    (hne : (run (survey.describeTo depth type env) d).1 ≠ .error .endless) :
    run (survey.describeTo more type env) d = run (survey.describeTo depth type env) d := by
  have halike : Alike (· = .endless) d.followed (survey.describeTo depth type env)
      (survey.describeTo more type env) :=
    alike_describeTo (outlasts_refl _ _) (outlasts_of_le hle) d.followed type env
  exact (halike d rfl).2 fun _ hendless => hendless ▸ hne

end Survey

end ApiSurface
