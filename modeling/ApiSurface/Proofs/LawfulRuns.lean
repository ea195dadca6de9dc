import ApiSurface.Proofs.Law

/-!
# Lawful runs

What describes types lawfully at one depth describes them lawfully one step deeper, so every law
holds of every description of a type and of a whole API, also where it fails.
-/

namespace ApiSurface.Law

open Describing

variable {α : Type} {survey : Survey} {law : Law survey} {describe : TypeDescriber}

/-! ## Members -/

variable (law) in
/-- The types of the properties are lawful, and the name is this one. -/
def IsClass (name : String) (definition : ClassDefinition) (d : Description) : Prop :=
  definition.name = name ∧ ∀ p t, definition.properties.get? p = some t → law.Good d t

theorem IsClass.le {name : String} {definition : ClassDefinition} {d d' : Description}
    (h : law.IsClass name definition d) (hle : law.Le d d') : law.IsClass name definition d' :=
  ⟨h.1, fun p t hp => law.good_le hle (h.2 p t hp)⟩

theorem isClass_empty (name : String) (d : Description) : law.IsClass name (.empty name) d :=
  ⟨rfl, by rintro p t ⟨⟩⟩

theorem IsClass.add {name property : String} {definition after : ClassDefinition} {t : ApiType}
    {d : Description} (h : law.IsClass name definition d) (ht : law.Good d t)
    (hadd : definition.add property t = .ok after) : law.IsClass name after d := by
  obtain ⟨-, rfl⟩ := ClassDefinition.add_eq_ok_iff.mp hadd
  refine ⟨h.1, fun p u hp => ?_⟩
  rw [NameMap.get?_insert] at hp
  split_ifs at hp with heq
  · cases hp
    exact ht
  · exact h.2 p u hp

theorem leads_element (h : law.Describes describe) (annotations : List AnnotationUse)
    (type : JavaType) (env : TypeEnvironment) (d : Description) :
    law.Leads (describe.element annotations type env) d fun t after => law.Good after t := by
  refine leads_bind (h type env d) fun t after _ ht => leads_pure ?_
  split_ifs
  · exact law.good_orNull ht
  · exact ht

theorem leads_addProperty (h : law.Describes describe) (hidden : List String) (affixes : Affixes)
    (env : TypeEnvironment) (member : BeanMember) {name : String} {definition : ClassDefinition}
    {d : Description} (hd : law.IsClass name definition d) :
    law.Leads (Survey.addProperty describe hidden affixes definition env member) d
      (law.IsClass name) := by
  simp only [Survey.addProperty]
  split_ifs
  · exact leads_pure hd
  · refine leads_bind (leads_element h _ _ _ _) fun t after hle ht => leads_lift fun c hc => ?_
    exact (hd.le hle).add ht hc

theorem leads_addProperties (h : law.Describes describe) (steps : Nat) (affixes : Affixes)
    (bound : BoundClass) {name : String} {definition : ClassDefinition} {d : Description}
    (hd : law.IsClass name definition d) :
    law.Leads (survey.addProperties describe steps affixes bound definition) d
      (law.IsClass name) := by
  induction steps generalizing affixes bound definition d with
  | zero => exact leads_throw
  | succ steps ih =>
    rw [Survey.addProperties]
    refine leads_bind (P := fun _ => law.IsClass name definition)
      (leads_liftHalt fun _ _ => hd) fun levels after _ hd => leads_foldlM ?_ hd
    rintro definition ⟨env, member⟩ d hd
    cases hunwrap : member.unwrapping? with
    | none =>
      simp only [hunwrap]
      exact leads_addProperty h _ _ _ _ hd
    | some unwrapping =>
      simp only [hunwrap]
      refine leads_bind (P := fun _ => law.IsClass name definition)
        (leads_lift fun _ _ => hd) fun target after _ hd => ?_
      cases target with
      | none => exact leads_bind (leads_report _ _) fun _ _ hle _ => leads_pure (hd.le hle)
      | some target => exact ih _ _ hd

theorem leads_beanDefinition (h : law.Describes describe) (decl : JavaClass) (name : String)
    (d : Description) :
    law.Leads (survey.beanDefinition describe decl name) d (law.IsClass name) :=
  leads_addProperties h _ _ _ (isClass_empty name d)

theorem leads_addField (h : law.Describes describe) (env : TypeEnvironment) (field : JavaField)
    {name : String} {definition : ClassDefinition} {d : Description}
    (hd : law.IsClass name definition d) :
    law.Leads (Survey.addField describe definition env field) d (law.IsClass name) := by
  simp only [Survey.addField]
  split_ifs
  · exact leads_pure hd
  all_goals
    refine leads_bind (leads_element h _ _ _ _) fun t after hle ht => leads_lift fun c hc => ?_
  · exact (hd.le hle).add (law.good_orNull ht) hc
  · exact (hd.le hle).add ht hc

theorem leads_serializedDefinition (h : law.Describes describe) (decl : JavaClass) (name : String)
    (d : Description) :
    law.Leads (survey.serializedDefinition describe decl name) d (law.IsClass name) := by
  refine leads_bind (P := fun _ _ => True) (leads_liftHalt fun _ _ => trivial)
    fun levels after _ _ => leads_foldlM ?_ (isClass_empty name after)
  rintro definition ⟨env, field⟩ d hd
  exact leads_addField h env field hd

variable (law) in
/-- The name is this one, and every case is a class of lawful types. -/
def IsUnion (name : String) (union : UnionDefinition) (d : Description) : Prop :=
  union.name = name ∧ ∀ v c, union.cases.get? v = some c → ∃ n, law.IsClass n c d

theorem IsUnion.le {name : String} {union : UnionDefinition} {d d' : Description}
    (h : law.IsUnion name union d) (hle : law.Le d d') : law.IsUnion name union d' :=
  ⟨h.1, fun v c hc => (h.2 v c hc).imp fun _ hn => hn.le hle⟩

theorem IsUnion.add {name value n : String} {union after : UnionDefinition} {c : ClassDefinition}
    {d : Description} (h : law.IsUnion name union d) (hc : law.IsClass n c d)
    (hadd : union.add value c = .ok after) : law.IsUnion name after d := by
  obtain ⟨-, rfl⟩ := UnionDefinition.add_eq_ok_iff.mp hadd
  refine ⟨h.1, fun v c' hv => ?_⟩
  rw [NameMap.get?_insert] at hv
  split_ifs at hv with heq
  · cases hv
    exact ⟨n, hc⟩
  · exact h.2 v c' hv

/-! ## Registration -/

theorem leads_displayName (q : String) (d : Description) :
    law.Leads (survey.displayName q) d fun name after =>
      name = survey.nameOf q ∧ survey.Claimed after q := by
  intro hinv
  obtain ⟨e, he⟩ | ⟨after, hok, hclaimed, hafter⟩ := Survey.run_displayName_cases q d
  · rw [he]
    exact ⟨hinv, law.le_refl d, by rintro _ ⟨⟩⟩
  · have hstep : law.Inv after ∧ law.Le d after := by
      obtain rfl | ⟨hfree, rfl⟩ := hafter
      · exact ⟨hinv, law.le_refl after⟩
      · exact law.claim hinv hfree
    rw [hok]
    exact ⟨hstep.1, hstep.2, by rintro _ ⟨⟩; exact ⟨rfl, hclaimed⟩⟩

section

variable {q : String} {decl : JavaClass} {d : Description} (hclaimed : survey.Claimed d q)
  (hkind : survey.kind q = .defined decl) (hfree : d.api.defines (survey.nameOf q) = false)

include hclaimed hkind hfree

theorem leads_define {definition : Describing ClassDefinition} (hform : decl.form.isClass = true)
    (hdefinition : ∀ d, law.Leads definition d (law.IsClass (survey.nameOf q))) :
    law.Leads (define (survey.nameOf q) definition) d fun _ after =>
      after.api.defines (survey.nameOf q) = true := by
  intro hinv
  have hadd : run (extend (·.addClass (.empty (survey.nameOf q)))) d =
      (.ok (), d.withClass (.empty (survey.nameOf q))) :=
    run_extend_eq_ok_iff.mpr ⟨_, ApiDefinition.addClass_eq_ok_iff.mpr ⟨hfree, rfl⟩, rfl⟩
  obtain ⟨hopened, hopen⟩ := law.addClass hinv hclaimed hkind hform hfree
  obtain ⟨hfilled, hfill, hclass⟩ := hdefinition _ hopened
  rw [define, run_bind_of_ok hadd, run_bind]
  rcases hrun : run definition _ with ⟨_ | c, between⟩ <;>
    simp only [hrun] at hfilled hfill hclass ⊢
  · exact ⟨hfilled, law.le_trans hopen hfill, by rintro _ ⟨⟩⟩
  · obtain ⟨hname, hgood⟩ := hclass c rfl
    rw [run_extend, ApiDefinition.completeClass]
    cases hplace : between.api.classes.contains c.name with
    | false => exact ⟨hfilled, law.le_trans hopen hfill, by rintro _ ⟨⟩⟩
    | true =>
      obtain ⟨hclosed, hclose⟩ :=
        law.completeClass hinv hclaimed hkind hform hfree hfill hfilled hname hplace hgood
      refine ⟨hclosed, hclose, fun _ _ => ?_⟩
      simp [ApiDefinition.defines, hname]

theorem leads_defineUnion {property : String}
    {fill : UnionDefinition → Describing UnionDefinition} (hform : decl.form.isUnion = true)
    (hunion : ∀ d, law.Leads (fill (.empty (survey.nameOf q) property)) d
      (law.IsUnion (survey.nameOf q))) :
    law.Leads (defineUnion (.empty (survey.nameOf q) property) fill) d fun _ after =>
      after.api.defines (survey.nameOf q) = true := by
  intro hinv
  have hadd : run (extend (·.addUnion (.empty (survey.nameOf q) property))) d =
      (.ok (), d.withUnion (.empty (survey.nameOf q) property)) :=
    run_extend_eq_ok_iff.mpr ⟨_, ApiDefinition.addUnion_eq_ok_iff.mpr ⟨hfree, rfl⟩, rfl⟩
  obtain ⟨hopened, hopen⟩ :=
    (law.addUnion hinv hclaimed hkind hform hfree :
      _ ∧ law.Le d (d.withUnion (.empty (survey.nameOf q) property)))
  obtain ⟨hfilled, hfill, hcases⟩ := hunion _ hopened
  rw [defineUnion, run_bind_of_ok hadd, run_bind]
  rcases hrun : run (fill (.empty (survey.nameOf q) property)) _ with ⟨_ | u, between⟩ <;>
    simp only [hrun] at hfilled hfill hcases ⊢
  · exact ⟨hfilled, law.le_trans hopen hfill, by rintro _ ⟨⟩⟩
  · obtain ⟨hname, hgood⟩ := hcases u rfl
    rw [run_extend, ApiDefinition.completeUnion]
    cases hplace : between.api.unions.contains u.name with
    | false => exact ⟨hfilled, law.le_trans hopen hfill, by rintro _ ⟨⟩⟩
    | true =>
      obtain ⟨hclosed, hclose⟩ :=
        law.completeUnion hinv hclaimed hkind hform hfree hfill hfilled hname hplace
          fun v c hc => (hgood v c hc).choose_spec.2
      refine ⟨hclosed, hclose, fun _ _ => ?_⟩
      simp [ApiDefinition.defines, hname]

end

theorem leads_addCase {name : String} {union : UnionDefinition} {d : Description}
    (hd : law.IsUnion name union d) (value : String) (subclass : JavaClass)
    {definition : String → Describing ClassDefinition}
    (hdefinition : ∀ n d, law.Leads (definition n) d (law.IsClass n)) :
    law.Leads (survey.addCase union value subclass definition) d (law.IsUnion name) := by
  refine leads_bind (leads_displayName _ _) fun n after hle _ => ?_
  refine leads_bind (hdefinition n after) fun c after' hle' hc => leads_lift fun u hu => ?_
  exact ((hd.le hle).le hle').add hc hu

theorem leads_addSubtype (h : law.Describes describe) (decl : JavaClass) {name : String}
    {union : UnionDefinition} {d : Description} (hd : law.IsUnion name union d)
    (subtype : BeanUnion.Subtype) :
    law.Leads (survey.addSubtype describe decl union subtype) d (law.IsUnion name) := by
  unfold Survey.addSubtype
  cases survey.classes.classOf? subtype.type with
  | none => exact leads_bind (leads_report _ _) fun _ _ hle _ => leads_pure (hd.le hle)
  | some subclass => exact leads_addCase hd _ _ (leads_beanDefinition h subclass)

theorem leads_addPermitted (h : law.Describes describe) (decl : JavaClass) {name : String}
    {union : UnionDefinition} {d : Description} (hd : law.IsUnion name union d)
    (subclass : String) :
    law.Leads (survey.addPermitted describe decl union subclass) d (law.IsUnion name) := by
  unfold Survey.addPermitted
  cases survey.classes.class? subclass with
  | none => exact leads_bind (leads_report _ _) fun _ _ hle _ => leads_pure (hd.le hle)
  | some subclass => exact leads_addCase hd _ _ (leads_serializedDefinition h subclass)

theorem isUnion_empty (name property : String) (d : Description) :
    law.IsUnion name (.empty name property) d :=
  ⟨rfl, by rintro v c ⟨⟩⟩

section

variable {q : String} {decl : JavaClass} {d : Description} (h : law.Describes describe)
  (hclaimed : survey.Claimed d q)

include h hclaimed

/-- A class is registered where its name is free, or the attempt fails. -/
theorem leads_register (hkind : survey.kind q = .defined decl)
    (hfree : d.api.defines (survey.nameOf q) = false) :
    law.Leads (survey.register describe decl (survey.nameOf q) decl.form) d fun _ after =>
      after.api.defines (survey.nameOf q) = true := by
  cases hform : decl.form with
  | enum =>
    intro hinv
    obtain ⟨hinv', hle⟩ := law.addEnum hinv hclaimed hkind hform hfree
    have hadd : run (survey.register describe decl (survey.nameOf q) .enum) d =
        (.ok (), d.withEnum ⟨survey.nameOf q, decl.enumConstants⟩) :=
      run_extend_eq_ok_iff.mpr ⟨_, ApiDefinition.addEnum_eq_ok_iff.mpr ⟨hfree, rfl⟩, rfl⟩
    rw [hadd]
    exact ⟨hinv', hle, fun _ _ => by simp [ApiDefinition.defines, Description.withEnum]⟩
  | bean =>
    exact leads_define hclaimed hkind hfree (by simp [hform, DefinitionForm.isClass])
      (leads_beanDefinition h decl _)
  | serialized =>
    exact leads_define hclaimed hkind hfree (by simp [hform, DefinitionForm.isClass])
      (leads_serializedDefinition h decl _)
  | beanUnion info =>
    simp only [Survey.register, Survey.describeBeanUnion]
    cases BeanUnion.discriminator info with
    | error fault => exact leads_throw
    | ok property =>
      refine leads_defineUnion hclaimed hkind hfree (by simp [hform, DefinitionForm.isUnion])
        fun d => ?_
      refine leads_bind (P := fun _ _ => True) (leads_lift fun _ _ => trivial)
        fun subtypes after _ _ =>
          leads_foldlM (fun union subtype d hd => ?_) (isUnion_empty _ _ _)
      exact leads_addSubtype h decl hd subtype
  | sealedUnion =>
    refine leads_defineUnion hclaimed hkind hfree (by simp [hform, DefinitionForm.isUnion])
      fun d => ?_
    exact leads_foldlM (fun union subclass d hd => leads_addPermitted h decl hd subclass)
      (isUnion_empty _ _ _)

theorem leads_describeDefinition (hkind : survey.kind q = .defined decl) :
    law.Leads (survey.describeDefinition describe decl (survey.nameOf q)) d fun t after =>
      law.Good after t := by
  cases hdefined : d.api.defines (survey.nameOf q) with
  | true =>
    refine leads_of_inv fun hinv => .of_run_eq (pure (.reference (survey.nameOf q))) ?_
      (leads_pure (law.good_defined hinv hclaimed hkind hdefined))
    simp [Survey.run_describeDefinition, hdefined]
  | false =>
    refine .of_run_eq (do
      survey.register describe decl (survey.nameOf q) decl.form
      pure (.reference (survey.nameOf q))) (by simp [Survey.run_describeDefinition, hdefined]) ?_
    refine leads_bind (leads_register h hclaimed hkind hdefined) fun _ after hle hafter => ?_
    exact leads_of_inv fun hinv =>
      leads_pure (law.good_defined hinv (law.le_claimed hle hclaimed) hkind hafter)

theorem leads_describeValueClass {method : JavaMethod}
    (hkind : survey.kind q = .value decl method) :
    law.Leads (Survey.describeValueClass describe decl (survey.nameOf q) method) d fun t after =>
      law.Good after t := by
  cases halias : d.api.aliases.contains (survey.nameOf q) with
  | true =>
    refine leads_of_inv fun hinv => .of_run_eq (pure (.blackBox (survey.nameOf q))) ?_
      (leads_pure (law.good_alias hinv hclaimed hkind halias))
    simp [Survey.run_describeValueClass, halias]
  | false =>
    refine .of_run_eq _ (by simp [Survey.run_describeValueClass, halias]; rfl) ?_
    refine leads_bind (h _ _ d) fun target between hle htarget => ?_
    refine leads_bind (P := fun _ after => after.api.aliases.contains (survey.nameOf q) = true)
      (fun hinv => ?_) fun _ after hle' hafter => leads_of_inv fun hinv =>
        leads_pure (law.good_alias hinv (law.le_claimed (law.le_trans hle hle') hclaimed) hkind
          hafter)
    obtain ⟨hinv', hadd⟩ := law.addAlias hinv (law.le_claimed hle hclaimed) hkind htarget
    rw [run_extend]
    exact ⟨hinv', hadd, fun _ _ => by simp [ApiDefinition.addAlias]⟩

end

/-! ## Types -/

theorem leads_extend {change : ApiDefinition → Except SurfaceError ApiDefinition}
    {d : Description} {post : Unit → Description → Prop}
    (h : ∀ api, law.Inv d → change d.api = .ok api →
      law.Inv { d with api } ∧ law.Le d { d with api } ∧ post () { d with api }) :
    law.Leads (extend change) d post := by
  intro hinv
  rw [run_extend]
  cases hchange : change d.api with
  | error e => exact ⟨hinv, law.le_refl d, by rintro _ ⟨⟩⟩
  | ok api =>
    obtain ⟨hinv', hle, hpost⟩ := h api hinv hchange
    exact ⟨hinv', hle, fun _ _ => hpost⟩

/-- A class is described by its kind, under the name that it has claimed. -/
theorem leads_describeKind (h : law.Describes describe) {q : String} {d : Description}
    (hclaimed : survey.Claimed d q) :
    law.Leads (survey.describeKind describe q (survey.kind q)) d fun t after =>
      law.Good after t := by
  cases hkind : survey.kind q with
  | imported => exact leads_of_inv fun hinv => leads_pure (law.good_imported hinv hclaimed hkind)
  | unknown => exact leads_of_inv fun hinv => leads_pure (law.good_unknown hinv hclaimed hkind)
  | blackBox =>
    refine leads_bind (leads_extend fun api hinv hapi => ?_) fun _ _ _ hgood => leads_pure hgood
    cases hapi
    exact law.blackBox hinv hclaimed hkind
  | value decl method => exact leads_describeValueClass h hclaimed hkind
  | defined decl => exact leads_describeDefinition h hclaimed hkind

theorem leads_describeClass (h : law.Describes describe) (q : String) (d : Description) :
    law.Leads (survey.describeClass describe q) d fun t after => law.Good after t := by
  intro hinv
  obtain ⟨hinv', hle, hclaimed⟩ := leads_displayName q d hinv
  obtain ⟨e, he⟩ | ⟨after, hok, -⟩ := Survey.run_displayName_cases q d
  · rw [Survey.describeClass, run_bind_of_error he]
    exact ⟨hinv, law.le_refl d, by rintro _ ⟨⟩⟩
  · rw [hok] at hinv' hle hclaimed
    rw [Survey.run_describeClass describe hok]
    obtain ⟨hinv'', hle', hgood⟩ := leads_describeKind h (hclaimed _ rfl).2 hinv'
    exact ⟨hinv'', law.le_trans hle hle', hgood⟩

theorem good_builtin {name : String} {t : ApiType} (d : Description)
    (ht : survey.classes.builtin? name = some t) : law.Good d t := by
  have hp := law.good_primitive d
  exact ClassCollection.of_builtin? (law.good_array (hp _)) (law.good_dictionary (hp _)) hp
    (fun p => law.good_orNull (hp p)) ht

theorem good_container {base : JavaType} {arguments : List ApiType} {t : ApiType}
    {d : Description} (ht : survey.classes.container? base arguments = some t)
    (harguments : ∀ a ∈ arguments, law.Good d a) : law.Good d t :=
  ClassCollection.of_container? (fun a ha => law.good_array (harguments a ha))
    (fun a ha => law.good_orNull (harguments a ha))
    (fun a ha => law.good_dictionary (harguments a ha)) ht

theorem leads_describeName (h : law.Describes describe) (name : String) (d : Description) :
    law.Leads (survey.describeName describe name) d fun t after => law.Good after t := by
  unfold Survey.describeName
  cases hbuiltin : survey.classes.builtin? name with
  | some t => exact leads_pure (good_builtin d hbuiltin)
  | none => exact leads_describeClass h name d

theorem leads_following {act : Describing ApiType} {v : String} {d : Description}
    (hfresh : v ∉ d.followed)
    (h : law.Leads act (d.withFollowed (v :: d.followed)) fun t after => law.Good after t) :
    law.Leads (following v act) d fun t after => law.Good after t := by
  intro hinv
  obtain ⟨hinv', hle, hgood⟩ := h (law.follow hinv hfresh)
  obtain ⟨hinv'', hle'⟩ := law.unfollow hinv hfresh hle hinv'
  rw [run_following]
  exact ⟨hinv'', hle', fun t ht => law.good_unfollow _ (hgood t ht)⟩

theorem leads_describeVariable (h : law.Describes describe) (name : String)
    (env : TypeEnvironment) (d : Description) :
    law.Leads (Survey.describeVariable describe name env) d fun t after => law.Good after t := by
  unfold Survey.describeVariable
  cases env.lookup name with
  | none => exact leads_pure (law.good_primitive d _)
  | some bound =>
    simp only
    split_ifs with hself
    · exact leads_throw
    · refine leads_bind_get ?_
      split_ifs with hfollowed
      · exact leads_pure (law.good_primitive _ _)
      · exact leads_following (by simpa using hfollowed) (h _ _ _)

theorem leads_describeAllWithin {types : List JavaType} {env : TypeEnvironment} {d : Description}
    (h : ∀ type ∈ types, ∀ d, law.Leads (survey.describeWithin describe type env) d fun t after =>
      law.Good after t) :
    law.Leads (survey.describeAllWithin describe types env) d fun ts after =>
      ∀ t ∈ ts, law.Good after t := by
  induction types generalizing d with
  | nil => exact leads_pure (by simp)
  | cons type types ih =>
    refine leads_bind (h type (by simp) d) fun t after _ ht => ?_
    refine leads_bind (ih fun type htype => h type (by simp [htype])) fun ts after' hle hts => ?_
    exact leads_pure (List.forall_mem_cons.mpr ⟨law.good_le hle ht, hts⟩)

theorem leads_describeWithin (h : law.Describes describe) (type : JavaType)
    (env : TypeEnvironment) (d : Description) :
    law.Leads (survey.describeWithin describe type env) d fun t after => law.Good after t := by
  induction type using JavaType.induct generalizing d with
  | basic name => exact leads_describeName h name d
  | array element ih =>
    exact leads_bind (ih d) fun t after _ ht => leads_pure (law.good_array ht)
  | parameterized base arguments ihBase ihArguments =>
    refine leads_bind (leads_describeAllWithin ihArguments) fun ts after _ hts => ?_
    cases hcontainer : survey.classes.container? base ts with
    | some t => exact leads_pure (good_container hcontainer hts)
    | none => exact ihBase after
  | var name => exact leads_describeVariable h name env d
  | wildcard upper lower ihUpper ihLower =>
    cases lower with
    | some lower => exact ihLower lower rfl d
    | none =>
      cases upper with
      | some upper => exact ihUpper upper rfl d
      | none => exact leads_pure (law.good_primitive d _)
  | inner outer name _ => exact leads_throw

theorem describes_describeTo (depth : Nat) : law.Describes (survey.describeTo depth) := by
  induction depth with
  | zero => exact fun _ _ _ => leads_throw
  | succ depth ih => exact leads_describeWithin ih

/-- Every law holds of every description of a type. -/
theorem describes_describe : law.Describes survey.describe :=
  fun type env d => describes_describeTo _ type env d

/-! ## The whole API -/

variable (law) in
/-- Of this name, with lawful types in every endpoint. -/
def IsGroup (group : EndpointGroup) (d : Description) : Prop :=
  ∀ e ∈ group.endpoints.values, ∀ t ∈ e.types, law.Good d t

theorem IsGroup.le {group : EndpointGroup} {d d' : Description} (h : law.IsGroup group d)
    (hle : law.Le d d') : law.IsGroup group d' :=
  fun e he t ht => law.good_le hle (h e he t ht)

theorem IsGroup.add {group : EndpointGroup} {endpoint : Endpoint} {d : Description}
    (h : law.IsGroup group d) (he : ∀ t ∈ endpoint.types, law.Good d t) :
    law.IsGroup (group.add endpoint).2 d := by
  intro e hmem
  obtain ⟨name, hname⟩ := (NameMap.mem_values_iff _ _).mp hmem
  have hadd := group.endpoint?_add endpoint name
  rw [EndpointGroup.endpoint?, hname] at hadd
  split_ifs at hadd
  · cases hold : group.endpoint? name with
    | none =>
      rw [hold] at hadd
      cases hadd
      exact he
    | some old =>
      rw [hold] at hadd
      cases hadd
      exact h _ ((NameMap.mem_values_iff _ _).mpr ⟨name, hold⟩)
  · exact h e ((NameMap.mem_values_iff _ _).mpr ⟨name, hadd.symm⟩)

theorem leads_describeParameter (controller : JavaClass) (method : JavaMethod)
    (env : TypeEnvironment) (index : Nat) (parameter : JavaParameter) (d : Description) :
    law.Leads (survey.describeParameter controller method env index parameter) d
      fun described after => ∀ p ∈ described, law.Good after p.type := by
  unfold Survey.describeParameter
  cases survey.parameterBinding? parameter with
  | none => exact leads_pure (by simp)
  | some binding =>
    refine leads_bind (P := fun _ _ => True) (leads_lift fun _ _ => trivial) ?_
    rintro ⟨source, name⟩ after - -
    refine leads_bind (leads_element describes_describe _ _ _ _) fun t after _ ht => leads_pure ?_
    rintro _ ⟨⟩
    exact ht

theorem leads_describeParameters (controller : JavaClass) (method : JavaMethod)
    (env : TypeEnvironment) (index : Nat) (parameters : List JavaParameter) (d : Description) :
    law.Leads (survey.describeParameters controller method env index parameters) d
      fun described after => ∀ p ∈ described, law.Good after p.type := by
  induction parameters generalizing index d with
  | nil => exact leads_pure (by simp)
  | cons parameter rest ih =>
    refine leads_bind (leads_describeParameter controller method env index parameter d)
      fun first after _ hfirst => leads_bind (ih (index + 1) after) fun others after' hle hothers =>
        leads_pure fun p hp => ?_
    rcases List.mem_append.mp hp with hp | hp
    · exact law.good_le hle (hfirst p (Option.mem_toList.mp hp))
    · exact hothers p hp

theorem leads_requestMethod? (annotations : List AnnotationUse) (d : Description) :
    law.Leads (survey.requestMethod? annotations) d fun _ _ => True := by
  unfold Survey.requestMethod?
  cases survey.classes.mappedMethod? annotations with
  | none => exact leads_pure trivial
  | some name =>
    simp only
    cases HttpMethod.ofName? name with
    | some method => exact leads_pure trivial
    | none => exact leads_bind (leads_report _ _) fun _ _ _ _ => leads_pure trivial

theorem leads_requestMethod (method : JavaMethod) (owner : JavaClass) (d : Description) :
    law.Leads (survey.requestMethod method owner) d fun _ _ => True := by
  refine leads_bind (leads_requestMethod? _ d) fun found after _ _ => ?_
  cases found with
  | some m => exact leads_pure trivial
  | none => exact leads_bind (leads_requestMethod? _ after) fun _ _ _ _ => leads_pure trivial

theorem leads_describeBody (method : JavaMethod) (env : TypeEnvironment) (d : Description) :
    law.Leads (survey.describeBody method env) d fun body after =>
      ∀ t ∈ body, law.Good after t := by
  unfold Survey.describeBody
  split_ifs
  · exact leads_pure (by simp)
  · refine leads_bind (leads_element describes_describe _ _ _ _) fun t after _ ht => leads_pure ?_
    rintro _ ⟨⟩
    exact ht

theorem leads_describeEndpoint (controller : JavaClass) (level : BoundClass)
    (method : JavaMethod) (d : Description) :
    law.Leads (survey.describeEndpoint controller level method) d
      fun endpoint after => ∀ t ∈ endpoint.types, law.Good after t := by
  unfold Survey.describeEndpoint
  refine leads_bind (leads_describeBody method _ d) fun body after _ hbody => ?_
  refine leads_bind (leads_describeParameters controller method _ 0 method.parameters after)
    fun parameters after₁ hle₁ hparameters => ?_
  refine leads_bind (P := fun _ _ => True) (leads_lift fun _ _ => trivial)
    fun uri after₂ hle₂ _ => leads_bind (leads_requestMethod method level.decl after₂)
      fun verb after₃ hle₃ _ => leads_pure fun t ht => ?_
  have hle := law.le_trans hle₂ hle₃
  rcases List.mem_append.mp ht with ht | ht
  · exact law.good_le (law.le_trans hle₁ hle) (hbody t (Option.mem_toList.mp ht))
  · obtain ⟨p, hp, rfl⟩ := List.mem_map.mp ht
    exact law.good_le hle (hparameters p hp)

theorem leads_describeGroup (controller : JavaClass) (d : Description) :
    law.Leads (survey.describeGroup controller) d law.IsGroup := by
  refine leads_bind (P := fun _ _ => True) (leads_liftHalt fun _ _ => trivial)
    fun levels after _ _ => leads_foldlM ?_ (by rintro e ⟨⟩)
  rintro group ⟨level, method⟩ d hgroup
  exact leads_bind (leads_describeEndpoint controller level method d)
    fun endpoint after hle hendpoint => leads_pure ((hgroup.le hle).add hendpoint)

theorem leads_describeController (controller : JavaClass) (d : Description) :
    law.Leads (survey.describeController controller) d fun _ _ => True := by
  refine leads_bind (leads_describeGroup controller d) fun group after _ hgroup => ?_
  have hadd : ∀ after, law.IsGroup group after →
      law.Leads (extend fun api => .ok (api.addGroup group)) after fun _ _ => True := by
    refine fun after hgroup => leads_extend fun api hinv hapi => ?_
    cases hapi
    exact ⟨(law.addGroup hinv hgroup).1, (law.addGroup hinv hgroup).2, trivial⟩
  simp only
  split_ifs
  · exact leads_bind (leads_report _ _) fun _ after' hle _ => hadd after' (hgroup.le hle)
  · exact hadd after hgroup

theorem leads_describeRoot (root : String) (d : Description) :
    law.Leads (survey.describeRoot root) d fun _ _ => True := by
  refine leads_bind (describes_describe _ _ d) fun t after _ _ => ?_
  cases t with
  | reference name =>
    refine Leads.of_run_eq _ (run_bind_of_ok (run_api after) _) ?_
    split_ifs
    · exact leads_pure trivial
    · exact leads_report _ _
  | _ => exact leads_pure trivial

theorem leads_describeImport (module : String) (types : List String) (d : Description) :
    law.Leads (Survey.describeImport module types) d fun _ _ => True := by
  refine (Leads.of_run_eq _ (run_bind_of_ok (run_api d) _) ?_)
  refine leads_bind (P := fun _ _ => True) (fun hinv => ?_) fun _ _ _ _ =>
    leads_lift fun _ _ => trivial
  rw [run_modify, ApiDefinition.addImport_snd]
  exact ⟨(law.setImports _ hinv).1, (law.setImports _ hinv).2, fun _ _ => trivial⟩

/-- Every law holds of the description of an API. -/
theorem leads_describeApi (d : Description) :
    law.Leads survey.describeApi d fun api after => api = after.api := by
  refine leads_bind (leads_forM leads_describeController) fun _ after _ _ => ?_
  refine leads_bind (leads_forM leads_describeRoot) fun _ after _ _ => ?_
  refine leads_bind (leads_forM fun import_ d => leads_describeImport import_.1 import_.2 d)
    fun _ after _ _ => ?_
  refine Leads.of_run_eq _ (run_bind_of_ok (run_api after) _) ?_
  refine leads_bind (P := fun _ last => after.api = last.api) (fun hinv => ?_)
    fun _ _ _ heq => leads_pure heq
  obtain ⟨hinv', hle, -⟩ := leads_forM leads_report hinv
  exact ⟨hinv', hle, fun _ _ => by rw [run_forM_report]⟩

end ApiSurface.Law
