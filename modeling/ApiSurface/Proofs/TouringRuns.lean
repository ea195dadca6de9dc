import ApiSurface.Proofs.Tours

/-!
# Runs are tours

A run that describes a type and succeeds gives the reading of the type and is a tour of the classes
that the reading meets. What holds of the description of types at one depth holds one step deeper.
-/

namespace ApiSurface.Survey

open Describing

/-- To describe a type is to read it and to tour the classes that are met. -/
def Tells (survey : Survey) (describe : TypeDescriber) : Prop :=
  ∀ type env d, Yields (describe type env) d fun t after =>
    ∃ met, survey.reading env d.followed type = some (t, met) ∧ survey.Tours met d after

variable {survey : Survey} {describe : TypeDescriber}

theorem yields_report (event : Event) (d : Description) :
    Yields (report event) d fun _ after => survey.Tours [] d after := by
  rintro _ _ ⟨⟩
  exact tours_nil ⟨rfl, rfl, rfl⟩ (fun _ => id) fun _ => rfl

/-! ## Members -/

theorem yields_element (h : survey.Tells describe) (annotations : List AnnotationUse)
    (type : JavaType) (env : TypeEnvironment) (d : Description) :
    Yields (describe.element annotations type env) d fun t after =>
      ∃ u met, survey.reading env d.followed type = some (u, met) ∧
        t = (if AnnotationUse.anyOf annotations nullMarkers then u.orNull else u) ∧
        survey.Tours met d after := by
  refine yields_bind (h type env d) ?_
  intro u after hpost
  obtain ⟨met, hread, htour⟩ := hpost
  exact yields_pure ⟨u, met, hread, rfl, htour⟩

/-- The definition is what was read of these slots since the start. -/
def Filled (survey : Survey) (name : String) (start : Description) (slots : List Slot)
    (definition : ClassDefinition) (d : Description) : Prop :=
  ∃ met, survey.readClass start.followed name slots = some (definition, met) ∧
    survey.Tours met start d

theorem filled_empty (name : String) (d : Description) :
    survey.Filled name d [] (.empty name) d :=
  ⟨[], rfl, .refl d⟩

section

variable {name : String} {start d after : Description} {slots : List Slot}
  {definition c : ClassDefinition}

theorem Filled.has_iff (h : survey.Filled name start slots definition d) (property : String) :
    definition.has property = true ↔ property ∈ Slot.names slots :=
  have ⟨_, hread, _⟩ := h
  has_iff_of_readClass hread property

theorem Filled.add {slot : Slot} {t : ApiType} {more : List Sighting}
    (h : survey.Filled name start slots definition d)
    (ht : survey.reading slot.environment d.followed slot.type = some (t, more))
    (htour : survey.Tours more d after)
    (hadd : definition.add slot.property (slot.typed t) = .ok c) :
    survey.Filled name start (slots ++ [slot]) c after := by
  obtain ⟨met, hread, htour'⟩ := h
  obtain ⟨-, rfl⟩ := ClassDefinition.add_eq_ok_iff.mp hadd
  rw [htour'.aside.followed] at ht
  exact ⟨met ++ more, readClass_concat hread ht, htour'.trans htour⟩

theorem Filled.trans {after : Description} (h : survey.Filled name start slots definition d)
    (htour : survey.Tours [] d after) : survey.Filled name start slots definition after := by
  obtain ⟨met, hread, htour'⟩ := h
  exact ⟨met, hread, by simpa using htour'.trans htour⟩

theorem yields_addProperty (h : survey.Tells describe) (hidden : List String)
    (affixes : Affixes) (env : TypeEnvironment) (member : BeanMember)
    (hfilled : survey.Filled name start slots definition d) :
    Yields (addProperty describe hidden affixes definition env member) d
      (survey.Filled name start (Slot.addMember hidden affixes slots env member)) := by
  simp only [addProperty, Slot.addMember, Slot.addTo]
  cases hhidden : hidden.contains member.name with
  | true => simpa using yields_pure hfilled
  | false =>
    have htaken := hfilled.has_iff (affixes.wrap member.name)
    by_cases hmem : (Slot.ofMember affixes env member).property ∈ Slot.names slots
    · simpa [htaken.mpr hmem, hmem] using yields_pure hfilled
    · have hhas : definition.has (affixes.wrap member.name) = false :=
        Bool.eq_false_iff.mpr fun hhas => hmem (htaken.mp hhas)
      simp only [hhas, hmem, Bool.or_self, Bool.false_eq_true, if_false]
      refine yields_bind (yields_element h _ _ _ _) ?_
      intro _ after hpost
      obtain ⟨u, met, hread, rfl, htour⟩ := hpost
      exact yields_lift fun c hc => hfilled.add hread htour hc

theorem yields_addProperties (h : survey.Tells describe) (steps : Nat) (affixes : Affixes)
    (bound : BoundClass) (hfilled : survey.Filled name start slots definition d) :
    Yields (survey.addProperties describe steps affixes bound definition) d fun c after =>
      ∃ slots', survey.addSlots steps affixes bound slots = .ok slots' ∧
        survey.Filled name start slots' c after := by
  induction steps generalizing affixes bound slots definition d with
  | zero => exact yields_throw
  | succ steps ih =>
    rw [addProperties, addSlots]
    refine yields_bind (P := fun levels after => survey.classes.hierarchy bound = .ok levels ∧
      survey.Filled name start slots definition after)
      (yields_liftHalt fun levels hlevels => ⟨hlevels, hfilled⟩) ?_
    intro levels after hpost
    obtain ⟨hlevels, hfilled⟩ := hpost
    rw [hlevels]
    refine yields_foldlM ?_ hfilled
    rintro slots definition ⟨env, member⟩ d hfilled
    cases hunwrap : member.unwrapping? with
    | none =>
      simp only [hunwrap]
      exact (yields_addProperty h _ _ _ _ hfilled).imp fun c after hc => ⟨_, rfl, hc⟩
    | some unwrapping =>
      simp only [hunwrap]
      refine yields_bind (P := fun target after =>
        survey.classes.bind? (member.type.resolve env) env = .ok target ∧
          survey.Filled name start slots definition after)
        (yields_lift fun target htarget => ⟨htarget, hfilled⟩) ?_
      intro target after hpost
      obtain ⟨htarget, hfilled⟩ := hpost
      rw [htarget]
      cases target with
      | none =>
        exact yields_bind (yields_report _ _) fun _ _ htour =>
          yields_pure ⟨slots, rfl, hfilled.trans htour⟩
      | some target => exact ih _ _ hfilled

end

/-- A way to define a class whose members are these slots. -/
def Defines (survey : Survey) (name : String) (slots : Except Halt (List Slot))
    (definition : Describing ClassDefinition) : Prop :=
  ∀ d, Yields definition d fun c after => ∃ s, slots = .ok s ∧ survey.Filled name d s c after

theorem defines_beanDefinition (h : survey.Tells describe) (decl : JavaClass) (name : String) :
    survey.Defines name (survey.beanSlots decl) (survey.beanDefinition describe decl name) :=
  fun d => yields_addProperties h _ _ _ (filled_empty name d)

theorem yields_addField (h : survey.Tells describe) (env : TypeEnvironment) (field : JavaField)
    {name : String} {start d : Description} {slots : List Slot} {definition : ClassDefinition}
    (hfilled : survey.Filled name start slots definition d) :
    Yields (addField describe definition env field) d
      (survey.Filled name start (Slot.addTo slots (.ofField env field))) := by
  have htaken := hfilled.has_iff (Serialization.fieldName field)
  simp only [addField, Slot.addTo]
  by_cases hmem : (Slot.ofField env field).property ∈ Slot.names slots
  · simpa [htaken.mpr hmem, hmem] using yields_pure hfilled
  · have hhas : definition.has (Serialization.fieldName field) = false :=
      Bool.eq_false_iff.mpr fun hhas => hmem (htaken.mp hhas)
    simp only [hhas, hmem, Bool.false_eq_true, if_false]
    refine yields_bind (yields_element h _ _ _ _) ?_
    intro t after hpost
    obtain ⟨u, met, hread, ht, htour⟩ := hpost
    refine yields_lift fun c hc => hfilled.add hread htour ?_
    rw [Slot.typed_ofField, ← ht]
    exact hc

theorem defines_serializedDefinition (h : survey.Tells describe) (decl : JavaClass)
    (name : String) :
    survey.Defines name (survey.serializedSlots decl)
      (survey.serializedDefinition describe decl name) := by
  intro d
  refine yields_bind (P := fun levels after =>
    survey.classes.hierarchy (.raw decl) = .ok levels ∧ after = d)
    (yields_liftHalt fun levels hlevels => ⟨hlevels, rfl⟩) ?_
  intro levels _ hpost
  obtain ⟨hlevels, rfl⟩ := hpost
  have hslots : survey.serializedSlots decl = (Serialization.fields levels).foldlM
      (fun slots f => pure (Slot.addTo slots (.ofField f.1 f.2))) [] := by
    rw [serializedSlots, hlevels, List.foldlM_pure]
    rfl
  rw [hslots]
  refine yields_foldlM ?_ (filled_empty name _)
  rintro slots definition ⟨env, field⟩ d hfilled
  exact (yields_addField h env field hfilled).imp fun c after hc => ⟨_, rfl, hc⟩

/-! ## Unions -/

/-- The union's cases are what was read of these since the start. -/
def HasCases (survey : Survey) (start : Description) (union : UnionDefinition)
    (cases : List UnionCase) (filled : UnionDefinition) (d : Description) : Prop :=
  ∃ definitions met, readEach (survey.readCase start.followed) cases = some (definitions, met) ∧
    filled = { union with cases := .ofList definitions } ∧ survey.Tours met start d

theorem HasCases.trans {start d after : Description} {union filled : UnionDefinition}
    {cases : List UnionCase} (h : survey.HasCases start union cases filled d)
    (htour : survey.Tours [] d after) : survey.HasCases start union cases filled after := by
  obtain ⟨definitions, met, hread, hfilled, htour'⟩ := h
  exact ⟨definitions, met, hread, hfilled, by simpa using htour'.trans htour⟩

theorem yields_displayName (q : String) (d : Description) :
    Yields (survey.displayName q) d fun name after =>
      name = survey.nameOf q ∧ survey.Claimed after q ∧ survey.Tours [] d after := by
  intro name after hrun
  obtain ⟨e, he⟩ | ⟨after', hok, hclaimed, hafter⟩ := run_displayName_cases q d
  · cases he.symm.trans hrun
  · cases hok.symm.trans hrun
    refine ⟨rfl, hclaimed, ?_⟩
    obtain rfl | ⟨hfree, rfl⟩ := hafter
    · exact .refl _
    · refine tours_nil ⟨rfl, rfl, rfl⟩ (fun q' hq' => ?_) fun _ => rfl
      have hne : survey.nameOf q' ≠ survey.nameOf q := fun hname => by
        simp [Claimed, hname, hfree] at hq'
      simpa [Claimed, claim, hne] using hq'

theorem yields_addCase {start d : Description} {union filled : UnionDefinition}
    {cases : List UnionCase} (hcases : survey.HasCases start union cases filled d)
    (value : JavaClass → String) (subclass : JavaClass)
    {slotsOf : JavaClass → Except Halt (List Slot)}
    {definition : String → Describing ClassDefinition}
    (hdefinition : ∀ name, survey.Defines name (slotsOf subclass) (definition name)) :
    Yields (survey.addCase filled (value subclass) subclass definition) d fun u after =>
      ∃ cases', addUnionCase slotsOf cases value (some subclass) = .ok cases' ∧
        survey.HasCases start union cases' u after := by
  refine yields_bind (yields_displayName _ _) ?_
  intro _ between hpost
  obtain ⟨rfl, -, hclaim⟩ := hpost
  refine yields_bind (hdefinition _ between) ?_
  intro c after hpost
  obtain ⟨slots, hslots, hfilled⟩ := hpost
  refine yields_lift fun u hu => ⟨_, by rw [addUnionCase, hslots]; rfl, ?_⟩
  obtain ⟨definitions, met, hread, rfl, htour⟩ := hcases
  obtain ⟨more, hclass, htour'⟩ := hfilled
  obtain ⟨-, rfl⟩ := UnionDefinition.add_eq_ok_iff.mp hu
  rw [hclaim.aside.followed, htour.aside.followed] at hclass
  refine ⟨definitions ++ [(value subclass, c)], met ++ more,
    readEach_concat hread (by simp [readCase, hclass]), by simp, htour.trans ?_⟩
  simpa using hclaim.trans htour'

theorem yields_addSubtype (h : survey.Tells describe) (decl : JavaClass)
    {start d : Description} {union filled : UnionDefinition} {cases : List UnionCase}
    (hcases : survey.HasCases start union cases filled d) (subtype : BeanUnion.Subtype) :
    Yields (survey.addSubtype describe decl filled subtype) d fun u after =>
      ∃ cases', addUnionCase survey.beanSlots cases (fun _ => subtype.value)
        (survey.classes.classOf? subtype.type) = .ok cases' ∧
          survey.HasCases start union cases' u after := by
  unfold addSubtype
  cases survey.classes.classOf? subtype.type with
  | none =>
    exact yields_bind (yields_report _ _) fun _ _ htour =>
      yields_pure ⟨cases, rfl, hcases.trans htour⟩
  | some subclass =>
    exact yields_addCase hcases (fun _ => subtype.value) subclass
      (defines_beanDefinition h subclass)

theorem yields_addPermitted (h : survey.Tells describe) (decl : JavaClass)
    {start d : Description} {union filled : UnionDefinition} {cases : List UnionCase}
    (hcases : survey.HasCases start union cases filled d) (subclass : String) :
    Yields (survey.addPermitted describe decl filled subclass) d fun u after =>
      ∃ cases', addUnionCase survey.serializedSlots cases Serialization.caseValue
        (survey.classes.class? subclass) = .ok cases' ∧
          survey.HasCases start union cases' u after := by
  unfold addPermitted
  cases survey.classes.class? subclass with
  | none =>
    exact yields_bind (yields_report _ _) fun _ _ htour =>
      yields_pure ⟨cases, rfl, hcases.trans htour⟩
  | some subclass =>
    exact yields_addCase hcases Serialization.caseValue subclass
      (defines_serializedDefinition h subclass)

theorem hasCases_empty (name discriminator : String) (d : Description) :
    survey.HasCases d (.empty name discriminator) [] (.empty name discriminator) d :=
  ⟨[], [], rfl, rfl, .refl d⟩

/-! ## Registration -/

section

variable {q : String} {decl : JavaClass} {d : Description} (hclaimed : survey.Claimed d q)
  (hkind : survey.kind q = .defined decl) (hfree : d.api.defines (survey.nameOf q) = false)

include hclaimed hkind hfree

theorem yields_define {slots : Except Halt (List Slot)}
    {definition : Describing ClassDefinition}
    (hshape : survey.shape decl = slots.map .members)
    (hdefinition : survey.Defines (survey.nameOf q) slots definition) :
    Yields (define (survey.nameOf q) definition) d fun _ after =>
      survey.Tours [⟨q, d.followed⟩] d after := by
  refine yields_bind (yields_addClass _) ?_
  intro _ _ hafter
  subst hafter
  refine yields_bind (hdefinition _) ?_
  intro c d₂ hpost
  obtain ⟨s, hs, met, hclass, htour⟩ := hpost
  refine (yields_completeClass c).imp ?_
  intro _ _ hafter
  subst hafter
  have hname : c.name = survey.nameOf q := by
    obtain ⟨_, -, rfl⟩ := readClass_eq_some_iff.mp hclass
    rfl
  have hread : survey.readClass d.followed (survey.nameOf q) s = some (c, met) := hclass
  have hplaceholder : d.api.entry (survey.nameOf q) = .none →
      (d.withClass (.empty (survey.nameOf q))).api.entry (survey.nameOf q) =
        { class? := some (.empty (survey.nameOf q)) } := fun hnone => by
    rw [entry_withClass d (survey.nameOf q) rfl, hnone]
    rfl
  refine tours_define hclaimed hkind hfree (changes_withClass d rfl) hplaceholder rfl htour
    (changes_withClass d₂ hname) (fun hhere => by rw [entry_withClass d₂ _ hname, hhere]) ?_
  simp [entryAt?, hkind, hshape, hs, Except.map, readShape, hread]

theorem yields_defineUnion {discriminator : String} {cases : Except Halt (List UnionCase)}
    {fill : UnionDefinition → Describing UnionDefinition}
    (hshape : survey.shape decl = cases.map (.union discriminator))
    (hfill : ∀ d, Yields (fill (.empty (survey.nameOf q) discriminator)) d fun u after =>
      ∃ c, cases = .ok c ∧
        survey.HasCases d (.empty (survey.nameOf q) discriminator) c u after) :
    Yields (defineUnion (.empty (survey.nameOf q) discriminator) fill) d fun _ after =>
      survey.Tours [⟨q, d.followed⟩] d after := by
  refine yields_bind (yields_addUnion _) ?_
  intro _ _ hafter
  subst hafter
  refine yields_bind (hfill _) ?_
  intro u d₂ hpost
  obtain ⟨c, hc, definitions, met, hcases, hu, htour⟩ := hpost
  refine (yields_completeUnion u).imp ?_
  intro _ _ hafter
  subst hafter
  have hname : u.name = survey.nameOf q := by rw [hu]; rfl
  have hread : readEach (survey.readCase d.followed) c = some (definitions, met) := hcases
  have hplaceholder : d.api.entry (survey.nameOf q) = .none →
      (d.withUnion (.empty (survey.nameOf q) discriminator)).api.entry (survey.nameOf q) =
        { union? := some (.empty (survey.nameOf q) discriminator) } := fun hnone => by
    rw [entry_withUnion d (survey.nameOf q) rfl, hnone]
    rfl
  refine tours_define hclaimed hkind hfree (changes_withUnion d rfl) hplaceholder rfl htour
    (changes_withUnion d₂ hname) (fun hhere => by rw [entry_withUnion d₂ _ hname, hhere]) ?_
  simp [entryAt?, hkind, hshape, hc, Except.map, readShape, hread, hu,
    UnionDefinition.empty]

end

theorem yields_register (h : survey.Tells describe) {q : String} {decl : JavaClass}
    {d : Description} (hclaimed : survey.Claimed d q) (hkind : survey.kind q = .defined decl)
    (hfree : d.api.defines (survey.nameOf q) = false) :
    Yields (survey.register describe decl (survey.nameOf q) decl.form) d fun _ after =>
      survey.Tours [⟨q, d.followed⟩] d after := by
  cases hform : decl.form with
  | enum =>
    refine (yields_addEnum _).imp ?_
    intro _ _ hafter
    subst hafter
    have hentry : d.api.entry (survey.nameOf q) = .none →
        (d.withEnum ⟨survey.nameOf q, decl.enumConstants⟩).api.entry (survey.nameOf q) =
          { enum? := some ⟨survey.nameOf q, decl.enumConstants⟩ } := fun hnone => by
      rw [entry_withEnum d (survey.nameOf q) rfl, hnone]
      rfl
    refine tours_define hclaimed hkind hfree (changes_withEnum d rfl) hentry rfl (.refl _)
      (changes_refl _ _) id ?_
    simp [entryAt?, hkind, shape, hform, readShape]
  | bean =>
    refine yields_define hclaimed hkind hfree ?_ (defines_beanDefinition h decl _)
    simp only [shape, hform]
    rfl
  | serialized =>
    refine yields_define hclaimed hkind hfree ?_ (defines_serializedDefinition h decl _)
    simp only [shape, hform]
    rfl
  | beanUnion info =>
    simp only [register, describeBeanUnion]
    cases hdiscriminator : BeanUnion.discriminator info with
    | error fault => exact yields_throw
    | ok discriminator =>
      have hshape : survey.shape decl = (survey.beanCases decl).map (.union discriminator) := by
        simp only [shape, hform, hdiscriminator]
        rfl
      refine yields_defineUnion hclaimed hkind hfree hshape fun d => ?_
      refine yields_bind (P := fun subtypes after =>
        BeanUnion.subtypes survey.classes decl = .ok subtypes ∧ after = d)
        (yields_lift fun subtypes hsubtypes => ⟨hsubtypes, rfl⟩) ?_
      intro subtypes _ hpost
      obtain ⟨hsubtypes, rfl⟩ := hpost
      rw [beanCases, hsubtypes]
      exact yields_foldlM (fun cases union subtype d hcases =>
        yields_addSubtype h decl hcases subtype) (hasCases_empty _ _ _)
  | sealedUnion =>
    have hshape : survey.shape decl =
        (survey.permittedCases decl).map (.union Serialization.discriminator) := by
      simp only [shape, hform]
      rfl
    simp only [register, describeSealedUnion]
    exact yields_defineUnion hclaimed hkind hfree hshape fun d =>
      yields_foldlM
        (fun cases union subclass d hcases => yields_addPermitted h decl hcases subclass)
        (hasCases_empty _ _ d)

/-! ## Classes -/

section

variable (h : survey.Tells describe) {q : String} {d : Description}
  (hclaimed : survey.Claimed d q)

include h hclaimed

theorem yields_describeDefinition {decl : JavaClass} (hkind : survey.kind q = .defined decl) :
    Yields (survey.describeDefinition describe decl (survey.nameOf q)) d fun t after =>
      t = .reference (survey.nameOf q) ∧ survey.Tours [⟨q, d.followed⟩] d after := by
  cases hdefined : d.api.defines (survey.nameOf q) with
  | true =>
    refine .of_run_eq (pure (.reference (survey.nameOf q))) ?_
      (yields_pure ⟨rfl, tours_known_definition hclaimed hkind hdefined _⟩)
    simp [run_describeDefinition, hdefined]
  | false =>
    refine .of_run_eq (do
      survey.register describe decl (survey.nameOf q) decl.form
      pure (.reference (survey.nameOf q))) ?_ ?_
    · simp [run_describeDefinition, hdefined]
    · exact yields_bind (yields_register h hclaimed hkind hdefined) fun _ _ htour =>
        yields_pure ⟨rfl, htour⟩

theorem yields_describeValueClass {decl : JavaClass} {method : JavaMethod}
    (hkind : survey.kind q = .value decl method) :
    Yields (describeValueClass describe decl (survey.nameOf q) method) d fun t after =>
      t = .blackBox (survey.nameOf q) ∧ survey.Tours [⟨q, d.followed⟩] d after := by
  cases halias : d.api.aliases.contains (survey.nameOf q) with
  | true =>
    refine .of_run_eq (pure (.blackBox (survey.nameOf q))) ?_
      (yields_pure ⟨rfl, tours_known_alias hclaimed hkind halias _⟩)
    simp [run_describeValueClass, halias]
  | false =>
    refine .of_run_eq (do
      let target ← describe method.returnType (decl.methodEnvironment method)
      extend fun api => .ok (api.addAlias (survey.nameOf q) target)
      pure (.blackBox (survey.nameOf q))) ?_ ?_
    · simp [run_describeValueClass, halias]
    refine yields_bind (h _ _ d) ?_
    intro target between hpost
    obtain ⟨met, hread, htour⟩ := hpost
    refine yields_bind (yields_addAlias _ target) ?_
    intro _ _ hafter
    subst hafter
    refine yields_pure ⟨rfl, ?_⟩
    have hentry := entry_withAlias between (survey.nameOf q) target
    have hread' : survey.entryAt? ⟨q, d.followed⟩ = some ({ alias? := some target }, met) := by
      simp [entryAt?, hkind, hread]
    refine tours_alias hclaimed hkind halias hread' htour (changes_withAlias between _ target)
      (fun hnone => ?_) fun hsome => ?_
    · rw [hentry, hnone]
      rfl
    · obtain ⟨old, hold⟩ := Option.isSome_iff_exists.mp hsome
      rw [hentry, hold, Option.getD_some, ← hold]

/-- A class stands for itself, and it is met. -/
theorem yields_describeKind :
    Yields (survey.describeKind describe q (survey.kind q)) d fun t after =>
      t = survey.standIn q ∧ survey.Tours [⟨q, d.followed⟩] d after := by
  simp only [standIn]
  cases hkind : survey.kind q with
  | imported =>
    exact yields_pure ⟨rfl, tours_plain hclaimed (by simp [isValue, hkind]) (by simp [hkind])
      (fun _ => by simp [entryAt?, hkind]) (changes_refl _ d) id id⟩
  | unknown =>
    exact yields_pure ⟨rfl, tours_plain hclaimed (by simp [isValue, hkind]) (by simp [hkind])
      (fun _ => by simp [entryAt?, hkind]) (changes_refl _ d) id id⟩
  | blackBox =>
    refine yields_bind (yields_addBlackBox _) ?_
    intro _ _ hafter
    subst hafter
    refine yields_pure ⟨rfl, ?_⟩
    have hentry := entry_withBlackBox d (survey.nameOf q)
    have hread : ∀ followed, survey.entryAt? ⟨q, followed⟩ = some ({ isBlackBox := true }, []) :=
      fun _ => by simp [entryAt?, hkind]
    refine tours_plain hclaimed (by simp [isValue, hkind]) (by simp [hkind]) hread
      (changes_withBlackBox d _) (fun hnone => ?_) fun hsame => ?_
    · exact hentry.trans (by rw [hnone]; rfl)
    · exact hentry.trans (by rw [hsame])
  | value decl method => exact yields_describeValueClass h hclaimed hkind
  | defined decl => exact yields_describeDefinition h hclaimed hkind

end

theorem yields_describeClass (h : survey.Tells describe) (q : String) (d : Description) :
    Yields (survey.describeClass describe q) d fun t after =>
      t = survey.standIn q ∧ survey.Tours [⟨q, d.followed⟩] d after := by
  obtain ⟨e, he⟩ | ⟨between, hok, -⟩ := run_displayName_cases q d
  · intro t after hrun
    rw [describeClass, run_bind_of_error he] at hrun
    cases hrun
  · intro t after hrun
    rw [run_describeClass describe hok] at hrun
    obtain ⟨-, hclaimed, htour⟩ := yields_displayName q d _ _ hok
    obtain ⟨ht, htour'⟩ := yields_describeKind h hclaimed t after hrun
    rw [htour.aside.followed] at htour'
    exact ⟨ht, by simpa using htour.trans htour'⟩

/-! ## Types -/

theorem tells_describeName (h : survey.Tells describe) (name : String) (env : TypeEnvironment)
    (d : Description) :
    Yields (survey.describeName describe name) d fun t after =>
      ∃ met, survey.reading env d.followed (.basic name) = some (t, met) ∧
        survey.Tours met d after := by
  unfold describeName
  cases hbuiltin : survey.classes.builtin? name with
  | some t => exact yields_pure ⟨[], by simp [reading, hbuiltin], .refl d⟩
  | none =>
    refine (yields_describeClass h name d).imp ?_
    intro _ after hpost
    obtain ⟨rfl, htour⟩ := hpost
    exact ⟨_, by simp [reading, hbuiltin], htour⟩

theorem tours_following {name : String} {met : List Sighting} {d d' : Description}
    (h : survey.Tours met (d.withFollowed (name :: d.followed)) d') :
    survey.Tours met d (d'.withFollowed d'.followed.tail) := by
  refine ⟨⟨?_, h.aside.groups, h.aside.imports⟩, h.claimed, fun pending r hr => ?_⟩
  · show d'.followed.tail = d.followed
    rw [h.aside.followed]
    rfl
  · obtain ⟨r', hwalk, hmatch, hkeep⟩ :=
      h.walks pending r (hr.of_entries (fun _ => id) fun _ => rfl)
    exact ⟨r', hwalk, hmatch.of_entries (fun _ => id) fun _ => rfl, hkeep⟩

theorem tells_describeVariable (h : survey.Tells describe) (name : String)
    (env : TypeEnvironment) (d : Description) :
    Yields (describeVariable describe name env) d fun t after =>
      ∃ met, survey.reading env d.followed (.var name) = some (t, met) ∧
        survey.Tours met d after := by
  unfold describeVariable
  rw [reading_var]
  cases env.lookup name with
  | none => exact yields_pure ⟨[], rfl, .refl d⟩
  | some bound =>
    simp only
    by_cases hself : bound = .var name
    · simpa only [hself, if_true] using yields_throw
    · simp only [hself, if_false]
      refine .of_run_eq _ (run_bind_of_ok (run_get d) _) ?_
      by_cases hfollowed : name ∈ d.followed
      · simp only [List.contains_eq_mem, hfollowed, decide_true, if_true]
        exact yields_pure ⟨[], rfl, .refl d⟩
      · simp only [List.contains_eq_mem, hfollowed, decide_false, Bool.false_eq_true, if_false]
        refine yields_following ((h bound env _).imp ?_)
        intro t between hpost
        obtain ⟨met, hread, htour⟩ := hpost
        exact ⟨met, hread, tours_following htour⟩

theorem tells_describeAllWithin {types : List JavaType} {env : TypeEnvironment}
    (h : ∀ type ∈ types, ∀ d, Yields (survey.describeWithin describe type env) d fun t after =>
      ∃ met, survey.reading env d.followed type = some (t, met) ∧ survey.Tours met d after)
    (d : Description) :
    Yields (survey.describeAllWithin describe types env) d fun ts after =>
      ∃ met, survey.readingAll env d.followed types = some (ts, met) ∧
        survey.Tours met d after := by
  induction types generalizing d with
  | nil => exact yields_pure ⟨[], by simp [readingAll], .refl d⟩
  | cons type types ih =>
    refine yields_bind (h type (by simp) d) ?_
    intro t between hpost
    obtain ⟨met, hread, htour⟩ := hpost
    refine yields_bind (ih (fun type htype => h type (by simp [htype])) between) ?_
    intro ts after hpost
    obtain ⟨more, hreads, htour'⟩ := hpost
    rw [htour.aside.followed] at hreads
    exact yields_pure ⟨met ++ more, by simp [readingAll, hread, hreads], htour.trans htour'⟩

theorem tells_describeWithin (h : survey.Tells describe) :
    survey.Tells (survey.describeWithin describe) := by
  intro type env d
  induction type using JavaType.induct generalizing d with
  | basic name => exact tells_describeName h name env d
  | array element ih =>
    refine yields_bind (ih d) ?_
    intro t after hpost
    obtain ⟨met, hread, htour⟩ := hpost
    exact yields_pure ⟨met, by simp [reading, hread], htour⟩
  | parameterized base arguments ihBase ihArguments =>
    refine yields_bind (tells_describeAllWithin ihArguments d) ?_
    intro ts between hpost
    obtain ⟨met, hreads, htour⟩ := hpost
    cases hcontainer : survey.classes.container? base ts with
    | some t => exact yields_pure ⟨met, by simp [reading, hreads, hcontainer], htour⟩
    | none =>
      refine (ihBase between).imp ?_
      intro t after hpost
      obtain ⟨more, hread, htour'⟩ := hpost
      rw [htour.aside.followed] at hread
      exact ⟨met ++ more, by simp [reading, hreads, hcontainer, hread], htour.trans htour'⟩
  | var name => exact tells_describeVariable h name env d
  | wildcard upper lower ihUpper ihLower =>
    cases lower with
    | some lower => simpa only [reading, describeWithin] using ihLower lower rfl d
    | none =>
      cases upper with
      | some upper => simpa only [reading, describeWithin] using ihUpper upper rfl d
      | none => exact yields_pure ⟨[], by simp [reading], .refl d⟩
  | inner outer name _ => exact yields_throw

theorem tells_describeTo (depth : Nat) : survey.Tells (survey.describeTo depth) := by
  induction depth with
  | zero => exact fun _ _ _ => yields_throw
  | succ depth ih => exact tells_describeWithin ih

/-- A successful description of a type gives the reading of the type and meets its classes. -/
theorem tells_describe : survey.Tells survey.describe :=
  fun type env d => tells_describeTo _ type env d

/-! ## Types one after the other -/

/-- Classes without arguments as types to describe. -/
def rootCalls (roots : List String) : List (JavaType × TypeEnvironment) :=
  roots.map fun root => (.basic root, .empty)

theorem yields_describeRoot (root : String) (d : Description) :
    Yields (survey.describeRoot root) d fun _ after =>
      ∃ t met, survey.reading .empty d.followed (.basic root) = some (t, met) ∧
        survey.Tours met d after := by
  refine yields_bind (tells_describe _ _ d) ?_
  intro t between hpost
  obtain ⟨met, hread, htour⟩ := hpost
  have hdone : ∀ after, survey.Tours [] between after → ∃ t met,
      survey.reading .empty d.followed (.basic root) = some (t, met) ∧
        survey.Tours met d after := fun after htour' =>
    ⟨t, met, hread, by simpa using htour.trans htour'⟩
  cases t with
  | reference name =>
    refine .of_run_eq _ (run_bind_of_ok (run_api between) _) ?_
    split_ifs
    · exact yields_pure (hdone _ (.refl _))
    · exact (yields_report _ _).imp fun _ after htour' => hdone after htour'
  | _ => exact yields_pure (hdone _ (.refl _))

theorem yields_describeRoots {roots : List String} {d : Description} (hd : d.followed = []) :
    Yields (roots.forM survey.describeRoot) d fun _ after =>
      ∃ types met, survey.readCalls (rootCalls roots) = some (types, met) ∧
        survey.Tours met d after := by
  induction roots generalizing d with
  | nil => exact yields_pure ⟨[], [], rfl, .refl d⟩
  | cons root roots ih =>
    show Yields (survey.describeRoot root >>= fun _ => roots.forM survey.describeRoot) d _
    refine yields_bind (yields_describeRoot root d) ?_
    intro _ between hpost
    obtain ⟨t, met, hread, htour⟩ := hpost
    have hbetween : between.followed = [] := htour.aside.followed.trans hd
    refine (ih hbetween).imp ?_
    intro _ after hpost
    obtain ⟨ts, more, hreads, htour'⟩ := hpost
    refine ⟨t :: ts, met ++ more, ?_, htour.trans htour'⟩
    rw [hd] at hread
    simp only [rootCalls, readCalls] at hreads
    simp [rootCalls, readCalls, readEach, hread, hreads]

/-- A successful description of roots is a tour of them. -/
theorem exists_tour_of_roots {roots : List String} {d : Description}
    (hrun : Describing.run (roots.forM survey.describeRoot) .empty = (.ok (), d)) :
    ∃ r, survey.Tour (rootCalls roots) r ∧ survey.Matches [] r d ∧
      d.api.endpointGroups = [] ∧ d.api.imports = .empty := by
  obtain ⟨types, met, hread, htour⟩ := yields_describeRoots rfl () d hrun
  obtain ⟨r, hwalk, hmatch⟩ := htour.walk
  exact ⟨r, ⟨types, met, hread, hwalk⟩, hmatch, htour.aside.groups, htour.aside.imports⟩

end ApiSurface.Survey
