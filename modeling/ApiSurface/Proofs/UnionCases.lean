import ApiSurface.Proofs.Building
import ApiSurface.Proofs.UnionEntries

/-!
# Cases of unions

A union that is registered has one case for each loaded subtype, and no other: each value selects
the definition of its own subtype. Where a value comes again no union is registered, and the failure
names the first such value, if nothing failed before.
-/

namespace ApiSurface

namespace Survey

open Describing

/-- The definition has the display name of the class and the properties of its own members, read
under these variables. -/
structure CaseOf (survey : Survey) (decl : JavaClass) (followed : List String)
    (subclass : JavaClass) (definition : ClassDefinition) : Prop where
  name : definition.name = survey.nameOf subclass.name
  members : ∃ slots met, survey.caseSlots decl subclass = .ok slots ∧
    survey.readClass followed (survey.nameOf subclass.name) slots = some (definition, met)

/-- The cases are those of the entries, whose values are all different. -/
structure CasesOf (survey : Survey) (decl : JavaClass) (followed : List String)
    (entries : List (String × JavaClass)) (union : UnionDefinition) : Prop where
  nodup : (valuesOf entries).Nodup
  contains : ∀ value, union.cases.contains value = true ↔ value ∈ valuesOf entries
  cases : ∀ value subclass, (value, subclass) ∈ entries → ∃ definition,
    union.cases.get? value = some definition ∧ survey.CaseOf decl followed subclass definition

variable {survey : Survey} {describe : TypeDescriber} {decl : JavaClass} {q : String}
  {d : Description}

/-! ## Steps -/

section

variable {followed : List String} {entries : List (String × JavaClass)}
  {union after : UnionDefinition} {value : String} {subclass : JavaClass}
  {definition : ClassDefinition}

theorem casesOf_empty (name discriminator : String) :
    survey.CasesOf decl followed [] (.empty name discriminator) where
  nodup := .nil
  contains value := by simp [UnionDefinition.empty, valuesOf]
  cases value subclass h := nomatch h

theorem CasesOf.add (h : survey.CasesOf decl followed entries union)
    (hcase : survey.CaseOf decl followed subclass definition)
    (hadd : union.add value definition = .ok after) :
    survey.CasesOf decl followed (entries ++ [(value, subclass)]) after := by
  obtain ⟨hnew, rfl⟩ := UnionDefinition.add_eq_ok_iff.mp hadd
  have hfresh : value ∉ valuesOf entries := by
    rw [← h.contains, hnew]
    exact Bool.false_ne_true
  have hvalues : valuesOf (entries ++ [(value, subclass)]) = valuesOf entries ++ [value] := by
    simp [valuesOf]
  refine ⟨?_, fun v => ?_, fun v c hmem => ?_⟩
  · rw [hvalues]
    refine List.nodup_append.mpr ⟨h.nodup, by simp, fun v hv w hw => ?_⟩
    rw [List.mem_singleton.mp hw]
    rintro rfl
    exact hfresh hv
  · rw [hvalues]
    simp [h.contains, or_comm]
  · rcases List.mem_append.mp hmem with hmem | hmem
    · obtain ⟨old, hold, hcase⟩ := h.cases v c hmem
      have hv : v ∈ valuesOf entries := List.mem_map.mpr ⟨(v, c), hmem, rfl⟩
      have hne : v ≠ value := fun heq => hfresh (heq ▸ hv)
      exact ⟨old, by simpa [hne] using hold, hcase⟩
    · cases List.mem_singleton.mp hmem
      exact ⟨definition, by simp, hcase⟩

/-- The definition of a subtype is made of its own members. -/
theorem yields_describeCase (h : survey.Tells describe) (decl subclass : JavaClass) :
    Yields (survey.describeCase describe decl subclass) d fun c after =>
      after.followed = d.followed ∧ survey.CaseOf decl d.followed subclass c := by
  have hdefines : ∀ name, survey.Defines name (survey.caseSlots decl subclass)
      (survey.caseDefinition describe decl subclass name) := by
    intro name
    cases hform : decl.form <;> simp only [caseSlots, caseDefinition, hform]
    case beanUnion => exact defines_beanDefinition h subclass name
    all_goals exact defines_serializedDefinition h subclass name
  refine yields_bind (yields_displayName _ d) ?_
  intro _ between hpost
  obtain ⟨rfl, -, hclaim⟩ := hpost
  refine (hdefines _ between).imp ?_
  intro c after hpost
  obtain ⟨slots, hslots, met, hread, htour⟩ := hpost
  rw [hclaim.aside.followed] at hread
  refine ⟨htour.aside.followed.trans hclaim.aside.followed, ?_, slots, met, hslots, hread⟩
  obtain ⟨_, -, rfl⟩ := readClass_eq_some_iff.mp hread
  rfl

/-- A step adds the case of its entry, if this is loaded. -/
theorem yields_addEntry (h : survey.Tells describe)
    (hcases : survey.CasesOf decl d.followed entries union) (e : UnionEntry) :
    Yields (survey.addEntry describe decl union e) d fun u after =>
      after.followed = d.followed ∧ u.name = union.name ∧
        u.discriminator = union.discriminator ∧
        survey.CasesOf decl d.followed (entries ++ e.loaded.toList) u := by
  unfold addEntry UnionEntry.loaded
  cases e.class? with
  | none =>
    refine yields_bind (@yields_report survey e.missing d) ?_
    intro _ after htour
    exact yields_pure ⟨htour.aside.followed, rfl, rfl, by simpa using hcases⟩
  | some subclass =>
    refine yields_bind (yields_describeCase h decl subclass) ?_
    intro c after hpost
    obtain ⟨hfollowed, hcase⟩ := hpost
    refine yields_lift fun u hu => ⟨hfollowed, ?_⟩
    have hadded := hcases.add hcase hu
    obtain ⟨-, rfl⟩ := UnionDefinition.add_eq_ok_iff.mp hu
    exact ⟨rfl, rfl, by simpa using hadded⟩

/-- Behind the loop the union has the cases of the loaded entries. -/
theorem yields_addEntries (h : survey.Tells describe)
    (hcases : survey.CasesOf decl d.followed entries union) (more : List UnionEntry) :
    Yields (more.foldlM (survey.addEntry describe decl) union) d fun u after =>
      after.followed = d.followed ∧ u.name = union.name ∧
        u.discriminator = union.discriminator ∧
        survey.CasesOf decl d.followed (entries ++ loadedAmong more) u := by
  induction more generalizing entries union d with
  | nil => exact yields_pure ⟨rfl, rfl, rfl, by simpa [loadedAmong] using hcases⟩
  | cons e more ih =>
    rw [List.foldlM_cons]
    refine yields_bind (yields_addEntry h hcases e) ?_
    intro u between hpost
    obtain ⟨hfollowed, hname, hdiscriminator, hcases⟩ := hpost
    rw [← hfollowed] at hcases
    refine (ih hcases).imp ?_
    intro u' after hpost
    obtain ⟨hfollowed', hname', hdiscriminator', hcases'⟩ := hpost
    rw [hfollowed] at hcases'
    refine ⟨hfollowed'.trans hfollowed, hname'.trans hname,
      hdiscriminator'.trans hdiscriminator, ?_⟩
    have hloaded : loadedAmong (e :: more) = e.loaded.toList ++ loadedAmong more := by
      cases hload : e.loaded <;> simp [loadedAmong, hload]
    rwa [hloaded, ← List.append_assoc]

end

/-! ## Failures -/

section

variable {union : UnionDefinition} {h : Halt} {last : Description}

/-- A step fails at a loaded entry, which cannot be described, or whose value is there already. -/
theorem failure_of_addEntry {e : UnionEntry}
    (hrun : run (survey.addEntry describe decl union e) d = (.error h, last)) :
    ∃ subclass, e.class? = some subclass ∧
      (run (survey.describeCase describe decl subclass) d = (.error h, last) ∨
        union.cases.contains e.value = true ∧
          h = .failed (.duplicateUnionCase union.name e.value)) := by
  unfold addEntry at hrun
  cases hclass : e.class? with
  | none =>
    simp only [hclass] at hrun
    cases hrun
  | some subclass =>
    simp only [hclass] at hrun
    refine ⟨subclass, rfl, ?_⟩
    rw [run_bind] at hrun
    rcases hcase : run (survey.describeCase describe decl subclass) d with ⟨e' | c, between⟩
    · simp only [hcase] at hrun
      cases hrun
      exact .inl rfl
    · simp only [hcase] at hrun
      cases htaken : union.cases.contains e.value with
      | false =>
        rw [UnionDefinition.add_eq_ok_iff.mpr ⟨htaken, rfl⟩] at hrun
        cases hrun
      | true =>
        have hadd : union.add e.value c = .error (.duplicateUnionCase union.name e.value) :=
          if_pos htaken
        rw [hadd] at hrun
        cases hrun
        exact .inr ⟨rfl, rfl⟩

/-- A loop that fails fails at one entry, behind others that were added. -/
theorem failure_of_addEntries {entries : List UnionEntry}
    (hrun : run (entries.foldlM (survey.addEntry describe decl) union) d = (.error h, last)) :
    ∃ front e back u between subclass, entries = front ++ e :: back ∧
      run (front.foldlM (survey.addEntry describe decl) union) d = (.ok u, between) ∧
      e.class? = some subclass ∧
      (run (survey.describeCase describe decl subclass) between = (.error h, last) ∨
        u.cases.contains e.value = true ∧
          h = .failed (.duplicateUnionCase u.name e.value)) := by
  induction entries generalizing union d with
  | nil => cases hrun
  | cons e entries ih =>
    rw [List.foldlM_cons, run_bind] at hrun
    rcases hstep : run (survey.addEntry describe decl union e) d with ⟨e' | u, between⟩
    · rw [hstep] at hrun
      cases hrun
      obtain ⟨subclass, hclass, hfail⟩ := failure_of_addEntry hstep
      exact ⟨[], e, entries, union, d, subclass, rfl, rfl, hclass, hfail⟩
    · rw [hstep] at hrun
      obtain ⟨front, e', back, u', between', subclass, rfl, hfront, hfail⟩ := ih hrun
      refine ⟨e :: front, e', back, u', between', subclass, rfl, ?_, hfail⟩
      rw [List.foldlM_cons, run_bind_of_ok hstep, hfront]

end

/-- What can end the description of a union before a value comes again: the limit of depth, the name
of the class, what it says about the union, or an entry that cannot be described, behind entries of
different values that were. -/
inductive FailsBefore (survey : Survey) (q : String) (decl : JavaClass) (d : Description) :
    Nat → Halt → Prop where
  | endless : FailsBefore survey q decl d 0 .endless
  | name {depth : Nat} {h : Halt} {last : Description} :
      run (survey.displayName q) d = (.error h, last) → FailsBefore survey q decl d (depth + 1) h
  | discriminator {depth : Nat} {e : SurfaceError} :
      unionDiscriminator decl = .error e → FailsBefore survey q decl d (depth + 1) (.failed e)
  | entries {depth : Nat} {e : SurfaceError} :
      survey.unionEntries decl = .error e → FailsBefore survey q decl d (depth + 1) (.failed e)
  | entry {depth : Nat} {h : Halt} {property : String} {front back : List UnionEntry}
      {e : UnionEntry} {subclass : JavaClass} {claimed between last : Description}
      {union : UnionDefinition} :
      run (survey.displayName q) d = (.ok (survey.nameOf q), claimed) →
      unionDiscriminator decl = .ok property →
      survey.unionEntries decl = .ok (front ++ e :: back) →
      (valuesOf (loadedAmong front)).Nodup → e.class? = some subclass →
      run (front.foldlM (survey.addEntry (survey.describeTo depth) decl)
        (.empty (survey.nameOf q) property))
          (claimed.withUnion (.empty (survey.nameOf q) property)) = (.ok union, between) →
      run (survey.describeCase (survey.describeTo depth) decl subclass) between =
        (.error h, last) →
      FailsBefore survey q decl d (depth + 1) h

/-! ## Registration -/

/-- What is registered as a union has the cases of the loaded subtypes. -/
theorem yields_register_union (h : survey.Tells describe) (hform : decl.form.isUnion = true)
    (name : String) :
    Yields (survey.register describe decl name decl.form) d fun _ after => ∃ union,
      after.api.unions.get? name = some union ∧ union.name = name ∧
        unionDiscriminator decl = .ok union.discriminator ∧
        survey.CasesOf decl d.followed (survey.loadedEntries decl) union := by
  rw [register_union hform]
  refine yields_bind (P := fun property after =>
    unionDiscriminator decl = .ok property ∧ d = after)
    (yields_lift fun property hproperty => ⟨hproperty, rfl⟩) ?_
  intro property _ hpost
  obtain ⟨hproperty, rfl⟩ := hpost
  refine yields_bind (yields_addUnion _) ?_
  intro _ opened hopened
  have hfollowed : opened.followed = d.followed := by
    rw [hopened]
    rfl
  have hfill : Yields (do
      let entries ← lift (survey.unionEntries decl)
      entries.foldlM (survey.addEntry describe decl) (.empty name property)) opened
        fun u _ => u.name = name ∧ u.discriminator = property ∧
          survey.CasesOf decl d.followed (survey.loadedEntries decl) u := by
    refine yields_bind (P := fun entries after =>
      survey.unionEntries decl = .ok entries ∧ opened = after)
      (yields_lift fun entries hentries => ⟨hentries, rfl⟩) ?_
    intro entries _ hpost
    obtain ⟨hentries, rfl⟩ := hpost
    refine (yields_addEntries h (casesOf_empty name property) entries).imp ?_
    intro u after hpost
    obtain ⟨-, hname, hdiscriminator, hcases⟩ := hpost
    rw [List.nil_append, loadedAmong_unionEntries hform hentries, hfollowed] at hcases
    exact ⟨hname, hdiscriminator, hcases⟩
  refine yields_bind hfill ?_
  intro u between hpost
  obtain ⟨hname, rfl, hcases⟩ := hpost
  refine (yields_completeUnion u).imp ?_
  intro _ _ hafter
  subst hafter
  exact ⟨u, by simp [Description.withUnion, hname], hname, hproperty, hcases⟩

/-- Under a name that is defined no union is added. -/
theorem Builds.unions_of_defines {d' : Description} (h : survey.Builds d d') {name : String}
    (hname : d.api.defines name = true) :
    d'.api.unions.contains name = d.api.unions.contains name := by
  induction h with
  | andThen h _ ih ih' => exact (ih' (h.keeps.defines hname)).trans (ih hname)
  | follow _ _ ih => exact ih hname
  | @fillClass d d' c hfree _ _ ih =>
    have hopen : Keeps d (d.withClass (.empty c.name)) := (Keeps.refl d).withClass hfree
    exact ih (hopen.defines hname)
  | @openUnion d opened property hfree =>
    have hne : name ≠ opened := by
      rintro rfl
      rw [hfree] at hname
      cases hname
    simp [Description.withUnion, UnionDefinition.empty, hne]
  | @fillUnion d d' u property hfree _ _ ih =>
    have hopen : Keeps d (d.withUnion (.empty u.name property)) := (Keeps.refl d).withUnion hfree
    have hne : name ≠ u.name := by
      rintro rfl
      rw [hfree] at hname
      cases hname
    have hsame := ih (hopen.defines hname)
    simpa [Description.withUnion, UnionDefinition.empty, hne] using hsame
  | _ => rfl

/-- A class that is not described as a union does not become one. -/
theorem unions_of_register (depth : Nat) (hform : decl.form.isUnion = false) {name : String}
    (hfree : d.api.defines name = false) :
    Yields (survey.register (survey.describeTo depth) decl name decl.form) d fun _ after =>
      after.api.unions.contains name = false := by
  have hunions : d.api.unions.contains name = false := (ApiDefinition.of_not_defines hfree).2.2
  have hlawful : (building survey).Describes (survey.describeTo depth) :=
    Law.describes_describeTo depth
  have hdefine : ∀ definition : Describing ClassDefinition,
      (∀ d, survey.Builds d (run definition d).2) →
      Yields (define name definition) d fun _ after => after.api.unions.contains name = false := by
    intro definition hbuilds
    refine yields_bind (yields_addClass _) ?_
    intro _ opened hopened
    subst hopened
    refine yields_bind (P := fun _ after => after.api.unions.contains name = false) ?_ ?_
    · intro c after hrun
      have hopened : (d.withClass (.empty name)).api.defines name = true := by
        simp [Description.withClass, ApiDefinition.defines, ClassDefinition.empty]
      have hkept := (hbuilds (d.withClass (.empty name))).unions_of_defines hopened
      rw [hrun] at hkept
      exact hkept.trans hunions
    · intro c between hbetween
      refine (yields_completeClass c).imp ?_
      intro _ _ hafter
      subst hafter
      exact hbetween
  cases hkind : decl.form with
  | enum =>
    refine (yields_addEnum _).imp ?_
    intro _ _ hafter
    subst hafter
    exact hunions
  | bean => exact hdefine _ fun d => (Law.leads_beanDefinition hlawful decl name d trivial).2.1
  | serialized =>
    exact hdefine _ fun d => (Law.leads_serializedDefinition hlawful decl name d trivial).2.1
  | beanUnion info => simp [hkind, DefinitionForm.isUnion] at hform
  | sealedUnion => simp [hkind, DefinitionForm.isUnion] at hform

/-- What ends the description of a union whose entries have the same value twice. -/
theorem failure_of_union {depth : Nat} {env : TypeEnvironment}
    (hfree : d.api.defines (survey.nameOf q) = false)
    (hbuiltin : survey.classes.builtin? q = none) (hkind : survey.kind q = .defined decl)
    (hform : decl.form.isUnion = true)
    (htwice : ¬ (valuesOf (survey.loadedEntries decl)).Nodup) :
    ∃ h last, run (survey.describeTo depth (.basic q) env) d = (.error h, last) ∧
      (survey.FailsBefore q decl d depth h ∨
        ∃ value, FirstRepeated (valuesOf (survey.loadedEntries decl)) value ∧
          h = .failed (.duplicateUnionCase (survey.nameOf q) value)) := by
  cases depth with
  | zero => exact ⟨.endless, d, rfl, .inl .endless⟩
  | succ depth =>
    obtain ⟨e, he⟩ | ⟨claimed, hname, -, -⟩ := @run_displayName_cases survey q d
    · refine ⟨e, d, ?_, .inl (.name he)⟩
      show run (survey.describeName (survey.describeTo depth) q) d = _
      simp only [describeName, hbuiltin]
      rw [describeClass, run_bind_of_error he]
    have hfree' : claimed.api.defines (survey.nameOf q) = false := by
      rw [(api_of_displayName hname).1, hfree]
    rw [run_describeTo_defined hbuiltin hname hkind hfree', register_union hform]
    cases hproperty : unionDiscriminator decl with
    | error e => exact ⟨_, claimed, rfl, .inl (.discriminator hproperty)⟩
    | ok property =>
      have hadd : run (extend (·.addUnion (.empty (survey.nameOf q) property))) claimed =
          (.ok (), claimed.withUnion (.empty (survey.nameOf q) property)) :=
        run_extend_eq_ok_iff.mpr ⟨_, ApiDefinition.addUnion_eq_ok_iff.mpr ⟨hfree', rfl⟩, rfl⟩
      rw [lift_ok_bind, defineUnion, bind_assoc, run_bind_of_ok hadd]
      cases hentries : survey.unionEntries decl with
      | error e => exact ⟨_, _, rfl, .inl (.entries hentries)⟩
      | ok entries =>
        rw [lift_ok_bind, bind_assoc]
        have hloaded := loadedAmong_unionEntries hform hentries
        rcases hloop : run (entries.foldlM (survey.addEntry (survey.describeTo depth) decl)
          (.empty (survey.nameOf q) property))
            (claimed.withUnion (.empty (survey.nameOf q) property)) with ⟨h | u, last⟩
        · refine ⟨h, last, by rw [run_bind_of_error hloop], ?_⟩
          obtain ⟨front, e, back, u, between, subclass, rfl, hfront, hclass, hfail⟩ :=
            failure_of_addEntries hloop
          obtain ⟨-, hnamed, -, hcases⟩ := yields_addEntries (tells_describeTo depth)
            (casesOf_empty _ _) front u between hfront
          rw [List.nil_append] at hcases
          obtain hfail | ⟨htaken, rfl⟩ := hfail
          · exact .inl (.entry hname hproperty hentries hcases.nodup hclass hfront hfail)
          · refine .inr ⟨e.value, ⟨_, valuesOf (loadedAmong back), ?_, hcases.nodup,
              (hcases.contains _).mp htaken⟩, by rw [hnamed]; rfl⟩
            rw [← hloaded]
            simp [loadedAmong, valuesOf, UnionEntry.loaded, hclass]
        · obtain ⟨-, -, -, hcases⟩ := yields_addEntries (tells_describeTo depth)
            (casesOf_empty _ _) entries u last hloop
          rw [List.nil_append, hloaded] at hcases
          exact absurd hcases.nodup htwice

/-- If the description of a class registers a union, then this has exactly one case for each loaded
subtype, selected by the value of the subtype and made of this subtype alone, and the values are
all different. If two of them are the same then the description fails, with the first value that
comes again unless it fails before. -/
theorem union_cases (survey : Survey) {q : String} {depth : Nat} {env : TypeEnvironment}
    {d : Description} (hfree : d.api.defines (survey.nameOf q) = false) :
    (∀ t after union, run (survey.describeTo depth (.basic q) env) d = (.ok t, after) →
      after.api.unions.get? (survey.nameOf q) = some union →
      ∃ decl, survey.classes.class? q = some decl ∧ decl.form.isUnion = true ∧
        union.name = survey.nameOf q ∧
        unionDiscriminator decl = .ok union.discriminator ∧
        survey.CasesOf decl d.followed (survey.loadedEntries decl) union) ∧
    (∀ decl, survey.classes.builtin? q = none → survey.kind q = .defined decl →
      decl.form.isUnion = true → ¬ (valuesOf (survey.loadedEntries decl)).Nodup →
      ∃ h last, run (survey.describeTo depth (.basic q) env) d = (.error h, last) ∧
        (survey.FailsBefore q decl d depth h ∨
          ∃ value, FirstRepeated (valuesOf (survey.loadedEntries decl)) value ∧
            h = .failed (.duplicateUnionCase (survey.nameOf q) value))) := by
  refine ⟨fun t after union hrun hunion => ?_, fun decl hbuiltin hkind hform htwice => ?_⟩
  · have hcontains : after.api.unions.contains (survey.nameOf q) = true := by
      simp [NameMap.contains, hunion]
    obtain ⟨decl, inner, between, hkind, hname, hregister⟩ :=
      exists_registration hrun hfree (by simp [ApiDefinition.defines, hcontains])
    have hfree' : between.api.defines (survey.nameOf q) = false := by
      rw [(api_of_displayName hname).1, hfree]
    cases hform : decl.form.isUnion with
    | false =>
      have hnone := unions_of_register inner hform hfree' () after hregister
      cases hcontains.symm.trans hnone
    | true =>
      obtain ⟨union', hunion', hnamed, hdiscriminator, hcases⟩ :=
        yields_register_union (tells_describeTo inner) hform _ () after hregister
      obtain rfl := Option.some.inj (hunion.symm.trans hunion')
      rw [(api_of_displayName hname).2] at hcases
      exact ⟨decl, class?_of_kind_defined hkind, hform, hnamed, hdiscriminator, hcases⟩
  · exact failure_of_union hfree hbuiltin hkind hform htwice

/-- An entry of a list of subtypes. -/
def listedSubtype (type : String) (attributes : List (String × AnnotationValue)) :
    AnnotationValue :=
  .nested (.mk "com.fasterxml.jackson.annotation.JsonSubTypes.Type"
    (("value", .classType (.basic type)) :: attributes))

/-- A class with listed subtypes, told apart by their kind, and the subtypes. -/
def shapes (entries : List AnnotationValue) (subtypes : List JavaClass) : Survey :=
  let root := JavaClass.ofFields "Shape" .empty .object []
  ⟨.ofClasses ({ root with annotations := [
      .mk BeanUnion.typeInfo [("use", .enum (.basic "Id") "NAME"), ("property", .string "kind")],
      .mk BeanUnion.subTypes [("value", .array entries)]] } :: subtypes), .empty⟩

/-- Two subtypes, of which one refers back to the union and one to the other, and a third that is
not loaded. -/
def linkedShapes : Survey :=
  shapes [listedSubtype "Circle" [("name", .string "circle")], listedSubtype "Square" [],
      listedSubtype "Line" [("name", .string "line")]]
    [.ofFields "Circle" .empty .object [("parent", .basic "Shape")],
      { JavaClass.ofFields "Square" .empty .object [("inside", .basic "Circle")] with
        annotations := [.mk BeanUnion.typeName [("value", .string "square")]] }]

theorem union_cases_linked :
    ∃ after union decl, run (linkedShapes.describe (.basic "Shape") .empty) .empty =
        (.ok (.reference "Shape"), after) ∧
      after.api.unions.get? "Shape" = some union ∧ union.cases.keys = ["circle", "square"] ∧
      linkedShapes.classes.class? "Shape" = some decl ∧
      linkedShapes.CasesOf decl [] (linkedShapes.loadedEntries decl) union := by
  let act := linkedShapes.describe (.basic "Shape") .empty
  have hrun : run act .empty = (.ok (.reference "Shape"), (run act .empty).2) :=
    run_eq_of_fst (by decide +kernel)
  have hkeys : ((run act .empty).2.api.unions.get? "Shape").map (·.cases.keys) =
      some ["circle", "square"] := by decide +kernel
  obtain ⟨union, hunion, hkeys⟩ := Option.map_eq_some_iff.mp hkeys
  obtain ⟨hregistered, -⟩ := union_cases linkedShapes (d := .empty) (q := "Shape") rfl
  obtain ⟨decl, hdecl, -, -, -, hcases⟩ := hregistered _ _ union hrun hunion
  exact ⟨_, union, decl, hrun, hunion, hkeys, hdecl, hcases⟩

/-- Two loaded subtypes have the same value. The description fails for another reason, since a
later subtype has no name. -/
theorem repeated_value_behind_failure :
    ∃ (survey : Survey) (decl : JavaClass), survey.classes.class? "Shape" = some decl ∧
      decl.form.isUnion = true ∧
      valuesOf (survey.loadedEntries decl) = ["x", "x"] ∧
      (run (survey.describe (.basic "Shape") .empty) .empty).1 =
        .error (.failed (.missingSubtypeName "Shape" "Line")) ∧
      ∀ value, (run (survey.describe (.basic "Shape") .empty) .empty).1 ≠
        .error (.failed (.duplicateUnionCase "Shape" value)) := by
  let survey := shapes [listedSubtype "Circle" [("name", .string "x")],
      listedSubtype "Square" [("name", .string "x")], listedSubtype "Line" []]
    [.ofFields "Circle" .empty .object [], .ofFields "Square" .empty .object [],
      .ofFields "Line" .empty .object []]
  have hfailed : (run (survey.describe (.basic "Shape") .empty) .empty).1 =
      .error (.failed (.missingSubtypeName "Shape" "Line")) := by decide +kernel
  refine ⟨survey, _, rfl, by decide +kernel, by decide +kernel, hfailed, fun value => ?_⟩
  rw [hfailed]
  nofun

end Survey

end ApiSurface
