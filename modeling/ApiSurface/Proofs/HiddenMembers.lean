import ApiSurface.Proofs.HiddenProperties
import ApiSurface.Proofs.Inlining

/-!
# Traces of hidden members

A member whose property is hidden is no property itself. But whether a member is unwrapped is asked
first, so a hidden member that is unwrapped stands for the members of its class all the same. A
definition is the same without the hidden members exactly if what these stand for comes second to
what the others do, or agrees with it.
-/

namespace ApiSurface

open Describing

/-! ## Hierarchies without members -/

namespace JavaClass

/-- The class without its record components, getters and public fields of instances for some
properties. -/
def without (decl : JavaClass) (properties : List String) : JavaClass :=
  { decl with
    recordComponents := decl.recordComponents.filter fun r => !properties.contains r.name
    methods := decl.methods.filter fun m =>
      !(m.access.isPublic && m.isGetter && m.propertyName.any properties.contains)
    fields := decl.fields.filter fun f =>
      !(f.access.isPublic && !f.access.isStatic && properties.contains f.name) }

variable (decl : JavaClass) (properties : List String)

theorem getters_without : (decl.without properties).getters =
    decl.getters.filter fun m => !m.propertyName.any properties.contains := by
  simp only [getters, publicMethods, without, List.filter_filter]
  refine List.filter_congr fun m _ => ?_
  cases m.access.isPublic <;> cases m.isGetter <;> simp

theorem publicInstanceFields_without : (decl.without properties).publicInstanceFields =
    decl.publicInstanceFields.filter fun f => !properties.contains f.name := by
  simp only [publicInstanceFields, without, List.filter_filter]
  refine List.filter_congr fun f _ => ?_
  cases f.access.isPublic <;> cases f.access.isStatic <;> simp

theorem recordComponents_without : (decl.without properties).recordComponents =
    decl.recordComponents.filter fun r => !properties.contains r.name := rfl

theorem field?_without {property : String} (h : property ∉ properties) :
    (decl.without properties).field? property = decl.field? property := by
  simp only [field?, without, List.find?_filter]
  congr 1
  funext f
  by_cases hname : f.name = property
  · subst hname
    simp [h]
  · simp [hname]

theorem beanMembers_without : (decl.without properties).beanMembers =
    decl.beanMembers.filter fun m => !properties.contains m.name := by
  have hcomponents : (decl.without properties).componentMembers =
      decl.componentMembers.filter fun m => !properties.contains m.name := by
    simp only [componentMembers, without, List.filter_map]
    rfl
  have hfields : (decl.without properties).fieldMembers =
      decl.fieldMembers.filter fun m => !properties.contains m.name := by
    simp only [fieldMembers, publicInstanceFields_without, List.filter_map]
    rfl
  have hgetters : (decl.without properties).getterMembers =
      decl.getterMembers.filter fun m => !properties.contains m.name := by
    simp only [getterMembers, getters_without, List.filterMap_filter, List.filter_filterMap]
    refine List.filterMap_congr fun m _ => ?_
    cases hname : m.propertyName with
    | none => simp
    | some name => by_cases hmem : name ∈ properties <;> simp [hmem, Option.filter]
  simp only [beanMembers, hcomponents, hgetters, hfields, List.filter_append]

end JavaClass

namespace Visibility

variable (properties : List String)

theorem filter_ofStatement (property : String) (explicit : Option Bool) (transient : Bool) :
    (ofStatement property explicit transient).filter (fun v => !properties.contains v.property) =
      if !properties.contains property then ofStatement property explicit transient else none := by
  cases hstatement : ofStatement property explicit transient with
  | none => simp
  | some v =>
    obtain ⟨hproperty, -⟩ := ofStatement_eq_some_iff.mp hstatement
    simp [Option.filter, hproperty]

theorem ofGetter_without (decl : JavaClass) (m : JavaMethod) :
    (ofGetter decl m).filter (fun v => !properties.contains v.property) =
      if !m.propertyName.any properties.contains then ofGetter (decl.without properties) m
      else none := by
  simp only [ofGetter]
  cases m.propertyName with
  | none => simp
  | some property =>
    simp only [Option.bind_eq_bind, Option.bind_some, filter_ofStatement, Option.any_some]
    by_cases hmem : property ∈ properties
    · simp [hmem]
    · simp only [decl.field?_without properties hmem]

/-- Without members for some properties a class says nothing about these, and the same about
others. -/
theorem ofClass_without (decl : JavaClass) :
    ofClass (decl.without properties) =
      (ofClass decl).filter fun v => !properties.contains v.property := by
  have hcomponents : ∀ r, (ofComponent r).filter (fun v => !properties.contains v.property) =
      if !properties.contains r.name then ofComponent r else none := fun r =>
    filter_ofStatement properties ..
  have hfields : ∀ f, (ofField f).filter (fun v => !properties.contains v.property) =
      if !properties.contains f.name then ofField f else none := fun f =>
    filter_ofStatement properties ..
  simp only [ofClass, decl.recordComponents_without, decl.getters_without,
    decl.publicInstanceFields_without, List.filter_append, List.filter_filterMap,
    List.filterMap_filter, hcomponents, hfields, ofGetter_without]

end Visibility

/-- A level without its members for some properties. -/
def BoundClass.without (properties : List String) (bound : BoundClass) : BoundClass :=
  { bound with decl := bound.decl.without properties }

theorem hierarchyMembers_without (properties : List String) (levels : List BoundClass) :
    hierarchyMembers (levels.map (BoundClass.without properties)) =
      (hierarchyMembers levels).filter fun m => !properties.contains m.2.name := by
  simp only [hierarchyMembers, List.flatMap_map, List.filter_flatMap, BoundClass.without,
    JavaClass.beanMembers_without, List.filter_map]
  rfl

/-- What is hidden without some members is hidden with them. -/
theorem mem_hiddenProperties_without {properties : List String} {levels : List BoundClass}
    {property : String} :
    property ∈ hiddenProperties (levels.map (BoundClass.without properties)) ↔
      property ∉ properties ∧ property ∈ hiddenProperties levels := by
  have hstatements : ((levels.map (BoundClass.without properties)).reverse.flatMap fun level =>
      Visibility.ofClass level.decl) = (levels.reverse.flatMap fun level =>
        Visibility.ofClass level.decl).filter fun v => !properties.contains v.property := by
    simp only [← List.map_reverse, List.flatMap_map, List.filter_flatMap, BoundClass.without,
      Visibility.ofClass_without]
  rw [hiddenProperties, hiddenProperties, hstatements, mem_foldl_apply_iff, mem_foldl_apply_iff,
    ← List.filter_reverse, List.find?_filter]
  generalize (levels.reverse.flatMap _).reverse = statements
  by_cases hmem : property ∈ properties
  · simp only [hmem, not_true, false_and, iff_false, not_exists, not_and]
    intro v hv
    have hfound := List.find?_some hv
    obtain ⟨hkept, hproperty⟩ := of_decide_eq_true hfound
    rw [beq_iff_eq.mp hproperty] at hkept
    simp [hmem] at hkept
  · have hsame : ∀ v : Visibility, decide ((!properties.contains v.property) = true ∧
        (v.property == property) = true) = (v.property == property) := by
      intro v
      by_cases hproperty : v.property = property
      · simp [hproperty, hmem]
      · simp [hproperty]
    simp only [hmem, not_false_eq_true, true_and, hsame]

/-- The levels without the members whose properties are hidden. -/
def visibleLevels (levels : List BoundClass) : List BoundClass :=
  levels.map (BoundClass.without (hiddenProperties levels))

theorem hiddenProperties_visibleLevels (levels : List BoundClass) :
    hiddenProperties (visibleLevels levels) = [] :=
  List.eq_nil_iff_forall_not_mem.mpr fun _ h =>
    have ⟨hvisible, hhidden⟩ := mem_hiddenProperties_without.mp h
    hvisible hhidden

/-! ## What the other members stand for -/

theorem InlinedMember.first?_filter {name : InlinedMember → String} {inlined : List InlinedMember}
    {property : String} {m : InlinedMember} {keeps : InlinedMember → Bool}
    (h : first? name inlined property = some m) (hm : keeps m = true) :
    first? name (inlined.filter keeps) property = some m := by
  obtain ⟨hfirst, front, back, rfl, hfront⟩ := List.find?_eq_some_iff_append.mp h
  rw [first?, List.filter_append, List.filter_cons_of_pos hm, List.find?_eq_some_iff_append]
  exact ⟨hfirst, _, _, rfl, fun a ha => hfront a (List.mem_filter.mp ha).1⟩

namespace Survey

variable {survey : Survey} {describe : TypeDescriber}

/-- Of some of the inlined members a name gets the same type as of all, unless the first of all is
left out and the first one that is left has another type. -/
theorem firstType_filter_eq_iff {followed : List String} {name : InlinedMember → String}
    {inlined : List InlinedMember} {property : String} {keeps : InlinedMember → Bool} :
    survey.firstType followed name (inlined.filter keeps) property =
        survey.firstType followed name inlined property ↔
      ∀ m, InlinedMember.first? name inlined property = some m → keeps m = false →
        survey.firstType followed name (inlined.filter keeps) property =
          survey.inlinedType followed m := by
  constructor
  · intro h m hm _
    rw [h, firstType, hm, Option.bind_some]
  · intro h
    cases hfirst : InlinedMember.first? name inlined property with
    | none =>
      have hall := List.find?_eq_none.mp hfirst
      have hnone : InlinedMember.first? name (inlined.filter keeps) property = none :=
        List.find?_eq_none.mpr fun m hm => hall m (List.mem_filter.mp hm).1
      rw [firstType, firstType, hfirst, hnone]
    | some m =>
      cases hm : keeps m with
      | true => rw [firstType, firstType, hfirst, InlinedMember.first?_filter hfirst hm]
      | false => rw [h m hfirst hm, firstType, hfirst, Option.bind_some]

/-- What the items that are left stand for is what is left of all that the items stand for. -/
theorem mapM_filter {α γ : Type} {l : List α} {g g' : α → Except Halt (List γ)} {p : α → Bool}
    {q : γ → Bool} {parts : List (List γ)} (hparts : l.mapM g = .ok parts)
    (hsame : ∀ a, p a = true → g' a = g a)
    (hmember : ∀ a part, g a = .ok part → ∀ c ∈ part, q c = p a) :
    ((l.filter p).mapM g').map List.flatten = .ok (parts.flatten.filter q) := by
  induction l generalizing parts with
  | nil =>
    cases hparts
    rfl
  | cons a l ih =>
    obtain ⟨part, rest, hpart, hrest, rfl⟩ := mapM_cons_eq_ok hparts
    have hih := ih hrest
    rw [List.flatten_cons, List.filter_append]
    cases hp : p a with
    | true =>
      have hall : part.filter q = part :=
        List.filter_eq_self.mpr fun c hc => (hmember a part hpart c hc).trans hp
      rw [List.filter_cons_of_pos hp, List.mapM_cons, hsame a hp, hpart, hall]
      cases hkept : (l.filter p).mapM g' with
      | error halt =>
        rw [hkept] at hih
        cases hih
      | ok kept =>
        rw [hkept] at hih
        show Except.ok (part ++ kept.flatten) = _
        rw [Except.ok.inj hih]
    | false =>
      have hnone : part.filter q = [] := List.filter_eq_nil_iff.mpr fun c hc => by
        rw [hmember a part hpart c hc, hp]
        exact Bool.false_ne_true
      rw [List.filter_cons_of_neg (by simp [hp]), hnone, List.nil_append, hih]

theorem origin_of_inlinedBy {inner : BoundClass → Except Halt (List InlinedMember)}
    {hidden : List String} {m : TypeEnvironment × BeanMember} {part : List InlinedMember}
    (h : survey.inlinedBy inner hidden m = .ok part) : ∀ i ∈ part, i.origin = m.2.name := by
  obtain ⟨-, rfl⟩ | ⟨unwrapping, -, ⟨-, rfl⟩ | ⟨target, inlined, -, -, rfl⟩⟩ := inlinedBy_cases h
  · split_ifs <;> simp
  · simp
  · simp [InlinedMember.within]

/-- Without its hidden members a hierarchy stands for what the others stand for. -/
theorem inlinedFrom_visibleLevels {inner : BoundClass → Except Halt (List InlinedMember)}
    {levels : List BoundClass} {inlined : List InlinedMember}
    (h : survey.inlinedFrom inner levels = .ok inlined) :
    survey.inlinedFrom inner (visibleLevels levels) =
      .ok (inlined.filter fun m => !(hiddenProperties levels).contains m.origin) := by
  obtain ⟨parts, hparts, rfl⟩ := exists_parts_of_inlinedFrom h
  rw [inlinedFrom, hiddenProperties_visibleLevels, visibleLevels, hierarchyMembers_without]
  refine mapM_filter hparts (fun m hm => ?_) fun m part hpart i hi => ?_
  · have hvisible : m.2.name ∉ hiddenProperties levels := by simpa using hm
    simp [inlinedBy, hvisible]
  · rw [origin_of_inlinedBy hpart i hi]

theorem exists_mem_of_mapM {α γ : Type} {l : List α} {g : α → Except Halt (List γ)}
    {parts : List (List γ)} (hparts : l.mapM g = .ok parts) {c : γ} (hc : c ∈ parts.flatten) :
    ∃ a ∈ l, ∃ part, g a = .ok part ∧ c ∈ part := by
  induction l generalizing parts with
  | nil =>
    cases hparts
    cases hc
  | cons a l ih =>
    obtain ⟨part, rest, hpart, hrest, rfl⟩ := mapM_cons_eq_ok hparts
    rw [List.flatten_cons] at hc
    rcases List.mem_append.mp hc with hc | hc
    · exact ⟨a, List.mem_cons_self, part, hpart, hc⟩
    · obtain ⟨a', ha', hfound⟩ := ih hrest hc
      exact ⟨a', List.mem_cons_of_mem a ha', hfound⟩

/-- Only hidden members that are unwrapped stand for something. -/
theorem visible_of_mem_inlinedFrom {inner : BoundClass → Except Halt (List InlinedMember)}
    {levels : List BoundClass} {inlined : List InlinedMember}
    (h : survey.inlinedFrom inner levels = .ok inlined)
    (hplain : ∀ m ∈ hierarchyMembers levels, m.2.name ∈ hiddenProperties levels →
      m.2.unwrapping? = none) : ∀ i ∈ inlined, i.origin ∉ hiddenProperties levels := by
  intro i hi hhidden
  obtain ⟨parts, hparts, rfl⟩ := exists_parts_of_inlinedFrom h
  obtain ⟨m, hm, part, hpart, hi⟩ := exists_mem_of_mapM hparts hi
  rw [origin_of_inlinedBy hpart i hi] at hhidden
  rw [inlinedBy, hplain m hm hhidden] at hpart
  simp only [List.contains_eq_mem, hhidden, decide_true, if_true, Except.ok.injEq] at hpart
  rw [← hpart] at hi
  cases hi

/-! ## Definitions without hidden members -/

/-- The definition of a bean that has these levels. -/
def levelsDefinition (survey : Survey) (describe : TypeDescriber) (levels : List BoundClass)
    (name : String) : Describing ClassDefinition :=
  survey.addLevels describe (survey.unwrapBound - 1) .none levels (.empty name)

theorem beanDefinition_eq (decl : JavaClass) (name : String) :
    survey.beanDefinition describe decl name =
      liftHalt (survey.classes.hierarchy (.raw decl)) >>= fun levels =>
        survey.levelsDefinition describe levels name := by
  have hbound : survey.unwrapBound = survey.unwrapBound - 1 + 1 :=
    (Nat.sub_add_cancel (Nat.zero_lt_of_lt survey.size_lt_unwrapBound)).symm
  rw [beanDefinition, hbound, addProperties_succ]
  rfl

/-- The definition of a bean has the properties that it has without the hidden members exactly if,
wherever the first member of a name comes from a hidden one, the first that does not gives the same
type. In particular it is described alike without the hidden members if none of them is
unwrapped. -/
theorem beanDefinition_visible_iff (survey : Survey) (depth : Nat) (decl : JavaClass)
    (name : String) {d after : Description} {definition : ClassDefinition}
    (hrun : run (survey.beanDefinition (survey.describeTo depth) decl name) d =
      (.ok definition, after)) :
    ∃ levels inlined, survey.classes.hierarchy (.raw decl) = .ok levels ∧
      survey.inlinedFrom (survey.inlinedMembers (survey.unwrapBound - 1)) levels = .ok inlined ∧
      (∀ c after', run (survey.levelsDefinition (survey.describeTo depth) (visibleLevels levels)
          name) d = (.ok c, after') →
        (c.properties = definition.properties ↔ ∀ property m,
          InlinedMember.first? (·.nameIn .none) inlined property = some m →
            m.origin ∈ hiddenProperties levels →
            survey.firstType d.followed (·.nameIn .none)
                (inlined.filter fun m => !(hiddenProperties levels).contains m.origin) property =
              survey.inlinedType d.followed m)) ∧
      ((∀ m ∈ hierarchyMembers levels, m.2.name ∈ hiddenProperties levels →
          m.2.unwrapping? = none) →
        run (survey.levelsDefinition (survey.describeTo depth) (visibleLevels levels) name) d =
          (.ok definition, after)) := by
  have htells := survey.tells_describeTo depth
  rw [beanDefinition_eq] at hrun
  obtain ⟨levels, between, hclimb, hrun⟩ := run_bind_eq_ok_iff.mp hrun
  rw [run_liftHalt] at hclimb
  obtain ⟨hlevels, rfl⟩ := Prod.mk.inj hclimb
  obtain ⟨inlined, hinlined⟩ :=
    yields_inlinedFrom (yields_inlinedMembers _) .none levels _ d _ _ hrun
  have hvisible := inlinedFrom_visibleLevels hinlined
  -- The definition of some levels gives every name the type of the first member that they inline.
  have hfirst : ∀ levels inlined c after',
      survey.inlinedFrom (survey.inlinedMembers (survey.unwrapBound - 1)) levels = .ok inlined →
      run (survey.levelsDefinition (survey.describeTo depth) levels name) d = (.ok c, after') →
      ∀ property, c.properties.get? property =
        survey.firstType d.followed (·.nameIn .none) inlined property := by
    intro levels inlined c after' hinlined hrun property
    rw [levelsDefinition, addLevels_eq_of_inlinedFrom hinlined] at hrun
    rw [yields_inline_all htells .none inlined _ d _ _ hrun property]
    simp [ClassDefinition.empty]
  refine ⟨levels, inlined, hlevels, hinlined, fun c after' hc => ?_, fun hplain => ?_⟩
  · have hproperties : c.properties = definition.properties ↔ ∀ property,
        c.properties.get? property = definition.properties.get? property :=
      ⟨fun h property => by rw [h], NameMap.ext_get?⟩
    simp only [hproperties, hfirst _ _ _ _ hvisible hc, hfirst _ _ _ _ hinlined hrun,
      firstType_filter_eq_iff, List.contains_eq_mem, Bool.not_eq_false', decide_eq_true_eq]
  · have hall : inlined.filter (fun m => !(hiddenProperties levels).contains m.origin) = inlined :=
      List.filter_eq_self.mpr fun i hi => by
        simpa using visible_of_mem_inlinedFrom hinlined hplain i hi
    rw [hall] at hvisible
    rw [levelsDefinition, addLevels_eq_of_inlinedFrom hinlined] at hrun
    rw [levelsDefinition, addLevels_eq_of_inlinedFrom hvisible, hrun]

/-- Somebody with a name and a home. -/
def person : JavaClass :=
  .ofFields "Person" .empty .object [("name", .basic "java.lang.String"), ("home", .basic "Home")]

/-- A person whose home has a getter with annotations. -/
def resident (annotations : List AnnotationUse) : JavaClass :=
  let getter : JavaMethod := ⟨"getHome", "", .basic "Home", [], ⟨1⟩, .empty, annotations⟩
  { JavaClass.ofFields "Resident" .empty (.basic "Person") [] with methods := [getter] }

def residents (annotations : List AnnotationUse) : Survey :=
  ⟨.ofClasses [resident annotations, person,
    .ofFields "Home" .empty .object [("street", .basic "java.lang.String")]], .empty⟩

def residentDefinition (annotations : List AnnotationUse) : Describing ClassDefinition :=
  (residents annotations).beanDefinition ((residents annotations).describeTo 1)
    (resident annotations) "Resident"

def visibleResidentDefinition (annotations : List AnnotationUse) : Describing ClassDefinition :=
  (residents annotations).levelsDefinition ((residents annotations).describeTo 1)
    (visibleLevels [.raw (resident annotations), .raw person]) "Resident"

def hiddenHome : List AnnotationUse := [.mk Visibility.ignoreType []]

/-- The getter hides the home of a resident, and with it the field of the class above. -/
theorem beanDefinition_visible_resident :
    ∃ definition after, run (residentDefinition hiddenHome) .empty = (.ok definition, after) ∧
      run (visibleResidentDefinition hiddenHome) .empty = (.ok definition, after) ∧
      definition.properties.keys = ["name"] := by
  let definition : ClassDefinition := ⟨"Resident", NameMap.empty.insert "name" .string⟩
  have hok : (run (residentDefinition hiddenHome) .empty).1 = .ok definition := by decide +kernel
  have hhierarchy : (residents hiddenHome).classes.hierarchy (.raw (resident hiddenHome)) =
      .ok [.raw (resident hiddenHome), .raw person] := by rfl
  obtain ⟨levels, -, hlevels, -, -, hsame⟩ :=
    beanDefinition_visible_iff (residents hiddenHome) 1 (resident hiddenHome) "Resident"
      (run_eq_of_fst hok)
  cases hhierarchy.symm.trans hlevels
  exact ⟨definition, _, run_eq_of_fst hok, hsame (by decide +kernel), by decide⟩

def hiddenUnwrappedHome : List AnnotationUse :=
  [.mk unwrappedType [], .mk Visibility.ignoreType []]

/-- A home that is hidden, but unwrapped, leaves its street in the definition of a resident. -/
theorem hidden_unwrapped_inlined :
    let levels := [.raw (resident hiddenUnwrappedHome), .raw person]
    (residents hiddenUnwrappedHome).classes.hierarchy (.raw (resident hiddenUnwrappedHome)) =
        .ok levels ∧
      "home" ∈ hiddenProperties levels ∧ ∃ definition visible after after',
        run (residentDefinition hiddenUnwrappedHome) .empty = (.ok definition, after) ∧
          run (visibleResidentDefinition hiddenUnwrappedHome) .empty = (.ok visible, after') ∧
          definition.properties.keys = ["name", "street"] ∧ visible.properties.keys = ["name"] := by
  intro levels
  let visible : ClassDefinition := ⟨"Resident", NameMap.empty.insert "name" .string⟩
  let definition : ClassDefinition :=
    { visible with properties := visible.properties.insert "street" .string }
  have hok : (run (residentDefinition hiddenUnwrappedHome) .empty).1 = .ok definition := by
    decide +kernel
  have hvisible : (run (visibleResidentDefinition hiddenUnwrappedHome) .empty).1 =
      .ok visible := by decide +kernel
  exact ⟨by rfl, by decide +kernel, definition, visible, _, _, run_eq_of_fst hok,
    run_eq_of_fst hvisible, by decide, by decide⟩

end Survey

end ApiSurface
