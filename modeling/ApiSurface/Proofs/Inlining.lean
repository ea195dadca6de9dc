import ApiSurface.Proofs.TouringRuns
import ApiSurface.Proofs.Trails

/-!
# Inlined members

An unwrapped member stands for the members of its own class, which may be unwrapped in turn. So the
properties of a class come from the members at the ends of the chains of unwrapped members, and the
first member of a name counts. What the unwrappings of a chain put around a name stands outside of
what the class as a whole is given to put around its names.
-/

namespace ApiSurface

open Describing

namespace Affixes

def ofUnwrapping (unwrapping : AnnotationUse) : Affixes :=
  ⟨(unwrapping.string? "prefix").getD "", (unwrapping.string? "suffix").getD ""⟩

/-- The first stand outside of the second on both sides. -/
def outside (outer inner : Affixes) : Affixes :=
  ⟨outer.lead ++ inner.lead, inner.trail ++ outer.trail⟩

theorem wrap_outside (outer inner : Affixes) (name : String) :
    (outer.outside inner).wrap name = outer.wrap (inner.wrap name) := by
  simp [wrap, outside, String.append_assoc]

theorem outside_assoc (a b c : Affixes) : (a.outside b).outside c = a.outside (b.outside c) := by
  simp [outside, String.append_assoc]

@[simp] theorem none_outside (affixes : Affixes) : none.outside affixes = affixes := by
  simp [outside, none]

theorem wrap_injective (affixes : Affixes) : Function.Injective affixes.wrap := by
  intro a b h
  have hlists := congrArg String.toList h
  simp only [wrap, String.toList_append, List.append_cancel_right_eq,
    List.append_cancel_left_eq] at hlists
  exact String.toList_injective hlists

end Affixes

/-- The properties of a definition are those of a plain one, each name with affixes around it. -/
def Affixes.Wraps (affixes : Affixes) (plain definition : ClassDefinition) : Prop :=
  ∀ property type, definition.properties.get? property = some type ↔
    ∃ name, property = affixes.wrap name ∧ plain.properties.get? name = some type

/-- A member at the end of a chain of unwrapped members, with the member that the chain starts from
and what the chain puts around names. -/
structure InlinedMember where
  origin : String
  affixes : Affixes
  environment : TypeEnvironment
  member : BeanMember

namespace InlinedMember

/-- A member of an unwrapped member's class. -/
def within (outer : BeanMember) (unwrapping : AnnotationUse) (m : InlinedMember) :
    InlinedMember :=
  { m with origin := outer.name, affixes := m.affixes.outside (.ofUnwrapping unwrapping) }

/-- Only a member whose class is not loaded is unwrapped at the end of a chain. -/
def isProperty (m : InlinedMember) : Bool := m.member.unwrapping?.isNone

/-- The name of the property in a definition whose names get affixes. Those of the chain stand
outside of them. -/
def nameIn (affixes : Affixes) (m : InlinedMember) : String :=
  m.affixes.wrap (affixes.wrap m.member.name)

/-- The first of the members that gives a property of this name. -/
def first? (name : InlinedMember → String) (inlined : List InlinedMember) (property : String) :
    Option InlinedMember :=
  inlined.find? fun m => m.isProperty && name m == property

end InlinedMember

namespace Survey

/-- What a member of a hierarchy stands for, if it is known what a class does. -/
def inlinedBy (survey : Survey) (inner : BoundClass → Except Halt (List InlinedMember))
    (hidden : List String) (m : TypeEnvironment × BeanMember) :
    Except Halt (List InlinedMember) :=
  match m.2.unwrapping? with
  | none => .ok (if hidden.contains m.2.name then [] else [⟨m.2.name, .none, m.1, m.2⟩])
  | some unwrapping => do
    match ← Halt.lift (survey.classes.bind? (m.2.type.resolve m.1) m.1) with
    | none => pure [⟨m.2.name, .none, m.1, m.2⟩]
    | some target => (inner target).map (List.map (InlinedMember.within m.2 unwrapping))

/-- The members that a hierarchy stands for, if it is known which ones a class does. -/
def inlinedFrom (survey : Survey) (inner : BoundClass → Except Halt (List InlinedMember))
    (levels : List BoundClass) : Except Halt (List InlinedMember) :=
  ((hierarchyMembers levels).mapM (survey.inlinedBy inner (hiddenProperties levels))).map
    List.flatten

/-- The members that a class stands for, in the order in which they are met. -/
def inlinedMembers (survey : Survey) : Nat → BoundClass → Except Halt (List InlinedMember)
  | 0, _ => .error .endless
  | steps + 1, bound => do
    survey.inlinedFrom (inlinedMembers survey steps) (← survey.classes.hierarchy bound)

/-- The type of an inlined member as it is read while variables are followed. -/
def inlinedType (survey : Survey) (followed : List String) (m : InlinedMember) : Option ApiType :=
  (survey.reading m.environment followed m.member.type).map fun r =>
    if AnnotationUse.anyOf m.member.annotations nullMarkers then r.1.orNull else r.1

/-- The first inlined property of a name gives the type. -/
def firstType (survey : Survey) (followed : List String) (name : InlinedMember → String)
    (inlined : List InlinedMember) (property : String) : Option ApiType :=
  (InlinedMember.first? name inlined property).bind (survey.inlinedType followed)

/-- Adds what an inlined member stands for: a property, or else the event that its class is not
loaded. -/
def inline (describe : TypeDescriber) (affixes : Affixes) (definition : ClassDefinition)
    (m : InlinedMember) : Describing ClassDefinition :=
  match m.member.unwrapping? with
  | none => addProperty describe [] (m.affixes.outside affixes) definition m.environment m.member
  | some _ => do
    report (.unwrappedNotLoaded m.member.name m.member.type)
    pure definition

/-- Adds what a member of a hierarchy stands for. -/
def addMember (survey : Survey) (describe : TypeDescriber) (steps : Nat) (hidden : List String)
    (affixes : Affixes) (definition : ClassDefinition) (m : TypeEnvironment × BeanMember) :
    Describing ClassDefinition :=
  match m.2.unwrapping? with
  | none => addProperty describe hidden affixes definition m.1 m.2
  | some unwrapping => do
    match ← lift (survey.classes.bind? (m.2.type.resolve m.1) m.1) with
    | none => do
      report (.unwrappedNotLoaded m.2.name m.2.type)
      pure definition
    | some target =>
      survey.addProperties describe steps (affixes.around unwrapping) target definition

/-- Adds what the members of a hierarchy stand for. -/
def addLevels (survey : Survey) (describe : TypeDescriber) (steps : Nat) (affixes : Affixes)
    (levels : List BoundClass) (definition : ClassDefinition) : Describing ClassDefinition :=
  (hierarchyMembers levels).foldlM
    (survey.addMember describe steps (hiddenProperties levels) affixes) definition

variable {survey : Survey} {describe : TypeDescriber}

theorem addProperties_succ (steps : Nat) (affixes : Affixes) (bound : BoundClass)
    (definition : ClassDefinition) :
    survey.addProperties describe (steps + 1) affixes bound definition =
      liftHalt (survey.classes.hierarchy bound) >>= fun levels =>
        survey.addLevels describe steps affixes levels definition := rfl

/-! ## Adding the inlined members -/

section

variable {α β γ : Type}

/-- A loop over items is a loop over all that stands for them. -/
theorem foldlM_of_mapM {l : List α} {parts : List (List γ)} {g : α → Except Halt (List γ)}
    {f : β → α → Describing β} {h : β → γ → Describing β} (hparts : l.mapM g = .ok parts)
    (hf : ∀ a part, g a = .ok part → ∀ b, f b a = part.foldlM h b) (b : β) :
    l.foldlM f b = parts.flatten.foldlM h b := by
  induction l generalizing parts b with
  | nil =>
    cases hparts
    rfl
  | cons a l ih =>
    obtain ⟨part, rest, hpart, hrest, rfl⟩ := mapM_cons_eq_ok hparts
    rw [List.flatten_cons, List.foldlM_append, List.foldlM_cons, hf a part hpart]
    exact congrArg _ (funext fun b => ih hrest b)

/-- A loop that succeeds has met only items that stand for something. -/
theorem yields_foldlM_mapM {l : List α} {g : α → Except Halt γ} {f : β → α → Describing β}
    (hf : ∀ b a d, Yields (f b a) d fun _ _ => ∃ c, g a = .ok c) (b : β) (d : Description) :
    Yields (l.foldlM f b) d fun _ _ => ∃ cs, l.mapM g = .ok cs := by
  induction l generalizing b d with
  | nil => exact yields_pure ⟨[], rfl⟩
  | cons a l ih =>
    rw [List.foldlM_cons]
    refine yields_bind (hf b a d) ?_
    rintro b' between ⟨c, hc⟩
    refine (ih b' between).imp ?_
    rintro _ _ ⟨cs, hcs⟩
    exact ⟨c :: cs, by rw [List.mapM_cons, hc, hcs]; rfl⟩

end

theorem inline_within (affixes : Affixes) (outer : BeanMember) (unwrapping : AnnotationUse)
    (definition : ClassDefinition) (m : InlinedMember) :
    inline describe affixes definition (m.within outer unwrapping) =
      inline describe (affixes.around unwrapping) definition m := by
  have haffixes : (m.affixes.outside (.ofUnwrapping unwrapping)).outside affixes =
      m.affixes.outside (affixes.around unwrapping) := Affixes.outside_assoc ..
  simp only [inline, InlinedMember.within, haffixes]

/-- What a member of a hierarchy stands for: itself, if it is not unwrapped and not hidden, and also
if it is unwrapped and its class is not loaded; else the members of its class. -/
theorem inlinedBy_cases {inner : BoundClass → Except Halt (List InlinedMember)}
    {hidden : List String} {m : TypeEnvironment × BeanMember} {part : List InlinedMember}
    (h : survey.inlinedBy inner hidden m = .ok part) :
    (m.2.unwrapping? = none ∧
      part = if hidden.contains m.2.name then [] else [⟨m.2.name, .none, m.1, m.2⟩]) ∨
    ∃ unwrapping, m.2.unwrapping? = some unwrapping ∧
      (survey.classes.bind? (m.2.type.resolve m.1) m.1 = .ok none ∧
          part = [⟨m.2.name, .none, m.1, m.2⟩] ∨
        ∃ target inlined, survey.classes.bind? (m.2.type.resolve m.1) m.1 = .ok (some target) ∧
          inner target = .ok inlined ∧ part = inlined.map (.within m.2 unwrapping)) := by
  unfold inlinedBy at h
  cases hunwrap : m.2.unwrapping? with
  | none =>
    simp only [hunwrap] at h
    exact .inl ⟨rfl, (Except.ok.inj h).symm⟩
  | some unwrapping =>
    simp only [hunwrap] at h
    refine .inr ⟨unwrapping, rfl, ?_⟩
    cases hbind : survey.classes.bind? (m.2.type.resolve m.1) m.1 with
    | error e =>
      rw [hbind] at h
      cases h
    | ok target =>
      rw [hbind] at h
      cases target with
      | none => exact .inl ⟨rfl, (Except.ok.inj h).symm⟩
      | some target =>
        change (inner target).map _ = _ at h
        cases hinner : inner target with
        | error halt =>
          rw [hinner] at h
          cases h
        | ok inlined =>
          rw [hinner] at h
          exact .inr ⟨target, inlined, rfl, hinner, (Except.ok.inj h).symm⟩

theorem exists_parts_of_inlinedFrom {inner : BoundClass → Except Halt (List InlinedMember)}
    {levels : List BoundClass} {inlined : List InlinedMember}
    (h : survey.inlinedFrom inner levels = .ok inlined) :
    ∃ parts, (hierarchyMembers levels).mapM
        (survey.inlinedBy inner (hiddenProperties levels)) = .ok parts ∧
      inlined = parts.flatten := by
  unfold inlinedFrom at h
  cases hparts : (hierarchyMembers levels).mapM
      (survey.inlinedBy inner (hiddenProperties levels)) with
  | error halt =>
    rw [hparts] at h
    cases h
  | ok parts =>
    rw [hparts] at h
    exact ⟨parts, rfl, (Except.ok.inj h).symm⟩

theorem addMember_eq {steps : Nat} {hidden : List String} {m : TypeEnvironment × BeanMember}
    {part : List InlinedMember}
    (hinner : ∀ target inlined, survey.inlinedMembers steps target = .ok inlined →
      ∀ affixes definition, survey.addProperties describe steps affixes target definition =
        inlined.foldlM (inline describe affixes) definition)
    (hpart : survey.inlinedBy (survey.inlinedMembers steps) hidden m = .ok part)
    (affixes : Affixes) (definition : ClassDefinition) :
    survey.addMember describe steps hidden affixes definition m =
      part.foldlM (inline describe affixes) definition := by
  unfold addMember
  obtain ⟨hunwrap, rfl⟩ | ⟨unwrapping, hunwrap, ⟨hbind, rfl⟩ |
    ⟨target, inlined, hbind, hinlined, rfl⟩⟩ := inlinedBy_cases hpart
  · by_cases hhidden : m.2.name ∈ hidden
    · simp [hunwrap, addProperty, hhidden]
    · simp [hunwrap, addProperty, hhidden, inline]
  · simp [hunwrap, hbind, lift, inline]
  · simp only [hunwrap, hbind, lift, pure_bind, List.foldlM_map, inline_within]
    exact hinner target inlined hinlined _ _

theorem addLevels_eq {steps : Nat} {levels : List BoundClass} {inlined : List InlinedMember}
    (hinner : ∀ target inlined, survey.inlinedMembers steps target = .ok inlined →
      ∀ affixes definition, survey.addProperties describe steps affixes target definition =
        inlined.foldlM (inline describe affixes) definition)
    (hinlined : survey.inlinedFrom (survey.inlinedMembers steps) levels = .ok inlined)
    (affixes : Affixes) (definition : ClassDefinition) :
    survey.addLevels describe steps affixes levels definition =
      inlined.foldlM (inline describe affixes) definition := by
  obtain ⟨parts, hparts, rfl⟩ := exists_parts_of_inlinedFrom hinlined
  exact foldlM_of_mapM hparts
    (fun m part hpart definition => addMember_eq hinner hpart affixes definition) definition

/-- To add the properties of a class is to add its inlined members one after the other. By
induction on the steps, which both count alike. -/
theorem addProperties_eq {steps : Nat} {bound : BoundClass} {inlined : List InlinedMember}
    (hinlined : survey.inlinedMembers steps bound = .ok inlined) (affixes : Affixes)
    (definition : ClassDefinition) :
    survey.addProperties describe steps affixes bound definition =
      inlined.foldlM (inline describe affixes) definition := by
  induction steps generalizing bound inlined affixes definition with
  | zero => cases hinlined
  | succ steps ih =>
    rw [addProperties_succ]
    rw [inlinedMembers] at hinlined
    cases hlevels : survey.classes.hierarchy bound with
    | error halt =>
      rw [hlevels] at hinlined
      cases hinlined
    | ok levels =>
      rw [hlevels] at hinlined
      exact addLevels_eq (fun _ _ h => ih h) hinlined affixes definition

theorem addLevels_eq_of_inlinedFrom {steps : Nat} {levels : List BoundClass}
    {inlined : List InlinedMember}
    (hinlined : survey.inlinedFrom (survey.inlinedMembers steps) levels = .ok inlined)
    (affixes : Affixes) (definition : ClassDefinition) :
    survey.addLevels describe steps affixes levels definition =
      inlined.foldlM (inline describe affixes) definition :=
  addLevels_eq (fun _ _ h => addProperties_eq h) hinlined affixes definition

theorem yields_addMember {steps : Nat}
    (hinner : ∀ affixes target definition d,
      Yields (survey.addProperties describe steps affixes target definition) d fun _ _ =>
        ∃ inlined, survey.inlinedMembers steps target = .ok inlined)
    (hidden : List String) (affixes : Affixes) (definition : ClassDefinition)
    (m : TypeEnvironment × BeanMember) (d : Description) :
    Yields (survey.addMember describe steps hidden affixes definition m) d fun _ _ =>
      ∃ part, survey.inlinedBy (survey.inlinedMembers steps) hidden m = .ok part := by
  unfold addMember inlinedBy
  cases m.2.unwrapping? with
  | none => exact fun _ _ _ => ⟨_, rfl⟩
  | some unwrapping =>
    refine yields_bind (P := fun target _ =>
      survey.classes.bind? (m.2.type.resolve m.1) m.1 = .ok target)
      (yields_lift fun _ htarget => htarget) ?_
    intro target between htarget
    simp only [htarget]
    cases target with
    | none => exact fun _ _ _ => ⟨_, rfl⟩
    | some target =>
      refine (hinner _ target _ between).imp ?_
      rintro _ _ ⟨inlined, hinlined⟩
      show ∃ part, (survey.inlinedMembers steps target).map _ = .ok part
      rw [hinlined]
      exact ⟨_, rfl⟩

theorem yields_inlinedFrom {steps : Nat}
    (hinner : ∀ affixes target definition d,
      Yields (survey.addProperties describe steps affixes target definition) d fun _ _ =>
        ∃ inlined, survey.inlinedMembers steps target = .ok inlined)
    (affixes : Affixes) (levels : List BoundClass) (definition : ClassDefinition)
    (d : Description) :
    Yields (survey.addLevels describe steps affixes levels definition) d fun _ _ =>
      ∃ inlined, survey.inlinedFrom (survey.inlinedMembers steps) levels = .ok inlined := by
  refine (yields_foldlM_mapM (fun definition m d =>
    yields_addMember hinner (hiddenProperties levels) affixes definition m d) definition d).imp ?_
  rintro _ _ ⟨parts, hparts⟩
  rw [inlinedFrom, hparts]
  exact ⟨_, rfl⟩

/-- Where properties are added, the members that a class stands for are known. -/
theorem yields_inlinedMembers (steps : Nat) (affixes : Affixes) (bound : BoundClass)
    (definition : ClassDefinition) (d : Description) :
    Yields (survey.addProperties describe steps affixes bound definition) d fun _ _ =>
      ∃ inlined, survey.inlinedMembers steps bound = .ok inlined := by
  induction steps generalizing affixes bound definition d with
  | zero => exact yields_throw
  | succ steps ih =>
    rw [addProperties_succ, inlinedMembers]
    refine yields_bind (P := fun levels _ => survey.classes.hierarchy bound = .ok levels)
      (yields_liftHalt fun _ hlevels => hlevels) ?_
    intro levels between hlevels
    rw [hlevels]
    exact yields_inlinedFrom ih affixes levels definition between

/-! ## The first member of a name counts -/

theorem firstType_cons (followed : List String) (name : InlinedMember → String)
    (m : InlinedMember) (rest : List InlinedMember) (property : String) :
    survey.firstType followed name (m :: rest) property =
      if m.isProperty = true ∧ name m = property then survey.inlinedType followed m
      else survey.firstType followed name rest property := by
  by_cases hfirst : m.isProperty = true ∧ name m = property
  · simp [firstType, InlinedMember.first?, hfirst]
  · have hpasses : (m.isProperty && name m == property) = false := by simpa using hfirst
    simp [firstType, InlinedMember.first?, hfirst, hpasses]

/-- What is found of a name in the definition, or else behind it, stays the same when a member is
added. -/
theorem yields_inline (h : survey.Tells describe) (affixes : Affixes)
    (definition : ClassDefinition) (m : InlinedMember) (d : Description) :
    Yields (inline describe affixes definition m) d fun c after =>
      after.followed = d.followed ∧ ∀ rest property,
        (c.properties.get? property).or
            (survey.firstType d.followed (·.nameIn affixes) rest property) =
          (definition.properties.get? property).or
            (survey.firstType d.followed (·.nameIn affixes) (m :: rest) property) := by
  unfold inline
  cases hunwrap : m.member.unwrapping? with
  | some unwrapping =>
    -- Only an event is added, and the member is none of those that give a property.
    rintro _ _ ⟨⟩
    exact ⟨rfl, by simp [firstType_cons, InlinedMember.isProperty, hunwrap]⟩
  | none =>
    simp only [firstType_cons, InlinedMember.isProperty, hunwrap, Option.isNone_none, true_and,
      InlinedMember.nameIn, addProperty, Affixes.wrap_outside]
    generalize hname : m.affixes.wrap (affixes.wrap m.member.name) = name
    cases hhas : definition.has name with
    | true =>
      -- The name is taken: it is found in the definition, so the member does not count.
      simp only [Bool.true_or, if_true]
      refine yields_pure ⟨rfl, fun rest property => ?_⟩
      by_cases hproperty : name = property
      · obtain ⟨t, ht⟩ := Option.isSome_iff_exists.mp hhas
        rw [← hproperty, ht, Option.some_or, Option.some_or]
      · simp [hproperty]
    | false =>
      simp only [Bool.false_or, List.contains_nil, Bool.false_eq_true, if_false]
      refine yields_bind (yields_element h _ _ _ _) ?_
      rintro t after ⟨u, met, hread, ht, htour⟩
      refine yields_lift fun c hc => ⟨htour.aside.followed, fun rest property => ?_⟩
      obtain ⟨-, rfl⟩ := ClassDefinition.add_eq_ok_iff.mp hc
      have htype : survey.inlinedType d.followed m = some t := by simp [inlinedType, hread, ht]
      have hnone : definition.properties.get? name = none := Option.not_isSome_iff_eq_none.mp
        (by simpa [ClassDefinition.has, NameMap.contains] using hhas)
      by_cases hproperty : name = property
      · simp [← hproperty, hnone, htype]
      · simp [hproperty, Ne.symm hproperty]

/-- The properties that are added are the first ones of their names. By induction along the
members, with what is found among those that remain. -/
theorem yields_inline_all (h : survey.Tells describe) (affixes : Affixes)
    (inlined : List InlinedMember) (definition : ClassDefinition) (d : Description) :
    Yields (inlined.foldlM (inline describe affixes) definition) d fun c _ => ∀ property,
      c.properties.get? property = (definition.properties.get? property).or
        (survey.firstType d.followed (·.nameIn affixes) inlined property) := by
  induction inlined generalizing definition d with
  | nil => exact yields_pure fun property => by simp [firstType, InlinedMember.first?]
  | cons m inlined ih =>
    rw [List.foldlM_cons]
    refine yields_bind (yields_inline h affixes definition m d) ?_
    rintro between d' ⟨hfollowed, hstep⟩
    refine (ih between d').imp ?_
    intro c _ hc property
    rw [hc property, hfollowed, hstep]

/-! ## Names and affixes -/

theorem wraps_empty (affixes : Affixes) (name : String) :
    affixes.Wraps (.empty name) (.empty name) := by
  intro property type
  simp [ClassDefinition.empty]

section

variable {affixes : Affixes} {plain definition : ClassDefinition}

theorem has_of_wraps (h : affixes.Wraps plain definition) (name : String) :
    definition.has (affixes.wrap name) = plain.has name := by
  rw [Bool.eq_iff_iff]
  simp only [ClassDefinition.has, NameMap.contains, Option.isSome_iff_exists]
  refine exists_congr fun type => (h _ type).trans ⟨?_, fun hplain => ⟨name, rfl, hplain⟩⟩
  rintro ⟨name', hname, hplain⟩
  rwa [affixes.wrap_injective hname]

theorem wraps_insert (h : affixes.Wraps plain definition) (name : String) (t : ApiType) :
    affixes.Wraps { plain with properties := plain.properties.insert name t }
      { definition with properties := definition.properties.insert (affixes.wrap name) t } := by
  intro property type
  simp only [NameMap.get?_insert]
  by_cases hproperty : property = affixes.wrap name
  · subst hproperty
    simp only [if_true]
    constructor
    · rintro htype
      exact ⟨name, rfl, by simpa using htype⟩
    · rintro ⟨name', hname, htype⟩
      rw [affixes.wrap_injective hname] at htype
      simpa using htype
  · rw [if_neg hproperty, h]
    refine exists_congr fun name' => and_congr_right fun hname => ?_
    have hne : name' ≠ name := fun heq => hproperty (hname.trans (congrArg _ heq))
    rw [if_neg hne]

/-- Where a member has the name that it has plainly, with the affixes around it, it is added to
both definitions or to none, and is described alike. -/
theorem yields_inline_plain (h : affixes.Wraps plain definition) (m : InlinedMember)
    (hname : m.isProperty = true → m.nameIn affixes = affixes.wrap (m.nameIn .none))
    (d : Description) :
    Yields (inline describe affixes definition m) d fun c after => ∃ c',
      run (inline describe .none plain m) d = (.ok c', after) ∧ affixes.Wraps c' c := by
  unfold inline
  cases hunwrap : m.member.unwrapping? with
  | some unwrapping =>
    rintro _ _ ⟨⟩
    exact ⟨plain, rfl, h⟩
  | none =>
    have hname := hname (by simp [InlinedMember.isProperty, hunwrap])
    simp only [InlinedMember.nameIn, Affixes.wrap_none] at hname
    simp only [addProperty, Affixes.wrap_outside, Affixes.wrap_none, hname, has_of_wraps h]
    split_ifs
    · rintro _ _ ⟨⟩
      exact ⟨plain, rfl, h⟩
    · intro c after hrun
      obtain ⟨t, between, hdescribed, hadded⟩ := run_bind_eq_ok_iff.mp hrun
      rw [run_lift] at hadded
      obtain ⟨hadd, rfl⟩ := Prod.mk.inj hadded
      obtain ⟨hfree, rfl⟩ := ClassDefinition.add_eq_ok_iff.mp (lift_eq_ok_iff.mp hadd)
      rw [has_of_wraps h] at hfree
      refine ⟨_, ?_, wraps_insert h _ t⟩
      rw [run_bind_of_ok hdescribed, run_lift, ClassDefinition.add_eq_ok_iff.mpr ⟨hfree, rfl⟩]
      rfl

theorem yields_inline_all_plain (h : affixes.Wraps plain definition) {inlined : List InlinedMember}
    (hnames : ∀ m ∈ inlined, m.isProperty = true →
      m.nameIn affixes = affixes.wrap (m.nameIn .none)) (d : Description) :
    Yields (inlined.foldlM (inline describe affixes) definition) d fun c after => ∃ c',
      run (inlined.foldlM (inline describe .none) plain) d = (.ok c', after) ∧
        affixes.Wraps c' c := by
  induction inlined generalizing plain definition d with
  | nil => exact yields_pure ⟨plain, rfl, h⟩
  | cons m inlined ih =>
    rw [List.foldlM_cons]
    refine yields_bind (yields_inline_plain h m (hnames m List.mem_cons_self) d) ?_
    rintro between d' ⟨between', hrun, hbetween⟩
    refine (ih hbetween (fun m' hm' => hnames m' (List.mem_cons_of_mem m hm')) d').imp ?_
    rintro c after ⟨c', hrun', hc⟩
    exact ⟨c', by rw [List.foldlM_cons, run_bind_of_ok hrun, hrun'], hc⟩

end

theorem firstType_wrap (affixes : Affixes) (followed : List String)
    (name : InlinedMember → String) (inlined : List InlinedMember) (property : String) :
    survey.firstType followed (fun m => affixes.wrap (name m)) inlined (affixes.wrap property) =
      survey.firstType followed name inlined property := by
  have hsame : ∀ m, (affixes.wrap (name m) == affixes.wrap property) = (name m == property) :=
    fun m => by rw [Bool.eq_iff_iff, beq_iff_eq, beq_iff_eq, affixes.wrap_injective.eq_iff]
  simp only [firstType, InlinedMember.first?, hsame]

/-- The properties with affixes around plain names are those that have such a name. -/
theorem firstType_wrap_eq_some_iff {affixes : Affixes} {followed : List String}
    {name : InlinedMember → String} {inlined : List InlinedMember} {property : String}
    {type : ApiType} :
    survey.firstType followed (fun m => affixes.wrap (name m)) inlined property = some type ↔
      ∃ n, property = affixes.wrap n ∧ survey.firstType followed name inlined n = some type := by
  constructor
  · intro h
    obtain ⟨m, hfirst, -⟩ := Option.bind_eq_some_iff.mp h
    have hm := List.find?_some hfirst
    have hproperty : property = affixes.wrap (name m) :=
      (beq_iff_eq.mp (Bool.and_eq_true_iff.mp hm).2).symm
    rw [hproperty, firstType_wrap] at h
    exact ⟨name m, hproperty, h⟩
  · rintro ⟨n, rfl, h⟩
    rwa [firstType_wrap]

/-- A class adds its inlined members one after the other, and the first of a name counts. Affixes
that the class is given to put around its names stand inside of what the chains of unwrapped members
put there. So the properties are those without these affixes, each name with the affixes around it
and with its type, exactly if every name would get the same type if the affixes stood outside. They
are in particular if no property's name depends on which of them stands outside. -/
theorem inlined_wraps_iff (survey : Survey) (depth steps : Nat) (affixes : Affixes)
    (bound : BoundClass) (name : String) {d after : Description} {definition : ClassDefinition}
    (hrun : run (survey.addProperties (survey.describeTo depth) steps affixes bound (.empty name)) d
      = (.ok definition, after)) :
    ∃ inlined, survey.inlinedMembers steps bound = .ok inlined ∧
      (∀ property, definition.properties.get? property =
        survey.firstType d.followed (·.nameIn affixes) inlined property) ∧
      (∀ plain after', run (survey.addProperties (survey.describeTo depth) steps .none bound
          (.empty name)) d = (.ok plain, after') →
        (affixes.Wraps plain definition ↔ ∀ property,
          survey.firstType d.followed (·.nameIn affixes) inlined property =
            survey.firstType d.followed (fun m => affixes.wrap (m.nameIn .none)) inlined
              property)) ∧
      ((∀ m ∈ inlined, m.isProperty = true → m.nameIn affixes = affixes.wrap (m.nameIn .none)) →
        ∃ plain, run (survey.addProperties (survey.describeTo depth) steps .none bound
            (.empty name)) d = (.ok plain, after) ∧ affixes.Wraps plain definition) := by
  have htells := survey.tells_describeTo depth
  obtain ⟨inlined, hinlined⟩ := yields_inlinedMembers steps affixes bound _ d _ _ hrun
  have hfirst : ∀ affixes c after', run (survey.addProperties (survey.describeTo depth) steps
      affixes bound (.empty name)) d = (.ok c, after') → ∀ property,
        c.properties.get? property =
          survey.firstType d.followed (·.nameIn affixes) inlined property := by
    intro affixes c after' hrun property
    rw [addProperties_eq hinlined] at hrun
    rw [yields_inline_all htells affixes inlined _ d _ _ hrun property]
    simp [ClassDefinition.empty]
  refine ⟨inlined, hinlined, hfirst affixes _ _ hrun, fun plain after' hplain => ?_,
    fun hnames => ?_⟩
  · have hclaimed : affixes.Wraps plain definition ↔ ∀ property type,
        definition.properties.get? property = some type ↔
          survey.firstType d.followed (fun m => affixes.wrap (m.nameIn .none)) inlined property =
            some type := by
      simp only [firstType_wrap_eq_some_iff, ← hfirst .none _ _ hplain, Affixes.Wraps]
    rw [hclaimed]
    simp only [hfirst affixes _ _ hrun, ← Option.ext_iff]
  · rw [addProperties_eq hinlined] at hrun ⊢
    exact yields_inline_all_plain (wraps_empty affixes name) hnames d _ _ hrun

/-! ## Addresses -/

/-- An address with a street, and with a place that is unwrapped. -/
def address : JavaClass :=
  let plain := JavaClass.ofFields "Address" .empty .object [("street", .basic "java.lang.String")]
  let place : JavaField := ⟨"place", .basic "Place", ⟨1⟩,
    [.mk unwrappedType [("prefix", .string "geo_")]], false, false⟩
  { plain with fields := plain.fields ++ [place] }

def addresses : Survey :=
  ⟨.ofClasses [address, .ofFields "Place" .empty .object [("lat", .basic "double")]], .empty⟩

/-- What an address is inlined as. -/
def inlineAddress (affixes : Affixes) : Describing ClassDefinition :=
  addresses.addProperties (addresses.describeTo 1) addresses.unwrapBound affixes (.raw address)
    (.empty "Person")

/-- A suffix of the address stands behind the prefix of the place in any case. -/
theorem inlined_wraps_suffix : ∃ plain definition after,
    run (inlineAddress ⟨"", "_home"⟩) .empty = (.ok definition, after) ∧
      run (inlineAddress .none) .empty = (.ok plain, after) ∧
      (Affixes.mk "" "_home").Wraps plain definition ∧
      definition.properties.keys = ["geo_lat_home", "street_home"] := by
  obtain ⟨definition, hdefinition, hkeys⟩ : ∃ definition,
      (run (inlineAddress ⟨"", "_home"⟩) .empty).1 = .ok definition ∧
        definition.properties.keys = ["geo_lat_home", "street_home"] :=
    ⟨⟨"Person", (NameMap.empty.insert "geo_lat_home" .float).insert "street_home" .string⟩,
      by decide +kernel, by decide⟩
  have hrun := run_eq_of_fst hdefinition
  obtain ⟨inlined, hinlined, -, -, hlaw⟩ := inlined_wraps_iff addresses _ _ _ _ _ hrun
  have hnames : ∀ m ∈ (addresses.inlinedMembers addresses.unwrapBound
      (.raw address)).toOption.getD [], m.isProperty = true →
        m.nameIn ⟨"", "_home"⟩ = (Affixes.mk "" "_home").wrap (m.nameIn .none) := by
    decide +kernel
  rw [hinlined] at hnames
  obtain ⟨plain, hplain, hwraps⟩ := hlaw hnames
  exact ⟨plain, definition, _, hrun, hplain, hwraps, hkeys⟩

theorem noReturn_unwrapped_addresses :
    NoReturn addresses.classes.UnwrapLink BoundClass.decl :=
  ClassCollection.noReturn_unwrapped_of_rank (fun c => if c.name = "Address" then 1 else 0)
    (by decide +kernel)

/-- A prefix of the address stands behind the prefix of the place, although the address by itself
has a property with the prefix of the place. -/
theorem inlined_prefix_behind : NoReturn addresses.classes.UnwrapLink BoundClass.decl ∧
    addresses.classes.Loaded address ∧ ∃ plain definition after after',
      run (inlineAddress ⟨"home_", ""⟩) .empty = (.ok definition, after) ∧
        run (inlineAddress .none) .empty = (.ok plain, after') ∧
        plain.properties.keys = ["geo_lat", "street"] ∧
        definition.properties.keys = ["geo_home_lat", "home_street"] ∧
        ¬ (Affixes.mk "home_" "").Wraps plain definition := by
  let plain : ClassDefinition :=
    ⟨"Person", (NameMap.empty.insert "geo_lat" .float).insert "street" .string⟩
  let definition : ClassDefinition :=
    ⟨"Person", (NameMap.empty.insert "geo_home_lat" .float).insert "home_street" .string⟩
  have hrun : (run (inlineAddress ⟨"home_", ""⟩) .empty).1 = .ok definition := by decide +kernel
  have hplain : (run (inlineAddress .none) .empty).1 = .ok plain := by decide +kernel
  have hclass : addresses.classes.class? "Address" = some address := by rfl
  refine ⟨noReturn_unwrapped_addresses, ClassCollection.loaded_of_class? hclass, plain, definition,
    _, _, run_eq_of_fst hrun, run_eq_of_fst hplain, by decide, by decide, fun hwraps => ?_⟩
  have houtside := (hwraps "home_geo_lat" .float).mpr ⟨"geo_lat", by decide, by decide⟩
  exact absurd houtside (by decide)

end Survey

end ApiSurface
