import ApiSurface.Proofs.Registrations

/-!
# Entries of unions

A class that is described as a union lists its subtypes, or has them by inheritance or by permission.
Each loaded one is an entry with the value that selects it. Both ways to describe a union go through
the same loop over entries, which stops at the first that cannot be described or whose value comes
again.
-/

namespace ApiSurface

/-- The name that a class gives itself as a subtype. An empty one is none. -/
def JavaClass.typeName? (c : JavaClass) : Option String :=
  ((AnnotationUse.find? c.annotations BeanUnion.typeName).bind fun a => a.string? "value").filter
    (· != "")

/-- The loaded classes of the same package that name a class as their superclass. -/
theorem ClassCollection.directSubclasses_eq (classes : ClassCollection) (c : JavaClass) :
    classes.directSubclasses c = (classes.classes.entries.filter fun e =>
      packageOf e.1 = c.package ∧ e.2.superclass.bind JavaType.erasure = some c.name).map
        Prod.snd := by
  simp only [directSubclasses, select, List.filter_map, List.filter_filter]
  congr 1
  refine List.filter_congr fun e _ => ?_
  cases hsuperclass : e.2.superclass.bind JavaType.erasure with
  | none => simp [hsuperclass]
  | some name =>
    rw [Function.comp_apply, hsuperclass, Option.any_some, Bool.eq_iff_iff]
    simp [and_comm]

theorem Describing.lift_ok_bind {α β : Type} (a : α) (f : α → Describing β) :
    (lift (.ok a) >>= f) = f a :=
  pure_bind a f

namespace BeanUnion

theorem ownName_eq (classes : ClassCollection) (type : JavaType) :
    ownName classes type = (classes.classOf? type).bind JavaClass.typeName? := by
  cases hclass : classes.classOf? type with
  | none => simp [ownName, hclass]
  | some c =>
    cases hnamed : AnnotationUse.find? c.annotations typeName <;>
      simp [ownName, hclass, JavaClass.typeName?, hnamed]

end BeanUnion

/-- An entry of a union: the value that selects it, the class if it is loaded, and what there is to
tell if it is not. -/
structure UnionEntry where
  value : String
  class? : Option JavaClass
  missing : Event

def UnionEntry.loaded (e : UnionEntry) : Option (String × JavaClass) := e.class?.map (e.value, ·)

/-- The loaded ones among entries. -/
def loadedAmong (entries : List UnionEntry) : List (String × JavaClass) :=
  entries.filterMap UnionEntry.loaded

/-- The values that select the loaded ones among entries. -/
def valuesOf (entries : List (String × JavaClass)) : List String := entries.map Prod.fst

/-- The value comes again, and none before it did. -/
def FirstRepeated (values : List String) (value : String) : Prop :=
  ∃ front back, values = front ++ value :: back ∧ front.Nodup ∧ value ∈ front

namespace Survey

/-- The class of a type as an entry, if it is loaded: with the name that is given, else with that
which it gives itself. -/
def entryByName? (survey : Survey) (given : Option String) (type : JavaType) :
    Option (String × JavaClass) := do
  let subclass ← survey.classes.classOf? type
  let value ← given.filter (· != "") <|> subclass.typeName?
  some (value, subclass)

/-- The loaded subtypes of a class, each with the value that selects it: the listed classes, or
without a list the classes of the package that extend it, or the subclasses that it permits. -/
def loadedEntries (survey : Survey) (decl : JavaClass) : List (String × JavaClass) :=
  match decl.form with
  | .beanUnion _ =>
    match AnnotationUse.find? decl.annotations BeanUnion.subTypes with
    | some list =>
      ((list.elements "value").filterMap AnnotationValue.asNested).filterMap fun entry =>
        (entry.class? "value").bind (survey.entryByName? (entry.string? "name"))
    | none =>
      ((survey.classes.classes.entries.filter fun e => packageOf e.1 = decl.package ∧
        e.2.superclass.bind JavaType.erasure = some decl.name).map Prod.snd).filterMap fun c =>
          survey.entryByName? none c.type
  | .sealedUnion =>
    decl.permittedSubclasses.filterMap fun name =>
      (survey.classes.class? name).map fun c => (Serialization.caseValue c, c)
  | .enum | .bean | .serialized => []

/-! ## One loop for both ways -/

/-- The property that tells the subtypes of a class apart. -/
def unionDiscriminator (decl : JavaClass) : Except SurfaceError String :=
  match decl.form with
  | .beanUnion info =>
    (BeanUnion.discriminator info).mapError (.unsupportedUnion decl.name)
  | _ => .ok Serialization.discriminator

def unionEntries (survey : Survey) (decl : JavaClass) : Except SurfaceError (List UnionEntry) :=
  match decl.form with
  | .beanUnion _ =>
    (BeanUnion.subtypes survey.classes decl).map fun subtypes => subtypes.map fun s =>
      ⟨s.value, survey.classes.classOf? s.type, .subtypeNotLoaded decl.name s.type⟩
  | _ => .ok (decl.permittedSubclasses.map fun name =>
      let c := survey.classes.class? name
      ⟨(c.map Serialization.caseValue).getD name, c, .permittedNotLoaded decl.name name⟩)

/-- How the subtypes of a class are described, after the form of the class. -/
def caseDefinition (survey : Survey) (describe : TypeDescriber) (decl subclass : JavaClass)
    (name : String) : Describing ClassDefinition :=
  match decl.form with
  | .beanUnion _ => survey.beanDefinition describe subclass name
  | _ => survey.serializedDefinition describe subclass name

def caseSlots (survey : Survey) (decl subclass : JavaClass) : Except Halt (List Slot) :=
  match decl.form with
  | .beanUnion _ => survey.beanSlots subclass
  | _ => survey.serializedSlots subclass

/-- Claims the display name of a subtype and describes it. -/
def describeCase (survey : Survey) (describe : TypeDescriber) (decl subclass : JavaClass) :
    Describing ClassDefinition := do
  survey.caseDefinition describe decl subclass (← survey.displayName subclass.name)

def addEntry (survey : Survey) (describe : TypeDescriber) (decl : JavaClass)
    (union : UnionDefinition) (e : UnionEntry) : Describing UnionDefinition :=
  match e.class? with
  | none => do
    Describing.report e.missing
    pure union
  | some subclass => do
    let definition ← survey.describeCase describe decl subclass
    Describing.lift (union.add e.value definition)

variable {survey : Survey} {describe : TypeDescriber} {decl : JavaClass}

theorem addSubtype_eq {info : AnnotationUse} (hform : decl.form = .beanUnion info)
    (union : UnionDefinition) (s : BeanUnion.Subtype) :
    survey.addSubtype describe decl union s = survey.addEntry describe decl union
      ⟨s.value, survey.classes.classOf? s.type, .subtypeNotLoaded decl.name s.type⟩ := by
  unfold addSubtype addEntry
  cases survey.classes.classOf? s.type with
  | none => rfl
  | some subclass => simp [addCase, describeCase, caseDefinition, hform]

theorem addPermitted_eq (hform : decl.form = .sealedUnion) (union : UnionDefinition)
    (name : String) :
    survey.addPermitted describe decl union name = survey.addEntry describe decl union
      ⟨((survey.classes.class? name).map Serialization.caseValue).getD name,
        survey.classes.class? name, .permittedNotLoaded decl.name name⟩ := by
  unfold addPermitted addEntry
  cases survey.classes.class? name with
  | none => rfl
  | some subclass => simp [addCase, describeCase, caseDefinition, hform]

/-- A class that is described as a union is registered by a loop over its entries. -/
theorem register_union (hform : decl.form.isUnion = true) (name : String) :
    survey.register describe decl name decl.form = (do
      let discriminator ← Describing.lift (unionDiscriminator decl)
      Describing.defineUnion (.empty name discriminator) fun union => do
        let entries ← Describing.lift (survey.unionEntries decl)
        entries.foldlM (survey.addEntry describe decl) union) := by
  cases hkind : decl.form with
  | beanUnion info =>
    simp only [register, describeBeanUnion, unionDiscriminator, unionEntries, hkind]
    cases BeanUnion.discriminator info with
    | error fault => rfl
    | ok discriminator =>
      simp only [Except.mapError, Describing.lift_ok_bind]
      congr 1
      funext union
      cases BeanUnion.subtypes survey.classes decl with
      | error e => rfl
      | ok subtypes =>
        simp only [Except.map, Describing.lift_ok_bind, List.foldlM_map]
        congr 1
        funext union s
        exact addSubtype_eq hkind union s
  | sealedUnion =>
    simp only [register, describeSealedUnion, unionDiscriminator, unionEntries, hkind]
    simp only [Describing.lift_ok_bind, List.foldlM_map]
    congr 1
    funext union
    congr 1
    funext union subclass
    exact addPermitted_eq hkind union subclass
  | enum => simp [hkind, DefinitionForm.isUnion] at hform
  | bean => simp [hkind, DefinitionForm.isUnion] at hform
  | serialized => simp [hkind, DefinitionForm.isUnion] at hform

/-! ## The loaded entries -/

/-- The subtype of an entry of a list, if it is loaded, is the entry with its value. -/
theorem listed_loaded {union : String} {entry : AnnotationUse} {found : Option BeanUnion.Subtype}
    (h : BeanUnion.listed survey.classes union entry = .ok found) :
    (entry.class? "value").bind (survey.entryByName? (entry.string? "name")) =
      found.bind fun s => (survey.classes.classOf? s.type).map (s.value, ·) := by
  unfold BeanUnion.listed at h
  cases htype : entry.class? "value" with
  | none =>
    simp only [htype] at h
    cases h
    rfl
  | some type =>
    simp only [htype, BeanUnion.ownName_eq] at h
    simp only [Option.bind_some, entryByName?, Option.bind_eq_bind]
    cases hclass : survey.classes.classOf? type with
    | none =>
      split at h
      · cases h
        simp [hclass]
      · cases h
    | some subclass =>
      rw [hclass, Option.bind_some] at h
      rw [Option.bind_some]
      split at h
      · next value hvalue =>
        cases h
        simp [hvalue, hclass]
      · cases h

theorem unlisted_loaded {union : String} {subclass : JavaClass} {found : BeanUnion.Subtype}
    (h : BeanUnion.unlisted survey.classes union subclass = .ok found) :
    survey.entryByName? none subclass.type =
      (survey.classes.classOf? found.type).map (found.value, ·) := by
  unfold BeanUnion.unlisted at h
  rw [BeanUnion.ownName_eq] at h
  cases hclass : survey.classes.classOf? subclass.type with
  | none => simp [hclass] at h
  | some c =>
    simp only [hclass, Option.bind_some] at h
    split at h
    · next value hvalue =>
      cases h
      simp [entryByName?, hclass, hvalue]
    · cases h

/-- What each item decides of its own result, the items decide of all results. -/
theorem filterMap_of_mapM {ε α β γ : Type} {f : α → Except ε β} {g : α → Option γ}
    {k : β → Option γ} {as : List α} {bs : List β}
    (hf : ∀ a b, f a = .ok b → g a = k b) (h : as.mapM f = .ok bs) :
    as.filterMap g = bs.filterMap k := by
  induction as generalizing bs with
  | nil =>
    cases h
    rfl
  | cons a as ih =>
    obtain ⟨b, rest, ha, has, rfl⟩ := mapM_cons_eq_ok h
    simp [List.filterMap_cons, hf a b ha, ih has]

/-- The entries that the loop goes through are the loaded subtypes. -/
theorem loadedAmong_unionEntries {entries : List UnionEntry} (hform : decl.form.isUnion = true)
    (h : survey.unionEntries decl = .ok entries) :
    loadedAmong entries = survey.loadedEntries decl := by
  unfold unionEntries at h
  cases hkind : decl.form with
  | beanUnion info =>
    simp only [hkind] at h
    cases hsubtypes : BeanUnion.subtypes survey.classes decl with
    | error e =>
      rw [hsubtypes] at h
      cases h
    | ok subtypes =>
      rw [hsubtypes] at h
      cases h
      have hloaded : loadedAmong (subtypes.map fun s =>
          (⟨s.value, survey.classes.classOf? s.type, .subtypeNotLoaded decl.name s.type⟩ :
            UnionEntry)) =
          subtypes.filterMap fun s => (survey.classes.classOf? s.type).map (s.value, ·) := by
        rw [loadedAmong, List.filterMap_map]
        rfl
      rw [hloaded]
      cases hlist : AnnotationUse.find? decl.annotations BeanUnion.subTypes with
      | some list =>
        simp only [BeanUnion.subtypes, hlist] at hsubtypes
        simp only [loadedEntries, hkind, hlist]
        cases hlisted : ((list.elements "value").filterMap AnnotationValue.asNested).mapM
            (BeanUnion.listed survey.classes decl.name) with
        | error e =>
          simp only [hlisted] at hsubtypes
          cases hsubtypes
        | ok found =>
          simp only [hlisted] at hsubtypes
          cases hsubtypes
          rw [filterMap_of_mapM (fun _ _ => listed_loaded) hlisted, List.filterMap_filterMap]
          rfl
      | none =>
        simp only [BeanUnion.subtypes, hlist, ClassCollection.directSubclasses_eq] at hsubtypes
        simp only [loadedEntries, hkind, hlist]
        exact (filterMap_of_mapM (fun _ _ => unlisted_loaded) hsubtypes).symm
  | sealedUnion =>
    simp only [hkind] at h
    cases h
    simp only [loadedEntries, hkind, loadedAmong, List.filterMap_map]
    congr 1
    funext name
    cases hclass : survey.classes.class? name <;> simp [UnionEntry.loaded, hclass]
  | enum => simp [hkind, DefinitionForm.isUnion] at hform
  | bean => simp [hkind, DefinitionForm.isUnion] at hform
  | serialized => simp [hkind, DefinitionForm.isUnion] at hform

end Survey

end ApiSurface
