import Mathlib.Logic.Function.Basic
import ApiSurface.Proofs.Reading

/-!
# Renaming of type variables

A renaming takes the names of type variables to others, wherever they occur in a class: where they
are declared and where they are used. What is found out about classes goes along with a renaming
that keeps different names apart.
-/

namespace ApiSurface

/-! ## Renamed classes -/

namespace JavaType

mutual
def rename (ρ : String → String) : JavaType → JavaType
  | .basic name => .basic name
  | .array element => .array (rename ρ element)
  | .parameterized base arguments => .parameterized (rename ρ base) (renameAll ρ arguments)
  | .var name => .var (ρ name)
  | .wildcard upper lower => .wildcard (renameBound ρ upper) (renameBound ρ lower)
  | .inner outer name => .inner (rename ρ outer) name

def renameAll (ρ : String → String) : List JavaType → List JavaType
  | [] => []
  | a :: as => rename ρ a :: renameAll ρ as

def renameBound (ρ : String → String) : Option JavaType → Option JavaType
  | none => none
  | some bound => some (rename ρ bound)
end

@[simp] theorem renameAll_eq_map (ρ : String → String) (as : List JavaType) :
    renameAll ρ as = as.map (rename ρ) := by
  induction as with
  | nil => rfl
  | cons a as ih => simp [renameAll, ih]

@[simp] theorem renameBound_eq_map (ρ : String → String) (bound : Option JavaType) :
    renameBound ρ bound = bound.map (rename ρ) := by
  cases bound <;> rfl

end JavaType

def TypeSchema.rename (ρ : String → String) (schema : TypeSchema) : TypeSchema :=
  ⟨schema.entries.map fun e => (ρ e.1, e.2.map (JavaType.rename ρ))⟩

def TypeEnvironment.rename (ρ : String → String) (env : TypeEnvironment) : TypeEnvironment :=
  ⟨env.bindings.map fun b => (ρ b.1, b.2.rename ρ)⟩

def JavaField.rename (ρ : String → String) (f : JavaField) : JavaField :=
  { f with type := f.type.rename ρ }

def JavaParameter.rename (ρ : String → String) (p : JavaParameter) : JavaParameter :=
  { p with type := p.type.rename ρ }

def JavaMethod.rename (ρ : String → String) (m : JavaMethod) : JavaMethod :=
  { m with
    returnType := m.returnType.rename ρ
    parameters := m.parameters.map (JavaParameter.rename ρ)
    schema := m.schema.rename ρ }

def RecordComponent.rename (ρ : String → String) (c : RecordComponent) : RecordComponent :=
  { c with type := c.type.rename ρ }

def JavaClass.rename (ρ : String → String) (c : JavaClass) : JavaClass :=
  { c with
    schema := c.schema.rename ρ
    superclass := c.superclass.map (JavaType.rename ρ)
    interfaces := c.interfaces.map (JavaType.rename ρ)
    fields := c.fields.map (JavaField.rename ρ)
    methods := c.methods.map (JavaMethod.rename ρ)
    recordComponents := c.recordComponents.map (RecordComponent.rename ρ) }

namespace NameMap

variable {β γ : Type}

def mapEntries (m : NameMap β) (f : String → β → γ) : NameMap γ :=
  ⟨m.entries.map fun e => (e.1, f e.1 e.2), by
    simpa [List.pairwise_map] using m.sorted⟩

@[simp] theorem get?_mapEntries (m : NameMap β) (f : String → β → γ) (k : String) :
    (m.mapEntries f).get? k = (m.get? k).map (f k) := by
  simp only [get?, mapEntries]
  induction m.entries with
  | nil => rfl
  | cons e rest ih =>
    obtain ⟨n, v⟩ := e
    by_cases hn : k = n
    · simp [hn]
    · have hb : (k == n) = false := by simp [hn]
      simpa only [List.map_cons, List.lookup_cons, hb] using ih

@[simp] theorem contains_mapEntries (m : NameMap β) (f : String → β → γ) (k : String) :
    (m.mapEntries f).contains k = m.contains k := by
  simp [contains]

@[simp] theorem keys_mapEntries (m : NameMap β) (f : String → β → γ) :
    (m.mapEntries f).keys = m.keys := by
  simp [keys, mapEntries, Function.comp_def]

@[simp] theorem mapEntries_insert (m : NameMap β) (f : String → β → γ) (k : String) (v : β) :
    (m.insert k v).mapEntries f = (m.mapEntries f).insert k (f k v) :=
  ext_get? fun k' => by
    by_cases hk : k' = k <;> simp [hk]

@[simp] theorem mapEntries_insertNew (m : NameMap β) (f : String → β → γ) (k : String) (v : β) :
    (m.insertNew k v).mapEntries f = (m.mapEntries f).insertNew k (f k v) := by
  cases hk : m.contains k <;> simp [insertNew, hk]

@[simp] theorem size_mapEntries (m : NameMap β) (f : String → β → γ) :
    (m.mapEntries f).size = m.size := by
  simp [size, mapEntries]

end NameMap

namespace ClassCollection

def rename (ρ : String → String) (collection : ClassCollection) : ClassCollection :=
  { collection with classes := collection.classes.mapEntries fun _ c => c.rename ρ }

/-- Renames the variables of one class only. -/
def renameClass (collection : ClassCollection) (className : String) (ρ : String → String) :
    ClassCollection :=
  { collection with classes := collection.classes.mapEntries fun name c =>
      if name = className then c.rename ρ else c }

end ClassCollection

def BoundClass.rename (ρ : String → String) (bound : BoundClass) : BoundClass :=
  ⟨bound.decl.rename ρ, bound.environment.rename ρ⟩

def BeanMember.rename (ρ : String → String) (m : BeanMember) : BeanMember :=
  { m with type := m.type.rename ρ }

/-- A map over a loop: the loop over the images takes the images of its steps. -/
theorem foldlM_map_eq {ε α α' β β' : Type} {f : β → α → Except ε β}
    {f' : β' → α' → Except ε β'} {g : β → β'} {k : α → α'}
    (hstep : ∀ b a, f' (g b) (k a) = (f b a).map g) (l : List α) (b : β) :
    (l.map k).foldlM f' (g b) = (l.foldlM f b).map g := by
  induction l generalizing b with
  | nil => rfl
  | cons a l ih =>
    rw [List.map_cons, List.foldlM_cons, List.foldlM_cons, hstep]
    cases f b a with
    | error e => rfl
    | ok b' => exact ih b'

section

variable (ρ : String → String)

/-! ## What does not depend on variables -/

namespace JavaType

@[simp] theorem erasure_rename (t : JavaType) : (t.rename ρ).erasure = t.erasure := by
  induction t using induct with
  | parameterized base arguments ih _ => simpa [rename, erasure] using ih
  | inner outer name ih => simp [rename, erasure, ih]
  | _ => rfl

@[simp] theorem isBasic_rename (t : JavaType) (name : String) :
    (t.rename ρ).isBasic name = t.isBasic name := by
  cases t <;> rfl

@[simp] theorem isVoid_rename (t : JavaType) : (t.rename ρ).isVoid = t.isVoid :=
  isBasic_rename ρ t "void"

end JavaType

namespace JavaClass

variable (c : JavaClass)

@[simp] theorem name_rename : (c.rename ρ).name = c.name := rfl

@[simp] theorem annotations_rename : (c.rename ρ).annotations = c.annotations := rfl

@[simp] theorem isEnum_rename : (c.rename ρ).isEnum = c.isEnum := rfl

@[simp] theorem permittedSubclasses_rename :
    (c.rename ρ).permittedSubclasses = c.permittedSubclasses := rfl

theorem supertypes_rename :
    (c.rename ρ).supertypes = c.supertypes.map (JavaType.rename ρ) := by
  cases h : c.superclass <;> simp [supertypes, rename, h]

theorem enumConstants_rename : (c.rename ρ).enumConstants = c.enumConstants := by
  have hfields : (c.rename ρ).fields = c.fields.map (JavaField.rename ρ) := rfl
  simp only [enumConstants, isEnum_rename, hfields, List.filter_map, List.map_map]
  rfl

@[simp] theorem form_rename : (c.rename ρ).form = c.form := rfl

theorem annotatedMethod?_rename (type : String) :
    (c.rename ρ).annotatedMethod? type = (c.annotatedMethod? type).map (JavaMethod.rename ρ) := by
  have hmethods : (c.rename ρ).methods = c.methods.map (JavaMethod.rename ρ) := rfl
  rw [annotatedMethod?, hmethods, List.find?_map]
  rfl

end JavaClass

namespace ClassCollection

variable (collection : ClassCollection)

@[simp] theorem class?_rename (name : String) :
    (collection.rename ρ).class? name = (collection.class? name).map (JavaClass.rename ρ) := by
  simp [class?, rename]

@[simp] theorem size_rename : (collection.rename ρ).size = collection.size := by
  simp [size, rename]

theorem classOf?_rename (t : JavaType) :
    (collection.rename ρ).classOf? t = (collection.classOf? t).map (JavaClass.rename ρ) := by
  simp only [classOf?]
  cases t.erasure <;> simp

@[simp] theorem supertypeNames_rename (name : String) :
    (collection.rename ρ).supertypeNames name = collection.supertypeNames name := by
  simp only [supertypeNames, class?_rename]
  cases collection.class? name with
  | none => rfl
  | some c =>
    have herasure : JavaType.erasure ∘ JavaType.rename ρ = JavaType.erasure :=
      funext fun t => t.erasure_rename ρ
    simp only [Option.map_some, JavaClass.supertypes_rename, List.filterMap_map, herasure]

theorem isSubclass_rename (name target : String) :
    (collection.rename ρ).isSubclass name target = collection.isSubclass name target := by
  have hlinks : (collection.rename ρ).supertypeLinks = collection.supertypeLinks := by
    have hkeys : (collection.rename ρ).classes.keys = collection.classes.keys := by
      simp [rename]
    rw [supertypeLinks, supertypeLinks, hkeys, funext (supertypeNames_rename ρ collection)]
  have hreaches : ∀ steps seen pending, (collection.rename ρ).reaches target steps seen pending =
      collection.reaches target steps seen pending := by
    intro steps
    induction steps with
    | zero => intro seen pending; cases pending <;> rfl
    | succ steps ih => intro seen pending; cases pending <;> simp [reaches, ih]
  rw [isSubclass, isSubclass, hlinks, hreaches]

@[simp] theorem isInstance_rename (t : JavaType) (target : String) :
    (collection.rename ρ).isInstance t target = collection.isInstance t target := by
  induction t using JavaType.induct with
  | wildcard upper lower ihu _ =>
    cases upper with
    | none => simp [isInstance]
    | some bound => simpa [isInstance] using ihu bound rfl
  | _ => simp [isInstance_eq, isSubclass_rename]

@[simp] theorem isInstance_type_rename (t : JavaType) (target : String) :
    collection.isInstance (t.rename ρ) target = collection.isInstance t target := by
  induction t using JavaType.induct with
  | wildcard upper lower ihu _ =>
    cases upper with
    | none => simp [JavaType.rename, isInstance]
    | some bound => simpa [JavaType.rename, isInstance] using ihu bound rfl
  | _ =>
    rw [isInstance_eq, isInstance_eq, JavaType.erasure_rename] <;> simp [JavaType.rename]

theorem builtin?_rename (name : String) :
    (collection.rename ρ).builtin? name = collection.builtin? name := by
  have hintegral : (collection.rename ρ).isIntegral (.basic name) =
      collection.isIntegral (.basic name) := by
    simp only [isIntegral, funext (isInstance_rename ρ collection (.basic name))]
  have hnumber : (collection.rename ρ).isNumber (.basic name) =
      collection.isNumber (.basic name) := by
    simp only [isNumber, isInstance_rename]
  simp only [builtin?, isInstance_rename, hintegral, hnumber]

theorem container?_rename (base : JavaType) (arguments : List ApiType) :
    (collection.rename ρ).container? (base.rename ρ) arguments =
      collection.container? base arguments := by
  unfold container?
  split <;> simp

/-! ## Unions -/

theorem select_rename (condition : String → Bool) :
    (collection.rename ρ).select condition =
      (collection.select condition).map (JavaClass.rename ρ) := by
  simp [select, rename, NameMap.mapEntries, List.filter_map, Function.comp_def]

theorem directSubclasses_rename (c : JavaClass) :
    (collection.rename ρ).directSubclasses (c.rename ρ) =
      (collection.directSubclasses c).map (JavaClass.rename ρ) := by
  have herasure : ∀ d : JavaClass, (d.rename ρ).superclass.bind JavaType.erasure =
      d.superclass.bind JavaType.erasure := fun d => by
    cases h : d.superclass <;> simp [JavaClass.rename, h]
  simp only [directSubclasses, select_rename, List.filter_map, Function.comp_def, herasure]
  rfl

end ClassCollection

theorem BeanUnion.ownName_rename (collection : ClassCollection) (t : JavaType) :
    ownName (collection.rename ρ) t = ownName collection t := by
  simp only [ownName, ClassCollection.classOf?_rename]
  cases collection.classOf? t <;> rfl

theorem BeanUnion.subtypes_rename (collection : ClassCollection) (c : JavaClass) :
    subtypes (collection.rename ρ) (c.rename ρ) = subtypes collection c := by
  have hlisted : listed (collection.rename ρ) c.name = listed collection c.name := by
    funext entry
    simp only [listed, ownName_rename]
  have hunlisted : ∀ d : JavaClass, unlisted (collection.rename ρ) c.name (d.rename ρ) =
      unlisted collection c.name d := fun d => by
    simp only [unlisted, ownName_rename]
    rfl
  simp only [subtypes, JavaClass.annotations_rename, JavaClass.name_rename, hlisted,
    ClassCollection.directSubclasses_rename, List.mapM_map, Function.comp_def, hunlisted]

/-! ## Members -/

namespace JavaMethod

variable (m : JavaMethod)

@[simp] theorem propertyName_rename : (m.rename ρ).propertyName = m.propertyName := rfl

@[simp] theorem isGetter_rename : (m.rename ρ).isGetter = m.isGetter := by
  simp [isGetter, rename, propertyName]

end JavaMethod

namespace JavaClass

variable (c : JavaClass)

theorem publicMethods_rename :
    (c.rename ρ).publicMethods = c.publicMethods.map (JavaMethod.rename ρ) := by
  have hmethods : (c.rename ρ).methods = c.methods.map (JavaMethod.rename ρ) := rfl
  rw [publicMethods, hmethods, List.filter_map]
  rfl

theorem getters_rename : (c.rename ρ).getters = c.getters.map (JavaMethod.rename ρ) := by
  rw [getters, publicMethods_rename, List.filter_map]
  simp only [Function.comp_def, JavaMethod.isGetter_rename]
  rfl

theorem publicInstanceFields_rename :
    (c.rename ρ).publicInstanceFields = c.publicInstanceFields.map (JavaField.rename ρ) := by
  have hfields : (c.rename ρ).fields = c.fields.map (JavaField.rename ρ) := rfl
  rw [publicInstanceFields, hfields, List.filter_map]
  rfl

theorem field?_rename (name : String) :
    (c.rename ρ).field? name = (c.field? name).map (JavaField.rename ρ) := by
  have hfields : (c.rename ρ).fields = c.fields.map (JavaField.rename ρ) := rfl
  rw [field?, hfields, List.find?_map]
  rfl

theorem beanMembers_rename :
    (c.rename ρ).beanMembers = c.beanMembers.map (BeanMember.rename ρ) := by
  have hcomponents : (c.rename ρ).componentMembers =
      c.componentMembers.map (BeanMember.rename ρ) := by
    simp only [componentMembers, rename, List.map_map]
    rfl
  have hgetters : (c.rename ρ).getterMembers = c.getterMembers.map (BeanMember.rename ρ) := by
    simp only [getterMembers, getters_rename, List.filterMap_map, List.map_filterMap,
      Function.comp_def, JavaMethod.propertyName_rename, Option.map_map]
    rfl
  have hfields : (c.rename ρ).fieldMembers = c.fieldMembers.map (BeanMember.rename ρ) := by
    simp only [fieldMembers, publicInstanceFields_rename, List.map_map]
    rfl
  simp only [beanMembers, hcomponents, hgetters, hfields, List.map_append]

end JavaClass

theorem Visibility.ofClass_rename (c : JavaClass) : ofClass (c.rename ρ) = ofClass c := by
  have hcomponents : (c.rename ρ).recordComponents =
      c.recordComponents.map (RecordComponent.rename ρ) := rfl
  have hgetter : ∀ m : JavaMethod, ofGetter (c.rename ρ) (m.rename ρ) = ofGetter c m := fun m => by
    simp only [ofGetter, JavaMethod.propertyName_rename, JavaClass.field?_rename]
    cases m.propertyName with
    | none => rfl
    | some property =>
      simp only [Option.bind_eq_bind, Option.bind_some]
      cases c.field? property <;> rfl
  simp only [ofClass, hcomponents, JavaClass.publicInstanceFields_rename,
    JavaClass.getters_rename, List.filterMap_map, Function.comp_def, hgetter]
  rfl

theorem hiddenProperties_rename (levels : List BoundClass) :
    hiddenProperties (levels.map (BoundClass.rename ρ)) = hiddenProperties levels := by
  simp only [hiddenProperties, ← List.map_reverse, List.flatMap_map]
  simp only [BoundClass.rename, Visibility.ofClass_rename]

theorem hierarchyMembers_rename (levels : List BoundClass) :
    hierarchyMembers (levels.map (BoundClass.rename ρ)) =
      (hierarchyMembers levels).map fun m => (m.1.rename ρ, m.2.rename ρ) := by
  simp only [hierarchyMembers, List.flatMap_map, List.map_flatMap]
  simp only [BoundClass.rename, JavaClass.beanMembers_rename, List.map_map]
  rfl

theorem Serialization.fields_rename (levels : List BoundClass) :
    fields (levels.map (BoundClass.rename ρ)) =
      (fields levels).map fun f => (f.1.rename ρ, f.2.rename ρ) := by
  have hmarked : ∀ level : BoundClass, isSerializable (level.rename ρ).decl =
      isSerializable level.decl := fun _ => rfl
  have hfields : ∀ level : BoundClass, ((level.rename ρ).decl.fields.filter isSerialized) =
      (level.decl.fields.filter isSerialized).map (JavaField.rename ρ) := fun level => by
    simp only [BoundClass.rename, JavaClass.rename, List.filter_map]
    rfl
  simp only [fields, List.filter_map, List.flatMap_map, List.map_flatMap, Function.comp_def,
    hmarked, hfields, List.map_map]
  rfl

end

/-! ## Environments and hierarchies -/

section

variable {ρ : String → String} (hρ : Function.Injective ρ)

include hρ

theorem JavaType.rename_eq_var_iff (t : JavaType) (name : String) :
    t.rename ρ = .var (ρ name) ↔ t = .var name := by
  cases t <;> simp [JavaType.rename, hρ.eq_iff]

namespace TypeEnvironment

theorem lookup_rename (env : TypeEnvironment) (name : String) :
    (env.rename ρ).lookup (ρ name) = (env.lookup name).map (JavaType.rename ρ) := by
  simp only [lookup, rename]
  induction env.bindings with
  | nil => rfl
  | cons b rest ih =>
    obtain ⟨n, type⟩ := b
    by_cases hn : name = n
    · simp [hn]
    · have hb : (name == n) = false := by simp [hn]
      have hb' : (ρ name == ρ n) = false := by simp [hρ.eq_iff, hn]
      simpa only [List.map_cons, List.lookup_cons, hb, hb'] using ih

theorem ofBindings_rename (bindings : List (String × JavaType)) :
    (ofBindings bindings).rename ρ =
      ofBindings (bindings.map fun b => (ρ b.1, b.2.rename ρ)) := by
  have hidentity : ∀ b : String × JavaType,
      isIdentity (ρ b.1, b.2.rename ρ) = isIdentity b := fun b => by
    rw [Bool.eq_iff_iff]
    simp [isIdentity, JavaType.rename_eq_var_iff hρ]
  simp only [ofBindings, rename, List.filter_map, Function.comp_def, hidentity]

end TypeEnvironment

theorem TypeSchema.effectiveBound_rename (schema : TypeSchema) (name : String) :
    (schema.rename ρ).effectiveBound (ρ name) = (schema.effectiveBound name).rename ρ := by
  have hbounds : (schema.rename ρ).bounds (ρ name) =
      (schema.bounds name).map (JavaType.rename ρ) := by
    simp only [bounds, rename]
    induction schema.entries with
    | nil => rfl
    | cons e rest ih =>
      obtain ⟨n, bounds⟩ := e
      by_cases hn : name = n
      · simp [hn]
      · have hb : (name == n) = false := by simp [hn]
        have hb' : (ρ name == ρ n) = false := by simp [hρ.eq_iff, hn]
        simpa only [List.map_cons, List.lookup_cons, hb, hb'] using ih
  rw [effectiveBound, effectiveBound, hbounds]
  cases schema.bounds name <;> rfl

theorem JavaClass.methodEnvironment_rename (c : JavaClass) (m : JavaMethod) :
    (c.rename ρ).methodEnvironment (m.rename ρ) = (c.methodEnvironment m).rename ρ := by
  have hbindings : ∀ schema : TypeSchema,
      (schema.rename ρ).names.map (fun name => (name, (schema.rename ρ).effectiveBound name)) =
        (schema.names.map fun name => (name, schema.effectiveBound name)).map
          fun b => (ρ b.1, b.2.rename ρ) := fun schema => by
    have hnames : (schema.rename ρ).names = schema.names.map ρ := by
      simp [TypeSchema.names, TypeSchema.rename, Function.comp_def]
    simp only [hnames, List.map_map, Function.comp_def, TypeSchema.effectiveBound_rename hρ]
  have hschemas : ∀ enclosing own : TypeSchema,
      TypeEnvironment.ofSchemas (enclosing.rename ρ) (own.rename ρ) =
        (TypeEnvironment.ofSchemas enclosing own).rename ρ := fun enclosing own => by
    simp [TypeEnvironment.ofSchemas, hbindings, TypeEnvironment.ofBindings_rename hρ]
  exact hschemas c.schema m.schema

theorem JavaType.resolve_rename (env : TypeEnvironment) (t : JavaType) :
    (t.resolve env).rename ρ = (t.rename ρ).resolve (env.rename ρ) := by
  induction t using induct with
  | basic name => rfl
  | array element ih => simp [resolve, rename, ih]
  | parameterized base arguments ih ihs => simpa [resolve, rename, ih] using ihs
  | var name =>
    simp only [resolve, rename, TypeEnvironment.lookup_rename hρ]
    cases env.lookup name <;> rfl
  | wildcard upper lower ihu ihl =>
    cases upper <;> cases lower <;> simp_all [resolve, rename]
  | inner outer name ih => simp [resolve, rename, ih]

theorem TypeSchema.apply_rename (schema : TypeSchema) (arguments : List JavaType) :
    (schema.rename ρ).apply (arguments.map (JavaType.rename ρ)) =
      (schema.apply arguments).map (TypeEnvironment.rename ρ) := by
  have hsize : (schema.rename ρ).size = schema.size := by simp [size, rename]
  have hnames : (schema.rename ρ).names = schema.names.map ρ := by
    simp [names, rename, Function.comp_def]
  simp only [apply, List.isEmpty_map, List.length_map, hsize, hnames, List.zip_map]
  split_ifs with hempty hlength
  · rfl
  · exact congrArg Except.ok (TypeEnvironment.ofBindings_rename hρ _).symm
  · rfl

namespace ClassCollection

variable (collection : ClassCollection)

theorem argumentsIn_rename (env : TypeEnvironment) (t : JavaType) :
    argumentsIn (env.rename ρ) (t.rename ρ) = (argumentsIn env t).map (JavaType.rename ρ) := by
  cases t <;> simp [argumentsIn, JavaType.rename, JavaType.resolve_rename hρ]

theorem bind?_rename (t : JavaType) (env : TypeEnvironment) :
    (collection.rename ρ).bind? (t.rename ρ) (env.rename ρ) =
      (collection.bind? t env).map (Option.map (BoundClass.rename ρ)) := by
  have hclass : (collection.rename ρ).classOf? (t.rename ρ) =
      (collection.classOf? t).map (JavaClass.rename ρ) := by
    rw [classOf?_rename]
    simp [classOf?]
  simp only [bind?, hclass]
  cases collection.classOf? t with
  | none => rfl
  | some decl =>
    have hschema : (decl.rename ρ).schema = decl.schema.rename ρ := rfl
    simp only [Option.map_some, hschema, argumentsIn_rename hρ, TypeSchema.apply_rename hρ]
    cases decl.schema.apply (argumentsIn env t) <;> rfl

theorem addInterfaces_rename (steps : Nat) (levels : List BoundClass) (bound : BoundClass) :
    (collection.rename ρ).addInterfaces steps (levels.map (BoundClass.rename ρ))
        (bound.rename ρ) =
      (collection.addInterfaces steps levels bound).map (List.map (BoundClass.rename ρ)) := by
  induction steps generalizing levels bound with
  | zero => rfl
  | succ steps ih =>
    have hany : (levels.map (BoundClass.rename ρ)).any
        (fun level => level.decl.name == (bound.rename ρ).decl.name) =
        levels.any fun level => level.decl.name == bound.decl.name := by
      simp [List.any_map, Function.comp_def, BoundClass.rename]
    simp only [addInterfaces, hany]
    split_ifs
    · rfl
    · have hstart : (levels.map (BoundClass.rename ρ)) ++ [bound.rename ρ] =
          (levels ++ [bound]).map (BoundClass.rename ρ) := by simp
      have hinterfaces : (bound.rename ρ).decl.interfaces =
          bound.decl.interfaces.map (JavaType.rename ρ) := rfl
      rw [hstart, hinterfaces]
      refine foldlM_map_eq (fun levels interface => ?_) _ _
      have henv : (bound.rename ρ).environment = bound.environment.rename ρ := rfl
      rw [henv, bind?_rename hρ]
      cases collection.bind? interface bound.environment with
      | error e => rfl
      | ok next =>
        cases next with
        | none => rfl
        | some next => exact ih levels next

theorem superclass?_rename (bound : BoundClass) :
    (collection.rename ρ).superclass? (bound.rename ρ) =
      (collection.superclass? bound).map (Option.map (BoundClass.rename ρ)) := by
  have hsuperclass : (bound.rename ρ).decl.superclass =
      bound.decl.superclass.map (JavaType.rename ρ) := rfl
  simp only [superclass?, hsuperclass]
  cases bound.decl.superclass with
  | none => rfl
  | some t => exact bind?_rename hρ collection t bound.environment

theorem hierarchy_rename (bound : BoundClass) :
    (collection.rename ρ).hierarchy (bound.rename ρ) =
      (collection.hierarchy bound).map (List.map (BoundClass.rename ρ)) := by
  have hclimb : ∀ steps levels bound, (collection.rename ρ).climb steps
      (levels.map (BoundClass.rename ρ)) (bound.rename ρ) =
        (collection.climb steps levels bound).map (List.map (BoundClass.rename ρ)) := by
    intro steps
    induction steps with
    | zero => exact fun _ _ => rfl
    | succ steps ih =>
      intro levels bound
      simp only [climb, size_rename, addInterfaces_rename hρ, superclass?_rename hρ]
      cases collection.addInterfaces (collection.size + 1) levels bound with
      | error e => rfl
      | ok levels =>
        cases hnext : collection.superclass? bound with
        | error e => rfl
        | ok next =>
          cases next with
          | none => rfl
          | some next => exact ih levels next
  rw [hierarchy, size_rename]
  exact hclimb _ [] bound

end ClassCollection

end

end ApiSurface
