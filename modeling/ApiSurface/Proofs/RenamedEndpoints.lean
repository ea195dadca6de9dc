import ApiSurface.Proofs.EndpointReading
import ApiSurface.Proofs.RenamedReading

/-!
# Endpoints of renamed classes

Annotations have no variables, so what is read from them stays as it is under a renaming. The
types of endpoints are read as all types are.
-/

namespace ApiSurface

section

variable (ρ : String → String) (collection : ClassCollection)

/-! ## Annotations -/

namespace ClassCollection

theorem implied_rename (a : AnnotationUse) :
    (collection.rename ρ).implied a = collection.implied a := by
  have hadd : ∀ steps, (collection.rename ρ).addImplied steps = collection.addImplied steps := by
    intro steps
    induction steps with
    | zero => rfl
    | succ steps ih =>
      funext found a
      have hdeclared : ((collection.rename ρ).class? a.name).map JavaClass.annotations =
          (collection.class? a.name).map JavaClass.annotations := by
        simp [Function.comp_def]
      rw [addImplied, addImplied, ih, hdeclared]
  rw [implied, implied, hadd, size_rename]

theorem resolve?_rename (annotations : List AnnotationUse) (type : String) :
    (collection.rename ρ).resolve? annotations type = collection.resolve? annotations type := by
  simp only [resolve?, implied_rename]

theorem carries_rename (annotations : List AnnotationUse) (type : String) :
    (collection.rename ρ).carries annotations type = collection.carries annotations type := by
  simp only [carries, resolve?_rename]

theorem addTargets_rename (steps : Nat) (found : List AttributeName) (owner : JavaClass)
    (method : JavaMethod) :
    (collection.rename ρ).addTargets steps found (owner.rename ρ) (method.rename ρ) =
      collection.addTargets steps found owner method := by
  induction steps generalizing found owner method with
  | zero => rfl
  | succ steps ih =>
    have hannotations : (method.rename ρ).annotations = method.annotations := rfl
    simp only [addTargets, hannotations]
    cases AnnotationUse.find? method.annotations aliasFor with
    | none => rfl
    | some declaration =>
      have htarget : aliasTarget (owner.rename ρ) (method.rename ρ) declaration =
          aliasTarget owner method declaration := rfl
      simp only [htarget, class?_rename]
      split_ifs
      · rfl
      · cases collection.class? (aliasTarget owner method declaration).1 with
        | none => rfl
        | some next =>
          have hmethods : (next.rename ρ).methods = next.methods.map (JavaMethod.rename ρ) := rfl
          have hfind : (next.rename ρ).methods.find?
              (fun m => m.name == (aliasTarget owner method declaration).2 && isAlias m) =
              (next.methods.find? fun m =>
                m.name == (aliasTarget owner method declaration).2 && isAlias m).map
                  (JavaMethod.rename ρ) := by
            rw [hmethods, List.find?_map]
            rfl
          simp only [Option.map_some, hfind]
          cases next.methods.find? _ with
          | none => rfl
          | some m => exact ih _ next m

theorem aliases_rename (type : String) :
    (collection.rename ρ).aliases type = collection.aliases type := by
  have hcount : (collection.rename ρ).methodCount = collection.methodCount := by
    simp [methodCount, rename, NameMap.values, NameMap.mapEntries, Function.comp_def,
      JavaClass.rename]
  simp only [aliases, class?_rename, hcount]
  cases collection.class? type with
  | none => rfl
  | some c =>
    have hmethods : (c.rename ρ).methods.filter isAlias =
        (c.methods.filter isAlias).map (JavaMethod.rename ρ) := by
      simp only [JavaClass.rename, List.filter_map]
      rfl
    simp only [Option.map_some, hmethods, List.map_map, Function.comp_def, addTargets_rename]
    rfl

end ClassCollection

theorem ResolvedUse.attribute?_rename (r : ResolvedUse) (key : String) :
    r.attribute? (collection.rename ρ) key = r.attribute? collection key := by
  have hvalue : (collection.rename ρ).valueFrom (r.type, key) =
      collection.valueFrom (r.type, key) := by
    funext a
    simp only [ClassCollection.valueFrom, ClassCollection.aliases_rename]
  rw [attribute?, attribute?, hvalue]

theorem ResolvedUse.string?_rename (r : ResolvedUse) (key : String) :
    r.string? (collection.rename ρ) key = r.string? collection key := by
  simp only [string?, attribute?_rename]

namespace ClassCollection

theorem mappingPath_rename (annotations : List AnnotationUse) :
    (collection.rename ρ).mappingPath annotations = collection.mappingPath annotations := by
  simp only [mappingPath, resolve?_rename, ResolvedUse.string?_rename]

theorem mappedMethod?_rename (annotations : List AnnotationUse) :
    (collection.rename ρ).mappedMethod? annotations = collection.mappedMethod? annotations := by
  simp only [mappedMethod?, resolve?_rename, ResolvedUse.enums, ResolvedUse.attribute?_rename]

theorem payload_rename (type : JavaType) :
    (collection.rename ρ).payload (type.rename ρ) = (collection.payload type).rename ρ := by
  cases type with
  | parameterized base arguments =>
    match arguments with
    | [] => rfl
    | [argument] =>
      have hinstance : (collection.rename ρ).isInstance (base.rename ρ) =
          collection.isInstance base :=
        funext fun target => by rw [isInstance_rename, isInstance_type_rename]
      simp only [JavaType.rename, JavaType.renameAll, payload, hinstance]
      split_ifs <;> rfl
    | _ :: _ :: _ => rfl
  | _ => rfl

theorem mappedMethods_rename (decl : JavaClass) :
    (collection.rename ρ).mappedMethods (decl.rename ρ) =
      (collection.mappedMethods decl).map (JavaMethod.rename ρ) := by
  simp only [mappedMethods, JavaClass.publicMethods_rename, List.filter_map, Function.comp_def,
    carries_rename]
  rfl

theorem controllers_rename (settings : Settings) :
    (collection.rename ρ).controllers settings =
      (collection.controllers settings).map (JavaClass.rename ρ) := by
  have hannotation : ∀ c : JavaClass, (c.rename ρ).isAnnotationType = c.isAnnotationType :=
    fun c => by
      simp [JavaClass.isAnnotationType, JavaClass.rename, JavaClass.isInterface,
        Function.comp_def]
  simp only [controllers, carriers, select_rename, List.filter_map, Function.comp_def,
    carries_rename, JavaClass.annotations_rename, hannotation]

end ClassCollection

end

namespace Survey

variable {ρ : String → String} (survey : Survey)

theorem parameterBinding?_rename (parameter : JavaParameter) :
    (survey.rename ρ).parameterBinding? (parameter.rename ρ) =
      survey.parameterBinding? parameter := by
  have hclasses : (survey.rename ρ).classes = survey.classes.rename ρ := rfl
  have hannotations : (parameter.rename ρ).annotations = parameter.annotations := rfl
  simp only [parameterBinding?, hclasses, hannotations, ClassCollection.resolve?_rename,
    ClassCollection.declaredName?, ResolvedUse.string?_rename]

theorem uriTemplate_rename (controller : JavaClass) (method : JavaMethod) :
    (survey.rename ρ).uriTemplate (controller.rename ρ) (method.rename ρ) =
      survey.uriTemplate controller method := by
  have hclasses : (survey.rename ρ).classes = survey.classes.rename ρ := rfl
  simp only [uriTemplate, hclasses, ClassCollection.mappingPath_rename,
    JavaClass.annotations_rename]
  rfl

theorem namedMethod?_rename (annotations : List AnnotationUse) :
    (survey.rename ρ).namedMethod? annotations = survey.namedMethod? annotations := by
  have hclasses : (survey.rename ρ).classes = survey.classes.rename ρ := rfl
  simp only [namedMethod?, hclasses, ClassCollection.mappedMethod?_rename]

variable (hρ : Function.Injective ρ)

include hρ

theorem readElement_rename (annotations : List AnnotationUse) (type : JavaType)
    (env : TypeEnvironment) :
    (survey.rename ρ).readElement annotations (type.rename ρ) (env.rename ρ) =
      (survey.readElement annotations type env).map (renamedMet ρ) := by
  have hread := reading_rename survey hρ env [] type
  rw [List.map_nil] at hread
  simp only [readElement, hread]
  cases survey.reading env [] type <;> rfl

theorem readParameter_rename (controller : JavaClass) (method : JavaMethod)
    (env : TypeEnvironment) (index : Nat) (parameter : JavaParameter) :
    (survey.rename ρ).readParameter (controller.rename ρ) (method.rename ρ) (env.rename ρ) index
        (parameter.rename ρ) =
      (survey.readParameter controller method env index parameter).map (renamedMet ρ) := by
  simp only [readParameter, parameterBinding?_rename]
  cases survey.parameterBinding? parameter with
  | none => rfl
  | some binding =>
    have hbound : ∀ missing, boundParameter (parameter.rename ρ) missing binding =
        boundParameter parameter missing binding := fun missing => by
      cases binding <;> rfl
    have hname : (method.rename ρ).name = method.name := rfl
    have hread := readElement_rename survey hρ parameter.annotations parameter.type env
    simp only [JavaClass.name_rename, hname, hbound]
    cases boundParameter parameter _ binding with
    | error e => rfl
    | ok bound =>
      show Option.bind ((survey.rename ρ).readElement parameter.annotations
        (parameter.type.rename ρ) (env.rename ρ)) _ = _
      rw [hread]
      cases survey.readElement parameter.annotations parameter.type env <;> rfl

theorem readParameters_rename (controller : JavaClass) (method : JavaMethod)
    (env : TypeEnvironment) (index : Nat) (parameters : List JavaParameter) :
    (survey.rename ρ).readParameters (controller.rename ρ) (method.rename ρ) (env.rename ρ) index
        (parameters.map (JavaParameter.rename ρ)) =
      (survey.readParameters controller method env index parameters).map (renamedMet ρ) := by
  induction parameters generalizing index with
  | nil => rfl
  | cons parameter rest ih =>
    simp only [List.map_cons, readParameters, readParameter_rename survey hρ, ih]
    cases survey.readParameter controller method env index parameter with
    | none => rfl
    | some read =>
      cases survey.readParameters controller method env (index + 1) rest <;> simp [renamedMet]

theorem readBody_rename (method : JavaMethod) (env : TypeEnvironment) :
    (survey.rename ρ).readBody (method.rename ρ) (env.rename ρ) =
      (survey.readBody method env).map (renamedMet ρ) := by
  have hclasses : (survey.rename ρ).classes = survey.classes.rename ρ := rfl
  have htype : (method.rename ρ).returnType = method.returnType.rename ρ := rfl
  have hannotations : (method.rename ρ).annotations = method.annotations := rfl
  simp only [readBody, hclasses, htype, hannotations, JavaType.isVoid_rename,
    ClassCollection.payload_rename, readElement_rename survey hρ]
  split_ifs
  · rfl
  · cases survey.readElement method.annotations (survey.classes.payload method.returnType) env <;>
      rfl

/-- An endpoint does not depend on the names of variables. -/
theorem readEndpoint_rename (controller : JavaClass) (level : BoundClass) (method : JavaMethod) :
    (survey.rename ρ).readEndpoint (controller.rename ρ) (level.rename ρ) (method.rename ρ) =
      (survey.readEndpoint controller level method).map (renamedMet ρ) := by
  have henv : (level.rename ρ).environment.merge
      ((level.rename ρ).decl.methodEnvironment (method.rename ρ)) =
      (level.environment.merge (level.decl.methodEnvironment method)).rename ρ := by
    simp only [BoundClass.rename, JavaClass.methodEnvironment_rename hρ]
    simp [TypeEnvironment.merge, TypeEnvironment.rename]
  have hparameters : (method.rename ρ).parameters =
      method.parameters.map (JavaParameter.rename ρ) := rfl
  have hannotations : (method.rename ρ).annotations = method.annotations := rfl
  have howner : (level.rename ρ).decl.annotations = level.decl.annotations := rfl
  simp only [readEndpoint, henv, readBody_rename survey hρ, hparameters,
    readParameters_rename survey hρ, uriTemplate_rename, hannotations, howner,
    namedMethod?_rename]
  cases survey.readBody method (level.environment.merge (level.decl.methodEnvironment method)) with
  | none => rfl
  | some body =>
    cases survey.readParameters controller method
      (level.environment.merge (level.decl.methodEnvironment method)) 0 method.parameters with
    | none => rfl
    | some parameters =>
      cases (survey.uriTemplate controller method).toOption with
      | none => rfl
      | some uri =>
        simp only [renamedMet, Option.map_some, Option.bind_eq_bind, Option.bind_some,
          List.map_append]
        rfl

theorem readGroup_rename (controller : JavaClass) :
    (survey.rename ρ).readGroup (controller.rename ρ) =
      (survey.readGroup controller).map (renamedMet ρ) := by
  have hraw : BoundClass.raw (controller.rename ρ) = (BoundClass.raw controller).rename ρ := rfl
  have hclasses : (survey.rename ρ).classes = survey.classes.rename ρ := rfl
  have hread : ∀ methods : List (BoundClass × JavaMethod),
      readEach (fun m => (survey.rename ρ).readEndpoint (controller.rename ρ) m.1 m.2)
        (methods.map fun m => (m.1.rename ρ, m.2.rename ρ)) =
      (readEach (fun m => survey.readEndpoint controller m.1 m.2) methods).map
        (renamedMet ρ) := fun methods =>
    readEach_rename fun m _ => readEndpoint_rename survey hρ controller m.1 m.2
  simp only [readGroup, hraw, hclasses, ClassCollection.hierarchy_rename hρ]
  cases survey.classes.hierarchy (.raw controller) with
  | error h => rfl
  | ok levels =>
    have hmethods : ((levels.map (BoundClass.rename ρ)).flatMap fun level =>
        ((survey.classes.rename ρ).mappedMethods level.decl).map fun m => (level, m)) =
        (levels.flatMap fun level =>
          (survey.classes.mappedMethods level.decl).map fun m => (level, m)).map
            fun m => (m.1.rename ρ, m.2.rename ρ) := by
      have hdecl : ∀ level : BoundClass, (level.rename ρ).decl = level.decl.rename ρ :=
        fun _ => rfl
      simp only [List.flatMap_map, List.map_flatMap, hdecl, ClassCollection.mappedMethods_rename,
        List.map_map, Function.comp_def]
    simp only [Except.map, Except.toOption, Option.bind_eq_bind, Option.bind_some, hmethods,
      hread]
    cases readEach (fun m => survey.readEndpoint controller m.1 m.2)
      (levels.flatMap fun level =>
        (survey.classes.mappedMethods level.decl).map fun m => (level, m)) <;> rfl

/-- The endpoints of all controllers do not depend on the names of variables. -/
theorem readGroups_rename :
    (survey.rename ρ).readGroups = survey.readGroups.map (renamedMet ρ) := by
  have hclasses : (survey.rename ρ).classes = survey.classes.rename ρ := rfl
  have hsettings : (survey.rename ρ).settings = survey.settings := rfl
  rw [readGroups, hclasses, hsettings, ClassCollection.controllers_rename]
  exact readEach_rename fun controller _ => readGroup_rename survey hρ controller

end Survey

end ApiSurface
