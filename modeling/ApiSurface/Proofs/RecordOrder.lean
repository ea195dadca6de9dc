import ApiSurface.Proofs.Levels
import ApiSurface.Proofs.Reading
import ApiSurface.Proofs.SignatureGrammar

/-!
# The order of records

Records become classes, and the classes stand in a collection in the order of their names. Of
records of one class only the first is read into the collection; the names of the others are kept
apart, and no API depends on them. So it is the same collection, and the same API, in whatever order
the records of different classes come, and whatever comes behind them that repeats one.
-/

namespace ApiSurface

/-! ## Duplicates -/

namespace ClassCollection

/-- The same classes, with these names as those of the duplicates. -/
def withDuplicates (collection : ClassCollection) (names : List String) : ClassCollection :=
  { collection with duplicates := names }

variable (collection : ClassCollection) (l : List String)

@[simp] theorem class?_withDuplicates :
    (collection.withDuplicates l).class? = collection.class? := rfl
@[simp] theorem classOf?_withDuplicates :
    (collection.withDuplicates l).classOf? = collection.classOf? := rfl
@[simp] theorem size_withDuplicates : (collection.withDuplicates l).size = collection.size := rfl
@[simp] theorem classes_withDuplicates :
    (collection.withDuplicates l).classes = collection.classes := rfl
@[simp] theorem supertypeNames_withDuplicates :
    (collection.withDuplicates l).supertypeNames = collection.supertypeNames := rfl

@[simp] theorem reaches_withDuplicates :
    (collection.withDuplicates l).reaches = collection.reaches := by
  funext target steps seen pending
  induction steps generalizing seen pending with
  | zero => cases pending <;> rfl
  | succ steps ih =>
    cases pending with
    | nil => rfl
    | cons name pending => simp only [reaches, ih, supertypeNames_withDuplicates]

@[simp] theorem isSubclass_withDuplicates :
    (collection.withDuplicates l).isSubclass = collection.isSubclass := by
  funext name target
  simp [isSubclass, supertypeLinks]

@[simp] theorem isInstance_withDuplicates :
    (collection.withDuplicates l).isInstance = collection.isInstance := by
  funext type target
  induction type using JavaType.induct with
  | wildcard upper lower ih _ =>
    cases upper with
    | none => rfl
    | some upper => 
      simp only [isInstance]
      exact ih upper rfl
  | _ => simp [isInstance]

@[simp] theorem builtin?_withDuplicates :
    (collection.withDuplicates l).builtin? = collection.builtin? := by
  funext name
  simp [builtin?, isIntegral, isNumber]

@[simp] theorem container?_withDuplicates :
    (collection.withDuplicates l).container? = collection.container? := by
  funext base arguments
  unfold container?
  simp

@[simp] theorem bind?_withDuplicates : (collection.withDuplicates l).bind? = collection.bind? := rfl

@[simp] theorem addInterfaces_withDuplicates :
    (collection.withDuplicates l).addInterfaces = collection.addInterfaces := by
  funext steps levels bound
  induction steps generalizing levels bound with
  | zero => rfl
  | succ steps ih => simp only [addInterfaces, bind?_withDuplicates, ih]

@[simp] theorem superclass?_withDuplicates :
    (collection.withDuplicates l).superclass? = collection.superclass? := rfl

@[simp] theorem climb_withDuplicates : (collection.withDuplicates l).climb = collection.climb := by
  funext steps levels bound
  induction steps generalizing levels bound with
  | zero => rfl
  | succ steps ih => simp [climb, ih]

@[simp] theorem hierarchy_withDuplicates :
    (collection.withDuplicates l).hierarchy = collection.hierarchy := by
  funext start
  simp [hierarchy]

@[simp] theorem addImplied_withDuplicates :
    (collection.withDuplicates l).addImplied = collection.addImplied := by
  funext steps found a
  induction steps generalizing found a with
  | zero => rfl
  | succ steps ih =>
    have hstep : (collection.withDuplicates l).addImplied steps = collection.addImplied steps := by
      funext found a
      exact ih found a
    simp [addImplied, hstep]

@[simp] theorem addTargets_withDuplicates :
    (collection.withDuplicates l).addTargets = collection.addTargets := by
  funext steps found owner method
  induction steps generalizing found owner method with
  | zero => rfl
  | succ steps ih => simp [addTargets, ih]

@[simp] theorem resolve?_withDuplicates :
    (collection.withDuplicates l).resolve? = collection.resolve? := by
  funext annotations type
  simp [resolve?, implied]

@[simp] theorem carries_withDuplicates :
    (collection.withDuplicates l).carries = collection.carries := by
  funext annotations type
  simp [carries]

@[simp] theorem aliases_withDuplicates :
    (collection.withDuplicates l).aliases = collection.aliases := by
  funext type
  simp [aliases, methodCount]

@[simp] theorem valueFrom_withDuplicates :
    (collection.withDuplicates l).valueFrom = collection.valueFrom := by
  funext target a
  simp [valueFrom]

@[simp] theorem attribute?_withDuplicates (r : ResolvedUse) :
    r.attribute? (collection.withDuplicates l) = r.attribute? collection := by
  funext key
  simp [ResolvedUse.attribute?]

@[simp] theorem mappingPath_withDuplicates :
    (collection.withDuplicates l).mappingPath = collection.mappingPath := by
  funext annotations
  simp [mappingPath, ResolvedUse.string?]

@[simp] theorem mappedMethod?_withDuplicates :
    (collection.withDuplicates l).mappedMethod? = collection.mappedMethod? := by
  funext annotations
  simp [mappedMethod?, ResolvedUse.enums]

@[simp] theorem declaredName?_withDuplicates :
    (collection.withDuplicates l).declaredName? = collection.declaredName? := by
  funext a
  simp [declaredName?, ResolvedUse.string?]

@[simp] theorem payload_withDuplicates :
    (collection.withDuplicates l).payload = collection.payload := by
  funext type
  unfold payload
  simp

@[simp] theorem mappedMethods_withDuplicates :
    (collection.withDuplicates l).mappedMethods = collection.mappedMethods := by
  funext decl
  simp [mappedMethods]

@[simp] theorem controllers_withDuplicates :
    (collection.withDuplicates l).controllers = collection.controllers := by
  funext settings
  simp [controllers, carriers, select]

end ClassCollection

@[simp] theorem BeanUnion.subtypes_withDuplicates (collection : ClassCollection) (l : List String) :
    BeanUnion.subtypes (collection.withDuplicates l) = BeanUnion.subtypes collection := rfl

namespace Survey

def withDuplicates (survey : Survey) (names : List String) : Survey :=
  { survey with classes := survey.classes.withDuplicates names }

variable (survey : Survey) (l : List String)

@[simp] theorem classes_withDuplicates :
    (survey.withDuplicates l).classes = survey.classes.withDuplicates l := rfl
@[simp] theorem settings_withDuplicates :
    (survey.withDuplicates l).settings = survey.settings := rfl
@[simp] theorem displayName_withDuplicates :
    (survey.withDuplicates l).displayName = survey.displayName := rfl
@[simp] theorem addCase_withDuplicates : (survey.withDuplicates l).addCase = survey.addCase := rfl

@[simp] theorem addProperties_withDuplicates :
    (survey.withDuplicates l).addProperties = survey.addProperties := by
  funext describe steps affixes bound definition
  induction steps generalizing affixes bound definition with
  | zero => rfl
  | succ steps ih => simp [addProperties, ih]

@[simp] theorem beanDefinition_withDuplicates :
    (survey.withDuplicates l).beanDefinition = survey.beanDefinition := by
  funext describe decl name
  simp [beanDefinition, unwrapBound]

@[simp] theorem serializedDefinition_withDuplicates :
    (survey.withDuplicates l).serializedDefinition = survey.serializedDefinition := by
  funext describe decl name
  simp [serializedDefinition]

@[simp] theorem addSubtype_withDuplicates :
    (survey.withDuplicates l).addSubtype = survey.addSubtype := by
  funext describe decl union subtype
  simp [addSubtype]

@[simp] theorem addPermitted_withDuplicates :
    (survey.withDuplicates l).addPermitted = survey.addPermitted := by
  funext describe decl union subtype
  simp [addPermitted]

@[simp] theorem describeDefinition_withDuplicates :
    (survey.withDuplicates l).describeDefinition = survey.describeDefinition := by
  funext describe decl name
  simp [describeDefinition, describeBeanUnion, describeSealedUnion]

@[simp] theorem describeName_withDuplicates :
    (survey.withDuplicates l).describeName = survey.describeName := by
  funext describe name
  simp [describeName, describeClass]

theorem describeAllWithin_congr {survey' : Survey} {describe : TypeDescriber}
    {types : List JavaType} {env : TypeEnvironment}
    (h : ∀ type ∈ types,
      survey'.describeWithin describe type env = survey.describeWithin describe type env) :
    survey'.describeAllWithin describe types env = survey.describeAllWithin describe types env := by
  induction types with
  | nil => rfl
  | cons type types ih =>
    simp only [describeAllWithin]
    rw [h type (by simp), ih fun type htype => h type (by simp [htype])]

@[simp] theorem describeWithin_withDuplicates :
    (survey.withDuplicates l).describeWithin = survey.describeWithin := by
  funext describe type env
  induction type using JavaType.induct with
  | basic q => simp [describeWithin]
  | array element ih => simp [describeWithin, ih]
  | parameterized base arguments ihBase ihArguments =>
    simp [describeWithin, ihBase, describeAllWithin_congr survey ihArguments]
  | var name => rfl
  | wildcard upper lower ihUpper ihLower =>
    cases lower with
    | some lower => exact ihLower lower rfl
    | none =>
      cases upper with
      | some upper => exact ihUpper upper rfl
      | none => rfl
  | inner outer name _ => rfl

@[simp] theorem describeTo_withDuplicates :
    (survey.withDuplicates l).describeTo = survey.describeTo := by
  funext depth
  induction depth with
  | zero => rfl
  | succ depth ih => simp [describeTo, ih]

@[simp] theorem describe_withDuplicates : (survey.withDuplicates l).describe = survey.describe := by
  funext type env
  simp [describe, depthBound, nestingBound, variableCount]

@[simp] theorem describeParameters_withDuplicates :
    (survey.withDuplicates l).describeParameters = survey.describeParameters := by
  funext controller method env index parameters
  induction parameters generalizing index with
  | nil => rfl
  | cons parameter rest ih =>
    simp [describeParameters, describeParameter, parameterBinding?, ih]

@[simp] theorem describeGroup_withDuplicates :
    (survey.withDuplicates l).describeGroup = survey.describeGroup := by
  funext controller
  simp [describeGroup, describeEndpoint, describeBody, uriTemplate, requestMethod, requestMethod?]

/-- No API depends on the names of the duplicates. -/
theorem api_withDuplicates : (survey.withDuplicates l).api = survey.api := by
  have hcontroller : (survey.withDuplicates l).describeController = survey.describeController := by
    funext controller
    simp [describeController]
  have hroot : (survey.withDuplicates l).describeRoot = survey.describeRoot := by
    funext root
    simp [describeRoot]
  simp [api, describeApi, hcontroller, hroot]

end Survey

/-! ## Records -/

namespace ClassRecord

open Signature

/-- The name of the class that a record is about. -/
def className (record : ClassRecord) : String := dotted record.name

theorem name_of_toClass {record : ClassRecord} {decl : JavaClass}
    (h : record.toClass = .ok decl) : decl.name = record.className := by
  unfold toClass at h
  obtain ⟨declaration, -, hrest⟩ := bind_eq_ok_iff.mp h
  obtain ⟨annotations, -, hrest⟩ := bind_eq_ok_iff.mp hrest
  obtain ⟨fields, -, hrest⟩ := bind_eq_ok_iff.mp hrest
  obtain ⟨methods, -, hrest⟩ := bind_eq_ok_iff.mp hrest
  obtain ⟨components, -, hdone⟩ := bind_eq_ok_iff.mp hrest
  cases hdone
  rfl

theorem exists_mapM_toClass {records : List ClassRecord}
    (h : ∀ record ∈ records, ∃ decl, record.toClass = .ok decl) :
    ∃ classes, records.mapM toClass = .ok classes := by
  have hgives : Gives (fun _ => True) (fun _ => False) (records.mapM toClass) :=
    gives_mapM fun record hrecord => by
      obtain ⟨decl, hdecl⟩ := h record hrecord
      rw [hdecl]
      trivial
  cases hclasses : records.mapM toClass with
  | error e => exact (hgives.error hclasses).elim
  | ok classes => exact ⟨classes, rfl⟩

/-- The records of a list with further ones between and behind them, each of a class that has a
record before it: the list, all records, and the names of the classes that come again. The names
`seen` are those of the records before. -/
inductive Repeats : List String → List ClassRecord → List ClassRecord → List String → Prop where
  | nil (seen : List String) : Repeats seen [] [] []
  | cons {seen later : List String} {records all : List ClassRecord} (record : ClassRecord) :
      Repeats (record.className :: seen) records all later →
      Repeats seen (record :: records) (record :: all) later
  | again {seen later : List String} {records all : List ClassRecord} {record : ClassRecord} :
      record.className ∈ seen → Repeats seen records all later →
      Repeats seen records (record :: all) (record.className :: later)

theorem Repeats.refl (seen : List String) (records : List ClassRecord) :
    Repeats seen records records [] := by
  induction records generalizing seen with
  | nil => exact .nil seen
  | cons record records ih => exact .cons record (ih _)

end ClassRecord

namespace ClassCollection

open ClassRecord

theorem addRecords_eq (collection : ClassCollection) (records : List ClassRecord) :
    collection.addRecords records =
      (records.mapM ClassRecord.toClass).map fun classes => classes.foldl add collection := by
  induction records generalizing collection with
  | nil => rfl
  | cons record records ih =>
    rw [addRecords, List.foldlM_cons, List.mapM_cons]
    cases hclass : record.toClass with
    | error e => rfl
    | ok decl =>
      have hrest := ih (collection.add decl)
      show (collection.add decl).addRecords records = _
      rw [hrest]
      cases records.mapM ClassRecord.toClass <;> rfl

/-- A class of a new name is added, and is no duplicate. -/
theorem add_of_class?_eq_none {collection : ClassCollection} {decl : JavaClass}
    (h : collection.class? decl.name = none) :
    (collection.add decl).duplicates = collection.duplicates ∧
      ∀ name found, (collection.add decl).class? name = some found ↔
        collection.class? name = some found ∨ name = decl.name ∧ found = decl := by
  have hnew : collection.classes.contains decl.name = false := by
    rw [NameMap.contains]
    exact Option.isSome_eq_false_iff.mpr (Option.isNone_iff_eq_none.mpr h)
  refine ⟨by simp [add, hnew], fun name found => ?_⟩
  rw [class?_add]
  by_cases hname : name = decl.name
  · simp [hname, h, eq_comm]
  · simp [hname]

/-- A class of a name that is there is a duplicate, and nothing else. -/
theorem add_of_class?_isSome {collection : ClassCollection} {decl : JavaClass}
    (h : (collection.class? decl.name).isSome = true) :
    collection.add decl = collection.withDuplicates (collection.duplicates ++ [decl.name]) := by
  have hcontains : collection.classes.contains decl.name = true := h
  rw [add, if_pos hcontains]
  rfl

/-- Behind the records of a list and those that repeat one, the collection has the classes of the
list, and as duplicates the names that came again. -/
theorem foldl_add_of_repeats {seen later : List String} {records all : List ClassRecord}
    (h : Repeats seen records all later) {collection : ClassCollection} {classes : List JavaClass}
    (hseen : ∀ name, name ∈ seen ↔ (collection.class? name).isSome = true)
    (hnodup : (seen ++ records.map className).Nodup)
    (hclasses : all.mapM toClass = .ok classes) :
    (classes.foldl add collection).duplicates = collection.duplicates ++ later ∧
      ∀ name decl, (classes.foldl add collection).class? name = some decl ↔
        collection.class? name = some decl ∨
          ∃ record ∈ records, record.className = name ∧ record.toClass = .ok decl := by
  induction h generalizing collection classes with
  | nil seen =>
    cases hclasses
    simp
  | @cons seen later records all record hrepeats ih =>
    obtain ⟨decl, rest, hdecl, hrest, rfl⟩ := mapM_cons_eq_ok hclasses
    have hname := name_of_toClass hdecl
    have hnodup' : (record.className :: seen ++ records.map className).Nodup :=
      List.perm_middle.nodup_iff.mp hnodup
    have hfresh : collection.class? decl.name = none := by
      have hnew : record.className ∉ seen := by
        simp only [List.cons_append, List.nodup_cons, List.mem_append, not_or] at hnodup'
        exact hnodup'.1.1
      rw [hseen, ← hname] at hnew
      simpa using hnew
    obtain ⟨hduplicates, hclass⟩ := add_of_class?_eq_none hfresh
    have hseen' : ∀ name, name ∈ record.className :: seen ↔
        ((collection.add decl).class? name).isSome = true := by
      intro name
      rw [List.mem_cons, hseen, ← hname, class?_add]
      by_cases h : name = decl.name <;> simp [h]
    obtain ⟨hduplicates', hclass'⟩ := ih hseen' hnodup' hrest
    refine ⟨by rw [List.foldl_cons, hduplicates', hduplicates], fun name found => ?_⟩
    rw [List.foldl_cons, hclass', hclass, hname]
    simp [hdecl, eq_comm, or_assoc]
  | @again seen later records all record hmem hrepeats ih =>
    obtain ⟨decl, rest, hdecl, hrest, rfl⟩ := mapM_cons_eq_ok hclasses
    have hname := name_of_toClass hdecl
    have hthere : (collection.class? decl.name).isSome = true := by
      rwa [hname, ← hseen]
    have hadd := add_of_class?_isSome hthere
    have hseen' : ∀ name, name ∈ seen ↔ ((collection.add decl).class? name).isSome = true := by
      rw [hadd]
      exact hseen
    obtain ⟨hduplicates, hclass⟩ := ih hseen' hnodup hrest
    refine ⟨?_, fun name found => ?_⟩
    · rw [List.foldl_cons, hduplicates, hadd, hname]
      simp [withDuplicates]
    · rw [List.foldl_cons, hclass, hadd, class?_withDuplicates]

/-- Two collections with the same look-ups differ in their duplicates at most. -/
theorem eq_withDuplicates {collection other : ClassCollection}
    (h : ∀ name decl, other.class? name = some decl ↔ collection.class? name = some decl) :
    other = collection.withDuplicates other.duplicates := by
  have hclasses : other.classes = collection.classes :=
    NameMap.ext_get? fun name => Option.ext (h name)
  cases other
  cases hclasses
  rfl

/-- What is read from records of different classes, in any order, and with others between and
behind them that repeat one. -/
theorem exists_addRecords {records : List ClassRecord} (hnodup : (records.map className).Nodup)
    (hconvert : ∀ record ∈ records, ∃ decl, record.toClass = .ok decl) :
    ∃ collection : ClassCollection, collection.duplicates = [] ∧
      empty.addRecords records = .ok collection ∧
      ∀ records' all later, records'.Perm records → Repeats [] records' all later →
        empty.addRecords all = (all.mapM toClass).map fun _ => collection.withDuplicates later := by
  have hread : ∀ {records' all later classes}, records'.Perm records →
      Repeats [] records' all later → all.mapM toClass = .ok classes →
        (classes.foldl add empty).duplicates = later ∧
          ∀ name decl, (classes.foldl add empty).class? name = some decl ↔
            ∃ record ∈ records, record.className = name ∧ record.toClass = .ok decl := by
    intro records' all later classes hperm hrepeats hclasses
    have hnodup' : (records'.map className).Nodup := (hperm.map className).nodup_iff.mpr hnodup
    have hempty : ∀ name, name ∈ [] ↔ (empty.class? name).isSome = true := by simp
    have hfold := foldl_add_of_repeats hrepeats hempty hnodup' hclasses
    refine ⟨by rw [hfold.1]; rfl, fun name decl => ?_⟩
    rw [hfold.2]
    simp [hperm.mem_iff]
  obtain ⟨classes, hclasses⟩ := exists_mapM_toClass hconvert
  obtain ⟨hnone, hclass⟩ := hread (.refl _) (Repeats.refl [] records) hclasses
  refine ⟨classes.foldl add empty, hnone, by rw [addRecords_eq, hclasses]; rfl, ?_⟩
  intro records' all later hperm hrepeats
  rw [addRecords_eq]
  cases hdecls : all.mapM toClass with
  | error e => rfl
  | ok decls =>
    obtain ⟨hlater, hclass'⟩ := hread hperm hrepeats hdecls
    have hsame := eq_withDuplicates fun name decl =>
      (hclass' name decl).trans (hclass name decl).symm
    rw [hlater] at hsame
    exact congrArg Except.ok hsame

end ClassCollection

namespace Survey

open ClassRecord

/-- The API of the classes of records, if all of them can be read. -/
def apiOfRecords (records : List ClassRecord) (settings : Settings) :
    Except SurfaceError (Except Halt ApiDefinition × List Event) :=
  (ClassCollection.empty.addRecords records).map fun classes => Survey.api ⟨classes, settings⟩

/-- Records of different classes lead to the same API, or the same failure, in every order. Further
records that each repeat the class of one before them add their names to the duplicates, and
nothing else changes, as long as they can be read, too. -/
theorem api_of_reordered_records {records : List ClassRecord}
    (hnodup : (records.map className).Nodup)
    (hconvert : ∀ record ∈ records, ∃ decl, record.toClass = .ok decl) :
    (∀ records' settings, records'.Perm records →
      apiOfRecords records' settings = apiOfRecords records settings) ∧
    ∃ collection, collection.duplicates = [] ∧
      ClassCollection.empty.addRecords records = .ok collection ∧
      ∀ records' all later, records'.Perm records → Repeats [] records' all later →
        ClassCollection.empty.addRecords all =
          (all.mapM toClass).map (fun _ => collection.withDuplicates later) ∧
        ∀ settings, apiOfRecords all settings =
          (all.mapM toClass).bind fun _ => apiOfRecords records settings := by
  obtain ⟨collection, hnone, hread, hall⟩ := ClassCollection.exists_addRecords hnodup hconvert
  have hapi : ∀ records' all later settings, records'.Perm records →
      Repeats [] records' all later → apiOfRecords all settings =
        (all.mapM toClass).bind fun _ => apiOfRecords records settings := by
    intro records' all later settings hperm hrepeats
    rw [apiOfRecords, apiOfRecords, hall records' all later hperm hrepeats, hread]
    cases all.mapM toClass with
    | error e => rfl
    | ok decls => exact congrArg Except.ok (api_withDuplicates ⟨collection, settings⟩ later)
  refine ⟨fun records' settings hperm => ?_, collection, hnone, hread, ?_⟩
  · obtain ⟨classes, hclasses⟩ := exists_mapM_toClass fun record hrecord =>
      hconvert record (hperm.mem_iff.mp hrecord)
    rw [hapi records' records' [] settings hperm (.refl [] records'), hclasses]
    rfl
  · exact fun records' all later hperm hrepeats =>
      ⟨hall records' all later hperm hrepeats, fun settings =>
        hapi records' all later settings hperm hrepeats⟩

/-- A record of a class with one public field. -/
def fieldRecord (className field descriptor : String) : ClassRecord :=
  ⟨className, 1, none, some "java/lang/Object", [], [],
    [⟨field, 1, descriptor, none, [], false, false⟩], [], [], []⟩

/-- An item refers to its order, and there is an older record of the order with another field. -/
theorem api_of_reordered_records_orders :
    let order := fieldRecord "shop/Order" "id" "I"
    let older := fieldRecord "shop/Order" "total" "D"
    let item := fieldRecord "shop/Item" "order" "Lshop/Order;"
    let settings : Settings := { Settings.empty with roots := ["shop.Item"] }
    ([order, item].map className).Nodup ∧
      (∀ record ∈ [order, item], ∃ decl, record.toClass = .ok decl) ∧
      Repeats [] [item, order] [item, order, older] ["shop.Order"] ∧
      apiOfRecords [item, order] settings = apiOfRecords [order, item] settings ∧
      apiOfRecords [item, order, older] settings = apiOfRecords [order, item] settings ∧
      ∃ collection : ClassCollection, collection.duplicates = [] ∧
        ClassCollection.empty.addRecords [order, item] = .ok collection ∧
        ClassCollection.empty.addRecords [item, order, older] =
          .ok (collection.withDuplicates ["shop.Order"]) := by
  intro order older item settings
  have hread : ∀ {record : ClassRecord}, record.toClass.isOk = true →
      ∃ decl, record.toClass = .ok decl := by
    intro record hok
    cases hclass : record.toClass with
    | error e =>
      rw [hclass] at hok
      cases hok
    | ok decl => exact ⟨decl, rfl⟩
  have horder : ∃ decl, order.toClass = .ok decl := hread (by decide +kernel)
  have holder : ∃ decl, older.toClass = .ok decl := hread (by decide +kernel)
  have hitem : ∃ decl, item.toClass = .ok decl := hread (by decide +kernel)
  have hnodup : ([order, item].map className).Nodup := by decide +kernel
  have hconvert : ∀ record ∈ [order, item], ∃ decl, record.toClass = .ok decl :=
    List.forall_mem_cons.mpr ⟨horder, List.forall_mem_singleton.mpr hitem⟩
  have hperm : [item, order].Perm [order, item] := .swap _ _ _
  have hrepeats : Repeats [] [item, order] [item, order, older] ["shop.Order"] := by
    have hname : older.className = "shop.Order" := by decide +kernel
    have hseen : older.className ∈ [order.className, item.className] := by decide +kernel
    rw [← hname]
    exact .cons item (.cons order (.again hseen (.nil _)))
  have hreordered := api_of_reordered_records hnodup hconvert
  obtain ⟨collection, hnone, hcollection, hall⟩ := hreordered.2
  have hconvert' : ∀ record ∈ [item, order, older], ∃ decl, record.toClass = .ok decl :=
    List.forall_mem_cons.mpr ⟨hitem, List.forall_mem_cons.mpr
      ⟨horder, List.forall_mem_singleton.mpr holder⟩⟩
  obtain ⟨classes, hclasses⟩ := exists_mapM_toClass hconvert'
  have hbehind := hall _ _ _ hperm hrepeats
  rw [hclasses] at hbehind
  dsimp only [Except.bind, Except.map] at hbehind
  exact ⟨hnodup, hconvert, hrepeats, hreordered.1 _ settings hperm, hbehind.2 settings, collection,
    hnone, hcollection, hbehind.1⟩

end Survey

end ApiSurface
