import ApiSurface.MetaAnnotations
import ApiSurface.Proofs.ClassKind
import ApiSurface.Proofs.DepthFirst
import ApiSurface.Proofs.Levels

/-!
# Chains of aliases

A method of an annotation type that is declared as an alias stands for the attribute that it names,
and for those that the aliases there stand for. The walk along these chains finds them all, also
where they come back to an attribute. So an attribute of an annotation type has a value exactly if
an implied annotation gives it, or gives an attribute that stands for it.
-/

namespace ApiSurface

/-- A text that is not empty. -/
def AnnotationUse.text? (a : AnnotationUse) (key : String) : Option String :=
  (a.string? key).filter (· != "")

namespace ClassCollection

open Relation DepthFirst

variable {collection : ClassCollection} {owner : JavaClass} {method : JavaMethod}
  {declaration : AnnotationUse} {target : AttributeName}

/-- An alias declaration names an annotation type or is about its own. The type that all annotation
types extend stands for none. -/
inductive NamesType (owner : JavaClass) (declaration : AnnotationUse) : String → Prop where
  | given {name : String} :
      (declaration.class? "annotation").bind JavaType.erasure = some name →
      name ≠ "java.lang.annotation.Annotation" → NamesType owner declaration name
  | own :
      (∀ name, (declaration.class? "annotation").bind JavaType.erasure = some name →
        name = "java.lang.annotation.Annotation") →
      NamesType owner declaration owner.name

/-- It names an attribute in one of two ways, or means the one of its method's name. -/
inductive NamesAttribute (method : JavaMethod) (declaration : AnnotationUse) : String → Prop where
  | named {name : String} : declaration.text? "attribute" = some name →
      NamesAttribute method declaration name
  | valued {name : String} : declaration.text? "attribute" = none →
      declaration.text? "value" = some name → NamesAttribute method declaration name
  | own : declaration.text? "attribute" = none → declaration.text? "value" = none →
      NamesAttribute method declaration method.name

/-- A method of an annotation type is declared as an alias for an attribute. -/
inductive DeclaresAlias (owner : JavaClass) (method : JavaMethod) : AttributeName → Prop where
  | mk {declaration : AnnotationUse} {type name : String} :
      AnnotationUse.find? method.annotations aliasFor = some declaration →
      NamesType owner declaration type → NamesAttribute method declaration name →
      DeclaresAlias owner method (type, name)

/-- From an attribute to the one for which the first alias of its name is declared, if its
annotation type is loaded. -/
inductive AliasStep (collection : ClassCollection) : AttributeName → AttributeName → Prop where
  | mk {source target : AttributeName} {owner : JavaClass} {method : JavaMethod} :
      collection.class? source.1 = some owner →
      owner.methods.find? (fun m => m.name == source.2 && isAlias m) = some method →
      DeclaresAlias owner method target → AliasStep collection source target

/-- A method stands for the attribute it is declared as an alias for, and for those that lie on the
chain from there. -/
def StandsFor (collection : ClassCollection) (owner : JavaClass) (method : JavaMethod)
    (target : AttributeName) : Prop :=
  ∃ first, DeclaresAlias owner method first ∧ ReflTransGen collection.AliasStep first target

/-! ## Declarations -/

theorem namesType_iff {type : String} : NamesType owner declaration type ↔
    (((declaration.class? "annotation").bind JavaType.erasure).filter
      (· != "java.lang.annotation.Annotation")).getD owner.name = type := by
  constructor
  · intro h
    cases h with
    | given hgiven hname => simp [hgiven, Option.filter_some, hname]
    | own hown =>
      have hnone : ((declaration.class? "annotation").bind JavaType.erasure).filter
          (· != "java.lang.annotation.Annotation") = none :=
        Option.filter_eq_none_iff.mpr fun name hname => by simp [hown name hname]
      rw [hnone, Option.getD_none]
  · rintro rfl
    cases hnamed : ((declaration.class? "annotation").bind JavaType.erasure).filter
        (· != "java.lang.annotation.Annotation") with
    | some name =>
      obtain ⟨hgiven, hname⟩ := Option.filter_eq_some_iff.mp hnamed
      exact .given hgiven (bne_iff_ne.mp hname)
    | none =>
      apply NamesType.own
      intro name hname
      simpa using Option.filter_eq_none_iff.mp hnamed name hname

theorem find?_texts (declaration : AnnotationUse) :
    ([declaration.string? "attribute", declaration.string? "value"].filterMap id).find?
      (· != "") = (declaration.text? "attribute").or (declaration.text? "value") := by
  have hsecond : ([declaration.string? "value"].filterMap id).find? (· != "") =
      declaration.text? "value" := by
    unfold AnnotationUse.text?
    cases declaration.string? "value" with
    | none => rfl
    | some value => by_cases hvalued : value = "" <;> simp [hvalued, Option.filter_some]
  unfold AnnotationUse.text? at hsecond ⊢
  cases declaration.string? "attribute" with
  | none => exact hsecond
  | some name => by_cases hname : name = "" <;> simp_all [Option.filter_some]

theorem namesAttribute_iff {name : String} : NamesAttribute method declaration name ↔
    (([declaration.string? "attribute", declaration.string? "value"].filterMap id).find?
      (· != "")).getD method.name = name := by
  rw [find?_texts]
  constructor
  · intro h
    cases h with
    | named hnamed => rw [hnamed, Option.some_or, Option.getD_some]
    | valued hnamed hvalued => rw [hnamed, Option.none_or, hvalued, Option.getD_some]
    | own hnamed hvalued => rw [hnamed, Option.none_or, hvalued, Option.getD_none]
  · rintro rfl
    cases hnamed : declaration.text? "attribute" with
    | some text => exact .named hnamed
    | none =>
      cases hvalued : declaration.text? "value" with
      | some text => exact .valued hnamed hvalued
      | none => exact .own hnamed hvalued

theorem declaresAlias_iff
    (h : AnnotationUse.find? method.annotations aliasFor = some declaration) :
    DeclaresAlias owner method target ↔ aliasTarget owner method declaration = target := by
  constructor
  · intro hdeclares
    cases hdeclares with
    | mk hfind htype hname =>
      cases h.symm.trans hfind
      exact Prod.ext (namesType_iff.mp htype) (namesAttribute_iff.mp hname)
  · rintro rfl
    exact .mk h (namesType_iff.mpr rfl) (namesAttribute_iff.mpr rfl)

/-- The attribute that a method is declared as an alias for, if it is. -/
def aliased (owner : JavaClass) (method : JavaMethod) : List AttributeName :=
  ((AnnotationUse.find? method.annotations aliasFor).map (aliasTarget owner method)).toList

theorem mem_aliased_iff : target ∈ aliased owner method ↔ DeclaresAlias owner method target := by
  unfold aliased
  cases hfind : AnnotationUse.find? method.annotations aliasFor with
  | some declaration => simp [declaresAlias_iff hfind, eq_comm]
  | none =>
    constructor
    · intro h
      cases h
    · intro h
      cases h with
      | mk hfind' => cases hfind.symm.trans hfind'

/-! ## Chains -/

/-- The attribute to which the chain goes on from one. -/
def furtherAliases (collection : ClassCollection) (source : AttributeName) : List AttributeName :=
  match collection.class? source.1 with
  | none => []
  | some owner =>
    match owner.methods.find? fun m => m.name == source.2 && isAlias m with
    | none => []
    | some method => aliased owner method

theorem mem_furtherAliases_iff {source : AttributeName} :
    target ∈ collection.furtherAliases source ↔ collection.AliasStep source target := by
  unfold furtherAliases
  constructor
  · intro h
    split at h
    · cases h
    · rename_i owner hclass
      split at h
      · cases h
      · rename_i method hmethod
        exact .mk hclass hmethod (mem_aliased_iff.mp h)
  · intro h
    cases h with
    | mk hclass hmethod hdeclares =>
      simp only [hclass, hmethod]
      exact mem_aliased_iff.mpr hdeclares

/-- Following alias declarations is a walk along the chain. By induction on the steps. -/
theorem addTargets_eq (collection : ClassCollection) (steps : Nat) (found : List AttributeName)
    (owner : JavaClass) (method : JavaMethod) :
    collection.addTargets steps found owner method =
      (aliased owner method).foldl (visit collection.furtherAliases steps) found := by
  induction steps generalizing found owner method with
  | zero =>
    rw [aliased, addTargets]
    cases AnnotationUse.find? method.annotations aliasFor <;> rfl
  | succ steps ih =>
    rw [addTargets, aliased]
    cases AnnotationUse.find? method.annotations aliasFor with
    | none => rfl
    | some declaration =>
      simp only [Option.map_some, Option.toList_some, List.foldl_cons, List.foldl_nil]
      by_cases hfound : aliasTarget owner method declaration ∈ found
      · rw [visit_of_mem hfound, if_pos (List.contains_iff_mem.mpr hfound)]
      · rw [visit_of_not_mem hfound, if_neg (mt List.contains_iff_mem.mp hfound), furtherAliases]
        cases collection.class? (aliasTarget owner method declaration).1 with
        | none => rfl
        | some next =>
          cases hmethod : next.methods.find? fun m =>
              m.name == (aliasTarget owner method declaration).2 && isAlias m with
          | none => simp [hmethod]
          | some m => simp [hmethod, ih]

/-- The methods of the loaded classes, with the name of the class. -/
def methodNames (collection : ClassCollection) : List AttributeName :=
  collection.classes.entries.flatMap fun entry => entry.2.methods.map fun m => (entry.1, m.name)

theorem length_methodNames : collection.methodNames.length = collection.methodCount := by
  simp [methodNames, methodCount, NameMap.values, List.length_flatMap, List.sum, Function.comp_def]

theorem mem_methodNames_of_furtherAliases (source : AttributeName)
    (h : collection.furtherAliases source ≠ []) : source ∈ collection.methodNames := by
  obtain ⟨target, htarget⟩ := List.exists_mem_of_ne_nil _ h
  cases mem_furtherAliases_iff.mp htarget with
  | @mk owner method hclass hmethod _ =>
    have hname : method.name = source.2 := by
      have hfirst := List.find?_some hmethod
      simp only [Bool.and_eq_true, beq_iff_eq] at hfirst
      exact hfirst.1
    have hentry := (collection.classes.mem_entries_iff source.1 owner).mpr hclass
    have hmem := List.mem_of_find?_eq_some hmethod
    exact List.mem_flatMap.mpr ⟨(source.1, owner), hentry,
      List.mem_map.mpr ⟨method, hmem, by rw [hname]⟩⟩

/-- The walk has steps for all the methods. -/
theorem mem_addTargets_iff :
    target ∈ collection.addTargets (collection.methodCount + 2) [] owner method ↔
      collection.StandsFor owner method target := by
  have hsteps : collection.methodNames.length < collection.methodCount + 2 := by
    rw [length_methodNames]
    omega
  rw [addTargets_eq, mem_walk_iff mem_methodNames_of_furtherAliases hsteps]
  simp only [StandsFor, mem_aliased_iff, reaches_iff_links fun _ _ => mem_furtherAliases_iff]

/-! ## Values -/

/-- The value that an annotation gives to an attribute: its own, or that of the first method that it
gives a value and that stands for the attribute. -/
inductive Supplies (collection : ClassCollection) (target : AttributeName) (a : AnnotationUse)
    (value : AnnotationValue) : Prop where
  | own :
      a.name = target.1 → a.attribute? target.2 = some value → Supplies collection target a value
  | through {owner : JavaClass} {front back : List JavaMethod} {method : JavaMethod} :
      (a.name = target.1 → a.attribute? target.2 = none) → collection.class? a.name = some owner →
      owner.methods = front ++ method :: back →
      (∀ other ∈ front, collection.StandsFor owner other target → a.attribute? other.name = none) →
      collection.StandsFor owner method target → a.attribute? method.name = some value →
      Supplies collection target a value

/-- The value of a method that stands for the attribute. -/
def valueThrough (collection : ClassCollection) (target : AttributeName) (a : AnnotationUse)
    (owner : JavaClass) (method : JavaMethod) : Option AnnotationValue :=
  if target ∈ collection.addTargets (collection.methodCount + 2) [] owner method
  then a.attribute? method.name else none

variable {a : AnnotationUse} {value : AnnotationValue}

theorem valueThrough_eq_some_iff : collection.valueThrough target a owner method = some value ↔
    collection.StandsFor owner method target ∧ a.attribute? method.name = some value := by
  rw [← mem_addTargets_iff, valueThrough]
  split_ifs with hstands <;> simp [hstands]

theorem valueThrough_eq_none_iff : collection.valueThrough target a owner method = none ↔
    (collection.StandsFor owner method target → a.attribute? method.name = none) := by
  rw [← mem_addTargets_iff, valueThrough]
  split_ifs with hstands <;> simp [hstands]

theorem valueThrough_of_not_isAlias (h : isAlias method = false) :
    collection.valueThrough target a owner method = none := by
  rw [valueThrough_eq_none_iff]
  rintro ⟨first, ⟨hfind, -, -⟩, -⟩
  rw [isAlias, hfind] at h
  cases h

/-- The attribute itself is among those that an alias is asked for, but it is not given. -/
theorem valueThrough_eq (hown : a.name = target.1 → a.attribute? target.2 = none)
    (method : JavaMethod) :
    (if (Alias.mk (a.name, method.name)
        (collection.addTargets (collection.methodCount + 2) [] owner method)).standsFor target
      then a.attribute? method.name else none) = collection.valueThrough target a owner method := by
  unfold valueThrough
  by_cases hself : (a.name, method.name) = target
  · have hnone : a.attribute? method.name = none := by
      rw [← hself] at hown
      exact hown rfl
    simp [hnone]
  · simp [Alias.standsFor, hself]

theorem findSome?_aliases (collection : ClassCollection) (owner : JavaClass)
    (hown : a.name = target.1 → a.attribute? target.2 = none) (methods : List JavaMethod) :
    (((methods.filter isAlias).map fun m => (⟨(a.name, m.name),
        collection.addTargets (collection.methodCount + 2) [] owner m⟩ : Alias)).findSome?
      fun declared => if declared.standsFor target then a.attribute? declared.source.2 else none) =
      methods.findSome? (collection.valueThrough target a owner) := by
  induction methods with
  | nil => rfl
  | cons method methods ih =>
    rw [List.findSome?_cons, ← ih]
    cases hmethod : isAlias method with
    | false => rw [List.filter_cons_of_neg (by simp [hmethod]), valueThrough_of_not_isAlias hmethod]
    | true =>
      rw [List.filter_cons_of_pos hmethod, List.map_cons, List.findSome?_cons,
        ← valueThrough_eq hown]

theorem valueFrom_of_not_own (hown : a.name = target.1 → a.attribute? target.2 = none) :
    collection.valueFrom target a =
      (collection.class? a.name).bind fun owner =>
        owner.methods.findSome? (collection.valueThrough target a owner) := by
  have hdirect : (if a.name = target.1 then a.attribute? target.2 else none) = none := by
    split_ifs with hname
    · exact hown hname
    · rfl
  rw [valueFrom, hdirect, aliases]
  cases collection.class? a.name with
  | none => rfl
  | some owner => exact findSome?_aliases collection owner hown owner.methods

theorem valueFrom_of_own (hname : a.name = target.1) (hvalue : a.attribute? target.2 = some value) :
    collection.valueFrom target a = some value := by
  rw [valueFrom, if_pos hname, hvalue]
  rfl

theorem valueFrom_eq_some_iff :
    collection.valueFrom target a = some value ↔ collection.Supplies target a value := by
  constructor
  · intro h
    by_cases hown : a.name = target.1 → a.attribute? target.2 = none
    · rw [valueFrom_of_not_own hown] at h
      obtain ⟨owner, hclass, hfound⟩ := Option.bind_eq_some_iff.mp h
      obtain ⟨front, method, back, hmethods, hvalue, hfront⟩ :=
        List.findSome?_eq_some_iff.mp hfound
      obtain ⟨hstands, hgiven⟩ := valueThrough_eq_some_iff.mp hvalue
      refine .through hown hclass hmethods (fun other hother => ?_) hstands hgiven
      exact valueThrough_eq_none_iff.mp (hfront other hother)
    · obtain ⟨hname, hgiven⟩ := Classical.not_imp.mp hown
      obtain ⟨own, hvalue⟩ := Option.ne_none_iff_exists'.mp hgiven
      cases h.symm.trans (valueFrom_of_own hname hvalue)
      exact .own hname hvalue
  · intro h
    cases h with
    | own hname hvalue => exact valueFrom_of_own hname hvalue
    | @through owner front back method hown hclass hmethods hfront hstands hvalue =>
      rw [valueFrom_of_not_own hown, hclass, Option.bind_some, List.findSome?_eq_some_iff]
      refine ⟨front, method, back, hmethods, valueThrough_eq_some_iff.mpr ⟨hstands, hvalue⟩, ?_⟩
      intro other hother
      exact valueThrough_eq_none_iff.mpr (hfront other hother)

/-- An annotation gives an attribute a value exactly if it gives one to the attribute itself or to
one that stands for it. -/
theorem exists_supplies_iff :
    (∃ value, collection.Supplies target a value) ↔
      ∃ name, (a.attribute? name).isSome ∧ ((a.name, name) = target ∨
        ∃ owner, ∃ method ∈ owner.methods, collection.class? a.name = some owner ∧
          method.name = name ∧ collection.StandsFor owner method target) := by
  constructor
  · rintro ⟨value, h⟩
    cases h with
    | own hname hvalue =>
      exact ⟨target.2, by rw [hvalue]; rfl, .inl (by rw [hname])⟩
    | @through owner front back method hown hclass hmethods hfront hstands hvalue =>
      have hmem : method ∈ owner.methods := by simp [hmethods]
      exact ⟨method.name, by rw [hvalue]; rfl, .inr ⟨owner, method, hmem, hclass, rfl, hstands⟩⟩
  · rintro ⟨name, hgiven, hname⟩
    simp only [← valueFrom_eq_some_iff, ← Option.isSome_iff_exists]
    by_cases hown : a.name = target.1 → a.attribute? target.2 = none
    · rcases hname with rfl | ⟨owner, method, hmethod, hclass, rfl, hstands⟩
      · rw [hown rfl] at hgiven
        cases hgiven
      · obtain ⟨value, hvalue⟩ := Option.isSome_iff_exists.mp hgiven
        rw [valueFrom_of_not_own hown, hclass, Option.bind_some, List.findSome?_isSome_iff]
        exact ⟨method, hmethod, by rw [valueThrough_eq_some_iff.mpr ⟨hstands, hvalue⟩]; rfl⟩
    · obtain ⟨hname, hgiven⟩ := Classical.not_imp.mp hown
      obtain ⟨value, hvalue⟩ := Option.ne_none_iff_exists'.mp hgiven
      rw [valueFrom_of_own hname hvalue]
      rfl

theorem type_of_resolve? {annotations : List AnnotationUse} {type : String} {r : ResolvedUse}
    (h : collection.resolve? annotations type = some r) : r.type = type := by
  obtain ⟨a, -, ha⟩ := List.exists_of_findSome?_eq_some h
  simp only at ha
  split_ifs at ha
  cases ha
  rfl

/-- If an element carries an annotation type, an attribute of the type has a value exactly if an
implied annotation gives one to the attribute, or to one of its own from which a chain of aliases
leads to the attribute. The value is that of the first implied annotation that has one, which is
what the annotation gives to the attribute itself, or else to the first of its own attributes, in
the order of declaration, that stands for it. -/
theorem attribute_exact {annotations : List AnnotationUse} {type : String} {r : ResolvedUse}
    (h : collection.resolve? annotations type = some r) (key : String) :
    ((r.attribute? collection key).isSome ↔ ∃ a ∈ r.implied, ∃ name, (a.attribute? name).isSome ∧
      ((a.name, name) = (type, key) ∨ ∃ owner, ∃ method ∈ owner.methods,
        collection.class? a.name = some owner ∧ method.name = name ∧
          collection.StandsFor owner method (type, key))) ∧
    ∀ value, r.attribute? collection key = some value ↔ ∃ front a back,
      r.implied = front ++ a :: back ∧ collection.Supplies (type, key) a value ∧
        ∀ earlier ∈ front, ∀ other, ¬ collection.Supplies (type, key) earlier other := by
  rw [ResolvedUse.attribute?, type_of_resolve? h]
  constructor
  · rw [List.findSome?_isSome_iff]
    simp only [← exists_supplies_iff, ← valueFrom_eq_some_iff, ← Option.isSome_iff_exists]
  · intro value
    have hnone : ∀ earlier, collection.valueFrom (type, key) earlier = none ↔
        ∀ other, ¬ collection.Supplies (type, key) earlier other := by
      intro earlier
      simp only [Option.eq_none_iff_forall_ne_some, ne_eq, valueFrom_eq_some_iff]
    simp only [List.findSome?_eq_some_iff, valueFrom_eq_some_iff, hnone]

/-- A method that is declared as an alias, with what its declaration says. -/
def aliasMethod (name : String) (attributes : List (String × AnnotationValue)) : JavaMethod :=
  ⟨name, "()Ljava/lang/String;", .basic "java.lang.String", [], ⟨1025⟩, .empty,
    [.mk aliasFor attributes]⟩

/-- The address of a route stands for the path of a mapping. Path and value of a mapping stand for
each other, and mappings are routes again. -/
def routeClasses : ClassCollection :=
  ofClasses [{ JavaClass.ofFields "Route" .empty .object [] with
      annotations := [.mk "Mapping" []]
      methods := [aliasMethod "address"
        [("annotation", .classType (.basic "Mapping")), ("attribute", .string "path")]] },
    { JavaClass.ofFields "Mapping" .empty .object [] with
      annotations := [.mk "Route" []]
      methods := [aliasMethod "value" [("attribute", .string ""), ("value", .string "path")],
        aliasMethod "path" [("attribute", .string "value")]] }]

def orderRoute : AnnotationUse := .mk "Route" [("address", .string "/orders")]

theorem attribute_exact_route : ∃ r,
    routeClasses.resolve? [orderRoute] "Mapping" = some r ∧
    r.implied = [orderRoute, .mk "Mapping" []] ∧
    r.attribute? routeClasses "value" = some (.string "/orders") ∧
    ∃ front a back, r.implied = front ++ a :: back ∧
      routeClasses.Supplies ("Mapping", "value") a (.string "/orders") ∧
      ∀ earlier ∈ front, ∀ other, ¬ routeClasses.Supplies ("Mapping", "value") earlier other := by
  have hresolve : routeClasses.resolve? [orderRoute] "Mapping" =
      some ⟨"Mapping", [orderRoute, .mk "Mapping" []]⟩ := rfl
  have hvalue : ResolvedUse.attribute? ⟨"Mapping", [orderRoute, .mk "Mapping" []]⟩ routeClasses
      "value" = some (.string "/orders") := rfl
  exact ⟨_, hresolve, rfl, hvalue, ((attribute_exact hresolve "value").2 _).mp hvalue⟩

end ClassCollection

end ApiSurface
