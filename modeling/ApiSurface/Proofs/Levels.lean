import Mathlib.Data.List.Induction
import Mathlib.Tactic.Common
import ApiSurface.Controllers

/-!
# Levels of hierarchies

Every level of a hierarchy is a loaded class in an environment that binds variables of this class
only, and none to itself. So no environment that types are seen from has such a binding.
-/

namespace ApiSurface

namespace TypeEnvironment

/-- No variable is bound to itself. -/
def Proper (env : TypeEnvironment) : Prop := ∀ name, env.lookup name ≠ some (.var name)

theorem proper_empty : empty.Proper := by
  intro name h
  cases h

theorem proper_ofBindings (bindings : List (String × JavaType)) : (ofBindings bindings).Proper :=
  lookup_ofBindings_ne bindings

theorem Proper.merge {env other : TypeEnvironment} (h : env.Proper) (h' : other.Proper) :
    (env.merge other).Proper := by
  intro name hlookup
  rw [lookup_merge] at hlookup
  cases hfront : env.lookup name with
  | none =>
    rw [hfront] at hlookup
    exact h' name hlookup
  | some bound =>
    rw [hfront] at hlookup
    exact h name (hfront.trans hlookup)

/-- The variables that are bound. -/
def names (env : TypeEnvironment) : List String := env.bindings.map Prod.fst

theorem mem_names_of_lookup {env : TypeEnvironment} {name : String} {bound : JavaType}
    (h : env.lookup name = some bound) : name ∈ env.names := by
  obtain ⟨bindings⟩ := env
  simp only [lookup, names] at h ⊢
  induction bindings with
  | nil => cases h
  | cons b rest ih =>
    rw [List.lookup_cons] at h
    cases hname : name == b.1 with
    | true => exact List.mem_cons.mpr (.inl (beq_iff_eq.mp hname))
    | false =>
      rw [hname] at h
      exact List.mem_cons_of_mem _ (ih h)

theorem names_ofBindings_subset (bindings : List (String × JavaType)) :
    (ofBindings bindings).names ⊆ bindings.map Prod.fst := by
  intro name hname
  obtain ⟨b, hb, rfl⟩ := List.mem_map.mp hname
  exact List.mem_map_of_mem (List.mem_filter.mp hb).1

end TypeEnvironment

theorem JavaClass.proper_methodEnvironment (decl : JavaClass) (method : JavaMethod) :
    (decl.methodEnvironment method).Proper :=
  TypeEnvironment.proper_ofBindings _

namespace ClassCollection

variable {collection : ClassCollection}

/-- The class is one of the collection. -/
def Loaded (collection : ClassCollection) (decl : JavaClass) : Prop :=
  decl ∈ collection.classes.values

theorem loaded_of_class? {name : String} {decl : JavaClass}
    (h : collection.class? name = some decl) : collection.Loaded decl :=
  (NameMap.mem_values_iff _ _).mpr ⟨name, h⟩

theorem mem_keys_of_class? {name : String} {decl : JavaClass}
    (h : collection.class? name = some decl) : name ∈ collection.classes.keys :=
  (NameMap.mem_keys_iff _ _).mpr (Option.isSome_iff_exists.mpr ⟨decl, h⟩)

theorem loaded_of_classOf? {type : JavaType} {decl : JavaClass}
    (h : collection.classOf? type = some decl) : collection.Loaded decl := by
  obtain ⟨name, -, hname⟩ := Option.bind_eq_some_iff.mp h
  exact loaded_of_class? hname

theorem loaded_of_mem_select {condition : String → Bool} {decl : JavaClass}
    (h : decl ∈ collection.select condition) : collection.Loaded decl := by
  obtain ⟨e, he, rfl⟩ := List.mem_map.mp h
  exact List.mem_map_of_mem (List.mem_filter.mp he).1

theorem class?_ofClasses (classes : List JavaClass) (name : String) :
    (ofClasses classes).class? name = classes.find? fun c => c.name == name := by
  induction classes using List.reverseRecOn with
  | nil => rfl
  | append_singleton classes c ih =>
    have hadd : ofClasses (classes ++ [c]) = (ofClasses classes).add c := by simp [ofClasses]
    rw [hadd, class?_add, ih, List.find?_append]
    by_cases hname : name = c.name
    · cases classes.find? _ <;> simp [hname]
    · cases classes.find? _ <;> simp [hname, Ne.symm hname]

/-- Every class stands under its own name. -/
def ByName (collection : ClassCollection) : Prop :=
  ∀ name decl, collection.class? name = some decl → decl.name = name

theorem byName_ofClasses (classes : List JavaClass) : (ofClasses classes).ByName := by
  intro name decl h
  rw [class?_ofClasses] at h
  simpa using List.find?_some h

theorem ByName.class?_name (h : collection.ByName) {decl : JavaClass}
    (hloaded : collection.Loaded decl) : collection.class? decl.name = some decl := by
  obtain ⟨name, hname⟩ := (NameMap.mem_values_iff _ _).mp hloaded
  have heq : decl.name = name := h name decl hname
  rw [heq]
  exact hname

/-- Then loaded classes of one name are one class. -/
theorem ByName.eq_of_name_eq (h : collection.ByName) {decl other : JavaClass}
    (hdecl : collection.Loaded decl) (hother : collection.Loaded other)
    (hname : decl.name = other.name) : decl = other := by
  have hfound := h.class?_name hdecl
  rw [hname, h.class?_name hother] at hfound
  exact (Option.some.inj hfound).symm

end ClassCollection

namespace BoundClass

variable {collection : ClassCollection}

/-- A loaded class, whose own variables are all that its environment binds. -/
structure Fits (collection : ClassCollection) (bound : BoundClass) : Prop where
  loaded : collection.Loaded bound.decl
  proper : bound.environment.Proper
  names : bound.environment.names ⊆ bound.decl.schema.names

theorem fits_raw {decl : JavaClass} (h : collection.Loaded decl) : (raw decl).Fits collection :=
  ⟨h, TypeEnvironment.proper_empty, List.nil_subset _⟩

theorem fits_apply {decl : JavaClass} {arguments : List JavaType} {env : TypeEnvironment}
    (hloaded : collection.Loaded decl) (h : decl.schema.apply arguments = .ok env) :
    Fits collection ⟨decl, env⟩ := by
  unfold TypeSchema.apply at h
  split_ifs at h
  · cases h
    exact fits_raw hloaded
  · cases h
    refine ⟨hloaded, TypeEnvironment.proper_ofBindings _, ?_⟩
    refine List.Subset.trans (TypeEnvironment.names_ofBindings_subset _) fun name hname => ?_
    obtain ⟨b, hb, rfl⟩ := List.mem_map.mp hname
    exact (List.of_mem_zip hb).1

end BoundClass

/-! ## Computations that can fail -/

/-- What holds of the value of a computation, and of its failure. -/
def Gives {ε α : Type} (post : α → Prop) (fault : ε → Prop) : Except ε α → Prop
  | .ok a => post a
  | .error e => fault e

section

variable {ε α β : Type} {fault : ε → Prop}

theorem gives_bind {x : Except ε α} {f : α → Except ε β} {P : α → Prop} {post : β → Prop}
    (hx : Gives P fault x) (hf : ∀ a, P a → Gives post fault (f a)) :
    Gives post fault (x >>= f) := by
  cases x with
  | error e => exact hx
  | ok a => exact hf a hx

theorem Gives.ok {x : Except ε α} {post : α → Prop} (h : Gives post fault x) {a : α}
    (hx : x = .ok a) : post a := by
  rw [hx] at h
  exact h

theorem Gives.error {x : Except ε α} {post : α → Prop} (h : Gives post fault x) {e : ε}
    (hx : x = .error e) : fault e := by
  rw [hx] at h
  exact h

theorem Gives.imp {x : Except ε α} {P post : α → Prop} (hx : Gives P fault x)
    (h : ∀ a, P a → post a) : Gives post fault x := by
  cases x with
  | error e => exact hx
  | ok a => exact h a hx

theorem gives_foldlM {f : β → α → Except ε β} {l : List α} {b : β} {keeps : β → Prop}
    (hstep : ∀ b, ∀ a ∈ l, keeps b → Gives keeps fault (f b a)) (hb : keeps b) :
    Gives keeps fault (l.foldlM f b) := by
  induction l generalizing b with
  | nil => exact hb
  | cons a l ih =>
    rw [List.foldlM_cons]
    exact gives_bind (hstep b a (by simp) hb) fun b' hb' =>
      ih (fun b a ha => hstep b a (by simp [ha])) hb'

/-- Where every step is the same in one way as in another, the loop is. -/
theorem foldlM_eq_of_gives {f g : β → α → Except ε β} {l : List α} {b : β} (keeps : β → Prop)
    (fault : ε → Prop) (heq : ∀ b, ∀ a ∈ l, keeps b → f b a = g b a)
    (hstep : ∀ b, ∀ a ∈ l, keeps b → Gives keeps fault (g b a)) (hb : keeps b) :
    l.foldlM f b = l.foldlM g b := by
  induction l generalizing b with
  | nil => rfl
  | cons a l ih =>
    have hgives := hstep b a (by simp) hb
    rw [List.foldlM_cons, List.foldlM_cons, heq b a (by simp) hb]
    cases hnext : g b a with
    | error e => rfl
    | ok b' =>
      exact ih (fun b a ha => heq b a (by simp [ha])) (fun b a ha => hstep b a (by simp [ha]))
        (hgives.ok hnext)

theorem gives_mapM {f : α → Except ε β} {l : List α}
    (hf : ∀ a ∈ l, Gives (fun _ => True) fault (f a)) :
    Gives (fun _ => True) fault (l.mapM f) := by
  induction l with
  | nil => exact trivial
  | cons a l ih =>
    rw [List.mapM_cons]
    exact gives_bind (hf a (by simp)) fun _ _ =>
      gives_bind (ih fun a ha => hf a (by simp [ha])) fun _ _ => trivial

theorem gives_lift {x : Except SurfaceError α} {post : α → Prop} {fault : SurfaceError → Prop}
    {fault' : Halt → Prop} (hx : Gives post fault x) (h : ∀ e, fault e → fault' (.failed e)) :
    Gives post fault' (Halt.lift x) := by
  cases x with
  | error e => exact h e hx
  | ok a => exact hx

end

/-- The number of arguments is not that of the variables. -/
def SurfaceError.IsArity (e : SurfaceError) : Prop :=
  ∃ expected found, e = .schemaArity expected found

namespace ClassCollection

variable {collection : ClassCollection}

theorem gives_bind? (collection : ClassCollection) (type : JavaType) (env : TypeEnvironment) :
    Gives (fun bound => ∀ b ∈ bound, BoundClass.Fits collection b) SurfaceError.IsArity
      (collection.bind? type env) := by
  unfold bind?
  cases hclass : collection.classOf? type with
  | none => exact fun _ hb => nomatch hb
  | some decl =>
    simp only
    cases happly : decl.schema.apply (argumentsIn env type) with
    | error e =>
      unfold TypeSchema.apply at happly
      split_ifs at happly
      exact ⟨_, _, (Except.error.inj happly).symm⟩
    | ok bound =>
      rintro _ ⟨⟩
      exact BoundClass.fits_apply (loaded_of_classOf? hclass) happly

theorem gives_addInterface (steps : Nat) {start between : List BoundClass} (interface : JavaType)
    (env : TypeEnvironment)
    (hbetween : start ⊆ between ∧ ∀ l ∈ between, BoundClass.Fits collection l)
    (hadd : ∀ {levels : List BoundClass} {bound : BoundClass}, bound.Fits collection →
      (∀ l ∈ levels, BoundClass.Fits collection l) →
      Gives (fun after => levels ⊆ after ∧ ∀ l ∈ after, BoundClass.Fits collection l)
        SurfaceError.IsArity (collection.addInterfaces steps levels bound)) :
    Gives (fun after => start ⊆ after ∧ ∀ l ∈ after, BoundClass.Fits collection l)
      SurfaceError.IsArity (do
        match ← collection.bind? interface env with
        | none => pure between
        | some next => collection.addInterfaces steps between next) := by
  refine gives_bind (collection.gives_bind? interface env) fun next hnext => ?_
  cases next with
  | none => exact hbetween
  | some next =>
    refine (hadd (hnext next rfl) hbetween.2).imp fun after hafter => ?_
    exact ⟨List.Subset.trans hbetween.1 hafter.1, hafter.2⟩

/-- Classes are added behind the levels that are there. -/
theorem gives_addInterfaces (steps : Nat) {levels : List BoundClass} {bound : BoundClass}
    (hbound : bound.Fits collection) (hlevels : ∀ l ∈ levels, BoundClass.Fits collection l) :
    Gives (fun after => levels ⊆ after ∧ ∀ l ∈ after, BoundClass.Fits collection l)
      SurfaceError.IsArity (collection.addInterfaces steps levels bound) := by
  induction steps generalizing levels bound with
  | zero => exact ⟨List.Subset.refl _, hlevels⟩
  | succ steps ih =>
    rw [addInterfaces]
    split_ifs
    · exact ⟨List.Subset.refl _, hlevels⟩
    · have hstart : levels ⊆ levels ++ [bound] := List.subset_append_left _ _
      refine gives_foldlM (fun between interface _ hbetween => ?_)
        ⟨hstart, List.forall_mem_append.mpr ⟨hlevels, by simpa using hbound⟩⟩
      exact gives_addInterface steps interface bound.environment hbetween ih

theorem gives_superclass? (collection : ClassCollection) (bound : BoundClass) :
    Gives (fun next => ∀ b ∈ next, BoundClass.Fits collection b) SurfaceError.IsArity
      (collection.superclass? bound) := by
  unfold superclass?
  cases bound.decl.superclass with
  | none => exact fun _ hb => nomatch hb
  | some type => exact collection.gives_bind? type bound.environment

/-- The levels above a class fit. Only numbers of arguments can be wrong there, or the chain of
superclasses has no end. -/
theorem gives_climb (steps : Nat) {levels : List BoundClass} {bound : BoundClass}
    (hbound : bound.Fits collection) (hlevels : ∀ l ∈ levels, BoundClass.Fits collection l) :
    Gives (fun after => ∀ l ∈ after, BoundClass.Fits collection l)
      (fun h => h = .endless ∨ ∃ e, h = .failed e ∧ e.IsArity)
      (collection.climb steps levels bound) := by
  induction steps generalizing levels bound with
  | zero => exact .inl rfl
  | succ steps ih =>
    rw [climb]
    refine gives_bind (gives_lift (gives_addInterfaces _ hbound hlevels)
      fun e he => .inr ⟨e, rfl, he⟩) fun after hafter => ?_
    refine gives_bind (gives_lift (collection.gives_superclass? bound)
      fun e he => .inr ⟨e, rfl, he⟩) fun next hnext => ?_
    cases next with
    | none => exact hafter.2
    | some next => exact ih (hnext next rfl) hafter.2

theorem gives_hierarchy {start : BoundClass} (h : start.Fits collection) :
    Gives (fun levels => ∀ l ∈ levels, BoundClass.Fits collection l)
      (fun h => h = .endless ∨ ∃ e, h = .failed e ∧ e.IsArity) (collection.hierarchy start) :=
  gives_climb _ h (by simp)

end ClassCollection

end ApiSurface
