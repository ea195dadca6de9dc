import ApiSurface.MetaAnnotations
import ApiSurface.Proofs.DepthFirst
import ApiSurface.Proofs.Levels

/-!
# What an annotation implies

An annotation implies what its annotation class is annotated with, and so on. Annotation classes
may be annotated with themselves and with each other. What an annotation implies is found by a walk
in depth that enters each annotation type once, ends, and leaves out no type that is implied.
-/

namespace ApiSurface.ClassCollection

open Relation DepthFirst

variable {collection : ClassCollection}

/-- The annotations on the class of an annotation type, if it is loaded. -/
def metaAnnotations (collection : ClassCollection) (type : String) : List AnnotationUse :=
  ((collection.class? type).map JavaClass.annotations).getD []

/-- From an annotation type to a type that its loaded class is annotated with. -/
def MetaLink (collection : ClassCollection) (type implied : String) : Prop :=
  ∃ decl, collection.class? type = some decl ∧ ∃ a ∈ decl.annotations, a.name = implied

/-- An annotation type implies itself, and whatever links from type to type lead to. -/
def Implies (collection : ClassCollection) : String → String → Prop :=
  ReflTransGen collection.MetaLink

/-- The walk in depth that `addImplied` takes, without a bound on its steps: a row of annotations
is gathered behind those that were found. A derivation is a walk that comes to its end. -/
inductive Gathers (collection : ClassCollection) :
    List AnnotationUse → List AnnotationUse → List AnnotationUse → Prop where
  | done (found : List AnnotationUse) : Gathers collection found [] found
  | known {found row after : List AnnotationUse} {a : AnnotationUse} :
      a.name ∈ found.map AnnotationUse.name → Gathers collection found row after →
      Gathers collection found (a :: row) after
  | new {found row between after : List AnnotationUse} {a : AnnotationUse} :
      a.name ∉ found.map AnnotationUse.name →
      Gathers collection (found ++ [a]) (collection.metaAnnotations a.name) between →
      Gathers collection between row after → Gathers collection found (a :: row) after

/-- A list that begins with an annotation, and in which each further one stands on the loaded class
of one in front of it. -/
inductive Descends (collection : ClassCollection) (a : AnnotationUse) :
    List AnnotationUse → Prop where
  | first : Descends collection a [a]
  | further {found : List AnnotationUse} {earlier next : AnnotationUse} {decl : JavaClass} :
      Descends collection a found → earlier ∈ found →
      collection.class? earlier.name = some decl → next ∈ decl.annotations →
      Descends collection a (found ++ [next])

/-! ## Types -/

/-- The types of the annotations on the class of an annotation type. -/
def metaTypes (collection : ClassCollection) (type : String) : List String :=
  (collection.metaAnnotations type).map AnnotationUse.name

theorem mem_metaAnnotations_iff {type : String} {a : AnnotationUse} :
    a ∈ collection.metaAnnotations type ↔
      ∃ decl, collection.class? type = some decl ∧ a ∈ decl.annotations := by
  unfold metaAnnotations
  cases collection.class? type <;> simp

theorem mem_metaTypes_iff {type implied : String} :
    implied ∈ collection.metaTypes type ↔ collection.MetaLink type implied := by
  simp only [metaTypes, List.mem_map, mem_metaAnnotations_iff, MetaLink]
  constructor
  · rintro ⟨a, ⟨decl, hclass, ha⟩, hname⟩
    exact ⟨decl, hclass, a, ha, hname⟩
  · rintro ⟨decl, hclass, a, ha, hname⟩
    exact ⟨a, ⟨decl, hclass, ha⟩, hname⟩

/-- Only from loaded classes can the walk go on. -/
theorem mem_keys_of_metaTypes (type : String) (h : collection.metaTypes type ≠ []) :
    type ∈ collection.classes.keys := by
  obtain ⟨implied, himplied⟩ := List.exists_mem_of_ne_nil _ h
  obtain ⟨decl, hclass, -⟩ := mem_metaTypes_iff.mp himplied
  exact mem_keys_of_class? hclass

theorem length_keys_lt (collection : ClassCollection) :
    collection.classes.keys.length < collection.size + 2 := by
  have hlength : collection.classes.keys.length = collection.size := List.length_map _
  omega

/-! ## The walk -/

theorem Gathers.cons {found row between after : List AnnotationUse} {a : AnnotationUse}
    (h : collection.Gathers found [a] between) (hrow : collection.Gathers between row after) :
    collection.Gathers found (a :: row) after := by
  cases h with
  | known hknown hdone =>
    cases hdone
    exact .known hknown hrow
  | new hnew hclass hdone =>
    cases hdone
    exact .new hnew hclass hrow

theorem addImplied_succ (steps : Nat) (found : List AnnotationUse) (a : AnnotationUse) :
    collection.addImplied (steps + 1) found a =
      if a.name ∈ found.map AnnotationUse.name then found
      else (collection.metaAnnotations a.name).foldl (collection.addImplied steps)
        (found ++ [a]) := by
  have hknown : (found.any fun f => f.name == a.name) = true ↔
      a.name ∈ found.map AnnotationUse.name := by
    simp [List.any_eq_true]
  simp only [addImplied, hknown]
  rfl

/-- The types of what is found are those that a walk from type to type enters. -/
theorem names_addImplied (steps : Nat) (found : List AnnotationUse) (a : AnnotationUse) :
    (collection.addImplied steps found a).map AnnotationUse.name =
      visit collection.metaTypes steps (found.map AnnotationUse.name) a.name := by
  induction steps generalizing found a with
  | zero => rfl
  | succ steps ih =>
    rw [addImplied_succ, visit]
    split_ifs with hknown
    · rfl
    · rw [metaTypes, List.foldl_map, ← List.map_singleton, ← List.map_append]
      exact (List.foldl_hom (List.map AnnotationUse.name)
        fun found next => (ih found next).symm).symm

/-- A walk that has enough steps comes to its end. By induction on the steps, and where a class is
entered on the row of its annotations. -/
theorem gathers_addImplied {steps : Nat} {active : List String} {found : List AnnotationUse}
    (h : Ready collection.metaTypes collection.classes.keys steps active
      (found.map AnnotationUse.name)) (a : AnnotationUse) :
    collection.Gathers found [a] (collection.addImplied steps found a) := by
  induction steps generalizing active found a with
  | zero => exact absurd h.enough (Nat.not_lt_zero _)
  | succ steps ih =>
    rw [addImplied_succ]
    split_ifs with hknown
    · exact .known hknown (.done found)
    · refine .new hknown ?_ (.done _)
      have hnames : (found ++ [a]).map AnnotationUse.name =
          found.map AnnotationUse.name ++ [a.name] := List.map_append
      by_cases hnone : collection.metaTypes a.name = []
      · rw [List.map_eq_nil_iff.mp hnone]
        exact .done _
      · have henter := h.enter hknown hnone
        rw [← hnames] at henter
        generalize found ++ [a] = start at henter ⊢
        induction collection.metaAnnotations a.name generalizing start with
        | nil => exact .done start
        | cons next row ihrow =>
          have hrest := henter.visit next.name
          rw [← names_addImplied] at hrest
          exact (ih henter next).cons (ihrow _ hrest)

/-- What is found on the class of an annotation that was found descends from the first one, too. By
induction on the steps, and along the annotations of each class. -/
theorem descends_addImplied {root earlier a : AnnotationUse} (steps : Nat)
    {found : List AnnotationUse} (h : collection.Descends root found) (hearlier : earlier ∈ found)
    (ha : a ∈ collection.metaAnnotations earlier.name) :
    collection.Descends root (collection.addImplied steps found a) ∧
      found ⊆ collection.addImplied steps found a := by
  induction steps generalizing found earlier a with
  | zero => exact ⟨h, List.Subset.refl found⟩
  | succ steps ih =>
    rw [addImplied_succ]
    split_ifs with hknown
    · exact ⟨h, List.Subset.refl found⟩
    · obtain ⟨decl, hclass, hdeclared⟩ := mem_metaAnnotations_iff.mp ha
      have hstart : collection.Descends root (found ++ [a]) ∧ found ++ [a] ⊆ found ++ [a] :=
        ⟨h.further hearlier hclass hdeclared, List.Subset.refl _⟩
      have hrow := List.foldlRecOn (motive := fun between =>
        collection.Descends root between ∧ found ++ [a] ⊆ between)
        (collection.metaAnnotations a.name) (collection.addImplied steps) hstart
        fun between hbetween next hnext => by
          have hmem : a ∈ between := hbetween.2 (List.mem_append_right _ List.mem_cons_self)
          obtain ⟨hdescends, hsub⟩ := ih hbetween.1 hmem hnext
          exact ⟨hdescends, List.Subset.trans hbetween.2 hsub⟩
      exact ⟨hrow.1, List.Subset.trans (List.subset_append_left _ _) hrow.2⟩

theorem descends_implied (a : AnnotationUse) : collection.Descends a (collection.implied a) := by
  rw [implied, addImplied_succ, if_neg (by simp), List.nil_append]
  refine List.foldlRecOn (motive := fun between => collection.Descends a between ∧ a ∈ between)
    (collection.metaAnnotations a.name) _ ⟨.first, List.mem_cons_self⟩ ?_ |>.1
  intro between hbetween next hnext
  obtain ⟨hdescends, hsub⟩ := descends_addImplied _ hbetween.1 hbetween.2 hnext
  exact ⟨hdescends, hsub hbetween.2⟩

theorem Descends.head?_eq {a : AnnotationUse} {found : List AnnotationUse}
    (h : collection.Descends a found) : found.head? = some a := by
  induction h with
  | first => rfl
  | further _ _ _ _ ih => rw [List.head?_append, ih, Option.some_or]

/-! ## The closure -/

theorem names_implied (a : AnnotationUse) :
    (collection.implied a).map AnnotationUse.name =
      [a.name].foldl (visit collection.metaTypes (collection.size + 2)) [] :=
  names_addImplied _ _ _

theorem mem_names_implied_iff {a : AnnotationUse} {type : String} :
    type ∈ (collection.implied a).map AnnotationUse.name ↔ collection.Implies a.name type := by
  rw [names_implied, mem_walk_iff mem_keys_of_metaTypes (length_keys_lt collection)]
  simp [Implies, reaches_iff_links fun _ _ => mem_metaTypes_iff]

theorem gathers_implied (a : AnnotationUse) : collection.Gathers [] [a] (collection.implied a) :=
  gathers_addImplied (.start mem_keys_of_metaTypes (length_keys_lt collection)) a

theorem any_implied_iff {a : AnnotationUse} {type : String} :
    ((collection.implied a).any fun i => i.name == type) = true ↔
      collection.Implies a.name type := by
  rw [← mem_names_implied_iff]
  simp [List.any_eq_true]

theorem resolve?_eq_some_iff {annotations : List AnnotationUse} {type : String}
    {r : ResolvedUse} :
    collection.resolve? annotations type = some r ↔ ∃ front a back,
      annotations = front ++ a :: back ∧ collection.Implies a.name type ∧
        (∀ earlier ∈ front, ¬ collection.Implies earlier.name type) ∧
        r = ⟨type, collection.implied a⟩ := by
  simp only [resolve?, List.findSome?_eq_some_iff, Option.ite_none_right_eq_some,
    ite_eq_right_iff, any_implied_iff, reduceCtorEq, imp_false, Option.some.injEq]
  constructor
  · rintro ⟨front, a, back, hsplit, ⟨himplies, rfl⟩, hfront⟩
    exact ⟨front, a, back, hsplit, himplies, hfront, rfl⟩
  · rintro ⟨front, a, back, hsplit, himplies, hfront, rfl⟩
    exact ⟨front, a, back, hsplit, ⟨himplies, rfl⟩, hfront⟩

theorem isSome_resolve?_iff {annotations : List AnnotationUse} {type : String} :
    (collection.resolve? annotations type).isSome ↔
      ∃ a ∈ annotations, collection.Implies a.name type := by
  simp only [resolve?, List.findSome?_isSome_iff]
  simp only [Option.isSome_iff_exists, Option.ite_none_right_eq_some, any_implied_iff,
    exists_and_left, Option.some.injEq, exists_eq', and_true]

/-- What an annotation implies is gathered by a walk that ends. It begins with the annotation, goes
on with annotations on loaded classes of those in front, has no type twice, and has exactly the
types that links from annotation types to those of the annotations on their classes lead to. So an
element carries a type exactly if links lead to it from one of its annotations, and the type is seen
through what the first such annotation implies. -/
theorem implied_exact (collection : ClassCollection) (a : AnnotationUse) :
    collection.Gathers [] [a] (collection.implied a) ∧
    (collection.implied a).head? = some a ∧
    collection.Descends a (collection.implied a) ∧
    ((collection.implied a).map AnnotationUse.name).Nodup ∧
    (∀ type, type ∈ (collection.implied a).map AnnotationUse.name ↔
      collection.Implies a.name type) ∧
    ∀ annotations type,
      ((collection.resolve? annotations type).isSome ↔
        ∃ b ∈ annotations, collection.Implies b.name type) ∧
      ∀ r, collection.resolve? annotations type = some r ↔ ∃ front b back,
        annotations = front ++ b :: back ∧ collection.Implies b.name type ∧
          (∀ earlier ∈ front, ¬ collection.Implies earlier.name type) ∧
          r = ⟨type, collection.implied b⟩ := by
  refine ⟨gathers_implied a, (descends_implied a).head?_eq, descends_implied a, ?_,
    fun type => mem_names_implied_iff,
    fun annotations type => ⟨isSome_resolve?_iff, fun r => resolve?_eq_some_iff⟩⟩
  rw [names_implied]
  exact nodup_foldl_visit _ List.nodup_nil [a.name]

end ApiSurface.ClassCollection
