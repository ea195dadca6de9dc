import Mathlib.Data.List.Perm.Subperm
import Mathlib.Logic.Relation
import ApiSurface.Proofs.DepthFirst
import ApiSurface.Proofs.Failures

/-!
# Trails through the classes

Where following links never comes back to what was met, no trail of links is longer than there is
to meet. So the chains of superclasses and of unwrapped members end within their bounds, if they
have no cycle. The walk through interfaces ends in any case, since a level is entered once.
-/

namespace ApiSurface

open Relation

section

variable {α β : Type}

/-- Following links never leads to the label of what they start from. -/
def NoReturn (link : α → α → Prop) (label : α → β) : Prop :=
  ∀ a b, TransGen link a b → label a ≠ label b

/-- Links that go down in rank lead to no return. -/
theorem noReturn_of_rank {link : α → α → Prop} {label : α → β} (rank : β → Nat)
    (h : ∀ a b, link a b → rank (label b) < rank (label a)) : NoReturn link label := by
  intro a b hab
  have hrank : rank (label b) < rank (label a) := by
    induction hab with
    | single hlink => exact h _ _ hlink
    | tail _ hlink ih => exact Nat.lt_trans (h _ _ hlink) ih
  intro heq
  rw [heq] at hrank
  exact Nat.lt_irrefl _ hrank

/-- What was met, each under a label of its own, with links from each to all that can come next. -/
structure Trail (link : α → α → Prop) (label : α → β) (all : List β) (met : List α)
    (next : α → Prop) : Prop where
  distinct : (met.map label).Nodup
  within : met.map label ⊆ all
  leads : ∀ a ∈ met, ∀ b, next b → TransGen link a b

variable {link : α → α → Prop} {label : α → β} {all : List β} {met : List α} {next : α → Prop}

theorem trail_nil (link : α → α → Prop) (label : α → β) (all : List β) (next : α → Prop) :
    Trail link label all [] next :=
  ⟨List.nodup_nil, List.nil_subset _, by simp⟩

theorem Trail.length_le (h : Trail link label all met next) : met.length ≤ all.length := by
  have hle := (h.distinct.subperm h.within).length_le
  rwa [List.length_map] at hle

theorem Trail.imp {next' : α → Prop} (h : Trail link label all met next)
    (himp : ∀ a, next' a → next a) : Trail link label all met next' :=
  ⟨h.distinct, h.within, fun a ha b hb => h.leads a ha b (himp b hb)⟩

/-- Whatever comes next was not met, and with it the trail is one longer. -/
theorem Trail.push (h : Trail link label all met next) (hend : NoReturn link label) {a : α}
    (ha : next a) (hall : label a ∈ all) {next' : α → Prop} (hnext : ∀ b, next' b → link a b) :
    Trail link label all (a :: met) next' := by
  have hfresh : label a ∉ met.map label := by
    intro hmem
    obtain ⟨b, hb, heq⟩ := List.mem_map.mp hmem
    exact hend b a (h.leads b hb a ha) heq
  refine ⟨List.nodup_cons.mpr ⟨hfresh, h.distinct⟩, List.cons_subset.mpr ⟨hall, h.within⟩, ?_⟩
  intro b hb c hc
  rcases List.mem_cons.mp hb with rfl | hb
  · exact .single (hnext c hc)
  · exact (h.leads b hb a ha).tail (hnext c hc)

end

namespace ClassCollection

variable {collection : ClassCollection}

theorem length_values (collection : ClassCollection) :
    collection.classes.values.length = collection.size :=
  List.length_map _

theorem classOf?_of_bind? {type : JavaType} {env : TypeEnvironment} {bound : BoundClass}
    (h : collection.bind? type env = .ok (some bound)) :
    collection.classOf? type = some bound.decl := by
  unfold bind? at h
  cases hclass : collection.classOf? type with
  | none => simp [hclass] at h
  | some decl =>
    simp only [hclass] at h
    cases happly : decl.schema.apply (argumentsIn env type) with
    | error e => rw [happly] at h; cases h
    | ok bound => rw [happly] at h; cases h; rfl

/-! ## Superclasses -/

/-- From a loaded class to its superclass, if that is loaded too. -/
def SuperclassLink (collection : ClassCollection) (decl above : JavaClass) : Prop :=
  collection.Loaded decl ∧ decl.superclass.bind collection.classOf? = some above

theorem superclassLink_of_superclass? {bound next : BoundClass}
    (hloaded : collection.Loaded bound.decl)
    (h : collection.superclass? bound = .ok (some next)) :
    collection.SuperclassLink bound.decl next.decl := by
  refine ⟨hloaded, ?_⟩
  unfold superclass? at h
  cases htype : bound.decl.superclass with
  | none => simp [htype] at h
  | some type =>
    rw [htype] at h
    exact classOf?_of_bind? h

theorem climb_ne_endless (hend : NoReturn collection.SuperclassLink id) (steps : Nat)
    {levels : List BoundClass} {bound : BoundClass} {met : List JavaClass}
    (htrail : Trail collection.SuperclassLink id collection.classes.values met (· = bound.decl))
    (hloaded : collection.Loaded bound.decl) (hsteps : collection.size < steps + met.length) :
    collection.climb steps levels bound ≠ .error .endless := by
  induction steps generalizing levels bound met with
  | zero =>
    have hlength := htrail.length_le
    rw [length_values] at hlength
    omega
  | succ steps ih =>
    rw [climb]
    cases collection.addInterfaces (collection.size + 1) levels bound with
    | error e => rintro ⟨⟩
    | ok after =>
      show (Halt.lift (collection.superclass? bound) >>= _) ≠ _
      cases hnext : collection.superclass? bound with
      | error e => rintro ⟨⟩
      | ok next =>
        cases next with
        | none => rintro ⟨⟩
        | some next =>
          have hlink := superclassLink_of_superclass? hloaded hnext
          have hmore : Trail collection.SuperclassLink id collection.classes.values
              (bound.decl :: met) (· = next.decl) :=
            htrail.push hend rfl hloaded (by rintro _ rfl; exact hlink)
          have hfits := (collection.gives_superclass? bound).ok hnext next rfl
          exact ih hmore hfits.loaded (by rw [List.length_cons]; omega)

/-- A chain of superclasses without a cycle ends. -/
theorem hierarchy_ne_endless (hend : NoReturn collection.SuperclassLink id) {start : BoundClass}
    (hloaded : collection.Loaded start.decl) : collection.hierarchy start ≠ .error .endless :=
  climb_ne_endless hend _ (trail_nil _ _ _ _) hloaded (by rw [List.length_nil]; omega)

/-! ## Unwrapped members -/

/-- What is met by following unwrapped members, from a class used without arguments on. -/
inductive Unwrapped (collection : ClassCollection) : BoundClass → Prop where
  | raw {decl : JavaClass} : collection.Loaded decl → Unwrapped collection (.raw decl)
  | step {bound target : BoundClass} : Unwrapped collection bound →
      target ∈ collection.unwrapTargets bound → Unwrapped collection target

def UnwrapLink (collection : ClassCollection) (bound target : BoundClass) : Prop :=
  collection.Unwrapped bound ∧ target ∈ collection.unwrapTargets bound

theorem loaded_of_mem_unwrapTargets {bound target : BoundClass}
    (h : target ∈ collection.unwrapTargets bound) : collection.Loaded target.decl := by
  unfold unwrapTargets at h
  cases hlevels : collection.hierarchy bound with
  | error halt => simp [hlevels] at h
  | ok levels =>
    rw [hlevels] at h
    obtain ⟨⟨env, member⟩, -, h⟩ := List.mem_filterMap.mp h
    obtain ⟨-, -, h⟩ := Option.bind_eq_some_iff.mp h
    have hgives := collection.gives_bind? (member.type.resolve env) env
    cases hbind : collection.bind? (member.type.resolve env) env with
    | error e => simp [hbind, Except.toOption] at h
    | ok target' =>
      simp only [hbind, Except.toOption, Option.join_some] at h
      exact (hgives.ok hbind target h).loaded

theorem Unwrapped.loaded {bound : BoundClass} (h : collection.Unwrapped bound) :
    collection.Loaded bound.decl := by
  cases h with
  | raw h => exact h
  | step _ h => exact loaded_of_mem_unwrapTargets h

/-- Unwrapped members lead to no return where each leads to a class of a lower rank that is used
without bindings. -/
theorem noReturn_unwrapped_of_rank (rank : JavaClass → Nat)
    (h : ∀ decl ∈ collection.classes.values, ∀ target ∈ collection.unwrapTargets (.raw decl),
      target.environment = .empty ∧ rank target.decl < rank decl) :
    NoReturn collection.UnwrapLink BoundClass.decl := by
  have hraw : ∀ bound, collection.Unwrapped bound → bound = .raw bound.decl := by
    intro bound hbound
    induction hbound with
    | raw _ => rfl
    | @step bound target hbound htarget ih =>
      rw [ih] at htarget
      rw [BoundClass.raw, ← (h bound.decl hbound.loaded target htarget).1]
  refine noReturn_of_rank rank ?_
  rintro bound target ⟨hbound, htarget⟩
  rw [hraw bound hbound] at htarget
  exact (h bound.decl hbound.loaded target htarget).2

/-- A chain of unwrapped members that meets no class again ends. -/
theorem unwrapsWithin_of_noReturn (hend : NoReturn collection.UnwrapLink BoundClass.decl)
    (steps : Nat) {bound : BoundClass} {met : List BoundClass}
    (htrail : Trail collection.UnwrapLink BoundClass.decl collection.classes.values met (· = bound))
    (hbound : collection.Unwrapped bound) (hsteps : collection.size < steps + met.length) :
    collection.UnwrapsWithin steps bound := by
  induction steps generalizing bound met with
  | zero =>
    have hlength := htrail.length_le
    rw [length_values] at hlength
    omega
  | succ steps ih =>
    intro target htarget
    have hmore : Trail collection.UnwrapLink BoundClass.decl collection.classes.values
        (bound :: met) (· = target) :=
      htrail.push hend rfl hbound.loaded (by rintro _ rfl; exact ⟨hbound, htarget⟩)
    exact ih hmore (hbound.step htarget) (by rw [List.length_cons]; omega)

/-! ## Interfaces -/

/-- How many of the classes are on no level yet. -/
def unentered (collection : ClassCollection) (levels : List BoundClass) : Nat :=
  collection.classes.values.countP fun c => !levels.any fun level => level.decl.name == c.name

theorem unentered_le_size (levels : List BoundClass) :
    collection.unentered levels ≤ collection.size := by
  rw [← length_values]
  exact List.countP_le_length

theorem unentered_le_of_subset {levels after : List BoundClass} (h : levels ⊆ after) :
    collection.unentered after ≤ collection.unentered levels := by
  refine List.countP_mono_left fun c _ hc => ?_
  simp only [Bool.not_eq_true', List.any_eq_false] at hc ⊢
  exact fun level hlevel => hc level (h hlevel)

theorem unentered_append_lt {levels : List BoundClass} {bound : BoundClass}
    (hloaded : collection.Loaded bound.decl)
    (hnew : (levels.any fun level => level.decl.name == bound.decl.name) = false) :
    collection.unentered (levels ++ [bound]) < collection.unentered levels := by
  refine countP_lt_countP (fun c _ hc => ?_) hloaded ?_ ?_
  · simp only [List.any_append, Bool.not_or, Bool.and_eq_true] at hc
    exact hc.1
  · simp [hnew]
  · simp

theorem addInterfaces_succ (steps : Nat) {levels : List BoundClass} {bound : BoundClass}
    (hbound : bound.Fits collection) (hlevels : ∀ l ∈ levels, BoundClass.Fits collection l)
    (hsteps : collection.unentered levels ≤ steps) :
    collection.addInterfaces (steps + 1) levels bound =
      collection.addInterfaces steps levels bound := by
  induction steps generalizing levels bound with
  | zero =>
    cases hnew : levels.any fun level => level.decl.name == bound.decl.name with
    | true => simp [addInterfaces, hnew]
    | false =>
      have hlt := unentered_append_lt hbound.loaded hnew
      omega
  | succ steps ih =>
    rw [addInterfaces, addInterfaces]
    split_ifs with hnew
    · rfl
    · have hlt := unentered_append_lt hbound.loaded (by simpa using hnew)
      refine foldlM_eq_of_gives (fun between => levels ++ [bound] ⊆ between ∧
        ∀ l ∈ between, BoundClass.Fits collection l) SurfaceError.IsArity ?_ ?_ ?_
      · intro between interface _ hbetween
        have hgives := collection.gives_bind? interface bound.environment
        have hfew : collection.unentered between ≤ collection.unentered (levels ++ [bound]) :=
          unentered_le_of_subset hbetween.1
        cases hnext : collection.bind? interface bound.environment with
        | error e => rfl
        | ok next =>
          cases next with
          | none => rfl
          | some next => exact ih (hgives.ok hnext next rfl) hbetween.2 (by omega)
      · intro between interface _ hbetween
        exact gives_addInterface steps interface bound.environment hbetween
          fun hnext hlevels => gives_addInterfaces steps hnext hlevels
      · exact ⟨List.Subset.refl _, List.forall_mem_append.mpr ⟨hlevels, by simpa using hbound⟩⟩

/-- The walk through interfaces enters a class at most once. So it never stops for want of steps if
there are as many as classes, however the interfaces refer to each other. -/
theorem addInterfaces_eq_of_le {steps : Nat} {levels : List BoundClass} {bound : BoundClass}
    (hbound : bound.Fits collection) (hlevels : ∀ l ∈ levels, BoundClass.Fits collection l)
    (hsteps : collection.size ≤ steps) :
    collection.addInterfaces steps levels bound =
      collection.addInterfaces collection.size levels bound := by
  have hfew : collection.unentered levels ≤ collection.size := unentered_le_size levels
  obtain ⟨more, rfl⟩ := Nat.exists_eq_add_of_le hsteps
  induction more with
  | zero => rfl
  | succ more ih =>
    have hsame := addInterfaces_succ (collection.size + more) hbound hlevels (by omega)
    exact hsame.trans (ih (by omega))

end ClassCollection

end ApiSurface
