import Mathlib.Logic.Relation
import ApiSurface.Proofs.ClassKind
import ApiSurface.Proofs.Levels

/-!
# Instances and subclasses

Links lead from a loaded class to the supertypes that it declares, and from another class to those
that are known of the platform. A type is an instance of whatever links lead to from its class. A
search that follows the links ends, in whichever order it takes what is pending, also where
supertypes refer to each other in a cycle, and what it finds are the names that links lead to.
-/

namespace ApiSurface

open Relation

/-- Every class of the platform is listed once. -/
theorem PlatformTypes.supertypes_of_mem :
    ∀ entry ∈ table, supertypes entry.1 = some entry.2 := by
  decide +kernel

theorem PlatformTypes.supertypes_eq_some_iff {name : String} {supers : List String} :
    supertypes name = some supers ↔ (name, supers) ∈ table := by
  constructor
  · intro h
    obtain ⟨front, back, hsplit, -⟩ := List.lookup_eq_some_iff.mp h
    rw [hsplit]
    exact List.mem_append_right front List.mem_cons_self
  · intro h
    exact supertypes_of_mem (name, supers) h

/-- A type answers as the class behind it, and a wildcard as its upper bound. -/
inductive JavaType.AnswersAs : JavaType → String → Prop where
  | own {type : JavaType} {name : String} : type.erasure = some name → AnswersAs type name
  | bound {upper : JavaType} {lower : Option JavaType} {name : String} :
      AnswersAs upper name → AnswersAs (.wildcard (some upper) lower) name

namespace ClassCollection

variable {collection : ClassCollection} {origin target name above : String}

/-- A loaded class has the supertypes that it declares, as far as a class is behind them. A class
that is not loaded has those listed for the platform. -/
inductive DirectSupertype (collection : ClassCollection) : String → String → Prop where
  | declared {name above : String} {decl : JavaClass} {type : JavaType} :
      collection.class? name = some decl → decl.superclass = some type ∨ type ∈ decl.interfaces →
      type.erasure = some above → DirectSupertype collection name above
  | platform {name above : String} {supers : List String} :
      collection.class? name = none → (name, supers) ∈ PlatformTypes.table → above ∈ supers →
      DirectSupertype collection name above

/-- A class is a subtype of itself and of the supertypes of its supertypes. -/
def IsSubtype (collection : ClassCollection) : String → String → Prop :=
  ReflTransGen collection.DirectSupertype

theorem mem_supertypeNames_iff :
    above ∈ collection.supertypeNames name ↔ collection.DirectSupertype name above := by
  unfold supertypeNames
  constructor
  · intro h
    cases hclass : collection.class? name with
    | some decl =>
      rw [hclass] at h
      obtain ⟨type, htype, herasure⟩ := List.mem_filterMap.mp h
      have hdeclared : decl.superclass = some type ∨ type ∈ decl.interfaces := by
        simpa [JavaClass.supertypes] using htype
      exact .declared hclass hdeclared herasure
    | none =>
      rw [hclass] at h
      cases hlisted : PlatformTypes.supertypes name with
      | none => simp [hlisted] at h
      | some supers =>
        rw [hlisted] at h
        exact .platform hclass (PlatformTypes.supertypes_eq_some_iff.mp hlisted) h
  · intro h
    cases h with
    | @declared decl type hclass hdeclared herasure =>
      rw [hclass]
      have htype : type ∈ decl.supertypes := by simpa [JavaClass.supertypes] using hdeclared
      exact List.mem_filterMap.mpr ⟨type, htype, herasure⟩
    | platform hclass hlisted habove =>
      rw [hclass, PlatformTypes.supertypes_eq_some_iff.mpr hlisted]
      exact habove

/-! ## Rounds of a search -/

/-- What a search has followed, and what it has still to look at. -/
structure Search where
  seen : List String
  pending : List String

/-- One round of a search for another name than the one that it takes. Any of the pending names may
be taken. It is passed over if it was seen, and else followed. -/
inductive Round (collection : ClassCollection) (target : String) : Search → Search → Prop where
  | again {seen pending rest : List String} {name : String} :
      pending.Perm (name :: rest) → name ≠ target → name ∈ seen →
      Round collection target ⟨seen, pending⟩ ⟨seen, rest⟩
  | follow {seen pending rest : List String} {name : String} :
      pending.Perm (name :: rest) → name ≠ target → name ∉ seen →
      Round collection target ⟨seen, pending⟩
        ⟨name :: seen, collection.supertypeNames name ++ rest⟩

/-- Whatever is pending can be taken. -/
theorem exists_round {search : Search} (hname : name ∈ search.pending) (hne : name ≠ target) :
    ∃ after, collection.Round target search after := by
  have hperm := List.perm_cons_erase hname
  by_cases hseen : name ∈ search.seen
  · exact ⟨_, .again hperm hne hseen⟩
  · exact ⟨_, .follow hperm hne hseen⟩

/-- The links that a search may follow, with the names that they lead from. -/
def namedLinks (collection : ClassCollection) : List (String × String) :=
  (collection.classes.keys.flatMap fun name => (collection.supertypeNames name).map (name, ·)) ++
    PlatformTypes.table.flatMap fun entry => entry.2.map (entry.1, ·)

theorem length_namedLinks : collection.namedLinks.length = collection.supertypeLinks.length := by
  simp [namedLinks, supertypeLinks, List.length_flatMap]

theorem supertypeNames_sublist (collection : ClassCollection) (name : String) :
    ((collection.supertypeNames name).map (name, ·)).Sublist collection.namedLinks := by
  unfold namedLinks
  cases hclass : collection.class? name with
  | some decl =>
    apply List.Sublist.trans _ (List.sublist_append_left _ _)
    apply List.sublist_flatten_of_mem
    exact List.mem_map.mpr ⟨name, mem_keys_of_class? hclass, rfl⟩
  | none =>
    cases hlisted : PlatformTypes.supertypes name with
    | none => simp [supertypeNames, hclass, hlisted]
    | some supers =>
      have hnames : collection.supertypeNames name = supers := by
        simp [supertypeNames, hclass, hlisted]
      rw [hnames]
      apply List.Sublist.trans _ (List.sublist_append_right _ _)
      apply List.sublist_flatten_of_mem
      exact List.mem_map.mpr ⟨(name, supers), PlatformTypes.supertypes_eq_some_iff.mp hlisted, rfl⟩

/-- Links from names that were not seen, and names that are pending. -/
def Search.weight (collection : ClassCollection) (search : Search) : Nat :=
  collection.namedLinks.countP (fun link => link.1 ∉ search.seen) + search.pending.length

theorem countP_seen {seen : List String} (h : name ∉ seen) (links : List (String × String)) :
    (links.countP fun link => link.1 = name) + (links.countP fun link => link.1 ∉ name :: seen) =
      links.countP fun link => link.1 ∉ seen := by
  induction links with
  | nil => rfl
  | cons link links ih =>
    simp only [List.countP_cons, List.mem_cons, decide_eq_true_eq] at ih ⊢
    by_cases hlink : link.1 = name
    · simp [hlink, h] at ih ⊢
      omega
    · simp [hlink] at ih ⊢
      omega

/-- A name that is followed for the first time takes its own links from those that are left. -/
theorem countP_follow (collection : ClassCollection) {seen : List String} (h : name ∉ seen) :
    (collection.supertypeNames name).length +
        collection.namedLinks.countP (fun link => link.1 ∉ name :: seen) ≤
      collection.namedLinks.countP fun link => link.1 ∉ seen := by
  have hown : (collection.supertypeNames name).length ≤
      collection.namedLinks.countP fun link => link.1 = name := by
    have hcount := (supertypeNames_sublist collection name).countP_le
      (p := fun link => link.1 = name)
    simpa [List.countP_map, Function.comp_def] using hcount
  have hsplit := countP_seen h collection.namedLinks
  omega

/-- Every round takes a pending name, and puts as many names in its place as links are done with. -/
theorem weight_lt_of_round {before after : Search} (h : collection.Round target before after) :
    after.weight collection < before.weight collection := by
  cases h with
  | again hperm _ _ =>
    have hlength := hperm.length_eq
    rw [List.length_cons] at hlength
    simp only [Search.weight]
    omega
  | follow hperm _ hseen =>
    have hlength := hperm.length_eq
    have hcount := countP_follow collection hseen
    rw [List.length_cons] at hlength
    simp only [Search.weight, List.length_append]
    omega

theorem wellFounded_round (collection : ClassCollection) (target : String) :
    WellFounded fun after before => collection.Round target before after :=
  Subrelation.wf weight_lt_of_round (measure (Search.weight collection)).wf

/-! ## What a search finds -/

/-- What holds of a search for a supertype of a class: what it has met are supertypes of the class,
which was met too, with whatever the links of a followed name lead to. -/
structure Sought (collection : ClassCollection) (origin target : String) (search : Search) :
    Prop where
  sound : ∀ name ∈ search.seen ++ search.pending, collection.IsSubtype origin name
  origin : origin ∈ search.seen ++ search.pending
  links : ∀ name ∈ search.seen, ∀ above ∈ collection.supertypeNames name,
    above ∈ search.seen ++ search.pending
  missed : target ∉ search.seen

theorem sought_start (origin target : String) :
    collection.Sought origin target ⟨[], [origin]⟩ where
  sound := by
    intro name hname
    rw [List.mem_singleton.mp hname]
    exact .refl
  origin := List.mem_singleton.mpr rfl
  links := fun name hname => absurd hname List.not_mem_nil
  missed := List.not_mem_nil

theorem Round.met {before after : Search} (h : collection.Round target before after)
    {name : String} (hname : name ∈ before.seen ++ before.pending) :
    name ∈ after.seen ++ after.pending := by
  cases h with
  | again hperm _ hseen =>
    rcases List.mem_append.mp hname with hname | hname
    · exact List.mem_append_left _ hname
    · rcases List.mem_cons.mp (hperm.mem_iff.mp hname) with rfl | hname
      · exact List.mem_append_left _ hseen
      · exact List.mem_append_right _ hname
  | follow hperm _ _ =>
    rcases List.mem_append.mp hname with hname | hname
    · exact List.mem_append_left _ (List.mem_cons_of_mem _ hname)
    · rcases List.mem_cons.mp (hperm.mem_iff.mp hname) with rfl | hname
      · exact List.mem_append_left _ List.mem_cons_self
      · exact List.mem_append_right _ (List.mem_append_right _ hname)

theorem Sought.round {before after : Search} (h : collection.Sought origin target before)
    (hround : collection.Round target before after) : collection.Sought origin target after := by
  have hlinks : ∀ name ∈ before.seen, ∀ above ∈ collection.supertypeNames name,
      above ∈ after.seen ++ after.pending :=
    fun name hname above habove => hround.met (h.links name hname above habove)
  have horigin := hround.met h.origin
  cases hround with
  | @again seen pending rest name hperm _ _ =>
    refine ⟨?_, horigin, hlinks, h.missed⟩
    intro name hname
    apply h.sound
    rcases List.mem_append.mp hname with hname | hname
    · exact List.mem_append_left _ hname
    · exact List.mem_append_right _ (hperm.mem_iff.mpr (List.mem_cons_of_mem _ hname))
  | @follow seen pending rest name hperm hne _ =>
    have hpending : ∀ {other}, other ∈ name :: rest → collection.IsSubtype origin other :=
      fun hother => h.sound _ (List.mem_append_right _ (hperm.mem_iff.mpr hother))
    have hname : collection.IsSubtype origin name := hpending List.mem_cons_self
    refine ⟨?_, horigin, ?_, ?_⟩
    · intro other hother
      rcases List.mem_append.mp hother with hother | hother
      · rcases List.mem_cons.mp hother with rfl | hother
        · exact hname
        · exact h.sound _ (List.mem_append_left _ hother)
      · rcases List.mem_append.mp hother with hother | hother
        · exact hname.tail (mem_supertypeNames_iff.mp hother)
        · exact hpending (List.mem_cons_of_mem _ hother)
    · intro other hother above habove
      rcases List.mem_cons.mp hother with rfl | hother
      · exact List.mem_append_right _ (List.mem_append_left _ habove)
      · exact hlinks other hother above habove
    · intro htarget
      rcases List.mem_cons.mp htarget with heq | htarget
      · exact hne heq.symm
      · exact h.missed htarget

theorem Sought.rounds {before after : Search} (h : collection.Sought origin target before)
    (hrounds : ReflTransGen (collection.Round target) before after) :
    collection.Sought origin target after := by
  induction hrounds with
  | refl => exact h
  | tail _ hround ih => exact ih.round hround

theorem Sought.isSubtype_of_mem {search : Search} (h : collection.Sought origin target search)
    (htarget : target ∈ search.pending) : collection.IsSubtype origin target :=
  h.sound target (List.mem_append_right _ htarget)

/-- If nothing is pending, what was followed is closed under the links. -/
theorem Sought.not_isSubtype {search : Search} (h : collection.Sought origin target search)
    (hdone : search.pending = []) : ¬ collection.IsSubtype origin target := by
  have hseen : ∀ {name}, name ∈ search.seen ++ search.pending → name ∈ search.seen := by
    simp [hdone]
  intro htarget
  have hclosed : ∀ {name}, collection.IsSubtype origin name → name ∈ search.seen := by
    intro name hname
    induction hname with
    | refl => exact hseen h.origin
    | tail _ hlink ih => exact hseen (h.links _ ih _ (mem_supertypeNames_iff.mpr hlink))
  exact h.missed (hclosed htarget)

/-- Where no round is left, nothing else than the target is pending. -/
theorem Sought.mem_of_isSubtype {search : Search} (h : collection.Sought origin target search)
    (hlast : ∀ after, ¬ collection.Round target search after)
    (htarget : collection.IsSubtype origin target) : target ∈ search.pending := by
  obtain ⟨name, hname⟩ : ∃ name, name ∈ search.pending := by
    apply List.exists_mem_of_ne_nil
    intro hdone
    exact h.not_isSubtype hdone htarget
  by_cases hne : name = target
  · exact hne ▸ hname
  · obtain ⟨after, hround⟩ := exists_round hname hne
    exact absurd hround (hlast after)

/-- By induction on the steps, each of which is a round with the first pending name. -/
theorem reaches_iff {steps : Nat} {seen pending : List String}
    (h : collection.Sought origin target ⟨seen, pending⟩)
    (hsteps : Search.weight collection ⟨seen, pending⟩ ≤ steps) :
    collection.reaches target steps seen pending = true ↔ collection.IsSubtype origin target := by
  induction steps generalizing seen pending with
  | zero =>
    cases pending with
    | nil => simpa [reaches] using h.not_isSubtype rfl
    | cons name rest => simp [Search.weight] at hsteps
  | succ steps ih =>
    cases pending with
    | nil => simpa [reaches] using h.not_isSubtype rfl
    | cons name rest =>
      rw [reaches]
      by_cases htarget : name = target
      · subst htarget
        simpa using h.isSubtype_of_mem List.mem_cons_self
      · rw [if_neg htarget]
        by_cases hseen : name ∈ seen
        · have hround : collection.Round target ⟨seen, name :: rest⟩ ⟨seen, rest⟩ :=
            .again (List.Perm.refl _) htarget hseen
          have hweight := weight_lt_of_round hround
          rw [if_pos (List.contains_iff_mem.mpr hseen)]
          exact ih (h.round hround) (by omega)
        · have hround : collection.Round target ⟨seen, name :: rest⟩
              ⟨name :: seen, collection.supertypeNames name ++ rest⟩ :=
            .follow (List.Perm.refl _) htarget hseen
          have hweight := weight_lt_of_round hround
          rw [if_neg (mt List.contains_iff_mem.mp hseen)]
          exact ih (h.round hround) (by omega)

theorem isSubclass_iff : collection.isSubclass origin target = true ↔
    collection.IsSubtype origin target := by
  apply reaches_iff (sought_start origin target)
  simp only [Search.weight, ← length_namedLinks, List.length_singleton]
  exact Nat.succ_le_succ List.countP_le_length

theorem answersAs_wildcard_iff {upper lower : Option JavaType} :
    (JavaType.wildcard upper lower).AnswersAs name ↔ ∃ bound ∈ upper, bound.AnswersAs name := by
  constructor
  · intro h
    cases h with
    | own herasure => cases herasure
    | bound h => exact ⟨_, rfl, h⟩
  · rintro ⟨bound, rfl, h⟩
    exact .bound h

theorem answersAs_iff {type : JavaType} (htype : ∀ upper lower, type ≠ .wildcard upper lower) :
    type.AnswersAs name ↔ type.erasure = some name := by
  constructor
  · intro h
    cases h with
    | own herasure => exact herasure
    | bound h => exact absurd rfl (htype _ _)
  · exact .own

/-- By recursion through the bounds of wildcards. -/
theorem isInstance_iff {type : JavaType} : collection.isInstance type target = true ↔
    ∃ name, type.AnswersAs name ∧ collection.IsSubtype name target := by
  fun_induction isInstance collection type target with
  | case1 lower target bound ih =>
    rw [ih]
    simp [answersAs_wildcard_iff]
  | case2 => simp [answersAs_wildcard_iff]
  | case3 type target htype name herasure => simp [answersAs_iff htype, herasure, isSubclass_iff]
  | case4 type target htype herasure => simp [answersAs_iff htype, herasure]

/-- A search for a class from another comes to an end, in whichever order it takes what is pending.
The target gets pending only if links lead to it, and if they do, it is pending where no round is
left. A type is an instance of a class exactly if links lead there from the class that the type
answers as. So every class is an instance of itself, and what is an instance of a class is an
instance of whatever that class is an instance of. -/
theorem isInstance_exact (collection : ClassCollection) (target : String) :
    (WellFounded fun after before => collection.Round target before after) ∧
    (∀ origin search, ReflTransGen (collection.Round target) ⟨[], [origin]⟩ search →
      (target ∈ search.pending → collection.IsSubtype origin target) ∧
      ((∀ after, ¬ collection.Round target search after) →
        collection.IsSubtype origin target → target ∈ search.pending)) ∧
    (∀ type, collection.isInstance type target = true ↔
      ∃ name, type.AnswersAs name ∧ collection.IsSubtype name target) ∧
    collection.isInstance (.basic target) target = true ∧
    ∀ type between, collection.isInstance type between = true →
      collection.isInstance (.basic between) target = true →
      collection.isInstance type target = true := by
  refine ⟨wellFounded_round collection target, ?_, fun type => isInstance_iff, ?_, ?_⟩
  · intro origin search hrounds
    have hsought := (sought_start origin target).rounds hrounds
    exact ⟨hsought.isSubtype_of_mem, hsought.mem_of_isSubtype⟩
  · exact isInstance_iff.mpr ⟨target, .own rfl, .refl⟩
  · intro type between hbetween htarget
    obtain ⟨name, hname, hfirst⟩ := isInstance_iff.mp hbetween
    obtain ⟨middle, hmiddle, hsecond⟩ := isInstance_iff.mp htarget
    have heq : between = middle := by
      cases hmiddle with
      | own herasure => exact Option.some.inj herasure
    exact isInstance_iff.mpr ⟨name, hname, hfirst.trans (heq ▸ hsecond)⟩

/-- A basket is a box of the application, which is a list of the platform and, in a cycle, a basket.
The application has a stack of its own, which is no list. -/
def basketClasses : ClassCollection :=
  ofClasses [JavaClass.ofFields "Basket" .empty (.basic "Box") [],
    { JavaClass.ofFields "Box" .empty (.basic "Basket") [] with
      interfaces := [.parameterized (.basic "java.util.List") [.basic "Item"]] },
    JavaClass.ofFields "java.util.Stack" .empty .object []]

theorem isInstance_exact_basket :
    basketClasses.isInstance (.wildcard (some (.basic "Basket")) none) "java.util.List" = true ∧
    basketClasses.isInstance (.basic "java.util.List") "java.lang.Iterable" = true ∧
    basketClasses.isInstance (.wildcard (some (.basic "Basket")) none) "java.lang.Iterable" = true ∧
    ¬ ∃ name, (JavaType.basic "java.util.Stack").AnswersAs name ∧
      basketClasses.IsSubtype name "java.util.List" := by
  have hlist : basketClasses.isInstance (.wildcard (some (.basic "Basket")) none)
      "java.util.List" = true := by
    decide +kernel
  have hiterable : basketClasses.isInstance (.basic "java.util.List") "java.lang.Iterable" =
      true := by
    decide +kernel
  have hstack : basketClasses.isInstance (.basic "java.util.Stack") "java.util.List" ≠ true := by
    decide +kernel
  obtain ⟨-, -, -, -, htrans⟩ := isInstance_exact basketClasses "java.lang.Iterable"
  obtain ⟨-, -, hexact, -, -⟩ := isInstance_exact basketClasses "java.util.List"
  exact ⟨hlist, hiterable, htrans _ _ hlist hiterable, mt (hexact _).mpr hstack⟩

end ClassCollection

end ApiSurface
