import ApiSurface.Proofs.LawfulRuns

/-!
# Building

Describing types adds to an API and to the claims of names. A definition is opened where its name
is free, and only what opened it completes it: whatever is built meanwhile leaves the placeholder
alone. So everything that was there before stays as it was, at every depth, also after a failure.
-/

namespace ApiSurface

namespace NameMap

variable {β : Type} {m m' m'' : NameMap β}

/-- Every entry of the one map stands in the other. -/
def Within (m m' : NameMap β) : Prop := ∀ n v, m.get? n = some v → m'.get? n = some v

theorem Within.refl (m : NameMap β) : m.Within m := fun _ _ => id

theorem Within.trans (h : m.Within m') (h' : m'.Within m'') : m.Within m'' :=
  fun n v hn => h' n v (h n v hn)

theorem Within.contains (h : m.Within m') {n : String} (hn : m.contains n = true) :
    m'.contains n = true := by
  obtain ⟨v, hv⟩ := Option.isSome_iff_exists.mp hn
  exact Option.isSome_iff_exists.mpr ⟨v, h n v hv⟩

/-- An entry under a name that is free at first leaves those of the start alone. -/
theorem Within.insert (h : m.Within m') {n : String} (hfree : m.contains n = false) (v : β) :
    m.Within (m'.insert n v) := by
  intro k w hk
  have hne : k ≠ n := by
    rintro rfl
    simp [NameMap.contains, hk] at hfree
  rw [get?_insert, if_neg hne]
  exact h k w hk

theorem within_insertNew (m : NameMap β) (n : String) (v : β) : m.Within (m.insertNew n v) := by
  intro k w hk
  rw [get?_insertNew]
  split_ifs with hn
  · rw [← hn, hk, Option.getD_some]
  · exact hk

end NameMap

theorem NameSet.within_add (names : NameSet) (name : String) : names.Within (names.add name) := by
  intro k w hk
  by_cases hn : k = name <;> simp [NameSet.add, hn, hk]

theorem ApiDefinition.of_not_defines {api : ApiDefinition} {name : String}
    (h : api.defines name = false) :
    api.classes.contains name = false ∧ api.enums.contains name = false ∧
      api.unions.contains name = false := by
  simpa [defines, and_assoc] using h

namespace Survey

/-- Every definition, black box, alias and claim of the one description is in the other, and is the
same there. -/
structure Keeps (d d' : Description) : Prop where
  classes : d.api.classes.Within d'.api.classes
  enums : d.api.enums.Within d'.api.enums
  unions : d.api.unions.Within d'.api.unions
  blackBoxes : d.api.blackBoxes.Within d'.api.blackBoxes
  aliases : d.api.aliases.Within d'.api.aliases
  claims : d.claims.Within d'.claims

/-- How a description comes from another one. A class or a union is opened where nothing of its
name is defined; then it is completed once by what opened it, over its placeholder, or it is left
open. -/
inductive Builds (survey : Survey) : Description → Description → Prop where
  | nothing (d : Description) : Builds survey d d
  | andThen {d d' d'' : Description} :
      Builds survey d d' → Builds survey d' d'' → Builds survey d d''
  | tell (d : Description) (e : Event) : Builds survey d (d.withEvent e)
  | follow {d d' : Description} {v : String} : v ∉ d.followed →
      Builds survey (d.withFollowed (v :: d.followed)) d' →
      Builds survey d (d'.withFollowed d'.followed.tail)
  | claim {d : Description} {q : String} : d.claims.get? (survey.nameOf q) = none →
      Builds survey d (survey.claim d q)
  | blackBox (d : Description) (name : String) : Builds survey d (d.withBlackBox name)
  | addAlias (d : Description) (name : String) (t : ApiType) : Builds survey d (d.withAlias name t)
  | addEnum {d : Description} {e : EnumDefinition} : d.api.defines e.name = false →
      Builds survey d (d.withEnum e)
  | openClass {d : Description} {name : String} : d.api.defines name = false →
      Builds survey d (d.withClass (.empty name))
  | fillClass {d d' : Description} {c : ClassDefinition} : d.api.defines c.name = false →
      Builds survey (d.withClass (.empty c.name)) d' →
      d'.api.classes.get? c.name = some (.empty c.name) → Builds survey d (d'.withClass c)
  | openUnion {d : Description} {name property : String} : d.api.defines name = false →
      Builds survey d (d.withUnion (.empty name property))
  | fillUnion {d d' : Description} {u : UnionDefinition} {property : String} :
      d.api.defines u.name = false → Builds survey (d.withUnion (.empty u.name property)) d' →
      d'.api.unions.get? u.name = some (.empty u.name property) →
      Builds survey d (d'.withUnion u)
  | addGroup (d : Description) (g : EndpointGroup) : Builds survey d (d.withGroup g)
  | setImports (d : Description) (imports : NameMap NameSet) : Builds survey d (d.withImports imports)

variable {survey : Survey} {d d' d'' : Description}

/-! ## What is kept -/

theorem Keeps.refl (d : Description) : Keeps d d :=
  ⟨.refl _, .refl _, .refl _, .refl _, .refl _, .refl _⟩

theorem Keeps.trans (h : Keeps d d') (h' : Keeps d' d'') : Keeps d d'' :=
  ⟨h.classes.trans h'.classes, h.enums.trans h'.enums, h.unions.trans h'.unions,
    h.blackBoxes.trans h'.blackBoxes, h.aliases.trans h'.aliases, h.claims.trans h'.claims⟩

theorem Keeps.claimed (h : Keeps d d') {q : String} (hq : survey.Claimed d q) :
    survey.Claimed d' q :=
  h.claims _ _ hq

theorem Keeps.defines (h : Keeps d d') {name : String} (hname : d.api.defines name = true) :
    d'.api.defines name = true := by
  simp only [ApiDefinition.defines, Bool.or_eq_true] at hname ⊢
  exact hname.imp (Or.imp h.classes.contains h.enums.contains) h.unions.contains

theorem Keeps.withClass (h : Keeps d d') {c : ClassDefinition}
    (hfree : d.api.defines c.name = false) : Keeps d (d'.withClass c) :=
  { h with classes := h.classes.insert (ApiDefinition.of_not_defines hfree).1 c }

theorem Keeps.withEnum (h : Keeps d d') {e : EnumDefinition}
    (hfree : d.api.defines e.name = false) : Keeps d (d'.withEnum e) :=
  { h with enums := h.enums.insert (ApiDefinition.of_not_defines hfree).2.1 e }

theorem Keeps.withUnion (h : Keeps d d') {u : UnionDefinition}
    (hfree : d.api.defines u.name = false) : Keeps d (d'.withUnion u) :=
  { h with unions := h.unions.insert (ApiDefinition.of_not_defines hfree).2.2 u }

theorem Builds.keeps (h : survey.Builds d d') : Keeps d d' := by
  induction h with
  | nothing d => exact .refl d
  | andThen _ _ ih ih' => exact ih.trans ih'
  | follow _ _ ih => exact { ih with }
  | claim hfree =>
    exact { Keeps.refl _ with
      claims := (NameMap.Within.refl _).insert (by simp [NameMap.contains, hfree]) _ }
  | blackBox d name => exact { Keeps.refl d with blackBoxes := NameSet.within_add _ name }
  | addAlias d name t => exact { Keeps.refl d with aliases := NameMap.within_insertNew _ name t }
  | addEnum hfree => exact (Keeps.refl _).withEnum hfree
  | openClass hfree => exact (Keeps.refl _).withClass hfree
  | openUnion hfree => exact (Keeps.refl _).withUnion hfree
  -- what is built inside keeps the placeholder, which is all that the completion replaces
  | @fillClass d _ c hfree _ _ ih =>
    have hopen : Keeps d (d.withClass (.empty c.name)) := (Keeps.refl d).withClass hfree
    exact (hopen.trans ih).withClass hfree
  | @fillUnion d _ u property hfree _ _ ih =>
    have hopen : Keeps d (d.withUnion (.empty u.name property)) := (Keeps.refl d).withUnion hfree
    exact (hopen.trans ih).withUnion hfree
  | tell d | addGroup d | setImports d => exact { Keeps.refl d with }

/-- A variable is let go by what follows it. -/
theorem Builds.followed (h : survey.Builds d d') : d'.followed = d.followed := by
  induction h with
  | andThen _ _ ih ih' => exact ih'.trans ih
  | follow _ _ ih => exact congrArg List.tail ih
  | fillClass _ _ _ ih => exact ih
  | fillUnion _ _ _ ih => exact ih
  | _ => rfl

/-! ## What is built -/

/-- Describing is building: each change is made where the code makes it, and a definition is
completed by what opened it. -/
def building (survey : Survey) : Law survey where
  Inv _ := True
  Le := survey.Builds
  Good _ _ := True
  le_refl := .nothing
  le_trans := .andThen
  le_claimed h := h.keeps.claimed
  good_le _ _ := trivial
  good_primitive _ _ := trivial
  good_array _ := trivial
  good_dictionary _ := trivial
  good_orNull _ := trivial
  report e _ := ⟨trivial, .tell _ e⟩
  follow _ _ := trivial
  unfollow _ hfresh h _ := ⟨trivial, .follow hfresh h⟩
  good_unfollow _ _ := trivial
  claim _ hfree := ⟨trivial, .claim hfree⟩
  good_imported _ _ _ := trivial
  good_unknown _ _ _ := trivial
  blackBox _ _ _ := ⟨trivial, .blackBox _ _, trivial⟩
  good_alias _ _ _ _ := trivial
  addAlias _ _ _ _ := ⟨trivial, .addAlias _ _ _⟩
  good_defined _ _ _ _ := trivial
  addEnum _ _ _ _ hfree := ⟨trivial, .addEnum hfree⟩
  addClass _ _ _ _ hfree := ⟨trivial, .openClass hfree⟩
  completeClass {d d' q _ c} _ _ _ _ hfree h _ hname _ _ := by
    rw [← hname] at hfree h
    exact ⟨trivial, .fillClass hfree h (h.keeps.classes _ _ (by simp [Description.withClass,
      ClassDefinition.empty]))⟩
  addUnion _ _ _ _ hfree := ⟨trivial, .openUnion hfree⟩
  completeUnion {d d' q property _ u} _ _ _ _ hfree h _ hname _ _ := by
    rw [← hname] at hfree h
    exact ⟨trivial, .fillUnion hfree h (h.keeps.unions _ _ (by simp [Description.withUnion,
      UnionDefinition.empty]))⟩
  addGroup {_ group} _ _ := ⟨trivial, .addGroup _ group⟩
  setImports imports _ := ⟨trivial, .setImports _ imports⟩

theorem builds_describeTo (depth : Nat) (type : JavaType) (env : TypeEnvironment)
    (d : Description) :
    survey.Builds d (Describing.run (survey.describeTo depth type env) d).2 :=
  have hlawful : (building survey).Describes (survey.describeTo depth) :=
    Law.describes_describeTo depth
  (hlawful type env d trivial).2.1

/-- Describing a type, with success or not, and at whatever depth inside other classes, leaves all
that is defined, opaque, an alias or claimed as it is. What is added is built: a definition is
created where its name is free, completed by the run that created it while its placeholder is
unchanged, and kept by all that comes later. -/
theorem describe_keeps (survey : Survey) (type : JavaType) (env : TypeEnvironment)
    (d : Description) :
    let nested depth := (Describing.run (survey.describeTo depth type env) d).2
    Keeps d (Describing.run (survey.describe type env) d).2 ∧
      ∀ depth, Keeps d (nested depth) ∧ survey.Builds d (nested depth) :=
  ⟨(builds_describeTo _ type env d).keeps, fun depth =>
    ⟨(builds_describeTo depth type env d).keeps, builds_describeTo depth type env d⟩⟩

end Survey

end ApiSurface
