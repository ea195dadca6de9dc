import ApiSurface.Proofs.LawfulRuns

/-!
# The meaning of display names

Every name that occurs in an API was claimed by one class, and the kind of this class decides in
which of the registries the name stands and how types refer to it. The law behind it says of each
entry of an API that its owner has the kind that makes such entries.
-/

namespace ApiSurface

/-- What is left of a type without arrays, dictionaries and null around it. -/
def ApiType.leaf : ApiType → ApiType
  | .array inner | .dictionary inner | .nullable inner => inner.leaf
  | type => type

@[simp] theorem ApiType.leaf_orNull (t : ApiType) : t.orNull.leaf = t.leaf := by
  cases t <;> rfl

namespace ApiDefinition

/-- The types of an API stand in its endpoints, in the properties of its classes and of the cases of
its unions, and behind its aliases. -/
theorem mem_types_iff {api : ApiDefinition} {t : ApiType} : t ∈ api.types ↔
    (∃ g ∈ api.endpointGroups, ∃ e ∈ g.endpoints.values, t ∈ e.types) ∨
    (∃ n c, api.classes.get? n = some c ∧ ∃ p, c.properties.get? p = some t) ∨
    (∃ n u, api.unions.get? n = some u ∧
      ∃ v c, u.cases.get? v = some c ∧ ∃ p, c.properties.get? p = some t) ∨
    ∃ n, api.aliases.get? n = some t := by
  simp only [types, List.mem_append, List.mem_flatMap, NameMap.mem_values_iff]
  constructor
  · rintro ((⟨e, ⟨g, hg, he⟩, ht⟩ | ⟨c, ⟨n, hn⟩ | ⟨u, ⟨n, hu⟩, v, hv⟩, hp⟩) | halias)
    · exact .inl ⟨g, hg, e, he, ht⟩
    · exact .inr (.inl ⟨n, c, hn, hp⟩)
    · exact .inr (.inr (.inl ⟨n, u, hu, v, c, hv, hp⟩))
    · exact .inr (.inr (.inr halias))
  · rintro (⟨g, hg, e, he, ht⟩ | ⟨n, c, hn, hp⟩ | ⟨n, u, hu, v, c, hv, hp⟩ | halias)
    · exact .inl (.inl ⟨e, ⟨g, hg, he⟩, ht⟩)
    · exact .inl (.inr ⟨c, .inl ⟨n, hn⟩, hp⟩)
    · exact .inl (.inr ⟨c, .inr ⟨u, ⟨n, hu⟩, v, hv⟩, hp⟩)
    · exact .inr halias

def RefersTo (api : ApiDefinition) (name : String) : Prop :=
  ∃ t ∈ api.types, t.leaf = .reference name

def RefersToBlackBox (api : ApiDefinition) (name : String) : Prop :=
  ∃ t ∈ api.types, t.leaf = .blackBox name

/-- The name stands in a registry or in a type. -/
def Mentions (api : ApiDefinition) (name : String) : Prop :=
  api.defines name = true ∨ api.blackBoxes.contains name = true ∨
    api.aliases.contains name = true ∨ api.RefersTo name ∨ api.RefersToBlackBox name

/-- How the name of a class stands in the API if the class is of this kind. -/
def Shows (api : ApiDefinition) (name : String) : ClassKind → Prop
  | .imported =>
    ¬ api.RefersTo name ∧ api.defines name = false ∧ api.blackBoxes.contains name = false ∧
      api.aliases.contains name = false
  | .blackBox =>
    ¬ api.RefersTo name ∧ api.defines name = false ∧ api.blackBoxes.contains name = true ∧
      api.aliases.contains name = false
  | .unknown =>
    ¬ api.RefersToBlackBox name ∧ api.defines name = false ∧
      api.blackBoxes.contains name = false ∧ api.aliases.contains name = false
  | .value .. =>
    ¬ api.RefersTo name ∧ api.defines name = false ∧ api.blackBoxes.contains name = false ∧
      api.aliases.contains name = true
  | .defined decl =>
    ¬ api.RefersToBlackBox name ∧ api.blackBoxes.contains name = false ∧
      api.aliases.contains name = false ∧ api.defines name = true ∧
      api.classes.contains name = decl.form.isClass ∧
      api.unions.contains name = decl.form.isUnion

end ApiDefinition

namespace Survey

variable (survey : Survey)

/-- One class has claimed the name, which is its display name, and the kind of this class tells how
the name stands in the API. -/
def Accounts (d : Description) (name : String) : Prop :=
  ∃! q, d.claims.get? name = some q ∧ survey.nameOf q = name ∧ d.api.Shows name (survey.kind q)

/-- The description after types were described one after the other, with or without success. -/
def after (calls : List (JavaType × TypeEnvironment)) : Description :=
  calls.foldl (fun d call => (Describing.run (survey.describe call.1 call.2) d).2) .empty

/-- The name belongs to a class of a kind like this. -/
def Owned (d : Description) (name : String) (like : ClassKind → Prop) : Prop :=
  ∃ q, survey.nameOf q = name ∧ survey.Claimed d q ∧ like (survey.kind q)

/-- A type whose name, if it has one, belongs to a class that types refer to in this way. -/
structure Founded (d : Description) (t : ApiType) : Prop where
  reference : ∀ n, t.leaf = .reference n → survey.Owned d n fun
    | .unknown => True
    | .defined _ => d.api.defines n = true
    | _ => False
  blackBox : ∀ n, t.leaf = .blackBox n → survey.Owned d n fun
    | .imported => True
    | .blackBox => d.api.blackBoxes.contains n = true
    | .value .. => d.api.aliases.contains n = true
    | _ => False

/-- Every entry of the API belongs to a class that makes such entries, with founded types. -/
structure Backs (d : Description) (api : ApiDefinition) : Prop where
  classes : ∀ n c, api.classes.get? n = some c →
    survey.Owned d n (fun k => ∃ decl, k = .defined decl ∧ decl.form.isClass = true) ∧
      ∀ p t, c.properties.get? p = some t → survey.Founded d t
  enums : ∀ n, api.enums.contains n = true →
    survey.Owned d n fun k => ∃ decl, k = .defined decl ∧ decl.form = .enum
  unions : ∀ n u, api.unions.get? n = some u →
    survey.Owned d n (fun k => ∃ decl, k = .defined decl ∧ decl.form.isUnion = true) ∧
      ∀ v c, u.cases.get? v = some c → ∀ p t, c.properties.get? p = some t → survey.Founded d t
  blackBoxes : ∀ n, api.blackBoxes.contains n = true → survey.Owned d n (· = .blackBox)
  aliases : ∀ n t, api.aliases.get? n = some t →
    survey.Owned d n (fun k => ∃ decl m, k = .value decl m) ∧ survey.Founded d t
  groups : ∀ g ∈ api.endpointGroups, ∀ e ∈ g.endpoints.values, ∀ t ∈ e.types, survey.Founded d t

/-- Nothing that is claimed or registered under a name goes away. -/
structure Grows (d d' : Description) : Prop where
  claims : ∀ n q, d.claims.get? n = some q → d'.claims.get? n = some q
  defines : ∀ n, d.api.defines n = true → d'.api.defines n = true
  blackBoxes : ∀ n, d.api.blackBoxes.contains n = true → d'.api.blackBoxes.contains n = true
  aliases : ∀ n, d.api.aliases.contains n = true → d'.api.aliases.contains n = true

variable {survey}

theorem Grows.refl (d : Description) : Grows d d :=
  ⟨fun _ _ => id, fun _ => id, fun _ => id, fun _ => id⟩

theorem Grows.trans {d d' d'' : Description} (h : Grows d d') (h' : Grows d' d'') :
    Grows d d'' :=
  ⟨fun n q hq => h'.claims n q (h.claims n q hq), fun n hn => h'.defines n (h.defines n hn),
    fun n hn => h'.blackBoxes n (h.blackBoxes n hn), fun n hn => h'.aliases n (h.aliases n hn)⟩

theorem Owned.mono {d d' : Description} {n : String} {like like' : ClassKind → Prop}
    (h : survey.Owned d n like) (hgrows : Grows d d') (himp : ∀ k, like k → like' k) :
    survey.Owned d' n like' := by
  obtain ⟨q, hname, hclaimed, hlike⟩ := h
  exact ⟨q, hname, hgrows.claims _ _ hclaimed, himp _ hlike⟩

theorem Founded.mono {d d' : Description} {t : ApiType} (h : survey.Founded d t)
    (hgrows : Grows d d') : survey.Founded d' t where
  reference n hn := (h.reference n hn).mono hgrows fun k => by
    cases k <;> simp only [imp_self]
    exact hgrows.defines n
  blackBox n hn := (h.blackBox n hn).mono hgrows fun k => by
    cases k <;> simp only [imp_self]
    · exact hgrows.blackBoxes n
    · exact hgrows.aliases n

theorem Backs.mono {d d' : Description} {api : ApiDefinition} (h : survey.Backs d api)
    (hgrows : Grows d d') : survey.Backs d' api where
  classes n c hc := ⟨(h.classes n c hc).1.mono hgrows fun _ => id,
    fun p t hp => ((h.classes n c hc).2 p t hp).mono hgrows⟩
  enums n hn := (h.enums n hn).mono hgrows fun _ => id
  unions n u hu := ⟨(h.unions n u hu).1.mono hgrows fun _ => id,
    fun v c hv p t hp => ((h.unions n u hu).2 v c hv p t hp).mono hgrows⟩
  blackBoxes n hn := (h.blackBoxes n hn).mono hgrows fun _ => id
  aliases n t hn := ⟨(h.aliases n t hn).1.mono hgrows fun _ => id, (h.aliases n t hn).2.mono hgrows⟩
  groups g hg e he t ht := (h.groups g hg e he t ht).mono hgrows

theorem Founded.of_leaf {d : Description} {t t' : ApiType} (h : survey.Founded d t)
    (hleaf : t'.leaf = t.leaf) : survey.Founded d t' :=
  ⟨fun n hn => h.reference n (hleaf ▸ hn), fun n hn => h.blackBox n (hleaf ▸ hn)⟩

/-! ## Steps -/

theorem grows_claim {d : Description} {q : String}
    (hfree : d.claims.get? (survey.nameOf q) = none) : Grows d (survey.claim d q) := by
  refine ⟨fun n owner hn => ?_, fun _ => id, fun _ => id, fun _ => id⟩
  have hne : n ≠ survey.nameOf q := by
    rintro rfl
    rw [hfree] at hn
    cases hn
  simpa [claim, hne] using hn

theorem grows_withClass (d : Description) (c : ClassDefinition) : Grows d (d.withClass c) := by
  refine ⟨fun _ _ => id, fun n hn => ?_, fun _ => id, fun _ => id⟩
  simp only [ApiDefinition.defines, Description.withClass, NameMap.contains_insert,
    Bool.or_eq_true] at hn ⊢
  tauto

theorem grows_withEnum (d : Description) (e : EnumDefinition) : Grows d (d.withEnum e) := by
  refine ⟨fun _ _ => id, fun n hn => ?_, fun _ => id, fun _ => id⟩
  simp only [ApiDefinition.defines, Description.withEnum, NameMap.contains_insert,
    Bool.or_eq_true] at hn ⊢
  tauto

theorem grows_withUnion (d : Description) (u : UnionDefinition) : Grows d (d.withUnion u) := by
  refine ⟨fun _ _ => id, fun n hn => ?_, fun _ => id, fun _ => id⟩
  simp only [ApiDefinition.defines, Description.withUnion, NameMap.contains_insert,
    Bool.or_eq_true] at hn ⊢
  tauto

theorem grows_withBlackBox (d : Description) (name : String) : Grows d (d.withBlackBox name) :=
  ⟨fun _ _ => id, fun _ => id,
    fun n hn => by simp [Description.withBlackBox, ApiDefinition.addBlackBox, hn], fun _ => id⟩

theorem grows_withAlias (d : Description) (name : String) (t : ApiType) :
    Grows d (d.withAlias name t) :=
  ⟨fun _ _ => id, fun _ => id, fun _ => id,
    fun n hn => by simp [Description.withAlias, ApiDefinition.addAlias, hn]⟩

section

variable {d : Description} {api : ApiDefinition} (h : survey.Backs d api)

include h

theorem Backs.insertClass {c : ClassDefinition}
    (howned : survey.Owned d c.name fun k => ∃ decl, k = .defined decl ∧ decl.form.isClass = true)
    (hfounded : ∀ p t, c.properties.get? p = some t → survey.Founded d t) :
    survey.Backs d { api with classes := api.classes.insert c.name c } where
  __ := h
  classes n c' hc := by
    rw [NameMap.get?_insert] at hc
    split_ifs at hc with hn
    · cases hc
      exact ⟨hn ▸ howned, hfounded⟩
    · exact h.classes n c' hc

theorem Backs.insertEnum {e : EnumDefinition}
    (howned : survey.Owned d e.name fun k => ∃ decl, k = .defined decl ∧ decl.form = .enum) :
    survey.Backs d { api with enums := api.enums.insert e.name e } where
  __ := h
  enums n hn := by
    simp only [NameMap.contains_insert, Bool.or_eq_true, decide_eq_true_eq] at hn
    obtain rfl | hn := hn
    · exact howned
    · exact h.enums n hn

theorem Backs.insertUnion {u : UnionDefinition}
    (howned : survey.Owned d u.name fun k => ∃ decl, k = .defined decl ∧ decl.form.isUnion = true)
    (hfounded : ∀ v c, u.cases.get? v = some c → ∀ p t, c.properties.get? p = some t →
      survey.Founded d t) :
    survey.Backs d { api with unions := api.unions.insert u.name u } where
  __ := h
  unions n u' hu := by
    rw [NameMap.get?_insert] at hu
    split_ifs at hu with hn
    · cases hu
      exact ⟨hn ▸ howned, hfounded⟩
    · exact h.unions n u' hu

theorem Backs.addBlackBox {name : String} (howned : survey.Owned d name (· = .blackBox)) :
    survey.Backs d (api.addBlackBox name) where
  __ := h
  blackBoxes n hn := by
    simp only [ApiDefinition.addBlackBox, NameSet.contains_add, Bool.or_eq_true,
      decide_eq_true_eq] at hn
    obtain rfl | hn := hn
    · exact howned
    · exact h.blackBoxes n hn

theorem Backs.addAlias {name : String} {t : ApiType}
    (howned : survey.Owned d name fun k => ∃ decl m, k = .value decl m)
    (hfounded : survey.Founded d t) : survey.Backs d (api.addAlias name t) where
  __ := h
  aliases n t' hn := by
    simp only [ApiDefinition.addAlias, NameMap.get?_insertNew] at hn
    split_ifs at hn with heq
    · subst heq
      cases hold : api.aliases.get? n with
      | none =>
        rw [hold] at hn
        cases hn
        exact ⟨howned, hfounded⟩
      | some old =>
        rw [hold] at hn
        cases hn
        exact ⟨howned, (h.aliases n old hold).2⟩
    · exact h.aliases n t' hn

theorem Backs.addGroup {group : EndpointGroup}
    (hgroup : ∀ e ∈ group.endpoints.values, ∀ t ∈ e.types, survey.Founded d t) :
    survey.Backs d (api.addGroup group) where
  __ := h
  groups g hg := by
    rcases List.mem_append.mp hg with hg | hg
    · exact h.groups g hg
    · rw [List.mem_singleton.mp hg]
      exact hgroup

end

theorem owned_of_kind {d : Description} {q : String} {like : ClassKind → Prop}
    (hclaimed : survey.Claimed d q) (hlike : like (survey.kind q)) :
    survey.Owned d (survey.nameOf q) like :=
  ⟨q, rfl, hclaimed, hlike⟩

/-- The types of a state are founded in it, and names are claimed by the classes that have them. -/
structure Sound (survey : Survey) (d : Description) : Prop where
  claims : ∀ n q, d.claims.get? n = some q → survey.nameOf q = n
  backs : survey.Backs d d.api

theorem Sound.step {d d' : Description} (h : survey.Sound d) (hgrows : Grows d d')
    (hclaims : d'.claims = d.claims)
    (hbacks : survey.Backs d' d.api → survey.Backs d' d'.api) :
    survey.Sound d' ∧ Grows d d' :=
  ⟨⟨hclaims ▸ h.claims, hbacks (h.backs.mono hgrows)⟩, hgrows⟩

theorem grows_withFollowed (d : Description) (followed : List String) :
    Grows d (d.withFollowed followed) :=
  ⟨fun _ _ => id, fun _ => id, fun _ => id, fun _ => id⟩

theorem Sound.withFollowed {d : Description} (h : survey.Sound d) (followed : List String) :
    survey.Sound (d.withFollowed followed) :=
  ⟨h.claims, h.backs.mono (grows_withFollowed d followed)⟩

/-- Describing keeps every entry of the API founded on the kind of the class that owns it. -/
def accounting (survey : Survey) : Law survey where
  Inv := survey.Sound
  Le := Grows
  Good := survey.Founded
  le_refl := Grows.refl
  le_trans := Grows.trans
  le_claimed hle hclaimed := hle.claims _ _ hclaimed
  good_le hle hgood := hgood.mono hle
  good_primitive d p := ⟨by rintro n ⟨⟩, by rintro n ⟨⟩⟩
  good_array hgood := hgood.of_leaf rfl
  good_dictionary hgood := hgood.of_leaf rfl
  good_orNull hgood := hgood.of_leaf (by simp)
  report e h := h.step ⟨fun _ _ => id, fun _ => id, fun _ => id, fun _ => id⟩ rfl fun hb => hb
  follow h _ := h.withFollowed _
  unfollow _ _ hle h' :=
    ⟨h'.withFollowed _, ⟨hle.claims, hle.defines, hle.blackBoxes, hle.aliases⟩⟩
  good_unfollow followed hgood := hgood.mono (grows_withFollowed _ followed)
  claim {d q} h hfree := by
    have hgrows := grows_claim hfree
    refine ⟨⟨fun n owner hn => ?_, h.backs.mono hgrows⟩, hgrows⟩
    simp only [claim, NameMap.get?_insert] at hn
    split_ifs at hn with heq
    · cases hn
      exact heq.symm
    · exact h.claims n owner hn
  good_imported h hclaimed hkind :=
    ⟨by rintro n ⟨⟩, by rintro n ⟨⟩; exact owned_of_kind hclaimed (by simp [hkind])⟩
  good_unknown h hclaimed hkind :=
    ⟨by rintro n ⟨⟩; exact owned_of_kind hclaimed (by simp [hkind]), by rintro n ⟨⟩⟩
  blackBox {d q} h hclaimed hkind := by
    have hgrows := grows_withBlackBox d (survey.nameOf q)
    obtain ⟨hsound, hle⟩ := h.step hgrows rfl
      fun hb => hb.addBlackBox (owned_of_kind (hgrows.claims _ _ hclaimed) hkind)
    refine ⟨hsound, hle, by rintro n ⟨⟩, ?_⟩
    rintro n ⟨⟩
    refine owned_of_kind (hgrows.claims _ _ hclaimed) ?_
    simp [hkind, Description.withBlackBox, ApiDefinition.addBlackBox]
  good_alias h hclaimed hkind halias :=
    ⟨by rintro n ⟨⟩, by rintro n ⟨⟩; exact owned_of_kind hclaimed (by simp [hkind, halias])⟩
  addAlias {d q _ _ t} h hclaimed hkind hgood :=
    have hgrows := grows_withAlias d (survey.nameOf q) t
    h.step hgrows rfl fun hb => hb.addAlias
      (owned_of_kind (hgrows.claims _ _ hclaimed) ⟨_, _, hkind⟩) (hgood.mono hgrows)
  good_defined h hclaimed hkind hdefined :=
    ⟨by rintro n ⟨⟩; exact owned_of_kind hclaimed (by simp [hkind, hdefined]), by rintro n ⟨⟩⟩
  addEnum {d _ _} h hclaimed hkind hform _ :=
    have hgrows := grows_withEnum d _
    h.step hgrows rfl fun hb => hb.insertEnum
      (owned_of_kind (hgrows.claims _ _ hclaimed) ⟨_, hkind, hform⟩)
  addClass {d _ _} h hclaimed hkind hform _ :=
    have hgrows := grows_withClass d _
    h.step hgrows rfl fun hb => hb.insertClass
      (owned_of_kind (hgrows.claims _ _ hclaimed) ⟨_, hkind, hform⟩) (by rintro p t ⟨⟩)
  completeClass {d d' q decl c} _ hclaimed hkind hform _ hle h' hname _ hgood :=
    have hgrows := grows_withClass d' c
    have hclaimed' := hgrows.claims _ _ (hle.claims _ _ hclaimed)
    have hdone := h'.step hgrows rfl fun hb => hb.insertClass
      (hname ▸ owned_of_kind hclaimed' ⟨_, hkind, hform⟩) fun p t hp => (hgood p t hp).mono hgrows
    ⟨hdone.1, ((grows_withClass d _).trans hle).trans hgrows⟩
  addUnion {d _ _ _} h hclaimed hkind hform _ :=
    have hgrows := grows_withUnion d _
    h.step hgrows rfl fun hb => hb.insertUnion
      (owned_of_kind (hgrows.claims _ _ hclaimed) ⟨_, hkind, hform⟩) (by rintro v c ⟨⟩)
  completeUnion {d d' q property decl u} _ hclaimed hkind hform _ hle h' hname _ hgood :=
    have hgrows := grows_withUnion d' u
    have hclaimed' := hgrows.claims _ _ (hle.claims _ _ hclaimed)
    have hdone := h'.step hgrows rfl fun hb => hb.insertUnion
      (hname ▸ owned_of_kind hclaimed' ⟨_, hkind, hform⟩)
      fun v c hv p t hp => (hgood v c hv p t hp).mono hgrows
    ⟨hdone.1, ((grows_withUnion d _).trans hle).trans hgrows⟩
  addGroup {d group} h hgroup :=
    have hgrows : Grows d (d.withGroup group) :=
      ⟨fun _ _ => id, fun _ => id, fun _ => id, fun _ => id⟩
    h.step hgrows rfl fun hb => hb.addGroup fun e he t ht => (hgroup e he t ht).mono hgrows
  setImports imports h := by
    refine h.step ⟨fun _ _ => id, fun _ => id, fun _ => id, fun _ => id⟩ rfl fun hb => ?_
    exact ⟨hb.classes, hb.enums, hb.unions, hb.blackBoxes, hb.aliases, hb.groups⟩

/-! ## The meaning of a name -/

theorem sound_empty : survey.Sound .empty where
  claims := by rintro n q ⟨⟩
  backs := by constructor <;> simp [Description.empty, ApiDefinition.empty]

/-- What a law says of all descriptions holds after every sequence of calls. -/
theorem inv_after (law : Law survey) (hempty : law.Inv .empty)
    (calls : List (JavaType × TypeEnvironment)) : law.Inv (survey.after calls) := by
  have hrun : ∀ d, law.Inv d →
      law.Inv (calls.foldl (fun d call =>
        (Describing.run (survey.describe call.1 call.2) d).2) d) := by
    induction calls with
    | nil => exact fun d hd => hd
    | cons call calls ih =>
      have hlawful : law.Describes survey.describe := Law.describes_describe
      exact fun d hd => ih _ (hlawful _ _ d hd).1
  exact hrun _ hempty

theorem sound_after (calls : List (JavaType × TypeEnvironment)) :
    survey.Sound (survey.after calls) :=
  inv_after (accounting survey) sound_empty calls

/-- Every stored type is founded. -/
theorem Backs.types {d : Description} {api : ApiDefinition} (h : survey.Backs d api)
    {t : ApiType} (ht : t ∈ api.types) : survey.Founded d t := by
  rcases ApiDefinition.mem_types_iff.mp ht with
    ⟨g, hg, e, he, ht⟩ | ⟨n, c, hn, p, hp⟩ | ⟨n, u, hu, v, c, hv, p, hp⟩ | ⟨n, hn⟩
  · exact h.groups g hg e he t ht
  · exact (h.classes n c hn).2 p t hp
  · exact (h.unions n u hu).2 v c hv p t hp
  · exact (h.aliases n t hn).2

theorem Owned.owner {d : Description} {name q : String} {like : ClassKind → Prop}
    (h : survey.Owned d name like) (hq : d.claims.get? name = some q) : like (survey.kind q) := by
  obtain ⟨q', rfl, hclaimed, hlike⟩ := h
  rw [Claimed, hq] at hclaimed
  cases hclaimed
  exact hlike

/-- A name that stands in a registry or in a type belongs to a class. -/
theorem Backs.owned {d : Description} {name : String} (h : survey.Backs d d.api)
    (hname : d.api.Mentions name) : ∃ like, survey.Owned d name like := by
  rcases hname with hdefined | hbox | halias | ⟨t, ht, hleaf⟩ | ⟨t, ht, hleaf⟩
  · simp only [ApiDefinition.defines, Bool.or_eq_true] at hdefined
    rcases hdefined with (hclass | henum) | hunion
    · obtain ⟨c, hc⟩ := Option.isSome_iff_exists.mp hclass
      exact ⟨_, (h.classes name c hc).1⟩
    · exact ⟨_, h.enums name henum⟩
    · obtain ⟨u, hu⟩ := Option.isSome_iff_exists.mp hunion
      exact ⟨_, (h.unions name u hu).1⟩
  · exact ⟨_, h.blackBoxes name hbox⟩
  · obtain ⟨t, ht⟩ := Option.isSome_iff_exists.mp halias
    exact ⟨_, (h.aliases name t ht).1⟩
  · exact ⟨_, (h.types ht).reference name hleaf⟩
  · exact ⟨_, (h.types ht).blackBox name hleaf⟩

/-- The owner's kind tells how a mentioned name stands in the API. -/
theorem Backs.shows {d : Description} {name q : String} (h : survey.Backs d d.api)
    (hname : d.api.Mentions name) (hq : d.claims.get? name = some q) :
    d.api.Shows name (survey.kind q) := by
  have hclass : d.api.classes.contains name = true →
      ∃ decl, survey.kind q = .defined decl ∧ decl.form.isClass = true := fun hc =>
    have ⟨c, hc⟩ := Option.isSome_iff_exists.mp hc
    (h.classes name c hc).1.owner hq
  have henum : d.api.enums.contains name = true →
      ∃ decl, survey.kind q = .defined decl ∧ decl.form = .enum := fun he =>
    (h.enums name he).owner hq
  have hunion : d.api.unions.contains name = true →
      ∃ decl, survey.kind q = .defined decl ∧ decl.form.isUnion = true := fun hu =>
    have ⟨u, hu⟩ := Option.isSome_iff_exists.mp hu
    (h.unions name u hu).1.owner hq
  have hbox : d.api.blackBoxes.contains name = true → survey.kind q = .blackBox := fun hb =>
    (h.blackBoxes name hb).owner hq
  have halias : d.api.aliases.contains name = true → ∃ decl m, survey.kind q = .value decl m :=
    fun ha =>
    have ⟨t, ht⟩ := Option.isSome_iff_exists.mp ha
    (h.aliases name t ht).1.owner hq
  have href : d.api.RefersTo name → _ := fun ⟨t, ht, hleaf⟩ =>
    ((h.types ht).reference name hleaf).owner hq
  have hrefBox : d.api.RefersToBlackBox name → _ := fun ⟨t, ht, hleaf⟩ =>
    ((h.types ht).blackBox name hleaf).owner hq
  simp only [ApiDefinition.Mentions, ApiDefinition.defines, Bool.or_eq_true] at hname
  have hundefined : d.api.classes.contains name = false → d.api.enums.contains name = false →
      d.api.unions.contains name = false → d.api.defines name = false := fun hc he hu => by
    simp [ApiDefinition.defines, hc, he, hu]
  cases hkind : survey.kind q with
  | imported =>
    simp only [hkind, reduceCtorEq, false_and, exists_false, imp_false, Bool.not_eq_true] at *
    exact ⟨href, hundefined hclass henum hunion, hbox, halias⟩
  | blackBox =>
    simp only [hkind, reduceCtorEq, false_and, exists_false, imp_false, Bool.not_eq_true] at *
    simp only [hclass, henum, hunion, halias, href, Bool.false_eq_true, false_or] at hname
    exact ⟨href, hundefined hclass henum hunion, hname.elim id hrefBox, halias⟩
  | unknown =>
    simp only [hkind, reduceCtorEq, false_and, exists_false, imp_false, Bool.not_eq_true] at *
    exact ⟨hrefBox, hundefined hclass henum hunion, hbox, halias⟩
  | value decl m =>
    simp only [hkind, reduceCtorEq, false_and, exists_false, imp_false, Bool.not_eq_true] at *
    simp only [hclass, henum, hunion, hbox, href, Bool.false_eq_true, false_or] at hname
    exact ⟨href, hundefined hclass henum hunion, hbox, hname.elim id hrefBox⟩
  | defined decl =>
    simp only [hkind, reduceCtorEq, exists_false, imp_false, Bool.not_eq_true,
      ClassKind.defined.injEq, exists_eq_left'] at *
    have hdefined : d.api.defines name = true := by
      simp only [hbox, halias, hrefBox, Bool.false_eq_true, false_or, or_false] at hname
      exact hname.elim (fun h => by simpa [ApiDefinition.defines] using h) href
    refine ⟨hrefBox, hbox, halias, hdefined, ?_⟩
    -- the form of the class admits one of the three registries only
    simp only [ApiDefinition.defines, Bool.or_eq_true] at hdefined
    cases hform : decl.form <;> simp_all [DefinitionForm.isClass, DefinitionForm.isUnion]

theorem Sound.accounts {d : Description} {name : String} (h : survey.Sound d)
    (hname : d.api.Mentions name) : survey.Accounts d name := by
  obtain ⟨_, q, hq, hclaimed, -⟩ := h.backs.owned hname
  rw [Claimed, hq] at hclaimed
  refine ⟨q, ⟨hclaimed, hq, h.backs.shows hname hclaimed⟩, ?_⟩
  intro q' hgiven
  obtain ⟨hq', -, -⟩ := hgiven
  exact Option.some.inj (hq'.symm.trans hclaimed)

/-- One name has one meaning: in whatever order types were described, and with whatever failures, a
name that occurs belongs to one class, and the kind of this class tells where the name stands and
how types refer to it. The same holds of the API of a survey. -/
theorem names_accounted (survey : Survey) :
    (∀ calls name, (survey.after calls).api.Mentions name →
      survey.Accounts (survey.after calls) name) ∧
    ∀ api d, Describing.run survey.describeApi .empty = (.ok api, d) →
      api = d.api ∧ ∀ name, api.Mentions name → survey.Accounts d name := by
  refine ⟨fun calls name hname => (sound_after calls).accounts hname, fun api d hrun => ?_⟩
  have hleads : (accounting survey).Leads survey.describeApi .empty _ := Law.leads_describeApi _
  obtain ⟨hsound, -, hapi⟩ := hleads sound_empty
  rw [hrun] at hsound hapi
  have heq : api = d.api := hapi api rfl
  subst heq
  exact ⟨rfl, fun name hname => hsound.accounts hname⟩

end Survey

end ApiSurface
