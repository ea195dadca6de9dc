import ApiSurface.Proofs.Walks

/-!
# Descriptions along walks

An API under construction matches the registry of a walk: what stands under the name of a
registered class is what the class gets under the variables that are registered with it, apart
from the classes whose definitions are pending. A step of describing that meets classes is a tour
of them: it takes whatever registry matches before to the one that the walk leads to.
-/

namespace ApiSurface

def ApiEntry.defines (entry : ApiEntry) : Bool :=
  entry.class?.isSome || entry.enum?.isSome || entry.union?.isSome

@[simp] theorem ApiDefinition.defines_entry (api : ApiDefinition) (name : String) :
    (api.entry name).defines = api.defines name := rfl

namespace Survey

/-- The API matches the registry, but the definitions of some classes are pending. -/
structure Matches (survey : Survey) (pending : List String) (r : Registry) (d : Description) :
    Prop where
  claimed : ∀ q, r.contains q = true → survey.Claimed d q
  free : ∀ n, (∀ q, r.contains q = true → survey.nameOf q ≠ n) → d.api.entry n = .none
  settled : ∀ q followed, r.get? q = some followed → q ∉ pending →
    ∃ met, survey.entryAt? ⟨q, followed⟩ = some (d.api.entry (survey.nameOf q), met)
  opened : ∀ q ∈ pending, r.contains q = true ∧ d.api.defines (survey.nameOf q) = true ∧
    ∃ decl, survey.kind q = .defined decl

/-- Describing types leaves the rest of the description alone. -/
structure Aside (d d' : Description) : Prop where
  followed : d'.followed = d.followed
  groups : d'.api.endpointGroups = d.api.endpointGroups
  imports : d'.api.imports = d.api.imports

/-- At most what stands under one name has changed. -/
structure Changes (name : String) (d d' : Description) : Prop where
  aside : Aside d d'
  claims : d'.claims = d.claims
  elsewhere : ∀ n, n ≠ name → d'.api.entry n = d.api.entry n

/-- What was done meets these classes. -/
structure Tours (survey : Survey) (met : List Sighting) (d d' : Description) : Prop where
  aside : Aside d d'
  claimed : ∀ q, survey.Claimed d q → survey.Claimed d' q
  walks : ∀ pending r, survey.Matches pending r d →
    ∃ r', survey.Walk r met r' ∧ survey.Matches pending r' d' ∧
      ∀ q, r.contains q = true → d'.api.entry (survey.nameOf q) = d.api.entry (survey.nameOf q)

variable {survey : Survey} {pending : List String} {r r' : Registry} {q : String}
  {d d' d'' : Description} {met more : List Sighting}

theorem Aside.refl (d : Description) : Aside d d := ⟨rfl, rfl, rfl⟩

theorem Aside.trans (h : Aside d d') (h' : Aside d' d'') : Aside d d'' :=
  ⟨h'.followed.trans h.followed, h'.groups.trans h.groups, h'.imports.trans h.imports⟩

theorem Tours.trans (h : survey.Tours met d d') (h' : survey.Tours more d' d'') :
    survey.Tours (met ++ more) d d'' where
  aside := h.aside.trans h'.aside
  claimed q hq := h'.claimed q (h.claimed q hq)
  walks pending r hr := by
    obtain ⟨r₁, hwalk, hmatch, hkeep⟩ := h.walks pending r hr
    obtain ⟨r₂, hwalk', hmatch', hkeep'⟩ := h'.walks pending r₁ hmatch
    exact ⟨r₂, hwalk.append hwalk', hmatch', fun q hq =>
      (hkeep' q (hwalk.contains hq)).trans (hkeep q hq)⟩

/-! ## Matching registries -/

theorem Matches.of_entries (h : survey.Matches pending r d)
    (hclaimed : ∀ q, survey.Claimed d q → survey.Claimed d' q)
    (hentries : ∀ n, d'.api.entry n = d.api.entry n) : survey.Matches pending r d' where
  claimed q hq := hclaimed q (h.claimed q hq)
  free n hn := (hentries n).trans (h.free n hn)
  settled q followed hq hpending := hentries _ ▸ h.settled q followed hq hpending
  opened q hq := by
    rw [← ApiDefinition.defines_entry, hentries]
    exact h.opened q hq

/-- A step that only claims names and tells of events meets nothing. -/
theorem tours_nil (haside : Aside d d') (hclaimed : ∀ q, survey.Claimed d q → survey.Claimed d' q)
    (hentries : ∀ n, d'.api.entry n = d.api.entry n) : survey.Tours [] d d' :=
  ⟨haside, hclaimed, fun _ r h => ⟨r, .done r, h.of_entries hclaimed hentries,
    fun _ _ => hentries _⟩⟩

theorem Tours.refl (d : Description) : survey.Tours [] d d :=
  tours_nil (.refl d) (fun _ => id) fun _ => rfl

theorem Matches.name_ne (h : survey.Matches pending r d) (hclaimed : survey.Claimed d q)
    {q' : String} (hq' : r.contains q' = true) (hne : q' ≠ q) :
    survey.nameOf q' ≠ survey.nameOf q := by
  intro hname
  have hq := h.claimed q' hq'
  rw [Claimed, hname, hclaimed] at hq
  exact hne (Option.some.inj hq).symm

theorem ne_of_new {q' : String} (hnew : r.contains q = false) (hq' : r.contains q' = true) :
    q' ≠ q := by
  rintro rfl
  simp [hq'] at hnew

/-- Nothing stands under a claimed name before the class is registered. -/
theorem Matches.entry_of_new (h : survey.Matches pending r d) (hclaimed : survey.Claimed d q)
    (hnew : r.contains q = false) : d.api.entry (survey.nameOf q) = .none :=
  h.free _ fun _ hq' => h.name_ne hclaimed hq' (ne_of_new hnew hq')

theorem Matches.settled_of_contains (h : survey.Matches pending r d)
    (hknown : r.contains q = true) (hpending : q ∉ pending) :
    ∃ followed met, survey.entryAt? ⟨q, followed⟩ = some (d.api.entry (survey.nameOf q), met) := by
  obtain ⟨followed, hq⟩ := Option.isSome_iff_exists.mp hknown
  exact ⟨followed, h.settled q followed hq hpending⟩

section

variable {entry : ApiEntry} {followed : List String}

/-- A class is registered together with its entry, or with a placeholder while it is pending. -/
theorem Matches.put (h : survey.Matches pending r d) (hclaimed : survey.Claimed d q)
    (hnew : r.contains q = false) (hchange : Changes (survey.nameOf q) d d')
    (hhere : d'.api.entry (survey.nameOf q) = entry) {pending' : List String}
    (hpending : ∀ q' ∈ pending', q' = q ∨ q' ∈ pending)
    (hmore : ∀ q' ∈ pending, q' ∈ pending')
    (hsettled : q ∉ pending' → ∃ met, survey.entryAt? ⟨q, followed⟩ = some (entry, met))
    (hopened : q ∈ pending' → entry.defines = true ∧ ∃ decl, survey.kind q = .defined decl) :
    survey.Matches pending' (r.insert q followed) d' := by
  have helse : ∀ q', r.contains q' = true →
      d'.api.entry (survey.nameOf q') = d.api.entry (survey.nameOf q') := fun q' hq' =>
    hchange.elsewhere _ (h.name_ne hclaimed hq' (ne_of_new hnew hq'))
  refine ⟨fun q' hq' => ?_, fun n hn => ?_, fun q' followed' hq' hnot => ?_, fun q' hq' => ?_⟩
  · rw [Claimed, hchange.claims]
    simp only [NameMap.contains_insert, Bool.or_eq_true, decide_eq_true_eq] at hq'
    obtain rfl | hq' := hq'
    · exact hclaimed
    · exact h.claimed q' hq'
  · have hne : survey.nameOf q ≠ n := hn q (by simp)
    rw [hchange.elsewhere n hne.symm]
    exact h.free n fun q' hq' => hn q' (by simp [hq'])
  · rw [NameMap.get?_insert] at hq'
    by_cases hqq : q' = q
    · subst hqq
      rw [if_pos rfl, Option.some.injEq] at hq'
      subst hq'
      rw [hhere]
      exact hsettled hnot
    · rw [if_neg hqq] at hq'
      rw [helse q' (Option.isSome_iff_exists.mpr ⟨_, hq'⟩)]
      exact h.settled q' followed' hq' fun hmem => hnot (hmore q' hmem)
  · by_cases hqq : q' = q
    · subst hqq
      rw [← ApiDefinition.defines_entry, hhere]
      exact ⟨by simp, hopened hq'⟩
    · obtain ⟨hknown, hdefines, hkind⟩ := h.opened q' ((hpending q' hq').resolve_left hqq)
      rw [← ApiDefinition.defines_entry, helse q' hknown]
      exact ⟨by simp [hknown], hdefines, hkind⟩

/-- A definition that was pending is completed. -/
theorem Matches.close (h : survey.Matches (q :: pending) r d) (hq : r.get? q = some followed)
    (hchange : Changes (survey.nameOf q) d d') (hhere : d'.api.entry (survey.nameOf q) = entry)
    (hfresh : q ∉ pending) (hentry : survey.entryAt? ⟨q, followed⟩ = some (entry, met)) :
    survey.Matches pending r d' := by
  have hknown : r.contains q = true := Option.isSome_iff_exists.mpr ⟨_, hq⟩
  have hclaimed := h.claimed q hknown
  have helse : ∀ q', r.contains q' = true → q' ≠ q →
      d'.api.entry (survey.nameOf q') = d.api.entry (survey.nameOf q') := fun q' hq' hne =>
    hchange.elsewhere _ (h.name_ne hclaimed hq' hne)
  refine ⟨fun q' hq' => ?_, fun n hn => ?_, fun q' followed' hq' hnot => ?_, fun q' hq' => ?_⟩
  · rw [Claimed, hchange.claims]
    exact h.claimed q' hq'
  · rw [hchange.elsewhere n (hn q hknown).symm]
    exact h.free n hn
  · by_cases hqq : q' = q
    · subst hqq
      rw [hq, Option.some.injEq] at hq'
      subst hq'
      rw [hhere]
      exact ⟨met, hentry⟩
    · rw [helse q' (Option.isSome_iff_exists.mpr ⟨_, hq'⟩) hqq]
      exact h.settled q' followed' hq' fun hmem => (List.mem_cons.mp hmem).elim hqq hnot
  · have hqq : q' ≠ q := fun heq => hfresh (heq ▸ hq')
    obtain ⟨hknown', hdefines, hkind⟩ := h.opened q' (List.mem_cons_of_mem _ hq')
    rw [← ApiDefinition.defines_entry, helse q' hknown' hqq]
    exact ⟨hknown', hdefines, hkind⟩

end

/-! ## Single changes -/

theorem changes_refl (name : String) (d : Description) : Changes name d d :=
  ⟨.refl d, rfl, fun _ _ => rfl⟩

theorem changes_withClass (d : Description) {c : ClassDefinition} {name : String}
    (hname : c.name = name) : Changes name d (d.withClass c) :=
  ⟨⟨rfl, rfl, rfl⟩, rfl, fun n hn => by
    simp [ApiDefinition.entry, Description.withClass, hname, hn]⟩

theorem entry_withClass (d : Description) {c : ClassDefinition} (name : String)
    (hname : c.name = name) :
    (d.withClass c).api.entry name = { d.api.entry name with class? := some c } := by
  simp [ApiDefinition.entry, Description.withClass, hname]

theorem changes_withEnum (d : Description) {e : EnumDefinition} {name : String}
    (hname : e.name = name) : Changes name d (d.withEnum e) :=
  ⟨⟨rfl, rfl, rfl⟩, rfl, fun n hn => by
    simp [ApiDefinition.entry, Description.withEnum, hname, hn]⟩

theorem entry_withEnum (d : Description) {e : EnumDefinition} (name : String)
    (hname : e.name = name) :
    (d.withEnum e).api.entry name = { d.api.entry name with enum? := some e } := by
  simp [ApiDefinition.entry, Description.withEnum, hname]

theorem changes_withUnion (d : Description) {u : UnionDefinition} {name : String}
    (hname : u.name = name) : Changes name d (d.withUnion u) :=
  ⟨⟨rfl, rfl, rfl⟩, rfl, fun n hn => by
    simp [ApiDefinition.entry, Description.withUnion, hname, hn]⟩

theorem entry_withUnion (d : Description) {u : UnionDefinition} (name : String)
    (hname : u.name = name) :
    (d.withUnion u).api.entry name = { d.api.entry name with union? := some u } := by
  simp [ApiDefinition.entry, Description.withUnion, hname]

theorem changes_withBlackBox (d : Description) (name : String) :
    Changes name d (d.withBlackBox name) :=
  ⟨⟨rfl, rfl, rfl⟩, rfl, fun n hn => by
    simp [ApiDefinition.entry, Description.withBlackBox, ApiDefinition.addBlackBox, hn]⟩

theorem entry_withBlackBox (d : Description) (name : String) :
    (d.withBlackBox name).api.entry name = { d.api.entry name with isBlackBox := true } := by
  simp [ApiDefinition.entry, Description.withBlackBox, ApiDefinition.addBlackBox]

theorem changes_withAlias (d : Description) (name : String) (t : ApiType) :
    Changes name d (d.withAlias name t) :=
  ⟨⟨rfl, rfl, rfl⟩, rfl, fun n hn => by
    simp [ApiDefinition.entry, Description.withAlias, ApiDefinition.addAlias,
      NameMap.get?_insertNew, hn]⟩

theorem entry_withAlias (d : Description) (name : String) (t : ApiType) :
    (d.withAlias name t).api.entry name =
      { d.api.entry name with alias? := some (((d.api.entry name).alias?).getD t) } := by
  simp [ApiDefinition.entry, Description.withAlias, ApiDefinition.addAlias,
    NameMap.get?_insertNew]

/-! ## Kinds of classes -/

theorem entryAt?_value {decl : JavaClass} {m : JavaMethod} {followed : List String}
    {entry : ApiEntry} (hkind : survey.kind q = .value decl m)
    (hentry : survey.entryAt? ⟨q, followed⟩ = some (entry, met)) : entry.alias?.isSome = true := by
  simp only [entryAt?, hkind, Option.bind_eq_bind, Option.bind_eq_some_iff, Option.some.injEq,
    Prod.mk.injEq, Prod.exists] at hentry
  obtain ⟨t, _, -, rfl, -⟩ := hentry
  rfl

theorem entryAt?_defined {decl : JavaClass} {followed : List String} {entry : ApiEntry}
    (hkind : survey.kind q = .defined decl)
    (hentry : survey.entryAt? ⟨q, followed⟩ = some (entry, met)) : entry.defines = true := by
  simp only [entryAt?, hkind] at hentry
  cases hshape : survey.shape decl with
  | error h => simp [hshape] at hentry
  | ok shape =>
    simp only [hshape] at hentry
    cases shape <;>
      simp only [readShape, Option.bind_eq_bind, Option.bind_eq_some_iff, Option.some.injEq,
        Prod.mk.injEq, Prod.exists] at hentry
    case enum =>
      obtain ⟨rfl, -⟩ := hentry
      rfl
    all_goals
      obtain ⟨_, _, -, rfl, -⟩ := hentry
      rfl

theorem Matches.not_pending (h : survey.Matches pending r d)
    (hkind : ∀ decl, survey.kind q ≠ .defined decl) : q ∉ pending := by
  intro hq
  obtain ⟨-, -, decl, hdefined⟩ := h.opened q hq
  exact hkind decl hdefined

/-- A class with a definition is registered where its name is defined. -/
theorem Matches.defines_eq {decl : JavaClass} (h : survey.Matches pending r d)
    (hclaimed : survey.Claimed d q) (hkind : survey.kind q = .defined decl) :
    d.api.defines (survey.nameOf q) = r.contains q := by
  cases hknown : r.contains q with
  | false =>
    rw [← ApiDefinition.defines_entry, h.entry_of_new hclaimed hknown]
    rfl
  | true =>
    by_cases hpending : q ∈ pending
    · exact (h.opened q hpending).2.1
    · obtain ⟨followed, met, hentry⟩ := h.settled_of_contains hknown hpending
      exact entryAt?_defined hkind hentry

/-- A class that is written as a value is registered where its name has an alias. -/
theorem Matches.alias_eq {decl : JavaClass} {m : JavaMethod} (h : survey.Matches pending r d)
    (hclaimed : survey.Claimed d q) (hkind : survey.kind q = .value decl m) :
    d.api.aliases.contains (survey.nameOf q) = r.contains q := by
  show (d.api.entry (survey.nameOf q)).alias?.isSome = _
  cases hknown : r.contains q with
  | false =>
    rw [h.entry_of_new hclaimed hknown]
    rfl
  | true =>
    obtain ⟨followed, met, hentry⟩ := h.settled_of_contains hknown
      (h.not_pending fun decl' => by simp [hkind])
    exact entryAt?_value hkind hentry

/-! ## Single classes -/

/-- A class without a definition or an alias, whose entry is the same wherever it is met. -/
theorem tours_plain {entry : ApiEntry} (hclaimed : survey.Claimed d q)
    (hvalue : survey.isValue q = false) (hdefined : ∀ decl, survey.kind q ≠ .defined decl)
    (hentry : ∀ followed, survey.entryAt? ⟨q, followed⟩ = some (entry, []))
    (hchange : Changes (survey.nameOf q) d d')
    (hnew : d.api.entry (survey.nameOf q) = .none → d'.api.entry (survey.nameOf q) = entry)
    (hold : d.api.entry (survey.nameOf q) = entry → d'.api.entry (survey.nameOf q) = entry) :
    survey.Tours [⟨q, d.followed⟩] d d' := by
  have hclaims : ∀ q, survey.Claimed d q → survey.Claimed d' q := fun q hq => by
    rwa [Claimed, hchange.claims]
  refine ⟨hchange.aside, hclaims, fun pending r hr => ?_⟩
  cases hknown : r.contains q with
  | true =>
    obtain ⟨followed, met, hsettled⟩ := hr.settled_of_contains hknown (hr.not_pending hdefined)
    obtain ⟨hsame, -⟩ := Prod.mk.inj (Option.some.inj ((hentry followed).symm.trans hsettled))
    have hentries : ∀ n, d'.api.entry n = d.api.entry n := fun n => by
      by_cases hn : n = survey.nameOf q
      · rw [hn, hold hsame.symm, hsame]
      · exact hchange.elsewhere n hn
    exact ⟨r, .known_single hknown, hr.of_entries hclaims hentries, fun _ _ => hentries _⟩
  | false =>
    refine ⟨r.insert q d.followed, .enter_single hknown hvalue (hentry _) (.done _), ?_,
      fun q' hq' => hchange.elsewhere _ (hr.name_ne hclaimed hq' (ne_of_new hknown hq'))⟩
    exact hr.put hclaimed hknown hchange (hnew (hr.entry_of_new hclaimed hknown))
      (fun _ => .inr) (fun _ => id) (fun _ => ⟨[], hentry _⟩)
      (fun hq => absurd hq (hr.not_pending hdefined))

/-- A definition is opened with a placeholder and closed again once its classes are met. -/
theorem tours_define {decl : JavaClass} {placeholder entry : ApiEntry} {d₁ d₂ d₃ : Description}
    (hclaimed : survey.Claimed d q) (hkind : survey.kind q = .defined decl)
    (hfree : d.api.defines (survey.nameOf q) = false)
    (hopen : Changes (survey.nameOf q) d d₁)
    (hplaceholder : d.api.entry (survey.nameOf q) = .none →
      d₁.api.entry (survey.nameOf q) = placeholder)
    (hdefines : placeholder.defines = true) (h : survey.Tours met d₁ d₂)
    (hclose : Changes (survey.nameOf q) d₂ d₃)
    (hcomplete : d₂.api.entry (survey.nameOf q) = placeholder →
      d₃.api.entry (survey.nameOf q) = entry)
    (hentry : survey.entryAt? ⟨q, d.followed⟩ = some (entry, met)) :
    survey.Tours [⟨q, d.followed⟩] d d₃ := by
  refine ⟨(hopen.aside.trans h.aside).trans hclose.aside, fun q' hq' => ?_, fun pending r hr => ?_⟩
  · rw [Claimed, hclose.claims]
    refine h.claimed q' ?_
    rwa [Claimed, hopen.claims]
  · have hnew : r.contains q = false := by rw [← hr.defines_eq hclaimed hkind, hfree]
    have hfresh : q ∉ pending := fun hq => by simp [(hr.opened q hq).1] at hnew
    have hopened : survey.Matches (q :: pending) (r.insert q d.followed) d₁ :=
      hr.put hclaimed hnew hopen (hplaceholder (hr.entry_of_new hclaimed hnew)) (by simp)
        (fun _ => List.mem_cons_of_mem q) (by simp) fun _ => ⟨hdefines, decl, hkind⟩
    obtain ⟨r₁, hwalk, hfilled, hkeep⟩ := h.walks _ _ hopened
    have hq : r₁.get? q = some d.followed := hwalk.keeps (by simp)
    have hhere : d₂.api.entry (survey.nameOf q) = placeholder :=
      (hkeep q (by simp)).trans (hplaceholder (hr.entry_of_new hclaimed hnew))
    refine ⟨r₁, .enter_single hnew (by simp [isValue, hkind]) hentry hwalk,
      hfilled.close hq hclose (hcomplete hhere) hfresh hentry, fun q' hq' => ?_⟩
    have hne := hr.name_ne hclaimed hq' (ne_of_new hnew hq')
    rw [hclose.elsewhere _ hne, hkeep q' (by simp [hq']), hopen.elsewhere _ hne]

theorem tours_known_definition {decl : JavaClass} (hclaimed : survey.Claimed d q)
    (hkind : survey.kind q = .defined decl) (hdefined : d.api.defines (survey.nameOf q) = true)
    (followed : List String) : survey.Tours [⟨q, followed⟩] d d :=
  ⟨.refl d, fun _ => id, fun _ r hr => ⟨r,
    .known_single (by rw [← hr.defines_eq hclaimed hkind, hdefined]), hr, fun _ _ => rfl⟩⟩

/-- An alias is registered once its target is described, unless one was registered meanwhile. -/
theorem tours_alias {decl : JavaClass} {m : JavaMethod} {t : ApiType}
    (hclaimed : survey.Claimed d q) (hkind : survey.kind q = .value decl m)
    (hfree : d.api.aliases.contains (survey.nameOf q) = false)
    (hread : survey.entryAt? ⟨q, d.followed⟩ = some ({ alias? := some t }, met))
    (h : survey.Tours met d d') (hchange : Changes (survey.nameOf q) d' d'')
    (hnew : d'.api.entry (survey.nameOf q) = .none →
      d''.api.entry (survey.nameOf q) = { alias? := some t })
    (hold : (d'.api.entry (survey.nameOf q)).alias?.isSome = true →
      d''.api.entry (survey.nameOf q) = d'.api.entry (survey.nameOf q)) :
    survey.Tours [⟨q, d.followed⟩] d d'' := by
  have hclaims : ∀ q, survey.Claimed d' q → survey.Claimed d'' q := fun q hq => by
    rwa [Claimed, hchange.claims]
  refine ⟨h.aside.trans hchange.aside, fun q' hq' => hclaims q' (h.claimed q' hq'),
    fun pending r hr => ?_⟩
  have hfirst : r.contains q = false := by rw [← hr.alias_eq hclaimed hkind, hfree]
  have hvalue : survey.isValue q = true := by simp [isValue, hkind]
  obtain ⟨r₁, hwalk, hmatch, hkeep⟩ := h.walks pending r hr
  have hclaimed' := h.claimed q hclaimed
  have hdone := Walk.leave_single hfirst hvalue hread hwalk
  cases hknown : r₁.contains q with
  | true =>
    have hentries : ∀ n, d''.api.entry n = d'.api.entry n := fun n => by
      by_cases hn : n = survey.nameOf q
      · rw [hn]
        refine hold ?_
        exact (hmatch.alias_eq hclaimed' hkind).trans hknown
      · exact hchange.elsewhere n hn
    simp only [NameMap.insertNew, hknown, if_true] at hdone
    exact ⟨r₁, hdone, hmatch.of_entries hclaims hentries, fun q' hq' =>
      (hentries _).trans (hkeep q' hq')⟩
  | false =>
    simp only [NameMap.insertNew, hknown, Bool.false_eq_true, if_false] at hdone
    refine ⟨_, hdone, ?_, fun q' hq' => ?_⟩
    · have hpending : q ∉ pending := hmatch.not_pending fun decl' => by simp [hkind]
      exact hmatch.put hclaimed' hknown hchange (hnew (hmatch.entry_of_new hclaimed' hknown))
        (fun _ => .inr) (fun _ => id) (fun _ => ⟨met, hread⟩) fun hq => absurd hq hpending
    · rw [hchange.elsewhere _ (hr.name_ne hclaimed hq' (ne_of_new hfirst hq'))]
      exact hkeep q' hq'

theorem tours_known_alias {decl : JavaClass} {m : JavaMethod} (hclaimed : survey.Claimed d q)
    (hkind : survey.kind q = .value decl m)
    (halias : d.api.aliases.contains (survey.nameOf q) = true) (followed : List String) :
    survey.Tours [⟨q, followed⟩] d d :=
  ⟨.refl d, fun _ => id, fun _ r hr => ⟨r,
    .known_single (by rw [← hr.alias_eq hclaimed hkind, halias]), hr, fun _ _ => rfl⟩⟩

/-! ## Whole walks -/

theorem matches_empty : survey.Matches [] .empty .empty where
  claimed q hq := by simp at hq
  free n _ := rfl
  settled q followed hq := by simp at hq
  opened q hq := by simp at hq

/-- With nothing pending, the registry tells what stands under each name. -/
theorem Matches.entry_eq (h : survey.Matches [] r d) (name : String) :
    d.api.entry name = survey.entryIn r name := by
  unfold entryIn
  cases hfind : r.entries.find? fun e => survey.nameOf e.1 == name with
  | none =>
    refine h.free name fun q hq hname => ?_
    obtain ⟨followed, hq⟩ := Option.isSome_iff_exists.mp hq
    have hmem := (r.mem_entries_iff _ _).mpr hq
    exact absurd hname (by simpa using List.find?_eq_none.mp hfind _ hmem)
  | some e =>
    obtain ⟨q, followed⟩ := e
    have hname : survey.nameOf q = name := by simpa using List.find?_some hfind
    have hq := (r.mem_entries_iff _ _).mp (List.mem_of_find?_eq_some hfind)
    obtain ⟨met, hentry⟩ := h.settled q followed hq (by simp)
    simp [hentry, hname]

/-- Every definition was made for a class that is registered. -/
theorem Matches.exists_of_defines (h : survey.Matches pending r d) {name : String}
    (hdefined : d.api.defines name = true) :
    ∃ q followed, r.get? q = some followed ∧ survey.nameOf q = name := by
  by_contra hnone
  have hfree : d.api.entry name = .none := h.free name fun q hq hname =>
    have ⟨followed, hfollowed⟩ := Option.isSome_iff_exists.mp hq
    hnone ⟨q, followed, hfollowed, hname⟩
  rw [← ApiDefinition.defines_entry, hfree] at hdefined
  cases hdefined

/-- A tour of the empty description is a walk whose registry tells everything. -/
theorem Tours.walk (h : survey.Tours met .empty d) :
    ∃ r, survey.Walk .empty met r ∧ survey.Matches [] r d := by
  obtain ⟨r, hwalk, hmatch, -⟩ := h.walks [] .empty matches_empty
  exact ⟨r, hwalk, hmatch⟩

end Survey

/-- What stands under the names, the endpoints and the imports are the whole API. -/
theorem ApiDefinition.eq_iff_entry {api api' : ApiDefinition}
    (hgroups : api.endpointGroups = api'.endpointGroups) (himports : api.imports = api'.imports) :
    api = api' ↔ ∀ name, api.entry name = api'.entry name := by
  refine ⟨fun heq name => heq ▸ rfl, fun h => ?_⟩
  have hclasses : api.classes = api'.classes :=
    NameMap.ext_get? fun name => congrArg ApiEntry.class? (h name)
  have henums : api.enums = api'.enums :=
    NameMap.ext_get? fun name => congrArg ApiEntry.enum? (h name)
  have hunions : api.unions = api'.unions :=
    NameMap.ext_get? fun name => congrArg ApiEntry.union? (h name)
  have haliases : api.aliases = api'.aliases :=
    NameMap.ext_get? fun name => congrArg ApiEntry.alias? (h name)
  have hboxes : api.blackBoxes = api'.blackBoxes := NameMap.ext_get? fun name => by
    have hbox : api.blackBoxes.contains name = api'.blackBoxes.contains name :=
      congrArg ApiEntry.isBlackBox (h name)
    simp only [NameMap.contains] at hbox
    cases hold : api.blackBoxes.get? name <;> cases hnew : api'.blackBoxes.get? name <;>
      simp_all
  obtain ⟨_, _, _, _, _, _, _⟩ := api
  simp_all

end ApiSurface
