import ApiSurface.Proofs.Elaboration
import ApiSurface.Proofs.LawfulRuns

/-!
# Registrations

Describing a class defines its name only if the class has a definition of its own: the name of
another class stays free, whatever is described meanwhile. So a name that is defined after its class
was described, and was free before, was registered by this run.
-/

namespace ApiSurface.Survey

open Describing

variable {survey : Survey} {q q' : String} {d d' : Description}

/-- The class has claimed its name, and nothing is defined there. -/
structure Reserved (survey : Survey) (q : String) (d : Description) : Prop where
  claimed : survey.Claimed d q
  free : d.api.defines (survey.nameOf q) = false

/-- A class that has a definition has another name than one that has none. -/
theorem Reserved.name_ne (h : survey.Reserved q d) (hkind : ∀ decl, survey.kind q ≠ .defined decl)
    (hclaimed : survey.Claimed d q') {decl : JavaClass} (hdefined : survey.kind q' = .defined decl) :
    survey.nameOf q ≠ survey.nameOf q' := by
  intro hname
  rw [← claimed_unique h.claimed hclaimed hname] at hdefined
  exact hkind decl hdefined

theorem Reserved.of_api (h : survey.Reserved q d)
    (hclaimed : survey.Claimed d q → survey.Claimed d' q)
    (hdefines : d'.api.defines (survey.nameOf q) = d.api.defines (survey.nameOf q)) :
    survey.Reserved q d' :=
  ⟨hclaimed h.claimed, hdefines.trans h.free⟩

theorem claimed_claim (hfree : d.claims.get? (survey.nameOf q') = none)
    (h : survey.Claimed d q) : survey.Claimed (survey.claim d q') q := by
  have hne : survey.nameOf q ≠ survey.nameOf q' := by
    intro hname
    simp [Claimed, hname, hfree] at h
  simpa [Claimed, claim, hne] using h

section

variable (h : survey.Reserved q d) {name : String} (hne : survey.nameOf q ≠ name)

include h hne

theorem Reserved.withClass {c : ClassDefinition} (hname : c.name = name) :
    survey.Reserved q (d.withClass c) :=
  h.of_api id (by simp [Description.withClass, ApiDefinition.defines, hname, hne])

theorem Reserved.withEnum {e : EnumDefinition} (hname : e.name = name) :
    survey.Reserved q (d.withEnum e) :=
  h.of_api id (by simp [Description.withEnum, ApiDefinition.defines, hname, hne])

theorem Reserved.withUnion {u : UnionDefinition} (hname : u.name = name) :
    survey.Reserved q (d.withUnion u) :=
  h.of_api id (by simp [Description.withUnion, ApiDefinition.defines, hname, hne])

end

/-- The name of a class without a definition of its own stays free. -/
def reserving (survey : Survey) (q : String) (hkind : ∀ decl, survey.kind q ≠ .defined decl) :
    Law survey where
  Inv := survey.Reserved q
  Le d d' := ∀ q, survey.Claimed d q → survey.Claimed d' q
  Good _ _ := True
  le_refl _ _ := id
  le_trans hle hle' q hq := hle' q (hle q hq)
  le_claimed hle := hle _
  good_le _ _ := trivial
  good_primitive _ _ := trivial
  good_array _ := trivial
  good_dictionary _ := trivial
  good_orNull _ := trivial
  report _ h := ⟨h.of_api id rfl, fun _ => id⟩
  follow h _ := h.of_api id rfl
  unfollow _ _ hle h' := ⟨h'.of_api id rfl, hle⟩
  good_unfollow _ _ := trivial
  claim h hfree := ⟨h.of_api (claimed_claim hfree) rfl, fun _ => claimed_claim hfree⟩
  good_imported _ _ _ := trivial
  good_unknown _ _ _ := trivial
  blackBox h _ _ := ⟨h.of_api id rfl, fun _ => id, trivial⟩
  good_alias _ _ _ _ := trivial
  addAlias h _ _ _ := ⟨h.of_api id rfl, fun _ => id⟩
  good_defined _ _ _ _ := trivial
  addEnum h hclaimed hdefined _ _ :=
    ⟨h.withEnum (h.name_ne hkind hclaimed hdefined) rfl, fun _ => id⟩
  addClass h hclaimed hdefined _ _ :=
    ⟨h.withClass (h.name_ne hkind hclaimed hdefined) rfl, fun _ => id⟩
  completeClass h hclaimed hdefined _ _ hle h' hname _ _ :=
    ⟨h'.withClass (h.name_ne hkind hclaimed hdefined) hname, hle⟩
  addUnion h hclaimed hdefined _ _ :=
    ⟨h.withUnion (h.name_ne hkind hclaimed hdefined) rfl, fun _ => id⟩
  completeUnion h hclaimed hdefined _ _ hle h' hname _ _ :=
    ⟨h'.withUnion (h.name_ne hkind hclaimed hdefined) hname, hle⟩
  addGroup h _ := ⟨h.of_api id rfl, fun _ => id⟩
  setImports _ h := ⟨h.of_api id rfl, fun _ => id⟩

/-- A description of a type leaves a reserved name free. -/
theorem reserved_describeTo (hkind : ∀ decl, survey.kind q ≠ .defined decl)
    (h : survey.Reserved q d) (depth : Nat) (type : JavaType) (env : TypeEnvironment) :
    survey.Reserved q (run (survey.describeTo depth type env) d).2 :=
  have hlawful : (survey.reserving q hkind).Describes (survey.describeTo depth) :=
    Law.describes_describeTo depth
  (hlawful type env d h).1

/-- What is done for a class without a definition of its own leaves its name free. -/
theorem reserved_describeKind (hkind : ∀ decl, survey.kind q ≠ .defined decl)
    (h : survey.Reserved q d) (depth : Nat) :
    survey.Reserved q
      (run (survey.describeKind (survey.describeTo depth) q (survey.kind q)) d).2 := by
  cases hq : survey.kind q with
  | imported => exact h
  | unknown => exact h
  | blackBox => exact h.of_api id rfl
  | defined decl => exact absurd hq (hkind decl)
  | value decl method =>
    simp only [describeKind, run_describeValueClass]
    split_ifs
    · exact h
    · have htarget := reserved_describeTo hkind h depth method.returnType
        (decl.methodEnvironment method)
      rw [run_bind]
      rcases hrun : run (survey.describeTo depth method.returnType
        (decl.methodEnvironment method)) d with ⟨_ | target, between⟩
      · simpa [hrun] using htarget
      · rw [hrun] at htarget
        exact htarget.of_api id rfl

/-- A class with a definition of its own is registered by its form, once its name is claimed, if
nothing is defined there. -/
theorem run_describeTo_defined {depth : Nat} {env : TypeEnvironment} {decl : JavaClass}
    {between : Description} (hbuiltin : survey.classes.builtin? q = none)
    (hname : run (survey.displayName q) d = (.ok (survey.nameOf q), between))
    (hkind : survey.kind q = .defined decl)
    (hfree : between.api.defines (survey.nameOf q) = false) :
    run (survey.describeTo (depth + 1) (.basic q) env) d = run (do
      survey.register (survey.describeTo depth) decl (survey.nameOf q) decl.form
      pure (.reference (survey.nameOf q))) between := by
  show run (survey.describeName (survey.describeTo depth) q) d = _
  simp only [describeName, hbuiltin]
  rw [run_describeClass _ hname, hkind]
  simp [describeKind, run_describeDefinition, hfree]

theorem api_of_displayName {between : Description}
    (hname : run (survey.displayName q) d = (.ok (survey.nameOf q), between)) :
    between.api = d.api ∧ between.followed = d.followed := by
  obtain ⟨e, he⟩ | ⟨after, hok, -, hafter⟩ := @run_displayName_cases survey q d
  · cases he.symm.trans hname
  · cases hok.symm.trans hname
    obtain rfl | ⟨-, rfl⟩ := hafter
    · exact ⟨rfl, rfl⟩
    · exact ⟨rfl, rfl⟩

/-- If the description of a class defines its name, then it registers the class by its form. -/
theorem exists_registration {depth : Nat} {env : TypeEnvironment} {t : ApiType}
    {after : Description}
    (hrun : run (survey.describeTo depth (.basic q) env) d = (.ok t, after))
    (hfree : d.api.defines (survey.nameOf q) = false)
    (hdefined : after.api.defines (survey.nameOf q) = true) :
    ∃ decl inner between, survey.kind q = .defined decl ∧
      run (survey.displayName q) d = (.ok (survey.nameOf q), between) ∧
      run (survey.register (survey.describeTo inner) decl (survey.nameOf q) decl.form) between =
        (.ok (), after) := by
  cases depth with
  | zero => cases hrun
  | succ inner =>
    cases hbuiltin : survey.classes.builtin? q with
    | some type =>
      change run (survey.describeName (survey.describeTo inner) q) d = _ at hrun
      rw [describeName, hbuiltin] at hrun
      cases hrun
      rw [hfree] at hdefined
      cases hdefined
    | none =>
      obtain ⟨e, he⟩ | ⟨between, hname, hclaimed, -⟩ := @run_displayName_cases survey q d
      · change run (survey.describeName (survey.describeTo inner) q) d = _ at hrun
        simp only [describeName, hbuiltin] at hrun
        rw [describeClass, run_bind_of_error he] at hrun
        cases hrun
      have hfree' : between.api.defines (survey.nameOf q) = false := by
        rw [(api_of_displayName hname).1, hfree]
      by_cases hkind : ∃ decl, survey.kind q = .defined decl
      · obtain ⟨decl, hkind⟩ := hkind
        rw [run_describeTo_defined hbuiltin hname hkind hfree'] at hrun
        obtain ⟨_, last, hregister, hlast⟩ := run_bind_eq_ok_iff.mp hrun
        cases hlast
        exact ⟨decl, inner, between, hkind, hname, hregister⟩
      · change run (survey.describeName (survey.describeTo inner) q) d = _ at hrun
        simp only [describeName, hbuiltin] at hrun
        rw [run_describeClass _ hname] at hrun
        have hreserved := reserved_describeKind (not_exists.mp hkind) ⟨hclaimed, hfree'⟩ inner
        rw [hrun] at hreserved
        rw [hreserved.free] at hdefined
        cases hdefined

end ApiSurface.Survey
