import ApiSurface.Proofs.EndpointReading
import ApiSurface.Proofs.NameMeaning
import ApiSurface.Proofs.SerializedProperties

/-!
# Null admitted once

A type comes to admit null as the argument of an optional one, by an annotation, by the declaration
of its field or by a default value, and it can do so before any of them adds null. None of them adds
it twice, so neither a type that is described nor one that is kept admits null directly within a
type that admits null.
-/

namespace ApiSurface

namespace ApiDefinition

variable {P : ApiType → Prop} {api : ApiDefinition}

/-- The types of the API have the property wherever they stand. -/
structure Throughout (P : ApiType → Prop) (api : ApiDefinition) : Prop where
  groups : ∀ g ∈ api.endpointGroups, ∀ e ∈ g.endpoints.values, ∀ t ∈ e.types, P t
  classes : ∀ n c, api.classes.get? n = some c → ∀ p t, c.properties.get? p = some t → P t
  unions : ∀ n u, api.unions.get? n = some u →
    ∀ v c, u.cases.get? v = some c → ∀ p t, c.properties.get? p = some t → P t
  aliases : ∀ n t, api.aliases.get? n = some t → P t

theorem Throughout.types (h : api.Throughout P) : ∀ t ∈ api.types, P t := by
  intro t ht
  rcases mem_types_iff.mp ht with
    ⟨g, hg, e, he, ht⟩ | ⟨n, c, hn, p, hp⟩ | ⟨n, u, hu, v, c, hv, p, hp⟩ | ⟨n, hn⟩
  · exact h.groups g hg e he t ht
  · exact h.classes n c hn p t hp
  · exact h.unions n u hu v c hv p t hp
  · exact h.aliases n t hn

theorem throughout_empty : Throughout P .empty := by
  constructor <;> simp [ApiDefinition.empty]

section

variable (h : api.Throughout P)

include h

theorem Throughout.insertClass {c : ClassDefinition}
    (hc : ∀ p t, c.properties.get? p = some t → P t) :
    Throughout P { api with classes := api.classes.insert c.name c } where
  __ := h
  classes n c' hn := by
    rw [NameMap.get?_insert] at hn
    split_ifs at hn
    · cases hn
      exact hc
    · exact h.classes n c' hn

theorem Throughout.insertUnion {u : UnionDefinition}
    (hu : ∀ v c, u.cases.get? v = some c → ∀ p t, c.properties.get? p = some t → P t) :
    Throughout P { api with unions := api.unions.insert u.name u } where
  __ := h
  unions n u' hn := by
    rw [NameMap.get?_insert] at hn
    split_ifs at hn
    · cases hn
      exact hu
    · exact h.unions n u' hn

theorem Throughout.addAlias (name : String) {target : ApiType} (htarget : P target) :
    Throughout P (api.addAlias name target) where
  __ := h
  aliases n t hn := by
    simp only [ApiDefinition.addAlias, NameMap.get?_insertNew] at hn
    split_ifs at hn
    · cases hold : api.aliases.get? name with
      | none =>
        rw [hold] at hn
        cases hn
        exact htarget
      | some old =>
        rw [hold] at hn
        cases hn
        exact h.aliases name old hold
    · exact h.aliases n t hn

theorem Throughout.addGroup {group : EndpointGroup}
    (hgroup : ∀ e ∈ group.endpoints.values, ∀ t ∈ e.types, P t) :
    Throughout P (api.addGroup group) where
  __ := h
  groups g hg := by
    rcases List.mem_append.mp hg with hg | hg
    · exact h.groups g hg
    · rw [List.mem_singleton.mp hg]
      exact hgroup

end

end ApiDefinition

namespace Survey

open Describing ApiDefinition

/-- What is claimed stays claimed. -/
def KeepsClaims (survey : Survey) (d d' : Description) : Prop :=
  ∀ q, survey.Claimed d q → survey.Claimed d' q

/-- Types are put together with null admitted once, and only such types are kept. -/
def nulling (survey : Survey) : Law survey where
  Inv d := d.api.Throughout ApiType.NullsOnce
  Le := survey.KeepsClaims
  Good _ t := t.NullsOnce
  le_refl _ _ hq := hq
  le_trans hle hle' q hq := hle' q (hle q hq)
  le_claimed hle hclaimed := hle _ hclaimed
  good_le _ hgood := hgood
  good_primitive _ _ := trivial
  good_array hgood := hgood
  good_dictionary hgood := hgood
  good_orNull hgood := hgood.orNull
  report _ h := ⟨h, fun _ hq => hq⟩
  follow h _ := h
  unfollow _ _ hle h' := ⟨h', hle⟩
  good_unfollow _ hgood := hgood
  claim h hfree := ⟨h, fun _ hq => claimed_claim hfree hq⟩
  good_imported _ _ _ := trivial
  good_unknown _ _ _ := trivial
  blackBox h _ _ := ⟨{ h with }, fun _ hq => hq, trivial⟩
  good_alias _ _ _ _ := trivial
  addAlias h _ _ hgood := ⟨h.addAlias _ hgood, fun _ hq => hq⟩
  good_defined _ _ _ _ := trivial
  addEnum h _ _ _ _ := ⟨{ h with }, fun _ hq => hq⟩
  -- a placeholder has no types yet
  addClass h _ _ _ _ := ⟨h.insertClass (by rintro p t ⟨⟩), fun _ hq => hq⟩
  completeClass _ _ _ _ _ hle h' _ _ hgood := ⟨h'.insertClass hgood, hle⟩
  addUnion h _ _ _ _ := ⟨h.insertUnion (by rintro v c ⟨⟩), fun _ hq => hq⟩
  completeUnion _ _ _ _ _ hle h' _ _ hgood := ⟨h'.insertUnion hgood, hle⟩
  addGroup h hgroup := ⟨h.addGroup hgroup, fun _ hq => hq⟩
  setImports _ h := ⟨{ h with }, fun _ hq => hq⟩

/-- In whatever order types are described, and with whatever failures, null is admitted once at most
in the types that they are described by and in all types of the API, at every depth. The same holds
of the API of a survey. -/
theorem nulls_once (survey : Survey) :
    (∀ calls, (∀ t ∈ (survey.after calls).api.types, t.NullsOnce) ∧
      ∀ type env t, (run (survey.describe type env) (survey.after calls)).1 = .ok t →
        t.NullsOnce) ∧
    ∀ api d, run survey.describeApi .empty = (.ok api, d) → ∀ t ∈ api.types, t.NullsOnce := by
  constructor
  · intro calls
    have hafter := inv_after (nulling survey) throughout_empty calls
    refine ⟨hafter.types, fun type env t ht => ?_⟩
    have hlawful : (nulling survey).Describes survey.describe := Law.describes_describe
    obtain ⟨-, -, hgood⟩ := hlawful type env _ hafter
    exact hgood t ht
  · intro api d hrun
    have hleads : (nulling survey).Leads survey.describeApi .empty _ := Law.leads_describeApi _
    obtain ⟨hnulls, -, hapi⟩ := hleads throughout_empty
    rw [hrun] at hnulls hapi
    obtain rfl : api = d.api := hapi api rfl
    exact hnulls.types

/-- A type that is there or not. -/
def optionalOf (type : JavaType) : JavaType :=
  .parameterized (.basic "java.util.Optional") [type]

/-- Orders that are found or not, twice over, with fields that admit null for all reasons. -/
def optionalOrders : Survey :=
  ⟨.ofClasses [
    .ofEndpoints "a.Orders"
      [("find", optionalOf (.wildcard (some (optionalOf (.basic "a.Order"))) none))],
    serializableClass "a.Order" .object
      [⟨"note", optionalOf (optionalOf (.basic "java.lang.String")), ⟨2⟩,
        [.mk "javax.annotation.Nullable" []], true, true⟩,
        ⟨"sizes", .array (optionalOf (.basic "java.util.OptionalInt")), ⟨2⟩, [], false, true⟩]],
    .empty⟩

theorem nulls_once_orders :
    ∃ api d, run optionalOrders.describeApi .empty = (.ok api, d) ∧
      api.types = [.nullable (.reference "Order"), .nullable .string,
        .nullable (.array (.nullable .integer))] ∧
      ∀ t ∈ api.types, t.NullsOnce := by
  let act := optionalOrders.describeApi
  have hrun : run act .empty = (.ok (run act .empty).2.api, (run act .empty).2) :=
    run_eq_of_fst (by decide +kernel)
  exact ⟨_, _, hrun, by decide +kernel, (nulls_once optionalOrders).2 _ _ hrun⟩

end Survey

end ApiSurface
