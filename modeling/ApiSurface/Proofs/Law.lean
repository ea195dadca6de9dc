import ApiSurface.Proofs.ClassKind

/-!
# Laws of description

A law says what holds of every description, how a description may change, and what holds of every
type that is described. It has to be checked for the single steps only, each under what is known
when the step is made. Then it holds of whole runs, also of those that fail.
-/

namespace ApiSurface

def DefinitionForm.isClass : DefinitionForm → Bool
  | .bean | .serialized => true
  | _ => false

def DefinitionForm.isUnion : DefinitionForm → Bool
  | .beanUnion _ | .sealedUnion => true
  | _ => false

/-- What holds of all descriptions (`Inv`), how they may change (`Le`), and what holds of the types
described so far (`Good`), with a proof for every step that describing takes. -/
structure Law (survey : Survey) where
  Inv : Description → Prop
  Le : Description → Description → Prop
  Good : Description → ApiType → Prop
  le_refl (d : Description) : Le d d
  le_trans {d d' d'' : Description} : Le d d' → Le d' d'' → Le d d''
  le_claimed {d d' : Description} {q : String} : Le d d' → survey.Claimed d q → survey.Claimed d' q
  good_le {d d' : Description} {t : ApiType} : Le d d' → Good d t → Good d' t
  good_primitive (d : Description) (p : PrimitiveType) : Good d (.primitive p)
  good_array {d : Description} {t : ApiType} : Good d t → Good d (.array t)
  good_dictionary {d : Description} {t : ApiType} : Good d t → Good d (.dictionary t)
  good_orNull {d : Description} {t : ApiType} : Good d t → Good d t.orNull
  report {d : Description} (e : Event) : Inv d → Inv (d.withEvent e) ∧ Le d (d.withEvent e)
  follow {d : Description} {v : String} : Inv d → v ∉ d.followed →
    Inv (d.withFollowed (v :: d.followed))
  unfollow {d d' : Description} {v : String} : Inv d → v ∉ d.followed →
    Le (d.withFollowed (v :: d.followed)) d' → Inv d' →
    Inv (d'.withFollowed d'.followed.tail) ∧ Le d (d'.withFollowed d'.followed.tail)
  good_unfollow {d : Description} {t : ApiType} (followed : List String) : Good d t →
    Good (d.withFollowed followed) t
  claim {d : Description} {q : String} : Inv d → d.claims.get? (survey.nameOf q) = none →
    Inv (survey.claim d q) ∧ Le d (survey.claim d q)
  good_imported {d : Description} {q : String} : Inv d → survey.Claimed d q →
    survey.kind q = .imported → Good d (.blackBox (survey.nameOf q))
  good_unknown {d : Description} {q : String} : Inv d → survey.Claimed d q →
    survey.kind q = .unknown → Good d (.reference (survey.nameOf q))
  blackBox {d : Description} {q : String} : Inv d → survey.Claimed d q →
    survey.kind q = .blackBox →
    Inv (d.withBlackBox (survey.nameOf q)) ∧ Le d (d.withBlackBox (survey.nameOf q)) ∧
      Good (d.withBlackBox (survey.nameOf q)) (.blackBox (survey.nameOf q))
  good_alias {d : Description} {q : String} {decl : JavaClass} {m : JavaMethod} : Inv d →
    survey.Claimed d q → survey.kind q = .value decl m →
    d.api.aliases.contains (survey.nameOf q) = true → Good d (.blackBox (survey.nameOf q))
  addAlias {d : Description} {q : String} {decl : JavaClass} {m : JavaMethod} {t : ApiType} :
    Inv d → survey.Claimed d q → survey.kind q = .value decl m → Good d t →
    Inv (d.withAlias (survey.nameOf q) t) ∧ Le d (d.withAlias (survey.nameOf q) t)
  good_defined {d : Description} {q : String} {decl : JavaClass} : Inv d → survey.Claimed d q →
    survey.kind q = .defined decl → d.api.defines (survey.nameOf q) = true →
    Good d (.reference (survey.nameOf q))
  addEnum {d : Description} {q : String} {decl : JavaClass} : Inv d → survey.Claimed d q →
    survey.kind q = .defined decl → decl.form = .enum →
    d.api.defines (survey.nameOf q) = false →
    Inv (d.withEnum ⟨survey.nameOf q, decl.enumConstants⟩) ∧
      Le d (d.withEnum ⟨survey.nameOf q, decl.enumConstants⟩)
  addClass {d : Description} {q : String} {decl : JavaClass} : Inv d → survey.Claimed d q →
    survey.kind q = .defined decl → decl.form.isClass = true →
    d.api.defines (survey.nameOf q) = false →
    Inv (d.withClass (.empty (survey.nameOf q))) ∧ Le d (d.withClass (.empty (survey.nameOf q)))
  completeClass {d d' : Description} {q : String} {decl : JavaClass} {c : ClassDefinition} :
    Inv d → survey.Claimed d q → survey.kind q = .defined decl → decl.form.isClass = true →
    d.api.defines (survey.nameOf q) = false →
    Le (d.withClass (.empty (survey.nameOf q))) d' → Inv d' → c.name = survey.nameOf q →
    d'.api.classes.contains c.name = true →
    (∀ p t, c.properties.get? p = some t → Good d' t) →
    Inv (d'.withClass c) ∧ Le d (d'.withClass c)
  addUnion {d : Description} {q property : String} {decl : JavaClass} : Inv d →
    survey.Claimed d q → survey.kind q = .defined decl → decl.form.isUnion = true →
    d.api.defines (survey.nameOf q) = false →
    Inv (d.withUnion (.empty (survey.nameOf q) property)) ∧
      Le d (d.withUnion (.empty (survey.nameOf q) property))
  completeUnion {d d' : Description} {q property : String} {decl : JavaClass}
    {u : UnionDefinition} :
    Inv d → survey.Claimed d q → survey.kind q = .defined decl → decl.form.isUnion = true →
    d.api.defines (survey.nameOf q) = false →
    Le (d.withUnion (.empty (survey.nameOf q) property)) d' → Inv d' →
    u.name = survey.nameOf q → d'.api.unions.contains u.name = true →
    (∀ v c, u.cases.get? v = some c → ∀ p t, c.properties.get? p = some t → Good d' t) →
    Inv (d'.withUnion u) ∧ Le d (d'.withUnion u)
  addGroup {d : Description} {group : EndpointGroup} : Inv d →
    (∀ e ∈ group.endpoints.values, ∀ t ∈ e.types, Good d t) →
    Inv (d.withGroup group) ∧ Le d (d.withGroup group)
  setImports {d : Description} (imports : NameMap NameSet) : Inv d →
    Inv (d.withImports imports) ∧ Le d (d.withImports imports)

namespace Law

open Describing

variable {α β : Type} {survey : Survey} (law : Law survey)

/-- From a lawful description the action leads to a lawful one, by lawful changes, and its result,
if there is one, satisfies the condition. -/
def Leads (act : Describing α) (d : Description) (post : α → Description → Prop) : Prop :=
  law.Inv d → law.Inv (run act d).2 ∧ law.Le d (run act d).2 ∧
    ∀ a, (run act d).1 = .ok a → post a (run act d).2

/-- A lawful way to describe types. -/
def Describes (describe : TypeDescriber) : Prop :=
  ∀ type env d, law.Leads (describe type env) d fun t after => law.Good after t

variable {law}

theorem leads_pure {a : α} {d : Description} {post : α → Description → Prop} (h : post a d) :
    law.Leads (pure a) d post := by
  intro hinv
  refine ⟨hinv, law.le_refl d, ?_⟩
  rintro _ ⟨⟩
  exact h

theorem leads_throw {h : Halt} {d : Description} {post : α → Description → Prop} :
    law.Leads (throw h : Describing α) d post :=
  fun hinv => ⟨hinv, law.le_refl d, by rintro _ ⟨⟩⟩

theorem leads_lift {result : Except SurfaceError α} {d : Description}
    {post : α → Description → Prop} (h : ∀ a, result = .ok a → post a d) :
    law.Leads (lift result) d post := by
  cases result with
  | error e => exact leads_throw
  | ok a => exact leads_pure (h a rfl)

theorem leads_liftHalt {result : Except Halt α} {d : Description}
    {post : α → Description → Prop} (h : ∀ a, result = .ok a → post a d) :
    law.Leads (liftHalt result) d post := by
  cases result with
  | error e => exact leads_throw
  | ok a => exact leads_pure (h a rfl)

theorem leads_bind {act : Describing α} {f : α → Describing β} {d : Description}
    {P : α → Description → Prop} {post : β → Description → Prop} (hact : law.Leads act d P)
    (hf : ∀ a after, law.Le d after → P a after → law.Leads (f a) after post) :
    law.Leads (act >>= f) d post := by
  intro hinv
  obtain ⟨hinv', hle, hP⟩ := hact hinv
  rw [run_bind]
  rcases hrun : run act d with ⟨_ | a, after⟩ <;> simp only [hrun] at hinv' hle hP ⊢
  · exact ⟨hinv', hle, by rintro _ ⟨⟩⟩
  · obtain ⟨hinv'', hle', hpost⟩ := hf a after hle (hP a rfl) hinv'
    exact ⟨hinv'', law.le_trans hle hle', hpost⟩

theorem Leads.of_run_eq {act : Describing α} (act' : Describing α) {d : Description}
    {post : α → Description → Prop} (heq : run act d = run act' d) (h : law.Leads act' d post) :
    law.Leads act d post := by
  rw [Leads, heq]
  exact h

theorem leads_bind_get {f : Description → Describing α} {d : Description}
    {post : α → Description → Prop} (h : law.Leads (f d) d post) :
    law.Leads (get >>= f) d post :=
  .of_run_eq _ (run_bind_of_ok (run_get d) f) h

theorem leads_of_inv {act : Describing α} {d : Description} {post : α → Description → Prop}
    (h : law.Inv d → law.Leads act d post) : law.Leads act d post :=
  fun hinv => h hinv hinv

/-- What a step keeps of what was gathered so far holds behind the last step. -/
theorem leads_foldlM {f : β → α → Describing β} {keeps : β → Description → Prop} {l : List α}
    {b : β} {d : Description}
    (hstep : ∀ b a d, keeps b d → law.Leads (f b a) d keeps) (hb : keeps b d) :
    law.Leads (l.foldlM f b) d keeps := by
  induction l generalizing b d with
  | nil => exact leads_pure hb
  | cons a l ih =>
    rw [List.foldlM_cons]
    exact leads_bind (hstep b a d hb) fun b' after _ hb' => ih hb'

theorem leads_forM {f : α → Describing Unit} {l : List α} {d : Description}
    (hstep : ∀ a d, law.Leads (f a) d fun _ _ => True) :
    law.Leads (l.forM f) d fun _ _ => True := by
  induction l generalizing d with
  | nil => exact leads_pure trivial
  | cons a l ih =>
    show law.Leads (f a >>= fun _ => l.forM f) d _
    exact leads_bind (hstep a d) fun _ _ _ _ => ih

theorem leads_report (e : Event) (d : Description) :
    law.Leads (Describing.report e) d fun _ _ => True :=
  fun hinv => ⟨(law.report e hinv).1, (law.report e hinv).2, fun _ _ => trivial⟩

end Law

end ApiSurface
