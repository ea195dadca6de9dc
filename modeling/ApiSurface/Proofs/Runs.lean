import Mathlib.Tactic.Common
import ApiSurface.Controllers

/-!
# Runs of descriptions

A describing action takes a description to a result and a description, also when it fails. The
statements here say what the composed actions do, so that no later proof opens them.
-/

namespace ApiSurface

namespace Description

def withClass (d : Description) (definition : ClassDefinition) : Description :=
  { d with api := { d.api with classes := d.api.classes.insert definition.name definition } }

def withEnum (d : Description) (definition : EnumDefinition) : Description :=
  { d with api := { d.api with enums := d.api.enums.insert definition.name definition } }

def withUnion (d : Description) (union : UnionDefinition) : Description :=
  { d with api := { d.api with unions := d.api.unions.insert union.name union } }

def withBlackBox (d : Description) (name : String) : Description :=
  { d with api := d.api.addBlackBox name }

def withAlias (d : Description) (name : String) (target : ApiType) : Description :=
  { d with api := d.api.addAlias name target }

def withGroup (d : Description) (group : EndpointGroup) : Description :=
  { d with api := d.api.addGroup group }

def withImports (d : Description) (imports : NameMap NameSet) : Description :=
  { d with api := { d.api with imports } }

def withFollowed (d : Description) (followed : List String) : Description := { d with followed }

def withEvent (d : Description) (event : Event) : Description :=
  { d with events := d.events ++ [event] }

end Description

namespace ApiDefinition

/-- The imports after those of one more module. -/
def importsWith (imports : NameMap NameSet) (module : String) (types : List String) :
    NameMap NameSet :=
  ({ empty with imports }.addImport module types).2.imports

/-- Adding imports leaves the rest of an API alone, and only the imports matter to it. -/
theorem addImport_snd (api : ApiDefinition) (module : String) (types : List String) :
    (api.addImport module types).2 =
      { api with imports := importsWith api.imports module types } := by
  induction types generalizing api with
  | nil => rfl
  | cons type types ih =>
    have himported : ({ empty with imports := api.imports } : ApiDefinition).isImported type =
        api.isImported type := rfl
    rw [importsWith, addImport, addImport, himported]
    split_ifs
    · rfl
    · exact ih (api.importType module type)

end ApiDefinition

namespace Describing

variable {α β : Type}

/-- The result of an action, and the description that it leaves. -/
def run (act : Describing α) (d : Description) : Except Halt α × Description := act d

@[simp] theorem run_pure (a : α) (d : Description) : run (pure a) d = (.ok a, d) := rfl

@[simp] theorem run_throw (h : Halt) (d : Description) :
    run (throw h : Describing α) d = (.error h, d) := rfl

@[simp] theorem run_get (d : Description) : run get d = (.ok d, d) := rfl

@[simp] theorem run_modify (f : Description → Description) (d : Description) :
    run (modify f) d = (.ok (), f d) := rfl

@[simp] theorem run_report (event : Event) (d : Description) :
    run (report event) d = (.ok (), { d with events := d.events ++ [event] }) := rfl

@[simp] theorem run_api (d : Description) : run api d = (.ok d.api, d) := rfl

@[simp] theorem run_lift (result : Except SurfaceError α) (d : Description) :
    run (lift result) d = (Halt.lift result, d) := by
  cases result <;> rfl

@[simp] theorem run_liftHalt (result : Except Halt α) (d : Description) :
    run (liftHalt result) d = (result, d) := by
  cases result <;> rfl

theorem run_eq_of_fst {act : Describing α} {d : Description} {a : α}
    (h : (run act d).1 = .ok a) : run act d = (.ok a, (run act d).2) :=
  Prod.ext h rfl

theorem exists_run_of_isOk {act : Describing α} {d : Description}
    (h : (run act d).1.isOk = true) : ∃ a after, run act d = (.ok a, after) := by
  rcases hrun : run act d with ⟨_ | a, after⟩
  · simp [hrun, Except.isOk, Except.toBool] at h
  · exact ⟨a, after, rfl⟩

/-- The second action runs where the first one succeeds. -/
theorem run_bind (act : Describing α) (f : α → Describing β) (d : Description) :
    run (act >>= f) d = match run act d with
      | (.ok a, after) => run (f a) after
      | (.error h, after) => (.error h, after) := by
  show (ExceptT.bindCont f (run act d).1) (run act d).2 = _
  rcases run act d with ⟨_ | _, _⟩ <;> rfl

theorem run_bind_of_ok {act : Describing α} {d between : Description} {a : α}
    (h : run act d = (.ok a, between)) (f : α → Describing β) :
    run (act >>= f) d = run (f a) between := by
  rw [run_bind, h]

theorem run_bind_of_error {act : Describing α} {d between : Description} {h : Halt}
    (he : run act d = (.error h, between)) (f : α → Describing β) :
    run (act >>= f) d = (.error h, between) := by
  rw [run_bind, he]

theorem run_bind_eq_ok_iff {act : Describing α} {f : α → Describing β} {d after : Description}
    {b : β} :
    run (act >>= f) d = (.ok b, after) ↔
      ∃ a between, run act d = (.ok a, between) ∧ run (f a) between = (.ok b, after) := by
  rw [run_bind]
  rcases run act d with ⟨_ | a, between⟩
  · simp
  · exact ⟨fun h => ⟨a, between, rfl, h⟩, by rintro ⟨_, _, ⟨⟩, h⟩; exact h⟩

theorem run_forM_report (events : List Event) (d : Description) :
    run (events.forM report) d = (.ok (), { d with events := d.events ++ events }) := by
  induction events generalizing d with
  | nil => simp [List.forM]
  | cons event events ih =>
    show run (report event >>= fun _ => events.forM report) d = _
    rw [run_bind_of_ok (run_report event d), ih]
    simp

@[simp] theorem lift_eq_ok_iff {result : Except SurfaceError α} {a : α} :
    Halt.lift result = .ok a ↔ result = .ok a := by
  cases result <;> simp [Halt.lift]

/-- A change of the API that fails changes nothing. -/
theorem run_extend (change : ApiDefinition → Except SurfaceError ApiDefinition) (d : Description) :
    run (extend change) d = match change d.api with
      | .ok api => (.ok (), { d with api })
      | .error e => (.error (.failed e), d) := by
  rw [extend, run_bind, run_api]
  simp only [run_bind, run_lift]
  cases change d.api <;> rfl

theorem run_extend_eq_ok_iff {change : ApiDefinition → Except SurfaceError ApiDefinition}
    {d after : Description} :
    run (extend change) d = (.ok (), after) ↔
      ∃ api, change d.api = .ok api ∧ after = { d with api } := by
  rw [run_extend]
  cases change d.api <;> simp [eq_comm]

theorem run_following (name : String) (act : Describing α) (d : Description) :
    run (following name act) d =
      ((run act { d with followed := name :: d.followed }).1,
        { (run act { d with followed := name :: d.followed }).2 with
          followed := (run act { d with followed := name :: d.followed }).2.followed.tail }) := rfl

/-! ## Successful runs -/

/-- What holds of the result and of the description behind a run, if the run succeeds. -/
def Yields (act : Describing α) (d : Description) (post : α → Description → Prop) : Prop :=
  ∀ a after, run act d = (.ok a, after) → post a after

variable {d : Description} {post : α → Description → Prop}

theorem yields_pure {a : α} (h : post a d) : Yields (pure a) d post := by
  rintro _ _ ⟨⟩
  exact h

theorem yields_throw {h : Halt} : Yields (throw h : Describing α) d post := by
  rintro _ _ ⟨⟩

theorem yields_lift {result : Except SurfaceError α} (h : ∀ a, result = .ok a → post a d) :
    Yields (lift result) d post := by
  cases result with
  | error e => exact yields_throw
  | ok a => exact yields_pure (h a rfl)

theorem yields_liftHalt {result : Except Halt α} (h : ∀ a, result = .ok a → post a d) :
    Yields (liftHalt result) d post := by
  cases result with
  | error e => exact yields_throw
  | ok a => exact yields_pure (h a rfl)

theorem yields_bind {act : Describing β} {f : β → Describing α}
    {P : β → Description → Prop} (hact : Yields act d P)
    (hf : ∀ b after, P b after → Yields (f b) after post) : Yields (act >>= f) d post := by
  intro a after hrun
  obtain ⟨b, between, hrun, hrun'⟩ := run_bind_eq_ok_iff.mp hrun
  exact hf b between (hact b between hrun) a after hrun'

theorem Yields.imp {act : Describing α} {post' : α → Description → Prop} (h : Yields act d post)
    (himp : ∀ a after, post a after → post' a after) : Yields act d post' :=
  fun a after hrun => himp a after (h a after hrun)

theorem Yields.of_run_eq {act : Describing α} (act' : Describing α)
    (heq : run act d = run act' d) (h : Yields act' d post) : Yields act d post :=
  fun a after hrun => h a after (heq ▸ hrun)

theorem yields_following {name : String} {act : Describing α}
    (h : Yields act (d.withFollowed (name :: d.followed)) fun a between =>
      post a (between.withFollowed between.followed.tail)) :
    Yields (following name act) d post := by
  intro a after hrun
  rw [run_following] at hrun
  obtain ⟨hok, rfl⟩ := Prod.mk.inj hrun
  exact h a _ (Prod.ext hok rfl)

theorem yields_extend {change : ApiDefinition → Except SurfaceError ApiDefinition}
    {post : Unit → Description → Prop}
    (h : ∀ api, change d.api = .ok api → post () { d with api }) :
    Yields (extend change) d post := by
  intro a after hrun
  obtain ⟨api, hchange, rfl⟩ := run_extend_eq_ok_iff.mp hrun
  exact h api hchange

theorem yields_addClass (c : ClassDefinition) :
    Yields (extend (·.addClass c)) d fun _ after => after = d.withClass c :=
  yields_extend fun _ hapi => by
    obtain ⟨-, rfl⟩ := ApiDefinition.addClass_eq_ok_iff.mp hapi
    rfl

theorem yields_completeClass (c : ClassDefinition) :
    Yields (extend (·.completeClass c)) d fun _ after => after = d.withClass c :=
  yields_extend fun _ hapi => by
    obtain ⟨-, rfl⟩ := ApiDefinition.completeClass_eq_ok_iff.mp hapi
    rfl

theorem yields_addEnum (e : EnumDefinition) :
    Yields (extend (·.addEnum e)) d fun _ after => after = d.withEnum e :=
  yields_extend fun _ hapi => by
    obtain ⟨-, rfl⟩ := ApiDefinition.addEnum_eq_ok_iff.mp hapi
    rfl

theorem yields_addUnion (u : UnionDefinition) :
    Yields (extend (·.addUnion u)) d fun _ after => after = d.withUnion u :=
  yields_extend fun _ hapi => by
    obtain ⟨-, rfl⟩ := ApiDefinition.addUnion_eq_ok_iff.mp hapi
    rfl

theorem yields_completeUnion (u : UnionDefinition) :
    Yields (extend (·.completeUnion u)) d fun _ after => after = d.withUnion u :=
  yields_extend fun _ hapi => by
    obtain ⟨-, rfl⟩ := ApiDefinition.completeUnion_eq_ok_iff.mp hapi
    rfl

theorem yields_addBlackBox (name : String) :
    Yields (extend fun api => .ok (api.addBlackBox name)) d fun _ after =>
      after = d.withBlackBox name :=
  yields_extend fun _ hapi => by
    cases hapi
    rfl

theorem yields_addAlias (name : String) (target : ApiType) :
    Yields (extend fun api => .ok (api.addAlias name target)) d fun _ after =>
      after = d.withAlias name target :=
  yields_extend fun _ hapi => by
    cases hapi
    rfl

/-- A successful loop takes the same steps as one without a description beside it. -/
theorem yields_foldlM {γ : Type} {f : β → α → Describing β} {g : γ → α → Except Halt γ}
    {like : γ → β → Description → Prop} {l : List α} {b : β} {c : γ}
    (hstep : ∀ c b a d, like c b d →
      Yields (f b a) d fun b' after => ∃ c', g c a = .ok c' ∧ like c' b' after)
    (h : like c b d) :
    Yields (l.foldlM f b) d fun b' after => ∃ c', l.foldlM g c = .ok c' ∧ like c' b' after := by
  induction l generalizing b c d with
  | nil => exact yields_pure ⟨c, rfl, h⟩
  | cons a l ih =>
    rw [List.foldlM_cons]
    refine yields_bind (hstep c b a d h) ?_
    intro b' between hpost
    obtain ⟨c', hg, h'⟩ := hpost
    refine (ih h').imp ?_
    intro b'' after hpost
    obtain ⟨c'', hg', h''⟩ := hpost
    exact ⟨c'', by rw [List.foldlM_cons, hg]; exact hg', h''⟩

end Describing

end ApiSurface
