import ApiSurface.Proofs.BeanPopulation
import ApiSurface.Proofs.Building
import ApiSurface.Proofs.NameMeaning

/-!
# Repeated descriptions

A type that was described once is described the same way ever after. The first run leaves every
class that it meets settled, and whatever comes between keeps it so; then the class is only named,
and nothing is registered any more.
-/

namespace ApiSurface

open Describing

theorem TypeEnvironment.unfollowed_le_size (env : TypeEnvironment) (followed : List String) :
    env.unfollowed followed ≤ env.size :=
  List.countP_le_length

namespace Survey

variable {survey : Survey} {describe : TypeDescriber} {d after later : Description}

/-- What the kind of the class asks for is in the API. -/
def Registered (survey : Survey) (d : Description) (q : String) : Prop :=
  match survey.kind q with
  | .imported | .unknown => True
  | .blackBox => d.api.blackBoxes.contains (survey.nameOf q) = true
  | .value .. => d.api.aliases.contains (survey.nameOf q) = true
  | .defined _ => d.api.defines (survey.nameOf q) = true

/-- The class has claimed its name and is registered. -/
def Settled (survey : Survey) (d : Description) (q : String) : Prop :=
  survey.Claimed d q ∧ survey.Registered d q

theorem Settled.kept {q : String} (h : survey.Settled d q) (hkeeps : Keeps d after) :
    survey.Settled after q := by
  obtain ⟨hclaimed, hthere⟩ := h
  refine ⟨hkeeps.claimed hclaimed, ?_⟩
  simp only [Registered] at hthere ⊢
  cases hkind : survey.kind q <;> simp only [hkind] at hthere ⊢
  · exact hkeeps.blackBoxes.contains hthere
  · exact hkeeps.aliases.contains hthere
  · exact hkeeps.defines hthere

theorem withBlackBox_of_contains {name : String} (h : d.api.blackBoxes.contains name = true) :
    d.withBlackBox name = d := by
  have hsame : d.api.blackBoxes.add name = d.api.blackBoxes := by
    obtain ⟨v, hv⟩ := Option.isSome_iff_exists.mp h
    refine NameMap.ext_get? fun k => ?_
    by_cases hk : k = name <;> simp [NameSet.add, hk, hv]
  simp only [Description.withBlackBox, ApiDefinition.addBlackBox, hsame]

/-- A settled class is only named. -/
theorem run_describeClass_of_settled (describe : TypeDescriber) {q : String}
    (h : survey.Settled d q) :
    run (survey.describeClass describe q) d = (.ok (survey.standIn q), d) := by
  obtain ⟨hclaimed, hthere⟩ := h
  have hname : run (survey.displayName q) d = (.ok (survey.nameOf q), d) := by
    rw [run_displayName, hclaimed]
    exact if_pos rfl
  rw [run_describeClass describe hname]
  simp only [standIn, Registered] at hthere ⊢
  cases hkind : survey.kind q <;> simp only [hkind] at hthere ⊢
  case imported | unknown => rfl
  case blackBox =>
    have hadd : run (extend fun api => .ok (api.addBlackBox (survey.nameOf q))) d = (.ok (), d) := by
      rw [run_extend]
      exact Prod.ext rfl (withBlackBox_of_contains hthere)
    exact run_bind_of_ok hadd _
  case value decl method =>
    simp only [describeKind, run_describeValueClass, hthere, if_true]
  case defined decl =>
    simp only [describeKind, run_describeDefinition, hthere, if_true]

/-- What a lawful action leaves is built from what it began with. -/
theorem yields_built {α : Type} {act : Describing α} {post P : α → Description → Prop}
    (h : Yields act d post) (hleads : (building survey).Leads act d P) :
    Yields act d fun a after => post a after ∧ survey.Builds d after := by
  intro a after hrun
  have hbuilds := (hleads trivial).2.1
  rw [hrun] at hbuilds
  exact ⟨h a after hrun, hbuilds⟩

theorem yields_registered (h : (building survey).Describes describe) {q : String}
    (hclaimed : survey.Claimed d q) :
    Yields (survey.describeKind describe q (survey.kind q)) d fun t after =>
      t = survey.standIn q ∧ survey.Registered after q := by
  simp only [standIn, Registered]
  cases hkind : survey.kind q with
  | imported => exact yields_pure ⟨rfl, trivial⟩
  | unknown => exact yields_pure ⟨rfl, trivial⟩
  | blackBox =>
    refine yields_bind (yields_addBlackBox _) fun _ _ hafter => yields_pure ⟨rfl, ?_⟩
    simp [hafter, Description.withBlackBox, ApiDefinition.addBlackBox]
  | value decl method =>
    cases halias : d.api.aliases.contains (survey.nameOf q) with
    | true =>
      refine .of_run_eq (pure (.blackBox (survey.nameOf q))) ?_ (yields_pure ⟨rfl, halias⟩)
      simp [describeKind, run_describeValueClass, halias]
    | false =>
      refine .of_run_eq _ (by simp [describeKind, run_describeValueClass, halias]; rfl) ?_
      refine yields_bind (P := fun _ _ => True) (fun _ _ _ => trivial) fun t between _ => ?_
      refine yields_bind (yields_addAlias _ t) fun _ _ hafter => yields_pure ⟨rfl, ?_⟩
      simp [hafter, Description.withAlias, ApiDefinition.addAlias]
  | defined decl =>
    cases hdefined : d.api.defines (survey.nameOf q) with
    | true =>
      refine .of_run_eq (pure (.reference (survey.nameOf q))) ?_ (yields_pure ⟨rfl, hdefined⟩)
      simp [describeKind, run_describeDefinition, hdefined]
    | false =>
      refine .of_run_eq _ (by simp [describeKind, run_describeDefinition, hdefined]; rfl) ?_
      have hregister := (Law.leads_register h hclaimed hkind hdefined trivial).2.2
      refine yields_bind (P := fun _ after => after.api.defines (survey.nameOf q) = true)
        (fun _ after hrun => ?_) fun _ _ hafter => yields_pure ⟨rfl, hafter⟩
      rw [hrun] at hregister
      exact hregister _ rfl

/-- A class that is described is settled. -/
theorem yields_settled (h : (building survey).Describes describe) (q : String)
    (d : Description) :
    Yields (survey.describeClass describe q) d fun t after =>
      t = survey.standIn q ∧ survey.Settled after q := by
  obtain ⟨e, he⟩ | ⟨between, hok, hclaimed, -⟩ := run_displayName_cases q d
  · intro t after hrun
    rw [describeClass, run_bind_of_error he] at hrun
    cases hrun
  · intro t after hrun
    rw [run_describeClass describe hok] at hrun
    obtain ⟨⟨ht, hthere⟩, hbuilds⟩ :=
      yields_built (yields_registered h hclaimed) (Law.leads_describeKind h hclaimed) t after hrun
    exact ⟨ht, hbuilds.keeps.claimed hclaimed, hthere⟩

/-! ## Answers that are repeated -/

/-- In every later description the type is described like this again, and nothing changes. -/
def Repeated (survey : Survey) (type : JavaType) (env : TypeEnvironment) (t : ApiType)
    (d : Description) : Prop :=
  ∀ depth later, env.unfollowed d.followed ≤ depth → Keeps d later →
    later.followed = d.followed →
    run (survey.describeWithin (survey.describeTo depth) type env) later = (.ok t, later)

theorem Repeated.kept {type : JavaType} {env : TypeEnvironment} {t : ApiType}
    (h : survey.Repeated type env t d) (hbuilds : survey.Builds d after) :
    survey.Repeated type env t after := by
  intro depth later hdepth hkeeps hfollowed
  rw [hbuilds.followed] at hdepth hfollowed
  exact h depth later hdepth (hbuilds.keeps.trans hkeeps) hfollowed

/-- A way to describe types whose answers are repeated. -/
def Repeats (survey : Survey) (describe : TypeDescriber) : Prop :=
  ∀ type env d, Yields (describe type env) d fun t after => survey.Repeated type env t after

theorem repeats_describeName (h : (building survey).Describes describe) (name : String)
    (env : TypeEnvironment) (d : Description) :
    Yields (survey.describeName describe name) d fun t after =>
      survey.Repeated (.basic name) env t after := by
  unfold describeName
  cases hbuiltin : survey.classes.builtin? name with
  | some t =>
    refine yields_pure fun depth later _ _ _ => ?_
    simp [describeWithin, describeName, hbuiltin]
  | none =>
    refine (yields_settled h name d).imp ?_
    rintro _ after ⟨rfl, hsettled⟩ depth later - hkeeps -
    simp only [describeWithin, describeName, hbuiltin]
    exact run_describeClass_of_settled _ (hsettled.kept hkeeps)

theorem repeats_describeVariable (h : survey.Repeats describe)
    (hlawful : (building survey).Describes describe) (name : String) (env : TypeEnvironment)
    (d : Description) :
    Yields (describeVariable describe name env) d fun t after =>
      survey.Repeated (.var name) env t after := by
  unfold describeVariable
  cases hlookup : env.lookup name with
  | none =>
    refine yields_pure fun depth later _ _ _ => ?_
    simp [describeWithin, describeVariable, hlookup]
  | some bound =>
    simp only
    by_cases hself : bound = .var name
    · simpa only [hself, if_true] using yields_throw
    simp only [hself, if_false]
    refine .of_run_eq _ (run_bind_of_ok (run_get d) _) ?_
    by_cases hmem : name ∈ d.followed
    · simp only [List.contains_eq_mem, hmem, decide_true, if_true]
      refine yields_pure fun depth later _ _ hfollowed => ?_
      simp [describeWithin, describeVariable, hlookup, hself, run_bind, hfollowed, hmem]
    simp only [List.contains_eq_mem, hmem, decide_false, Bool.false_eq_true, if_false]
    refine yields_following ((yields_built (h bound env _) (hlawful bound env _)).imp ?_)
    rintro t between ⟨ht, hbuilds⟩ depth later hdepth hkeeps hfollowed
    have hbetween : between.followed = name :: d.followed := hbuilds.followed
    change later.followed = between.followed.tail at hfollowed
    change env.unfollowed between.followed.tail ≤ depth at hdepth
    rw [hbetween, List.tail_cons] at hfollowed hdepth
    -- the binding is one variable further down, so the depth is not used up
    have hlt := TypeEnvironment.unfollowed_cons_lt hlookup hmem
    obtain ⟨depth, rfl⟩ : ∃ k, depth = k + 1 := Nat.exists_eq_succ_of_ne_zero (by omega)
    have hagain : run (survey.describeTo (depth + 1) bound env)
        { later with followed := name :: later.followed } =
          (.ok t, { later with followed := name :: later.followed }) := by
      refine ht depth _ (by rw [hbetween]; omega) { hkeeps with } ?_
      rw [hbetween, hfollowed]
    have hnot : later.followed.contains name = false := by simp [hfollowed, hmem]
    simp only [describeWithin, describeVariable, hlookup, hself, if_false]
    rw [run_bind_of_ok (run_get later)]
    simp only [hnot, Bool.false_eq_true, if_false]
    rw [run_following, hagain]
    rfl

theorem repeats_describeAllWithin {types : List JavaType} {env : TypeEnvironment}
    (h : ∀ type ∈ types, ∀ d, Yields (survey.describeWithin describe type env) d fun t after =>
      survey.Repeated type env t after)
    (hlawful : (building survey).Describes describe) (d : Description) :
    Yields (survey.describeAllWithin describe types env) d fun ts after =>
      ∀ depth later, env.unfollowed after.followed ≤ depth → Keeps after later →
        later.followed = after.followed →
        run (survey.describeAllWithin (survey.describeTo depth) types env) later =
          (.ok ts, later) := by
  induction types generalizing d with
  | nil => exact yields_pure fun _ _ _ _ _ => rfl
  | cons type types ih =>
    refine yields_bind (h type (by simp) d) fun t between ht => ?_
    refine yields_bind (yields_built (ih (fun type htype => h type (by simp [htype])) between)
      (Law.leads_describeAllWithin fun type _ d => Law.leads_describeWithin hlawful type env d)) ?_
    rintro ts after ⟨hts, hbuilds⟩
    refine yields_pure fun depth later hdepth hkeeps hfollowed => ?_
    rw [describeAllWithin, run_bind_of_ok (ht.kept hbuilds depth later hdepth hkeeps hfollowed),
      run_bind_of_ok (hts depth later hdepth hkeeps hfollowed)]
    rfl

theorem repeats_describeWithin (h : survey.Repeats describe)
    (hlawful : (building survey).Describes describe) :
    survey.Repeats (survey.describeWithin describe) := by
  intro type env d
  induction type using JavaType.induct generalizing d with
  | basic name => exact repeats_describeName hlawful name env d
  | array element ih =>
    refine yields_bind (ih d) fun t after ht => yields_pure ?_
    intro depth later hdepth hkeeps hfollowed
    exact run_bind_of_ok (ht depth later hdepth hkeeps hfollowed) _
  | parameterized base arguments ihBase ihArguments =>
    refine yields_bind (repeats_describeAllWithin ihArguments hlawful d) fun ts between hts => ?_
    cases hcontainer : survey.classes.container? base ts with
    | some t =>
      refine yields_pure fun depth later hdepth hkeeps hfollowed => ?_
      rw [describeWithin, run_bind_of_ok (hts depth later hdepth hkeeps hfollowed), hcontainer]
      rfl
    | none =>
      refine (yields_built (ihBase between) (Law.leads_describeWithin hlawful base env between)).imp ?_
      rintro t after ⟨ht, hbuilds⟩ depth later hdepth hkeeps hfollowed
      have hagain := hts depth later (hbuilds.followed ▸ hdepth) (hbuilds.keeps.trans hkeeps)
        (hfollowed.trans hbuilds.followed)
      rw [describeWithin, run_bind_of_ok hagain, hcontainer]
      exact ht depth later hdepth hkeeps hfollowed
  | var name => exact repeats_describeVariable h hlawful name env d
  | wildcard upper lower ihUpper ihLower =>
    cases lower with
    | some lower => simpa only [Repeated, describeWithin] using ihLower lower rfl d
    | none =>
      cases upper with
      | some upper => simpa only [Repeated, describeWithin] using ihUpper upper rfl d
      | none =>
        refine yields_pure fun depth later _ _ _ => ?_
        rfl
  | inner outer name _ => exact yields_throw

theorem repeats_describeTo (depth : Nat) : survey.Repeats (survey.describeTo depth) := by
  induction depth with
  | zero => exact fun _ _ _ => yields_throw
  | succ depth ih => exact repeats_describeWithin ih (Law.describes_describeTo depth)

/-! ## Whole runs -/

/-- The bound on the depth leaves room for every binding. -/
theorem size_lt_depthBound (survey : Survey) (env : TypeEnvironment) :
    env.size < survey.depthBound env := by
  have hfactor : survey.classes.size + survey.variableCount + env.size + 1 ≤
      survey.nestingBound env := Nat.le_mul_of_pos_left _ (Nat.succ_pos _)
  rw [depthBound]
  omega

theorem after_append (survey : Survey) (calls more : List (JavaType × TypeEnvironment)) :
    survey.after (calls ++ more) =
      more.foldl (fun d call => (run (survey.describe call.1 call.2) d).2) (survey.after calls) :=
  List.foldl_append

theorem builds_calls (survey : Survey) (calls : List (JavaType × TypeEnvironment)) (d : Description) :
    survey.Builds d
      (calls.foldl (fun d call => (run (survey.describe call.1 call.2) d).2) d) := by
  induction calls generalizing d with
  | nil => exact .nothing d
  | cons call calls ih => exact (builds_describeTo _ call.1 call.2 d).andThen (ih _)

/-- A type that was described with success is described the same way again, in whatever description
there is after more types were described, with or without success, and nothing changes then. -/
theorem describe_repeated (survey : Survey) (calls more : List (JavaType × TypeEnvironment))
    (type : JavaType) (env : TypeEnvironment) (t : ApiType)
    (h : (run (survey.describe type env) (survey.after calls)).1 = .ok t) :
    run (survey.describe type env) (survey.after (calls ++ (type, env) :: more)) =
      (.ok t, survey.after (calls ++ (type, env) :: more)) := by
  have hrepeated := repeats_describeTo _ type env _ _ _ (run_eq_of_fst h)
  have hbuilds := builds_calls survey more (run (survey.describe type env) (survey.after calls)).2
  obtain ⟨depth, hdepth⟩ : ∃ depth, survey.depthBound env = depth + 1 :=
    Nat.exists_eq_succ_of_ne_zero (Nat.ne_zero_of_lt (size_lt_depthBound survey env))
  have hroom : ∀ followed, env.unfollowed followed ≤ depth := fun followed => by
    have hle := TypeEnvironment.unfollowed_le_size env followed
    have hlt := size_lt_depthBound survey env
    omega
  rw [after_append, describe, hdepth]
  exact hrepeated depth _ (hroom _) hbuilds.keeps hbuilds.followed

/-- Two beans that refer to each other, and one that refers to them and cannot be described. -/
def tornBeans : Survey :=
  ⟨.ofClasses [fieldBean "Left" "other" "Right", fieldBean "Right" "back" "Left",
    .ofFields "Torn" .empty .object
      [("whole", .basic "Left"), ("part", .inner (.basic "Left") "Part")]], .empty⟩

/-- A bean that is met through a variable, between two runs that fail. -/
theorem describe_repeated_torn :
    let list : JavaType := .parameterized (.basic "java.util.List") [.var "T"]
    let env : TypeEnvironment := ⟨[("T", .basic "Right")]⟩
    let before := [(JavaType.basic "Torn", TypeEnvironment.empty)]
    let more := [(JavaType.array (.basic "Torn"), env), (.basic "Left", .empty)]
    (run (tornBeans.describe list env) (tornBeans.after before)).1 =
        .ok (.array (.reference "Right")) ∧
      run (tornBeans.describe list env) (tornBeans.after (before ++ (list, env) :: more)) =
        (.ok (.array (.reference "Right")), tornBeans.after (before ++ (list, env) :: more)) := by
  intro list env before more
  have hrun : (run (tornBeans.describe list env) (tornBeans.after before)).1 =
      .ok (.array (.reference "Right")) := by decide +kernel
  exact ⟨hrun, describe_repeated tornBeans before more list env _ hrun⟩

end Survey

end ApiSurface
