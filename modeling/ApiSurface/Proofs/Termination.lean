import ApiSurface.Proofs.PairedRuns
import ApiSurface.Proofs.Trails

/-!
# Termination

Describing a type comes to an end unless the superclasses, the unwrapped members or the values of
classes go round in a cycle. On the way down a class is registered, or a variable is followed, or
a class written as a value leads to another one. The first two can happen only as often as there
are classes and variables, and until one of them happens again, no class written as a value comes
twice.
-/

namespace ApiSurface

open Describing

/-- The classes that a type names when it is described as seen from an environment: through its
parts and through the bindings of its variables. -/
inductive JavaType.Names (env : TypeEnvironment) : JavaType → String → Prop where
  | basic (q : String) : Names env (.basic q) q
  | part {type inner : JavaType} {q : String} : type.Part inner → Names env inner q →
      Names env type q
  | binding {name q : String} {bound : JavaType} : env.lookup name = some bound →
      Names env bound q → Names env (.var name) q

@[simp] theorem JavaType.names_basic_iff {env : TypeEnvironment} {name q : String} :
    Names env (.basic name) q ↔ q = name := by
  constructor
  · intro h
    cases h with
    | basic => rfl
    | part hpart _ => cases hpart
  · rintro rfl
    exact .basic q

@[simp] theorem JavaType.names_array_iff {env : TypeEnvironment} {element : JavaType} {q : String} :
    Names env (.array element) q ↔ Names env element q := by
  constructor
  · intro h
    cases h with
    | part hpart hq =>
      cases hpart
      exact hq
  · exact .part (.element element)

theorem JavaClass.names_methodEnvironment_subset (decl : JavaClass) (method : JavaMethod) :
    (decl.methodEnvironment method).names ⊆ decl.schema.names ++ method.schema.names := by
  refine List.Subset.trans (TypeEnvironment.names_ofBindings_subset _) fun name hname => ?_
  simpa [List.map_flatMap] using hname

namespace Survey

variable {survey : Survey} {d d' : Description}

/-- From a class written as a value to the classes that its method's return type names. -/
def ValueLink (survey : Survey) (q q' : String) : Prop :=
  ∃ decl m, survey.kind q = .value decl m ∧
    JavaType.Names (decl.methodEnvironment m) m.returnType q'

/-! ## What is left to be done -/

/-- The type variables that loaded classes and their methods declare. -/
def declaredVariables (survey : Survey) : List String :=
  survey.classes.classes.values.flatMap fun c =>
    c.schema.names ++ c.methods.flatMap (·.schema.names)

theorem length_declaredVariables (survey : Survey) :
    survey.declaredVariables.length = survey.variableCount := by
  have hnames : ∀ schema : TypeSchema, schema.names.length = schema.size :=
    fun schema => List.length_map _
  simp [declaredVariables, variableCount, List.length_flatMap, hnames, List.sum]

theorem schema_names_subset {decl : JavaClass} (hloaded : survey.classes.Loaded decl) :
    decl.schema.names ⊆ survey.declaredVariables :=
  fun _ hname => List.mem_flatMap.mpr ⟨decl, hloaded, List.mem_append_left _ hname⟩

theorem method_names_subset {decl : JavaClass} (hloaded : survey.classes.Loaded decl)
    {method : JavaMethod} (hmethod : method ∈ decl.methods) :
    method.schema.names ⊆ survey.declaredVariables :=
  fun _ hname => List.mem_flatMap.mpr
    ⟨decl, hloaded, List.mem_append_right _ (List.mem_flatMap.mpr ⟨method, hmethod, hname⟩)⟩

theorem length_keys (survey : Survey) :
    survey.classes.classes.keys.length = survey.classes.size :=
  List.length_map _

/-- How many of the classes can still be registered. -/
def unregistered (survey : Survey) (d : Description) : Nat :=
  survey.classes.classes.keys.countP fun q => !d.api.defines (survey.nameOf q)

theorem not_defines_of_builds (hbuilds : survey.Builds d d') {name : String}
    (hfree : (!d'.api.defines name) = true) : (!d.api.defines name) = true := by
  rw [Bool.not_eq_true'] at hfree ⊢
  cases hdefined : d.api.defines name with
  | false => rfl
  | true => exact absurd (hbuilds.keeps.defines hdefined) (by simp [hfree])

theorem unregistered_le (hbuilds : survey.Builds d d') :
    survey.unregistered d' ≤ survey.unregistered d :=
  List.countP_mono_left fun _ _ => not_defines_of_builds hbuilds

theorem unregistered_lt (hbuilds : survey.Builds d d') {q : String}
    (hq : q ∈ survey.classes.classes.keys) (hfree : d.api.defines (survey.nameOf q) = false)
    (hdefined : d'.api.defines (survey.nameOf q) = true) :
    survey.unregistered d' < survey.unregistered d :=
  countP_lt_countP (fun _ _ => not_defines_of_builds hbuilds) hq (by simp [hfree])
    (by simp [hdefined])

theorem unregistered_le_size (survey : Survey) (d : Description) :
    survey.unregistered d ≤ survey.classes.size := by
  rw [← length_keys]
  exact List.countP_le_length

/-- How many of the classes can still be registered, and how many of the variables followed. -/
def remaining (survey : Survey) (vars : List String) (d : Description) : Nat :=
  survey.unregistered d + vars.countP fun v => !d.followed.contains v

theorem remaining_le (hbuilds : survey.Builds d d') (vars : List String) :
    survey.remaining vars d' ≤ survey.remaining vars d := by
  have hle := unregistered_le hbuilds
  rw [remaining, remaining, hbuilds.followed]
  omega

theorem remaining_lt_of_defines (hbuilds : survey.Builds d d') (vars : List String) {q : String}
    (hq : q ∈ survey.classes.classes.keys) (hfree : d.api.defines (survey.nameOf q) = false)
    (hdefined : d'.api.defines (survey.nameOf q) = true) :
    survey.remaining vars d' < survey.remaining vars d := by
  have hlt := unregistered_lt hbuilds hq hfree hdefined
  rw [remaining, remaining, hbuilds.followed]
  omega

theorem remaining_follow_lt {vars : List String} {name : String} (hname : name ∈ vars)
    (hfresh : name ∉ d.followed) :
    survey.remaining vars (d.withFollowed (name :: d.followed)) < survey.remaining vars d := by
  have hfewer : (vars.countP fun v => !(name :: d.followed).contains v) <
      vars.countP fun v => !d.followed.contains v := by
    refine countP_lt_countP (fun v _ hv => ?_) hname (by simp [hfresh]) (by simp)
    simp only [List.contains_cons, Bool.not_or, Bool.and_eq_true] at hv
    exact hv.2
  simp only [remaining, unregistered, Description.withFollowed]
  omega

/-- The steps are enough to describe the type: for every registration and every variable that is
left there are as many as there are classes, and one more; and the trail of classes written as
values that led here takes its own. -/
structure Room (survey : Survey) (vars : List String) (steps : Nat) (type : JavaType)
    (env : TypeEnvironment) (d : Description) : Prop where
  names : env.names ⊆ vars
  trail : ∃ met, Trail survey.ValueLink id survey.classes.classes.keys met (JavaType.Names env type) ∧
    (survey.classes.size + 1) * survey.remaining vars d + survey.classes.size < steps + met.length

variable {vars : List String} {steps : Nat} {type : JavaType} {env : TypeEnvironment}

theorem not_room_zero : ¬ survey.Room vars 0 type env d := by
  rintro ⟨-, met, htrail, hsteps⟩
  have hlength := htrail.length_le
  rw [length_keys] at hlength
  omega

theorem Room.kept (h : survey.Room vars steps type env d) (hbuilds : survey.Builds d d') :
    survey.Room vars steps type env d' := by
  obtain ⟨hnames, met, htrail, hsteps⟩ := h
  have hle := Nat.mul_le_mul_left (survey.classes.size + 1) (remaining_le hbuilds vars)
  exact ⟨hnames, met, htrail, by omega⟩

theorem Room.part {inner : JavaType} (h : survey.Room vars steps type env d)
    (hpart : type.Part inner) : survey.Room vars steps inner env d := by
  obtain ⟨hnames, met, htrail, hsteps⟩ := h
  exact ⟨hnames, met, htrail.imp fun q hq => .part hpart hq, hsteps⟩

/-- With fewer registrations and variables left, a new trail can begin. -/
theorem Room.fewer (h : survey.Room vars (steps + 1) type env d)
    (hfewer : survey.remaining vars d' < survey.remaining vars d) {env' : TypeEnvironment}
    (hnames' : env'.names ⊆ vars) (type' : JavaType) : survey.Room vars steps type' env' d' := by
  obtain ⟨-, met, htrail, hsteps⟩ := h
  refine ⟨hnames', [], trail_nil _ _ _ _, ?_⟩
  have hlength := htrail.length_le
  rw [length_keys] at hlength
  have hle : (survey.classes.size + 1) * (survey.remaining vars d' + 1) ≤
      (survey.classes.size + 1) * survey.remaining vars d := Nat.mul_le_mul_left _ hfewer
  rw [Nat.mul_succ] at hle
  rw [List.length_nil]
  omega

/-- A class written as a value takes one step, and the trail is one longer. -/
theorem Room.value (h : survey.Room vars (steps + 1) type env d)
    (hend : NoReturn survey.ValueLink id) {q : String} (hq : JavaType.Names env type q)
    {decl : JavaClass} {m : JavaMethod} (hkind : survey.kind q = .value decl m)
    (hvars : survey.declaredVariables ⊆ vars) :
    survey.Room vars steps m.returnType (decl.methodEnvironment m) d := by
  obtain ⟨-, met, htrail, hsteps⟩ := h
  obtain ⟨hclass, hmethod⟩ := class?_of_kind_value hkind
  have hkey := ClassCollection.mem_keys_of_class? hclass
  have hloaded := ClassCollection.loaded_of_class? hclass
  obtain ⟨front, back, hmethods, -⟩ := decl.annotatedMethod?_eq_some_iff.mp hmethod
  have hmem : m ∈ decl.methods := by simp [hmethods]
  have hdeclared : decl.schema.names ++ m.schema.names ⊆ survey.declaredVariables :=
    List.append_subset.mpr ⟨schema_names_subset hloaded, method_names_subset hloaded hmem⟩
  have hnames : (decl.methodEnvironment m).names ⊆ vars :=
    fun _ hname => hvars (hdeclared (decl.names_methodEnvironment_subset m hname))
  have hmore := htrail.push hend hq hkey fun q' hq' => ⟨decl, m, hkind, hq'⟩
  refine ⟨hnames, q :: met, hmore, ?_⟩
  rw [List.length_cons]
  omega

/-- The bound on the depth leaves room for every type. -/
theorem room_of_nestingBound_le (survey : Survey) (type : JavaType) (env : TypeEnvironment)
    (d : Description) {depth : Nat} (hdepth : survey.nestingBound env ≤ depth) :
    survey.Room (env.names ++ survey.declaredVariables) depth type env d := by
  refine ⟨List.subset_append_left _ _, [], trail_nil _ _ _ _, ?_⟩
  have hclasses := survey.unregistered_le_size d
  have hvars : ((env.names ++ survey.declaredVariables).countP fun v => !d.followed.contains v) ≤
      env.size + survey.variableCount := by
    have hlength : (env.names ++ survey.declaredVariables).length =
        env.size + survey.variableCount := by
      rw [List.length_append, length_declaredVariables, TypeEnvironment.names, List.length_map]
      rfl
    rw [← hlength]
    exact List.countP_le_length
  have hremaining : survey.remaining (env.names ++ survey.declaredVariables) d ≤
      survey.classes.size + survey.variableCount + env.size := by
    rw [remaining]
    omega
  have hle := Nat.mul_le_mul_left (survey.classes.size + 1) hremaining
  rw [nestingBound, Nat.mul_succ] at hdepth
  rw [List.length_nil]
  omega

/-! ## The end of descriptions -/

/-- Every halt but that of an endless chain. -/
def Ends (h : Halt) : Prop := h ≠ .endless

theorem tolerates_ends (hsuperclasses : NoReturn survey.classes.SuperclassLink id)
    (hunwrapped : NoReturn survey.classes.UnwrapLink BoundClass.decl) :
    survey.Tolerates Ends where
  external e _ := by rintro ⟨⟩
  ending := by
    refine .inr ⟨fun b hb => ClassCollection.hierarchy_ne_endless hsuperclasses hb.loaded,
      fun decl hdecl => ?_⟩
    refine ClassCollection.unwrapsWithin_of_noReturn hunwrapped _ (trail_nil _ _ _ _) (.raw hdecl) ?_
    have hlt := survey.size_lt_unwrapBound
    rw [List.length_nil]
    omega

/-- Where there is room for one more step, there is room for all that lies within. -/
def roomBudget (survey : Survey) (hend : NoReturn survey.ValueLink id) (vars : List String)
    (hvars : survey.declaredVariables ⊆ vars) (steps : Nat) : survey.Budget Ends where
  Within := survey.Room vars (steps + 1)
  Inner := survey.Room vars steps
  kept hbuilds h := h.kept hbuilds
  part hpart h := h.part hpart
  self _ _ := by rintro ⟨⟩
  binding h hlookup hfresh :=
    h.fewer (remaining_follow_lt (h.names (TypeEnvironment.mem_names_of_lookup hlookup)) hfresh)
      h.names _
  value h hkind := h.value hend (.basic _) hkind hvars
  member h hkind hfree hbuilds hdefined hb := by
    have hkey := ClassCollection.mem_keys_of_class? (class?_of_kind_defined hkind)
    exact h.fewer (remaining_lt_of_defines hbuilds vars hkey hfree hdefined)
      (fun _ hname => hvars (schema_names_subset hb.loaded (hb.names hname))) _

theorem heeds_describeTo_of_room (hsuperclasses : NoReturn survey.classes.SuperclassLink id)
    (hunwrapped : NoReturn survey.classes.UnwrapLink BoundClass.decl)
    (hvalues : NoReturn survey.ValueLink id) (hvars : survey.declaredVariables ⊆ vars)
    (hroom : survey.Room vars steps type env d) :
    survey.Heeds Ends d (survey.describeTo steps type env) := by
  induction steps generalizing type env d with
  | zero => exact absurd hroom not_room_zero
  | succ steps ih =>
    have hinner : ∀ type env d, survey.Room vars steps type env d →
        survey.Heeds Ends d (survey.describeTo steps type env) := fun _ _ _ => ih
    exact heeds_describeWithin (tolerates_ends hsuperclasses hunwrapped)
      (roomBudget survey hvalues vars hvars steps) (Law.describes_describeTo steps) hinner hroom

section

variable (hsuperclasses : NoReturn survey.classes.SuperclassLink id)
  (hunwrapped : NoReturn survey.classes.UnwrapLink BoundClass.decl)
  (hvalues : NoReturn survey.ValueLink id)

include hsuperclasses hunwrapped hvalues

theorem heeds_describeTo_of_le (type : JavaType) (env : TypeEnvironment) (d : Description)
    {depth : Nat} (hdepth : survey.nestingBound env ≤ depth) :
    survey.Heeds Ends d (survey.describeTo depth type env) :=
  heeds_describeTo_of_room hsuperclasses hunwrapped hvalues (List.subset_append_right _ _)
    (room_of_nestingBound_le survey type env d hdepth)

/-- Then the whole API comes to an end, too. -/
theorem api_ne_endless : survey.api.1 ≠ .error .endless := by
  intro hendless
  have htolerates := tolerates_ends hsuperclasses hunwrapped
  have hdescribe : ∀ type (env : TypeEnvironment) d, env.Proper →
      survey.Heeds Ends d (survey.describe type env) :=
    fun type env d _ => heeds_describeTo_of_le hsuperclasses hunwrapped hvalues type env d
      (Nat.le_add_right _ _)
  have hheeds := heeds_describeApi (d := .empty) htolerates hdescribe fun _ => by rintro ⟨⟩
  exact (hheeds .empty (.nothing .empty)).2 .endless hendless rfl

end

/-- Where the superclasses, the unwrapped members and the classes written as values do not go round
in a cycle, every type is described within the bound on nesting: there is a type of the API, or a
failure that tells what is wrong, and every greater depth gives the same. The walk through
interfaces ends in any case, within as many steps as there are classes. -/
theorem describe_ends (survey : Survey)
    (hsuperclasses : NoReturn survey.classes.SuperclassLink id)
    (hunwrapped : NoReturn survey.classes.UnwrapLink BoundClass.decl)
    (hvalues : NoReturn survey.ValueLink id) :
    (∀ type env d,
      ((∃ t, (run (survey.describe type env) d).1 = .ok t) ∨
        ∃ e, (run (survey.describe type env) d).1 = .error (.failed e)) ∧
      ∀ depth, survey.nestingBound env ≤ depth →
        run (survey.describeTo depth type env) d = run (survey.describe type env) d) ∧
    ∀ (bound : BoundClass) (levels : List BoundClass) steps, bound.Fits survey.classes →
      (∀ l ∈ levels, BoundClass.Fits survey.classes l) → survey.classes.size < steps →
      survey.classes.addInterfaces steps levels bound =
        survey.classes.addInterfaces (survey.classes.size + 1) levels bound := by
  refine ⟨fun type env d => ?_, fun bound levels steps hbound hlevels hsteps => ?_⟩
  · have hends : ∀ depth, survey.nestingBound env ≤ depth →
        (run (survey.describeTo depth type env) d).1 ≠ .error .endless :=
      fun depth hdepth hendless =>
        (heeds_describeTo_of_le hsuperclasses hunwrapped hvalues type env d hdepth d
          (.nothing d)).2 .endless hendless rfl
    have hleast := hends _ (Nat.le_refl _)
    have hle : survey.nestingBound env ≤ survey.depthBound env := Nat.le_add_right _ _
    refine ⟨?_, fun depth hdepth => ?_⟩
    · cases hresult : (run (survey.describe type env) d).1 with
      | ok t => exact .inl ⟨t, rfl⟩
      | error h =>
        cases h with
        | failed e => exact .inr ⟨e, rfl⟩
        | endless => exact absurd hresult (hends _ hle)
    · exact (run_describeTo_of_le hdepth type env d hleast).trans
        (run_describeTo_of_le hle type env d hleast).symm
  · have henough := ClassCollection.addInterfaces_eq_of_le hbound hlevels (Nat.le_of_lt hsteps)
    exact henough.trans (ClassCollection.addInterfaces_eq_of_le hbound hlevels (Nat.le_succ _)).symm

/-- A method whose result a class is written as. -/
def valueMethod (returnType : JavaType) : JavaMethod :=
  ⟨"value", "", returnType, [], ⟨1⟩, .empty, [.mk valueType []]⟩

/-- An order may be part of another one, and extends a class that it is an argument of. Its address
is unwrapped, its total is written as a value of a value, and its interfaces extend each other. -/
def orders : Survey :=
  let listing (name other : String) : JavaClass :=
    { JavaClass.ofFields name .empty .object [] with interfaces := [.basic other] }
  let value (name : String) (returnType : JavaType) : JavaClass :=
    { JavaClass.ofFields name .empty .object [] with methods := [valueMethod returnType] }
  let order := JavaClass.ofFields "Order" .empty (.parameterized (.basic "Entry") [.basic "Order"])
    [("whole", .basic "Order"), ("total", .basic "Money")]
  let address : JavaField := ⟨"address", .basic "Address", ⟨1⟩, [.mk unwrappedType []], false, false⟩
  ⟨.ofClasses [.ofFields "Entry" ⟨[("T", [])]⟩ .object [("next", .var "T")],
    { order with interfaces := [.basic "Listed"], fields := order.fields ++ [address] },
    .ofFields "Address" .empty .object [("street", .basic "java.lang.String")],
    value "Money" (.basic "Amount"), value "Amount" (.array (.basic "java.lang.String")),
    listing "Listed" "Shown", listing "Shown" "Listed"], .empty⟩

/-- Superclasses, unwrapped members and values of orders lead down in rank. -/
def orderRank (name : String) : Nat :=
  if name = "Money" then 2 else if name = "Order" ∨ name = "Amount" then 1 else 0

theorem noReturn_superclasses_orders : NoReturn orders.classes.SuperclassLink id := by
  have hcheck : ∀ c ∈ orders.classes.classes.values,
      ∀ above ∈ c.superclass.bind orders.classes.classOf?,
        orderRank above.name < orderRank c.name := by decide +kernel
  refine noReturn_of_rank (fun c => orderRank c.name) ?_
  rintro c above ⟨hloaded, habove⟩
  exact hcheck c hloaded above habove

theorem noReturn_unwrapped_orders : NoReturn orders.classes.UnwrapLink BoundClass.decl :=
  ClassCollection.noReturn_unwrapped_of_rank (fun c => orderRank c.name) (by decide +kernel)

theorem noReturn_values_orders : NoReturn orders.ValueLink id := by
  have hcheck : ∀ q ∈ orders.classes.classes.keys,
      ∀ m ∈ (orders.classes.class? q).bind (·.annotatedMethod? valueType),
        q = "Money" ∧ m.returnType = .basic "Amount" ∨
          q = "Amount" ∧ m.returnType = .array (.basic "java.lang.String") := by decide +kernel
  refine noReturn_of_rank orderRank ?_
  rintro q q' ⟨decl, m, hkind, hnames⟩
  obtain ⟨hclass, hmethod⟩ := class?_of_kind_value hkind
  have hm : (orders.classes.class? q).bind (·.annotatedMethod? valueType) = some m := by
    rw [hclass]
    exact hmethod
  rcases hcheck q (ClassCollection.mem_keys_of_class? hclass) m hm with ⟨rfl, htype⟩ | ⟨rfl, htype⟩
  · rw [htype, JavaType.names_basic_iff] at hnames
    subst hnames
    decide
  · rw [htype, JavaType.names_array_iff, JavaType.names_basic_iff] at hnames
    subst hnames
    decide

/-- No links of orders lead back, and an order is described beside a variable whose binding leads
back to it. -/
theorem describe_ends_orders :
    let map : JavaType := .parameterized (.basic "java.util.Map") [.var "T", .basic "Order"]
    let env : TypeEnvironment := ⟨[("T", .array (.var "U")), ("U", .var "T")]⟩
    NoReturn orders.classes.SuperclassLink id ∧
      NoReturn orders.classes.UnwrapLink BoundClass.decl ∧ NoReturn orders.ValueLink id ∧
      ((∃ t, (run (orders.describe map env) .empty).1 = .ok t) ∨
        ∃ e, (run (orders.describe map env) .empty).1 = .error (.failed e)) := by
  intro map env
  have hends := describe_ends orders noReturn_superclasses_orders noReturn_unwrapped_orders
    noReturn_values_orders
  exact ⟨noReturn_superclasses_orders, noReturn_unwrapped_orders, noReturn_values_orders,
    (hends.1 map env .empty).1⟩

end Survey

end ApiSurface
