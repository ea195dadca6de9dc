import ApiSurface.Proofs.Levels

/-!
# Substitutions compose

Resolving a type puts a type in for every variable at once. Two environments, one after the other,
come to one: that of the first with its types resolved in the second, and the second behind it.
-/

namespace ApiSurface

namespace JavaType

mutual
/-- Puts in a type for every variable. -/
def substitute (σ : String → JavaType) : JavaType → JavaType
  | .basic name => .basic name
  | .array element => .array (substitute σ element)
  | .parameterized base arguments => .parameterized (substitute σ base) (substituteAll σ arguments)
  | .var name => σ name
  | .wildcard upper lower => .wildcard (substituteBound σ upper) (substituteBound σ lower)
  | .inner outer name => .inner (substitute σ outer) name

def substituteAll (σ : String → JavaType) : List JavaType → List JavaType
  | [] => []
  | a :: as => substitute σ a :: substituteAll σ as

def substituteBound (σ : String → JavaType) : Option JavaType → Option JavaType
  | none => none
  | some bound => some (substitute σ bound)
end

variable {σ τ : String → JavaType}

@[simp] theorem substituteAll_eq_map (as : List JavaType) :
    substituteAll σ as = as.map (substitute σ) := by
  induction as with
  | nil => rfl
  | cons a as ih => simp [substituteAll, ih]

@[simp] theorem substituteBound_eq_map (bound : Option JavaType) :
    substituteBound σ bound = bound.map (substitute σ) := by
  cases bound <;> rfl

@[simp] theorem mem_variableNamesAll {types : List JavaType} {v : String} :
    v ∈ variableNamesAll types ↔ ∃ t ∈ types, v ∈ t.variableNames := by
  induction types with
  | nil => simp [variableNamesAll]
  | cons t types ih => simp [variableNamesAll, ih]

theorem substitute_var (t : JavaType) : t.substitute .var = t := by
  induction t using induct with
  | basic name => rfl
  | array element ih => simp [substitute, ih]
  | parameterized base arguments ih ihs =>
    have hsame : arguments.map (substitute .var) = arguments :=
      (List.map_congr_left ihs).trans (List.map_id' arguments)
    simp [substitute, ih, hsame]
  | var name => rfl
  | wildcard upper lower ihu ihl =>
    cases upper <;> cases lower <;> simp_all [substitute]
  | inner outer name ih => simp [substitute, ih]

/-- Two substitutions come to one: what the first puts in, with the second put into it. -/
theorem substitute_substitute (t : JavaType) :
    (t.substitute σ).substitute τ = t.substitute fun v => (σ v).substitute τ := by
  induction t using induct with
  | basic name => rfl
  | array element ih => simp [substitute, ih]
  | parameterized base arguments ih ihs => simpa [substitute, ih] using ihs
  | var name => rfl
  | wildcard upper lower ihu ihl =>
    cases upper <;> cases lower <;> simp_all [substitute]
  | inner outer name ih => simp [substitute, ih]

/-- The outcome tells what was put in for the variables of the type, and nothing else does. -/
theorem substitute_eq_iff (t : JavaType) :
    t.substitute σ = t.substitute τ ↔ ∀ v ∈ t.variableNames, σ v = τ v := by
  induction t using induct with
  | basic name => simp [substitute, variableNames]
  | array element ih => simp [substitute, variableNames, ih]
  | parameterized base arguments ih ihs =>
    have hall : (∀ a ∈ arguments, a.substitute σ = a.substitute τ) ↔
        ∀ v, (∃ a ∈ arguments, v ∈ a.variableNames) → σ v = τ v := by
      rw [forall₂_congr ihs]
      exact ⟨fun h v ⟨a, ha, hv⟩ => h a ha v hv, fun h a ha v hv => h v ⟨a, ha, hv⟩⟩
    simp [substitute, variableNames, ih, hall, or_imp, forall_and]
  | var name => simp [substitute, variableNames]
  | wildcard upper lower ihu ihl =>
    cases upper <;> cases lower <;>
      simp_all [substitute, variableNames, variableNamesBound, or_imp, forall_and]
  | inner outer name ih => simp [substitute, variableNames, ih]

end JavaType

namespace TypeEnvironment

/-- What a variable stands for: the type of its first binding, or else itself. -/
def assigned (env : TypeEnvironment) (v : String) : JavaType := (env.lookup v).getD (.var v)

/-- The bindings, their types resolved in another environment. -/
def resolved (env other : TypeEnvironment) : TypeEnvironment :=
  ⟨env.bindings.map fun b => (b.1, b.2.resolve other)⟩

/-- No type that is bound mentions a variable that is bound. -/
def Settled (env : TypeEnvironment) : Prop :=
  ∀ b ∈ env.bindings, ∀ v ∈ b.2.variableNames, v ∉ env.names

variable {env other : TypeEnvironment} {name : String} {bound : JavaType}

theorem lookup_eq_none_iff : env.lookup name = none ↔ name ∉ env.names := by
  simp only [lookup, names, List.lookup_eq_none_iff, List.mem_map, not_exists, not_and]
  exact forall₂_congr fun b _ => by rw [bne_iff_ne, ne_comm]

theorem mem_bindings_of_lookup (h : env.lookup name = some bound) :
    (name, bound) ∈ env.bindings := by
  obtain ⟨front, behind, hsplit, -⟩ := List.lookup_eq_some_iff.mp h
  simp [hsplit]

theorem lookup_resolved :
    (env.resolved other).lookup name = (env.lookup name).map (JavaType.resolve other) := by
  simp only [lookup, resolved]
  induction env.bindings with
  | nil => rfl
  | cons b rest ih =>
    rw [List.map_cons, List.lookup_cons, List.lookup_cons, ih]
    cases name == b.1 <;> rfl

/-- A binding behind that of a variable is not looked at. -/
theorem lookup_bind_of_isSome (h : (env.lookup name).isSome = true) (v : String) :
    (env.bind name bound).lookup v = env.lookup v := by
  rw [show env.bind name bound = env.merge ⟨[(name, bound)]⟩ from rfl, lookup_merge]
  by_cases hv : v = name
  · obtain ⟨first, hfirst⟩ := Option.isSome_iff_exists.mp h
    rw [hv, hfirst]
    rfl
  · have hother : lookup ⟨[(name, bound)]⟩ v = none := by simp [lookup, hv]
    rw [hother]
    cases env.lookup v <;> rfl

theorem assigned_empty : empty.assigned = .var := rfl

theorem assigned_merge_resolved (v : String) :
    ((env.resolved other).merge other).assigned v = (env.assigned v).resolve other := by
  rw [assigned, lookup_merge, lookup_resolved, assigned]
  cases env.lookup v <;> rfl

/-- What a variable stands for means itself where bound types mention no bound variables. -/
theorem Settled.assigned_eq_var (h : env.Settled) {v w : String}
    (hw : w ∈ (env.assigned v).variableNames) : env.assigned w = .var w := by
  have hfree : env.lookup w = none := by
    cases hlookup : env.lookup v with
    | none =>
      obtain rfl : w = v := by simpa [assigned, hlookup, JavaType.variableNames] using hw
      exact hlookup
    | some type =>
      rw [assigned, hlookup] at hw
      have hunbound := h (v, type) (mem_bindings_of_lookup hlookup) w hw
      exact lookup_eq_none_iff.mpr hunbound
  rw [assigned, hfree]
  rfl

end TypeEnvironment

namespace JavaType

variable {env env' : TypeEnvironment}

theorem resolve_eq_substitute (t : JavaType) : t.resolve env = t.substitute env.assigned := by
  induction t using induct with
  | basic name => rfl
  | array element ih => simp [resolve, substitute, ih]
  | parameterized base arguments ih ihs => simpa [resolve, substitute, ih] using ihs
  | var name => rfl
  | wildcard upper lower ihu ihl =>
    cases upper <;> cases lower <;> simp_all [resolve, substitute]
  | inner outer name ih => simp [resolve, substitute, ih]

theorem resolve_eq_iff (t : JavaType) :
    t.resolve env = t.resolve env' ↔ ∀ v ∈ t.variableNames, env.assigned v = env'.assigned v := by
  rw [resolve_eq_substitute, resolve_eq_substitute, substitute_eq_iff]

/-- Only what stands for the variables of a type matters to it. -/
theorem resolve_eq_self_iff (t : JavaType) :
    t.resolve env = t ↔ ∀ v ∈ t.variableNames, env.assigned v = .var v := by
  conv_lhs => rhs; rw [← t.substitute_var]
  rw [resolve_eq_substitute, substitute_eq_iff]

theorem resolve_resolve (t : JavaType) (other : TypeEnvironment) :
    (t.resolve env).resolve other = t.resolve ((env.resolved other).merge other) := by
  have hassigned : ((env.resolved other).merge other).assigned =
      fun v => (env.assigned v).substitute other.assigned :=
    funext fun v => TypeEnvironment.assigned_merge_resolved v |>.trans (resolve_eq_substitute _)
  simp only [resolve_eq_substitute, substitute_substitute, hassigned]

theorem resolve_empty (t : JavaType) : t.resolve .empty = t := by
  rw [resolve_eq_substitute, TypeEnvironment.assigned_empty, substitute_var]

theorem resolve_resolve_of_settled (h : env.Settled) (t : JavaType) :
    (t.resolve env).resolve env = t.resolve env := by
  rw [resolve_eq_substitute t, resolve_eq_substitute, substitute_substitute, substitute_eq_iff]
  intro v _
  rw [← resolve_eq_substitute, resolve_eq_self_iff]
  exact fun w hw => h.assigned_eq_var hw

/-- Resolving in one environment and then in another is resolving once, in the first with its types
resolved in the second and the second behind it. Where bound types mention no bound variables, a
second time changes nothing; without bindings nothing changes; and the outcome is the same exactly
where the variables of the type stand for the same, so that bindings behind a first one of their
variable are without effect. -/
theorem resolve_compose (t : JavaType) :
    (∀ env other : TypeEnvironment,
      (t.resolve env).resolve other = t.resolve ((env.resolved other).merge other)) ∧
    (∀ env : TypeEnvironment, env.Settled → (t.resolve env).resolve env = t.resolve env) ∧
    t.resolve .empty = t ∧
    (∀ env env' : TypeEnvironment, t.resolve env = t.resolve env' ↔
      ∀ v ∈ t.variableNames, (env.lookup v).getD (.var v) = (env'.lookup v).getD (.var v)) ∧
    ∀ (env : TypeEnvironment) (name : String) (bound : JavaType),
      (env.lookup name).isSome = true → t.resolve (env.bind name bound) = t.resolve env := by
  refine ⟨fun env other => resolve_resolve t other, fun env h => resolve_resolve_of_settled h t,
    resolve_empty t, fun env env' => resolve_eq_iff t, fun env name bound h => ?_⟩
  refine (resolve_eq_iff t).mpr fun v _ => ?_
  rw [TypeEnvironment.assigned, TypeEnvironment.lookup_bind_of_isSome h, TypeEnvironment.assigned]

/-- The first environment binds one variable to a type of another, that one to itself, and the
first one again. -/
theorem resolve_compose_map :
    let t : JavaType := .parameterized (.basic "Map") [.var "T", .wildcard (some (.var "U")) none]
    let env := ((TypeEnvironment.empty.bind "T" (.array (.var "U"))).bind "U" (.var "U")).bind "T"
      (.basic "Left")
    let other := (TypeEnvironment.empty.bind "U" (.basic "Right")).bind "T" (.basic "Left")
    (t.resolve env).resolve other = t.resolve ((env.resolved other).merge other) ∧
      t.resolve ((env.resolved other).merge other) = .parameterized (.basic "Map")
        [.array (.basic "Right"), .wildcard (some (.basic "Right")) none] ∧
      other.Settled ∧ (t.resolve other).resolve other = t.resolve other ∧
      (env.lookup "U").isSome = true ∧
      t.resolve (env.bind "U" (.basic "Left")) = t.resolve env := by
  intro t env other
  have hsettled : other.Settled := by
    unfold TypeEnvironment.Settled
    decide +kernel
  have hbound : (env.lookup "U").isSome = true := by decide +kernel
  have hcompose := resolve_compose t
  exact ⟨hcompose.1 env other, by decide +kernel, hsettled, hcompose.2.1 other hsettled, hbound,
    hcompose.2.2.2.2 env "U" (.basic "Left") hbound⟩

end JavaType

end ApiSurface
