import ApiSurface.Controllers
import ApiSurface.Proofs.Termination

/-!
# Patience

How long members and bindings are followed into one another is a setting, and no part of what is
described: a description that is not given up is the same with more patience. So there is at most
one API of the classes under the other settings, and enough patience finds it if there is one.
Patience is for unwrapped members whose class is an argument. Each use of a class can put one more
class around its argument, so chains of them are not bounded by the number of classes.
-/

namespace ApiSurface

namespace Describing

variable {α : Type} {excused : Halt → Prop} {followed : List String}

theorem alike_forM {f f' : α → Describing Unit} {l : List α}
    (hstep : ∀ a, Alike excused followed (f a) (f' a)) :
    Alike excused followed (l.forM f) (l.forM f') := by
  induction l with
  | nil => exact alike_pure ()
  | cons a l ih => exact alike_bind (hstep a) fun _ => ih

theorem alike_modify {change : Description → Description}
    (hkept : ∀ d, (change d).followed = d.followed) :
    Alike excused followed (modify change) (modify change) :=
  fun d hd => ⟨(hkept d).trans hd, fun _ => rfl⟩

theorem alike_api : Alike excused followed api api := fun _ hd => ⟨hd, fun _ => rfl⟩

end Describing

namespace Survey

open Describing

variable {survey : Survey} {followed : List String} {patience : Nat}

/-! ## Types -/

section

variable (hle : survey.settings.patience ≤ patience)

include hle

/-- More patience gives more depth, too. -/
theorem alike_describe (type : JavaType) (env : TypeEnvironment) :
    Alike (· = .endless) followed (survey.describe type env)
      ((survey.withPatience patience).describe type env) :=
  have hlonger := outlasts_of_le hle
  alike_describeTo hlonger (hlonger.add_left (survey.nestingBound env)) followed type env

/-! ## Endpoints -/

theorem alike_describeElement (annotations : List AnnotationUse) (type : JavaType)
    (env : TypeEnvironment) :
    Alike (· = .endless) followed (survey.describe.element annotations type env)
      ((survey.withPatience patience).describe.element annotations type env) :=
  alike_element (alike_describe hle) annotations type env

theorem alike_describeParameter (controller : JavaClass) (method : JavaMethod)
    (env : TypeEnvironment) (index : Nat) (parameter : JavaParameter) :
    Alike (· = .endless) followed (survey.describeParameter controller method env index parameter)
      ((survey.withPatience patience).describeParameter controller method env index parameter) := by
  have hbinding : (survey.withPatience patience).parameterBinding? parameter =
      survey.parameterBinding? parameter := rfl
  simp only [describeParameter, hbinding]
  cases survey.parameterBinding? parameter with
  | none => exact alike_pure _
  | some binding =>
    exact alike_bind (alike_lift _) fun _ =>
      alike_bind (alike_describeElement hle _ _ env) fun _ => alike_pure _

theorem alike_describeParameters (controller : JavaClass) (method : JavaMethod)
    (env : TypeEnvironment) (index : Nat) (parameters : List JavaParameter) :
    Alike (· = .endless) followed
      (survey.describeParameters controller method env index parameters)
      ((survey.withPatience patience).describeParameters controller method env index
        parameters) := by
  induction parameters generalizing index with
  | nil => exact alike_pure _
  | cons parameter parameters ih =>
    exact alike_bind (alike_describeParameter hle controller method env index parameter) fun _ =>
      alike_bind (ih (index + 1)) fun _ => alike_pure _

theorem alike_describeBody (method : JavaMethod) (env : TypeEnvironment) :
    Alike (· = .endless) followed (survey.describeBody method env)
      ((survey.withPatience patience).describeBody method env) :=
  alike_ite Iff.rfl (alike_pure _)
    (alike_bind (alike_describeElement hle _ _ env) fun _ => alike_pure _)

omit hle in
theorem alike_requestMethod? (annotations : List AnnotationUse) :
    Alike (· = .endless) followed (survey.requestMethod? annotations)
      ((survey.withPatience patience).requestMethod? annotations) := by
  simp only [requestMethod?, classes_withPatience]
  cases survey.classes.mappedMethod? annotations with
  | none => exact alike_pure _
  | some name =>
    simp only
    cases HttpMethod.ofName? name with
    | some method => exact alike_pure _
    | none => exact alike_bind (alike_report _) fun _ => alike_pure _

omit hle in
theorem alike_requestMethod (method : JavaMethod) (owner : JavaClass) :
    Alike (· = .endless) followed (survey.requestMethod method owner)
      ((survey.withPatience patience).requestMethod method owner) := by
  refine alike_bind (alike_requestMethod? _) fun found => ?_
  cases found with
  | some m => exact alike_pure m
  | none => exact alike_bind (alike_requestMethod? _) fun _ => alike_pure _

theorem alike_describeEndpoint (controller : JavaClass) (level : BoundClass)
    (method : JavaMethod) :
    Alike (· = .endless) followed (survey.describeEndpoint controller level method)
      ((survey.withPatience patience).describeEndpoint controller level method) :=
  alike_bind (alike_describeBody hle method _) fun _ =>
    alike_bind (alike_describeParameters hle controller method _ 0 method.parameters) fun _ =>
      alike_bind (alike_lift _) fun _ =>
        alike_bind (alike_requestMethod method level.decl) fun _ => alike_pure _

/-! ## The API -/

theorem alike_describeController (controller : JavaClass) :
    Alike (· = .endless) followed (survey.describeController controller)
      ((survey.withPatience patience).describeController controller) := by
  have hgroup : Alike (· = .endless) followed (survey.describeGroup controller)
      ((survey.withPatience patience).describeGroup controller) :=
    alike_bind (alike_liftHalt _) fun _ => alike_foldlM fun group (level, method) =>
      alike_bind (alike_describeEndpoint hle controller level method) fun _ => alike_pure _
  refine alike_bind hgroup fun group => ?_
  split_ifs
  · exact alike_bind (alike_report _) fun _ => alike_extend _
  · exact alike_extend _

theorem alike_describeRoot (root : String) :
    Alike (· = .endless) followed (survey.describeRoot root)
      ((survey.withPatience patience).describeRoot root) := by
  refine alike_bind (alike_describe hle _ _) fun t => ?_
  cases t with
  | reference name =>
    refine alike_bind alike_api fun api => ?_
    split_ifs
    · exact alike_pure ()
    · exact alike_report _
  | _ => exact alike_pure ()

omit hle in
theorem alike_describeImport (module : String) (types : List String) :
    Alike (· = .endless) followed (describeImport module types) (describeImport module types) :=
  alike_bind alike_api fun _ => alike_bind (alike_modify fun _ => rfl) fun _ => alike_lift _

theorem alike_describeApi :
    Alike (· = .endless) followed survey.describeApi
      (survey.withPatience patience).describeApi :=
  alike_bind (alike_forM (alike_describeController hle)) fun _ =>
    alike_bind (alike_forM (alike_describeRoot hle)) fun _ =>
      alike_bind (alike_forM fun (module, types) => alike_describeImport module types) fun _ =>
        alike_bind alike_api fun _ =>
          alike_bind (alike_forM alike_report) fun _ => alike_pure _

/-- A type that is not given up is described the same way with more patience. -/
theorem describe_withPatience (type : JavaType) (env : TypeEnvironment) (d : Description)
    (hne : (run (survey.describe type env) d).1 ≠ .error .endless) :
    run ((survey.withPatience patience).describe type env) d =
      run (survey.describe type env) d :=
  (alike_describe hle type env d rfl).2 fun _ hendless => hendless ▸ hne

/-- An API that is not given up is the same with more patience, and so is all that there is to
tell of it. -/
theorem api_withPatience (hne : survey.api.1 ≠ .error .endless) :
    (survey.withPatience patience).api = survey.api := by
  have hrun : run (survey.withPatience patience).describeApi .empty =
      run survey.describeApi .empty :=
    (alike_describeApi hle .empty rfl).2 fun _ hendless => hendless ▸ hne
  exact congrArg (fun r => (r.1, r.2.events)) hrun

end

/-- Either the description goes on beyond all patience, or from some patience on there is one
outcome, which is that of every patience that does not give up. -/
theorem api_settles (survey : Survey) :
    (∀ patience, (survey.withPatience patience).api.1 = .error .endless) ∨
      ∃ enough outcome, outcome.1 ≠ .error .endless ∧
        (∀ patience, enough ≤ patience → (survey.withPatience patience).api = outcome) ∧
        ∀ patience, (survey.withPatience patience).api.1 ≠ .error .endless →
          (survey.withPatience patience).api = outcome := by
  by_cases hendless : ∀ patience, (survey.withPatience patience).api.1 = .error .endless
  · exact .inl hendless
  rw [not_forall] at hendless
  obtain ⟨enough, hne⟩ := hendless
  have hmore : ∀ less more, less ≤ more → (survey.withPatience less).api.1 ≠ .error .endless →
      (survey.withPatience more).api = (survey.withPatience less).api :=
    fun less more hle => @api_withPatience (survey.withPatience less) more hle
  refine .inr ⟨enough, _, hne, fun patience hle => hmore enough patience hle hne,
    fun patience hne' => ?_⟩
  obtain hle | hle := Nat.le_total enough patience
  · exact hmore enough patience hle hne
  · exact (hmore patience enough hle hne').symm

/-- Where the superclasses, the unwrapped members and the classes written as values do not go round
in a cycle, nothing is given up, and patience does not matter at all. -/
theorem api_withPatience_of_noReturn (hsuperclasses : NoReturn survey.classes.SuperclassLink id)
    (hunwrapped : NoReturn survey.classes.UnwrapLink BoundClass.decl)
    (hvalues : NoReturn survey.ValueLink id) (patience : Nat) :
    (survey.withPatience patience).api = survey.api := by
  obtain hle | hle := Nat.le_total survey.settings.patience patience
  · exact api_withPatience hle (api_ne_endless hsuperclasses hunwrapped hvalues)
  · have hne : (survey.withPatience patience).api.1 ≠ .error .endless :=
      @api_ne_endless (survey.withPatience patience) hsuperclasses hunwrapped hvalues
    exact (@api_withPatience (survey.withPatience patience) _ hle hne).symm

/-- A parcel stands for what is in it. -/
def parcels : Survey :=
  let unwrapped (name : String) (type : JavaType) : JavaField :=
    ⟨name, type, ⟨1⟩, [.mk unwrappedType []], false, false⟩
  let parcel (content : JavaType) : JavaType := .parameterized (.basic "Parcel") [content]
  let order := JavaClass.ofFields "Order" .empty .object []
  let plain := JavaClass.ofFields "Parcel" ⟨[("T", [])]⟩ .object []
  ⟨.ofClasses [.ofFields "Item" .empty .object [("count", .basic "int")],
    { plain with fields := [unwrapped "content" (.var "T")] },
    { order with fields := [unwrapped "shipment" (parcel (parcel (parcel (.basic "Item"))))] }],
    { Settings.empty with roots := ["Order"] }⟩

/-- A shipment has more levels than there are classes, and is described with some patience. -/
example :
    (parcels.withPatience 0).api.1 = .error .endless ∧
      (parcels.withPatience 1).api.1.map (fun api =>
        (api.classes.get? "Order").map (·.properties.get? "count")) =
          .ok (some (some .integer)) := by
  decide +kernel

end Survey

end ApiSurface
