import ApiSurface.Proofs.NameMeaning
import ApiSurface.Proofs.PairedRuns

/-!
# Followed variables

The variables whose bindings are being followed make up a stack that all nested descriptions share.
Every description leaves it as it finds it, also where it fails, and so does all that is done for a
class. Meanwhile no variable stands on it twice: a description that checks this before each nested
one never finds anything else.
-/

namespace ApiSurface

namespace Describing

variable {α : Type}

/-- The action leaves the variables that are followed as it finds them, with success or not. -/
def Balanced (act : Describing α) : Prop := ∀ d, (run act d).2.followed = d.followed

/-- Runs an action where the variables that are followed pass a check, else another one. -/
def guarded (check : List String → Bool) (act instead : Describing α) : Describing α :=
  fun d => if check d.followed then act d else instead d

theorem run_guarded_of_check {check : List String → Bool} {act : Describing α}
    (instead : Describing α) {d : Description} (h : check d.followed = true) :
    run (guarded check act instead) d = run act d :=
  if_pos h

theorem balanced_of_alike {act : Describing α}
    (h : ∀ followed, Alike (fun _ => False) followed act act) : Balanced act :=
  fun d => (h d.followed d rfl).1

end Describing

namespace Survey

open Describing

variable {survey : Survey}

/-- The variables are those of the start with others before them, and all are different. -/
def isStacked (start followed : List String) : Bool :=
  decide (start <:+ followed ∧ followed.Nodup)

/-- Describes types as `describeTo` does, but checks the variables that are followed before every
description within, and goes on in another way where the check fails. -/
def describeWatched (survey : Survey) (check : List String → Bool) (instead : TypeDescriber) :
    Nat → TypeDescriber
  | 0 => fun _ _ => Describing.endless
  | depth + 1 => fun type env =>
    guarded check (survey.describeWithin (describeWatched survey check instead depth) type env)
      (instead type env)

/-- A check that holds of the variables that are followed, and goes on to hold when another variable
is pushed that is not among them, changes nothing. -/
theorem alike_describeWatched {check : List String → Bool}
    (hpush : ∀ followed name, check followed = true → name ∉ followed →
      check (name :: followed) = true)
    (instead : TypeDescriber) (depth : Nat) {followed : List String}
    (hcheck : check followed = true) (type : JavaType) (env : TypeEnvironment) :
    Alike (fun _ => False) followed (survey.describeTo depth type env)
      (survey.describeWatched check instead depth type env) := by
  induction depth generalizing followed type env with
  | zero => exact alike_throw _
  | succ depth ih =>
    intro d hd
    have hwithin : Alike (fun _ => False) followed
        (survey.describeWithin (survey.describeTo depth) type env)
        (survey.describeWithin (survey.describeWatched check instead depth) type env) :=
      alike_describeWithin (outlasts_refl _ _) (ih hcheck)
        (fun name hname => ih (hpush followed name hcheck hname)) type env
    have hpassed : check d.followed = true := by rwa [hd]
    rw [describeWatched, run_guarded_of_check _ hpassed]
    exact hwithin d hd

theorem isStacked_cons {start followed : List String} {name : String}
    (h : isStacked start followed = true) (hname : name ∉ followed) :
    isStacked start (name :: followed) = true := by
  simp only [isStacked, decide_eq_true_eq] at h ⊢
  exact ⟨h.1.trans (List.suffix_cons name followed), List.nodup_cons.mpr ⟨hname, h.2⟩⟩

theorem balanced_describeTo (depth : Nat) (type : JavaType) (env : TypeEnvironment) :
    Balanced (survey.describeTo depth type env) :=
  balanced_of_alike fun followed =>
    alike_describeTo (outlasts_refl _ _) (outlasts_refl _ _) followed type env

/-- No variable is followed between two descriptions. -/
theorem followed_after (survey : Survey) (calls : List (JavaType × TypeEnvironment)) :
    (survey.after calls).followed = [] := by
  have hrun : ∀ d : Description, (calls.foldl (fun d call =>
      (run (survey.describe call.1 call.2) d).2) d).followed = d.followed := by
    induction calls with
    | nil => exact fun d => rfl
    | cons call calls ih => exact fun d => (ih _).trans (balanced_describeTo _ _ _ d)
  exact hrun .empty

/-- Descriptions of types leave the variables that are followed as they find them, at every depth
and also where they fail, and so do the ways to describe a class and to find its members. Within
them the variables are always those of the start with others before them, all different: a check
before every nested description, at whatever state the run is then, changes nothing. -/
theorem followed_balanced (survey : Survey) :
    (∀ calls, (survey.after calls).followed = []) ∧
    (∀ depth type env, Balanced (survey.describeTo depth type env)) ∧
    (∀ depth decl name, let describe := survey.describeTo depth
      Balanced (survey.describeDefinition describe decl name) ∧
        (∀ form, Balanced (survey.register describe decl name form)) ∧
        (∀ method, Balanced (describeValueClass describe decl name method)) ∧
        Balanced (survey.serializedDefinition describe decl name) ∧
        ∀ steps affixes bound definition,
          Balanced (survey.addProperties describe steps affixes bound definition)) ∧
    ∀ instead depth type env d, d.followed.Nodup →
      run (survey.describeWatched (isStacked d.followed) instead depth type env) d =
        run (survey.describeTo depth type env) d := by
  refine ⟨followed_after survey, balanced_describeTo, fun depth decl name => ?_, ?_⟩
  · have halike : ∀ followed type env, Alike (fun _ => False) followed
        (survey.describeTo depth type env) (survey.describeTo depth type env) :=
      alike_describeTo (outlasts_refl _ _) (outlasts_refl _ _)
    have hself := outlasts_refl (fun _ => False) survey.settings.patience
    exact ⟨balanced_of_alike fun s => alike_describeDefinition (halike s) hself decl name,
      fun form => balanced_of_alike fun s => alike_register (halike s) hself decl name form,
      fun method => balanced_of_alike fun s => alike_describeValueClass (halike s) decl name method,
      balanced_of_alike fun s => alike_serializedDefinition (halike s) decl name,
      fun steps affixes bound definition => balanced_of_alike fun s =>
        alike_addProperties (halike s) (outlasts_refl _ steps) affixes bound definition⟩
  · intro instead depth type env d hnodup
    have hcheck : isStacked d.followed d.followed = true := by simpa [isStacked] using hnodup
    have halike : Alike (fun _ => False) d.followed (survey.describeTo depth type env)
        (survey.describeWatched (isStacked d.followed) instead depth type env) :=
      alike_describeWatched (fun _ _ => isStacked_cons) instead depth hcheck type env
    exact (halike d rfl).2 fun _ h => h.elim

/-- Two variables are bound to each other, through an array and through an order. They are described
while a third one is followed. -/
theorem followed_balanced_orders :
    let survey : Survey :=
      ⟨.ofClasses [.ofFields "Order" .empty .object [("id", .basic "int")]], .empty⟩
    let env : TypeEnvironment :=
      ⟨[("T", .array (.var "U")), ("U", .parameterized (.basic "Order") [.var "T"])]⟩
    let d := Description.empty.withFollowed ["S"]
    let type : JavaType := .parameterized (.basic "java.util.List") [.var "T"]
    d.followed.Nodup ∧
      run (survey.describeWatched (isStacked ["S"]) (fun _ _ => throw .endless) 4 type env) d =
        run (survey.describeTo 4 type env) d ∧
      (run (survey.describeTo 4 type env) d).1 = .ok (.array (.array (.reference "Order"))) ∧
      (run (survey.describeTo 2 type env) d).1 = .error .endless ∧
      (run (survey.describeTo 2 type env) d).2.followed = ["S"] := by
  intro survey env d type
  have hnodup : d.followed.Nodup := by decide
  have hbalanced := followed_balanced survey
  exact ⟨hnodup, hbalanced.2.2.2 _ 4 type env d hnodup, by decide +kernel, by decide +kernel,
    hbalanced.2.1 2 type env d⟩

end Survey

end ApiSurface
