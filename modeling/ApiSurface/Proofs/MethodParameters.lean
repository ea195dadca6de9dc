import ApiSurface.ClassFacts
import ApiSurface.Proofs.SignatureGrammar

/-!
# Parameters of methods

A method has its parameters from three lists: the types of its descriptor, those of its generic
signature, which may leave the first one out, and the records of its parameters, of which the last
ones may be missing. Each parameter gets what stands at its place in each of them.
-/

namespace ApiSurface

open Signature

/-! ## Records of parameters -/

namespace ParameterRecord

variable {record : ParameterRecord} {records : List ParameterRecord} {type : JavaType}
  {types : List JavaType} {parameter : JavaParameter} {parameters : List JavaParameter}

theorem toParameter_eq_ok_iff : record.toParameter type = .ok parameter ↔
    parameter.type = type ∧ parameter.name = record.name ∧
      AnnotationRecord.toAnnotations record.annotations = .ok parameter.annotations := by
  unfold toParameter
  constructor
  · intro h
    obtain ⟨annotations, hannotations, hdone⟩ := bind_eq_ok_iff.mp h
    cases hdone
    exact ⟨rfl, rfl, hannotations⟩
  · rintro ⟨rfl, hname, hannotations⟩
    rw [hannotations, ← hname]
    rfl

theorem toParameter_getD_eq_ok_iff {listed : Option ParameterRecord} :
    (listed.getD .empty).toParameter type = .ok parameter ↔
      parameter.type = type ∧ parameter.name = listed.bind (·.name) ∧
        AnnotationRecord.toAnnotations ((listed.map (·.annotations)).getD []) =
          .ok parameter.annotations := by
  rw [toParameter_eq_ok_iff]
  cases listed <;> rfl

theorem toParameters_cons : toParameters (type :: types) records = (do
    let parameter ← (records.head?.getD .empty).toParameter type
    let parameters ← toParameters types records.tail
    pure (parameter :: parameters)) := by
  cases records <;> rfl

/-- Every type has its parameter, made with the record at its place or with an empty one. -/
theorem toParameters_eq_ok_iff : toParameters types records = .ok parameters ↔
    parameters.length = types.length ∧ ∀ (i : Nat) type parameter, types[i]? = some type →
      parameters[i]? = some parameter →
      (records[i]?.getD .empty).toParameter type = .ok parameter := by
  induction types generalizing records parameters with
  | nil =>
    rw [toParameters]
    constructor
    · rintro ⟨⟩
      simp
    · rintro ⟨hlength, -⟩
      rw [List.length_eq_zero_iff.mp hlength]
      rfl
  | cons type types ih =>
    rw [toParameters_cons]
    constructor
    · intro h
      obtain ⟨first, hfirst, hrest⟩ := bind_eq_ok_iff.mp h
      obtain ⟨others, hothers, hdone⟩ := bind_eq_ok_iff.mp hrest
      cases hdone
      obtain ⟨hlength, hall⟩ := ih.mp hothers
      refine ⟨congrArg Nat.succ hlength, fun i => ?_⟩
      cases i with
      | zero =>
        rintro _ _ ⟨⟩ ⟨⟩
        rwa [List.head?_eq_getElem?] at hfirst
      | succ i => simpa using hall i
    · rintro ⟨hlength, hall⟩
      obtain ⟨first, others, rfl⟩ := List.exists_cons_of_length_eq_add_one hlength
      have hfirst := hall 0 type first rfl rfl
      have hothers : toParameters types records.tail = .ok others :=
        ih.mpr ⟨Nat.succ.inj hlength, fun i => by simpa using hall (i + 1)⟩
      rw [← List.head?_eq_getElem?] at hfirst
      rw [hfirst, ok_bind, hothers]
      rfl

end ParameterRecord

/-! ## Types of parameters -/

namespace MethodRecord

/-- What is read from the descriptor of a method, and from its signature where it has one. -/
structure Types (record : MethodRecord) (plain generic : MethodSignature) : Prop where
  descriptor : parseMethodDescriptor record.descriptor = .ok plain
  signature : match record.signature with
    | none => generic = plain
    | some text => parseGenericMethodSignature text = .ok generic

/-- The signature has all arguments of the descriptor, or all but the first. -/
def Counts (plain generic : MethodSignature) : Prop :=
  plain.argumentCount = generic.argumentCount ∨ plain.argumentCount = generic.argumentCount + 1

/-- How many of the first arguments only the descriptor has. -/
def missing (plain generic : MethodSignature) : Nat := plain.argumentCount - generic.argumentCount

/-- The arguments of the descriptor that are missing, and those of the signature behind them. -/
def completed (plain generic : MethodSignature) : MethodSignature :=
  { generic with
    parameterTypes :=
      plain.parameterTypes.take (missing plain generic) ++ generic.parameterTypes }

variable {record : MethodRecord} {plain generic : MethodSignature}

theorem argumentCount_completed (h : Counts plain generic) :
    (completed plain generic).argumentCount = plain.argumentCount := by
  simp only [completed, missing, Counts, MethodSignature.argumentCount, List.length_append,
    List.length_take] at h ⊢
  omega

theorem getElem?_completed (i : Nat) : (completed plain generic).parameterTypes[i]? =
    if i < missing plain generic then plain.parameterTypes[i]?
    else generic.parameterTypes[i - missing plain generic]? := by
  have hlength : (plain.parameterTypes.take (missing plain generic)).length =
      missing plain generic := by
    simp only [List.length_take, missing, MethodSignature.argumentCount]
    omega
  rw [completed, List.getElem?_append, hlength]
  split_ifs with hi
  · exact List.getElem?_take_of_lt hi
  · rfl

theorem completed_self (plain : MethodSignature) : completed plain plain = plain := by
  simp [completed, missing]

theorem Types.parse_eq_ok (h : record.Types plain generic) (hcounts : Counts plain generic) :
    parseMethodSignature record.descriptor record.signature = .ok (completed plain generic) := by
  obtain ⟨hplain, hgeneric⟩ := h
  unfold parseMethodSignature
  rw [hplain, ok_bind]
  cases hsignature : record.signature with
  | none =>
    rw [hsignature] at hgeneric
    rw [show generic = plain from hgeneric, completed_self]
    rfl
  | some text =>
    rw [hsignature] at hgeneric
    simp only [show parseGenericMethodSignature text = .ok generic from hgeneric, ok_bind]
    rcases hcounts with heq | hmore
    · have hnone : missing plain generic = 0 := by rw [missing, heq, Nat.sub_self]
      rw [if_neg (by omega), if_neg (by simp [heq]), completed, hnone]
      rfl
    · have hone : missing plain generic = 1 := by rw [missing, hmore, Nat.add_sub_cancel_left]
      rw [if_pos hmore, completed, hone]
      rfl

theorem Types.parse_eq_error (h : record.Types plain generic) (hcounts : ¬ Counts plain generic) :
    ∃ text, record.signature = some text ∧
      parseMethodSignature record.descriptor record.signature =
        .error (.malformedSignature text 0
          (.argumentCount generic.argumentCount record.descriptor plain.argumentCount)) := by
  obtain ⟨hplain, hgeneric⟩ := h
  cases hsignature : record.signature with
  | none =>
    rw [hsignature] at hgeneric
    exact absurd (.inl (congrArg _ (show generic = plain from hgeneric).symm)) hcounts
  | some text =>
    rw [hsignature] at hgeneric
    refine ⟨text, rfl, ?_⟩
    unfold parseMethodSignature
    simp only [hplain, ok_bind, show parseGenericMethodSignature text = .ok generic from hgeneric]
    rw [if_neg fun hmore => hcounts (.inr hmore), if_pos fun heq => hcounts (.inl heq)]
    rfl

theorem exists_types {signature : MethodSignature}
    (h : parseMethodSignature record.descriptor record.signature = .ok signature) :
    ∃ plain generic, record.Types plain generic := by
  unfold parseMethodSignature at h
  obtain ⟨plain, hplain, hrest⟩ := bind_eq_ok_iff.mp h
  cases hsignature : record.signature with
  | none => exact ⟨plain, plain, hplain, by rw [hsignature]⟩
  | some text =>
    rw [hsignature] at hrest
    obtain ⟨generic, hgeneric, -⟩ := bind_eq_ok_iff.mp hrest
    exact ⟨plain, generic, hplain, by rw [hsignature]; exact hgeneric⟩

/-! ## Methods -/

/-- A method has as many parameters as the descriptor has arguments. The type of each is that of
the signature, counted behind the missing arguments, or that of the descriptor for these; its name
and annotations are those of the record at its place, if there is one. -/
structure Aligned (record : MethodRecord) (plain generic : MethodSignature)
    (parameters : List JavaParameter) : Prop where
  length : parameters.length = plain.argumentCount
  type : ∀ (i : Nat) parameter, parameters[i]? = some parameter →
    some parameter.type = if i < missing plain generic then plain.parameterTypes[i]?
      else generic.parameterTypes[i - missing plain generic]?
  name : ∀ (i : Nat) parameter, parameters[i]? = some parameter →
    parameter.name = record.parameters[i]?.bind (·.name)
  annotations : ∀ (i : Nat) parameter, parameters[i]? = some parameter →
    AnnotationRecord.toAnnotations ((record.parameters[i]?.map (·.annotations)).getD []) =
      .ok parameter.annotations

theorem toParameters_completed_eq_ok_iff (hcounts : Counts plain generic)
    {parameters : List JavaParameter} :
    ParameterRecord.toParameters (completed plain generic).parameterTypes record.parameters =
      .ok parameters ↔ record.Aligned plain generic parameters := by
  have hcount := argumentCount_completed hcounts
  rw [ParameterRecord.toParameters_eq_ok_iff, show
    (completed plain generic).parameterTypes.length = plain.argumentCount from hcount]
  constructor
  · rintro ⟨hlength, hall⟩
    have hread : ∀ (i : Nat) parameter, parameters[i]? = some parameter →
        (completed plain generic).parameterTypes[i]? = some parameter.type ∧
          parameter.name = record.parameters[i]?.bind (·.name) ∧
          AnnotationRecord.toAnnotations ((record.parameters[i]?.map (·.annotations)).getD []) =
            .ok parameter.annotations := by
      intro i parameter hparameter
      obtain ⟨hi, -⟩ := List.getElem?_eq_some_iff.mp hparameter
      have htype := List.getElem?_eq_getElem (hi.trans_eq (hlength.trans hcount.symm))
      obtain ⟨hsame, hname, hannotations⟩ := ParameterRecord.toParameter_getD_eq_ok_iff.mp
        (hall i _ parameter htype hparameter)
      exact ⟨hsame ▸ htype, hname, hannotations⟩
    exact {
      length := hlength
      type i parameter h := (hread i parameter h).1.symm.trans (getElem?_completed i)
      name i parameter h := (hread i parameter h).2.1
      annotations i parameter h := (hread i parameter h).2.2 }
  · intro h
    refine ⟨h.length, fun i type parameter htype hparameter => ?_⟩
    refine ParameterRecord.toParameter_getD_eq_ok_iff.mpr
      ⟨?_, h.name i parameter hparameter, h.annotations i parameter hparameter⟩
    have hsame := (h.type i parameter hparameter).trans (getElem?_completed i).symm
    exact Option.some.inj (hsame.trans htype)

/-- A method that is made of what its record says and of the types that are read from it. -/
structure Made (record : MethodRecord) (plain generic : MethodSignature) (method : JavaMethod) :
    Prop where
  name : method.name = record.name
  descriptor : method.descriptor = record.descriptor
  returnType : method.returnType = generic.returnType
  parameters : record.Aligned plain generic method.parameters
  access : method.access = ⟨record.access⟩
  schema : method.schema = generic.schema
  annotations : AnnotationRecord.toAnnotations record.annotations = .ok method.annotations

variable {className : String} {method : JavaMethod}

theorem Types.toMethod_eq_error (h : record.Types plain generic) (hcounts : Counts plain generic)
    (hmany : plain.argumentCount < record.parameters.length) :
    record.toMethod className = .error (.tooManyParameters className record.name
      record.parameters.length plain.argumentCount) := by
  unfold toMethod
  rw [h.parse_eq_ok hcounts, ok_bind, argumentCount_completed hcounts]
  exact if_pos hmany

theorem Types.toMethod_eq (h : record.Types plain generic) (hcounts : Counts plain generic)
    (hlisted : record.parameters.length ≤ plain.argumentCount) :
    record.toMethod className = (do
      let parameters ← ParameterRecord.toParameters
        (completed plain generic).parameterTypes record.parameters
      let annotations ← AnnotationRecord.toAnnotations record.annotations
      pure ⟨record.name, record.descriptor, generic.returnType, parameters, ⟨record.access⟩,
        generic.schema, annotations⟩) := by
  unfold toMethod
  rw [h.parse_eq_ok hcounts, ok_bind, argumentCount_completed hcounts]
  exact if_neg (Nat.not_lt.mpr hlisted)

theorem Types.toMethod_eq_ok_iff (h : record.Types plain generic) (hcounts : Counts plain generic)
    (hlisted : record.parameters.length ≤ plain.argumentCount) :
    record.toMethod className = .ok method ↔ record.Made plain generic method := by
  rw [h.toMethod_eq hcounts hlisted]
  constructor
  · intro hread
    obtain ⟨parameters, hparameters, hrest⟩ := bind_eq_ok_iff.mp hread
    obtain ⟨annotations, hannotations, hdone⟩ := bind_eq_ok_iff.mp hrest
    cases hdone
    exact ⟨rfl, rfl, rfl, (toParameters_completed_eq_ok_iff hcounts).mp hparameters, rfl, rfl,
      hannotations⟩
  · intro hmade
    rw [(toParameters_completed_eq_ok_iff hcounts).mpr hmade.parameters, ok_bind,
      hmade.annotations, ok_bind, ← hmade.name, ← hmade.descriptor, ← hmade.returnType,
      ← hmade.access, ← hmade.schema]
    rfl

/-- A method is made exactly if its signature has all arguments of its descriptor or all but the
first, no more parameters are listed than there are arguments, and all annotations can be read; its
parameters are then aligned with all three. Any other difference between the signature and the
descriptor is a malformed signature, and more parameters are a fault of the record. -/
theorem toMethod_aligned (className : String) (record : MethodRecord) :
    (∀ method, record.toMethod className = .ok method ↔ ∃ plain generic,
      record.Types plain generic ∧ Counts plain generic ∧
        record.parameters.length ≤ plain.argumentCount ∧ record.Made plain generic method) ∧
    ∀ plain generic, record.Types plain generic →
      (¬ Counts plain generic → ∃ text, record.signature = some text ∧
        record.toMethod className = .error (.malformedSignature text 0
          (.argumentCount generic.argumentCount record.descriptor plain.argumentCount))) ∧
      (Counts plain generic → plain.argumentCount < record.parameters.length →
        record.toMethod className = .error (.tooManyParameters className record.name
          record.parameters.length plain.argumentCount)) := by
  refine ⟨fun method => ⟨fun h => ?_, ?_⟩, fun plain generic htypes => ⟨fun hcounts => ?_, ?_⟩⟩
  · obtain ⟨signature, hparse, -⟩ := bind_eq_ok_iff.mp h
    obtain ⟨plain, generic, htypes⟩ := exists_types hparse
    have hcounts : Counts plain generic := by
      by_contra hnot
      obtain ⟨text, -, hfail⟩ := htypes.parse_eq_error hnot
      cases hfail.symm.trans hparse
    have hlisted : record.parameters.length ≤ plain.argumentCount := by
      by_contra hmany
      cases (htypes.toMethod_eq_error hcounts (Nat.lt_of_not_le hmany)).symm.trans h
    exact ⟨plain, generic, htypes, hcounts, hlisted,
      (htypes.toMethod_eq_ok_iff hcounts hlisted).mp h⟩
  · rintro ⟨plain, generic, htypes, hcounts, hlisted, hmade⟩
    exact (htypes.toMethod_eq_ok_iff hcounts hlisted).mpr hmade
  · obtain ⟨text, hsignature, hfail⟩ := htypes.parse_eq_error hcounts
    refine ⟨text, hsignature, ?_⟩
    unfold toMethod
    rw [hfail]
    rfl
  · exact htypes.toMethod_eq_error

/-- The first argument is an enclosing instance; a signature may leave it out. -/
def enclosedMethod (signature : String) (parameters : List ParameterRecord) : MethodRecord :=
  ⟨"find", 1, "(La/Outer;I[Ljava/lang/Object;)V", some signature, [], parameters⟩

/-- A method of which two parameters are listed, one of them with an annotation, and methods with a
signature of too many arguments and with too many parameters. -/
theorem toMethod_aligned_enclosed :
    let plain : MethodSignature :=
      ⟨.basic "void", [.basic "a.Outer", .basic "int", .array .object], .empty⟩
    let generic : MethodSignature := ⟨.basic "void", [.basic "int", .array (.var "T")], .empty⟩
    let wider : MethodSignature := ⟨.basic "void", plain.parameterTypes ++ [.basic "int"], .empty⟩
    let listed : List ParameterRecord := [⟨some "outer", [.mk "La/Tag;" []]⟩, ⟨some "id", []⟩]
    let listedMethod := enclosedMethod "(I[TT;)V" listed
    let widerMethod := enclosedMethod "(La/Outer;I[Ljava/lang/Object;I)V" listed
    let crowdedMethod := enclosedMethod "(I[TT;)V" (listed ++ listed)
    (∃ method, listedMethod.toMethod "C" = .ok method ∧
      method.parameters.map (fun p => (p.type, p.name)) = [(.basic "a.Outer", some "outer"),
        (.basic "int", some "id"), (.array (.var "T"), none)] ∧
      listedMethod.Types plain generic ∧ listedMethod.Made plain generic method) ∧
    (widerMethod.Types plain wider ∧ ¬ Counts plain wider ∧ ∃ text,
      widerMethod.signature = some text ∧ widerMethod.toMethod "C" =
        .error (.malformedSignature text 0 (.argumentCount 4 widerMethod.descriptor 3))) ∧
    crowdedMethod.Types plain generic ∧ Counts plain generic ∧
      crowdedMethod.toMethod "C" = .error (.tooManyParameters "C" "find" 4 3) := by
  intro plain generic wider listed listedMethod widerMethod crowdedMethod
  have hplain : parseMethodDescriptor listedMethod.descriptor = .ok plain := by decide +kernel
  have hgeneric : parseGenericMethodSignature "(I[TT;)V" = .ok generic := by decide +kernel
  have hwider : parseGenericMethodSignature "(La/Outer;I[Ljava/lang/Object;I)V" = .ok wider := by
    decide +kernel
  have hdifferent : ¬ Counts plain wider := by unfold Counts; decide +kernel
  have hcounts : Counts plain generic := .inr rfl
  have hmap : (listedMethod.toMethod "C").map
      (fun method => method.parameters.map fun p => (p.type, p.name)) =
        .ok [(.basic "a.Outer", some "outer"), (.basic "int", some "id"),
          (.array (.var "T"), none)] := by decide +kernel
  obtain ⟨method, hmethod, hparameters⟩ := exists_of_map_eq_ok hmap
  obtain ⟨plain', generic', ⟨hplain', hgeneric'⟩, -, -, hmade⟩ :=
    ((toMethod_aligned "C" listedMethod).1 method).mp hmethod
  cases hplain.symm.trans hplain'
  cases hgeneric.symm.trans hgeneric'
  exact ⟨⟨method, hmethod, hparameters, ⟨hplain, hgeneric⟩, hmade⟩,
    ⟨⟨hplain, hwider⟩, hdifferent,
      ((toMethod_aligned "C" widerMethod).2 plain wider ⟨hplain, hwider⟩).1 hdifferent⟩,
    ⟨hplain, hgeneric⟩, hcounts,
    ((toMethod_aligned "C" crowdedMethod).2 plain generic ⟨hplain, hgeneric⟩).2 hcounts
      (by decide)⟩

end MethodRecord

end ApiSurface
