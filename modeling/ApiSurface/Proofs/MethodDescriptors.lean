import ApiSurface.Proofs.SignatureRoundTrip

/-!
# Descriptors of methods

The descriptor of a method is made of descriptors of types. The reader takes the generic signature
of a method that declares no type parameters for one, also where its types are generic or where it
says what the method throws; only for the others does a descriptor read as the descriptors in it.
-/

namespace ApiSurface.Signature

/-- Descriptors in parentheses, and one more behind them. -/
def IsDescriptor (text : String) (signature : MethodSignature) : Prop :=
  ∃ (parameters : List (String × JavaType)) (result : String),
    text = "(" ++ String.join (parameters.map Prod.fst) ++ ")" ++ result ∧
      (∀ p ∈ parameters, parseTypeDescriptor p.1 = .ok p.2) ∧
      parseTypeDescriptor result = .ok signature.returnType ∧
      signature.parameterTypes = parameters.map Prod.snd ∧ signature.schema = .empty

namespace MethodText

/-- The types, if no type parameters are declared. -/
def signature (method : MethodText) : MethodSignature :=
  ⟨method.result.1, method.parameters.map Prod.fst, .empty⟩

/-- No type is generic, and nothing is said of what is thrown. -/
structure Plain (method : MethodText) : Prop where
  parameters : ∀ p ∈ method.parameters, isGeneric p.1 = false
  result : isGeneric method.result.1 = false
  thrown : method.thrown = []

end MethodText

theorem parseTypeDescriptor_eq_ok_iff {text : String} {t : JavaType} :
    parseTypeDescriptor text = .ok t ↔ Spelled .type t text.toList ∧ isGeneric t = false := by
  rw [← parseType_eq_ok_iff]
  constructor
  · intro h
    obtain ⟨read, hread, hchecked⟩ := bind_eq_ok_iff.mp h
    cases hgeneric : isGeneric read with
    | true =>
      simp only [hgeneric] at hchecked
      cases hchecked
    | false =>
      simp only [hgeneric] at hchecked
      cases hchecked
      exact ⟨hread, hgeneric⟩
  · rintro ⟨hread, hgeneric⟩
    refine bind_eq_ok_iff.mpr ⟨t, hread, ?_⟩
    simp only [hgeneric]
    rfl

/-- A descriptor is read exactly if it is the text of some method. -/
theorem parseMethodDescriptor_eq_ok_iff {text : String} {signature : MethodSignature} :
    parseMethodDescriptor text = .ok signature ↔
      ∃ method : MethodText, text.toList = method.text ∧ signature = method.signature := by
  constructor
  · intro h
    obtain ⟨generic, hgeneric, hchecked⟩ := bind_eq_ok_iff.mp h
    rw [parseGenericMethodSignature_eq] at hgeneric
    obtain ⟨⟨entries, types, returnType⟩, hread, hbuilt⟩ := bind_eq_ok_iff.mp hgeneric
    obtain ⟨schema, hschema, hdone⟩ := bind_eq_ok_iff.mp hbuilt
    cases hdone
    cases hempty : schema.isEmpty with
    | false =>
      simp only [hempty] at hchecked
      cases hchecked
    | true =>
      simp only [hempty] at hchecked
      cases hchecked
      have hnone : schema = .empty := congrArg TypeSchema.mk (List.isEmpty_iff.mp hempty)
      have hnames := TypeSchema.names_ofEntries hschema
      rw [hnone] at hnames
      obtain rfl := List.map_eq_nil_iff.mp hnames.symm
      obtain ⟨rest, hwhole⟩ := Direct.read_eq_ok_iff.mp hread
      obtain ⟨left, hbegin⟩ := Direct.typeParameters_of_wholeMethod hwhole
      obtain ⟨-, rfl⟩ := Direct.typeParameters_eq_ok_nil_iff.mp hbegin
      obtain ⟨method, htext, rfl, rfl⟩ :=
        Direct.exists_of_wholeMethod hbegin (by rw [fuelFor]; omega) hwhole
      exact ⟨method, htext, by rw [hnone]; rfl⟩
  · rintro ⟨method, htext, rfl⟩
    have hbegin : Direct.typeParameters (fuelFor text.toList) text.toList =
        .ok ([], method.text) := by
      rw [htext]
      exact Direct.typeParameters_eq_ok_nil_iff.mpr ⟨by simp [MethodText.text], rfl⟩
    have hread : Direct.read Direct.wholeMethod text =
        .ok ([], method.parameters.map Prod.fst, method.result.1) := by
      refine Direct.read_eq_ok_iff.mpr ⟨[], Direct.wholeMethod_text method hbegin ?_⟩
      rw [htext, fuelFor]
      omega
    have hgeneric : parseGenericMethodSignature text = .ok method.signature := by
      rw [parseGenericMethodSignature_eq, hread]
      rfl
    exact bind_eq_ok_iff.mpr ⟨method.signature, hgeneric, rfl⟩

/-- Descriptors of types make up the text of a plain method. -/
theorem isDescriptor_iff {text : String} {signature : MethodSignature} :
    IsDescriptor text signature ↔
      ∃ method : MethodText, text.toList = method.text ∧ signature = method.signature ∧
        method.Plain := by
  constructor
  · rintro ⟨parameters, result, rfl, hparameters, hresult, htypes, hschema⟩
    have hspelled := fun p hp => parseTypeDescriptor_eq_ok_iff.mp (hparameters p hp)
    obtain ⟨hspelled', hplain⟩ := parseTypeDescriptor_eq_ok_iff.mp hresult
    refine ⟨⟨parameters.map fun p => (p.2, p.1.toList), (signature.returnType, result.toList), [],
      List.forall_mem_map.mpr fun p hp => (hspelled p hp).1, hspelled', by simp⟩, ?_, ?_,
      List.forall_mem_map.mpr fun p hp => (hspelled p hp).2, hplain, rfl⟩
    · simp [MethodText.text, List.flatMap_map]
    · obtain ⟨returnType, parameterTypes, schema⟩ := signature
      simp_all [MethodText.signature, Function.comp_def]
  · rintro ⟨method, htext, rfl, hplain⟩
    refine ⟨method.parameters.map fun p => (String.ofList p.2, p.1), String.ofList method.result.2,
      ?_, ?_, ?_, ?_, rfl⟩
    · rw [← String.toList_inj, htext, MethodText.text, hplain.thrown]
      simp [List.flatMap_map, Function.comp_def]
    · refine List.forall_mem_map.mpr fun p hp => parseTypeDescriptor_eq_ok_iff.mpr ?_
      exact ⟨by simpa using method.spelled_parameters p hp, hplain.parameters p hp⟩
    · refine parseTypeDescriptor_eq_ok_iff.mpr ⟨?_, hplain.result⟩
      rw [String.toList_ofList]
      exact method.spelled_result
    · simp [MethodText.signature, Function.comp_def]

namespace MethodText

variable {method method' : MethodText}

theorem parameterTypes_tail (method : MethodText) :
    Direct.parameterTypes (2 * method.text.length) method.text.length method.text.tail =
      .ok (method.parameters.map Prod.fst,
        ')' :: (method.result.2 ++ method.thrown.flatMap fun p => '^' :: p.2)) := by
  have hlength : method.text.length = method.text.tail.length + 1 := rfl
  refine (Direct.parameterTypes_eq_ok_iff (by omega) (by omega)).mpr ?_
  exact ⟨method.parameters, rfl, rfl, method.spelled_parameters, rfl⟩

/-- Methods of one text have the same types, and the same text where they say what is thrown. -/
theorem eq_of_text (h : method.text = method'.text) :
    method.parameters.map Prod.fst = method'.parameters.map Prod.fst ∧
      method.result = method'.result ∧
      (method.thrown.flatMap fun p => '^' :: p.2) = method'.thrown.flatMap fun p => '^' :: p.2 := by
  have hread := method.parameterTypes_tail
  rw [h, method'.parameterTypes_tail] at hread
  obtain ⟨htypes, hrest⟩ := Prod.mk.inj (Except.ok.inj hread)
  obtain ⟨htype, htext, hthrown⟩ :=
    method.spelled_result.unique method'.spelled_result (List.cons.inj hrest).2.symm
  exact ⟨htypes.symm, Prod.ext htype htext, hthrown⟩

theorem Plain.of_text (hplain : method.Plain) (h : method.text = method'.text) :
    method'.Plain := by
  obtain ⟨htypes, hresult, hthrown⟩ := eq_of_text h
  refine ⟨?_, hresult ▸ hplain.result, ?_⟩
  · have hall : ∀ t ∈ method.parameters.map Prod.fst, isGeneric t = false :=
      List.forall_mem_map.mpr hplain.parameters
    rw [htypes] at hall
    exact List.forall_mem_map.mp hall
  · rw [hplain.thrown, List.flatMap_nil, eq_comm, List.flatMap_eq_nil_iff] at hthrown
    exact List.eq_nil_iff_forall_not_mem.mpr fun p hp => List.cons_ne_nil _ _ (hthrown p hp)

end MethodText

/-- A descriptor is read exactly if it is the text of some method, and is made of descriptors
exactly if it is that of a plain one. So the texts that are read are the descriptors, as far as
one text goes, exactly if the text is that of no other method than a plain one. -/
theorem parseMethodDescriptor_iff (text : String) :
    (∀ signature, parseMethodDescriptor text = .ok signature ↔
        ∃ method : MethodText, text.toList = method.text ∧ signature = method.signature) ∧
      (∀ signature, IsDescriptor text signature ↔
        ∃ method : MethodText, text.toList = method.text ∧ signature = method.signature ∧
          method.Plain) ∧
      ((∀ signature, parseMethodDescriptor text = .ok signature ↔ IsDescriptor text signature) ↔
        ∀ method : MethodText, text.toList = method.text → method.Plain) := by
  refine ⟨fun signature => parseMethodDescriptor_eq_ok_iff, fun signature => isDescriptor_iff, ?_⟩
  constructor
  · intro hsame method htext
    have hread := parseMethodDescriptor_eq_ok_iff.mpr ⟨method, htext, rfl⟩
    obtain ⟨plain, htext', -, hplain⟩ := isDescriptor_iff.mp ((hsame method.signature).mp hread)
    exact hplain.of_text (htext'.symm.trans htext)
  · intro hplain signature
    rw [parseMethodDescriptor_eq_ok_iff, isDescriptor_iff]
    constructor
    · rintro ⟨method, htext, rfl⟩
      exact ⟨method, htext, rfl, hplain method htext⟩
    · rintro ⟨method, htext, rfl, -⟩
      exact ⟨method, htext, rfl⟩

/-- A plain descriptor is read as what the descriptors in it are read as. -/
example : IsDescriptor "([ILa/B;)V"
    ⟨.basic "void", [.array (.basic "int"), .basic "a.B"], .empty⟩ :=
  ⟨[("[I", .array (.basic "int")), ("La/B;", .basic "a.B")], "V", by decide +kernel,
    by decide +kernel, by decide +kernel, rfl, rfl⟩

/-- A type variable as the type of a parameter, and a class that is thrown, are read. -/
theorem parseMethodDescriptor_generic :
    (parseMethodDescriptor "(TT;)V" = .ok ⟨.basic "void", [.var "T"], .empty⟩ ∧
        ¬ IsDescriptor "(TT;)V" ⟨.basic "void", [.var "T"], .empty⟩) ∧
      parseMethodDescriptor "()V^La;" = .ok ⟨.basic "void", [], .empty⟩ ∧
        ¬ IsDescriptor "()V^La;" ⟨.basic "void", [], .empty⟩ := by
  refine ⟨⟨by decide +kernel, ?_⟩, by decide +kernel, ?_⟩
  · rintro ⟨parameters, result, -, hparameters, -, htypes, -⟩
    have hmem : JavaType.var "T" ∈ parameters.map Prod.snd := htypes ▸ List.mem_singleton_self _
    obtain ⟨p, hp, htype⟩ := List.mem_map.mp hmem
    have hplain := (parseTypeDescriptor_eq_ok_iff.mp (hparameters p hp)).2
    rw [htype] at hplain
    cases hplain
  · intro hdescriptor
    have hname : IsName ['<', '.', ';'] ['a'] := by decide
    let throws : MethodText :=
      { parameters := []
        result := (.basic "void", ['V'])
        thrown := [(_, 'L' :: (['a'] ++ [';']))]
        spelled_parameters := by simp
        spelled_result := .primitive rfl
        spelled_thrown := List.forall_mem_singleton.mpr (.ofClass (.raw (.basic hname))) }
    obtain ⟨method, htext, -, hplain⟩ := isDescriptor_iff.mp hdescriptor
    have hchars : "()V^La;".toList = ['(', ')', 'V', '^', 'L', 'a', ';'] := by decide +kernel
    have hsame : method.text = throws.text := htext.symm.trans hchars
    have hnone := (hplain.of_text hsame).thrown
    cases hnone

end ApiSurface.Signature
