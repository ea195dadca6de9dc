import ApiSurface.Proofs.SignatureGrammar

/-!
# Parts of whole signatures

Type parameters, parameter types, interfaces and thrown types stand one after another in a
signature. Each such list is read up to where it does not go on, and is then the list of what is
spelled.
-/

namespace ApiSurface.Signature

namespace Direct

theorem length_lt_append {lead read : List Char} (h : lead ++ read ≠ []) (rest : List Char) :
    rest.length < (lead ++ (read ++ rest)).length := by
  have hpos := List.length_pos_iff.mpr h
  simp only [List.length_append] at hpos ⊢
  omega

section

variable {α : Type} {goesOn : List Char → Prop} [DecidablePred goesOn]
  {part : List Char → Except Fault (α × List Char)} {lead : List Char}
  {Part : α → List Char → Prop} {values : List α} {rest : List Char}

/-- If reading one part, behind what leads to it, comes to a relation, then reading many comes to
a list of related parts, by induction on the steps. -/
theorem many_eq_ok_iff {steps : Nat} {text : List Char}
    (hpart : ∀ text' value rest, text'.length ≤ text.length → goesOn text' →
      (part text' = .ok (value, rest) ↔
        ∃ read, text' = lead ++ (read ++ rest) ∧ Part value read))
    (hgoes : ∀ value read, Part value read →
      lead ++ read ≠ [] ∧ ∀ rest, goesOn (lead ++ (read ++ rest)))
    (hsteps : text.length < steps) :
    many goesOn part steps text = .ok (values, rest) ↔
      ∃ parts : List (α × List Char), values = parts.map Prod.fst ∧
        text = parts.flatMap (fun p => lead ++ p.2) ++ rest ∧
        (∀ p ∈ parts, Part p.1 p.2) ∧ ¬ goesOn rest := by
  induction steps generalizing text values with
  | zero => omega
  | succ steps ih =>
    unfold many
    constructor
    · intro hread
      split_ifs at hread with hnext
      · obtain ⟨⟨first, left⟩, hfirst, hothers⟩ := bind_eq_ok_iff.mp hread
        obtain ⟨⟨others, last⟩, hothers, hdone⟩ := bind_eq_ok_iff.mp hothers
        cases hdone
        obtain ⟨read, rfl, hspelled⟩ := (hpart text first left le_rfl hnext).mp hfirst
        have hlength := length_lt_append (hgoes first read hspelled).1 left
        obtain ⟨parts, rfl, rfl, hparts, hend⟩ :=
          (ih (fun text' value rest hle => hpart text' value rest (by omega)) (by omega)).mp
            hothers
        exact ⟨(first, read) :: parts, rfl, by simp, List.forall_mem_cons.mpr ⟨hspelled, hparts⟩,
          hend⟩
      · cases hread
        exact ⟨[], rfl, rfl, by simp, hnext⟩
    · rintro ⟨parts, rfl, rfl, hparts, hend⟩
      cases parts with
      | nil => simpa using fun h => absurd h hend
      | cons p parts =>
        obtain ⟨hp, hparts⟩ := List.forall_mem_cons.mp hparts
        obtain ⟨hread, hgo⟩ := hgoes p.1 p.2 hp
        simp only [List.flatMap_cons, List.append_assoc] at hpart hsteps ⊢
        have hfirst := (hpart _ p.1 _ le_rfl (hgo _)).mpr ⟨p.2, rfl, hp⟩
        have hlength := length_lt_append hread (parts.flatMap (fun p => lead ++ p.2) ++ rest)
        have hothers := (ih (fun text' value rest hle => hpart text' value rest (by omega))
          (by omega)).mpr ⟨parts, rfl, rfl, hparts, hend⟩
        rw [if_pos (hgo _), hfirst]
        simp only [ok_bind, hothers, List.map_cons]

end

section

variable {fuel steps : Nat} {text rest : List Char} {types : List JavaType}

theorem exists_cons_of_type {t : JavaType} (h : Spelled .type t text) :
    ∃ c more, text = c :: more ∧ c ≠ ')' := by
  cases h with
  | primitive hprimitive => exact ⟨_, [], rfl, by rintro rfl; cases hprimitive⟩
  | ofReference h =>
    obtain ⟨c, more, rfl, hc⟩ := exists_cons_of_reference h
    exact ⟨c, more, rfl, by rintro rfl; simp at hc⟩

theorem parameterTypes_eq_ok_iff (hfuel : 2 * text.length + 2 ≤ fuel)
    (hsteps : text.length < steps) :
    parameterTypes fuel steps text = .ok (types, rest) ↔
      ∃ parts : List (JavaType × List Char), types = parts.map Prod.fst ∧
        text = parts.flatMap Prod.snd ++ rest ∧ (∀ p ∈ parts, Spelled .type p.1 p.2) ∧
        rest.head? = some ')' := by
  have hpart : ∀ text' t rest, text'.length ≤ text.length → text'.head? ≠ some ')' →
      (javaType fuel text' = .ok (t, rest) ↔
        ∃ read, text' = [] ++ (read ++ rest) ∧ Spelled .type t read) :=
    fun text' t rest hle _ => javaType_eq_ok_iff (by omega)
  have hgoes : ∀ t read, Spelled .type t read →
      [] ++ read ≠ [] ∧ ∀ rest, ([] ++ (read ++ rest)).head? ≠ some ')' := by
    intro t read hspelled
    obtain ⟨c, more, rfl, hc⟩ := exists_cons_of_type hspelled
    simpa using hc
  refine (many_eq_ok_iff hpart hgoes hsteps).trans ?_
  simp only [ne_eq, not_not]
  rfl

theorem interfaceTypes_eq_ok_iff (hfuel : 2 * text.length + 1 ≤ fuel)
    (hsteps : text.length < steps) :
    interfaceTypes fuel steps text = .ok (types, rest) ↔
      ∃ parts : List (JavaType × List Char), types = parts.map Prod.fst ∧
        text = parts.flatMap Prod.snd ++ rest ∧ (∀ p ∈ parts, Spelled .reference p.1 p.2) ∧
        rest = [] := by
  have hpart : ∀ text' t rest, text'.length ≤ text.length → text' ≠ [] →
      (referenceType fuel text' = .ok (t, rest) ↔
        ∃ read, text' = [] ++ (read ++ rest) ∧ Spelled .reference t read) :=
    fun text' t rest hle _ => referenceType_eq_ok_iff (by omega)
  have hgoes : ∀ t read, Spelled .reference t read →
      [] ++ read ≠ [] ∧ ∀ rest, [] ++ (read ++ rest) ≠ [] := by
    intro t read hspelled
    obtain ⟨c, more, rfl, -⟩ := exists_cons_of_reference hspelled
    simp
  refine (many_eq_ok_iff hpart hgoes hsteps).trans ?_
  simp only [ne_eq, not_not]
  rfl

theorem marked_eq_ok_iff {mark : Char} (hfuel : 2 * text.length + 1 ≤ fuel)
    (hsteps : text.length < steps) :
    marked mark fuel steps text = .ok (types, rest) ↔
      ∃ parts : List (JavaType × List Char), types = parts.map Prod.fst ∧
        text = parts.flatMap (fun p => mark :: p.2) ++ rest ∧
        (∀ p ∈ parts, Spelled .reference p.1 p.2) ∧ rest.head? ≠ some mark := by
  have hpart : ∀ text' t rest, text'.length ≤ text.length → text'.head? = some mark →
      (referenceType fuel text'.tail = .ok (t, rest) ↔
        ∃ read, text' = [mark] ++ (read ++ rest) ∧ Spelled .reference t read) := by
    intro text' t rest hle hnext
    obtain ⟨text', rfl⟩ := List.head?_eq_some_iff.mp hnext
    rw [List.length_cons] at hle
    simpa using referenceType_eq_ok_iff (by omega)
  have hgoes : ∀ t read, Spelled .reference t read →
      [mark] ++ read ≠ [] ∧ ∀ rest, ([mark] ++ (read ++ rest)).head? = some mark := by
    simp
  exact many_eq_ok_iff hpart hgoes hsteps

end

end Direct

/-! ## Methods -/

/-- The text of a method behind its type parameters: each type with its spelling. -/
structure MethodText where
  parameters : List (JavaType × List Char)
  result : JavaType × List Char
  thrown : List (JavaType × List Char)
  spelled_parameters : ∀ p ∈ parameters, Spelled .type p.1 p.2
  spelled_result : Spelled .type result.1 result.2
  spelled_thrown : ∀ p ∈ thrown, Spelled .reference p.1 p.2

def MethodText.text (method : MethodText) : List Char :=
  '(' :: (method.parameters.flatMap Prod.snd ++ ')' ::
    (method.result.2 ++ method.thrown.flatMap fun p => '^' :: p.2))

namespace Direct

variable {fuel : Nat} {text left rest : List Char} {entries : List (String × List JavaType)}

theorem typeParameters_eq_ok_nil_iff :
    typeParameters fuel text = .ok ([], left) ↔ text.head? ≠ some '<' ∧ left = text := by
  unfold typeParameters
  constructor
  · intro h
    split_ifs at h with hnext
    · obtain ⟨⟨parameters, first⟩, -, hlist⟩ := bind_eq_ok_iff.mp h
      obtain ⟨⟨_, closed⟩, -, hclosed⟩ := bind_eq_ok_iff.mp hlist
      simp only at hclosed
      split_ifs at hclosed with hempty
      · cases hclosed
      · cases hclosed
        exact absurd rfl hempty
    · cases h
      exact ⟨hnext, rfl⟩
  · rintro ⟨hnext, rfl⟩
    rw [if_neg hnext]

variable {types : List JavaType} {returnType : JavaType}

theorem typeParameters_of_wholeMethod
    (hread : wholeMethod fuel text = .ok ((entries, types, returnType), rest)) :
    ∃ left, typeParameters fuel text = .ok (entries, left) := by
  unfold wholeMethod at hread
  obtain ⟨⟨parameters, left⟩, hbegin, hbegun⟩ := bind_eq_ok_iff.mp hread
  obtain ⟨⟨_, opened⟩, -, hopened⟩ := bind_eq_ok_iff.mp hbegun
  obtain ⟨⟨_, listed⟩, -, hlisted⟩ := bind_eq_ok_iff.mp hopened
  obtain ⟨⟨_, closed⟩, -, hclosed⟩ := bind_eq_ok_iff.mp hlisted
  obtain ⟨⟨_, typed⟩, -, htyped⟩ := bind_eq_ok_iff.mp hclosed
  obtain ⟨⟨_, last⟩, -, hthrown⟩ := bind_eq_ok_iff.mp htyped
  obtain ⟨⟨_, finished⟩, -, hdone⟩ := bind_eq_ok_iff.mp hthrown
  cases hdone
  exact ⟨left, hbegin⟩

theorem exists_of_wholeMethod
    (hbegin : typeParameters fuel text = .ok (entries, left)) (hfuel : 2 * left.length + 2 ≤ fuel)
    (hread : wholeMethod fuel text = .ok ((entries, types, returnType), rest)) :
    ∃ method : MethodText, left = method.text ∧
      types = method.parameters.map Prod.fst ∧ returnType = method.result.1 := by
  unfold wholeMethod at hread
  rw [hbegin, ok_bind] at hread
  obtain ⟨⟨_, opened⟩, hopen, hopened⟩ := bind_eq_ok_iff.mp hread
  obtain ⟨⟨parameters, listed⟩, hlist, hlisted⟩ := bind_eq_ok_iff.mp hopened
  obtain ⟨⟨_, closed⟩, hclose, hclosed⟩ := bind_eq_ok_iff.mp hlisted
  obtain ⟨⟨type, typed⟩, htype, htyped⟩ := bind_eq_ok_iff.mp hclosed
  obtain ⟨⟨thrown, last⟩, hthrow, hthrown⟩ := bind_eq_ok_iff.mp htyped
  obtain ⟨⟨_, finished⟩, hfinish, hdone⟩ := bind_eq_ok_iff.mp hthrown
  cases hdone
  rw [expect_eq_ok_iff.mp hopen] at hfuel ⊢
  rw [List.length_cons] at hfuel
  obtain ⟨parts, rfl, rfl, hparts, -⟩ :=
    (parameterTypes_eq_ok_iff (by omega) (by omega)).mp hlist
  rw [expect_eq_ok_iff.mp hclose] at hfuel ⊢
  simp only [List.length_append, List.length_cons] at hfuel
  obtain ⟨result, rfl, hresult⟩ := (javaType_eq_ok_iff (by omega)).mp htype
  rw [List.length_append] at hfuel
  obtain ⟨throws, -, rfl, hthrows, -⟩ := (marked_eq_ok_iff (by omega) (by omega)).mp hthrow
  obtain ⟨rfl, -⟩ := finish_eq_ok_iff.mp hfinish
  exact ⟨⟨parts, (returnType, result), throws, hparts, hresult, hthrows⟩,
    by simp [MethodText.text], rfl, rfl⟩

theorem wholeMethod_text (method : MethodText)
    (hbegin : typeParameters fuel text = .ok (entries, method.text))
    (hfuel : 2 * method.text.length + 2 ≤ fuel) :
    wholeMethod fuel text =
      .ok ((entries, method.parameters.map Prod.fst, method.result.1), []) := by
  obtain ⟨parameters, ⟨type, result⟩, throws, hparameters, hresult, hthrows⟩ := method
  simp only [MethodText.text, List.length_cons, List.length_append] at hbegin hfuel ⊢
  have hwithin : 2 * (parameters.flatMap Prod.snd ++ ')' ::
      (result ++ throws.flatMap fun p => '^' :: p.2)).length + 2 ≤ fuel := by
    simp only [List.length_append, List.length_cons]
    omega
  have hlist : parameterTypes fuel fuel (parameters.flatMap Prod.snd ++ ')' ::
      (result ++ throws.flatMap fun p => '^' :: p.2)) = .ok (parameters.map Prod.fst, ')' ::
      (result ++ throws.flatMap fun p => '^' :: p.2)) :=
    (parameterTypes_eq_ok_iff hwithin (by omega)).mpr
      ⟨parameters, rfl, rfl, hparameters, rfl⟩
  have htype : javaType fuel (result ++ throws.flatMap fun p => '^' :: p.2) =
      .ok (type, throws.flatMap fun p => '^' :: p.2) :=
    (javaType_eq_ok_iff (by rw [List.length_append]; omega)).mpr ⟨result, rfl, hresult⟩
  have hthrown : thrownTypes fuel fuel (throws.flatMap fun p => '^' :: p.2) =
      .ok (throws.map Prod.fst, []) :=
    (marked_eq_ok_iff (by omega) (by omega)).mpr
      ⟨throws, rfl, by simp, hthrows, by simp⟩
  unfold wholeMethod
  simp only [hbegin, ok_bind, expect_cons, hlist, htype, hthrown, finish_eq_ok_iff.mpr ⟨rfl, rfl⟩]

end Direct

end ApiSurface.Signature
