import ApiSurface.Proofs.SignatureGrammar

/-!
# Spelling types

The text that a type has in a signature, and the types that have one. A class type that is nothing
but a name which spells a primitive type, as in `Lint;`, is read as that primitive type; every
other text that is read is the spelling of what it is read as.
-/

namespace ApiSurface

namespace Signature

/-- The internal name of a class, with slashes between its packages. -/
def slashed (name : String) : List Char := name.toList.map fun c => if c = '.' then '/' else c

def primitiveCode : String → Option Char
  | "byte" => some 'B'
  | "char" => some 'C'
  | "double" => some 'D'
  | "float" => some 'F'
  | "int" => some 'I'
  | "long" => some 'J'
  | "short" => some 'S'
  | "boolean" => some 'Z'
  | "void" => some 'V'
  | _ => none

mutual
def spell : JavaType → List Char
  | .basic name =>
    match primitiveCode name with
    | some code => [code]
    | none => 'L' :: (slashed name ++ [';'])
  | .array element => '[' :: spell element
  | .parameterized base arguments =>
    'L' :: (spellClass base ++ '<' :: (spellAll arguments ++ ['>']) ++ [';'])
  | .var name => 'T' :: (name.toList ++ [';'])
  | .wildcard none none => ['*']
  | .wildcard upper lower => spellBound '+' upper ++ spellBound '-' lower
  | .inner outer name => 'L' :: (spellClass outer ++ '.' :: name.toList ++ [';'])

/-- A class type without the marks around it. -/
def spellClass : JavaType → List Char
  | .basic name => slashed name
  | .parameterized base arguments => spellClass base ++ '<' :: (spellAll arguments ++ ['>'])
  | .inner outer name => spellClass outer ++ '.' :: name.toList
  | .array _ | .var _ | .wildcard _ _ => []

def spellAll : List JavaType → List Char
  | [] => []
  | t :: types => spell t ++ spellAll types

def spellBound (mark : Char) : Option JavaType → List Char
  | none => []
  | some bound => mark :: spell bound
end

def spellAt : Place → JavaType → List Char
  | .stem, t | .classType, t => spellClass t
  | .reference, t | .type, t | .argument, t => spell t

/-- The JVM spelling of a type. -/
def spelling (t : JavaType) : String := String.ofList (spell t)

/-! ## Names -/

theorem dotted_ofList (name : List Char) :
    dotted (String.ofList name) = String.ofList (name.map fun c => if c = '/' then '.' else c) := by
  rw [← String.toList_inj]
  simp [dotted]

theorem dotted_slashed {name : String} (h : '/' ∉ name.toList) :
    dotted (String.ofList (slashed name)) = name := by
  have hback : (slashed name).map (fun c => if c = '/' then '.' else c) = name.toList := by
    rw [slashed, List.map_map]
    conv_rhs => rw [← List.map_id name.toList]
    refine List.map_congr_left fun c hc => ?_
    have hne : c ≠ '/' := fun e => h (e ▸ hc)
    by_cases hdot : c = '.' <;> simp [hdot, hne]
  rw [dotted_ofList, hback, String.ofList_toList]

theorem slashed_dotted {name : List Char} (h : '.' ∉ name) :
    slashed (dotted (String.ofList name)) = name := by
  rw [dotted_ofList, slashed, String.toList_ofList, List.map_map]
  conv_rhs => rw [← List.map_id name]
  refine List.map_congr_left fun c hc => ?_
  have hne : c ≠ '.' := fun e => h (e ▸ hc)
  by_cases hslash : c = '/' <;> simp [hslash, hne]

theorem isName_slashed {name : String} (h : IsName ['/', '<', ';'] name.toList) :
    IsName ['<', '.', ';'] (slashed name) := by
  refine ⟨by simpa [slashed] using h.1, ?_⟩
  intro c hc
  obtain ⟨d, hd, rfl⟩ := List.mem_map.mp hc
  have hnot := h.2 d hd
  by_cases hdot : d = '.' <;> simp_all

theorem isName_dotted {name : List Char} (h : IsName ['<', '.', ';'] name) :
    IsName ['/', '<', ';'] (dotted (String.ofList name)).toList := by
  rw [dotted_ofList, String.toList_ofList]
  refine ⟨by simpa using h.1, ?_⟩
  intro c hc
  obtain ⟨d, hd, rfl⟩ := List.mem_map.mp hc
  have hnot := h.2 d hd
  by_cases hslash : d = '/' <;> simp_all

theorem primitiveCode_eq_some_iff {name : String} {code : Char} :
    primitiveCode name = some code ↔ primitiveName code = some name := by
  constructor
  · intro h
    unfold primitiveCode at h
    split at h <;> cases h <;> rfl
  · intro h
    unfold primitiveName at h
    split at h <;> cases h <;> rfl

theorem primitiveCode_eq_none_iff {name : String} :
    primitiveCode name = none ↔ name ∉ JavaType.primitiveNames := by
  unfold primitiveCode
  split <;> simp_all [JavaType.primitiveNames, JavaType.numberNames, JavaType.integralNames]

theorem mem_primitiveNames {name : String} {code : Char} (h : primitiveName code = some name) :
    name ∈ JavaType.primitiveNames := by
  unfold primitiveName at h
  split at h <;> cases h <;> decide

theorem spellAll_eq (types : List JavaType) : spellAll types = types.flatMap spell := by
  induction types with
  | nil => rfl
  | cons t types ih => rw [spellAll, ih, List.flatMap_cons]

end Signature

open Signature

/-! ## Types that have a spelling -/

/-- What a type is like that stands at some place of a signature. Class types that are nothing but
a name may have the names that `raw` allows. -/
inductive JavaType.Fits (raw : String → Prop) : Place → JavaType → Prop where
  | basic {name : String} : IsName ['/', '<', ';'] name.toList → Fits raw .stem (.basic name)
  | inner {outer : JavaType} {name : String} : Fits raw .classType outer →
      IsName ['<', '.', ';'] name.toList → Fits raw .stem (.inner outer name)
  | raw {t : JavaType} : Fits raw .stem t → Fits raw .classType t
  | generic {base : JavaType} {arguments : List JavaType} : Fits raw .stem base →
      arguments ≠ [] → (∀ a ∈ arguments, Fits raw .argument a) →
      Fits raw .classType (.parameterized base arguments)
  | ofClass {t : JavaType} : Fits raw .classType t → (∀ name ∈ t.asBasic, raw name) →
      Fits raw .reference t
  | var {name : String} : IsName [';'] name.toList → Fits raw .reference (.var name)
  | array {element : JavaType} : Fits raw .type element → Fits raw .reference (.array element)
  | primitive {name : String} : name ∈ JavaType.primitiveNames → Fits raw .type (.basic name)
  | ofReference {t : JavaType} : Fits raw .reference t → Fits raw .type t
  | unbounded : Fits raw .argument (.wildcard none none)
  | upper {t : JavaType} : Fits raw .reference t → Fits raw .argument (.wildcard (some t) none)
  | lower {t : JavaType} : Fits raw .reference t → Fits raw .argument (.wildcard none (some t))
  | exact {t : JavaType} : Fits raw .reference t → Fits raw .argument t

/-- A type of a signature, in which the names of primitive types stand for these only. -/
def JavaType.WellFormed (place : Place) (t : JavaType) : Prop :=
  t.Fits (fun name => name ∉ primitiveNames) place

namespace Signature

section

variable {raw : String → Prop} {place : Place} {t : JavaType}

/-- Around a class type stand its marks, unless it is the name of a primitive type. -/
theorem spell_of_class (h : t.Fits raw .classType)
    (hraw : ∀ name ∈ t.asBasic, name ∉ JavaType.primitiveNames) :
    spell t = 'L' :: (spellClass t ++ [';']) := by
  cases h with
  | raw hstem =>
    cases hstem with
    | basic hname =>
      rw [spell, primitiveCode_eq_none_iff.mpr (hraw _ rfl), spellClass]
    | inner houter hname => simp [spell, spellClass]
  | generic hbase hne harguments => simp [spell, spellClass]

/-- The spelling of a well-formed type is one in the grammar, by induction on its form. -/
theorem spelled_of_wellFormed (h : t.WellFormed place) : Spelled place t (spellAt place t) := by
  unfold JavaType.WellFormed at h
  induction h with
  | basic hname =>
    have hspelled := Spelled.basic (isName_slashed hname)
    rwa [dotted_slashed fun hslash => hname.2 '/' hslash (by simp)] at hspelled
  | inner _ hname ih =>
    simpa [spellAt, spellClass] using Spelled.inner ih hname
  | raw _ ih => exact .raw ih
  | @generic base arguments _ hne _ ih ihs =>
    have harguments : ∀ a ∈ arguments.map fun a => (a, spell a), Spelled .argument a.1 a.2 :=
      List.forall_mem_map.mpr ihs
    have hspelled := Spelled.generic ih (by simpa using hne) harguments
    simpa [spellAt, spellClass, spellAll_eq, Function.comp_def, List.flatMap_map] using hspelled
  | ofClass hclass hraw ih =>
    rw [spellAt, spell_of_class hclass hraw]
    exact .ofClass ih
  | var hname => simpa [spellAt, spell] using Spelled.var hname
  | array _ ih => exact .array ih
  | @primitive name hname =>
    cases hcode : primitiveCode name with
    | none => exact absurd hname (primitiveCode_eq_none_iff.mp hcode)
    | some code =>
      rw [spellAt, spell, hcode]
      exact .primitive (primitiveCode_eq_some_iff.mp hcode)
  | ofReference _ ih => exact .ofReference ih
  | unbounded => exact .unbounded
  | upper _ ih => simpa [spellAt, spell, spellBound] using Spelled.upper ih
  | lower _ ih => simpa [spellAt, spell, spellBound] using Spelled.lower ih
  | exact _ ih => exact .exact ih

end

/-! ## Class types that are nothing but a name -/

/-- Where in a signature a character stands: between names, or in the name of a class, of which
this much has passed, of a member class or of a type variable. -/
inductive Scan where
  | between
  | className (passed : List Char)
  | memberName
  | variableName
  deriving DecidableEq, Repr

namespace Scan

def next : Scan → Char → Scan
  | between, c =>
    if c = 'L' then className [] else if c = 'T' then variableName
    else if c = '.' then memberName else between
  | className passed, c =>
    if c = ';' ∨ c = '<' then between else if c = '.' then memberName
    else className (passed ++ [c])
  | memberName, c => if c = ';' ∨ c = '<' then between else memberName
  | variableName, c => if c = ';' then between else variableName

/-- The class whose name ends here and which has neither arguments nor members. -/
def ended : Scan → Char → Option String
  | className passed, c => if c = ';' then some (dotted (String.ofList passed)) else none
  | _, _ => none

def after (scan : Scan) (text : List Char) : Scan := text.foldl next scan

def names : Scan → List Char → List String
  | _, [] => []
  | scan, c :: text => (scan.ended c).toList ++ (scan.next c).names text

variable {scan : Scan} {text more name : List Char} {c : Char}

@[simp] theorem ended_between (c : Char) : between.ended c = none := rfl

@[simp] theorem after_nil : scan.after [] = scan := rfl

@[simp] theorem after_cons : scan.after (c :: text) = (scan.next c).after text := rfl

@[simp] theorem after_append : scan.after (text ++ more) = (scan.after text).after more :=
  List.foldl_append

@[simp] theorem names_append :
    scan.names (text ++ more) = scan.names text ++ (scan.after text).names more := by
  induction text generalizing scan with
  | nil => rfl
  | cons c text ih => simp [names, ih]

theorem className_name (h : ∀ c ∈ name, c ∉ ['<', '.', ';']) (passed : List Char) :
    (className passed).after name = className (passed ++ name) ∧
      (className passed).names name = [] := by
  induction name generalizing passed with
  | nil => simp [names]
  | cons c name ih =>
    obtain ⟨hc, hname⟩ := List.forall_mem_cons.mp h
    obtain ⟨hafter, hnames⟩ := ih hname (passed ++ [c])
    simp_all [next, names, ended]

theorem stays (h : ∀ c ∈ name, scan.next c = scan ∧ scan.ended c = none) :
    scan.after name = scan ∧ scan.names name = [] := by
  induction name with
  | nil => exact ⟨rfl, rfl⟩
  | cons c name ih =>
    obtain ⟨⟨hnext, hended⟩, hname⟩ := List.forall_mem_cons.mp h
    obtain ⟨hafter, hnames⟩ := ih hname
    simp [hnext, hafter, names, hended, hnames]

theorem memberName_name (h : ∀ c ∈ name, c ∉ ['<', '.', ';']) :
    memberName.after name = memberName ∧ memberName.names name = [] := by
  refine stays fun c hc => ⟨?_, rfl⟩
  have hmark := h c hc
  rw [next, if_neg]
  rintro (rfl | rfl) <;> simp at hmark

theorem variableName_name (h : ∀ c ∈ name, c ∉ [';']) :
    variableName.after name = variableName ∧ variableName.names name = [] := by
  refine stays fun c hc => ⟨?_, rfl⟩
  have hmark := h c hc
  rw [next, if_neg]
  rintro rfl
  simp at hmark

/-- Behind a part of a class type, of which only a name without more is still to be told. -/
def Behind (scan : Scan) (t : JavaType) : Prop :=
  scan ≠ variableName ∧ scan.ended ';' = t.asBasic

variable {t : JavaType}

theorem Behind.member (h : scan.Behind t) : scan.next '.' = memberName ∧ scan.ended '.' = none := by
  cases scan with
  | variableName => exact absurd rfl h.1
  | between | className _ | memberName => simp [next, ended]

theorem Behind.arguments (h : scan.Behind t) :
    scan.next '<' = between ∧ scan.ended '<' = none := by
  cases scan with
  | variableName => exact absurd rfl h.1
  | between | className _ | memberName => simp [next, ended]

theorem Behind.close (h : scan.Behind t) :
    scan.next ';' = between ∧ scan.ended ';' = t.asBasic := by
  refine ⟨?_, h.2⟩
  cases scan with
  | variableName => exact absurd rfl h.1
  | between | className _ | memberName => simp [next]

/-- Where a part of a spelling starts. -/
def start : Place → Scan
  | .stem | .classType => className []
  | .reference | .type | .argument => between

/-- A spelling has been passed. -/
def Passed (scan : Scan) (t : JavaType) : Place → Prop
  | .stem | .classType => scan.Behind t
  | .reference | .type | .argument => scan = between

theorem between_flatMap {arguments : List (JavaType × List Char)}
    (h : ∀ a ∈ arguments, between.after a.2 = between) :
    between.after (arguments.flatMap Prod.snd) = between ∧
      between.names (arguments.flatMap Prod.snd) =
        arguments.flatMap fun a => between.names a.2 := by
  induction arguments with
  | nil => exact ⟨rfl, rfl⟩
  | cons a arguments ih =>
    obtain ⟨ha, harguments⟩ := List.forall_mem_cons.mp h
    obtain ⟨hafter, hnames⟩ := ih harguments
    simp [ha, hafter, hnames]

theorem next_of_primitive {primitive : String} (h : primitiveName c = some primitive) :
    between.next c = between := by
  unfold primitiveName at h
  split at h <;> first | rfl | cases h

/-- Passing a spelling leads out of it, by induction on the spelling. -/
theorem passed_of_spelled {place : Place} (h : Spelled place t text) :
    ((start place).after text).Passed t place := by
  induction h with
  | basic hname =>
    obtain ⟨hafter, -⟩ := className_name hname.2 []
    simp [start, Passed, Behind, hafter, ended, JavaType.asBasic]
  | @inner outer text name _ hname ih =>
    obtain ⟨hnext, -⟩ := Behind.member ih
    have hend : (start .stem).after (text ++ '.' :: name) = memberName := by
      rw [after_append, after_cons]
      exact (congrArg (after · name) hnext).trans (memberName_name hname.2).1
    rw [hend]
    exact ⟨by simp, rfl⟩
  | raw _ ih => exact ih
  | @generic base text arguments _ _ _ ih ihs =>
    obtain ⟨hnext, -⟩ := Behind.arguments ih
    have hend : (start .classType).after (text ++ '<' :: (arguments.flatMap Prod.snd ++ ['>'])) =
        between := by
      rw [after_append, after_cons, after_append]
      exact congrArg (after · ['>'])
        ((congrArg (after · _) hnext).trans (between_flatMap ihs).1)
    rw [hend]
    exact ⟨by simp, rfl⟩
  | ofClass _ ih => simpa [start, Passed, next] using ih.close.1
  | var hname =>
    obtain ⟨hafter, -⟩ := variableName_name hname.2
    simp [start, Passed, next, hafter]
  | array _ ih => exact ih
  | primitive hprimitive => exact next_of_primitive hprimitive
  | ofReference _ ih => exact ih
  | unbounded => rfl
  | upper _ ih => exact ih
  | lower _ ih => exact ih
  | exact _ ih => exact ih

variable {outer element : JavaType}

theorem names_inner (h : Spelled .classType outer text) (hname : IsName ['<', '.', ';'] name) :
    (start .stem).names (text ++ '.' :: name) = (start .classType).names text := by
  obtain ⟨hnext, hended⟩ := Behind.member (passed_of_spelled h)
  show (start .classType).names _ = _
  rw [names_append, names, hnext, hended, (memberName_name hname.2).2]
  simp

theorem names_generic {arguments : List (JavaType × List Char)} (h : Spelled .stem outer text)
    (harguments : ∀ a ∈ arguments, Spelled .argument a.1 a.2) :
    (start .classType).names (text ++ '<' :: (arguments.flatMap Prod.snd ++ ['>'])) =
      (start .stem).names text ++ arguments.flatMap fun a => (start .argument).names a.2 := by
  obtain ⟨hnext, hended⟩ := Behind.arguments (passed_of_spelled h)
  obtain ⟨hafter, hnames⟩ := between_flatMap fun a ha => passed_of_spelled (harguments a ha)
  show (start .stem).names _ = _
  rw [names_append, names, hnext, hended, names_append, hafter, hnames]
  simp [names, start]

theorem names_ofClass (h : Spelled .classType t text) :
    (start .reference).names ('L' :: (text ++ [';'])) =
      (start .classType).names text ++ t.asBasic.toList := by
  obtain ⟨-, hended⟩ := Behind.close (passed_of_spelled h)
  show [] ++ (start .classType).names _ = _
  rw [List.nil_append, names_append, names, hended]
  simp [names]

end Scan

/-- The names of the class types of a signature that are nothing but a name. -/
def rawClassNames (text : String) : List String := Scan.between.names text.toList

/-- Neither a class with arguments or members nor a type variable counts. -/
example : rawClassNames "La/Lint<TLint;[Lint;>.int;" = ["int"] := by decide +kernel

section

variable {raw : String → Prop} {place : Place} {t : JavaType} {text : List Char}

/-- Whatever is spelled fits its place, by induction on the spelling. -/
theorem fits_of_spelled (h : Spelled place t text)
    (hraw : ∀ name ∈ (Scan.start place).names text, raw name) : t.Fits raw place := by
  induction h with
  | basic hname => exact .basic (isName_dotted hname)
  | inner houter hname ih =>
    rw [Scan.names_inner houter hname] at hraw
    exact .inner (ih hraw) (by simpa using hname)
  | raw _ ih => exact .raw (ih hraw)
  | generic hbase hne harguments ih ihs =>
    rw [Scan.names_generic hbase harguments] at hraw
    obtain ⟨hstem, hrest⟩ := List.forall_mem_append.mp hraw
    refine .generic (ih hstem) (by simpa using hne) ?_
    refine List.forall_mem_map.mpr fun a ha => ihs a ha fun name hname => hrest name ?_
    exact List.mem_flatMap.mpr ⟨a, ha, hname⟩
  | ofClass hclass ih =>
    rw [Scan.names_ofClass hclass] at hraw
    obtain ⟨hwithin, hwhole⟩ := List.forall_mem_append.mp hraw
    exact .ofClass (ih hwithin) fun name hname => hwhole name (Option.mem_toList.mpr hname)
  | var hname => exact .var (by simpa using hname)
  | array _ ih => exact .array (ih hraw)
  | primitive hprimitive => exact .primitive (mem_primitiveNames hprimitive)
  | ofReference _ ih => exact .ofReference (ih hraw)
  | unbounded => exact .unbounded
  | upper _ ih => exact .upper (ih hraw)
  | lower _ ih => exact .lower (ih hraw)
  | exact _ ih => exact .exact (ih hraw)

/-- What is spelled without class types of primitive names is spelled in the one way there is. -/
theorem eq_spellAt (h : Spelled place t text)
    (hraw : ∀ name ∈ (Scan.start place).names text, name ∉ JavaType.primitiveNames) :
    text = spellAt place t := by
  induction h with
  | basic hname => exact (slashed_dotted fun hdot => hname.2 '.' hdot (by simp)).symm
  | inner houter hname ih =>
    rw [Scan.names_inner houter hname] at hraw
    simpa [spellAt, spellClass] using ih hraw
  | raw _ ih => exact ih hraw
  | @generic base text arguments hbase hne harguments ih ihs =>
    rw [Scan.names_generic hbase harguments] at hraw
    obtain ⟨hstem, hrest⟩ := List.forall_mem_append.mp hraw
    have heach : ∀ a ∈ arguments, a.2 = spell a.1 := fun a ha =>
      ihs a ha fun name hname => hrest name (List.mem_flatMap.mpr ⟨a, ha, hname⟩)
    have hall : arguments.flatMap Prod.snd = spellAll (arguments.map Prod.fst) := by
      rw [spellAll_eq, List.flatMap_map]
      exact List.flatMap_congr heach
    have hbegin : text = spellClass base := ih hstem
    rw [hall, hbegin]
    rfl
  | ofClass hclass ih =>
    have hfits := fits_of_spelled hclass fun _ _ => trivial
    rw [Scan.names_ofClass hclass] at hraw
    obtain ⟨hwithin, hwhole⟩ := List.forall_mem_append.mp hraw
    have hmarked := spell_of_class hfits fun name hname =>
      hwhole name (Option.mem_toList.mpr hname)
    rw [spellAt, hmarked, ih hwithin]
    rfl
  | var hname => simp [spellAt, spell]
  | array _ ih => simpa [spellAt, spell] using ih hraw
  | primitive hprimitive =>
    rw [spellAt, spell, primitiveCode_eq_some_iff.mpr hprimitive]
  | ofReference _ ih => exact ih hraw
  | unbounded => rfl
  | upper _ ih => simpa [spellAt, spell, spellBound] using ih hraw
  | lower _ ih => simpa [spellAt, spell, spellBound] using ih hraw
  | exact _ ih => exact ih hraw

end

/-! ## What is read -/

/-- No class type is nothing but a name that spells a primitive type. -/
def PlainlyNamed (text : String) : Prop :=
  ∀ name ∈ rawClassNames text, name ∉ JavaType.primitiveNames

instance (text : String) : Decidable (PlainlyNamed text) :=
  inferInstanceAs (Decidable (∀ name ∈ rawClassNames text, name ∉ JavaType.primitiveNames))

section

variable {text more other : String} {t u : JavaType}

theorem fits_of_parseType (h : parseType text = .ok t) : t.Fits (fun _ => True) .type :=
  fits_of_spelled (parseType_eq_ok_iff.mp h) fun _ _ => trivial

/-- Nothing may follow a type. -/
theorem parseType_append_ne (h : parseType text = .ok t) (hmore : more ≠ "") (u : JavaType) :
    parseType (text ++ more) ≠ .ok u := by
  intro h'
  have hspelled := parseType_eq_ok_iff.mp h
  have hspelled' := parseType_eq_ok_iff.mp h'
  have hsame : text.toList ++ more.toList = (text ++ more).toList ++ [] := by simp
  obtain ⟨-, -, hrest⟩ := hspelled.unique hspelled' hsame
  exact hmore (String.toList_inj.mp hrest)

theorem parseType_eq_ok_iff_spelling (hplain : PlainlyNamed text) :
    parseType text = .ok t ↔ t.WellFormed .type ∧ spelling t = text := by
  rw [parseType_eq_ok_iff]
  constructor
  · intro hspelled
    refine ⟨fits_of_spelled hspelled hplain, ?_⟩
    have htext : text.toList = spell t := eq_spellAt hspelled hplain
    rw [spelling, ← htext, String.ofList_toList]
  · rintro ⟨hform, rfl⟩
    rw [spelling, String.toList_ofList]
    exact spelled_of_wellFormed hform

end

/-- A text is read as a type exactly if it is spelled by the grammar of types, from its first
character to its last. What is read is a type of a signature, and, unless the name of a primitive
type stands for a class, the text is the one spelling of it. -/
theorem parseType_exact (text : String) :
    (∀ t, parseType text = .ok t ↔ Spelled .type t text.toList) ∧
      (∀ t, parseType text = .ok t → t.Fits (fun _ => True) .type) ∧
      (∀ t more u, parseType text = .ok t → more ≠ "" → parseType (text ++ more) ≠ .ok u) ∧
      (PlainlyNamed text → ∀ t, parseType text = .ok t ↔ t.WellFormed .type ∧ spelling t = text) ∧
      ∀ t other, PlainlyNamed text → PlainlyNamed other → text ≠ other →
        parseType text = .ok t → parseType other ≠ .ok t := by
  refine ⟨fun t => parseType_eq_ok_iff, fun t => fits_of_parseType,
    fun t more u hread hmore => parseType_append_ne hread hmore u,
    fun hplain t => parseType_eq_ok_iff_spelling hplain, ?_⟩
  intro t other hplain hplain' hne hread hread'
  obtain ⟨-, hspelling⟩ := (parseType_eq_ok_iff_spelling hplain).mp hread
  obtain ⟨-, hspelling'⟩ := (parseType_eq_ok_iff_spelling hplain').mp hread'
  exact hne (hspelling.symm.trans hspelling')

/-- Arguments, an array and a member class, behind a class whose name ends as a primitive's. -/
theorem parseType_exact_member :
    let text := "La/Lint<TK;+[I>.Entry;"
    let t := JavaType.inner (.parameterized (.basic "a.Lint")
      [.var "K", .wildcard (some (.array (.basic "int"))) none]) "Entry"
    parseType text = .ok t ∧ PlainlyNamed text ∧ Spelled .type t text.toList ∧
      t.Fits (fun _ => True) .type ∧ parseType (text ++ "I") ≠ .ok t ∧ t.WellFormed .type ∧
      spelling t = text ∧ parseType "La/Lint;" ≠ .ok t := by
  intro text t
  have hread : parseType text = .ok t := by decide +kernel
  have hplain : PlainlyNamed text := by decide +kernel
  obtain ⟨hexact, hfits, hend, hspelling, hunique⟩ := parseType_exact text
  obtain ⟨hform, htext⟩ := (hspelling hplain t).mp hread
  exact ⟨hread, hplain, (hexact t).mp hread, hfits t hread, hend t "I" t hread (by decide), hform,
    htext, hunique t "La/Lint;" hplain (by decide +kernel) (by decide) hread⟩

/-- The array of a class is read, and spelled as the array of a primitive type. -/
example : ¬ PlainlyNamed "[Lint;" ∧ (parseType "[Lint;").map spelling = .ok "[I" := by
  decide +kernel

end Signature
end ApiSurface
