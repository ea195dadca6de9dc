import ApiSurface.Proofs.NodeTypes

/-!
# Reading in one pass

The productions of the grammar once more, but each gives types at once instead of nodes. Reading
into nodes and building the types of the nodes afterwards comes to the same: the same texts are
read, with the same types, and where reading fails it fails at the same place for the same reason.
-/

namespace ApiSurface.Signature

namespace Direct

def fail {α : Type} (text : List Char) (cause : SignatureFault) : Except Fault (α × List Char) :=
  .error ⟨text, cause⟩

def expect (wanted : Char) (text : List Char) : Except Fault (Unit × List Char) :=
  match text.head? with
  | none => fail text .endOfText
  | some c =>
    if c = wanted then .ok ((), text.tail) else fail text (.expected wanted (firstByte c))

def identifier (terminators : List Char) (text : List Char) : Except Fault (String × List Char) :=
  match text.span (fun c => !terminators.contains c) with
  | ([], _) => fail text .identifierExpected
  | (name, rest) => .ok (String.ofList name, rest)

mutual
def javaType : Nat → List Char → Except Fault (JavaType × List Char)
  | 0, text => fail text .endOfText
  | fuel + 1, text =>
    match text.head? with
    | none => fail text .endOfText
    | some c =>
      if c = 'L' ∨ c = 'T' ∨ c = '[' then referenceType fuel text
      else match primitiveName c with
        | none => fail text (.unknownTypeCode (firstByte c))
        | some name => .ok (.basic name, text.tail)

def referenceType : Nat → List Char → Except Fault (JavaType × List Char)
  | 0, text => fail text .endOfText
  | fuel + 1, text =>
    match text.head? with
    | none => fail text .endOfText
    | some 'L' => classType fuel text.tail
    | some 'T' => do
      let (name, rest) ← identifier [';'] text.tail
      let (_, rest) ← expect ';' rest
      .ok (.var name, rest)
    | some '[' => do
      let (element, rest) ← javaType fuel text.tail
      .ok (.array element, rest)
    | some c => fail text (.referenceTypeExpected (firstByte c))

def classType : Nat → List Char → Except Fault (JavaType × List Char)
  | 0, text => fail text .endOfText
  | fuel + 1, text => do
    let (name, rest) ← identifier ['<', '.', ';'] text
    let (outer, rest) ← withTypeArguments fuel (.basic (dotted name)) rest
    let (type, rest) ← memberClasses fuel outer rest
    let (_, rest) ← expect ';' rest
    .ok (type, rest)

def memberClasses : Nat → JavaType → List Char → Except Fault (JavaType × List Char)
  | 0, _, text => fail text .endOfText
  | fuel + 1, outer, text =>
    if text.head? = some '.' then do
      let (name, rest) ← identifier ['<', '.', ';'] text.tail
      let (outer, rest) ← withTypeArguments fuel (.inner outer name) rest
      memberClasses fuel outer rest
    else .ok (outer, text)

def withTypeArguments : Nat → JavaType → List Char → Except Fault (JavaType × List Char)
  | 0, _, text => fail text .endOfText
  | fuel + 1, base, text =>
    if text.head? = some '<' then do
      let (arguments, rest) ← typeArguments fuel text.tail
      let (_, rest) ← expect '>' rest
      if arguments.isEmpty then fail rest .noTypeArguments
      else .ok (.parameterized base arguments, rest)
    else .ok (base, text)

def typeArguments : Nat → List Char → Except Fault (List JavaType × List Char)
  | 0, text => fail text .endOfText
  | fuel + 1, text =>
    if text.head? = some '>' then .ok ([], text)
    else do
      let (argument, rest) ← typeArgument fuel text
      let (arguments, rest) ← typeArguments fuel rest
      .ok (argument :: arguments, rest)

def typeArgument : Nat → List Char → Except Fault (JavaType × List Char)
  | 0, text => fail text .endOfText
  | fuel + 1, text =>
    match text.head? with
    | some '*' => .ok (.wildcard none none, text.tail)
    | some '+' => do
      let (bound, rest) ← referenceType fuel text.tail
      .ok (.wildcard (some bound) none, rest)
    | some '-' => do
      let (bound, rest) ← referenceType fuel text.tail
      .ok (.wildcard none (some bound), rest)
    | _ => referenceType fuel text
end

/-- Reads one part after another as long as the text goes on. -/
def many {α : Type} (goesOn : List Char → Prop) [DecidablePred goesOn]
    (part : List Char → Except Fault (α × List Char)) :
    Nat → List Char → Except Fault (List α × List Char)
  | 0, text => fail text .endOfText
  | steps + 1, text =>
    if goesOn text then do
      let (first, rest) ← part text
      let (others, rest) ← many goesOn part steps rest
      .ok (first :: others, rest)
    else .ok ([], text)

/-- Reads reference types, each behind a mark. -/
def marked (mark : Char) (fuel : Nat) :
    Nat → List Char → Except Fault (List JavaType × List Char) :=
  many (fun text => text.head? = some mark) fun text => referenceType fuel text.tail

def interfaceBounds (fuel : Nat) : Nat → List Char → Except Fault (List JavaType × List Char) :=
  marked ':' fuel

def typeParameter (fuel : Nat) (text : List Char) :
    Except Fault ((String × List JavaType) × List Char) := do
  let (name, rest) ← identifier [':'] text
  let (_, rest) ← expect ':' rest
  if rest.head? = some ':' ∨ rest.head? = some '>' then
    let (bounds, rest) ← interfaceBounds fuel fuel rest
    .ok ((name, bounds), rest)
  else
    let (classBound, rest) ← referenceType fuel rest
    let (bounds, rest) ← interfaceBounds fuel fuel rest
    .ok ((name, classBound :: bounds), rest)

def typeParameterList (fuel : Nat) :
    Nat → List Char → Except Fault (List (String × List JavaType) × List Char) :=
  many (fun text => text.head? ≠ some '>') (typeParameter fuel)

def typeParameters (fuel : Nat) (text : List Char) :
    Except Fault (List (String × List JavaType) × List Char) :=
  if text.head? = some '<' then do
    let (parameters, rest) ← typeParameterList fuel fuel text.tail
    let (_, rest) ← expect '>' rest
    if parameters.isEmpty then fail rest .noTypeParameters
    else .ok (parameters, rest)
  else .ok ([], text)

def interfaceTypes (fuel : Nat) : Nat → List Char → Except Fault (List JavaType × List Char) :=
  many (fun text => text ≠ []) (referenceType fuel)

def parameterTypes (fuel : Nat) : Nat → List Char → Except Fault (List JavaType × List Char) :=
  many (fun text => text.head? ≠ some ')') (javaType fuel)

def thrownTypes (fuel : Nat) : Nat → List Char → Except Fault (List JavaType × List Char) :=
  marked '^' fuel

def finish (text : List Char) : Except Fault (Unit × List Char) :=
  if text.head?.isSome then fail text .trailingText else .ok ((), text)

def wholeType (fuel : Nat) (text : List Char) : Except Fault (JavaType × List Char) := do
  let (type, rest) ← javaType fuel text
  let (_, rest) ← finish rest
  .ok (type, rest)

def wholeClass (fuel : Nat) (text : List Char) :
    Except Fault ((List (String × List JavaType) × JavaType × List JavaType) × List Char) := do
  let (parameters, rest) ← typeParameters fuel text
  let (superclass, rest) ← referenceType fuel rest
  let (interfaces, rest) ← interfaceTypes fuel fuel rest
  .ok ((parameters, superclass, interfaces), rest)

def wholeMethod (fuel : Nat) (text : List Char) :
    Except Fault ((List (String × List JavaType) × List JavaType × JavaType) × List Char) := do
  let (typeParameters, rest) ← typeParameters fuel text
  let (_, rest) ← expect '(' rest
  let (parameters, rest) ← parameterTypes fuel fuel rest
  let (_, rest) ← expect ')' rest
  let (returnType, rest) ← javaType fuel rest
  let (_, rest) ← thrownTypes fuel fuel rest
  let (_, rest) ← finish rest
  .ok ((typeParameters, parameters, returnType), rest)

/-- Reads a whole text. -/
def read {α : Type} (reader : Nat → List Char → Except Fault (α × List Char)) (text : String) :
    Except SurfaceError α :=
  match reader (fuelFor text.toList) text.toList with
  | .ok (value, _) => .ok value
  | .error fault => .error (fault.toError text)

end Direct

/-! ## Nodes follow types -/

/-- The two readings fail alike, or both succeed and leave the same text; then nodes have only been
added, and the nodes that are given have the types that are given. -/
def Follows {α β : Type} (R : Arena → α → β → Prop) (arena : Arena) :
    Except Fault (α × Cursor) → Except Fault (β × List Char) → Prop
  | .error fault, .error fault' => fault = fault'
  | .ok (a, cursor), .ok (b, rest) =>
    cursor.rest = rest ∧ cursor.arena.Ordered ∧ arena.GrowsTo cursor.arena ∧ R cursor.arena a b
  | _, _ => False

section

variable {α β γ δ : Type} {P : Arena → α → β → Prop} {R : Arena → γ → δ → Prop}
  {arena : Arena} {text : List Char} {node : Node} {type : JavaType}

theorem follows_fail (fault : Fault) : Follows P arena (.error fault) (.error fault) := rfl

theorem follows_ok {a : α} {b : β} (h : arena.Ordered) (hp : P arena a b) :
    Follows P arena (.ok (a, ⟨text, arena⟩)) (.ok (b, text)) :=
  ⟨rfl, h, .refl arena, hp⟩

/-- Nodes that were there at first are there in the end. -/
theorem Follows.of_growsTo {later : Arena} {run : Except Fault (γ × Cursor)}
    {direct : Except Fault (δ × List Char)} (hgrow : arena.GrowsTo later)
    (h : Follows R later run direct) : Follows R arena run direct := by
  cases run <;> cases direct
  · exact h
  · exact h
  · exact h
  · obtain ⟨hrest, hordered, hgrow', hr⟩ := h
    exact ⟨hrest, hordered, hgrow.trans hgrow', hr⟩

theorem Follows.map_right {S : Arena → α → δ → Prop} {run : Except Fault (α × Cursor)}
    {direct : Except Fault (β × List Char)} {f : β → δ} (h : Follows P arena run direct)
    (hf : ∀ later a b, P later a b → S later a (f b)) :
    Follows S arena run (direct >>= fun result => .ok (f result.1, result.2)) := by
  cases run <;> cases direct
  · exact h
  · exact h
  · exact h
  · obtain ⟨hrest, hordered, hgrow, hp⟩ := h
    exact ⟨hrest, hordered, hgrow, hf _ _ _ hp⟩

theorem follows_bind {reader : Reader α} {f : α → Reader γ}
    {direct : Except Fault (β × List Char)} {g : β × List Char → Except Fault (δ × List Char)}
    (h : Follows P arena (reader ⟨text, arena⟩) direct)
    (hf : ∀ a b rest later, later.Ordered → arena.GrowsTo later → P later a b →
      Follows R later (f a ⟨rest, later⟩) (g (b, rest))) :
    Follows R arena ((reader >>= f) ⟨text, arena⟩) (direct >>= g) := by
  rw [Reader.bind_apply]
  cases hread : reader ⟨text, arena⟩ with
  | error fault =>
    rw [hread] at h
    cases direct with
    | ok result => cases h
    | error fault' => exact h
  | ok result =>
    rw [hread] at h
    cases direct with
    | error fault => cases h
    | ok result' =>
      obtain ⟨a, ⟨rest, later⟩⟩ := result
      obtain ⟨b, rest'⟩ := result'
      obtain ⟨rfl, hordered, hgrow, hp⟩ := h
      exact (hf a b rest later hordered hgrow hp).of_growsTo hgrow

theorem follows_peek {f : Option Char → Reader γ} {direct : Except Fault (δ × List Char)}
    (h : Follows R arena (f text.head? ⟨text, arena⟩) direct) :
    Follows R arena ((Reader.peek >>= f) ⟨text, arena⟩) direct := h

theorem follows_skip {f : Unit → Reader γ} {direct : Except Fault (δ × List Char)}
    (h : Follows R arena (f () ⟨text.tail, arena⟩) direct) :
    Follows R arena ((Reader.skip >>= f) ⟨text, arena⟩) direct := h

theorem follows_alloc (h : arena.Ordered) (hchildren : ∀ child ∈ node.children, child < arena.size)
    (htype : node.typeFrom arena.materialize = type) :
    Follows Arena.Shows arena (Reader.alloc node ⟨text, arena⟩) (.ok (type, text)) :=
  ⟨rfl, h.alloc hchildren, Arena.growsTo_alloc arena node, htype ▸ Arena.shows_alloc h hchildren⟩

theorem follows_alloc_bind {f : NodeId → Reader γ} {direct : Except Fault (δ × List Char)}
    (node : Node) (h : arena.Ordered) (hchildren : ∀ child ∈ node.children, child < arena.size)
    (htype : node.typeFrom arena.materialize = type)
    (hf : ∀ id later, later.Ordered → arena.GrowsTo later → later.Shows id type →
      Follows R later (f id ⟨text, later⟩) direct) :
    Follows R arena ((Reader.alloc node >>= f) ⟨text, arena⟩) direct := by
  have hid := Arena.shows_alloc h hchildren
  have hgrow := Arena.growsTo_alloc arena node
  exact (hf arena.size _ (h.alloc hchildren) hgrow (htype ▸ hid)).of_growsTo hgrow

theorem follows_expect (wanted : Char) (h : arena.Ordered) :
    Follows (fun _ _ _ => True) arena (Reader.expect wanted ⟨text, arena⟩)
      (Direct.expect wanted text) := by
  refine follows_peek ?_
  unfold Direct.expect
  cases text.head? with
  | none => exact follows_fail _
  | some c =>
    simp only
    split_ifs
    · exact ⟨rfl, h, .refl arena, trivial⟩
    · exact follows_fail _

theorem follows_identifier (terminators : List Char) (h : arena.Ordered) :
    Follows (fun _ => Eq) arena (Reader.identifier terminators ⟨text, arena⟩)
      (Direct.identifier terminators text) := by
  unfold Reader.identifier Direct.identifier
  rcases text.span fun c => !terminators.contains c with ⟨name, rest⟩
  cases name with
  | nil => exact follows_fail _
  | cons c name => exact ⟨rfl, h, .refl arena, rfl⟩

theorem follows_finish (h : arena.Ordered) :
    Follows (fun _ _ _ => True) arena (Reader.finish ⟨text, arena⟩) (Direct.finish text) := by
  refine follows_peek ?_
  unfold Direct.finish
  split_ifs
  · exact follows_fail _
  · exact follows_ok h trivial

end

/-! ## Productions -/

/-- Each production of the grammar of types, read with the same fuel, gives nodes of the types that
the direct reading gives. -/
structure Agree (fuel : Nat) : Prop where
  javaType : ∀ (arena : Arena) text, arena.Ordered →
    Follows Arena.Shows arena (javaType fuel ⟨text, arena⟩) (Direct.javaType fuel text)
  referenceType : ∀ (arena : Arena) text, arena.Ordered →
    Follows Arena.Shows arena (referenceType fuel ⟨text, arena⟩) (Direct.referenceType fuel text)
  classType : ∀ (arena : Arena) text, arena.Ordered →
    Follows Arena.Shows arena (classType fuel ⟨text, arena⟩) (Direct.classType fuel text)
  memberClasses : ∀ (arena : Arena) text id type, arena.Ordered → arena.Shows id type →
    Follows Arena.Shows arena (memberClasses fuel id ⟨text, arena⟩)
      (Direct.memberClasses fuel type text)
  withTypeArguments : ∀ (arena : Arena) text id type, arena.Ordered → arena.Shows id type →
    Follows Arena.Shows arena (withTypeArguments fuel id ⟨text, arena⟩)
      (Direct.withTypeArguments fuel type text)
  typeArguments : ∀ (arena : Arena) text, arena.Ordered →
    Follows Arena.ShowsAll arena (typeArguments fuel ⟨text, arena⟩)
      (Direct.typeArguments fuel text)
  typeArgument : ∀ (arena : Arena) text, arena.Ordered →
    Follows Arena.Shows arena (typeArgument fuel ⟨text, arena⟩) (Direct.typeArgument fuel text)

section

variable {fuel : Nat} (h : Agree fuel) {arena : Arena} (text : List Char) (ha : arena.Ordered)

include h ha

theorem follows_javaType :
    Follows Arena.Shows arena (javaType (fuel + 1) ⟨text, arena⟩)
      (Direct.javaType (fuel + 1) text) := by
  refine follows_peek ?_
  unfold Direct.javaType
  cases text.head? with
  | none => exact follows_fail _
  | some c =>
    simp only
    split_ifs
    · exact h.referenceType arena text ha
    · cases primitiveName c with
      | none => exact follows_fail _
      | some name => exact follows_skip (follows_alloc ha (by simp [Node.children]) rfl)

theorem follows_referenceType :
    Follows Arena.Shows arena (referenceType (fuel + 1) ⟨text, arena⟩)
      (Direct.referenceType (fuel + 1) text) := by
  refine follows_peek ?_
  unfold Direct.referenceType
  split
  · rename_i hnext
    rw [hnext]
    exact follows_fail _
  · rename_i hnext
    rw [hnext]
    exact follows_skip (h.classType arena text.tail ha)
  · rename_i hnext
    rw [hnext]
    refine follows_skip (follows_bind (follows_identifier [';'] ha) ?_)
    rintro name _ rest later hlater - rfl
    refine follows_bind (follows_expect ';' hlater) fun _ _ rest last hlast _ _ => ?_
    exact follows_alloc hlast (by simp [Node.children]) rfl
  · rename_i hnext
    rw [hnext]
    refine follows_skip (follows_bind (h.javaType arena text.tail ha) ?_)
    intro element type rest later hlater _ helement
    exact follows_alloc hlater (by simpa [Node.children] using helement.inRange)
      (congrArg _ helement.type_eq)
  · rename_i c hclass hvar harray hnext
    rw [hnext]
    simp only
    exact follows_fail _

theorem follows_classType :
    Follows Arena.Shows arena (classType (fuel + 1) ⟨text, arena⟩)
      (Direct.classType (fuel + 1) text) := by
  unfold Direct.classType
  refine follows_bind (follows_identifier ['<', '.', ';'] ha) ?_
  rintro name _ rest named hnamed - rfl
  refine follows_alloc_bind (.basic (dotted name)) hnamed (by simp [Node.children]) rfl
    fun base based hbased _ hbase => ?_
  refine follows_bind (h.withTypeArguments based rest base _ hbased hbase)
    fun outer _ rest given hgiven _ houter => ?_
  refine follows_bind (h.memberClasses given rest outer _ hgiven houter)
    fun id type rest closed hclosed _ hid => ?_
  refine follows_bind (follows_expect ';' hclosed) fun _ _ rest done hdone hgrow _ => ?_
  exact follows_ok hdone (hid.mono hclosed hgrow)

theorem follows_memberClasses {id : NodeId} {type : JavaType} (hid : arena.Shows id type) :
    Follows Arena.Shows arena (memberClasses (fuel + 1) id ⟨text, arena⟩)
      (Direct.memberClasses (fuel + 1) type text) := by
  refine follows_peek ?_
  unfold Direct.memberClasses
  split_ifs
  · refine follows_skip (follows_bind (follows_identifier ['<', '.', ';'] ha) ?_)
    rintro name _ rest named hnamed hgrow rfl
    have houter := hid.mono ha hgrow
    refine follows_alloc_bind (.inner id name) hnamed
      (by simpa [Node.children] using houter.inRange)
      (congrArg (JavaType.inner · name) houter.type_eq) fun member made hmade _ hmember => ?_
    refine follows_bind (h.withTypeArguments made rest member _ hmade hmember)
      fun outer _ rest given hgiven _ houter => ?_
    exact h.memberClasses given rest outer _ hgiven houter
  · exact follows_ok ha hid

theorem follows_withTypeArguments {id : NodeId} {type : JavaType} (hid : arena.Shows id type) :
    Follows Arena.Shows arena (withTypeArguments (fuel + 1) id ⟨text, arena⟩)
      (Direct.withTypeArguments (fuel + 1) type text) := by
  refine follows_peek ?_
  unfold Direct.withTypeArguments
  split_ifs
  · refine follows_skip (follows_bind (h.typeArguments arena text.tail ha)
      fun ids types rest read hread hgrow hids => ?_)
    refine follows_bind (follows_expect '>' hread) fun _ _ rest closed hclosed hgrow' _ => ?_
    have hbase := hid.mono ha (hgrow.trans hgrow')
    have harguments := Arena.ShowsAll.mono hids hread hgrow'
    have hempty : ids.isEmpty = types.isEmpty := by cases hids <;> rfl
    rw [hempty]
    simp only
    split_ifs
    · exact follows_fail _
    · refine follows_alloc hclosed ?_ ?_
      · exact List.forall_mem_cons.mpr ⟨hbase.inRange, harguments.inRange⟩
      · rw [Node.typeFrom, hbase.type_eq, harguments.map_materialize]
  · exact follows_ok ha hid

theorem follows_typeArguments :
    Follows Arena.ShowsAll arena (typeArguments (fuel + 1) ⟨text, arena⟩)
      (Direct.typeArguments (fuel + 1) text) := by
  refine follows_peek ?_
  unfold Direct.typeArguments
  split_ifs
  · exact follows_ok ha .nil
  · refine follows_bind (h.typeArgument arena text ha) fun id _ rest read hread _ hid => ?_
    refine follows_bind (h.typeArguments read rest hread) fun _ _ _ _ hdone hgrow hids => ?_
    exact follows_ok hdone (.cons (hid.mono hread hgrow) hids)

theorem follows_typeArgument :
    Follows Arena.Shows arena (typeArgument (fuel + 1) ⟨text, arena⟩)
      (Direct.typeArgument (fuel + 1) text) := by
  refine follows_peek ?_
  unfold Direct.typeArgument
  split
  · rename_i hnext
    rw [hnext]
    exact follows_skip (follows_alloc ha (by simp [Node.children]) rfl)
  · rename_i hnext
    rw [hnext]
    refine follows_skip (follows_bind (h.referenceType arena text.tail ha) ?_)
    intro bound _ rest read hread _ hbound
    exact follows_alloc hread (by simpa [Node.children] using hbound.inRange)
      (congrArg (fun t => JavaType.wildcard (some t) none) hbound.type_eq)
  · rename_i hnext
    rw [hnext]
    refine follows_skip (follows_bind (h.referenceType arena text.tail ha) ?_)
    intro bound _ rest read hread _ hbound
    exact follows_alloc hread (by simpa [Node.children] using hbound.inRange)
      (congrArg (fun t => JavaType.wildcard none (some t)) hbound.type_eq)
  · simpa only using h.referenceType arena text ha

end

theorem agree (fuel : Nat) : Agree fuel := by
  induction fuel with
  | zero => constructor <;> intros <;> exact follows_fail _
  | succ fuel ih =>
    exact {
      javaType _ text ha := follows_javaType ih text ha
      referenceType _ text ha := follows_referenceType ih text ha
      classType _ text ha := follows_classType ih text ha
      memberClasses _ text _ _ ha hid := follows_memberClasses ih text ha hid
      withTypeArguments _ text _ _ ha hid := follows_withTypeArguments ih text ha hid
      typeArguments _ text ha := follows_typeArguments ih text ha
      typeArgument _ text ha := follows_typeArgument ih text ha }

/-! ## Signatures -/

section

variable {fuel : Nat} {arena : Arena} {text : List Char} (ha : arena.Ordered)

include ha

theorem follows_interfaceBounds (steps : Nat) :
    Follows Arena.ShowsAll arena (interfaceBounds fuel steps ⟨text, arena⟩)
      (Direct.interfaceBounds fuel steps text) := by
  induction steps generalizing arena text with
  | zero => exact follows_fail _
  | succ steps ih =>
    refine follows_peek ?_
    unfold Direct.interfaceBounds Direct.marked Direct.many
    split_ifs
    · refine follows_skip (follows_bind ((agree fuel).referenceType arena text.tail ha) ?_)
      intro id _ rest read hread _ hid
      refine follows_bind (ih hread) fun _ _ _ _ hdone hgrow hids => ?_
      exact follows_ok hdone (.cons (hid.mono hread hgrow) hids)
    · exact follows_ok ha .nil

theorem follows_typeParameter :
    Follows (fun arena pending entry => pending.1 = entry.1 ∧ arena.ShowsAll pending.2 entry.2)
      arena (typeParameter fuel ⟨text, arena⟩) (Direct.typeParameter fuel text) := by
  unfold Direct.typeParameter
  refine follows_bind (follows_identifier [':'] ha) ?_
  rintro name _ rest named hnamed - rfl
  refine follows_bind (follows_expect ':' hnamed) fun _ _ rest parted hparted _ _ => ?_
  refine follows_peek ?_
  simp only
  split_ifs
  · refine follows_bind (follows_interfaceBounds hparted fuel) fun _ _ _ _ hdone _ hids => ?_
    exact follows_ok hdone ⟨rfl, hids⟩
  · refine follows_bind ((agree fuel).referenceType parted rest hparted)
      fun id _ rest read hread _ hid => ?_
    refine follows_bind (follows_interfaceBounds hread fuel) fun _ _ _ _ hdone hgrow hids => ?_
    exact follows_ok hdone ⟨rfl, .cons (hid.mono hread hgrow) hids⟩

theorem follows_typeParameterList (steps : Nat) :
    Follows Arena.ShowsParameters arena (typeParameterList fuel steps ⟨text, arena⟩)
      (Direct.typeParameterList fuel steps text) := by
  induction steps generalizing arena text with
  | zero => exact follows_fail _
  | succ steps ih =>
    refine follows_peek ?_
    unfold Direct.typeParameterList Direct.many
    simp only [ne_eq, ite_not]
    split_ifs
    · exact follows_ok ha .nil
    · refine follows_bind (follows_typeParameter ha) fun pending entry rest read hread _ hp => ?_
      refine follows_bind (ih hread) fun _ _ _ _ hdone hgrow hrest => ?_
      exact follows_ok hdone (.cons ⟨hp.1, hp.2.mono hread hgrow⟩ hrest)

theorem follows_typeParameters :
    Follows Arena.ShowsParameters arena (typeParameters fuel ⟨text, arena⟩)
      (Direct.typeParameters fuel text) := by
  refine follows_peek ?_
  unfold Direct.typeParameters
  split_ifs
  · refine follows_skip (follows_bind (follows_typeParameterList ha fuel) ?_)
    intro pending entries rest read hread _ hshows
    refine follows_bind (follows_expect '>' hread) fun _ _ rest closed hclosed hgrow _ => ?_
    have hempty : pending.isEmpty = entries.isEmpty := by cases hshows <;> rfl
    rw [hempty]
    simp only
    split_ifs
    · exact follows_fail _
    · exact follows_ok hclosed (hshows.mono hread hgrow)
  · exact follows_ok ha .nil

theorem follows_interfaceTypes (steps : Nat) :
    Follows Arena.ShowsAll arena (interfaceTypes fuel steps ⟨text, arena⟩)
      (Direct.interfaceTypes fuel steps text) := by
  induction steps generalizing arena text with
  | zero => exact follows_fail _
  | succ steps ih =>
    refine follows_peek ?_
    unfold Direct.interfaceTypes Direct.many
    simp only [ne_eq, ite_not, Option.isNone_iff_eq_none, List.head?_eq_none_iff]
    split_ifs
    · exact follows_ok ha .nil
    · refine follows_bind ((agree fuel).referenceType arena text ha)
        fun id _ rest read hread _ hid => ?_
      refine follows_bind (ih hread) fun _ _ _ _ hdone hgrow hids => ?_
      exact follows_ok hdone (.cons (hid.mono hread hgrow) hids)

theorem follows_parameterTypes (steps : Nat) :
    Follows Arena.ShowsAll arena (parameterTypes fuel steps ⟨text, arena⟩)
      (Direct.parameterTypes fuel steps text) := by
  induction steps generalizing arena text with
  | zero => exact follows_fail _
  | succ steps ih =>
    refine follows_peek ?_
    unfold Direct.parameterTypes Direct.many
    simp only [ne_eq, ite_not]
    split_ifs
    · exact follows_ok ha .nil
    · refine follows_bind ((agree fuel).javaType arena text ha)
        fun id _ rest read hread _ hid => ?_
      refine follows_bind (ih hread) fun _ _ _ _ hdone hgrow hids => ?_
      exact follows_ok hdone (.cons (hid.mono hread hgrow) hids)

theorem follows_thrownTypes (steps : Nat) :
    Follows (fun _ _ _ => True) arena (thrownTypes fuel steps ⟨text, arena⟩)
      (Direct.thrownTypes fuel steps text) := by
  induction steps generalizing arena text with
  | zero => exact follows_fail _
  | succ steps ih =>
    refine follows_peek ?_
    unfold Direct.thrownTypes Direct.marked Direct.many
    split_ifs
    · refine follows_skip (follows_bind ((agree fuel).referenceType arena text.tail ha) ?_)
      intro _ _ rest read hread _ _
      exact (ih hread).map_right fun _ _ _ _ => trivial
    · exact follows_ok ha trivial

end

/-! ## Whole texts -/

section

variable {α β : Type} {R : Arena → α → β → Prop} {reader : Nat → Reader α}
  {direct : Nat → List Char → Except Fault (β × List Char)} {text : String}

theorem run_cases
    (h : ∀ fuel, Follows R .empty (reader fuel ⟨text.toList, .empty⟩) (direct fuel text.toList)) :
    (∃ e, run reader text = .error e ∧ Direct.read direct text = .error e) ∨
      ∃ a arena b, run reader text = .ok (a, arena) ∧ Direct.read direct text = .ok b ∧
        R arena a b := by
  have hfollows := h (fuelFor text.toList)
  unfold run Direct.read
  cases hreader : reader (fuelFor text.toList) ⟨text.toList, .empty⟩ with
  | error fault =>
    cases hdirect : direct (fuelFor text.toList) text.toList with
    | error fault' =>
      rw [hreader, hdirect] at hfollows
      cases hfollows
      exact .inl ⟨_, rfl, rfl⟩
    | ok result =>
      rw [hreader, hdirect] at hfollows
      cases hfollows
  | ok result =>
    cases hdirect : direct (fuelFor text.toList) text.toList with
    | error fault' =>
      rw [hreader, hdirect] at hfollows
      cases hfollows
    | ok result' =>
      rw [hreader, hdirect] at hfollows
      obtain ⟨-, -, -, hr⟩ := hfollows
      exact .inr ⟨result.1, result.2.arena, result'.1, rfl, rfl, hr⟩

end

theorem follows_wholeType (fuel : Nat) (text : List Char) :
    Follows Arena.Shows .empty (wholeType fuel ⟨text, .empty⟩) (Direct.wholeType fuel text) := by
  unfold Direct.wholeType
  refine follows_bind ((agree fuel).javaType .empty text Arena.ordered_empty)
    fun id _ rest read hread _ hid => ?_
  refine follows_bind (follows_finish hread) fun _ _ rest done hdone hgrow _ => ?_
  exact follows_ok hdone (hid.mono hread hgrow)

theorem follows_wholeClass (fuel : Nat) (text : List Char) :
    Follows (fun arena ids types => arena.ShowsParameters ids.1 types.1 ∧
        arena.Shows ids.2.1 types.2.1 ∧ arena.ShowsAll ids.2.2 types.2.2)
      .empty (wholeClass fuel ⟨text, .empty⟩) (Direct.wholeClass fuel text) := by
  unfold Direct.wholeClass
  refine follows_bind (follows_typeParameters Arena.ordered_empty)
    fun pending entries rest first hfirst _ hparameters => ?_
  refine follows_bind ((agree fuel).referenceType first rest hfirst)
    fun superclass _ rest second hsecond hgrow hsuperclass => ?_
  refine follows_bind (follows_interfaceTypes hsecond fuel)
    fun interfaces _ rest last hlast hgrow' hinterfaces => ?_
  exact follows_ok hlast ⟨hparameters.mono hfirst (hgrow.trans hgrow'),
    hsuperclass.mono hsecond hgrow', hinterfaces⟩

theorem follows_wholeMethod (fuel : Nat) (text : List Char) :
    Follows (fun arena ids types => arena.ShowsParameters ids.1 types.1 ∧
        arena.ShowsAll ids.2.1 types.2.1 ∧ arena.Shows ids.2.2 types.2.2)
      .empty (wholeMethod fuel ⟨text, .empty⟩) (Direct.wholeMethod fuel text) := by
  unfold Direct.wholeMethod
  refine follows_bind (follows_typeParameters Arena.ordered_empty)
    fun pending entries rest first hfirst _ hparameters => ?_
  refine follows_bind (follows_expect '(' hfirst) fun _ _ rest opened hopened hgrow _ => ?_
  refine follows_bind (follows_parameterTypes hopened fuel)
    fun parameters _ rest second hsecond hgrow' htypes => ?_
  refine follows_bind (follows_expect ')' hsecond) fun _ _ rest closed hclosed hgrow'' _ => ?_
  refine follows_bind ((agree fuel).javaType closed rest hclosed)
    fun returnType _ rest third hthird hgrow₃ hreturn => ?_
  refine follows_bind (follows_thrownTypes hthird fuel) fun _ _ rest thrown hthrown hgrow₄ _ => ?_
  refine follows_bind (follows_finish hthrown) fun _ _ rest done hdone hgrow₅ _ => ?_
  have hlast := (hgrow₃.trans hgrow₄).trans hgrow₅
  exact follows_ok hdone
    ⟨hparameters.mono hfirst (((hgrow.trans hgrow').trans hgrow'').trans hlast),
      htypes.mono hsecond (hgrow''.trans hlast), hreturn.mono hthird (hgrow₄.trans hgrow₅)⟩

/-- Reading a type in two passes comes to reading it in one. -/
theorem parseType_eq (text : String) : parseType text = Direct.read Direct.wholeType text := by
  unfold parseType
  rcases run_cases fun fuel => follows_wholeType fuel text.toList with
    ⟨e, hrun, hread⟩ | ⟨id, arena, type, hrun, hread, hid⟩
  · rw [hrun, hread]
    rfl
  · rw [hrun, hread, ← hid.type_eq]
    rfl

theorem parseClassSignature_eq (text : String) :
    parseClassSignature text = (do
      let (parameters, superclass, interfaces) ← Direct.read Direct.wholeClass text
      let schema ← TypeSchema.ofEntries parameters
      pure ⟨schema, superclass, interfaces⟩) := by
  unfold parseClassSignature
  rcases run_cases fun fuel => follows_wholeClass fuel text.toList with
    ⟨e, hrun, hread⟩ | ⟨ids, arena, types, hrun, hread, hparameters, hsuperclass, hinterfaces⟩
  · rw [hrun, hread]
    rfl
  · obtain ⟨pending, superclass, interfaces⟩ := ids
    obtain ⟨parameters, supertype, interfaceTypes⟩ := types
    have hsupertype : arena.materialize superclass = supertype := hsuperclass.type_eq
    have htypes : interfaces.map arena.materialize = interfaceTypes := hinterfaces.map_materialize
    rw [hrun, hread, ← hsupertype, ← htypes]
    show (pending.build arena >>= fun schema => _) = _
    rw [hparameters.build_eq]
    rfl

theorem parseGenericMethodSignature_eq (text : String) :
    parseGenericMethodSignature text = (do
      let (typeParameters, parameters, returnType) ← Direct.read Direct.wholeMethod text
      let schema ← TypeSchema.ofEntries typeParameters
      pure ⟨returnType, parameters, schema⟩) := by
  unfold parseGenericMethodSignature
  rcases run_cases fun fuel => follows_wholeMethod fuel text.toList with
    ⟨e, hrun, hread⟩ | ⟨ids, arena, types, hrun, hread, hparameters, htypes, hreturn⟩
  · rw [hrun, hread]
    rfl
  · obtain ⟨pending, parameters, returnType⟩ := ids
    obtain ⟨entries, parameterTypes, type⟩ := types
    have htype : arena.materialize returnType = type := hreturn.type_eq
    have hparameterTypes : parameters.map arena.materialize = parameterTypes :=
      htypes.map_materialize
    rw [hrun, hread, ← htype, ← hparameterTypes]
    show (pending.build arena >>= fun schema => _) = _
    rw [hparameters.build_eq]
    rfl

end ApiSurface.Signature
