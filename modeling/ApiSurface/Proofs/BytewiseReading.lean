import Mathlib.Data.List.TakeDrop
import Mathlib.Data.List.TakeWhile
import ApiSurface.Proofs.BytePositions

/-!
# Reading byte by byte

The productions of the grammar as they move through the bytes of a text: a reader knows a position,
looks at the byte there, moves on over it, moves back where the byte was not wanted, and cuts names
out of the text by their positions. Such reading may trap, at a node that is not there, in front of
the first byte or with a cut through a character. No text bounds how often a production is repeated:
only a clock does, and when it has run out nothing was read. Reading that goes on forever runs out
of every clock.
-/

namespace ApiSurface.Signature

structure ByteCursor where
  position : Nat
  arena : Arena
  deriving DecidableEq, Repr

/-- Why reading stops without a value. -/
inductive Halt where
  | error (e : SurfaceError)
  | trap
  | timeout
  deriving DecidableEq, Repr

abbrev Outcome := Except Halt

abbrev ByteReader := StateT ByteCursor Outcome

namespace Bytewise

variable (text : String)

def fail {α : Type} (cause : SignatureFault) : ByteReader α := fun cursor =>
  throw (.error (.malformedSignature text cursor.position cause))

def late {α : Type} : ByteReader α := fun _ => throw .timeout

def peek : ByteReader (Option Char) := fun cursor => pure (byteAt text cursor.position, cursor)

def advance : ByteReader Unit := fun cursor =>
  pure ((), { cursor with position := cursor.position + 1 })

def stepBack : ByteReader Unit := fun cursor =>
  match cursor.position with
  | 0 => throw .trap
  | position + 1 => pure ((), { cursor with position })

def alloc (node : Node) : ByteReader NodeId := fun cursor =>
  let (id, arena) := cursor.arena.alloc node
  pure (id, { cursor with arena })

def next : ByteReader Char := do
  match ← peek text with
  | none => fail text .endOfText
  | some byte => do
    advance
    pure byte

def expect (wanted : Char) : ByteReader Unit := do
  let byte ← next text
  if byte ≠ wanted then
    stepBack
    fail text (.expected wanted byte)

/-- Moves on to the first byte that is one of the terminators. -/
def passName (terminators : List Char) : Nat → ByteReader Unit
  | 0 => late
  | clock + 1 => do
    match ← peek text with
    | none => pure ()
    | some byte =>
      if terminators.contains byte then pure ()
      else
        advance
        passName terminators clock

def cut (start stop : Nat) : ByteReader String := fun cursor =>
  match slice? text start stop with
  | none => throw .trap
  | some part => pure (part, cursor)

def identifier (terminators : List Char) (clock : Nat) : ByteReader String := do
  let start := (← get).position
  passName text terminators clock
  let stop := (← get).position
  if stop = start then fail text .identifierExpected
  else cut text start stop

def finish : ByteReader Unit := do
  if (← peek text).isSome then fail text .trailingText

mutual
def javaType : Nat → ByteReader NodeId
  | 0 => late
  | clock + 1 => do
    match ← peek text with
    | none => fail text .endOfText
    | some byte =>
      if byte = 'L' ∨ byte = 'T' ∨ byte = '[' then referenceType clock
      else match primitiveName byte with
        | none => fail text (.unknownTypeCode byte)
        | some name => do
          advance
          alloc (.basic name)

def referenceType : Nat → ByteReader NodeId
  | 0 => late
  | clock + 1 => do
    match ← next text with
    | 'L' => classType clock
    | 'T' => do
      let name ← identifier text [';'] clock
      expect text ';'
      alloc (.var name)
    | '[' => do
      let element ← javaType clock
      alloc (.array element)
    | byte => do
      stepBack
      fail text (.referenceTypeExpected byte)

def classType : Nat → ByteReader NodeId
  | 0 => late
  | clock + 1 => do
    let name ← identifier text ['<', '.', ';'] clock
    let base ← alloc (.basic (dotted name))
    let outer ← withTypeArguments clock base
    let type ← memberClasses clock outer
    expect text ';'
    pure type

def memberClasses : Nat → NodeId → ByteReader NodeId
  | 0, _ => late
  | clock + 1, outer => do
    if (← peek text) = some '.' then
      advance
      let name ← identifier text ['<', '.', ';'] clock
      let member ← alloc (.inner outer name)
      let outer ← withTypeArguments clock member
      memberClasses clock outer
    else
      pure outer

def withTypeArguments : Nat → NodeId → ByteReader NodeId
  | 0, _ => late
  | clock + 1, base => do
    if (← peek text) = some '<' then
      advance
      let arguments ← typeArguments clock
      expect text '>'
      if arguments.isEmpty then fail text .noTypeArguments
      else alloc (.parameterized base arguments)
    else
      pure base

def typeArguments : Nat → ByteReader (List NodeId)
  | 0 => late
  | clock + 1 => do
    if (← peek text) = some '>' then
      pure []
    else
      let argument ← typeArgument clock
      let arguments ← typeArguments clock
      pure (argument :: arguments)

def typeArgument : Nat → ByteReader NodeId
  | 0 => late
  | clock + 1 => do
    match ← next text with
    | '*' => alloc (.wildcard none none)
    | '+' => do
      let bound ← referenceType clock
      alloc (.wildcard (some bound) none)
    | '-' => do
      let bound ← referenceType clock
      alloc (.wildcard none (some bound))
    | _ => do
      stepBack
      referenceType clock
end

/-- Reads one part after another as long as the next byte says so. -/
def many {α : Type} (goesOn : Option Char → Bool) (part : ByteReader α) :
    Nat → ByteReader (List α)
  | 0 => late
  | clock + 1 => do
    if goesOn (← peek text) then
      let first ← part
      let others ← many goesOn part clock
      pure (first :: others)
    else
      pure []

/-- Reads reference types, each behind a mark. -/
def marked (mark : Char) (clock : Nat) : ByteReader (List NodeId) :=
  many text (· == some mark) (do
    advance
    referenceType text clock) clock

def typeParameter (clock : Nat) : ByteReader (String × List NodeId) := do
  let name ← identifier text [':'] clock
  expect text ':'
  let next ← peek text
  if next = some ':' ∨ next = some '>' then
    let bounds ← marked text ':' clock
    pure (name, bounds)
  else
    let classBound ← referenceType text clock
    let bounds ← marked text ':' clock
    pure (name, classBound :: bounds)

def typeParameters (clock : Nat) : ByteReader PendingSchema := do
  if (← peek text) = some '<' then
    advance
    let parameters ← many text (· != some '>') (typeParameter text clock) clock
    expect text '>'
    if parameters.isEmpty then fail text .noTypeParameters
    else pure parameters
  else
    pure []

def wholeType (clock : Nat) : ByteReader NodeId := do
  let type ← javaType text clock
  finish text
  pure type

def wholeClass (clock : Nat) : ByteReader (PendingSchema × NodeId × List NodeId) := do
  let parameters ← typeParameters text clock
  let superclass ← referenceType text clock
  let interfaces ← many text Option.isSome (referenceType text clock) clock
  pure (parameters, superclass, interfaces)

def wholeMethod (clock : Nat) : ByteReader (PendingSchema × List NodeId × NodeId) := do
  let typeParameters ← typeParameters text clock
  expect text '('
  let parameters ← many text (· != some ')') (javaType text clock) clock
  expect text ')'
  let returnType ← javaType text clock
  let _ ← marked text '^' clock
  finish text
  pure (typeParameters, parameters, returnType)

/-- The type of a node, with a trap where no node is. -/
def materialize (arena : Arena) : Nat → NodeId → Outcome JavaType
  | 0, _ => throw .timeout
  | clock + 1, id => do
    match arena.nodes[id]? with
    | none => throw .trap
    | some (.basic name) => pure (.basic name)
    | some (.array element) => do
      let element ← materialize arena clock element
      pure (.array element)
    | some (.parameterized base arguments) => do
      let base ← materialize arena clock base
      let arguments ← arguments.mapM (materialize arena clock)
      pure (.parameterized base arguments)
    | some (.var name) => pure (.var name)
    | some (.wildcard upper lower) => do
      let upper ← upper.mapM (materialize arena clock)
      let lower ← lower.mapM (materialize arena clock)
      pure (.wildcard upper lower)
    | some (.inner outer name) => do
      let outer ← materialize arena clock outer
      pure (.inner outer name)

/-- Reading ends with this result. -/
def ends {α : Type} (result : Except SurfaceError α) : Outcome α := result.mapError .error

/-- Declares variables: first every name, then the bounds, each built from its node. -/
def build (pending : PendingSchema) (arena : Arena) (clock : Nat) : Outcome TypeSchema := do
  let declared ← ends (pending.foldlM (fun schema p => schema.add p.1) .empty)
  pending.foldlM (fun schema p => p.2.foldlM (fun schema bound => do
    let type ← materialize arena clock bound
    ends (schema.addBound p.1 type)) schema) declared

def parseType (clock : Nat) : Outcome JavaType := do
  let (type, cursor) ← wholeType text clock ⟨0, .empty⟩
  materialize cursor.arena clock type

def parseTypeDescriptor (clock : Nat) : Outcome JavaType := do
  let type ← parseType text clock
  if isGeneric type then throw (.error (.malformedSignature text 0 .genericDescriptor))
  pure type

def parseClassSignature (clock : Nat) : Outcome ClassSignature := do
  let ((parameters, superclass, interfaces), cursor) ← wholeClass text clock ⟨0, .empty⟩
  let schema ← build parameters cursor.arena clock
  let superclass ← materialize cursor.arena clock superclass
  let interfaces ← interfaces.mapM (materialize cursor.arena clock)
  pure ⟨schema, superclass, interfaces⟩

def parseGenericMethodSignature (clock : Nat) : Outcome MethodSignature := do
  let ((typeParameters, parameters, returnType), cursor) ← wholeMethod text clock ⟨0, .empty⟩
  let returnType ← materialize cursor.arena clock returnType
  let parameters ← parameters.mapM (materialize cursor.arena clock)
  let schema ← build typeParameters cursor.arena clock
  pure ⟨returnType, parameters, schema⟩

def parseMethodDescriptor (clock : Nat) : Outcome MethodSignature := do
  let signature ← parseGenericMethodSignature text clock
  if !signature.schema.isEmpty then
    throw (.error (.malformedSignature text 0 .parametersInDescriptor))
  pure signature

end Bytewise

/-! ## Agreement -/

/-- Reading the bytes ends as reading the characters does: with the same value and the same nodes
in front of the same text, which is shorter than a limit, or with the error of the same fault. -/
inductive Mirrors {α : Type} (text : String) (limit : Nat) :
    Outcome (α × ByteCursor) → Except Fault (α × Cursor) → Prop where
  | value {a : α} {position : Nat} {rest : List Char} {arena : Arena} :
      At text position rest → rest.length < limit →
      Mirrors text limit (.ok (a, ⟨position, arena⟩)) (.ok (a, ⟨rest, arena⟩))
  | fault {fault : Fault} : fault.rest <:+ text.toList →
      Mirrors text limit (.error (.error (fault.toError text))) (.error fault)

section

variable {α β : Type} {text : String} {limit limit' position clock : Nat} {rest : List Char}
  {arena : Arena} {mark : Char} {terminators : List Char}

theorem mirrors_fail (hat : At text position rest) (cause : SignatureFault) :
    Mirrors text limit ((Bytewise.fail text cause : ByteReader α) ⟨position, arena⟩)
      (Reader.fail cause ⟨rest, arena⟩) := by
  have hfault : Mirrors text limit (.error (.error (Fault.toError ⟨rest, cause⟩ text)))
      (.error ⟨rest, cause⟩ : Except Fault (α × Cursor)) := .fault hat.suffix
  rw [Fault.toError, ← hat.position_eq] at hfault
  exact hfault

theorem mirrors_pure (hat : At text position rest) (hlimit : rest.length < limit) (a : α) :
    Mirrors text limit ((pure a : ByteReader α) ⟨position, arena⟩)
      ((pure a : Reader α) ⟨rest, arena⟩) := .value hat hlimit

theorem mirrors_alloc (hat : At text position rest) (hlimit : rest.length < limit) (node : Node) :
    Mirrors text limit (Bytewise.alloc node ⟨position, arena⟩)
      (Reader.alloc node ⟨rest, arena⟩) := .value hat hlimit

theorem Mirrors.mono {run : Outcome (α × ByteCursor)} {run' : Except Fault (α × Cursor)}
    (h : Mirrors text limit run run') (hlimit : limit ≤ limit') : Mirrors text limit' run run' := by
  cases h with
  | value hat hlt => exact .value hat (Nat.lt_of_lt_of_le hlt hlimit)
  | fault hsuffix => exact .fault hsuffix

theorem Mirrors.of_error {run : Outcome (α × ByteCursor)} {fault : Fault}
    (h : Mirrors text limit run (.error fault)) :
    run = .error (.error (fault.toError text)) ∧ fault.rest <:+ text.toList := by
  cases h with
  | fault hsuffix => exact ⟨rfl, hsuffix⟩

theorem Mirrors.of_ok {run : Outcome (α × ByteCursor)} {a : α} {cursor : Cursor}
    (h : Mirrors text limit run (.ok (a, cursor))) :
    ∃ position, run = .ok (a, ⟨position, cursor.arena⟩) := by
  cases h with
  | value => exact ⟨_, rfl⟩

theorem Mirrors.bind {bytes : ByteReader α} {f : α → ByteReader β} {reader : Reader α}
    {g : α → Reader β} (h : Mirrors text limit (bytes ⟨position, arena⟩) (reader ⟨rest, arena⟩))
    (hnext : ∀ a position rest arena, At text position rest → rest.length < limit →
      Mirrors text limit' (f a ⟨position, arena⟩) (g a ⟨rest, arena⟩)) :
    Mirrors text limit' ((bytes >>= f) ⟨position, arena⟩) ((reader >>= g) ⟨rest, arena⟩) := by
  have hbytes : (bytes >>= f) ⟨position, arena⟩ =
      bytes ⟨position, arena⟩ >>= fun p => f p.1 p.2 := rfl
  have hreader : (reader >>= g) ⟨rest, arena⟩ = reader ⟨rest, arena⟩ >>= fun p => g p.1 p.2 := rfl
  rw [hbytes, hreader]
  generalize bytes ⟨position, arena⟩ = run at h ⊢
  generalize reader ⟨rest, arena⟩ = run' at h ⊢
  cases h with
  | value hat hlimit => exact hnext _ _ _ _ hat hlimit
  | fault hsuffix => exact .fault hsuffix

theorem mirrors_peek {f : Option Char → ByteReader α} {g : Option Char → Reader α}
    (hat : At text position rest)
    (h : Mirrors text limit (f (rest.head?.map firstByte) ⟨position, arena⟩)
      (g rest.head? ⟨rest, arena⟩)) :
    Mirrors text limit ((Bytewise.peek text >>= f) ⟨position, arena⟩)
      ((Reader.peek >>= g) ⟨rest, arena⟩) := by
  rw [← hat.byteAt_eq] at h
  exact h

/-- Over a mark, which is one byte, the next character is reached. -/
theorem mirrors_advance {f : Unit → ByteReader α} {g : Unit → Reader α}
    (hat : At text position (mark :: rest)) (hmark : mark.toNat < 0x80)
    (h : At text (position + 1) rest →
      Mirrors text limit (f () ⟨position + 1, arena⟩) (g () ⟨rest, arena⟩)) :
    Mirrors text limit ((Bytewise.advance >>= f) ⟨position, arena⟩)
      ((Reader.skip >>= g) ⟨mark :: rest, arena⟩) := h (hat.tail hmark)

theorem map_firstByte_eq_some_iff {next : Option Char} (hmark : mark.toNat < 0x80) :
    next.map firstByte = some mark ↔ next = some mark := by
  cases next with
  | none => simp
  | some c => simpa using firstByte_eq_iff hmark

theorem next_nil (hat : At text position []) {f : Char → ByteReader α} :
    (Bytewise.next text >>= f) ⟨position, arena⟩ =
      Bytewise.fail text .endOfText ⟨position, arena⟩ := by
  have hend := hat.byteAt_eq
  show ((match byteAt text position with
    | none => Bytewise.fail text .endOfText
    | some byte => _) >>= f) _ = _
  rw [hend]
  rfl

theorem next_cons {c : Char} (hat : At text position (c :: rest)) {f : Char → ByteReader α} :
    (Bytewise.next text >>= f) ⟨position, arena⟩ = f (firstByte c) ⟨position + 1, arena⟩ := by
  have hbyte := hat.byteAt_eq
  show ((match byteAt text position with
    | none => Bytewise.fail text .endOfText
    | some byte => (do Bytewise.advance; pure byte)) >>= f) _ = _
  rw [hbyte]
  rfl

theorem mirrors_expect (hmark : mark.toNat < 0x80) (hat : At text position rest) :
    Mirrors text rest.length (Bytewise.expect text mark ⟨position, arena⟩)
      (Reader.expect mark ⟨rest, arena⟩) := by
  cases rest with
  | nil =>
    rw [Bytewise.expect, next_nil hat]
    exact mirrors_fail hat _
  | cons c rest =>
    rw [Bytewise.expect, next_cons hat]
    show Mirrors text _ _ ((if c = mark then Reader.skip
      else Reader.fail (.expected mark (firstByte c))) ⟨c :: rest, arena⟩)
    simp only [ne_eq, firstByte_eq_iff hmark, ite_not]
    split_ifs with hc
    · subst hc
      exact .value (hat.tail hmark) (Nat.lt_succ_self _)
    · exact mirrors_fail hat _

/-- No byte of a character that is not a terminator is one. -/
theorem not_mem_of_mem_bytesOf {c byte : Char} (hascii : ∀ mark ∈ terminators, mark.toNat < 0x80)
    (hc : c ∉ terminators) (hbyte : byte ∈ bytesOf c) : byte ∉ terminators := by
  rcases Nat.lt_or_ge c.toNat 0x80 with hone | hmore
  · rw [bytesOf_ascii hone, List.mem_singleton] at hbyte
    rwa [hbyte]
  · intro hmem
    have hlarge := le_toNat_of_mem_bytesOf hmore byte hbyte
    have hsmall := hascii byte hmem
    omega

theorem passName_stop (hclock : 0 < clock)
    (hend : ∀ byte ∈ byteAt text position, byte ∈ terminators) :
    Bytewise.passName text terminators clock ⟨position, arena⟩ = .ok ((), ⟨position, arena⟩) := by
  obtain ⟨clock, rfl⟩ := Nat.exists_eq_add_one_of_ne_zero hclock.ne'
  show (match byteAt text position with
    | none => pure ()
    | some byte => if terminators.contains byte then pure () else _ : ByteReader Unit) _ = _
  cases hbyte : byteAt text position with
  | none => rfl
  | some byte =>
    simp only [List.contains_iff_mem, hend byte hbyte, if_true]
    rfl

theorem passName_step {byte : Char} (hhere : byteAt text position = some byte)
    (hbyte : byte ∉ terminators) :
    Bytewise.passName text terminators (clock + 1) ⟨position, arena⟩ =
      Bytewise.passName text terminators clock ⟨position + 1, arena⟩ := by
  show (match byteAt text position with
    | none => pure ()
    | some byte => if terminators.contains byte then pure () else _ : ByteReader Unit) _ = _
  rw [hhere]
  simp only [List.contains_iff_mem, hbyte, if_false]
  rfl

/-- By induction on the bytes that are passed. -/
theorem passName_eq (bytes : List Char) (hbytes : ∀ byte ∈ bytes, byte ∉ terminators)
    (hclock : bytes.length < clock)
    (hat : ∀ i < bytes.length, byteAt text (position + i) = bytes[i]?)
    (hend : ∀ byte ∈ byteAt text (position + bytes.length), byte ∈ terminators) :
    Bytewise.passName text terminators clock ⟨position, arena⟩ =
      .ok ((), ⟨position + bytes.length, arena⟩) := by
  induction bytes generalizing position clock with
  | nil => exact passName_stop hclock hend
  | cons byte bytes ih =>
    obtain ⟨hbyte, hbytes⟩ := List.forall_mem_cons.mp hbytes
    have hhere : byteAt text position = some byte := hat 0 (Nat.succ_pos _)
    have hmove : ∀ i, position + 1 + i = position + (i + 1) := fun i => by omega
    rw [List.length_cons] at hclock
    obtain ⟨clock, rfl⟩ := Nat.exists_eq_add_one_of_ne_zero (show clock ≠ 0 by omega)
    rw [passName_step hhere hbyte, List.length_cons, ← hmove bytes.length]
    refine ih hbytes (by omega) (fun i hi => ?_) ?_
    · rw [hmove]
      exact hat (i + 1) (Nat.succ_lt_succ hi)
    · rwa [hmove]

/-- The bytes of a name are passed, up to the terminator behind it. -/
theorem passName_name {name : List Char} (hascii : ∀ mark ∈ terminators, mark.toNat < 0x80)
    (hname : ∀ c ∈ name, c ∉ terminators) (hrest : ∀ c ∈ rest.head?, c ∈ terminators)
    (hat : At text position (name ++ rest)) (hclock : byteLength name < clock) :
    Bytewise.passName text terminators clock ⟨position, arena⟩ =
      .ok ((), ⟨position + byteLength name, arena⟩) := by
  have hbytes : ∀ byte ∈ name.flatMap bytesOf, byte ∉ terminators := by
    intro byte hbyte
    obtain ⟨c, hc, hbyte⟩ := List.mem_flatMap.mp hbyte
    exact not_mem_of_mem_bytesOf hascii (hname c hc) hbyte
  have hpass : ∀ i < (name.flatMap bytesOf).length,
      byteAt text (position + i) = (name.flatMap bytesOf)[i]? := fun i hi => by
    rw [hat.byteAt_add, List.flatMap_append, List.getElem?_append_left hi]
  rw [← length_flatMap_bytesOf] at hclock ⊢
  refine passName_eq _ hbytes hclock hpass fun byte hbyte => ?_
  rw [length_flatMap_bytesOf, hat.append.byteAt_eq] at hbyte
  obtain ⟨c, hc, rfl⟩ := Option.map_eq_some_iff.mp hbyte
  rw [firstByte_ascii (hascii c (hrest c hc))]
  exact hrest c hc

/-- What stands before the first of the terminators, and what is left from there on. -/
theorem exists_span (terminators rest : List Char) : ∃ name after,
    rest.span (fun c => !terminators.contains c) = (name, after) ∧ rest = name ++ after ∧
      (∀ c ∈ name, c ∉ terminators) ∧ ∀ c ∈ after.head?, c ∈ terminators := by
  refine ⟨_, _, List.span_eq_takeWhile_dropWhile _ rest, List.takeWhile_append_dropWhile.symm,
    ?_, ?_⟩
  · intro c hc
    simpa using List.mem_takeWhile_imp hc
  · intro c hc
    have hstop := List.head?_dropWhile_not (fun c => !terminators.contains c) rest
    rw [Option.mem_def.mp hc] at hstop
    simpa using hstop

theorem mirrors_identifier (hascii : ∀ mark ∈ terminators, mark.toNat < 0x80)
    (hat : At text position rest) (hclock : 4 * rest.length < clock) :
    Mirrors text rest.length (Bytewise.identifier text terminators clock ⟨position, arena⟩)
      (Reader.identifier terminators ⟨rest, arena⟩) := by
  obtain ⟨name, after, hspan, rfl, hname, hafter⟩ := exists_span terminators rest
  have hlength := byteLength_le name
  rw [List.length_append] at hclock
  have hpass : Bytewise.passName text terminators clock ⟨position, arena⟩ =
      .ok ((), ⟨position + byteLength name, arena⟩) :=
    passName_name hascii hname hafter hat (by omega)
  have hbytes : Bytewise.identifier text terminators clock ⟨position, arena⟩ =
      (if position + byteLength name = position then Bytewise.fail text .identifierExpected
        else Bytewise.cut text position (position + byteLength name) : ByteReader String)
        ⟨position + byteLength name, arena⟩ := by
    show (Bytewise.passName text terminators clock ⟨position, arena⟩ >>= fun passed =>
      (if passed.2.position = position then Bytewise.fail text .identifierExpected
        else Bytewise.cut text position passed.2.position : ByteReader String) passed.2) = _
    rw [hpass]
    rfl
  rw [hbytes, Reader.identifier, hspan]
  cases name with
  | nil =>
    rw [show position + byteLength [] = position from rfl, if_pos rfl]
    exact mirrors_fail hat _
  | cons c name =>
    have hmoved : position + byteLength (c :: name) ≠ position := by
      simpa using mt byteLength_eq_zero_iff.mp (List.cons_ne_nil c name)
    have hcut : Bytewise.cut text position (position + byteLength (c :: name))
        ⟨position + byteLength (c :: name), arena⟩ =
          .ok (String.ofList (c :: name), ⟨position + byteLength (c :: name), arena⟩) := by
      rw [Bytewise.cut, hat.slice?_eq]
      rfl
    rw [if_neg hmoved, hcut]
    exact .value hat.append (by rw [List.length_append, List.length_cons]; omega)

end

end ApiSurface.Signature
