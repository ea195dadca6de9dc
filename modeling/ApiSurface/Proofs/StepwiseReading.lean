import Mathlib.Logic.Function.Iterate
import ApiSurface.Proofs.DirectReading

/-!
# Reading step by step

The productions of the grammar once more, but as steps of one run, so that every point of a reading
can be spoken about. A point knows the text that is left, what is done next, and the frames of the
productions that wait for a part. The parts that it holds are handles of any kind. Only one task
touches what handles stand for, which is to make a type of parts: reading into nodes then adds a
node, and reading in one pass builds a type at once.
-/

namespace ApiSurface.Signature.Stepwise

/-- A type that is made of parts. -/
inductive Production (H : Type) where
  | basic (name : String)
  | array (element : H)
  | parameterized (base : H) (arguments : List H)
  | var (name : String)
  | wildcard (upper lower : Option H)
  | inner (outer : H) (name : String)
  deriving DecidableEq, Repr

/-- Type parameters with their bounds. -/
abbrev Schema (H : Type) := List (String × List H)

/-- What type parameters are declared by. -/
inductive Declaration where
  | ofClass
  | ofMethod
  deriving DecidableEq, Repr

/-- What has been read when a text is at its end. -/
inductive Parts (H : Type) where
  | type (type : H)
  | ofClass (schema : Schema H) (superclass : H) (interfaces : List H)
  | ofMethod (schema : Schema H) (parameters : List H) (returned : H)
  deriving DecidableEq, Repr

/-- What is done next, with the parts that the production at work has read. -/
inductive Task (H : Type) where
  | type
  | reference
  | className
  | arguments (base : H)
  | argumentList (base : H) (read : List H)
  | argument
  | argumentsEnd (base : H) (read : List H)
  | members (outer : H)
  | classEnd (type : H)
  | make (production : Production H)
  | give (part : H)
  | typeParameters (declaration : Declaration)
  | parameterList (declaration : Declaration) (schema : Schema H)
  | parameter (declaration : Declaration) (schema : Schema H)
  | bounds (declaration : Declaration) (schema : Schema H) (name : String) (read : List H)
  | parametersEnd (declaration : Declaration) (schema : Schema H)
  | declared (declaration : Declaration) (schema : Schema H)
  | interfaces (schema : Schema H) (superclass : H) (read : List H)
  | parameterTypes (schema : Schema H) (read : List H)
  | parameterTypesEnd (schema : Schema H) (read : List H)
  | thrownTypes (schema : Schema H) (parameters : List H) (returned : H)
  | finish (parts : Parts H)
  | done (parts : Parts H)
  | failed (cause : SignatureFault)
  deriving DecidableEq, Repr

/-- A production that waits for a part, with the parts that it has read. -/
inductive Frame (H : Type) where
  | array
  | upper
  | lower
  | argument (base : H) (read : List H)
  | stem
  | outer
  | bound (declaration : Declaration) (schema : Schema H) (name : String) (read : List H)
  | supertype (schema : Schema H)
  | interfaceType (schema : Schema H) (superclass : H) (read : List H)
  | parameterType (schema : Schema H) (read : List H)
  | returnType (schema : Schema H) (parameters : List H)
  | thrownType (schema : Schema H) (parameters : List H) (returned : H)
  | whole
  deriving DecidableEq, Repr

structure Reading (H : Type) where
  rest : List Char
  task : Task H
  frames : List (Frame H)
  deriving DecidableEq, Repr

/-! ## Turns -/

section

variable {H : Type}

/-- How a production goes on with the part that it has waited for. -/
def Frame.resume (part : H) : Frame H → Task H
  | .array => .make (.array part)
  | .upper => .make (.wildcard (some part) none)
  | .lower => .make (.wildcard none (some part))
  | .argument base read => .argumentList base (read ++ [part])
  | .stem => .arguments part
  | .outer => .members part
  | .bound declaration schema name read => .bounds declaration schema name (read ++ [part])
  | .supertype schema => .interfaces schema part []
  | .interfaceType schema superclass read => .interfaces schema superclass (read ++ [part])
  | .parameterType schema read => .parameterTypes schema (read ++ [part])
  | .returnType schema parameters => .thrownTypes schema parameters part
  | .thrownType schema parameters returned => .thrownTypes schema parameters returned
  | .whole => .finish (.type part)

def fail (rest : List Char) (cause : SignatureFault) : Reading H := ⟨rest, .failed cause, []⟩

/-- Goes on behind a piece of text, if it is there. -/
def after {α : Type} (result : Except Fault (α × List Char))
    (next : α → List Char → Reading H) : Reading H :=
  match result with
  | .ok (a, rest) => next a rest
  | .error fault => fail fault.rest fault.cause

namespace Turn

variable (frames : List (Frame H)) (rest : List Char)

def type : Reading H :=
  match rest.head? with
  | none => fail rest .endOfText
  | some c =>
    if c = 'L' ∨ c = 'T' ∨ c = '[' then ⟨rest, .reference, frames⟩
    else match primitiveName c with
      | none => fail rest (.unknownTypeCode (firstByte c))
      | some name => ⟨rest.tail, .make (.basic name), frames⟩

def reference : Reading H :=
  match rest.head? with
  | none => fail rest .endOfText
  | some 'L' => ⟨rest.tail, .className, frames⟩
  | some 'T' =>
    after (Direct.identifier [';'] rest.tail) fun name rest =>
      after (Direct.expect ';' rest) fun _ rest => ⟨rest, .make (.var name), frames⟩
  | some '[' => ⟨rest.tail, .type, .array :: frames⟩
  | some c => fail rest (.referenceTypeExpected (firstByte c))

def className : Reading H :=
  after (Direct.identifier ['<', '.', ';'] rest) fun name rest =>
    ⟨rest, .make (.basic (dotted name)), .stem :: frames⟩

def arguments (base : H) : Reading H :=
  if rest.head? = some '<' then ⟨rest.tail, .argumentList base [], frames⟩
  else ⟨rest, .members base, frames⟩

def argumentList (base : H) (read : List H) : Reading H :=
  if rest.head? = some '>' then ⟨rest, .argumentsEnd base read, frames⟩
  else ⟨rest, .argument, .argument base read :: frames⟩

def argument : Reading H :=
  match rest.head? with
  | some '*' => ⟨rest.tail, .make (.wildcard none none), frames⟩
  | some '+' => ⟨rest.tail, .reference, .upper :: frames⟩
  | some '-' => ⟨rest.tail, .reference, .lower :: frames⟩
  | _ => ⟨rest, .reference, frames⟩

def argumentsEnd (base : H) (read : List H) : Reading H :=
  after (Direct.expect '>' rest) fun _ rest =>
    if read.isEmpty then fail rest .noTypeArguments
    else ⟨rest, .make (.parameterized base read), .outer :: frames⟩

def members (outer : H) : Reading H :=
  if rest.head? = some '.' then
    after (Direct.identifier ['<', '.', ';'] rest.tail) fun name rest =>
      ⟨rest, .make (.inner outer name), .stem :: frames⟩
  else ⟨rest, .classEnd outer, frames⟩

def classEnd (type : H) : Reading H :=
  after (Direct.expect ';' rest) fun _ rest => ⟨rest, .give type, frames⟩

def give (part : H) : Reading H :=
  match frames with
  | [] => ⟨rest, .give part, []⟩
  | frame :: frames => ⟨rest, frame.resume part, frames⟩

def typeParameters (declaration : Declaration) : Reading H :=
  if rest.head? = some '<' then ⟨rest.tail, .parameterList declaration [], frames⟩
  else ⟨rest, .declared declaration [], frames⟩

def parameterList (declaration : Declaration) (schema : Schema H) : Reading H :=
  if rest.head? = some '>' then ⟨rest, .parametersEnd declaration schema, frames⟩
  else ⟨rest, .parameter declaration schema, frames⟩

def parameter (declaration : Declaration) (schema : Schema H) : Reading H :=
  after (Direct.identifier [':'] rest) fun name rest =>
    after (Direct.expect ':' rest) fun _ rest =>
      if rest.head? = some ':' ∨ rest.head? = some '>' then
        ⟨rest, .bounds declaration schema name [], frames⟩
      else ⟨rest, .reference, .bound declaration schema name [] :: frames⟩

def bounds (declaration : Declaration) (schema : Schema H) (name : String) (read : List H) :
    Reading H :=
  if rest.head? = some ':' then
    ⟨rest.tail, .reference, .bound declaration schema name read :: frames⟩
  else ⟨rest, .parameterList declaration (schema ++ [(name, read)]), frames⟩

def parametersEnd (declaration : Declaration) (schema : Schema H) : Reading H :=
  after (Direct.expect '>' rest) fun _ rest =>
    if schema.isEmpty then fail rest .noTypeParameters
    else ⟨rest, .declared declaration schema, frames⟩

def declared (schema : Schema H) : Declaration → Reading H
  | .ofClass => ⟨rest, .reference, .supertype schema :: frames⟩
  | .ofMethod =>
    after (Direct.expect '(' rest) fun _ rest => ⟨rest, .parameterTypes schema [], frames⟩

def interfaces (schema : Schema H) (superclass : H) (read : List H) : Reading H :=
  if rest.head?.isNone then ⟨rest, .done (.ofClass schema superclass read), frames⟩
  else ⟨rest, .reference, .interfaceType schema superclass read :: frames⟩

def parameterTypes (schema : Schema H) (read : List H) : Reading H :=
  if rest.head? = some ')' then ⟨rest, .parameterTypesEnd schema read, frames⟩
  else ⟨rest, .type, .parameterType schema read :: frames⟩

def parameterTypesEnd (schema : Schema H) (read : List H) : Reading H :=
  after (Direct.expect ')' rest) fun _ rest => ⟨rest, .type, .returnType schema read :: frames⟩

def thrownTypes (schema : Schema H) (parameters : List H) (returned : H) : Reading H :=
  if rest.head? = some '^' then
    ⟨rest.tail, .reference, .thrownType schema parameters returned :: frames⟩
  else ⟨rest, .finish (.ofMethod schema parameters returned), frames⟩

def finish (parts : Parts H) : Reading H :=
  if rest.head?.isSome then fail rest .trailingText else ⟨rest, .done parts, frames⟩

end Turn

/-- What is done on the text. A type that is to be made waits for its handle, and at the end of a
run nothing moves. -/
def Reading.turn : Reading H → Reading H
  | ⟨rest, .type, frames⟩ => Turn.type frames rest
  | ⟨rest, .reference, frames⟩ => Turn.reference frames rest
  | ⟨rest, .className, frames⟩ => Turn.className frames rest
  | ⟨rest, .arguments base, frames⟩ => Turn.arguments frames rest base
  | ⟨rest, .argumentList base read, frames⟩ => Turn.argumentList frames rest base read
  | ⟨rest, .argument, frames⟩ => Turn.argument frames rest
  | ⟨rest, .argumentsEnd base read, frames⟩ => Turn.argumentsEnd frames rest base read
  | ⟨rest, .members outer, frames⟩ => Turn.members frames rest outer
  | ⟨rest, .classEnd type, frames⟩ => Turn.classEnd frames rest type
  | ⟨rest, .make production, frames⟩ => ⟨rest, .make production, frames⟩
  | ⟨rest, .give part, frames⟩ => Turn.give frames rest part
  | ⟨rest, .typeParameters declaration, frames⟩ => Turn.typeParameters frames rest declaration
  | ⟨rest, .parameterList declaration schema, frames⟩ =>
    Turn.parameterList frames rest declaration schema
  | ⟨rest, .parameter declaration schema, frames⟩ => Turn.parameter frames rest declaration schema
  | ⟨rest, .bounds declaration schema name read, frames⟩ =>
    Turn.bounds frames rest declaration schema name read
  | ⟨rest, .parametersEnd declaration schema, frames⟩ =>
    Turn.parametersEnd frames rest declaration schema
  | ⟨rest, .declared declaration schema, frames⟩ => Turn.declared frames rest schema declaration
  | ⟨rest, .interfaces schema superclass read, frames⟩ =>
    Turn.interfaces frames rest schema superclass read
  | ⟨rest, .parameterTypes schema read, frames⟩ => Turn.parameterTypes frames rest schema read
  | ⟨rest, .parameterTypesEnd schema read, frames⟩ =>
    Turn.parameterTypesEnd frames rest schema read
  | ⟨rest, .thrownTypes schema parameters returned, frames⟩ =>
    Turn.thrownTypes frames rest schema parameters returned
  | ⟨rest, .finish parts, frames⟩ => Turn.finish frames rest parts
  | ⟨rest, .done parts, frames⟩ => ⟨rest, .done parts, frames⟩
  | ⟨rest, .failed cause, frames⟩ => ⟨rest, .failed cause, frames⟩

end

/-! ## Runs -/

/-- A point of a run: how far the reading is, and what its handles are kept in. -/
structure Point (H σ : Type) where
  reading : Reading H
  store : σ
  deriving DecidableEq, Repr

section

variable {H σ : Type}

def Task.production? : Task H → Option (Production H)
  | .make production => some production
  | _ => none

/-- The reading with the type that it has waited for. -/
def Reading.give (reading : Reading H) (part : H) : Reading H := { reading with task := .give part }

/-- One step, with a way to make a type of parts. -/
def step (build : Production H → σ → H × σ) (point : Point H σ) : Point H σ :=
  match point.reading.task.production? with
  | some production =>
    let (part, store) := build production point.store
    ⟨point.reading.give part, store⟩
  | none => ⟨point.reading.turn, point.store⟩

theorem step_of_none {build : Production H → σ → H × σ} {reading : Reading H} {store : σ}
    (hnone : reading.task.production? = none) :
    step build ⟨reading, store⟩ = ⟨reading.turn, store⟩ := by
  simp [step, hnone]

theorem step_of_some {build : Production H → σ → H × σ} {reading : Reading H} {store : σ}
    {production : Production H} (hsome : reading.task.production? = some production) :
    step build ⟨reading, store⟩ =
      ⟨reading.give (build production store).1, (build production store).2⟩ := by
  simp [step, hsome]

/-- What a text is read for. -/
inductive Goal where
  | type
  | declared (declaration : Declaration)
  deriving DecidableEq, Repr

def Goal.start (goal : Goal) (text : List Char) : Reading H :=
  match goal with
  | .type => ⟨text, .type, [.whole]⟩
  | .declared declaration => ⟨text, .typeParameters declaration, []⟩

/-- How a run has ended, if it has. -/
def Point.outcome? (text : String) (point : Point H σ) :
    Option (Except SurfaceError (Parts H × σ)) :=
  match point.reading.task with
  | .done parts => some (.ok (parts, point.store))
  | .failed cause => some (.error (Fault.toError ⟨point.reading.rest, cause⟩ text))
  | _ => none

end

/-- The node of a type whose parts are nodes. -/
def Production.node : Production NodeId → Node
  | .basic name => .basic name
  | .array element => .array element
  | .parameterized base arguments => .parameterized base arguments
  | .var name => .var name
  | .wildcard upper lower => .wildcard upper lower
  | .inner outer name => .inner outer name

def Production.type : Production JavaType → JavaType
  | .basic name => .basic name
  | .array element => .array element
  | .parameterized base arguments => .parameterized base arguments
  | .var name => .var name
  | .wildcard upper lower => .wildcard upper lower
  | .inner outer name => .inner outer name

/-- Reading into nodes. -/
def nodewise (production : Production NodeId) (arena : Arena) : NodeId × Arena :=
  arena.alloc production.node

/-- Reading in one pass. -/
def typewise (production : Production JavaType) (store : Unit) : JavaType × Unit :=
  (production.type, store)

/-- The point that reading a text into nodes has reached after some steps. -/
def Goal.nodesAt (goal : Goal) (text : String) (steps : Nat) : Point NodeId Arena :=
  (step nodewise)^[steps] ⟨goal.start text.toList, .empty⟩

/-- The point that reading a text in one pass has reached after some steps. -/
def Goal.typesAt (goal : Goal) (text : String) (steps : Nat) : Point JavaType Unit :=
  (step typewise)^[steps] ⟨goal.start text.toList, ()⟩

end ApiSurface.Signature.Stepwise
