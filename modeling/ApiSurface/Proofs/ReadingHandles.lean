import ApiSurface.Proofs.StepwiseReading

/-!
# Handles of a reading

A reading moves handles about, but does not look at them: with other handles in their place it does
the same. So it holds no handle that it has not been given.
-/

namespace ApiSurface.Signature.Stepwise

variable {H K L : Type}

/-! ## Other handles -/

def Production.map (f : H → K) : Production H → Production K
  | .basic name => .basic name
  | .array element => .array (f element)
  | .parameterized base arguments => .parameterized (f base) (arguments.map f)
  | .var name => .var name
  | .wildcard upper lower => .wildcard (upper.map f) (lower.map f)
  | .inner outer name => .inner (f outer) name

def Schema.mapBounds (f : H → K) (schema : Schema H) : Schema K :=
  schema.map fun parameter => (parameter.1, parameter.2.map f)

def Parts.map (f : H → K) : Parts H → Parts K
  | .type part => .type (f part)
  | .ofClass schema superclass interfaces =>
    .ofClass (schema.mapBounds f) (f superclass) (interfaces.map f)
  | .ofMethod schema parameters returned =>
    .ofMethod (schema.mapBounds f) (parameters.map f) (f returned)

def Task.map (f : H → K) : Task H → Task K
  | .type => .type
  | .reference => .reference
  | .className => .className
  | .arguments base => .arguments (f base)
  | .argumentList base read => .argumentList (f base) (read.map f)
  | .argument => .argument
  | .argumentsEnd base read => .argumentsEnd (f base) (read.map f)
  | .members outer => .members (f outer)
  | .classEnd part => .classEnd (f part)
  | .make production => .make (production.map f)
  | .give part => .give (f part)
  | .typeParameters declaration => .typeParameters declaration
  | .parameterList declaration schema => .parameterList declaration (schema.mapBounds f)
  | .parameter declaration schema => .parameter declaration (schema.mapBounds f)
  | .bounds declaration schema name read =>
    .bounds declaration (schema.mapBounds f) name (read.map f)
  | .parametersEnd declaration schema => .parametersEnd declaration (schema.mapBounds f)
  | .declared declaration schema => .declared declaration (schema.mapBounds f)
  | .interfaces schema superclass read =>
    .interfaces (schema.mapBounds f) (f superclass) (read.map f)
  | .parameterTypes schema read => .parameterTypes (schema.mapBounds f) (read.map f)
  | .parameterTypesEnd schema read => .parameterTypesEnd (schema.mapBounds f) (read.map f)
  | .thrownTypes schema parameters returned =>
    .thrownTypes (schema.mapBounds f) (parameters.map f) (f returned)
  | .finish parts => .finish (parts.map f)
  | .done parts => .done (parts.map f)
  | .failed cause => .failed cause

def Frame.map (f : H → K) : Frame H → Frame K
  | .array => .array
  | .upper => .upper
  | .lower => .lower
  | .argument base read => .argument (f base) (read.map f)
  | .stem => .stem
  | .outer => .outer
  | .bound declaration schema name read =>
    .bound declaration (schema.mapBounds f) name (read.map f)
  | .supertype schema => .supertype (schema.mapBounds f)
  | .interfaceType schema superclass read =>
    .interfaceType (schema.mapBounds f) (f superclass) (read.map f)
  | .parameterType schema read => .parameterType (schema.mapBounds f) (read.map f)
  | .returnType schema parameters => .returnType (schema.mapBounds f) (parameters.map f)
  | .thrownType schema parameters returned =>
    .thrownType (schema.mapBounds f) (parameters.map f) (f returned)
  | .whole => .whole

def Reading.map (f : H → K) (reading : Reading H) : Reading K :=
  ⟨reading.rest, reading.task.map f, reading.frames.map (Frame.map f)⟩

/-! ## Handles that are held -/

def Production.parts : Production H → List H
  | .basic _ | .var _ => []
  | .array element => [element]
  | .parameterized base arguments => base :: arguments
  | .wildcard upper lower => upper.toList ++ lower.toList
  | .inner outer _ => [outer]

/-- The bounds of all type parameters. -/
def Schema.parts (schema : Schema H) : List H := schema.flatMap Prod.snd

def Parts.parts : Parts H → List H
  | .type part => [part]
  | .ofClass schema superclass interfaces => schema.parts ++ superclass :: interfaces
  | .ofMethod schema parameters returned => schema.parts ++ parameters ++ [returned]

def Task.parts : Task H → List H
  | .type | .reference | .className | .argument | .typeParameters _ | .failed _ => []
  | .arguments part | .members part | .classEnd part | .give part => [part]
  | .argumentList base read | .argumentsEnd base read => base :: read
  | .make production => production.parts
  | .parameterList _ schema | .parameter _ schema | .parametersEnd _ schema
  | .declared _ schema => schema.parts
  | .bounds _ schema _ read | .parameterTypes schema read | .parameterTypesEnd schema read =>
    schema.parts ++ read
  | .interfaces schema superclass read => schema.parts ++ superclass :: read
  | .thrownTypes schema parameters returned => schema.parts ++ parameters ++ [returned]
  | .finish parts | .done parts => parts.parts

def Frame.parts : Frame H → List H
  | .array | .upper | .lower | .stem | .outer | .whole => []
  | .argument base read => base :: read
  | .supertype schema => schema.parts
  | .bound _ schema _ read | .parameterType schema read | .returnType schema read =>
    schema.parts ++ read
  | .interfaceType schema superclass read => schema.parts ++ superclass :: read
  | .thrownType schema parameters returned => schema.parts ++ parameters ++ [returned]

/-- All handles that a reading holds, also in the frames that wait. -/
def Reading.parts (reading : Reading H) : List H :=
  reading.task.parts ++ reading.frames.flatMap Frame.parts

/-! ## Twice other handles -/

section

variable (f : H → K) (g : K → L)

@[simp]
theorem Production.map_map (production : Production H) :
    (production.map f).map g = production.map (g ∘ f) := by
  cases production <;> simp [map]

@[simp]
theorem Schema.mapBounds_mapBounds (schema : Schema H) :
    (schema.mapBounds f).mapBounds g = schema.mapBounds (g ∘ f) := by
  simp [mapBounds]

@[simp]
theorem Parts.map_map (parts : Parts H) : (parts.map f).map g = parts.map (g ∘ f) := by
  cases parts <;> simp [map]

@[simp]
theorem Task.map_map (task : Task H) : (task.map f).map g = task.map (g ∘ f) := by
  cases task <;> simp [map]

@[simp]
theorem Frame.map_map (frame : Frame H) : (frame.map f).map g = frame.map (g ∘ f) := by
  cases frame <;> simp [map]

@[simp]
theorem Reading.map_map (reading : Reading H) :
    (reading.map f).map g = reading.map (g ∘ f) := by
  simp [map]

@[simp]
theorem Production.parts_map (production : Production H) :
    (production.map f).parts = production.parts.map f := by
  cases production with
  | wildcard upper lower => cases upper <;> cases lower <;> simp [map, parts]
  | _ => simp [map, parts]

@[simp]
theorem Schema.parts_mapBounds (schema : Schema H) :
    (schema.mapBounds f).parts = schema.parts.map f := by
  simp [mapBounds, parts, List.flatMap_map, List.map_flatMap]

@[simp]
theorem Parts.parts_map (parts : Parts H) : (parts.map f).parts = parts.parts.map f := by
  cases parts <;> simp [map, Parts.parts]

@[simp]
theorem Task.parts_map (task : Task H) : (task.map f).parts = task.parts.map f := by
  cases task <;> simp [map, parts]

@[simp]
theorem Frame.parts_map (frame : Frame H) : (frame.map f).parts = frame.parts.map f := by
  cases frame <;> simp [map, parts]

@[simp]
theorem Reading.parts_map (reading : Reading H) :
    (reading.map f).parts = reading.parts.map f := by
  simp [map, parts, List.flatMap_map, List.map_flatMap]

@[simp]
theorem Schema.isEmpty_mapBounds (schema : Schema H) :
    (schema.mapBounds f).isEmpty = schema.isEmpty := by
  simp [mapBounds]

end

/-! ## Turns with other handles -/

section

variable (f : H → K) (frames : List (Frame H)) (rest : List Char)

theorem map_after {α : Type} (result : Except Fault (α × List Char))
    (next : α → List Char → Reading H) :
    (after result next).map f = after result fun a rest => (next a rest).map f := by
  cases result <;> rfl

theorem resume_map (part : H) (frame : Frame H) :
    (frame.map f).resume (f part) = (frame.resume part).map f := by
  cases frame <;> simp [Frame.map, Frame.resume, Task.map, Production.map, Parts.map]

namespace Turn

theorem map_type : (type frames rest).map f = type (frames.map (Frame.map f)) rest := by
  unfold type
  cases rest.head? with
  | none => rfl
  | some c =>
    simp only
    split_ifs
    · rfl
    · cases primitiveName c <;> rfl

theorem map_reference :
    (reference frames rest).map f = reference (frames.map (Frame.map f)) rest := by
  unfold reference
  split
  · rfl
  · rfl
  · simp only [map_after]
    rfl
  · rfl
  · rfl

theorem map_className :
    (className frames rest).map f = className (frames.map (Frame.map f)) rest := by
  simp only [className, map_after]
  rfl

theorem map_arguments (base : H) :
    (arguments frames rest base).map f = arguments (frames.map (Frame.map f)) rest (f base) := by
  unfold arguments
  split_ifs <;> rfl

theorem map_argumentList (base : H) (read : List H) :
    (argumentList frames rest base read).map f =
      argumentList (frames.map (Frame.map f)) rest (f base) (read.map f) := by
  unfold argumentList
  split_ifs <;> rfl

theorem map_argument :
    (argument frames rest).map f = argument (frames.map (Frame.map f)) rest := by
  unfold argument
  split <;> rfl

theorem map_argumentsEnd (base : H) (read : List H) :
    (argumentsEnd frames rest base read).map f =
      argumentsEnd (frames.map (Frame.map f)) rest (f base) (read.map f) := by
  simp only [argumentsEnd, map_after, List.isEmpty_map, apply_ite (Reading.map f)]
  rfl

theorem map_members (outer : H) :
    (members frames rest outer).map f = members (frames.map (Frame.map f)) rest (f outer) := by
  unfold members
  split_ifs
  · simp only [map_after]
    rfl
  · rfl

theorem map_classEnd (part : H) :
    (classEnd frames rest part).map f = classEnd (frames.map (Frame.map f)) rest (f part) := by
  simp only [classEnd, map_after]
  rfl

theorem map_give (part : H) :
    (give frames rest part).map f = give (frames.map (Frame.map f)) rest (f part) := by
  cases frames with
  | nil => rfl
  | cons frame frames => simp [give, Reading.map, resume_map]

theorem map_typeParameters (declaration : Declaration) :
    (typeParameters frames rest declaration).map f =
      typeParameters (frames.map (Frame.map f)) rest declaration := by
  unfold typeParameters
  split_ifs <;> rfl

theorem map_parameterList (declaration : Declaration) (schema : Schema H) :
    (parameterList frames rest declaration schema).map f =
      parameterList (frames.map (Frame.map f)) rest declaration (schema.mapBounds f) := by
  unfold parameterList
  split_ifs <;> rfl

theorem map_parameter (declaration : Declaration) (schema : Schema H) :
    (parameter frames rest declaration schema).map f =
      parameter (frames.map (Frame.map f)) rest declaration (schema.mapBounds f) := by
  simp only [parameter, map_after, apply_ite (Reading.map f)]
  rfl

theorem map_bounds (declaration : Declaration) (schema : Schema H) (name : String)
    (read : List H) :
    (bounds frames rest declaration schema name read).map f =
      bounds (frames.map (Frame.map f)) rest declaration (schema.mapBounds f) name
        (read.map f) := by
  unfold bounds
  split_ifs
  · rfl
  · simp [Reading.map, Task.map, Schema.mapBounds]

theorem map_parametersEnd (declaration : Declaration) (schema : Schema H) :
    (parametersEnd frames rest declaration schema).map f =
      parametersEnd (frames.map (Frame.map f)) rest declaration (schema.mapBounds f) := by
  simp only [parametersEnd, map_after, Schema.isEmpty_mapBounds, apply_ite (Reading.map f)]
  rfl

theorem map_declared (schema : Schema H) (declaration : Declaration) :
    (declared frames rest schema declaration).map f =
      declared (frames.map (Frame.map f)) rest (schema.mapBounds f) declaration := by
  cases declaration with
  | ofClass => rfl
  | ofMethod =>
    simp only [declared, map_after]
    rfl

theorem map_interfaces (schema : Schema H) (superclass : H) (read : List H) :
    (interfaces frames rest schema superclass read).map f =
      interfaces (frames.map (Frame.map f)) rest (schema.mapBounds f) (f superclass)
        (read.map f) := by
  unfold interfaces
  split_ifs <;> rfl

theorem map_parameterTypes (schema : Schema H) (read : List H) :
    (parameterTypes frames rest schema read).map f =
      parameterTypes (frames.map (Frame.map f)) rest (schema.mapBounds f) (read.map f) := by
  unfold parameterTypes
  split_ifs <;> rfl

theorem map_parameterTypesEnd (schema : Schema H) (read : List H) :
    (parameterTypesEnd frames rest schema read).map f =
      parameterTypesEnd (frames.map (Frame.map f)) rest (schema.mapBounds f) (read.map f) := by
  simp only [parameterTypesEnd, map_after]
  rfl

theorem map_thrownTypes (schema : Schema H) (parameters : List H) (returned : H) :
    (thrownTypes frames rest schema parameters returned).map f =
      thrownTypes (frames.map (Frame.map f)) rest (schema.mapBounds f) (parameters.map f)
        (f returned) := by
  unfold thrownTypes
  split_ifs <;> rfl

theorem map_finish (parts : Parts H) :
    (finish frames rest parts).map f = finish (frames.map (Frame.map f)) rest (parts.map f) := by
  unfold finish
  split_ifs <;> rfl

end Turn

/-- With other handles a reading takes the same turn. -/
theorem turn_map (reading : Reading H) : (reading.map f).turn = reading.turn.map f := by
  obtain ⟨rest, task, frames⟩ := reading
  cases task with
  | type => exact (Turn.map_type ..).symm
  | reference => exact (Turn.map_reference ..).symm
  | className => exact (Turn.map_className ..).symm
  | arguments base => exact (Turn.map_arguments ..).symm
  | argumentList base read => exact (Turn.map_argumentList ..).symm
  | argument => exact (Turn.map_argument ..).symm
  | argumentsEnd base read => exact (Turn.map_argumentsEnd ..).symm
  | members outer => exact (Turn.map_members ..).symm
  | classEnd part => exact (Turn.map_classEnd ..).symm
  | make production => rfl
  | give part => exact (Turn.map_give ..).symm
  | typeParameters declaration => exact (Turn.map_typeParameters ..).symm
  | parameterList declaration schema => exact (Turn.map_parameterList ..).symm
  | parameter declaration schema => exact (Turn.map_parameter ..).symm
  | bounds declaration schema name read => exact (Turn.map_bounds ..).symm
  | parametersEnd declaration schema => exact (Turn.map_parametersEnd ..).symm
  | declared declaration schema => exact (Turn.map_declared ..).symm
  | interfaces schema superclass read => exact (Turn.map_interfaces ..).symm
  | parameterTypes schema read => exact (Turn.map_parameterTypes ..).symm
  | parameterTypesEnd schema read => exact (Turn.map_parameterTypesEnd ..).symm
  | thrownTypes schema parameters returned => exact (Turn.map_thrownTypes ..).symm
  | finish parts => exact (Turn.map_finish ..).symm
  | done parts => rfl
  | failed cause => rfl

theorem give_map (reading : Reading H) (part : H) :
    (reading.map f).give (f part) = (reading.give part).map f := rfl

theorem production?_map (reading : Reading H) :
    (reading.map f).task.production? = reading.task.production?.map (Production.map f) := by
  obtain ⟨rest, task, frames⟩ := reading
  cases task <;> rfl

end

end ApiSurface.Signature.Stepwise
