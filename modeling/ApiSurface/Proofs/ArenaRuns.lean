import ApiSurface.Proofs.ReaderSafety
import ApiSurface.Proofs.ReadingHandles
import ApiSurface.Proofs.StepwiseAgreement

/-!
# Nodes along a run

Reading into nodes keeps the nodes in order and holds only numbers of nodes that are there. Each
step only adds nodes, and once the types of all nodes are put in place of their numbers it is the
step that reading in one pass takes.
-/

namespace ApiSurface.Signature.Stepwise

theorem Production.children_node (production : Production NodeId) :
    production.node.children = production.parts := by
  cases production <;> rfl

theorem Production.typeFrom_node (production : Production NodeId) (type : NodeId → JavaType) :
    production.node.typeFrom type = (production.map type).type := by
  cases production <;> rfl

/-- The nodes are in order, and all those that the reading holds are there. -/
structure Sound (point : Point NodeId Arena) : Prop where
  ordered : point.store.Ordered
  held : ∃ reading : Reading (Fin point.store.size), point.reading = reading.map Fin.val

theorem Sound.lt_size {point : Point NodeId Arena} (h : Sound point) :
    ∀ id ∈ point.reading.parts, id < point.store.size := by
  intro id hid
  obtain ⟨reading, hreading⟩ := h.held
  rw [hreading, Reading.parts_map] at hid
  obtain ⟨held, -, rfl⟩ := List.mem_map.mp hid
  exact held.isLt

/-- The point with types in place of nodes. -/
def Point.types (point : Point NodeId Arena) : Point JavaType Unit :=
  ⟨point.reading.map point.store.materialize, ()⟩

/-- What one step keeps. -/
structure Kept (point : Point NodeId Arena) : Prop where
  sound : Sound (step nodewise point)
  grows : point.store.GrowsTo (step nodewise point).store
  types : (step nodewise point).types = step typewise point.types

section

variable {arena : Arena} (harena : arena.Ordered) (reading : Reading (Fin arena.size))

include harena

theorem kept_turn (hnone : reading.task.production? = none) :
    Kept ⟨reading.map Fin.val, arena⟩ := by
  have hnode : (reading.map Fin.val).task.production? = none := by
    rw [production?_map, hnone]
    rfl
  have htype : ((reading.map Fin.val).map arena.materialize).task.production? = none := by
    rw [production?_map, hnode]
    rfl
  have hstep : step nodewise ⟨reading.map Fin.val, arena⟩ = ⟨reading.turn.map Fin.val, arena⟩ := by
    rw [step_of_none hnode, turn_map]
  constructor
  · rw [hstep]
    exact ⟨harena, reading.turn, rfl⟩
  · rw [hstep]
    exact .refl arena
  · rw [hstep, Point.types, Point.types, step_of_none htype, turn_map, turn_map]

/-- The new node is made of nodes that are there, so its type is made of their types. -/
theorem kept_make {production : Production (Fin arena.size)}
    (hsome : reading.task.production? = some production) :
    Kept ⟨reading.map Fin.val, arena⟩ := by
  set made := production.map Fin.val with hmade
  set later := (arena.alloc made.node).2 with hlater
  have hnode : (reading.map Fin.val).task.production? = some made := by
    rw [production?_map, hsome]
    rfl
  have htype : ((reading.map Fin.val).map arena.materialize).task.production? =
      some (made.map arena.materialize) := by
    rw [production?_map, hnode]
    rfl
  have hchildren : ∀ child ∈ made.node.children, child < arena.size := by
    intro child hchild
    rw [Production.children_node, hmade, Production.parts_map] at hchild
    obtain ⟨part, -, rfl⟩ := List.mem_map.mp hchild
    exact part.isLt
  have hgrow : arena.GrowsTo later := Arena.growsTo_alloc arena made.node
  have hshows : later.Shows arena.size (made.node.typeFrom arena.materialize) :=
    Arena.shows_alloc harena hchildren
  have hstep : step nodewise ⟨reading.map Fin.val, arena⟩ =
      ⟨(reading.map Fin.val).give arena.size, later⟩ := step_of_some hnode
  constructor
  · rw [hstep]
    -- The old handles are bounded by the new size too, and the new one is the last below it.
    have hle : arena.size ≤ later.size := Nat.le_of_lt hshows.inRange
    refine ⟨harena.alloc hchildren,
      (reading.map (Fin.castLE hle)).give ⟨arena.size, hshows.inRange⟩, ?_⟩
    rw [← give_map, Reading.map_map]
    rfl
  · rw [hstep]
    exact hgrow
  · have hsame : later.materialize ∘ Fin.val = arena.materialize ∘ Fin.val (n := arena.size) :=
      funext fun id => harena.typeWithin_eq hgrow (Nat.lt_succ_self _) id.isLt
    have hfresh : later.materialize arena.size = (made.map arena.materialize).type :=
      hshows.type_eq.trans (made.typeFrom_node _)
    rw [hstep, Point.types, Point.types, step_of_some htype, ← give_map, Reading.map_map,
      Reading.map_map, hsame, hfresh]
    rfl

end

theorem Sound.kept {point : Point NodeId Arena} (h : Sound point) : Kept point := by
  obtain ⟨held, arena⟩ := point
  obtain ⟨harena, reading, hreading⟩ := h
  have hpoint : (⟨held, arena⟩ : Point NodeId Arena) = ⟨reading.map Fin.val, arena⟩ :=
    congrArg (Point.mk · arena) hreading
  rw [hpoint]
  cases hmake : reading.task.production? with
  | none => exact kept_turn harena reading hmake
  | some production => exact kept_make harena reading hmake

/-! ## Runs -/

section

variable (goal : Goal) (text : String)

theorem nodesAt_succ (steps : Nat) :
    goal.nodesAt text (steps + 1) = step nodewise (goal.nodesAt text steps) :=
  Function.iterate_succ_apply' _ _ _

theorem typesAt_succ (steps : Nat) :
    goal.typesAt text (steps + 1) = step typewise (goal.typesAt text steps) :=
  Function.iterate_succ_apply' _ _ _

/-- A reading holds nothing at first, so any handles may be put in place of those it holds. -/
theorem start_map {H K : Type} (f : H → K) (text : List Char) :
    (goal.start text).map f = goal.start text := by
  cases goal <;> rfl

theorem sound_nodesAt (steps : Nat) : Sound (goal.nodesAt text steps) := by
  induction steps with
  | zero => exact ⟨Arena.ordered_empty, goal.start text.toList, (start_map goal _ _).symm⟩
  | succ steps ih =>
    rw [nodesAt_succ]
    exact ih.kept.sound

/-- Put types in place of nodes, and reading into nodes is reading in one pass. -/
theorem types_nodesAt (steps : Nat) :
    (goal.nodesAt text steps).types = goal.typesAt text steps := by
  induction steps with
  | zero => exact congrArg (Point.mk · ()) (start_map goal _ _)
  | succ steps ih => rw [nodesAt_succ, typesAt_succ, (sound_nodesAt goal text steps).kept.types, ih]

theorem growsTo_nodesAt {steps later : Nat} (hle : steps ≤ later) :
    (goal.nodesAt text steps).store.GrowsTo (goal.nodesAt text later).store := by
  obtain ⟨more, rfl⟩ := Nat.exists_eq_add_of_le hle
  induction more with
  | zero => exact .refl _
  | succ more ih =>
    rw [← Nat.add_assoc, nodesAt_succ]
    exact (ih (Nat.le_add_right ..)).trans (sound_nodesAt goal text _).kept.grows

end

/-! ## Whole texts -/

/-- Reads a whole text in one pass. -/
def Goal.direct : Goal → Nat → List Char → Except Fault (Parts JavaType × List Char)
  | .type, fuel, text => do
    let (read, rest) ← Direct.wholeType fuel text
    .ok (.type read, rest)
  | .declared .ofClass, fuel, text => do
    let ((schema, superclass, interfaces), rest) ← Direct.wholeClass fuel text
    .ok (.ofClass schema superclass interfaces, rest)
  | .declared .ofMethod, fuel, text => do
    let ((schema, parameters, returned), rest) ← Direct.wholeMethod fuel text
    .ok (.ofMethod schema parameters returned, rest)

theorem follows_goal (goal : Goal) (fuel : Nat) (text : List Char) :
    Follows (fun arena parts types => parts.map arena.materialize = types) .empty
      (goal.reader fuel ⟨text, .empty⟩) (goal.direct fuel text) := by
  match goal with
  | .type =>
    refine follows_bind (follows_wholeType fuel text) fun id type rest later hordered _ hid => ?_
    exact follows_ok hordered (congrArg Parts.type hid.type_eq)
  | .declared .ofClass =>
    refine follows_bind (follows_wholeClass fuel text) fun ids types rest later hordered _ h => ?_
    obtain ⟨hschema, hsuperclass, hinterfaces⟩ := h
    have hbounds : Schema.mapBounds later.materialize ids.1 = types.1 := hschema.map_materialize
    refine follows_ok hordered ?_
    rw [Parts.map, hbounds, hsuperclass.type_eq, hinterfaces.map_materialize]
  | .declared .ofMethod =>
    refine follows_bind (follows_wholeMethod fuel text) fun ids types rest later hordered _ h => ?_
    obtain ⟨hschema, hparameters, hreturned⟩ := h
    have hbounds : Schema.mapBounds later.materialize ids.1 = types.1 := hschema.map_materialize
    refine follows_ok hordered ?_
    rw [Parts.map, hbounds, hparameters.map_materialize, hreturned.type_eq]

/-- The types of the nodes that are read are those that reading in one pass gives. -/
theorem read_direct (goal : Goal) (text : String) :
    Direct.read goal.direct text =
      (run goal.reader text).map fun read => read.1.map read.2.materialize := by
  rcases run_cases fun fuel => follows_goal goal fuel text.toList with
    ⟨e, hrun, hread⟩ | ⟨parts, arena, types, hrun, hread, htypes⟩
  · rw [hrun, hread]
    rfl
  · rw [hrun, hread, ← htypes]
    rfl

theorem outcome?_types (point : Point NodeId Arena) (text : String) :
    point.types.outcome? text = (point.outcome? text).map
      (Except.map fun read => (read.1.map read.2.materialize, ())) := by
  obtain ⟨⟨rest, task, frames⟩, arena⟩ := point
  cases task <;> rfl

/-- Reading into nodes is sound at every point of the run of any text, of which each production of
the recursive readers is a stretch. Nodes refer to nodes with smaller numbers, the reading holds
numbers of nodes that are there, and no node changes later on. So the types of all nodes can be
built without a trap, at once or later, and with types in place of nodes the point is the one that
reading in one pass has reached. Both runs end, as the recursive readers do, with the same types for
all that is read. -/
theorem nodes_sound (goal : Goal) (text : String) :
    (∀ fuel, Performed fuel) ∧
    (∃ steps, ∀ later, steps ≤ later →
      (goal.nodesAt text later).outcome? text = some (run goal.reader text) ∧
      (goal.typesAt text later).outcome? text =
        some ((Direct.read goal.direct text).map fun parts => (parts, ()))) ∧
    Direct.read goal.direct text =
      (run goal.reader text).map (fun read => read.1.map read.2.materialize) ∧
    ∀ steps, let point := goal.nodesAt text steps
      point.store.Ordered ∧ (∀ id ∈ point.reading.parts, id < point.store.size) ∧
      goal.typesAt text steps = point.types ∧
      ∀ later, steps ≤ later → let next := goal.nodesAt text later
        point.store.GrowsTo next.store ∧
        ∀ id, id < point.store.size → ∀ clock, id < clock →
          Bytewise.materialize next.store clock id = .ok (point.store.materialize id) := by
  refine ⟨performed, ?_, read_direct goal text, fun steps => ?_⟩
  · obtain ⟨steps, houtcome⟩ := exists_outcome_nodesAt goal text
    refine ⟨steps, fun later hle => ⟨houtcome later hle, ?_⟩⟩
    rw [← types_nodesAt, outcome?_types, houtcome later hle, read_direct]
    cases run goal.reader text <;> rfl
  · have hsound := sound_nodesAt goal text steps
    refine ⟨hsound.ordered, hsound.lt_size, (types_nodesAt goal text steps).symm, ?_⟩
    intro later hle
    have hgrow := growsTo_nodesAt goal text hle
    refine ⟨hgrow, fun id hid clock hclock => ?_⟩
    have hshows : (goal.nodesAt text later).store.Shows id _ :=
      Arena.Shows.mono ⟨hid, rfl⟩ hsound.ordered hgrow
    rw [← hshows.type_eq]
    exact Bytewise.materialize_eq (sound_nodesAt goal text later).ordered hshows.inRange hclock

/-- The bound of the first parameter mentions the second one. When it has been read, nothing is
known of the second parameter yet, and node `2` stands for the bound until the end. -/
theorem nodes_sound_of_later_parameter :
    let goal : Goal := .declared .ofClass
    let text := "<T:La/C<TU;>;U:La/O;>La/B<TT;>.D<*>;"
    let bound : JavaType := .parameterized (.basic "a.C") [.var "U"]
    (goal.nodesAt text 20).reading.task = .bounds .ofClass [] "T" [2] ∧
      (goal.nodesAt text 20).store.size = 3 ∧
      (goal.typesAt text 20).reading.task = .bounds .ofClass [] "T" [bound] ∧
      Bytewise.materialize (goal.nodesAt text 65).store 3 2 = .ok bound ∧
      (goal.nodesAt text 65).outcome? text = some (run goal.reader text) ∧
      Direct.read goal.direct text = .ok (.ofClass [("T", [bound]), ("U", [.basic "a.O"])]
        (.parameterized (.inner (.parameterized (.basic "a.B") [.var "T"]) "D")
          [.wildcard none none]) []) := by
  intro goal text bound
  obtain ⟨-, -, -, hpoint⟩ := nodes_sound goal text
  obtain ⟨-, -, htypes, hlater⟩ := hpoint 20
  have hsize : (goal.nodesAt text 20).store.size = 3 := by decide +kernel
  have hbound : (goal.nodesAt text 20).store.materialize 2 = bound := by decide +kernel
  refine ⟨by decide +kernel, hsize, ?_, ?_, by decide +kernel, by decide +kernel⟩
  · rw [htypes]
    decide +kernel
  · rw [← hbound]
    exact (hlater 65 (by decide)).2 2 (by rw [hsize]; decide) 3 (by decide)

/-- The class, the variable, the array and the whole are one node each. -/
example :
    let text := "Ljava/util/List<[TT;>;"
    ((Goal.type.nodesAt text 30).outcome? text).map
        (Except.map fun read => (read.1.map read.2.materialize, read.2.size)) =
      some (.ok (.type (.parameterized (.basic "java.util.List") [.array (.var "T")]), 4)) := by
  decide +kernel

end ApiSurface.Signature.Stepwise
