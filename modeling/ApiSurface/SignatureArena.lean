import ApiSurface.TypeSchema

/-!
# Nodes of a signature under reading

A signature is read into numbered nodes first, and types are built from the nodes once the whole
text has been seen. A node refers to nodes with smaller numbers only.
-/

namespace ApiSurface.Signature

abbrev NodeId := Nat

inductive Node where
  | basic (name : String)
  | array (element : NodeId)
  | parameterized (base : NodeId) (arguments : List NodeId)
  | var (name : String)
  | wildcard (upper lower : Option NodeId)
  | inner (outer : NodeId) (name : String)
  deriving DecidableEq, Repr

def Node.children : Node → List NodeId
  | .basic _ | .var _ => []
  | .array element => [element]
  | .parameterized base arguments => base :: arguments
  | .wildcard upper lower => upper.toList ++ lower.toList
  | .inner outer _ => [outer]

structure Arena where
  nodes : Array Node
  deriving DecidableEq, Repr

namespace Arena

def empty : Arena := ⟨#[]⟩

def size (arena : Arena) : Nat := arena.nodes.size

def alloc (arena : Arena) (node : Node) : NodeId × Arena :=
  (arena.size, ⟨arena.nodes.push node⟩)

/-- The type of a node, down to the given depth. Below it, and where no node is, stands the class
of all objects. -/
def typeWithin (arena : Arena) : Nat → NodeId → JavaType
  | 0, _ => .object
  | depth + 1, id =>
    match arena.nodes[id]? with
    | none => .object
    | some (.basic name) => .basic name
    | some (.array element) => .array (arena.typeWithin depth element)
    | some (.parameterized base arguments) =>
      .parameterized (arena.typeWithin depth base) (arguments.map (arena.typeWithin depth))
    | some (.var name) => .var name
    | some (.wildcard upper lower) =>
      .wildcard (upper.map (arena.typeWithin depth)) (lower.map (arena.typeWithin depth))
    | some (.inner outer name) => .inner (arena.typeWithin depth outer) name

/-- Nodes refer to smaller numbers, so a node's own number bounds the depth of its type. -/
def materialize (arena : Arena) (id : NodeId) : JavaType := arena.typeWithin (id + 1) id

/-- Every node refers to smaller numbers only. -/
def Ordered (arena : Arena) : Prop :=
  ∀ (id : NodeId) (node : Node), arena.nodes[id]? = some node → ∀ child ∈ node.children, child < id

end Arena

/-- Type parameters as read, their bounds still nodes. -/
abbrev PendingSchema := List (String × List NodeId)

def PendingSchema.build (pending : PendingSchema) (arena : Arena) :
    Except SurfaceError TypeSchema :=
  TypeSchema.ofEntries (pending.map fun p => (p.1, p.2.map arena.materialize))

end ApiSurface.Signature
