import Mathlib.Data.List.Forall2
import ApiSurface.Proofs.SignatureShapes

/-!
# Types of nodes

A node that refers to smaller numbers only has a type that is made of the types of its children.
It does not change when nodes are added, and is the same at every depth below the node's number.
-/

namespace ApiSurface.Signature

/-- The type of a node, from the types of its children. -/
def Node.typeFrom (type : NodeId → JavaType) : Node → JavaType
  | .basic name => .basic name
  | .array element => .array (type element)
  | .parameterized base arguments => .parameterized (type base) (arguments.map type)
  | .var name => .var name
  | .wildcard upper lower => .wildcard (upper.map type) (lower.map type)
  | .inner outer name => .inner (type outer) name

theorem Node.typeFrom_congr {node : Node} {f g : NodeId → JavaType}
    (h : ∀ child ∈ node.children, f child = g child) : node.typeFrom f = node.typeFrom g := by
  cases node with
  | basic name => rfl
  | var name => rfl
  | array element => simp [typeFrom, h element (by simp [children])]
  | parameterized base arguments =>
    have hbase := h base (by simp [children])
    have harguments : arguments.map f = arguments.map g :=
      List.map_congr_left fun a ha => h a (by simp [children, ha])
    simp [typeFrom, hbase, harguments]
  | wildcard upper lower =>
    have hupper : upper.map f = upper.map g :=
      Option.map_congr fun u hu => h u (by simp [children, hu])
    have hlower : lower.map f = lower.map g :=
      Option.map_congr fun l hl => h l (by simp [children, hl])
    simp [typeFrom, hupper, hlower]
  | inner outer name => simp [typeFrom, h outer (by simp [children])]

namespace Arena

variable {arena later : Arena} {id : NodeId} {node : Node} {type : JavaType}

theorem typeWithin_succ (hnode : arena.nodes[id]? = some node) (depth : Nat) :
    arena.typeWithin (depth + 1) id = node.typeFrom (arena.typeWithin depth) := by
  cases node <;> simp [typeWithin, hnode, Node.typeFrom]

theorem exists_node (hid : id < arena.size) : ∃ node, arena.nodes[id]? = some node :=
  ⟨arena.nodes[id], Array.getElem?_eq_getElem hid⟩

/-- By induction on the depth: the children of a node have smaller numbers. -/
theorem Ordered.typeWithin_eq (h : arena.Ordered) (hgrow : arena.GrowsTo later) {depth : Nat}
    (hdepth : id < depth) (hid : id < arena.size) :
    later.typeWithin depth id = arena.materialize id := by
  suffices ∀ depth depth' id, id < depth → id < depth' → id < arena.size →
      later.typeWithin depth id = arena.typeWithin depth' id from
    this depth (id + 1) id hdepth (Nat.lt_succ_self id) hid
  intro depth
  induction depth with
  | zero => intro _ _ hdepth; exact absurd hdepth (Nat.not_lt_zero _)
  | succ depth ih =>
    intro depth' id hdepth hdepth' hid
    obtain ⟨depth', rfl⟩ := Nat.exists_eq_add_one_of_ne_zero (Nat.ne_zero_of_lt hdepth')
    obtain ⟨node, hnode⟩ := exists_node hid
    rw [typeWithin_succ (hgrow id node hnode), typeWithin_succ hnode]
    refine Node.typeFrom_congr fun child hchild => ?_
    have hlt := h id node hnode child hchild
    exact ih depth' child (Nat.lt_of_lt_of_le hlt (Nat.le_of_lt_succ hdepth))
      (Nat.lt_of_lt_of_le hlt (Nat.le_of_lt_succ hdepth')) (Nat.lt_trans hlt hid)

/-- The node is there, and this is its type. -/
structure Shows (arena : Arena) (id : NodeId) (type : JavaType) : Prop where
  inRange : id < arena.size
  type_eq : arena.materialize id = type

theorem Shows.mono (hshows : arena.Shows id type) (h : arena.Ordered)
    (hgrow : arena.GrowsTo later) : later.Shows id type := by
  obtain ⟨node, hnode⟩ := exists_node hshows.inRange
  obtain ⟨hlt, -⟩ := Array.getElem?_eq_some_iff.mp (hgrow id node hnode)
  have hsame := h.typeWithin_eq hgrow (Nat.lt_succ_self id) hshows.inRange
  exact ⟨hlt, hsame.trans hshows.type_eq⟩

theorem ordered_empty : empty.Ordered := by
  intro id node hnode
  simp [empty] at hnode

theorem Ordered.alloc (h : arena.Ordered)
    (hchildren : ∀ child ∈ node.children, child < arena.size) : (arena.alloc node).2.Ordered := by
  intro id there hthere child hchild
  rw [getElem?_alloc] at hthere
  split_ifs at hthere with hid
  · cases hthere
    exact hid ▸ hchildren child hchild
  · exact h id there hthere child hchild

theorem shows_alloc (h : arena.Ordered) (hchildren : ∀ child ∈ node.children, child < arena.size) :
    (arena.alloc node).2.Shows (arena.alloc node).1 (node.typeFrom arena.materialize) := by
  have hnode : (arena.alloc node).2.nodes[arena.size]? = some node := by
    rw [getElem?_alloc, if_pos rfl]
  obtain ⟨hlt, -⟩ := Array.getElem?_eq_some_iff.mp hnode
  refine ⟨hlt, (typeWithin_succ hnode _).trans (Node.typeFrom_congr fun child hchild => ?_)⟩
  have hrange := hchildren child hchild
  exact h.typeWithin_eq (growsTo_alloc arena node) hrange hrange

/-- Nodes with their types, one after the other. -/
abbrev ShowsAll (arena : Arena) : List NodeId → List JavaType → Prop :=
  List.Forall₂ arena.Shows

theorem ShowsAll.mono {ids : List NodeId} {types : List JavaType}
    (hshows : arena.ShowsAll ids types) (h : arena.Ordered) (hgrow : arena.GrowsTo later) :
    later.ShowsAll ids types :=
  List.Forall₂.imp (fun _ _ hid => hid.mono h hgrow) hshows

theorem ShowsAll.map_materialize {ids : List NodeId} {types : List JavaType}
    (hshows : arena.ShowsAll ids types) : ids.map arena.materialize = types := by
  induction hshows with
  | nil => rfl
  | cons hid _ ih => rw [List.map_cons, hid.type_eq, ih]

theorem ShowsAll.inRange {ids : List NodeId} {types : List JavaType}
    (hshows : arena.ShowsAll ids types) : ∀ id ∈ ids, id < arena.size := by
  induction hshows with
  | nil => simp
  | cons hid _ ih => exact List.forall_mem_cons.mpr ⟨hid.inRange, ih⟩

/-- Type parameters whose bounds are nodes, with those whose bounds are types. -/
abbrev ShowsParameters (arena : Arena) :
    PendingSchema → List (String × List JavaType) → Prop :=
  List.Forall₂ fun pending entry => pending.1 = entry.1 ∧ arena.ShowsAll pending.2 entry.2

theorem ShowsParameters.mono {pending : PendingSchema} {entries : List (String × List JavaType)}
    (hshows : arena.ShowsParameters pending entries) (h : arena.Ordered)
    (hgrow : arena.GrowsTo later) : later.ShowsParameters pending entries :=
  List.Forall₂.imp (fun _ _ hp => ⟨hp.1, ShowsAll.mono hp.2 h hgrow⟩) hshows

theorem ShowsParameters.map_materialize {pending : PendingSchema}
    {entries : List (String × List JavaType)} (hshows : arena.ShowsParameters pending entries) :
    pending.map (fun p => (p.1, p.2.map arena.materialize)) = entries := by
  induction hshows with
  | nil => rfl
  | cons hparameter _ ih => rw [List.map_cons, ih, hparameter.1, hparameter.2.map_materialize]

theorem ShowsParameters.build_eq {pending : PendingSchema} {entries : List (String × List JavaType)}
    (hshows : arena.ShowsParameters pending entries) :
    pending.build arena = TypeSchema.ofEntries entries := by
  rw [PendingSchema.build, hshows.map_materialize]

end Arena

end ApiSurface.Signature
