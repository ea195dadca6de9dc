import Mathlib.Tactic.Common
import ApiSurface.Signature

/-!
# The shape of read types

In a type that is read from a signature, arguments and members follow classes only: the base of a
generic type and the outer type of a member have a class of their own. The readers keep this of
the nodes that they make, since arguments and member names are read behind a class name.
-/

namespace ApiSurface

/-- Every generic type has a class as its base, and every member one as its outer type. -/
inductive JavaType.Written : JavaType → Prop where
  | basic (name : String) : Written (.basic name)
  | array {element : JavaType} : Written element → Written (.array element)
  | parameterized {base : JavaType} {arguments : List JavaType} :
      base.erasure.isSome = true → Written base → (∀ a ∈ arguments, Written a) →
      Written (.parameterized base arguments)
  | var (name : String) : Written (.var name)
  | wildcard {upper lower : Option JavaType} :
      (∀ u ∈ upper, Written u) → (∀ l ∈ lower, Written l) → Written (.wildcard upper lower)
  | inner {outer : JavaType} {name : String} :
      outer.erasure.isSome = true → Written outer → Written (.inner outer name)

namespace Signature

def Node.isClass : Node → Bool
  | .basic _ | .parameterized _ _ | .inner _ _ => true
  | .array _ | .var _ | .wildcard _ _ => false

/-- The node that arguments or a member name are added to. -/
def Node.stem? : Node → Option NodeId
  | .parameterized base _ => some base
  | .inner outer _ => some outer
  | .basic _ | .array _ | .var _ | .wildcard _ _ => none

namespace Arena

def HasClass (arena : Arena) (id : NodeId) : Prop :=
  ∃ node, arena.nodes[id]? = some node ∧ node.isClass = true

/-- Arguments and members follow classes. -/
def Stemmed (arena : Arena) : Prop :=
  ∀ (id : NodeId) (node : Node), arena.nodes[id]? = some node →
    ∀ stem ∈ node.stem?, arena.HasClass stem

/-- Nodes are only added. -/
def GrowsTo (arena later : Arena) : Prop :=
  ∀ (id : NodeId) (node : Node), arena.nodes[id]? = some node → later.nodes[id]? = some node

variable {arena later last : Arena} {id : NodeId} {node : Node}

theorem GrowsTo.refl (arena : Arena) : arena.GrowsTo arena := fun _ _ hnode => hnode

theorem GrowsTo.trans (h : arena.GrowsTo later) (h' : later.GrowsTo last) : arena.GrowsTo last :=
  fun id node hnode => h' id node (h id node hnode)

theorem HasClass.mono (h : arena.HasClass id) (hgrow : arena.GrowsTo later) :
    later.HasClass id :=
  have ⟨node, hnode, hclass⟩ := h
  ⟨node, hgrow id node hnode, hclass⟩

theorem getElem?_alloc (arena : Arena) (node : Node) (id : NodeId) :
    (arena.alloc node).2.nodes[id]? =
      if id = arena.size then some node else arena.nodes[id]? :=
  Array.getElem?_push

theorem growsTo_alloc (arena : Arena) (node : Node) :
    arena.GrowsTo (arena.alloc node).2 := by
  intro id old hold
  obtain ⟨hlt, -⟩ := Array.getElem?_eq_some_iff.mp hold
  rw [getElem?_alloc, if_neg (show id ≠ arena.size from Nat.ne_of_lt hlt), hold]

theorem hasClass_alloc (arena : Arena) (hclass : node.isClass = true) :
    (arena.alloc node).2.HasClass (arena.alloc node).1 :=
  ⟨node, (getElem?_alloc arena node _).trans (if_pos rfl), hclass⟩

theorem Stemmed.alloc (h : arena.Stemmed) (hstem : ∀ stem ∈ node.stem?, arena.HasClass stem) :
    (arena.alloc node).2.Stemmed := by
  intro id there hthere stem hmem
  refine HasClass.mono ?_ (growsTo_alloc arena node)
  rw [getElem?_alloc] at hthere
  split_ifs at hthere with hid
  · cases hthere
    exact hstem stem hmem
  · exact h id there hthere stem hmem

theorem stemmed_empty : empty.Stemmed := by
  intro id node hnode
  simp [empty] at hnode

/-- The type of a class node has a class, down to whatever depth it is built. -/
theorem Stemmed.isSome_erasure (h : arena.Stemmed) (depth : Nat) (hid : arena.HasClass id) :
    (arena.typeWithin depth id).erasure.isSome = true := by
  induction depth generalizing id with
  | zero => rfl
  | succ depth ih =>
    obtain ⟨node, hnode, hclass⟩ := hid
    have hstem := h id node hnode
    cases node with
    | basic name => simp [typeWithin, hnode, JavaType.erasure]
    | parameterized base arguments =>
      simpa [typeWithin, hnode, JavaType.erasure] using ih (hstem base rfl)
    | inner outer name =>
      simpa [typeWithin, hnode, JavaType.erasure] using ih (hstem outer rfl)
    | array element => cases hclass
    | var name => cases hclass
    | wildcard upper lower => cases hclass

theorem Stemmed.written (h : arena.Stemmed) (depth : Nat) (id : NodeId) :
    (arena.typeWithin depth id).Written := by
  induction depth generalizing id with
  | zero => exact .basic _
  | succ depth ih =>
    cases hnode : arena.nodes[id]? with
    | none =>
      simp only [typeWithin, hnode]
      exact .basic _
    | some node =>
      have hstem := h id node hnode
      cases node with
      | basic name =>
        simp only [typeWithin, hnode]
        exact .basic name
      | array element =>
        simp only [typeWithin, hnode]
        exact .array (ih element)
      | parameterized base arguments =>
        simp only [typeWithin, hnode]
        refine .parameterized (h.isSome_erasure depth (hstem base rfl)) (ih base) ?_
        exact List.forall_mem_map.mpr fun argument _ => ih argument
      | var name =>
        simp only [typeWithin, hnode]
        exact .var name
      | wildcard upper lower =>
        simp only [typeWithin, hnode]
        refine .wildcard ?_ ?_
        · simpa using fun bound _ => ih bound
        · simpa using fun bound _ => ih bound
      | inner outer name =>
        simp only [typeWithin, hnode]
        exact .inner (h.isSome_erasure depth (hstem outer rfl)) (ih outer)

end Arena

/-! ## Readers -/

/-- If the reader succeeds, then it has only added nodes, arguments and members still follow
classes, and the value and the nodes are as said. -/
def Reader.Makes {α : Type} (reader : Reader α) (start : Cursor) (post : α → Arena → Prop) :
    Prop :=
  ∀ value after, reader start = .ok (value, after) →
    after.arena.Stemmed ∧ start.arena.GrowsTo after.arena ∧ post value after.arena

namespace Reader

variable {α β : Type} {start : Cursor} {post : α → Arena → Prop}

theorem makes_pure {a : α} (hstart : start.arena.Stemmed) (h : post a start.arena) :
    Makes (pure a) start post := by
  rintro _ _ ⟨⟩
  exact ⟨hstart, .refl _, h⟩

theorem makes_fail {cause : SignatureFault} : Makes (fail cause : Reader α) start post := by
  rintro _ _ ⟨⟩

theorem bind_apply (reader : Reader β) (f : β → Reader α) (cursor : Cursor) :
    (reader >>= f) cursor = reader cursor >>= fun read => f read.1 read.2 := rfl

theorem makes_bind {reader : Reader β} {f : β → Reader α} {P : β → Arena → Prop}
    (hreader : Makes reader start P)
    (hf : ∀ b between, between.arena.Stemmed → start.arena.GrowsTo between.arena →
      P b between.arena → Makes (f b) between post) : Makes (reader >>= f) start post := by
  intro a after hrun
  rw [bind_apply] at hrun
  cases hread : reader start with
  | error fault =>
    rw [hread] at hrun
    cases hrun
  | ok result =>
    obtain ⟨b, between⟩ := result
    rw [hread] at hrun
    obtain ⟨hstemmed, hgrow, hpost⟩ := hreader b between hread
    obtain ⟨hstemmed', hgrow', hpost'⟩ := hf b between hstemmed hgrow hpost a after hrun
    exact ⟨hstemmed', hgrow.trans hgrow', hpost'⟩

theorem makes_peek (hstart : start.arena.Stemmed) : Makes peek start fun _ _ => True := by
  rintro _ _ ⟨⟩
  exact ⟨hstart, .refl _, trivial⟩

theorem makes_skip (hstart : start.arena.Stemmed) : Makes skip start fun _ _ => True := by
  rintro _ _ ⟨⟩
  exact ⟨hstart, .refl _, trivial⟩

theorem makes_expect (wanted : Char) (hstart : start.arena.Stemmed) :
    Makes (expect wanted) start fun _ _ => True := by
  refine makes_bind (makes_peek hstart) ?_
  intro next between hbetween _ _
  cases next with
  | none => exact makes_fail
  | some c =>
    simp only
    split_ifs
    · exact makes_skip hbetween
    · exact makes_fail

theorem makes_identifier (terminators : List Char) (hstart : start.arena.Stemmed) :
    Makes (identifier terminators) start fun _ _ => True := by
  intro name after hrun
  unfold identifier at hrun
  split at hrun
  · cases hrun
  · cases hrun
    exact ⟨hstart, .refl _, trivial⟩

theorem makes_alloc {node : Node} (hstart : start.arena.Stemmed)
    (hstem : ∀ stem ∈ node.stem?, start.arena.HasClass stem) :
    Makes (alloc node) start fun id arena => node.isClass = true → arena.HasClass id := by
  rintro _ _ ⟨⟩
  exact ⟨hstart.alloc hstem, Arena.growsTo_alloc _ _, Arena.hasClass_alloc _⟩

theorem makes_finish (hstart : start.arena.Stemmed) : Makes finish start fun _ _ => True := by
  refine makes_bind (makes_peek hstart) ?_
  intro next between hbetween _ _
  split_ifs
  · exact makes_fail
  · exact makes_pure hbetween trivial

end Reader

open Reader

/-! ## Productions -/

/-- Each production of the grammar of types, read with the same fuel, keeps that arguments and
members follow classes. -/
structure Productions (fuel : Nat) : Prop where
  javaType : ∀ start, start.arena.Stemmed → Makes (javaType fuel) start fun _ _ => True
  referenceType : ∀ start, start.arena.Stemmed → Makes (referenceType fuel) start fun _ _ => True
  classType : ∀ start, start.arena.Stemmed → Makes (classType fuel) start fun _ _ => True
  memberClasses : ∀ outer start, start.arena.Stemmed → start.arena.HasClass outer →
    Makes (memberClasses fuel outer) start fun _ _ => True
  withTypeArguments : ∀ base start, start.arena.Stemmed → start.arena.HasClass base →
    Makes (withTypeArguments fuel base) start fun id arena => arena.HasClass id
  typeArguments : ∀ start, start.arena.Stemmed → Makes (typeArguments fuel) start fun _ _ => True
  typeArgument : ∀ start, start.arena.Stemmed → Makes (typeArgument fuel) start fun _ _ => True

section

variable {fuel : Nat} (h : Productions fuel) {start : Cursor} (hstart : start.arena.Stemmed)

include hstart

/-- A node without a stem can be made anywhere. -/
theorem makes_alloc_plain {node : Node} (hstem : node.stem? = none) :
    Makes (alloc node) start fun _ _ => True := by
  intro id after hrun
  have hnone : ∀ stem ∈ node.stem?, start.arena.HasClass stem := by simp [hstem]
  obtain ⟨hstemmed, hgrow, -⟩ := makes_alloc hstart hnone id after hrun
  exact ⟨hstemmed, hgrow, trivial⟩

include h

theorem makes_javaType : Makes (javaType (fuel + 1)) start fun _ _ => True := by
  refine makes_bind (makes_peek hstart) ?_
  intro next between hbetween _ _
  cases next with
  | none => exact makes_fail
  | some c =>
    simp only
    split_ifs
    · exact h.referenceType between hbetween
    · cases primitiveName c with
      | none => exact makes_fail
      | some name =>
        refine makes_bind (makes_skip hbetween) ?_
        intro _ after hafter _ _
        exact makes_alloc_plain hafter rfl

theorem makes_referenceType : Makes (referenceType (fuel + 1)) start fun _ _ => True := by
  refine makes_bind (makes_peek hstart) ?_
  intro next between hbetween _ _
  split
  · exact makes_fail
  · exact makes_bind (makes_skip hbetween) fun _ after hafter _ _ => h.classType after hafter
  · refine makes_bind (makes_skip hbetween) fun _ _ hafter _ _ => ?_
    refine makes_bind (makes_identifier _ hafter) fun name _ hafter _ _ => ?_
    refine makes_bind (makes_expect ';' hafter) fun _ _ hafter _ _ => ?_
    exact makes_alloc_plain hafter rfl
  · refine makes_bind (makes_skip hbetween) fun _ after hafter _ _ => ?_
    refine makes_bind (h.javaType after hafter) fun element _ hafter _ _ => ?_
    exact makes_alloc_plain hafter rfl
  · exact makes_fail

theorem makes_classType : Makes (classType (fuel + 1)) start fun _ _ => True := by
  refine makes_bind (makes_identifier _ hstart) fun name _ hnamed _ _ => ?_
  refine makes_bind (makes_alloc hnamed (by simp [Node.stem?])) fun base _ hbased _ hbase => ?_
  have hclass := hbase rfl
  refine makes_bind (h.withTypeArguments base _ hbased hclass) fun outer _ hgiven _ houter => ?_
  refine makes_bind (h.memberClasses outer _ hgiven houter) fun type _ hmembers _ _ => ?_
  exact makes_bind (makes_expect ';' hmembers) fun _ _ hdone _ _ => makes_pure hdone trivial

theorem makes_memberClasses {outer : NodeId} (houter : start.arena.HasClass outer) :
    Makes (memberClasses (fuel + 1) outer) start fun _ _ => True := by
  refine makes_bind (makes_peek hstart) fun next between hbetween hgrow _ => ?_
  split_ifs
  · refine makes_bind (makes_skip hbetween) fun _ _ hskipped hgrow' _ => ?_
    refine makes_bind (makes_identifier _ hskipped) fun name _ hnamed hgrow'' _ => ?_
    have hstem := houter.mono ((hgrow.trans hgrow').trans hgrow'')
    refine makes_bind (makes_alloc hnamed (by simpa [Node.stem?] using hstem))
      fun member _ hmade _ hmember => ?_
    refine makes_bind (h.withTypeArguments member _ hmade (hmember rfl))
      fun outer _ hgiven _ houter => ?_
    exact h.memberClasses outer _ hgiven houter
  · exact makes_pure hbetween trivial

theorem makes_withTypeArguments {base : NodeId} (hbase : start.arena.HasClass base) :
    Makes (withTypeArguments (fuel + 1) base) start fun id arena => arena.HasClass id := by
  refine makes_bind (makes_peek hstart) fun next between hbetween hgrow _ => ?_
  split_ifs
  · refine makes_bind (makes_skip hbetween) fun _ _ hskipped hgrow' _ => ?_
    refine makes_bind (h.typeArguments _ hskipped) fun arguments _ hread hgrow'' _ => ?_
    refine makes_bind (makes_expect '>' hread) fun _ _ hclosed hgrow''' _ => ?_
    have hstem := hbase.mono (((hgrow.trans hgrow').trans hgrow'').trans hgrow''')
    split_ifs
    · exact makes_fail
    · intro id after hrun
      obtain ⟨hstemmed, hgrown, hclass⟩ :=
        makes_alloc hclosed (by simpa [Node.stem?] using hstem) id after hrun
      exact ⟨hstemmed, hgrown, hclass rfl⟩
  · exact makes_pure hbetween (hbase.mono hgrow)

theorem makes_typeArguments : Makes (typeArguments (fuel + 1)) start fun _ _ => True := by
  refine makes_bind (makes_peek hstart) fun next between hbetween _ _ => ?_
  split_ifs
  · exact makes_pure hbetween trivial
  · refine makes_bind (h.typeArgument _ hbetween) fun argument _ hread _ _ => ?_
    exact makes_bind (h.typeArguments _ hread) fun _ _ hdone _ _ => makes_pure hdone trivial

theorem makes_typeArgument : Makes (typeArgument (fuel + 1)) start fun _ _ => True := by
  refine makes_bind (makes_peek hstart) fun next between hbetween _ _ => ?_
  split
  · refine makes_bind (makes_skip hbetween) fun _ _ hskipped _ _ => ?_
    exact makes_alloc_plain hskipped rfl
  · refine makes_bind (makes_skip hbetween) fun _ _ hskipped _ _ => ?_
    refine makes_bind (h.referenceType _ hskipped) fun bound _ hread _ _ => ?_
    exact makes_alloc_plain hread rfl
  · refine makes_bind (makes_skip hbetween) fun _ _ hskipped _ _ => ?_
    refine makes_bind (h.referenceType _ hskipped) fun bound _ hread _ _ => ?_
    exact makes_alloc_plain hread rfl
  · exact h.referenceType between hbetween

end

theorem productions (fuel : Nat) : Productions fuel := by
  induction fuel with
  | zero => constructor <;> intros <;> exact makes_fail
  | succ fuel ih =>
    exact {
      javaType _ hstart := makes_javaType ih hstart
      referenceType _ hstart := makes_referenceType ih hstart
      classType _ hstart := makes_classType ih hstart
      memberClasses _ _ hstart houter := makes_memberClasses ih hstart houter
      withTypeArguments _ _ hstart hbase := makes_withTypeArguments ih hstart hbase
      typeArguments _ hstart := makes_typeArguments ih hstart
      typeArgument _ hstart := makes_typeArgument ih hstart }

theorem makes_wholeType {start : Cursor} (fuel : Nat) (hstart : start.arena.Stemmed) :
    Makes (wholeType fuel) start fun _ _ => True := by
  refine makes_bind ((productions fuel).javaType start hstart) fun type _ hread _ _ => ?_
  exact makes_bind (makes_finish hread) fun _ _ hdone _ _ => makes_pure hdone trivial

/-- In a type that is read from a text, arguments and members follow classes only. -/
theorem written_parseType {text : String} {type : JavaType} (h : parseType text = .ok type) :
    type.Written := by
  unfold parseType run at h
  cases hread : wholeType (fuelFor text.toList) ⟨text.toList, .empty⟩ with
  | error fault =>
    rw [hread] at h
    cases h
  | ok result =>
    obtain ⟨id, cursor⟩ := result
    rw [hread] at h
    cases h
    obtain ⟨hstemmed, -, -⟩ := makes_wholeType _ Arena.stemmed_empty id cursor hread
    exact hstemmed.written _ id

end Signature

end ApiSurface
