import ApiSurface.Proofs.HierarchyWalk

/-!
# Order of the levels

In a collection without a cycle of supertypes the levels of a hierarchy begin with the most derived
class, but they need not go on from derived to ancestral ones: a class that stands early in a row of
interfaces, or belongs to a class early in the chain of superclasses, is entered before everything
that only a later place of the row leads to, even if that is derived from it. Nothing else brings
the levels out of order.
-/

namespace ApiSurface.ClassCollection

open Relation Signature DepthFirst

variable {collection : ClassCollection} {start : BoundClass} {levels : List BoundClass}

/-- From a loaded class to a supertype that it declares, if that is loaded too. -/
def SupertypeLink (collection : ClassCollection) (decl above : JavaClass) : Prop :=
  collection.Loaded decl ∧ above ∈ decl.supertypes.filterMap collection.classOf?

theorem supertypeLink_of_interface {decl above : JavaClass}
    (h : above ∈ collection.interfacesOf decl) : collection.SupertypeLink decl above := by
  obtain ⟨hloaded, habove⟩ := mem_interfacesOf_iff.mp h
  obtain ⟨type, htype, hclass⟩ := List.mem_filterMap.mp habove
  exact ⟨hloaded, List.mem_filterMap.mpr ⟨type, List.mem_append_right _ htype, hclass⟩⟩

/-- Every level stands before those that it is derived from. -/
def DerivedFirst (collection : ClassCollection) (levels : List BoundClass) : Prop :=
  ∀ (i j : Nat) derived ancestor, levels[i]? = some derived → levels[j]? = some ancestor →
    TransGen collection.SupertypeLink derived.decl ancestor.decl → i < j

/-- In other words, nothing is entered earlier than what is derived from it. -/
theorem derivedFirst_iff (hacyclic : NoReturn collection.SupertypeLink id)
    (hnodup : (levels.map BoundClass.decl).Nodup) :
    collection.DerivedFirst levels ↔ ∀ derived ∈ levels.map BoundClass.decl, ∀ ancestor,
      TransGen collection.SupertypeLink derived ancestor →
        ¬ Earlier (levels.map BoundClass.decl) ancestor derived := by
  constructor
  · intro hfirst derived hderived ancestor habove hearlier
    obtain ⟨i, j, hij, hi, hj⟩ := (earlier_iff_getElem? hnodup).mp ⟨hearlier, hderived⟩
    rw [List.getElem?_map] at hi hj
    obtain ⟨above, habove', rfl⟩ := Option.map_eq_some_iff.mp hi
    obtain ⟨below, hbelow, rfl⟩ := Option.map_eq_some_iff.mp hj
    have hji := hfirst j i below above hbelow habove' habove
    omega
  · intro hnone i j derived ancestor hi hj habove
    by_contra hij
    have hne : i ≠ j := by
      rintro rfl
      rw [hi] at hj
      cases hj
      exact hacyclic _ _ habove rfl
    have hearlier : Earlier (levels.map BoundClass.decl) ancestor.decl derived.decl := by
      refine ((earlier_iff_getElem? hnodup).mpr ⟨j, i, by omega, ?_, ?_⟩).1
      · rw [List.getElem?_map, hj, Option.map_some]
      · rw [List.getElem?_map, hi, Option.map_some]
    have hmem : derived.decl ∈ levels.map BoundClass.decl :=
      List.mem_map_of_mem (List.mem_of_getElem? hi)
    exact hnone derived.decl hmem ancestor.decl habove hearlier

/-- Without a cycle of supertypes, every level stands before those that it is derived from exactly
if no class is overtaken by an ancestor: if in no row, neither the chain of superclasses nor the
interfaces of a class that is entered, a class leads by interfaces to something that a class is
derived from to which the row leads in a later place only. -/
theorem hierarchy_ordered_iff (classes : List JavaClass)
    (hacyclic : NoReturn (ofClasses classes).SupertypeLink id) {start : BoundClass}
    (hstart : (ofClasses classes).Loaded start.decl) {levels : List BoundClass}
    (h : (ofClasses classes).hierarchy start = .ok levels) :
    ∃ chain, (ofClasses classes).SuperclassChain start.decl chain ∧
      ((ofClasses classes).DerivedFirst levels ↔
        ∀ derived ancestor, TransGen (ofClasses classes).SupertypeLink derived ancestor →
          ¬ Overtakes (ofClasses classes).interfacesOf chain ancestor derived) := by
  classical
  have hnamed := byName_ofClasses classes
  obtain ⟨chain, hchain, hwalked⟩ := exists_walked_of_hierarchy hnamed hstart h
  refine ⟨chain, hchain, ?_⟩
  rw [derivedFirst_iff hacyclic (nodup_hierarchy hnamed hstart h), hwalked.decls, List.map_nil]
  exact ordered_iff (fun _ _ hlink => .single (supertypeLink_of_interface hlink))
    (fun hab hbc => hab.trans hbc) (fun a haa => hacyclic a a haa rfl)
    loaded_of_interfacesOf_ne_nil (length_values_lt _)

/-! ## A repeated interface -/

/-- A method that hides the signer, or shows it. -/
def signerGetter (hidden : Bool) : JavaMethod :=
  ⟨"getSigner", "()Ljava/lang/String;", .basic "java.lang.String", [], ⟨1⟩, .empty,
    [.mk Visibility.ignoreType [("value", .bool hidden)]]⟩

def invoiceClass (interfaces : List JavaType) : JavaClass :=
  { JavaClass.ofFields "Invoice" .empty (.basic "Document") [] with interfaces := interfaces }

def documentClass : JavaClass :=
  { JavaClass.ofFields "Document" .empty .object [] with
    interfaces := [.basic "Signed"], methods := [signerGetter false] }

def signedClass : JavaClass :=
  { JavaClass.ofFields "Signed" .empty .object [] with methods := [signerGetter true] }

/-- An invoice is a document, and every document is signed. An invoice may say so once more. -/
def signedDocuments (interfaces : List JavaType) : ClassCollection :=
  ofClasses [invoiceClass interfaces, documentClass, signedClass]

def signedRank (name : String) : Nat :=
  if name = "Invoice" then 2 else if name = "Document" then 1 else 0

/-- Links lead down in rank, over any number of them. -/
theorem rank_lt_of_above {interfaces : List JavaType}
    (hranked : ∀ c ∈ (signedDocuments interfaces).classes.values,
      ∀ above ∈ c.supertypes.filterMap (signedDocuments interfaces).classOf?,
        signedRank above.name < signedRank c.name)
    {derived ancestor : JavaClass}
    (h : TransGen (signedDocuments interfaces).SupertypeLink derived ancestor) :
    signedRank ancestor.name < signedRank derived.name := by
  induction h with
  | single hlink => exact hranked _ hlink.1 _ hlink.2
  | tail _ hlink ih => exact (hranked _ hlink.1 _ hlink.2).trans ih

theorem noReturn_signedDocuments {interfaces : List JavaType}
    (hranked : ∀ c ∈ (signedDocuments interfaces).classes.values,
      ∀ above ∈ c.supertypes.filterMap (signedDocuments interfaces).classOf?,
        signedRank above.name < signedRank c.name) :
    NoReturn (signedDocuments interfaces).SupertypeLink id :=
  noReturn_of_rank (fun c => signedRank c.name) fun c above hlink => hranked c hlink.1 above hlink.2

/-- Where only documents say that they are signed, the levels are in order, and so nothing is
overtaken. -/
theorem hierarchy_ordered_signed :
    NoReturn (signedDocuments []).SupertypeLink id ∧
    (signedDocuments []).Loaded (invoiceClass []) ∧
    ∃ levels, (signedDocuments []).hierarchy (.raw (invoiceClass [])) = .ok levels ∧
      (signedDocuments []).DerivedFirst levels ∧
      ∃ chain, (signedDocuments []).SuperclassChain (invoiceClass []) chain ∧
        ∀ derived ancestor, TransGen (signedDocuments []).SupertypeLink derived ancestor →
          ¬ Overtakes (signedDocuments []).interfacesOf chain ancestor derived := by
  have hranked : ∀ c ∈ (signedDocuments []).classes.values,
      ∀ above ∈ c.supertypes.filterMap (signedDocuments []).classOf?,
        signedRank above.name < signedRank c.name := by
    decide +kernel
  have hacyclic := noReturn_signedDocuments hranked
  have hloaded : (signedDocuments []).Loaded (invoiceClass []) :=
    loaded_of_class? (rfl : (signedDocuments []).class? "Invoice" = some (invoiceClass []))
  have hlevels : (signedDocuments []).hierarchy (.raw (invoiceClass [])) =
      .ok [.raw (invoiceClass []), .raw documentClass, .raw signedClass] := rfl
  have hrank : ∀ (i : Nat) level, [BoundClass.raw (invoiceClass []), .raw documentClass,
      .raw signedClass][i]? = some level → signedRank level.decl.name + i = 2
    | 0, _, rfl => rfl
    | 1, _, rfl => rfl
    | 2, _, rfl => rfl
  have hfirst : (signedDocuments []).DerivedFirst
      [.raw (invoiceClass []), .raw documentClass, .raw signedClass] := by
    intro i j derived ancestor hi hj habove
    have hlower := rank_lt_of_above hranked habove
    have hi := hrank i derived hi
    have hj := hrank j ancestor hj
    omega
  obtain ⟨chain, hchain, hordered⟩ :=
    @hierarchy_ordered_iff _ hacyclic (.raw (invoiceClass [])) hloaded _ hlevels
  exact ⟨hacyclic, hloaded, _, hlevels, hfirst, chain, hchain, hordered.mp hfirst⟩

/-- An invoice that says itself that it is signed has what is signed before the document, which is
derived from that. So a document's statement that its signer is shown is not the one that counts. -/
theorem hierarchy_not_ordered :
    NoReturn (signedDocuments [.basic "Signed"]).SupertypeLink id ∧
    (signedDocuments [.basic "Signed"]).Loaded (invoiceClass [.basic "Signed"]) ∧
    ∃ levels,
      (signedDocuments [.basic "Signed"]).hierarchy (.raw (invoiceClass [.basic "Signed"])) =
        .ok levels ∧
      ¬ (signedDocuments [.basic "Signed"]).DerivedFirst levels ∧
      Visibility.ofClass documentClass = [⟨"signer", false⟩] ∧
      hiddenProperties levels = ["signer"] := by
  have hranked : ∀ c ∈ (signedDocuments [.basic "Signed"]).classes.values,
      ∀ above ∈ c.supertypes.filterMap (signedDocuments [.basic "Signed"]).classOf?,
        signedRank above.name < signedRank c.name := by
    decide +kernel
  have hloaded : (signedDocuments [.basic "Signed"]).Loaded (invoiceClass [.basic "Signed"]) :=
    loaded_of_class? (rfl : (signedDocuments [.basic "Signed"]).class? "Invoice" =
      some (invoiceClass [.basic "Signed"]))
  refine ⟨noReturn_signedDocuments hranked, hloaded,
    [.raw (invoiceClass [.basic "Signed"]), .raw signedClass, .raw documentClass], rfl, ?_, ?_, ?_⟩
  · intro hfirst
    have hlink : (signedDocuments [.basic "Signed"]).SupertypeLink documentClass signedClass := by
      refine ⟨?_, ?_⟩
      · exact loaded_of_class?
          (rfl : (signedDocuments [.basic "Signed"]).class? "Document" = some documentClass)
      · exact List.mem_filterMap.mpr ⟨.basic "Signed", by decide +kernel, rfl⟩
    have hbefore := hfirst 2 1 (.raw documentClass) (.raw signedClass) rfl rfl (.single hlink)
    omega
  · decide +kernel
  · decide +kernel

end ApiSurface.ClassCollection
