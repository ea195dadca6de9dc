import Mathlib.Data.List.Infix
import Mathlib.Data.List.Nodup
import Mathlib.Logic.Relation
import Mathlib.Tactic.Common

/-!
# Depth-first walks

A walk enters a node unless it was entered before, and then in depth the nodes next to it, one after
the other. It enters each node once, and exactly those that its roots lead to, also where the links
go round in a cycle. Without a cycle the order is decided by the rows that the walk goes through:
one node can come before another one that it does not lead to only if it is reached from an earlier
place of some row.
-/

namespace ApiSurface

theorem countP_lt_countP {α : Type} {p q : α → Bool} {l : List α}
    (himp : ∀ x ∈ l, p x = true → q x = true) {a : α} (ha : a ∈ l) (hq : q a = true)
    (hp : p a = false) : l.countP p < l.countP q := by
  induction l with
  | nil => cases ha
  | cons x l ih =>
    have hle : l.countP p ≤ l.countP q :=
      List.countP_mono_left fun y hy => himp y (List.mem_cons_of_mem x hy)
    rw [List.countP_cons, List.countP_cons]
    rcases List.mem_cons.mp ha with rfl | ha
    · simp only [hp, hq, Bool.false_eq_true, if_false, if_true]
      omega
    · have hlt := ih (fun y hy => himp y (List.mem_cons_of_mem x hy)) ha
      by_cases hpx : p x = true
      · have hqx : q x = true := himp x List.mem_cons_self hpx
        rw [if_pos hpx, if_pos hqx]
        omega
      · rw [if_neg hpx]
        omega

namespace DepthFirst

open Relation

variable {α : Type} {next : α → List α}

/-- Following any number of links. -/
abbrev Reaches (next : α → List α) : α → α → Prop := ReflTransGen fun a b => b ∈ next a

/-- The nodes next to one may be given by a relation. -/
theorem reaches_iff_links {link : α → α → Prop} (h : ∀ a b, b ∈ next a ↔ link a b) {a b : α} :
    Reaches next a b ↔ ReflTransGen link a b := by
  have hlinks : (fun a b => b ∈ next a) = link := by
    funext a b
    exact propext (h a b)
  rw [Reaches, hlinks]

theorem Reaches.step {a b c : α} (hab : b ∈ next a) (hbc : Reaches next b c) : Reaches next a c :=
  ReflTransGen.head hab hbc

/-! ## Order of entries -/

/-- Some front part of the list has the one and not the other. -/
def Earlier (l : List α) (a b : α) : Prop := ∃ front, front <+: l ∧ a ∈ front ∧ b ∉ front

theorem Earlier.extend {l whole : List α} {a b : α} (h : Earlier l a b) (hl : l <+: whole) :
    Earlier whole a b := by
  obtain ⟨front, hfront, ha, hb⟩ := h
  exact ⟨front, hfront.trans hl, ha, hb⟩

/-- A front part that has the later one decides about both. -/
theorem Earlier.within {l whole : List α} {a b : α} (h : Earlier whole a b) (hl : l <+: whole)
    (hb : b ∈ l) : Earlier l a b := by
  obtain ⟨front, hfront, ha, hnot⟩ := h
  rcases List.prefix_or_prefix_of_prefix hfront hl with hle | hle
  · exact ⟨front, hle, ha, hnot⟩
  · exact absurd (hle.subset hb) hnot

theorem Earlier.left_mem {l : List α} {a b : α} (h : Earlier l a b) : a ∈ l := by
  obtain ⟨front, hfront, ha, -⟩ := h
  exact hfront.subset ha

/-- In a list without repetitions the earlier one has the lower index. -/
theorem earlier_iff_getElem? {l : List α} (hl : l.Nodup) {a b : α} :
    Earlier l a b ∧ b ∈ l ↔ ∃ i j : Nat, i < j ∧ l[i]? = some a ∧ l[j]? = some b := by
  constructor
  · rintro ⟨⟨front, ⟨back, rfl⟩, ha, hb⟩, hmem⟩
    have hback : b ∈ back := (List.mem_append.mp hmem).resolve_left hb
    obtain ⟨i, hi, hia⟩ := List.mem_iff_getElem.mp ha
    obtain ⟨j, hj, hjb⟩ := List.mem_iff_getElem.mp hback
    refine ⟨i, front.length + j, by omega, ?_, ?_⟩
    · rw [List.getElem?_append_left hi, List.getElem?_eq_getElem hi, hia]
    · rw [List.getElem?_append_right (Nat.le_add_right _ _), Nat.add_sub_cancel_left,
        List.getElem?_eq_getElem hj, hjb]
  · rintro ⟨i, j, hij, hia, hjb⟩
    refine ⟨⟨l.take (i + 1), List.take_prefix _ _, ?_, ?_⟩, List.mem_of_getElem? hjb⟩
    · apply List.mem_of_getElem? (i := i)
      rw [List.getElem?_take_of_lt (Nat.lt_succ_self i), hia]
    · intro hmem
      obtain ⟨k, hk, hkb⟩ := List.mem_iff_getElem.mp hmem
      rw [List.length_take] at hk
      rw [List.getElem_take] at hkb
      have hkj : k = j := by
        apply (List.getElem?_inj (by omega) hl).mp
        rw [hjb, List.getElem?_eq_getElem (by omega), hkb]
      omega

/-! ## Walks -/

variable [DecidableEq α]

/-- Enters a node behind those that were entered, and then what it leads to, in depth. -/
def visit (next : α → List α) : Nat → List α → α → List α
  | 0, entered, _ => entered
  | steps + 1, entered, a =>
    if a ∈ entered then entered else (next a).foldl (visit next steps) (entered ++ [a])

theorem visit_of_mem {steps : Nat} {entered : List α} {a : α} (h : a ∈ entered) :
    visit next steps entered a = entered := by
  cases steps with
  | zero => rfl
  | succ steps => rw [visit, if_pos h]

theorem visit_of_not_mem {steps : Nat} {entered : List α} {a : α} (h : a ∉ entered) :
    visit next (steps + 1) entered a = (next a).foldl (visit next steps) (entered ++ [a]) := by
  rw [visit, if_neg h]

omit [DecidableEq α] in
theorem prefix_foldl {f : List α → α → List α} (hf : ∀ entered a, entered <+: f entered a)
    (entered row : List α) : entered <+: row.foldl f entered := by
  induction row generalizing entered with
  | nil => exact List.prefix_rfl
  | cons a row ih => exact (hf entered a).trans (ih (f entered a))

theorem prefix_visit (steps : Nat) (entered : List α) (a : α) :
    entered <+: visit next steps entered a := by
  induction steps generalizing entered a with
  | zero => exact List.prefix_rfl
  | succ steps ih =>
    rw [visit]
    split_ifs with hmem
    · exact List.prefix_rfl
    · have hrow : entered ++ [a] <+: (next a).foldl (visit next steps) (entered ++ [a]) :=
        prefix_foldl ih _ _
      exact (List.prefix_append _ _).trans hrow

theorem prefix_foldl_visit (steps : Nat) (entered row : List α) :
    entered <+: row.foldl (visit next steps) entered :=
  prefix_foldl (prefix_visit steps) entered row

theorem nodup_visit (steps : Nat) {entered : List α} (h : entered.Nodup) (a : α) :
    (visit next steps entered a).Nodup := by
  induction steps generalizing entered a with
  | zero => exact h
  | succ steps ih =>
    rw [visit]
    split_ifs with hmem
    · exact h
    · have hstart : (entered ++ [a]).Nodup := by
        rw [List.nodup_append]
        exact ⟨h, List.nodup_singleton a, by rintro b hb c hc rfl; simp_all⟩
      exact List.foldlRecOn (next a) _ hstart fun between hbetween b _ => ih hbetween b

theorem nodup_foldl_visit (steps : Nat) {entered : List α} (h : entered.Nodup) (row : List α) :
    (row.foldl (visit next steps) entered).Nodup :=
  List.foldlRecOn row _ h fun _ hbetween b _ => nodup_visit steps hbetween b

/-- Nothing is entered that the roots do not lead to. -/
theorem reaches_of_mem_visit {steps : Nat} {entered : List α} {a x : α}
    (h : x ∈ visit next steps entered a) : x ∈ entered ∨ Reaches next a x := by
  induction steps generalizing entered a x with
  | zero => exact .inl h
  | succ steps ih =>
    rw [visit] at h
    split_ifs at h with hmem
    · exact .inl h
    · have hstart : ∀ y ∈ entered ++ [a], y ∈ entered ∨ Reaches next a y := by
        intro y hy
        rcases List.mem_append.mp hy with hy | hy
        · exact .inl hy
        · exact .inr (List.mem_singleton.mp hy ▸ .refl)
      refine List.foldlRecOn (motive := fun l => ∀ y ∈ l, y ∈ entered ∨ Reaches next a y)
        (next a) _ hstart (fun between hbetween b hb y hy => ?_) x h
      rcases ih hy with hy | hy
      · exact hbetween y hy
      · exact .inr (Reaches.step hb hy)

theorem reaches_of_mem_foldl_visit {steps : Nat} {entered row : List α} {x : α}
    (h : x ∈ row.foldl (visit next steps) entered) :
    x ∈ entered ∨ ∃ a ∈ row, Reaches next a x := by
  induction row generalizing entered with
  | nil => exact .inl h
  | cons a row ih =>
    rcases ih h with hx | ⟨b, hb, hx⟩
    · rcases reaches_of_mem_visit hx with hx | hx
      · exact .inl hx
      · exact .inr ⟨a, List.mem_cons_self, hx⟩
    · exact .inr ⟨b, List.mem_cons_of_mem a hb, hx⟩

/-! ## Enough steps -/

/-- Every entered node that is left again has all that is next to it entered. -/
def Settled (next : α → List α) (active entered : List α) : Prop :=
  ∀ a ∈ entered, a ∉ active → next a ⊆ entered

/-- Where a walk stands: of the nodes that have any next to them, `inner`, fewer are left to be
entered than there are steps. -/
structure Ready (next : α → List α) (inner : List α) (steps : Nat) (active entered : List α) :
    Prop where
  links : ∀ a, next a ≠ [] → a ∈ inner
  enough : inner.countP (fun a => a ∉ entered) < steps
  settled : Settled next active entered

variable {inner active entered row : List α} {steps : Nat} {a b x : α}

theorem countP_le_of_subset {after : List α} (h : entered ⊆ after) (inner : List α) :
    inner.countP (fun a => a ∉ after) ≤ inner.countP fun a => a ∉ entered := by
  apply List.countP_mono_left
  intro c _ hc
  simp only [decide_eq_true_eq] at hc ⊢
  exact fun hmem => hc (h hmem)

theorem Ready.start (hlinks : ∀ a, next a ≠ [] → a ∈ inner) (hsteps : inner.length < steps) :
    Ready next inner steps [] [] where
  links := hlinks
  enough := Nat.lt_of_le_of_lt List.countP_le_length hsteps
  settled := by
    intro a ha
    cases ha

/-- Entering a node makes it active. -/
theorem Ready.enter (h : Ready next inner (steps + 1) active entered) (ha : a ∉ entered)
    (hnext : next a ≠ []) : Ready next inner steps (a :: active) (entered ++ [a]) where
  links := h.links
  enough := by
    have hfewer : inner.countP (fun b => b ∉ entered ++ [a]) <
        inner.countP fun b => b ∉ entered := by
      apply countP_lt_countP (a := a) _ (h.links a hnext)
      · simp [ha]
      · simp
      · intro b _ hb
        simp only [decide_eq_true_eq, List.mem_append, not_or] at hb ⊢
        exact hb.1
    have := h.enough
    omega
  settled := by
    intro b hb hactive
    rcases List.mem_append.mp hb with hb | hb
    · have hrest : b ∉ active := fun hmem => hactive (List.mem_cons_of_mem a hmem)
      exact List.Subset.trans (h.settled b hb hrest) (List.subset_append_left _ _)
    · exact absurd (List.mem_singleton.mp hb ▸ List.mem_cons_self) hactive

theorem Ready.after (h : Ready next inner steps active entered) {after : List α}
    (hentered : entered ⊆ after) (hsettled : Settled next active after) :
    Ready next inner steps active after where
  links := h.links
  enough := Nat.lt_of_le_of_lt (countP_le_of_subset hentered inner) h.enough
  settled := hsettled

theorem settled_foldl {f : List α → α → List α}
    (hf : ∀ {entered}, Ready next inner steps active entered → ∀ a,
      entered <+: f entered a ∧ Settled next active (f entered a) ∧ a ∈ f entered a)
    (h : Ready next inner steps active entered) (row : List α) :
    Settled next active (row.foldl f entered) ∧ entered ++ row ⊆ row.foldl f entered := by
  induction row generalizing entered with
  | nil => exact ⟨h.settled, by simp⟩
  | cons a row ih =>
    obtain ⟨hbegins, hsettled, ha⟩ := hf h a
    obtain ⟨hdone, hrow⟩ := ih (h.after hbegins.subset hsettled)
    refine ⟨hdone, ?_⟩
    have hfront : f entered a ⊆ row.foldl f (f entered a) :=
      List.Subset.trans (List.subset_append_left _ _) hrow
    apply List.append_subset.mpr
    refine ⟨List.Subset.trans hbegins.subset hfront, List.cons_subset.mpr ⟨hfront ha, ?_⟩⟩
    exact List.Subset.trans (List.subset_append_right _ _) hrow

/-- A walk that has enough steps settles whatever it enters. By induction on the steps: while a
node is active, the nodes next to it are settled one after the other. -/
theorem settled_visit (h : Ready next inner steps active entered) (a : α) :
    Settled next active (visit next steps entered a) ∧ a ∈ visit next steps entered a := by
  induction steps generalizing active entered a with
  | zero => exact absurd h.enough (Nat.not_lt_zero _)
  | succ steps ih =>
    by_cases ha : a ∈ entered
    · rw [visit_of_mem ha]
      exact ⟨h.settled, ha⟩
    · rw [visit_of_not_mem ha]
      by_cases hnext : next a = []
      · rw [hnext, List.foldl_nil]
        refine ⟨fun b hb hactive => ?_, by simp⟩
        rcases List.mem_append.mp hb with hb | hb
        · exact List.Subset.trans (h.settled b hb hactive) (List.subset_append_left _ _)
        · rw [List.mem_singleton.mp hb, hnext]
          exact List.nil_subset _
      · have hrow := settled_foldl (fun h b => ⟨prefix_visit steps _ b, ih h b⟩)
          (h.enter ha hnext) (next a)
        obtain ⟨hsettled, hentered⟩ := hrow
        refine ⟨fun b hb hactive => ?_, hentered (by simp)⟩
        by_cases hba : b = a
        · rw [hba]
          exact List.Subset.trans (List.subset_append_right _ _) hentered
        · exact hsettled b hb (by simp [hba, hactive])

theorem settled_foldl_visit (h : Ready next inner steps active entered) (row : List α) :
    Settled next active (row.foldl (visit next steps) entered) ∧
      entered ++ row ⊆ row.foldl (visit next steps) entered :=
  settled_foldl (fun h a => ⟨prefix_visit steps _ a, settled_visit h a⟩) h row

theorem Ready.visit (h : Ready next inner steps active entered) (a : α) :
    Ready next inner steps active (visit next steps entered a) :=
  h.after (prefix_visit steps entered a).subset (settled_visit h a).1

/-- No node of the row leads back to one that is active. -/
def Ahead (next : α → List α) (active row : List α) : Prop :=
  ∀ b ∈ row, ∀ a ∈ active, ¬ Reaches next b a

/-- Then what is entered is what the row leads to. -/
theorem mem_foldl_visit_iff (h : Ready next inner steps active entered)
    (hahead : Ahead next active row) :
    x ∈ row.foldl (visit next steps) entered ↔ x ∈ entered ∨ ∃ a ∈ row, Reaches next a x := by
  obtain ⟨hsettled, hentered⟩ := settled_foldl_visit h row
  refine ⟨reaches_of_mem_foldl_visit, ?_⟩
  rintro (hx | ⟨a, ha, hax⟩)
  · exact hentered (List.mem_append_left _ hx)
  · induction hax with
    | refl => exact hentered (List.mem_append_right _ ha)
    | @tail b c hab hlink ih =>
      exact hsettled b ih (fun hactive => hahead a ha b hactive hab) hlink

theorem mem_visit_iff (h : Ready next inner steps active entered) (hahead : Ahead next active [a]) :
    x ∈ visit next steps entered a ↔ x ∈ entered ∨ Reaches next a x := by
  have hrow := mem_foldl_visit_iff (x := x) h hahead
  simpa using hrow

/-- A walk from nothing on enters exactly what its roots lead to, also in a cyclic graph. -/
theorem mem_walk_iff (hlinks : ∀ a, next a ≠ [] → a ∈ inner) (hsteps : inner.length < steps) :
    x ∈ row.foldl (visit next steps) [] ↔ ∃ a ∈ row, Reaches next a x := by
  have hahead : Ahead next [] row := by
    intro b _ a ha
    cases ha
  simpa using mem_foldl_visit_iff (Ready.start hlinks hsteps) hahead

/-! ## Overtaking -/

omit [DecidableEq α] in
theorem Ahead.rest {c : α} (h : Ahead next active (c :: row)) : Ahead next active row :=
  fun b hb => h b (List.mem_cons_of_mem c hb)

omit [DecidableEq α] in
/-- Without a cycle, what is next to a node does not lead back to it. -/
theorem Ahead.enter (hacyclic : ∀ a, ¬ TransGen (fun a b => b ∈ next a) a a) {c : α}
    (h : Ahead next active (c :: row)) : Ahead next (c :: active) (next c) := by
  intro b hb a ha hba
  rcases List.mem_cons.mp ha with rfl | ha
  · exact hacyclic a (TransGen.head' hb hba)
  · exact h c List.mem_cons_self a ha (Reaches.step hb hba)

/-- The rows of nodes that a walk goes through from left to right: its roots, and what is next to
each node that they lead to. -/
inductive Row (next : α → List α) (roots : List α) : List α → Prop where
  | roots : Row next roots roots
  | next {r a : α} : r ∈ roots → Reaches next r a → Row next roots (next a)

/-- An earlier part of a row leads to the one node, and not to the other one, to which the next
place of the row leads. -/
def Overtakes (next : α → List α) (roots : List α) (a b : α) : Prop :=
  ∃ front c back, Row next roots (front ++ c :: back) ∧ Reaches next c b ∧
    (∀ d ∈ front, ¬ Reaches next d b) ∧ ∃ d ∈ front, Reaches next d a

omit [DecidableEq α] in
theorem Overtakes.of_next {c : α} (hc : c ∈ row) (h : Overtakes next (next c) a b) :
    Overtakes next row a b := by
  obtain ⟨front, d, back, hrow, hover⟩ := h
  refine ⟨front, d, back, ?_, hover⟩
  generalize hwhole : front ++ d :: back = whole at hrow
  cases hrow with
  | roots => exact .next hc .refl
  | next hr hreach => exact .next hc (Reaches.step hr hreach)

omit [DecidableEq α] in
theorem Overtakes.cons {c : α} (hc : ¬ Reaches next c b) (h : Overtakes next row a b) :
    Overtakes next (c :: row) a b := by
  obtain ⟨front, d, back, hrow, hb, hfront, ha⟩ := h
  generalize hwhole : front ++ d :: back = whole at hrow
  cases hrow with
  | roots =>
    subst hwhole
    refine ⟨c :: front, d, back, .roots, hb, List.forall_mem_cons.mpr ⟨hc, hfront⟩, ?_⟩
    obtain ⟨e, he, hea⟩ := ha
    exact ⟨e, List.mem_cons_of_mem c he, hea⟩
  | next hr hreach =>
    refine ⟨front, d, back, ?_, hb, hfront, ha⟩
    rw [hwhole]
    exact .next (List.mem_cons_of_mem c hr) hreach

omit [DecidableEq α] in
/-- If the first of a row leads to the one and not to the other, which is reached later on. -/
theorem overtakes_of_cons {c : α} (ha : Reaches next c a) (hb : ¬ Reaches next c b)
    (hrow : ∃ d ∈ row, Reaches next d b) : Overtakes next (c :: row) a b := by
  classical
  obtain ⟨front, d, back, rfl, hdb, hfront⟩ :
      ∃ front d back, row = front ++ d :: back ∧ Reaches next d b ∧
        ∀ e ∈ front, ¬ Reaches next e b := by
    cases hfind : row.find? fun d => decide (Reaches next d b) with
    | none =>
      obtain ⟨d, hd, hdb⟩ := hrow
      have hnone := List.find?_eq_none.mp hfind d hd
      simp [hdb] at hnone
    | some d =>
      obtain ⟨hd, front, back, rfl, hfront⟩ := List.find?_eq_some_iff_append.mp hfind
      exact ⟨front, d, back, rfl, by simpa using hd, fun e he => by simpa using hfront e he⟩
  exact ⟨c :: front, d, back, .roots, hdb, List.forall_mem_cons.mpr ⟨hb, hfront⟩,
    c, List.mem_cons_self, ha⟩

section

variable (hacyclic : ∀ a, ¬ TransGen (fun a b => b ∈ next a) a a)

include hacyclic

/-- What is entered earlier without leading to the other one has overtaken it. By induction on the
steps and the row: either both are entered below the first of the row, or it enters only the one,
or both come later. -/
theorem overtakes_of_earlier (h : Ready next inner steps active entered)
    (hahead : Ahead next active row) (hb : b ∉ entered)
    (hentered : b ∈ row.foldl (visit next steps) entered) (ha : a ∉ entered)
    (hearlier : Earlier (row.foldl (visit next steps) entered) a b) (hab : ¬ Reaches next a b) :
    Overtakes next row a b := by
  induction steps generalizing active entered row with
  | zero => exact absurd h.enough (Nat.not_lt_zero _)
  | succ steps ih =>
    induction row generalizing entered with
    | nil => exact absurd hentered hb
    | cons c row ihrow =>
      have hc : Ahead next active [c] := fun d hd => hahead d (by simp_all)
      have hfirst : visit next (steps + 1) entered c <+:
          (c :: row).foldl (visit next (steps + 1)) entered := prefix_foldl_visit _ _ row
      by_cases hbc : b ∈ visit next (steps + 1) entered c
      · have hwithin := hearlier.within hfirst hbc
        have hac := hwithin.left_mem
        have hnew : c ∉ entered := by
          intro hmem
          rw [visit_of_mem hmem] at hbc
          exact hb hbc
        have hca : c ≠ a := by
          rintro rfl
          exact hab (((mem_visit_iff h hc).mp hbc).resolve_left hb)
        rw [visit_of_not_mem hnew] at hbc hwithin
        have hcb : c ≠ b := by
          rintro rfl
          have hstart : entered ++ [c] <+: (next c).foldl (visit next steps) (entered ++ [c]) :=
            prefix_foldl_visit _ _ _
          have hfront := (hwithin.within hstart (by simp)).left_mem
          simp only [List.mem_append, List.mem_singleton] at hfront
          exact hfront.elim ha (fun heq => hca heq.symm)
        have hb' : b ∉ entered ++ [c] := by simp [hb, Ne.symm hcb]
        have hnext : next c ≠ [] := by
          intro hnil
          rw [hnil] at hbc
          exact hb' hbc
        exact .of_next List.mem_cons_self <| ih (h.enter hnew hnext)
          (hahead.enter hacyclic) hb' hbc (by simp [ha, Ne.symm hca]) hwithin
      · have hcb : ¬ Reaches next c b := fun hreach => hbc ((mem_visit_iff h hc).mpr (.inr hreach))
        by_cases hac : a ∈ visit next (steps + 1) entered c
        · have hca := ((mem_visit_iff h hc).mp hac).resolve_left ha
          have hrow := ((mem_foldl_visit_iff (h.visit c) hahead.rest).mp hentered).resolve_left hbc
          exact overtakes_of_cons hca hcb hrow
        · exact (ihrow (h.visit c) hahead.rest hbc hentered hac hearlier).cons hcb

/-- Where a node is entered, the walk goes on with what is next to it. -/
theorem exists_entry (h : Ready next inner steps active entered) (hahead : Ahead next active row)
    (hx : x ∈ row.foldl (visit next steps) entered) (hnew : x ∉ entered) (hnext : next x ≠ []) :
    ∃ steps' active' entered', Ready next inner steps' active' (entered' ++ [x]) ∧
      Ahead next active' (next x) ∧ x ∉ entered' ∧
      (next x).foldl (visit next steps') (entered' ++ [x]) <+:
        row.foldl (visit next steps) entered := by
  induction steps generalizing active entered row with
  | zero => exact absurd h.enough (Nat.not_lt_zero _)
  | succ steps ih =>
    induction row generalizing entered with
    | nil => exact absurd hx hnew
    | cons c row ihrow =>
      have hfirst : visit next (steps + 1) entered c <+:
          (c :: row).foldl (visit next (steps + 1)) entered := prefix_foldl_visit _ _ row
      by_cases hxc : x ∈ visit next (steps + 1) entered c
      · have hc : c ∉ entered := by
          intro hmem
          rw [visit_of_mem hmem] at hxc
          exact hnew hxc
        rw [visit_of_not_mem hc] at hxc hfirst
        by_cases heq : x = c
        · subst heq
          exact ⟨steps, x :: active, entered, h.enter hc hnext, hahead.enter hacyclic, hc, hfirst⟩
        · have hx' : x ∉ entered ++ [c] := by simp [hnew, heq]
          have hnextc : next c ≠ [] := by
            intro hnil
            rw [hnil] at hxc
            exact hx' hxc
          obtain ⟨steps', active', entered', hready, hahead', hx'', hbegins⟩ :=
            ih (h.enter hc hnextc) (hahead.enter hacyclic) hxc hx'
          exact ⟨steps', active', entered', hready, hahead', hx'', hbegins.trans hfirst⟩
      · exact ihrow (h.visit c) hahead.rest hx hxc

end

/-- What an earlier part of the row leads to is entered before what only a later one leads to. -/
theorem earlier_of_row {front back : List α} {c : α} (h : Ready next inner steps active entered)
    (hahead : Ahead next active (front ++ c :: back)) (hb : b ∉ entered)
    (hfront : ∀ d ∈ front, ¬ Reaches next d b) (ha : ∃ d ∈ front, Reaches next d a) :
    Earlier ((front ++ c :: back).foldl (visit next steps) entered) a b := by
  have hpart : Ahead next active front := fun d hd => hahead d (List.mem_append_left _ hd)
  refine ⟨front.foldl (visit next steps) entered, ?_, ?_, ?_⟩
  · rw [List.foldl_append]
    exact prefix_foldl_visit _ _ _
  · exact (mem_foldl_visit_iff h hpart).mpr (.inr ha)
  · intro hmem
    rcases (mem_foldl_visit_iff h hpart).mp hmem with hmem | ⟨d, hd, hdb⟩
    · exact hb hmem
    · exact hfront d hd hdb

/-- Let `below` follow the links and go round in no cycle. Then a walk enters what is below before
what is above exactly if no node is overtaken by one that it is below. -/
theorem ordered_iff {below : α → α → Prop} (hlinked : ∀ a b, b ∈ next a → below a b)
    (htrans : ∀ {a b c}, below a b → below b c → below a c) (hirrefl : ∀ a, ¬ below a a)
    (hlinks : ∀ a, next a ≠ [] → a ∈ inner) (hsteps : inner.length < steps) {roots : List α} :
    (∀ a ∈ roots.foldl (visit next steps) [], ∀ b, below a b →
      ¬ Earlier (roots.foldl (visit next steps) []) b a) ↔
    ∀ a b, below a b → ¬ Overtakes next roots b a := by
  have hstart : Ready next inner steps [] [] := .start hlinks hsteps
  have hahead : Ahead next [] roots := fun b _ a ha => nomatch ha
  have hbelow : ∀ {a b}, TransGen (fun a b => b ∈ next a) a b → below a b := by
    intro a b hab
    induction hab with
    | single hlink => exact hlinked _ _ hlink
    | tail _ hlink ih => exact htrans ih (hlinked _ _ hlink)
  have hacyclic : ∀ a, ¬ TransGen (fun a b => b ∈ next a) a a := fun a haa => hirrefl a (hbelow haa)
  constructor
  · rintro hordered a b hab ⟨front, c, back, hrow, hca, hfront, hb⟩
    have hwalk : ∀ {x}, (∃ r ∈ roots, Reaches next r x) → x ∈ roots.foldl (visit next steps) [] :=
      (mem_walk_iff hlinks hsteps).mpr
    generalize hwhole : front ++ c :: back = whole at hrow
    cases hrow with
    | roots =>
      have hearlier := earlier_of_row hstart (hwhole ▸ hahead) List.not_mem_nil hfront hb
      rw [hwhole] at hearlier
      have ha : a ∈ roots.foldl (visit next steps) [] := hwalk ⟨c, by simp [← hwhole], hca⟩
      exact hordered a ha b hab hearlier
    | @next r p hr hreach =>
      have hpc : c ∈ next p := by simp [← hwhole]
      have hpa : below p a := hbelow (TransGen.head' hpc hca)
      have hp := hwalk ⟨r, hr, hreach⟩
      have ha := hwalk ⟨r, hr, (hreach.tail hpc).trans hca⟩
      have hnext : next p ≠ [] := List.ne_nil_of_mem hpc
      obtain ⟨steps', active', entered', hready, hahead', hnew, hbegins⟩ :=
        exists_entry hacyclic hstart hahead hp List.not_mem_nil hnext
      have hentered : entered' ++ [p] <+: roots.foldl (visit next steps) [] :=
        (prefix_foldl_visit _ _ _).trans hbegins
      have hlater : a ∉ entered' ++ [p] := by
        intro hmem
        rcases List.mem_append.mp hmem with hmem | hmem
        · exact hordered p hp a hpa
            ⟨entered', (List.prefix_append _ _).trans hentered, hmem, hnew⟩
        · exact hirrefl p (List.mem_singleton.mp hmem ▸ hpa)
      have hearlier := earlier_of_row hready (hwhole ▸ hahead') hlater hfront hb
      rw [hwhole] at hearlier
      exact hordered a ha b hab (hearlier.extend hbegins)
  · intro hnone a ha b hab hearlier
    refine hnone a b hab (overtakes_of_earlier hacyclic hstart hahead List.not_mem_nil ha
      List.not_mem_nil hearlier fun hba => ?_)
    rcases reflTransGen_iff_eq_or_transGen.mp hba with rfl | hba
    · exact hirrefl _ hab
    · exact hirrefl a (htrans hab (hbelow hba))

end DepthFirst

end ApiSurface
