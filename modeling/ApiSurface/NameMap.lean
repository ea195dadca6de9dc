/-!
# Maps keyed by names

A map from names to values that keeps its entries in the order of the names' code points.
The order is part of the type, so two maps with the same look-ups are the same map.
-/

namespace ApiSurface

structure NameMap (β : Type) where
  entries : List (String × β)
  sorted : entries.Pairwise (fun a b => a.1 < b.1)
  deriving DecidableEq

namespace NameMap

variable {β γ : Type}

instance [Repr β] : Repr (NameMap β) where
  reprPrec m n := reprPrec m.entries n

def empty : NameMap β := ⟨[], .nil⟩

instance : Inhabited (NameMap β) := ⟨empty⟩

def insertEntry (k : String) (v : β) : List (String × β) → List (String × β)
  | [] => [(k, v)]
  | (k', v') :: rest =>
    if k < k' then (k, v) :: (k', v') :: rest
    else if k = k' then (k, v) :: rest
    else (k', v') :: insertEntry k v rest

theorem mem_insertEntry {k : String} {v : β} {a : String × β} {l : List (String × β)} :
    a ∈ insertEntry k v l → a = (k, v) ∨ a ∈ l := by
  induction l with
  | nil => simp [insertEntry]
  | cons hd tl ih =>
    obtain ⟨k', v'⟩ := hd
    grind [insertEntry]

theorem pairwise_insertEntry (k : String) (v : β) {l : List (String × β)}
    (h : l.Pairwise (fun a b => a.1 < b.1)) :
    (insertEntry k v l).Pairwise (fun a b => a.1 < b.1) := by
  induction l with
  | nil => simp [insertEntry]
  | cons hd tl ih =>
    obtain ⟨k', v'⟩ := hd
    obtain ⟨hhd, htl⟩ := List.pairwise_cons.mp h
    unfold insertEntry
    split
    · rename_i hlt
      refine List.pairwise_cons.mpr ⟨fun a ha => ?_, h⟩
      rcases List.mem_cons.mp ha with rfl | ha
      · exact hlt
      · exact String.lt_trans hlt (hhd a ha)
    · rename_i hnlt
      split
      · rename_i heq
        subst heq
        exact List.pairwise_cons.mpr ⟨hhd, htl⟩
      · rename_i hne
        refine List.pairwise_cons.mpr ⟨fun a ha => ?_, ih htl⟩
        rcases mem_insertEntry ha with rfl | ha
        · rcases Std.lt_trichotomy k' k with h' | h' | h'
          · exact h'
          · exact absurd h'.symm hne
          · exact absurd h' hnlt
        · exact hhd a ha

/-- Adds an entry, or replaces the one that is there under the same name. -/
def insert (m : NameMap β) (k : String) (v : β) : NameMap β :=
  ⟨insertEntry k v m.entries, pairwise_insertEntry k v m.sorted⟩

def get? (m : NameMap β) (k : String) : Option β := m.entries.lookup k

def contains (m : NameMap β) (k : String) : Bool := (m.get? k).isSome

def keys (m : NameMap β) : List String := m.entries.map Prod.fst

def values (m : NameMap β) : List β := m.entries.map Prod.snd

def size (m : NameMap β) : Nat := m.entries.length

def isEmpty (m : NameMap β) : Bool := m.entries.isEmpty

/-- The first value given for a name stays. -/
def insertNew (m : NameMap β) (k : String) (v : β) : NameMap β :=
  if m.contains k then m else m.insert k v

@[simp] theorem get?_empty (k : String) : (empty : NameMap β).get? k = none := rfl

theorem lookup_insertEntry (k k' : String) (v : β) (l : List (String × β)) :
    (insertEntry k v l).lookup k' = if k' = k then some v else l.lookup k' := by
  induction l with
  | nil => grind [insertEntry]
  | cons hd tl ih =>
    obtain ⟨k₀, v₀⟩ := hd
    grind [insertEntry]

@[simp] theorem get?_insert (m : NameMap β) (k k' : String) (v : β) :
    (m.insert k v).get? k' = if k' = k then some v else m.get? k' :=
  lookup_insertEntry k k' v m.entries

@[simp] theorem contains_empty (k : String) : (empty : NameMap β).contains k = false := rfl

@[simp] theorem contains_insert (m : NameMap β) (k k' : String) (v : β) :
    (m.insert k v).contains k' = (decide (k' = k) || m.contains k') := by
  by_cases h : k' = k <;> simp [contains, h]

theorem get?_insertNew (m : NameMap β) (k k' : String) (v : β) :
    (m.insertNew k v).get? k' = if k' = k then some ((m.get? k).getD v) else m.get? k' := by
  by_cases hk : k' = k
  · subst hk
    cases hm : m.get? k' <;> simp [insertNew, contains, hm]
  · by_cases hm : m.contains k = true <;> simp [insertNew, hm, hk]

@[simp] theorem contains_insertNew (m : NameMap β) (k k' : String) (v : β) :
    (m.insertNew k v).contains k' = (decide (k' = k) || m.contains k') := by
  by_cases hk : k' = k <;> simp [contains, get?_insertNew, hk]

/-! ## Entries and look-ups -/

theorem lookup_eq_some_iff {l : List (String × β)} (h : l.Pairwise (fun a b => a.1 < b.1))
    (k : String) (v : β) : l.lookup k = some v ↔ (k, v) ∈ l := by
  induction l with
  | nil => simp
  | cons hd tl ih =>
    obtain ⟨k₀, v₀⟩ := hd
    obtain ⟨hhd, htl⟩ := List.pairwise_cons.mp h
    by_cases hk : k = k₀
    · subst hk
      have hnone : (k, v) ∉ tl := fun hmem => String.lt_irrefl k (hhd _ hmem)
      simp [hnone, eq_comm]
    · have hb : (k == k₀) = false := by simp [hk]
      simp [List.lookup_cons, hb, ih htl, hk]

/-- The entries are what is found by looking up. -/
theorem mem_entries_iff (m : NameMap β) (k : String) (v : β) :
    (k, v) ∈ m.entries ↔ m.get? k = some v :=
  (lookup_eq_some_iff m.sorted k v).symm

theorem mem_keys_iff (m : NameMap β) (k : String) : k ∈ m.keys ↔ m.contains k = true := by
  simp only [keys, List.mem_map, Prod.exists, exists_and_right, exists_eq_right, mem_entries_iff,
    contains, Option.isSome_iff_exists]

theorem mem_values_iff (m : NameMap β) (v : β) : v ∈ m.values ↔ ∃ k, m.get? k = some v := by
  simp only [values, List.mem_map, Prod.exists, exists_eq_right, mem_entries_iff]

/-- Ascending lists with the same members are the same list. -/
theorem eq_of_same_members {l l' : List (String × β)}
    (h : l.Pairwise (fun a b => a.1 < b.1)) (h' : l'.Pairwise (fun a b => a.1 < b.1))
    (same : ∀ a, a ∈ l ↔ a ∈ l') : l = l' := by
  induction l generalizing l' with
  | nil =>
    cases l' with
    | nil => rfl
    | cons b t => exact absurd ((same b).mpr List.mem_cons_self) (by simp)
  | cons a s ih =>
    cases l' with
    | nil => exact absurd ((same a).mp List.mem_cons_self) (by simp)
    | cons b t =>
      obtain ⟨ha, hs⟩ := List.pairwise_cons.mp h
      obtain ⟨hb, ht⟩ := List.pairwise_cons.mp h'
      have hab : a = b := by
        rcases List.mem_cons.mp ((same a).mp List.mem_cons_self) with hab | hat
        · exact hab
        · rcases List.mem_cons.mp ((same b).mpr List.mem_cons_self) with hba | hbs
          · exact hba.symm
          · exact absurd (String.lt_trans (ha b hbs) (hb a hat)) (String.lt_irrefl _)
      subst hab
      have tails : ∀ c, c ∈ s ↔ c ∈ t := by
        intro c
        constructor
        · intro hc
          rcases List.mem_cons.mp ((same c).mp (List.mem_cons_of_mem a hc)) with hca | hct
          · exact absurd (hca ▸ ha c hc) (String.lt_irrefl _)
          · exact hct
        · intro hc
          rcases List.mem_cons.mp ((same c).mpr (List.mem_cons_of_mem a hc)) with hca | hcs
          · exact absurd (hca ▸ hb c hc) (String.lt_irrefl _)
          · exact hcs
      rw [ih hs ht tails]

/-- Maps with the same look-ups are the same map. -/
theorem ext_get? {m m' : NameMap β} (h : ∀ k, m.get? k = m'.get? k) : m = m' := by
  have hentries : m.entries = m'.entries :=
    eq_of_same_members m.sorted m'.sorted fun (k, v) => by
      rw [mem_entries_iff, mem_entries_iff, h k]
  cases m
  cases m'
  cases hentries
  rfl

end NameMap

end ApiSurface
