import ApiSurface.Proofs.BeanPopulation

/-!
# The order of roots

Two orders of the same roots lead to walks that may register a class under different variables.
The APIs are the same where the classes get the same in both, and so wherever the variables that
are followed do not matter to the classes that can be met.
-/

namespace ApiSurface.Survey

/-- A class can be met from the roots under these variables. -/
inductive Meets (survey : Survey) (roots : List String) : Sighting → Prop where
  | root {root : String} {t : ApiType} {met : List Sighting} {s : Sighting} :
      root ∈ roots → survey.reading .empty [] (.basic root) = some (t, met) → s ∈ met →
      Meets survey roots s
  | inside {s s' : Sighting} {entry : ApiEntry} {met : List Sighting} :
      Meets survey roots s → survey.entryAt? s = some (entry, met) → s' ∈ met →
      Meets survey roots s'

/-- Wherever a class can be met from the roots, it gets the same and meets the same classes. -/
def Unaffected (survey : Survey) (roots : List String) : Prop :=
  ∀ s s' entry entry' met met', survey.Meets roots s → survey.Meets roots s' →
    s.className = s'.className → survey.entryAt? s = some (entry, met) →
    survey.entryAt? s' = some (entry', met') →
    entry = entry' ∧ met.map Sighting.className = met'.map Sighting.className

variable {survey : Survey} {roots roots' : List String}

theorem Meets.perm {s : Sighting} (h : survey.Meets roots s) (hperm : roots.Perm roots') :
    survey.Meets roots' s := by
  induction h with
  | root hroot hread hs => exact .root (hperm.mem_iff.mp hroot) hread hs
  | inside _ hentry hs' ih => exact .inside ih hentry hs'

theorem Unaffected.perm (h : survey.Unaffected roots) (hperm : roots.Perm roots') :
    survey.Unaffected roots' :=
  fun s s' _ _ _ _ hs hs' => h s s' _ _ _ _ (hs.perm hperm.symm) (hs'.perm hperm.symm)

theorem mem_met_iff {types : List ApiType} {met : List Sighting}
    (h : survey.readCalls (rootCalls roots) = some (types, met)) (s : Sighting) :
    s ∈ met ↔ ∃ root ∈ roots, ∃ t more,
      survey.reading .empty [] (.basic root) = some (t, more) ∧ s ∈ more := by
  induction roots generalizing types met with
  | nil =>
    cases h
    simp
  | cons root roots ih =>
    obtain ⟨t, first, ts, rest, hfirst, hrest, -, rfl⟩ := readEach_cons_eq_some_iff.mp h
    rw [List.mem_append, ih hrest]
    simp [hfirst]

theorem meets_of_readCalls {types : List ApiType} {met : List Sighting}
    (h : survey.readCalls (rootCalls roots) = some (types, met)) {s : Sighting} (hs : s ∈ met) :
    survey.Meets roots s := by
  obtain ⟨root, hroot, t, more, hread, hs⟩ := (mem_met_iff h s).mp hs
  exact .root hroot hread hs

/-- What a walk registers can be met. -/
theorem Tour.meets {r : Registry} (h : survey.Tour (rootCalls roots) r) {q : String}
    {followed : List String} (hq : r.get? q = some followed) :
    survey.Meets roots ⟨q, followed⟩ := by
  obtain ⟨types, met, hread, hwalk⟩ := h
  exact hwalk.registered (fun _ _ _ hs hentry s' hs' => .inside hs hentry hs')
    (fun _ => meets_of_readCalls hread) (by rintro _ _ ⟨⟩) q followed hq

/-- If the variables that are followed do not matter, then every class that one order registers is
registered by the other. -/
theorem Unaffected.contains (h : survey.Unaffected roots) (hperm : roots.Perm roots')
    {r r' : Registry} (htour : survey.Tour (rootCalls roots) r)
    (htour' : survey.Tour (rootCalls roots') r') {q : String} (hq : r'.contains q = true) :
    r.contains q = true := by
  have hmeets : ∀ q followed, r.get? q = some followed → survey.Meets roots ⟨q, followed⟩ :=
    fun _ _ => htour.meets
  obtain ⟨types, met, hread, hwalk⟩ := htour
  obtain ⟨types', met', hread', hwalk'⟩ := htour'
  obtain ⟨followed, hq⟩ := Option.isSome_iff_exists.mp hq
  refine (hwalk'.registered (P := fun s => survey.Meets roots s ∧ r.contains s.className = true)
    ?_ ?_ (by rintro _ _ ⟨⟩) q followed hq).2
  · rintro s entry more ⟨hs, hknown⟩ hentry s' hs'
    refine ⟨.inside hs hentry hs', ?_⟩
    obtain ⟨followed', hthere⟩ := Option.isSome_iff_exists.mp hknown
    obtain hnone | ⟨entry', more', hentry', hmore⟩ := hwalk.closed hthere
    · cases hnone
    · obtain ⟨-, hnames⟩ := h _ _ _ _ _ _ hs (hmeets _ _ hthere) rfl hentry hentry'
      have hmem : s'.className ∈ more'.map Sighting.className :=
        hnames ▸ List.mem_map_of_mem hs'
      obtain ⟨s'', hs'', hname⟩ := List.mem_map.mp hmem
      exact hname ▸ hmore s'' hs''
  · intro s hs
    refine ⟨(meets_of_readCalls hread' hs).perm hperm.symm, hwalk.covers s ?_⟩
    obtain ⟨root, hroot, hmore⟩ := (mem_met_iff hread' s).mp hs
    exact (mem_met_iff hread s).mpr ⟨root, hperm.mem_iff.mpr hroot, hmore⟩

/-- Two orders of the same roots give one API exactly if under each name the class that has it gets
the same, read under the variables that are followed where the one order meets it first and the
other one does. This is so in particular if the variables that are followed matter nowhere. -/
theorem api_of_permuted_roots (survey : Survey) {roots roots' : List String}
    (hperm : roots.Perm roots') {d d' : Description}
    (hrun : Describing.run (roots.forM survey.describeRoot) .empty = (.ok (), d))
    (hrun' : Describing.run (roots'.forM survey.describeRoot) .empty = (.ok (), d')) :
    ∃ r r', survey.Tour (rootCalls roots) r ∧ survey.Tour (rootCalls roots') r' ∧
      (d.api = d'.api ↔ ∀ name, survey.entryIn r name = survey.entryIn r' name) ∧
      (survey.Unaffected roots → d.api = d'.api) := by
  obtain ⟨r, htour, hmatch, hgroups, himports⟩ := exists_tour_of_roots hrun
  obtain ⟨r', htour', hmatch', hgroups', himports'⟩ := exists_tour_of_roots hrun'
  have hiff : d.api = d'.api ↔ ∀ name, survey.entryIn r name = survey.entryIn r' name := by
    simp only [← hmatch.entry_eq, ← hmatch'.entry_eq]
    exact ApiDefinition.eq_iff_entry (hgroups.trans hgroups'.symm) (himports.trans himports'.symm)
  refine ⟨r, r', htour, htour', hiff, fun hunaffected => hiff.mpr fun name => ?_⟩
  rw [← hmatch.entry_eq, ← hmatch'.entry_eq]
  have hsame : ∀ q, r.contains q = r'.contains q := fun q => Bool.eq_iff_iff.mpr
    ⟨(hunaffected.perm hperm).contains hperm.symm htour' htour,
      hunaffected.contains hperm htour htour'⟩
  by_cases hknown : ∃ q, r.contains q = true ∧ survey.nameOf q = name
  · obtain ⟨q, hq, rfl⟩ := hknown
    obtain ⟨followed, hfollowed⟩ := Option.isSome_iff_exists.mp hq
    obtain ⟨followed', hfollowed'⟩ := Option.isSome_iff_exists.mp ((hsame q).symm.trans hq)
    obtain ⟨met, hentry⟩ := hmatch.settled q followed hfollowed (by simp)
    obtain ⟨met', hentry'⟩ := hmatch'.settled q followed' hfollowed' (by simp)
    exact (hunaffected _ _ _ _ _ _ (htour.meets hfollowed)
      ((htour'.meets hfollowed').perm hperm.symm) rfl hentry hentry').1
  · rw [hmatch.free name fun q hq hname => hknown ⟨q, hq, hname⟩,
      hmatch'.free name fun q hq hname => hknown ⟨q, (hsame q).trans hq, hname⟩]

/-- Nothing is affected where no class is met while a variable is followed. -/
theorem unaffected_of_followed_nil (h : ∀ s, survey.Meets roots s → s.followed = []) :
    survey.Unaffected roots := by
  rintro ⟨q, followed⟩ ⟨q', followed'⟩ entry entry' met met' hs hs' rfl hentry hentry'
  obtain rfl : followed = [] := h _ hs
  obtain rfl : followed' = [] := h _ hs'
  obtain ⟨rfl, rfl⟩ := Prod.mk.inj (Option.some.inj (hentry.symm.trans hentry'))
  exact ⟨rfl, rfl⟩

theorem meets_mutualBeans {s : Sighting} (h : mutualBeans.Meets ["Left", "Right"] s) :
    s = ⟨"Left", []⟩ ∨ s = ⟨"Right", []⟩ := by
  have hleft : mutualBeans.reading .empty [] (.basic "Left") =
      some (.reference "Left", [⟨"Left", []⟩]) := by
    rw [reading]
    rfl
  have hright : mutualBeans.reading .empty [] (.basic "Right") =
      some (.reference "Right", [⟨"Right", []⟩]) := by
    rw [reading]
    rfl
  have hread : ∀ name field other, mutualBeans.kind name =
      .defined (fieldBean name field other) →
      mutualBeans.shape (fieldBean name field other) =
        .ok (.members [⟨field, .basic other, .empty, false⟩]) →
      mutualBeans.reading .empty [] (.basic other) = some (.reference other, [⟨other, []⟩]) →
      ∃ entry, mutualBeans.entryAt? ⟨name, []⟩ = some (entry, [⟨other, []⟩]) := by
    intro name field other hkind hshape hother
    simp [entryAt?, hkind, hshape, readShape, readClass, readEach, readSlot, hother]
  induction h with
  | root hroot hread hs =>
    simp only [List.mem_cons, List.not_mem_nil, or_false] at hroot
    obtain rfl | rfl := hroot
    · cases hleft.symm.trans hread
      exact .inl (List.mem_singleton.mp hs)
    · cases hright.symm.trans hread
      exact .inr (List.mem_singleton.mp hs)
  | inside _ hentry hs ih =>
    obtain rfl | rfl := ih
    · obtain ⟨entry, hthere⟩ := hread "Left" "other" "Right" rfl rfl hright
      cases hthere.symm.trans hentry
      exact .inr (List.mem_singleton.mp hs)
    · obtain ⟨entry, hthere⟩ := hread "Right" "back" "Left" rfl rfl hleft
      cases hthere.symm.trans hentry
      exact .inl (List.mem_singleton.mp hs)

/-- The two orders of beans without variables give one API. -/
theorem api_of_permuted_roots_mutual :
    ∃ d d', Describing.run (["Left", "Right"].forM mutualBeans.describeRoot) .empty =
        (.ok (), d) ∧
      Describing.run (["Right", "Left"].forM mutualBeans.describeRoot) .empty = (.ok (), d') ∧
      mutualBeans.Unaffected ["Left", "Right"] ∧ d.api = d'.api := by
  have hunaffected : mutualBeans.Unaffected ["Left", "Right"] :=
    unaffected_of_followed_nil fun s hs => by
      obtain rfl | rfl := meets_mutualBeans hs <;> rfl
  have hrun : Describing.run (["Left", "Right"].forM mutualBeans.describeRoot) .empty =
      (.ok (), (Describing.run (["Left", "Right"].forM mutualBeans.describeRoot) .empty).2) :=
    Describing.run_eq_of_fst (by decide +kernel)
  have hrun' : Describing.run (["Right", "Left"].forM mutualBeans.describeRoot) .empty =
      (.ok (), (Describing.run (["Right", "Left"].forM mutualBeans.describeRoot) .empty).2) :=
    Describing.run_eq_of_fst (by decide +kernel)
  obtain ⟨_, _, _, _, _, hsame⟩ :=
    api_of_permuted_roots mutualBeans (List.Perm.swap "Right" "Left" []) hrun hrun'
  exact ⟨_, _, hrun, hrun', hunaffected, hsame hunaffected⟩

/-- A class with a field of its type variable, and two classes above which it stands. One of them
gives the other one as the argument. -/
def sharedVariable : Survey :=
  ⟨.ofClasses [.ofFields "Base" ⟨[("T", [])]⟩ .object [("value", .var "T")],
    .ofFields "Holder" .empty (.parameterized (.basic "Base") [.basic "Item"]) [],
    .ofFields "Item" .empty (.parameterized (.basic "Base") [.basic "java.lang.String"]) []],
    .empty⟩

/-- If a class is met first while a variable is followed, and has a variable of this name above
itself, then its property is not described as it is otherwise. -/
theorem api_depends_on_order :
    ["Holder", "Item"].Perm ["Item", "Holder"] ∧ ∃ d d',
      Describing.run (["Holder", "Item"].forM sharedVariable.describeRoot) .empty = (.ok (), d) ∧
      Describing.run (["Item", "Holder"].forM sharedVariable.describeRoot) .empty =
        (.ok (), d') ∧
      d.api ≠ d'.api := by
  have hrun : Describing.run (["Holder", "Item"].forM sharedVariable.describeRoot) .empty =
      (.ok (), (Describing.run (["Holder", "Item"].forM sharedVariable.describeRoot) .empty).2) :=
    Describing.run_eq_of_fst (by decide +kernel)
  have hrun' : Describing.run (["Item", "Holder"].forM sharedVariable.describeRoot) .empty =
      (.ok (), (Describing.run (["Item", "Holder"].forM sharedVariable.describeRoot) .empty).2) :=
    Describing.run_eq_of_fst (by decide +kernel)
  exact ⟨List.Perm.swap _ _ _, _, _, hrun, hrun', by decide +kernel⟩

end ApiSurface.Survey
