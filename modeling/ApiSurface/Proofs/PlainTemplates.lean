import ApiSurface.Proofs.TemplateScanning

/-!
# Plain templates

A template without constraints stays as it is. The name of a variable is cut at the first colon of
what stands in its braces, also inside nested braces and behind a backslash; so what is left is
balanced, and reads as the variables of the template, only if every name is.
-/

namespace ApiSurface.UriTemplate

variable {c : Char} {text body rest result : List Char} {bodies others : List (List Char)}

/-! ## Readings are unique -/

theorem reads_nil_iff : Reads [] others [] ↔ others = [] := by
  constructor
  · intro h
    cases h
    rfl
  · rintro rfl
    exact .done []

theorem reads_cons_iff (hc : c ≠ '\x7b') :
    Reads (c :: text) others [] ↔ Reads text others [] := by
  constructor
  · intro h
    cases h with
    | plain _ h => exact h
    | var _ _ => exact absurd rfl hc
  · exact .plain hc

/-- The inside of a variable is determined by the text behind its brace. -/
theorem reads_variable_iff (hbody : Balanced body) :
    Reads ('\x7b' :: (body ++ '\x7d' :: text)) others [] ↔
      ∃ more, others = body :: more ∧ Reads text more [] := by
  constructor
  · intro h
    generalize hinside : body ++ '\x7d' :: text = inside at h
    cases h with
    | plain hc _ => exact absurd rfl hc
    | @var body' text' _ more hbody' hmore =>
      have hend := variableEnd_eq_some_iff.mpr ⟨hbody, hinside.symm⟩
      have hend' : variableEnd 0 (body' ++ '\x7d' :: text') = some (body', text') :=
        variableEnd_eq_some_iff.mpr ⟨hbody', rfl⟩
      rw [hend] at hend'
      cases hend'
      exact ⟨more, rfl, hmore⟩
  · rintro ⟨more, rfl, hmore⟩
    exact .var hbody hmore

/-- An accepted template has one list of variables. -/
theorem exists_reads_iff_eq (h : Strips text result) :
    ∃ bodies, ∀ others, Reads text others [] ↔ others = bodies := by
  induction h with
  | nil => exact ⟨[], fun others => reads_nil_iff⟩
  | plain hc _ ih =>
    obtain ⟨bodies, hbodies⟩ := ih
    exact ⟨bodies, fun others => (reads_cons_iff hc).trans (hbodies others)⟩
  | @var body _ _ hbody _ ih =>
    obtain ⟨bodies, hbodies⟩ := ih
    refine ⟨body :: bodies, fun others => (reads_variable_iff hbody).trans ?_⟩
    simp [hbodies]

theorem Reads.balanced (h : Reads text bodies rest) : ∀ body ∈ bodies, Balanced body := by
  induction h with
  | done => simp
  | plain _ _ ih => exact ih
  | var hbody _ ih => exact List.forall_mem_cons.mpr ⟨hbody, ih⟩

/-! ## Templates that stay as they are -/

theorem variableName_eq_self_iff : variableName body = body ↔ ':' ∉ body := by
  rw [variableName, List.takeWhile_eq_self_iff]
  constructor
  · intro h hcolon
    simpa using h ':' hcolon
  · intro h c hc
    have hne : c ≠ ':' := fun heq => h (heq ▸ hc)
    simpa using hne

theorem length_variableName (body : List Char) : (variableName body).length ≤ body.length :=
  (List.takeWhile_sublist _).length_le

theorem Strips.length_le (h : Strips text result) : result.length ≤ text.length := by
  induction h with
  | nil => exact Nat.le_refl _
  | plain _ _ ih => exact Nat.succ_le_succ ih
  | @var body _ _ _ _ ih =>
    have hname := length_variableName body
    simp only [List.length_cons, List.length_append]
    omega

/-- A template stays as it is if none of its variables has a constraint. -/
theorem Strips.eq_iff (h : Strips text result) (hreads : Reads text bodies []) :
    result = text ↔ ∀ body ∈ bodies, ':' ∉ body := by
  induction h generalizing bodies with
  | nil => simp [reads_nil_iff.mp hreads]
  | plain hc _ ih =>
    rw [← ih ((reads_cons_iff hc).mp hreads)]
    simp
  | @var body text result hbody h ih =>
    obtain ⟨more, rfl, hmore⟩ := (reads_variable_iff hbody).mp hreads
    rw [List.forall_mem_cons, ← ih hmore, ← variableName_eq_self_iff]
    constructor
    · intro hsame
      -- neither part grows, so both keep their lengths
      have hname := length_variableName body
      have hlength := h.length_le
      have htotal := congrArg List.length hsame
      simp only [List.length_cons, List.length_append] at htotal
      obtain ⟨hbody, hrest⟩ := List.append_inj (List.cons.inj hsame).2 (by omega)
      exact ⟨hbody, (List.cons.inj hrest).2⟩
    · intro hsame
      obtain ⟨hname, hresult⟩ := hsame
      rw [hname, hresult]

theorem Reads.exists_strips (h : Reads text bodies []) : ∃ result, Strips text result := by
  generalize hrest : ([] : List Char) = rest at h
  induction h with
  | done => exact ⟨[], hrest ▸ .nil⟩
  | plain hc _ ih =>
    obtain ⟨result, hresult⟩ := ih hrest
    exact ⟨_, .plain hc hresult⟩
  | var hbody _ ih =>
    obtain ⟨result, hresult⟩ := ih hrest
    exact ⟨_, .var hbody hresult⟩

theorem strips_self_iff :
    Strips text text ↔ ∃ names, Reads text names [] ∧ ∀ name ∈ names, ':' ∉ name := by
  constructor
  · intro h
    obtain ⟨names, hnames⟩ := exists_reads_iff_eq h
    have hreads := (hnames names).mpr rfl
    exact ⟨names, hreads, (h.eq_iff hreads).mp rfl⟩
  · intro h
    obtain ⟨names, hreads, hnames⟩ := h
    obtain ⟨result, hresult⟩ := hreads.exists_strips
    obtain rfl := (hresult.eq_iff hreads).mpr hnames
    exact hresult

/-! ## Results that read as the template -/

theorem colon_not_mem_variableName (body : List Char) : ':' ∉ variableName body := by
  intro h
  simpa using List.mem_takeWhile_imp h

/-- Balanced names are the variables of the result. -/
theorem Strips.reads (h : Strips text result) (hreads : Reads text bodies [])
    (hnames : ∀ body ∈ bodies, Balanced (variableName body)) :
    Reads result (bodies.map variableName) [] := by
  induction h generalizing bodies with
  | nil =>
    rw [reads_nil_iff.mp hreads]
    exact .done []
  | plain hc _ ih => exact .plain hc (ih ((reads_cons_iff hc).mp hreads) hnames)
  | var hbody _ ih =>
    obtain ⟨more, rfl, hmore⟩ := (reads_variable_iff hbody).mp hreads
    obtain ⟨hname, hnames⟩ := List.forall_mem_cons.mp hnames
    exact .var hname (ih hmore hnames)

/-- The result of a template stays as it is exactly if it closes every variable that it opens and has
no constraint. It does so and has the variables of the template, under their names, exactly if every
name is balanced by itself. -/
theorem parse_again_iff {template result : String} (h : parse template = .ok result) :
    (parse result = .ok result ↔
      ∃ names, Reads result.toList names [] ∧ ∀ name ∈ names, ':' ∉ name) ∧
    ∃ bodies, (∀ others, Reads template.toList others [] ↔ others = bodies) ∧
      ((∀ body ∈ bodies, Balanced (variableName body)) ↔
        parse result = .ok result ∧ Reads result.toList (bodies.map variableName) []) := by
  rw [parse_eq_ok_iff, plain_eq_some_iff] at h ⊢
  obtain ⟨bodies, hbodies⟩ := exists_reads_iff_eq h
  have hreads := (hbodies bodies).mpr rfl
  refine ⟨strips_self_iff, bodies, hbodies, ?_⟩
  constructor
  · intro hnames
    have hresult := h.reads hreads hnames
    refine ⟨strips_self_iff.mpr ⟨_, hresult, ?_⟩, hresult⟩
    intro name hname
    obtain ⟨body, -, rfl⟩ := List.mem_map.mp hname
    exact colon_not_mem_variableName body
  · rintro ⟨-, hresult⟩ body hbody
    exact hresult.balanced _ (List.mem_map_of_mem hbody)

/-- The name of a variable with a constraint is balanced, so the result stays as it is. -/
theorem parse_again_order :
    parse "/\x7bid:[a-z]\x7b2\x7d\x7d" = .ok "/\x7bid\x7d" ∧
      parse "/\x7bid\x7d" = .ok "/\x7bid\x7d" ∧ Reads "/\x7bid\x7d".toList ["id".toList] [] := by
  have hparse : parse "/\x7bid:[a-z]\x7b2\x7d\x7d" = .ok "/\x7bid\x7d" := by decide +kernel
  obtain ⟨bodies, hbodies, hnames⟩ := (parse_again_iff hparse).2
  have htext : "/\x7bid:[a-z]\x7b2\x7d\x7d".toList =
      '/' :: '\x7b' :: ("id:[a-z]\x7b2\x7d".toList ++ '\x7d' :: []) := by decide
  have hreads : Reads "/\x7bid:[a-z]\x7b2\x7d\x7d".toList ["id:[a-z]\x7b2\x7d".toList] [] := by
    rw [htext]
    exact .plain (by decide) (.var (by decide) (.done []))
  cases (hbodies _).mp hreads
  exact ⟨hparse, hnames.mp (by decide)⟩

/-- A name that is cut inside of nested braces opens one that is not closed in it. Then the result is
no template, or its variable goes on behind the name. -/
theorem name_cut_in_braces :
    parse "/\x7ba\x7bb:c\x7d\x7d" = .ok "/\x7ba\x7bb\x7d" ∧
      parse "/\x7ba\x7bb\x7d" = .error (.malformedUriTemplate "/\x7ba\x7bb\x7d") ∧
    parse "/\x7ba\x7bb:c\x7d\x7d:d\x7d" = .ok "/\x7ba\x7bb\x7d:d\x7d" ∧
      parse "/\x7ba\x7bb\x7d:d\x7d" = .ok "/\x7ba\x7bb\x7d\x7d" := by
  decide +kernel

end ApiSurface.UriTemplate
