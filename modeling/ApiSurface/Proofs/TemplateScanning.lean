import Mathlib.Data.List.Infix
import Mathlib.Data.List.TakeWhile
import Mathlib.Tactic.Common
import ApiSurface.UriTemplate

/-!
# Scanning of URI templates

What stands in the braces of a variable is balanced: braces that are opened within are closed
within, and a backslash takes the next character out of the count. The scanner of a template finds
the end of each variable by counting, and a template is malformed exactly if it opens a variable
that nothing closes.
-/

namespace ApiSurface.UriTemplate

variable {depth : Nat} {c : Char} {text body read rest : List Char}

/-! ## Balanced texts -/

/-- What is left of a text without the backslashes and the characters that they take. -/
def unescaped : List Char → List Char
  | [] => []
  | ['\\'] => []
  | '\\' :: _ :: rest => unescaped rest
  | c :: rest => c :: unescaped rest

/-- No backslash is left without a character that it takes. -/
def takesAll : List Char → Bool
  | [] => true
  | ['\\'] => false
  | '\\' :: _ :: rest => takesAll rest
  | _ :: rest => takesAll rest

/-- How many braces a text opens. -/
def opened (text : List Char) : Nat := (unescaped text).count '\x7b'

/-- How many braces a text closes. -/
def closed (text : List Char) : Nat := (unescaped text).count '\x7d'

/-- Read from the left, the characters never close more braces than they and what stands before
them open. -/
def Covered (depth : Nat) (text : List Char) : Prop :=
  ∀ read, read <+: text → read.count '\x7d' ≤ depth + read.count '\x7b'

/-- Without the characters behind backslashes, the text closes as many braces as it opens, at no
place more, and no backslash ends it. -/
structure Balanced (text : List Char) : Prop where
  takesAll : takesAll text = true
  covered : Covered 0 (unescaped text)
  even : closed text = opened text

instance : Decidable (Covered depth text) :=
  decidable_of_iff (∀ read ∈ text.inits, read.count '\x7d' ≤ depth + read.count '\x7b')
    (by simp [Covered])

instance : Decidable (Balanced text) :=
  decidable_of_iff
    (UriTemplate.takesAll text = true ∧ Covered 0 (unescaped text) ∧ closed text = opened text)
    ⟨fun h => ⟨h.1, h.2.1, h.2.2⟩, fun h => ⟨h.takesAll, h.covered, h.even⟩⟩

theorem unescaped_cons (hc : c ≠ '\\') : unescaped (c :: rest) = c :: unescaped rest := by
  rw [unescaped] <;> simp [hc]

theorem takesAll_cons (hc : c ≠ '\\') : takesAll (c :: rest) = takesAll rest := by
  rw [takesAll] <;> simp [hc]

/-- A text ends, ends in a backslash, or goes on behind a backslash with the character that it takes
or behind another character. -/
theorem escape_induct {motive : List Char → Prop} (nil : motive []) (lone : motive ['\\'])
    (escape : ∀ c rest, motive rest → motive ('\\' :: c :: rest))
    (plain : ∀ c rest, c ≠ '\\' → motive rest → motive (c :: rest)) (text : List Char) :
    motive text := by
  induction text using unescaped.induct with
  | case1 => exact nil
  | case2 => exact lone
  | case3 c rest ih => exact escape c rest ih
  | case4 c rest hlone hescape ih =>
    by_cases hc : c = '\\'
    · cases rest with
      | nil => exact absurd rfl (hlone hc)
      | cons d rest => exact absurd rfl (hescape d rest hc)
    · exact plain c rest hc ih

/-- What is read together keeps its parts, if the first of them ends behind an escape or between two
characters. -/
theorem unescaped_append (h : takesAll read = true) (rest : List Char) :
    unescaped (read ++ rest) = unescaped read ++ unescaped rest := by
  induction read using escape_induct with
  | nil => rfl
  | lone => cases h
  | escape c read ih => exact ih h
  | plain c read hc ih =>
    rw [takesAll_cons hc] at h
    rw [List.cons_append, unescaped_cons hc, unescaped_cons hc, ih h, List.cons_append]

theorem count_cons (brace c : Char) (text : List Char) :
    (c :: text).count brace = [c].count brace + text.count brace := by
  rw [← List.count_append]
  rfl

/-- The count behind a character. -/
theorem covered_cons : Covered depth (c :: text) ↔
    [c].count '\x7d' ≤ depth + [c].count '\x7b' ∧
      Covered (depth + [c].count '\x7b' - [c].count '\x7d') text := by
  constructor
  · intro h
    have hfirst := h [c] (by simp)
    refine ⟨hfirst, fun read hread => ?_⟩
    have hboth := h (c :: read) (List.cons_prefix_cons.mpr ⟨rfl, hread⟩)
    rw [count_cons '\x7d' c, count_cons '\x7b' c] at hboth
    omega
  · intro hboth read hread
    obtain ⟨hfirst, h⟩ := hboth
    rcases List.prefix_cons_iff.mp hread with rfl | ⟨more, rfl, hmore⟩
    · simp
    · have hlater := h more hmore
      rw [count_cons '\x7d' c, count_cons '\x7b' c]
      omega

theorem covered_nil : Covered depth [] := by
  intro read hread
  simp [List.prefix_nil.mp hread]

theorem Covered.of_append (h : Covered depth (read ++ rest)) : Covered depth read :=
  fun _ hmore => h _ (hmore.trans (List.prefix_append read rest))

/-! ## The end of a variable -/

@[simp] theorem variableEnd_escape : variableEnd depth ('\\' :: c :: rest) =
    (variableEnd depth rest).map fun (body, rest) => ('\\' :: c :: body, rest) := rfl

/-- The scanner counts the braces that are open. -/
theorem variableEnd_cons (hc : c ≠ '\\') : variableEnd depth (c :: rest) =
    if c = '\x7d' ∧ depth = 0 then some ([], rest)
    else (variableEnd (depth + [c].count '\x7b' - [c].count '\x7d') rest).map
      fun (body, rest) => (c :: body, rest) := by
  by_cases hopen : c = '\x7b'
  · subst hopen
    simp [variableEnd]
  · by_cases hclose : c = '\x7d'
    · subst hclose
      cases depth <;> simp [variableEnd]
    · rw [variableEnd] <;> simp_all

theorem opened_cons (hc : c ≠ '\\') : opened (c :: text) = [c].count '\x7b' + opened text := by
  rw [opened, unescaped_cons hc, count_cons]
  rfl

theorem closed_cons (hc : c ≠ '\\') : closed (c :: text) = [c].count '\x7d' + closed text := by
  rw [closed, unescaped_cons hc, count_cons]
  rfl

/-- Behind a part of a variable the scanner's count is what this part opens and does not close. -/
theorem variableEnd_append (htakes : takesAll read = true)
    (hcovered : Covered depth (unescaped read)) (rest : List Char) :
    variableEnd depth (read ++ rest) = (variableEnd (depth + opened read - closed read) rest).map
      fun (body, after) => (read ++ body, after) := by
  induction read using escape_induct generalizing depth with
  | nil => simp [opened, closed, unescaped]
  | lone => cases htakes
  | escape c read ih =>
    have hread := ih htakes hcovered
    simp only [List.cons_append, variableEnd_escape, hread, Option.map_map]
    rfl
  | plain c read hc ih =>
    rw [takesAll_cons hc] at htakes
    rw [unescaped_cons hc, covered_cons] at hcovered
    obtain ⟨hfirst, hcovered⟩ := hcovered
    have hopen : ¬(c = '\x7d' ∧ depth = 0) := by
      rintro ⟨rfl, rfl⟩
      simp at hfirst
    have hcount : depth + [c].count '\x7b' - [c].count '\x7d' + opened read - closed read =
        depth + opened (c :: read) - closed (c :: read) := by
      rw [opened_cons hc, closed_cons hc]
      omega
    rw [List.cons_append, variableEnd_cons hc, if_neg hopen, ih htakes hcovered, hcount,
      Option.map_map]
    rfl

theorem count_le_of_not_closing (h : ¬(c = '\x7d' ∧ depth = 0)) :
    [c].count '\x7d' ≤ depth + [c].count '\x7b' := by
  by_cases hclose : c = '\x7d'
  · subst hclose
    simp at h ⊢
    omega
  · simp [hclose]

/-- What the scanner takes for the inside of a variable closes every open brace, at no place more.
The induction is on the text, whose head the scanner reads. -/
theorem covered_of_variableEnd (h : variableEnd depth text = some (body, rest)) :
    takesAll body = true ∧ Covered depth (unescaped body) ∧ closed body = depth + opened body := by
  induction text using escape_induct generalizing depth body with
  | nil => cases h
  | lone => cases h
  | escape c text ih =>
    rw [variableEnd_escape, Option.map_eq_some_iff] at h
    obtain ⟨⟨body, _⟩, h, heq⟩ := h
    cases heq
    have hinside := ih h
    exact hinside
  | plain c text hc ih =>
    rw [variableEnd_cons hc] at h
    split_ifs at h with hclose
    · obtain ⟨-, rfl⟩ := hclose
      cases h
      exact ⟨rfl, covered_nil, rfl⟩
    · rw [Option.map_eq_some_iff] at h
      obtain ⟨⟨body, _⟩, h, heq⟩ := h
      cases heq
      obtain ⟨htakes, hcovered, heven⟩ := ih h
      refine ⟨by rwa [takesAll_cons hc], ?_, ?_⟩
      · rw [unescaped_cons hc]
        exact covered_cons.mpr ⟨count_le_of_not_closing hclose, hcovered⟩
      · rw [opened_cons hc, closed_cons hc, heven]
        have hfirst := count_le_of_not_closing hclose
        omega

/-- Where no brace closes the variable, none closes more than what is open. -/
theorem covered_of_variableEnd_eq_none (h : variableEnd depth text = none) :
    Covered depth (unescaped text) := by
  induction text using escape_induct generalizing depth with
  | nil => exact covered_nil
  | lone => exact covered_nil
  | escape c text ih => exact ih (by simpa using h)
  | plain c text hc ih =>
    rw [variableEnd_cons hc] at h
    split_ifs at h with hclose
    rw [Option.map_eq_none_iff] at h
    rw [unescaped_cons hc]
    exact covered_cons.mpr ⟨count_le_of_not_closing hclose, ih h⟩

/-- A variable ends at the brace behind the balanced text that stands in it. -/
theorem variableEnd_eq_some_iff :
    variableEnd 0 text = some (body, rest) ↔ Balanced body ∧ text = body ++ '\x7d' :: rest := by
  constructor
  · intro h
    obtain ⟨htakes, hcovered, heven⟩ := covered_of_variableEnd h
    exact ⟨⟨htakes, hcovered, by omega⟩, eq_append_of_variableEnd h⟩
  · rintro ⟨hbody, rfl⟩
    have heven := hbody.even
    rw [variableEnd_append hbody.takesAll hbody.covered, heven, Nat.zero_add, Nat.sub_self]
    simp [variableEnd]

/-- What is read of a text as the inside of a variable: all in front of the brace that closes it, or
the whole text if none does. -/
def scanned (text : List Char) : List Char := ((variableEnd 0 text).map Prod.fst).getD text

theorem covered_scanned (text : List Char) : Covered 0 (unescaped (scanned text)) := by
  cases h : variableEnd 0 text with
  | none => simpa [scanned, h] using covered_of_variableEnd_eq_none h
  | some found =>
    obtain ⟨body, rest⟩ := found
    obtain ⟨-, hcovered, -⟩ := covered_of_variableEnd h
    simpa [scanned, h] using hcovered

/-- Wherever the scanner stands, no more braces were closed than opened, and its count is the number
of those that are open. -/
theorem variableEnd_of_scanned (htakes : takesAll read = true)
    (hread : read <+: scanned (read ++ rest)) :
    closed read ≤ opened read ∧ variableEnd 0 (read ++ rest) =
      (variableEnd (opened read - closed read) rest).map
        fun (body, after) => (read ++ body, after) := by
  obtain ⟨more, hmore⟩ := hread
  have hcovered : Covered 0 (unescaped read) := by
    have hscanned := covered_scanned (read ++ rest)
    rw [← hmore, unescaped_append htakes] at hscanned
    exact hscanned.of_append
  have hcount := hcovered (unescaped read) List.prefix_rfl
  rw [Nat.zero_add] at hcount
  refine ⟨hcount, ?_⟩
  rw [variableEnd_append htakes hcovered, Nat.zero_add]

/-! ## The variables of a template -/

/-- Up to the rest, the text consists of characters that open nothing and of closed variables, with
what stands in their braces. -/
inductive Reads : List Char → List (List Char) → List Char → Prop where
  | done (rest : List Char) : Reads rest [] rest
  | plain {c : Char} {text rest : List Char} {bodies : List (List Char)} :
      c ≠ '\x7b' → Reads text bodies rest → Reads (c :: text) bodies rest
  | var {body text rest : List Char} {bodies : List (List Char)} :
      Balanced body → Reads text bodies rest →
      Reads ('\x7b' :: (body ++ '\x7d' :: text)) (body :: bodies) rest

/-- Behind the brace that opens a variable stands the brace that closes it. -/
def Closes (text : List Char) : Prop := ∃ body after, Balanced body ∧ text = body ++ '\x7d' :: after

theorem variableEnd_eq_none_iff : variableEnd 0 text = none ↔ ¬ Closes text := by
  rw [← not_iff_not, not_not, ← ne_eq, Option.ne_none_iff_exists']
  simp only [Prod.exists, variableEnd_eq_some_iff]
  rfl

@[simp] theorem plain_nil : plain [] = some [] := by
  rw [plain]

theorem plain_cons (hc : c ≠ '\x7b') : plain (c :: rest) = (plain rest).map (c :: ·) := by
  rw [plain]
  exact hc

theorem plain_variable (hbody : Balanced body) (rest : List Char) :
    plain ('\x7b' :: (body ++ '\x7d' :: rest)) =
      (plain rest).map fun tail => '\x7b' :: variableName body ++ '\x7d' :: tail := by
  have hend : variableEnd 0 (body ++ '\x7d' :: rest) = some (body, rest) :=
    variableEnd_eq_some_iff.mpr ⟨hbody, rfl⟩
  rw [plain]
  split
  · next h => rw [hend] at h; cases h
  · next h => rw [hend] at h; cases h; rfl

theorem plain_open (h : ¬ Closes rest) : plain ('\x7b' :: rest) = none := by
  have hend := variableEnd_eq_none_iff.mpr h
  rw [plain]
  split
  · rfl
  · next hsome => rw [hend] at hsome; cases hsome

/-- A template ends, or starts with a character that opens nothing, with a closed variable or with
the brace of one that nothing closes. -/
theorem plain_induct {motive : List Char → Prop} (nil : motive [])
    (plain : ∀ c rest, c ≠ '\x7b' → motive rest → motive (c :: rest))
    (var : ∀ body rest, Balanced body → motive rest →
      motive ('\x7b' :: (body ++ '\x7d' :: rest)))
    (unclosed : ∀ rest, ¬ Closes rest → motive ('\x7b' :: rest)) (text : List Char) :
    motive text := by
  induction text using UriTemplate.plain.induct with
  | case1 => exact nil
  | case2 rest hend => exact unclosed rest (variableEnd_eq_none_iff.mp hend)
  | case3 rest body after hend _ ih =>
    obtain ⟨hbody, rfl⟩ := variableEnd_eq_some_iff.mp hend
    exact var body after hbody ih
  | case4 c rest hc ih => exact plain c rest hc ih

/-- Without its constraints the one text is the other. -/
inductive Strips : List Char → List Char → Prop where
  | nil : Strips [] []
  | plain {c : Char} {text result : List Char} :
      c ≠ '\x7b' → Strips text result → Strips (c :: text) (c :: result)
  | var {body text result : List Char} : Balanced body → Strips text result →
      Strips ('\x7b' :: (body ++ '\x7d' :: text))
        ('\x7b' :: (variableName body ++ '\x7d' :: result))

theorem plain_eq_some_iff {result : List Char} : plain text = some result ↔ Strips text result := by
  constructor
  · intro h
    induction text using plain_induct generalizing result with
    | nil =>
      cases plain_nil.symm.trans h
      exact .nil
    | plain c text hc ih =>
      rw [plain_cons hc, Option.map_eq_some_iff] at h
      obtain ⟨tail, h, rfl⟩ := h
      exact .plain hc (ih h)
    | var body text hbody ih =>
      rw [plain_variable hbody, Option.map_eq_some_iff] at h
      obtain ⟨tail, h, rfl⟩ := h
      exact .var hbody (ih h)
    | unclosed text hopen => simp [plain_open hopen] at h
  · intro h
    induction h with
    | nil => exact plain_nil
    | plain hc _ ih => rw [plain_cons hc, ih, Option.map_some]
    | var hbody _ ih => rw [plain_variable hbody, ih, Option.map_some, List.cons_append]

/-- A template is rejected exactly if it opens a variable that nothing closes. -/
theorem plain_eq_none_iff :
    plain text = none ↔ ∃ bodies rest, Reads text bodies ('\x7b' :: rest) ∧ ¬ Closes rest := by
  constructor
  · intro h
    induction text using plain_induct with
    | nil => simp at h
    | plain c text hc ih =>
      rw [plain_cons hc, Option.map_eq_none_iff] at h
      obtain ⟨bodies, rest, hreads, hopen⟩ := ih h
      exact ⟨bodies, rest, .plain hc hreads, hopen⟩
    | var body text hbody ih =>
      rw [plain_variable hbody, Option.map_eq_none_iff] at h
      obtain ⟨bodies, rest, hreads, hopen⟩ := ih h
      exact ⟨body :: bodies, rest, .var hbody hreads, hopen⟩
    | unclosed rest hopen => exact ⟨[], rest, .done _, hopen⟩
  · intro h
    obtain ⟨bodies, rest, hreads, hopen⟩ := h
    generalize hbehind : '\x7b' :: rest = behind at hreads
    induction hreads with
    | done =>
      subst hbehind
      exact plain_open hopen
    | plain hc _ ih => simp [plain_cons hc, ih hbehind]
    | var hbody _ ih => simp [plain_variable hbody, ih hbehind]

/-! ## Segments -/

/-- A part of a template: text, a variable, or a variable whose value a regular expression
constrains. -/
inductive Segment where
  | literal (text : List Char)
  | var (name : List Char)
  | constrained (name regex : List Char)

namespace Segment

def spelling : Segment → List Char
  | literal text => text
  | var name => '\x7b' :: name ++ ['\x7d']
  | constrained name regex => '\x7b' :: name ++ ':' :: regex ++ ['\x7d']

/-- The part without its constraint. -/
def unconstrained : Segment → Segment
  | constrained name _ => var name
  | segment => segment

/-- The name has neither braces nor colons nor backslashes. -/
def IsName (name : List Char) : Prop := ∀ c ∈ name, c ∉ ['\x7b', '\x7d', ':', '\\']

-- There is also an instance that tries every character.
instance (name : List Char) : Decidable (IsName name) := List.decidableBAll _ name

/-- Text opens no variable, a variable has a name, and a constraint is balanced. -/
def WellFormed : Segment → Prop
  | literal text => '\x7b' ∉ text
  | var name => IsName name
  | constrained name regex => IsName name ∧ Balanced regex

instance : (segment : Segment) → Decidable segment.WellFormed
  | literal text => inferInstanceAs (Decidable ('\x7b' ∉ text))
  | var name => inferInstanceAs (Decidable (IsName name))
  | constrained name regex => inferInstanceAs (Decidable (IsName name ∧ Balanced regex))

end Segment

open Segment

def spelling (segments : List Segment) : List Char := segments.flatMap Segment.spelling

/-- A character that is neither a brace nor a backslash does not count. -/
theorem balanced_cons (hc : c ∉ ['\x7b', '\x7d', '\\']) : Balanced (c :: text) ↔ Balanced text := by
  simp only [List.mem_cons, List.not_mem_nil, or_false, not_or] at hc
  obtain ⟨hopen, hclose, hescape⟩ := hc
  have hcovered : Covered 0 (unescaped (c :: text)) ↔ Covered 0 (unescaped text) := by
    rw [unescaped_cons hescape, covered_cons]
    simp [hopen, hclose]
  have hopened : opened (c :: text) = opened text := by simp [opened_cons hescape, hopen]
  have hclosed : closed (c :: text) = closed text := by simp [closed_cons hescape, hclose]
  constructor
  · intro h
    exact ⟨by rw [← takesAll_cons hescape]; exact h.takesAll, hcovered.mp h.covered,
      by rw [← hopened, ← hclosed]; exact h.even⟩
  · intro h
    exact ⟨by rw [takesAll_cons hescape]; exact h.takesAll, hcovered.mpr h.covered,
      by rw [hopened, hclosed]; exact h.even⟩

theorem balanced_nil : Balanced [] := ⟨rfl, covered_nil, rfl⟩

theorem balanced_name_append {name : List Char} (h : IsName name) (text : List Char) :
    Balanced (name ++ text) ↔ Balanced text := by
  induction name with
  | nil => rfl
  | cons c name ih =>
    obtain ⟨hc, hname⟩ := List.forall_mem_cons.mp h
    have hcount : c ∉ ['\x7b', '\x7d', '\\'] := by
      simp only [List.mem_cons, List.not_mem_nil, or_false, not_or] at hc ⊢
      exact ⟨hc.1, hc.2.1, hc.2.2.2⟩
    rw [List.cons_append, balanced_cons hcount]
    exact ih hname

theorem variableName_name {name : List Char} (h : IsName name) (text : List Char) :
    variableName name = name ∧ variableName (name ++ ':' :: text) = name := by
  have hcolon : ∀ c ∈ name, (c != ':') = true := by
    intro c hc
    have hmark := h c hc
    simp only [List.mem_cons, List.not_mem_nil, or_false, not_or] at hmark
    simpa using hmark.2.2.1
  constructor
  · exact List.takeWhile_eq_self_iff.mpr hcolon
  · rw [variableName, List.takeWhile_append_of_pos hcolon]
    simp

theorem plain_literal (h : '\x7b' ∉ text) : plain (text ++ rest) = (plain rest).map (text ++ ·) := by
  induction text with
  | nil => simp
  | cons c text ih =>
    simp only [List.mem_cons, not_or] at h
    rw [List.cons_append, plain_cons (Ne.symm h.1), ih h.2, Option.map_map]
    rfl

/-- A part in front of a template loses its constraint and changes nothing behind it. -/
theorem plain_spelling_append {segment : Segment} (h : segment.WellFormed) (rest : List Char) :
    plain (segment.spelling ++ rest) =
      (plain rest).map (segment.unconstrained.spelling ++ ·) := by
  cases segment with
  | literal text => exact plain_literal h
  | var name =>
    have hbody : Balanced name := by
      simpa using (balanced_name_append h []).mpr balanced_nil
    have hplain := plain_variable hbody rest
    rw [(variableName_name h []).1] at hplain
    simpa [Segment.spelling, unconstrained] using hplain
  | constrained name regex =>
    obtain ⟨hname, hregex⟩ := h
    have hbody : Balanced (name ++ ':' :: regex) :=
      (balanced_name_append hname _).mpr ((balanced_cons (by decide)).mpr hregex)
    have hplain := plain_variable hbody rest
    rw [(variableName_name hname regex).2] at hplain
    simpa [Segment.spelling, unconstrained] using hplain

theorem plain_spelling {segments : List Segment} (h : ∀ segment ∈ segments, segment.WellFormed) :
    plain (spelling segments) = some (spelling (segments.map unconstrained)) := by
  induction segments with
  | nil => exact plain_nil
  | cons segment segments ih =>
    obtain ⟨hsegment, hsegments⟩ := List.forall_mem_cons.mp h
    have hrest := ih hsegments
    simp only [spelling, List.map_cons, List.flatMap_cons] at hrest ⊢
    rw [plain_spelling_append hsegment, hrest, Option.map_some]

/-! ## Templates -/

theorem parse_eq_ok_iff {template result : String} :
    parse template = .ok result ↔ plain template.toList = some result.toList := by
  unfold parse
  cases plain template.toList with
  | none => simp
  | some text =>
    rw [Except.ok.injEq, Option.some.injEq]
    constructor
    · rintro rfl
      exact String.toList_ofList.symm
    · rintro rfl
      exact String.ofList_toList

theorem parse_eq_error_iff {template : String} {e : SurfaceError} :
    parse template = .error e ↔
      e = .malformedUriTemplate template ∧ plain template.toList = none := by
  unfold parse
  cases plain template.toList with
  | none => simp [eq_comm]
  | some text => simp

/-- Of a template that is put together from text, variables and constrained variables all stays but
the constraints. A template fails exactly if it opens a variable that nothing closes, and wherever
the scanner stands in a variable, no more braces were closed than opened, and the scanner counts
those that are open. -/
theorem parse_removes_constraints :
    (∀ segments : List Segment, (∀ segment ∈ segments, segment.WellFormed) →
      parse (String.ofList (spelling segments)) =
        .ok (String.ofList (spelling (segments.map unconstrained)))) ∧
    (∀ template e, parse template = .error e ↔ e = .malformedUriTemplate template ∧
      ∃ bodies rest, Reads template.toList bodies ('\x7b' :: rest) ∧ ¬ Closes rest) ∧
    ∀ text read rest, text = read ++ rest → takesAll read = true → read <+: scanned text →
      closed read ≤ opened read ∧ variableEnd 0 text =
        (variableEnd (opened read - closed read) rest).map
          fun (body, after) => (read ++ body, after) := by
  refine ⟨?_, ?_, ?_⟩
  · intro segments h
    rw [parse_eq_ok_iff, String.toList_ofList, String.toList_ofList]
    exact plain_spelling h
  · intro template e
    rw [parse_eq_error_iff, plain_eq_none_iff]
  · rintro _ read rest rfl htakes hread
    exact variableEnd_of_scanned htakes hread

/-- The page of an order, whose number is constrained by braces and an escaped brace. -/
def orderPage : List Segment :=
  [.literal "/orders/".toList, .constrained "id".toList "[a-z]\x7b2\x7d\\\x7d".toList,
    .literal "/".toList, .var "tab".toList]

theorem parse_removes_constraints_order :
    (∀ segment ∈ orderPage, segment.WellFormed) ∧
      parse "/orders/\x7bid:[a-z]\x7b2\x7d\\\x7d\x7d/\x7btab\x7d" =
        .ok "/orders/\x7bid\x7d/\x7btab\x7d" := by
  have hformed : ∀ segment ∈ orderPage, segment.WellFormed := by decide
  exact ⟨hformed, parse_removes_constraints.1 orderPage hformed⟩

end ApiSurface.UriTemplate
