import ApiSurface.SurfaceError

/-!
# URI templates

A template is text with variables in braces. A controller may constrain a variable by a regular
expression behind a colon; the API keeps the variable's name alone. Inside a variable braces nest,
and a backslash takes the next character with it.
-/

namespace ApiSurface.UriTemplate

/-- What stands up to the brace that closes a variable, and the text behind the brace. The depth
counts the braces that were opened within. -/
def variableEnd (depth : Nat) : List Char → Option (List Char × List Char)
  | [] => none
  | '\\' :: [] => none
  | '\\' :: c :: rest => (variableEnd depth rest).map fun (body, rest) => ('\\' :: c :: body, rest)
  | '\x7b' :: rest => (variableEnd (depth + 1) rest).map fun (body, rest) => ('\x7b' :: body, rest)
  | '\x7d' :: rest =>
    match depth with
    | 0 => some ([], rest)
    | depth + 1 => (variableEnd depth rest).map fun (body, rest) => ('\x7d' :: body, rest)
  | c :: rest => (variableEnd depth rest).map fun (body, rest) => (c :: body, rest)

/-- Nothing of the text is lost but the closing brace. -/
theorem eq_append_of_variableEnd {depth : Nat} {text body rest : List Char}
    (h : variableEnd depth text = some (body, rest)) : text = body ++ '\x7d' :: rest := by
  fun_induction variableEnd depth text generalizing body rest <;>
    simp_all [Option.map_eq_some_iff] <;> grind

theorem variableEnd_length {depth : Nat} {text body rest : List Char}
    (h : variableEnd depth text = some (body, rest)) : rest.length < text.length := by
  rw [eq_append_of_variableEnd h]
  simp
  omega

/-- The name of a variable, which ends at the first colon. -/
def variableName (body : List Char) : List Char := body.takeWhile (· != ':')

/-- The template without constraints; nothing if a variable is not closed. -/
def plain : List Char → Option (List Char)
  | [] => some []
  | '\x7b' :: rest =>
    match h : variableEnd 0 rest with
    | none => none
    | some (body, after) =>
      have : after.length < rest.length := variableEnd_length h
      (plain after).map fun tail => '\x7b' :: variableName body ++ '\x7d' :: tail
  | c :: rest => (plain rest).map (c :: ·)
termination_by text => text.length

def parse (template : String) : Except SurfaceError String :=
  match plain template.toList with
  | some text => .ok (String.ofList text)
  | none => .error (.malformedUriTemplate template)

end ApiSurface.UriTemplate
