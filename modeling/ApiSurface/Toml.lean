/-!
# TOML values

The values of a TOML document. An array of tables is an array, and it makes no difference whether
a table was written under a header, inline or by dotted keys. Numbers are only known to be numbers.
-/

namespace ApiSurface

inductive Toml where
  | string (text : String)
  | boolean (value : Bool)
  | integer
  | float
  | datetime (text : String)
  | array (elements : List Toml)
  | table (members : List (String × Toml))
  deriving Repr, Inhabited

namespace Toml

def asString : Toml → Option String
  | .string text => some text
  | _ => none

def asStrings : Toml → Option (List String)
  | .array elements => elements.mapM asString
  | _ => none

/-- The members of a table. A point in time is a table with its text as the only member. -/
def asMembers : Toml → Option (List (String × Toml))
  | .table members => some members
  | .datetime text => some [("$__toml_private_datetime", .string text)]
  | _ => none

def isEmpty : Toml → Bool
  | .table members => members.isEmpty
  | .array elements => elements.isEmpty
  | _ => false

/-- The values of named fields, from the members of a table by name, or from the elements of an
array by position. -/
def fields? (names : List String) : Toml → Option (String → Option Toml)
  | .array elements => some fun name => (names.zip elements).lookup name
  | value => value.asMembers.map fun members name => members.lookup name

/-- The name of a choice, alone or as the only member of a table, with nothing in it. -/
def asChoice : Toml → Option String
  | .string text => some text
  | .table [(name, value)] => if value.isEmpty then some name else none
  | _ => none

end Toml

end ApiSurface
