import SolidityAudit.Text.Blank

/-!
# Parameters

The parameters of a function as its header writes them. The list is cut at
every comma; of an entry the first word is the type and the last word the name,
and what stands between them, such as a data location, is dropped. An entry of
one word is its own type and name, and a blank entry is no parameter.

## Main definitions

* `Parameter`: A type and a name.
* `Parameter.ofEntry?`: The parameter an entry stands for.
* `Parameter.parse`: The parameters of a list.
-/

namespace SolidityAudit

/-- A parameter of a function. -/
structure Parameter where
  type : String
  name : String
deriving DecidableEq, Repr

namespace Parameter

/-- The first and the last of the words of an entry. -/
def ofWords? : List (List Char) → Option Parameter
  | [] => none
  | w :: ws => some ⟨String.ofList w, String.ofList ((w :: ws).getLast (by simp))⟩

/-- The parameter an entry of the list stands for, `none` if it is blank. -/
def ofEntry? (entry : List Char) : Option Parameter :=
  ofWords? (Text.words entry)

/-- The parameters of a list as written between the parentheses. -/
def parse (s : List Char) : List Parameter :=
  (Text.pieces (· == ',') s).filterMap ofEntry?

end Parameter

end SolidityAudit
