import SolidityAudit.Json.Display

/-!
# Log Levels

How urgent a log entry is. A level is a number, and the greater it is the more
urgent the entry; a few whole numbers have names. Entries pass a threshold that
they reach.

A record shows its level by a label. That is the name of the level, and a made-up
name where it has none. A level given by a name instead of a number is the odd
one out: its label is the number. A level whose number has too many digits cannot
be shown.

## Main definitions

* `Level`: A level of any number.
* `Level.reaches`: Whether a level is at least a threshold.
* `Level.Label`: How a record shows its level.
* `Level.ofRequest`: The threshold a name asks for.
-/

namespace SolidityAudit

namespace Log

/-- How urgent an entry is. -/
inductive Level where
  | whole (n : Int)
  | real (x : Binary64)
deriving DecidableEq, Repr

namespace Level

/-- The numbers of the usual levels. -/
def debug : Int := 10
def info : Int := 20
def warning : Int := 30
def error : Int := 40
def critical : Int := 50

/-- The levels that have a name. -/
def names : List (Int × String) :=
  [(50, "CRITICAL"), (40, "ERROR"), (30, "WARNING"), (20, "INFO"), (10, "DEBUG"), (0, "NOTSET")]

/-- The names that stand for a level. -/
def known : List (String × Int) :=
  [
    ("DEBUG", 10), ("INFO", 20), ("WARNING", 30), ("WARN", 30), ("ERROR", 40),
    ("CRITICAL", 50), ("FATAL", 50), ("NOTSET", 0)]

/-- The number of a name. -/
def ofName? (name : String) : Option Int :=
  (known.find? fun l => l.1 == name).map Prod.snd

/-- The name of a level that has none of its own. -/
def oddName (level : Text.Points) : Text.Points :=
  Text.points "Level " ++ level

/-- The name of a whole level, if it has one. -/
def name? (level : Int) : Option String :=
  (names.find? fun l => l.1 == level).map Prod.snd

/-- The level of a number. -/
def ofReal (x : Binary64) : Level :=
  match x.truncate? with
  | some n => if x.isIntegral then .whole n else .real x
  | none => .real x

/-- Whether a level is at least a threshold. -/
def reaches (threshold : Int) : Level → Bool
  | .whole n => decide (threshold ≤ n)
  | .real x => (Binary64.ofInt threshold).le x

/-- Whether a level is above zero. -/
def isPositive : Level → Bool
  | .whole n => decide (0 < n)
  | .real x => (Binary64.zero false).lt x

/-- How a record shows its level. -/
inductive Label where
  | name (s : Text.Points)
  | number (n : Int)
deriving DecidableEq, Repr

/-- The label as a value. -/
def Label.toJson : Label → Json
  | .name s => Json.ofPoints s
  | .number n => .int n

/-- The label of a value that stands for no named level. -/
def Label.odd (v : Json) : Except Json.TextFault Label :=
  (v.display 0).map fun s => .name (oddName s)

/-- The label of a level. -/
def label : Level → Except Json.TextFault Label
  | .whole n =>
    match name? n with
    | some s => .ok (.name (Text.points s))
    | none => Label.odd (.int n)
  | .real x => Label.odd (.real x)

/-- The level a value stands for, if it is a number. -/
def ofJson? : Json → Option Level
  | .int n => some (.whole n)
  | .bool b => some (.whole (if b then 1 else 0))
  | .real x => some (ofReal x)
  | _ => none

/-- Why a value given as a level has no label. -/
inductive Label.Fault where
  /-- Under a value of this kind nothing can be looked up. -/
  | noKey (kind : String)
  | text (fault : Json.TextFault)
deriving DecidableEq, Repr

/-- The label of a value given as a level. -/
def Label.ofJson (v : Json) : Except Label.Fault Label :=
  let named? := match v with
    | .int n => (Level.name? n).map fun s => .name (Text.points s)
    | .bool b => (Level.name? (if b then 1 else 0)).map fun s => .name (Text.points s)
    | .real x =>
      -- A real number without a fraction finds the name, but shows its own text.
      match Level.ofReal x with
      | .whole n => (Level.name? n).map fun s => .name (Text.points s)
      | .real _ => none
    | .text s => (Level.ofName? s).map .number
    | _ => none
  if v.isNested then .error (.noKey v.kindName)
  else
    match named? with
    | some label => .ok label
    | none => (Label.odd v).mapError .text

/-- The letters that differ from the capitals of the names only by case. -/
def upperLetter (c : Char) : List Char :=
  if c = 'ı' then ['I']
  else if c = 'ſ' then ['S']
  else if c = 'ﬅ' || c = 'ﬆ' then ['S', 'T']
  else [c.toUpper]

/-- Why a level is refused: its name is that of something else. -/
inductive Refusal where
  /-- The pattern of messages. -/
  | pattern
  /-- The table of the styles of patterns. -/
  | styles
deriving DecidableEq, Repr

/-- The wording of a refusal. -/
def Refusal.message : Refusal → String
  | .pattern => "Unknown level: '%(levelname)s:%(name)s:%(message)s'"
  | .styles =>
    "Level not an integer or a valid string: " ++
      "\x7b'%': (<class 'logging.PercentStyle'>, '%(levelname)s:%(name)s:%(message)s'), " ++
      "'\x7b': (<class 'logging.StrFormatStyle'>, " ++
      "'\x7blevelname\x7d:\x7bname\x7d:\x7bmessage\x7d'), " ++
      "'$': (<class 'logging.StringTemplateStyle'>, " ++
      "'$\x7blevelname\x7d:$\x7bname\x7d:$\x7bmessage\x7d')\x7d"

/-- The threshold a name asks for in any case, `info` if it is unknown. -/
def ofRequest (name : String) : Except Refusal Int :=
  let upper := String.ofList (name.toList.flatMap upperLetter)
  if upper = "BASIC_FORMAT" then .error .pattern
  else if upper = "_STYLES" then .error .styles
  else .ok ((ofName? upper).getD info)

end Level

end Log

end SolidityAudit
