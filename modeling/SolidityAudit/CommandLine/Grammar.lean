import SolidityAudit.Text.DecimalDigit
import SolidityAudit.Text.Quoted

/-!
# Reading Arguments

How the arguments of a command are told apart. A command has switches, which
start with a dash, and at most one operand. A long switch may be shortened as
long as it stays the only one that fits, and may have its value attached after
an equals sign; short switches may stand together behind one dash, the last of
them with its value attached. Two dashes on their own end the switches.

All arguments are first classified by their form. Then they are taken from left
to right, and a switch takes effect when it is reached: a request for help ends
the reading there, whatever follows. Arguments that nothing takes are collected
and left to the caller.

## Main definitions

* `Switch`, `Operand`, `Grammar`: What a command accepts.
* `Shape`: The form of an argument.
* `Grammar.classify`: The forms of all arguments.
* `Grammar.parse`: What the arguments say.
-/

namespace SolidityAudit

namespace CommandLine

/-- What a switch does. -/
inductive Effect where
  | help
  | flag
  /-- It takes a value, one of the choices if there are any. -/
  | value (choices : List String)
deriving DecidableEq, Repr

/-- A switch with its names in the order in which they are shown. -/
structure Switch where
  names : List String
  effect : Effect
deriving DecidableEq, Repr

/-- What a command takes apart from switches. -/
inductive Operand where
  | nothing
  /-- One argument, which has to be there. -/
  | one (name : String)
  | atMostOne
  /-- The name of a subordinate command and everything after it. -/
  | command (name : String) (choices : List String)
deriving DecidableEq, Repr

/-- What a command accepts, and what it says about itself. -/
structure Grammar where
  program : String
  usage : String
  details : String
  switches : List Switch
  operand : Operand

/-- Why reading ended early. -/
inductive Stop where
  | help
  | fault (message : String)
deriving DecidableEq, Repr

/-- The form of an argument. -/
inductive Shape where
  | operand
  /-- The two dashes that end the switches. -/
  | marker
  /-- A switch under one of its names, perhaps with a value attached. -/
  | switch (switch : Switch) (name : String) (attached : Option String)
  /-- What looks like a switch and is none. -/
  | unknown
deriving DecidableEq, Repr

namespace Switch

/-- All names of a switch. -/
def label (s : Switch) : String :=
  String.intercalate "/" s.names

/-- A fault of a switch. -/
def fault (s : Switch) (message : String) : Stop :=
  .fault ("argument " ++ s.label ++ ": " ++ message)

/-- Whether a switch takes a value. -/
def takesValue (s : Switch) : Bool :=
  match s.effect with
  | .value _ => true
  | _ => false

end Switch

/-- The wording for a value that is none of the choices. -/
def invalidChoice (value : String) (choices : List String) : String :=
  "invalid choice: " ++ Text.Quoted.text value ++ " (choose from " ++
    String.intercalate ", " (choices.map Text.Quoted.text) ++ ")"

/-- The marker that ends the switches. -/
def endMarker : String := "--"

/-- A text cut at its first equals sign. -/
def cutAtEquals (s : List Char) : Option (List Char × List Char) :=
  match s.dropWhile (· != '=') with
  | [] => none
  | _ :: r => some (s.takeWhile (· != '='), r)

/-- Whether an argument is a negative number in digits, perhaps with a point. -/
def isNegativeNumber : List Char → Bool
  | '-' :: r =>
    -- A line feed may end the text.
    let s := if r.getLast? = some '\n' then r.dropLast else r
    let whole := s.takeWhile Text.isDigit
    match s.dropWhile Text.isDigit with
    | [] => !whole.isEmpty
    | '.' :: places => !places.isEmpty && places.all Text.isDigit
    | _ => false
  | _ => false

namespace Grammar

/-- All names of switches with their switches, in order. -/
def names (g : Grammar) : List (String × Switch) :=
  g.switches.flatMap fun s => s.names.map fun n => (n, s)

/-- The switch of a name. -/
def find? (g : Grammar) (name : String) : Option Switch :=
  (g.names.find? fun n => n.1 == name).map Prod.snd

/-- The readings of an argument as a shortened long switch, or as a short switch
    with something attached. -/
def readings (g : Grammar) (arg : List Char) : List (Switch × String × Option String) :=
  match arg with
  | '-' :: '-' :: _ =>
    let cut := cutAtEquals arg
    let start := (cut.map Prod.fst).getD arg
    (g.names.filter fun n => start.isPrefixOf n.1.toList).map fun n =>
      (n.2, n.1, cut.map fun c => String.ofList c.2)
  | _ =>
    g.names.filterMap fun n =>
      if n.1 = String.ofList (arg.take 2) then
        some (n.2, n.1, some (String.ofList (arg.drop 2)))
      else if arg.isPrefixOf n.1.toList then some (n.2, n.1, none)
      else none

/-- An argument whose name before the equals sign is a switch. -/
def assigned? (g : Grammar) (arg : List Char) : Option Shape :=
  (cutAtEquals arg).bind fun c =>
    (g.find? (String.ofList c.1)).map fun s =>
      .switch s (String.ofList c.1) (some (String.ofList c.2))

/-- The form of an argument before the marker. -/
def shape (g : Grammar) (arg : String) : Except Stop Shape :=
  let cs := arg.toList
  if cs.head? ≠ some '-' then .ok .operand
  else
    match g.find? arg with
    | some s => .ok (.switch s arg none)
    | none =>
      if cs.length = 1 then .ok .operand
      else
        match g.assigned? cs with
        | some a => .ok a
        | none =>
          match g.readings cs with
          | [(s, n, v)] => .ok (.switch s n v)
          | [] => .ok (if isNegativeNumber cs || cs.contains ' ' then .operand else .unknown)
          | rs => .error (.fault ("ambiguous option: " ++ arg ++ " could match " ++
              String.intercalate ", " (rs.map fun r => r.2.1)))

/-- The arguments with their forms. Behind the marker everything is an operand. -/
def classify (g : Grammar) : List String → Except Stop (List (String × Shape))
  | [] => .ok []
  | a :: r =>
    if a = endMarker then .ok ((a, .marker) :: r.map fun b => (b, .operand))
    else do
      let s ← g.shape a
      return (a, s) :: (← classify g r)

end Grammar

/-- Whether an argument has the form of a switch, known or not. -/
def isSwitch : String × Shape → Bool
  | (_, .switch ..) => true
  | (_, .unknown) => true
  | _ => false

/-- What the arguments of a command say. -/
structure Parsed where
  /-- The switches that took effect, by their first name, with their values. A
      switch whose value is the marker itself has none. -/
  switches : List (String × Option String) := []
  /-- What the operand took, `none` if there was nothing for it. -/
  operands : Option (List String) := none
  /-- What nothing took. -/
  rest : List String := []
deriving DecidableEq, Repr

namespace Operand

/-- The operand at the head of some arguments, and the arguments after it. An
    optional operand may be empty. -/
def take? : Operand → List (String × Shape) → Option (List String × List (String × Shape))
  | .nothing, _ => none
  | .one _, (_, .marker) :: (a, _) :: r => some ([a], r)
  | .one _, (_, .marker) :: [] => none
  | .one _, (a, _) :: (_, .marker) :: r => some ([a], r)
  | .one _, (a, _) :: r => some ([a], r)
  | .one _, [] => none
  | .atMostOne, (_, .marker) :: (a, _) :: r => some ([a], r)
  | .atMostOne, (_, .marker) :: [] => some ([], [])
  | .atMostOne, (a, _) :: (_, .marker) :: r => some ([a], r)
  | .atMostOne, (a, _) :: r => some ([a], r)
  | .atMostOne, [] => some ([], [])
  | .command .., [(_, .marker)] => none
  | .command .., [] => none
  | .command .., ws => some (ws.map Prod.fst, [])

end Operand

namespace Grammar

/-- The switches of one argument, and the arguments after them. Short switches
    without value may have further ones attached. -/
def group (g : Grammar) (s : Switch) (name : List Char) (attached : Option (List Char))
    (rest : List (String × Shape)) :
    Except Stop (List (Switch × Option String) × List (String × Shape)) :=
  match attached with
  | some v =>
    if s.takesValue then .ok ([(s, some (String.ofList v))], rest)
    else
      let ignored := s.fault ("ignored explicit argument " ++ Text.Quoted.text (String.ofList v))
      match name, v with
      | _ :: '-' :: _, _ => .error ignored
      | _, [] => .error ignored
      | _, c :: cs =>
        match g.find? (String.ofList ['-', c]) with
        | none => .error ignored
        | some t =>
          (g.group t ['-', c] (if cs.isEmpty then none else some cs) rest).map
            (Prod.map ((s, none) :: ·) id)
  | none =>
    if s.takesValue then
      match rest with
      | (v, .operand) :: r => .ok ([(s, some v)], r)
      | _ => .error (s.fault "expected one argument")
    else .ok ([(s, none)], rest)
termination_by (attached.map List.length).getD 0
decreasing_by
  cases cs <;> simp

/-- Takes a switch into effect. -/
def apply (p : Parsed) (s : Switch) (value : Option String) : Except Stop Parsed :=
  let given : Parsed :=
    { p with switches := p.switches ++ [(s.names.headD "", value.filter (· ≠ endMarker))] }
  match s.effect with
  | .help => .error .help
  | .flag => .ok given
  | .value choices =>
    match value with
    | none => .ok given
    | some v =>
      if v = endMarker || choices.isEmpty || choices.contains v then .ok given
      else .error (s.fault (invalidChoice v choices))

/-- Checks the operand. Only the name of a subordinate command can be wrong. -/
def checkOperand (g : Grammar) (values : List String) : Except Stop Unit :=
  match g.operand, values with
  | .command name choices, v :: _ =>
    if choices.contains v then .ok ()
    else .error (.fault ("argument " ++ name ++ ": " ++ invalidChoice v choices))
  | _, _ => .ok ()

/-- Takes classified arguments from left to right. Every step takes at least
    one of them, so their number bounds the steps. -/
def walk (g : Grammar) : Nat → Parsed → List (String × Shape) → Except Stop Parsed
  | 0, p, _ => .ok p
  | fuel + 1, p, ws =>
    let operand := if p.operands.isSome then none else g.operand.take? ws
    if ws.any isSwitch then
      match ws with
      | [] => .ok p
      | (a, .unknown) :: r => g.walk fuel { p with rest := p.rest ++ [a] } r
      | (_, .switch s name attached) :: r => do
        let (taken, r) ← g.group s name.toList (attached.map String.toList) r
        let p ← taken.foldlM (fun p t => apply p t.1 t.2) p
        g.walk fuel p r
      | _ =>
        match operand with
        | some (values, r) => do
          g.checkOperand values
          g.walk fuel { p with operands := some values } r
        | none =>
          let skipped := ws.takeWhile fun w => !isSwitch w
          g.walk fuel { p with rest := p.rest ++ skipped.map Prod.fst }
            (ws.drop skipped.length)
    else
      match operand with
      | some (values, r) => do
        g.checkOperand values
        return { p with operands := some values, rest := p.rest ++ r.map Prod.fst }
      | none => return { p with rest := p.rest ++ ws.map Prod.fst }

/-- What the arguments of a command say. -/
def parse (g : Grammar) (args : List String) : Except Stop Parsed := do
  let ws ← g.classify args
  let p ← g.walk (ws.length + 1) {} ws
  match g.operand, p.operands with
  | .one name, none => .error (.fault ("the following arguments are required: " ++ name))
  | _, _ => return p

end Grammar

end CommandLine

end SolidityAudit
