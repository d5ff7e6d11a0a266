import SolidityAudit.Text.Blank
import SolidityAudit.Text.Quoted
import SolidityAudit.Text.Utf8

/-!
# Files

The files a command can see, as a tree of paths below the working directory. A
path is a list of names, the first of them the one all absolute paths share.
Paths are compared name by name, so the files of a directory stand together.

Reading is strict about the encoding and brings all line ends to one form.

## Main definitions

* `Node`, `Workspace`: The files and directories there are.
* `Workspace.resolve`: An absolute path without detours.
* `Workspace.at?`, `Workspace.find`: What is at a path.
* `Workspace.read`: The text of a file.
* `Workspace.sources`: The Solidity sources at a path, with their labels.
* `Workspace.target`: Where a new file goes.
-/

namespace SolidityAudit

/-- What can be at a path. -/
inductive Node where
  | directory
  | file (bytes : List UInt8)
deriving DecidableEq, Repr

/-- Why a file cannot be read or written. -/
inductive FileFault where
  | isDirectory (path : String)
  | notDirectory (path : String)
  | missing (path : String)
  | nameTooLong (path : String)
  /-- The path of something to read holds a null character. -/
  | nullInPath
  /-- The path of something to write holds a null character. -/
  | nullInTarget
  | undecodable (fault : Text.Utf8.Fault)
deriving DecidableEq, Repr

/-- The wording of a fault. -/
def FileFault.message : FileFault → String
  | .isDirectory path => "[Errno 21] Is a directory: " ++ Text.Quoted.text path
  | .notDirectory path => "[Errno 20] Not a directory: " ++ Text.Quoted.text path
  | .missing path => "[Errno 2] No such file or directory: " ++ Text.Quoted.text path
  | .nameTooLong path => "[Errno 36] File name too long: " ++ Text.Quoted.text path
  | .nullInPath => "lstat: embedded null character in path"
  | .nullInTarget => "embedded null byte"
  | .undecodable fault => fault.message

/-- The names of an absolute path. -/
abbrev Path := List String

namespace Path

/-- The names of a written path. -/
def names (s : String) : List String :=
  (Text.pieces (· == '/') s.toList).map String.ofList

/-- A path as it is written. -/
def text (p : Path) : String :=
  if p = [""] then "/" else String.intercalate "/" p

/-- Names without those that lead nowhere. -/
def solid (names : List String) : List String :=
  names.filter fun n => n ≠ "" && n ≠ "."

/-- Takes one more name. Two dots lead back, but not beyond the start. -/
def step (p : Path) (name : String) : Path :=
  if name = ".." then (if 1 < p.length then p.dropLast else p) else p ++ [name]

/-- How many bytes a name may have. -/
def nameLimit : Nat := 255

/-- How many bytes a written path may have. -/
def limit : Nat := 4095

/-- Whether a written path starts with exactly two slashes. They are kept where
    the path is shown, while more of them count as one. -/
def hasDoubleStart (s : String) : Bool :=
  (s.toList.takeWhile (· == '/')).length = 2

/-- Whether a written path holds a null character. -/
def hasNull (s : String) : Bool :=
  s.toList.contains '\x00'

end Path

/-- The files and directories there are, by absolute path. Directories above a
    listed path need not be listed themselves. -/
structure Workspace where
  /-- The working directory. -/
  root : Path
  entries : List (Path × Node)

namespace Workspace

/-- The path from which a written path starts, and its further names. -/
def start (w : Workspace) (names : List String) : Path × List String :=
  match names with
  | first :: r =>
    if first = "" && !r.isEmpty then ([""], Path.solid r)
    else if w.root.head? = some first && first ≠ "" then ([first], Path.solid r)
    else (w.root, Path.solid names)
  | [] => (w.root, [])

/-- The absolute path of a written one, without detours. -/
def resolve (w : Workspace) (path : String) : Path :=
  let s := w.start (Path.names path)
  s.2.foldl Path.step s.1

/-- What is at a path. The start of all paths and the working directory are
    directories in any case. -/
def at? (w : Workspace) (p : Path) : Option Node :=
  match w.entries.find? fun e => e.1 == p with
  | some e => some e.2
  | none =>
    if p == w.root || p.length == 1 || w.entries.any (fun e => p.isPrefixOf e.1) then
      some .directory
    else none

/-- Whether a path is too long to be looked up: as a whole, or by a name that is
    reached through existing directories. -/
def isTooLong (w : Workspace) (p : Path) : Bool :=
  Path.limit < p.text.utf8ByteSize ||
    (p.zipIdx.any fun (name, i) =>
      Path.nameLimit < name.utf8ByteSize && w.at? (p.take i) == some .directory)

/-- What is at a written path, and the path without detours. -/
def find (w : Workspace) (path : String) : Except FileFault (Path × Option Node) :=
  let p := w.resolve path
  if Path.hasNull path then .error .nullInPath
  else if w.isTooLong p then .error (.nameTooLong p.text)
  else .ok (p, w.at? p)

/-- The text of bytes, with all line ends in one form. -/
def decode (bytes : List UInt8) : Except FileFault String :=
  match Text.Utf8.decode bytes with
  | .ok cs => .ok (String.ofList (Text.unifyNewlines cs))
  | .error f => .error (.undecodable f)

/-- The text of the file at a path. -/
def read (w : Workspace) (p : Path) : Except FileFault String :=
  match w.at? p with
  | some (.file bytes) => decode bytes
  | some .directory => .error (.isDirectory p.text)
  | none => .error (.missing p.text)

/-- The non-empty beginnings of a list, shortest first. -/
def beginnings : List String → List (List String)
  | [] => []
  | n :: r => [n] :: (beginnings r).map (n :: ·)

/-- The paths below a path, relative to it, each once and in order. -/
def below (w : Workspace) (p : Path) : List (List String) :=
  let relative := w.entries.filterMap fun e =>
    if p.isPrefixOf e.1 then some (e.1.drop p.length) else none
  ((relative.flatMap beginnings).mergeSort fun a b => decide (¬ b < a)).eraseDups

/-- Whether the last name of a path is that of a Solidity source. -/
def isSolidity (names : List String) : Bool :=
  ".sol".toList.isSuffixOf (names.getLastD "").toList

/-- The sources at a path with their labels: the file itself, or every source
    below the directory. -/
def sources (w : Workspace) (p : Path) : Except FileFault (List (String × String)) :=
  match w.at? p with
  | some (.file bytes) => (decode bytes).map fun s => [(p.getLastD "", s)]
  | _ =>
    ((w.below p).filter isSolidity).mapM fun names =>
      (w.read (p ++ names)).map (String.intercalate "/" names, ·)

/-- Follows names through existing directories. -/
def follow (w : Workspace) (shown : String) (p : Path) : List String → Except FileFault Path
  | [] => .ok p
  | n :: r =>
    match w.at? p with
    | some .directory =>
      if Path.nameLimit < n.utf8ByteSize then .error (.nameTooLong shown)
      else w.follow shown (Path.step p n) r
    | some (.file _) => .error (.notDirectory shown)
    | none => .error (.missing shown)

/-- The path at which a file of a given name is written. -/
def target (w : Workspace) (path : String) : Except FileFault Path :=
  let s := w.start (Path.names path)
  let shown :=
    if s.1 = w.root && (Path.names path).head? ≠ w.root.head? then
      (if s.2.isEmpty then "." else String.intercalate "/" s.2)
    else (if Path.hasDoubleStart path then "/" else "") ++ Path.text (s.1 ++ s.2)
  if Path.hasNull path then .error .nullInTarget
  else if Path.limit < shown.utf8ByteSize then .error (.nameTooLong shown)
  else
    match w.follow shown s.1 s.2 with
    | .error f => .error f
    | .ok p =>
      match w.at? p with
      | some .directory => .error (.isDirectory shown)
      | _ => .ok p

end Workspace

end SolidityAudit
