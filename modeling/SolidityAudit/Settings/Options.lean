import SolidityAudit.Json.Display
import SolidityAudit.Text.LowerCase
import SolidityAudit.Workspace

/-!
# How Settings Are Looked For

Options that steer where settings are taken from. They are given among the
settings themselves, under names that start with an underscore: which assignment
file is read, the mark before names outside, whether case and empty values
count, and a text that stands for no value. Further options of that family are
known and change nothing here.

Only one assignment file is there to be read, `.env` in the working directory.
Any other name is that of a file that is missing, and a missing file assigns
nothing.

## Main definitions

* `SettingOptions`: How the sources outside are read.
* `SettingOptions.ofGiven`: The options among given values.
* `SettingOptions.key`: A name as it is compared.
* `SettingOptions.outside`: The name of a setting outside.
-/

namespace SolidityAudit

/-- How the environment and the assignment file are read. -/
structure SettingOptions where
  /-- Whether the assignment file is read. -/
  readsFile : Bool := true
  /-- The mark before the names of settings outside. -/
  mark : String := "SAFECONTRACT_"
  /-- Whether an empty value is none. -/
  skipsEmpty : Bool := false
  /-- Whether the case of names outside counts. -/
  exactCase : Bool := false
  /-- The text that stands for no value. -/
  absent : Option String := none
deriving DecidableEq, Repr

/-- What can be wrong with an option. The kinds name the value that is there. -/
inductive SettingOptions.Fault where
  /-- The names of files or directories are no list. -/
  | notIterable (kind : String)
  /-- The name of a file or a directory is no text. -/
  | notPath (kind : String)
  /-- The mark is a number. -/
  | noLength (kind : String)
  /-- The mark is no text. -/
  | unusableMark
deriving DecidableEq, Repr

/-- The wording of a fault. -/
def SettingOptions.Fault.message : SettingOptions.Fault → String
  | .notIterable kind => "'" ++ kind ++ "' object is not iterable"
  | .notPath kind => "expected str, bytes or os.PathLike object, not " ++ kind
  | .noLength kind => "object of type '" ++ kind ++ "' has no len()"
  | .unusableMark => "error getting value for field \"app_name\" from source \"EnvSettingsSource\""

namespace SettingOptions

/-- The name of the assignment file. -/
def fileName : String := ".env"

/-- The names of the options. -/
def names : List String :=
  ["_case_sensitive", "_nested_model_default_partial_update", "_env_prefix",
    "_env_prefix_target", "_env_file", "_env_file_encoding", "_env_ignore_empty",
    "_env_nested_delimiter", "_env_nested_max_split", "_env_parse_none_str", "_env_parse_enums",
    "_cli_prog_name", "_cli_parse_args", "_cli_settings_source", "_cli_parse_none_str",
    "_cli_hide_none_type", "_cli_avoid_json", "_cli_enforce_required",
    "_cli_use_class_docs_for_groups", "_cli_exit_on_error", "_cli_prefix",
    "_cli_flag_prefix_char", "_cli_implicit_flags", "_cli_ignore_unknown_args",
    "_cli_kebab_case", "_cli_shortcuts", "_secrets_dir", "_build_sources"]

/-- A name in lower case. -/
def lower (s : String) : String :=
  String.ofList (Text.lower s.toList)

/-- A name as it is compared. -/
def key (o : SettingOptions) (name : String) : String :=
  if o.exactCase then name else lower name

/-- The name of a setting in the environment and in the file. -/
def outside (o : SettingOptions) (name : String) : String :=
  o.key (o.mark ++ name)

/-- Whether a written path is that of the assignment file. -/
def isFile (path : String) : Bool :=
  path.toList.head? != some '/' && Path.solid (Path.names path) == [fileName]

/-- The written paths of an option, one or several. -/
def pathsOption : Json → Except Fault (List String)
  | .null => .ok []
  | .text s => .ok [s]
  | .object fields => .ok (fields.map Prod.fst)
  | .list vs => vs.mapM fun
    | .text s => .ok s
    | v => .error (.notPath v.kindName)
  | v => .error (.notIterable v.kindName)

/-- The mark an option asks for, if it can be used. -/
def markOption : Json → Except Fault (Option String)
  | .null => .ok (some ({} : SettingOptions).mark)
  | .text s => .ok (some s)
  | .list _ => .ok none
  | .object _ => .ok none
  | v => .error (.noLength v.kindName)

/-- The options among given values. The directories of secrets hold no settings
    here, but their names are read. -/
def ofGiven (given : List (String × Json)) : Except Fault SettingOptions := do
  let option (name : String) : Json := (Json.lookup name given).getD .null
  let mark? ← markOption (option "_env_prefix")
  let files ← ((Json.lookup "_env_file" given).map pathsOption).getD (.ok [fileName])
  match mark? with
  | none => .error .unusableMark
  | some mark =>
    let _ ← pathsOption (option "_secrets_dir")
    return {
      readsFile := files.any isFile
      -- Settings have no second names, so a mark for those alone marks nothing.
      mark := match option "_env_prefix_target" with
        | .text "alias" => ""
        | _ => mark
      skipsEmpty := (option "_env_ignore_empty").isTruthy
      exactCase := (option "_case_sensitive").isTruthy
      absent := match option "_env_parse_none_str" with
        | .text s => some s
        | _ => none }

end SettingOptions

end SolidityAudit
