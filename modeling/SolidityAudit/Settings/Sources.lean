import SolidityAudit.Record.Schema
import SolidityAudit.Settings
import SolidityAudit.Settings.Options
import SolidityAudit.Settings.Reference

/-!
# Sources of Settings

A setting is taken from the first of these that has it: values given directly,
the environment, an assignment file, and the default. Names ignore case, and
those in the environment and in the file carry a mark before them.

The values of the environment and of the file are texts, and an empty text is a
value. Values under names nobody knows are faults when they are given directly
or stand in the file; in the environment they belong to somebody else.

Options among the values given directly can change the mark and the reading of
the sources outside.

## Main definitions

* `SettingSources`: Where settings come from.
* `SettingSources.ofGiven`: The sources with the options among given values.
* `SettingSources.field?`: The value of a setting.
* `SettingSources.unknown`: The names nobody knows.
* `Settings.load`: The settings of given sources.
* `Settings.shown`: The settings by name, as they are displayed.
-/

namespace SolidityAudit

/-- Where settings come from. -/
structure SettingSources where
  /-- Values given directly, by field name. -/
  given : List (String × Json) := []
  /-- The variables of the environment. -/
  environment : List (String × String) := []
  /-- The text of the assignment file. -/
  file : String := ""
  /-- How the sources outside are read. -/
  options : SettingOptions := {}

namespace SettingSources

/-- The names of the settings. -/
def names : List String :=
  ["app_name", "app_env", "debug", "log_level", "cors_allowed_origins", "max_source_bytes",
    "scan_timeout_seconds", "max_request_bytes", "verification_method"]

/-- The sources with the options among given values, which are no settings. -/
def ofGiven (given : List (String × Json)) (environment : List (String × String))
    (file : String) : Except SettingOptions.Fault SettingSources :=
  (SettingOptions.ofGiven given).map fun o =>
    ⟨given.filter fun g => !SettingOptions.names.contains g.1, environment, file, o⟩

/-- Values by the names they are compared by. Of names that are the same then
    the last value counts. -/
def fold (o : SettingOptions) (values : AssignmentFile.Values) : AssignmentFile.Values :=
  values.foldl (fun known a =>
    if o.skipsEmpty && a.2 == some "" then known else known.set (o.key a.1) a.2) []

/-- The variables of the environment by name. -/
def environmentValues (s : SettingSources) : AssignmentFile.Values :=
  fold s.options (s.environment.map fun v => (v.1, some v.2))

/-- The assignments of the file by name. -/
def fileValues (s : SettingSources) : AssignmentFile.Values :=
  if s.options.readsFile then fold s.options (AssignmentFile.values s.environment s.file) else []

/-- The value given directly: the first under the name of a setting in any
    case. -/
def given? (s : SettingSources) (name : String) : Option Json :=
  (s.given.find? fun g => SettingOptions.lower g.1 == name).map Prod.snd

/-- A text from outside as a value. -/
def valueOf (o : SettingOptions) (text : String) : Json :=
  if o.absent = some text then .null else .text text

/-- The value of a setting, from the first source that has it. A name without a
    value gives none. -/
def field? (s : SettingSources) (name : String) : Option Json :=
  let outside (values : AssignmentFile.Values) : Option Json :=
    ((values.lookup (s.options.outside name)).bind id).map (valueOf s.options)
  s.given? name <|> outside s.environmentValues <|> outside s.fileValues

/-- The known fields with their values. -/
def fields (s : SettingSources) : List (String × Json) :=
  names.filterMap fun n => (s.field? n).map (n, ·)

/-- Whether an assignment of the file is nobody's. A setting without its mark
    and an empty value are let pass. -/
def isStray (o : SettingOptions) (a : String × Option String) : Bool :=
  a.2.getD "" != "" && !names.contains a.1 && !(names.map o.outside).contains a.1

/-- The names nobody knows, those of the file first. -/
def unknown (s : SettingSources) : List String :=
  let strays := (s.fileValues.filter (isStray s.options)).map Prod.fst
  strays ++ (s.given.map Prod.fst).filter fun n =>
    !names.contains (SettingOptions.lower n) && !strays.contains n

end SettingSources

namespace Settings

/-- The settings of a record. -/
def ofFields (fields : List (String × Json)) : Checked Settings :=
  let d : Settings := {}
  Settings.mk
    <$> Field.optional "app_name" d.appName Schema.text fields
    <*> Field.optional "app_env" d.environment
          (Schema.choice Environment.all Environment.name .notAllowed) fields
    <*> Field.optional "debug" d.debug Schema.flag fields
    <*> Field.optional "log_level" d.logLevel Schema.text fields
    <*> Field.optional "cors_allowed_origins" d.allowedOrigins Schema.text fields
    <*> Field.optional "max_source_bytes" d.maxSourceBytes Schema.integer fields
    <*> Field.optional "scan_timeout_seconds" d.scanTimeout Schema.real fields
    <*> Field.optional "max_request_bytes" d.maxRequestBytes Schema.integer fields
    <*> Field.optional "verification_method" d.method Schema.text fields

/-- The settings of given sources, or everything that is wrong with them. -/
def load (s : SettingSources) : Checked Settings :=
  let strays := s.unknown.map fun n => Fault.mk [n] .unexpected
  let nothing : Checked Unit := if strays.isEmpty then .valid () else .invalid strays
  Function.const Unit <$> ofFields s.fields <*> nothing

/-- The settings by name, as they are displayed, in the order of the names. -/
def shown (s : Settings) : List (String × String) :=
  [
    ("app_env", s.environment.name),
    ("app_name", s.appName),
    ("cors_allowed_origins", s.allowedOrigins),
    ("debug", if s.debug then "True" else "False"),
    ("log_level", s.logLevel),
    ("max_request_bytes", toString s.maxRequestBytes),
    ("max_source_bytes", toString s.maxSourceBytes),
    ("scan_timeout_seconds", s.scanTimeout.text),
    ("verification_method", s.method)]

end Settings

end SolidityAudit
