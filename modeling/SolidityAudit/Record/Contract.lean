import SolidityAudit.Obligation
import SolidityAudit.Record.Schema

/-!
# Contracts and Obligations as Records

The fields under which contracts and obligations are exchanged, written and
read.

## Main definitions

* `Contract.toJson`, `Contract.ofJson`: A contract as a record.
* `Obligation.toJson`, `Obligation.ofJson`: An obligation as a record.
-/

namespace SolidityAudit

namespace Parameter

def toJson (p : Parameter) : Json :=
  .object [("type", .text p.type), ("name", .text p.name)]

def ofJson : Json → Checked Parameter :=
  Schema.record "Parameter" fun fields =>
    Parameter.mk
      <$> Field.required "type" Schema.text fields
      <*> Field.required "name" Schema.text fields

end Parameter

namespace Declaration

def toJson (f : Declaration) : Json :=
  .object [
    ("name", .text f.name),
    ("parameters", .list (f.parameters.map Parameter.toJson)),
    ("return_type", Json.ofText? f.returnType),
    ("body", .text f.body)]

def ofJson : Json → Checked Declaration :=
  Schema.record "FunctionDef" fun fields =>
    Declaration.mk
      <$> Field.required "name" Schema.text fields
      <*> Field.optional "parameters" [] (Schema.list Parameter.ofJson) fields
      <*> Field.optional "return_type" none (Schema.nullable Schema.text) fields
      <*> Field.optional "body" "" Schema.text fields

end Declaration

namespace Contract

def toJson (c : Contract) : Json :=
  .object [
    ("functions", .list (c.functions.map Declaration.toJson)),
    ("state_variables", Json.ofTexts c.stateVariables),
    ("compiler_version_major", .int c.versionMajor),
    ("compiler_version_minor", .int c.versionMinor),
    ("solidity_version", .text c.version),
    ("has_builtin_overflow_protection", .bool c.checksArithmetic),
    ("has_unchecked_block", .bool c.hasUnchecked)]

def ofJson : Json → Checked Contract :=
  Schema.record "Contract" fun fields =>
    Contract.mk
      <$> Field.optional "functions" [] (Schema.list Declaration.ofJson) fields
      <*> Field.optional "state_variables" [] (Schema.list Schema.text) fields
      <*> Field.optional "compiler_version_major" 0 Schema.integer fields
      <*> Field.optional "compiler_version_minor" 0 Schema.integer fields
      <*> Field.optional "solidity_version" "unknown" Schema.text fields
      <*> Field.optional "has_builtin_overflow_protection" false Schema.flag fields
      <*> Field.optional "has_unchecked_block" false Schema.flag fields

end Contract

namespace Obligation

def toJson (o : Obligation) : Json :=
  .object [
    ("id", .text o.id),
    ("vulnerability_class", .text o.topic.name),
    ("target_function", .text o.target),
    ("description", .text o.description),
    ("note", Json.ofText? o.note),
    ("function_index", Json.ofInt? o.index)]

/-- Reads an obligation. Its class has to be one of the six. -/
def ofJson : Json → Checked Obligation :=
  Schema.record "VerificationCondition" fun fields =>
    Obligation.mk
      <$> Field.required "id" Schema.text fields
      <*> Checked.map Topic.known (Field.required "vulnerability_class"
            (Schema.choice Weakness.all Weakness.name .notMember) fields)
      <*> Field.required "target_function" Schema.text fields
      <*> Field.required "description" Schema.text fields
      <*> Field.optional "note" none (Schema.nullable Schema.text) fields
      <*> Field.optional "function_index" none (Schema.nullable Schema.integer) fields

end Obligation

end SolidityAudit
