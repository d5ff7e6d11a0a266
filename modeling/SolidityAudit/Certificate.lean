import SolidityAudit.Digest
import SolidityAudit.Instant
import SolidityAudit.Verdict

/-!
# Certificates

The certificate of a scan without vulnerable verdicts. It names the contract by
its hash, says when and by what method it was checked, and lists the
descriptions of the verified verdicts.

Who is entitled to one is decided where the verdicts are aggregated; issuing
does not ask.

## Main definitions

* `Certificate`: A certificate.
* `Certificate.newId`: The id made of random bytes.
* `Certificate.issue`: The certificate of a list of verdicts.
-/

namespace SolidityAudit

/-- The certificate of a scan. -/
structure Certificate where
  id : String
  contractHash : String
  issuedAt : Instant
  method : String
  /-- The descriptions of what was verified. -/
  properties : List String
  statement : String
  disclaimer : String
deriving DecidableEq, Repr

namespace Certificate

def defaultStatement : String :=
  "Every verification condition generated for this contract was marked " ++
    "verified by the heuristic rule set."

def defaultDisclaimer : String :=
  "This certificate is a demonstration produced by syntactic pattern matching, " ++
    "not production-grade formal verification. It covers only the properties " ++
    "listed; manual review is required before production deployment."

/-- The id made of random bytes. -/
def newId (random : List UInt8) : String :=
  "SC-" ++ String.ofList ((Hex.encode random).map Char.toUpper)

/-- The certificate of a list of verdicts on a source text. -/
def issue (source : String) (verdicts : List Verdict) (random : List UInt8) (now : Instant)
    (method : String) : Certificate where
  id := newId random
  contractHash := SolidityAudit.contractHash source
  issuedAt := now
  method := method
  properties := (verdicts.filter fun v => v.status == .verified).map Verdict.description
  statement := defaultStatement
  disclaimer := defaultDisclaimer

end Certificate

end SolidityAudit
