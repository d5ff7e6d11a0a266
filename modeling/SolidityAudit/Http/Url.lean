import SolidityAudit.Json.Reader
import SolidityAudit.Text.Blank
import SolidityAudit.Text.Utf8

/-!
# Parts of Addresses

The path of a request as it appears in its address, the parameters of its
query, and the writing of an address in ASCII.

## Main definitions

* `addressPath`: The path of an address.
* `parameters`: The parameters of a query.
* `escapeAddress`: An address in ASCII.
-/

namespace SolidityAudit

namespace Http

/-- A character of a path in its address. What would end the path, or divide it,
    is escaped. -/
def pathChar (c : Char) : List Char :=
  match c with
  | '?' => ['%', '3', 'F']
  | '#' => ['%', '2', '3']
  | '\\' => ['%', '5', 'C']
  | '\t' | '\r' | '\n' => []
  | c => [c]

/-- The path of the address whose host is followed by a decoded path. Line
    breaks and tabs are no part of an address, and a path that is not empty
    starts with a slash. -/
def addressPath (path : String) : String :=
  let slash := if path = "" || path.toList.head? = some '/' then [] else ['/']
  String.ofList (slash ++ path.toList.flatMap pathChar)

/-- The bytes of an escaped text. A plus sign is a blank. -/
def unescape : List Char → List UInt8
  | '%' :: a :: b :: r =>
    match Json.hexValue? a, Json.hexValue? b with
    | some x, some y => UInt8.ofNat (16 * x + y) :: unescape r
    | _, _ => 0x25 :: unescape (a :: b :: r)
  | '+' :: r => 0x20 :: unescape r
  | c :: r => c.toString.toUTF8.toList ++ unescape r
  | [] => []

/-- The text of bytes that may be faulty. In a faulty text every byte beyond
    ASCII is shown by the replacement character. -/
def lenientText (bytes : List UInt8) : String :=
  match Text.Utf8.decode bytes with
  | .ok cs => String.ofList cs
  | .error _ =>
    String.ofList (bytes.map fun b => if b < 0x80 then Char.ofNat b.toNat else '�')

/-- The parameters of a query. A parameter without equals sign is empty. -/
def parameters (query : String) : List (String × String) :=
  ((Text.pieces (· == '&') query.toList).filter fun p => !p.isEmpty).map fun p =>
    (lenientText (unescape (p.takeWhile (· != '='))),
      lenientText (unescape ((p.dropWhile (· != '=')).drop 1)))

/-- The last parameter of a name. -/
def parameter? (query name : String) : Option String :=
  ((parameters query).reverse.find? fun p => p.1 == name).map Prod.snd

/-- Whether an ASCII character stands as itself in an address. -/
def isAddressChar (c : Char) : Bool :=
  c.isAlphanum || "_.-~:/%#?=@[]!$&'()*+,;".toList.contains c

/-- A byte by number. -/
def escapeByte (b : UInt8) : List Char :=
  let digit (n : Nat) : Char := (Nat.digitChar n).toUpper
  ['%', digit (b.toNat / 16), digit (b.toNat % 16)]

/-- An address in ASCII. -/
def escapeAddress (s : String) : String :=
  String.ofList (s.toUTF8.toList.flatMap fun b =>
    if b < 0x80 && isAddressChar (Char.ofNat b.toNat) then [Char.ofNat b.toNat]
    else escapeByte b)

end Http

end SolidityAudit
