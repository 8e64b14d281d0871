/-
  TableSync/Http/Exchange.lean
  ============================
  **Requests and responses** — what a service sees of a sync, and answers.

  A transport turns a request into a response or fails with a failure of its
  own: a timeout, a broken connection, a broken protocol.  A response with a
  status outside 200 to 299 is a failure only where somebody insists on
  success.
-/
import TableSync.World

namespace TableSync.Http

/-- The method of a request. -/
inductive Method where
  | get
  | put
deriving DecidableEq, Repr, Inhabited

/-- The name of a method. -/
def Method.name : Method → String
  | get => "GET"
  | put => "PUT"

/-- The visible ASCII characters that have no place in an address. -/
def escapedChars : List Char := ['"', '<', '>', '\x60', '\x7b', '\x7d']

/-- A character that stands for itself in an address. -/
def isAddressChar (c : Char) : Bool :=
  0x20 < c.toNat && c.toNat < 0x7F && !escapedChars.contains c

/-- A byte as a percent sign and two hexadecimal digits. -/
def escapedByte (byte : UInt8) : String :=
  let digits := (Nat.toDigits 16 byte.toNat).map Char.toUpper
  "%" ++ String.ofList (if digits.length < 2 then '0' :: digits else digits)

/-- An address as it stands in a request; every byte of any other character is escaped. -/
def address (raw : String) : String :=
  String.join (raw.toList.map fun c =>
    if isAddressChar c then String.singleton c
    else String.join ((String.singleton c).toUTF8.toList.map escapedByte))

/-- A request. -/
structure Request where
  method : Method
  url : String
  params : Fields String := []
  authorization : Option String := none
  contentType : Option String := none
  body : Option Value := none
deriving Inhabited

/-- A request as a value. -/
def Request.toValue (request : Request) : Value :=
  .object [
    ("method", .text request.method.name),
    ("url", .text request.url),
    ("params", .object (request.params.map fun field => (field.1, .text field.2))),
    ("authorization", Value.ofText? request.authorization),
    ("content_type", Value.ofText? request.contentType),
    ("body", request.body.getD .null)]

/-- A response; header names are looked up in any case of letters. -/
structure Response where
  status : Nat
  headers : Fields String := []
  body : String := ""
deriving Repr, Inhabited

/-- How requests are sent. -/
abbrev Transport (σ : Type) := Request → Effect σ Response

namespace Response

/-- A character of a header name in lower case. -/
def lowerAscii (s : String) : String := String.ofList (s.toList.map Char.toLower)

/-- The value of a header; one that is given again and again has all its values, with commas between them. -/
def header? (response : Response) (name : String) : Option String :=
  match response.headers.filter fun field => lowerAscii field.1 == lowerAscii name with
  | [] => none
  | given => some (", ".intercalate (given.map Prod.snd))

/-- A response that says that all is well. -/
def isSuccess (response : Response) : Bool := 200 ≤ response.status && response.status < 300

/-- Insist on success. -/
def requireSuccess {σ : Type} (response : Response) : Effect σ Unit :=
  if response.isSuccess then pure ()
  else Effect.fail (.outside .httpStatus ("the service answered with status " ++ toString response.status) false)

/-- The beginning of the body, for a message. -/
def excerpt (response : Response) : String := String.ofList (response.body.toList.take 500)

end Response

/-- The value of an authorization header; an empty key is none. -/
def bearer : Option String → Option String
  | some key => if key.isEmpty then none else some ("Bearer " ++ key)
  | none => none

/-- The content type of every request. -/
def jsonContent : String := "application/json"

end TableSync.Http
