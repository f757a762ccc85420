import SilentAuth.Text.Case

/-!
# Messages between clients and services

What a client sends to a service and what comes back. A response counts only if it is one that a
client accepts: its fields have to be well formed, and it has to be a final one.
-/

namespace SilentAuth

/-- What a client sends. -/
structure HttpRequest where
  method : String
  /-- The path and the query. -/
  target : String
  /-- The type of the body, if there is one. -/
  contentType : Option String
  body : String
deriving DecidableEq

/-- The type of form data. -/
def formContentType : String := "application/x-www-form-urlencoded"

/-- A field of a response. -/
structure HttpField where
  name : String
  value : List UInt8
deriving DecidableEq

/-- What a service answers. -/
structure HttpResponse where
  status : UInt16
  fields : List HttpField
  body : List UInt8
deriving DecidableEq

namespace HttpField

/-- Whether a byte is a space or a tab; those are dropped at both ends of a value. -/
def isPadding (b : UInt8) : Bool := b = 0x20 || b = 0x09

/-- The value without the padding. -/
def trimmed (f : HttpField) : List UInt8 :=
  ((f.value.dropWhile isPadding).reverse.dropWhile isPadding).reverse

/-- Whether a character may stand in the name of a field. -/
def isNameChar (c : Char) : Bool := c.isAlphanum || "!#$%&'*+-.^_|~\x60".toList.contains c

/-- Whether a byte may stand in the value of a field. -/
def isValueByte (b : UInt8) : Bool := b = 0x09 || (0x20 ≤ b && b != 0x7F)

/-- Whether a field is well formed. -/
def isValid (f : HttpField) : Bool :=
  f.name ≠ "" && f.name.toList.all isNameChar && f.value.all isValueByte

/-- The value as text, if it is plain ASCII. -/
def text? (f : HttpField) : Option String :=
  if f.trimmed.all fun b => b < 0x7F then
    some (String.ofList (f.trimmed.map fun b => Char.ofNat b.toNat))
  else none

end HttpField

namespace HttpResponse

/-- Whether the status says that the request was served. -/
def isSuccess (r : HttpResponse) : Bool := 200 ≤ r.status && r.status < 300

/-- Whether the status says that the request failed. -/
def isFailure (r : HttpResponse) : Bool := 400 ≤ r.status && r.status < 600

/-- Whether responses of this status have no body. -/
def isBare (r : HttpResponse) : Bool := r.status = 204 || r.status = 304

/-- The response as a client accepts it, if it does. A response that only announces a later one is
no answer. -/
def accepted? (r : HttpResponse) : Option HttpResponse :=
  if r.status < 200 || !r.fields.all HttpField.isValid then none
  else if r.isBare then some { r with body := [] }
  else some r

/-- The text of the first field of a name, if it is plain ASCII. -/
def text? (r : HttpResponse) (name : String) : Option String :=
  (r.fields.find? fun f => sameText f.name name).bind HttpField.text?

end HttpResponse

end SilentAuth
