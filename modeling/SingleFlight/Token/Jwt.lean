import SingleFlight.Base64Url
import SingleFlight.Failure
import SingleFlight.Json
import SingleFlight.Token

/-!
Tokens that carry their own expiry.

Such a token is a text in segments with points between them.  The second segment is the payload:
JSON in the URL-safe alphabet, with or without padding, whose claim `exp` is the UNIX second of the
expiry.  Nothing else of the token is looked at, and no signature is checked.
-/

namespace SingleFlight
namespace Token

/-- Why a token could not be read. -/
inductive JwtError where
  | noPayload
  | notBase64
  | noExpiry
deriving DecidableEq, Repr

def JwtError.message : JwtError → String
  | noPayload => "token is not a JWT: missing payload segment"
  | notBase64 => "JWT payload is not valid base64url"
  | noExpiry => "JWT payload has no numeric 'exp' claim"

/-- What the decoders say of the tokens that they refuse, outermost cause first. -/
structure Jwt.Complaints where
  /-- Of a token whose payload is in another alphabet. -/
  base64 : String → List String
  /-- Of a token whose claims name no expiry. -/
  claims : String → List String

/-- The failure to read a token.  What a decoder said of it stays as the cause. -/
def JwtError.failure (said : Jwt.Complaints) (value : String) (e : JwtError) : Failure :=
  .ofCauses e.message
    (match e with
    | noPayload => []
    | notBase64 => said.base64 value
    | noExpiry => said.claims value)

namespace Jwt

/-- The characters between the first point and the next, or the end. -/
def payload? (cs : List Char) : Option (List Char) :=
  match cs.dropWhile (· ≠ '.') with
  | [] => none
  | _ :: rest => some (rest.takeWhile (· ≠ '.'))

/-- A segment without the padding at its end. -/
def unpadded (cs : List Char) : List Char := (cs.reverse.dropWhile (· = '=')).reverse

/-- The second that a number names, if it is an integer of 64 bits with a sign. -/
def second? : Json.Tree → Option Int
  | .number n => n.integer?.filter fun i => Instant.saturate i = i
  | _ => none

/-- The claim among the members of an object.  All names must be texts; the claim must be there, and
only once. -/
def claim? (members : List (List UInt8 × Json.Tree)) : Option Int := do
  let named ← members.mapM fun (key, item) => (Json.textOf? key).map (·, item)
  match named.filter fun (name, _) => name = "exp" with
  | [(_, item)] => second? item
  | _ => none

/-- The expiry that the claims name: a member of an object, or the only item of an array. -/
def expiry? (bytes : List UInt8) : Option Int :=
  match Json.Tree.read bytes with
  | some (.object members) => claim? members
  | some (.array [item]) => second? item
  | _ => none

end Jwt

/-- A token that expires when its claim says. -/
def ofJwt (now : Nat) (wall : Int) (value : String) : Except JwtError Token :=
  match Jwt.payload? value.toList with
  | none => .error .noPayload
  | some segment =>
    match Base64Url.decode? (Jwt.unpadded segment) with
    | none => .error .notBase64
    | some bytes =>
      match Jwt.expiry? bytes with
      | none => .error .noExpiry
      | some expiry => .ok (ofUnixExpiry now wall value expiry)

end Token
end SingleFlight
