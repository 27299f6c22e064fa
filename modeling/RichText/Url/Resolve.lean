import RichText.Failure
import RichText.Url.Join
import RichText.Url.Quote
import RichText.Value.Membership

/-!
# Url/Resolve — targets of links and images

The target of a link is its address read at the base URL, if there is one, and quoted as a field
argument.  Addresses with `://` in them stand for themselves.
-/

namespace RichText.Url

/-- The URL an address stands for at a base URL. -/
def resolve (address base : Value) : Except Failure Value := do
  if ← address.containsText "://" then return address
  else if !base.truthy then return address
  else if !address.truthy then return base
  else match base, address with
    | .text b, .text a =>
      match join b a with
      | .ok t => return .text t
      | .error e => .error (.invalid (.url e))
    | .text _, _ => .error .misuse
    | _, .text _ => .error .misuse
    | _, _ => .error .noPart

/-- A URL as a field argument between quotation marks. -/
def quote : Value → Except Failure Text
  | .text t => do return fieldArgument (← t.toUtf8)
  | .bytes b => .ok (fieldArgument b)
  | _ => .error .misuse

end RichText.Url
