import RichText.Tree.Order
import RichText.Url.Join
import RichText.Value.Membership

/-!
# Url/Refusal — addresses that have no URL at a base

An address is read at a base URL unless it has `://` in it.  Both have to have an authority that can
be read: with its brackets around an address of a network, and without a look-alike of a delimiter.
-/

namespace RichText

namespace Url

/-- The authority of a URL as it is written. -/
def authorityOf (t : Text) : Text := (splitAuthority (splitScheme [] (cleaned t)).2).1

/-- What is wrong with the authority of a URL. -/
def authorityError? (t : Text) : Option UrlError :=
  bracketError? (authorityOf t) <|> lookalikeError? (authorityOf t)

/-- What is wrong with one of two URLs that are joined, the base first. -/
def joinError? (base reference : Text) : Option UrlError :=
  if base.isEmpty || reference.isEmpty then none
  else authorityError? base <|> authorityError? reference

/-- **Why an address has no URL at a base**, if it has none. -/
def refusal? (base address : Value) : Option UrlError :=
  match base, address with
  | .text b, .text a =>
    if Text.hasInfix "://" a then none else joinError? b a
  | _, _ => none

end Url

/-- Why the address of a node has no URL at a base, if it has none. -/
def Node.refusal? (base : Value) (n : Node) : Option UrlError :=
  n.address?.bind (Url.refusal? base)

end RichText
