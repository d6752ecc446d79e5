import Checkout.Url.Reader

/-!
# URLs in logs

`redact` replaces the name of the user and the password in a URL by three stars. A text that is no URL,
or a URL that has neither, stays as it is.
-/

namespace Checkout

/-- What stands for the user in a log. -/
def redactedUser : List Char := ['*', '*', '*']

/-- A URL as it may be shown in a log. -/
def redact (raw : String) : String :=
  match Url.ofText raw with
  | .error _ => raw
  | .ok u =>
    if !u.hasUserinfo then raw
    else
      match u.withUser? redactedUser with
      | some v => String.ofList v.text
      | none => raw

end Checkout
