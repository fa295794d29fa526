/-
# TokenFlow.Callback.Page -- the page a browser is left with

A success has a fixed page.  A failed login has a fixed page around one text,
which comes from the redirect and is therefore escaped.
-/
import TokenFlow.Callback.Outcome
import TokenFlow.Text.Markup
import TokenFlow.Text.Utf8

namespace TokenFlow.Callback

set_option autoImplicit false

/-- A page, and the status it is sent with. -/
structure Page where
  status : Nat
  body : String
  deriving DecidableEq, Repr

namespace Page

def successBody : String :=
  "<!DOCTYPE html>\n"
  ++ "<html>\n"
  ++ "<head>\n"
  ++ "  <title>Login Successful</title>\n"
  ++ "  <style>\n"
  ++ "    body\x7bfont-family:system-ui,sans-serif;display:flex;justify-content:center;align-items:center;\n"
  ++ "      height:100vh;margin:0;background:#f0f9ff\x7d\n"
  ++ "    .card\x7bbackground:white;padding:2rem;border-radius:8px;box-shadow:0 2px 10px rgba(0,0,0,0.1);\n"
  ++ "      text-align:center;max-width:400px\x7d\n"
  ++ "    h1\x7bcolor:#059669;margin-bottom:0.5rem\x7d\n"
  ++ "    p\x7bcolor:#6b7280\x7d\n"
  ++ "  </style>\n"
  ++ "</head>\n"
  ++ "<body>\n"
  ++ "  <div class=\"card\">\n"
  ++ "    <h1>Login Successful</h1>\n"
  ++ "    <p>You can close this window and return to your application.</p>\n"
  ++ "  </div>\n"
  ++ "  <script>setTimeout(() => window.close(), 2000);</script>\n"
  ++ "</body>\n"
  ++ "</html>\n"

def failureHead : String :=
  "<!DOCTYPE html>\n"
  ++ "<html>\n"
  ++ "<head><title>Login Failed</title></head>\n"
  ++ "<body>\n"
  ++ "  <h1>Login Failed</h1>\n"
  ++ "  <p>"

def failureTail : String :=
  "</p>\n"
  ++ "  <p>You can close this window and return to your application.</p>\n"
  ++ "</body>\n"
  ++ "</html>\n"

/-- The failure page around a text, which is escaped here. -/
def failureBody (text : String) : String :=
  failureHead ++ String.ofList (Text.Markup.escape text.toList) ++ failureTail

/-- The text that a failed outcome shows. -/
def failureText (outcome : Outcome) : String :=
  match outcome.errorKind with
  | some .providerError =>
      shown outcome.error ++ ": " ++ (nonempty? outcome.description).getD "Unknown error"
  | _ => outcome.error.getD ""

def ofOutcome (outcome : Outcome) : Page :=
  if outcome.success then ⟨200, successBody⟩ else ⟨400, failureBody (failureText outcome)⟩

/-- The octets of the body. -/
def contentLength (page : Page) : Nat :=
  (Text.Utf8.encode page.body.toList).length

end Page

end TokenFlow.Callback
