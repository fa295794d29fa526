/-
# TokenFlow.Url.Base -- addresses that others are built from

A base address may be written with any number of slashes at its end; what is
built from it is the same for all of them.
-/
import TokenFlow.Text.Blank

namespace TokenFlow.Url

set_option autoImplicit false

/-- A text without the slashes at its end. -/
def withoutTrailingSlashes (text : String) : String :=
  String.ofList (Text.trimRight (· = '/') text.toList)

end TokenFlow.Url
