/-
# TokenFlow.Text.Compatibility -- characters that stand for an address mark

Compatibility normalization (NFKC) turns some characters into `/`, `?`, `#`,
`@` or `:`, alone or among others.  A network location that contains one of
them would name another location after normalization.  Composition never
consumes one of the five marks, so looking at single characters is enough.
-/

namespace TokenFlow.Text

set_option autoImplicit false

/-- Characters outside ASCII whose compatibility form contains `/`, `?`, `#`, `@` or `:`. -/
def addressMarkLookalikes : List Char :=
  ['⁇', '⁈', '⁉', '℀', '℁', '℅', '℆', '⩴', '︓', '︖', '﹕', '﹖', '﹟', '﹫', '＃', '／', '：', '？', '＠']

def hidesAddressMark (text : List Char) : Bool :=
  text.any addressMarkLookalikes.contains

end TokenFlow.Text
