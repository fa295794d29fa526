/-
# TokenFlow.Url.Reference -- an address that is written as seen from another

A reference leaves out the parts that it shares with its base: the scheme, then
the network location, then the path and the query.  `join` puts them back, on
texts: what is left of a reference to another scheme, or of one in a scheme that
has no references, is the reference itself.
-/
import TokenFlow.Url.Parts

namespace TokenFlow.Url.Reference

set_option autoImplicit false

open TokenFlow.Text

/-- The schemes with references; their addresses have network locations. -/
def relativeSchemes : List String :=
  ["", "ftp", "http", "gopher", "nntp", "imap", "wais", "file", "https", "shttp", "mms",
    "prospero", "rtsp", "rtspu", "sftp", "svn", "svn+ssh", "ws", "wss"]

/-- The text of an address in one of these schemes.  Parts that are empty leave no
mark behind. -/
def write (parts : Parts) : List Char :=
  let path :=
    if parts.parameters = [] then parts.path else parts.path ++ ';' :: parts.parameters
  let located :=
    if parts.location ≠ [] ∨ (parts.scheme ≠ [] ∧ path.take 2 ≠ ['/', '/']) then
      '/' :: '/' :: parts.location
        ++ (if path ≠ [] ∧ path.head? ≠ some '/' then '/' :: path else path)
    else path
  (if parts.scheme = [] then located else parts.scheme ++ ':' :: located)
    ++ (if parts.query = [] then [] else '?' :: parts.query)
    ++ (if parts.fragment = [] then [] else '#' :: parts.fragment)

/-- The segments of a path behind those of a base path, without empty ones in
between; those of a path from the root stand alone. -/
def segments (base path : List Char) : List (List Char) :=
  if path.head? = some '/' then pieces '/' path
  else
    let baseSegments := pieces '/' base
    let kept := if baseSegments.getLast? = some [] then baseSegments else baseSegments.dropLast
    let joined := kept ++ pieces '/' path
    joined.take 1 ++ (joined.drop 1).dropLast.filter (· ≠ []) ++ (joined.drop 1).getLast?.toList

/-- Drops `.` segments and takes `..` back to the segment before.  A path that ends
in one of them ends in a slash. -/
def resolveDots (segments : List (List Char)) : List (List Char) :=
  let resolved := segments.foldl (fun (output : List (List Char)) segment =>
    if segment = ['.', '.'] then output.dropLast
    else if segment = ['.'] then output
    else output ++ [segment]) []
  match segments.getLast? with
  | some ['.'] | some ['.', '.'] => resolved ++ [[]]
  | _ => resolved

def mergePath (base path : List Char) : List Char :=
  match List.intercalate ['/'] (resolveDots (segments base path)) with
  | [] => ['/']
  | merged => merged

/-- The parts of a reference with those of its base put back. -/
def complete (base reference : Parts) : Parts :=
  if reference.location ≠ [] then reference
  else if reference.path = [] ∧ reference.parameters = [] then
    { reference with
      location := base.location
      path := base.path
      parameters := base.parameters
      query := if reference.query = [] then base.query else reference.query }
  else
    { reference with
      location := base.location
      path := mergePath base.path reference.path }

/-- The address that a reference stands for. -/
def join (base reference : List Char) : Except UrlError (List Char) :=
  if base = [] then .ok reference
  else if reference = [] then .ok base
  else do
    let baseParts ← splitClean [] base
    let parts ← splitClean baseParts.scheme reference
    if parts.scheme = baseParts.scheme ∧ relativeSchemes.contains (String.ofList parts.scheme) then
      pure (write (complete baseParts parts))
    else pure reference

end TokenFlow.Url.Reference
