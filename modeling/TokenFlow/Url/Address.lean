/-
# TokenFlow.Url.Address -- numeric addresses in brackets

What may stand between the brackets of a network location: an IPv6 address,
or a future address form `v<hex>.<text>`.
-/
import TokenFlow.Text.Cut

namespace TokenFlow.Url.Address

set_option autoImplicit false

open TokenFlow.Text

def isDecimal (c : Char) : Bool :=
  '0' ≤ c && c ≤ '9'

def isHexadecimal (c : Char) : Bool :=
  isDecimal c || ('a' ≤ c && c ≤ 'f') || ('A' ≤ c && c ≤ 'F')

/-- A decimal number from 0 to 255 without leading zeros. -/
def isDottedPart (text : List Char) : Bool :=
  text ≠ [] && text.all isDecimal && text.length ≤ 3 && (text.length == 1 || text.head? ≠ some '0')
    && text.foldl (fun n c => 10 * n + (c.toNat - 48)) 0 ≤ 255

/-- Four decimal parts with dots between them. -/
def isDotted (text : List Char) : Bool :=
  let parts := pieces '.' text
  parts.length == 4 && parts.all isDottedPart

/-- One to four hexadecimal digits. -/
def isGroup (text : List Char) : Bool :=
  text ≠ [] && text.length ≤ 4 && text.all isHexadecimal

/-- Eight groups, where at most one run of them is left out as `::`.  `inner`
positions are those that have a colon on both sides. -/
def isGrouped (parts : List (List Char)) : Bool :=
  let inner := (parts.drop 1).dropLast
  match (inner.filter (· = [])).length with
  | 0 => parts.length == 8 && parts.all isGroup
  | 1 =>
      let before := parts.take (1 + (inner.takeWhile (· ≠ [])).length)
      let after := parts.drop (before.length + 1)
      let side (groups : List (List Char)) := groups = [[]] || groups.all isGroup
      let given := (parts.filter (· ≠ [])).length
      side before && side after && given < 8
  | _ => false

/-- The last part of an address may be in dotted form, which stands for two groups. -/
def isSixth (text : List Char) : Bool :=
  let parts := pieces ':' text
  let dotted := (parts.getLast?.getD []).contains '.'
  let groups := if dotted then parts.dropLast ++ [['0'], ['0']] else parts
  3 ≤ parts.length && groups.length ≤ 9 && (!dotted || isDotted (parts.getLast?.getD []))
    && isGrouped groups

/-- An IPv6 address with an optional zone. -/
def isSixthZoned (text : List Char) : Bool :=
  match cut '%' text with
  | (address, none) => isSixth address
  | (address, some zone) => zone ≠ [] && !zone.contains '%' && isSixth address

/-- A future form: `v`, hexadecimal digits, a dot and at least one more character. -/
def isFuture (text : List Char) : Bool :=
  match text with
  | 'v' :: rest =>
      match cut '.' rest with
      | (version, some more) =>
          version ≠ [] && version.all isHexadecimal && more ≠ [] && !more.contains '\n'
      | (_, none) => false
  | _ => false

end TokenFlow.Url.Address
