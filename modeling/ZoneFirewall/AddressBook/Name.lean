import ZoneFirewall.Network.Interface

/-!
# Names with a meaning of their own

Some names of addresses mean the same in every zone and are never looked up: any spelling of `any`
is the network of all addresses, and a name such as `MIP(10.0.0.1)` or `VIP(10.0.0.1)` carries its
address in itself.

* `isAnyName`: the spellings of `any`.
* `inlineAddress?`: the address that a name carries.
-/

namespace ZoneFirewall

/-- Whether a name is a spelling of `any`. Only Latin letters have the small letters `a`, `n` and
`y`, so that the case map of the ASCII letters suffices. -/
def isAnyName (name : String) : Bool := name.toList.map Char.toLower == ['a', 'n', 'y']

/-- What may stand in front of an address that a name carries in itself. -/
def inlineMarks : List String := ["MIP(", "VIP("]

/-- The text of the address that a name carries in itself: what follows the mark, less closing
brackets. -/
def inlineText? (name : String) : Option String :=
  inlineMarks.findSome? fun mark =>
    (mark.toList.isPrefixOf? name.toList).map fun rest => String.ofList (rest.filter (· ≠ ')'))

/-- The address that a name carries in itself; `none` if it carries none that can be read. -/
def inlineAddress? (name : String) : Option Interface :=
  (inlineText? name).bind fun text => (Interface.parseHost text).toOption

end ZoneFirewall
