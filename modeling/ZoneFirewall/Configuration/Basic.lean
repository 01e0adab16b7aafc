import ZoneFirewall.AddressBook.Basic
import ZoneFirewall.Diagnostic
import ZoneFirewall.Policy
import ZoneFirewall.Service.Catalog

/-!
# Configurations

A configuration is everything that a list of directives says: policies in the order in which they
were created, the address book, the service catalog, and the problems that were met.

* `Configuration`, `Configuration.policy?`, `Configuration.withPolicy`.
* `Configuration.policiesOf`: the policies from or to some zones.
-/

namespace ZoneFirewall

/-- Everything that a list of directives says. -/
structure Configuration where
  /-- The policies in the order of their creation. -/
  policies : List Policy := []
  /-- The addresses of all zones. -/
  objects : AddressBook := .empty
  /-- The services. -/
  services : Catalog := .predefined
  /-- The problems that were met, in order. -/
  diagnostics : List Diagnostic := []

namespace Configuration

/-- The policy with a number. -/
def policy? (c : Configuration) (id : Int) : Option Policy := c.policies.find? (·.id = id)

/-- The configuration with one more policy at its end. -/
def addPolicy (c : Configuration) (p : Policy) : Configuration :=
  { c with policies := c.policies ++ [p] }

/-- The configuration with a change to the policy of a number. -/
def withPolicy (c : Configuration) (id : Int) (change : Policy → Policy) : Configuration :=
  { c with policies := c.policies.map fun p => if p.id = id then change p else p }

/-- The configuration with one more diagnostic at its end. -/
def report (c : Configuration) (d : Diagnostic) : Configuration :=
  { c with diagnostics := c.diagnostics ++ [d] }

/-- The policies from or to one of the zones. -/
def policiesOf (c : Configuration) (zones : List Text.WideText) : List Policy :=
  c.policies.filter fun p => zones.contains p.fromZone || zones.contains p.toZone

end Configuration

end ZoneFirewall
