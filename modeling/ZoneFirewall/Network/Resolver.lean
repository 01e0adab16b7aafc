import ZoneFirewall.Network.Address
import ZoneFirewall.Table
import ZoneFirewall.Text.Blank
import ZoneFirewall.Text.Lines

/-!
# Looking up hosts

* `Resolver`: what finds the address of a host.
* `Resolver.ofTable`: the resolver that knows the hosts of a table.
* `hostsOfText`: the table of a list of hosts, as systems keep one.
-/

namespace ZoneFirewall

/-- Finds the address of a host, as it is written, or says why it finds none. -/
abbrev Resolver := String → Except String String

/-- The reason that is given for a host of which nothing is known. -/
def unknownHostReason : String := "[Errno -2] Name or service not known"

/-- The resolver that knows the hosts of a table and no others. -/
def Resolver.ofTable (hosts : Table String String) : Resolver := fun host =>
  match hosts.get? host with
  | some address => .ok address
  | none => .error unknownHostReason

/-- The hosts of a line of a list of hosts: an address, then its names. What follows a number sign
is a comment, and addresses of another kind are left out. -/
def hostsOfLine (line : String) : List (String × String) :=
  let cs := (line.toList.takeWhile (· ≠ '#')).map fun c => if Text.isBlank c then ' ' else c
  match (cs.splitOn ' ').filter (· ≠ []) with
  | [] => []
  | address :: names =>
    match Address.parse address with
    | .ok a => names.map fun name => (String.ofList name, a.text)
    | .error _ => []

/-- The hosts of a list of hosts. The first address of a name counts. -/
def hostsOfText (text : String) : Table String String :=
  .ofList ((Text.splitLines text).flatMap hostsOfLine).reverse

end ZoneFirewall
