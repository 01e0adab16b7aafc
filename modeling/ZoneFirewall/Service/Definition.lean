import ZoneFirewall.Text.WideText

/-!
# Service definitions

What one definition of a service admits: a protocol, ranges of source and destination ports, and
for ICMP a type and a code.

* `PortRange`, `PortRange.full`, `PortRange.text`.
* `Definition`.
-/

namespace ZoneFirewall

/-- A range of ports, both ends included. The ends are taken as they are written: nothing keeps
them in order or below the greatest port. -/
structure PortRange where
  /-- The first port. -/
  first : Int
  /-- The last port. -/
  last : Int
  deriving DecidableEq, Repr

namespace PortRange

/-- The range of all ports, which stands for no constraint. -/
def full : PortRange := ⟨0, 65535⟩

/-- The range of one port. -/
def single (port : Int) : PortRange := ⟨port, port⟩

/-- Whether a port lies in the range. -/
def contains (r : PortRange) (port : Int) : Bool := r.first ≤ port && port ≤ r.last

/-- The range as rules write it: a single port alone, else both ends with a hyphen between. -/
def text (r : PortRange) : String :=
  if r.first = r.last then toString r.first else toString r.first ++ "-" ++ toString r.last

end PortRange

/-- One definition of a service. -/
structure Definition where
  /-- `tcp`, `udp`, `icmp`, a protocol number, or empty for any protocol. -/
  protocol : Text.WideText
  /-- The source ports. -/
  source : PortRange := .full
  /-- The destination ports. -/
  destination : PortRange := .full
  /-- The ICMP type, if one is required. -/
  icmpType : Option Int := none
  /-- The ICMP code, if one is required. -/
  icmpCode : Option Int := none
  deriving DecidableEq, Repr

namespace Definition

/-- A definition for destination ports of TCP. -/
def tcp (first last : Int) : Definition := { protocol := "tcp", destination := ⟨first, last⟩ }

/-- A definition for destination ports of UDP. -/
def udp (first last : Int) : Definition := { protocol := "udp", destination := ⟨first, last⟩ }

end Definition

end ZoneFirewall
