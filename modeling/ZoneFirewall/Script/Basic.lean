import ZoneFirewall.Diagnostic
import ZoneFirewall.Network.Interface
import ZoneFirewall.Policy
import ZoneFirewall.Service.Definition

/-!
# Firewall scripts

A script has two sections: address lists, and filter rules that name them. The rules come in one
block for each policy.

* `ListEntry`: one address of one list.
* `AddressMatch`, `Rule`, `PolicyRules`: the rules of the policies.
* `Script`: both sections, the problems that were met, and how much was written.
-/

namespace ZoneFirewall

/-- One address of an address list. -/
structure ListEntry where
  /-- The name of the list. -/
  list : String
  /-- The network that the entry adds to the list. -/
  address : Interface
  /-- Where the address comes from. -/
  comment : String
  deriving DecidableEq, Repr

/-- What a rule asks of one of a packet's addresses. -/
inductive AddressMatch where
  /-- Nothing. -/
  | any
  /-- That it lies in a network. -/
  | network (address : Interface)
  /-- That it lies in a network of a list. -/
  | list (name : String)
  deriving DecidableEq, Repr

/-- What a rule does with a packet that it admits. -/
inductive Verdict where
  /-- The packet passes. -/
  | accept
  /-- The packet is refused with an answer. -/
  | reject
  /-- The packet is dropped in silence. -/
  | drop
  deriving DecidableEq, Repr

/-- The verdict of an action. -/
def Action.verdict : Action → Verdict
  | .permit => .accept
  | .reject => .reject
  | .deny => .drop

/-- A filter rule. -/
structure Rule where
  /-- The chain that the rule belongs to, one for each pair of zones. -/
  chain : String
  /-- What the rule asks of the source. -/
  source : AddressMatch
  /-- What the rule asks of the destination. -/
  destination : AddressMatch
  /-- The protocol, empty for any. -/
  protocol : Text.WideText
  /-- The source ports of which one has to fit; none for any port. -/
  sourcePorts : List PortRange
  /-- The destination ports of which one has to fit; none for any port. -/
  destinationPorts : List PortRange
  /-- What the rule does. -/
  verdict : Verdict
  /-- Whether the rule logs. -/
  log : Bool
  /-- Where the rule comes from. -/
  comment : String
  deriving DecidableEq, Repr

/-- The rules of one policy. -/
structure PolicyRules where
  /-- The policy's record on one line. -/
  header : String
  /-- The rules in order. -/
  rules : List Rule
  deriving DecidableEq, Repr

/-- A whole script. -/
structure Script where
  /-- The address lists. -/
  lists : List ListEntry
  /-- The rules, policy by policy. -/
  blocks : List PolicyRules
  /-- The problems that were met. -/
  diagnostics : List Diagnostic
  /-- How many addresses were put into lists. -/
  listEntryCount : Nat
  /-- How many rules were made. -/
  ruleCount : Nat
  deriving DecidableEq, Repr

namespace Script

/-- All rules in order. -/
def rules (s : Script) : List Rule := s.blocks.flatMap (·.rules)

/-- Whether the script can be encoded, which it cannot if there is a surrogate in a protocol. -/
def isEncodable (s : Script) : Bool := s.rules.all fun r => !r.protocol.hasSurrogate

end Script

end ZoneFirewall
