import ZoneFirewall.AddressBook.Name

/-!
# Policies

A policy says what happens to the traffic from one zone to another that matches its sources,
destinations and services.

* `Action`, `NatMode`, `Policy`.
* `Policy.isValid`: what a policy needs to be taken in.
* `Policy.isZoneDefault`: the policies that refuse everything between two zones.
* `Policy.describe`: the whole record on one line.
-/

namespace ZoneFirewall

/-- What happens to matching traffic. -/
inductive Action where
  /-- It passes. -/
  | permit
  /-- It is refused with an answer. -/
  | reject
  /-- It is dropped in silence. -/
  | deny
  deriving DecidableEq, Repr

/-- Which address of matching traffic is replaced. -/
inductive NatMode where
  /-- None. -/
  | none
  /-- The source. -/
  | source
  /-- The destination. -/
  | destination
  deriving DecidableEq, Repr

/-- The word for an action. -/
def Action.word : Action → String
  | .permit => "permit"
  | .reject => "reject"
  | .deny => "deny"

/-- The action of a word. -/
def Action.ofWord? (word : String) : Option Action :=
  [.permit, .reject, .deny].find? fun a => a.word = word

/-- The words for an address replacement, empty for none. -/
def NatMode.words : NatMode → String
  | .none => ""
  | .source => "nat src"
  | .destination => "nat dst"

/-- The address replacement of some words. -/
def NatMode.ofWords? (words : String) : Option NatMode :=
  [.none, .source, .destination].find? fun m => m.words = words

/-- A policy. Sources, destinations and services are names in the order of the directives. -/
structure Policy where
  /-- The number by which directives refer to the policy. -/
  id : Int
  /-- The zone that traffic comes from. -/
  fromZone : String
  /-- The zone that traffic goes to. -/
  toZone : String
  /-- The name, empty if there is none. -/
  name : String := ""
  /-- Whether the policy is switched off. -/
  disabled : Bool := false
  /-- The source addresses and groups, named in the from-zone. -/
  sources : List String := []
  /-- The destination addresses and groups, named in the to-zone. -/
  destinations : List String := []
  /-- The services and service groups. -/
  services : List String := []
  /-- The application, empty if there is none. -/
  application : String := ""
  /-- The address replacement. -/
  nat : NatMode := .none
  /-- The address to put in, as written. -/
  natAddress : String := ""
  /-- The port to put in. -/
  natPort : Option Int := none
  /-- What happens to matching traffic. -/
  action : Action := .permit
  /-- Whether matching traffic is logged. -/
  log : Bool := false
  /-- Whether sessions are logged when they begin. -/
  logInit : Bool := false
  deriving DecidableEq, Repr

namespace Policy

/-- Whether the policy can be taken in: a positive number, both zones, and at least one source,
destination and service. -/
def isValid (p : Policy) : Bool :=
  p.id > 0 && p.fromZone != "" && p.toZone != "" && !p.sources.isEmpty && !p.destinations.isEmpty
    && !p.services.isEmpty

/-- Whether the policy refuses everything between its zones, which is what two zones do without any
policy: its one source and its one destination are spellings of `any`, and it does not permit. -/
def isZoneDefault (p : Policy) : Bool :=
  (match p.sources, p.destinations with
    | [s], [d] => isAnyName s && isAnyName d
    | _, _ => false)
  && p.action != .permit

/-- The word for a truth value in a description. -/
def truthWord (b : Bool) : String := if b then "True" else "False"

/-- The whole record on one line. -/
def describe (p : Policy) : String :=
  " ".intercalate
    [ "ID: " ++ toString p.id,
      "Name: " ++ p.name,
      "Disabled: " ++ truthWord p.disabled,
      "From: " ++ p.fromZone,
      "To: " ++ p.toZone,
      "Sources: [" ++ " ".intercalate p.sources ++ "]",
      "Destinations: [" ++ " ".intercalate p.destinations ++ "]",
      "Services: [" ++ " ".intercalate p.services ++ "]",
      "Application: " ++ p.application,
      "NAT: " ++ p.nat.words,
      "NATAddress: " ++ p.natAddress,
      "NATPort: " ++ toString (p.natPort.getD 0),
      "Action: " ++ p.action.word,
      "Log: " ++ truthWord p.log,
      "LogInit: " ++ truthWord p.logInit ]

end Policy

end ZoneFirewall
