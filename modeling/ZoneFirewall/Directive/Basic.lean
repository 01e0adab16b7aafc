import ZoneFirewall.Policy

/-!
# Directives

A configuration is made of lines that start with `set`. Each directive below holds what such a line
says, with its numbers still as they are written; what they mean is for the reader of the whole
configuration to say.

* `Directive`: a line at the top level. `BlockLine`: a line within a policy block.
* `Directive.fields`, `BlockLine.fields`: what the line says, in the order of the line, with `none`
  for an optional part that is left out.
-/

namespace ZoneFirewall

/-- The port ranges of a service line, as written. -/
structure PortClause where
  /-- The first source port. -/
  sourceFirst : String
  /-- The last source port. -/
  sourceLast : String
  /-- The first destination port. -/
  destinationFirst : String
  /-- The last destination port. -/
  destinationLast : String
  deriving DecidableEq, Repr

/-- What a service line adds to its service. -/
inductive ServiceClause where
  /-- A protocol, and ports if any are given. -/
  | ports (protocol : String) (ranges : Option PortClause)
  /-- An ICMP type and code. -/
  | icmp (type code : String)
  deriving DecidableEq, Repr

/-- What a flag line changes in its policy. -/
inductive PolicyFlag where
  /-- The policy is switched off. -/
  | disable
  /-- The policy gets an application. -/
  | application
  deriving DecidableEq, Repr

/-- What the line that creates a policy says. -/
structure PolicyHeader where
  /-- The number of the policy. -/
  id : String
  /-- Its name. -/
  name : Option String
  /-- The zone that traffic comes from. -/
  fromZone : String
  /-- The zone that traffic goes to. -/
  toZone : String
  /-- The first source. -/
  source : String
  /-- The first destination. -/
  destination : String
  /-- The first service. -/
  service : String
  /-- The address replacement. -/
  nat : NatMode
  /-- The address to put in. -/
  natAddress : Option String
  /-- The port to put in. -/
  natPort : Option String
  /-- What happens to matching traffic. -/
  action : Action
  /-- Whether matching traffic is logged. -/
  log : Bool
  deriving DecidableEq, Repr

/-- A line at the top level of a configuration. -/
inductive Directive where
  /-- A further definition of the service that was defined last. -/
  | serviceContinue (name : String) (clause : ServiceClause)
  /-- A definition of a service. -/
  | service (name : String) (clause : ServiceClause)
  /-- A timeout of a service, which has no bearing on rules. -/
  | serviceTimeout (name setting : String)
  /-- An address, or the name of a host, with a mask and a description if they are given. -/
  | address (zone name host : String) (mask description : Option String)
  /-- A member of an address group. -/
  | addressGroupAdd (zone group member : String)
  /-- The creation of an address group, with the comment after it. -/
  | addressGroupCreate (zone group : String) (comment : Option String)
  /-- A member of a service group. -/
  | serviceGroupAdd (group member : String)
  /-- The creation of a service group, with the comment after it. -/
  | serviceGroupCreate (group : String) (comment : Option String)
  /-- The creation of a policy. -/
  | policyCreate (header : PolicyHeader)
  /-- The opening of a policy block. -/
  | policyBlock (id : String)
  /-- A flag of a policy, with the text after it. -/
  | policyFlag (id : String) (flag : PolicyFlag) (value : Option String)
  deriving DecidableEq, Repr

/-- Which list of a policy a line of its block extends. -/
inductive MemberKind where
  /-- The services. -/
  | service
  /-- The destinations. -/
  | destination
  /-- The sources. -/
  | source
  deriving DecidableEq, Repr

/-- A line within a policy block. -/
inductive BlockLine where
  /-- A further service, destination or source. -/
  | member (kind : MemberKind) (name : String)
  /-- A log option. -/
  | log (option : String)
  deriving DecidableEq, Repr

/-! ## Fields -/

/-- The word of a block line for the list that it extends. -/
def MemberKind.word : MemberKind → String
  | .service => "service"
  | .destination => "dst-address"
  | .source => "src-address"

/-- The word of a flag line for what it changes. -/
def PolicyFlag.word : PolicyFlag → String
  | .disable => "disable"
  | .application => "application"

/-- The fields of a service clause. -/
def ServiceClause.fields : ServiceClause → List (Option String)
  | .ports protocol none => [some protocol, none, none, none, none]
  | .ports protocol (some r) =>
    [some protocol, some r.sourceFirst, some r.sourceLast, some r.destinationFirst,
      some r.destinationLast]
  | .icmp type code => [some type, some code]

/-- The fields of the line that creates a policy. -/
def PolicyHeader.fields (h : PolicyHeader) : List (Option String) :=
  [ some h.id, h.name, some h.fromZone, some h.toZone, some h.source, some h.destination,
    some h.service, (if h.nat = .none then none else some h.nat.words), h.natAddress, h.natPort,
    some h.action.word, (if h.log then some "log" else none) ]

/-- The fields of a line at the top level. -/
def Directive.fields : Directive → List (Option String)
  | .serviceContinue name clause => some name :: clause.fields
  | .service name clause => some name :: clause.fields
  | .serviceTimeout name setting => [some name, some setting]
  | .address zone name host mask description => [some zone, some name, some host, mask, description]
  | .addressGroupAdd zone group member => [some zone, some group, some member]
  | .addressGroupCreate zone group comment => [some zone, some group, comment]
  | .serviceGroupAdd group member => [some group, some member]
  | .serviceGroupCreate group comment => [some group, comment]
  | .policyCreate header => header.fields
  | .policyBlock id => [some id]
  | .policyFlag id flag value => [some id, some flag.word, value]

/-- The fields of a line within a policy block. -/
def BlockLine.fields : BlockLine → List (Option String)
  | .member kind name => [some kind.word, some name]
  | .log option => [some option]

end ZoneFirewall
