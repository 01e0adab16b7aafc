import ZoneFirewall.Directive.Basic
import ZoneFirewall.Text.Scan

/-!
# The grammar of directives

Directives come in families, told apart by the words they start with. A family has several forms; a
line that starts with the words of a family, followed by a blank or nothing, has to have one of its
forms. Lines of no family are none of a reader's business.

* `families`: the families with their forms.
* `Directive.classify`: the directive of a line at the top level.
* `BlockLine.classify`: the line within a policy block.
* `DirectiveFault`: why a line is refused.

One part of one form needs a choice: the address to put in, on the line that creates a policy, is
any run of characters without a space, and the action may follow it at once. It is the longest part
of the run after which the rest of the form can be read.
-/

namespace ZoneFirewall

open Text Text.Scan

/-- Why a line is refused. -/
inductive DirectiveFault where
  /-- A line of a family has none of the family's forms. -/
  | malformed (family line : String)
  /-- A line is none that may stand within a policy block. -/
  | unexpectedInBlock (line : String)
  deriving DecidableEq, Repr

/-- The wording of the fault. -/
def DirectiveFault.message : DirectiveFault → String
  | .malformed family line => "Malformed '" ++ family ++ "' directive: " ++ line
  | .unexpectedInBlock line => "Unexpected line in policy block: " ++ line

/-! ## Services -/

/-- A protocol that may have ports: TCP, UDP or a number. -/
def scanProtocol : Scan String := word "tcp" "tcp" <|> word "udp" "udp" <|> digits

/-- A range of ports. -/
def scanRange : Scan (String × String) := do
  let first ← digits
  expect "-"
  let last ← digits
  return (first, last)

/-- Source and destination ports. -/
def scanPorts : Scan PortClause := do
  expect " src-port "
  let source ← scanRange
  expect " dst-port "
  let destination ← scanRange
  return ⟨source.1, source.2, destination.1, destination.2⟩

/-- A timeout, which is passed over. -/
def scanTimeout : Scan (Option String) := maybe do
  expect " timeout "
  digits

/-- The start of a line about a service: its name, and the words before its definition. -/
def scanServiceName (link : String) : Scan String := do
  expect "set service "
  let name ← quoted
  expect link
  return name

/-- A definition by protocol and ports. -/
def scanPortClause : Scan ServiceClause := do
  let protocol ← scanProtocol
  let ranges ← maybe scanPorts
  let _ ← scanTimeout
  ending
  return .ports protocol ranges

/-- A definition by ICMP type and code. -/
def scanIcmpClause : Scan ServiceClause := do
  expect "icmp type "
  let type ← digits
  expect " code "
  let code ← digits
  let _ ← scanTimeout
  ending
  return .icmp type code

/-- A further definition by protocol and ports. -/
def scanServiceContinue : Scan Directive := do
  let name ← scanServiceName " + "
  return .serviceContinue name (← scanPortClause)

/-- A further definition by ICMP type and code. -/
def scanServiceIcmpContinue : Scan Directive := do
  let name ← scanServiceName " + "
  return .serviceContinue name (← scanIcmpClause)

/-- A definition by protocol and ports. -/
def scanService : Scan Directive := do
  let name ← scanServiceName " protocol "
  return .service name (← scanPortClause)

/-- A definition by ICMP type and code. -/
def scanServiceIcmp : Scan Directive := do
  let name ← scanServiceName " protocol "
  return .service name (← scanIcmpClause)

/-- A timeout or the session cache of a service. -/
def scanServiceTimeout : Scan Directive := do
  let name ← scanServiceName " "
  let setting ←
    (do expect "timeout "; return "timeout " ++ (← digits)) <|> word "session-cache" "session-cache"
  ending
  return .serviceTimeout name setting

/-! ## Addresses and groups -/

/-- Four numbers with dots between them. -/
def scanDottedQuad : Scan String := do
  let a ← digits
  expect "."
  let b ← digits
  expect "."
  let c ← digits
  expect "."
  let d ← digits
  return a ++ "." ++ b ++ "." ++ c ++ "." ++ d

/-- An address or a host, with a mask and a description. -/
def scanAddress : Scan Directive := do
  expect "set address "
  let zone ← quoted
  expect " "
  let name ← quoted
  expect " "
  let host ← spanSome fun c => c ≠ ' ' && c ≠ '"'
  let mask ← maybe do
    expect " "
    scanDottedQuad
  let description ← maybe do
    expect " \""
    let text ← span (· ≠ '"')
    expect "\""
    return text
  ending
  return .address zone name host mask description

/-- A comment up to the end of the line. -/
def scanComment : Scan String := do
  expect " comment "
  return " comment " ++ (← span (· ≠ '\n'))

/-- A member of an address group. -/
def scanAddressGroupAdd : Scan Directive := do
  expect "set group address "
  let zone ← quoted
  expect " "
  let group ← quoted
  expect " add "
  let member ← quoted
  ending
  return .addressGroupAdd zone group member

/-- The creation of an address group. -/
def scanAddressGroupCreate : Scan Directive := do
  expect "set group address "
  let zone ← quoted
  expect " "
  let group ← quoted
  let comment ← maybe scanComment
  ending
  return .addressGroupCreate zone group comment

/-- A member of a service group. -/
def scanServiceGroupAdd : Scan Directive := do
  expect "set group service "
  let group ← quoted
  expect " add "
  let member ← quoted
  ending
  return .serviceGroupAdd group member

/-- The creation of a service group. -/
def scanServiceGroupCreate : Scan Directive := do
  expect "set group service "
  let group ← quoted
  let comment ← maybe scanComment
  ending
  return .serviceGroupCreate group comment

/-! ## Policies -/

/-- The number of the policy that a line is about. -/
def scanPolicyId : Scan String := do
  expect "set policy id "
  digits

/-- The end of the line that creates a policy, after the address to put in: the port to put in, the
action, and whether it logs. What follows is dropped. -/
def scanPolicyEnd : Scan (Option String × Action × Bool) := do
  let port ← maybe do
    expect " port "
    digits
  let _ ← maybe (expect " ")
  let action ← word "permit" Action.permit <|> word "deny" .deny <|> word "reject" .reject
  let _ ← maybe (expect " ")
  let log ← maybe (expect "log")
  return (port, action, log.isSome)

/-- The first `n` characters, then `n - 1` of them, and so on down to one, as the text in front of
what `r` reads. -/
def scanLongest {α : Type} (r : Scan α) : Nat → Scan (String × α)
  | 0 => fun _ => none
  | n + 1 => fun cs =>
    match r.run (cs.drop (n + 1)) with
    | some (value, rest) => some ((String.ofList (cs.take (n + 1)), value), rest)
    | none => scanLongest r n cs

/-- The address to put in, if there is one, and the end of the line. -/
def scanNatAddress : Scan (Option String × Option String × Action × Bool) := fun cs =>
  match (expect " ip ").run cs with
  | some (_, rest) =>
    ((scanLongest scanPolicyEnd (rest.takeWhile (· ≠ ' ')).length).run rest).map
      fun ((address, tail), left) => ((some address, tail), left)
  | none => (scanPolicyEnd.run cs).map fun (tail, left) => ((none, tail), left)

/-- The creation of a policy. -/
def scanPolicyCreate : Scan Directive := do
  let id ← scanPolicyId
  expect " "
  let name ← maybe do
    expect "name "
    let name ← quoted
    expect " "
    return name
  expect "from "
  let fromZone ← quoted
  expect " to "
  let toZone ← quoted
  let _ ← spanSome (· = ' ')
  let source ← quoted
  expect " "
  let destination ← quoted
  expect " "
  let service ← quoted
  expect " "
  let nat ← maybe (word "nat src" NatMode.source <|> word "nat dst" NatMode.destination)
  let (natAddress, natPort, action, log) ← scanNatAddress
  return .policyCreate
    { id, name, fromZone, toZone, source, destination, service, nat := nat.getD .none, natAddress,
      natPort, action, log }

/-- The opening of a policy block. -/
def scanPolicyBlock : Scan Directive := do
  let id ← scanPolicyId
  ending
  return .policyBlock id

/-- A flag of a policy. -/
def scanPolicyFlag : Scan Directive := do
  let id ← scanPolicyId
  expect " "
  let flag ← word "disable" PolicyFlag.disable <|> word "application" .application
  let _ ← maybe (expect " ")
  let value ← maybe quoted
  ending
  return .policyFlag id flag value

/-! ## Families -/

/-- Directives that start with the same words. -/
structure Family where
  /-- The words. -/
  head : String
  /-- The forms, of which a line has the first that fits. -/
  forms : List (Scan Directive)

/-- All families. -/
def families : List Family :=
  [ ⟨"set service",
      [scanServiceContinue, scanServiceIcmpContinue, scanService, scanServiceIcmp,
        scanServiceTimeout]⟩,
    ⟨"set address", [scanAddress]⟩,
    ⟨"set group address", [scanAddressGroupAdd, scanAddressGroupCreate]⟩,
    ⟨"set group service", [scanServiceGroupAdd, scanServiceGroupCreate]⟩,
    ⟨"set policy id", [scanPolicyCreate, scanPolicyBlock, scanPolicyFlag]⟩ ]

/-- The directive that a line is in one of the forms. -/
def Family.read? (f : Family) (line : List Char) : Option Directive :=
  f.forms.findSome? fun form => (form.run line).map Prod.fst

/-- The directive of a line, looked for in some families. -/
def classifyIn (line : List Char) : List Family → Except DirectiveFault (Option Directive)
  | [] => .ok none
  | f :: fs =>
    match f.head.toList.isPrefixOf? line with
    | none => classifyIn line fs
    | some rest =>
      match f.read? line with
      | some d => .ok (some d)
      | none =>
        if rest = [] ∨ rest.head? = some ' ' then .error (.malformed f.head (String.ofList line))
        else classifyIn line fs

/-- The directive of a line at the top level, `none` for a line of no family. -/
def Directive.classify (line : String) : Except DirectiveFault (Option Directive) :=
  classifyIn line.toList families

/-! ## Lines of a policy block -/

/-- A further service, destination or source. -/
def scanBlockMember : Scan BlockLine := do
  expect "set "
  let kind ←
    word "service" MemberKind.service <|> word "dst-address" .destination
      <|> word "src-address" .source
  expect " "
  let name ← quoted
  ending
  return .member kind name

/-- A log option. -/
def scanBlockLog : Scan BlockLine := do
  expect "set log "
  let option ← span (· ≠ '\n')
  ending
  return .log option

/-- The line within a policy block. -/
def BlockLine.classify (line : String) : Except DirectiveFault BlockLine :=
  match ((scanBlockMember <|> scanBlockLog).run line.toList).map Prod.fst with
  | some b => .ok b
  | none => .error (.unexpectedInBlock line)

end ZoneFirewall
