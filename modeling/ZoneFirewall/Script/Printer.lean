import ZoneFirewall.Script.Basic
import ZoneFirewall.Text.Lines

/-!
# The text of a script

Each section starts with a header line; each entry and each rule is a statement on a line of its
own, `add` followed by fields. A block of rules starts with a comment line and ends with an empty
one.

* `ListEntry.text`, `Rule.text`: one statement.
* `listLines`, `ruleLines`: the lines of a section after its header.
* `Script.text`: the whole text.
-/

namespace ZoneFirewall

/-- The header of the address lists. -/
def listsHeader : String := "/ip firewall address-list"

/-- The header of the filter rules. -/
def filterHeader : String := "/ip firewall filter"

/-- The word for a verdict. -/
def Verdict.word : Verdict → String
  | .accept => "accept"
  | .reject => "reject"
  | .drop => "drop"

/-- The ICMP messages that a rule for ICMP lets through: echo requests of any code. -/
def icmpEchoOptions : String := "8:0-255"

/-- The comment field of a statement. -/
def commentField (comment : String) : String := "comment=\"" ++ comment ++ "\""

/-- The statement that adds an entry to its list. -/
def ListEntry.text (e : ListEntry) : String :=
  " ".intercalate
    ["add", "list=" ++ e.list, "address=" ++ e.address.text, commentField e.comment]

/-- The field for one of the addresses, if anything is asked of it. -/
def AddressMatch.fields (side : String) : AddressMatch → List String
  | .any => []
  | .network address => [side ++ "-address=" ++ address.text]
  | .list name => [side ++ "-address-list=" ++ name]

/-- The field for one of the ports, if anything is asked of it. -/
def portFields (side : String) (ranges : List PortRange) : List String :=
  if ranges = [] then [] else [side ++ "-port=" ++ ",".intercalate (ranges.map (·.text))]

namespace Rule

/-- The fields for protocol, ports and ICMP messages. -/
def protocolFields (r : Rule) : List String :=
  (if r.protocol = "" then [] else ["protocol=" ++ r.protocol.joined])
  ++ portFields "src" r.sourcePorts ++ portFields "dst" r.destinationPorts
  ++ (if r.protocol = "icmp" then ["icmp-options=" ++ icmpEchoOptions] else [])

/-- The fields of a rule in order, the comment aside. -/
def fields (r : Rule) : List String :=
  ["chain=" ++ r.chain] ++ r.source.fields "src" ++ r.destination.fields "dst"
  ++ r.protocolFields ++ ["action=" ++ r.verdict.word] ++ (if r.log then ["log=yes"] else [])

/-- The statement that adds a rule. -/
def text (r : Rule) : String :=
  " ".intercalate ("add" :: r.fields ++ [commentField r.comment])

end Rule

/-- The lines of address lists. -/
def listLines (entries : List ListEntry) : List String := entries.map (·.text)

/-- The lines of a block of rules. -/
def PolicyRules.lines (b : PolicyRules) : List String :=
  ("# " ++ b.header) :: b.rules.map (·.text) ++ [""]

/-- The lines of filter rules. -/
def ruleLines (blocks : List PolicyRules) : List String := blocks.flatMap (·.lines)

namespace Script

/-- The lines of a script. -/
def lines (s : Script) : List String :=
  listsHeader :: listLines s.lists ++ ["", "", filterHeader] ++ ruleLines s.blocks

/-- The text of a script, each of its lines ended by a line feed. -/
def text (s : Script) : String := Text.joinLines s.lines

end Script

end ZoneFirewall
