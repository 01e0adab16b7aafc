import ZoneFirewall.Numeral
import ZoneFirewall.Service.Definition

/-!
# Short service notation

Settings write a definition in a short form: `tcp/443` and `udp/1812-1813` name destination ports,
`icmp/8` an ICMP type, and a text without a slash a protocol alone, such as `47`. Letter case and
blanks around the whole do not matter.

* `Definition.parseSpec`: the definition that a short form stands for.
* `SpecError`: the causes of failure; `SpecError.message`: their wording.
-/

namespace ZoneFirewall

open Text

/-- What is wrong with a short form. -/
inductive SpecError where
  /-- No protocol is given. -/
  | empty (spec : WideText)
  /-- Ports are given for a protocol that is neither TCP nor UDP. -/
  | portsNotAllowed (protocol spec : WideText)
  /-- A port or an ICMP type is no integer. -/
  | numeral (error : NumeralError)
  deriving DecidableEq, Repr

/-- The wording of the error. -/
def SpecError.message : SpecError → String
  | .empty spec => "Empty service spec '" ++ spec.joined ++ "'"
  | .portsNotAllowed protocol spec =>
    "Ports given for protocol '" ++ protocol.joined ++ "' in '" ++ spec.joined ++ "'"
  | .numeral error => error.message

/-- The integer of a part of a short form. -/
def specNumber (text : WideText) : Except SpecError Int := (readInteger text).mapError .numeral

/-- The definition that a short form stands for. -/
def Definition.parseSpec (spec : WideText) : Except SpecError Definition :=
  let (protocol, ports) := spec.trim.lowerCase.cutAt '/'
  if protocol = "" then .error (.empty spec)
  else if protocol = "icmp" then
    if ports = "" then .ok { protocol := "icmp" }
    else do
      let type ← specNumber ports
      return { protocol := "icmp", icmpType := some type }
  else if ports = "" then .ok { protocol := protocol }
  else if protocol ≠ "tcp" ∧ protocol ≠ "udp" then .error (.portsNotAllowed protocol spec)
  else do
    let (low, high) := ports.cutAt '-'
    let first ← specNumber low
    let last ← specNumber (if high = "" then low else high)
    return { protocol := protocol, destination := ⟨first, last⟩ }

end ZoneFirewall
