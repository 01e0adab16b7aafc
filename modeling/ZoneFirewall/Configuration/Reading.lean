import ZoneFirewall.Configuration.Basic
import ZoneFirewall.Directive.Grammar
import ZoneFirewall.Network.Resolver
import ZoneFirewall.Numeral
import ZoneFirewall.Text.Blank
import ZoneFirewall.Text.Lines

/-!
# Reading a configuration

Lines are read one by one, without the blanks at their ends. At the top level a line is a directive
or of no interest; after the opening of a policy block, and up to the line `exit`, it belongs to
the block. A line is read and then changes the state, and may stop the reading with an error at any
time; what it has changed by then is not undone.

* `Reading`: the configuration so far, and what else later lines depend on.
* `Attempt`: changes to a state that may fail; `Attempt.runOn`: the result, and the state that is
  left in either case.
* `Reading.step`: what one line does. `Reading.lines`: what many lines do.
* `ReadFault`, `ReadError`: why the reading stops; `ReadError.message`: the wording.
* `Configuration.ofLines`, `Configuration.ofText`: a whole configuration.
* `Reading.events`: what the reading reports on its way.
-/

namespace ZoneFirewall

open Text

/-! ## Errors -/

/-- Why a line stops the reading. -/
inductive ReadFault where
  /-- The line is not written as it should be. -/
  | directive (fault : DirectiveFault)
  /-- A service is continued before any has been defined. -/
  | nothingToContinue (name : String)
  /-- An address and its mask are none. -/
  | invalidAddress (host mask : String) (error : InterfaceError)
  /-- The number of a new policy is taken. -/
  | policyDefinedTwice (id : Int)
  /-- A new policy lacks what every policy needs. -/
  | invalidPolicy (policy : Policy)
  /-- No policy has the number. -/
  | policyNotFound (id : Int)
  /-- The log option of a block is none that is known. -/
  | unsupportedLogOption (option : String)
  /-- The lines end within the block of a policy. -/
  | blockNotClosed (id : Int)
  /-- A number has too many digits. -/
  | numeral (error : NumeralError)
  deriving DecidableEq, Repr

/-- The line that closes a policy block. -/
def blockEnd : String := "exit"

/-- The wording of the fault, without the line. -/
def ReadFault.message : ReadFault → String
  | .directive fault => fault.message
  | .nothingToContinue name =>
    "Service continuation for '" ++ name ++ "' without a preceding definition"
  | .invalidAddress host mask error =>
    "Invalid address '" ++ host ++ " " ++ mask ++ "': " ++ error.message
  | .policyDefinedTwice id => "Policy " ++ toString id ++ " defined twice"
  | .invalidPolicy policy => "Invalid policy: " ++ policy.describe
  | .policyNotFound id => "Policy " ++ toString id ++ " not found"
  | .unsupportedLogOption option => "Unsupported log option '" ++ option ++ "'"
  | .blockNotClosed id => "Policy " ++ toString id ++ " block not closed by '" ++ blockEnd ++ "'"
  | .numeral error => error.message

/-- Why the reading stopped, and at which line. -/
structure ReadError where
  /-- The number of the line. -/
  line : Nat
  /-- Why it stops the reading. -/
  fault : ReadFault
  deriving DecidableEq, Repr

/-- The wording of the error. A number with too many digits is reported without its line. -/
def ReadError.message (e : ReadError) : String :=
  match e.fault with
  | .numeral error => error.message
  | fault => numbered e.line fault.message

/-! ## State -/

/-- The state between two lines at the top level. -/
structure Reading where
  /-- The configuration so far. -/
  configuration : Configuration
  /-- The service that was defined last, which a continuation extends. -/
  lastService : Option String := none
  /-- The services that have had a definition line. -/
  definedServices : List String := []

/-- Where a line stands. -/
inductive Place where
  /-- Outside all blocks. -/
  | topLevel
  /-- In the block of a policy that was opened at a line. -/
  | block (id : Int) (openedAt : Nat)
  deriving DecidableEq, Repr

/-! ## Attempts -/

/-- An attempt changes a state step by step and may fail on its way. What it has changed by then
stays changed: a fault undoes nothing. -/
abbrev Attempt (σ : Type) : Type → Type := ExceptT ReadFault (StateM σ)

/-- What an attempt comes to that begins in a state, and the state that it leaves, failed or not. -/
def Attempt.runOn {σ α : Type} (x : Attempt σ α) (s : σ) : Except ReadFault α × σ :=
  (ExceptT.run x).run s

/-- Reads a number of a directive. -/
def readNumber (text : String) : Except ReadFault Int := (readInteger text).mapError .numeral

namespace Reading

/-! ## Services -/

/-- The definition that a service line carries. -/
def definitionOf : ServiceClause → Except ReadFault Definition
  | .ports protocol none => .ok { protocol }
  | .ports protocol (some r) => do
    let sourceFirst ← readNumber r.sourceFirst
    let sourceLast ← readNumber r.sourceLast
    let destinationFirst ← readNumber r.destinationFirst
    let destinationLast ← readNumber r.destinationLast
    return { protocol, source := ⟨sourceFirst, sourceLast⟩,
             destination := ⟨destinationFirst, destinationLast⟩ }
  | .icmp type code => do
    let type ← readNumber type
    let code ← readNumber code
    return { protocol := "icmp", icmpType := some type, icmpCode := some code }

/-- The state with a change to its services. -/
def onServices (s : Reading) (change : Catalog → Catalog) : Reading :=
  { s with configuration := { s.configuration with services := change s.configuration.services } }

/-- The state with a service among those that have had a definition line. -/
def noteDefined (s : Reading) (name : String) : Reading :=
  { s with definedServices := name :: s.definedServices }

/-- The state with a service as the one that was defined last. -/
def noteLast (s : Reading) (name : String) : Reading := { s with lastService := some name }

/-- A definition line. The first for a name replaces what the catalog had before, the others add to
it. -/
def service (name : String) (clause : ServiceClause) : Attempt Reading Unit := do
  let definition ← definitionOf clause
  if name ∈ (← get).definedServices then
    modify (·.onServices (·.append name definition))
  else
    modify (·.noteDefined name)
    modify (·.onServices (·.define name [definition]))
  modify (·.noteLast name)

/-- A continuation line, which adds to the service that was defined last. -/
def serviceContinue (name : String) (clause : ServiceClause) : Attempt Reading Unit := do
  match (← get).lastService with
  | none => throw (.nothingToContinue name)
  | some last =>
    let definition ← definitionOf clause
    modify (·.onServices (·.append last definition))

/-! ## Addresses -/

/-- The state with a change to its address book. -/
def onObjects (s : Reading) (change : AddressBook → AddressBook) : Reading :=
  { s with configuration := { s.configuration with objects := change s.configuration.objects } }

/-- The state with one more problem. -/
def report (s : Reading) (d : Diagnostic) : Reading :=
  { s with configuration := s.configuration.report d }

/-- The address of a host, or why there is none. -/
def lookup (resolver : Option Resolver) (zone name host : String) : Except Problem Interface :=
  match resolver with
  | none => .error (.lookupDisabled zone name host)
  | some resolve =>
    match resolve host with
    | .error reason => .error (.lookupFailed zone name host reason)
    | .ok address =>
      match Interface.parseHost address with
      | .error e => .error (.lookupFailed zone name host e.message)
      | .ok i => .ok i

/-- An address line. With a mask it has to be an address; without one it names a host, and a host
that is not found leaves the book as it is. -/
def address (resolver : Option Resolver) (line : Nat) (zone name host : String)
    (mask : Option String) (description : String) : Attempt Reading Unit :=
  match mask with
  | some mask =>
    match Interface.parseMasked host mask with
    | .error e => throw (.invalidAddress host mask e)
    | .ok i => modify (·.onObjects (·.add zone name i description))
  | none =>
    match lookup resolver zone name host with
    | .error problem => modify (·.report ⟨problem, line⟩)
    | .ok i => modify (·.onObjects (·.add zone name i description))

/-! ## Policies -/

/-- The policy that a line creates, its numbers given. -/
def policyOf (h : PolicyHeader) (id : Int) (natPort : Option Int) : Policy where
  id := id
  fromZone := h.fromZone
  toZone := h.toZone
  name := h.name.getD ""
  sources := [h.source]
  destinations := [h.destination]
  services := [h.service]
  nat := h.nat
  natAddress := h.natAddress.getD ""
  natPort := natPort
  action := h.action
  log := h.log

/-- The state with one more policy. -/
def addPolicy (s : Reading) (p : Policy) : Reading :=
  { s with configuration := s.configuration.addPolicy p }

/-- The creation of a policy. -/
def policyCreate (h : PolicyHeader) : Attempt Reading Unit := do
  let id ← readNumber h.id
  if ((← get).configuration.policy? id).isSome then throw (.policyDefinedTwice id)
  else
    let natPort ← (h.natPort.mapM readNumber : Except ReadFault (Option Int))
    if (policyOf h id natPort).isValid then modify (·.addPolicy (policyOf h id natPort))
    else throw (.invalidPolicy (policyOf h id natPort))

/-- The number of a policy that has to be there already. -/
def knownPolicy (text : String) : Attempt Reading Int := do
  let id ← readNumber text
  if ((← get).configuration.policy? id).isSome then return id else throw (.policyNotFound id)

/-- The state with a change to one of its policies. -/
def onPolicy (s : Reading) (id : Int) (change : Policy → Policy) : Reading :=
  { s with configuration := s.configuration.withPolicy id change }

/-- What a flag line does to its policy. -/
def flagChange (flag : PolicyFlag) (value : Option String) (p : Policy) : Policy :=
  match flag with
  | .disable => { p with disabled := true }
  | .application => { p with application := value.getD "" }

/-- A flag line. -/
def policyFlag (text : String) (flag : PolicyFlag) (value : Option String) :
    Attempt Reading Unit := do
  let id ← knownPolicy text
  modify (·.onPolicy id (flagChange flag value))

/-- What a member line of a block does to the block's policy. -/
def memberChange (kind : MemberKind) (name : String) (p : Policy) : Policy :=
  match kind with
  | .service => { p with services := p.services ++ [name] }
  | .source => { p with sources := p.sources ++ [name] }
  | .destination => { p with destinations := p.destinations ++ [name] }

/-- The one log option that a block may hold. -/
def sessionLogOption : String := "session-init"

/-- What a line of a block does. -/
def blockLine (id : Int) : BlockLine → Attempt Reading Unit
  | .member kind name => modify (·.onPolicy id (memberChange kind name))
  | .log option =>
    if option = sessionLogOption then modify (·.onPolicy id fun p => { p with logInit := true })
    else throw (.unsupportedLogOption option)

/-! ## Lines -/

/-- What a directive does; it comes to where the next line stands. -/
def directive (resolver : Option Resolver) (line : Nat) : Directive → Attempt Reading Place
  | .service name clause => do
    service name clause
    return .topLevel
  | .serviceContinue name clause => do
    serviceContinue name clause
    return .topLevel
  | .serviceTimeout _ _ => return .topLevel
  | .address zone name host mask description => do
    address resolver line zone name host mask (description.getD "")
    return .topLevel
  | .addressGroupAdd zone group member => do
    modify (·.onObjects (·.addMember zone group member))
    return .topLevel
  | .addressGroupCreate _ _ _ => return .topLevel
  | .serviceGroupAdd group member => do
    modify (·.onServices (·.addMember group member))
    return .topLevel
  | .serviceGroupCreate group _ => do
    modify (·.onServices (·.createGroup group))
    return .topLevel
  | .policyCreate header => do
    policyCreate header
    return .topLevel
  | .policyBlock id => return .block (← knownPolicy id) line
  | .policyFlag id flag value => do
    policyFlag id flag value
    return .topLevel

/-- What a line does that stands at a place; it comes to where the next one stands. -/
def step (resolver : Option Resolver) (line : Nat) (place : Place) (text : String) :
    Attempt Reading Place :=
  let text := trim text
  match place with
  | .topLevel =>
    if text = "" then return .topLevel
    else
      match Directive.classify text with
      | .error fault => throw (.directive fault)
      | .ok none => return .topLevel
      | .ok (some d) => directive resolver line d
  | .block id openedAt =>
    if text = blockEnd then return .topLevel
    else if text = "" then return .block id openedAt
    else
      match BlockLine.classify text with
      | .error fault => throw (.directive fault)
      | .ok b => do
        blockLine id b
        return .block id openedAt

/-- What lines do of which the first has a number and stands at a place: the state at their end, or
the one that the line leaves which stops the reading. -/
def linesFrom (resolver : Option Resolver) (s : Reading) (place : Place) (number : Nat) :
    List String → Reading × Option ReadError
  | [] =>
    match place with
    | .topLevel => (s, none)
    | .block id openedAt => (s, some ⟨openedAt, .blockNotClosed id⟩)
  | text :: rest =>
    match (step resolver number place text).runOn s with
    | (.error fault, left) => (left, some ⟨number, fault⟩)
    | (.ok next, left) => linesFrom resolver left next (number + 1) rest

/-- What lines do, numbered from 1 and beginning at the top level. -/
def lines (s : Reading) (resolver : Option Resolver) (texts : List String) :
    Reading × Option ReadError :=
  linesFrom resolver s .topLevel 1 texts

/-! ## Reports -/

/-- What reading reports. -/
inductive Event where
  /-- A service of the catalog is replaced. -/
  | serviceRedefined (name : String)
  /-- A problem is met. -/
  | diagnostic (diagnostic : Diagnostic)
  deriving DecidableEq, Repr

/-- What a line reports that takes one state to another. -/
def stepEvents (before after : Reading) : List Event :=
  (match after.definedServices with
    | name :: _ =>
      if after.definedServices.length > before.definedServices.length
          && before.configuration.services.services.contains name then [.serviceRedefined name]
      else []
    | [] => [])
  ++ (after.configuration.diagnostics.drop before.configuration.diagnostics.length).map .diagnostic

/-- What lines report, in order, up to the line that stops the reading. -/
def eventsFrom (resolver : Option Resolver) (s : Reading) (place : Place) (number : Nat) :
    List String → List Event
  | [] => []
  | text :: rest =>
    match (step resolver number place text).runOn s with
    | (.error _, left) => stepEvents s left
    | (.ok next, left) => stepEvents s left ++ eventsFrom resolver left next (number + 1) rest

/-- What lines report, numbered from 1 and beginning at the top level. -/
def events (s : Reading) (resolver : Option Resolver) (texts : List String) : List Event :=
  eventsFrom resolver s .topLevel 1 texts

end Reading

/-! ## Whole configurations -/

/-- The configuration of some lines, over a catalog to begin with. -/
def Configuration.ofLines (services : Catalog) (resolver : Option Resolver) (texts : List String) :
    Except ReadError Configuration :=
  match Reading.lines { configuration := { services } } resolver texts with
  | (s, none) => .ok s.configuration
  | (_, some e) => .error e

/-- The configuration of a text, over a catalog to begin with. -/
def Configuration.ofText (services : Catalog) (resolver : Option Resolver) (text : String) :
    Except ReadError Configuration :=
  Configuration.ofLines services resolver (splitLines text)

end ZoneFirewall
