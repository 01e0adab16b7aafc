/-!
# Diagnostics

A diagnostic reports a problem that does not stop the work: something is left out, and the rest
goes on.

* `Problem`, `Problem.message`: the problems and their wording.
* `Diagnostic`, `Diagnostic.text`: a problem with the line it belongs to.
* `numbered`: a message with its line number in front, which errors use too.
-/

namespace ZoneFirewall

/-- A message with the number of its line in front; 0 stands for no line. -/
def numbered (line : Int) (message : String) : String :=
  if line = 0 then message else "Line " ++ toString line ++ ": " ++ message

/-- What is wrong. -/
inductive Problem where
  /-- The host of an address is not looked up because no host is. -/
  | lookupDisabled (zone name host : String)
  /-- The host of an address could not be turned into an address. -/
  | lookupFailed (zone name host reason : String)
  /-- A reference in a zone comes to no address at all. -/
  | notFound (zone reference : String)
  /-- Two references have one name for their lists of addresses. -/
  | sharedList (zone reference list ownerZone ownerReference : String)
  deriving DecidableEq, Repr

/-- The wording of the problem. -/
def Problem.message : Problem → String
  | .lookupDisabled zone name host =>
    zone ++ " " ++ name ++ ": host name '" ++ host ++ "' not resolved (resolution disabled)"
  | .lookupFailed zone name host reason =>
    zone ++ " " ++ name ++ ": cannot resolve '" ++ host ++ "': " ++ reason
  | .notFound zone reference => zone ++ " " ++ reference ++ " not found"
  | .sharedList zone reference list ownerZone ownerReference =>
    zone ++ " " ++ reference ++ " shares list " ++ list ++ " with " ++ ownerZone ++ " "
      ++ ownerReference

/-- A problem and the line that it belongs to. -/
structure Diagnostic where
  /-- What is wrong. -/
  problem : Problem
  /-- The number of the line, 0 if there is none. -/
  line : Nat
  deriving DecidableEq, Repr

/-- The diagnostic as it is reported. -/
def Diagnostic.text (d : Diagnostic) : String := numbered d.line d.problem.message

end ZoneFirewall
