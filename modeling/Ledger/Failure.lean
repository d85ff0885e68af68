import Ledger.Fault

/-!
Failures composed from parts: a class of failure, a plain text, a context wrapped around a
cause, a failure that carries its own status, and a storage failure joined with its cause.

A composed failure is classified like any other: its class is the first class, in naming
order, that it reaches through its causes; its status is that of the first status rule
that matches a class it reaches, else the status it carries, else 500; and it may be
retried exactly when it reaches the storage class.
-/

namespace Ledger

/-- A failure built from parts. `absent` is the missing cause. -/
inductive Failure where
  | absent
  | sentinel (s : Sentinel)
  | plain (text : String)
  /-- A context in front of a cause. -/
  | wrap (context : String) (cause : Failure)
  /-- A failure with its own status and message, over an optional cause. -/
  | withStatus (code : Int) (message : String) (cause : Failure)
  /-- Two failures reported together, the second one left out when absent. -/
  | join (first second : Failure)
  deriving Repr, Inhabited

namespace Failure

/-- A storage failure: status 503, the message, and the storage class joined with the
cause. -/
def storage (message : String) (cause : Failure) : Failure :=
  .withStatus 503 message (.join (.sentinel .storageUnavailable) cause)

/-- The wording: a context and its cause are joined by a colon, joined failures by a line
break. A missing cause under a context reads as a missing operand. -/
def text : Failure → String
  | .absent => "%!w(<nil>)"
  | .sentinel s => s.text
  | .plain t => t
  | .wrap c cause => c ++ ": " ++ cause.text
  | .withStatus _ m .absent => m
  | .withStatus _ m cause => m ++ ": " ++ cause.text
  | .join a .absent => a.text
  | .join a b => a.text ++ "\n" ++ b.text

/-- Whether the failure reaches a class through its causes. -/
def reaches (t : Sentinel) : Failure → Bool
  | .absent => false
  | .sentinel s => s.within.contains t
  | .plain _ => false
  | .wrap _ cause => reaches t cause
  | .withStatus _ _ cause => reaches t cause
  | .join a b => reaches t a || reaches t b

/-- The status carried by the first failure with its own status, searching causes in
order. -/
def carried? : Failure → Option Int
  | .withStatus code _ _ => some code
  | .wrap _ cause => carried? cause
  | .join a b => (carried? a).or (carried? b)
  | _ => none

/-- The name of the first class the failure reaches, or `Error`. -/
def kind (f : Failure) : String :=
  match Sentinel.all.find? (fun s => f.reaches s) with
  | some s => s.name
  | none => "Error"

/-- The response status of the failure. -/
def status (f : Failure) : Int :=
  let r := fun s => f.reaches s
  if r .storageUnavailable then 503
  else if r .crossTenantAccess then 403
  else if r .unknownLineAccount then 422
  else if r .notFound then 404
  else if r .duplicate || r .invalidStateTransition || r .notPosted || r .alreadyReversed ||
      r .cyclicHierarchy then 409
  else if r .validation || r .unbalancedEntry || r .emptyEntry || r .parentNotFound ||
      r .accountInactive then 422
  else (carried? f).getD 500

/-- Whether the failure may be retried. -/
def retryable (f : Failure) : Bool := f.reaches .storageUnavailable

end Failure

/-- The class with a name. -/
def Sentinel.ofName? (name : String) : Option Sentinel :=
  Sentinel.all.find? (·.name == name)

end Ledger
