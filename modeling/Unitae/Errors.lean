import Mathlib.Logic.Basic

/-!
# Unitae — how a service function refuses

`app/shared/errors/app-error.server.ts`: the errors services throw and route actions catch, and,
beside them, what Postgres refuses on its own. A route that catches an `AppError` inside the
transaction callback lets the transaction commit; anything else aborts it.
-/

namespace Unitae

/-- The expected failures. `grantBeyondActor` is the subclass of `forbidden` that
`role-grant-limits.server.ts` defines. -/
inductive AppError where
  | notFound (entity : String) (id : Option Nat)
  | validation (field message : String)
  | conflict (message : String)
  | forbidden (message : String)
  | limitReached (limitName : String)
  | grantBeyondActor (message : String)
deriving DecidableEq, Repr

/-- What the database refuses: a broken constraint, an update of a row that is not there, or a date
that is none. -/
inductive DatabaseError where
  | foreignKey
  | uniqueConstraint
  | recordNotFound
  | invalidDate
deriving DecidableEq, Repr

/-- `unexpected` is any other `Error`. -/
inductive Failure where
  | app (e : AppError)
  | database (e : DatabaseError)
  | unexpected (message : String)
deriving DecidableEq, Repr

/-- `error instanceof AppError`. -/
def Failure.isAppError : Failure → Bool
  | .app _ => true
  | .database _ => false
  | .unexpected _ => false

/-- The failures a route catches, inside the transaction it then commits. -/
def Failure.Caught (e : Failure) : Prop := e.isAppError = true

end Unitae
