import University.Database.Settings

/-! # Connections

A pool hands out connections to the database, and a connection executes statements. Both may fail.
-/

namespace University.Database

/-- Why there is no connection. -/
inductive PoolError where
  /-- The pool hands out none. -/
  | checkout (reason : String)
  /-- There is no pool. -/
  | build (reason : String)
  deriving DecidableEq, Repr

namespace PoolError

/-- What lies behind the error. -/
def reason : PoolError → String
  | checkout reason => reason
  | build reason => reason

def message : PoolError → String
  | checkout reason => s!"failed to get connection from pool: {reason}"
  | build reason => s!"failed to build connection pool: {reason}"

end PoolError

/-- How a pool is set up. -/
structure PoolConfig where
  url : String
  maxSize : Nat := 2
  /-- How long to wait for a connection. -/
  timeoutSeconds : Nat := 30
  deriving DecidableEq, Repr

def PoolConfig.ofSettings (s : Settings) : PoolConfig := { url := s.url }

end University.Database
