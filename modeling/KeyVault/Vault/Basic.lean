import KeyVault.Cache
import KeyVault.Database.Statement
import KeyVault.Session.Account
import KeyVault.Vault.Notice
/-!
A vault is the access of one account to the store: it knows the account and the key of its
pickles, and keeps a cache of sessions and a memory of the account's row. A call reads and
writes the tables, the shared sessions, the cache and the memory; its outcome says what it
returned, what it logged and what it left.
-/

namespace KeyVault

/-- What stays the same during a call: the account, the key of its pickles, the family of
the database and which statements of the call are done.
-/
structure Vault where
  owner : AccountId
  key : PickleKey
  scheme : Scheme
  /-- Whether the first statement is done. -/
  online : Bool
  /-- How many more statements are done, where not all are. -/
  further : Option Nat
  /-- Why a statement fails that is not done. -/
  fault : DatabaseFault
  deriving DecidableEq

/-- The loss of the database during a call: how many statements are done before it, and why the
next one fails. A transaction counts as one statement, which is done as a whole or not at all.
-/
structure Interruption where
  done : Nat
  fault : DatabaseFault
  deriving DecidableEq, Repr

/-- What a vault remembers of its account's row. -/
structure Memory where
  device : Option DeviceId
  syncToken : Option SyncToken
  account : Option Account
  deriving DecidableEq, Repr

def Memory.empty : Memory :=
  ⟨none, none, none⟩

/-- What a call reads and writes. -/
structure State where
  database : Database
  shared : SharedSessions
  cache : Cache
  memory : Memory
  deriving DecidableEq, Repr

/-- What a call returned, logged and left. -/
structure Outcome (α : Type) where
  result : Except StoreFault α
  notices : List Notice
  state : State

namespace Outcome

variable {α : Type}

def done (value : α) (state : State) : Outcome α :=
  ⟨.ok value, [], state⟩

def failed (fault : StoreFault) (state : State) : Outcome α :=
  ⟨.error fault, [], state⟩

/-- Puts notices in front of what a call logged. -/
def noting (outcome : Outcome α) (notices : List Notice) : Outcome α :=
  { outcome with notices := notices ++ outcome.notices }

end Outcome

namespace Vault

/-- Whether a statement of a call is done, by its number; the first one has number zero. -/
def reaches (vault : Vault) : Nat → Bool
  | 0 => vault.online
  | number + 1 => vault.online && vault.further.all (number < ·)

/-- The outcome of a call one of whose statements is not done. -/
def offline {α : Type} (vault : Vault) (state : State) : Outcome α :=
  .failed (.database vault.fault) state

/-- A vault during a call that may be interrupted. What cannot be reached at all cannot be
interrupted.
-/
def during (vault : Vault) (interruption : Option Interruption) : Vault :=
  { vault with
    online := interruption.elim vault.online fun lost => vault.online && 0 < lost.done
    further := interruption.elim vault.further fun lost => some (lost.done - 1)
    fault := interruption.elim vault.fault fun lost =>
      if vault.online then lost.fault else vault.fault }

/-- Asks for pieces of a list by one statement each, the first of which has a number, up to the
first statement that is not done. What the statements before it changed stays changed.
-/
def inPieces {α β : Type} (vault : Vault) (ask : β → List α → Database → β × Database)
    : Nat → List (List α) → β → State → Outcome β
  | _, [], value, state => .done value state
  | number, piece :: pieces, value, state =>
    if vault.reaches number then
      let (value, database) := ask value piece state.database
      vault.inPieces ask (number + 1) pieces value { state with database }
    else vault.offline state

end Vault

end KeyVault
