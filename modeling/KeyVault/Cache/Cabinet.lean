import KeyVault.Cache
/-!
A cache together with the sessions that it refers to, and the steps that change the two. A
session is filed under its own identifier.
-/

namespace KeyVault

/-- A cache, the shared sessions, and the account for which further sessions are shared. -/
structure Cabinet where
  owner : AccountId
  shared : SharedSessions
  cache : Cache
  deriving DecidableEq, Repr

namespace Cabinet

def empty (owner : AccountId) : Cabinet :=
  ⟨owner, .empty, .empty⟩

/-- A step on a cabinet. -/
inductive Step where
  | share (session : Session)
  | setRatchet (ref : SessionRef) (ratchet : List UInt8)
  | markEncrypted (ref : SessionRef) (time : Instant)
  | markDecrypted (ref : SessionRef) (time : Instant)
  | hasAny (key : IdentityKey)
  | contains (key : IdentityKey) (id : SessionId)
  | get (key : IdentityKey) (id : SessionId)
  | insert (key : IdentityKey) (ref : SessionRef)
  | getOrInsert (key : IdentityKey) (ref : SessionRef)
  | clear
  deriving DecidableEq, Repr

inductive Answer where
  | nothing
  | flag (value : Bool)
  | entry (ref : Option SessionRef)
  deriving DecidableEq, Repr

/-- Does a step. A reference to no session is not filed. -/
def step (cabinet : Cabinet) : Step → Answer × Cabinet
  | .share session =>
    let (ref, shared) := cabinet.shared.add cabinet.owner session
    (.entry (some ref), { cabinet with shared })
  | .setRatchet ref ratchet =>
    (.nothing, { cabinet with shared := cabinet.shared.modify ref (·.setRatchet ratchet) })
  | .markEncrypted ref time =>
    (.nothing, { cabinet with shared := cabinet.shared.modify ref (·.markEncrypted time) })
  | .markDecrypted ref time =>
    (.nothing, { cabinet with shared := cabinet.shared.modify ref (·.markDecrypted time) })
  | .hasAny key => (.flag (cabinet.cache.hasAny key), cabinet)
  | .contains key id => (.flag (cabinet.cache.contains key id), cabinet)
  | .get key id => (.entry (cabinet.cache.get? key id), cabinet)
  | .insert key ref =>
    match cabinet.shared.get? ref with
    | none => (.entry none, cabinet)
    | some session =>
      (.entry (cabinet.cache.get? key session.id),
        { cabinet with cache := cabinet.cache.insert key session.id ref })
  | .getOrInsert key ref =>
    match cabinet.shared.get? ref with
    | none => (.entry none, cabinet)
    | some session =>
      let (kept, cache) := cabinet.cache.getOrInsert key session.id ref
      (.entry (some kept), { cabinet with cache })
  | .clear => (.nothing, { cabinet with cache := .empty })

def run (cabinet : Cabinet) (steps : List Step) : Cabinet :=
  steps.foldl (fun state step => (state.step step).2) cabinet

end Cabinet

end KeyVault
