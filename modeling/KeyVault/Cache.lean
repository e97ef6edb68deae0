import KeyVault.Rows
import KeyVault.Session.Olm
/-!
Sessions that are shared between the store and its caller. A shared session is an object
that everyone who holds a reference to it sees change; the cache keeps references, by the
key of the other device and the session's identifier.
-/

namespace KeyVault

/-- A reference to a shared session: the account it was shared for, and how many were shared
for it before.
-/
structure SessionRef where
  owner : AccountId
  number : Nat
  deriving DecidableEq, Repr

/-- All shared sessions, for each account in the order in which they were shared. -/
structure SharedSessions where
  byOwner : List (AccountId × List Session)
  deriving DecidableEq, Repr

namespace SharedSessions

def empty : SharedSessions :=
  ⟨[]⟩

def of (shared : SharedSessions) (owner : AccountId) : List Session :=
  (Rows.get? owner shared.byOwner).getD []

def get? (shared : SharedSessions) (ref : SessionRef) : Option Session :=
  (shared.of ref.owner)[ref.number]?

/-- Shares a session for an account, under a new reference. -/
def add (shared : SharedSessions) (owner : AccountId) (session : Session)
    : SessionRef × SharedSessions :=
  let earlier := shared.of owner
  (⟨owner, earlier.length⟩, ⟨Rows.put owner (earlier ++ [session]) shared.byOwner⟩)

/-- Changes the session behind a reference in place. -/
def modify (shared : SharedSessions) (ref : SessionRef) (change : Session → Session)
    : SharedSessions :=
  ⟨Rows.put ref.owner ((shared.of ref.owner).modify ref.number change) shared.byOwner⟩

/-- A reference that was just made is not that of an earlier session. -/
theorem get?_add_fst (shared : SharedSessions) (owner : AccountId) (session : Session)
    : shared.get? (shared.add owner session).1 = none := by
  simp [add, get?]

theorem get?_add (shared : SharedSessions) (owner : AccountId) (session : Session)
    (ref : SessionRef)
    : (shared.add owner session).2.get? ref
      = if ref = (shared.add owner session).1 then some session else shared.get? ref := by
  obtain ⟨other, number⟩ := ref
  by_cases same : other = owner
  · subst same
    simp only [add, get?, of, Rows.get?_put_self, Option.getD_some, SessionRef.mk.injEq, true_and,
      List.getElem?_append]
    split
    · rw [if_neg (by omega)]
    · split
      · simp_all
      · rw [List.getElem?_eq_none (by simp; omega), List.getElem?_eq_none (by omega)]
  · simp [add, get?, of, Rows.get?_put_of_ne same, same]

/-- Sharing a further session leaves the earlier ones. -/
theorem get?_add_of_some {shared : SharedSessions} (owner : AccountId) (session : Session)
    {ref : SessionRef} {old : Session} (there : shared.get? ref = some old)
    : (shared.add owner session).2.get? ref = some old := by
  rw [get?_add, if_neg, there]
  rintro rfl
  rw [get?_add_fst] at there
  cases there

theorem get?_modify (shared : SharedSessions) (ref other : SessionRef)
    (change : Session → Session)
    : (shared.modify ref change).get? other
      = if ref = other then (shared.get? other).map change else shared.get? other := by
  obtain ⟨owner, number⟩ := ref
  obtain ⟨otherOwner, otherNumber⟩ := other
  by_cases same : otherOwner = owner
  · subst same
    by_cases there : number = otherNumber <;>
      simp [modify, get?, of, Rows.get?_put_self, there]
  · simp [modify, get?, of, Rows.get?_put_of_ne same, Ne.symm same]

end SharedSessions

/-- The cached references: for each key of another device those of its sessions. -/
structure Cache where
  bySender : List (IdentityKey × List (SessionId × SessionRef))
  deriving DecidableEq, Repr

namespace Cache

def empty : Cache :=
  ⟨[]⟩

def under (cache : Cache) (key : IdentityKey) : List (SessionId × SessionRef) :=
  (Rows.get? key cache.bySender).getD []

def hasAny (cache : Cache) (key : IdentityKey) : Bool :=
  !(cache.under key).isEmpty

def get? (cache : Cache) (key : IdentityKey) (id : SessionId) : Option SessionRef :=
  Rows.get? id (cache.under key)

def contains (cache : Cache) (key : IdentityKey) (id : SessionId) : Bool :=
  (cache.get? key id).isSome

/-- Files a reference, in place of the one that is there. -/
def insert (cache : Cache) (key : IdentityKey) (id : SessionId) (ref : SessionRef) : Cache :=
  ⟨Rows.put key (Rows.put id ref (cache.under key)) cache.bySender⟩

/-- Files a reference unless one is there; gives the one that is there afterwards. -/
def getOrInsert (cache : Cache) (key : IdentityKey) (id : SessionId) (ref : SessionRef)
    : SessionRef × Cache :=
  match cache.get? key id with
  | some kept => (kept, cache)
  | none => (ref, cache.insert key id ref)

theorem under_insert_self (cache : Cache) (key : IdentityKey) (id : SessionId) (ref : SessionRef)
    : (cache.insert key id ref).under key = Rows.put id ref (cache.under key) := by
  simp [insert, under, Rows.get?_put_self]

theorem under_insert_of_ne {key other : IdentityKey} (different : other ≠ key) (cache : Cache)
    (id : SessionId) (ref : SessionRef)
    : (cache.insert key id ref).under other = cache.under other := by
  simp [insert, under, Rows.get?_put_of_ne different]

theorem get?_insert (cache : Cache) (key other : IdentityKey) (id otherId : SessionId)
    (ref : SessionRef)
    : (cache.insert key id ref).get? other otherId
      = if other = key ∧ otherId = id then some ref else cache.get? other otherId := by
  unfold get?
  by_cases key' : other = key
  · subst key'
    rw [under_insert_self]
    by_cases id' : otherId = id
    · subst id'
      simp [Rows.get?_put_self]
    · simp [Rows.get?_put_of_ne id', id']
  · simp [under_insert_of_ne key', key']

/-- Filing a reference where none is leaves what is cached. -/
theorem get?_insert_of_free {cache : Cache} {key : IdentityKey} {id : SessionId}
    (free : cache.get? key id = none) (ref : SessionRef) {other : IdentityKey}
    {otherId : SessionId} {kept : SessionRef} (there : cache.get? other otherId = some kept)
    : (cache.insert key id ref).get? other otherId = some kept := by
  rw [get?_insert, if_neg, there]
  rintro ⟨rfl, rfl⟩
  rw [free] at there
  cases there

end Cache

end KeyVault
