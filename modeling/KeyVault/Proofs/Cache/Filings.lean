import KeyVault.Cache.Cabinet
import KeyVault.Proofs.Olm.Filing
import Mathlib.Data.List.DropRight
import Mathlib.Data.List.Induction
import Mathlib.Data.Set.Finite.Basic
/-!
What the steps on a cabinet have filed. The entry of a key and an identifier is said from the
history alone: since everything was last cleared, it is what was last inserted there, or else
what was first offered.
-/

namespace KeyVault

/-- Offering gives what the entry has, or else what is offered. -/
theorem Cache.getOrInsert_fst (cache : Cache) (key : IdentityKey) (id : SessionId)
    (ref : SessionRef)
    : (cache.getOrInsert key id ref).1 = (cache.get? key id).getD ref := by
  unfold getOrInsert
  cases cache.get? key id <;> rfl

/-- Offering leaves in the entry what it gives, and every other entry as it was. -/
theorem Cache.get?_getOrInsert (cache : Cache) (key other : IdentityKey) (id otherId : SessionId)
    (ref : SessionRef)
    : (cache.getOrInsert key id ref).2.get? other otherId
      = if other = key ∧ otherId = id then some ((cache.get? key id).getD ref)
        else cache.get? other otherId := by
  unfold getOrInsert
  cases there : cache.get? key id with
  | none => exact get?_insert ..
  | some kept =>
    by_cases same : other = key ∧ otherId = id
    · rw [if_pos same, same.1, same.2]
      exact there
    · rw [if_neg same]

namespace Cabinet

/-- What a step does to the entries: it files a reference whatever is there, it offers one to an
entry that may be taken, or it clears everything.
-/
inductive Filing where
  | inserted (key : IdentityKey) (id : SessionId) (ref : SessionRef)
  | offered (key : IdentityKey) (id : SessionId) (ref : SessionRef)
  | cleared
  deriving DecidableEq, Repr

namespace Filing

/-- The reference that a filing inserts in an entry. -/
def insertedAt? (key : IdentityKey) (id : SessionId) : Filing → Option SessionRef
  | inserted other otherId ref => if other = key ∧ otherId = id then some ref else none
  | _ => none

/-- The reference that a filing offers to an entry. -/
def offeredAt? (key : IdentityKey) (id : SessionId) : Filing → Option SessionRef
  | offered other otherId ref => if other = key ∧ otherId = id then some ref else none
  | _ => none

/-- The filings since everything was last cleared. -/
def recent (past : List Filing) : List Filing :=
  past.rtakeWhile (· ≠ cleared)

/-- What is filed in an entry after some filings: of the recent ones the last insertion, or
else the first offer.
-/
def filedAt (past : List Filing) (key : IdentityKey) (id : SessionId) : Option SessionRef :=
  ((recent past).filterMap (insertedAt? key id)).getLast?.or
    ((recent past).filterMap (offeredAt? key id)).head?

/-- What a filing leaves in an entry. -/
def leaves (filing : Filing) (key : IdentityKey) (id : SessionId) (old : Option SessionRef)
    : Option SessionRef :=
  match filing with
  | inserted other otherId ref => if other = key ∧ otherId = id then some ref else old
  | offered other otherId ref => if other = key ∧ otherId = id then old.or (some ref) else old
  | cleared => none

/-- A further filing leaves of an entry what it makes of the one before it. -/
theorem filedAt_append (past : List Filing) (filing : Filing) (key : IdentityKey) (id : SessionId)
    : filedAt (past ++ [filing]) key id = filing.leaves key id (filedAt past key id) := by
  unfold filedAt recent
  cases filing with
  | inserted other otherId ref =>
    rw [List.rtakeWhile_concat_pos _ _ _ (by simp)]
    by_cases here : other = key ∧ otherId = id
    · simp [insertedAt?, leaves, here]
    · simp [insertedAt?, offeredAt?, leaves, here]
  | offered other otherId ref =>
    rw [List.rtakeWhile_concat_pos _ _ _ (by simp)]
    by_cases here : other = key ∧ otherId = id
    · simp [insertedAt?, offeredAt?, leaves, here]
    · simp [insertedAt?, offeredAt?, leaves, here]
  | cleared =>
    rw [List.rtakeWhile_concat_neg _ _ _ (by simp)]
    simp [leaves]

/-- What is filed in an entry was inserted in it or offered to it. -/
theorem mem_of_filedAt {past : List Filing} {key : IdentityKey} {id : SessionId}
    {ref : SessionRef} (filed : filedAt past key id = some ref)
    : inserted key id ref ∈ past ∨ offered key id ref ∈ past := by
  have among {filing : Filing} (member : filing ∈ recent past) : filing ∈ past :=
    (List.rtakeWhile_suffix _ past).subset member
  rcases Option.or_eq_some_iff.mp filed with last | ⟨_, first⟩
  · obtain ⟨filing, member, here⟩ := List.mem_filterMap.mp (List.mem_of_getLast? last)
    cases filing <;> simp only [insertedAt?, Option.ite_none_right_eq_some, reduceCtorEq] at here
    obtain ⟨⟨rfl, rfl⟩, same⟩ := here
    cases same
    exact .inl (among member)
  · obtain ⟨filing, member, here⟩ := List.mem_filterMap.mp (List.mem_of_head? first)
    cases filing <;> simp only [offeredAt?, Option.ite_none_right_eq_some, reduceCtorEq] at here
    obtain ⟨⟨rfl, rfl⟩, same⟩ := here
    cases same
    exact .inr (among member)

/-- The entry that a filing is about. -/
def place? : Filing → Option (IdentityKey × SessionId)
  | inserted key id _ | offered key id _ => some (key, id)
  | cleared => none

/-- Something is filed in finitely many entries: those that filings are about. -/
theorem finite_filedAt (past : List Filing)
    : {place : IdentityKey × SessionId |
        (filedAt past place.1 place.2).isSome = true}.Finite := by
  refine (past.filterMap place?).finite_toSet.subset ?_
  intro place something
  obtain ⟨ref, filed⟩ := Option.isSome_iff_exists.mp something
  rw [Set.mem_ofPred_eq, List.mem_filterMap]
  rcases mem_of_filedAt filed with inserted | offered
  · exact ⟨_, inserted, rfl⟩
  · exact ⟨_, offered, rfl⟩

/-- What a filing makes of a cache. -/
def apply (filing : Filing) (cache : Cache) : Cache :=
  match filing with
  | inserted key id ref => cache.insert key id ref
  | offered key id ref => (cache.getOrInsert key id ref).2
  | cleared => .empty

/-- A filing makes of each entry of a cache what it leaves in it. -/
theorem get?_apply (filing : Filing) (cache : Cache) (key : IdentityKey) (id : SessionId)
    : (filing.apply cache).get? key id = filing.leaves key id (cache.get? key id) := by
  cases filing with
  | inserted other otherId ref => simp [apply, leaves, Cache.get?_insert, eq_comm]
  | offered other otherId ref =>
    simp only [apply, leaves, Cache.get?_getOrInsert, Option.or_some]
    by_cases here : other = key ∧ otherId = id
    · simp [here]
    · rw [if_neg here, if_neg fun same => here ⟨same.1.symm, same.2.symm⟩]
  | cleared => rfl

end Filing

-----------------------------------------------------------------------------------------
-- Histories
-----------------------------------------------------------------------------------------

/-- What a step files, under the identifier of the session that it names. A step that names no
session files nothing.
-/
def filing? (cabinet : Cabinet) : Step → Option Filing
  | .insert key ref => (cabinet.shared.get? ref).map fun session => .inserted key session.id ref
  | .getOrInsert key ref => (cabinet.shared.get? ref).map fun session => .offered key session.id ref
  | .clear => some .cleared
  | _ => none

/-- What some steps file, one after another. -/
def filings (cabinet : Cabinet) : List Step → List Filing
  | [] => []
  | step :: rest => (cabinet.filing? step).toList ++ (cabinet.step step).2.filings rest

/-- A step changes the cache by what it files. -/
theorem cache_step (cabinet : Cabinet) (step : Step)
    : (cabinet.step step).2.cache
      = (cabinet.filing? step).elim cabinet.cache fun filing => filing.apply cabinet.cache := by
  cases step
  case insert key ref =>
    simp only [Cabinet.step, filing?]
    cases cabinet.shared.get? ref <;> rfl
  case getOrInsert key ref =>
    simp only [Cabinet.step, filing?]
    cases cabinet.shared.get? ref <;> rfl
  all_goals rfl

theorem run_append (cabinet : Cabinet) (earlier later : List Step)
    : cabinet.run (earlier ++ later) = (cabinet.run earlier).run later :=
  List.foldl_append

/-- Two histories in a row file what the first one does and then what the second one does. -/
theorem filings_append (cabinet : Cabinet) (earlier later : List Step)
    : cabinet.filings (earlier ++ later)
      = cabinet.filings earlier ++ (cabinet.run earlier).filings later := by
  induction earlier generalizing cabinet with
  | nil => rfl
  | cons step rest ih => simp only [List.cons_append, filings, ih, List.append_assoc]; rfl

/-- After every history on a new cabinet an entry holds what the history filed in it, by
induction over the steps.
-/
theorem get?_run (owner : AccountId) (past : List Step) (key : IdentityKey) (id : SessionId)
    : ((empty owner).run past).cache.get? key id
      = Filing.filedAt ((empty owner).filings past) key id := by
  induction past using List.reverseRecOn with
  | nil => rfl
  | append_singleton past step ih =>
    rw [run_append, filings_append]
    show (((empty owner).run past).step step).2.cache.get? key id = _
    rw [cache_step]
    cases filed : ((empty owner).run past).filing? step with
    | none => simpa [filings, filed] using ih
    | some filing => simp [filings, filed, Filing.get?_apply, Filing.filedAt_append, ih]

end Cabinet

end KeyVault
