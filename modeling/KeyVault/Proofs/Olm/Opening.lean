import KeyVault.Proofs.Olm.NewestFirst
import Mathlib.Data.List.Forall2
/-!
What opening rows hands out, and where it stops. A row is served when a session is cached for
it or when its pickle opens; what is cached is handed out as it is, and what is opened is a new
object. Rows are opened in order, and the first one that is not served ends it. Opening a row
caches it, which the later rows do not notice as long as no two have one identifier.
-/

namespace KeyVault

-----------------------------------------------------------------------------------------
-- Opening only adds
-----------------------------------------------------------------------------------------

/-- Nothing that was shared or cached changes; there may be more of it. -/
structure State.Adds (before after : State) : Prop where
  shared
    : ∀ ref session,
        before.shared.get? ref = some session → after.shared.get? ref = some session
  cached
    : ∀ sender id ref,
        before.cache.get? sender id = some ref → after.cache.get? sender id = some ref

namespace State.Adds

theorem refl (state : State) : state.Adds state :=
  ⟨fun _ _ there => there, fun _ _ _ there => there⟩

theorem trans {first second third : State} (before : first.Adds second)
    (after : second.Adds third)
    : first.Adds third where
  shared ref session there := after.shared ref session (before.shared ref session there)
  cached sender id ref there := after.cached sender id ref (before.cached sender id ref there)

/-- A reference that is new afterwards was new before. -/
theorem new {before after : State} (adds : before.Adds after) {ref : SessionRef}
    (fresh : after.shared.get? ref = none)
    : before.shared.get? ref = none := by
  cases there : before.shared.get? ref with
  | none => rfl
  | some session => cases fresh.symm.trans (adds.shared ref session there)

/-- Sharing a session under an identifier that is free only adds. -/
theorem share {state : State} {sender : IdentityKey} {session : Session}
    (free : state.cache.get? sender session.id = none) (owner : AccountId)
    : state.Adds (state.share owner sender session).2 where
  shared _ _ there := SharedSessions.get?_add_of_some owner session there
  cached _ _ _ there := Cache.get?_insert_of_free free _ there

end State.Adds

namespace Vault

variable {vault : Vault} {sender : IdentityKey} {state between after : State}
variable {row : OlmRow} {rows : List OlmRow} {ref : SessionRef}

-----------------------------------------------------------------------------------------
-- Rows that are served
-----------------------------------------------------------------------------------------

/-- What the pickle of a row opens to, with the times beside it. -/
def openPickle (vault : Vault) (row : OlmRow) : Except PickleFault Session :=
  Session.unpickle row.blob vault.key (timesOf row)

/-- A row that is served for a key: a session is cached for it, or its pickle opens. -/
def Serves (vault : Vault) (sender : IdentityKey) (state : State) (row : OlmRow) : Prop :=
  (∃ ref, state.cache.get? sender row.session = some ref)
  ∨ ∃ session, vault.openPickle row = .ok session

/-- A row that fails for a key: no session is cached for it, and its pickle does not open. -/
structure Fails (vault : Vault) (sender : IdentityKey) (state : State) (row : OlmRow)
    (fault : PickleFault) : Prop where
  uncached : state.cache.get? sender row.session = none
  sealed : vault.openPickle row = .error fault

/-- What is handed out for a row: the cached object where there is one, as it is, and otherwise
a new object with what the pickle opens to. It has the identifier of the row, and is what is
cached for it afterwards.
-/
structure HandsOut (vault : Vault) (sender : IdentityKey) (before after : State) (row : OlmRow)
    (ref : SessionRef) : Prop where
  cached : after.cache.get? sender row.session = some ref
  value
    : ∃ session,
        after.shared.get? ref = some session
        ∧ session.id = row.session
        ∧ (before.cache.get? sender row.session = some ref
              ∧ before.shared.get? ref = some session
            ∨ before.cache.get? sender row.session = none
              ∧ before.shared.get? ref = none
              ∧ vault.openPickle row = .ok session)

/-- A row does not fail if it is served. -/
theorem Fails.not_serves {fault : PickleFault} (fails : vault.Fails sender state row fault)
    : ¬ vault.Serves sender state row := by
  rintro (⟨ref, cached⟩ | ⟨session, opens⟩)
  · cases fails.uncached.symm.trans cached
  · cases fails.sealed.symm.trans opens

/-- Why opening rows in order stops: the first of them that is not served fails. -/
inductive StopsWith (vault : Vault) (sender : IdentityKey) (state : State)
    : List OlmRow → PickleFault → Prop
  | here {row rows fault} (fails : vault.Fails sender state row fault)
    : StopsWith vault sender state (row :: rows) fault
  | later {row rows fault} (serves : vault.Serves sender state row)
    (stops : StopsWith vault sender state rows fault)
    : StopsWith vault sender state (row :: rows) fault

namespace StopsWith

variable {fault : PickleFault}

/-- Opening rows that are all served does not stop. -/
theorem not_all_served (stops : vault.StopsWith sender state rows fault)
    : ¬ ∀ row ∈ rows, vault.Serves sender state row := by
  induction stops with
  | here fails => exact fun all => fails.not_serves (all _ (List.mem_cons_self ..))
  | later _ _ ih => exact fun all => ih fun row member => all row (List.mem_cons_of_mem _ member)

/-- Only what is cached under the identifiers of the rows matters. -/
theorem of_same (stops : vault.StopsWith sender between rows fault)
    (same
      : ∀ row ∈ rows,
          between.cache.get? sender row.session = state.cache.get? sender row.session)
    : vault.StopsWith sender state rows fault := by
  induction stops with
  | here fails =>
    have equal := same _ (List.mem_cons_self ..)
    exact .here ⟨equal ▸ fails.uncached, fails.sealed⟩
  | later serves _ ih =>
    have equal := same _ (List.mem_cons_self ..)
    rw [Serves, equal] at serves
    exact .later serves (ih fun row member => same row (List.mem_cons_of_mem _ member))

end StopsWith

namespace HandsOut

/-- Only what is served is handed out. -/
theorem serves (hands : vault.HandsOut sender state after row ref)
    : vault.Serves sender state row := by
  obtain ⟨session, _, _, ⟨cached, _⟩ | ⟨_, _, opens⟩⟩ := hands.value
  · exact .inl ⟨ref, cached⟩
  · exact .inr ⟨session, opens⟩

/-- What was handed out stays so while only more is added. -/
theorem later (hands : vault.HandsOut sender state between row ref) (adds : between.Adds after)
    : vault.HandsOut sender state after row ref where
  cached := adds.cached _ _ _ hands.cached
  value := by
    obtain ⟨session, there, own, origin⟩ := hands.value
    exact ⟨session, adds.shared ref session there, own, origin⟩

/-- What was added before does not matter where it left the row's own identifier. -/
theorem earlier (hands : vault.HandsOut sender between after row ref) (adds : state.Adds between)
    (labels : state.cache.Labels state.shared)
    (same : between.cache.get? sender row.session = state.cache.get? sender row.session)
    : vault.HandsOut sender state after row ref where
  cached := hands.cached
  value := by
    obtain ⟨session, there, own, ⟨cached, value⟩ | ⟨uncached, fresh, opens⟩⟩ := hands.value
    · rw [same] at cached
      -- A cached session was shared before already, and has not changed since.
      obtain ⟨held, shared, _⟩ := labels _ _ _ cached
      cases (adds.shared ref held shared).symm.trans value
      exact ⟨session, there, own, .inl ⟨cached, shared⟩⟩
    · rw [same] at uncached
      exact ⟨session, there, own, .inr ⟨uncached, adds.new fresh, opens⟩⟩

end HandsOut

-----------------------------------------------------------------------------------------
-- Opening one row
-----------------------------------------------------------------------------------------

/-- Opening a row only adds. -/
theorem openRow_adds {result : Except PickleFault SessionRef}
    (opens : vault.openRow sender row state = (result, after))
    : state.Adds after := by
  cases opens_of_openRow opens with
  | cached => exact .refl _
  | failed => exact .refl _
  | @opened session =>
    cases free : state.cache.get? sender session.id with
    | none =>
      simp only [Cache.getOrInsert, free]
      exact .share free vault.owner
    | some kept =>
      simp only [Cache.getOrInsert, free]
      exact ⟨fun _ _ there => SharedSessions.get?_add_of_some vault.owner session there,
        fun _ _ _ there => there⟩

/-- Opening a row hands out a session for it and leaves what is cached under other identifiers,
or else the row fails and nothing changes.
-/
theorem openRow_cases (sender : IdentityKey) (labels : state.cache.Labels state.shared)
    (named : ∀ session, vault.openPickle row = .ok session → session.id = row.session)
    : (∃ ref after,
          vault.openRow sender row state = (.ok ref, after)
          ∧ vault.HandsOut sender state after row ref
          ∧ ∀ id, id ≠ row.session → after.cache.get? sender id = state.cache.get? sender id)
      ∨ ∃ fault,
          vault.openRow sender row state = (.error fault, state)
          ∧ vault.Fails sender state row fault := by
  cases cached : state.cache.get? sender row.session with
  | some ref =>
    obtain ⟨session, there, own⟩ := labels _ _ _ cached
    refine .inl ⟨ref, state, by simp only [openRow, cached], ?_, fun _ _ => rfl⟩
    exact ⟨cached, session, there, own, .inl ⟨cached, there⟩⟩
  | none =>
    cases opens : vault.openPickle row with
    | error fault =>
      refine .inr ⟨fault, ?_, cached, opens⟩
      rw [openPickle] at opens
      simp only [openRow, cached, opens]
    | ok session =>
      have own := named session opens
      have free : state.cache.get? sender session.id = none := own ▸ cached
      refine .inl ⟨(state.share vault.owner sender session).1,
        (state.share vault.owner sender session).2, ?_, ⟨?_, ?_⟩, ?_⟩
      · rw [openPickle] at opens
        simp only [openRow, cached, opens, Cache.getOrInsert, free, State.share]
      · rw [← own]
        exact State.get?_cache_share ..
      · refine ⟨session, State.get?_share .., own, .inr ⟨cached, ?_, opens⟩⟩
        exact SharedSessions.get?_add_fst _ vault.owner session
      · intro id different
        rw [State.share, Cache.get?_insert, if_neg (by simp [own, different])]

-----------------------------------------------------------------------------------------
-- Opening rows in order
-----------------------------------------------------------------------------------------

/-- Opening rows only adds. -/
theorem openRows_adds {result : Except PickleFault (List SessionRef)}
    (opens : vault.openRows sender rows state = (result, after))
    : state.Adds after :=
  openRows_related .refl .trans openRow_adds opens

/-- Rows that can be told apart: no two have one identifier, and a pickle that opens is that of
the session of its row.
-/
structure TellsApart (vault : Vault) (rows : List OlmRow) : Prop where
  distinct : (rows.map OlmRow.session).Nodup
  named
    : ∀ row ∈ rows,
        ∀ session, vault.openPickle row = .ok session → session.id = row.session

theorem TellsApart.perm (apart : vault.TellsApart rows) {others : List OlmRow}
    (same : rows.Perm others)
    : vault.TellsApart others where
  distinct := (same.map OlmRow.session).nodup_iff.mp apart.distinct
  named row member := apart.named row (same.mem_iff.mpr member)

/-- Opening rows hands out a session for each of them, or stops at the first one that fails, by
induction over the rows. What the first row left in the cache is under its own identifier, so
that the other rows are served as they were before it.
-/
theorem openRows_cases (sender : IdentityKey) (apart : vault.TellsApart rows)
    (labels : state.cache.Labels state.shared)
    : (∃ refs after,
          vault.openRows sender rows state = (.ok refs, after)
          ∧ List.Forall₂ (vault.HandsOut sender state after) rows refs)
      ∨ ∃ fault after,
          vault.openRows sender rows state = (.error fault, after)
          ∧ vault.StopsWith sender state rows fault := by
  induction rows generalizing state with
  | nil => exact .inl ⟨[], state, rfl, .nil⟩
  | cons row rows ih =>
    obtain ⟨fresh, distinct⟩ := List.nodup_cons.mp apart.distinct
    rcases openRow_cases sender labels (apart.named row (List.mem_cons_self ..)) with
      ⟨ref, between, opens, hands, elsewhere⟩ | ⟨fault, opens, fails⟩
    · have adds := openRow_adds opens
      have same
          : ∀ other ∈ rows,
              between.cache.get? sender other.session
              = state.cache.get? sender other.session := by
        intro other member
        refine elsewhere _ fun equal => fresh ?_
        exact equal ▸ List.mem_map_of_mem member
      have others : vault.TellsApart rows :=
        ⟨distinct, fun other member => apart.named other (List.mem_cons_of_mem _ member)⟩
      rcases ih others (openRow_labels opens labels) with
        ⟨refs, after, reads, each⟩ | ⟨fault, after, reads, stops⟩
      · refine .inl ⟨ref :: refs, after, by simp only [openRows, opens, reads], ?_⟩
        refine .cons (hands.later (openRows_adds reads)) ?_
        refine ((List.forall₂_and_left _ _).mpr ⟨same, each⟩).imp ?_
        rintro other ref ⟨same, hands⟩
        exact hands.earlier adds labels same
      · refine .inr ⟨fault, after, by simp only [openRows, opens, reads], ?_⟩
        exact .later hands.serves (stops.of_same same)
    · exact .inr ⟨fault, state, by simp only [openRows, opens], .here fails⟩

end Vault

end KeyVault
