import KeyVault.Proofs.Deployment.History
/-!
The replay ledger over whole histories: what is pinned at an index is what the first
validation there that returned had submitted, and every answer compares with it. Nothing but
such a first validation changes the ledger.
-/

namespace KeyVault

-----------------------------------------------------------------------------------------
-- Verdicts at an index and what was observed there first
-----------------------------------------------------------------------------------------

/-- An index of a session of a sender, at which one event can be pinned. -/
structure Spot where
  sender : IdentityKey
  session : SessionId
  index : UInt32
  deriving DecidableEq, Repr

/-- The index that a pin is for. -/
def Pin.spot (pin : Pin) : Spot :=
  ⟨pin.sender, pin.session, pin.index⟩

/-- The event and the time that a pin holds. -/
def Pin.observation (pin : Pin) : EventId × Int64 :=
  (pin.event, pin.timestamp)

/-- What is pinned at an index. -/
def Database.pinAt? (db : Database) (spot : Spot) : Option Pin :=
  db.pin? spot.sender spot.session spot.index

/-- A validation that returned: what it submitted and whether that was accepted. -/
structure Verdict where
  pin : Pin
  accepted : Bool
  deriving DecidableEq, Repr

/-- The verdict of a moment, if it is a call of an open vault that validates an index and
returns.
-/
def Moment.verdict? (moment : Moment) : Option Verdict :=
  match moment.call?, moment.reply.result with
  | some (_, .validate pin), .ok (.flag accepted) => some ⟨pin, accepted⟩
  | _, _ => none

/-- The verdicts at an index, in the order in which they were given. -/
def verdictsAt (spot : Spot) (moments : List Moment) : List Verdict :=
  (moments.filterMap Moment.verdict?).filter fun verdict => verdict.pin.spot = spot

/-- The event and the time that were submitted by the first validation at an index that
returned.
-/
def firstObserved (spot : Spot) (moments : List Moment) : Option (EventId × Int64) :=
  (verdictsAt spot moments).head?.map fun verdict => verdict.pin.observation

-----------------------------------------------------------------------------------------
-- What one validation answers and leaves
-----------------------------------------------------------------------------------------

section Lookup

variable {db : Database} {pin : Pin} {spot : Spot}

/-- The three columns that are asked for are the index of a pin. -/
theorem Database.pinAt?_eq_find? : db.pinAt? spot = db.pins.find? fun pin => pin.spot = spot := by
  unfold pinAt? pin?
  congr 1
  funext pin
  cases spot
  simp [Pin.spot]

/-- Inserting a pin fills its own index, where that was free, and no other. -/
theorem Database.pinAt?_insertPin
    : (db.insertPin pin).pinAt? spot
      = (db.pinAt? spot).or (if pin.spot = spot then some pin else none) := by
  simp only [pinAt?_eq_find?, insertPin, List.find?_append, List.find?_singleton,
    decide_eq_true_eq]

end Lookup

/-- The number of the last statement of a validation, which pins at a free index and compares at
another one.
-/
def Database.validated (db : Database) (pin : Pin) : Nat :=
  if (db.pinAt? pin.spot).isSome then 0 else 1

namespace Vault

variable (vault : Vault) (pin : Pin) (state : State)

/-- A validation at a free index accepts and pins what it submits, if both statements are done. -/
theorem validate_of_free (free : state.database.pinAt? pin.spot = none)
    : vault.validate pin state
      = if vault.reaches 1 then
          .done true { state with database := state.database.insertPin pin }
        else vault.offline state := by
  have absent : state.database.pin? pin.sender pin.session pin.index = none := free
  cases online : vault.online with
  | true => simp only [validate, online, if_true, absent]
  | false => simp [validate, online, reaches_of_offline online]

/-- A validation at another index compares with what is pinned there, which it leaves. -/
theorem validate_of_pinned {pinned : Pin} (found : state.database.pinAt? pin.spot = some pinned)
    (online : vault.online = true)
    : (vault.validate pin state).result = .ok (decide (pinned.observation = pin.observation))
      ∧ (vault.validate pin state).state = state := by
  have there : state.database.pin? pin.sender pin.session pin.index = some pinned := found
  by_cases same : pinned.event = pin.event ∧ pinned.timestamp = pin.timestamp
  · simp [validate, online, there, same, Pin.observation, Outcome.done]
  · simp only [validate, online, if_true, there, same, if_false, Outcome.done, Outcome.noting,
      Pin.observation, Prod.mk.injEq, decide_false, and_self]

/-- A validation whose statements are done accepts what is pinned at its index, and anything
where nothing is pinned.
-/
theorem validate_result (done : vault.reaches (state.database.validated pin) = true)
    : (vault.validate pin state).result
      = .ok
          ((state.database.pinAt? pin.spot).all fun pinned =>
            pinned.observation = pin.observation) := by
  cases found : state.database.pinAt? pin.spot with
  | none =>
    have both : vault.reaches 1 = true := by simpa [Database.validated, found] using done
    rw [validate_of_free vault pin state found, if_pos both]
    rfl
  | some pinned => exact (validate_of_pinned vault pin state found (online_of_reaches done)).1

/-- A validation whose statements are not all done fails. -/
theorem validate_offline (lost : vault.reaches (state.database.validated pin) = false)
    : vault.validate pin state = vault.offline state := by
  cases found : state.database.pinAt? pin.spot with
  | none =>
    have second : vault.reaches 1 = false := by simpa [Database.validated, found] using lost
    rw [validate_of_free vault pin state found, second]
    rfl
  | some pinned =>
    have offline : vault.online = false := by simpa [Database.validated, found, reaches] using lost
    simp [validate, offline]

/-- A validation whose statements are done pins what it submits where nothing is pinned. -/
theorem validate_database (done : vault.reaches (state.database.validated pin) = true)
    : (vault.validate pin state).state.database
      = if (state.database.pinAt? pin.spot).isSome then state.database
        else state.database.insertPin pin := by
  cases found : state.database.pinAt? pin.spot with
  | none =>
    have both : vault.reaches 1 = true := by simpa [Database.validated, found] using done
    rw [validate_of_free vault pin state found, if_pos both]
    rfl
  | some pinned =>
    rw [(validate_of_pinned vault pin state found (online_of_reaches done)).2]
    rfl

/-- No other operation touches the ledger. -/
theorem Effect.pins {vault : Vault} {nonce : Aead.Nonce} {state after : State}
    {operation : Operation}
    (effect : vault.Effect nonce state operation after)
    (other : ∀ pin, operation ≠ .validate pin)
    : after.database.pins = state.database.pins := by
  cases effect <;> first | rfl | exact absurd rfl (other _)

end Vault

namespace Moment

variable {moment : Moment} {handle : Handle} {pin : Pin}

/-- A validation whose statements are done returns, with the answer that the ledger gives. -/
theorem verdict?_of_done (called : moment.call? = some (handle, .validate pin))
    (done : (moment.vaultOf handle).reaches (moment.met.database.validated pin) = true)
    : ∃ accepted,
        moment.verdict? = some ⟨pin, accepted⟩
        ∧ moment.reply.result = .ok (.flag accepted)
        ∧ accepted
          = (moment.met.database.pinAt? pin.spot).all fun pinned =>
              pinned.observation = pin.observation := by
  have answer :=
    Vault.validate_result (moment.vaultOf handle) pin (moment.met.stateOf handle) done
  have replied := congrArg Reply.result (reply_of_call called)
  simp only [outcome, Vault.perform, Outcome.answering, answer, Except.map] at replied
  refine ⟨_, ?_, replied, rfl⟩
  simp only [verdict?, called, replied]

/-- A validation whose statements are not all done fails. -/
theorem verdict?_of_lost (called : moment.call? = some (handle, .validate pin))
    (lost : (moment.vaultOf handle).reaches (moment.met.database.validated pin) = false)
    : moment.verdict? = none ∧ ∃ fault, moment.reply.result = .error fault := by
  have failed :=
    Vault.validate_offline (moment.vaultOf handle) pin (moment.met.stateOf handle) lost
  have replied := congrArg Reply.result (reply_of_call called)
  simp only [outcome, Vault.perform, failed, Outcome.answering_offline] at replied
  refine ⟨?_, _, replied⟩
  simp only [verdict?, called, replied]
  rfl

/-- A moment gives no verdict unless it calls a validation. -/
theorem verdict?_eq_none (other : ∀ handle pin, moment.call? ≠ some (handle, .validate pin))
    : moment.verdict? = none := by
  unfold verdict?
  cases called : moment.call? with
  | none => rfl
  | some call =>
    obtain ⟨handle, operation⟩ := call
    cases operation
    case validate => exact absurd called (other _ _)
    all_goals rfl

/-- What a moment does to the ledger: without a verdict nothing, with a verdict where
nothing was pinned it pins and accepts, and with a verdict elsewhere it keeps what is pinned
and compares.
-/
theorem pins_cases (moment : Moment)
    : (moment.verdict? = none ∧ moment.left.database.pins = moment.met.database.pins)
      ∨ (∃ pin,
          moment.verdict? = some ⟨pin, true⟩
          ∧ moment.met.database.pinAt? pin.spot = none
          ∧ moment.left.database.pins = moment.met.database.pins ++ [pin])
      ∨ ∃ pin pinned,
          moment.verdict? = some ⟨pin, pinned.observation = pin.observation⟩
          ∧ moment.met.database.pinAt? pin.spot = some pinned
          ∧ moment.left.database.pins = moment.met.database.pins := by
  cases called : moment.call? with
  | none =>
    exact .inl ⟨verdict?_eq_none (by simp [called]), by rw [database_of_no_call called]⟩
  | some call =>
    obtain ⟨handle, operation⟩ := call
    by_cases validates : ∃ pin, operation = .validate pin
    · obtain ⟨pin, rfl⟩ := validates
      cases done : (moment.vaultOf handle).reaches (moment.met.database.validated pin) with
      | false =>
        refine .inl ⟨(verdict?_of_lost called done).1, ?_⟩
        rw [database_of_call called, outcome]
        simp only [Vault.perform, Outcome.answering]
        rw [Vault.validate_offline _ _ _ done]
        rfl
      | true =>
        obtain ⟨accepted, verdict, _, compared⟩ := verdict?_of_done called done
        have written
            : moment.left.database
              = if (moment.met.database.pinAt? pin.spot).isSome then moment.met.database
                else moment.met.database.insertPin pin := by
          rw [database_of_call called]
          exact Vault.validate_database _ _ _ done
        cases found : moment.met.database.pinAt? pin.spot with
        | none =>
          refine .inr (.inl ⟨pin, by simpa [found, compared] using verdict, found, ?_⟩)
          simp [written, found, Database.insertPin]
        | some pinned =>
          refine .inr (.inr ⟨pin, pinned, by simpa [found, compared] using verdict, found, ?_⟩)
          simp [written, found]
    · have other : ∀ pin, operation ≠ .validate pin := by
        intro pin same
        exact validates ⟨pin, same⟩
      refine .inl ⟨verdict?_eq_none ?_, ?_⟩
      · intro handle pin same
        rw [called] at same
        exact other pin (Prod.mk.inj (Option.some.inj same)).2
      · rw [database_of_call called]
        exact (moment.effect handle operation).pins other

end Moment

-----------------------------------------------------------------------------------------
-- The ledger and the verdicts move together
-----------------------------------------------------------------------------------------

/-- A further moment adds its verdict, if it has one at the index. -/
theorem verdictsAt_append (spot : Spot) (past : List Moment) (moment : Moment)
    : verdictsAt spot (past ++ [moment])
      = verdictsAt spot past
        ++ (moment.verdict?.filter fun verdict => verdict.pin.spot = spot).toList := by
  simp only [verdictsAt, List.filterMap_append, List.filter_append]
  cases verdict : moment.verdict? with
  | none => simp [List.filterMap, verdict]
  | some given =>
    by_cases same : given.pin.spot = spot <;> simp [List.filterMap, Option.filter, verdict, same]

/-- What is observed first at an index stays first whatever comes after it. -/
theorem firstObserved_append {spot : Spot} {past : List Moment} {first : EventId × Int64}
    (observed : firstObserved spot past = some first) (moment : Moment)
    : firstObserved spot (past ++ [moment]) = some first := by
  obtain ⟨verdict, head, same⟩ := Option.map_eq_some_iff.mp observed
  unfold firstObserved
  rw [verdictsAt_append, List.head?_append, head]
  exact congrArg some same

/-- The ledger follows a history at an index: it holds what the first verdict there
submitted, and every verdict there compared with that.
-/
structure FollowsAt (spot : Spot) (past : List Moment) (db : Database) : Prop where
  pinned : db.pinAt? spot = (verdictsAt spot past).head?.map Verdict.pin
  judged
    : ∀ verdict ∈ verdictsAt spot past,
        verdict.accepted = true ↔ firstObserved spot past = some verdict.pin.observation

namespace FollowsAt

/-- New tables hold no pin, and there is no verdict yet. -/
theorem start (spot : Spot) : FollowsAt spot [] Database.empty :=
  ⟨rfl, fun _ member => absurd member List.not_mem_nil⟩

variable {spot : Spot} {past : List Moment} {moment : Moment}

/-- A moment without a verdict at an index that keeps its pin keeps the ledger following
there.
-/
theorem unmoved (follows : FollowsAt spot past moment.met.database)
    (silent : verdictsAt spot (past ++ [moment]) = verdictsAt spot past)
    (kept : moment.left.database.pinAt? spot = moment.met.database.pinAt? spot)
    : FollowsAt spot (past ++ [moment]) moment.left.database := by
  refine ⟨by rw [kept, silent, follows.pinned], ?_⟩
  unfold firstObserved
  rw [silent]
  exact follows.judged

/-- The first verdict at an index is pinned and accepted. There was none before it, since
nothing was pinned.
-/
theorem first {pin : Pin} (follows : FollowsAt pin.spot past moment.met.database)
    (verdict : moment.verdict? = some ⟨pin, true⟩)
    (free : moment.met.database.pinAt? pin.spot = none)
    (written : moment.left.database.pinAt? pin.spot = some pin)
    : FollowsAt pin.spot (past ++ [moment]) moment.left.database := by
  -- The pin of the first verdict would be in the ledger, which has none at this index.
  have silent : verdictsAt pin.spot past = [] := by
    have empty := follows.pinned
    rw [free, eq_comm, Option.map_eq_none_iff] at empty
    exact List.head?_eq_none_iff.mp empty
  have only : verdictsAt pin.spot (past ++ [moment]) = [⟨pin, true⟩] := by
    simp [verdictsAt_append, silent, verdict, Option.filter]
  exact ⟨by simp [written, only], by simp [only, firstObserved]⟩

/-- A later verdict at an index compares with the first one, which stays pinned. -/
theorem later {pin pinned : Pin} (follows : FollowsAt pin.spot past moment.met.database)
    (verdict : moment.verdict? = some ⟨pin, pinned.observation = pin.observation⟩)
    (found : moment.met.database.pinAt? pin.spot = some pinned)
    (kept : moment.left.database.pinAt? pin.spot = some pinned)
    : FollowsAt pin.spot (past ++ [moment]) moment.left.database := by
  have added : verdictsAt pin.spot (past ++ [moment])
      = verdictsAt pin.spot past ++ [⟨pin, pinned.observation = pin.observation⟩] := by
    simp [verdictsAt_append, verdict, Option.filter]
  -- What is found in the ledger is what the first verdict submitted, so comparing with it
  -- is comparing with the first observation.
  obtain ⟨head, heads, holds⟩ := Option.map_eq_some_iff.mp (follows.pinned.symm.trans found)
  have observed : firstObserved pin.spot past = some pinned.observation := by
    simp [firstObserved, heads, holds]
  have still := firstObserved_append observed moment
  refine ⟨by simp [kept, added, List.head?_append, heads, holds], ?_⟩
  intro given member
  rw [added] at member
  rcases List.mem_append.mp member with earlier | new
  · rw [still, ← observed]
    exact follows.judged given earlier
  · rw [List.mem_singleton.mp new, still]
    simp

/-- A further moment keeps the ledger following at every index. Witness: the three things
that a moment can do to the ledger, each at the index of its verdict and at the others.
-/
theorem further (follows : FollowsAt spot past moment.met.database)
    : FollowsAt spot (past ++ [moment]) moment.left.database := by
  have elsewhere {pin : Pin} {accepted : Bool}
      (verdict : moment.verdict? = some ⟨pin, accepted⟩) (other : pin.spot ≠ spot)
      : verdictsAt spot (past ++ [moment]) = verdictsAt spot past := by
    simp [verdictsAt_append, verdict, Option.filter, other]
  rcases moment.pins_cases with
    ⟨verdict, kept⟩ | ⟨pin, verdict, free, written⟩ | ⟨pin, pinned, verdict, found, kept⟩
  · refine follows.unmoved (by simp [verdictsAt_append, verdict]) ?_
    simp only [Database.pinAt?_eq_find?, kept]
  · have inserted (spot : Spot)
        : moment.left.database.pinAt? spot = (moment.met.database.insertPin pin).pinAt? spot := by
      simp only [Database.pinAt?_eq_find?, written, Database.insertPin]
    by_cases same : pin.spot = spot
    · subst same
      refine follows.first verdict free ?_
      rw [inserted, Database.pinAt?_insertPin, free, if_pos rfl, Option.none_or]
    · refine follows.unmoved (elsewhere verdict same) ?_
      rw [inserted, Database.pinAt?_insertPin, if_neg same, Option.or_none]
  · have still (spot : Spot)
        : moment.left.database.pinAt? spot = moment.met.database.pinAt? spot := by
      simp only [Database.pinAt?_eq_find?, kept]
    by_cases same : pin.spot = spot
    · subst same
      exact follows.later verdict found ((still _).trans found)
    · exact follows.unmoved (elsewhere verdict same) (still spot)

end FollowsAt

-----------------------------------------------------------------------------------------
-- Whole histories
-----------------------------------------------------------------------------------------

/-- The ledger follows every history on new tables at every index, by induction over its
moments.
-/
theorem followsAt_run (spot : Spot) (history : List (Aead.Nonce × Event))
    : FollowsAt spot (Deployment.empty.moments history)
        (Deployment.empty.run history).2.database := by
  refine Deployment.run_induction history (motive := fun past deployment =>
    FollowsAt spot past deployment.database) (FollowsAt.start spot) ?_
  intro past moment _ follows
  exact follows.further

/-- The answers at an index are a function of what was submitted there. -/
theorem FollowsAt.map_accepted {spot : Spot} {past : List Moment} {db : Database}
    (follows : FollowsAt spot past db)
    : (verdictsAt spot past).map Verdict.accepted
      = ((verdictsAt spot past).map Verdict.pin).map fun pin =>
          decide
            (((verdictsAt spot past).map Verdict.pin).head?.map Pin.observation
              = some pin.observation) := by
  rw [List.map_map]
  apply List.map_congr_left
  intro verdict member
  have judged := follows.judged verdict member
  simp only [Function.comp, List.head?_map, Option.map_map]
  exact Bool.eq_iff_iff.mpr (judged.trans (by simp [firstObserved, Function.comp_def]))

/-- Over every history on new tables, a validation that returns accepts exactly what the first
one at its index that returned had submitted, whatever happened elsewhere, and nothing but such
a first validation changes the ledger. A validation returns just when its statements are done.
-/
theorem validate_follows_first_observation (history : List (Aead.Nonce × Event))
    : (∀ spot,
        ∀ verdict ∈ verdictsAt spot (Deployment.empty.moments history),
          verdict.accepted = true
          ↔ firstObserved spot (Deployment.empty.moments history)
              = some verdict.pin.observation)
      ∧ (∀ spot other,
          (verdictsAt spot (Deployment.empty.moments history)).map Verdict.pin
            = (verdictsAt spot (Deployment.empty.moments other)).map Verdict.pin
          → (verdictsAt spot (Deployment.empty.moments history)).map Verdict.accepted
            = (verdictsAt spot (Deployment.empty.moments other)).map Verdict.accepted)
      ∧ (∀ moment ∈ Deployment.empty.moments history,
          moment.left.database.pins = moment.met.database.pins
          ∨ ∃ pin,
              moment.verdict? = some ⟨pin, true⟩
              ∧ moment.met.database.pinAt? pin.spot = none
              ∧ moment.left.database.pins = moment.met.database.pins ++ [pin])
      ∧ ∀ moment ∈ Deployment.empty.moments history,
          ∀ handle pin,
            moment.call? = some (handle, .validate pin)
            → if (moment.vaultOf handle).reaches (moment.met.database.validated pin) then
                ∃ accepted,
                  moment.reply.result = .ok (.flag accepted)
                  ∧ moment.verdict? = some ⟨pin, accepted⟩
              else
                (∃ fault, moment.reply.result = .error fault) ∧ moment.verdict? = none := by
  refine ⟨?_, ?_, ?_, ?_⟩
  · intro spot
    exact (followsAt_run spot history).judged
  · intro spot other same
    rw [(followsAt_run spot history).map_accepted, (followsAt_run spot other).map_accepted, same]
  · intro moment _
    rcases moment.pins_cases with ⟨_, kept⟩ | first | ⟨_, _, _, _, kept⟩
    · exact .inl kept
    · exact .inr first
    · exact .inl kept
  · intro moment _ handle pin called
    cases done : (moment.vaultOf handle).reaches (moment.met.database.validated pin) with
    | false =>
      obtain ⟨silent, failed⟩ := Moment.verdict?_of_lost called done
      exact ⟨failed, silent⟩
    | true =>
      obtain ⟨accepted, verdict, replied, _⟩ := Moment.verdict?_of_done called done
      exact ⟨accepted, replied, verdict⟩

/-- Deleting an account unpins nothing, and another account's event at the same index is a
replay.
-/
example
    : let pin : Pin := ⟨⟨"curve"⟩, ⟨"session"⟩, 7, ⟨"$first"⟩, -1⟩
      let history : List Event :=
        [.openVault "a" ⟨"@a"⟩ ⟨.replicate 32 0⟩,
         .openVault "b" ⟨"@b"⟩ ⟨.replicate 32 0⟩,
         .call "a" (.validate pin),
         .call "a" .delete,
         .call "b" (.validate pin),
         .closePool "a",
         .call "a" (.validate pin),
         .call "b" (.validate { pin with event := ⟨"$second"⟩ })]
      let moments := Deployment.empty.moments (history.map fun event => (.replicate 24 0, event))
      (verdictsAt pin.spot moments).map Verdict.accepted = [true, true, false] := by
  decide

end KeyVault
