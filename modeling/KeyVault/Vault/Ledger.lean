import KeyVault.Vault.Basic
/-!
The ledger against replays: the first event seen at an index of a sender's session is pinned
there and stays; any other event at the index is a replay.
-/

namespace KeyVault.Vault

/-- Pins an event to a message index that has none, and answers whether the pinned event is
this one. The index is looked up by one statement and pinned by another.
-/
def validate (vault : Vault) (pin : Pin) (state : State) : Outcome Bool :=
  if vault.online then
    match state.database.pin? pin.sender pin.session pin.index with
    | none =>
      if vault.reaches 1 then .done true { state with database := state.database.insertPin pin }
      else vault.offline state
    | some pinned =>
      if pinned.event = pin.event ∧ pinned.timestamp = pin.timestamp then .done true state
      else
        (Outcome.done false state).noting
          [.replay pin.sender pin.session pin.index pin.event pin.timestamp]
  else vault.offline state

end KeyVault.Vault
