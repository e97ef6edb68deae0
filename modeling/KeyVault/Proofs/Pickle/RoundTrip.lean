import KeyVault.Proofs.Json.Reading
import KeyVault.Proofs.Pickle.Sealing
import KeyVault.Session.Account
import KeyVault.Session.Group
import KeyVault.Session.Olm
/-!
Pickles open to what was pickled: sealing loses nothing, and a record is read back as it is
written. What stands beside a pickle comes back as it is given, so that an object comes back
whole.
-/

namespace KeyVault

open Json (Form Record Values)

/-- A value that stands as a sound record is unpacked as it was packed, under the same key
and as the same kind.
-/
theorem Pickle.unpack_pack {α : Type} {record : Record} {ofValues : Values record.fields → α}
    {toValues : α → Values record.fields} (sound : record.Sound)
    (inverse : ∀ a, ofValues (toValues a) = a) (key : PickleKey) (kind : PickleKind)
    (nonce : Aead.Nonce) (a : α)
    : unpack (.ofRecord record ofValues toValues) key kind
        (pack (.ofRecord record ofValues toValues) key kind nonce a)
      = .ok a := by
  simp only [unpack, pack, openBody_sealBody, bind, Except.bind]
  rw [Form.parseBytes_bytes sound inverse]

/-- The record of an account's pickle has the identity state. -/
theorem Account.sound_record : Account.record.Sound where
  distinct := by decide
  sound := by simp [Account.record, Json.Kind.Sound]

/-- The pickle of an account opens to its identity state, shared or not as is known beside
the pickle.
-/
theorem Account.unpickle_pickle (account : Account) (key : PickleKey) (nonce : Aead.Nonce)
    (shared : Bool)
    : Account.unpickle (account.pickle key nonce) key shared = .ok { account with shared } := by
  have opens
      : Pickle.unpack bodyForm key .account (account.pickle key nonce) = .ok account.identity :=
    Pickle.unpack_pack sound_record (fun _ => rfl) key .account nonce account.identity
  rw [unpickle, opens]
  rfl

/-- The record of a session's pickle has an identifier and a ratchet. -/
theorem Session.sound_record : Session.record.Sound where
  distinct := by decide
  sound := by simp [Session.record, Json.Kind.Sound]

/-- The pickle of a session opens to the session, with the times that are known beside the
pickle.
-/
theorem Session.unpickle_pickle (session : Session) (key : PickleKey) (nonce : Aead.Nonce)
    (times : SessionTimes)
    : Session.unpickle (session.pickle key nonce) key times = .ok { session with times } := by
  unfold unpickle pickle bodyForm
  rw [Pickle.unpack_pack sound_record (fun _ => rfl)]
  rfl

/-- The record of a group session's pickle has an identifier and a ratchet. -/
theorem GroupPickle.sound_record : GroupPickle.record.Sound where
  distinct := by decide
  sound := by simp [GroupPickle.record, Json.Kind.Sound]

/-- The pickle of an inbound session opens to the session, with the facts that are known
beside the pickle.
-/
theorem InboundSession.unpickle_pickle (session : InboundSession) (key : PickleKey)
    (nonce : Aead.Nonce) (facts : InboundFacts)
    : InboundSession.unpickle (session.pickle key nonce) key facts
      = .ok { session with facts } := by
  unfold unpickle pickle GroupPickle.form
  rw [Pickle.unpack_pack GroupPickle.sound_record (fun _ => rfl)]
  rfl

/-- The pickle of an outbound session opens to the session, with the facts that are known
beside the pickle.
-/
theorem OutboundSession.unpickle_pickle (session : OutboundSession) (key : PickleKey)
    (nonce : Aead.Nonce) (facts : OutboundFacts)
    : OutboundSession.unpickle (session.pickle key nonce) key facts
      = .ok { session with facts } := by
  unfold unpickle pickle GroupPickle.form
  rw [Pickle.unpack_pack GroupPickle.sound_record (fun _ => rfl)]
  rfl

/-- Objects of all four kinds, whatever their texts and bytes are, open from their pickle to
themselves under its key with what is kept beside it. The pickle is a version, the nonce and
the sealed record, longer than the record by 41 bytes.
-/
theorem pickles_open_to_their_objects (key : PickleKey) (nonce : Aead.Nonce)
    : (∀ account : Account,
        let blob := account.pickle key nonce
        Account.unpickle blob key account.shared = .ok account
        ∧ Pickle.LaidOut nonce (Account.bodyForm.bytes account.identity) blob)
      ∧ (∀ session : Session,
          let blob := session.pickle key nonce
          Session.unpickle blob key session.times = .ok session
          ∧ Pickle.LaidOut nonce (Session.bodyForm.bytes (session.id, session.ratchet)) blob)
      ∧ (∀ session : InboundSession,
          let blob := session.pickle key nonce
          InboundSession.unpickle blob key session.facts = .ok session
          ∧ Pickle.LaidOut nonce (GroupPickle.form.bytes (session.id, session.ratchet)) blob)
      ∧ ∀ session : OutboundSession,
          let blob := session.pickle key nonce
          OutboundSession.unpickle blob key session.facts = .ok session
          ∧ Pickle.LaidOut nonce (GroupPickle.form.bytes (session.id, session.ratchet)) blob := by
  refine ⟨?_, ?_, ?_, ?_⟩
  · intro account blob
    exact ⟨account.unpickle_pickle key nonce account.shared, Pickle.laidOut_sealBody ..⟩
  · intro session blob
    exact ⟨session.unpickle_pickle key nonce session.times, Pickle.laidOut_sealBody ..⟩
  · intro session blob
    exact ⟨session.unpickle_pickle key nonce session.facts, Pickle.laidOut_sealBody ..⟩
  · intro session blob
    exact ⟨session.unpickle_pickle key nonce session.facts, Pickle.laidOut_sealBody ..⟩

end KeyVault
