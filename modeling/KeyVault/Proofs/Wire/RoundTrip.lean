import KeyVault.Config
import KeyVault.Proofs.Json.Reading
import KeyVault.Wire
/-!
Wire forms are read back. What is exchanged or configured as JSON is read from the text that
it is written as, whatever its texts and numbers are, and a record is so from an object with
the same members in any other order.
-/

namespace KeyVault

namespace Json

-----------------------------------------------------------------------------------------
-- Forms that are read back
-----------------------------------------------------------------------------------------

/-- The compact text of an object with some members, in their order. -/
def Member.objectText (members : List Member) : String :=
  String.ofList (Token.render (writeObject members))

namespace Form

variable {α : Type}

/-- A form whose values are read from the text that they are written as. -/
def ReadsBack (form : Form α) : Prop :=
  ∀ a, form.parse (form.text a) = .ok a

/-- A form whose values are written as objects and are read back, also from an object that has
the same members in another order.
-/
def ReadsInAnyOrder (form : Form α) (members : α → List Member) : Prop :=
  form.ReadsBack
  ∧ ∀ a,
      form.text a = Member.objectText (members a)
      ∧ ∀ order, order.Perm (members a) → form.parse (Member.objectText order) = .ok a

/-- Values that stand as a simple value of a sound kind are read back. -/
theorem readsBack_ofKind {kind : Kind} {ofValue : kind.Value → α} {toValue : α → kind.Value}
    (sound : kind.Sound) (inverse : ∀ a, ofValue (toValue a) = a)
    : (ofKind kind ofValue toValue).ReadsBack := by
  intro a
  have apart : ∀ next ∈ ([] : List Token).head?, next.isNumber = false := by simp
  have legible := kind.legible_write_append (toValue a) .nil apart
  have read : kind.read (kind.write (toValue a) ++ []) = .ok (toValue a, []) :=
    Kind.read_write_append sound (toValue a)
  rw [List.append_nil] at legible read
  refine parse_render legible ?_
  simp only [ofKind, read, Except.map, inverse]

/-- Values that stand as a sound record are read back in any order. -/
theorem readsInAnyOrder_ofRecord {record : Record} {ofValues : Values record.fields → α}
    {toValues : α → Values record.fields} (sound : record.Sound)
    (inverse : ∀ a, ofValues (toValues a) = a)
    : (ofRecord record ofValues toValues).ReadsInAnyOrder fun a => (toValues a).members := by
  have written
      : ∀ a, (ofRecord record ofValues toValues).text a
          = Member.objectText (toValues a).members := by
    intro a
    exact congrArg (String.ofList ∘ Token.render) (record.write_eq_writeObject (toValues a))
  have parsed
      : ∀ a order,
          order.Perm (toValues a).members
          → (ofRecord record ofValues toValues).parse (Member.objectText order) = .ok a := by
    intro a order permuted
    exact parse_render (Member.legible_writeObject order)
      (read_writeObject sound inverse a permuted)
  refine ⟨?_, fun a => ⟨written a, parsed a⟩⟩
  intro a
  rw [written a]
  exact parsed a _ (.refl _)

end Form

end Json

-----------------------------------------------------------------------------------------
-- The forms of the wire and of the configuration
-----------------------------------------------------------------------------------------

open Json (Form Member)

/-- The states have different names. -/
theorem TrustState.nodup_names : names.Nodup := by decide

/-- The usages have different names. -/
theorem Usage.nodup_names : names.Nodup := by decide

/-- The record of a device has texts, a flag and a trust state. -/
theorem DeviceIdentity.sound_record : DeviceIdentity.record.Sound where
  distinct := by decide
  sound := by simp [record, Json.Kind.Sound, TrustState.nodup_names]

/-- A device is made of the values that it stands as. -/
theorem DeviceIdentity.ofValues_toValues (device : DeviceIdentity)
    : ofValues device.toValues = device := by
  simp only [ofValues, toValues, TrustState.ofPlace_place]

/-- The record of a pinned key has two keys. -/
theorem PinnedKey.sound_record : PinnedKey.record.Sound where
  distinct := by decide
  sound := by simp [record, Json.Kind.Sound]

/-- The record of a signer has a user and a key. -/
theorem Signer.sound_record : Signer.record.Sound where
  distinct := by decide
  sound := by simp [record, Json.Kind.Sound]

/-- The record of a configuration has texts and two numbers of at most 64 bits. -/
theorem Config.sound_record : Config.record.Sound where
  distinct := by decide
  sound := by simp [record, Json.Kind.Sound]

/-- Every identifier, trust state and usage is read back from the text that it is written as,
whatever its text is; and so is every device, pinned key, signer and configuration, whatever
its texts and numbers are, also from an object with its members in another order.
-/
theorem wire_forms_round_trip
    : (UserId.form.ReadsBack ∧ DeviceId.form.ReadsBack ∧ RoomId.form.ReadsBack
        ∧ EventId.form.ReadsBack ∧ IdentityKey.form.ReadsBack ∧ SigningKey.form.ReadsBack
        ∧ SessionId.form.ReadsBack ∧ SyncToken.form.ReadsBack)
      ∧ TrustState.form.ReadsBack
      ∧ Usage.form.ReadsBack
      ∧ DeviceIdentity.form.ReadsInAnyOrder (fun device => device.toValues.members)
      ∧ PinnedKey.form.ReadsInAnyOrder (fun pinned => pinned.toValues.members)
      ∧ Signer.form.ReadsInAnyOrder (fun signer => signer.toValues.members)
      ∧ Config.form.ReadsInAnyOrder (fun config => config.toValues.members) := by
  have identifier
      : ∀ {α : Type} {ofText : String → α} {toText : α → String},
          (∀ a, ofText (toText a) = a) → (Form.ofKind .text ofText toText).ReadsBack :=
    fun inverse => Form.readsBack_ofKind trivial inverse
  refine ⟨⟨?_, ?_, ?_, ?_, ?_, ?_, ?_, ?_⟩, ?trust, ?usage, ?device, ?pinned, ?signer, ?config⟩
  case trust => exact Form.readsBack_ofKind TrustState.nodup_names TrustState.ofPlace_place
  case usage => exact Form.readsBack_ofKind Usage.nodup_names Usage.ofPlace_place
  case device =>
    exact Form.readsInAnyOrder_ofRecord DeviceIdentity.sound_record
      DeviceIdentity.ofValues_toValues
  case pinned => exact Form.readsInAnyOrder_ofRecord PinnedKey.sound_record fun _ => rfl
  case signer => exact Form.readsInAnyOrder_ofRecord Signer.sound_record fun _ => rfl
  case config => exact Form.readsInAnyOrder_ofRecord Config.sound_record fun _ => rfl
  all_goals exact identifier fun _ => rfl

/-- A configuration with a zero character, a quote and the greatest numbers is read from its
members in reverse.
-/
theorem reversed_config_is_read
    : let config : Config := ⟨"\x00", "\"", "\n", 4294967295, 18446744073709551615⟩
      let order := config.toValues.members.reverse
      Member.objectText order
        = "\x7b\"busy_timeout_secs\":18446744073709551615,\"max_connections\":4294967295,"
          ++ "\"pickle_key\":\"\\n\",\"account_id\":\"\\\"\",\"database_url\":\"\\u0000\"\x7d"
      ∧ Config.form.parse (Member.objectText order) = .ok config := by
  intro config order
  obtain ⟨_, _, _, _, _, _, _, anyOrder⟩ := wire_forms_round_trip
  exact ⟨by decide +kernel, (anyOrder config).2 order (List.reverse_perm _)⟩

end KeyVault
