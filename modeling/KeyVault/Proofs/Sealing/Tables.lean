import KeyVault.Proofs.Database.Statements
import KeyVault.Proofs.Pickle.RoundTrip
import KeyVault.Proofs.Rows.Related
/-!
Tables that differ only in how their pickles are sealed. Every statement finds and writes the
same in both of them, and they differ only in their pickles afterwards.
-/

namespace KeyVault

-----------------------------------------------------------------------------------------
-- Rows with pickles
-----------------------------------------------------------------------------------------

/-- A column of pickles in the rows of a table: where a row has its pickle, and what the
pickle is of. A row has the pickle that is set, and what is packed for the column is unpacked
again.
-/
structure PickleColumn (ρ α : Type) where
  get : ρ → Blob
  set : Blob → ρ → ρ
  form : Json.Form α
  kind : PickleKind
  get_set : ∀ blob row, get (set blob row) = blob
  lossless
    : ∀ key nonce content,
        Pickle.unpack form key kind (Pickle.pack form key kind nonce content) = .ok content

def AccountRow.pickles : PickleColumn AccountRow (List UInt8) where
  get := blob
  set blob row := { row with blob }
  form := Account.bodyForm
  kind := .account
  get_set _ _ := rfl
  lossless key := Pickle.unpack_pack Account.sound_record (fun _ => rfl) key .account

def OlmRow.pickles : PickleColumn OlmRow (SessionId × List UInt8) where
  get := blob
  set blob row := { row with blob }
  form := Session.bodyForm
  kind := .session
  get_set _ _ := rfl
  lossless key := Pickle.unpack_pack Session.sound_record (fun _ => rfl) key .session

def InboundRow.pickles : PickleColumn InboundRow (SessionId × List UInt8) where
  get := blob
  set blob row := { row with blob }
  form := GroupPickle.form
  kind := .inbound
  get_set _ _ := rfl
  lossless key := Pickle.unpack_pack GroupPickle.sound_record (fun _ => rfl) key .inbound

def OutboundRow.pickles : PickleColumn OutboundRow (SessionId × List UInt8) where
  get := blob
  set blob row := { row with blob }
  form := GroupPickle.form
  kind := .outbound
  get_set _ _ := rfl
  lossless key := Pickle.unpack_pack GroupPickle.sound_record (fun _ => rfl) key .outbound

namespace PickleColumn

variable {ρ α : Type} {first second : PickleKey}

/-- Two rows that differ at most in their pickles, which open to one content, the pickle of
the one under the first key and that of the other under the second.
-/
inductive Alike (column : PickleColumn ρ α) (first second : PickleKey) : ρ → ρ → Prop
  | intro (row : ρ) {blob : Blob} {content : α}
    (opens : Pickle.unpack column.form first column.kind (column.get row) = .ok content)
    (likewise : Pickle.unpack column.form second column.kind blob = .ok content)
    : Alike column first second row (column.set blob row)

variable (column : PickleColumn ρ α)

/-- Two tables whose rows are alike one by one. -/
def AlikeAll (first second : PickleKey) (rows others : List ρ) : Prop :=
  List.Forall₂ (column.Alike first second) rows others

/-- A row is alike to itself with the same content sealed anew. -/
theorem Alike.sealed {column : PickleColumn ρ α} {row : ρ} {content : α} {nonce : Aead.Nonce}
    (fresh : column.get row = Pickle.pack column.form first column.kind nonce content)
    (draw : Aead.Nonce)
    : column.Alike first second row
        (column.set (Pickle.pack column.form second column.kind draw content) row) := by
  refine .intro row ?_ (column.lossless second draw content)
  rw [fresh]
  exact column.lossless first nonce content

/-- The pickles of rows that are alike open, and whatever is made of their contents is the
same.
-/
theorem Alike.unpickled {column : PickleColumn ρ α} {row twin : ρ}
    (alike : column.Alike first second row twin) {β : Type} (make : α → β)
    : ∃ made,
        (Pickle.unpack column.form first column.kind (column.get row)).map make = .ok made
        ∧ (Pickle.unpack column.form second column.kind (column.get twin)).map make
          = .ok made := by
  obtain @⟨blob, content, opens, likewise⟩ := alike
  refine ⟨make content, ?_, ?_⟩
  · rw [opens]
    rfl
  · rw [column.get_set, likewise]
    rfl

/-- What is found in alike tables: nothing in both, or rows that are alike. -/
theorem found_cases {column : PickleColumn ρ α} {found other : Option ρ}
    (related : Option.Rel (column.Alike first second) found other)
    : (found = none ∧ other = none)
      ∨ ∃ row twin, found = some row ∧ other = some twin ∧ column.Alike first second row twin := by
  cases related with
  | none => exact .inl ⟨rfl, rfl⟩
  | some alike => exact .inr ⟨_, _, rfl, rfl, alike⟩

end PickleColumn

-----------------------------------------------------------------------------------------
-- Tables that differ only in their pickles
-----------------------------------------------------------------------------------------

/-- Two sets of tables: those with pickles are alike row by row, and the others are equal. -/
structure Database.Alike (first second : PickleKey) (db other : Database) : Prop where
  accounts : AccountRow.pickles.AlikeAll first second db.accounts other.accounts
  olm : OlmRow.pickles.AlikeAll first second db.olm other.olm
  inbound : InboundRow.pickles.AlikeAll first second db.inbound other.inbound
  outbound : OutboundRow.pickles.AlikeAll first second db.outbound other.outbound
  pins : db.pins = other.pins
  tracked : db.tracked = other.tracked
  devices : db.devices = other.devices
  keys : db.keys = other.keys
  signatures : db.signatures = other.signatures
  migration : db.migration = other.migration

namespace Database.Alike

variable {first second : PickleKey} {db other : Database}
variable (alike : db.Alike first second other)

/-- New tables are alike. -/
theorem empty : Database.empty.Alike first second .empty where
  accounts := .nil
  olm := .nil
  inbound := .nil
  outbound := .nil
  pins := rfl
  tracked := rfl
  devices := rfl
  keys := rfl
  signatures := rfl
  migration := rfl

include alike

theorem account? (owner : AccountId)
    : Option.Rel (AccountRow.pickles.Alike first second) (db.account? owner)
        (other.account? owner) := by
  refine Rows.rel_find? ?_ alike.accounts
  rintro row _ ⟨_, _⟩
  rfl

theorem upsertAccount {row twin : AccountRow}
    (new : AccountRow.pickles.Alike first second row twin)
    : (db.upsertAccount row).Alike first second (other.upsertAccount twin) := by
  obtain ⟨opens, likewise⟩ := new
  refine { alike with accounts := Rows.rel_upsert ?_ ?_ (.intro row opens likewise) alike.accounts }
  · rintro old _ ⟨_, _⟩
    rfl
  · rintro old _ ⟨_, _⟩
    exact .intro _ opens likewise

theorem setDevice (owner : AccountId) (device : String)
    : (db.setDevice owner device).Alike first second (other.setDevice owner device) := by
  refine { alike with accounts := Rows.rel_amend ?_ ?_ alike.accounts }
  · rintro row _ ⟨_, _⟩
    rfl
  · rintro row _ ⟨opens, likewise⟩
    exact .intro _ opens likewise

theorem setSyncToken (owner : AccountId) (syncToken : String)
    : (db.setSyncToken owner syncToken).Alike first second (other.setSyncToken owner syncToken) := by
  refine { alike with accounts := Rows.rel_amend ?_ ?_ alike.accounts }
  · rintro row _ ⟨_, _⟩
    rfl
  · rintro row _ ⟨opens, likewise⟩
    exact .intro _ opens likewise

theorem wipe (owner : AccountId) : (db.wipe owner).Alike first second (other.wipe owner) := by
  refine
    { alike with
      accounts := Rows.rel_remove ?_ alike.accounts
      olm := Rows.rel_remove ?_ alike.olm
      outbound := Rows.rel_remove ?_ alike.outbound }
  all_goals
    rintro row _ ⟨_, _⟩
    rfl

/-- The sessions with a key come in the same order, which is that of a column. -/
theorem olmSessions (owner : AccountId) (sender : IdentityKey)
    : OlmRow.pickles.AlikeAll first second (db.olmSessions owner sender)
        (other.olmSessions owner sender) := by
  refine Rows.rel_mergeSort ?_ (List.rel_filter ?_ alike.olm)
  · rintro row _ later _ ⟨_, _⟩ ⟨_, _⟩
    rfl
  · rintro row _ ⟨_, _⟩
    rfl

theorem hasOlmSession (owner : AccountId) (sender : IdentityKey)
    : db.hasOlmSession owner sender = other.hasOlmSession owner sender := by
  refine Rows.rel_any ?_ alike.olm
  rintro row _ ⟨_, _⟩
  rfl

/-- A session is inserted into both tables, or is there in both. -/
theorem insertOlm {row twin : OlmRow} (new : OlmRow.pickles.Alike first second row twin)
    : (db.insertOlm row = .error (.duplicateKey .olm)
        ∧ other.insertOlm twin = .error (.duplicateKey .olm))
      ∨ ∃ after later,
          db.insertOlm row = .ok after
          ∧ other.insertOlm twin = .ok later
          ∧ after.Alike first second later := by
  have same
      : (db.olm.any fun old => old.owner = row.owner ∧ old.session = row.session)
        = other.olm.any fun old => old.owner = twin.owner ∧ old.session = twin.session := by
    refine Rows.rel_any ?_ alike.olm
    obtain ⟨_, _⟩ := new
    rintro old _ ⟨_, _⟩
    rfl
  unfold Database.insertOlm
  rw [same]
  split
  · exact .inl ⟨rfl, rfl⟩
  · exact .inr
      ⟨_, _, rfl, rfl, { alike with olm := List.rel_append alike.olm (.cons new .nil) }⟩

theorem updateOlm (owner : AccountId) (session : Session) (nonce draw : Aead.Nonce)
    (encrypted decrypted : Instant)
    : (db.updateOlm owner session.id (session.pickle first nonce) encrypted decrypted).Alike
        first second
        (other.updateOlm owner session.id (session.pickle second draw) encrypted decrypted) := by
  refine { alike with olm := Rows.rel_amend ?_ ?_ alike.olm }
  · rintro row _ ⟨_, _⟩
    rfl
  · rintro row _ ⟨_, _⟩
    exact .sealed rfl draw

/-- An inbound session is inserted into both tables, or is there in both. -/
theorem insertInbound {row twin : InboundRow}
    (new : InboundRow.pickles.Alike first second row twin)
    : (db.insertInbound row = .error (.duplicateKey .inbound)
        ∧ other.insertInbound twin = .error (.duplicateKey .inbound))
      ∨ ∃ after later,
          db.insertInbound row = .ok after
          ∧ other.insertInbound twin = .ok later
          ∧ after.Alike first second later := by
  have same
      : (db.inbound.any fun old => old.owner = row.owner ∧ old.session = row.session)
        = other.inbound.any fun old => old.owner = twin.owner ∧ old.session = twin.session := by
    refine Rows.rel_any ?_ alike.inbound
    obtain ⟨_, _⟩ := new
    rintro old _ ⟨_, _⟩
    rfl
  unfold Database.insertInbound
  rw [same]
  split
  · exact .inl ⟨rfl, rfl⟩
  · exact .inr
      ⟨_, _, rfl, rfl, { alike with inbound := List.rel_append alike.inbound (.cons new .nil) }⟩

theorem inbound? (owner : AccountId) (room : RoomId) (sender : IdentityKey) (session : SessionId)
    : Option.Rel (InboundRow.pickles.Alike first second) (db.inbound? owner room sender session)
        (other.inbound? owner room sender session) := by
  refine Rows.rel_find? ?_ alike.inbound
  rintro row _ ⟨_, _⟩
  rfl

theorem upsertOutbound {row twin : OutboundRow}
    (new : OutboundRow.pickles.Alike first second row twin)
    : (db.upsertOutbound row).Alike first second (other.upsertOutbound twin) := by
  refine { alike with outbound := Rows.rel_upsert ?_ ?_ new alike.outbound }
  · obtain ⟨_, _⟩ := new
    rintro old _ ⟨_, _⟩
    rfl
  · intro _ _ _
    exact new

theorem any_isOutbound (owner : AccountId) (room : RoomId) (session : SessionId)
    : db.outbound.any (isOutbound owner room session)
      = other.outbound.any (isOutbound owner room session) := by
  refine Rows.rel_any ?_ alike.outbound
  rintro row _ ⟨_, _⟩
  rfl

theorem updateOutbound (owner : AccountId) (session : OutboundSession) (nonce draw : Aead.Nonce)
    (messageCount : Int64) (used : Instant)
    : (db.updateOutbound owner session.facts.room session.id (session.pickle first nonce)
        messageCount used).Alike first second
        (other.updateOutbound owner session.facts.room session.id (session.pickle second draw)
          messageCount used) := by
  refine { alike with outbound := Rows.rel_amend ?_ ?_ alike.outbound }
  · rintro row _ ⟨_, _⟩
    rfl
  · rintro row _ ⟨_, _⟩
    exact .sealed rfl draw

theorem outbound? (owner : AccountId) (room : RoomId)
    : Option.Rel (OutboundRow.pickles.Alike first second) (db.outbound? owner room)
        (other.outbound? owner room) := by
  refine Rows.rel_find? ?_ alike.outbound
  rintro row _ ⟨_, _⟩
  rfl

/-- As many sessions are removed from both tables. -/
theorem removeOutbound (owner : AccountId) (rooms : List RoomId)
    : (db.removeOutbound owner rooms).1 = (other.removeOutbound owner rooms).1
      ∧ (db.removeOutbound owner rooms).2.Alike first second
          (other.removeOutbound owner rooms).2 := by
  have agree : Rows.Agree (OutboundRow.pickles.Alike first second) (isOutboundIn owner rooms)
      (isOutboundIn owner rooms) := by
    rintro row _ ⟨_, _⟩
    rfl
  exact
    ⟨Rows.rel_countP agree alike.outbound,
      { alike with outbound := Rows.rel_remove agree alike.outbound }⟩

theorem insertPin (pin : Pin) : (db.insertPin pin).Alike first second (other.insertPin pin) :=
  { alike with pins := by simp only [Database.insertPin, alike.pins] }

theorem replaceDevices (user : UserId) (rows : List DeviceRow)
    : (db.replaceDevices user rows).Alike first second (other.replaceDevices user rows) := by
  have tracked : (db.track user).tracked = (other.track user).tracked := by
    unfold track isTracked
    rw [alike.tracked]
    split
    · exact alike.tracked
    · rfl
  simp only [replaceDevices_eq]
  exact { alike with tracked, devices := by simp only [alike.devices] }

theorem upsertKey (row : KeyRow) : (db.upsertKey row).Alike first second (other.upsertKey row) :=
  { alike with keys := by simp only [Database.upsertKey, alike.keys] }

theorem upsertSignature (row : SignatureRow)
    : (db.upsertSignature row).Alike first second (other.upsertSignature row) :=
  { alike with signatures := by simp only [Database.upsertSignature, alike.signatures] }

/-- As many signatures are removed from both tables. -/
theorem removeSignatures (signer : Signer)
    : (db.removeSignatures signer).1 = (other.removeSignatures signer).1
      ∧ (db.removeSignatures signer).2.Alike first second (other.removeSignatures signer).2 :=
  ⟨by simp only [Database.removeSignatures, alike.signatures],
    { alike with signatures := by simp only [Database.removeSignatures, alike.signatures] }⟩

end Database.Alike

end KeyVault
