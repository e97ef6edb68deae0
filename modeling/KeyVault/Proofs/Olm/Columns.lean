import KeyVault.Proofs.Olm.WriteThrough
import KeyVault.Proofs.Time.Stamps
/-!
The columns of an account's one-to-one sessions beside their pickles. They follow the writes of
the account whatever keys the pickles were sealed with, and the rows that are read for a key
come in descending order of the instants that they were written with.
-/

namespace KeyVault

-----------------------------------------------------------------------------------------
-- The columns follow the writes of a history
-----------------------------------------------------------------------------------------

/-- A row that records a session under a key: its columns are the key and the identifier and
the times of the session.
-/
structure OlmRow.Records (row : OlmRow) (entry : IdentityKey × Session) : Prop where
  sender : row.sender = entry.1
  session : row.session = entry.2.id
  times : Vault.timesOf row = entry.2.times

namespace OlmRow.Records

/-- Rows go on recording sessions, with whatever key a vault of the account seals them. -/
theorem keptByWrites (key : PickleKey) : KeptByWrites key OlmRow.Records where
  session := OlmRow.Records.session
  added stored := ⟨stored.sender, stored.session, (Session.times_of_unpickle stored.opens).symm⟩
  written recorded same nonce :=
    { sender := recorded.sender
      session := recorded.session
      times := by
        rw [← congrArg SessionTimes.created recorded.times]
        rfl }

end OlmRow.Records

/-- After every history on new tables the rows of an account record the sessions that its
writes say are stored, by induction over the events.
-/
theorem records_run (history : List (Aead.Nonce × Event)) (owner : AccountId)
    : List.Forall₂ OlmRow.Records ((Deployment.empty.run history).2.database.olmOf owner)
        (olmSessionsWritten owner (Deployment.empty.moments history)) := by
  refine Deployment.run_induction history (motive := fun past deployment =>
    List.Forall₂ OlmRow.Records (deployment.database.olmOf owner)
      (olmSessionsWritten owner past)) .nil ?_
  intro past moment _ before
  rw [olmSessionsWritten_append]
  rcases moment.olmChange_cases owner with ⟨silent, same⟩ | ⟨handle, _, _, _, change⟩
  · rw [silent, same, Option.toList_none, List.append_nil]
    exact before
  · exact (OlmRow.Records.keptByWrites handle.key).further before change

-----------------------------------------------------------------------------------------
-- The order in which rows are read
-----------------------------------------------------------------------------------------

namespace Database

variable (db : Database) (owner : AccountId) (sender : IdentityKey)

/-- Rows are read in descending order of the texts of their last decryption. -/
theorem pairwise_stamp_olmSessions
    : ((db.olmSessions owner sender).map OlmRow.decrypted).Pairwise fun newer older =>
        older.stamp ≤ newer.stamp := by
  rw [List.pairwise_map, olmSessions]
  refine (List.pairwise_mergeSort ?_ ?_ _).imp of_decide_eq_true
  · intro first second third before after
    exact decide_eq_true
      (String.le_trans (of_decide_eq_true after) (of_decide_eq_true before))
  · intro first second
    rw [Bool.or_eq_true, decide_eq_true_iff, decide_eq_true_iff]
    exact String.le_total ..

end Database

/-- A row has the instant of last decryption of the session that it records. -/
theorem OlmRow.Records.decrypted {row : OlmRow} {entry : IdentityKey × Session}
    (recorded : row.Records entry)
    : row.decrypted = entry.2.times.decrypted :=
  congrArg SessionTimes.decrypted recorded.times

/-- The sessions that are recorded under a key, in the order in which their rows are read, come
in descending order of the instants of their last decryption, if the years of these have four
digits.
-/
theorem exists_newest_first {db : Database} {owner : AccountId} {sender : IdentityKey}
    {entries : List (IdentityKey × Session)}
    (each : List.Forall₂ OlmRow.Records (db.olmOf owner) entries)
    (dated : ∀ entry ∈ entries, entry.1 = sender → entry.2.times.decrypted.FourDigitYear)
    : ∃ listed : List Session,
        (db.olmSessions owner sender).map OlmRow.session = listed.map Session.id
        ∧ listed.Perm ((entries.filter fun entry => entry.1 = sender).map Prod.snd)
        ∧ listed.Pairwise fun newer older =>
            older.times.decrypted ≤ newer.times.decrypted := by
  obtain ⟨found, recorded, same⟩ :=
    Vault.exists_forall₂_olmSessions (fun _ _ => OlmRow.Records.sender) each sender
  have dates
      : (db.olmSessions owner sender).map OlmRow.decrypted
        = found.map fun entry => entry.2.times.decrypted :=
    Rows.map_eq_map (fun _ _ => OlmRow.Records.decrypted) recorded
  have texts := db.pairwise_stamp_olmSessions owner sender
  have fits {entry : IdentityKey × Session} (member : entry ∈ found)
      : entry.2.times.decrypted.FourDigitYear := by
    obtain ⟨among, under⟩ := List.mem_filter.mp (same.subset member)
    exact dated entry among (of_decide_eq_true under)
  refine ⟨found.map Prod.snd, ?_, same.map _, ?_⟩
  · rw [List.map_map]
    exact Rows.map_eq_map (fun _ _ => OlmRow.Records.session) recorded
  · rw [dates, List.pairwise_map] at texts
    rw [List.pairwise_map]
    refine texts.imp_of_mem ?_
    intro newer older there there' text
    exact (Instant.stamp_le_stamp_iff (fits there') (fits there)).mp text

end KeyVault
