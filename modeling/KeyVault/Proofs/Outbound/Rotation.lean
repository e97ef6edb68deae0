import KeyVault.Proofs.Interval.Micros
import KeyVault.Session.Group
/-!
When an outbound session is due to be replaced. Its uses are counted up to the greatest number
that the counter holds and no further, so that a session which is due for them stays due, and
any limit on messages is met, however high it is. A session that is due for its age stays due as
far as its age grows with time, which it does but for leap seconds.
-/

namespace KeyVault

-----------------------------------------------------------------------------------------
-- The span between two instants
-----------------------------------------------------------------------------------------

namespace Instant

/-- The nanoseconds from the start of 1970 to an instant. A leap second counts like the first
second of the next minute.
-/
def elapsed (instant : Instant) : Int :=
  instant.seconds * 1_000_000_000 + instant.nanos

/-- Of instants that are in no leap second, the later one has the more nanoseconds. -/
theorem elapsed_le_elapsed {first later : Instant} (whole : ¬ first.InLeap)
    (order : first ≤ later)
    : first.elapsed ≤ later.elapsed := by
  change _ ∨ _ ∧ _ at order
  unfold InLeap at whole
  unfold elapsed
  omega

/-- The span between two instants is that of their nanoseconds, give or take a leap second. -/
theorem nanos_since (later earlier : Instant)
    : (later.since earlier).nanos
      = later.elapsed - earlier.elapsed + leapsBetween later earlier * 1_000_000_000 := by
  simp only [since, elapsed]
  omega

theorem leapsBetween_of_whole {later earlier : Instant} (ends : ¬ later.InLeap)
    (starts : ¬ earlier.InLeap)
    : leapsBetween later earlier = 0 := by
  simp [leapsBetween, ends, starts]

theorem leapsBetween_bounds (later earlier : Instant)
    : -1 ≤ leapsBetween later earlier ∧ leapsBetween later earlier ≤ 1 := by
  unfold leapsBetween
  omega

end Instant

-----------------------------------------------------------------------------------------
-- What makes a session due
-----------------------------------------------------------------------------------------

namespace OutboundSession

/-- A session after uses at some instants, in the order in which they were recorded. -/
def recordUses (session : OutboundSession) (uses : List Instant) : OutboundSession :=
  uses.foldl recordUse session

/-- Whether a session has encrypted as many messages as it may. -/
def DueByMessages (session : OutboundSession) : Prop :=
  session.facts.maxMessages ≤ session.facts.messageCount

/-- Whether a session is as old as it may become. -/
def DueByAge (session : OutboundSession) (now : Instant) : Prop :=
  session.facts.maxAge.nanos ≤ (now.since session.facts.created).nanos

/-- The age of a session does not shrink from one instant to another: its making and both instants
are in no leap second, or two seconds lie between the two.
-/
def Ages (session : OutboundSession) (now later : Instant) : Prop :=
  (¬ session.facts.created.InLeap ∧ ¬ now.InLeap ∧ ¬ later.InLeap ∧ now ≤ later)
  ∨ now.elapsed + 2_000_000_000 ≤ later.elapsed

/-- A session is due for its messages or for its age. -/
theorem shouldRotate_iff (session : OutboundSession) (now : Instant)
    : session.shouldRotate now = true ↔ session.DueByMessages ∨ session.DueByAge now := by
  rw [shouldRotate, Bool.or_eq_true, decide_eq_true_iff, decide_eq_true_iff]
  rfl

/-- A session that is due for its age is so while it ages. At worst the span to the first instant
counts a leap second too much and the span to the second one too few, which is two seconds.
-/
theorem DueByAge.later {session : OutboundSession} {now later : Instant}
    (due : session.DueByAge now) (ages : session.Ages now later)
    : session.DueByAge later := by
  unfold DueByAge at due ⊢
  rw [Instant.nanos_since] at due ⊢
  rcases ages with ⟨made, starts, ends, order⟩ | apart
  · rw [Instant.leapsBetween_of_whole starts made] at due
    rw [Instant.leapsBetween_of_whole ends made]
    have := Instant.elapsed_le_elapsed starts order
    omega
  · have := Instant.leapsBetween_bounds now session.facts.created
    have := Instant.leapsBetween_bounds later session.facts.created
    omega

-----------------------------------------------------------------------------------------
-- Counting
-----------------------------------------------------------------------------------------

/-- One more message is counted unless the counter is at its maximum. -/
theorem toNat_increment (count : UInt32)
    : (increment count).toNat = min (count.toNat + 1) (UInt32.size - 1) := by
  have bound := count.toNat_lt
  have greatest : (0xffffffff : UInt32).toNat = 0xffffffff := rfl
  unfold increment
  simp only [UInt32.size]
  by_cases full : count = 0xffffffff
  · rw [if_pos full, full, greatest]
    rfl
  · have below : count.toNat ≠ 0xffffffff := fun same => full (UInt32.toNat_inj.mp same)
    rw [if_neg full, UInt32.toNat_add, UInt32.toNat_one]
    omega

/-- Uses are counted up to the maximum of the counter, by induction over the uses: a counter
that is full stays full.
-/
theorem toNat_messageCount_recordUses (session : OutboundSession) (uses : List Instant)
    : (session.recordUses uses).facts.messageCount.toNat
      = min (session.facts.messageCount.toNat + uses.length) (UInt32.size - 1) := by
  induction uses generalizing session with
  | nil =>
    have bound := session.facts.messageCount.toNat_lt
    simp only [recordUses, List.foldl_nil, List.length_nil, UInt32.size]
    omega
  | cons use rest ih =>
    have counted := ih (session.recordUse use)
    have first := toNat_increment session.facts.messageCount
    simp only [recordUses, List.foldl_cons, List.length_cons, recordUse] at counted first ⊢
    rw [counted, first]
    omega

/-- Uses change the count and the instant of the last use, and nothing else. -/
theorem recordUses_eq (session : OutboundSession) (uses : List Instant)
    : session.recordUses uses
      = { session with
          facts := { session.facts with
            messageCount := (session.recordUses uses).facts.messageCount
            used := uses.getLast?.getD session.facts.used } } := by
  induction uses generalizing session with
  | nil => rfl
  | cons use rest ih =>
    have further := ih (session.recordUse use)
    have last : rest.getLast?.getD use = ((use :: rest).getLast?).getD session.facts.used := by
      simp [List.getLast?_cons]
    simp only [recordUses, List.foldl_cons, recordUse] at further last ⊢
    rw [further, last]

/-- A limit on messages is met when as many uses were recorded as were left, since no limit
is beyond the maximum of the counter.
-/
theorem dueByMessages_recordUses_iff (session : OutboundSession) (uses : List Instant)
    : (session.recordUses uses).DueByMessages
      ↔ session.facts.maxMessages.toNat ≤ session.facts.messageCount.toNat + uses.length := by
  have bound := session.facts.maxMessages.toNat_lt
  have counted := toNat_messageCount_recordUses session uses
  have limit : (session.recordUses uses).facts.maxMessages = session.facts.maxMessages := by
    rw [recordUses_eq]
  unfold DueByMessages
  rw [UInt32.le_iff_toNat_le, limit, counted]
  simp only [UInt32.size]
  omega

/-- Uses do not make a session younger. -/
theorem dueByAge_recordUses_iff (session : OutboundSession) (uses : List Instant) (now : Instant)
    : (session.recordUses uses).DueByAge now ↔ session.DueByAge now := by
  rw [recordUses_eq]
  rfl

/-- A session that is due stays due over further uses, for its messages at any instant and for its
age while it ages.
-/
theorem shouldRotate_recordUses {session : OutboundSession} {now later : Instant}
    (due : session.shouldRotate now = true)
    (lasts : session.DueByMessages ∨ session.Ages now later) (uses : List Instant)
    : (session.recordUses uses).shouldRotate later = true := by
  have stays (messages : session.DueByMessages) : (session.recordUses uses).DueByMessages := by
    rw [dueByMessages_recordUses_iff]
    exact Nat.le_add_right_of_le (UInt32.le_iff_toNat_le.mp messages)
  rw [shouldRotate_iff] at due ⊢
  rcases due with messages | age
  · exact .inl (stays messages)
  · refine lasts.imp stays fun ages => ?_
    rw [dueByAge_recordUses_iff]
    exact age.later ages

end OutboundSession

/-- A session of the highest limit that there is, with one message left to encrypt, which was
made five seconds after 1970 started.
-/
def lastingOutbound : OutboundSession :=
  let made : Instant := ⟨5, 0, by decide⟩
  ⟨⟨"one"⟩, ⟨⟨"!room"⟩, true, 0xffffffff, 0xfffffffe, .week, made, made⟩, [1]⟩

/-- A session that may be a second old, made half a second before a leap second. -/
def leapingOutbound : OutboundSession :=
  let made : Instant := ⟨1_483_228_799, 500_000_000, by decide⟩
  ⟨⟨"one"⟩, ⟨⟨"!room"⟩, true, 100, 0, ⟨1_000_000_000, by decide⟩, made, made⟩, [1]⟩

end KeyVault
