import KeyVault.Proofs.Cache.Filings
import KeyVault.Proofs.Olm.NewestFirst
import KeyVault.Proofs.Olm.OneObject
/-!
A cache is one flat map from keys and identifiers to shared sessions. It is read and filled as
one; what is done under one key changes nothing under another; and a session that is changed
in place is seen changed through every entry that holds it.
-/

namespace KeyVault

-----------------------------------------------------------------------------------------
-- Caches that agree but for a key
-----------------------------------------------------------------------------------------

/-- Two caches have the same under every key but one. -/
def Cache.AgreeBut (key : IdentityKey) (left right : Cache) : Prop :=
  ∀ other, other ≠ key → left.under other = right.under other

namespace Cache.AgreeBut

variable {key other : IdentityKey} {left right : Cache}

theorem refl (key : IdentityKey) (cache : Cache) : Cache.AgreeBut key cache cache :=
  fun _ _ => rfl

theorem hasAny (agree : Cache.AgreeBut key left right) (different : other ≠ key)
    : left.hasAny other = right.hasAny other := by
  simp only [Cache.hasAny, agree other different]

theorem get? (agree : Cache.AgreeBut key left right) (different : other ≠ key) (id : SessionId)
    : left.get? other id = right.get? other id := by
  simp only [Cache.get?, agree other different]

theorem contains (agree : Cache.AgreeBut key left right) (different : other ≠ key)
    (id : SessionId)
    : left.contains other id = right.contains other id := by
  simp only [Cache.contains, agree.get? different id]

/-- What is filed under the key is not seen under another one. -/
theorem insert_left (agree : Cache.AgreeBut key left right) (id : SessionId) (ref : SessionRef)
    : Cache.AgreeBut key (left.insert key id ref) right := by
  intro other different
  rw [Cache.under_insert_of_ne different, agree other different]

theorem getOrInsert_left (agree : Cache.AgreeBut key left right) (id : SessionId)
    (ref : SessionRef)
    : Cache.AgreeBut key (left.getOrInsert key id ref).2 right := by
  unfold Cache.getOrInsert
  cases left.get? key id with
  | some kept => exact agree
  | none => exact agree.insert_left id ref

theorem insert (agree : Cache.AgreeBut key left right) (different : other ≠ key)
    (id : SessionId) (ref : SessionRef)
    : Cache.AgreeBut key (left.insert other id ref) (right.insert other id ref) := by
  intro third apart
  by_cases same : third = other
  · rw [same, Cache.under_insert_self, Cache.under_insert_self, agree other different]
  · rw [Cache.under_insert_of_ne same, Cache.under_insert_of_ne same, agree third apart]

/-- What is offered under another key is taken in both caches or in neither. -/
theorem getOrInsert (agree : Cache.AgreeBut key left right) (different : other ≠ key)
    (id : SessionId) (ref : SessionRef)
    : (left.getOrInsert other id ref).1 = (right.getOrInsert other id ref).1
      ∧ Cache.AgreeBut key (left.getOrInsert other id ref).2
          (right.getOrInsert other id ref).2 := by
  have same := agree.get? different id
  unfold Cache.getOrInsert
  rw [same]
  cases right.get? other id with
  | some kept => exact ⟨rfl, agree⟩
  | none => exact ⟨rfl, agree.insert different id ref⟩

end Cache.AgreeBut

namespace Cabinet

-----------------------------------------------------------------------------------------
-- What a step is about
-----------------------------------------------------------------------------------------

/-- The key under which a step reads or fills the cache. -/
def Step.under? : Step → Option IdentityKey
  | hasAny key | contains key _ | get key _ | insert key _ | getOrInsert key _ => some key
  | _ => none

/-- The shared session that a step changes in place, and how. -/
def Step.change? : Step → Option (SessionRef × (Session → Session))
  | setRatchet ref ratchet => some (ref, (·.setRatchet ratchet))
  | markEncrypted ref time => some (ref, (·.markEncrypted time))
  | markDecrypted ref time => some (ref, (·.markDecrypted time))
  | _ => none

/-- What a step makes of the fields of the session that it changes in place: it sets the ratchet or
the instant of one kind of use, and keeps the others.
-/
inductive Step.Sets (ref : SessionRef) : Step → Session → Session → Prop
  | ratchet {id times old new}
    : Sets ref (.setRatchet ref new) ⟨id, old, times⟩ ⟨id, new, times⟩
  | encrypted {id ratchet created decrypted old new}
    : Sets ref (.markEncrypted ref new) ⟨id, ratchet, ⟨created, old, decrypted⟩⟩
        ⟨id, ratchet, ⟨created, new, decrypted⟩⟩
  | decrypted {id ratchet created encrypted old new}
    : Sets ref (.markDecrypted ref new) ⟨id, ratchet, ⟨created, encrypted, old⟩⟩
        ⟨id, ratchet, ⟨created, encrypted, new⟩⟩

/-- A change in place sets one field. -/
theorem Step.sets_of_change {step : Step} {ref : SessionRef} {change : Session → Session}
    (changes : step.change? = some (ref, change)) (session : Session)
    : step.Sets ref session (change session) := by
  cases step <;> cases changes
  case setRatchet => exact .ratchet
  case markEncrypted => exact .encrypted
  case markDecrypted => exact .decrypted

-----------------------------------------------------------------------------------------
-- Histories without the steps under a key
-----------------------------------------------------------------------------------------

/-- Two cabinets of one account have the same shared sessions, and the same cached under
every key but one.
-/
structure AgreeBut (key : IdentityKey) (left right : Cabinet) : Prop where
  owner : left.owner = right.owner
  shared : left.shared = right.shared
  cache : Cache.AgreeBut key left.cache right.cache

namespace AgreeBut

variable {key : IdentityKey} {left right : Cabinet}

theorem refl (key : IdentityKey) (cabinet : Cabinet) : cabinet.AgreeBut key cabinet :=
  ⟨rfl, rfl, .refl key cabinet.cache⟩

/-- A step under the key is not seen elsewhere. -/
theorem step_left (agree : AgreeBut key left right) {step : Step}
    (under : step.under? = some key)
    : AgreeBut key (left.step step).2 right := by
  obtain ⟨owner, shared, cache⟩ := agree
  cases step <;> cases under
  case insert ref =>
    simp only [Cabinet.step]
    cases left.shared.get? ref with
    | none => exact ⟨owner, shared, cache⟩
    | some session => exact ⟨owner, shared, cache.insert_left session.id ref⟩
  case getOrInsert ref =>
    simp only [Cabinet.step]
    cases left.shared.get? ref with
    | none => exact ⟨owner, shared, cache⟩
    | some session => exact ⟨owner, shared, cache.getOrInsert_left session.id ref⟩
  all_goals exact ⟨owner, shared, cache⟩

/-- Any other step answers the same in both cabinets, and they agree after it. -/
theorem step (agree : AgreeBut key left right) {step : Step} (apart : step.under? ≠ some key)
    : (left.step step).1 = (right.step step).1
      ∧ AgreeBut key (left.step step).2 (right.step step).2 := by
  obtain ⟨leftOwner, leftShared, leftCache⟩ := left
  obtain ⟨rightOwner, rightShared, rightCache⟩ := right
  obtain ⟨rfl, rfl, cache⟩ := agree
  have different {other : IdentityKey} (under : step.under? = some other) : other ≠ key :=
    fun same => apart (same ▸ under)
  cases step with
  | share session => exact ⟨rfl, rfl, rfl, cache⟩
  | setRatchet | markEncrypted | markDecrypted => exact ⟨rfl, rfl, rfl, cache⟩
  | hasAny other =>
    exact ⟨congrArg Answer.flag (cache.hasAny (different rfl)), rfl, rfl, cache⟩
  | contains other id =>
    exact ⟨congrArg Answer.flag (cache.contains (different rfl) id), rfl, rfl, cache⟩
  | get other id =>
    exact ⟨congrArg Answer.entry (cache.get? (different rfl) id), rfl, rfl, cache⟩
  | insert other ref =>
    -- The sessions are shared by both cabinets, so that both file under one identifier.
    simp only [Cabinet.step]
    cases leftShared.get? ref with
    | none => exact ⟨rfl, rfl, rfl, cache⟩
    | some session =>
      have displaced := cache.get? (different rfl) session.id
      exact ⟨congrArg Answer.entry displaced, rfl, rfl, cache.insert (different rfl) _ _⟩
  | getOrInsert other ref =>
    simp only [Cabinet.step]
    cases leftShared.get? ref with
    | none => exact ⟨rfl, rfl, rfl, cache⟩
    | some session =>
      obtain ⟨kept, left⟩ := cache.getOrInsert (different rfl) session.id ref
      exact ⟨congrArg (fun ref => Answer.entry (some ref)) kept, rfl, rfl, left⟩
  | clear => exact ⟨rfl, rfl, rfl, .refl key .empty⟩

/-- A history and the same one without its steps under the key leave cabinets that agree, by
induction over the steps.
-/
theorem run (agree : AgreeBut key left right) (steps : List Step)
    : AgreeBut key (left.run steps)
        (right.run (steps.filter fun step => step.under? ≠ some key)) := by
  induction steps generalizing left right with
  | nil => exact agree
  | cons step rest ih =>
    by_cases under : step.under? = some key
    · rw [List.filter_cons_of_neg (by simp [under])]
      exact ih (agree.step_left under)
    · rw [List.filter_cons_of_pos (by simp [under])]
      exact ih (agree.step under).2

end AgreeBut

-----------------------------------------------------------------------------------------
-- Shared sessions keep their identifiers
-----------------------------------------------------------------------------------------

/-- A change in place leaves the cache. -/
theorem step_of_change {step : Step} {ref : SessionRef} {change : Session → Session}
    (changes : step.change? = some (ref, change)) (cabinet : Cabinet)
    : (cabinet.step step).2 = { cabinet with shared := cabinet.shared.modify ref change } := by
  cases step <;> cases changes <;> rfl

/-- No step loses a shared session or changes its identifier. -/
theorem keeps_step (cabinet : Cabinet) (step : Step)
    : cabinet.shared.Keeps (cabinet.step step).2.shared := by
  cases step
  case share session => exact .add cabinet.shared cabinet.owner session
  case setRatchet ref ratchet => exact .modify cabinet.shared ref fun _ => rfl
  case markEncrypted ref time => exact .modify cabinet.shared ref fun _ => rfl
  case markDecrypted ref time => exact .modify cabinet.shared ref fun _ => rfl
  case insert key ref =>
    simp only [Cabinet.step]
    cases cabinet.shared.get? ref <;> exact .refl cabinet.shared
  case getOrInsert key ref =>
    simp only [Cabinet.step]
    cases cabinet.shared.get? ref <;> exact .refl cabinet.shared
  all_goals exact .refl cabinet.shared

/-- Nor does a history, by induction over its steps. -/
theorem keeps_run (cabinet : Cabinet) (steps : List Step)
    : cabinet.shared.Keeps (cabinet.run steps).shared := by
  induction steps generalizing cabinet with
  | nil => exact .refl cabinet.shared
  | cons step rest ih => exact (cabinet.keeps_step step).trans (ih (cabinet.step step).2)

/-- Every step leaves the cache with sessions under their own identifiers. -/
theorem labels_step {cabinet : Cabinet} (labels : cabinet.cache.Labels cabinet.shared)
    (step : Step)
    : (cabinet.step step).2.cache.Labels (cabinet.step step).2.shared := by
  have kept := labels.keeps (cabinet.keeps_step step)
  cases step
  case insert key ref =>
    simp only [Cabinet.step]
    cases there : cabinet.shared.get? ref with
    | none => exact labels
    | some session => exact labels.insert key there
  case getOrInsert key ref =>
    simp only [Cabinet.step]
    cases there : cabinet.shared.get? ref with
    | none => exact labels
    | some session => exact labels.getOrInsert key there
  case clear => exact .empty cabinet.shared
  all_goals exact kept

theorem labels_run {cabinet : Cabinet} (labels : cabinet.cache.Labels cabinet.shared)
    (steps : List Step)
    : (cabinet.run steps).cache.Labels (cabinet.run steps).shared := by
  induction steps generalizing cabinet with
  | nil => exact labels
  | cons step rest ih => exact ih (labels_step labels step)

-----------------------------------------------------------------------------------------
-- Cabinets that act as a flat map
-----------------------------------------------------------------------------------------

/-- A cabinet acts as a map of entries. It is read as the map. Inserting a session replaces
the entry of its identifier and gives what was there; offering one takes an entry only when it
is empty, and gives what is there afterwards.
-/
structure ActsAs (cabinet : Cabinet) (filed : IdentityKey → SessionId → Option SessionRef)
    : Prop where
  get : ∀ key id, cabinet.step (.get key id) = (.entry (filed key id), cabinet)
  contains
    : ∀ key id, cabinet.step (.contains key id) = (.flag (filed key id).isSome, cabinet)
  hasAny
    : ∀ key,
        ∃ any,
          cabinet.step (.hasAny key) = (.flag any, cabinet)
          ∧ (any = true ↔ ∃ id, (filed key id).isSome = true)
  insert
    : ∀ key ref session,
        cabinet.shared.get? ref = some session
        → let inserting := cabinet.step (.insert key ref)
          inserting.1 = .entry (filed key session.id)
          ∧ ∀ other id,
              (inserting.2.step (.get other id)).1
              = .entry (if other = key ∧ id = session.id then some ref else filed other id)
  getOrInsert
    : ∀ key ref session,
        cabinet.shared.get? ref = some session
        → let offering := cabinet.step (.getOrInsert key ref)
          let kept := (filed key session.id).getD ref
          offering.1 = .entry (some kept)
          ∧ ∀ other id,
              (offering.2.step (.get other id)).1
              = .entry (if other = key ∧ id = session.id then some kept else filed other id)

/-- Every cabinet acts as the map of what its cache has. -/
theorem actsAs_cache (cabinet : Cabinet) : cabinet.ActsAs cabinet.cache.get? where
  get _ _ := rfl
  contains _ _ := rfl
  hasAny key := by
    refine ⟨cabinet.cache.hasAny key, rfl, ?_⟩
    simp only [Cache.hasAny_iff, Option.isSome_iff_exists]
  insert key ref session there := by
    simp only [Cabinet.step, there, true_and]
    exact fun other id => congrArg Answer.entry (Cache.get?_insert ..)
  getOrInsert key ref session there := by
    simp only [Cabinet.step, there, Cache.getOrInsert_fst, true_and]
    exact fun other id => congrArg Answer.entry (Cache.get?_getOrInsert ..)

/-- The session that an entry shows. -/
def shown? (cabinet : Cabinet) (key : IdentityKey) (id : SessionId) : Option Session :=
  (cabinet.cache.get? key id).bind cabinet.shared.get?

/-- A change in place is seen through the name of the session, and through all entries that
hold it and no others.
-/
theorem seen_of_change {step : Step} {ref : SessionRef} {change : Session → Session}
    (changes : step.change? = some (ref, change)) (cabinet : Cabinet)
    : let changed := (cabinet.step step).2
      changed.cache = cabinet.cache
      ∧ (∀ other,
          changed.shared.get? other
          = if other = ref then (cabinet.shared.get? other).map change
            else cabinet.shared.get? other)
      ∧ ∀ key id,
          changed.shown? key id
          = if cabinet.cache.get? key id = some ref then (cabinet.shown? key id).map change
            else cabinet.shown? key id := by
  rw [step_of_change changes]
  have names (other : SessionRef)
      : (cabinet.shared.modify ref change).get? other
        = if other = ref then (cabinet.shared.get? other).map change
          else cabinet.shared.get? other := by
    rw [SharedSessions.get?_modify]
    exact if_congr eq_comm rfl rfl
  refine ⟨rfl, names, ?_⟩
  intro key id
  simp only [shown?]
  cases cabinet.cache.get? key id with
  | none => simp
  | some held => simpa using names held

end Cabinet

/-- A cache is one flat map from keys and identifiers to shared sessions. After every history on a
new cabinet it acts as the finite map of what the history filed, each session under its own
identifier, and steps under one key are not seen under another. A change in place sets one field,
and is seen through the name of the session and through just the entries that hold it.
-/
theorem cache_is_one_flat_map (owner : AccountId) (past : List Cabinet.Step)
    : let cabinet := (Cabinet.empty owner).run past
      let filed := Cabinet.Filing.filedAt ((Cabinet.empty owner).filings past)
      cabinet.ActsAs filed
      ∧ {place : IdentityKey × SessionId | (filed place.1 place.2).isSome = true}.Finite
      ∧ (∀ key id ref,
          filed key id = some ref
          → ∃ session, cabinet.shared.get? ref = some session ∧ session.id = id)
      ∧ (∀ later, cabinet.shared.Keeps (cabinet.run later).shared)
      ∧ (∀ key step,
          step.under? ≠ some key
          → let elsewhere :=
              (Cabinet.empty owner).run (past.filter fun step => step.under? ≠ some key)
            (cabinet.step step).1 = (elsewhere.step step).1)
      ∧ ∀ step ref change,
          step.change? = some (ref, change)
          → let changed := (cabinet.step step).2
            (∀ session, step.Sets ref session (change session))
            ∧ changed.cache = cabinet.cache
            ∧ (∀ other,
                changed.shared.get? other
                = if other = ref then (cabinet.shared.get? other).map change
                  else cabinet.shared.get? other)
            ∧ ∀ key id,
                changed.shown? key id
                = if filed key id = some ref then (cabinet.shown? key id).map change
                  else cabinet.shown? key id := by
  intro cabinet filed
  have same : cabinet.cache.get? = filed := by
    funext key id
    exact Cabinet.get?_run owner past key id
  have labels
      : ((Cabinet.empty owner).run past).cache.Labels ((Cabinet.empty owner).run past).shared :=
    Cabinet.labels_run (.empty _) past
  refine ⟨same ▸ cabinet.actsAs_cache, Cabinet.Filing.finite_filedAt _, ?_,
    cabinet.keeps_run, ?_, ?_⟩
  · intro key id ref there
    exact labels key id ref (same ▸ there)
  · intro key step apart elsewhere
    exact (((Cabinet.AgreeBut.refl key (.empty owner)).run past).step apart).1
  · intro step ref change changes
    rw [← same]
    exact ⟨Cabinet.Step.sets_of_change changes, Cabinet.seen_of_change changes cabinet⟩

/-- Two sessions of one identifier are shared. Under one key both are offered; under another one
the second is inserted, and then the first in its place.
-/
def sharingTwins : List Cabinet.Step :=
  let first : SessionRef := ⟨⟨"@a"⟩, 0⟩
  let second : SessionRef := ⟨⟨"@a"⟩, 1⟩
  [.share (madeSession "one"), .share (madeSession "one"),
    .getOrInsert ⟨"curve"⟩ first, .getOrInsert ⟨"curve"⟩ second,
    .insert ⟨"other"⟩ second, .insert ⟨"other"⟩ first]

/-- The first of them is filed under both keys. Offering the second gives the first, inserting
it does so too, and a change of the first is seen under both keys.
-/
theorem sharingTwins_files_one
    : let cabinet := (Cabinet.empty ⟨"@a"⟩).run sharingTwins
      let first : SessionRef := ⟨⟨"@a"⟩, 0⟩
      let second : SessionRef := ⟨⟨"@a"⟩, 1⟩
      let changed := (cabinet.step (.setRatchet first [2])).2
      cabinet.shared.get? second = some (madeSession "one")
      ∧ (cabinet.step (.getOrInsert ⟨"curve"⟩ second)).1 = .entry (some first)
      ∧ (cabinet.step (.insert ⟨"other"⟩ second)).1 = .entry (some first)
      ∧ changed.shown? ⟨"curve"⟩ ⟨"one"⟩ = some ((madeSession "one").setRatchet [2])
      ∧ changed.shown? ⟨"other"⟩ ⟨"one"⟩ = some ((madeSession "one").setRatchet [2]) := by
  intro cabinet first second changed
  have there : cabinet.shared.get? second = some (madeSession "one") := by decide
  have filed
      : ∀ key ∈ [(⟨"curve"⟩ : IdentityKey), ⟨"other"⟩],
          Cabinet.Filing.filedAt ((Cabinet.empty ⟨"@a"⟩).filings sharingTwins) key ⟨"one"⟩
            = some first
          ∧ cabinet.shown? key ⟨"one"⟩ = some (madeSession "one") := by
    decide
  obtain ⟨acts, _, _, _, _, seen⟩ := cache_is_one_flat_map ⟨"@a"⟩ sharingTwins
  obtain ⟨underCurve, showsCurve⟩ := filed ⟨"curve"⟩ (by decide)
  obtain ⟨underOther, showsOther⟩ := filed ⟨"other"⟩ (by decide)
  obtain ⟨_, _, _, shows⟩ := seen (.setRatchet first [2]) first (·.setRatchet [2]) rfl
  refine ⟨there, ?_, ?_, ?_, ?_⟩
  · rw [(acts.getOrInsert ⟨"curve"⟩ second _ there).1]
    exact congrArg (fun kept => Cabinet.Answer.entry (some (kept.getD second))) underCurve
  · rw [(acts.insert ⟨"other"⟩ second _ there).1]
    exact congrArg Cabinet.Answer.entry underOther
  · rw [shows, if_pos underCurve, showsCurve]
    rfl
  · rw [shows, if_pos underOther, showsOther]
    rfl

end KeyVault
