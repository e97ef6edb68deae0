import KeyVault.Config
import Mathlib.Data.List.Induction
/-!
The configuration that named variables give: which variables are accepted, what is made of
them, and which one is at fault otherwise. What numbers texts denote is said by a grammar,
apart from the reader of the pool size.
-/

namespace KeyVault.Config

-----------------------------------------------------------------------------------------
-- Numbers that texts denote
-----------------------------------------------------------------------------------------

/-- Decimal digits and the number that they denote: one digit, or digits and a further one.
Zeros may stand in front.
-/
inductive Digits : List Char → Nat → Prop where
  | single {digit : Nat} (decimal : digit < 10) : Digits [digit.digitChar] digit
  | further {text : List Char} {n digit : Nat} (front : Digits text n) (decimal : digit < 10)
    : Digits (text ++ [digit.digitChar]) (10 * n + digit)

/-- A text that denotes a number: decimal digits, behind a plus sign or not. -/
def Denotes (raw : String) (n : Nat) : Prop :=
  Digits raw.toList n ∨ ∃ text, raw.toList = '+' :: text ∧ Digits text n

/-- A character is a digit when it is the one of a number below ten. -/
theorem exists_digitChar_eq {c : Char} (digit : c.isDigit = true)
    : ∃ d, d < 10 ∧ d.digitChar = c := by
  obtain ⟨least, greatest⟩ := Char.isDigit_iff_toNat.mp digit
  simp only [Char.reduceToNat] at least greatest
  have decimal : c.toNat - 48 < 10 := by omega
  refine ⟨c.toNat - 48, decimal, Char.toNat_inj.mp ?_⟩
  rw [Nat.toNat_digitChar_of_lt_ten decimal]
  omega

/-- Digits are read from the front as the number that they denote: by induction on the text
from its end, as the grammar has it.
-/
theorem digits_iff {text : List Char} {n : Nat}
    : Digits text n
      ↔ text ≠ [] ∧ (∀ c ∈ text, c.isDigit = true) ∧ Nat.ofDigitChars 10 text 0 = n := by
  constructor
  · intro digits
    induction digits with
    | single decimal =>
      refine ⟨List.cons_ne_nil _ _, ?_, ?_⟩
      · simpa using decimal
      · rw [Nat.ofDigitChars_cons_digitChar_of_lt_ten decimal]
        simp
    | further front decimal ih =>
      obtain ⟨_, before, value⟩ := ih
      refine ⟨by simp, ?_, ?_⟩
      · intro c member
        rcases List.mem_append.mp member with earlier | last
        · exact before c earlier
        · cases List.mem_singleton.mp last
          simpa using decimal
      · rw [Nat.ofDigitChars_append, value, Nat.ofDigitChars_cons_digitChar_of_lt_ten decimal]
        simp
  · rintro ⟨filled, digits, rfl⟩
    induction text using List.reverseRecOn with
    | nil => exact absurd rfl filled
    | append_singleton front c ih =>
      obtain ⟨d, decimal, rfl⟩ := exists_digitChar_eq (digits c (by simp))
      rw [Nat.ofDigitChars_append, Nat.ofDigitChars_cons_digitChar_of_lt_ten decimal,
        Nat.ofDigitChars_nil]
      by_cases alone : front = []
      · subst alone
        simpa using Digits.single decimal
      · have before : ∀ c ∈ front, c.isDigit = true :=
          fun c member => digits c (List.mem_append_left _ member)
        exact .further (ih alone before) decimal

/-- The pool size is read off the digits of a text, which are those that denote its number. -/
theorem exists_parsePoolSize_eq (raw : String)
    : ∃ text,
        (∀ n, Denotes raw n ↔ Digits text n)
        ∧ parsePoolSize raw
          = if !text.isEmpty && text.all Char.isDigit
                && Nat.ofDigitChars 10 text 0 < UInt32.size then
              some (.ofNat (Nat.ofDigitChars 10 text 0))
            else none := by
  by_cases signed : ∃ text, raw.toList = '+' :: text
  · obtain ⟨text, sign⟩ := signed
    refine ⟨text, ?_, by simp only [parsePoolSize, sign]⟩
    intro n
    have unread : ¬ Digits ('+' :: text) n := by
      intro digits
      obtain ⟨_, decimal, _⟩ := digits_iff.mp digits
      exact absurd (decimal '+' List.mem_cons_self) (by decide)
    simp [Denotes, sign, unread]
  · refine ⟨raw.toList, ?_, ?_⟩
    · intro n
      refine ⟨?_, .inl⟩
      rintro (digits | ⟨text, sign, _⟩)
      · exact digits
      · exact absurd ⟨text, sign⟩ signed
    · unfold parsePoolSize
      cases chars : raw.toList with
      | nil => rfl
      | cons c text =>
        have plain : c ≠ '+' := by
          rintro rfl
          exact signed ⟨text, chars⟩
        simp [plain]

/-- A text gives a pool size when it denotes that number. -/
theorem parsePoolSize_eq_some_iff {raw : String} {size : UInt32}
    : parsePoolSize raw = some size ↔ Denotes raw size.toNat := by
  obtain ⟨text, denotes, read⟩ := exists_parsePoolSize_eq raw
  rw [denotes, digits_iff, read]
  constructor
  · intro parsed
    obtain ⟨valid, same⟩ := Option.ite_none_right_eq_some.mp parsed
    cases same
    simp only [Bool.and_eq_true, Bool.not_eq_true', List.isEmpty_eq_false_iff, List.all_eq_true,
      decide_eq_true_eq] at valid
    obtain ⟨⟨filled, decimal⟩, fits⟩ := valid
    exact ⟨filled, decimal, (UInt32.toNat_ofNat_of_lt' fits).symm⟩
  · rintro ⟨filled, decimal, value⟩
    have fits : size.toNat < UInt32.size := size.toNat_lt
    rw [value, UInt32.ofNat_toNat, if_pos]
    simpa [filled, fits] using decimal

/-- A text gives no pool size when every number that it denotes is too great for one. -/
theorem parsePoolSize_eq_none_iff {raw : String}
    : parsePoolSize raw = none ↔ ∀ n, Denotes raw n → UInt32.size ≤ n := by
  constructor
  · intro refused n denoted
    apply Nat.le_of_not_lt
    intro fits
    have parsed : parsePoolSize raw = some (.ofNat n) := by
      rw [parsePoolSize_eq_some_iff, UInt32.toNat_ofNat_of_lt' fits]
      exact denoted
    cases refused.symm.trans parsed
  · intro tooGreat
    cases parsed : parsePoolSize raw with
    | none => rfl
    | some size =>
      have beyond := tooGreat _ (parsePoolSize_eq_some_iff.mp parsed)
      exact absurd size.toNat_lt (Nat.not_lt_of_le beyond)

example : parsePoolSize "+007" = some 7 ∧ parsePoolSize "4294967296" = none := by decide

-----------------------------------------------------------------------------------------
-- Variables
-----------------------------------------------------------------------------------------

/-- The variables that must be set, in the order in which they are asked for. -/
def requiredVariables : List String :=
  [urlVariable, accountVariable, passphraseVariable]

/-- A variable that is missing or empty. -/
def Unset (lookup : String → Option String) (name : String) : Prop :=
  lookup name = none ∨ lookup name = some ""

instance (lookup : String → Option String) (name : String) : Decidable (Unset lookup name) :=
  inferInstanceAs (Decidable (_ ∨ _))

/-- A variable with a value that is not empty. -/
def Sets (lookup : String → Option String) (name value : String) : Prop :=
  lookup name = some value ∧ value ≠ ""

variable {lookup : String → Option String}

/-- A variable is unset or set, and asking for it tells which. -/
theorem required_cases (lookup : String → Option String) (name : String)
    : (Unset lookup name ∧ required lookup name = .error (.notSet name))
      ∨ ∃ value,
          Sets lookup name value
          ∧ ¬ Unset lookup name
          ∧ required lookup name = .ok value := by
  unfold required
  cases found : lookup name with
  | none => exact .inl ⟨.inl found, rfl⟩
  | some value =>
    by_cases empty : value = ""
    · subst empty
      exact .inl ⟨.inr found, rfl⟩
    · refine .inr ⟨value, ⟨found, empty⟩, ?_, if_neg empty⟩
      simp [Unset, found, empty]

/-- The pool size that variables give, or the fault of the text that stands for it. -/
def poolSize (lookup : String → Option String) : Except Fault UInt32 :=
  (lookup poolVariable).elim (.ok defaultConnections) fun raw =>
    (parsePoolSize raw).elim (.error (.notANumber poolVariable raw)) .ok

/-- The pool size is the default, or the number that a text denotes. -/
theorem poolSize_eq_ok_iff {size : UInt32}
    : poolSize lookup = .ok size
      ↔ lookup poolVariable = none ∧ size = defaultConnections
        ∨ ∃ raw, lookup poolVariable = some raw ∧ Denotes raw size.toNat := by
  unfold poolSize
  cases found : lookup poolVariable with
  | none => simp [eq_comm]
  | some raw =>
    simp only [Option.elim_some, reduceCtorEq, false_and, false_or, Option.some.injEq,
      exists_eq_left']
    rw [← parsePoolSize_eq_some_iff]
    cases parsePoolSize raw <;> simp

/-- Only a text that denotes no number below the bound is at fault. -/
theorem poolSize_eq_error_iff {fault : Fault}
    : poolSize lookup = .error fault
      ↔ ∃ raw,
          lookup poolVariable = some raw
          ∧ (∀ n, Denotes raw n → UInt32.size ≤ n)
          ∧ fault = .notANumber poolVariable raw := by
  unfold poolSize
  cases found : lookup poolVariable with
  | none => simp
  | some raw =>
    simp only [Option.elim_some, Option.some.injEq, exists_eq_left']
    rw [← parsePoolSize_eq_none_iff]
    cases parsePoolSize raw <;> simp [eq_comm]

/-- The first unset variable is at fault, or all of them are set and the pool size decides. -/
theorem ofLookup_cases (lookup : String → Option String)
    : (∃ name,
        requiredVariables.find? (fun name => Unset lookup name) = some name
        ∧ ofLookup lookup = .error (.notSet name))
      ∨ ∃ databaseUrl account passphrase,
          requiredVariables.find? (fun name => Unset lookup name) = none
          ∧ Sets lookup urlVariable databaseUrl
          ∧ Sets lookup accountVariable account
          ∧ Sets lookup passphraseVariable passphrase
          ∧ ofLookup lookup
            = (poolSize lookup).map fun size =>
                ⟨databaseUrl, account, passphrase, size, defaultBusyTimeout⟩ := by
  unfold ofLookup requiredVariables
  rcases required_cases lookup urlVariable with ⟨unset, first⟩ | ⟨databaseUrl, url, hasUrl, first⟩
  · exact .inl ⟨urlVariable, by simp [unset], by rw [first]; rfl⟩
  rcases required_cases lookup accountVariable with
    ⟨unset, second⟩ | ⟨account, own, hasAccount, second⟩
  · exact .inl ⟨accountVariable, by simp [hasUrl, unset], by rw [first, second]; rfl⟩
  rcases required_cases lookup passphraseVariable with
    ⟨unset, third⟩ | ⟨passphrase, pass, hasPassphrase, third⟩
  · refine .inl ⟨passphraseVariable, by simp [hasUrl, hasAccount, unset], ?_⟩
    rw [first, second, third]
    rfl
  refine .inr ⟨databaseUrl, account, passphrase, ?_, url, own, pass, ?_⟩
  · simp [hasUrl, hasAccount, hasPassphrase]
  rw [first, second, third]
  simp only [bind, Except.bind, poolSize]
  cases lookup poolVariable with
  | none => rfl
  | some raw =>
    simp only [Option.elim_some]
    cases parsePoolSize raw with
    | none => rfl
    | some size => rfl

/-- A variable is set when it is not unset. -/
theorem not_unset_iff {name : String} : ¬ Unset lookup name ↔ ∃ value, Sets lookup name value := by
  rcases required_cases lookup name with ⟨unset, _⟩ | ⟨value, sets, set, _⟩
  · refine ⟨fun set => absurd unset set, ?_⟩
    rintro ⟨value, found, filled⟩
    rcases unset with missing | empty
    · cases missing.symm.trans found
    · cases empty.symm.trans found
      exact absurd rfl filled
  · exact ⟨fun _ => ⟨value, sets⟩, fun _ => set⟩

/-- No variable is at fault for being unset when all that are required are set. -/
theorem find?_unset_eq_none_iff
    : requiredVariables.find? (fun name => Unset lookup name) = none
      ↔ (∃ value, Sets lookup urlVariable value)
        ∧ (∃ value, Sets lookup accountVariable value)
        ∧ ∃ value, Sets lookup passphraseVariable value := by
  simp only [← not_unset_iff, requiredVariables]
  simp

/-- A configuration is given when its three texts are those of the variables and its pool size
is the one that they give.
-/
theorem ofLookup_eq_ok_iff {config : Config}
    : ofLookup lookup = .ok config
      ↔ Sets lookup urlVariable config.databaseUrl
        ∧ Sets lookup accountVariable config.account
        ∧ Sets lookup passphraseVariable config.passphrase
        ∧ poolSize lookup = .ok config.maxConnections
        ∧ config.busyTimeoutSeconds = defaultBusyTimeout := by
  rcases ofLookup_cases lookup with
    ⟨name, first, refused⟩ | ⟨databaseUrl, account, passphrase, _, url, own, pass, given⟩
  · rw [refused]
    refine ⟨nofun, ?_⟩
    rintro ⟨url, own, pass, _⟩
    have allSet := find?_unset_eq_none_iff.mpr ⟨⟨_, url⟩, ⟨_, own⟩, ⟨_, pass⟩⟩
    cases first.symm.trans allSet
  · rw [given]
    constructor
    · intro read
      cases sized : poolSize lookup with
      | error fault =>
        rw [sized] at read
        cases read
      | ok size =>
        rw [sized] at read
        cases read
        exact ⟨url, own, pass, rfl, rfl⟩
    · rintro ⟨givenUrl, givenAccount, givenPassphrase, sized, timeout⟩
      obtain ⟨_, _, _, size, _⟩ := config
      cases Option.some.inj (url.1.symm.trans givenUrl.1)
      cases Option.some.inj (own.1.symm.trans givenAccount.1)
      cases Option.some.inj (pass.1.symm.trans givenPassphrase.1)
      cases timeout
      rw [sized]
      rfl

/-- A fault is that of the first unset variable, and when there is none that of the pool size. -/
theorem ofLookup_eq_error_iff {fault : Fault}
    : ofLookup lookup = .error fault
      ↔ (∃ name,
          requiredVariables.find? (fun name => Unset lookup name) = some name
          ∧ fault = .notSet name)
        ∨ requiredVariables.find? (fun name => Unset lookup name) = none
          ∧ poolSize lookup = .error fault := by
  rcases ofLookup_cases lookup with
    ⟨name, first, refused⟩ | ⟨databaseUrl, account, passphrase, allSet, _, _, _, given⟩
  · simp [first, refused, eq_comm]
  · rw [given, allSet]
    cases poolSize lookup <;> simp [Except.map]

end KeyVault.Config

namespace KeyVault

open Config

/-- Variables are accepted exactly when they are valid: the address, the account and the passphrase
are there and not empty, and the pool size is missing or denotes a number below 2^32. They are then
taken over as they are. Otherwise the message names the first of the three that is missing or empty,
and only if there is none the pool size.
-/
theorem variables_are_accepted_iff_valid (lookup : String → Option String)
    : ((∃ config, ofLookup lookup = .ok config)
        ↔ (∃ url, Sets lookup urlVariable url)
          ∧ (∃ account, Sets lookup accountVariable account)
          ∧ (∃ passphrase, Sets lookup passphraseVariable passphrase)
          ∧ (lookup poolVariable = none
            ∨ ∃ raw n, lookup poolVariable = some raw ∧ Denotes raw n ∧ n < UInt32.size))
      ∧ (∀ config,
          ofLookup lookup = .ok config
          ↔ Sets lookup urlVariable config.databaseUrl
            ∧ Sets lookup accountVariable config.account
            ∧ Sets lookup passphraseVariable config.passphrase
            ∧ (lookup poolVariable = none ∧ config.maxConnections = 5
              ∨ ∃ raw, lookup poolVariable = some raw ∧ Denotes raw config.maxConnections.toNat)
            ∧ config.busyTimeoutSeconds = 5)
      ∧ ∀ fault,
          let unset? := requiredVariables.find? fun name => Unset lookup name
          ofLookup lookup = .error fault
          ↔ (∃ name,
              unset? = some name
              ∧ fault = .notSet name
              ∧ fault.message = name ++ " not set")
            ∨ unset? = none
              ∧ ∃ raw,
                  lookup poolVariable = some raw
                  ∧ (∀ n, Denotes raw n → UInt32.size ≤ n)
                  ∧ fault = .notANumber poolVariable raw
                  ∧ fault.message = poolVariable ++ " is not a number: " ++ raw := by
  have accepted (config : Config)
      : ofLookup lookup = .ok config
        ↔ Sets lookup urlVariable config.databaseUrl
          ∧ Sets lookup accountVariable config.account
          ∧ Sets lookup passphraseVariable config.passphrase
          ∧ (lookup poolVariable = none ∧ config.maxConnections = 5
            ∨ ∃ raw, lookup poolVariable = some raw ∧ Denotes raw config.maxConnections.toNat)
          ∧ config.busyTimeoutSeconds = 5 := by
    rw [ofLookup_eq_ok_iff, poolSize_eq_ok_iff]
    rfl
  refine ⟨?_, accepted, ?_⟩
  · constructor
    · rintro ⟨config, read⟩
      obtain ⟨url, own, pass, sized, _⟩ := (accepted config).mp read
      refine ⟨⟨_, url⟩, ⟨_, own⟩, ⟨_, pass⟩, ?_⟩
      rcases sized with ⟨missing, _⟩ | ⟨raw, found, denoted⟩
      · exact .inl missing
      · exact .inr ⟨raw, _, found, denoted, config.maxConnections.toNat_lt⟩
    · rintro ⟨⟨url, isUrl⟩, ⟨account, isOwn⟩, ⟨passphrase, isPass⟩, size⟩
      rcases size with missing | ⟨raw, n, found, denoted, fits⟩
      · exact ⟨⟨url, account, passphrase, 5, 5⟩,
          (accepted _).mpr ⟨isUrl, isOwn, isPass, .inl ⟨missing, rfl⟩, rfl⟩⟩
      · rw [← UInt32.toNat_ofNat_of_lt' fits] at denoted
        exact ⟨⟨url, account, passphrase, .ofNat n, 5⟩,
          (accepted _).mpr ⟨isUrl, isOwn, isPass, .inr ⟨raw, found, denoted⟩, rfl⟩⟩
  · intro fault unset?
    rw [ofLookup_eq_error_iff, poolSize_eq_error_iff]
    constructor
    · rintro (⟨name, first, rfl⟩ | ⟨allSet, raw, found, tooGreat, rfl⟩)
      · exact .inl ⟨name, first, rfl, rfl⟩
      · exact .inr ⟨allSet, raw, found, tooGreat, rfl, rfl⟩
    · rintro (⟨name, first, same, _⟩ | ⟨allSet, raw, found, tooGreat, same, _⟩)
      · exact .inl ⟨name, first, same⟩
      · exact .inr ⟨allSet, raw, found, tooGreat, same⟩

end KeyVault
