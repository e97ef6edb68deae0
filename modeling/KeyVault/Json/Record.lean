import KeyVault.Json.Kind
import KeyVault.Json.Skip
/-!
Records: named lists of fields. A record is written as an object with its fields in order.
It is read from an object with the fields in any order, where unknown members are skipped,
or from a list of the values in order; a field with a default may be missing. Faults come in
the order of the text, and a missing field is found when the object ends.
-/

namespace KeyVault.Json

structure Field where
  name : String
  kind : Kind
  default : Option kind.Value

structure Record where
  name : String
  fields : List Field

/-- One value for every field. -/
def Values : List Field → Type
  | [] => Unit
  | field :: fields => field.kind.Value × Values fields

/-- The values of the fields that were met so far. -/
def Slots : List Field → Type
  | [] => Unit
  | field :: fields => Option field.kind.Value × Slots fields

namespace Slots

def empty : (fields : List Field) → Slots fields
  | [] => ()
  | _ :: fields => (none, empty fields)

/-- Every field has its value or its default; the first one without either is missing. -/
def complete : (fields : List Field) → Slots fields → Except Fault (Values fields)
  | [], _ => .ok ()
  | field :: fields, (slot, slots) =>
    match slot <|> field.default with
    | none => .error (.missingField field.name)
    | some value => (complete fields slots).map fun values => (value, values)

/-- Reads the value of the field with a name, which must be its first. There is no result
when no field has the name.
-/
def readField (name : String) : (fields : List Field) → Slots fields → List Token
    → Option (Except Fault (Slots fields × List Token))
  | [], _, _ => none
  | field :: fields, (slot, slots), tokens =>
    if field.name = name then
      some <|
        match slot, tokens with
        | some _, _ => .error (.duplicateField name)
        | none, .colon :: rest => (field.kind.read rest).map fun (value, after) => ((some value, slots), after)
        | none, _ => .error .malformed
    else (readField name fields slots tokens).map fun result =>
      result.map fun (slots, rest) => ((slot, slots), rest)

/-- Reads the value of a member behind its name: that of a field, or one to be skipped. -/
def readMember (name : String) (fields : List Field) (slots : Slots fields) (tokens : List Token)
    : Except Fault (Slots fields × List Token) :=
  match readField name fields slots tokens, tokens with
  | some result, _ => result
  | none, .colon :: rest =>
    match skip rest with
    | some after => .ok (slots, after)
    | none => .error .malformed
  | none, _ => .error .malformed

end Slots

theorem readWhole_length {bits : Nat} {tokens rest : List Token} {value : BitVec bits}
    (h : readWhole bits tokens = .ok (value, rest))
    : rest.length < tokens.length := by
  unfold readWhole at h
  split at h
  · split at h
    · split at h
      · simp_all
      · simp at h
    · simp at h
  · simp at h

theorem readMoreBytes_length {tokens rest : List Token} {bytes : List UInt8}
    (h : readMoreBytes tokens = .ok (bytes, rest))
    : rest.length < tokens.length := by
  fun_induction readMoreBytes tokens generalizing bytes rest with
  | case1 => simp_all
  | case2 token after ih =>
    cases byte : readByte token with
    | error => simp [byte, bind, Except.bind] at h
    | ok =>
      cases more : readMoreBytes after with
      | error => simp [byte, more, bind, Except.bind] at h
      | ok result =>
        simp only [byte, more, bind, Except.bind, pure, Except.pure, Except.ok.injEq, Prod.mk.injEq] at h
        have := ih more
        rw [h.2] at this
        simp only [List.length_cons]
        omega
  | case3 => simp at h

theorem readBytes_length {tokens rest : List Token} {bytes : List UInt8}
    (h : readBytes tokens = .ok (bytes, rest))
    : rest.length < tokens.length := by
  fun_cases readBytes tokens with
  | case1 after =>
    simp only [readBytes, Except.ok.injEq, Prod.mk.injEq] at h
    rw [← h.2]
    simp only [List.length_cons]
    omega
  | case2 token after =>
    simp only [readBytes] at h
    cases byte : readByte token with
    | error => simp [byte, bind, Except.bind] at h
    | ok =>
      cases more : readMoreBytes after with
      | error => simp [byte, more, bind, Except.bind] at h
      | ok result =>
        simp only [byte, more, bind, Except.bind, pure, Except.pure, Except.ok.injEq, Prod.mk.injEq] at h
        have := readMoreBytes_length more
        rw [h.2] at this
        simp only [List.length_cons]
        omega
  | case3 => simp [readBytes] at h
  | case4 => simp_all [readBytes]

theorem readText_length {expected : Expected} {tokens rest : List Token} {text : String}
    (h : readText expected tokens = .ok (text, rest))
    : rest.length < tokens.length := by
  unfold readText at h
  split at h <;> simp_all

theorem readChoice_length {names : List String} {tokens rest : List Token}
    {place : Fin names.length}
    (h : readChoice names tokens = .ok (place, rest))
    : rest.length < tokens.length := by
  fun_cases readChoice names tokens with
  | case1 text after =>
    cases name : readName names (String.ofList text) with
    | error => simp [readChoice, name, bind, Except.bind] at h
    | ok => simp_all [readChoice, bind, Except.bind, pure, Except.pure]
  | case2 text after =>
    cases name : readName names (String.ofList text) with
    | error => simp [readChoice, name, bind, Except.bind] at h
    | ok =>
      simp only [readChoice, name, bind, Except.bind, pure, Except.pure] at h
      split at h
      · simp_all
        omega
      · simp at h
      · simp at h
      · simp at h
  | case3 => simp_all [readChoice]

/-- A value of any kind has at least one token. -/
theorem Kind.read_length {kind : Kind} {tokens rest : List Token} {value : kind.Value}
    (h : kind.read tokens = .ok (value, rest))
    : rest.length < tokens.length := by
  cases kind with
  | text => exact readText_length h
  | flag =>
    simp only [Kind.read, readFlag] at h
    split at h
    · have same : _ = rest := congrArg Prod.snd (Except.ok.inj h)
      subst same
      simp
    · simp at h
  | whole => exact readWhole_length h
  | bytes => exact readBytes_length h
  | choice => exact readChoice_length h

namespace Slots

theorem readField_length {name : String} {fields : List Field} {slots filled : Slots fields}
    {tokens rest : List Token}
    (h : readField name fields slots tokens = some (.ok (filled, rest)))
    : rest.length < tokens.length := by
  induction fields with
  | nil => simp [readField] at h
  | cons field fields ih =>
    obtain ⟨slot, slots⟩ := slots
    by_cases named : field.name = name
    · simp only [readField, if_pos named, Option.some.injEq] at h
      cases slot with
      | some value => simp at h
      | none =>
        rcases tokens with _ | ⟨first, after⟩
        · simp at h
        · cases first
          case colon =>
            dsimp only at h
            cases value : field.kind.read after with
            | error => simp [value, Except.map] at h
            | ok result =>
              simp only [value, Except.map] at h
              have same : result.2 = rest := congrArg Prod.snd (Except.ok.inj h)
              have := Kind.read_length value
              rw [same] at this
              simp only [List.length_cons]
              omega
          all_goals simp at h
    · simp only [readField, if_neg named] at h
      cases inner : readField name fields slots tokens with
      | none => simp [inner] at h
      | some result =>
        cases result with
        | error => simp [inner, Except.map] at h
        | ok result =>
          simp only [inner, Option.map_some, Except.map, Option.some.injEq] at h
          obtain ⟨inside, behind⟩ := result
          have same : behind = rest := congrArg Prod.snd (Except.ok.inj h)
          subst same
          exact ih inner

theorem readMember_length {name : String} {fields : List Field} {slots filled : Slots fields}
    {tokens rest : List Token}
    (h : readMember name fields slots tokens = .ok (filled, rest))
    : rest.length < tokens.length := by
  fun_cases readMember name fields slots tokens with
  | case1 _ result found =>
    simp only [readMember, found] at h
    exact readField_length (found.trans (congrArg some h))
  | case2 behind after skipped found =>
    have := skip_length skipped
    simp only [readMember, found, skipped, Except.ok.injEq, Prod.mk.injEq] at h
    obtain ⟨_, rfl⟩ := h
    simp only [List.length_cons]
    omega
  | case3 behind skipped found => simp [readMember, found, skipped] at h
  | case4 found _ => simp_all [readMember]

/-- Reads the members behind the first one, up to the end of the object. -/
def readMore (fields : List Field) (slots : Slots fields) (tokens : List Token)
    : Except Fault (Slots fields × List Token) :=
  match tokens with
  | .closeBrace :: rest => .ok (slots, rest)
  | .comma :: .string (some name) :: rest =>
    match _h : readMember (String.ofList name) fields slots rest with
    | .ok (filled, after) => readMore fields filled after
    | .error fault => .error fault
  | _ => .error .malformed
termination_by tokens.length
decreasing_by
  have := readMember_length _h
  simp only [List.length_cons]
  omega

/-- Reads the members of an object behind its brace. -/
def readMembers (fields : List Field) : List Token → Except Fault (Slots fields × List Token)
  | .closeBrace :: rest => .ok (empty fields, rest)
  | .string (some name) :: rest => do
    let (filled, after) ← readMember (String.ofList name) fields (empty fields) rest
    readMore fields filled after
  | _ => .error .malformed

end Slots

namespace Record

/-- Reads the values of a list in the order of the fields. Where the list ends early the
fields that are left take their defaults; the place of the first one without a default is
the length found.
-/
def readElements (record : Record) (place : Nat) : (fields : List Field) → List Token
    → Except Fault (Values fields × List Token)
  | [], .closeBracket :: rest => .ok ((), rest)
  | [], _ => .error .malformed
  | field :: fields, .closeBracket :: rest =>
    match field.default with
    | none => .error (.invalidLength place record.name record.fields.length)
    | some value => do
      let (values, after) ← readElements record (place + 1) fields (.closeBracket :: rest)
      pure ((value, values), after)
  | field :: fields, tokens => do
    let start ← match place, tokens with
      | 0, _ => pure tokens
      | _ + 1, .comma :: rest => pure rest
      | _ + 1, _ => .error .malformed
    let (value, behind) ← field.kind.read start
    let (values, after) ← readElements record (place + 1) fields behind
    pure ((value, values), after)

/-- Reads a record from an object or from a list. -/
def read (record : Record) : List Token → Except Fault (Values record.fields × List Token)
  | .openBrace :: rest => do
    let (slots, after) ← Slots.readMembers record.fields rest
    let values ← Slots.complete record.fields slots
    pure (values, after)
  | .openBracket :: rest => record.readElements 0 record.fields rest
  | tokens => .error (mismatch (.record record.name) tokens)

def writeMember (field : Field) (value : field.kind.Value) : List Token :=
  .string (some field.name.toList) :: .colon :: field.kind.write value

/-- The tokens of the members behind the first one. -/
def writeMore : (fields : List Field) → Values fields → List Token
  | [], _ => []
  | field :: fields, (value, values) => .comma :: writeMember field value ++ writeMore fields values

/-- The tokens of an object with all fields in order. -/
def writeMembers : (fields : List Field) → Values fields → List Token
  | [], _ => []
  | field :: fields, (value, values) => writeMember field value ++ writeMore fields values

def write (record : Record) (values : Values record.fields) : List Token :=
  .openBrace :: writeMembers record.fields values ++ [.closeBrace]

end Record

end KeyVault.Json
