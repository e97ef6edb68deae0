import KeyVault.Json.Form
import KeyVault.Proofs.Json.Lexing
/-!
Records are read back as they are written, and so they are from an object with the same
members in any other order. Each member fills the slot of its field, which is empty until
then; when the object ends, no slot is.
-/

namespace KeyVault.Json

-----------------------------------------------------------------------------------------
-- Single values
-----------------------------------------------------------------------------------------

/-- A kind whose values can be told apart when they are written: numbers of at most 64 bits
and different names.
-/
def Kind.Sound : Kind → Prop
  | whole bits => bits ≤ 64
  | choice names => names.Nodup
  | _ => True

/-- A record whose fields have different names and sound kinds. -/
structure Record.Sound (record : Record) : Prop where
  distinct : (record.fields.map Field.name).Nodup
  sound : ∀ field ∈ record.fields, field.kind.Sound

section Values

variable {rest : List Token}

/-- A number of at most 64 bits is read back. -/
theorem readWhole_ofNat_cons {bits : Nat} (narrow : bits ≤ 64) (value : BitVec bits)
    : readWhole bits (.number (.ofNat value.toNat) :: rest) = .ok (value, rest) := by
  have small : value.toNat < UInt64.size := by
    have := Nat.pow_le_pow_right (n := 2) (by decide) narrow
    have := value.isLt
    simp only [UInt64.size]
    omega
  have same : BitVec.ofInt bits value.toNat = value := by simp
  simp [readWhole, Numeral.value_ofNat small]

/-- A byte is read back. -/
theorem readByte_ofNat (byte : UInt8) : readByte (.number (.ofNat byte.toNat)) = .ok byte := by
  have read : readWhole 8 [.number (.ofNat byte.toNat)] = .ok (byte.toBitVec, []) :=
    readWhole_ofNat_cons (by decide) byte.toBitVec
  unfold readByte
  rw [read]
  rfl

/-- The bytes behind the first one of a list are read back, by induction over them. -/
theorem readMoreBytes_append (bytes : List UInt8)
    : readMoreBytes (Kind.moreBytes bytes ++ .closeBracket :: rest) = .ok (bytes, rest) := by
  induction bytes with
  | nil => rfl
  | cons byte bytes ih =>
    simp only [Kind.moreBytes, List.flatMap_cons, List.cons_append, List.nil_append,
      readMoreBytes] at ih ⊢
    simp only [readByte_ofNat, ih]
    rfl

/-- A name among different ones is read back as its place. -/
theorem readName_get {names : List String} (distinct : names.Nodup) (place : Fin names.length)
    : readName names (names.get place) = .ok place := by
  have found : names.finIdxOf? (names.get place) = some place := by
    refine List.finIdxOf?_eq_some_iff.mpr ⟨rfl, ?_⟩
    intro earlier before
    exact List.pairwise_iff_getElem.mp distinct earlier place earlier.isLt place.isLt before
  unfold readName
  rw [found]

/-- A value of a sound kind is read back, and what follows it is left. -/
theorem Kind.read_write_append {kind : Kind} (sound : kind.Sound) (value : kind.Value)
    : kind.read (kind.write value ++ rest) = .ok (value, rest) := by
  cases kind with
  | text =>
    have same : String.ofList (String.toList value) = value := String.ofList_toList
    exact congrArg (fun text => Except.ok (text, rest)) same
  | flag => rfl
  | whole bits => exact readWhole_ofNat_cons sound value
  | bytes =>
    cases value with
    | nil => rfl
    | cons byte bytes =>
      simp only [Kind.read, Kind.write, List.cons_append, List.append_assoc, List.nil_append,
        readBytes, readByte_ofNat, readMoreBytes_append]
      rfl
  | choice names =>
    have same : String.ofList (names.get value).toList = names.get value := String.ofList_toList
    have named := readName_get sound value
    rw [← same] at named
    exact congrArg (fun found => found.bind fun place => Except.ok (place, rest)) named

end Values

-----------------------------------------------------------------------------------------
-- Members of objects
-----------------------------------------------------------------------------------------

/-- A field with its value, as an object has it. -/
structure Member where
  field : Field
  value : field.kind.Value

namespace Member

/-- The name of the field. -/
abbrev name (member : Member) : String :=
  member.field.name

/-- The tokens of a member. -/
def write (member : Member) : List Token :=
  Record.writeMember member.field member.value

/-- The tokens of the members behind the first one. -/
def writeMore (members : List Member) : List Token :=
  members.flatMap fun member => .comma :: member.write

/-- The tokens of an object with some members, in their order. -/
def writeObject : List Member → List Token
  | [] => [.openBrace, .closeBrace]
  | member :: members => .openBrace :: member.write ++ writeMore members ++ [.closeBrace]

end Member

/-- The members of a record, in the order of its fields. -/
def Values.members : {fields : List Field} → Values fields → List Member
  | [], _ => []
  | field :: _, (value, values) => ⟨field, value⟩ :: values.members

/-- A record has one member for each of its fields. -/
theorem Values.map_field_members {fields : List Field} (values : Values fields)
    : values.members.map Member.field = fields := by
  induction fields with
  | nil => rfl
  | cons field fields ih => exact congrArg (field :: ·) (ih values.2)

/-- The members of a record have the names of its fields. -/
theorem Values.map_name_members {fields : List Field} (values : Values fields)
    : values.members.map Member.name = fields.map Field.name := by
  have names := congrArg (List.map Field.name) values.map_field_members
  rw [List.map_map] at names
  exact names

/-- The fields behind the first one are written as members, by induction over them. -/
theorem Record.writeMore_eq_writeMore_members {fields : List Field} (values : Values fields)
    : writeMore fields values = Member.writeMore values.members := by
  induction fields with
  | nil => rfl
  | cons field fields ih =>
    obtain ⟨value, values⟩ := values
    rw [writeMore, ih values]
    rfl

/-- A record is written as the object with its members in the order of the fields. -/
theorem Record.write_eq_writeObject (record : Record) (values : Values record.fields)
    : record.write values = Member.writeObject values.members := by
  obtain ⟨name, fields⟩ := record
  cases fields with
  | nil => rfl
  | cons field fields =>
    obtain ⟨value, values⟩ := values
    simp only [write, writeMembers, writeMore_eq_writeMore_members]
    rfl

-----------------------------------------------------------------------------------------
-- Slots of the fields that were met
-----------------------------------------------------------------------------------------

namespace Slots

/-- Slots that hold the values of those fields whose names were met. -/
def among (met : List String) : {fields : List Field} → Values fields → Slots fields
  | [], _ => ()
  | field :: _, (value, values) => (if field.name ∈ met then some value else none, among met values)

variable {fields : List Field} {values : Values fields} {met : List String}

/-- As long as no name was met, all slots are empty. -/
theorem among_nil (values : Values fields) : among [] values = empty fields := by
  induction fields with
  | nil => rfl
  | cons field fields ih =>
    obtain ⟨value, values⟩ := values
    simp only [among, List.not_mem_nil, if_false, ih values]
    rfl

/-- To meet a name that no field has fills no slot. -/
theorem among_cons_of_notMem {name : String} (values : Values fields)
    (other : name ∉ fields.map Field.name)
    : among (name :: met) values = among met values := by
  induction fields with
  | nil => rfl
  | cons field fields ih =>
    obtain ⟨value, values⟩ := values
    obtain ⟨here, further⟩ := not_or.mp (fun within => other (List.mem_cons.mpr within))
    have different : field.name ≠ name := fun same => here same.symm
    have kept : field.name ∈ name :: met ↔ field.name ∈ met := by simp [different]
    exact Prod.ext (ite_congr (propext kept) (fun _ => rfl) fun _ => rfl) (ih values further)

/-- When all names were met, every field has its value. -/
theorem complete_among (values : Values fields) (all : ∀ field ∈ fields, field.name ∈ met)
    : complete fields (among met values) = .ok values := by
  induction fields with
  | nil => rfl
  | cons field fields ih =>
    obtain ⟨value, values⟩ := values
    obtain ⟨here, further⟩ := List.forall_mem_cons.mp all
    simp only [among, if_pos here, complete, ih values further]
    rfl

/-- Reading a member whose name was not met fills its slot, by induction over the fields. Their
names are different, so that no other one is taken for it.
-/
theorem readField_among {member : Member} (there : member ∈ values.members)
    (distinct : (fields.map Field.name).Nodup) (fresh : member.name ∉ met)
    (sound : member.field.kind.Sound) (rest : List Token)
    : readField member.name fields (among met values)
        (.colon :: (member.field.kind.write member.value ++ rest))
      = some (.ok (among (member.name :: met) values, rest)) := by
  induction fields with
  | nil => cases there
  | cons field fields ih =>
    obtain ⟨value, values⟩ := values
    obtain ⟨different, distinct⟩ := List.nodup_cons.mp distinct
    rcases List.mem_cons.mp there with rfl | later
    · have empty : field.name ∉ met := fresh
      have kept : among (field.name :: met) values = among met values :=
        among_cons_of_notMem values different
      simp only [Member.name, readField, among, if_true, if_neg empty,
        Kind.read_write_append sound, kept, List.mem_cons_self]
      rfl
    · have named : member.name ∈ fields.map Field.name := by
        rw [← values.map_name_members]
        exact List.mem_map_of_mem later
      have other : field.name ≠ member.name := by
        intro same
        exact different (same ▸ named)
      have kept : (field.name ∈ member.name :: met) = (field.name ∈ met) := by simp [other]
      simp only [readField, if_neg other, among, ih later distinct, kept]
      rfl

/-- A member is read by its name. -/
theorem readMember_among {member : Member} (there : member ∈ values.members)
    (distinct : (fields.map Field.name).Nodup) (fresh : member.name ∉ met)
    (sound : ∀ field ∈ fields, field.kind.Sound) (rest : List Token)
    : readMember (String.ofList member.name.toList) fields (among met values)
        (.colon :: (member.field.kind.write member.value ++ rest))
      = .ok (among (member.name :: met) values, rest) := by
  have field : member.field ∈ fields := by
    rw [← values.map_field_members]
    exact List.mem_map_of_mem there
  have read := readField_among there distinct fresh (sound member.field field) rest
  rw [String.ofList_toList]
  simp only [readMember, read]

/-- Once a member is read behind a comma, the members behind it are read. -/
theorem readMore_of_readMember {name : List Char} {slots filled : Slots fields}
    {tokens after : List Token}
    (read : readMember (String.ofList name) fields slots tokens = .ok (filled, after))
    : readMore fields slots (.comma :: .string (some name) :: tokens)
      = readMore fields filled after := by
  rw [readMore]
  split <;> simp_all

/-- Further members are read up to the closing brace, in any order, as long as no name comes
twice. By induction over them.
-/
theorem readMore_among {order : List Member} (there : order ⊆ values.members)
    (distinct : (fields.map Field.name).Nodup) (sound : ∀ field ∈ fields, field.kind.Sound)
    (fresh : (order.map Member.name ++ met).Nodup) (rest : List Token)
    : readMore fields (among met values) (Member.writeMore order ++ .closeBrace :: rest)
      = .ok (among ((order.map Member.name).reverse ++ met) values, rest) := by
  induction order generalizing met with
  | nil =>
    simp only [Member.writeMore, List.flatMap_nil, List.nil_append, readMore, List.map_nil,
      List.reverse_nil]
  | cons member order ih =>
    obtain ⟨here, further⟩ := List.cons_subset.mp there
    obtain ⟨unmet, _⟩ := List.nodup_cons.mp fresh
    have next : (order.map Member.name ++ member.name :: met).Nodup :=
      List.perm_middle.nodup_iff.mpr fresh
    have read := readMember_among here distinct (unmet ∘ List.mem_append_right _) sound
      (Member.writeMore order ++ .closeBrace :: rest)
    calc readMore fields (among met values)
          (Member.writeMore (member :: order) ++ .closeBrace :: rest)
        = readMore fields (among (member.name :: met) values)
            (Member.writeMore order ++ .closeBrace :: rest) := by
          rw [← readMore_of_readMember read]
          simp only [Member.writeMore, List.flatMap_cons, Member.write, Record.writeMember,
            List.cons_append, List.append_assoc]
      _ = .ok (among ((order.map Member.name).reverse ++ member.name :: met) values, rest) :=
          ih further next
      _ = .ok (among (((member :: order).map Member.name).reverse ++ met) values, rest) := by
          rw [List.map_cons, List.reverse_cons, List.append_assoc, List.singleton_append]

end Slots

/-- A sound record is read from an object with its members in any order, and what follows it
is left.
-/
theorem Record.read_writeObject_append {record : Record} (sound : record.Sound)
    {values : Values record.fields} {order : List Member} (permuted : order.Perm values.members)
    (rest : List Token)
    : record.read (Member.writeObject order ++ rest) = .ok (values, rest) := by
  have names : (order.map Member.name).Perm (record.fields.map Field.name) := by
    rw [← values.map_name_members]
    exact permuted.map Member.name
  have once : (order.map Member.name).Nodup := names.nodup_iff.mpr sound.distinct
  have all : ∀ field ∈ record.fields, field.name ∈ order.map Member.name := by
    intro field member
    exact names.mem_iff.mpr (List.mem_map_of_mem member)
  cases order with
  | nil =>
    have complete := Slots.complete_among values all
    simp only [List.map_nil, Slots.among_nil] at complete
    simp only [Member.writeObject, List.cons_append, List.nil_append, read, Slots.readMembers,
      bind, Except.bind, complete]
    rfl
  | cons member order =>
    obtain ⟨here, further⟩ := List.cons_subset.mp permuted.subset
    have first := Slots.readMember_among here sound.distinct List.not_mem_nil sound.sound
      (Member.writeMore order ++ .closeBrace :: rest)
    have fresh : (order.map Member.name ++ [member.name]).Nodup :=
      (List.perm_append_singleton ..).nodup_iff.mpr once
    have more := Slots.readMore_among further sound.distinct sound.sound fresh rest
    have met
        : ∀ field ∈ record.fields,
            field.name ∈ (order.map Member.name).reverse ++ [member.name] := by
      intro field there
      rw [List.mem_append, List.mem_reverse, List.mem_singleton, or_comm, ← List.mem_cons]
      exact all field there
    rw [Slots.among_nil] at first
    simp only [Member.writeObject, Member.write, writeMember, List.cons_append,
      List.append_assoc, List.nil_append, read, Slots.readMembers]
    simp only [bind, Except.bind, first, more, Slots.complete_among values met]
    rfl

-----------------------------------------------------------------------------------------
-- What a record is written with can be told apart
-----------------------------------------------------------------------------------------

section Text

variable {rest : List Token}

/-- What stands behind a byte is a comma or the closing bracket. -/
theorem Kind.head?_moreBytes_append (bytes : List UInt8)
    : ∀ next ∈ (moreBytes bytes ++ .closeBracket :: rest).head?, next.isNumber = false := by
  cases bytes <;> (intro next first; cases first; rfl)

/-- The bytes behind the first one of a list are legible up to its end, by induction over
them.
-/
theorem Kind.legible_moreBytes_append (bytes : List UInt8) (legible : Token.Legible rest)
    : Token.Legible (moreBytes bytes ++ .closeBracket :: rest) := by
  induction bytes with
  | nil => exact .plain trivial rfl legible
  | cons byte bytes ih =>
    exact .plain trivial rfl (.cons ⟨_, rfl⟩ (fun _ => head?_moreBytes_append bytes) ih)

/-- The tokens of a value are legible in front of anything but a number. -/
theorem Kind.legible_write_append (kind : Kind) (value : kind.Value)
    (legible : Token.Legible rest)
    (apart : ∀ next ∈ rest.head?, next.isNumber = false)
    : Token.Legible (kind.write value ++ rest) := by
  cases kind with
  | text => exact .plain rfl rfl legible
  | flag => exact .plain trivial rfl legible
  | whole bits => exact .cons ⟨_, rfl⟩ (fun _ => apart) legible
  | bytes =>
    cases value with
    | nil =>
      exact .plain trivial rfl (.plain trivial rfl legible)
    | cons byte bytes =>
      have more := legible_moreBytes_append bytes legible
      simp only [write, List.cons_append, List.append_assoc, List.nil_append]
      exact .plain trivial rfl (.cons ⟨_, rfl⟩ (fun _ => head?_moreBytes_append bytes) more)
  | choice names => exact .plain rfl rfl legible

/-- The tokens of a member are legible in front of anything but a number. -/
theorem Member.legible_write_append (member : Member) (legible : Token.Legible rest)
    (apart : ∀ next ∈ rest.head?, next.isNumber = false)
    : Token.Legible (member.write ++ rest) :=
  .plain rfl rfl
    (.plain trivial rfl
      (member.field.kind.legible_write_append member.value legible apart))

/-- What stands behind a member is a comma or the closing brace. -/
theorem Member.head?_writeMore_append (members : List Member)
    : ∀ next ∈ (writeMore members ++ .closeBrace :: rest).head?, next.isNumber = false := by
  cases members <;> (intro next first; cases first; rfl)

/-- The tokens of the members behind the first one are legible up to the closing brace, by
induction over them.
-/
theorem Member.legible_writeMore_append (members : List Member) (legible : Token.Legible rest)
    : Token.Legible (writeMore members ++ .closeBrace :: rest) := by
  induction members with
  | nil => exact .plain trivial rfl legible
  | cons member members ih =>
    simp only [writeMore, List.flatMap_cons, List.cons_append, List.append_assoc] at ih ⊢
    exact .plain trivial rfl
      (member.legible_write_append ih (head?_writeMore_append members))

/-- The tokens of an object are legible. -/
theorem Member.legible_writeObject (members : List Member)
    : Token.Legible (writeObject members) := by
  cases members with
  | nil => exact .plain trivial rfl (.plain trivial rfl .nil)
  | cons member members =>
    have behind := member.legible_write_append (legible_writeMore_append members .nil)
      (head?_writeMore_append members)
    rw [← List.append_assoc] at behind
    exact .plain trivial rfl behind

end Text

-----------------------------------------------------------------------------------------
-- Forms
-----------------------------------------------------------------------------------------

namespace Form

variable {α : Type} {form : Form α} {a : α} {tokens : List Token}

/-- A text is parsed to what its tokens are read as. -/
theorem parse_render (legible : Token.Legible tokens) (read : form.read tokens = .ok (a, []))
    : form.parse (String.ofList (Token.render tokens)) = .ok a := by
  simp only [parse, Utf8.glyphs, String.toList_ofList, readAll, Token.ofGlyphs_render legible,
    read]
  rfl

/-- Bytes are parsed to what the tokens of their text are read as. -/
theorem parseBytes_render (legible : Token.Legible tokens)
    (read : form.read tokens = .ok (a, []))
    : form.parseBytes (Utf8.encode (Token.render tokens)) = .ok a := by
  simp only [parseBytes, Utf8.decode_encode, readAll, Token.ofGlyphs_render legible, read]
  rfl

/-- A value that stands as a sound record is read from an object with its members in any
order.
-/
theorem read_writeObject {record : Record} {ofValues : Values record.fields → α}
    {toValues : α → Values record.fields} (sound : record.Sound)
    (inverse : ∀ a, ofValues (toValues a) = a) (a : α) {order : List Member}
    (permuted : order.Perm (toValues a).members)
    : (ofRecord record ofValues toValues).read (Member.writeObject order) = .ok (a, []) := by
  have read := Record.read_writeObject_append sound permuted []
  rw [List.append_nil] at read
  simp only [ofRecord, read, Except.map, inverse]

/-- The bytes of a value that stands as a sound record are read back as that value. -/
theorem parseBytes_bytes {record : Record} {ofValues : Values record.fields → α}
    {toValues : α → Values record.fields} (sound : record.Sound)
    (inverse : ∀ a, ofValues (toValues a) = a) (a : α)
    : (ofRecord record ofValues toValues).parseBytes ((ofRecord record ofValues toValues).bytes a)
      = .ok a := by
  have written : record.write (toValues a) = Member.writeObject (toValues a).members :=
    record.write_eq_writeObject (toValues a)
  have bytes
      : (ofRecord record ofValues toValues).bytes a
        = Utf8.encode (Token.render (Member.writeObject (toValues a).members)) :=
    congrArg (Utf8.encode ∘ Token.render) written
  rw [bytes]
  exact parseBytes_render (Member.legible_writeObject _) (read_writeObject sound inverse a (.refl _))

end Form

end KeyVault.Json
