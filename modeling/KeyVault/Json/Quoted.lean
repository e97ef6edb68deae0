import KeyVault.Text.Utf8
/-!
Quoted JSON strings. A string is first delimited and then assembled: a string that ends
properly may still hold a lone surrogate or a stray byte, and then it has no text. Main
statement: reading what was written gives the text back and leaves what follows it.
-/

namespace KeyVault.Json

open Utf8 (Glyph)

/-- A piece of a string between its quotes: a character or stray byte that stands for
itself, or a numbered escape, which is a UTF-16 unit.
-/
inductive Piece where
  | glyph (glyph : Glyph)
  | unit (code : Nat)
  deriving DecidableEq, Repr

/-- The value of a hexadecimal digit of either case. -/
def hexValue (c : Char) : Option Nat :=
  if '0' ≤ c ∧ c ≤ '9' then some (c.toNat - '0'.toNat)
  else if 'a' ≤ c ∧ c ≤ 'f' then some (c.toNat - 'a'.toNat + 10)
  else if 'A' ≤ c ∧ c ≤ 'F' then some (c.toNat - 'A'.toNat + 10)
  else none

/-- The unit that four hexadecimal digits number. -/
def hexUnit (a b c d : Glyph) : Option Nat := do
  let a ← hexValue (← a)
  let b ← hexValue (← b)
  let c ← hexValue (← c)
  let d ← hexValue (← d)
  pure (((a * 16 + b) * 16 + c) * 16 + d)

/-- The character of a lettered escape. -/
def lettered : Char → Option Char
  | '"' => some '"'
  | '\\' => some '\\'
  | '/' => some '/'
  | 'b' => some '\x08'
  | 'f' => some '\x0c'
  | 'n' => some '\n'
  | 'r' => some '\r'
  | 't' => some '\t'
  | _ => none

/-- The pieces up to the closing quote, and what follows it. There are none when the quote
is missing, an escape is unknown or a control character stands for itself.
-/
def takeString : List Glyph → Option (List Piece × List Glyph)
  | [] => none
  | some '"' :: rest => some ([], rest)
  | some '\\' :: some 'u' :: a :: b :: c :: d :: rest =>
    match hexUnit a b c d with
    | some code => (takeString rest).map fun (pieces, after) => (.unit code :: pieces, after)
    | none => none
  | some '\\' :: some letter :: rest =>
    match lettered letter with
    | some c => (takeString rest).map fun (pieces, after) => (.glyph (some c) :: pieces, after)
    | none => none
  | some '\\' :: _ => none
  | some c :: rest =>
    if c.toNat < 0x20 then none
    else (takeString rest).map fun (pieces, after) => (.glyph (some c) :: pieces, after)
  | none :: rest => (takeString rest).map fun (pieces, after) => (.glyph none :: pieces, after)

/-- The text of the pieces. Surrogates count only as a pair of escapes, high before low. -/
def assemble : List Piece → Option (List Char)
  | [] => some []
  | .glyph (some c) :: rest => (assemble rest).map (c :: ·)
  | .glyph none :: _ => none
  | .unit code :: rest =>
    if code < 0xD800 ∨ 0xDFFF < code then (assemble rest).map (Char.ofNat code :: ·)
    else
      match rest with
      | .unit low :: after =>
        if code < 0xDC00 ∧ 0xDC00 ≤ low ∧ low ≤ 0xDFFF then
          (assemble after).map (Char.ofNat (0x10000 + (code - 0xD800) * 0x400 + (low - 0xDC00)) :: ·)
        else none
      | _ => none

/-- The written form of a character: the quote, the backslash and the control characters are
escaped, those with a letter by it.
-/
def escape (c : Char) : List Char :=
  if c = '"' then ['\\', '"']
  else if c = '\\' then ['\\', '\\']
  else if c = '\x08' then ['\\', 'b']
  else if c = '\x0c' then ['\\', 'f']
  else if c = '\n' then ['\\', 'n']
  else if c = '\r' then ['\\', 'r']
  else if c = '\t' then ['\\', 't']
  else if c.toNat < 0x20 then
    ['\\', 'u', '0', '0', Nat.digitChar (c.toNat / 16), Nat.digitChar (c.toNat % 16)]
  else [c]

def quote (text : List Char) : List Char :=
  '"' :: text.flatMap escape ++ ['"']

/-- A character in front of a string that ends stays in front of what the string gives. -/
theorem length_of_map_cons {taken : Option (List Piece × List Glyph)} {piece : Piece}
    {pieces : List Piece} {rest : List Glyph} {bound : Nat}
    (shorter : ∀ {pieces rest}, taken = some (pieces, rest) → rest.length < bound)
    (h : (taken.map fun (pieces, after) => (piece :: pieces, after)) = some (pieces, rest))
    : rest.length < bound := by
  obtain ⟨⟨_, _⟩, found, same⟩ := Option.map_eq_some_iff.mp h
  simp only [Prod.mk.injEq] at same
  exact same.2 ▸ shorter found

/-- The closing quote is taken away, so less remains. -/
theorem takeString_length {text rest : List Glyph} {pieces : List Piece}
    (h : takeString text = some (pieces, rest))
    : rest.length < text.length := by
  fun_induction takeString text generalizing pieces rest with
  | case1 => simp at h
  | case2 after => simp_all
  | case3 a b c d after _ _ ih =>
    have := length_of_map_cons ih h
    simp only [List.length_cons]
    omega
  | case4 => simp at h
  | case5 _ after _ _ _ ih =>
    have := length_of_map_cons ih h
    simp only [List.length_cons]
    omega
  | case6 => simp at h
  | case7 => simp at h
  | case8 => simp at h
  | case9 _ after _ _ _ _ _ ih =>
    have := length_of_map_cons ih h
    simp only [List.length_cons]
    omega
  | case10 after ih =>
    have := length_of_map_cons ih h
    simp only [List.length_cons]
    omega

/-- The two digits of a control character number it. -/
theorem hexUnit_digitChar {n : Nat} (h : n < 0x20)
    : hexUnit (some '0') (some '0') (some (Nat.digitChar (n / 16))) (some (Nat.digitChar (n % 16)))
      = some n := by
  have all : ∀ n < 0x20, hexUnit (some '0') (some '0') (some (Nat.digitChar (n / 16)))
      (some (Nat.digitChar (n % 16))) = some n := by decide
  exact all n h

/-- Reading one written character leaves the rest of the string. The escaped forms are one
piece, which gives the character back.
-/
theorem takeString_escape_append (c : Char) (rest : List Glyph)
    : ∃ piece, (∀ pieces, assemble (piece :: pieces) = (assemble pieces).map (c :: ·))
        ∧ takeString ((escape c).map some ++ rest)
          = (takeString rest).map fun (pieces, after) => (piece :: pieces, after) := by
  unfold escape
  by_cases quote : c = '"'
  · subst quote
    exact ⟨.glyph (some '"'), fun _ => rfl, rfl⟩
  by_cases backslash : c = '\\'
  · subst backslash
    exact ⟨.glyph (some '\\'), fun _ => rfl, rfl⟩
  by_cases backspace : c = '\x08'
  · subst backspace
    exact ⟨.glyph (some '\x08'), fun _ => rfl, rfl⟩
  by_cases feed : c = '\x0c'
  · subst feed
    exact ⟨.glyph (some '\x0c'), fun _ => rfl, rfl⟩
  by_cases newline : c = '\n'
  · subst newline
    exact ⟨.glyph (some '\n'), fun _ => rfl, rfl⟩
  by_cases carriage : c = '\r'
  · subst carriage
    exact ⟨.glyph (some '\r'), fun _ => rfl, rfl⟩
  by_cases tab : c = '\t'
  · subst tab
    exact ⟨.glyph (some '\t'), fun _ => rfl, rfl⟩
  simp only [quote, backslash, backspace, feed, newline, carriage, tab, if_false]
  by_cases control : c.toNat < 0x20
  · refine ⟨.unit c.toNat, fun pieces => ?_, ?_⟩
    · have small : c.toNat < 0xD800 := by omega
      match pieces with
      | [] => simp [assemble, small]
      | .glyph _ :: _ => simp [assemble, small]
      | .unit _ :: _ => simp [assemble, small]
    · simp [control, takeString, hexUnit_digitChar control]
  · refine ⟨.glyph (some c), fun _ => rfl, ?_⟩
    simp [control, takeString, backslash]

/-- Reading a written string gives its text and leaves what follows the closing quote. -/
theorem takeString_quote (text : List Char) (rest : List Glyph)
    : ∃ pieces, assemble pieces = some text
        ∧ takeString ((text.flatMap escape ++ ['"']).map some ++ rest) = some (pieces, rest) := by
  induction text with
  | nil => exact ⟨[], rfl, rfl⟩
  | cons c text ih =>
    obtain ⟨pieces, same, taken⟩ := ih
    obtain ⟨piece, front, step⟩ :=
      takeString_escape_append c ((text.flatMap escape ++ ['"']).map some ++ rest)
    refine ⟨piece :: pieces, by simp [front, same], ?_⟩
    simp only [List.flatMap_cons, List.append_assoc, List.map_append] at step taken ⊢
    rw [step, taken]
    rfl

end KeyVault.Json
