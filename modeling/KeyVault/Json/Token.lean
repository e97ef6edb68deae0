import KeyVault.Json.Numeral
import KeyVault.Json.Quoted
/-!
The tokens of a JSON text. Reading stops at the first place that starts no token, which is
itself a token, so that whatever stands before it can still be judged.
-/

namespace KeyVault.Json

open Utf8 (Glyph)

/-- A token. A string without text is delimited but holds a lone surrogate or a stray byte. -/
inductive Token where
  | openBrace
  | closeBrace
  | openBracket
  | closeBracket
  | colon
  | comma
  | null
  | boolean (value : Bool)
  | number (numeral : Numeral)
  | string (text : Option (List Char))
  | broken
  deriving DecidableEq, Repr

namespace Token

/-- The token of a word after its first letter, and what follows it. -/
def word : List Glyph → Option (Token × List Glyph)
  | some 'n' :: some 'u' :: some 'l' :: some 'l' :: rest => some (null, rest)
  | some 't' :: some 'r' :: some 'u' :: some 'e' :: rest => some (boolean true, rest)
  | some 'f' :: some 'a' :: some 'l' :: some 's' :: some 'e' :: rest => some (boolean false, rest)
  | _ => none

def mark : Char → Option Token
  | '\x7b' => some openBrace
  | '\x7d' => some closeBrace
  | '[' => some openBracket
  | ']' => some closeBracket
  | ':' => some colon
  | ',' => some comma
  | _ => none

/-- Blanks are the space, the tab and the two line ends. -/
def isBlank (c : Char) : Bool :=
  c == ' ' || c == '\t' || c == '\n' || c == '\r'

/-- The token that starts with a character which is no blank, and what follows it. -/
def take (c : Char) (rest : List Glyph) : Option (Token × List Glyph) :=
  match mark c with
  | some token => some (token, rest)
  | none =>
    if c = '"' then
      (takeString rest).map fun (pieces, after) => (string (assemble pieces), after)
    else if c = '-' ∨ c.isDigit then
      (takeNumeral (some c :: rest)).map fun (numeral, after) => (number numeral, after)
    else word (some c :: rest)

theorem word_length {text rest : List Glyph} {token : Token}
    (h : word text = some (token, rest))
    : rest.length < text.length := by
  unfold word at h
  split at h
  all_goals
    simp only [Option.some.injEq, Prod.mk.injEq, reduceCtorEq] at h
    try obtain ⟨_, rfl⟩ := h
    try simp only [List.length_cons]
    try omega

/-- A token takes its first character at least. -/
theorem take_length {c : Char} {rest after : List Glyph} {token : Token}
    (h : take c rest = some (token, after))
    : after.length < rest.length + 1 := by
  unfold take at h
  split at h
  · simp only [Option.some.injEq, Prod.mk.injEq] at h
    obtain ⟨_, rfl⟩ := h
    omega
  · split at h
    · obtain ⟨⟨_, _⟩, taken, same⟩ := Option.map_eq_some_iff.mp h
      have := takeString_length taken
      simp only [Prod.mk.injEq] at same
      obtain ⟨_, rfl⟩ := same
      omega
    · split at h
      · obtain ⟨⟨_, _⟩, taken, same⟩ := Option.map_eq_some_iff.mp h
        have := takeNumeral_length taken
        simp only [Prod.mk.injEq, List.length_cons] at same this
        obtain ⟨_, rfl⟩ := same
        omega
      · exact word_length h

def ofGlyphs : List Glyph → List Token
  | [] => []
  | none :: _ => [broken]
  | some c :: rest =>
    if isBlank c then ofGlyphs rest
    else
      match _h : take c rest with
      | some (token, after) => token :: ofGlyphs after
      | none => [broken]
termination_by text => text.length
decreasing_by
  · simp
  · exact take_length _h

/-- The written form of a token. A string without text is written as a lone surrogate. -/
def spell : Token → List Char
  | openBrace => ['\x7b']
  | closeBrace => ['\x7d']
  | openBracket => ['[']
  | closeBracket => [']']
  | colon => [':']
  | comma => [',']
  | null => ['n', 'u', 'l', 'l']
  | boolean true => ['t', 'r', 'u', 'e']
  | boolean false => ['f', 'a', 'l', 's', 'e']
  | number numeral => numeral.spell
  | string (some text) => quote text
  | string none => ['"', '\\', 'u', 'd', '8', '0', '0', '"']
  | broken => ['?']

/-- The compact text of a sequence of tokens, without a blank. -/
def render (tokens : List Token) : List Char :=
  tokens.flatMap spell

end Token

end KeyVault.Json
