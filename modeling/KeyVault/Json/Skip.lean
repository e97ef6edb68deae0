import KeyVault.Json.Token
/-!
Skipping a value nobody asked for. The value may be nested to any depth; all that counts is
that its tokens follow the grammar.
-/

namespace KeyVault.Json

/-- A list or an object that is still open. -/
inductive Frame where
  | list
  | members
  deriving DecidableEq, Repr

/-- What the grammar admits next. -/
inductive Awaited where
  | value
  /-- A value or the end of a list that has none yet. -/
  | element
  /-- The name of a member. -/
  | name
  /-- The name of a member or the end of an object that has none yet. -/
  | member
  /-- The colon between a name and its value. -/
  | colon
  /-- What follows a value inside the innermost open frame. -/
  | next
  deriving DecidableEq, Repr

/-- The state after a value was completed: none when no frame is open any more. -/
def afterValue : List Frame → Option Awaited
  | [] => none
  | _ :: _ => some .next

/-- What one token does inside the open frames: the frames open after it and what is
awaited, or none when the token is not admitted. An awaited thing of none says that the
value is complete.
-/
def skipToken (awaited : Awaited) (frames : List Frame) (token : Token)
    : Option (List Frame × Option Awaited) :=
  match awaited, token with
  | .element, .closeBracket | .next, .closeBracket =>
    match frames with
    | .list :: outer => some (outer, afterValue outer)
    | _ => none
  | .member, .closeBrace | .next, .closeBrace =>
    match frames with
    | .members :: outer => some (outer, afterValue outer)
    | _ => none
  | .next, .comma =>
    match frames with
    | .list :: _ => some (frames, some .value)
    | .members :: _ => some (frames, some .name)
    | [] => none
  | .name, .string _ | .member, .string _ => some (frames, some .colon)
  | .colon, .colon => some (frames, some .value)
  | .value, .openBracket | .element, .openBracket => some (.list :: frames, some .element)
  | .value, .openBrace | .element, .openBrace => some (.members :: frames, some .member)
  | .value, .null | .element, .null => some (frames, afterValue frames)
  | .value, .boolean _ | .element, .boolean _ => some (frames, afterValue frames)
  | .value, .number _ | .element, .number _ => some (frames, afterValue frames)
  | .value, .string _ | .element, .string _ => some (frames, afterValue frames)
  | _, _ => none

/-- Skips tokens until the value is complete, and gives those behind it. -/
def skipFrom (awaited : Awaited) (frames : List Frame) : List Token → Option (List Token)
  | [] => none
  | token :: rest =>
    match skipToken awaited frames token with
    | none => none
    | some (_, none) => some rest
    | some (frames, some awaited) => skipFrom awaited frames rest

def skip (tokens : List Token) : Option (List Token) :=
  skipFrom .value [] tokens

theorem skipFrom_length {awaited : Awaited} {frames : List Frame} {tokens rest : List Token}
    (h : skipFrom awaited frames tokens = some rest)
    : rest.length < tokens.length := by
  fun_induction skipFrom awaited frames tokens with
  | case1 => simp at h
  | case2 => simp at h
  | case3 => simp_all
  | case4 _ _ _ _ _ _ _ ih =>
    have := ih h
    simp only [List.length_cons]
    omega

/-- A skipped value has at least one token. -/
theorem skip_length {tokens rest : List Token} (h : skip tokens = some rest)
    : rest.length < tokens.length :=
  skipFrom_length h

end KeyVault.Json
