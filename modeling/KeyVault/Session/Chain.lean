import KeyVault.Identifier
/-!
The stored form of a forwarding chain: the keys with commas between them. No key at all is
stored as the empty text.
-/

namespace KeyVault.Chain

/-- The pieces of a text between commas; there is one more piece than there are commas. -/
def pieces : List Char → List (List Char)
  | [] => [[]]
  | c :: rest =>
    if c = ',' then [] :: pieces rest
    else
      match pieces rest with
      | [] => [[c]]
      | first :: others => (c :: first) :: others

def joined (texts : List (List Char)) : List Char :=
  [','].intercalate texts

/-- The stored form of a chain. -/
def join (chain : List IdentityKey) : String :=
  String.ofList (joined (chain.map fun key => key.text.toList))

/-- The chain of a stored form. -/
def split (text : String) : List IdentityKey :=
  if text = "" then [] else (pieces text.toList).map fun piece => ⟨String.ofList piece⟩

end KeyVault.Chain
