/-!
Trust in a device. The seven states are ordered by the integer codes under which they are
stored; no other code stands for a state.
-/

namespace KeyVault

/-- What is stored does not name a value of the closed set it should come from. -/
inductive UnknownValue where
  | trustCode (code : Int)
  | usage (text : String)
  deriving DecidableEq, Repr

def UnknownValue.message : UnknownValue → String
  | trustCode code => s!"Unknown trust state code: {code}"
  | usage text => s!"Unknown cross-signing usage: {text}"

/-- How far a device is trusted, from the least to the most. -/
inductive TrustState where
  | blacklisted
  | unset
  | unverified
  | crossSignedUntrusted
  | crossSignedTofu
  | crossSignedVerified
  | verified
  deriving DecidableEq, Repr

namespace TrustState

/-- Every state, in ascending trust. -/
def all : List TrustState :=
  [blacklisted, unset, unverified, crossSignedUntrusted, crossSignedTofu, crossSignedVerified, verified]

/-- A device starts without a decision. -/
instance : Inhabited TrustState where
  default := unset

/-- The integer under which a state is stored. -/
def code : TrustState → Int
  | blacklisted => -100
  | unset => -1
  | unverified => 0
  | crossSignedUntrusted => 50
  | crossSignedTofu => 100
  | crossSignedVerified => 200
  | verified => 300

def ofCode (code : Int) : Except UnknownValue TrustState :=
  match all.find? (fun state => state.code == code) with
  | some state => .ok state
  | none => .error (.trustCode code)

/-- Reading back the code of a state gives the state. -/
theorem ofCode_code (state : TrustState) : ofCode state.code = .ok state := by
  cases state <;> rfl

/-- States are compared by their place in the list, that is, by trust. -/
instance : Ord TrustState where
  compare a b := compare (all.idxOf a) (all.idxOf b)

def tag : TrustState → String
  | blacklisted => "blacklisted"
  | unset => "unset"
  | unverified => "unverified"
  | crossSignedUntrusted => "cross_signed_untrusted"
  | crossSignedTofu => "cross_signed_tofu"
  | crossSignedVerified => "cross_signed_verified"
  | verified => "verified"

end TrustState

end KeyVault
