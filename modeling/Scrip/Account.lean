import Scrip.Time.Instant

/-!
# Accounts

Holders of coins.

* `Account.canAfford`: whether the balance covers an amount.
* `maxCoins`: the largest balance that can be kept.
-/

namespace Scrip

/-- The number a store gives to an account. -/
abbrev AccountId := Int

/-- The largest balance that fits a signed 64-bit number. -/
def maxCoins : Int := 9223372036854775807

/-- The coins a new account is granted when nothing else is set. -/
def defaultGrant : Int := 1000

/-- An account. The username is unique and never changes. -/
structure Account where
  id : AccountId
  username : String
  passwordHash : String
  coins : Int
  createdAt : Instant
  deriving DecidableEq, Repr

/-- Whether the balance covers an amount. -/
def Account.canAfford (a : Account) (amount : Int) : Bool :=
  amount ≤ a.coins

/-- An account that no store has numbered yet. -/
structure NewAccount where
  username : String
  passwordHash : String
  coins : Int
  deriving DecidableEq, Repr

/-- The account as a store keeps it. -/
def NewAccount.toAccount (a : NewAccount) (id : AccountId) (now : Instant) : Account :=
  ⟨id, a.username, a.passwordHash, a.coins, now⟩

end Scrip
