import Scrip.Proofs.Engine.Effect
import Scrip.Proofs.Framework.Proper

/-!
# The work of a command

What holds of the work of each command when it ends with a value, whatever the
books replied on the way.

* `moveCoins_gives`, `buy_gives`: the movements of coins;
* `insertNew_gives`, `insertNewItem_gives`: the records that are added;
* `loadInventory_onlyReads`, `loadHistory_onlyReads`: work that only reads.
-/

namespace Scrip

open Credential Work

theorem NewEntry.transfer?_eq_ok {source destination : AccountId} {amount : Int} {new : NewEntry}
    (h : NewEntry.transfer? source destination amount = .ok new) :
    0 < amount ∧ source ≠ destination ∧ new = ⟨source, destination, amount, .transfer, none⟩ := by
  unfold NewEntry.transfer? at h
  split at h
  · cases h
  · split at h
    · cases h
    · exact ⟨Int.not_le.mp ‹_›, ‹_›, (Except.ok.inj h).symm⟩

theorem NewEntry.isBusiness_of_transfer? {source destination : AccountId} {amount : Int}
    {e : Error} (h : NewEntry.transfer? source destination amount = .error e) :
    e.isBusiness = true := by
  unfold NewEntry.transfer? at h
  split at h
  · cases h
    rfl
  · split at h <;> cases h
    rfl

theorem NewEntry.purchase?_eq_ok {account : AccountId} {amount : Int} {item : ItemId}
    {new : NewEntry} (h : NewEntry.purchase? account amount item = .ok new) :
    0 < amount ∧ new = ⟨account, account, amount, .purchase, some item⟩ := by
  unfold NewEntry.purchase? at h
  split at h
  · cases h
  · exact ⟨Int.not_le.mp ‹_›, (Except.ok.inj h).symm⟩

theorem NewEntry.isBusiness_of_purchase? {account : AccountId} {amount : Int} {item : ItemId}
    {e : Error} (h : NewEntry.purchase? account amount item = .error e) :
    e.isBusiness = true := by
  unfold NewEntry.purchase? at h
  split at h <;> cases h
  rfl

namespace Engine

/-- An account that is accepted has the canonical name and the grant. -/
theorem newAccount?_eq_ok {e : Engine} {username password : String} {salt : Crypt.Salt}
    {new : NewAccount} (h : e.newAccount? username password salt = .ok new) :
    normalizeUsername username = .ok new.username ∧ validatePassword password = .ok () ∧
      new.passwordHash = hashPassword salt password ∧ new.coins = e.initialBalance := by
  unfold newAccount? at h
  cases hn : normalizeUsername username with
  | error refusal => rw [hn] at h; cases h
  | ok name =>
    cases hp : validatePassword password with
    | error refusal => rw [hn, hp] at h; cases h
    | ok =>
      rw [hn, hp] at h
      cases h
      exact ⟨rfl, rfl, rfl, rfl⟩

/-- Names and passwords that are not acceptable are refused. -/
theorem newAccount?_eq_error {e : Engine} {username password : String} {salt : Crypt.Salt}
    {err : Error} (h : e.newAccount? username password salt = .error err) :
    ∃ detail, err = .invalidInput detail := by
  unfold newAccount? at h
  cases hn : normalizeUsername username with
  | error err' =>
    rw [hn] at h
    cases h
    simp only [normalizeUsername] at hn
    split at hn <;> cases hn
    exact ⟨_, rfl⟩
  | ok name =>
    cases hp : validatePassword password with
    | error err' =>
      rw [hn, hp] at h
      cases h
      unfold validatePassword at hp
      split at hp <;> cases hp
      exact ⟨_, rfl⟩
    | ok =>
      rw [hn, hp] at h
      cases h

theorem isBusiness_of_newAccount? {e : Engine} {username password : String} {salt : Crypt.Salt}
    {err : Error} (h : e.newAccount? username password salt = .error err) :
    err.isBusiness = true := by
  obtain ⟨detail, rfl⟩ := newAccount?_eq_error h
  rfl

theorem isBusiness_of_newItem? {name : String} {price : Int} {err : Error}
    (h : NewItem.of? name price = .error err) : err.isBusiness = true := by
  simp only [NewItem.of?] at h
  split at h
  · cases h
    rfl
  · split at h <;> cases h
    rfl

/-- An item that is accepted has the trimmed name. -/
theorem newItem?_eq_ok {name : String} {price : Int} {new : NewItem}
    (h : NewItem.of? name price = .ok new) : new.name = Text.trim name := by
  simp only [NewItem.of?] at h
  split at h
  · cases h
  · split at h <;> cases h
    rfl

theorem newItem?_positive {name : String} {price : Int} {new : NewItem}
    (h : NewItem.of? name price = .ok new) : 0 < new.price := by
  simp only [NewItem.of?] at h
  split at h
  · cases h
  · split at h <;> cases h
    exact Int.not_le.mp ‹_›

variable {b : Books}

theorem lock_gives (id : AccountId) :
    (lock id).Gives b fun a b' => b.account? id = some a ∧ b' = b := by
  refine Gives.bind (Gives.call fun x b' hr a hx => ?_) fun x b' hx => Gives.found hx
  subst hx
  exact hr.lockAccount

/-- Two accounts are locked as they are, in the order asked for. -/
theorem lockPair_gives (i j : AccountId) :
    (lockPair i j).Gives b fun x b' =>
      b.account? i = some x.1 ∧ b.account? j = some x.2 ∧ b' = b := by
  refine Gives.bind (lock_gives _) fun low b₁ ⟨hlow, h₁⟩ => ?_
  refine Gives.bind (lock_gives _) fun high b₂ ⟨hhigh, h₂⟩ => Gives.pure ?_
  subst h₁ h₂
  have hid := (Books.account?_mem hlow).2
  rcases Int.le_total i j with hij | hij
  · rw [Int.min_eq_left hij] at hlow hid
    rw [Int.max_eq_right hij] at hhigh
    rw [if_pos hid]
    exact ⟨hlow, hhigh, rfl⟩
  · rw [Int.min_eq_right hij] at hlow hid
    rw [Int.max_eq_left hij] at hhigh
    split
    · rename_i he
      have hji : j = i := hid.symm.trans he
      subst hji
      exact ⟨hlow, hhigh, rfl⟩
    · exact ⟨hhigh, hlow, rfl⟩

/-- A transfer that is made moves the amount between two accounts, and one entry says so. -/
theorem moveCoins_gives (hk : b.Keyed) (e : Engine) {id : AccountId} {name : String} {amount : Int}
    {deadline : Option Nat} :
    (moveCoins id (canonicalUsername name) amount).Gives b fun entry b' =>
      Effect e b (.transfer id name amount deadline) (.entry entry) b' := by
  refine Gives.lookup (Gives.call fun x b' hr a hx => (hx ▸ hr).account)
    fun sender b₁ ⟨source, h₁⟩ => ?_
  subst h₁
  refine Gives.lookup (Gives.call fun x b' hr a hx => (hx ▸ hr).accountByName)
    fun recipient b₂ ⟨destination, h₂⟩ => ?_
  subst h₂
  refine Gives.bind (Gives.checked (Q := fun new b' => (0 < amount ∧ sender.id ≠ recipient.id ∧
    new = ⟨sender.id, recipient.id, amount, .transfer, none⟩) ∧ b' = b₂)
    fun new hn => ⟨NewEntry.transfer?_eq_ok hn, rfl⟩) fun new b₃ ⟨⟨positive, apart, hnew⟩, h₃⟩ => ?_
  subst h₃ hnew
  refine Gives.bind (lockPair_gives _ _) fun ⟨s, r⟩ b₄ ⟨hs, hr, h₄⟩ => ?_
  subst h₄
  -- What was locked is what was found.
  cases (hk.account?_eq (Books.account?_mem source).1).symm.trans hs
  cases (hk.account?_eq (Books.accountByName?_mem destination).1).symm.trans hr
  refine Gives.guard fun covered => Gives.guard fun fits => ?_
  refine Gives.insist (Gives.call fun x b' hr hx => (hx ▸ hr).debit) fun b₅ hd => ?_
  obtain ⟨_, _, -, h₅⟩ := Books.debit_eq_some hk hd
  subst h₅
  refine Gives.insist (Gives.call fun x b' hr hx => (hx ▸ hr).credit) fun b₆ hc => ?_
  obtain ⟨_, _, -, h₆⟩ := Books.credit_eq_some (hk.addCoins _) hc
  subst h₆
  refine Gives.call fun entry b₇ hr => ?_
  obtain ⟨now, ha⟩ := hr.append
  cases ha
  exact .transfer source destination apart positive (by simpa [Account.canAfford] using covered)
    (Int.not_lt.mp fits) rfl

/-- The last resort for one more of an item: a holding that has to be there is raised. -/
def raise (account : AccountId) (item : ItemId) : Work Unit := do
  if !(← call (.incrementHolding account item)) then
    throw (.store (holdingFailure account item))

theorem raise_gives (account : AccountId) (item : ItemId) :
    (raise account item).Gives b fun _ b' => ∃ now, b' = b.gain account item now := by
  refine Gives.bind (P := fun x b' => x = true → b.incrementHolding account item = some b')
    (Gives.call fun x b' hr hx => (hx ▸ hr).incrementHolding) fun x b' hx => ?_
  split
  · exact Gives.throw
  · rename_i hd
    exact Gives.pure ⟨default, Books.incrementHolding_eq_gain _ (hx (by simpa using hd))⟩

/-- One more of an item is one more, whether or not there was a holding of it. -/
theorem takeOne_gives (account : AccountId) (item : ItemId) :
    (takeOne account item).Gives b fun _ b' => ∃ now, b' = b.gain account item now := by
  refine Gives.look rfl fun x => ?_
  split
  · refine Gives.bind (Gives.call fun x b' hr => Books.insertHolding_cases hr) fun x b' h => ?_
    split
    · exact Gives.pure (h.1 ‹_›)
    · rename_i hn
      rw [h.2 (by simpa using hn)]
      exact raise_gives account item
  · exact raise_gives account item

/-- A purchase that is made takes the price and gives one item, and one entry says so. -/
theorem buy_gives (hk : b.Keyed) (e : Engine) {id : AccountId} {name : String}
    {deadline : Option Nat} :
    (buy id name).Gives b fun entry b' =>
      Effect e b (.purchase id name deadline) (.entry entry) b' := by
  refine Gives.lookup (Gives.call fun x b' hr a hx => (hx ▸ hr).itemByName)
    fun item b₁ ⟨goods, h₁⟩ => ?_
  subst h₁
  refine Gives.bind (lock_gives _) fun buyer b₂ ⟨source, h₂⟩ => ?_
  subst h₂
  refine Gives.bind (Gives.checked (Q := fun new b' => (0 < item.price ∧
    new = ⟨buyer.id, buyer.id, item.price, .purchase, some item.id⟩) ∧ b' = b₂)
    fun new hn => ⟨NewEntry.purchase?_eq_ok hn, rfl⟩) fun new b₃ ⟨⟨positive, hnew⟩, h₃⟩ => ?_
  subst h₃ hnew
  refine Gives.guard fun covered => ?_
  refine Gives.insist (Gives.call fun x b' hr hx => (hx ▸ hr).debit) fun b₄ hd => ?_
  obtain ⟨_, _, -, h₄⟩ := Books.debit_eq_some hk hd
  subst h₄
  refine Gives.bind (takeOne_gives _ _) fun _ b₅ ⟨acquired, h₅⟩ => ?_
  subst h₅
  refine Gives.call fun entry b₆ hr => ?_
  obtain ⟨now, ha⟩ := hr.append
  cases ha
  have recorded : NewEntry.toEntry ⟨buyer.id, buyer.id, item.price, .purchase, some item.id⟩
      (((b₃.addCoins buyer.id (-item.price)).gain buyer.id item.id acquired).sequences.entry + 1)
      now =
        ⟨b₃.sequences.entry + 1, buyer.id, buyer.id, item.price, .purchase, some item.id, now⟩ := by
    rw [Books.gain_lastEntry]
    rfl
  exact .purchase acquired source goods positive (by simpa [Account.canAfford] using covered)
    recorded

/-- An account that is added is new by its name, and gets the next number. -/
theorem insertNew_gives (new : NewAccount) :
    (insertNew new).Gives b fun a b' => b.accountByName? new.username = none ∧
      ∃ now, a = new.toAccount (b.sequences.account + 1) now ∧ b' = b.withAccount a := by
  refine Gives.look rfl fun x => Gives.guard fun _ => ?_
  refine Gives.attempt (fun a b' hr => Gives.pure ?_) fun failure => ?_
  · obtain ⟨fresh, now, h⟩ := hr.insertAccount
    cases h
    exact ⟨fresh, now, rfl, rfl⟩
  · cases failure with
    | conflict => exact Gives.refuse
    | database | corrupted => exact Gives.throw

/-- An item that is added is new by its name, and gets the next number. -/
theorem insertNewItem_gives (new : NewItem) :
    (insertNewItem new).Gives b fun i b' => b.itemByName? new.name = none ∧
      ∃ now, i = new.toItem (b.sequences.item + 1) now ∧ b' = b.withItem i := by
  refine Gives.look rfl fun x => Gives.guard fun _ => ?_
  refine Gives.attempt (fun i b' hr => Gives.pure ?_) fun failure => ?_
  · obtain ⟨fresh, now, h⟩ := hr.insertItem
    cases h
    exact ⟨fresh, now, rfl, rfl⟩
  · cases failure with
    | conflict => exact Gives.refuse
    | database | corrupted => exact Gives.throw

/-! ## Commands that only look -/

variable {α : Type}

/-- A record is looked up, or it is refused that there is none. -/
theorem lookUp_onlyReads {w : Work (Option α)} (hw : w.OnlyReads) {e : Error}
    (he : e.isBusiness = true) : OnlyReads (w >>= found e) :=
  hw.bind fun _ => Proper.found he

/-- An account is looked up, and something is done with it. -/
theorem withAccount_onlyReads (id : AccountId) {f : Account → Work α}
    (hf : ∀ a, (f a).OnlyReads) :
    OnlyReads (call (.account id) >>= fun x => found (.noAccount id) x >>= f) :=
  (OnlyReads.call rfl).bind fun _ => (Proper.found rfl).bind hf

theorem ownedItems_onlyReads (hs : List Holding) : (ownedItems hs).OnlyReads := by
  induction hs with
  | nil => exact Proper.pure
  | cons h hs ih =>
    refine (OnlyReads.call rfl).bind fun item => ih.bind fun owned => ?_
    cases item <;> exact Proper.pure

theorem loadInventory_onlyReads (id : AccountId) : (loadInventory id).OnlyReads :=
  (OnlyReads.call rfl).bind ownedItems_onlyReads

theorem Resolved.account_onlyReads (r : Resolved) (id : AccountId) : (r.account id).OnlyReads := by
  unfold Resolved.account
  split
  · exact Proper.pure
  · refine (OnlyReads.call rfl).bind fun account => ?_
    cases account <;> exact Proper.pure

theorem Resolved.item_onlyReads (r : Resolved) (id : ItemId) : (r.item id).OnlyReads := by
  unfold Resolved.item
  split
  · exact Proper.pure
  · refine (OnlyReads.call rfl).bind fun item => ?_
    cases item <;> exact Proper.pure

theorem Resolved.entry_onlyReads (r : Resolved) (e : Entry) : (r.entry e).OnlyReads := by
  refine (account_onlyReads _ _).bind fun r => (account_onlyReads _ _).bind fun r => ?_
  split
  · exact item_onlyReads _ _
  · exact Proper.pure

theorem loadHistory_onlyReads (owner : Account) : (loadHistory owner).OnlyReads :=
  (OnlyReads.call rfl).bind fun _ => (Proper.foldlM Resolved.entry_onlyReads _ _).bind fun _ =>
    Proper.pure

theorem statement_onlyReads (id : AccountId) (account : Account) :
    OnlyReads (do
      let inventory ← loadInventory id
      let history ← loadHistory account
      return (⟨account, inventory, history⟩ : Statement)) :=
  (loadInventory_onlyReads _).bind fun _ => (loadHistory_onlyReads _).bind fun _ => Proper.pure

end Engine

end Scrip
