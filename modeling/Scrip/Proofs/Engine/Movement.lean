import Scrip.Proofs.Engine.SignIn
import Scrip.Proofs.Framework.Ruled
import Scrip.Proofs.Store.Agreement

/-!
# How movements of coins are decided

Whether a transfer or a purchase is made is a matter of the books alone (`Books.verdict`), and so
is what becomes of them (`Books.move`), but for the readings of the clock. `Books.Carries` says
both, for every state that a store can be in (`Backend.Admits`): balances may be negative in
memory, though no command makes them so.

* `moveCoins_rules`, `buy_rules`: the work of a transfer and of a purchase;
* `Backend.Rests.exchange`: a movement that a store is alone with, on either store.
-/

namespace Scrip

open Credential Work

/-- A transfer or a purchase. -/
inductive Movement where
  | transfer (sender : AccountId) (recipient : String) (amount : Int)
  | purchase (buyer : AccountId) (item : String)
  deriving DecidableEq, Repr

/-- The dialogue that carries a movement out. -/
def Movement.exchange (e : Engine) (deadline : Option Nat) :
    Movement → Exchange (Except Error Entry)
  | transfer sender recipient amount => e.transfer sender recipient amount deadline
  | purchase buyer item => e.purchase buyer item deadline

/-- The entry of a transfer between two accounts. -/
def NewEntry.between (amount : Int) (parties : Account × Account) : NewEntry :=
  ⟨parties.1.id, parties.2.id, amount, .transfer, none⟩

/-- The entry of a purchase, with the buyer on both sides. -/
def NewEntry.ofSale (sale : Account × Item) : NewEntry :=
  ⟨sale.1.id, sale.1.id, sale.2.price, .purchase, some sale.2.id⟩

namespace Books

variable {b b' : Books}

/-- The entry that a movement makes, or why it is refused. -/
def verdict (b : Books) : Movement → Except Error NewEntry
  | .transfer id name amount =>
    if amount ≤ 0 then .error (.amountNotPositive amount)
    else (b.transferable id (canonicalUsername name) amount).map (.between amount)
  | .purchase id name => (b.purchasable id name).map .ofSale

/-- The books after the movement that an entry tells of. An item that is new to its buyer is noted
with the time at which it was acquired. -/
def move (b : Books) (x : Entry) (acquired : Instant) : Books :=
  match x.item with
  | none => ((b.addCoins x.source (-x.amount)).addCoins x.destination x.amount).withEntry x
  | some item => ((b.addCoins x.source (-x.amount)).gain x.source item acquired).withEntry x

/-- How a movement ends: it is refused and the books are as they were, or it is made and they are
as its entry tells. -/
inductive Carries (b : Books) (verdict : Except Error NewEntry) :
    Except Error Entry → Books → Prop
  | refused {e : Error} (h : verdict = .error e) : Carries b verdict (.error e) b
  | made {new : NewEntry} (now acquired : Instant) (h : verdict = .ok new) :
      Carries b verdict (.ok (new.toEntry (b.sequences.entry + 1) now))
        (b.move (new.toEntry (b.sequences.entry + 1) now) acquired)

/-- Balances that a signed 64-bit number can hold, each of an account with its own number. -/
structure Representable (b : Books) : Prop where
  keyed : b.Keyed
  bounded : ∀ a ∈ b.accounts, -maxCoins - 1 ≤ a.coins ∧ a.coins ≤ maxCoins

theorem Storable.representable (h : b.Storable) : b.Representable := by
  refine ⟨h.keyed, fun a ha => ?_⟩
  have bounds := h.bounded a ha
  have positive : (0 : Int) ≤ maxCoins := by decide
  omega

/-- A movement that nothing is said against, and its entry. -/
inductive Permits (b : Books) : Movement → NewEntry → Prop
  | transfer {id : AccountId} {name : String} {amount : Int} {sender recipient : Account}
      (source : b.account? id = some sender)
      (destination : b.accountByName? (canonicalUsername name) = some recipient)
      (positive : 0 < amount) (apart : sender.id ≠ recipient.id)
      (covered : amount ≤ sender.coins) (fits : recipient.coins + amount ≤ maxCoins) :
      Permits b (.transfer id name amount) (.between amount (sender, recipient))
  | purchase {id : AccountId} {name : String} {buyer : Account} {item : Item}
      (source : b.account? id = some buyer) (goods : b.itemByName? name = some item)
      (positive : 0 < item.price) (covered : item.price ≤ buyer.coins) :
      Permits b (.purchase id name) (.ofSale (buyer, item))

/-! ## What is decided, step by step -/

theorem verdict_transfer_of_pos {id : AccountId} {name : String} {amount : Int}
    (positive : 0 < amount) : b.verdict (.transfer id name amount) =
      (b.transferable id (canonicalUsername name) amount).map (.between amount) :=
  if_neg (Int.not_le.mpr positive)

theorem transferable_eq {id : AccountId} {name : String} {amount : Int} {s r : Account}
    {new : NewEntry} (hs : b.account? id = some s) (hr : b.accountByName? name = some r)
    (hn : NewEntry.transfer? s.id r.id amount = .ok new) :
    b.transferable id name amount =
      if s.coins < amount then .error (Engine.tooFewCoins s amount)
      else if maxCoins < r.coins + amount then .error (Engine.tooManyCoins r amount)
      else .ok (s, r) := by
  simp only [transferable, hs, hr, hn]

theorem purchasable_eq {id : AccountId} {name : String} {buyer : Account} {item : Item}
    {new : NewEntry} (hi : b.itemByName? name = some item) (hb : b.account? id = some buyer)
    (hn : NewEntry.purchase? buyer.id item.price item.id = .ok new) :
    b.purchasable id name =
      if buyer.coins < item.price then .error (Engine.tooDear buyer item)
      else .ok (buyer, item) := by
  simp only [purchasable, hi, hb, hn]

theorem answer_credit {id : AccountId} {a : Account} {amount : Int} (hk : b.Keyed)
    (ha : b.account? id = some a) (least : -maxCoins - 1 ≤ a.coins + amount)
    (most : a.coins + amount ≤ maxCoins) {now : Instant} :
    b.answer now (.credit id amount) = .ok (true, b.addCoins id amount) := by
  simp only [answer, Books.credit, ha, if_pos (And.intro least most), setCoins_eq_addCoins hk ha]
  rfl

theorem transferable_eq_ok {id : AccountId} {name : String} {amount : Int} {s r : Account}
    (h : b.transferable id name amount = .ok (s, r)) :
    b.account? id = some s ∧ b.accountByName? name = some r ∧ 0 < amount ∧ s.id ≠ r.id ∧
      amount ≤ s.coins ∧ r.coins + amount ≤ maxCoins := by
  unfold transferable at h
  split at h
  · cases h
  · cases h
  · rename_i hs hr
    split at h
    · cases h
    · rename_i hn
      obtain ⟨positive, apart, -⟩ := NewEntry.transfer?_eq_ok hn
      split at h
      · cases h
      · split at h <;> cases h
        exact ⟨hs, hr, positive, apart, Int.not_lt.mp ‹_›, Int.not_lt.mp ‹_›⟩

theorem purchasable_eq_ok {id : AccountId} {name : String} {buyer : Account} {item : Item}
    (h : b.purchasable id name = .ok (buyer, item)) :
    b.account? id = some buyer ∧ b.itemByName? name = some item ∧ 0 < item.price ∧
      item.price ≤ buyer.coins := by
  unfold purchasable at h
  split at h
  · cases h
  · cases h
  · rename_i hi hb
    split at h
    · cases h
    · rename_i hn
      split at h <;> cases h
      exact ⟨hb, hi, (NewEntry.purchase?_eq_ok hn).1, Int.not_lt.mp ‹_›⟩

theorem permits_of_verdict {m : Movement} {new : NewEntry} (h : b.verdict m = .ok new) :
    b.Permits m new := by
  cases m with
  | transfer id name amount =>
    rw [verdict] at h
    split at h
    · cases h
    · cases ht : b.transferable id (canonicalUsername name) amount with
      | error e => rw [ht] at h; cases h
      | ok parties =>
        rw [ht] at h
        cases h
        obtain ⟨source, destination, positive, apart, covered, fits⟩ := transferable_eq_ok ht
        exact .transfer source destination positive apart covered fits
  | purchase id name =>
    rw [verdict] at h
    cases hp : b.purchasable id name with
    | error e => rw [hp] at h; cases h
    | ok sale =>
      rw [hp] at h
      cases h
      obtain ⟨source, goods, positive, covered⟩ := purchasable_eq_ok hp
      exact .purchase source goods positive covered

theorem append_of_answer {new : NewEntry} {x : Entry} {now : Instant}
    (h : b.answer now (.append new) = .ok (x, b')) :
    x = new.toEntry (b.sequences.entry + 1) now ∧
      b' = b.withEntry (new.toEntry (b.sequences.entry + 1) now) := by
  cases h
  exact ⟨rfl, rfl⟩

end Books

namespace Engine

variable {b : Books}

theorem lock_sees {id : AccountId} {a : Account} (ha : b.account? id = some a) :
    (lock id).Sees b a := by
  have found : (call (.lockAccount id)).Sees b (b.account? id) :=
    Yields.read (fun _ => rfl) ⟨rfl, rfl⟩
  refine found.bind (Yields.found (fun a' ha' => ?_) fun hn => ?_)
  · cases ha.symm.trans ha'
    exact ⟨rfl, rfl⟩
  · cases ha.symm.trans hn

/-- Two accounts are locked in the order of their numbers and given in the order asked for. -/
theorem lockPair_sees {s r : Account} (hs : b.account? s.id = some s)
    (hr : b.account? r.id = some r) : (lockPair s.id r.id).Sees b (s, r) := by
  rcases Int.le_total s.id r.id with h | h
  · unfold lockPair
    rw [Int.min_eq_left h, Int.max_eq_right h]
    exact (lock_sees hs).bind ((lock_sees hr).bind (Yields.pure ⟨by rw [if_pos rfl], rfl⟩))
  · unfold lockPair
    rw [Int.min_eq_right h, Int.max_eq_left h]
    refine (lock_sees hr).bind ((lock_sees hs).bind (Yields.pure ⟨?_, rfl⟩))
    split
    · rename_i he
      rw [he] at hr
      cases hs.symm.trans hr
      rfl
    · rfl

/-- The work of a transfer between accounts whose balances can be represented. -/
theorem moveCoins_rules (h : b.Representable) (id : AccountId) (name : String) (amount : Int) :
    (moveCoins id name amount).Rules b
      (b.Carries ((b.transferable id name amount).map (.between amount))) := by
  have account : (call (.account id)).Sees b (b.account? id) :=
    Yields.read (fun _ => rfl) ⟨rfl, rfl⟩
  have named : (call (.accountByName name)).Sees b (b.accountByName? name) := lookup_yields name
  have refuses {e : Error} (he : b.transferable id name amount = .error e) :
      ∃ o : Except Error Entry, .error (.rule e) = o.mapError Failure.rule ∧
        b.Carries ((b.transferable id name amount).map (.between amount)) o b :=
    ⟨.error e, rfl, .refused (congrArg (Except.map _) he)⟩
  refine account.lookup (fun s hs => ?_) fun hn => refuses (by rw [Books.transferable, hn])
  refine named.lookup (fun r hr => ?_) fun hn => refuses (by rw [Books.transferable, hs, hn])
  obtain ⟨r_mem, -⟩ := Books.accountByName?_mem hr
  have hs' := h.keyed.account?_eq (Books.account?_mem hs).1
  have hr' := h.keyed.account?_eq r_mem
  refine Yields.bind (Yields.checked (fun new hn => ?_) fun e he =>
    refuses (by rw [Books.transferable, hs, hr]; simp only [he]))
  obtain ⟨positive, apart, rfl⟩ := NewEntry.transfer?_eq_ok hn
  have decided := Books.transferable_eq hs hr hn
  refine (lockPair_sees hs' hr').bind (Yields.guard (fun poor => ?_) fun covered =>
    Yields.guard (fun full => ?_) fun fits => ?_)
  · have poor : s.coins < amount := by simpa [Account.canAfford] using poor
    exact refuses (decided.trans (if_pos poor))
  · have covered : amount ≤ s.coins := by simpa [Account.canAfford] using covered
    exact refuses (decided.trans ((if_neg (Int.not_lt.mpr covered)).trans (if_pos full)))
  have covered : amount ≤ s.coins := by simpa [Account.canAfford] using covered
  have made := decided.trans ((if_neg (Int.not_lt.mpr covered)).trans (if_neg fits))
  have least := (h.bounded r r_mem).1
  refine Yields.bind (Yields.answered (fun _ => Books.answer_debit h.keyed hs' covered) ?_)
  have there := Books.account?_addCoins_of_ne (x := -amount) apart.symm hr'
  refine Yields.bind (Yields.answered (fun _ => Books.answer_credit (h.keyed.addCoins _) there
    (by omega) (Int.not_lt.mp fits)) ?_)
  refine Yields.call (fun now x b' hx => ?_) fun _ _ he => by cases he
  cases hx
  exact ⟨.ok _, rfl, .made now now (congrArg (Except.map _) made)⟩

/-- One more of an item, whether or not there is a holding of it. -/
theorem takeOne_yields (account : AccountId) (item : ItemId) :
    (takeOne account item).Yields b fun outcome b' =>
      outcome = .ok () ∧ ∃ acquired, b' = b.gain account item acquired := by
  have holding : (call (.holding account item)).Sees b (b.holding? account item) :=
    Yields.read (fun _ => rfl) ⟨rfl, rfl⟩
  refine holding.bind ?_
  cases hh : b.holding? account item with
  | none =>
    refine Yields.bind (Yields.call (fun now x b' hx => ?_) fun now e he => ?_)
    · cases (Books.answer_insertHolding hh).symm.trans hx
      exact Yields.pure ⟨rfl, now, rfl⟩
    · cases (Books.answer_insertHolding hh).symm.trans he
  | some x =>
    exact Yields.bind (Yields.answered (fun _ => Books.answer_incrementHolding hh default)
      (Yields.pure ⟨rfl, default, rfl⟩))

/-- The work of a purchase. -/
theorem buy_rules (hk : b.Keyed) (id : AccountId) (name : String) :
    (buy id name).Rules b (b.Carries ((b.purchasable id name).map .ofSale)) := by
  have named : (call (.itemByName name)).Sees b (b.itemByName? name) :=
    Yields.read (fun _ => rfl) ⟨rfl, rfl⟩
  have locked : (call (.lockAccount id)).Sees b (b.account? id) :=
    Yields.read (fun _ => rfl) ⟨rfl, rfl⟩
  have refuses {e : Error} (he : b.purchasable id name = .error e) :
      ∃ o : Except Error Entry, .error (.rule e) = o.mapError Failure.rule ∧
        b.Carries ((b.purchasable id name).map .ofSale) o b :=
    ⟨.error e, rfl, .refused (congrArg (Except.map _) he)⟩
  refine named.lookup (fun item hitem => ?_) fun hn => refuses (by rw [Books.purchasable, hn])
  refine Yields.bind (locked.bind (Yields.found (fun buyer hbuyer => ?_) fun hn =>
    refuses (by rw [Books.purchasable, hitem, hn])))
  obtain ⟨-, rfl⟩ := Books.account?_mem hbuyer
  refine Yields.bind (Yields.checked (fun new hn => ?_) fun e he =>
    refuses (by rw [Books.purchasable, hitem, hbuyer]; simp only [he]))
  obtain ⟨positive, rfl⟩ := NewEntry.purchase?_eq_ok hn
  have decided := Books.purchasable_eq hitem hbuyer hn
  refine Yields.guard (fun poor => ?_) fun covered => ?_
  · have poor : buyer.coins < item.price := by simpa [Account.canAfford] using poor
    exact refuses (decided.trans (if_pos poor))
  have covered : item.price ≤ buyer.coins := by simpa [Account.canAfford] using covered
  have made := decided.trans (if_neg (Int.not_lt.mpr covered))
  refine Yields.bind (Yields.answered (fun _ => Books.answer_debit hk hbuyer covered) ?_)
  refine Yields.bind ((takeOne_yields _ _).mono fun outcome b₁ h => ?_)
  obtain ⟨rfl, acquired, rfl⟩ := h
  refine Yields.call (fun now x b' hx => ?_) fun _ _ he => by cases he
  obtain ⟨rfl, rfl⟩ := Books.append_of_answer hx
  refine ⟨.ok _, rfl, ?_⟩
  have carried : b.Carries ((b.purchasable buyer.id name).map .ofSale) _ _ :=
    .made now acquired (congrArg (Except.map _) made)
  rw [Books.gain_lastEntry]
  exact carried

end Engine

/-! ## What a movement changes -/

/-- The account with an amount added to its balance. -/
def Account.plus (a : Account) (amount : Int) : Account :=
  { a with coins := a.coins + amount }

@[simp] theorem Account.plus_zero (a : Account) : a.plus 0 = a := by
  rw [plus, Int.add_zero]

/-- The entry as it was before a store numbered and dated it. -/
def Entry.bare (x : Entry) : NewEntry :=
  ⟨x.source, x.destination, x.amount, x.kind, x.item⟩

@[simp] theorem NewEntry.bare_toEntry (new : NewEntry) (id : EntryId) (now : Instant) :
    (new.toEntry id now).bare = new :=
  rfl

/-- What an entry adds to the balance of an account. Coins that are spent on an item go to
nobody. -/
def NewEntry.change (new : NewEntry) (id : AccountId) : Int :=
  (if new.source = id then -new.amount else 0) +
    match new.item with
    | none => if new.destination = id then new.amount else 0
    | some _ => 0

theorem NewEntry.change_between (amount : Int) (s r : Account) (id : AccountId) :
    (NewEntry.between amount (s, r)).change id =
      (if s.id = id then -amount else 0) + if r.id = id then amount else 0 :=
  rfl

theorem NewEntry.change_ofSale (buyer : Account) (item : Item) (id : AccountId) :
    (NewEntry.ofSale (buyer, item)).change id = if buyer.id = id then -item.price else 0 :=
  Int.add_zero _

namespace Books

variable {b b' : Books} {m : Movement} {new : NewEntry}

theorem accounts_addCoins (id : AccountId) (amount : Int) :
    (b.addCoins id amount).accounts =
      b.accounts.map fun a => a.plus (if id = a.id then amount else 0) := by
  refine List.map_congr_left fun a _ => ?_
  by_cases he : a.id = id
  · rw [if_pos he, if_pos he.symm, Account.plus]
  · rw [if_neg he, if_neg (Ne.symm he), Account.plus_zero]

/-- All that becomes of the accounts is that balances change as the entry says. -/
theorem accounts_move (x : Entry) (acquired : Instant) :
    (b.move x acquired).accounts = b.accounts.map fun a => a.plus (x.bare.change a.id) := by
  cases hi : x.item with
  | none =>
    simp only [move, hi, withEntry, accounts_addCoins, List.map_map]
    refine List.map_congr_left fun a _ => ?_
    simp only [Function.comp_apply, Account.plus, NewEntry.change, Entry.bare, hi, Int.add_assoc]
  | some item =>
    simp only [move, hi, withEntry, gain_accounts, accounts_addCoins]
    refine List.map_congr_left fun a _ => ?_
    simp only [NewEntry.change, Entry.bare, hi, Int.add_zero]

/-- What a permitted movement makes of a balance can be represented. -/
theorem Representable.move (h : b.Representable) (permits : b.Permits m new) (id : EntryId)
    (now acquired : Instant) : (b.move (new.toEntry id now) acquired).Representable := by
  have ids : (b.move (new.toEntry id now) acquired).accounts.map (·.id) =
      b.accounts.map (·.id) := by
    rw [accounts_move, List.map_map]
    rfl
  refine ⟨by rw [Keyed, ids]; exact h.keyed, fun a' ha' => ?_⟩
  rw [accounts_move] at ha'
  obtain ⟨a, ha, rfl⟩ := List.mem_map.mp ha'
  have bounds := h.bounded a ha
  have zero_le : (0 : Int) ≤ maxCoins := by decide
  cases permits with
  | @transfer _ _ amount s r source destination positive apart covered fits =>
    have debited (he : s.id = a.id) : amount ≤ a.coins := by
      rwa [← h.keyed.eq_of_mem (account?_mem source).1 ha he]
    have credited (he : r.id = a.id) : a.coins + amount ≤ maxCoins := by
      rwa [← h.keyed.eq_of_mem (accountByName?_mem destination).1 ha he]
    rw [NewEntry.bare_toEntry, NewEntry.change_between, Account.plus]
    dsimp only
    by_cases hs : s.id = a.id
    · have := debited hs
      rw [if_pos hs, if_neg fun hr => apart (hs.trans hr.symm)]
      omega
    · rw [if_neg hs]
      by_cases hr : r.id = a.id
      · have := credited hr
        rw [if_pos hr]
        omega
      · rw [if_neg hr]
        omega
  | @purchase _ _ buyer item source goods positive covered =>
    have debited (he : buyer.id = a.id) : item.price ≤ a.coins := by
      rwa [← h.keyed.eq_of_mem (account?_mem source).1 ha he]
    rw [NewEntry.bare_toEntry, NewEntry.change_ofSale, Account.plus]
    dsimp only
    by_cases hb : buyer.id = a.id
    · have := debited hb
      rw [if_pos hb]
      omega
    · rw [if_neg hb]
      omega

theorem Carries.representable {o : Except Error Entry} (h : b.Representable)
    (hc : b.Carries (b.verdict m) o b') : b'.Representable := by
  cases hc with
  | refused => exact h
  | made now acquired ok => exact h.move (permits_of_verdict ok) _ now acquired

theorem Carries.refusal {verdict : Except Error NewEntry} {e : Error}
    (h : b.Carries verdict (.error e) b') : b' = b := by
  cases h
  rfl

end Books

/-! ## A movement alone with a store -/

/-- A movement on books in memory. -/
theorem Movement.run_exchange (e : Engine) (deadline : Option Nat) (m : Movement)
    {keeper : Keeper Books} (hk : ∀ now b r, keeper now b r = Books.answer now.shown b r)
    (clock : Nat → Instant) {t : Storage Books × Nat} {b : Books} (h : b.Representable)
    (hc : t.1.committed = b) (hn : t.1.working = none) :
    let ended := (m.exchange e deadline).run (Storage.clocked keeper clock) t
    ended.2.1.working = none ∧ b.Carries (b.verdict m) ended.1 ended.2.1.committed := by
  cases m with
  | transfer id name amount =>
    by_cases positive : 0 < amount
    · rw [Books.verdict_transfer_of_pos positive, exchange, Engine.transfer,
        if_neg (Int.not_le.mpr positive)]
      exact (Engine.moveCoins_rules h id _ amount).run_unit clock hk (fun _ _ h => h.refusal)
        .transfer _ hc hn
    · have refused : e.transfer id name amount deadline =
          .done (.error (.amountNotPositive amount)) := if_pos (Int.not_lt.mp positive)
      subst hc
      simp only [exchange, refused, Dialogue.run_done]
      exact ⟨hn, .refused (if_pos (Int.not_lt.mp positive))⟩
  | purchase id name =>
    exact (Engine.buy_rules h.keyed id name).run_unit clock hk (fun _ _ h => h.refusal)
      .purchase _ hc hn

theorem Movement.exchange_keeps (e : Engine) (deadline : Option Nat) (m : Movement) (b : Books) :
    (m.exchange e deadline).Keeps (.unshared False) b fun _ _ => True := by
  cases m with
  | transfer => exact (Engine.transfer_keeps fun _ _ _ _ _ => trivial).mono fun _ _ _ => trivial
  | purchase => exact (Engine.purchase_keeps fun _ _ _ _ _ => trivial).mono fun _ _ _ => trivial

namespace Backend

variable {k : Backend} {applied : Option (Table String)} {b : Books}

/-- The books that a store can hold. In memory nothing but the type of a balance limits it. -/
def Admits : Backend → Books → Prop
  | memory, b => b.Representable
  | tables, b => b.Storable

theorem Admits.keyed (h : k.Admits b) : b.Keyed := by
  cases k with
  | memory => exact Books.Representable.keyed h
  | tables => exact Books.Storable.keyed h

/-- A storage that holds these books and has no unit open. -/
structure Rests (applied : Option (Table String)) (k : Backend) (s : Storage k.State)
    (b : Books) : Prop where
  admits : k.Admits b
  committed : s.committed = k.hold applied b
  working : s.working = none

theorem Rests.start (h : k.Admits b) (now : Instant) :
    Rests applied k { committed := k.hold applied b, now } b :=
  ⟨h, rfl, rfl⟩

/-- A movement that a store is alone with ends as the books decide, on either store. -/
theorem Rests.exchange (e : Engine) (deadline : Option Nat) (m : Movement)
    (clock : Nat → Instant) {t : Storage k.State × Nat} (h : Rests applied k t.1 b) :
    let ended := (m.exchange e deadline).run (Storage.clocked k.keeper clock) t
    ∃ b', Rests applied k ended.2.1 b' ∧ b.Carries (b.verdict m) ended.1 b' := by
  intro ended
  cases k with
  | memory =>
    have representable : b.Representable := h.admits
    obtain ⟨left, carries⟩ := m.run_exchange e deadline (fun _ _ _ => rfl) clock representable
      h.committed h.working
    exact ⟨_, ⟨carries.representable representable, rfl, left⟩, carries⟩
  | tables =>
    -- The tables do what books in memory do beside them.
    have storable : b.Storable := h.admits
    let beside : Storage Backend.memory.State := { committed := (b : Books), now := default }
    have start : Stands applied .memory beside ⟨b, none⟩ := .start (k := .memory) storable default
    have stands : Stands applied .tables t.1 ⟨b, none⟩ :=
      ⟨storable, h.committed, h.working, nofun⟩
    have answers : ∀ now b r, Backend.memory.keeper now b r = Books.answer now.shown b r :=
      fun _ _ _ => rfl
    obtain ⟨-, carries⟩ := m.run_exchange e deadline answers clock storable.representable
      (t := (beside, t.2)) rfl rfl
    obtain ⟨b', together, -⟩ := (m.exchange_keeps e deadline b).lockstep (fun _ => rfl) id clock
      (t := (beside, t.2)) start stands rfl
    refine ⟨b', ⟨together.right.storable, together.right.committed, together.right.working⟩, ?_⟩
    exact (congrArg₂ (b.Carries (b.verdict m)) together.outcome together.left.committed).mp carries

end Backend

end Scrip
