import Scrip.Proofs.Engine.Complies
import Scrip.Proofs.Framework.Composed
import Scrip.Proofs.Framework.Respectful

/-!
# The units of commands

A command consists of units under its own deadline or else that of the engine
(`perform_parts`). `Engine.Part` lists the work inside the units of each, and `Engine.Body` that of
all.

* `Body.proper`: the work is over when the deadline passes, and never says so by itself;
* `Body.respectful`: its requests respect the constraints, whatever came back before;
* `Part.gives`: what it gives is what the command makes of the books.
-/

namespace Scrip

open Credential Work
open Crypt (Salt)
open Exchange (Composed)

/-- The deadline that a command brings along. -/
def Command.deadline : Command → Option Nat
  | transfer _ _ _ deadline | purchase _ _ deadline => deadline
  | _ => none

namespace Engine

variable {e : Engine} {α : Type} {b : Books}

/-- The work that commands carry out inside units. -/
inductive Body (e : Engine) : (β : Type) → Work β → Prop
  | reads {β : Type} {w : Work β} (h : w.OnlyReads) : Body e β w
  | register {username password : String} {salt : Salt} {new : NewAccount}
      (accepted : e.newAccount? username password salt = .ok new) : Body e Account (insertNew new)
  | addItem {name : String} {price : Int} {new : NewItem}
      (accepted : NewItem.of? name price = .ok new) : Body e Item (insertNewItem new)
  | transfer (id : AccountId) (name : String) (amount : Int) :
      Body e Entry (moveCoins id (canonicalUsername name) amount)
  | purchase (id : AccountId) (name : String) : Body e Entry (buy id name)

/-- The work that a command carries out inside its units. -/
inductive Part (e : Engine) : Command → (β : Type) → Work β → Prop
  | reads {c : Command} {β : Type} {w : Work β} (h : w.OnlyReads) : Part e c β w
  | register {username password : String} {salt : Salt} {new : NewAccount}
      (accepted : e.newAccount? username password salt = .ok new) :
      Part e (.register username password salt) Account (insertNew new)
  | signUp {username password : String} {salt : Salt} {new : NewAccount}
      (accepted : e.newAccount? username password salt = .ok new) :
      Part e (.signIn username password salt) Account (insertNew new)
  | addItem {name : String} {price : Int} {new : NewItem}
      (accepted : NewItem.of? name price = .ok new) :
      Part e (.addItem name price) Item (insertNewItem new)
  | transfer (id : AccountId) (name : String) (amount : Int) (deadline : Option Nat) :
      Part e (.transfer id name amount deadline) Entry
        (moveCoins id (canonicalUsername name) amount)
  | purchase (id : AccountId) (name : String) (deadline : Option Nat) :
      Part e (.purchase id name deadline) Entry (buy id name)

theorem Part.body {c : Command} {w : Work α} (h : e.Part c α w) : e.Body α w := by
  cases h with
  | reads h => exact .reads h
  | register accepted | signUp accepted => exact .register accepted
  | addItem accepted => exact .addItem accepted
  | transfer => exact .transfer ..
  | purchase => exact .purchase ..

/-! ## What the work asks -/

theorem insertNew_proper {asks : Request → Prop} (new : NewAccount)
    (hl : asks (.accountByName new.username)) (hi : asks (.insertAccount new)) :
    Proper asks (insertNew new).run := by
  refine (Proper.call hl).bind fun x => Proper.guard rfl ((Proper.attempt hi).bind fun x => ?_)
  match x with
  | .ok _ => exact .pure
  | .error (.conflict _) => exact .refuse rfl
  | .error .database | .error (.corrupted _) => exact .throw trivial

theorem insertNewItem_proper {asks : Request → Prop} (new : NewItem)
    (hl : asks (.itemByName new.name)) (hi : asks (.insertItem new)) :
    Proper asks (insertNewItem new).run := by
  refine (Proper.call hl).bind fun x => Proper.guard rfl ((Proper.attempt hi).bind fun x => ?_)
  match x with
  | .ok _ => exact .pure
  | .error (.conflict _) => exact .refuse rfl
  | .error .database | .error (.corrupted _) => exact .throw trivial

theorem lock_onlyReads (id : AccountId) : (lock id).OnlyReads :=
  lookUp_onlyReads (OnlyReads.call rfl) rfl

theorem lockPair_onlyReads (i j : AccountId) : (lockPair i j).OnlyReads :=
  (lock_onlyReads _).bind fun _ => (lock_onlyReads _).bind fun _ => .pure

theorem moveCoins_proper (id : AccountId) (name : String) (amount : Int) :
    Proper (fun _ => True) (moveCoins id name amount).run := by
  have locks (i j : AccountId) : Proper (fun _ => True) (lockPair i j).run :=
    (lockPair_onlyReads i j).mono fun _ _ => trivial
  refine (Proper.call trivial).bind fun _ => (Proper.found rfl).bind fun sender => ?_
  refine (Proper.call trivial).bind fun _ => (Proper.found rfl).bind fun recipient => ?_
  refine (Proper.checked fun _ => NewEntry.isBusiness_of_transfer?).bind fun entry => ?_
  refine (locks _ _).bind fun x => Proper.guard rfl (Proper.guard rfl ?_)
  refine (Proper.call trivial).bind fun _ => Proper.guard rfl ?_
  exact (Proper.call trivial).bind fun _ => Proper.guard rfl (.call trivial)

theorem raise_proper (account : AccountId) (item : ItemId) :
    Proper (fun _ => True) (raise account item).run := by
  refine (Proper.call trivial).bind fun _ => ?_
  split
  · exact .throw trivial
  · exact .pure

theorem takeOne_proper (account : AccountId) (item : ItemId) :
    Proper (fun _ => True) (takeOne account item).run := by
  refine (Proper.call trivial).bind fun _ => ?_
  split
  · refine (Proper.call trivial).bind fun _ => ?_
    split
    · exact .pure
    · exact raise_proper account item
  · exact raise_proper account item

theorem buy_proper (id : AccountId) (name : String) :
    Proper (fun _ => True) (buy id name).run := by
  refine (Proper.call trivial).bind fun _ => (Proper.found rfl).bind fun item => ?_
  refine ((lock_onlyReads id).mono fun _ _ => trivial).bind fun buyer => ?_
  refine (Proper.checked fun _ => NewEntry.isBusiness_of_purchase?).bind fun entry => ?_
  refine Proper.guard rfl ((Proper.call trivial).bind fun _ => Proper.guard rfl ?_)
  exact (takeOne_proper _ _).bind fun _ => .call trivial

theorem Body.proper {w : Work α} (h : e.Body α w) : Proper (fun _ => True) w.run := by
  cases h with
  | reads h => exact h.mono fun _ _ => trivial
  | register => exact insertNew_proper _ trivial trivial
  | addItem => exact insertNewItem_proper _ trivial trivial
  | transfer => exact moveCoins_proper ..
  | purchase => exact buy_proper ..

/-! ## Its requests respect the constraints -/

/-- What is asked of any books alike. -/
theorem insertNew_respectful (hm : e.initialBalance ≤ maxCoins) {username password : String}
    {salt : Salt} {new : NewAccount} (accepted : e.newAccount? username password salt = .ok new)
    (b : Books) : (insertNew new).Respectful b := by
  have hcoins : new.coins = e.initialBalance := (newAccount?_eq_ok accepted).2.2.2
  have proper : Proper (fun r => ∀ b : Books, b.Respects r) (insertNew new).run := by
    refine insertNew_proper new (fun _ => trivial) fun _ => ?_
    show 0 ≤ new.coins ∧ new.coins ≤ maxCoins
    rw [hcoins]
    exact ⟨e.initialBalance_nonneg, hm⟩
  exact .of_proper proper (fun _ h => h) b

theorem insertNewItem_respectful {name : String} {price : Int} {new : NewItem}
    (accepted : NewItem.of? name price = .ok new) (b : Books) :
    (insertNewItem new).Respectful b := by
  have proper : Proper (fun r => ∀ b : Books, b.Respects r) (insertNewItem new).run :=
    insertNewItem_proper new (fun _ => trivial) fun _ => newItem?_positive accepted
  exact .of_proper proper (fun _ h => h) b

theorem moveCoins_respectful (h : b.Storable) (id : AccountId) (name : String) (amount : Int) :
    (moveCoins id name amount).Respectful b := by
  refine Respectful.lookup trivial fun sender y b₁ hr hy => ?_
  obtain ⟨source, rfl⟩ := (hy ▸ hr).account
  refine Respectful.lookup trivial fun recipient y b₂ hr hy => ?_
  obtain ⟨destination, rfl⟩ := (hy ▸ hr).accountByName
  have hs := (Books.account?_mem source).1
  have hr := (Books.accountByName?_mem destination).1
  refine Respectful.checked fun new hn => ?_
  obtain ⟨positive, apart, hnew⟩ := NewEntry.transfer?_eq_ok hn
  subst hnew
  refine Respectful.bind ((lockPair_onlyReads _ _).respectful _) (lockPair_gives _ _)
    fun ⟨s, r⟩ b₄ ⟨hlow, hhigh, h₄⟩ => ?_
  subst h₄
  -- What was locked is what was found.
  cases (h.keyed.account?_eq hs).symm.trans hlow
  cases (h.keyed.account?_eq hr).symm.trans hhigh
  refine Respectful.guard fun _ => Respectful.guard fun fits => ?_
  refine Respectful.insist (h.respects_debit positive _) fun y b₅ hd done => ?_
  obtain ⟨_, _, -, rfl⟩ := Books.debit_eq_some h.keyed (done ▸ hd).debit
  refine Respectful.insist (h.respects_credit hr apart positive (Int.not_lt.mp fits) _)
    fun y b₆ hc done => ?_
  obtain ⟨_, _, -, rfl⟩ := Books.credit_eq_some (h.keyed.addCoins _) (done ▸ hc).credit
  refine Respectful.last ⟨positive, ?_, ?_, nofun⟩
  · simpa using Books.isSome_account?_of_mem hs
  · simpa using Books.isSome_account?_of_mem hr

theorem raise_respectful (account : AccountId) (item : ItemId) (b : Books) :
    (raise account item).Respectful b := by
  refine Respectful.call trivial fun x b' _ => ?_
  split <;> exact .done trivial

/-- One more of an item that is there for an account that is there. -/
theorem takeOne_respectful {account : AccountId} {item : ItemId} (ha : (b.account? account).isSome)
    (hi : (b.item? item).isSome) : (takeOne account item).Respectful b := by
  refine Respectful.call trivial fun x b₁ hr => ?_
  obtain rfl : b₁ = b := hr.of_read rfl
  split
  · refine Respectful.call ⟨ha, hi⟩ fun x b₂ _ => ?_
    split
    · exact .done trivial
    · exact raise_respectful account item b₂
  · exact raise_respectful account item b₁

theorem buy_respectful (h : b.Storable) (id : AccountId) (name : String) :
    (buy id name).Respectful b := by
  refine Respectful.lookup trivial fun item y b₁ hr hy => ?_
  obtain ⟨goods, rfl⟩ := (hy ▸ hr).itemByName
  have listed := Books.isSome_item?_of_mem (List.mem_of_find?_eq_some goods)
  refine Respectful.bind ((lock_onlyReads _).respectful _) (lock_gives _)
    fun buyer b₂ ⟨source, h₂⟩ => ?_
  subst h₂
  have there := Books.isSome_account?_of_mem (Books.account?_mem source).1
  refine Respectful.checked fun new hn => ?_
  obtain ⟨positive, hnew⟩ := NewEntry.purchase?_eq_ok hn
  subst hnew
  refine Respectful.guard fun _ => ?_
  refine Respectful.insist (h.respects_debit positive _) fun y b₃ hd done => ?_
  obtain ⟨_, _, -, rfl⟩ := Books.debit_eq_some h.keyed (done ▸ hd).debit
  have paid : ((b₂.addCoins buyer.id (-item.price)).account? buyer.id).isSome := by
    simpa using there
  refine Respectful.bind (takeOne_respectful paid listed) (takeOne_gives _ _)
    fun _ b₄ ⟨now, h₄⟩ => ?_
  subst h₄
  have kept : (((b₂.addCoins buyer.id (-item.price)).gain buyer.id item.id now).account?
      buyer.id).isSome := by
    rw [Books.account?, Books.gain_accounts]
    exact paid
  refine Respectful.last ⟨positive, kept, kept, fun i hi => ?_⟩
  cases hi
  rw [Books.item?, Books.gain_items]
  exact listed

theorem Body.respectful {w : Work α} (h : e.Body α w) (hm : e.initialBalance ≤ maxCoins)
    (hb : b.Storable) : w.Respectful b := by
  cases h with
  | reads h => exact h.respectful b
  | register accepted => exact insertNew_respectful hm accepted b
  | addItem accepted => exact insertNewItem_respectful accepted b
  | transfer => exact moveCoins_respectful hb ..
  | purchase => exact buy_respectful hb ..

/-! ## What it makes of the books -/

/-- What some command makes of the books. -/
def Becomes (e : Engine) (b b' : Books) : Prop :=
  ∃ c o, Effect e b c o b'

/-- What a command makes of the books, if anything. -/
def Makes (e : Engine) (c : Command) (b b' : Books) : Prop :=
  b' = b ∨ ∃ o, Effect e b c o b'

theorem Makes.becomes {c : Command} {b' : Books} (h : e.Makes c b b') : e.Becomes b b' := by
  rcases h with rfl | ⟨o, h⟩
  · exact ⟨.catalog, .catalog [], .look rfl⟩
  · exact ⟨c, o, h⟩

theorem Part.gives {c : Command} {w : Work α} (h : e.Part c α w) (hk : b.Keyed) :
    w.Gives b fun _ b' => e.Makes c b b' := by
  cases h with
  | reads h => exact (h.reads b).mono fun _ _ => .inl
  | register accepted =>
    refine (insertNew_gives _).mono fun a b' ⟨fresh, now, ha, hb⟩ => ?_
    subst ha hb
    exact .inr ⟨_, .register now accepted fresh⟩
  | signUp accepted =>
    refine (insertNew_gives _).mono fun a b' ⟨fresh, now, ha, hb⟩ => ?_
    subst ha hb
    exact .inr ⟨_, .signUp now accepted fresh⟩
  | addItem accepted =>
    refine (insertNewItem_gives _).mono fun i b' ⟨fresh, now, hi, hb⟩ => ?_
    subst hi hb
    exact .inr ⟨_, .addItem now accepted fresh⟩
  | transfer => exact (moveCoins_gives hk e).mono fun entry b' h => .inr ⟨_, h⟩
  | purchase => exact (buy_gives hk e).mono fun entry b' h => .inr ⟨_, h⟩

/-! ## Commands consist of such units -/

theorem authenticate_composed (e : Engine) (username password : String) :
    (e.authenticate username password).Composed e.timeout fun _ w => w.OnlyReads := by
  refine .unit .authenticate (OnlyReads.call rfl) (fun _ => rfl) (.inl (OnlyReads.call rfl))
    fun outcome timely => ?_
  cases outcome with
  | error failure => exact .done fun label h => timely label (congrArg _ (Except.error.inj h))
  | ok found =>
    refine .done fun label h => ?_
    cases found with
    | none => cases h
    | some a =>
      simp only [letIn] at h
      split at h <;> cases h

theorem accountByName_composed (e : Engine) (username : String) :
    (e.accountByName username).Composed e.timeout fun _ w => w.OnlyReads :=
  .single .account (lookUp_onlyReads (OnlyReads.call rfl) rfl)

theorem registerOrAuthenticate_composed (e : Engine) (username password : String) (salt : Salt) :
    (e.registerOrAuthenticate username password salt).Composed e.timeout
      (e.Part (.signIn username password salt)) := by
  unfold registerOrAuthenticate register
  cases accepted : e.newAccount? username password salt with
  | error refusal =>
    simp only [Dialogue.pure_eq_done, Dialogue.done_bind]
    split
    · exact (authenticate_composed e username password).mono fun _ _ => .reads
    · exact .error (isBusiness_of_newAccount? accepted)
  | ok new =>
    refine .unit .register (.signUp accepted) (fun _ => rfl) (.inr fun a => ⟨a, rfl⟩)
      fun outcome timely => ?_
    split
    · exact (authenticate_composed e username password).mono fun _ _ => .reads
    · exact .done timely

theorem signIn_composed (e : Engine) (username password : String) (salt : Salt) :
    (e.signIn username password salt).Composed e.timeout
      (e.Part (.signIn username password salt)) := by
  refine (authenticate_composed e username password).bind (fun _ => rfl) (fun _ _ => .reads)
    fun outcome timely => ?_
  split
  · refine (accountByName_composed e _).bind (fun _ => rfl) (fun _ _ => .reads)
      fun outcome timely => ?_
    split
    · exact .error rfl
    · exact registerOrAuthenticate_composed e username password salt
    · exact .done fun label h => timely label (congrArg _ (Except.error.inj h))
  · exact .done timely

/-- Every command consists of units under its own deadline or else that of the engine. -/
theorem perform_parts (e : Engine) (c : Command) :
    (e.perform c).Composed (c.deadline.or e.timeout) (e.Part c) := by
  have unit {β : Type} (op : Operation) {w : Work β} (hw : e.Part c β w) (limit : Option Nat)
      (f : β → Outcome) : Composed limit (e.Part c) (perform.wrap f (inUnit op limit w)) :=
    (Composed.single op hw).map f
  cases c with
  | register username password salt =>
    refine Composed.map ?_ Outcome.account
    unfold register
    cases accepted : e.newAccount? username password salt with
    | error refusal => exact .error (isBusiness_of_newAccount? accepted)
    | ok new => exact .single .register (.register accepted)
  | authenticate username password =>
    exact ((authenticate_composed e username password).mono fun _ _ => .reads).map _
  | signIn username password salt => exact (signIn_composed e username password salt).map _
  | account id =>
    exact unit .account (.reads (lookUp_onlyReads (OnlyReads.call (r := .account id) rfl) rfl)) _ _
  | accountByName username =>
    exact ((accountByName_composed e username).mono fun _ _ => .reads).map _
  | inventory id =>
    exact unit .inventory
      (.reads (withAccount_onlyReads id fun _ => loadInventory_onlyReads id)) _ _
  | statement id =>
    exact unit .accountInfo (.reads (withAccount_onlyReads id (statement_onlyReads id))) _ _
  | history id =>
    exact unit .history (.reads (withAccount_onlyReads id loadHistory_onlyReads)) _ _
  | catalog => exact unit .catalog (.reads (OnlyReads.call (r := .items) rfl)) _ _
  | addItem name price =>
    refine Composed.map ?_ Outcome.item
    unfold addItem
    cases accepted : NewItem.of? name price with
    | error refusal => exact .error (isBusiness_of_newItem? accepted)
    | ok new => exact .single .addItem (.addItem accepted)
  | transfer id name amount deadline =>
    refine Composed.map ?_ Outcome.entry
    unfold transfer
    split
    · exact .error rfl
    · exact .single .transfer (.transfer id name amount deadline)
  | purchase id name deadline => exact unit .purchase (.purchase id name deadline) _ _

theorem perform_composed (e : Engine) (c : Command) :
    (e.perform c).Composed (c.deadline.or e.timeout) e.Body :=
  (perform_parts e c).mono fun _ _ h => h.body

end Engine

end Scrip
