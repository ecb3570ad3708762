import Scrip.Proofs.Engine.Work
import Scrip.Proofs.Framework.Complies

/-!
# The work of commands complies

No request of a command is refused: what the work has looked up before it writes is what the
constraints ask. So the work ends with a value, or a rule refuses the operation before anything
was written (`Work.Calm`), unless the deadline passes.

* `Books.transferable`, `Books.purchasable`: why a movement of coins is refused, by the books alone;
* `moveCoins_decides`, `buy_decides`: the movements of coins, which are refused for just that;
* `insertNew_complies`, `insertNewItem_complies`: the records that are added.
-/

namespace Scrip

open Work

/-- The work ends with a value, or a rule refuses it and the books are as they were. -/
def Work.Calm {α : Type} (b : Books) (outcome : Except Failure α) (b' : Books) : Prop :=
  ∀ failure, outcome = .error failure → ∃ e, failure = .rule e ∧ e.isBusiness = true ∧ b' = b

theorem Work.Calm.ok {α : Type} {b b' : Books} (a : α) : Calm b (.ok a) b' :=
  nofun

theorem Work.Calm.rule {α : Type} {b : Books} {e : Error} (he : e.isBusiness = true) :
    Calm b (.error (.rule e) : Except Failure α) b := by
  rintro failure ⟨⟩
  exact ⟨e, rfl, he, rfl⟩

/-- The work ends with a value if nothing is said against it. Otherwise the rule that is named
refuses it, and the books are as they were. -/
def Work.Decided {α γ : Type} (verdict : Except Error γ) (b : Books) (outcome : Except Failure α)
    (b' : Books) : Prop :=
  match verdict with
  | .error e => outcome = .error (.rule e) ∧ b' = b
  | .ok _ => ∃ a, outcome = .ok a

theorem Work.Decided.calm {α γ : Type} {verdict : Except Error γ} {b b' : Books}
    {outcome : Except Failure α} (h : Decided verdict b outcome b')
    (business : ∀ e, verdict = .error e → e.isBusiness = true) : Calm b outcome b' := by
  cases verdict with
  | error e =>
    obtain ⟨rfl, rfl⟩ := h
    exact .rule (business e rfl)
  | ok =>
    obtain ⟨a, rfl⟩ := h
    exact .ok a

/-! ## Why movements of coins are refused -/

namespace Books

/-- Who pays and who receives in a transfer to the account of a name, or why it is refused. -/
def transferable (b : Books) (id : AccountId) (name : String) (amount : Int) :
    Except Error (Account × Account) :=
  match b.account? id, b.accountByName? name with
  | none, _ => .error (.noAccount id)
  | some _, none => .error (.accountNotFound name)
  | some sender, some recipient =>
    match NewEntry.transfer? sender.id recipient.id amount with
    | .error e => .error e
    | .ok _ =>
      if sender.coins < amount then .error (Engine.tooFewCoins sender amount)
      else if maxCoins < recipient.coins + amount then
        .error (Engine.tooManyCoins recipient amount)
      else .ok (sender, recipient)

/-- Who buys what in the purchase of an item of a name, or why it is refused. -/
def purchasable (b : Books) (id : AccountId) (name : String) : Except Error (Account × Item) :=
  match b.itemByName? name, b.account? id with
  | none, _ => .error (.itemNotFound name)
  | some _, none => .error (.noAccount id)
  | some item, some buyer =>
    match NewEntry.purchase? buyer.id item.price item.id with
    | .error e => .error e
    | .ok _ =>
      if buyer.coins < item.price then .error (Engine.tooDear buyer item) else .ok (buyer, item)

variable {b : Books} {id : AccountId} {name : String} {amount : Int} {e : Error}

theorem isBusiness_of_transferable (h : b.transferable id name amount = .error e) :
    e.isBusiness = true := by
  unfold transferable at h
  split at h
  · cases h; rfl
  · cases h; rfl
  · split at h
    · cases h
      exact NewEntry.isBusiness_of_transfer? ‹_›
    · split at h
      · cases h; rfl
      · split at h <;> cases h
        rfl

theorem isBusiness_of_purchasable (h : b.purchasable id name = .error e) :
    e.isBusiness = true := by
  unfold purchasable at h
  split at h
  · cases h; rfl
  · cases h; rfl
  · split at h
    · cases h
      exact NewEntry.isBusiness_of_purchase? ‹_›
    · split at h <;> cases h
      rfl

end Books

/-! ## What writes do when nothing stands against them -/

namespace Books

variable {b b' : Books} {id : AccountId} {a : Account} {amount : Int}

theorem account?_addCoins {x : Int} (other : AccountId) : (b.addCoins id x).account? other =
    (b.account? other).map fun a => if a.id = id then { a with coins := a.coins + x } else a := by
  have numbered : ((·.id == other) ∘ fun a : Account =>
      if a.id = id then { a with coins := a.coins + x } else a) = (·.id == other) := by
    funext a
    simp only [Function.comp_apply]
    split <;> rfl
  simp only [account?, addCoins, List.find?_map, numbered]

theorem account?_addCoins_of_ne {x : Int} {other : AccountId} (hne : id ≠ other)
    (ha : b.account? id = some a) : (b.addCoins other x).account? id = some a := by
  rw [account?_addCoins, ha]
  exact congrArg some (if_neg fun he => hne ((account?_mem ha).2.symm.trans he))

theorem account?_addCoins_self {x : Int} (ha : b.account? id = some a) :
    (b.addCoins id x).account? id = some { a with coins := a.coins + x } := by
  rw [account?_addCoins, ha]
  exact congrArg some (if_pos (account?_mem ha).2)

/-- An account that is found is found after another one was made. -/
theorem account?_withAccount {found : Account} (h : b.account? id = some found) (a : Account) :
    (b.withAccount a).account? id = some found := by
  rw [account?] at h
  rw [account?, withAccount, List.find?_append, h]
  rfl

@[simp] theorem isSome_account?_addCoins {other : AccountId} {x : Int} :
    ((b.addCoins other x).account? id).isSome = (b.account? id).isSome := by
  rw [account?_addCoins, Option.isSome_map]

theorem isSome_account?_of_mem (ha : a ∈ b.accounts) : (b.account? a.id).isSome := by
  simpa [account?, List.find?_isSome] using ⟨a, ha, rfl⟩

theorem isSome_item?_of_mem {i : Item} (hi : i ∈ b.items) : (b.item? i.id).isSome := by
  simpa [item?, List.find?_isSome] using ⟨i, hi, rfl⟩

theorem gain_items (account : AccountId) (item : ItemId) (now : Instant) :
    (b.gain account item now).items = b.items := by
  unfold gain
  split <;> rfl

/-- A gain is no matter of other holdings. -/
theorem filter_gain {account : AccountId} {item : ItemId} {now : Instant} {p : Holding → Bool}
    (hp : ∀ h : Holding, h.account = account → h.item = item → p h = false) :
    (b.gain account item now).holdings.filter p = b.holdings.filter p := by
  unfold gain
  split
  · let raised (h : Holding) : Holding :=
      if h.account = account ∧ h.item = item then { h with quantity := h.quantity + 1 } else h
    have same (h : Holding) : p (raised h) = p h := by
      simp only [raised]
      split
      · rename_i he
        rw [hp h he.1 he.2]
        exact hp _ he.1 he.2
      · rfl
    show (b.holdings.map raised).filter p = _
    rw [List.filter_map, show p ∘ raised = p from funext same]
    refine (List.map_congr_left fun h hh => ?_).trans (List.map_id _)
    refine if_neg fun he => ?_
    rw [List.mem_filter, hp h he.1 he.2] at hh
    exact Bool.false_ne_true hh.2
  · show (b.holdings ++ [_]).filter p = _
    rw [List.filter_append, List.filter_cons_of_neg, List.filter_nil, List.append_nil]
    rw [hp _ rfl rfl]
    exact Bool.false_ne_true

theorem answer_debit (hk : b.Keyed)
    (ha : b.account? id = some a) (hc : amount ≤ a.coins) {now : Instant} :
    b.answer now (.debit id amount) = .ok (true, b.addCoins id (-amount)) := by
  have hafford : a.canAfford amount = true := decide_eq_true hc
  simp only [answer, Books.debit, ha, hafford, if_true, Int.sub_eq_add_neg,
    setCoins_eq_addCoins hk ha, changed]

/-- An amount that is covered is taken. -/
theorem Serves.debit {done : Bool} (h : b.Serves (.debit id amount) done b') (hk : b.Keyed)
    (ha : b.account? id = some a) (hc : amount ≤ a.coins) :
    done = true ∧ b' = b.addCoins id (-amount) := by
  obtain ⟨now, -, x, hx, rfl⟩ := h
  cases (answer_debit hk ha hc).symm.trans hx
  exact ⟨rfl, rfl⟩

/-- An amount for which there is room is added. -/
theorem Serves.credit {done : Bool} (h : b.Serves (.credit id amount) done b') (hk : b.Keyed)
    (ha : (b.account? id).isSome) : done = true ∧ b' = b.addCoins id amount := by
  obtain ⟨now, -, x, hx, rfl⟩ := h
  simp only [answer] at hx
  cases hc : b.credit id amount with
  | error e => rw [hc] at hx; cases hx
  | ok c =>
    rw [hc] at hx
    cases c with
    | none =>
      obtain ⟨a, ha⟩ := Option.isSome_iff_exists.mp ha
      simp only [Books.credit, ha] at hc
      split at hc <;> cases hc
    | some c =>
      cases hx
      exact ⟨rfl, (credit_eq_some hk hc).choose_spec.2.2⟩

theorem answer_incrementHolding {account : AccountId} {item : ItemId} {x : Holding}
    (hh : b.holding? account item = some x) (acquired : Instant) {now : Instant} :
    b.answer now (.incrementHolding account item) =
      .ok (true, b.gain account item acquired) := by
  simp only [answer, incrementHolding, hh, changed, gain, Option.isSome_some, if_true]

/-- A holding that is there is raised. -/
theorem Serves.incrementHolding {done : Bool} {account : AccountId} {item : ItemId}
    (h : b.Serves (.incrementHolding account item) done b')
    (hh : (b.holding? account item).isSome) :
    done = true ∧ ∃ now, b' = b.gain account item now := by
  obtain ⟨now, -, x, hx, rfl⟩ := h
  obtain ⟨x₀, hx₀⟩ := Option.isSome_iff_exists.mp hh
  cases (answer_incrementHolding hx₀ now).symm.trans hx
  exact ⟨rfl, now, rfl⟩

theorem answer_insertHolding {account : AccountId} {item : ItemId}
    (hh : b.holding? account item = none) {now : Instant} :
    b.answer now (.insertHolding account item) =
      .ok (some ⟨b.sequences.holding + 1, account, item, 1, now⟩, b.gain account item now) := by
  simp only [answer, addHolding, hh, gain, Option.isSome_none, Bool.false_eq_true, if_false]

/-- A holding that is not there is made. -/
theorem Serves.insertHolding {made : Option Holding} {account : AccountId} {item : ItemId}
    (h : b.Serves (.insertHolding account item) made b') (hh : b.holding? account item = none) :
    made.isSome ∧ ∃ now, b' = b.gain account item now := by
  obtain ⟨now, -, x, hx, rfl⟩ := h
  cases (answer_insertHolding hh).symm.trans hx
  exact ⟨rfl, now, rfl⟩

end Books

namespace Work

variable {α β : Type} {b : Books} {listing expires : Prop}

/-- A lookup that finds `x` and changes nothing. -/
def Finds (listing expires : Prop) (w : Work α) (b : Books) (x : α) : Prop :=
  w.Complies listing expires b fun outcome b' => outcome = .ok x ∧ b' = b

theorem Finds.bind {w : Work α} {x : α} {f : α → Work β} {Q : Except Failure β → Books → Prop}
    (hw : Finds listing expires w b x) (hf : (f x).Complies listing expires b Q) :
    Complies listing expires (w >>= f) b Q := by
  refine Complies.bind (hw.mono fun outcome b' h => ?_)
  obtain ⟨rfl, rfl⟩ := h
  exact hf

/-- A search, and what comes after it. -/
theorem Finds.lookup {w : Work (Option α)} {x : Option α} {e : Error} {f : α → Work β}
    {Q : Except Failure β → Books → Prop} (hw : Finds listing expires w b x)
    (hf : ∀ a, x = some a → (f a).Complies listing expires b Q)
    (he : x = none → Q (.error (.rule e)) b) :
    Complies listing expires (w >>= fun x => Work.found e x >>= f) b Q :=
  hw.bind (Complies.bind (Complies.found hf he))

variable (b listing expires)

theorem account_finds (id : AccountId) :
    Finds listing expires (call (.account id)) b (b.account? id) :=
  Complies.read (fun h => h) trivial trivial (fun _ => rfl) ⟨rfl, rfl⟩

theorem lockAccount_finds (id : AccountId) :
    Finds listing expires (call (.lockAccount id)) b (b.account? id) :=
  Complies.read (fun h => h) trivial trivial (fun _ => rfl) ⟨rfl, rfl⟩

theorem accountByName_finds (name : String) :
    Finds listing expires (call (.accountByName name)) b (b.accountByName? name) :=
  Complies.read (fun h => h) trivial trivial (fun _ => rfl) ⟨rfl, rfl⟩

theorem item_finds (id : ItemId) : Finds listing expires (call (.item id)) b (b.item? id) :=
  Complies.read (fun h => h) trivial trivial (fun _ => rfl) ⟨rfl, rfl⟩

theorem itemByName_finds (name : String) :
    Finds listing expires (call (.itemByName name)) b (b.itemByName? name) :=
  Complies.read (fun h => h) trivial trivial (fun _ => rfl) ⟨rfl, rfl⟩

theorem items_finds : Finds listing expires (call .items) b b.items :=
  Complies.read (fun h => h) trivial trivial (fun _ => rfl) ⟨rfl, rfl⟩

theorem holding_finds (account : AccountId) (item : ItemId) :
    Finds listing expires (call (.holding account item)) b (b.holding? account item) :=
  Complies.read (fun h => h) trivial trivial (fun _ => rfl) ⟨rfl, rfl⟩

theorem holdings_finds (account : AccountId) :
    Finds listing expires (call (.holdings account)) b (b.holdingsOf account) :=
  Complies.read (fun h => h) trivial trivial (fun _ => rfl) ⟨rfl, rfl⟩

end Work

namespace Engine

variable {b : Books} {listing expires : Prop}

/-- An account is added under a new name, and refused under one that is taken. -/
theorem insertNew_decides {new : NewAccount} (h0 : 0 ≤ new.coins) (hm : new.coins ≤ maxCoins) :
    (insertNew new).Complies listing expires b fun outcome b' =>
      ((b.accountByName? new.username).isSome ∧ b' = b ∧
        outcome = .error (.rule (.accountAlreadyExists new.username))) ∨
      (b.accountByName? new.username = none ∧ ∃ a, outcome = .ok a) := by
  refine (accountByName_finds b listing expires _).bind (Complies.guard
    (fun taken => .inl ⟨taken, rfl, rfl⟩) fun free => ?_)
  have free := Option.not_isSome_iff_eq_none.mp free
  have accepted : b.Accepts listing (.insertAccount new) := ⟨⟨h0, hm⟩, free, fun h => h.elim⟩
  exact Complies.bind (Complies.attempt accepted fun a b' _ => Complies.pure (.inr ⟨free, a, rfl⟩))

theorem insertNew_complies {new : NewAccount} (h0 : 0 ≤ new.coins) (hm : new.coins ≤ maxCoins) :
    (insertNew new).Complies listing expires b (Calm b) := by
  refine (insertNew_decides h0 hm).mono fun outcome b' h => ?_
  rcases h with ⟨-, rfl, rfl⟩ | ⟨-, a, rfl⟩
  · exact .rule rfl
  · exact .ok a

theorem insertNewItem_complies {new : NewItem} (hp : 0 < new.price) :
    (insertNewItem new).Complies listing expires b (Calm b) := by
  refine (itemByName_finds b listing expires _).bind (Complies.guard (fun _ => .rule rfl)
    fun free => ?_)
  have accepted : b.Accepts listing (.insertItem new) :=
    ⟨hp, Option.not_isSome_iff_eq_none.mp free, fun h => h.elim⟩
  exact Complies.bind (Complies.attempt accepted fun i b' _ => Complies.pure (.ok i))

theorem lock_complies (id : AccountId) :
    (lock id).Complies listing expires b fun outcome b' => b' = b ∧
      ((∃ a, outcome = .ok a ∧ b.account? id = some a) ∨
        (outcome = .error (.rule (.noAccount id)) ∧ b.account? id = none)) :=
  (lockAccount_finds b listing expires id).bind
    (Complies.found (fun a ha => ⟨rfl, .inl ⟨a, rfl, ha⟩⟩) fun hn => ⟨rfl, .inr ⟨rfl, hn⟩⟩)

/-- An account that is there is locked as it is. -/
theorem lock_finds {id : AccountId} {a : Account} (ha : b.account? id = some a) :
    Finds listing expires (lock id) b a := by
  refine (lockAccount_finds b listing expires id).bind
    (Complies.found (fun a' ha' => ?_) fun hn => ?_)
  · cases ha.symm.trans ha'
    exact ⟨rfl, rfl⟩
  · cases ha.symm.trans hn

theorem lockPair_finds {s r : Account} (hs : b.account? s.id = some s)
    (hr : b.account? r.id = some r) : Finds listing expires (lockPair s.id r.id) b (s, r) := by
  rcases Int.le_total s.id r.id with h | h
  · unfold lockPair
    rw [Int.min_eq_left h, Int.max_eq_right h]
    refine (lock_finds hs).bind ((lock_finds hr).bind (Complies.pure ⟨?_, rfl⟩))
    rw [if_pos rfl]
  · unfold lockPair
    rw [Int.min_eq_right h, Int.max_eq_left h]
    refine (lock_finds hr).bind ((lock_finds hs).bind (Complies.pure ⟨?_, rfl⟩))
    split
    · rename_i he
      rw [he] at hr
      cases hs.symm.trans hr
      rfl
    · rfl

/-- Coins are moved only from who has them to who has room for them. -/
theorem moveCoins_decides (h : b.Storable) (id : AccountId) (name : String) (amount : Int) :
    (moveCoins id name amount).Complies listing expires b
      (Decided (b.transferable id name amount) b) := by
  unfold Books.transferable
  refine (account_finds b listing expires id).lookup (fun s hs => ?_) fun hn => ?_
  swap
  · rw [hn]
    exact ⟨rfl, rfl⟩
  refine (accountByName_finds b listing expires name).lookup (fun r hr => ?_) fun hn => ?_
  swap
  · rw [hs, hn]
    exact ⟨rfl, rfl⟩
  rw [hs, hr]
  obtain ⟨hs, -⟩ := Books.account?_mem hs
  obtain ⟨hr, -⟩ := Books.accountByName?_mem hr
  refine Complies.bind (Complies.checked (fun new hn => ?_) fun e he => ?_)
  · obtain ⟨positive, apart, rfl⟩ := NewEntry.transfer?_eq_ok hn
    simp only [hn]
    have hs' := h.keyed.account?_eq hs
    have hr' := h.keyed.account?_eq hr
    refine (lockPair_finds hs' hr').bind (Complies.guard (fun poor => ?_) fun covered =>
      Complies.guard (fun full => ?_) fun fits => ?_)
    · have poor : s.coins < amount := by simpa [Account.canAfford] using poor
      rw [if_pos poor]
      exact ⟨rfl, rfl⟩
    · have covered : amount ≤ s.coins := by simpa [Account.canAfford] using covered
      rw [if_neg (Int.not_lt.mpr covered), if_pos full]
      exact ⟨rfl, rfl⟩
    have covered : amount ≤ s.coins := by simpa [Account.canAfford] using covered
    rw [if_neg (Int.not_lt.mpr covered), if_neg fits]
    have debits : b.Accepts listing (.debit s.id amount) :=
      ⟨h.respects_debit positive _, trivial, fun h => h.elim⟩
    refine Complies.bind (Complies.call debits fun done b₁ hd => ?_)
    obtain ⟨rfl, rfl⟩ := hd.debit h.keyed hs' covered
    have credits : (b.addCoins s.id (-amount)).Accepts listing (.credit r.id amount) :=
      ⟨h.respects_credit hr apart positive (Int.not_lt.mp fits) _, trivial, fun h => h.elim⟩
    refine Complies.bind (Complies.call credits fun done b₂ hc => ?_)
    obtain ⟨rfl, rfl⟩ := hc.credit (h.keyed.addCoins _)
      (Books.isSome_account?_addCoins.trans (Books.isSome_account?_of_mem hr))
    refine Complies.call ⟨⟨positive, ?_, ?_, fun i hi => ?_⟩, trivial, fun h => h.elim⟩
      fun x b₃ _ => ⟨x, rfl⟩
    · simpa using Books.isSome_account?_of_mem hs
    · simpa using Books.isSome_account?_of_mem hr
    · cases hi
  · simp only [he]
    exact ⟨rfl, rfl⟩

theorem moveCoins_complies (h : b.Storable) (id : AccountId) (name : String) (amount : Int) :
    (moveCoins id name amount).Complies listing expires b (Calm b) :=
  (moveCoins_decides h id name amount).mono fun _ _ decided =>
    decided.calm fun _ => Books.isBusiness_of_transferable

/-- One more of an item that is there for an account that is there. -/
theorem takeOne_complies {account : AccountId} {item : ItemId} (ha : (b.account? account).isSome)
    (hi : (b.item? item).isSome) :
    (takeOne account item).Complies listing expires b fun outcome b' =>
      outcome = .ok () ∧ ∃ now, b' = b.gain account item now := by
  refine (holding_finds b listing expires account item).bind ?_
  cases hh : b.holding? account item with
  | none =>
    refine Complies.bind (Complies.call ⟨⟨ha, hi⟩, hh, fun h => h.elim⟩ fun made b' hs => ?_)
    obtain ⟨hmade, hb⟩ := hs.insertHolding hh
    simp only [hmade, if_true]
    exact Complies.pure ⟨rfl, hb⟩
  | some x =>
    refine Complies.bind (Complies.call ⟨trivial, trivial, fun h => h.elim⟩ fun done b' hs => ?_)
    obtain ⟨rfl, hb⟩ := hs.incrementHolding (by rw [hh]; rfl)
    exact Complies.pure ⟨rfl, hb⟩

/-- An item is bought only by who can pay for it. -/
theorem buy_decides (h : b.Storable) (id : AccountId) (name : String) :
    (buy id name).Complies listing expires b (Decided (b.purchasable id name) b) := by
  unfold Books.purchasable
  refine (itemByName_finds b listing expires name).lookup (fun item hitem => ?_) fun hn => ?_
  swap
  · rw [hn]
    exact ⟨rfl, rfl⟩
  refine Complies.bind ((lock_complies id).mono fun outcome b₀ locked => ?_)
  obtain ⟨rfl, ⟨buyer, rfl, hbuyer⟩ | ⟨rfl, hn⟩⟩ := locked
  swap
  · rw [hitem, hn]
    exact ⟨rfl, rfl⟩
  rw [hitem, hbuyer]
  have hitem := Books.isSome_item?_of_mem (List.mem_of_find?_eq_some hitem)
  obtain ⟨hmem, rfl⟩ := Books.account?_mem hbuyer
  have hsome := Books.isSome_account?_of_mem hmem
  refine Complies.bind (Complies.checked (fun new hn => ?_) fun e he => ?_)
  · obtain ⟨positive, rfl⟩ := NewEntry.purchase?_eq_ok hn
    simp only [hn]
    refine Complies.guard (fun poor => ?_) fun covered => ?_
    · have poor : buyer.coins < item.price := by simpa [Account.canAfford] using poor
      rw [if_pos poor]
      exact ⟨rfl, rfl⟩
    have covered : item.price ≤ buyer.coins := by simpa [Account.canAfford] using covered
    rw [if_neg (Int.not_lt.mpr covered)]
    have debits : b₀.Accepts listing (.debit buyer.id item.price) :=
      ⟨h.respects_debit positive _, trivial, fun h => h.elim⟩
    refine Complies.bind (Complies.call debits fun done b₁ hd => ?_)
    obtain ⟨rfl, rfl⟩ := hd.debit h.keyed hbuyer covered
    have paid : ((b₀.addCoins buyer.id (-item.price)).account? buyer.id).isSome := by
      simpa using hsome
    refine Complies.bind ((takeOne_complies paid hitem).mono fun outcome b₂ taken => ?_)
    obtain ⟨rfl, now, rfl⟩ := taken
    have there : (((b₀.addCoins buyer.id (-item.price)).gain buyer.id item.id now).account?
        buyer.id).isSome := by
      rw [Books.account?, Books.gain_accounts]
      exact paid
    have listed : (((b₀.addCoins buyer.id (-item.price)).gain buyer.id item.id now).item?
        item.id).isSome := by
      rw [Books.item?, Books.gain_items]
      exact hitem
    refine Complies.call ⟨⟨positive, there, there, fun i hi => ?_⟩, trivial, fun h => h.elim⟩
      fun x b₃ _ => ⟨x, rfl⟩
    cases hi
    exact listed
  · simp only [he]
    exact ⟨rfl, rfl⟩

theorem buy_complies (h : b.Storable) (id : AccountId) (name : String) :
    (buy id name).Complies listing expires b (Calm b) :=
  (buy_decides h id name).mono fun _ _ decided =>
    decided.calm fun _ => Books.isBusiness_of_purchasable

end Engine

end Scrip
