import Scrip.Proofs.Engine.Complies
import Scrip.Proofs.Ledger.Solvency
import Scrip.Proofs.Store.Backend

/-!
# Books that reconcile

Balances, holdings and the ledger tell the same (`Books.Reconciled`): every entry is between
accounts that are there, a purchase names an item and a transfer none, and of every item an
account holds as many as it bought, in one holding. Every command keeps this
(`Effect.reconciled`).
-/

namespace Scrip

/-- The number, if it is not zero. -/
def counted (n : Nat) : List Int :=
  if n = 0 then [] else [(n : Int)]

/-- The quantities in which an item is held after one more of it was acquired. -/
def oneMore (quantities : List Int) : List Int :=
  if quantities = [] then [1] else quantities.map (· + 1)

namespace Books

variable {b b' : Books} {account : AccountId} {item : ItemId} {grant : Int}

/-- How often an account bought an item. -/
def purchases (b : Books) (account : AccountId) (item : ItemId) : Nat :=
  b.ledger.countP fun x => x.kind = .purchase ∧ x.source = account ∧ x.item = some item

/-- How many of an item an account holds, in each holding. -/
def quantities (b : Books) (account : AccountId) (item : ItemId) : List Int :=
  (b.holdings.filter fun h => h.account = account ∧ h.item = item).map (·.quantity)

/-- The books know who and what an entry is about. A transfer is between two accounts and of no
item, and a purchase is of an item and by one account. -/
structure Explains (b : Books) (x : Entry) : Prop where
  source : (b.account? x.source).isSome
  destination : (b.account? x.destination).isSome
  transfer : x.kind = .transfer → x.source ≠ x.destination ∧ x.item = none
  purchase : x.kind = .purchase → ∃ i ∈ b.items, x.item = some i.id

/-- Balances, holdings and the ledger agree. -/
structure Reconciled (grant : Int) (b : Books) : Prop where
  solvent : b.Solvent grant
  names : (b.items.map (·.name)).Nodup
  entries : ∀ x ∈ b.ledger, b.Explains x
  owned : ∀ account item, b.quantities account item = counted (b.purchases account item)

/-! ## What changes leave as it was -/

/-- Books with at least the same accounts and items. -/
theorem Explains.mono {x : Entry} (h : b.Explains x)
    (ha : ∀ id, (b.account? id).isSome → (b'.account? id).isSome)
    (hi : ∀ i ∈ b.items, i ∈ b'.items) : b'.Explains x := by
  refine ⟨ha _ h.source, ha _ h.destination, h.transfer, fun hk => ?_⟩
  obtain ⟨i, hmem, hx⟩ := h.purchase hk
  exact ⟨i, hi i hmem, hx⟩

theorem isSome_account?_withAccount {id : AccountId} (a : Account)
    (h : (b.account? id).isSome) : ((b.withAccount a).account? id).isSome := by
  obtain ⟨found, h⟩ := Option.isSome_iff_exists.mp h
  rw [account?_withAccount h]
  rfl

theorem purchases_withEntry (x : Entry) : (b.withEntry x).purchases account item =
    b.purchases account item +
      if x.kind = .purchase ∧ x.source = account ∧ x.item = some item then 1 else 0 := by
  simp only [purchases, withEntry, List.countP_append, List.countP_singleton, decide_eq_true_eq]

theorem isSome_holding?_iff : (b.holding? account item).isSome ↔
    b.quantities account item ≠ [] := by
  simp only [holding?, List.find?_isSome, quantities, ne_eq, List.map_eq_nil_iff,
    List.filter_eq_nil_iff, not_forall, not_not, Bool.and_eq_true, beq_iff_eq, decide_eq_true_eq,
    exists_prop]

theorem counted_eq_nil {n : Nat} : counted n = [] ↔ n = 0 := by
  unfold counted
  split
  · simp only [*]
  · simp only [*, reduceCtorEq]

/-- A gain raises each quantity of the item by one, or makes one. -/
theorem quantities_gain_self (now : Instant) :
    (b.gain account item now).quantities account item = oneMore (b.quantities account item) := by
  unfold gain oneMore
  split
  · rename_i held
    let raised (x : Holding) : Holding :=
      if x.account = account ∧ x.item = item then { x with quantity := x.quantity + 1 } else x
    let p (x : Holding) : Bool := decide (x.account = account ∧ x.item = item)
    have same : p ∘ raised = p := by
      funext x
      simp only [p, raised, Function.comp_apply]
      split <;> rfl
    have each : ∀ x ∈ b.holdings.filter p,
        ((·.quantity) ∘ raised) x = ((· + 1) ∘ (·.quantity)) x := by
      intro x hx
      have hx : x.account = account ∧ x.item = item := of_decide_eq_true (List.mem_filter.mp hx).2
      simp only [Function.comp_apply, raised, if_pos hx]
    rw [if_neg (isSome_holding?_iff.mp held)]
    show (((b.holdings.map raised).filter p).map (·.quantity)) = _
    rw [List.filter_map, same, List.map_map, List.map_congr_left each, ← List.map_map]
    rfl
  · rename_i held
    have none : b.quantities account item = [] := not_not.mp (mt isSome_holding?_iff.mpr held)
    rw [if_pos none]
    simp only [quantities, List.filter_append, List.map_append] at none ⊢
    rw [none]
    simp only [List.filter_cons, and_self, decide_true, if_true, List.filter_nil]
    rfl

theorem oneMore_counted (n : Nat) : oneMore (counted n) = counted (n + 1) := by
  cases n with
  | zero => rfl
  | succ n => rfl

/-- A gain of an item that was bought before raises its one quantity, and otherwise makes it
one. -/
theorem quantities_gain {n : Nat} (h : b.quantities account item = counted n) (now : Instant) :
    (b.gain account item now).quantities account item = counted (n + 1) := by
  rw [quantities_gain_self, h, oneMore_counted]

/-- A gain is no matter of other quantities. -/
theorem quantities_gain_of_ne {account' : AccountId} {item' : ItemId} (now : Instant)
    (hne : ¬ (account = account' ∧ item = item')) :
    (b.gain account' item' now).quantities account item = b.quantities account item := by
  refine congrArg _ (filter_gain fun h ha hi => decide_eq_false fun he => hne ?_)
  exact ⟨he.1.symm.trans ha, he.2.symm.trans hi⟩

/-! ## Every effect keeps the books reconciled -/

namespace Reconciled

/-- Books without accounts and entries. -/
theorem blank {items : List Item} {sequences : Sequences}
    (hnumbered : Books.Numbered { items, sequences }) (hnames : (items.map (·.name)).Nodup) :
    Reconciled grant { items, sequences } :=
  ⟨⟨hnumbered, nofun, nofun, nofun, by simp [balances, spentByAll, total]⟩, hnames, nofun,
    fun _ _ => rfl⟩

theorem withAccount (h : b.Reconciled grant) {a : Account} (hs : (b.withAccount a).Solvent grant) :
    (b.withAccount a).Reconciled grant :=
  ⟨hs, h.names, fun x hx => (h.entries x hx).mono (fun _ => isSome_account?_withAccount a)
    fun _ hi => hi, h.owned⟩

theorem withItem (h : b.Reconciled grant) {i : Item} (fresh : b.itemByName? i.name = none)
    (hs : (b.withItem i).Solvent grant) : (b.withItem i).Reconciled grant := by
  refine ⟨hs, ?_, fun x hx => (h.entries x hx).mono (fun _ ha => ha) fun _ hi =>
    List.mem_append_left _ hi, h.owned⟩
  rw [Books.withItem, List.map_append]
  refine List.nodup_append.mpr ⟨h.names, List.nodup_singleton _, fun x hx y hy he => ?_⟩
  obtain ⟨j, hj, rfl⟩ := List.mem_map.mp hx
  rw [List.mem_singleton.mp hy] at he
  exact List.find?_eq_none.mp fresh j hj (beq_iff_eq.mpr he)

/-- A transfer between two accounts that are there. -/
theorem transfer (h : b.Reconciled grant) {sender recipient : Account} {x : Entry}
    (source : sender ∈ b.accounts) (destination : recipient ∈ b.accounts)
    (apart : sender.id ≠ recipient.id) (hk : x.kind = .transfer) (hi : x.item = none)
    (hs : x.source = sender.id) (hd : x.destination = recipient.id)
    {first second : AccountId} {n m : Int}
    (solvent : (((b.addCoins first n).addCoins second m).withEntry x).Solvent grant) :
    (((b.addCoins first n).addCoins second m).withEntry x).Reconciled grant := by
  have kept (id : AccountId) (hid : (b.account? id).isSome) :
      ((((b.addCoins first n).addCoins second m).withEntry x).account? id).isSome := by
    show (((b.addCoins first n).addCoins second m).account? id).isSome
    rwa [isSome_account?_addCoins, isSome_account?_addCoins]
  refine ⟨solvent, h.names, fun x' hx' => ?_, fun account item => ?_⟩
  · rcases List.mem_append.mp hx' with hx' | hx'
    · exact (h.entries x' hx').mono kept fun _ hi => hi
    · rw [List.mem_singleton.mp hx']
      exact ⟨kept _ (hs ▸ isSome_account?_of_mem source),
        kept _ (hd ▸ isSome_account?_of_mem destination), fun _ => ⟨by rwa [hs, hd], hi⟩,
        fun hp => nomatch hk.symm.trans hp⟩
  · rw [purchases_withEntry, if_neg (by rw [hk]; exact fun hp => by cases hp.1)]
    exact h.owned account item

/-- A purchase by an account that is there of an item that is there. -/
theorem purchase (h : b.Reconciled grant) {buyer : Account} {i : Item} {x : Entry}
    (source : buyer ∈ b.accounts) (goods : i ∈ b.items) (hk : x.kind = .purchase)
    (hi : x.item = some i.id) (hs : x.source = buyer.id) (hd : x.destination = buyer.id) {n : Int}
    (now : Instant)
    (solvent : (((b.addCoins buyer.id n).gain buyer.id i.id now).withEntry x).Solvent grant) :
    (((b.addCoins buyer.id n).gain buyer.id i.id now).withEntry x).Reconciled grant := by
  have kept (id : AccountId) (hid : (b.account? id).isSome) :
      ((((b.addCoins buyer.id n).gain buyer.id i.id now).withEntry x).account? id).isSome := by
    show (List.find? _ ((b.addCoins buyer.id n).gain buyer.id i.id now).accounts).isSome
    rw [gain_accounts]
    rwa [← account?, isSome_account?_addCoins]
  have items : (((b.addCoins buyer.id n).gain buyer.id i.id now).withEntry x).items = b.items :=
    gain_items ..
  refine ⟨solvent, by rw [items]; exact h.names, fun x' hx' => ?_, fun account item => ?_⟩
  · rw [withEntry, gain_ledger] at hx'
    rcases List.mem_append.mp hx' with hx' | hx'
    · exact (h.entries x' hx').mono kept fun _ hi => by rwa [items]
    · rw [List.mem_singleton.mp hx']
      have there := isSome_account?_of_mem source
      refine ⟨kept _ (hs ▸ there), kept _ (hd ▸ there), fun ht => ?_,
        fun _ => ⟨i, items ▸ goods, hi⟩⟩
      cases hk.symm.trans ht
  · have ledger : ((b.addCoins buyer.id n).gain buyer.id i.id now).purchases account item =
        b.purchases account item := congrArg (List.countP _) (gain_ledger ..)
    have owned : (b.addCoins buyer.id n).quantities account item =
        counted (b.purchases account item) := h.owned account item
    rw [purchases_withEntry, ledger, hk, hs, hi]
    show ((b.addCoins buyer.id n).gain buyer.id i.id now).quantities account item = _
    by_cases he : account = buyer.id ∧ item = i.id
    · obtain ⟨rfl, rfl⟩ := he
      rw [if_pos ⟨rfl, rfl, rfl⟩]
      exact quantities_gain owned now
    · rw [quantities_gain_of_ne now he, if_neg fun hp => he ⟨hp.2.1.symm, ?_⟩]
      · exact owned
      · exact (Option.some.inj hp.2.2).symm

end Reconciled

end Books

/-- Every command keeps the books reconciled. -/
theorem Effect.reconciled {e : Engine} {b b' : Books} {c : Command} {o : Outcome}
    (he : Effect e b c o b') (hm : e.initialBalance ≤ maxCoins)
    (h : b.Reconciled e.initialBalance) : b'.Reconciled e.initialBalance := by
  have solvent := he.solvent hm h.solvent
  cases he with
  | look | signIn => exact h
  | register | signUp => exact h.withAccount solvent
  | addItem _ _ fresh => exact h.withItem fresh solvent
  | transfer source destination apart _ _ _ recorded =>
    exact h.transfer (Books.account?_mem source).1 (Books.accountByName?_mem destination).1 apart
      (recorded ▸ rfl) (recorded ▸ rfl) (recorded ▸ rfl) (recorded ▸ rfl) solvent
  | purchase acquired source goods _ _ recorded =>
    exact h.purchase (Books.account?_mem source).1 (List.mem_of_find?_eq_some goods)
      (recorded ▸ rfl) (recorded ▸ rfl) (recorded ▸ rfl) (recorded ▸ rfl) acquired solvent

/-- The items on offer from the start reconcile with an empty ledger. -/
theorem Backend.reconciled_stock (grant : Int) (now : Instant) (k : Backend) :
    (k.stock now).Reconciled grant := by
  cases k with
  | memory => exact .blank .empty List.nodup_nil
  | tables =>
    have names : ((Books.stocked now).items.map (·.name)).Nodup := by
      show (Migration.seedItems.map (·.name)).Nodup
      decide
    exact .blank ⟨rfl, rfl, rfl, rfl⟩ names

end Scrip
