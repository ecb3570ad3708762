import Scrip.Proofs.Concurrency.Snapshot
import Scrip.Proofs.Ledger.WellFormed

/-!
# Inventories are purchases

An account has one holding of an item for all its purchases of it, made at the first one
(`Books.Stocked`). So the holdings of an account are in the order of its first purchases
(`Books.bought`), and its inventory lists what it bought (`inventory_eq_purchases`).
-/

namespace Scrip

/-! ## First occurrences -/

theorem eraseDups_snoc (xs : List Int) (x : Int) :
    (xs ++ [x]).eraseDups =
      if x ∈ xs.eraseDups then xs.eraseDups else xs.eraseDups ++ [x] := by
  rw [List.eraseDups_append, List.cons_removeAll]
  by_cases hx : x ∈ xs.eraseDups
  · have known : ¬ xs.contains x = false := by simpa using List.mem_eraseDups.mp hx
    rw [if_neg known, if_pos hx]
    exact List.append_nil _
  · have new : xs.contains x = false := by simpa using mt List.mem_eraseDups.mpr hx
    rw [if_pos new, if_neg hx]
    rfl

theorem nodup_eraseDups (xs : List Int) : xs.eraseDups.Nodup := by
  induction xs using List.reverseRecOn with
  | nil => exact List.nodup_nil
  | append_singleton xs x ih =>
    rw [eraseDups_snoc]
    split
    · exact ih
    · rename_i hx
      refine List.nodup_append.mpr ⟨ih, List.nodup_singleton x, fun y hy z hz he => hx ?_⟩
      rw [List.mem_singleton] at hz
      rwa [← hz, ← he]

namespace Books

variable {b : Books} {account : AccountId} {item : ItemId}

/-! ## What was bought -/

/-- The items of the purchases of an account, in the order of the ledger. -/
def acquisitions (b : Books) (account : AccountId) : List ItemId :=
  (b.ledger.filter fun x => x.kind = .purchase ∧ x.source = account).filterMap (·.item)

/-- The items that an account bought, in the order of its first purchases. -/
def bought (b : Books) (account : AccountId) : List ItemId :=
  (b.acquisitions account).eraseDups

theorem mem_bought : item ∈ b.bought account ↔
    ∃ x ∈ b.ledger, x.kind = .purchase ∧ x.source = account ∧ x.item = some item := by
  rw [bought, List.mem_eraseDups, acquisitions, List.mem_filterMap]
  constructor
  · rintro ⟨x, hx, hi⟩
    obtain ⟨hmem, hp⟩ := List.mem_filter.mp hx
    obtain ⟨hk, hs⟩ := of_decide_eq_true hp
    exact ⟨x, hmem, hk, hs, hi⟩
  · rintro ⟨x, hmem, hk, hs, hi⟩
    exact ⟨x, List.mem_filter.mpr ⟨hmem, decide_eq_true ⟨hk, hs⟩⟩, hi⟩

/-- An item was bought if it was bought at least once. -/
theorem purchases_ne_zero : b.purchases account item ≠ 0 ↔ item ∈ b.bought account := by
  rw [mem_bought, purchases, ← Nat.pos_iff_ne_zero, List.countP_pos_iff]
  simp only [decide_eq_true_eq]

/-- A purchase is of the item bought last, unless it was bought before. -/
theorem bought_withEntry {x : Entry} (hk : x.kind = .purchase) (hi : x.item = some item) :
    (b.withEntry x).bought account =
      if x.source = account ∧ item ∉ b.bought account then b.bought account ++ [item]
      else b.bought account := by
  by_cases hs : x.source = account
  · have snoc : (b.withEntry x).acquisitions account = b.acquisitions account ++ [item] := by
      simp only [acquisitions, withEntry, List.filter_append, List.filterMap_append]
      rw [List.filter_cons_of_pos (by exact decide_eq_true ⟨hk, hs⟩), List.filter_nil,
        List.filterMap_cons_some hi, List.filterMap_nil]
    rw [bought, snoc, eraseDups_snoc, ← bought]
    by_cases hmem : item ∈ b.bought account
    · rw [if_pos hmem, if_neg fun h => h.2 hmem]
    · rw [if_neg hmem, if_pos ⟨hs, hmem⟩]
  · have same : (b.withEntry x).acquisitions account = b.acquisitions account := by
      simp only [acquisitions, withEntry, List.filter_append, List.filterMap_append]
      rw [List.filter_cons_of_neg (by simpa using fun _ => hs), List.filter_nil,
        List.filterMap_nil, List.append_nil]
    rw [bought, same, if_neg fun h => hs h.1]
    rfl

/-- A transfer is no purchase. -/
theorem bought_withTransfer {x : Entry} (hk : x.kind = .transfer) :
    (b.withEntry x).bought account = b.bought account := by
  have same : (b.withEntry x).acquisitions account = b.acquisitions account := by
    simp only [acquisitions, withEntry, List.filter_append, List.filterMap_append]
    rw [List.filter_cons_of_neg (by simp [hk]), List.filter_nil, List.filterMap_nil,
      List.append_nil]
  rw [bought, same]
  rfl

/-! ## What is held -/

/-- The items that an account holds, in the order in which its holdings were made. -/
def held (b : Books) (account : AccountId) : List ItemId :=
  (b.holdingsOf account).map (·.item)

theorem isSome_holding?_iff_held : (b.holding? account item).isSome ↔ item ∈ b.held account := by
  simp only [holding?, List.find?_isSome, held, holdingsOf, List.mem_map, List.mem_filter,
    Bool.and_eq_true, beq_iff_eq]
  constructor
  · rintro ⟨h, hmem, ha, hi⟩
    exact ⟨h, ⟨hmem, ha⟩, hi⟩
  · rintro ⟨h, ⟨hmem, ha⟩, hi⟩
    exact ⟨h, hmem, ha, hi⟩

/-- A gain is of the item held last, unless it was held before. -/
theorem held_gain {account' : AccountId} (now : Instant) :
    (b.gain account' item now).held account =
      if account' = account ∧ item ∉ b.held account then b.held account ++ [item]
      else b.held account := by
  by_cases ha : account' = account
  · subst ha
    by_cases hmem : item ∈ b.held account'
    · rw [if_neg fun h => h.2 hmem, held, holdingsOf, gain,
        if_pos (isSome_holding?_iff_held.mpr hmem)]
      let raised (h : Holding) : Holding :=
        if h.account = account' ∧ h.item = item then { h with quantity := h.quantity + 1 } else h
      have owner : (fun h : Holding => h.account == account') ∘ raised =
          fun h => h.account == account' := by
        funext h
        simp only [Function.comp_apply, raised]
        split <;> rfl
      have goods : (fun h : Holding => h.item) ∘ raised = fun h => h.item := by
        funext h
        simp only [Function.comp_apply, raised]
        split <;> rfl
      show ((b.holdings.map raised).filter _).map _ = _
      rw [List.filter_map, owner, List.map_map, goods]
      rfl
    · rw [if_pos ⟨rfl, hmem⟩, held, holdingsOf, gain,
        if_neg (mt isSome_holding?_iff_held.mp hmem), List.filter_append, List.map_append,
        List.filter_cons_of_pos (by exact beq_self_eq_true account')]
      rfl
  · rw [if_neg fun h => ha h.1]
    refine congrArg (List.map _) (filter_gain fun h hh _ => ?_)
    rw [hh]
    exact beq_false_of_ne ha

/-- Every account holds what it bought, in the order of its first purchases. -/
def Stocked (b : Books) : Prop :=
  ∀ account, b.held account = b.bought account

end Books

/-- Every command keeps the holdings in the order of first purchases. -/
theorem Effect.stocked {e : Engine} {b b' : Books} {c : Command} {o : Outcome}
    (he : Effect e b c o b') (h : b.Stocked) : b'.Stocked := by
  intro account
  cases he with
  | look | signIn | register | signUp | addItem => exact h account
  | transfer _ _ _ _ _ _ recorded =>
    rw [Books.bought_withTransfer (by rw [recorded])]
    exact h account
  | @purchase _ _ _ buyer item entry _ acquired _ _ _ _ recorded =>
    have paid : (b.addCoins buyer.id (-item.price)).held account =
        (b.addCoins buyer.id (-item.price)).bought account := h account
    have unspoken : ((b.addCoins buyer.id (-item.price)).gain buyer.id item.id acquired).bought
        account = (b.addCoins buyer.id (-item.price)).bought account := by
      rw [Books.bought, Books.acquisitions, Books.gain_ledger]
      rfl
    have kind : entry.kind = .purchase := by rw [recorded]
    have goods : entry.item = some item.id := by rw [recorded]
    have source : entry.source = buyer.id := by rw [recorded]
    rw [Books.bought_withEntry kind goods, unspoken, ← paid, source]
    exact Books.held_gain acquired

namespace Books

variable {b : Books} {account : AccountId} {item : ItemId} {grant : Int}

/-- A holding and the purchases that it stands for: there is one if there are any, and it is of as
many. -/
structure Tallies (b : Books) (account : AccountId) (item : ItemId) : Prop where
  unique : (b.holdings.countP fun h => h.account = account ∧ h.item = item) ≤ 1
  exists_iff : (∃ h ∈ b.holdings, h.account = account ∧ h.item = item) ↔
    ∃ x ∈ b.ledger, x.kind = .purchase ∧ x.source = account ∧ x.item = some item
  quantity : ∀ h ∈ b.holdings, h.account = account → h.item = item →
    h.quantity = b.purchases account item

theorem Reconciled.tallies (h : b.Reconciled grant) (account : AccountId) (item : ItemId) :
    b.Tallies account item := by
  have owned : b.quantities account item = counted (b.purchases account item) :=
    h.owned account item
  have each {x : Holding} (hx : x ∈ b.holdings) (ha : x.account = account) (hi : x.item = item) :
      x.quantity ∈ counted (b.purchases account item) := by
    rw [← owned]
    exact List.mem_map_of_mem (List.mem_filter.mpr ⟨hx, decide_eq_true ⟨ha, hi⟩⟩)
  refine ⟨?_, ?_, fun x hx ha hi => ?_⟩
  · have length := congrArg List.length owned
    rw [quantities, List.length_map, ← List.countP_eq_length_filter] at length
    rw [length, counted]
    split <;> simp
  · have some_iff : b.quantities account item ≠ [] ↔ b.purchases account item ≠ 0 := by
      rw [owned]
      exact not_congr counted_eq_nil
    rw [← mem_bought, ← purchases_ne_zero, ← some_iff, ← isSome_holding?_iff, holding?,
      List.find?_isSome]
    simp only [Bool.and_eq_true, beq_iff_eq]
  · have := each hx ha hi
    unfold counted at this
    split at this
    · cases this
    · exact List.mem_singleton.mp this

/-- Holdings of items that are there, in the quantities bought, with their names. -/
theorem exists_items {hs : List Holding} (listed : ∀ h ∈ hs, ∃ i ∈ b.items,
      b.item? h.item = some i ∧ i.id = h.item ∧ h.quantity = b.purchases account i.id) :
    ∃ items : List Item, items ⊆ b.items ∧ items.map (·.id) = hs.map (·.item) ∧
      (hs.filterMap fun h => (b.item? h.item).map fun i => (⟨i.name, h.quantity⟩ : OwnedItem)) =
        items.map fun i => ⟨i.name, b.purchases account i.id⟩ := by
  induction hs with
  | nil => exact ⟨[], nofun, rfl, rfl⟩
  | cons h hs ih =>
    obtain ⟨⟨i, hi, hfound, hid, hq⟩, hrest⟩ := List.forall_mem_cons.mp listed
    obtain ⟨items, hsub, hids, howned⟩ := ih hrest
    refine ⟨i :: items, List.cons_subset.mpr ⟨hi, hsub⟩, ?_, ?_⟩
    · rw [List.map_cons, List.map_cons, hids, hid]
    · rw [List.filterMap_cons, hfound, List.map_cons, ← howned, ← hq]
      rfl

/-- What an account owns is what it bought. -/
theorem ownedBy_eq (hr : b.Reconciled grant) (hs : b.Stocked) (hw : b.WellFormed)
    (account : AccountId) : ∃ items : List Item, items ⊆ b.items ∧
      items.map (·.id) = b.bought account ∧
      b.ownedBy account = items.map fun i => ⟨i.name, b.purchases account i.id⟩ := by
  have listed : ∀ h ∈ b.holdingsOf account, ∃ i ∈ b.items, b.item? h.item = some i ∧
      i.id = h.item ∧ h.quantity = b.purchases account i.id := by
    intro h hh
    obtain ⟨hmem, ha⟩ := List.mem_filter.mp hh
    obtain ⟨i, hi⟩ := Option.isSome_iff_exists.mp (hw.holdings h hmem).item
    have hid : i.id = h.item := by simpa using List.find?_some hi
    refine ⟨i, List.mem_of_find?_eq_some hi, hi, hid, ?_⟩
    rw [hid]
    exact (hr.tallies account h.item).quantity h hmem (beq_iff_eq.mp ha) rfl
  obtain ⟨items, hsub, hids, howned⟩ := exists_items listed
  exact ⟨items, hsub, hids.trans (hs account), howned⟩

end Books

open Troubled in
/-- Whatever clients command from the moment at which nothing was done, in any order and whatever
goes wrong: of every item an account has one holding at most, it has one just if it bought the
item, and of as many as it bought; and its inventory lists each item that it bought once, in the
order of its first purchases and in the quantity bought. -/
theorem inventory_eq_purchases {ι : Type} [DecidableEq ι] {e : Engine}
    (hm : e.initialBalance ≤ maxCoins) {k : Backend} {now : Instant} {plan : ι → List Command}
    {history : List (Happening ι)} {S : Troubled ι k.State (List (Except Error Outcome))}
    (run : Run k.keeper (carryingOut e k now plan) history S) :
    ∃ b, S.committed = k.hold (some Migration.noted) b ∧
      (∀ account item, b.Tallies account item) ∧
      ∀ a ∈ b.accounts, ∃ items : List Item, items ⊆ b.items ∧
        items.map (·.id) = b.bought a.id ∧ (b.bought a.id).Nodup ∧
        ∀ clock now', k.alone e S.committed clock now' (.inventory a.id) =
          .ok (.inventory (items.map fun i => ⟨i.name, b.purchases a.id i.id⟩)) := by
  have reconciled := k.reconciled_stock e.initialBalance now
  have stocked : (k.stock now).Stocked ∧ (k.stock now).WellFormed := by
    cases k <;> exact ⟨fun _ => rfl, .blank⟩
  obtain ⟨b, storable, committed, hr, hs, hw⟩ := run.invariant hm
    (I := fun b => b.Reconciled e.initialBalance ∧ b.Stocked ∧ b.WellFormed)
    ⟨reconciled, stocked⟩ fun _ _ _ _ h he =>
      ⟨he.reconciled hm h.1, he.stocked h.2.1, he.wellFormed h.1.solvent.numbered h.2.2⟩
  refine ⟨b, committed, hr.tallies, fun a ha => ?_⟩
  obtain ⟨items, hsub, hids, howned⟩ := Books.ownedBy_eq hr hs hw a.id
  refine ⟨items, hsub, hids, nodup_eraseDups _, fun clock now' => ?_⟩
  have found : b.account? a.id = some a := hr.solvent.numbered.keyed.account?_eq ha
  have shows : Shows e k (k.hold (some Migration.noted) b) a.id
      ⟨a, b.ownedBy a.id, b.historyOf a⟩ := shows_of_found storable found
  rw [committed, shows.inventory, ← howned]

open Troubled in
/-- Two clients and a cup, with the entry of its purchase. -/
theorem inventory_eq_purchases_cup :
    ({} : Engine).initialBalance ≤ maxCoins ∧ ∃ history S,
      Run Backend.memory.keeper (carryingOut {} .memory default cupPlan) history S ∧
      (∃ x, (S.committed : Books).ledger = [x]) ∧
      ∃ b, S.committed = Backend.memory.hold (some Migration.noted) b ∧
        (∀ account item, b.Tallies account item) ∧
        ∀ a ∈ b.accounts, ∃ items : List Item, items ⊆ b.items ∧
          items.map (·.id) = b.bought a.id ∧ (b.bought a.id).Nodup ∧
          ∀ clock now', Backend.memory.alone {} S.committed clock now' (.inventory a.id) =
            .ok (.inventory (items.map fun i => ⟨i.name, b.purchases a.id i.id⟩)) := by
  have hm : ({} : Engine).initialBalance ≤ maxCoins := by
    show defaultGrant ≤ maxCoins
    decide
  obtain ⟨_, _, _, S, x, run, run', -, noted⟩ := exists_cupRun
  have all := run.append run'
  exact ⟨hm, _, S, all, ⟨x, noted⟩, inventory_eq_purchases hm all⟩

end Scrip
