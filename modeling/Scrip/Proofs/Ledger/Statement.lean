import Mathlib.Algebra.BigOperators.Group.List.Lemmas
import Scrip.Proofs.Ledger.History
import Scrip.Proofs.Ledger.Reconciled
import Scrip.Wire.Message

/-!
# Statements that add up

In books that reconcile, what an account holder is shown adds up (`Statement.Adds`): the balance is
the grant with all that was received, less all that was sent, and of every item as many are owned
as there are purchases of it among what was sent.

* `History.receivedLine?_eq`, `History.sentLine?_eq`: the line of an entry that the books explain;
* `Books.Reconciled.adds`: statements of an account;
* `Wire.Info.adds_ofStatement`: the message that is made of a statement.
-/

namespace Scrip

/-- The balance of a statement, what is owned, and what was received and sent agree. -/
structure Statement.Adds (grant : Int) (s : Statement) : Prop where
  coins : s.account.coins = grant + (s.history.received.map (·.amount)).sum -
    (s.history.sent.map (·.amount)).sum
  owned : ∀ name, (s.inventory.filter (·.item = name)).map (·.quantity) =
    counted (s.history.sent.countP (·.item = some name))
  itemized : ∀ l ∈ s.history.sent, l.item.isSome ↔ l.kind = .purchase

/-- The same of the message in which a statement is told. -/
structure Wire.Info.Adds (grant : Int) (i : Wire.Info) : Prop where
  coins : i.coins = grant + (i.coinHistory.received.map (·.amount)).sum -
    (i.coinHistory.sent.map (·.amount)).sum
  owned : ∀ name, (i.inventory.filter (·.kind = name)).map (·.quantity) =
    counted (i.coinHistory.sent.countP (·.item = some name))

theorem Wire.Info.adds_ofStatement {grant : Int} {s : Statement} (h : s.Adds grant) :
    (Wire.Info.ofStatement s).Adds grant := by
  refine ⟨?_, fun name => ?_⟩
  · simp only [ofStatement, List.map_map]
    exact h.coins
  · simp only [ofStatement, List.filter_map, List.map_map, List.countP_map]
    exact h.owned name

/-! ## Lines of entries -/

namespace History

variable {b : Books} {owner : Account} {x : Entry}

/-- The books have the name of a party. -/
theorem exists_partyName (owner : Account) {id : AccountId} (h : (b.account? id).isSome) :
    ∃ name, partyName owner b.usernames id = some name := by
  unfold partyName
  split
  · exact ⟨_, rfl⟩
  · obtain ⟨a, ha⟩ := Option.isSome_iff_exists.mp h
    exact ⟨a.username, by rw [Books.lookup_usernames, ha]; rfl⟩

/-- An entry is on the side of its source, and a transfer on that of its destination too. -/
theorem sideFor_eq (x : Entry) (id : AccountId) : x.sideFor id =
    if x.source = id then some (.sent (if x.kind = .purchase then id else x.destination))
    else if x.kind = .transfer ∧ x.destination = id then some (.received x.source)
    else none := by
  unfold Entry.sideFor
  cases x.kind with
  | purchase => simp only [if_true, reduceCtorEq, false_and, if_false]
  | transfer => simp only [reduceCtorEq, if_false, true_and]

/-- An entry is among what was received if it is a transfer to the owner. -/
theorem receivedLine?_eq (owner : Account) (h : b.Explains x) :
    ∃ name, receivedLine? owner b.usernames b.itemNames x =
      if x.kind = .transfer ∧ x.destination = owner.id then some (x.lineFor name b.itemNames)
      else none := by
  obtain ⟨name, hname⟩ := exists_partyName owner h.source
  refine ⟨name, ?_⟩
  unfold receivedLine?
  rw [sideFor_eq]
  by_cases hr : x.kind = .transfer ∧ x.destination = owner.id
  · have hs : x.source ≠ owner.id := fun hs => (h.transfer hr.1).1 (hs.trans hr.2.symm)
    simp only [if_neg hs, if_pos hr, hname, Option.map_some]
  · rw [if_neg hr, if_neg hr]
    split_ifs <;> rfl

/-- An entry is among what was sent if it is by the owner. -/
theorem sentLine?_eq (owner : Account) (h : b.Explains x) :
    ∃ name, sentLine? owner b.usernames b.itemNames x =
      if x.source = owner.id then some (x.lineFor name b.itemNames) else none := by
  have known : ∃ name, partyName owner b.usernames
      (if x.kind = .purchase then owner.id else x.destination) = some name := by
    split
    · exact ⟨owner.username, if_pos rfl⟩
    · exact exists_partyName owner h.destination
  obtain ⟨name, hname⟩ := known
  refine ⟨name, ?_⟩
  unfold sentLine?
  rw [sideFor_eq]
  by_cases hs : x.source = owner.id
  · simp only [if_pos hs, hname, Option.map_some]
  · rw [if_neg hs, if_neg hs]
    split_ifs <;> rfl

/-- The line of an entry names an item just if it is a purchase, and then that item. -/
theorem item_lineFor (h : b.Explains x) (found : ∀ i ∈ b.items, b.item? i.id = some i)
    (name : String) :
    (x.kind = .transfer ∧ (x.lineFor name b.itemNames).item = none) ∨
      (x.kind = .purchase ∧ ∃ i ∈ b.items, x.item = some i.id ∧
        (x.lineFor name b.itemNames).item = some i.name) := by
  unfold Entry.lineFor
  cases hk : x.kind with
  | transfer => exact .inl ⟨rfl, by rw [(h.transfer hk).2]; rfl⟩
  | purchase =>
    obtain ⟨i, hi, hx⟩ := h.purchase hk
    refine .inr ⟨rfl, i, hi, hx, ?_⟩
    rw [hx, Option.bind_some, Books.lookup_itemNames, found i hi]
    rfl

/-- A list of lines, one for each entry of a kind. -/
theorem sum_filterMap {xs : List Entry} {f : Entry → Option HistoryLine} {p : Entry → Prop}
    [DecidablePred p] {items : Names}
    (h : ∀ x ∈ xs, ∃ name, f x = if p x then some (x.lineFor name items) else none) :
    ((xs.filterMap f).map (·.amount)).sum = ((xs.filter (p ·)).map (·.amount)).sum := by
  induction xs with
  | nil => rfl
  | cons x xs ih =>
    rw [List.forall_mem_cons] at h
    obtain ⟨⟨name, hx⟩, h⟩ := h
    by_cases hp : p x
    · rw [if_pos hp] at hx
      rw [List.filterMap_cons_some hx, List.filter_cons_of_pos (by simpa using hp), List.map_cons,
        List.map_cons, List.sum_cons, List.sum_cons, ih h]
      rfl
    · rw [if_neg hp] at hx
      rw [List.filterMap_cons_none hx, List.filter_cons_of_neg (by simpa using hp), ih h]

end History

namespace Books

variable {b : Books} {owner : Account} {grant : Int}

/-- What was sent and what was spent make up all that an account paid. -/
theorem sent_add_spent (id : AccountId) :
    b.sent id + b.spent id = b.total fun x => x.source = id := by
  have total_eq (p : Entry → Prop) [DecidablePred p] :
      b.total p = (b.ledger.map fun x => if p x then x.amount else 0).sum := by
    unfold total
    induction b.ledger with
    | nil => rfl
    | cons x xs ih =>
      by_cases hp : p x
      · simp only [List.filter_cons, hp, decide_true, if_true, List.map_cons, List.sum_cons, ih]
      · simp only [List.filter_cons, hp, decide_false, Bool.false_eq_true, if_false,
          List.map_cons, List.sum_cons, ih, Int.zero_add]
  rw [sent, spent, total_eq, total_eq, total_eq, ← List.sum_map_add]
  refine congrArg List.sum (List.map_congr_left fun x _ => ?_)
  cases x.kind <;> simp

/-- The items have their own numbers, so each is found by its own. -/
theorem Numbered.item?_eq (h : b.Numbered) {i : Item} (hi : i ∈ b.items) :
    b.item? i.id = some i := by
  have nodup : (b.items.map (·.id)).Nodup := by
    rw [h.items]
    exact nodup_idsTo _
  cases hf : b.item? i.id with
  | none => simpa using List.find?_eq_none.mp hf i hi
  | some j =>
    have hj : j.id = i.id := by simpa using List.find?_some hf
    rw [List.inj_on_of_nodup_map nodup (List.mem_of_find?_eq_some hf) hi hj]

/-- The lines of a history come from the whole ledger, in some order. -/
theorem historyOf_perm (owner : Account) :
    (b.historyOf owner).received.Perm
        (b.ledger.filterMap (History.receivedLine? owner b.usernames b.itemNames)) ∧
      (b.historyOf owner).sent.Perm
        (b.ledger.filterMap (History.sentLine? owner b.usernames b.itemNames)) := by
  have involved : ((b.entriesFor owner.id).mergeSort Entry.isBefore).Perm
      (b.ledger.filter (·.involves owner.id)) :=
    (List.mergeSort_perm _ _).trans (List.mergeSort_perm _ _)
  -- An entry that does not involve the owner has no line.
  have uninvolved (f : Entry → Option HistoryLine)
      (hf : ∀ x, x.sideFor owner.id = none → f x = none) :
      (b.ledger.filter (·.involves owner.id)).filterMap f = b.ledger.filterMap f := by
    rw [List.filterMap_filter]
    refine List.filterMap_congr fun x _ => ?_
    split
    · rfl
    · rename_i hi
      simp only [Entry.involves, Bool.or_eq_true, beq_iff_eq, not_or] at hi
      rw [hf x (by rw [History.sideFor_eq, if_neg hi.1, if_neg fun h => hi.2 h.2])]
  constructor
  · refine (involved.filterMap _).trans (.of_eq (uninvolved _ fun x hx => ?_))
    rw [History.receivedLine?, hx]
  · refine (involved.filterMap _).trans (.of_eq (uninvolved _ fun x hx => ?_))
    rw [History.sentLine?, hx]

namespace Reconciled

variable (h : b.Reconciled grant) (owner : Account)
include h

theorem sum_received :
    ((b.historyOf owner).received.map (·.amount)).sum = b.received owner.id := by
  rw [((historyOf_perm owner).1.map _).sum_eq]
  exact History.sum_filterMap fun x hx => History.receivedLine?_eq owner (h.entries x hx)

theorem sum_sent :
    ((b.historyOf owner).sent.map (·.amount)).sum = b.sent owner.id + b.spent owner.id := by
  rw [((historyOf_perm owner).2.map _).sum_eq, sent_add_spent]
  exact History.sum_filterMap fun x hx => History.sentLine?_eq owner (h.entries x hx)

/-- A line among what was sent is of an entry by the owner. -/
theorem mem_sent {l : HistoryLine} (hl : l ∈ (b.historyOf owner).sent) :
    ∃ x ∈ b.ledger, x.source = owner.id ∧ ∃ name, l = x.lineFor name b.itemNames := by
  obtain ⟨x, hx, hline⟩ := List.mem_filterMap.mp ((historyOf_perm owner).2.mem_iff.mp hl)
  obtain ⟨name, he⟩ := History.sentLine?_eq owner (h.entries x hx)
  rw [he] at hline
  split at hline
  · cases hline
    exact ⟨x, hx, ‹_›, name, rfl⟩
  · cases hline

/-- An item is named by as many lines as there are purchases of it. -/
theorem count_sent {i : Item} (hi : i ∈ b.items) :
    (b.historyOf owner).sent.countP (·.item = some i.name) = b.purchases owner.id i.id := by
  have found := fun j (hj : j ∈ b.items) => h.solvent.numbered.item?_eq hj
  rw [(historyOf_perm owner).2.countP_eq, List.countP_filterMap, purchases]
  refine List.countP_congr fun x hx => ?_
  obtain ⟨name, he⟩ := History.sentLine?_eq owner (h.entries x hx)
  rw [he, decide_eq_true_eq]
  by_cases hs : x.source = owner.id
  · rw [if_pos hs, Option.map_some, Option.getD_some, decide_eq_true_eq]
    rcases History.item_lineFor (h.entries x hx) found name with ⟨hk, hn⟩ | ⟨hk, j, hj, hx, hn⟩
    · rw [hn, hk]
      refine ⟨fun he => ?_, fun hp => ?_⟩
      · cases he
      · cases hp.1
    · rw [hn, hx, Option.some_inj, Option.some_inj]
      refine ⟨fun he => ⟨hk, hs, ?_⟩, fun hp => ?_⟩
      · rw [List.inj_on_of_nodup_map h.names hj hi he]
      · have same := (congrArg b.item? hp.2.2).trans (found i hi)
        rw [Option.some.inj ((found j hj).symm.trans same)]
  · rw [if_neg hs]
    refine ⟨fun he => ?_, fun hp => absurd hp.2.1 hs⟩
    cases he

/-- An item is owned in the quantities that the books have for it. -/
theorem owned_eq (id : AccountId) {i : Item} (hi : i ∈ b.items) :
    ((b.ownedBy id).filter (·.item = i.name)).map (·.quantity) = b.quantities id i.id := by
  have found := h.solvent.numbered.item?_eq hi
  rw [ownedBy, holdingsOf, quantities, List.filter_filterMap, List.map_filterMap,
    List.filterMap_filter, ← List.filterMap_eq_map, List.filterMap_filter]
  refine List.filterMap_congr fun x _ => ?_
  by_cases ha : x.account = id
  · rw [if_pos (beq_iff_eq.mpr ha)]
    by_cases hx : x.item = i.id
    · rw [if_pos (decide_eq_true ⟨ha, hx⟩), hx, found, Option.map_some,
        Option.filter_some_pos (by exact decide_eq_true rfl)]
      rfl
    · rw [if_neg (by simpa using fun _ => hx)]
      cases hf : b.item? x.item with
      | none => rfl
      | some j =>
        have hj : j.id = x.item := by simpa using List.find?_some hf
        have hname : j.name ≠ i.name := fun he => hx
          (hj.symm.trans (congrArg _ (List.inj_on_of_nodup_map h.names
            (List.mem_of_find?_eq_some hf) hi he)))
        rw [Option.map_some, Option.filter_some_neg (by simpa using hname)]
        rfl
  · rw [if_neg (mt beq_iff_eq.mp ha), if_neg (by simpa using fun h => absurd h ha)]

/-- What an account holder is shown adds up. -/
theorem adds {id : AccountId} {owner : Account} (found : b.account? id = some owner) :
    Statement.Adds grant ⟨owner, b.ownedBy id, b.historyOf owner⟩ := by
  obtain ⟨hmem, rfl⟩ := account?_mem found
  have items := fun j (hj : j ∈ b.items) => h.solvent.numbered.item?_eq hj
  refine ⟨?_, fun name => ?_, fun l hl => ?_⟩
  · have replayed := h.solvent.replays owner hmem
    rw [h.sum_received, h.sum_sent]
    dsimp only
    omega
  · dsimp only
    by_cases hname : ∃ i ∈ b.items, i.name = name
    · obtain ⟨i, hi, rfl⟩ := hname
      rw [h.owned_eq owner.id hi, h.count_sent owner hi]
      exact h.owned owner.id i.id
    · -- Neither a holding nor a purchase is of an item that does not exist.
      have unowned : (b.ownedBy owner.id).filter (·.item = name) = [] := by
        refine List.filter_eq_nil_iff.mpr fun o ho => ?_
        obtain ⟨x, -, hx⟩ := List.mem_filterMap.mp ho
        obtain ⟨i, hi, rfl⟩ := Option.map_eq_some_iff.mp hx
        exact fun he => hname ⟨i, List.mem_of_find?_eq_some hi, of_decide_eq_true he⟩
      have unsent : (b.historyOf owner).sent.countP (·.item = some name) = 0 := by
        refine List.countP_eq_zero.mpr fun l hl => ?_
        obtain ⟨x, hx, -, n, rfl⟩ := h.mem_sent owner hl
        intro he
        rcases History.item_lineFor (h.entries x hx) items n with ⟨-, hn⟩ | ⟨-, i, hi, -, hn⟩
        · rw [hn] at he
          cases of_decide_eq_true he
        · rw [hn] at he
          exact hname ⟨i, hi, Option.some.inj (of_decide_eq_true he)⟩
      rw [unowned, unsent]
      rfl
  · obtain ⟨x, hx, -, n, rfl⟩ := h.mem_sent owner hl
    rcases History.item_lineFor (h.entries x hx) items n with ⟨hk, hn⟩ | ⟨hk, i, -, -, hn⟩
    · rw [hn]
      exact ⟨nofun, fun hp => nomatch hk.symm.trans hp⟩
    · rw [hn]
      exact ⟨fun _ => hk, fun _ => rfl⟩

end Reconciled

end Books

end Scrip
