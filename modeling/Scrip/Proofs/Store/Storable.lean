import Scrip.Proofs.Ledger.Solvency
import Scrip.Time.Instant

/-!
# Books that tables can hold

What the constraints of a database ask of books (`Books.Storable`) and of a request
(`Books.Respects`). A request that respects them leaves storable books (`Storable.answer`).
-/

namespace Scrip

/-- An instant that is not within a leap second. -/
def Instant.Ordinary (t : Instant) : Prop :=
  t.nanoseconds < 1000000000

namespace Books

/-- Numbers of which none was given twice and none is still to be given. -/
structure Given (ids : List Int) (last : Nat) : Prop where
  nodup : ids.Nodup
  le : ∀ i ∈ ids, i ≤ last

theorem Given.nil : Given [] 0 :=
  ⟨List.nodup_nil, by simp⟩

theorem Given.next {ids : List Int} {last : Nat} (h : Given ids last) :
    Given (ids ++ [(last : Int) + 1]) (last + 1) := by
  refine ⟨List.nodup_append.mpr ⟨h.nodup, List.nodup_singleton _, fun i hi j hj he => ?_⟩,
    fun i hi => ?_⟩
  · have := h.le i hi
    rw [List.mem_singleton] at hj
    omega
  · rcases List.mem_append.mp hi with hi | hi
    · have := h.le i hi
      omega
    · rw [List.mem_singleton] at hi
      omega

/-- What the tables can hold: numbers that are given once and in turn, balances within bounds,
and times that can be read again. -/
structure Storable (b : Books) : Prop where
  accounts : Given (b.accounts.map (·.id)) b.sequences.account
  bounded : ∀ a ∈ b.accounts, 0 ≤ a.coins ∧ a.coins ≤ maxCoins
  ledger : Given (b.ledger.map (·.id)) b.sequences.entry
  dated : ∀ x ∈ b.ledger, x.createdAt.Ordinary

/-- What the constraints of the tables ask of a request: balances are neither negative nor too
large, prices and amounts are positive, and accounts and items that are named exist. -/
def Respects (b : Books) : Request → Prop
  | .insertAccount new => 0 ≤ new.coins ∧ new.coins ≤ maxCoins
  | .debit id amount => ∀ a ∈ b.accounts, a.id = id → amount ≤ a.coins → a.coins - amount ≤ maxCoins
  | .credit id amount =>
    ∀ a ∈ b.accounts, a.id = id → 0 ≤ a.coins + amount ∧ a.coins + amount ≤ maxCoins
  | .insertItem new => 0 < new.price
  | .insertHolding account item => (b.account? account).isSome ∧ (b.item? item).isSome
  | .append new =>
    0 < new.amount ∧ (b.account? new.source).isSome ∧ (b.account? new.destination).isSome ∧
      ∀ item ∈ new.item, (b.item? item).isSome
  | _ => True

/-! ## Requests keep books storable -/

namespace Storable

variable {b b' : Books}

theorem keyed (h : b.Storable) : b.Keyed :=
  h.accounts.nodup

theorem empty : Storable {} :=
  ⟨.nil, by simp, .nil, by simp⟩

/-- Books with the same accounts and the same ledger. -/
theorem congr (h : b.Storable) (ha : b'.accounts = b.accounts) (hl : b'.ledger = b.ledger)
    (hs : b'.sequences.account = b.sequences.account)
    (he : b'.sequences.entry = b.sequences.entry) : b'.Storable := by
  obtain ⟨accounts, bounded, ledger, dated⟩ := h
  rw [← ha, ← hs] at accounts
  rw [← ha] at bounded
  rw [← hl, ← he] at ledger
  rw [← hl] at dated
  exact ⟨accounts, bounded, ledger, dated⟩

theorem withAccount (h : b.Storable) {a : Account} (hid : a.id = b.sequences.account + 1)
    (h0 : 0 ≤ a.coins) (hm : a.coins ≤ maxCoins) : (b.withAccount a).Storable := by
  refine ⟨?_, fun a' ha' => ?_, h.ledger, h.dated⟩
  · rw [Books.withAccount, List.map_append, List.map_singleton, hid]
    exact h.accounts.next
  · rcases List.mem_append.mp ha' with ha' | ha'
    · exact h.bounded a' ha'
    · rw [List.mem_singleton.mp ha']
      exact ⟨h0, hm⟩

theorem addCoins (h : b.Storable) {id : AccountId} {x : Int}
    (hx : ∀ a ∈ b.accounts, a.id = id → 0 ≤ a.coins + x ∧ a.coins + x ≤ maxCoins) :
    (b.addCoins id x).Storable := by
  refine ⟨?_, fun a' ha' => ?_, h.ledger, h.dated⟩
  · rw [ids_addCoins]
    exact h.accounts
  · obtain ⟨a, ha, -, hc⟩ := mem_addCoins ha'
    rw [hc]
    split
    · exact hx a ha (Eq.symm ‹_›)
    · rw [Int.add_zero]
      exact h.bounded a ha

theorem withEntry (h : b.Storable) {x : Entry} (hid : x.id = b.sequences.entry + 1)
    (hx : x.createdAt.Ordinary) : (b.withEntry x).Storable := by
  refine ⟨h.accounts, h.bounded, ?_, fun x' hx' => ?_⟩
  · rw [Books.withEntry, List.map_append, List.map_singleton, hid]
    exact h.ledger.next
  · rcases List.mem_append.mp hx' with hx' | hx'
    · exact h.dated x' hx'
    · rw [List.mem_singleton.mp hx']
      exact hx

theorem gain (h : b.Storable) (account : AccountId) (item : ItemId) (now : Instant) :
    (b.gain account item now).Storable :=
  h.congr (gain_accounts ..) (gain_ledger ..) (gain_lastAccount ..) (gain_lastEntry ..)

/-- A debit leaves no balance that is too large. -/
theorem respects_debit (h : b.Storable) {amount : Int} (positive : 0 < amount) (id : AccountId) :
    b.Respects (.debit id amount) := by
  intro a ha _ _
  have := (h.bounded a ha).2
  omega

/-- A credit after a debit of another account, where there is room for it. -/
theorem respects_credit (h : b.Storable) {id : AccountId} {recipient : Account} {amount : Int}
    (hr : recipient ∈ b.accounts) (apart : id ≠ recipient.id) (positive : 0 < amount)
    (fits : recipient.coins + amount ≤ maxCoins) (x : Int) :
    (b.addCoins id x).Respects (.credit recipient.id amount) := by
  intro a ha hid
  obtain ⟨a₀, ha₀, hid₀, hc⟩ := mem_addCoins ha
  obtain rfl := h.keyed.eq_of_mem ha₀ hr (hid₀.symm.trans hid)
  have := (h.bounded a₀ ha₀).1
  rw [hc, if_neg apart]
  omega

/-- A change that is made or not. -/
theorem changed (h : b.Storable) {x : Option Books} {done : Bool}
    (hx : ∀ c, x = some c → c.Storable) (hc : b.changed x = (done, b')) : b'.Storable := by
  cases x with
  | none =>
    cases hc
    exact h
  | some c =>
    cases hc
    exact hx _ rfl

/-- A request that respects the constraints leaves what the tables can hold. -/
theorem answer (h : b.Storable) {r : Request} {a : r.Answer} {now : Instant} (hn : now.Ordinary)
    (hr : b.Respects r) (ha : b.answer now r = .ok (a, b')) : b'.Storable := by
  cases r with
  | account | accountByName | lockAccount | item | itemByName | items | holding | holdings
  | entriesFor =>
    cases ha
    exact h
  | insertAccount new =>
    simp only [Books.answer] at ha
    split at ha <;> cases ha
    exact h.withAccount rfl hr.1 hr.2
  | insertItem new =>
    simp only [Books.answer] at ha
    split at ha <;> cases ha
    exact h.congr rfl rfl rfl rfl
  | debit id amount =>
    refine h.changed (fun c hd => ?_) (Except.ok.inj ha)
    obtain ⟨a, ha, hc, rfl⟩ := debit_eq_some h.keyed hd
    obtain ⟨hm, hid⟩ := account?_mem ha
    refine h.addCoins fun a' ha' hid' => ?_
    cases h.keyed.eq_of_mem ha' hm (hid'.trans hid.symm)
    have := hr _ ha' hid hc
    omega
  | credit id amount =>
    simp only [Books.answer] at ha
    cases hd : b.credit id amount with
    | error => rw [hd] at ha; cases ha
    | ok x =>
      rw [hd] at ha
      refine h.changed (fun c hx => ?_) (Except.ok.inj ha)
      rw [hx] at hd
      obtain ⟨a, -, -, rfl⟩ := credit_eq_some h.keyed hd
      exact h.addCoins hr
  | incrementHolding account item =>
    refine h.changed (fun c hd => ?_) (Except.ok.inj ha)
    rw [incrementHolding_eq_gain default hd]
    exact h.gain ..
  | insertHolding account item =>
    simp only [Books.answer] at ha
    split at ha
    · rename_i hx
      cases ha
      rw [addHolding_eq_gain hx]
      exact h.gain ..
    · cases ha
      exact h
  | append new =>
    cases ha
    exact h.withEntry rfl hn

end Storable

end Books

end Scrip
