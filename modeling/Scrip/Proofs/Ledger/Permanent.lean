import Scrip.Proofs.Concurrency.Troubled
import Scrip.Proofs.Ledger.Reconciled

/-!
# Records are permanent

Records are only ever added, after those of their kind (`Books.Continues`): a list of records grows
at its end, and a record stays at its place but for its balance or quantity (`Grows`). As records
are numbered by their places, no number is left out or given twice, whatever is rolled back
(`records_permanent`).
-/

namespace Scrip

/-! ## Lists that grow -/

section Grows

variable {α : Type} {r : α → α → Prop} {xs ys zs : List α}

/-- What is at a place of a list is at the same place of another, as a relation has it. -/
def Grows (r : α → α → Prop) (xs ys : List α) : Prop :=
  ∀ (n : Nat) (x : α), xs[n]? = some x → ∃ y, ys[n]? = some y ∧ r x y

theorem Grows.refl (hr : ∀ x, r x x) (xs : List α) : Grows r xs xs :=
  fun _ x hx => ⟨x, hx, hr x⟩

theorem Grows.trans (ht : ∀ {x y z}, r x y → r y z → r x z) (h : Grows r xs ys)
    (h' : Grows r ys zs) : Grows r xs zs := by
  intro n x hx
  obtain ⟨y, hy, hxy⟩ := h n x hx
  obtain ⟨z, hz, hyz⟩ := h' n y hy
  exact ⟨z, hz, ht hxy hyz⟩

theorem Grows.append (hr : ∀ x, r x x) (xs ys : List α) : Grows r xs (xs ++ ys) := by
  intro n x hx
  obtain ⟨hn, -⟩ := List.getElem?_eq_some_iff.mp hx
  exact ⟨x, (List.getElem?_append_left hn).trans hx, hr x⟩

theorem Grows.exists_mem {x : α} (h : Grows r xs ys) (hx : x ∈ xs) : ∃ y ∈ ys, r x y := by
  obtain ⟨n, hn⟩ := List.getElem?_of_mem hx
  obtain ⟨y, hy, hxy⟩ := h n x hn
  exact ⟨y, List.mem_of_getElem? hy, hxy⟩

/-- What is found first is still there, where nothing before it has become what is looked for. -/
theorem Grows.find? {p : α → Bool} (hp : ∀ x y, r x y → p y = p x) {x : α} :
    ∀ {xs ys : List α}, Grows r xs ys → xs.find? p = some x → ∃ y, ys.find? p = some y ∧ r x y
  | a :: xs, ys, h, hx => by
    obtain ⟨b, hb, hab⟩ := h 0 a rfl
    match ys, hb with
    | b :: ys, rfl =>
      have tail : Grows r xs ys := fun n => h (n + 1)
      rw [List.find?_cons] at hx ⊢
      rw [hp a b hab]
      split at hx
      · cases hx
        exact ⟨b, rfl, hab⟩
      · exact tail.find? hp hx

theorem Grows.map {f : α → α} (hf : ∀ x, r x (f x)) (xs : List α) : Grows r xs (xs.map f) := by
  intro n x hx
  exact ⟨f x, by rw [List.getElem?_map, hx, Option.map_some], hf x⟩

end Grows

/-! ## Books that continue others -/

/-- An account as it was, but for its balance. -/
structure Account.Remains (a a' : Account) : Prop where
  id : a'.id = a.id
  username : a'.username = a.username
  passwordHash : a'.passwordHash = a.passwordHash
  createdAt : a'.createdAt = a.createdAt

/-- A holding as it was, but that it may be of more. -/
structure Holding.Remains (h h' : Holding) : Prop where
  id : h'.id = h.id
  account : h'.account = h.account
  item : h'.item = h.item
  acquiredAt : h'.acquiredAt = h.acquiredAt
  quantity : h.quantity ≤ h'.quantity

theorem Account.Remains.refl (a : Account) : a.Remains a :=
  ⟨rfl, rfl, rfl, rfl⟩

theorem Account.Remains.trans {a a' a'' : Account} (h : a.Remains a') (h' : a'.Remains a'') :
    a.Remains a'' where
  id := h'.id.trans h.id
  username := h'.username.trans h.username
  passwordHash := h'.passwordHash.trans h.passwordHash
  createdAt := h'.createdAt.trans h.createdAt

theorem Holding.Remains.refl (h : Holding) : h.Remains h :=
  ⟨rfl, rfl, rfl, rfl, Int.le_refl _⟩

theorem Holding.Remains.trans {h h' h'' : Holding} (hr : h.Remains h') (hr' : h'.Remains h'') :
    h.Remains h'' where
  id := hr'.id.trans hr.id
  account := hr'.account.trans hr.account
  item := hr'.item.trans hr.item
  acquiredAt := hr'.acquiredAt.trans hr.acquiredAt
  quantity := Int.le_trans hr.quantity hr'.quantity

namespace Books

variable {b b' b'' : Books}

/-- All records of some books are in others, in the same places. -/
structure Continues (b b' : Books) : Prop where
  accounts : Grows Account.Remains b.accounts b'.accounts
  items : b.items <+: b'.items
  holdings : Grows Holding.Remains b.holdings b'.holdings
  ledger : b.ledger <+: b'.ledger

namespace Continues

theorem refl (b : Books) : b.Continues b where
  accounts := .refl .refl _
  items := List.prefix_refl _
  holdings := .refl .refl _
  ledger := List.prefix_refl _

theorem trans (h : b.Continues b') (h' : b'.Continues b'') : b.Continues b'' where
  accounts := h.accounts.trans Account.Remains.trans h'.accounts
  items := h.items.trans h'.items
  holdings := h.holdings.trans Holding.Remains.trans h'.holdings
  ledger := h.ledger.trans h'.ledger

theorem addCoins (id : AccountId) (x : Int) : b.Continues (b.addCoins id x) where
  accounts := .map (fun a => by split <;> exact ⟨rfl, rfl, rfl, rfl⟩) _
  items := List.prefix_refl _
  holdings := .refl .refl _
  ledger := List.prefix_refl _

theorem withAccount (a : Account) : b.Continues (b.withAccount a) where
  accounts := .append .refl _ _
  items := List.prefix_refl _
  holdings := .refl .refl _
  ledger := List.prefix_refl _

theorem withItem (i : Item) : b.Continues (b.withItem i) where
  accounts := .refl .refl _
  items := List.prefix_append _ _
  holdings := .refl .refl _
  ledger := List.prefix_refl _

theorem withEntry (x : Entry) : b.Continues (b.withEntry x) where
  accounts := .refl .refl _
  items := List.prefix_refl _
  holdings := .refl .refl _
  ledger := List.prefix_append _ _

theorem gain (account : AccountId) (item : ItemId) (now : Instant) :
    b.Continues (b.gain account item now) := by
  refine ⟨?_, ?_, ?_, ?_⟩
  · rw [gain_accounts]
    exact .refl .refl _
  · exact ⟨[], by rw [List.append_nil, gain_items]⟩
  · unfold Books.gain
    split
    · refine .map (fun h => ?_) _
      split
      · exact ⟨rfl, rfl, rfl, rfl, by show h.quantity ≤ h.quantity + 1; omega⟩
      · exact .refl h
    · exact .append .refl _ _
  · exact ⟨[], by rw [List.append_nil, gain_ledger]⟩

/-- An account keeps its number. -/
theorem account? (h : b.Continues b') {id : AccountId} {a : Account}
    (ha : b.account? id = some a) : ∃ a', b'.account? id = some a' ∧ a.Remains a' :=
  h.accounts.find? (fun _ _ remains => by rw [remains.id]) ha

/-- An account keeps its name. -/
theorem accountByName? (h : b.Continues b') {name : String} {a : Account}
    (ha : b.accountByName? name = some a) :
    ∃ a', b'.accountByName? name = some a' ∧ a.Remains a' :=
  h.accounts.find? (fun _ _ remains => by rw [remains.username]) ha

/-- An item stays on offer under its name. -/
theorem itemByName? (h : b.Continues b') {name : String} {i : Item}
    (hi : b.itemByName? name = some i) : b'.itemByName? name = some i :=
  h.items.find?_eq_some hi

end Continues

end Books

/-- Every command continues the books. -/
theorem Effect.continues {e : Engine} {b b' : Books} {c : Command} {o : Outcome}
    (he : Effect e b c o b') : b.Continues b' := by
  cases he with
  | look | signIn => exact .refl b
  | register | signUp => exact .withAccount _
  | addItem => exact .withItem _
  | @transfer _ _ amount _ sender recipient =>
    exact ((Books.Continues.addCoins sender.id (-amount)).trans
      (.addCoins recipient.id amount)).trans (.withEntry _)
  | @purchase _ _ _ buyer item _ _ acquired =>
    exact ((Books.Continues.addCoins buyer.id (-item.price)).trans
      (.gain buyer.id item.id acquired)).trans (.withEntry _)

open Troubled in
/-- Whatever clients command from the moment at which nothing was done, in any order and whatever
goes wrong, what is committed at one moment continues what was committed at any moment before: the
ledger begins as it was, accounts have the same numbers, names, passwords and times, items are the
same, and holdings are the same but of no less. At both moments the numbers of records of each kind
are those from one to how many there are, in the order in which they were made. -/
theorem records_permanent {ι : Type} [DecidableEq ι] {e : Engine}
    (hm : e.initialBalance ≤ maxCoins) {k : Backend} {now : Instant} {plan : ι → List Command}
    {before after : List (Happening ι)} {S S' : Troubled ι k.State (List (Except Error Outcome))}
    (run : Run k.keeper (carryingOut e k now plan) before S)
    (run' : Run k.keeper S after S') :
    ∃ b b', S.committed = k.hold (some Migration.noted) b ∧
      S'.committed = k.hold (some Migration.noted) b' ∧ b.Continues b' ∧
      (b.Numbered ∧ b.sequences = b.counts) ∧ b'.Numbered ∧ b'.sequences = b'.counts := by
  obtain ⟨b, stable, reached⟩ := run.becomes hm
  obtain ⟨b', stable', reached'⟩ := run'.stable stable
  have stocked : (k.stock now).Numbered := (k.reconciled_stock 0 now).solvent.numbered
  have numbered : b.Numbered :=
    Engine.Becomes.kept reached (fun _ _ _ _ h he => he.numbered h) stocked
  have numbered' : b'.Numbered :=
    Engine.Becomes.kept reached' (fun _ _ _ _ h he => he.numbered h) numbered
  have continues : b.Continues b' :=
    Engine.Becomes.kept reached' (fun _ _ _ _ h he => h.trans he.continues) (.refl b)
  exact ⟨b, b', stable.committed, stable'.committed, continues,
    ⟨numbered, numbered.sequences_eq⟩, numbered', numbered'.sequences_eq⟩

open Troubled in
/-- Two clients and a cup, before and after its purchase. -/
theorem records_permanent_cup :
    ({} : Engine).initialBalance ≤ maxCoins ∧ ∃ before S after S',
      Run Backend.memory.keeper (carryingOut {} .memory default cupPlan) before S ∧
      Run Backend.memory.keeper S after S' ∧ (S.committed : Books).ledger = [] ∧
      (∃ x, (S'.committed : Books).ledger = [x]) ∧
      ∃ b b', S.committed = Backend.memory.hold (some Migration.noted) b ∧
        S'.committed = Backend.memory.hold (some Migration.noted) b' ∧ b.Continues b' ∧
        (b.Numbered ∧ b.sequences = b.counts) ∧ b'.Numbered ∧ b'.sequences = b'.counts := by
  have hm : ({} : Engine).initialBalance ≤ maxCoins := by
    show defaultGrant ≤ maxCoins
    decide
  obtain ⟨before, S, after, S', x, run, run', blank, noted⟩ := exists_cupRun
  exact ⟨hm, before, S, after, S', run, run', blank, ⟨x, noted⟩, records_permanent hm run run'⟩

end Scrip
