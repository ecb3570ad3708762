import Scrip.Proofs.Engine.Effect

/-!
# The numbers of records

Records of each kind are numbered from one, in the order in which they were made, and no
number is left out (`Books.Numbered`). No command changes that.
-/

namespace Scrip

/-- The numbers from one to `n`. -/
def idsTo (n : Nat) : List Int := (List.range n).map fun k : Nat => (k : Int) + 1

theorem idsTo_succ (n : Nat) : idsTo (n + 1) = idsTo n ++ [(n : Int) + 1] := by
  simp only [idsTo, List.range_succ, List.map_append, List.map_cons, List.map_nil]

theorem mem_idsTo {n : Nat} {x : Int} : x ∈ idsTo n ↔ 1 ≤ x ∧ x ≤ n := by
  simp only [idsTo, List.mem_map, List.mem_range]
  constructor
  · rintro ⟨k, hk, rfl⟩
    omega
  · intro h
    exact ⟨(x - 1).toNat, by omega, by omega⟩

theorem nodup_idsTo (n : Nat) : (idsTo n).Nodup :=
  List.Nodup.map (fun _ _ h => by omega) List.nodup_range

theorem length_idsTo (n : Nat) : (idsTo n).length = n := by
  rw [idsTo, List.length_map, List.length_range]

namespace Books

/-- How many records there are of each kind. -/
def counts (b : Books) : Sequences :=
  ⟨b.accounts.length, b.items.length, b.holdings.length, b.ledger.length⟩

/-- Every record has the number of its place among the records of its kind. -/
structure Numbered (b : Books) : Prop where
  accounts : b.accounts.map (·.id) = idsTo b.sequences.account
  items : b.items.map (·.id) = idsTo b.sequences.item
  holdings : b.holdings.map (·.id) = idsTo b.sequences.holding
  ledger : b.ledger.map (·.id) = idsTo b.sequences.entry

namespace Numbered

variable {b : Books}

theorem keyed (h : b.Numbered) : b.Keyed := by
  rw [Keyed, h.accounts]
  exact nodup_idsTo _

/-- The number of an account is none that is still to be given. -/
theorem id_le (h : b.Numbered) {a : Account} (ha : a ∈ b.accounts) :
    a.id ≤ b.sequences.account := by
  have := List.mem_map_of_mem (f := (·.id)) ha
  rw [h.accounts, mem_idsTo] at this
  exact this.2

/-- The numbers given last are how many were given. -/
theorem sequences_eq (h : b.Numbered) : b.sequences = b.counts := by
  have length {α : Type} {xs : List α} {id : α → Int} {n : Nat} (hx : xs.map id = idsTo n) :
      n = xs.length := by
    rw [← length_idsTo n, ← hx, List.length_map]
  calc b.sequences
    _ = ⟨b.sequences.account, b.sequences.item, b.sequences.holding, b.sequences.entry⟩ := rfl
    _ = b.counts := by
      rw [length h.accounts, length h.items, length h.holdings, length h.ledger, counts]

theorem empty : Numbered {} :=
  ⟨rfl, rfl, rfl, rfl⟩

theorem addCoins (h : b.Numbered) (id : AccountId) (amount : Int) :
    (b.addCoins id amount).Numbered :=
  ⟨(ids_addCoins amount).trans h.accounts, h.items, h.holdings, h.ledger⟩

theorem withAccount (h : b.Numbered) {a : Account} (ha : a.id = b.sequences.account + 1) :
    (b.withAccount a).Numbered := by
  refine ⟨?_, h.items, h.holdings, h.ledger⟩
  simp only [Books.withAccount, List.map_append, List.map_cons, List.map_nil, h.accounts, ha]
  exact (idsTo_succ _).symm

theorem withItem (h : b.Numbered) {i : Item} (hi : i.id = b.sequences.item + 1) :
    (b.withItem i).Numbered := by
  refine ⟨h.accounts, ?_, h.holdings, h.ledger⟩
  simp only [Books.withItem, List.map_append, List.map_cons, List.map_nil, h.items, hi]
  exact (idsTo_succ _).symm

theorem withEntry (h : b.Numbered) {x : Entry} (hx : x.id = b.sequences.entry + 1) :
    (b.withEntry x).Numbered := by
  refine ⟨h.accounts, h.items, h.holdings, ?_⟩
  simp only [Books.withEntry, List.map_append, List.map_cons, List.map_nil, h.ledger, hx]
  exact (idsTo_succ _).symm

theorem gain (h : b.Numbered) (account : AccountId) (item : ItemId) (now : Instant) :
    (b.gain account item now).Numbered := by
  unfold Books.gain
  split
  · refine ⟨h.accounts, h.items, ?_, h.ledger⟩
    rw [← h.holdings, List.map_map]
    refine List.map_congr_left fun x _ => ?_
    simp only [Function.comp_apply]
    split <;> rfl
  · refine ⟨h.accounts, h.items, ?_, h.ledger⟩
    simp only [List.map_append, List.map_cons, List.map_nil, h.holdings]
    exact (idsTo_succ _).symm

end Numbered

end Books

/-- Every command keeps the numbering. -/
theorem Effect.numbered {e : Engine} {b b' : Books} {c : Command} {o : Outcome}
    (he : Effect e b c o b') (h : b.Numbered) : b'.Numbered := by
  cases he with
  | look | signIn => exact h
  | register | signUp => exact h.withAccount rfl
  | addItem => exact h.withItem rfl
  | transfer _ _ _ _ _ _ recorded =>
    exact ((h.addCoins _ _).addCoins _ _).withEntry (recorded ▸ rfl)
  | purchase acquired _ _ _ _ recorded =>
    refine ((h.addCoins _ _).gain _ _ acquired).withEntry ?_
    rw [Books.gain_lastEntry, recorded]
    rfl

end Scrip
