import Mathlib.Algebra.BigOperators.Group.List.Basic
import Mathlib.Algebra.Ring.Int.Defs
import Scrip.Proofs.Engine.Perform
import Scrip.Proofs.Ledger.Numbering

/-!
# Solvency

The balance of an account is what it was granted and received, less what it sent and
spent, as the ledger has it. No balance is negative or too large, and no coin is made
or lost but by a grant or a purchase (`Books.Solvent`). Every command keeps this, so it
holds of all that is ever committed (`balances_replay`).
-/

namespace Scrip

namespace Books

/-- The sum of the amounts of some entries. -/
def total (b : Books) (p : Entry → Prop) [DecidablePred p] : Int :=
  ((b.ledger.filter (p ·)).map (·.amount)).sum

/-- What an account received by transfers. -/
def received (b : Books) (id : AccountId) : Int :=
  b.total fun x => x.kind = .transfer ∧ x.destination = id

/-- What an account sent by transfers. -/
def sent (b : Books) (id : AccountId) : Int :=
  b.total fun x => x.kind = .transfer ∧ x.source = id

/-- What an account spent on purchases. -/
def spent (b : Books) (id : AccountId) : Int :=
  b.total fun x => x.kind = .purchase ∧ x.source = id

/-- What was spent on purchases by anybody. -/
def spentByAll (b : Books) : Int :=
  b.total fun x => x.kind = .purchase

/-- The sum of all balances. -/
def balances (b : Books) : Int :=
  (b.accounts.map (·.coins)).sum

/-- Balances agree with the ledger, are within bounds, and sum up to what was granted and
not spent. -/
structure Solvent (grant : Int) (b : Books) : Prop where
  numbered : b.Numbered
  /-- The ledger names no account that is still to be made. -/
  parties : ∀ x ∈ b.ledger, x.source ≤ b.sequences.account ∧ x.destination ≤ b.sequences.account
  replays : ∀ a ∈ b.accounts, a.coins = grant + b.received a.id - b.sent a.id - b.spent a.id
  bounded : ∀ a ∈ b.accounts, 0 ≤ a.coins ∧ a.coins ≤ maxCoins
  conserved : b.balances + b.spentByAll = b.accounts.length * grant

/-! ## Sums over a ledger -/

section Total

variable {b : Books} {p : Entry → Prop} [DecidablePred p]

/-- One more entry counts with its amount, if it counts at all. -/
theorem total_withEntry (x : Entry) :
    (b.withEntry x).total p = b.total p + if p x then x.amount else 0 := by
  simp only [total, withEntry, List.filter_append, List.map_append, List.sum_append]
  congr 1
  by_cases h : p x
  · simp only [List.filter_cons, h, decide_true, if_true, List.filter_nil, List.map_cons,
      List.map_nil, List.sum_singleton]
  · simp only [List.filter_cons, h, decide_false, Bool.false_eq_true, if_false, List.filter_nil,
      List.map_nil, List.sum_nil]

theorem total_eq_zero (h : ∀ x ∈ b.ledger, ¬ p x) : b.total p = 0 := by
  rw [total, List.filter_eq_nil_iff.mpr (by simpa using h)]
  rfl

@[simp] theorem total_addCoins (id : AccountId) (amount : Int) :
    (b.addCoins id amount).total p = b.total p :=
  rfl

theorem total_congr {b' : Books} (h : b'.ledger = b.ledger) : b'.total p = b.total p := by
  rw [total, total, h]

end Total

/-! ## Sums over accounts -/

variable {b : Books} {id : AccountId} {x : Int}

/-- An account after a change of one balance is an account from before, with the amount added if
it is the one. -/
theorem mem_addCoins {a' : Account} (h : a' ∈ (b.addCoins id x).accounts) :
    ∃ a ∈ b.accounts, a'.id = a.id ∧ a'.coins = a.coins + if id = a.id then x else 0 := by
  obtain ⟨a, ha, rfl⟩ := List.mem_map.mp h
  refine ⟨a, ha, ?_⟩
  by_cases he : a.id = id
  · rw [if_pos he, if_pos he.symm]
    exact ⟨rfl, rfl⟩
  · rw [if_neg he, if_neg (Ne.symm he)]
    exact ⟨rfl, (Int.add_zero _).symm⟩

/-- An account whose balance is not the one that changes. -/
theorem mem_addCoins_of_ne {a : Account} (ha : a ∈ b.accounts) (hne : a.id ≠ id) :
    a ∈ (b.addCoins id x).accounts :=
  List.mem_map.mpr ⟨a, ha, if_neg hne⟩

/-- A change of one balance keeps all balances within bounds, if it keeps that one. -/
theorem bounded_addCoins (hk : b.Keyed) (hb : ∀ a ∈ b.accounts, 0 ≤ a.coins ∧ a.coins ≤ maxCoins)
    {a : Account} (ha : a ∈ b.accounts) (h0 : 0 ≤ a.coins + x) (hm : a.coins + x ≤ maxCoins) :
    ∀ a' ∈ (b.addCoins a.id x).accounts, 0 ≤ a'.coins ∧ a'.coins ≤ maxCoins := by
  intro a' ha'
  obtain ⟨a₁, ha₁, -, hc⟩ := mem_addCoins ha'
  rw [hc]
  by_cases he : a.id = a₁.id
  · cases hk.eq_of_mem ha ha₁ he
    rw [if_pos rfl]
    exact ⟨h0, hm⟩
  · rw [if_neg he, Int.add_zero]
    exact hb a₁ ha₁

/-- A change of one balance changes the sum as much. -/
theorem balances_addCoins (hk : b.Keyed) (hm : id ∈ b.accounts.map (·.id)) :
    (b.addCoins id x).balances = b.balances + x := by
  obtain ⟨a, hm, hid⟩ := List.mem_map.mp hm
  simp only [balances, addCoins, List.map_map]
  -- The accounts before and after the one with the number keep their balances.
  obtain ⟨as, bs, hab⟩ := List.append_of_mem hm
  rw [Keyed, hab, List.map_append, List.map_cons, List.nodup_middle, List.nodup_cons,
    List.mem_append, not_or, hid] at hk
  have others (cs : List Account) (hc : id ∉ cs.map (·.id)) :
      cs.map ((·.coins) ∘ fun a => if a.id = id then { a with coins := a.coins + x } else a) =
        cs.map (·.coins) := by
    refine List.map_congr_left fun c h => ?_
    have hne : c.id ≠ id := fun he => hc (he ▸ List.mem_map_of_mem h)
    simp only [Function.comp_apply, if_neg hne]
  rw [hab, List.map_append, List.map_append, List.map_cons, List.map_cons, others as hk.1.1,
    others bs hk.1.2, List.sum_append, List.sum_append, List.sum_cons, List.sum_cons]
  simp only [Function.comp_apply, if_pos hid]
  omega

@[simp] theorem length_addCoins : (b.addCoins id x).accounts.length = b.accounts.length :=
  List.length_map _

theorem balances_withAccount (a : Account) :
    (b.withAccount a).balances = b.balances + a.coins := by
  simp only [balances, withAccount, List.map_append, List.map_cons, List.map_nil, List.sum_append,
    List.sum_singleton]

@[simp] theorem balances_withEntry (x : Entry) : (b.withEntry x).balances = b.balances :=
  rfl

theorem balances_congr {b' : Books} (h : b'.accounts = b.accounts) : b'.balances = b.balances := by
  rw [balances, balances, h]

/-! ## Every effect keeps solvency -/

namespace Solvent

variable {grant : Int}

theorem empty : Solvent grant {} :=
  ⟨Numbered.empty, by simp, by simp, by simp, by simp [balances, spentByAll, total]⟩

/-- Books with the same accounts and the same ledger. -/
theorem congr {b' : Books} (h : b.Solvent grant) (hn : b'.Numbered)
    (ha : b'.accounts = b.accounts) (hl : b'.ledger = b.ledger)
    (hs : b'.sequences.account = b.sequences.account) : b'.Solvent grant := by
  refine ⟨hn, ?_, ?_, ?_, ?_⟩
  · rw [hl, hs]
    exact h.parties
  · simp only [received, sent, spent, total_congr hl, ha]
    exact h.replays
  · rw [ha]
    exact h.bounded
  · rw [balances_congr ha, spentByAll, total_congr hl, ha]
    exact h.conserved

/-- A number given already is not the next one, and stays given. -/
theorem given {n : Nat} {i : Int} (h : i ≤ n) : i ≠ n + 1 ∧ i ≤ (n + 1 : Nat) := by
  omega

/-- An entry between accounts that are there. -/
theorem parties_withEntry (h : b.Solvent grant) {x : Entry} {sender recipient : Account}
    (hs : x.source = sender.id) (hd : x.destination = recipient.id)
    (sender_mem : sender ∈ b.accounts) (recipient_mem : recipient ∈ b.accounts) :
    ∀ x' ∈ b.ledger ++ [x], x'.source ≤ b.sequences.account ∧
      x'.destination ≤ b.sequences.account := by
  intro x' hx'
  rcases List.mem_append.mp hx' with hx' | hx'
  · exact h.parties x' hx'
  · obtain rfl := List.mem_singleton.mp hx'
    rw [hs, hd]
    exact ⟨h.numbered.id_le sender_mem, h.numbered.id_le recipient_mem⟩

/-- A new account begins with its grant and without entries. -/
theorem withAccount (h : b.Solvent grant) {a : Account} (hid : a.id = b.sequences.account + 1)
    (hc : a.coins = grant) (h0 : 0 ≤ grant) (hm : grant ≤ maxCoins) :
    (b.withAccount a).Solvent grant := by
  have unnamed (party : Entry → AccountId) (kind : EntryKind)
      (hp : ∀ x ∈ b.ledger, party x ≤ b.sequences.account) :
      (b.withAccount a).total (fun x => x.kind = kind ∧ party x = a.id) = 0 :=
    total_eq_zero fun x hx ⟨_, he⟩ => (given (hp x hx)).1 (he.trans hid)
  refine ⟨h.numbered.withAccount hid, fun x hx => ?_, fun a' ha' => ?_, fun a' ha' => ?_, ?_⟩
  · obtain ⟨hs, hd⟩ := h.parties x hx
    exact ⟨(given hs).2, (given hd).2⟩
  · rcases List.mem_append.mp ha' with ha' | ha'
    · exact h.replays a' ha'
    · obtain rfl := List.mem_singleton.mp ha'
      rw [received, sent, spent, unnamed (·.destination) _ fun x hx => (h.parties x hx).2,
        unnamed (·.source) _ fun x hx => (h.parties x hx).1,
        unnamed (·.source) _ fun x hx => (h.parties x hx).1]
      omega
  · rcases List.mem_append.mp ha' with ha' | ha'
    · exact h.bounded a' ha'
    · obtain rfl := List.mem_singleton.mp ha'
      omega
  · have hs : (b.withAccount a).spentByAll = b.spentByAll := total_congr rfl
    have hl : (b.withAccount a).accounts.length = b.accounts.length + 1 := List.length_append
    have := h.conserved
    rw [balances_withAccount, hs, hl, Int.natCast_add, Int.add_mul]
    omega

/-- Coins that go from one account to another are received and sent. -/
theorem transfer (h : b.Solvent grant) {sender recipient : Account} {x : Entry}
    (source : b.account? sender.id = some sender)
    (destination : b.account? recipient.id = some recipient)
    (apart : sender.id ≠ recipient.id) (positive : 0 < x.amount)
    (covered : x.amount ≤ sender.coins) (fits : recipient.coins + x.amount ≤ maxCoins)
    (hid : x.id = b.sequences.entry + 1) (hk : x.kind = .transfer) (hs : x.source = sender.id)
    (hd : x.destination = recipient.id) :
    (((b.addCoins sender.id (-x.amount)).addCoins recipient.id x.amount).withEntry x).Solvent
      grant := by
  have keyed := h.numbered.keyed
  obtain ⟨sender_mem, -⟩ := account?_mem source
  obtain ⟨recipient_mem, -⟩ := account?_mem destination
  refine ⟨((h.numbered.addCoins _ _).addCoins _ _).withEntry hid,
    h.parties_withEntry hs hd sender_mem recipient_mem, fun a' ha' => ?_, ?_, ?_⟩
  · obtain ⟨a₁, ha₁, hid₁, hc₁⟩ := mem_addCoins ha'
    obtain ⟨a, ha, hid, hc⟩ := mem_addCoins ha₁
    have replayed := h.replays a ha
    simp only [received, sent, spent] at replayed
    simp only [received, sent, spent, total_withEntry, total_addCoins, hk, hs, hd, true_and,
      reduceCtorEq, false_and, if_false, hc₁, hc, hid₁, hid]
    split <;> split <;> omega
  · -- The sender is left with no less than nothing, and the recipient has room.
    have sender_bounds := h.bounded sender sender_mem
    have recipient_bounds := h.bounded recipient recipient_mem
    have debited := bounded_addCoins keyed h.bounded sender_mem (x := -x.amount) (by omega)
      (by omega)
    exact bounded_addCoins (keyed.addCoins _) debited (mem_addCoins_of_ne recipient_mem apart.symm)
      (by omega) fits
  · have spent : ((((b.addCoins sender.id (-x.amount)).addCoins recipient.id x.amount).withEntry
        x).spentByAll) = b.spentByAll := by
      simp only [spentByAll, total_withEntry, total_addCoins, hk, reduceCtorEq, if_false,
        Int.add_zero]
    have conserved := h.conserved
    rw [spent, balances_withEntry, balances_addCoins (keyed.addCoins _)
      (by rw [ids_addCoins]; exact List.mem_map_of_mem recipient_mem),
      balances_addCoins keyed (List.mem_map_of_mem sender_mem)]
    simp only [Books.withEntry, length_addCoins]
    omega

/-- Coins that are spent are gone, but for the entry. -/
theorem spend (h : b.Solvent grant) {buyer : Account} {x : Entry}
    (source : b.account? buyer.id = some buyer) (positive : 0 < x.amount)
    (covered : x.amount ≤ buyer.coins) (hid : x.id = b.sequences.entry + 1)
    (hk : x.kind = .purchase) (hs : x.source = buyer.id) (hd : x.destination = buyer.id) :
    ((b.addCoins buyer.id (-x.amount)).withEntry x).Solvent grant := by
  have keyed := h.numbered.keyed
  obtain ⟨buyer_mem, -⟩ := account?_mem source
  refine ⟨(h.numbered.addCoins _ _).withEntry hid,
    h.parties_withEntry hs hd buyer_mem buyer_mem, fun a' ha' => ?_, ?_, ?_⟩
  · obtain ⟨a, ha, hid, hc⟩ := mem_addCoins ha'
    have replayed := h.replays a ha
    simp only [received, sent, spent] at replayed
    simp only [received, sent, spent, total_withEntry, total_addCoins, hk, hs, true_and,
      reduceCtorEq, false_and, if_false, hc, hid]
    split <;> omega
  · have bounds := h.bounded buyer buyer_mem
    exact bounded_addCoins keyed h.bounded buyer_mem (by omega) (by omega)
  · have spent : ((b.addCoins buyer.id (-x.amount)).withEntry x).spentByAll =
        b.spentByAll + x.amount := by
      simp only [spentByAll, total_withEntry, total_addCoins, hk, if_true]
    have conserved := h.conserved
    rw [spent, balances_withEntry, balances_addCoins keyed (List.mem_map_of_mem buyer_mem)]
    simp only [Books.withEntry, length_addCoins]
    omega

end Solvent

end Books

/-- Every command keeps solvency. -/
theorem Effect.solvent {e : Engine} {b b' : Books} {c : Command} {o : Outcome}
    (he : Effect e b c o b') (hm : e.initialBalance ≤ maxCoins)
    (h : b.Solvent e.initialBalance) : b'.Solvent e.initialBalance := by
  cases he with
  | look | signIn => exact h
  | register _ accepted | signUp _ accepted =>
    exact h.withAccount rfl (Engine.newAccount?_eq_ok accepted).2.2.2 e.initialBalance_nonneg hm
  | addItem => exact h.congr (h.numbered.withItem rfl) rfl rfl rfl
  | transfer source destination apart positive covered fits recorded =>
    have keyed := h.numbered.keyed
    subst recorded
    exact h.transfer (x := ⟨_, _, _, _, _, _, _⟩) (keyed.account?_eq (Books.account?_mem source).1)
      (keyed.account?_eq (Books.accountByName?_mem destination).1) apart positive covered fits
      rfl rfl rfl rfl
  | @purchase _ _ _ buyer item entry now acquired source goods positive covered recorded =>
    have keyed := h.numbered.keyed
    obtain ⟨buyer_mem, -⟩ := Books.account?_mem source
    have spent := h.spend (x := entry) (keyed.account?_eq buyer_mem) (recorded ▸ positive)
      (recorded ▸ covered) (recorded ▸ rfl) (recorded ▸ rfl) (recorded ▸ rfl) (recorded ▸ rfl)
    subst recorded
    refine spent.congr ?_ (Books.gain_accounts ..) (congrArg (· ++ _) (Books.gain_ledger ..))
      (Books.gain_lastAccount ..)
    exact ((h.numbered.addCoins _ _).gain _ _ _).withEntry (by rw [Books.gain_lastEntry]; rfl)

/-- All that is committed on the way of commands carried out one after another, from empty
books on: every balance is what the account was granted and received, less what it sent and
spent, and is within bounds; and all balances with all that was spent make up all grants. -/
theorem balances_replay (e : Engine) (hm : e.initialBalance ≤ maxCoins) (cs : List Command)
    (now : Instant) :
    ∀ s ∈ (cs.mapM e.perform).visits (Storage.party Books.answer) { committed := {}, now },
      (∀ a ∈ s.committed.accounts,
        a.coins = e.initialBalance + s.committed.received a.id - s.committed.sent a.id -
          s.committed.spent a.id ∧
        0 ≤ a.coins ∧ a.coins ≤ maxCoins) ∧
      s.committed.balances + s.committed.spentByAll =
        s.committed.accounts.length * e.initialBalance := by
  intro s hs
  have h : s.committed.Solvent e.initialBalance :=
    (Engine.performAll_ok (I := Books.Solvent e.initialBalance) (fun b h => h.numbered.keyed)
      (fun b c o b' h he => he.solvent hm h) cs Books.Solvent.empty).visits (v := id)
      (fun c s => Storage.party_replies c s) s hs
  exact ⟨fun a ha => ⟨h.replays a ha, h.bounded a ha⟩, h.conserved⟩

/-- An account with the default grant that buys a cup and pays itself. -/
theorem balances_replay_default :
    let e : Engine := {}
    let cs : List Command :=
      [.register "ann" "secret" (.replicate 7), .addItem "cup" 20, .purchase 1 "cup" none,
        .transfer 1 "ann" 5 none]
    e.initialBalance ≤ maxCoins ∧
      ∀ s ∈ (cs.mapM e.perform).visits (Storage.party Books.answer)
          { committed := {}, now := default },
        (∀ a ∈ s.committed.accounts,
          a.coins = e.initialBalance + s.committed.received a.id - s.committed.sent a.id -
            s.committed.spent a.id ∧
          0 ≤ a.coins ∧ a.coins ≤ maxCoins) ∧
        s.committed.balances + s.committed.spentByAll =
          s.committed.accounts.length * e.initialBalance := by
  intro e cs
  have hm : e.initialBalance ≤ maxCoins := show defaultGrant ≤ maxCoins by decide
  exact ⟨hm, balances_replay e hm cs default⟩

end Scrip
