import Mathlib.Algebra.BigOperators.Group.List.Basic
import Scrip.Proofs.Engine.Movement
import Scrip.Proofs.Ledger.Reconciled

/-!
# The order of movements

What transfers and purchases make of balances and holdings is a matter of their entries, and not of
the order in which they were made (`Books.Moved`); and the entry that a movement makes, if it makes
one, does not depend on what was moved before (`Books.drawn?`).

* `Course.moved`, `Course.drawn`: movements one after another;
* `verdict_move`: a movement of other accounts is no matter of a verdict;
* `movements_any_order`: movements in another order, and two that have no account in common.
-/

namespace Scrip

open Credential

/-- A movement that is asked for, with the deadline of its unit and what the clock shows
meanwhile. -/
structure Movement.Turn where
  movement : Movement
  deadline : Option Nat := none
  clock : Nat → Instant

/-- Movements that a store is alone with, one after another: how each ended, and the storage that
they leave. -/
def Backend.moveAll (e : Engine) (k : Backend) :
    List Movement.Turn → Storage k.State → List (Except Error Entry) × Storage k.State
  | [], s => ([], s)
  | t :: ts, s =>
    let moved := (t.movement.exchange e t.deadline).run (Storage.clocked k.keeper t.clock) (s, 0)
    let rest := moveAll e k ts moved.2.1
    (moved.1 :: rest.1, rest.2)

/-- The balance of every account is the same, and how many of each item it holds. -/
structure Books.Even (b b' : Books) : Prop where
  accounts : b.accounts = b'.accounts
  quantities : ∀ account item, b.quantities account item = b'.quantities account item

/-- The accounts that a movement is about. -/
def Books.involved (b : Books) : Movement → List AccountId
  | .transfer id name _ =>
    id :: ((b.accountByName? (canonicalUsername name)).map (·.id)).toList
  | .purchase id _ => [id]

/-- The entry is that of a purchase of the item by the account. -/
def NewEntry.Gains (new : NewEntry) (account : AccountId) (item : ItemId) : Prop :=
  new.item = some item ∧ new.source = account

instance (new : NewEntry) (account : AccountId) (item : ItemId) :
    Decidable (new.Gains account item) :=
  inferInstanceAs (Decidable (_ ∧ _))

namespace Books

variable {b b' b'' : Books} {m : Movement} {ms : List Movement} {x : Entry} {xs : List Entry}
  {o : Except Error Entry} {os : List (Except Error Entry)}

/-! ## What one movement changes -/

theorem items_move (x : Entry) (acquired : Instant) : (b.move x acquired).items = b.items := by
  unfold move
  cases x.item with
  | none => rfl
  | some item => exact gain_items ..

theorem ledger_move (x : Entry) (acquired : Instant) :
    (b.move x acquired).ledger = b.ledger ++ [x] := by
  unfold move
  cases x.item with
  | none => rfl
  | some item => exact congrArg (· ++ [x]) (gain_ledger ..)

theorem quantities_move (x : Entry) (acquired : Instant) (account : AccountId) (item : ItemId) :
    (b.move x acquired).quantities account item =
      if x.bare.Gains account item then oneMore (b.quantities account item)
      else b.quantities account item := by
  cases hi : x.item with
  | none =>
    have nothing : ¬ x.bare.Gains account item := fun h => by cases hi.symm.trans h.1
    simp only [if_neg nothing, move, hi]
    rfl
  | some item' =>
    simp only [move, hi]
    by_cases same : account = x.source ∧ item = item'
    · obtain ⟨rfl, rfl⟩ := same
      rw [if_pos ⟨hi, rfl⟩]
      exact quantities_gain_self acquired
    · rw [if_neg fun h => same ⟨h.2.symm, Option.some.inj (h.1.symm.trans hi)⟩]
      exact quantities_gain_of_ne acquired same

theorem account?_move (x : Entry) (acquired : Instant) (id : AccountId) :
    (b.move x acquired).account? id =
      (b.account? id).map fun a => a.plus (x.bare.change a.id) := by
  rw [account?, accounts_move, List.find?_map]
  rfl

theorem accountByName?_move (x : Entry) (acquired : Instant) (name : String) :
    (b.move x acquired).accountByName? name =
      (b.accountByName? name).map fun a => a.plus (x.bare.change a.id) := by
  rw [accountByName?, accounts_move, List.find?_map]
  rfl

theorem itemByName?_move (x : Entry) (acquired : Instant) (name : String) :
    (b.move x acquired).itemByName? name = b.itemByName? name := by
  rw [itemByName?, items_move]
  rfl

/-! ## What movements change together -/

/-- The books after movements that some entries tell of. -/
structure Moved (b b' : Books) (xs : List Entry) : Prop where
  accounts : b'.accounts = b.accounts.map fun a =>
    a.plus ((xs.map Entry.bare).map (·.change a.id)).sum
  quantities : ∀ account item, b'.quantities account item =
    oneMore^[(xs.map Entry.bare).countP (·.Gains account item)] (b.quantities account item)
  ledger : b'.ledger = b.ledger ++ xs

theorem Moved.refl (b : Books) : b.Moved b [] := by
  refine ⟨?_, fun _ _ => rfl, (List.append_nil _).symm⟩
  simp only [List.map_nil, List.sum_nil, Account.plus_zero, List.map_id']

/-- One more movement at the beginning. -/
theorem Moved.cons {acquired : Instant} (h : (b.move x acquired).Moved b' xs) :
    b.Moved b' (x :: xs) := by
  refine ⟨?_, fun account item => ?_, ?_⟩
  · rw [h.accounts, accounts_move, List.map_map]
    refine List.map_congr_left fun a _ => ?_
    simp only [Function.comp_apply, Account.plus, List.map_cons, List.sum_cons, Int.add_assoc]
  · rw [h.quantities, quantities_move, List.map_cons, List.countP_cons,
      Function.iterate_add_apply]
    by_cases gains : x.bare.Gains account item
    · rw [if_pos gains, if_pos (by simpa using gains)]
      rfl
    · rw [if_neg gains, if_neg (by simpa using gains)]
      rfl
  · rw [h.ledger, ledger_move, List.append_assoc, List.singleton_append]

/-- What was moved is a matter of the entries, not of their order, numbers and times. -/
theorem Moved.perm {ys : List Entry} (h : b.Moved b' xs) (h' : b.Moved b'' ys)
    (perm : (xs.map Entry.bare).Perm (ys.map Entry.bare)) :
    b'.Even b'' := by
  refine ⟨?_, fun account item => ?_⟩
  · rw [h.accounts, h'.accounts]
    refine List.map_congr_left fun a _ => ?_
    rw [(perm.map _).sum_eq]
  · rw [h.quantities, h'.quantities, perm.countP_eq]

/-! ## Movements one after another -/

theorem made_ok (xs : List Entry) :
    (xs.map (Except.ok (ε := Error))).filterMap Except.toOption = xs := by
  rw [List.filterMap_map]
  exact List.filterMap_some

theorem bare_made (os : List (Except Error Entry)) :
    (os.filterMap Except.toOption).map Entry.bare =
      (os.map (Except.map Entry.bare)).filterMap Except.toOption := by
  rw [List.map_filterMap, List.filterMap_map]
  refine List.filterMap_congr fun o _ => ?_
  cases o <;> rfl

/-- Movements one after another, each decided by the books that the last one left. -/
inductive Course : Books → List Movement → List (Except Error Entry) → Books → Prop
  | done {b : Books} : Course b [] [] b
  | step {b b₁ b' : Books} {m : Movement} {ms : List Movement} {o : Except Error Entry}
      {os : List (Except Error Entry)} (first : b.Carries (b.verdict m) o b₁)
      (rest : Course b₁ ms os b') : Course b (m :: ms) (o :: os) b'

theorem Course.moved (h : b.Course ms os b') : b.Moved b' (os.filterMap Except.toOption) := by
  induction h with
  | done => exact .refl _
  | step first _ ih =>
    cases first with
    | refused => exact ih
    | made => exact ih.cons

/-- Two movements, the second of which is decided by what the first one left. -/
theorem Course.pair {m' : Movement} (h : b.Course [m, m'] os b') :
    ∃ o o' b₁, os = [o, o'] ∧ b.Carries (b.verdict m) o b₁ ∧
      b₁.Carries (b₁.verdict m') o' b' := by
  cases h with
  | step first rest =>
    cases rest with
    | step second rest =>
      cases rest with
      | done => exact ⟨_, _, _, rfl, first, second⟩

/-- The entry that a movement makes if it makes one. -/
def drawn? (b : Books) : Movement → Option NewEntry
  | .transfer id name amount =>
    (b.account? id).bind fun sender =>
      (b.accountByName? (canonicalUsername name)).map fun recipient =>
        .between amount (sender, recipient)
  | .purchase id name =>
    (b.account? id).bind fun buyer => (b.itemByName? name).map fun item => .ofSale (buyer, item)

theorem drawn?_of_permits {new : NewEntry} (h : b.Permits m new) : b.drawn? m = some new := by
  cases h with
  | transfer source destination => rw [drawn?, source, destination]; rfl
  | purchase source goods => rw [drawn?, source, goods]; rfl

theorem drawn?_move (x : Entry) (acquired : Instant) (m : Movement) :
    (b.move x acquired).drawn? m = b.drawn? m := by
  cases m with
  | transfer id name amount =>
    simp only [drawn?, account?_move, accountByName?_move]
    cases b.account? id with
    | none => rfl
    | some sender => cases b.accountByName? (canonicalUsername name) <;> rfl
  | purchase id name =>
    simp only [drawn?, account?_move, itemByName?_move]
    cases b.account? id <;> rfl

/-- When all movements are made, their entries are those that the first books draw up. -/
theorem Course.drawn (h : b.Course ms (xs.map .ok) b') :
    xs.map Entry.bare = ms.filterMap b.drawn? := by
  generalize hos : xs.map Except.ok = os at h
  induction h generalizing xs with
  | done =>
    rw [List.map_eq_nil_iff.mp hos]
    rfl
  | step first _ ih =>
    obtain ⟨x, xs, rfl, rfl, hxs⟩ := List.map_eq_cons_iff.mp hos
    cases first with
    | made now acquired ok =>
      have drawn := drawn?_of_permits (permits_of_verdict ok)
      rw [List.filterMap_cons_some drawn, List.map_cons, ih hxs, NewEntry.bare_toEntry,
        funext (drawn?_move _ acquired)]

/-! ## Movements of other accounts -/

theorem change_of_ne {new : NewEntry} {id : AccountId} (source : new.source ≠ id)
    (destination : new.destination ≠ id) : new.change id = 0 := by
  rw [NewEntry.change, if_neg source, Int.zero_add]
  cases new.item with
  | none => exact if_neg destination
  | some item => rfl

/-- A movement of other accounts is no matter of a verdict. -/
theorem verdict_move (acquired : Instant) (source : x.source ∉ b.involved m)
    (destination : x.destination ∉ b.involved m) :
    (b.move x acquired).verdict m = b.verdict m := by
  -- Accounts that the movement is about are as they were.
  have stays {found : Option Account} (known : ∀ a, found = some a → a.id ∈ b.involved m) :
      (found.map fun a => a.plus (x.bare.change a.id)) = found := by
    cases found with
    | none => rfl
    | some a =>
      have source : x.source ≠ a.id := fun h => source (h ▸ known a rfl)
      have destination : x.destination ≠ a.id := fun h => destination (h ▸ known a rfl)
      have untouched : x.bare.change a.id = 0 := change_of_ne source destination
      rw [Option.map_some, untouched, Account.plus_zero]
  cases m with
  | transfer id name amount =>
    have sender : (b.move x acquired).account? id = b.account? id := by
      rw [account?_move, stays fun a ha => ?_]
      rw [(account?_mem ha).2]
      exact List.mem_cons_self
    have recipient : (b.move x acquired).accountByName? (canonicalUsername name) =
        b.accountByName? (canonicalUsername name) := by
      rw [accountByName?_move, stays fun a ha => ?_]
      rw [involved, ha]
      exact List.mem_cons_of_mem _ List.mem_cons_self
    simp only [verdict, transferable, sender, recipient]
  | purchase id name =>
    have buyer : (b.move x acquired).account? id = b.account? id := by
      rw [account?_move, stays fun a ha => ?_]
      rw [(account?_mem ha).2]
      exact List.mem_cons_self
    simp only [verdict, purchasable, buyer, itemByName?_move]

/-- A movement is about the accounts of its entry. -/
theorem Permits.involved {new : NewEntry} (h : b.Permits m new) :
    new.source ∈ b.involved m ∧ new.destination ∈ b.involved m := by
  cases h with
  | transfer source destination =>
    rw [Books.involved, destination, NewEntry.between, (account?_mem source).2]
    exact ⟨List.mem_cons_self, List.mem_cons_of_mem _ List.mem_cons_self⟩
  | purchase source goods =>
    rw [Books.involved, NewEntry.ofSale, (account?_mem source).2]
    exact ⟨List.mem_cons_self, List.mem_cons_self⟩

theorem Carries.verdict_eq {m' : Movement} (h : b.Carries (b.verdict m) o b')
    (apart : (b.involved m).Disjoint (b.involved m')) : b'.verdict m' = b.verdict m' := by
  cases h with
  | refused => rfl
  | made now acquired ok =>
    obtain ⟨source, destination⟩ := (permits_of_verdict ok).involved
    exact verdict_move acquired (apart source) (apart destination)

/-- An outcome says what the verdict was. -/
theorem Carries.bare_eq {verdict : Except Error NewEntry} (h : b.Carries verdict o b') :
    o.map Entry.bare = verdict := by
  cases h with
  | refused refusal => exact refusal.symm
  | made now acquired ok => exact ok.symm

end Books

namespace Backend

variable {e : Engine} {k : Backend} {applied : Option (Table String)} {b : Books}

/-- Movements that a store is alone with, one after another. -/
theorem Rests.course (e : Engine) (ts : List Movement.Turn) {s : Storage k.State}
    (h : Rests applied k s b) :
    ∃ b', Rests applied k (k.moveAll e ts s).2 b' ∧
      b.Course (ts.map (·.movement)) (k.moveAll e ts s).1 b' := by
  induction ts generalizing s b with
  | nil => exact ⟨b, h, .done⟩
  | cons t ts ih =>
    obtain ⟨b₁, h₁, first⟩ := Rests.exchange e t.deadline t.movement t.clock (t := (s, 0)) h
    obtain ⟨b', h', rest⟩ := ih h₁
    exact ⟨b', h', .step first rest⟩

end Backend

open Books in
/-- Whatever the state of a store, movements in two orders that are all made both times leave the
same balances and holdings, and entries that differ in their order, numbers and times only. Two
movements that have no account in common end alike in either order, refused for the same reason or
made with the same entry but for its number and time, and leave the same balances and holdings. -/
theorem movements_any_order (e : Engine) {k : Backend} (applied : Option (Table String))
    {b : Books} (admits : k.Admits b) (now : Instant) :
    let start : Storage k.State := { committed := k.hold applied b, now }
    (∀ (ts ts' : List Movement.Turn) (xs ys : List Entry),
      (ts.map (·.movement)).Perm (ts'.map (·.movement)) →
      (k.moveAll e ts start).1 = xs.map .ok → (k.moveAll e ts' start).1 = ys.map .ok →
      (xs.map Entry.bare).Perm (ys.map Entry.bare) ∧
        ∃ b' b'', (k.moveAll e ts start).2.committed = k.hold applied b' ∧
          (k.moveAll e ts' start).2.committed = k.hold applied b'' ∧
          b'.ledger = b.ledger ++ xs ∧ b''.ledger = b.ledger ++ ys ∧ b'.Even b'') ∧
    ∀ t t' : Movement.Turn, (b.involved t.movement).Disjoint (b.involved t'.movement) →
      ∃ o o' p p' b' b'', (k.moveAll e [t, t'] start).1 = [o, o'] ∧
        (k.moveAll e [t', t] start).1 = [p', p] ∧
        o.map Entry.bare = p.map Entry.bare ∧ o'.map Entry.bare = p'.map Entry.bare ∧
        (k.moveAll e [t, t'] start).2.committed = k.hold applied b' ∧
        (k.moveAll e [t', t] start).2.committed = k.hold applied b'' ∧ b'.Even b'' := by
  intro start
  have rests : Backend.Rests applied k start b := .start admits now
  constructor
  · intro ts ts' xs ys perm all all'
    obtain ⟨b', rests', course⟩ := rests.course e ts
    obtain ⟨b'', rests'', course'⟩ := rests.course e ts'
    rw [all] at course
    rw [all'] at course'
    have bare : (xs.map Entry.bare).Perm (ys.map Entry.bare) := by
      rw [course.drawn, course'.drawn]
      exact perm.filterMap _
    have moved := course.moved
    have moved' := course'.moved
    rw [made_ok] at moved moved'
    exact ⟨bare, b', b'', rests'.committed, rests''.committed, moved.ledger, moved'.ledger,
      moved.perm moved' bare⟩
  · intro t t' apart
    obtain ⟨b', rests', course⟩ := rests.course e [t, t']
    obtain ⟨b'', rests'', course'⟩ := rests.course e [t', t]
    obtain ⟨o, o', b₁, hos, first, second⟩ := course.pair
    obtain ⟨p', p, b₂, hps, first', second'⟩ := course'.pair
    have same : o.map Entry.bare = p.map Entry.bare := by
      rw [first.bare_eq, second'.bare_eq, first'.verdict_eq apart.symm]
    have same' : o'.map Entry.bare = p'.map Entry.bare := by
      rw [second.bare_eq, first'.bare_eq, first.verdict_eq apart]
    have moved := course.moved
    have moved' := course'.moved
    rw [hos] at moved
    rw [hps] at moved'
    refine ⟨o, o', p, p', b', b'', hos, hps, same, same', rests'.committed, rests''.committed,
      moved.perm moved' ?_⟩
    rw [bare_made, bare_made, List.map_cons, List.map_singleton, List.map_cons,
      List.map_singleton, same, same']
    exact (List.Perm.swap _ _ _).filterMap _

/-- Three accounts and a cup that each of them may come to afford. -/
def cupMarket : Books :=
  { accounts := [⟨1, "ann", "", 40, default⟩, ⟨2, "bob", "", 20, default⟩,
      ⟨3, "cy", "", 30, default⟩]
    items := [⟨1, "cup", 20, default⟩]
    sequences := { account := 3, item := 1 } }

/-- A gift and a purchase that have no account in common. -/
def giftAndCup : Movement.Turn × Movement.Turn :=
  (⟨.transfer 1 "bob" 40, none, fun _ => default⟩, ⟨.purchase 3 "cup", none, fun _ => default⟩)

/-- Both are made in either order, and it makes no difference. -/
theorem movements_any_order_cup :
    let start : Storage Backend.memory.State :=
      { committed := Backend.memory.hold none cupMarket, now := default }
    let moved := Backend.memory.moveAll {} [giftAndCup.1, giftAndCup.2] start
    let moved' := Backend.memory.moveAll {} [giftAndCup.2, giftAndCup.1] start
    let xs : List Entry := [⟨1, 1, 2, 40, .transfer, none, default⟩,
      ⟨2, 3, 3, 20, .purchase, some 1, default⟩]
    let ys : List Entry := [⟨1, 3, 3, 20, .purchase, some 1, default⟩,
      ⟨2, 1, 2, 40, .transfer, none, default⟩]
    Backend.memory.Admits cupMarket ∧ moved.1 = xs.map .ok ∧ moved'.1 = ys.map .ok ∧
      (cupMarket.involved giftAndCup.1.movement).Disjoint
        (cupMarket.involved giftAndCup.2.movement) ∧
      ((xs.map Entry.bare).Perm (ys.map Entry.bare) ∧
        ∃ b' b'', moved.2.committed = Backend.memory.hold none b' ∧
          moved'.2.committed = Backend.memory.hold none b'' ∧
          b'.ledger = cupMarket.ledger ++ xs ∧ b''.ledger = cupMarket.ledger ++ ys ∧
          b'.Even b'') ∧
      ∃ o o' p p' b' b'', moved.1 = [o, o'] ∧ moved'.1 = [p', p] ∧
        o.map Entry.bare = p.map Entry.bare ∧ o'.map Entry.bare = p'.map Entry.bare ∧
        moved.2.committed = Backend.memory.hold none b' ∧
        moved'.2.committed = Backend.memory.hold none b'' ∧ b'.Even b'' := by
  intro start moved moved' xs ys
  have bounded : ∀ a ∈ cupMarket.accounts, -maxCoins - 1 ≤ a.coins ∧ a.coins ≤ maxCoins := by
    decide
  have admits : Backend.memory.Admits cupMarket := ⟨by decide, bounded⟩
  have made : moved.1 = xs.map .ok := by decide +kernel
  have made' : moved'.1 = ys.map .ok := by decide +kernel
  have apart : (cupMarket.involved giftAndCup.1.movement).Disjoint
      (cupMarket.involved giftAndCup.2.movement) :=
    List.disjoint_left.mpr (by decide +kernel)
  obtain ⟨permuted, pairwise⟩ := movements_any_order {} none (k := .memory) admits default
  obtain ⟨bare, b', b'', committed, committed', ledger, ledger', even⟩ :=
    permuted [giftAndCup.1, giftAndCup.2] [giftAndCup.2, giftAndCup.1] xs ys (.swap _ _ _)
      made made'
  obtain ⟨o, o', p, p', c', c'', first, second, same, same', left, left', even'⟩ :=
    pairwise giftAndCup.1 giftAndCup.2 apart
  refine ⟨admits, made, made', apart, ⟨bare, b', b'', ?_, ?_, ledger, ledger', even⟩, o, o', p, p',
    c', c'', ?_, ?_, same, same', ?_, ?_, even'⟩
  · rw [← committed]
  · rw [← committed']
  · rw [← first]
  · rw [← second]
  · rw [← left]
  · rw [← left']

end Scrip
