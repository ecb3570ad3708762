import Scrip.Proofs.Engine.Keeps

/-!
# Nothing fails by itself

Counters and quantities only grow (`Books.Below`), and by no more than one with each command
(`Effect.within`). So commands, one after another, never count above their number, beyond the items
that were on offer from the start; and as every request of a command is within the constraints of
the tables, none of them fails (`perform_infallible`).
-/

namespace Scrip

namespace Books

variable {b b' b'' : Books} {offered n m : Nat}

/-- No counter and no quantity is lower afterwards. -/
structure Below (b b' : Books) : Prop where
  accounts : b.sequences.account ≤ b'.sequences.account
  items : b.sequences.item ≤ b'.sequences.item
  holdings : b.sequences.holding ≤ b'.sequences.holding
  entries : b.sequences.entry ≤ b'.sequences.entry
  quantities : ∀ h ∈ b.holdings, ∃ h' ∈ b'.holdings, h.quantity ≤ h'.quantity

namespace Below

theorem refl (b : Books) : b.Below b :=
  ⟨le_rfl, le_rfl, le_rfl, le_rfl, fun h hh => ⟨h, hh, le_rfl⟩⟩

theorem trans (h : b.Below b') (h' : b'.Below b'') : b.Below b'' := by
  refine ⟨h.accounts.trans h'.accounts, h.items.trans h'.items, h.holdings.trans h'.holdings,
    h.entries.trans h'.entries, fun x hx => ?_⟩
  obtain ⟨y, hy, hxy⟩ := h.quantities x hx
  obtain ⟨z, hz, hyz⟩ := h'.quantities y hy
  exact ⟨z, hz, hxy.trans hyz⟩

theorem addCoins (id : AccountId) (x : Int) : b.Below (b.addCoins id x) :=
  ⟨le_rfl, le_rfl, le_rfl, le_rfl, (refl b).quantities⟩

theorem setCoins (id : AccountId) (x : Int) : b.Below (b.setCoins id x) :=
  ⟨le_rfl, le_rfl, le_rfl, le_rfl, (refl b).quantities⟩

theorem withAccount (a : Account) : b.Below (b.withAccount a) :=
  ⟨Nat.le_succ _, le_rfl, le_rfl, le_rfl, (refl b).quantities⟩

theorem withItem (i : Item) : b.Below (b.withItem i) :=
  ⟨le_rfl, Nat.le_succ _, le_rfl, le_rfl, (refl b).quantities⟩

theorem withEntry (x : Entry) : b.Below (b.withEntry x) :=
  ⟨le_rfl, le_rfl, le_rfl, Nat.le_succ _, (refl b).quantities⟩

theorem gain (account : AccountId) (item : ItemId) (now : Instant) :
    b.Below (b.gain account item now) := by
  unfold Books.gain
  split
  · refine ⟨le_rfl, le_rfl, le_rfl, le_rfl, fun x hx => ⟨_, List.mem_map_of_mem hx, ?_⟩⟩
    split
    · exact (Int.lt_succ _).le
    · exact le_rfl
  · exact ⟨le_rfl, le_rfl, Nat.le_succ _, le_rfl, fun x hx =>
      ⟨x, List.mem_append_left _ hx, le_rfl⟩⟩

/-- A change that is made or not. -/
theorem changed {x : Option Books} {done : Bool} (hx : ∀ c, x = some c → b.Below c)
    (hc : b.changed x = (done, b')) : b.Below b' := by
  cases x with
  | none =>
    cases hc
    exact refl b
  | some c =>
    cases hc
    exact hx _ rfl

/-- No request lowers a counter or a quantity. -/
theorem answer {r : Request} {a : r.Answer} {now : Instant}
    (ha : b.answer now r = .ok (a, b')) : b.Below b' := by
  cases r with
  | account | accountByName | lockAccount | item | itemByName | items | holding | holdings
  | entriesFor =>
    cases ha
    exact refl b
  | insertAccount new =>
    simp only [Books.answer] at ha
    split at ha <;> cases ha
    exact withAccount _
  | insertItem new =>
    simp only [Books.answer] at ha
    split at ha <;> cases ha
    exact withItem _
  | append new =>
    cases ha
    exact withEntry _
  | debit id amount =>
    refine changed (fun c hd => ?_) (Except.ok.inj ha)
    unfold debit at hd
    split at hd
    · split at hd <;> cases hd
      exact setCoins id _
    · cases hd
  | credit id amount =>
    simp only [Books.answer, credit] at ha
    split at ha
    · split at ha <;> cases ha
      exact setCoins id _
    · cases ha
      exact refl b
  | incrementHolding account item =>
    refine changed (fun c hd => ?_) (Except.ok.inj ha)
    rw [incrementHolding_eq_gain default hd]
    exact gain ..
  | insertHolding account item =>
    simp only [Books.answer] at ha
    split at ha
    · rename_i hx
      cases ha
      rw [addHolding_eq_gain hx]
      exact gain ..
    · cases ha
      exact refl b

end Below

/-- No counter and no quantity is above a number of commands, but for the items on offer from the
start. -/
structure Within (offered n : Nat) (b : Books) : Prop where
  accounts : b.sequences.account ≤ n
  items : b.sequences.item ≤ offered + n
  holdings : b.sequences.holding ≤ n
  entries : b.sequences.entry ≤ n
  quantities : ∀ h ∈ b.holdings, h.quantity ≤ n

/-- What so many commands may have made of books: balances, quantities and counters fit in 64 bits,
that of items as long as those on offer from the start leave room for so many more. -/
structure InRange (offered n : Nat) (b : Books) : Prop where
  within : b.Within offered n
  coins : ∀ a ∈ b.accounts, 0 ≤ a.coins ∧ a.coins ≤ maxCoins
  quantities : ∀ h ∈ b.holdings, h.quantity ≤ maxCoins
  accounts : b.sequences.account ≤ maxCoins
  items : (offered + n : Nat) ≤ maxCoins → b.sequences.item ≤ maxCoins
  holdings : b.sequences.holding ≤ maxCoins
  entries : b.sequences.entry ≤ maxCoins

namespace Within

theorem of_below (h : b'.Within offered n) (hb : b.Below b') : b.Within offered n := by
  refine ⟨hb.accounts.trans h.accounts, hb.items.trans h.items, hb.holdings.trans h.holdings,
    hb.entries.trans h.entries, fun x hx => ?_⟩
  obtain ⟨y, hy, hxy⟩ := hb.quantities x hx
  exact hxy.trans (h.quantities y hy)

theorem mono (h : b.Within offered n) (hn : n ≤ m) : b.Within offered m :=
  ⟨h.accounts.trans hn, h.items.trans (Nat.add_le_add_left hn _), h.holdings.trans hn,
    h.entries.trans hn, fun x hx => (h.quantities x hx).trans (Int.ofNat_le.mpr hn)⟩

theorem inRange (h : b.Within offered n) (hs : b.Storable) (hn : (n : Int) ≤ maxCoins) :
    b.InRange offered n where
  within := h
  coins := hs.bounded
  quantities x hx := (h.quantities x hx).trans hn
  accounts := (Int.ofNat_le.mpr h.accounts).trans hn
  items room := (Int.ofNat_le.mpr h.items).trans room
  holdings := (Int.ofNat_le.mpr h.holdings).trans hn
  entries := (Int.ofNat_le.mpr h.entries).trans hn

theorem addCoins (h : b.Within offered n) (id : AccountId) (x : Int) :
    (b.addCoins id x).Within offered n :=
  ⟨h.accounts, h.items, h.holdings, h.entries, h.quantities⟩

/-- A gain counts for no more than one. -/
theorem gain (h : b.Within offered n) (account : AccountId) (item : ItemId) (now : Instant) :
    (b.gain account item now).sequences.holding ≤ n + 1 ∧
      ∀ x ∈ (b.gain account item now).holdings, x.quantity ≤ (n + 1 : Nat) := by
  unfold Books.gain
  split
  · refine ⟨Nat.le_succ_of_le h.holdings, fun x hx => ?_⟩
    obtain ⟨y, hy, rfl⟩ := List.mem_map.mp hx
    have := h.quantities y hy
    split
    · exact Int.add_le_add_right this 1
    · omega
  · refine ⟨Nat.succ_le_succ h.holdings, fun x hx => ?_⟩
    rcases List.mem_append.mp hx with hx | hx
    · exact (h.mono (Nat.le_succ n)).quantities x hx
    · rw [List.mem_singleton.mp hx]
      show (1 : Int) ≤ _
      omega

end Within

theorem gain_lastItem (account : AccountId) (item : ItemId) (now : Instant) :
    (b.gain account item now).sequences.item = b.sequences.item := by
  unfold gain
  split <;> rfl

end Books

section Effect

variable {e : Engine} {b b' : Books} {c : Command} {o : Outcome}

/-- No command lowers a counter or a quantity. -/
theorem Effect.below (he : Effect e b c o b') : b.Below b' := by
  cases he with
  | look | signIn => exact .refl b
  | register | signUp => exact .withAccount _
  | addItem => exact .withItem _
  | transfer => exact ((Books.Below.addCoins _ _).trans (.addCoins _ _)).trans (.withEntry _)
  | purchase => exact ((Books.Below.addCoins _ _).trans (.gain _ _ _)).trans (.withEntry _)

/-- A command raises no counter and no quantity by more than one. -/
theorem Effect.within {offered n : Nat} (he : Effect e b c o b') (h : b.Within offered n) :
    b'.Within offered (n + 1) := by
  have h' := h.mono (Nat.le_succ n)
  cases he with
  | look | signIn => exact h'
  | register | signUp =>
    exact ⟨Nat.succ_le_succ h.accounts, h'.items, h'.holdings, h'.entries, h'.quantities⟩
  | addItem =>
    exact ⟨h'.accounts, Nat.succ_le_succ h.items, h'.holdings, h'.entries, h'.quantities⟩
  | transfer =>
    exact ⟨h'.accounts, h'.items, h'.holdings, Nat.succ_le_succ h.entries, h'.quantities⟩
  | @purchase _ _ _ buyer item _ _ acquired =>
    obtain ⟨holdings, quantities⟩ :=
      (h.addCoins buyer.id (-item.price)).gain buyer.id item.id acquired
    refine ⟨?_, ?_, holdings, ?_, quantities⟩
    · exact (Books.gain_lastAccount ..).trans_le h'.accounts
    · exact (Books.gain_lastItem ..).trans_le h'.items
    · exact Nat.succ_le_succ ((Books.gain_lastEntry ..).trans_le h.entries)

end Effect

/-! ## Commands one after another -/

/-- The terms of a client that is alone with a store and under no deadline. -/
def Terms.alone : Terms where
  listing := True
  expires := False
  rely := Eq
  commits := Books.Below

theorem Terms.alone_sound : Terms.alone.Sound :=
  ⟨Eq.trans, fun _ => .refl _⟩

/-- Who is alone with a store is told what is there. -/
theorem Exchange.Looks.alone {α : Type} {x : Books → Except Error α} {outcome : Except Error α}
    {b b' : Books} (h : Exchange.Looks .alone b x outcome b') : outcome = x b ∧ b' = b := by
  cases h with
  | seen hr =>
    obtain rfl : b = b' := hr
    exact ⟨rfl, rfl⟩
  | expired _ hx => exact hx.elim

/-- An outcome that is not a failure of the store. -/
def Unfailing (outcome : Except Error Outcome) : Prop :=
  ∀ label, outcome ≠ .error (.operationFailed label)

/-- An answer that is not a failure. -/
def Call.Succeeds : (c : Call) → c.Reply → Prop
  | .begin _, reply => reply = .ok ()
  | .within _, reply => ∃ a, reply = .ok a
  | .commit, reply => reply = .ok ()
  | .rollback, reply => reply = .ok ()

theorem Terms.alone_succeeds {s s' : Standing} {c : Call} {reply : c.Reply}
    (h : Terms.alone.May s c reply s') : c.Succeeds reply := by
  cases h with
  | begins | commits | rollsBack => rfl
  | within => exact ⟨_, rfl⟩
  | lapses he => exact he.elim

/-- All that a client knows of: what is committed, and the copy of its open unit. -/
def Standing.Within (offered n : Nat) (s : Standing) : Prop :=
  s.committed.Within offered n ∧ ∀ w ∈ s.working, w.Within offered n

/-- No call lowers a counter or a quantity. -/
theorem Standing.within_of_may {offered n : Nat} {s s' : Standing} {c : Call} {reply : c.Reply}
    (asked : Terms.alone.Asks s c) (h : Terms.alone.May s c reply s') (hs : s'.Within offered n) :
    s.Within offered n := by
  cases h with
  | begins hr => exact ⟨(hr : _ = _) ▸ hs.1, nofun⟩
  | within hserves =>
    obtain ⟨now, -, x, hx, -⟩ := hserves
    exact ⟨hs.1, fun _ hw => Option.some.inj hw ▸ (hs.2 _ rfl).of_below (.answer hx)⟩
  | commits =>
    cases asked with
    | commit hb => exact ⟨hs.1.of_below hb, fun _ hw => Option.some.inj hw ▸ hs.1⟩
  | rollsBack =>
    cases asked with
    | rollback => exact ⟨hs.1, fun _ hw => Option.some.inj hw ▸ hs.1⟩
  | lapses he => exact he.elim

/-- Commands one after another do not fail, and each counts for no more than one. -/
theorem performAll_keeps {e : Engine} (hm : e.initialBalance ≤ maxCoins) {offered : Nat}
    (cs : List Command) {n : Nat} {b : Books} (h : b.Within offered n) :
    Exchange.Keeps .alone (cs.mapM e.perform) b fun outcomes b' =>
      (∀ outcome ∈ outcomes, Unfailing outcome) ∧ b'.Within offered (n + cs.length) := by
  induction cs generalizing n b with
  | nil => exact .done ⟨List.forall_mem_nil _, h⟩
  | cons c cs ih =>
    have performed : Exchange.Keeps .alone (e.perform c) b fun outcome b' =>
        Unfailing outcome ∧ b'.Within offered (n + 1) := by
      refine (Engine.perform_keeps Terms.alone_sound hm c (fun _ => trivial)
        fun b₁ o b' _ he => he.below).mono fun outcome b' told => ?_
      cases told with
      | value hr he =>
        obtain rfl : b = _ := hr
        exact ⟨nofun, he.within h⟩
      | refused hs he =>
        obtain rfl : b = b' := hs.elim Eq.symm id
        refine ⟨?_, h.mono (Nat.le_succ n)⟩
        rintro label ⟨⟩
        cases he
      | expired _ hx => exact hx.elim
    rw [List.mapM_cons]
    refine performed.bind fun outcome b₁ ⟨ho, h₁⟩ => (ih h₁).bind fun outcomes b₂ ⟨hos, h₂⟩ => ?_
    refine .done ⟨List.forall_mem_cons.mpr ⟨ho, hos⟩, h₂.mono ?_⟩
    rw [List.length_cons]
    omega

/-- Commands one after another, from a store without any records or one that was just migrated:
none ends with a failure of the store and no call fails. In all that is ever committed or worked on
no quantity and no counter is above the number of commands, but that items are counted from those on
offer. So they fit in 64 bits as all balances do, the counter of items as long as those on offer
leave room for so many more. -/
theorem perform_infallible {grant : Int} {timeout : Option Nat} {e : Engine}
    (built : Engine.of? grant timeout = .ok e) (hm : grant ≤ maxCoins) (k : Backend)
    (clock : Nat → Instant) (now : Instant) (cs : List Command) (few : cs.length < maxCoins) :
    let party := Storage.clocked k.keeper clock
    let start : Storage k.State × Nat := ({ committed := k.fresh now, now }, 0)
    let offered := (k.stock now).items.length
    (∀ outcome ∈ ((cs.mapM e.perform).run party start).1, Unfailing outcome) ∧
      (∀ x ∈ (cs.mapM e.perform).transcript party start, x.1.Succeeds x.2) ∧
      ∀ t ∈ (cs.mapM e.perform).visits party start, ∃ b : Books, ∃ w : Option Books,
        t.1.committed = k.hold (some Migration.noted) b ∧
        t.1.working = w.map (k.hold (some Migration.noted)) ∧
        b.InRange offered cs.length ∧ ∀ c ∈ w, c.InRange offered cs.length := by
  intro party start offered
  have hgrant : e.initialBalance = grant := by
    unfold Engine.of? at built
    split at built
    · cases built
    · split at built <;> cases built
      rfl
  have stocked : (k.stock now).Within offered 0 := by
    cases k with
    | memory => exact ⟨le_rfl, le_rfl, le_rfl, le_rfl, List.forall_mem_nil _⟩
    | tables => exact ⟨le_rfl, le_rfl, le_rfl, le_rfl, List.forall_mem_nil _⟩
  have keeps := performAll_keeps (hgrant ▸ hm : e.initialBalance ≤ maxCoins) cs stocked
  have stands : Backend.Stands (some Migration.noted) k start.1 ⟨k.stock now, none⟩ :=
    .fresh now k
  refine ⟨?_, fun x hx => ?_, fun t ht => ?_⟩
  · obtain ⟨b', -, hQ, -⟩ := keeps.run (fun _ => rfl) clock stands
    exact hQ
  · obtain ⟨s, s', -, hm⟩ := keeps.transcript (fun _ => rfl) clock stands x hx
    exact Terms.alone_succeeds hm
  · obtain ⟨⟨b, w⟩, hs, hb, hw⟩ := keeps.visits (fun _ => rfl)
      (J := Standing.Within offered (0 + cs.length))
      (fun _ _ _ _ asked h hJ => Standing.within_of_may asked h hJ)
      (fun _ _ h => ⟨h.2, nofun⟩) clock stands t ht
    rw [Nat.zero_add] at hb hw
    exact ⟨b, w, hs.committed, hs.working, hb.inRange hs.storable few.le,
      fun c hc => (hw c hc).inRange (hs.copy c hc) few.le⟩

/-- An account that is made, buys a cup and pays for a second one that it cannot afford, with the
items on offer in tables. -/
theorem perform_infallible_cup :
    let e : Engine := { initialBalance := 30 }
    let cs : List Command :=
      [.register "ann" "secret" (.replicate 7), .purchase 1 "cup" none, .purchase 1 "cup" none]
    let party := Storage.clocked Backend.tables.keeper fun _ => default
    let start : Storage Backend.tables.State × Nat :=
      ({ committed := Backend.tables.fresh default, now := default }, 0)
    Engine.of? 30 none = .ok e ∧ (30 : Int) ≤ maxCoins ∧ cs.length < maxCoins ∧
      (∀ outcome ∈ ((cs.mapM e.perform).run party start).1, Unfailing outcome) ∧
      (∀ x ∈ (cs.mapM e.perform).transcript party start, x.1.Succeeds x.2) ∧
      ∀ t ∈ (cs.mapM e.perform).visits party start, ∃ b : Books, ∃ w : Option Books,
        t.1.committed = Backend.tables.hold (some Migration.noted) b ∧
        t.1.working = w.map (Backend.tables.hold (some Migration.noted)) ∧
        b.InRange 10 3 ∧ ∀ c ∈ w, c.InRange 10 3 := by
  intro e cs party start
  have built : Engine.of? 30 none = .ok e := rfl
  have few : (cs.length : Int) < maxCoins := show (3 : Int) < maxCoins by decide
  exact ⟨built, by decide, few,
    perform_infallible built (by decide) .tables (fun _ => default) default cs few⟩

end Scrip
