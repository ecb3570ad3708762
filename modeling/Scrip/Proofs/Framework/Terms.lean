import Scrip.Proofs.Concurrency.Serial
import Scrip.Proofs.Store.Backend

/-!
# Exchanges on terms

What a client of a storage may count on and has to keep to (`Terms`): what others may do to the
books between its units, and what its commits may make of them. `Exchange.Keeps` says what then
holds of the outcome and of the books as the client left them, on either store.

* `Keeps.unit`: a unit begins with what is committed then, and is all or nothing;
* `Keeps.run`, `Keeps.transcript`, `Keeps.visits`: a client alone with a store;
* `Keeps.lockstep`: a client that lists no entries is told the same by both stores.
-/

namespace Scrip

open Dialogue (Lawful Follows)

/-- The terms on which a client deals with a storage. -/
structure Terms where
  /-- Whether lists of entries may be asked for. -/
  listing : Prop
  /-- Whether the deadline of a unit may pass. -/
  expires : Prop
  /-- What others may make of the books between two units. -/
  rely : Books → Books → Prop
  /-- What a unit may make of the books. -/
  commits : Books → Books → Prop

/-- What is committed, as far as a client knows, and the copy of its open unit. -/
structure Standing where
  committed : Books
  working : Option Books := none

namespace Terms

/-- The calls that are in order. A unit is rolled back only if it changed nothing. -/
inductive Asks (T : Terms) : Standing → Call → Prop
  | begin {b : Books} (limit : Option Nat) : Asks T ⟨b, none⟩ (.begin limit)
  | within {b w : Books} {r : Request} (h : w.Accepts T.listing r) : Asks T ⟨b, some w⟩ (.within r)
  | commit {b w : Books} (h : T.commits b w) : Asks T ⟨b, some w⟩ .commit
  | rollback {b : Books} : Asks T ⟨b, some b⟩ .rollback

/-- What may come back for them. -/
inductive May (T : Terms) : Standing → (c : Call) → c.Reply → Standing → Prop
  | begins {b b' : Books} {limit : Option Nat} (hr : T.rely b b') (hs : b'.Storable) :
      May T ⟨b, none⟩ (.begin limit) (.ok ()) ⟨b', some b'⟩
  | within {b w w' : Books} {r : Request} {a : r.Answer} (h : w.Serves r a w') :
      May T ⟨b, some w⟩ (.within r) (.ok a) ⟨b, some w'⟩
  | commits {b w : Books} : May T ⟨b, some w⟩ .commit (.ok ()) ⟨w, none⟩
  | rollsBack {b w : Books} : May T ⟨b, some w⟩ .rollback (.ok ()) ⟨b, none⟩
  | lapses {s : Standing} {c : Call} {reply : c.Reply} (he : T.expires)
      (hc : c.expired? = some reply) : May T s c reply ⟨s.committed, none⟩

/-- Only a commit of an open unit changes what is committed, and as the terms say. -/
theorem May.kept {T : Terms} {b w : Books} {c : Call} {reply : c.Reply} {s : Standing}
    (h : T.May ⟨b, some w⟩ c reply s) (asked : T.Asks ⟨b, some w⟩ c) :
    s.committed = b ∨ c = .commit ∧ T.commits b s.committed := by
  cases h with
  | within | rollsBack | lapses => exact .inl rfl
  | commits =>
    cases asked with
    | commit h => exact .inr ⟨rfl, h⟩

end Terms

namespace Exchange

variable {T : Terms} {α β : Type} {b : Books}

/-- On these terms `Q` holds of the outcome and of the books that the client knows last. -/
def Keeps (T : Terms) (d : Exchange α) (b : Books) (Q : α → Books → Prop) : Prop :=
  Lawful T.Asks T.May d ⟨b, none⟩ fun a s => s.working = none ∧ Q a s.committed

theorem Keeps.mono {d : Exchange α} {P Q : α → Books → Prop} (h : d.Keeps T b P)
    (hPQ : ∀ a b', P a b' → Q a b') : d.Keeps T b Q :=
  Lawful.mono h fun _ _ hP => ⟨hP.1, hPQ _ _ hP.2⟩

theorem Keeps.done {a : α} {Q : α → Books → Prop} (h : Q a b) :
    Keeps T (.done a : Exchange α) b Q :=
  Lawful.done ⟨rfl, h⟩

theorem Keeps.bind {d : Exchange α} {f : α → Exchange β} {P : α → Books → Prop}
    {Q : β → Books → Prop} (hd : d.Keeps T b P) (hf : ∀ a b', P a b' → (f a).Keeps T b' Q) :
    Keeps T (d >>= f) b Q := by
  refine Lawful.bind hd fun a s ⟨hs, hP⟩ => ?_
  obtain ⟨b', w⟩ := s
  cases (hs : w = none)
  exact hf a b' hP

/-- Work that complies is in order inside a unit. -/
theorem lawful_exchange {d : Dialogue Request Request.Reply α} {w : Option Books}
    {P : α → Option Books → Prop} (h : Lawful (Work.Asks T.listing) (Work.May T.expires) d w P) :
    Lawful T.Asks T.May (d.embed Call.within fun _ reply => reply) ⟨b, w⟩
      fun a s => s.committed = b ∧ P a s.working := by
  induction h with
  | done h => exact .done ⟨rfl, h⟩
  | ask hq _ ih =>
    obtain ⟨w, rfl, hr⟩ := hq
    refine .ask (.within hr) fun reply s hm => ?_
    cases hm with
    | within hs => exact ih _ _ (.serves hs)
    | lapses he hc =>
      cases hc
      exact ih _ _ (.lapses he)

/-- A unit begins with what is committed then. It ends with a value of the work and commits what
the work left, or with an error of work that changed nothing, unless the deadline passes. -/
theorem Keeps.unit {op : Operation} {limit : Option Nat} {w : Work α}
    {Q : Except Error α → Books → Prop}
    (hw : ∀ b', T.rely b b' → b'.Storable → w.Complies T.listing T.expires b' fun outcome b₁ =>
      match outcome with
      | .ok a => T.commits b' b₁ ∧ Q (.ok a) b₁
      | .error failure => b₁ = b' ∧ Q (.error (failure.toError op)) b')
    (hx : T.expires → ∀ b', b' = b ∨ T.rely b b' → Q (.error (.timeout op.label)) b') :
    Keeps T (inUnit op limit w) b Q := by
  refine Lawful.ask (.begin limit) fun reply s hm => ?_
  cases hm with
  | lapses he hc =>
    cases hc
    exact .done ⟨rfl, hx he b (.inl rfl)⟩
  | @begins _ b' _ hr hs =>
    refine Lawful.bind (lawful_exchange (hw b' hr hs)) fun outcome s ⟨hb, hend⟩ => ?_
    obtain ⟨b₁, w₁⟩ := s
    cases (hb : b₁ = b')
    match outcome, w₁, hend with
    | .ok a, some w₁, ⟨_, hc, hQ⟩ =>
      refine .ask (.commit hc) fun reply s hm => ?_
      cases hm with
      | commits => exact .done ⟨rfl, hQ⟩
      | lapses he hc => cases hc
    | .error .expired, some w₁, ⟨hne, _⟩ => exact absurd rfl hne
    | .error (.rule _), some w₁, ⟨_, hw₁, hQ⟩ | .error (.store _), some w₁, ⟨_, hw₁, hQ⟩ =>
      obtain rfl : w₁ = b₁ := hw₁
      refine .ask .rollback fun reply s hm => ?_
      cases hm with
      | rollsBack => exact .done ⟨rfl, hQ⟩
      | lapses he hc =>
        cases hc
        exact .done ⟨rfl, hx he _ (.inr hr)⟩
    | _, none, ⟨he, rfl⟩ => exact .done ⟨rfl, hx he b₁ (.inr hr)⟩

/-- What a client does after all is done with the outcome. -/
theorem Keeps.map {x : Exchange (Except Error α)} {f : α → β} {Q : Except Error β → Books → Prop}
    (hx : x.Keeps T b fun outcome => Q (outcome.map f)) :
    Keeps T (x >>= fun outcome => pure (outcome.map f)) b Q :=
  Keeps.bind hx fun _ _ h => Keeps.done h

end Exchange

/-! ## A client alone with a store -/

namespace Backend

variable {k : Backend} {applied : Option (Table String)} {T : Terms}

/-- A storage in which a client knows what is committed. -/
structure Stands (applied : Option (Table String)) (k : Backend) (s : Storage k.State)
    (x : Standing) : Prop where
  storable : x.committed.Storable
  committed : s.committed = k.hold applied x.committed
  working : s.working = x.working.map (k.hold applied)
  copy : ∀ w ∈ x.working, w.Storable

theorem Stands.start {b : Books} (h : b.Storable) (now : Instant) :
    Stands applied k { committed := k.hold applied b, now } ⟨b, none⟩ :=
  ⟨h, rfl, rfl, nofun⟩

theorem Stands.fresh (now : Instant) (k : Backend) :
    Stands (some Migration.noted) k { committed := k.fresh now, now } ⟨k.stock now, none⟩ :=
  ⟨storable_stock now k, fresh_eq now k, rfl, nofun⟩

/-- A request inside the open unit. -/
theorem Stands.request {s : Storage k.State} {b w w' : Books} {r : Request} {a : r.Answer}
    (h : Stands applied k s ⟨b, some w⟩) (hw' : w'.Storable)
    (ha : k.keeper s.now (k.hold applied w) r = .ok (a, k.hold applied w')) :
    (s.party k.keeper (.within r)).1 = .ok a ∧
      Stands applied k (s.party k.keeper (.within r)).2 ⟨b, some w'⟩ := by
  have hs : s.working = some (k.hold applied w) := h.working
  simp only [Storage.party, Storage.request, hs, ha, true_and]
  exact ⟨h.storable, h.committed, rfl, fun _ hx => Option.some.inj hx ▸ hw'⟩

/-- A request that is refused. -/
theorem Stands.refused {s : Storage k.State} {b w : Books} {r : Request} {failure : StoreError}
    (h : Stands applied k s ⟨b, some w⟩)
    (ha : k.keeper s.now (k.hold applied w) r = .error failure) :
    (s.party k.keeper (.within r)).1 = .error (.failed failure) ∧
      Stands applied k (s.party k.keeper (.within r)).2 ⟨b, some w⟩ := by
  have hs : s.working = some (k.hold applied w) := h.working
  simp only [Storage.party, Storage.request, hs, ha, true_and]
  exact ⟨h.storable, h.committed, h.working, h.copy⟩

theorem Stands.begins {s : Storage k.State} {b : Books} (h : Stands applied k s ⟨b, none⟩)
    (limit : Option Nat) :
    (s.party k.keeper (.begin limit)).1 = .ok () ∧
      Stands applied k (s.party k.keeper (.begin limit)).2 ⟨b, some b⟩ := by
  rw [Storage.party_begin _ _ _ h.working]
  exact ⟨rfl, h.storable, h.committed, congrArg some h.committed,
    fun _ hx => Option.some.inj hx ▸ h.storable⟩

theorem Stands.commits {s : Storage k.State} {b w : Books} (h : Stands applied k s ⟨b, some w⟩) :
    (s.party k.keeper .commit).1 = .ok () ∧
      Stands applied k (s.party k.keeper .commit).2 ⟨w, none⟩ := by
  rw [Storage.party_commit _ _ _ h.working]
  exact ⟨rfl, h.copy w rfl, rfl, rfl, nofun⟩

/-- Leaving a unit, open or not. -/
theorem Stands.rollsBack {s : Storage k.State} {x : Standing} (h : Stands applied k s x) :
    (s.party k.keeper .rollback).1 = .ok () ∧
      Stands applied k (s.party k.keeper .rollback).2 ⟨x.committed, none⟩ :=
  ⟨rfl, h.storable, h.committed, rfl, nofun⟩

/-- The reading of the clock is nothing that a client knows of. -/
theorem Stands.at {s : Storage k.State} {x : Standing} (h : Stands applied k s x) (now : Instant) :
    Stands applied k { s with now } x :=
  ⟨h.storable, h.committed, h.working, h.copy⟩

/-- A call that is in order is answered as the terms say. -/
theorem Stands.called {s : Storage k.State} {x : Standing} (hx : Stands applied k s x)
    (hrely : T.rely x.committed x.committed) {c : Call} (hc : T.Asks x c) :
    ∃ x', T.May x c (s.party k.keeper c).1 x' ∧ Stands applied k (s.party k.keeper c).2 x' := by
  cases hc with
  | begin limit =>
    obtain ⟨hr, hs⟩ := hx.begins limit
    exact ⟨_, hr ▸ .begins hrely hx.storable, hs⟩
  | @within b w r h =>
    obtain ⟨x, w', ha, hw', hk⟩ := keeper_answers (hx.copy w rfl) h applied s.now
    obtain ⟨a, hka, hsame⟩ := hk k
    obtain ⟨hr, hs⟩ := hx.request hw' hka
    exact ⟨_, hr ▸ .within ⟨_, s.now.ordinary_shown, x, ha, hsame⟩, hs⟩
  | commit h =>
    obtain ⟨hr, hs⟩ := hx.commits
    exact ⟨_, hr ▸ .commits, hs⟩
  | rollback =>
    obtain ⟨hr, hs⟩ := hx.rollsBack
    exact ⟨_, hr ▸ .rollsBack, hs⟩

/-- A client that is alone with a store is answered as the terms say. -/
theorem follows (applied : Option (Table String)) (k : Backend) (clock : Nat → Instant)
    (hrely : ∀ b, T.rely b b) :
    Follows T.Asks T.May (Storage.clocked k.keeper clock) fun t x => Stands applied k t.1 x :=
  fun _ t x hx hc => (hx.at (clock t.2)).called (hrely x.committed) hc

/-- Two stores that gave the same outcome, have the same time and hold the same books. -/
structure Together {α : Type} (applied : Option (Table String)) {k k' : Backend}
    (y : α × Storage k.State × Nat) (y' : α × Storage k'.State × Nat) (x : Standing) : Prop where
  outcome : y.1 = y'.1
  clock : y.2.2 = y'.2.2
  left : Stands applied k y.2.1 x
  right : Stands applied k' y'.2.1 x

/-- A call that lists no entries is answered alike by two stores that hold the same books. -/
theorem call_together {k' : Backend} (clock : Nat → Instant) (hrely : ∀ b, T.rely b b)
    (hlisting : ¬ T.listing) {t : Storage k.State × Nat} {t' : Storage k'.State × Nat}
    {x : Standing} (hx : Stands applied k t.1 x) (hx' : Stands applied k' t'.1 x)
    (hn : t.2 = t'.2) {c : Call} (hc : T.Asks x c) :
    ∃ s, T.May x c (Storage.clocked k.keeper clock c t).1 s ∧
      Together applied (Storage.clocked k.keeper clock c t) (Storage.clocked k'.keeper clock c t')
        s := by
  have hx := hx.at (clock t.2)
  have hx' := hx'.at (clock t'.2)
  have hclock : (Storage.clocked k.keeper clock c t).2.2 =
      (Storage.clocked k'.keeper clock c t').2.2 := by
    simp only [Storage.clocked, hn]
  cases hc with
  | begin limit =>
    obtain ⟨hr, hs⟩ := hx.begins limit
    obtain ⟨hr', hs'⟩ := hx'.begins limit
    exact ⟨_, hr ▸ .begins (hrely _) hx.storable, hr.trans hr'.symm, hclock, hs, hs'⟩
  | @within b w r h =>
    obtain ⟨y, w', ha, hw', hk⟩ := keeper_answers (hx.copy w rfl) h applied (clock t.2)
    obtain ⟨a, hka, hsame⟩ := hk k
    obtain ⟨a', hka', hsame'⟩ := hk k'
    -- Only lists of entries may be answered in another order.
    have hl : ¬ r.Lists := fun hl => hlisting (h.lists hl)
    obtain rfl := hsame.eq hl
    obtain rfl := hsame'.eq hl
    rw [hn] at hka'
    obtain ⟨hr, hs⟩ := hx.request hw' hka
    obtain ⟨hr', hs'⟩ := hx'.request hw' hka'
    exact ⟨_, hr ▸ .within ⟨_, (clock t.2).ordinary_shown, y, ha, .refl y⟩, hr.trans hr'.symm,
      hclock, hs, hs'⟩
  | commit h =>
    obtain ⟨hr, hs⟩ := hx.commits
    obtain ⟨hr', hs'⟩ := hx'.commits
    exact ⟨_, hr ▸ .commits, hr.trans hr'.symm, hclock, hs, hs'⟩
  | rollback =>
    obtain ⟨hr, hs⟩ := hx.rollsBack
    obtain ⟨hr', hs'⟩ := hx'.rollsBack
    exact ⟨_, hr ▸ .rollsBack, hr.trans hr'.symm, hclock, hs, hs'⟩

theorem lockstep {k' : Backend} (clock : Nat → Instant) (hrely : ∀ b, T.rely b b)
    (hlisting : ¬ T.listing) {α : Type} {d : Exchange α} {x : Standing}
    {P : α → Standing → Prop} (h : Lawful T.Asks T.May d x P) {t : Storage k.State × Nat}
    {t' : Storage k'.State × Nat} (ht : Stands applied k t.1 x) (ht' : Stands applied k' t'.1 x)
    (hn : t.2 = t'.2) :
    ∃ s, Together applied (d.run (Storage.clocked k.keeper clock) t)
        (d.run (Storage.clocked k'.keeper clock) t') s ∧
      P (d.run (Storage.clocked k.keeper clock) t).1 s := by
  induction h generalizing t t' with
  | done h => exact ⟨_, ⟨rfl, hn, ht, ht'⟩, h⟩
  | ask hc _ ih =>
    obtain ⟨s, hm, hs⟩ := call_together clock hrely hlisting ht ht' hn hc
    rw [Dialogue.run_ask, Dialogue.run_ask, ← hs.outcome]
    exact ih _ s hm hs.left hs.right hs.clock

end Backend

namespace Exchange.Keeps

open Backend (Stands Together)

variable {T : Terms} {α : Type} {applied : Option (Table String)} {d : Exchange α} {b : Books}
  {Q : α → Books → Prop}

/-- The outcome for a client that is alone with a store, and the books that it leaves. -/
theorem run (h : d.Keeps T b Q) (hrely : ∀ b, T.rely b b) {k : Backend} (clock : Nat → Instant)
    {t : Storage k.State × Nat} (ht : Stands applied k t.1 ⟨b, none⟩) :
    ∃ b', Stands applied k (d.run (Storage.clocked k.keeper clock) t).2.1 ⟨b', none⟩ ∧
      Q (d.run (Storage.clocked k.keeper clock) t).1 b' := by
  obtain ⟨⟨b', w⟩, hs, rfl, hQ⟩ := Lawful.run (Backend.follows applied k clock hrely) h ht
  exact ⟨b', hs, hQ⟩

/-- All calls of such a client are answered as the terms say. -/
theorem transcript (h : d.Keeps T b Q) (hrely : ∀ b, T.rely b b) {k : Backend}
    (clock : Nat → Instant) {t : Storage k.State × Nat} (ht : Stands applied k t.1 ⟨b, none⟩) :
    ∀ x ∈ d.transcript (Storage.clocked k.keeper clock) t,
      ∃ s s', T.Asks s x.1 ∧ T.May s x.1 x.2 s' :=
  Lawful.transcript (Backend.follows applied k clock hrely) h ht

/-- What holds of the books in the end held all the way, if no call makes it true. -/
theorem visits (h : d.Keeps T b Q) (hrely : ∀ b, T.rely b b) {J : Standing → Prop}
    (back : ∀ s c reply s', T.Asks s c → T.May s c reply s' → J s' → J s)
    (hQ : ∀ a b', Q a b' → J ⟨b', none⟩) {k : Backend} (clock : Nat → Instant)
    {t : Storage k.State × Nat} (ht : Stands applied k t.1 ⟨b, none⟩) :
    ∀ t' ∈ d.visits (Storage.clocked k.keeper clock) t, ∃ x, Stands applied k t'.1 x ∧ J x := by
  refine (Lawful.visits (Backend.follows applied k clock hrely) back (fun a s hs => ?_) h ht).2
  obtain ⟨b', w⟩ := s
  cases (hs.1 : w = none)
  exact hQ a b' hs.2

/-- A client that lists no entries is told the same by two stores that hold the same books, and
leaves the same books with both. -/
theorem lockstep (h : d.Keeps T b Q) (hrely : ∀ b, T.rely b b) (hlisting : ¬ T.listing)
    {k k' : Backend} (clock : Nat → Instant) {t : Storage k.State × Nat}
    {t' : Storage k'.State × Nat} (ht : Stands applied k t.1 ⟨b, none⟩)
    (ht' : Stands applied k' t'.1 ⟨b, none⟩) (hn : t.2 = t'.2) :
    ∃ b', Together applied (d.run (Storage.clocked k.keeper clock) t)
        (d.run (Storage.clocked k'.keeper clock) t') ⟨b', none⟩ ∧
      Q (d.run (Storage.clocked k.keeper clock) t).1 b' := by
  obtain ⟨⟨b', w⟩, hs, rfl, hQ⟩ := Backend.lockstep clock hrely hlisting h ht ht' hn
  exact ⟨b', hs, hQ⟩

end Exchange.Keeps

end Scrip
