import Mathlib
import Scrip.Proofs.Engine.Keeps

/-!
# The two stores agree

A store in memory, with the items on offer, and tables to which all migrations were applied do the
same (`stores_agree`): commands have the same outcomes and leave the same books, and so do single
calls whose writes respect the constraints of the tables. Only the words of a conflict differ, and
the order of entries beyond the years of four digits, because tables compare the texts of times
(`entriesFor_order_differs`). Commands put entries in order themselves.

* `Backend.performAll`: commands one after another, and `performAll_invariant` what they keep;
* `perform_alike`, `performAll_alike`: commands, one and many;
* `gesture_alike`, `gestures_alike`: single calls, and units that are left.
-/

namespace Scrip

open Backend (Stands)
open Exchange Exchange.Keeps

variable {e : Engine} {k k' : Backend} {applied : Option (Table String)} {b : Books}

/-! ## Commands -/

/-- The terms of a client for which a store is there alone. -/
def Terms.unshared (listing : Prop) : Terms where
  listing
  expires := False
  rely := Eq
  commits _ _ := True

theorem Terms.unshared_sound {listing : Prop} : (Terms.unshared listing).Sound :=
  ⟨Eq.trans, fun _ => trivial⟩

/-- A command that a storage is alone with: its outcome, and the storage that it leaves. -/
def Backend.perform (e : Engine) (k : Backend) (c : Command) (clock : Nat → Instant)
    (s : Storage k.State) : Except Error Outcome × Storage k.State :=
  let performed := (e.perform c).run (Storage.clocked k.keeper clock) (s, 0)
  (performed.1, performed.2.1)

/-- Commands one after another, each with the readings of the clock that it gets: their outcomes,
and the storage that they leave. -/
def Backend.performAll (e : Engine) (k : Backend) :
    List (Command × (Nat → Instant)) → Storage k.State →
      List (Except Error Outcome) × Storage k.State
  | [], s => ([], s)
  | (c, clock) :: cs, s =>
    let performed := k.perform e c clock s
    let rest := performAll e k cs performed.2
    (performed.1 :: rest.1, rest.2)

/-- What held of the books and is kept by every command holds after commands one after another. -/
theorem Backend.performAll_invariant (hm : e.initialBalance ≤ maxCoins) {I : Books → Prop}
    (step : ∀ b c o b', I b → Effect e b c o b' → I b') (cs : List (Command × (Nat → Instant)))
    {s : Storage k.State} (hs : Stands applied k s ⟨b, none⟩) (hb : I b) :
    ∃ b', Stands applied k (k.performAll e cs s).2 ⟨b', none⟩ ∧ I b' := by
  induction cs generalizing b s with
  | nil => exact ⟨b, hs, hb⟩
  | cons c cs ih =>
    obtain ⟨c, clock⟩ := c
    have performed : (e.perform c).Keeps (.unshared True) b fun _ b' => I b' := by
      refine (Engine.perform_keeps Terms.unshared_sound hm c (fun _ => trivial)
        fun _ _ _ _ _ => trivial).mono fun outcome b' told => ?_
      cases told with
      | value hr he => exact step _ _ _ _ ((hr : b = _) ▸ hb) he
      | refused same =>
        obtain rfl : b = b' := same.elim Eq.symm id
        exact hb
      | expired _ hx => exact hx.elim
    have start : Stands applied k ((s, 0) : _ × Nat).1 ⟨b, none⟩ := hs
    obtain ⟨b₁, h₁, hb₁⟩ := performed.run (fun _ => rfl) clock start
    exact ih h₁ hb₁

/-- Two stores that did the same: the outcomes are the same, and so are the books afterwards. -/
structure Backend.Agree {α : Type} (applied : Option (Table String)) {k k' : Backend}
    (y : α × Storage k.State) (y' : α × Storage k'.State) : Prop where
  outcome : y.1 = y'.1
  books : ∃ b, Stands applied k y.2 ⟨b, none⟩ ∧ Stands applied k' y'.2 ⟨b, none⟩

/-- A command has the same outcome on both stores, and leaves the same books. -/
theorem perform_alike (hm : e.initialBalance ≤ maxCoins) (c : Command) (clock : Nat → Instant)
    {s : Storage k.State} {s' : Storage k'.State} (hs : Stands applied k s ⟨b, none⟩)
    (hs' : Stands applied k' s' ⟨b, none⟩) :
    Backend.Agree applied (k.perform e c clock s) (k'.perform e c clock s') := by
  have start : Stands applied k ((s, 0) : _ × Nat).1 ⟨b, none⟩ := hs
  have start' : Stands applied k' ((s', 0) : _ × Nat).1 ⟨b, none⟩ := hs'
  -- Lists of entries may come in another order, but what commands make of them is the same.
  have looks {α : Type} {f : α → Outcome} {d : Exchange (Except Error α)}
      {x : Books → Except Error α} (hc : e.perform c = Engine.perform.wrap f d)
      (hd : d.Keeps (.unshared True) b (Looks (.unshared True) b x)) :
      Backend.Agree applied (k.perform e c clock s) (k'.perform e c clock s') := by
    obtain ⟨ho, h⟩ := Engine.look_alone rfl id hd hc clock start
    obtain ⟨ho', h'⟩ := Engine.look_alone rfl id hd hc clock start'
    exact ⟨ho.trans ho'.symm, b, h, h'⟩
  by_cases hl : c.Lists
  · cases c with
    | history id => exact looks rfl (Engine.history_keeps Terms.unshared_sound id trivial)
    | statement id => exact looks rfl (Engine.statement_keeps Terms.unshared_sound id trivial)
    | _ => exact hl.elim
  · have keeps := Engine.perform_keeps (T := .unshared False) (b := b) Terms.unshared_sound hm c
      (fun h => hl h) fun _ _ _ _ _ => trivial
    obtain ⟨b', together, -⟩ := keeps.lockstep (fun _ => rfl) id clock start start' rfl
    exact ⟨together.outcome, b', together.left, together.right⟩

/-- Commands one after another. -/
theorem performAll_alike (hm : e.initialBalance ≤ maxCoins)
    (cs : List (Command × (Nat → Instant))) {s : Storage k.State} {s' : Storage k'.State}
    (hs : Stands applied k s ⟨b, none⟩) (hs' : Stands applied k' s' ⟨b, none⟩) :
    Backend.Agree applied (k.performAll e cs s) (k'.performAll e cs s') := by
  induction cs generalizing b s s' with
  | nil => exact ⟨rfl, b, hs, hs'⟩
  | cons c cs ih =>
    obtain ⟨c, clock⟩ := c
    obtain ⟨outcome, b₁, h, h'⟩ := perform_alike hm c clock hs hs'
    obtain ⟨outcomes, books⟩ := ih h h'
    exact ⟨congrArg₂ List.cons outcome outcomes, books⟩

/-! ## Single calls -/

/-- Something done with a storage: a call, with the reading of the clock at it, or leaving the
open unit. -/
inductive Gesture where
  | call (now : Instant) (c : Call)
  | drop

/-- A call and what came back for it. -/
abbrev Reply : Type := Σ c : Call, c.Reply

namespace Gesture

variable {σ : Type}

/-- The reply, if there is one, and the storage afterwards. -/
def run (keeper : Keeper σ) : Gesture → Storage σ → Option Reply × Storage σ
  | call now c, s =>
    let answered := { s with now }.party keeper c
    (some ⟨c, answered.1⟩, answered.2)
  | drop, s => (none, s.drop)

/-- All replies to what is done one after another, and the storage afterwards. -/
def runAll (keeper : Keeper σ) : List Gesture → Storage σ → List (Option Reply) × Storage σ
  | [], s => ([], s)
  | g :: gs, s =>
    let done := g.run keeper s
    let rest := runAll keeper gs done.2
    (done.1 :: rest.1, rest.2)

/-- A write respects the constraints of the tables. -/
def Respects (s : Storage Books) : Gesture → Prop
  | call _ (.within r) => ∀ w ∈ s.working, w.Respects r
  | _ => True

/-- All writes respect the constraints. -/
def Obeys : List Gesture → Storage Books → Prop
  | [], _ => True
  | g :: gs, s => g.Respects s ∧ Obeys gs (g.run Backend.memory.keeper s).2

end Gesture

/-- Two replies are the same, but for the words of a conflict, and for the order of entries of
which not all are from years of four digits. -/
inductive Reply.Alike : Option Reply → Option Reply → Prop
  | same (x : Option Reply) : Alike x x
  | answers {r : Request} {a a' : r.Answer} (h : r.SameAnswer a a') :
      Alike (some ⟨.within r, .ok a⟩) (some ⟨.within r, .ok a'⟩)
  | conflicts {r : Request} (s t : String) :
      Alike (some ⟨.within r, .error (.failed (.conflict s))⟩)
        (some ⟨.within r, .error (.failed (.conflict t))⟩)

theorem Reply.Alike.of_eq {c : Call} {a a' : c.Reply} (h : a = a') :
    Reply.Alike (some ⟨c, a⟩) (some ⟨c, a'⟩) :=
  h ▸ .same _

/-- A call has the same effect on both stores when the clocks show the same. -/
theorem call_alike {c : Call} {s : Storage Books} {s' : Storage Tables} {x : Standing}
    (hs : Stands applied .memory s x) (hs' : Stands applied .tables s' x) (hn : s.now = s'.now)
    (hr : ∀ w ∈ x.working, ∀ r, c = .within r → w.Respects r) :
    Reply.Alike (some ⟨c, (s.party Backend.memory.keeper c).1⟩)
        (some ⟨c, (s'.party Backend.tables.keeper c).1⟩) ∧
      ∃ x', Stands applied .memory (s.party Backend.memory.keeper c).2 x' ∧
        Stands applied .tables (s'.party Backend.tables.keeper c).2 x' := by
  obtain ⟨b, _ | w⟩ := x
  · have none_open : s.working = none := hs.working
    have none_open' : s'.working = none := hs'.working
    cases c with
    | begin limit =>
      obtain ⟨ha, h⟩ := hs.begins limit
      obtain ⟨ha', h'⟩ := hs'.begins limit
      exact ⟨.of_eq (ha.trans ha'.symm), _, h, h'⟩
    | rollback => exact ⟨.same _, _, hs.rollsBack.2, hs'.rollsBack.2⟩
    | within r =>
      simp only [Storage.party, Storage.request, none_open, none_open']
      exact ⟨.same _, _, hs, hs'⟩
    | commit =>
      simp only [Storage.party, none_open, none_open']
      exact ⟨.same _, _, hs, hs'⟩
  · have working : s.working = some w := hs.working
    have working' : s'.working = some (w.tables applied) := hs'.working
    cases c with
    | begin limit =>
      simp only [Storage.party, working, working']
      exact ⟨.same _, _, hs, hs'⟩
    | rollback => exact ⟨.same _, _, hs.rollsBack.2, hs'.rollsBack.2⟩
    | commit =>
      obtain ⟨ha, h⟩ := hs.commits
      obtain ⟨ha', h'⟩ := hs'.commits
      exact ⟨.of_eq (ha.trans ha'.symm), _, h, h'⟩
    | within r =>
      have hr := hr w rfl r rfl
      have alike := Books.answer_tables applied (hs.copy w rfl) hr s.now.shown
      generalize hy : w.answer s.now.shown r = y at alike
      generalize hy' : (w.tables applied).answer s.now.shown r = y' at alike
      rw [hn] at hy'
      cases alike with
      | answers hsame =>
        obtain ⟨ha, h⟩ := hs.request ((hs.copy w rfl).answer s.now.ordinary_shown hr hy) hy
        obtain ⟨ha', h'⟩ := hs'.request ((hs.copy w rfl).answer s.now.ordinary_shown hr hy) hy'
        rw [ha, ha']
        exact ⟨.answers hsame, _, h, h'⟩
      | conflicts name name' =>
        obtain ⟨ha, h⟩ := hs.refused hy
        obtain ⟨ha', h'⟩ := hs'.refused hy'
        rw [ha, ha']
        exact ⟨.conflicts name name', _, h, h'⟩

/-- A gesture has the same effect on both stores. -/
theorem gesture_alike {g : Gesture} {s : Storage Books} {s' : Storage Tables} {x : Standing}
    (hs : Stands applied .memory s x) (hs' : Stands applied .tables s' x) (hr : g.Respects s) :
    Reply.Alike (g.run Backend.memory.keeper s).1 (g.run Backend.tables.keeper s').1 ∧
      ∃ x', Stands applied .memory (g.run Backend.memory.keeper s).2 x' ∧
        Stands applied .tables (g.run Backend.tables.keeper s').2 x' := by
  cases g with
  | drop => exact ⟨.same none, _, hs.rollsBack.2, hs'.rollsBack.2⟩
  | call now c =>
    refine call_alike (hs.at now) (hs'.at now) rfl fun w hw r hc => ?_
    subst hc
    refine hr w ?_
    have hs := hs.working
    rw [hw] at hs
    exact hs

theorem gestures_alike {gs : List Gesture} {s : Storage Books} {s' : Storage Tables} {x : Standing}
    (hs : Stands applied .memory s x) (hs' : Stands applied .tables s' x)
    (hr : Gesture.Obeys gs s) :
    List.Forall₂ Reply.Alike (Gesture.runAll Backend.memory.keeper gs s).1
        (Gesture.runAll Backend.tables.keeper gs s').1 ∧
      ∃ x', Stands applied .memory (Gesture.runAll Backend.memory.keeper gs s).2 x' ∧
        Stands applied .tables (Gesture.runAll Backend.tables.keeper gs s').2 x' := by
  induction gs generalizing s s' x with
  | nil => exact ⟨.nil, x, hs, hs'⟩
  | cons g gs ih =>
    obtain ⟨hg, hgs⟩ := hr
    obtain ⟨halike, x₁, h₁, h₁'⟩ := gesture_alike hs hs' hg
    obtain ⟨hall, x₂, h₂, h₂'⟩ := ih h₁ h₁' hgs
    exact ⟨.cons halike hall, x₂, h₂, h₂'⟩

/-! ## Agreement -/

/-- Two stores that hold the same books. -/
theorem image {s : Storage Books} {s' : Storage Tables} {x : Standing}
    (h : Stands applied .memory s x) (h' : Stands applied .tables s' x) :
    s'.committed = s.committed.tables applied ∧
      s'.working = s.working.map (·.tables applied) := by
  have committed : s.committed = x.committed := h.committed
  have working : s.working = x.working := h.working.trans (by cases x.working <;> rfl)
  rw [committed, working]
  exact ⟨h'.committed, h'.working⟩

/-- A store in memory with the items on offer, and tables that were just migrated: commands have
the same outcomes, and calls whose writes respect the constraints get the same replies, but for the
words of a conflict and the order of entries beyond the years of four digits. They leave the same
books. -/
theorem stores_agree (hm : e.initialBalance ≤ maxCoins) (now : Instant) :
    let memory : Storage Books := { committed := .stocked now, now }
    let tables : Storage Tables := { committed := (Tables.migrateUp now none {}).2, now }
    let noted := some Migration.noted
    (∀ cs : List (Command × (Nat → Instant)),
      let inMemory := Backend.memory.performAll e cs memory
      let inTables := Backend.tables.performAll e cs tables
      inMemory.1 = inTables.1 ∧ inTables.2.committed = inMemory.2.committed.tables noted) ∧
    ∀ gs : List Gesture, Gesture.Obeys gs memory →
      let inMemory := Gesture.runAll Backend.memory.keeper gs memory
      let inTables := Gesture.runAll Backend.tables.keeper gs tables
      List.Forall₂ Reply.Alike inMemory.1 inTables.1 ∧
        inTables.2.committed = inMemory.2.committed.tables noted ∧
        inTables.2.working = inMemory.2.working.map (·.tables noted) := by
  intro memory tables noted
  have start : Stands noted .memory memory ⟨.stocked now, none⟩ :=
    .start (k := .memory) (Backend.storable_stock now .tables) now
  have start' : Stands noted .tables tables ⟨.stocked now, none⟩ := .fresh now .tables
  refine ⟨fun cs => ?_, fun gs hgs => ?_⟩
  · obtain ⟨outcomes, b, h, h'⟩ := performAll_alike hm cs start start'
    exact ⟨outcomes, (image h h').1⟩
  · obtain ⟨replies, x, h, h'⟩ := gestures_alike start start' hgs
    exact ⟨replies, image h h'⟩

/-- Two transfers, the second of which is made in the year 10000, and then a look at the ledger. -/
def turnOfTheYear : List Gesture :=
  let before : Instant := ⟨253402300799, 0⟩
  let after : Instant := ⟨253402300800, 0⟩
  [.call before (.begin none),
    .call before (.within (.insertAccount ⟨"ann", "", 10⟩)),
    .call before (.within (.insertAccount ⟨"bob", "", 10⟩)),
    .call before (.within (.append ⟨1, 2, 1, .transfer, none⟩)),
    .call after (.within (.append ⟨1, 2, 1, .transfer, none⟩)),
    .call after (.within (.entriesFor 1))]

theorem turnOfTheYear_obeys :
    Gesture.Obeys turnOfTheYear { committed := .stocked default, now := default } := by
  have fits : (0 : Int) ≤ 10 ∧ (10 : Int) ≤ maxCoins := by decide
  refine ⟨trivial, fun w hw => ?_, fun w hw => ?_, fun w hw => ?_, fun w hw => ?_,
    fun _ _ => trivial, trivial⟩
  · cases hw
    exact fits
  · cases hw
    exact fits
  · cases hw
    exact ⟨by decide, rfl, rfl, nofun⟩
  · cases hw
    exact ⟨by decide, rfl, rfl, nofun⟩

/-- Somebody who is registered and buys a cup, and calls over the turn of a year. -/
theorem stores_agree_ann :
    let e : Engine := {}
    let memory : Storage Books := { committed := .stocked default, now := default }
    let tables : Storage Tables :=
      { committed := (Tables.migrateUp default none {}).2, now := default }
    let cs : List (Command × (Nat → Instant)) :=
      [(.register "ann" "secret" (.replicate 7), fun _ => default),
        (.purchase 1 "cup" none, fun _ => default), (.history 1, fun _ => default)]
    e.initialBalance ≤ maxCoins ∧ Gesture.Obeys turnOfTheYear memory ∧
      (Backend.memory.performAll e cs memory).1 = (Backend.tables.performAll e cs tables).1 ∧
      List.Forall₂ Reply.Alike (Gesture.runAll Backend.memory.keeper turnOfTheYear memory).1
        (Gesture.runAll Backend.tables.keeper turnOfTheYear tables).1 := by
  intro e memory tables cs
  have hm : e.initialBalance ≤ maxCoins := show defaultGrant ≤ maxCoins by decide
  obtain ⟨commands, calls⟩ := stores_agree hm default
  exact ⟨hm, turnOfTheYear_obeys, (commands cs).1, (calls _ turnOfTheYear_obeys).1⟩

/-- The numbers of the entries in a reply. -/
def Reply.listed : Option Reply → List EntryId
  | some ⟨.within (.entriesFor _), .ok entries⟩ => entries.map (·.id)
  | _ => []

set_option maxRecDepth 4000 in
/-- In memory the entry of the year 10000 is the newer one. In tables its time begins with a sign,
which comes before all digits. -/
theorem entriesFor_order_differs :
    let memory : Storage Books := { committed := .stocked default, now := default }
    let tables : Storage Tables :=
      { committed := (Tables.migrateUp default none {}).2, now := default }
    Gesture.Obeys turnOfTheYear memory ∧
      (Gesture.runAll Backend.memory.keeper turnOfTheYear memory).1.map Reply.listed =
        [[], [], [], [], [], [2, 1]] ∧
      (Gesture.runAll Backend.tables.keeper turnOfTheYear tables).1.map Reply.listed =
        [[], [], [], [], [], [1, 2]] := by
  refine ⟨turnOfTheYear_obeys, ?_, ?_⟩
  · decide_cbv
  · decide_cbv

end Scrip
