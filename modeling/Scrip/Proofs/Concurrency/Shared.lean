import Scrip.Engine.Command
import Scrip.Proofs.Concurrency.Serial
import Scrip.Store.Books

/-!
# Units of clients that share a storage

Clients that share one storage take their steps in any order (`Shared.Step`). To begin a
unit is to wait for the lock and to copy what is committed; requests work on the copy; a
commit puts the copy in the place of what was committed. A deadline may pass before any
call but a commit, and a client may leave at any moment.

The state of such a system is mirrored by one in which units are carried out as a whole,
each at the moment of its end (`Mirrors`). A step that ends a unit is one move there
and any other step of a unit is none (`Mirrors.step`).
-/

namespace Scrip

variable {ι σ α : Type}

/-- A storage and the clients that share it. -/
structure Shared (ι σ α : Type) where
  committed : σ
  /-- The client whose unit is open. -/
  lock : Option ι := none
  /-- The copy on which the unit of a client works. -/
  copy : ι → Option σ := fun _ => none
  /-- How each client goes on that has not left. -/
  client : ι → Option (Exchange α)

namespace Shared

/-- Whether a call of a client is answered now. A unit begins when none is open, and has to be
open for all other calls. -/
def Turn (S : Shared ι σ α) (i : ι) : Call → Prop
  | .begin _ => S.lock = none
  | _ => S.lock = some i

/-- The storage as a client sees it. -/
def view (S : Shared ι σ α) (i : ι) (now : Instant) : Storage σ :=
  ⟨S.committed, S.copy i, now⟩

/-- How a unit ends with a call that is answered, if it does. -/
def ending? : Call → Option Ending
  | .commit => some .committed
  | .rollback => some .rolledBack
  | _ => none

section Turn

variable {S : Shared ι σ α} {i j : ι}

theorem Turn.lock {c : Call} (turn : S.Turn i c) : S.lock = none ∨ S.lock = some i := by
  cases c with
  | begin => exact .inl turn
  | within | commit | rollback => exact .inr turn

/-- While it is the turn of a client no other one has the lock. -/
theorem lock_ne (turn : S.lock = none ∨ S.lock = some i) (h : j ≠ i) : S.lock ≠ some j := by
  rcases turn with hl | hl
  · rw [hl]
    exact nofun
  · rw [hl]
    exact fun he => h (Option.some.inj he).symm

end Turn

variable [DecidableEq ι]

/-- The system after a call was answered to a client that holds the lock while it has a copy. -/
def answered (S : Shared ι σ α) (i : ι) (s : Storage σ) (d : Exchange α) : Shared ι σ α :=
  { committed := s.committed
    lock := s.working.map fun _ => i
    copy := Function.update S.copy i s.working
    client := Function.update S.client i (some d) }

/-- The system after a client gave up its unit, if it had one. -/
def abandoned (S : Shared ι σ α) (i : ι) (d : Option (Exchange α)) : Shared ι σ α :=
  { S with
    lock := if S.lock = some i then none else S.lock
    copy := Function.update S.copy i none
    client := Function.update S.client i d }

/-- The unit that a client gives up. -/
def abandoned? (S : Shared ι σ α) (i : ι) : Option (ι × Ending) :=
  if S.lock = some i then some (i, .abandoned) else none

section Fields

variable {S : Shared ι σ α} {i j : ι}

@[simp] theorem client_answered_self (s : Storage σ) (d : Exchange α) :
    (S.answered i s d).client i = some d :=
  Function.update_self ..

@[simp] theorem copy_answered_self (s : Storage σ) (d : Exchange α) :
    (S.answered i s d).copy i = s.working :=
  Function.update_self ..

theorem client_answered_of_ne (h : j ≠ i) (s : Storage σ) (d : Exchange α) :
    (S.answered i s d).client j = S.client j :=
  Function.update_of_ne h ..

theorem copy_answered_of_ne (h : j ≠ i) (s : Storage σ) (d : Exchange α) :
    (S.answered i s d).copy j = S.copy j :=
  Function.update_of_ne h ..

@[simp] theorem client_abandoned_self (d : Option (Exchange α)) : (S.abandoned i d).client i = d :=
  Function.update_self ..

@[simp] theorem copy_abandoned_self (d : Option (Exchange α)) : (S.abandoned i d).copy i = none :=
  Function.update_self ..

theorem client_abandoned_of_ne (h : j ≠ i) (d : Option (Exchange α)) :
    (S.abandoned i d).client j = S.client j :=
  Function.update_of_ne h ..

theorem copy_abandoned_of_ne (h : j ≠ i) (d : Option (Exchange α)) :
    (S.abandoned i d).copy j = S.copy j :=
  Function.update_of_ne h ..

/-- A client that gave up its unit has no lock, and the locks of others are as they were. -/
theorem lock_abandoned (d : Option (Exchange α)) :
    (S.abandoned i d).lock = some j ↔ j ≠ i ∧ S.lock = some j := by
  simp only [abandoned]
  split
  · rename_i hl
    rw [hl]
    refine iff_of_false (fun h => ?_) fun h => h.1 (Option.some.inj h.2).symm
    cases h
  · rename_i hl
    exact ⟨fun h => ⟨fun he => hl (he ▸ h), h⟩, And.right⟩

theorem lock_answered_ne (h : j ≠ i) (s : Storage σ) (d : Exchange α) :
    (S.answered i s d).lock ≠ some j := by
  show s.working.map _ ≠ _
  cases s.working with
  | none => exact nofun
  | some w => exact fun he => h (Option.some.inj he).symm

end Fields

/-- One step of one client, with the unit that it ends, if it ends one. -/
inductive Step (keeper : Keeper σ) :
    Shared ι σ α → Option (ι × Ending) → Shared ι σ α → Prop
  | call {S : Shared ι σ α} {i : ι} {c : Call} {next : c.Reply → Exchange α} (now : Instant)
      (hc : S.client i = some (.ask c next)) (turn : S.Turn i c) :
      Step keeper S ((ending? c).map fun ending => (i, ending))
        (S.answered i ((S.view i now).party keeper c).2 (next ((S.view i now).party keeper c).1))
  | expires {S : Shared ι σ α} {i : ι} {c : Call} {next : c.Reply → Exchange α} {reply : c.Reply}
      (hc : S.client i = some (.ask c next)) (hr : c.expired? = some reply) :
      Step keeper S (S.abandoned? i) (S.abandoned i (some (next reply)))
  | leaves {S : Shared ι σ α} {i : ι} {d : Exchange α} (hc : S.client i = some d) :
      Step keeper S (S.abandoned? i) (S.abandoned i none)

/-- Steps one after another, with the units in the order in which they ended. -/
inductive Run (keeper : Keeper σ) (S₀ : Shared ι σ α) :
    List (ι × Ending) → Shared ι σ α → Prop
  | refl : Run keeper S₀ [] S₀
  | step {log : List (ι × Ending)} {ended : Option (ι × Ending)} {S S' : Shared ι σ α}
      (h : Run keeper S₀ log S) (hs : Step keeper S ended S') :
      Run keeper S₀ (log ++ ended.toList) S'

end Shared

/-! ## The system of whole units -/

/-- The client and the ending of an episode. -/
def Episode.end (x : Episode ι α) : ι × Ending :=
  (x.client, x.ending)

/-- The two systems agree on what is committed and on all clients outside a unit. A client
inside one has, since its beginning, seen only what is committed and what it wrote itself. -/
structure Mirrors (keeper : Keeper σ) (T : Serial ι σ α) (S : Shared ι σ α) : Prop where
  committed : T.committed = S.committed
  outside : ∀ i, S.lock ≠ some i → T.client i = S.client i ∧ S.copy i = none
  inside : ∀ i, S.lock = some i → ∃ limit next clock d copy,
    T.client i = some (.ask (.begin limit) next) ∧
    requests keeper clock (next (.ok ())) S.committed = some (d, copy) ∧
    S.client i = some d ∧ S.copy i = some copy

namespace Mirrors

variable {keeper : Keeper σ} {T : Serial ι σ α} {S : Shared ι σ α}

/-- How a client came to where it is inside its unit. -/
theorem opened (hm : Mirrors keeper T S) {i : ι} {d : Exchange α} (hl : S.lock = some i)
    (hc : S.client i = some d) :
    ∃ limit next clock copy, T.client i = some (.ask (.begin limit) next) ∧
      requests keeper clock (next (.ok ())) T.committed = some (d, copy) ∧
      S.copy i = some copy := by
  obtain ⟨limit, next, clock, d', copy, hT, hr, hd, hcopy⟩ := hm.inside i hl
  cases hc.symm.trans hd
  exact ⟨limit, next, clock, copy, hT, hm.committed ▸ hr, hcopy⟩

variable [DecidableEq ι]

/-- The unit of a client ends, and the client goes on. -/
theorem ended (hm : Mirrors keeper T S) {i : ι} (hl : S.lock = some i) (b : σ)
    (d : Option (Exchange α)) :
    Mirrors keeper ⟨b, Function.update T.client i d⟩
      ⟨b, none, Function.update S.copy i none, Function.update S.client i d⟩ := by
  refine ⟨rfl, fun j _ => ?_, fun j hj => by cases hj⟩
  by_cases hji : j = i
  · subst hji
    simp only [Function.update_self, and_self]
  · have := hm.outside j (by rw [hl]; exact fun h => hji (Option.some.inj h).symm)
    simpa only [Function.update_of_ne hji] using this

/-- A client outside a unit goes on. -/
theorem goesOn (hm : Mirrors keeper T S) {i : ι} (hl : S.lock ≠ some i)
    (d : Option (Exchange α)) :
    Mirrors keeper { T with client := Function.update T.client i d } (S.abandoned i d) := by
  have hlock : (S.abandoned i d).lock = S.lock := if_neg hl
  refine ⟨hm.committed, fun j hj => ?_, fun j hj => ?_⟩
  · rw [hlock] at hj
    by_cases hji : j = i
    · subst hji
      simp only [Shared.abandoned, Function.update_self, and_self]
    · simpa only [Shared.abandoned, Function.update_of_ne hji] using hm.outside j hj
  · rw [hlock] at hj
    have hji : j ≠ i := fun h => hl (h ▸ hj)
    simpa only [Shared.abandoned, Function.update_of_ne hji] using hm.inside j hj

/-- A unit begins with a copy of what is committed. -/
theorem begins (hm : Mirrors keeper T S) {i : ι} {limit : Option Nat}
    {next : Except Lapse Unit → Exchange α} (hc : S.client i = some (.ask (.begin limit) next))
    (hl : S.lock = none) :
    Mirrors keeper T
      ⟨S.committed, some i, Function.update S.copy i (some S.committed),
        Function.update S.client i (some (next (.ok ())))⟩ := by
  refine ⟨hm.committed, fun j hj => ?_, fun j hj => ?_⟩
  · have hji : j ≠ i := fun h => hj (h ▸ rfl)
    simpa only [Function.update_of_ne hji] using hm.outside j (by rw [hl]; exact nofun)
  · cases hj
    have h := hm.outside i (by rw [hl]; exact nofun)
    exact ⟨limit, next, [], _, _, h.1.trans hc, rfl, Function.update_self ..,
      Function.update_self ..⟩

/-- An open unit goes on from its copy, after one more reading of the clock. -/
theorem goesOnInside (hm : Mirrors keeper T S) {i : ι} {d d' : Exchange α} {copy copy' : σ}
    {now : Instant} (hl : S.lock = some i) (hd : S.client i = some d) (hcopy : S.copy i = some copy)
    (hr : ∀ clock d₀, requests keeper clock d₀ S.committed = some (d, copy) →
      requests keeper (clock ++ [now]) d₀ S.committed = some (d', copy')) :
    Mirrors keeper T
      ⟨S.committed, some i, Function.update S.copy i (some copy'),
        Function.update S.client i (some d')⟩ := by
  refine ⟨hm.committed, fun j hj => ?_, fun j hj => ?_⟩
  · have hji : j ≠ i := fun h => hj (h ▸ rfl)
    simpa only [Function.update_of_ne hji] using hm.outside j (by rw [hl]; exact hj)
  · cases hj
    obtain ⟨limit, next, clock, d₁, copy₁, hT, h, hd₁, hcopy₁⟩ := hm.inside i hl
    cases hd.symm.trans hd₁
    cases hcopy.symm.trans hcopy₁
    exact ⟨limit, next, clock ++ [now], d', copy', hT, hr _ _ h, Function.update_self ..,
      Function.update_self ..⟩

/-- A request of an open unit is answered from its copy. -/
theorem within (hm : Mirrors keeper T S) {i : ι} {r : Request} {next : r.Reply → Exchange α}
    (now : Instant) (hl : S.lock = some i) (hc : S.client i = some (.ask (.within r) next)) :
    Mirrors keeper T (S.answered i ((S.view i now).party keeper (.within r)).2
      (next ((S.view i now).party keeper (.within r)).1)) := by
  obtain ⟨_, _, _, copy, _, _, hcopy⟩ := hm.opened hl hc
  simp only [Storage.party, Storage.request, Shared.view, hcopy]
  cases ha : keeper now copy r with
  | ok a =>
    exact hm.goesOnInside hl hc hcopy fun clock d₀ h => requests_answered ha h
  | error e =>
    exact hm.goesOnInside hl hc hcopy fun clock d₀ h => requests_failed ha h

/-- A step that ends a unit is a move of the other system, and so is what a client does outside
of units. All other steps are none. -/
theorem step (hm : Mirrors keeper T S) {ended : Option (ι × Ending)} {S' : Shared ι σ α}
    (hs : Shared.Step keeper S ended S') :
    (ended = none ∧ Mirrors keeper T S') ∨
      ∃ move T', Serial.Step keeper T move T' ∧
        move.episode?.map Episode.end = ended ∧ Mirrors keeper T' S' := by
  cases hs with
  | @call i c next now hc turn =>
    cases c with
    | begin limit =>
      have hcopy := (hm.outside i (by rw [show S.lock = none from turn]; exact nofun)).2
      refine .inl ⟨rfl, ?_⟩
      simp only [Storage.party, Shared.view, hcopy]
      exact hm.begins hc turn
    | within r => exact .inl ⟨rfl, hm.within now turn hc⟩
    | commit =>
      obtain ⟨limit, next₀, clock, copy, hT, hr, hcopy⟩ := hm.opened turn hc
      refine .inr ⟨_, _, .unit (x := ⟨i, _, clock, .committed, _⟩) hT (.commits hr), rfl, ?_⟩
      simp only [Storage.party, Shared.view, hcopy]
      exact hm.ended turn _ _
    | rollback =>
      obtain ⟨limit, next₀, clock, copy, hT, hr, hcopy⟩ := hm.opened turn hc
      refine .inr ⟨_, _, .unit (x := ⟨i, _, clock, .rolledBack, _⟩) hT (.rollsBack hr), rfl, ?_⟩
      rw [hm.committed]
      exact hm.ended turn _ _
  | @expires i c next reply hc hreply =>
    by_cases hl : S.lock = some i
    · obtain ⟨limit, next₀, clock, copy, hT, hr, hcopy⟩ := hm.opened hl hc
      refine .inr ⟨_, _, .unit (x := ⟨i, _, clock, .abandoned, _⟩) hT (.expires hr hreply), ?_, ?_⟩
      · exact (if_pos hl).symm
      · rw [Shared.abandoned, if_pos hl, hm.committed]
        exact hm.ended hl _ _
    · exact .inr ⟨_, _, .expires ((hm.outside i hl).1.trans hc) hreply, (if_neg hl).symm,
        hm.goesOn hl _⟩
  | @leaves i d hc =>
    by_cases hl : S.lock = some i
    · obtain ⟨limit, next₀, clock, copy, hT, hr, hcopy⟩ := hm.opened hl hc
      refine .inr ⟨_, _, .unit (x := ⟨i, _, clock, .abandoned, _⟩) hT (.leaves hr), ?_, ?_⟩
      · exact (if_pos hl).symm
      · rw [Shared.abandoned, if_pos hl, hm.committed]
        exact hm.ended hl _ _
    · exact .inr ⟨_, _, .leaves ((hm.outside i hl).1.trans hc), (if_neg hl).symm, hm.goesOn hl _⟩

end Mirrors

/-- Every run is mirrored by moves in which units are carried out as a whole, in the order in
which they ended. -/
theorem Shared.Run.mirrored [DecidableEq ι] {keeper : Keeper σ} {S₀ S : Shared ι σ α}
    {log : List (ι × Ending)} (h : Shared.Run keeper S₀ log S) {T₀ : Serial ι σ α}
    (hm : Mirrors keeper T₀ S₀) :
    ∃ moves T, Serial.Run keeper T₀ moves T ∧ (episodes moves).map Episode.end = log ∧
      Mirrors keeper T S := by
  induction h with
  | refl => exact ⟨[], T₀, .refl, rfl, hm⟩
  | step _ hs ih =>
    obtain ⟨moves, T, hrun, hlog, hm⟩ := ih
    rcases hm.step hs with ⟨rfl, hm'⟩ | ⟨move, T', hstep, rfl, hm'⟩
    · exact ⟨moves, T, hrun, by rw [hlog]; exact (List.append_nil _).symm, hm'⟩
    · refine ⟨moves ++ [move], T', hrun.step hstep, ?_, hm'⟩
      rw [episodes, List.filterMap_append, List.map_append, ← hlog]
      congr 1
      cases move <;> rfl

/-- Clients of books in memory, interleaved in any way and giving up units at any moment. Each
unit, as it went, is a unit carried out by itself on what the units that ended before it left;
those that committed, by themselves and in the order of their commits, leave what is committed;
and whoever is inside a unit has seen only what is committed and what it wrote itself. -/
theorem units_serializable [DecidableEq ι] {b : Books} {client : ι → Option (Exchange α)}
    {log : List (ι × Ending)} {S : Shared ι Books α}
    (h : Shared.Run Books.answer { committed := b, client } log S) :
    ∃ moves T, Serial.Run Books.answer ⟨b, client⟩ moves T ∧
      (episodes moves).map Episode.end = log ∧
      Replay Books.answer ((episodes moves).filter (·.ending = .committed)) b S.committed ∧
      Mirrors Books.answer T S := by
  have quiet : Mirrors Books.answer ⟨b, client⟩ { committed := b, client } :=
    ⟨rfl, fun _ _ => ⟨rfl, rfl⟩, fun _ h => by cases h⟩
  obtain ⟨moves, T, hrun, hlog, hm⟩ := h.mirrored quiet
  exact ⟨moves, T, hrun, hlog, hm.committed ▸ hrun.replay, hm⟩

/-- Two clients buy a cup for the same account. One of them leaves after it took the price, and the
other one is charged all the same, once. -/
theorem units_serializable_cup :
    let b : Books :=
      { accounts := [⟨1, "alice", "", 30, default⟩]
        items := [⟨1, "cup", 20, default⟩]
        sequences := { account := 1, item := 1 } }
    let client (_ : Bool) := some (Engine.perform {} (.purchase 1 "cup" none))
    let log := [(true, Ending.abandoned), (false, .committed)]
    ∃ S, Shared.Run Books.answer { committed := b, client } log S ∧
      S.committed.accounts.map (·.coins) = [10] ∧ S.committed.ledger.length = 1 ∧
      ∃ moves T, Serial.Run Books.answer ⟨b, client⟩ moves T ∧
        (episodes moves).map Episode.end = log ∧
        Replay Books.answer ((episodes moves).filter (·.ending = .committed)) b S.committed ∧
        Mirrors Books.answer T S := by
  intro b client log
  have start : Shared.Run Books.answer { committed := b, client } [] _ := .refl
  have begun := start.step (.call (i := true) default rfl rfl)
  have found := begun.step (.call (i := true) default rfl rfl)
  have locked := found.step (.call (i := true) default rfl rfl)
  have paid := locked.step (.call (i := true) default rfl rfl)
  have left := paid.step (.leaves (i := true) rfl)
  have begun := left.step (.call (i := false) default rfl rfl)
  have found := begun.step (.call (i := false) default rfl rfl)
  have locked := found.step (.call (i := false) default rfl rfl)
  have paid := locked.step (.call (i := false) default rfl rfl)
  have looked := paid.step (.call (i := false) default rfl rfl)
  have taken := looked.step (.call (i := false) default rfl rfl)
  have noted := taken.step (.call (i := false) default rfl rfl)
  have bought := noted.step (.call (i := false) default rfl rfl)
  exact ⟨_, bought, rfl, rfl, units_serializable bought⟩

end Scrip
