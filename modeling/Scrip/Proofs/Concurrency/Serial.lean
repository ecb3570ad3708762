import Mathlib.Logic.Function.Basic
import Scrip.Store.Storage

/-!
# Units one at a time

Clients whose units of work are carried out one at a time, each as a whole. An
`Episode` is one unit of one client: how the client was about to go on before it, the
clock at its requests, how it ended and how the client goes on after it.

* `Episode.Alone`: an episode by itself, from one committed state to the next;
* `Serial.Run`: episodes one after another, with what clients do between units;
* `Replay`: episodes one after another and nothing else;
* `Serial.Run.replay`: the episodes that committed, by themselves, leave what all left.
-/

namespace Scrip

variable {ι σ α : Type}

/-- The requests of a unit on its copy, one for each reading of the clock: how the client goes
on after them, and the copy. -/
def requests (keeper : Keeper σ) : List Instant → Exchange α → σ → Option (Exchange α × σ)
  | [], d, copy => some (d, copy)
  | now :: clock, .ask (.within r) next, copy =>
    match keeper now copy r with
    | .ok (answer, copy') => requests keeper clock (next (.ok answer)) copy'
    | .error e => requests keeper clock (next (.error (.failed e))) copy
  | _ :: _, _, _ => none

/-- One more request, which is answered. -/
theorem requests_answered {keeper : Keeper σ} {now : Instant} {r : Request} {a : r.Answer}
    {next : r.Reply → Exchange α} {copy copy' : σ} (ha : keeper now copy r = .ok (a, copy')) :
    ∀ {clock : List Instant} {d : Exchange α} {b : σ},
      requests keeper clock d b = some (.ask (.within r) next, copy) →
      requests keeper (clock ++ [now]) d b = some (next (.ok a), copy')
  | [], _, _, h => by
    cases h
    simp only [List.nil_append, requests, ha]
  | t :: clock, .ask (.within r') next', b, h => by
    simp only [List.cons_append, requests] at h ⊢
    split at h <;> exact requests_answered ha h

/-- One more request, which fails. -/
theorem requests_failed {keeper : Keeper σ} {now : Instant} {r : Request} {e : StoreError}
    {next : r.Reply → Exchange α} {copy : σ} (he : keeper now copy r = .error e) :
    ∀ {clock : List Instant} {d : Exchange α} {b : σ},
      requests keeper clock d b = some (.ask (.within r) next, copy) →
      requests keeper (clock ++ [now]) d b = some (next (.error (.failed e)), copy)
  | [], _, _, h => by
    cases h
    simp only [List.nil_append, requests, he]
  | t :: clock, .ask (.within r') next', b, h => by
    simp only [List.cons_append, requests] at h ⊢
    split at h <;> exact requests_failed he h

/-- How a unit ends. -/
inductive Ending where
  | committed
  | rolledBack
  /-- The deadline passed, or the client left. -/
  | abandoned
  deriving DecidableEq, Repr

/-- What comes back for a call when the deadline passes. A commit is awaited however long it
takes. -/
def Call.expired? : (c : Call) → Option c.Reply
  | begin _ => some (.error .expired)
  | within _ => some (.error .expired)
  | commit => none
  | rollback => some (.error .expired)

/-- One unit of work of one client. -/
structure Episode (ι α : Type) where
  client : ι
  /-- How the client was about to go on. -/
  opening : Exchange α
  /-- What the clock showed at the requests. -/
  clock : List Instant
  ending : Ending
  /-- How the client goes on, unless it left. -/
  closing : Option (Exchange α)

/-- The episode, carried out by itself, takes the first committed state to the second. -/
inductive Episode.Alone (keeper : Keeper σ) : Episode ι α → σ → σ → Prop
  | commits {i : ι} {limit : Option Nat} {next : Except Lapse Unit → Exchange α}
      {clock : List Instant} {next' : Except StoreError Unit → Exchange α} {b b' : σ}
      (h : requests keeper clock (next (.ok ())) b = some (.ask .commit next', b')) :
      Alone keeper ⟨i, .ask (.begin limit) next, clock, .committed, some (next' (.ok ()))⟩ b b'
  | rollsBack {i : ι} {limit : Option Nat} {next : Except Lapse Unit → Exchange α}
      {clock : List Instant} {next' : Except Lapse Unit → Exchange α} {b copy : σ}
      (h : requests keeper clock (next (.ok ())) b = some (.ask .rollback next', copy)) :
      Alone keeper ⟨i, .ask (.begin limit) next, clock, .rolledBack, some (next' (.ok ()))⟩ b b
  | expires {i : ι} {limit : Option Nat} {next : Except Lapse Unit → Exchange α}
      {clock : List Instant} {c : Call} {next' : c.Reply → Exchange α} {reply : c.Reply}
      {b copy : σ} (h : requests keeper clock (next (.ok ())) b = some (.ask c next', copy))
      (hr : c.expired? = some reply) :
      Alone keeper ⟨i, .ask (.begin limit) next, clock, .abandoned, some (next' reply)⟩ b b
  | leaves {i : ι} {limit : Option Nat} {next : Except Lapse Unit → Exchange α}
      {clock : List Instant} {d : Exchange α} {b copy : σ}
      (h : requests keeper clock (next (.ok ())) b = some (d, copy)) :
      Alone keeper ⟨i, .ask (.begin limit) next, clock, .abandoned, none⟩ b b

/-- Nothing comes after the end of a dialogue. -/
theorem Episode.Alone.opening_ne_done {keeper : Keeper σ} {x : Episode ι α} {b b' : σ}
    (h : x.Alone keeper b b') (a : α) : x.opening ≠ .done a := by
  cases h <;> exact nofun

/-- A unit that does not commit leaves no trace. -/
theorem Episode.Alone.eq_of_not_committed {keeper : Keeper σ} {x : Episode ι α} {b b' : σ}
    (h : x.Alone keeper b b') (hx : x.ending ≠ .committed) : b' = b := by
  cases h with
  | commits => exact absurd rfl hx
  | rollsBack | expires | leaves => rfl

/-- Episodes one after another. -/
def Replay (keeper : Keeper σ) : List (Episode ι α) → σ → σ → Prop
  | [], b, b' => b' = b
  | x :: xs, b, b' => ∃ c, x.Alone keeper b c ∧ Replay keeper xs c b'

theorem Replay.snoc {keeper : Keeper σ} {x : Episode ι α} {c b' : σ} (hx : x.Alone keeper c b') :
    ∀ {xs : List (Episode ι α)} {b : σ}, Replay keeper xs b c → Replay keeper (xs ++ [x]) b b'
  | [], _, h => ⟨b', h ▸ hx, rfl⟩
  | _ :: _, _, ⟨c, hy, h⟩ => ⟨c, hy, h.snoc hx⟩

/-- What clients do when their units are carried out as a whole. -/
inductive Move (ι α : Type) where
  | unit (x : Episode ι α)
  /-- The deadline passes while a client waits for its unit to begin. -/
  | expires (i : ι)
  /-- A client leaves between units. -/
  | leaves (i : ι)

/-- The episode of a move. -/
def Move.episode? : Move ι α → Option (Episode ι α)
  | unit x => some x
  | _ => none

/-- The episodes among moves. -/
def episodes (moves : List (Move ι α)) : List (Episode ι α) :=
  moves.filterMap Move.episode?

/-- What is committed, and how each client goes on that has not left. -/
structure Serial (ι σ α : Type) where
  committed : σ
  client : ι → Option (Exchange α)

namespace Serial

variable [DecidableEq ι] {keeper : Keeper σ}

/-- One move. -/
inductive Step (keeper : Keeper σ) : Serial ι σ α → Move ι α → Serial ι σ α → Prop
  | unit {T : Serial ι σ α} {x : Episode ι α} {b' : σ} (hc : T.client x.client = some x.opening)
      (h : x.Alone keeper T.committed b') :
      Step keeper T (.unit x) ⟨b', Function.update T.client x.client x.closing⟩
  | expires {T : Serial ι σ α} {i : ι} {c : Call} {next : c.Reply → Exchange α} {reply : c.Reply}
      (hc : T.client i = some (.ask c next)) (hr : c.expired? = some reply) :
      Step keeper T (.expires i)
        { T with client := Function.update T.client i (some (next reply)) }
  | leaves {T : Serial ι σ α} {i : ι} {d : Exchange α} (hc : T.client i = some d) :
      Step keeper T (.leaves i) { T with client := Function.update T.client i none }

/-- Moves one after another. -/
inductive Run (keeper : Keeper σ) (T₀ : Serial ι σ α) : List (Move ι α) → Serial ι σ α → Prop
  | refl : Run keeper T₀ [] T₀
  | step {moves : List (Move ι α)} {move : Move ι α} {T T' : Serial ι σ α}
      (h : Run keeper T₀ moves T) (hs : Step keeper T move T') :
      Run keeper T₀ (moves ++ [move]) T'

/-- The episodes that committed, by themselves, leave what all moves left. -/
theorem Run.replay {T₀ T : Serial ι σ α} {moves : List (Move ι α)} (h : Run keeper T₀ moves T) :
    Replay keeper ((episodes moves).filter (·.ending = .committed)) T₀.committed
      T.committed := by
  induction h with
  | refl => rfl
  | step _ hs ih =>
    rw [episodes, List.filterMap_append, List.filter_append]
    cases hs with
    | @unit x b' hc hx =>
      by_cases he : x.ending = .committed
      · have : ([Move.unit x].filterMap Move.episode?).filter (·.ending = .committed) = [x] := by
          simp only [List.filterMap_cons, Move.episode?, List.filterMap_nil, List.filter_cons, he,
            decide_true, if_true, List.filter_nil]
        rw [this]
        exact ih.snoc hx
      · have : ([Move.unit x].filterMap Move.episode?).filter (·.ending = .committed) = [] := by
          simp only [List.filterMap_cons, Move.episode?, List.filterMap_nil, List.filter_cons, he,
            decide_false, Bool.false_eq_true, if_false, List.filter_nil]
        rw [this, List.append_nil, hx.eq_of_not_committed he]
        exact ih
    | expires | leaves =>
      exact (List.append_nil _).symm ▸ ih

end Serial

end Scrip
