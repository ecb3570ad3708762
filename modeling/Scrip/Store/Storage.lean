import Scrip.Store.Unit

/-!
# Storages

Something that answers requests, with units of work around them. One unit is open at a time. It
works on a copy of what is committed, which takes its place at the commit.

* `Storage.party`: the surroundings of a dialogue of calls.
* `Storage.party_begin`, `Storage.party_commit`: how a unit is opened, and how its copy takes that
  place.
-/

namespace Scrip

/-- What answers requests: the answer and the state afterwards, or how the request fails. -/
abbrev Keeper (σ : Type) : Type :=
  Instant → σ → (r : Request) → Except StoreError (r.Answer × σ)

/-- A state with a unit that may be open on it, and the time. -/
structure Storage (σ : Type) where
  committed : σ
  /-- The copy on which the open unit works. -/
  working : Option σ := none
  now : Instant
  deriving Repr

namespace Storage

variable {σ : Type}

/-- The storage a second later. -/
def tick (s : Storage σ) : Storage σ :=
  { s with now := { s.now with seconds := s.now.seconds + 1 } }

/-- Leaves the open unit, whose changes are lost. -/
def drop (s : Storage σ) : Storage σ :=
  { s with working := none }

/-- A request inside the open unit. A request that fails changes nothing. -/
def request (keeper : Keeper σ) (r : Request) (s : Storage σ) : r.Reply × Storage σ :=
  match s.working with
  | none => (.error (.failed .database), s)
  | some state =>
    match keeper s.now state r with
    | .ok (answer, state) => (.ok answer, { s with working := some state }.tick)
    | .error e => (.error (.failed e), s.tick)

/-- The storage as the surroundings of a dialogue. While a unit is open the next one waits until
its deadline. -/
def party (keeper : Keeper σ) : Dialogue.Party Call Call.Reply (Storage σ)
  | .begin _, s =>
    match s.working with
    | none => (.ok (), { s with working := some s.committed }.tick)
    | some _ => (.error .expired, s)
  | .within r, s => s.request keeper r
  | .commit, s =>
    match s.working with
    | none => (.error .database, s)
    | some state => (.ok (), { s with committed := state, working := none })
  | .rollback, s => (.ok (), s.drop)

theorem party_begin (keeper : Keeper σ) (limit : Option Nat) (s : Storage σ)
    (h : s.working = none) :
    s.party keeper (.begin limit) = (.ok (), { s with working := some s.committed }.tick) := by
  simp only [party, h]

theorem party_commit (keeper : Keeper σ) (s : Storage σ) (state : σ)
    (h : s.working = some state) :
    s.party keeper .commit = (.ok (), { s with committed := state, working := none }) := by
  simp only [party, h]

end Storage

end Scrip
