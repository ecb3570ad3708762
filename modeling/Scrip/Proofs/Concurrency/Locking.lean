import Mathlib.Logic.Relation
import Mathlib.Order.WellFounded
import Mathlib.Data.Fintype.Defs
import Scrip.Proofs.Engine.Locks

/-!
# Movements on a store that locks rows

Clients whose units overlap (`Locking.Step`). A row that a client locked or wrote to is kept for it
until its unit ends, and whoever needs the row meanwhile waits (`Locking.Waits`). What the store
answers is otherwise left open.

A client waits only for an account that it is about to lock (`Held.wants`), and all that it holds
is below that account (`Held.below`). So movements never wait for one another in a circle
(`movements_heed_locks`), and one of them can always go on (`Locking.exists_turn`).
-/

namespace Scrip

open Exchange.Heeds (Settled)

/-- What is locked in a store: the row of an account or of a holding. -/
inductive Row where
  | account (id : AccountId)
  | holding (account : AccountId) (item : ItemId)
  deriving DecidableEq, Repr

/-- The row that a call has to have for itself, if there is one. -/
def Call.row? : Call → Option Row
  | .within (.lockAccount id) => some (.account id)
  | .within (.debit id _) | .within (.credit id _) => some (.account id)
  | .within (.incrementHolding account item) => some (.holding account item)
  | .within (.insertHolding account item) => some (.holding account item)
  | _ => none

theorem Call.locks_or_changes {c : Call} {id : AccountId} (h : c.row? = some (.account id)) :
    c.locks? = some id ∨ c.changes? = some id := by
  unfold row? at h
  split at h <;> cases h
  · exact .inl rfl
  · exact .inr rfl
  · exact .inr rfl

theorem Call.changes_holding {c : Call} {id : AccountId} {item : ItemId}
    (h : c.row? = some (.holding id item)) : c.changes? = some id := by
  unfold row? at h
  split at h <;> cases h <;> rfl

/-- An account that was found now is the row of the call. -/
theorem Granted.row_eq {c : Call} {reply : c.Reply} {id : AccountId}
    (h : Granted [⟨c, reply⟩] id) : c.row? = some (.account id) := by
  obtain ⟨a, -, hx⟩ := h
  cases List.mem_singleton.mp hx
  rfl

/-- Clients of a store that locks rows, and who holds each row. -/
structure Locking (ι α : Type) where
  client : ι → Option (Exchange α)
  holder : Row → Option ι := fun _ => none

namespace Locking

variable {ι α : Type} {S S' : Locking ι α} {i j : ι} {r : Row}

/-- A client needs a row that another one holds. -/
def Waits (S : Locking ι α) (i j : ι) : Prop :=
  ∃ c next r, S.client i = some (.ask c next) ∧ c.row? = some r ∧ S.holder r = some j ∧ i ≠ j

/-- A client is about to lock an account. -/
def Wants (S : Locking ι α) (i : ι) (id : AccountId) : Prop :=
  ∃ c next, S.client i = some (.ask c next) ∧ c.locks? = some id

/-- The holders of rows when a client has the row of a call. -/
def taken (S : Locking ι α) (i : ι) (c : Call) (r : Row) : Option ι :=
  if c.row? = some r then some i else S.holder r

theorem taken_of_held {c : Call} (h : S.holder r = some i) : S.taken i c r = some i := by
  unfold taken
  split
  · rfl
  · exact h

theorem of_taken {c : Call} (h : S.taken i c r = some i) :
    S.holder r = some i ∨ c.row? = some r := by
  unfold taken at h
  split at h
  · exact .inr ‹_›
  · exact .inl h

/-- Nobody else loses a row that is given to a client only when it is free. -/
theorem taken_of_ne (h : j ≠ i) {c : Call}
    (free : ∀ r, c.row? = some r → S.holder r = none ∨ S.holder r = some i) :
    S.taken i c r = some j ↔ S.holder r = some j := by
  unfold taken
  split
  · refine iff_of_false (fun he => h (Option.some.inj he).symm) fun hr => ?_
    rcases free r ‹_› with free | own
    · cases free.symm.trans hr
    · exact h (Option.some.inj (hr.symm.trans own))
  · rfl

variable [DecidableEq ι]

/-- The holders of rows when those of a client are given back. -/
def released (S : Locking ι α) (i : ι) (r : Row) : Option ι :=
  if S.holder r = some i then none else S.holder r

/-- One step of one client. A call is answered when nobody else holds its row; the store may keep
the row for the client then, and keeps that of an account that was found. While somebody else holds
it the call may fail. When the unit ends, all rows are given back. -/
inductive Step : Locking ι α → Locking ι α → Prop
  | answers {S : Locking ι α} {i : ι} {c : Call} {next : c.Reply → Exchange α} {reply : c.Reply}
      (takes : Bool) (hc : S.client i = some (.ask c next)) (honest : Exchanged.Honest ⟨c, reply⟩)
      (stays : ¬ Exchanged.Closes ⟨c, reply⟩)
      (free : ∀ r, c.row? = some r → S.holder r = none ∨ S.holder r = some i)
      (locks : ∀ id, Granted [⟨c, reply⟩] id → takes = true) :
      Step S ⟨Function.update S.client i (some (next reply)),
        if takes then S.taken i c else S.holder⟩
  | fails {S : Locking ι α} {i : ι} {r : Request} {next : r.Reply → Exchange α} (e : StoreError)
      (hc : S.client i = some (.ask (.within r) next)) :
      Step S { S with client := Function.update S.client i (some (next (.error (.failed e)))) }
  | ends {S : Locking ι α} {i : ι} {c : Call} {next : c.Reply → Exchange α} {reply : c.Reply}
      (hc : S.client i = some (.ask c next)) (closes : Exchanged.Closes ⟨c, reply⟩) :
      Step S ⟨Function.update S.client i (some (next reply)), S.released i⟩
  | leaves {S : Locking ι α} {i : ι} {d : Exchange α} (hc : S.client i = some d) :
      Step S ⟨Function.update S.client i none, S.released i⟩

theorem released_self (S : Locking ι α) (i : ι) (r : Row) : S.released i r ≠ some i := by
  unfold released
  split
  · exact nofun
  · assumption

theorem released_of_ne (h : j ≠ i) : S.released i r = some j ↔ S.holder r = some j := by
  unfold released
  split
  · rename_i hr
    rw [hr]
    exact iff_of_false nofun fun he => h (Option.some.inj he).symm
  · rfl

end Locking

/-! ## What a client holds -/

variable {ι α : Type} {S S' : Locking ι α} {i j : ι} {log log' : List Exchanged}

/-- What a client holds in its unit, by what was said there. -/
structure Held (S : Locking ι α) (i : ι) (log : List Exchanged) : Prop where
  heeds : ∀ d, S.client i = some d → d.Heeds log Settled
  /-- An account is held only in a unit that is open, since its lock was asked for. -/
  asked : ∀ id, S.holder (.account id) = some i →
    id ∈ locked log ∧ Unclosed log ∧ ∃ d, S.client i = some d
  granted : ∀ d, S.client i = some d → Unclosed log → ∀ id, Granted log id →
    S.holder (.account id) = some i
  /-- A holding is held only together with its account. -/
  holding : ∀ id item, S.holder (.holding id item) = some i → S.holder (.account id) = some i

namespace Held

open Locking

/-- A client that is about to begin. -/
theorem start {client : ι → Option (Exchange α)}
    (h : ∀ d, client i = some d → d.Heeds [] Settled) : Held { client } i [] where
  heeds := h
  asked _ := nofun
  granted _ _ _ _ := fun ⟨_, _, hx⟩ => absurd hx List.not_mem_nil
  holding _ _ := nofun

/-- A step of another client. -/
theorem apart (h : Held S i log) (hclient : S'.client i = S.client i)
    (hrows : ∀ r, S'.holder r = some i ↔ S.holder r = some i) : Held S' i log where
  heeds d hd := h.heeds d (hclient ▸ hd)
  asked id hid := hclient ▸ h.asked id ((hrows _).mp hid)
  granted d hd unclosed id hid := (hrows _).mpr (h.granted d (hclient ▸ hd) unclosed id hid)
  holding id item hr := (hrows _).mpr (h.holding id item ((hrows _).mp hr))

section Steps

variable [DecidableEq ι] {c : Call} {next : c.Reply → Exchange α} {reply : c.Reply}

/-- The client has heard a reply after which its unit is open, and may hold the row of its call. -/
theorem heard (h : Held S i log) (hc : S.client i = some (.ask c next))
    (honest : Exchanged.Honest ⟨c, reply⟩) (stays : ¬ Exchanged.Closes ⟨c, reply⟩)
    {rows : Row → Option ι} (kept : ∀ r, S.holder r = some i → rows r = some i)
    (new : ∀ r, rows r = some i → S.holder r = some i ∨ c.row? = some r)
    (locks : ∀ id, Granted [⟨c, reply⟩] id → rows (.account id) = some i) :
    Held ⟨Function.update S.client i (some (next reply)), rows⟩ i (log ++ [⟨c, reply⟩]) := by
  obtain ⟨heeds, goesOn⟩ := Dialogue.Lawful.ask_iff.mp (h.heeds _ hc)
  have before : ∀ id, c.changes? = some id → S.holder (.account id) = some i := fun id hid =>
    h.granted _ hc heeds.unclosed id (heeds.granted id hid)
  refine ⟨fun d hd => ?_, fun id hid => ⟨?_, heeds.unclosed.snoc stays, _, Function.update_self ..⟩,
    fun _ _ _ id hid => ?_, fun id item hr => ?_⟩
  · cases (Function.update_self ..).symm.trans hd
    exact goesOn _ _ ⟨honest, rfl⟩
  · rw [mem_locked_snoc]
    rcases new _ hid with held | needed
    · exact .inl (h.asked id held).1
    · rcases Call.locks_or_changes needed with locks | changes
      · exact .inr locks
      · exact .inl (heeds.granted id changes).mem_locked
  · obtain ⟨a, same, hx⟩ := hid
    rcases List.mem_append.mp hx with hx | hx
    · exact kept _ (h.granted _ hc heeds.unclosed id ⟨a, same, hx⟩)
    · exact locks id ⟨a, same, hx⟩
  · rcases new _ hr with held | needed
    · exact kept _ (h.holding id item held)
    · exact kept _ (before id (Call.changes_holding needed))

/-- The client has heard a reply after which its unit is over, and holds nothing. -/
theorem ended (h : Held S i log) (hc : S.client i = some (.ask c next))
    (closes : Exchanged.Closes ⟨c, reply⟩) :
    Held ⟨Function.update S.client i (some (next reply)), S.released i⟩ i
      (log ++ [⟨c, reply⟩]) := by
  refine ⟨fun d hd => ?_, fun id hid => absurd hid (released_self S i _), fun _ _ unclosed => ?_,
    fun id item hr => absurd hr (released_self S i _)⟩
  · cases (Function.update_self ..).symm.trans hd
    exact (Dialogue.Lawful.ask_iff.mp (h.heeds _ hc)).2 _ _ ⟨closes.honest, rfl⟩
  · exact absurd closes (unclosed _ (List.mem_append_right _ (List.mem_singleton_self _)))

/-- The client has left. -/
theorem left (S : Locking ι α) (i : ι) (log : List Exchanged) :
    Held ⟨Function.update S.client i none, S.released i⟩ i log := by
  have gone (d : Exchange α) : Function.update S.client i none i ≠ some d := by
    rw [Function.update_self]
    exact nofun
  exact ⟨fun d hd => absurd hd (gone d), fun id hid => absurd hid (released_self S i _),
    fun d hd => absurd hd (gone d), fun id item hr => absurd hr (released_self S i _)⟩

/-- One step of any client. -/
theorem step (h : ∀ i, ∃ log, Held S i log) (hs : Step S S') : ∀ i, ∃ log, Held S' i log := by
  intro j
  obtain ⟨log, hj⟩ := h j
  cases hs with
  | @answers i c next reply takes hc honest stays free locks =>
    by_cases hji : j = i
    · subst hji
      cases takes with
      | true =>
        exact ⟨_, hj.heard hc honest stays (fun _ => taken_of_held) (fun _ => of_taken)
          fun id hid => if_pos hid.row_eq⟩
      | false =>
        exact ⟨_, hj.heard hc honest stays (fun _ => id) (fun _ => .inl)
          fun id hid => nomatch locks id hid⟩
    · refine ⟨log, hj.apart (Function.update_of_ne hji ..) fun r => ?_⟩
      cases takes with
      | true => exact taken_of_ne hji free
      | false => rfl
  | @fails i r next e hc =>
    by_cases hji : j = i
    · subst hji
      exact ⟨_, hj.heard hc (Exchanged.honest_error r (.failed e)) (Exchanged.not_closes nofun)
        (fun _ => id) (fun _ => .inl) fun _ granted => absurd granted Granted.not_error⟩
    · exact ⟨log, hj.apart (Function.update_of_ne hji ..) fun _ => .rfl⟩
  | @ends i c next reply hc closes =>
    by_cases hji : j = i
    · subst hji
      exact ⟨_, hj.ended hc closes⟩
    · exact ⟨log, hj.apart (Function.update_of_ne hji ..) fun _ => released_of_ne hji⟩
  | @leaves i d hc =>
    by_cases hji : j = i
    · subst hji
      exact ⟨log, left ..⟩
    · exact ⟨log, hj.apart (Function.update_of_ne hji ..) fun _ => released_of_ne hji⟩

end Steps

/-! ## Who waits for whom -/

/-- A client waits only for an account that it is about to lock. -/
theorem wants (hi : Held S i log) (hj : Held S j log') (h : S.Waits i j) :
    ∃ id, S.Wants i id ∧ S.holder (.account id) = some j := by
  obtain ⟨c, next, r, hc, row, holds, apart⟩ := h
  have heeds := (Dialogue.Lawful.ask_iff.mp (hi.heeds _ hc)).1
  -- What is changed belongs to an account that the client holds itself.
  have own (id : AccountId) (changes : c.changes? = some id) : S.holder (.account id) ≠ some j := by
    rw [hi.granted _ hc heeds.unclosed id (heeds.granted id changes)]
    exact fun same => apart (Option.some.inj same)
  cases r with
  | account id =>
    rcases Call.locks_or_changes row with locks | changes
    · exact ⟨id, ⟨c, next, hc, locks⟩, holds⟩
    · exact absurd holds (own id changes)
  | holding id item => exact absurd (hj.holding id item holds) (own id (Call.changes_holding row))

/-- What a client holds is below the account that it is about to lock. -/
theorem below (h : Held S i log) {id other : AccountId} (wants : S.Wants i id)
    (holds : S.holder (.account other) = some i) : other < id := by
  obtain ⟨c, next, hc, locks⟩ := wants
  exact (Dialogue.Lawful.ask_iff.mp (h.heeds _ hc)).1.above id locks other (h.asked other holds).1

/-- Whoever is waited for has something to ask. -/
theorem asks (h : Held S j log) {id : AccountId} (holds : S.holder (.account id) = some j) :
    ∃ c next, S.client j = some (.ask c next) := by
  obtain ⟨locked, unclosed, d, hd⟩ := h.asked id holds
  cases d with
  | done a =>
    have settled : Settled a log := Dialogue.Lawful.done_iff.mp (h.heeds _ hd)
    rw [settled unclosed] at locked
    cases locked
  | ask c next => exact ⟨c, next, hd⟩

/-- Along clients that wait for one another the accounts that are held grow. -/
theorem climbs (h : ∀ i, ∃ log, Held S i log) (waits : Relation.TransGen S.Waits i j) :
    ∃ id other, S.Wants i id ∧ S.holder (.account other) = some j ∧ id ≤ other := by
  induction waits with
  | @single j w =>
    obtain ⟨_, hi⟩ := h i
    obtain ⟨_, hj⟩ := h j
    obtain ⟨id, wants, holds⟩ := hi.wants hj w
    exact ⟨id, id, wants, holds, le_rfl⟩
  | @tail j k _ w ih =>
    obtain ⟨_, hj⟩ := h j
    obtain ⟨_, hk⟩ := h k
    obtain ⟨id, other, wants, holds, le⟩ := ih
    obtain ⟨next, wants', holds'⟩ := hj.wants hk w
    exact ⟨id, next, wants, holds', le.trans (hj.below wants' holds).le⟩

/-- No clients wait for one another in a circle. -/
theorem acyclic (h : ∀ i, ∃ log, Held S i log) (i : ι) : ¬ Relation.TransGen S.Waits i i := by
  intro waits
  obtain ⟨_, hi⟩ := h i
  obtain ⟨id, other, wants, holds, le⟩ := climbs h waits
  exact absurd (hi.below wants holds) (not_lt.mpr le)

end Held

namespace Locking

/-- Clients that are about to begin a movement each, with its deadline, on a store in which no row
is held. Those of which the movement begins later are the ones that take their first step later. -/
def moving (e : Engine) (plan : ι → Movement × Option Nat) : Locking ι (Except Error Entry) where
  client i := some ((plan i).1.exchange e (plan i).2)

variable [DecidableEq ι] {e : Engine} {plan : ι → Movement × Option Nat}
  {T : Locking ι (Except Error Entry)}

/-- What clients with movements hold, after any steps. -/
theorem held (run : Relation.ReflTransGen Step (moving e plan) T) : ∀ i, ∃ log, Held T i log := by
  induction run with
  | refl =>
    refine fun i => ⟨[], .start fun d hd => ?_⟩
    cases hd
    exact Movement.exchange_heeds e _ _
  | tail _ hs ih => exact Held.step ih hs

/-- As long as one of finitely many clients has something to ask, there is one that has something
to ask and waits for nobody. -/
theorem exists_turn [Finite ι] (run : Relation.ReflTransGen Step (moving e plan) T)
    (unfinished : ∃ i c next, T.client i = some (.ask c next)) :
    ∃ i c next, T.client i = some (.ask c next) ∧ ∀ j, ¬ T.Waits i j := by
  have h := held run
  have : Std.Irrefl (fun j i => Relation.TransGen T.Waits i j) := ⟨Held.acyclic h⟩
  have : IsTrans ι (fun j i => Relation.TransGen T.Waits i j) := ⟨fun _ _ _ h h' => h'.trans h⟩
  obtain ⟨i, ⟨c, next, hc⟩, last⟩ :=
    (Finite.wellFounded_of_trans_of_irrefl fun j i => Relation.TransGen T.Waits i j).has_min
      {i | ∃ c next, T.client i = some (.ask c next)} unfinished
  refine ⟨i, c, next, hc, fun j w => ?_⟩
  obtain ⟨_, hi⟩ := h i
  obtain ⟨_, hj⟩ := h j
  obtain ⟨id, -, holds⟩ := hi.wants hj w
  exact last j (hj.asks holds) (.single w)

end Locking

/-- Locks and movements. Whatever a movement is answered, as long as a lock gives the account that
was asked for, it asks for locks in the order of their accounts, changes only what it has locked in
the unit that it began, and asks nothing more when the unit is over; and what is left of it, its
outcome and its calls, is the same when the accounts that it read without a lock have other coins.
So movements on a store that locks rows until the end of a unit, whichever and however many they
are and in whatever order they take their steps, never wait for one another in a circle. -/
theorem movements_heed_locks (e : Engine) :
    (∀ (m : Movement) (deadline : Option Nat) (log : List Exchanged)
      (d : Exchange (Except Error Entry)),
      (m.exchange e deadline).Leads log d → (∀ x ∈ log, x.Honest) →
        (locked log).Pairwise (· < ·) ∧
          ∀ before x after, log = before ++ x :: after → x.1.Heeds before) ∧
    (∀ (m : Movement) (deadline : Option Nat) (log log' : List Exchanged)
      (d : Exchange (Except Error Entry)),
      (m.exchange e deadline).Leads log d → log.Forall₂ Exchanged.Retold log' →
        (m.exchange e deadline).Leads log' d) ∧
    ∀ (ι : Type) [DecidableEq ι] (plan : ι → Movement × Option Nat)
      (S : Locking ι (Except Error Entry)),
      Relation.ReflTransGen Locking.Step (.moving e plan) S →
        ∀ i, ¬ Relation.TransGen S.Waits i i := by
  refine ⟨fun m deadline log d hd honest => ?_, fun m deadline log log' d hd retold =>
    m.leads_retold e deadline hd retold, fun ι _ plan S run => Held.acyclic (Locking.held run)⟩
  obtain ⟨-, heeds⟩ := (m.exchange_heeds e deadline).leads hd honest
  exact ⟨locked_ascend heeds, heeds⟩

/-- Two transfers in opposite directions. -/
def crossed : Bool → Movement × Option Nat
  | true => (.transfer 1 "bob" 5, none)
  | false => (.transfer 2 "ann" 5, none)

/-- What the first of them hears until both accounts are locked, when it read other coins before. -/
def crossedLog (coins : Int) : List Exchanged :=
  [⟨.begin none, .ok ()⟩,
    ⟨.within (.account 1), .ok (some ⟨1, "ann", "", coins, default⟩)⟩,
    ⟨.within (.accountByName (Credential.canonicalUsername "bob")),
      .ok (some ⟨2, "bob", "", coins, default⟩)⟩,
    ⟨.within (.lockAccount 1), .ok (some ⟨1, "ann", "", 10, default⟩)⟩,
    ⟨.within (.lockAccount 2), .ok (some ⟨2, "bob", "", 10, default⟩)⟩]

theorem crossedLog_leads (coins : Int) :
    ∃ d, ((crossed true).1.exchange {} none).Leads (crossedLog coins) d :=
  ⟨_, .ask (.ask (.ask (.ask (.ask (.refl _)))))⟩

theorem crossedLog_honest (coins : Int) : ∀ x ∈ crossedLog coins, x.Honest := by
  simp only [crossedLog, List.forall_mem_cons]
  refine ⟨nofun, nofun, nofun, ?_, ?_, List.forall_mem_nil _⟩ <;> · rintro id a ⟨⟩; rfl

/-- A call that needs no row is answered, whatever the others hold. -/
theorem Locking.Step.plain [DecidableEq ι] {c : Call} {next : c.Reply → Exchange α}
    (hc : S.client i = some (.ask c next)) (row : c.row? = none) (reply : c.Reply)
    (stays : ¬ Exchanged.Closes ⟨c, reply⟩) :
    Step S { S with client := Function.update S.client i (some (next reply)) } := by
  refine .answers false hc (fun id a hx => ?_) stays (fun r hr => ?_)
    fun id granted => ?_
  · cases hx
    cases row
  · cases row.symm.trans hr
  · cases row.symm.trans granted.row_eq

/-- An account that nobody holds is found and locked. -/
theorem Locking.Step.locks [DecidableEq ι] {id : AccountId}
    {next : Call.Reply (.within (.lockAccount id)) → Exchange α}
    (hc : S.client i = some (.ask (.within (.lockAccount id)) next)) (a : Account)
    (same : a.id = id) (free : S.holder (.account id) = none) :
    Step S ⟨Function.update S.client i (some (next (.ok (some a)))),
      S.taken i (.within (.lockAccount id))⟩ := by
  refine .answers true hc ?_ (Exchanged.not_closes nofun) ?_ fun _ _ => rfl
  · rintro _ _ ⟨⟩
    exact same
  · rintro _ ⟨⟩
    exact .inl free

/-- The first one holds the account of the lower number, and the second one waits for it. -/
theorem crossed_waits :
    ∃ S, Relation.ReflTransGen Locking.Step (.moving {} crossed) S ∧ S.Waits false true := by
  have ready : Relation.ReflTransGen Locking.Step (.moving {} crossed) _ := .refl
  have begun := ready.tail (.plain (i := true) (c := .begin none) rfl rfl (.ok ())
    Exchanged.begin_not_closes)
  have read := begun.tail (.plain (i := true) (c := .within (.account 1)) rfl rfl
    (.ok (some ⟨1, "ann", "", 10, default⟩)) (Exchanged.not_closes nofun))
  have found := read.tail (.plain (i := true) (c := .within (.accountByName _)) rfl rfl
    (.ok (some ⟨2, "bob", "", 10, default⟩)) (Exchanged.not_closes nofun))
  have locked := found.tail (.locks (i := true) rfl ⟨1, "ann", "", 10, default⟩ rfl rfl)
  have begun := locked.tail (.plain (i := false) (c := .begin none) rfl rfl (.ok ())
    Exchanged.begin_not_closes)
  have read := begun.tail (.plain (i := false) (c := .within (.account 2)) rfl rfl
    (.ok (some ⟨2, "bob", "", 10, default⟩)) (Exchanged.not_closes nofun))
  have found := read.tail (.plain (i := false) (c := .within (.accountByName _)) rfl rfl
    (.ok (some ⟨1, "ann", "", 10, default⟩)) (Exchanged.not_closes nofun))
  exact ⟨_, found, _, _, .account 1, rfl, rfl, rfl, nofun⟩

/-- Of two transfers in opposite directions one waits for the other, which does not wait for it. -/
theorem movements_heed_locks_crossed :
    (∃ d, ((crossed true).1.exchange {} none).Leads (crossedLog 10) d ∧
      ((crossed true).1.exchange {} none).Leads (crossedLog 0) d) ∧
    (locked (crossedLog 10) = [1, 2] ∧ (locked (crossedLog 10)).Pairwise (· < ·) ∧
      ∀ before x after, crossedLog 10 = before ++ x :: after → x.1.Heeds before) ∧
    ∃ S, Relation.ReflTransGen Locking.Step (.moving {} crossed) S ∧ S.Waits false true ∧
      ∀ i, ¬ Relation.TransGen S.Waits i i := by
  obtain ⟨heeds, retells, circles⟩ := movements_heed_locks {}
  obtain ⟨d, leads⟩ := crossedLog_leads 10
  obtain ⟨S, run, waits⟩ := crossed_waits
  have retold : (crossedLog 10).Forall₂ Exchanged.Retold (crossedLog 0) :=
    .cons (.same _) <| .cons (.account ..) <| .cons (.accountByName ..) <|
      .cons (.same _) <| .cons (.same _) .nil
  exact ⟨⟨d, leads, retells _ _ _ _ d leads retold⟩,
    ⟨rfl, heeds _ _ _ d leads (crossedLog_honest 10)⟩, S, run, waits, circles _ crossed S run⟩

end Scrip
