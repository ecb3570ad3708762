import Scrip.Proofs.Concurrency.Troubled
import Scrip.Proofs.Framework.Passage

/-!
# Deadlines of clients that share a storage

Whatever a store answers and whenever a deadline passes, what a client has heard is what was said
in its operation (`Heard.leads`), and a unit in which it wrote nothing so far works on what is
committed (`Heard.clean`). Every step of any client keeps this (`Heard.step`).

So the deadline of every unit of a command is all or nothing, and a command that is over because a
deadline passed changed nothing (`deadlines_all_or_nothing`).
-/

namespace Scrip

open Troubled

/-! ## Late replies -/

/-- Whether a call opens a unit that has a deadline. -/
def Exchanged.HasLimit (x : Exchanged) : Prop :=
  ∃ limit, x.1 = .begin limit ∧ limit ≠ none

/-- A call that goes wrong by the fault of the store is not late. -/
theorem Call.Astray.not_late {c : Call} {reply : c.Reply} (h : c.Astray reply) :
    c.expired? ≠ some reply := by
  intro late
  cases h with
  | fails e => cases c <;> cases late
  | recites => cases late
  | findsNothing =>
    cases c with
    | within r =>
      simp only [expired?, findNothing] at late
      split at late <;> cases late
    | begin | commit | rollback => cases late

theorem Call.Astray.begin_ne {limit : Option Nat} {reply : (Call.begin limit).Reply}
    (h : (Call.begin limit).Astray reply) : reply ≠ .ok () := by
  intro begun
  cases h <;> cases begun

/-- A store that answers a call is not late. -/
theorem Storage.party_not_late {σ : Type} {keeper : Keeper σ} {s : Storage σ} {c : Call}
    (h : ∀ limit, c = .begin limit → s.working = none) :
    c.expired? ≠ some (s.party keeper c).1 := by
  intro late
  cases c with
  | begin limit =>
    rw [Storage.party_begin keeper limit s (h limit rfl)] at late
    cases late
  | within r =>
    simp only [Call.expired?, party, request] at late
    split at late
    · cases late
    · split at late <;> cases late
  | commit | rollback => cases late

/-- A copy of what is committed stays one as long as it is only read. -/
theorem Storage.request_read {σ : Type} {keeper : Keeper σ} {s : Storage σ} {r : Request}
    (hr : ∀ {x x' a}, keeper s.now x r = .ok (a, x') → x' = x)
    (hs : s.working = some s.committed) :
    (s.request keeper r).2.working = some (s.request keeper r).2.committed := by
  simp only [request, hs]
  split
  · exact congrArg some (hr ‹_›)
  · exact hs

variable {ι σ α : Type}

section Calls

variable [DecidableEq ι]

/-- The call of a client and what came back for it, if this is what happened. -/
def Happening.exchanged? (i : ι) : Happening ι → Option Exchanged
  | .call j c reply => if j = i then some ⟨c, reply⟩ else none
  | .leaves _ => none

/-- The calls of a client, with what came back. -/
def calls (i : ι) (history : List (Happening ι)) : List Exchanged :=
  history.filterMap (Happening.exchanged? i)

theorem exchanged?_call (i : ι) (c : Call) (reply : c.Reply) :
    (Happening.call i c reply).exchanged? i = some ⟨c, reply⟩ :=
  if_pos rfl

theorem exchanged?_of_ne {i : ι} {event : Happening ι} (h : event.client ≠ i) :
    event.exchanged? i = none := by
  cases event with
  | call j c reply => exact if_neg h
  | leaves => rfl

theorem calls_snoc (i : ι) (history : List (Happening ι)) (event : Happening ι) :
    calls i (history ++ [event]) = calls i history ++ (event.exchanged? i).toList := by
  rw [calls, List.filterMap_append]
  rfl

end Calls

/-! ## What a client heard -/

theorem Troubled.limitAfter_of_ne [DecidableEq ι] {S : Troubled ι σ α} {i j : ι} (h : i ≠ j)
    (c : Call) : S.limitAfter j c i = S.limit i := by
  cases c with
  | begin limit => exact Function.update_of_ne h ..
  | within | commit | rollback => rfl

/-- What is known of a client by its calls. -/
structure Heard (d₀ : Exchange α) (i : ι) (S : Troubled ι σ α) (log : List Exchanged) : Prop where
  leads : ∀ d, S.client i = some d → d₀.Leads log d
  copy : S.lock ≠ some i → S.copy i = none
  clean : Untouched log → S.lock = some i → S.copy i = some S.committed
  limited : S.limit i ≠ none → ∃ x ∈ log, x.HasLimit
  late : (∃ x ∈ log, x.IsLate) → ∃ x ∈ log, x.HasLimit

namespace Heard

variable {d₀ : Exchange α} {i j : ι} {T T' : Troubled ι σ α} {log : List Exchanged}
  {event : Happening ι}

/-- A client that is about to begin. -/
theorem start {client : ι → Option (Exchange α)} {s : σ} (h : client i = some d₀) :
    Heard d₀ i { committed := s, client } [] where
  leads d hd := by
    cases h.symm.trans hd
    exact .refl d₀
  copy _ := rfl
  clean _ hl := by cases hl
  limited hl := absurd rfl hl
  late := fun ⟨_, hx, _⟩ => absurd hx List.not_mem_nil

/-- A step of another client, which commits nothing while the client is inside a unit. -/
theorem apart (h : Heard d₀ i T log) (hl : T'.lock = some i ↔ T.lock = some i)
    (hcopy : T'.copy i = T.copy i) (hclient : T'.client i = T.client i)
    (hlimit : T'.limit i = T.limit i) (hb : T.lock = some i → T'.committed = T.committed) :
    Heard d₀ i T' log where
  leads d hd := h.leads d (hclient ▸ hd)
  copy hl' := hcopy.trans (h.copy fun hl' => absurd (hl.mpr hl') ‹_›)
  clean hu hl' := by
    have held := hl.mp hl'
    rw [hcopy, hb held]
    exact h.clean hu held
  limited hl' := h.limited (hlimit ▸ hl')
  late := h.late

theorem outside (h : Heard d₀ i T log) (hl : T.lock = none) : T.copy i = none :=
  h.copy (hl ▸ nofun)

theorem limited_append (h : Heard d₀ i T log) (hl : T.limit i ≠ none) (x : List Exchanged) :
    ∃ y ∈ log ++ x, y.HasLimit := by
  obtain ⟨y, hy, limited⟩ := h.limited hl
  exact ⟨y, List.mem_append_left _ hy, limited⟩

theorem late_append (h : Heard d₀ i T log) {x : List Exchanged}
    (late : (∃ y ∈ x, y.IsLate) → ∃ y ∈ log ++ x, y.HasLimit) :
    (∃ y ∈ log ++ x, y.IsLate) → ∃ y ∈ log ++ x, y.HasLimit := by
  rintro ⟨y, hy, isLate⟩
  rcases List.mem_append.mp hy with hy | hy
  · obtain ⟨z, hz, limited⟩ := h.late ⟨y, hy, isLate⟩
    exact ⟨z, List.mem_append_left _ hz, limited⟩
  · exact late ⟨y, hy, isLate⟩

variable [DecidableEq ι]

/-- The client gives up its unit, if it had one, when it has heard one more reply. -/
theorem abandoned (h : Heard d₀ i T log) {x : List Exchanged} {d : Option (Exchange α)}
    (hd : ∀ d' ∈ d, d₀.Leads (log ++ x) d')
    (late : (∃ y ∈ x, y.IsLate) → ∃ y ∈ log ++ x, y.HasLimit) :
    Heard d₀ i ⟨T.abandoned i d, T.limit⟩ (log ++ x) where
  leads d' hd' := hd d' ((Shared.client_abandoned_self d).symm.trans hd')
  copy _ := Shared.copy_abandoned_self d
  clean _ hl := absurd rfl (Shared.lock_abandoned d |>.mp hl).1
  limited hl := h.limited_append hl x
  late := h.late_append late

/-- The client has heard the answer to a call when it was its turn. -/
theorem answered {k : Backend} {T : Troubled ι k.State α} (h : Heard d₀ i T log) {c : Call}
    {next : c.Reply → Exchange α} (now : Instant) (hc : T.client i = some (.ask c next))
    (turn : T.Turn i c) :
    Heard d₀ i ⟨T.answered i ((T.view i now).party k.keeper c).2
        (next ((T.view i now).party k.keeper c).1), T.limitAfter i c⟩
      (log ++ [⟨c, ((T.view i now).party k.keeper c).1⟩]) where
  leads d hd := by
    rw [Shared.client_answered_self] at hd
    cases hd
    exact (h.leads _ hc).snoc _
  copy hl := by
    rw [Shared.copy_answered_self]
    cases hw : ((T.view i now).party k.keeper c).2.working with
    | none => rfl
    | some w => exact absurd (congrArg (Option.map fun _ => i) hw) hl
  clean hu _ := by
    rw [Shared.copy_answered_self]
    rcases hu.of_snoc with ⟨limit, hx⟩ | ⟨before, r, reply, hx, hr⟩
    · obtain rfl : c = .begin limit := congrArg Sigma.fst hx
      have begins := Storage.party_begin k.keeper limit (T.view i now) (h.outside turn)
      show _ = some ((T.view i now).party k.keeper (.begin limit)).2.committed
      rw [begins]
      rfl
    · obtain rfl : c = .within r := congrArg Sigma.fst hx
      exact Storage.request_read (Backend.keeper_read hr) (h.clean before turn)
  limited hl := by
    cases c with
    | begin limit =>
      have opened : T.limitAfter i (.begin limit) i = limit := Function.update_self ..
      exact ⟨_, List.mem_append_right _ (List.mem_singleton_self _), limit, rfl, opened ▸ hl⟩
    | within | commit | rollback => exact h.limited_append hl _
  late := h.late_append fun ⟨x, hx, isLate⟩ => by
    rw [List.mem_singleton.mp hx] at isLate
    refine absurd isLate (Storage.party_not_late fun limit hbegin => ?_)
    subst hbegin
    exact h.outside turn

/-- The client has heard that a call went wrong. -/
theorem failed (h : Heard d₀ i T log) {c : Call} {next : c.Reply → Exchange α} {reply : c.Reply}
    (hc : T.client i = some (.ask c next)) (hr : c.Astray reply) :
    Heard d₀ i ⟨T.failed i (next reply) c, T.limit⟩ (log ++ [⟨c, reply⟩]) := by
  have heard : d₀.Leads (log ++ [⟨c, reply⟩]) (next reply) := (h.leads _ hc).snoc reply
  have late : (∃ x ∈ ([⟨c, reply⟩] : List Exchanged), x.IsLate) →
      ∃ x ∈ log ++ [⟨c, reply⟩], x.HasLimit := fun ⟨x, hx, isLate⟩ => by
    rw [List.mem_singleton.mp hx] at isLate
    exact absurd isLate hr.not_late
  have stays (clean : Untouched (log ++ [⟨c, reply⟩]) → Untouched log) :
      Heard d₀ i ⟨{ T with client := Function.update T.client i (some (next reply)) }, T.limit⟩
        (log ++ [⟨c, reply⟩]) :=
    { leads := fun d hd => by
        cases (Function.update_self ..).symm.trans hd
        exact heard
      copy := h.copy
      clean := fun hu => h.clean (clean hu)
      limited := fun hl => h.limited_append hl _
      late := h.late_append late }
  have leaves : Heard d₀ i ⟨T.abandoned i (some (next reply)), T.limit⟩ (log ++ [⟨c, reply⟩]) :=
    h.abandoned (fun d hd => by cases hd; exact heard) late
  cases c with
  | begin limit =>
    -- A unit that could not be opened leaves the client where it was.
    refine stays fun hu => ?_
    rcases hu.of_snoc with ⟨limit', hx⟩ | ⟨before, -⟩
    · cases hx
      exact absurd rfl hr.begin_ne
    · exact before
  | within r =>
    refine stays fun hu => ?_
    rcases hu.of_snoc with ⟨limit, hx⟩ | ⟨before, -⟩
    · cases congrArg Sigma.fst hx
    · exact before
  | commit | rollback => exact leaves

/-- Another client gives up its unit, if it had one. -/
theorem abandoned_of_ne (h : Heard d₀ i T log) (hj : i ≠ j) (d : Option (Exchange α)) :
    Heard d₀ i ⟨T.abandoned j d, T.limit⟩ log :=
  h.apart (Shared.lock_abandoned d |>.trans (and_iff_right hj)) (Shared.copy_abandoned_of_ne hj d)
    (Shared.client_abandoned_of_ne hj d) rfl fun _ => rfl

/-- One step of any client. -/
theorem step {k : Backend} {T T' : Troubled ι k.State α} (h : Heard d₀ i T log)
    (hs : Step k.keeper T event T') :
    Heard d₀ i T' (log ++ (event.exchanged? i).toList) := by
  by_cases hj : event.client = i
  · cases hs with
    | @answers j c next now hc turn =>
      change j = i at hj
      subst hj
      rw [exchanged?_call]
      exact h.answered now hc turn
    | @fails j c next reply hc hr =>
      change j = i at hj
      subst hj
      rw [exchanged?_call]
      exact h.failed hc hr
    | @expires j c next reply hc hr hl =>
      change j = i at hj
      subst hj
      rw [exchanged?_call]
      refine h.abandoned (fun d hd => ?_) fun _ => ?_
      · cases hd
        exact (h.leads _ hc).snoc reply
      · cases c with
        | begin limit =>
          exact ⟨_, List.mem_append_right _ (List.mem_singleton_self _), limit, rfl, hl⟩
        | within | commit | rollback => exact h.limited_append hl _
    | @leaves j d hc =>
      change j = i at hj
      subst hj
      exact h.abandoned nofun fun ⟨_, hx, _⟩ => absurd hx List.not_mem_nil
  · -- What another client commits does not matter: then it has the lock itself.
    have hne : i ≠ event.client := fun he => hj he.symm
    rw [exchanged?_of_ne hj, Option.toList_none, List.append_nil]
    cases hs with
    | @answers j c next now hc turn =>
      change i ≠ j at hne
      have before := Shared.lock_ne turn.lock hne
      exact h.apart (iff_of_false (Shared.lock_answered_ne hne _ _) before)
        (Shared.copy_answered_of_ne hne ..) (Shared.client_answered_of_ne hne ..)
        (limitAfter_of_ne hne c) fun hl => absurd hl before
    | @fails j c next reply hc hr =>
      change i ≠ j at hne
      cases c with
      | begin | within => exact h.apart Iff.rfl rfl (Function.update_of_ne hne ..) rfl fun _ => rfl
      | commit | rollback => exact h.abandoned_of_ne hne _
    | expires => exact h.abandoned_of_ne hne _
    | leaves => exact h.abandoned_of_ne hne _

end Heard

/-- All steps, one after another. -/
theorem Troubled.Run.heard [DecidableEq ι] {k : Backend} {x : k.State}
    {client : ι → Option (Exchange α)} {i : ι} {d₀ : Exchange α} (hc : client i = some d₀)
    {history : List (Happening ι)} {S : Troubled ι k.State α}
    (run : Run k.keeper { committed := x, client } history S) :
    Heard d₀ i S (calls i history) := by
  induction run with
  | refl => exact .start hc
  | step _ hs ih =>
    rw [calls_snoc]
    exact ih.step hs

/-! ## What a client committed -/

/-- Only a commit that succeeds changes what is committed. -/
theorem Troubled.Step.committed [DecidableEq ι] {keeper : Keeper σ} {T T' : Troubled ι σ α}
    {event : Happening ι} (hs : Step keeper T event T') :
    T'.committed = T.committed ∨ ∃ i, event = .call i .commit (.ok ()) ∧ T.lock = some i ∧
      T.copy i = some T'.committed := by
  cases hs with
  | @answers i c next now hc turn =>
    cases c with
    | begin limit =>
      refine .inl ?_
      show ((T.view i now).party keeper (.begin limit)).2.committed = T.committed
      simp only [Storage.party]
      split <;> rfl
    | within r =>
      refine .inl ?_
      show ((T.view i now).request keeper r).2.committed = T.committed
      simp only [Storage.request]
      split
      · rfl
      · split <;> rfl
    | commit =>
      cases hw : T.copy i with
      | none =>
        refine .inl ?_
        show ((T.view i now).party keeper .commit).2.committed = T.committed
        simp only [Storage.party, Shared.view, hw]
      | some w =>
        have commits := Storage.party_commit keeper (T.view i now) w hw
        rw [commits]
        exact .inr ⟨i, rfl, turn, hw⟩
    | rollback => exact .inl rfl
  | @fails i c next reply hc hr =>
    cases c <;> exact .inl rfl
  | expires | leaves => exact .inl rfl

/-- No step of a client changes what is committed. -/
def Harmless [DecidableEq ι] (keeper : Keeper σ) (S₀ : Troubled ι σ α) (i : ι)
    (history : List (Happening ι)) : Prop :=
  ∀ before event after T T', history = before ++ event :: after → event.client = i →
    Run keeper S₀ before T → Step keeper T event T' → T'.committed = T.committed

/-- What is committed at the end when nobody else does anything. -/
theorem Harmless.committed_eq [DecidableEq ι] {keeper : Keeper σ} {S₀ S : Troubled ι σ α} {i : ι}
    {history : List (Happening ι)} (h : Harmless keeper S₀ i history)
    (run : Run keeper S₀ history S) (alone : ∀ event ∈ history, event.client = i) :
    S.committed = S₀.committed := by
  induction run with
  | refl => rfl
  | @step history event T T' run hs ih =>
    have spared : Harmless keeper S₀ i history := by
      intro before event' after U U' he
      refine h before event' (after ++ [event]) U U' ?_
      rw [he, List.append_assoc]
      rfl
    obtain ⟨others, own⟩ := List.forall_mem_append.mp alone
    rw [h history event [] T T' rfl (own event (List.mem_singleton_self _)) run hs]
    exact ih spared others

/-- Whatever books a store begins with, whatever other clients do and whatever goes wrong, when a
command is over: it went through units, of each of which the deadline was all or nothing. If it is
over because a deadline passed then there was one, it passed in the last unit, and no step of the
client on the way changed what is committed. -/
theorem deadlines_all_or_nothing [DecidableEq ι] {e : Engine} {c : Command} {k : Backend}
    {x : k.State} {client : ι → Option (Exchange (Except Error Outcome))} {i : ι}
    (commanded : client i = some (e.perform c)) {history : List (Happening ι)}
    {S : Troubled ι k.State (Except Error Outcome)}
    (run : Run k.keeper { committed := x, client } history S) {outcome : Except Error Outcome}
    (ended : S.client i = some (.done outcome)) :
    ∃ passages, (e.perform c).Through (c.deadline.or e.timeout) passages outcome ∧
      calls i history = passages.flatMap (·.log) ∧
      (∀ p ∈ passages, p.AllOrNothing (c.deadline.or e.timeout)) ∧
      ∀ label, outcome = .error (.timeout label) → c.deadline.or e.timeout ≠ none ∧
        (∃ p ∈ passages.getLast?, p.yield = .error (.timeout label)) ∧
        Harmless k.keeper { committed := x, client } i history := by
  have heard := run.heard commanded
  have composed := e.perform_composed c
  have leads := heard.leads _ ended
  obtain ⟨passages, through, log, parts, last⟩ := composed.through leads
  have course (p : Passage) (hp : p ∈ passages) :
      Course p.op (c.deadline.or e.timeout) p.work p.log p.yield :=
    .of_leads (through.leads p hp)
  have limited (late : ∃ y ∈ calls i history, y.IsLate) : c.deadline.or e.timeout ≠ none := by
    obtain ⟨⟨_, reply⟩, hy, limit, rfl, hl⟩ := heard.late late
    rw [log] at hy
    obtain ⟨p, hp, hy⟩ := List.mem_flatMap.mp hy
    rw [← (course p hp).limit_eq (parts p hp).proper hy]
    exact hl
  have each (p : Passage) (hp : p ∈ passages) : p.AllOrNothing (c.deadline.or e.timeout) :=
    (course p hp).allOrNothing (parts p hp).proper fun ⟨y, hy, late⟩ =>
      limited ⟨y, log ▸ List.mem_flatMap.mpr ⟨p, hp, hy⟩, late⟩
  refine ⟨passages, through, log, each, fun label timedOut => ?_⟩
  obtain ⟨p, hp, hyield⟩ := last label timedOut
  have there := (each p (List.mem_of_getLast? hp)).timeout label hyield
  refine ⟨there.1, ⟨p, hp, hyield⟩, fun before event after T T' split own run' hs => ?_⟩
  rcases hs.committed with same | ⟨j, rfl, lock, copy⟩
  · exact same
  · change j = i at own
    subst own
    have said : calls j history = calls j before ++ ⟨.commit, .ok ()⟩ :: calls j after := by
      rw [split, calls, List.filterMap_append, List.filterMap_cons, exchanged?_call]
      rfl
    rw [said, timedOut] at leads
    -- The unit had only read, so its copy is what was committed already.
    have untouched := composed.untouched (fun _ _ part => part.proper) leads
    exact Option.some.inj (copy.symm.trans ((run'.heard commanded).clean untouched lock))

/-- The deadline of a purchase passes when the coins were taken from the copy already. -/
theorem deadlines_all_or_nothing_cup :
    let b : Books :=
      { accounts := [⟨1, "ann", "", 40, default⟩]
        items := [⟨1, "cup", 5, default⟩]
        sequences := { account := 1, item := 1 } }
    let c : Command := .purchase 1 "cup" (some 100)
    let client : Unit → Option (Exchange (Except Error Outcome)) :=
      fun _ => some (Engine.perform {} c)
    let timedOut : Except Error Outcome := .error (.timeout "purchase")
    ∃ history S, client () = some (Engine.perform {} c) ∧
      Run Backend.memory.keeper { committed := b, client } history S ∧
      S.client () = some (.done timedOut) ∧ S.committed = b ∧
      ∃ passages, (Engine.perform {} c).Through (some 100) passages timedOut ∧
        calls () history = passages.flatMap (·.log) ∧
        ∀ p ∈ passages, p.AllOrNothing (some 100) := by
  intro b c client timedOut
  have exists_run : ∃ history S, Run Backend.memory.keeper { committed := b, client } history S ∧
      S.client () = some (.done timedOut) := by
    have ready : Run Backend.memory.keeper { committed := b, client } [] _ := .refl
    have begun := ready.step (.answers (i := ()) default rfl rfl)
    have found := begun.step (.answers (i := ()) default rfl rfl)
    have locked := found.step (.answers (i := ()) default rfl rfl)
    have paid := locked.step (.answers (i := ()) default rfl rfl)
    exact ⟨_, _, paid.step (.expires (i := ()) rfl rfl nofun), rfl⟩
  obtain ⟨history, S, run, ended⟩ := exists_run
  obtain ⟨passages, through, said, each, unchanged⟩ :=
    deadlines_all_or_nothing (show client () = some (Engine.perform {} c) from rfl) run ended
  have spared := (unchanged "purchase" rfl).2.2.committed_eq run fun _ _ => rfl
  exact ⟨history, S, rfl, run, ended, spared, passages, through, said, each⟩

end Scrip
