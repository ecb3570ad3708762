import Mathlib.Logic.Relation
import Scrip.Proofs.Concurrency.Shared
import Scrip.Proofs.Credential.Username
import Scrip.Proofs.Engine.Bodies
import Scrip.Proofs.Engine.SignIn
import Scrip.Proofs.Framework.Steady

/-!
# Clients in trouble

Clients that share a storage where anything may go wrong (`Troubled.Step`): a call may fail or
wrongly find nothing, the deadline of a unit may pass at any call but a commit, and a client may
leave at any moment.

What is committed stays books (`Stable`): every step of steady clients leaves it as it was or
makes of it what they may make of it (`Stable.step`), and so do all steps one after another
(`Run.stable`). Clients with commands are of this kind (`Run.becomes`). Two of them and a cup are
an example (`exists_cupRun`).
-/

namespace Scrip

open Backend (Stands)
open Dialogue (Lawful)

variable {ι σ α : Type}

namespace Shared

variable [DecidableEq ι]

/-- The system after a call of a client went wrong. A unit that did not end as it should is left. -/
def failed (S : Shared ι σ α) (i : ι) (d : Exchange α) : Call → Shared ι σ α
  | .begin _ | .within _ => { S with client := Function.update S.client i (some d) }
  | .commit | .rollback => S.abandoned i (some d)

end Shared

/-- What happens to a client. -/
inductive Happening (ι : Type) where
  | call (client : ι) (c : Call) (reply : c.Reply)
  | leaves (client : ι)

/-- The client to which it happens. -/
def Happening.client : Happening ι → ι
  | call i _ _ | leaves i => i

/-- Clients that share a storage, with the limit of the unit that each of them opened last. -/
structure Troubled (ι σ α : Type) extends Shared ι σ α where
  limit : ι → Option Nat := fun _ => none

namespace Troubled

/-- Whether a deadline can pass at a call: that of the unit which is to begin, or of the unit that
the client opened. -/
def Limited (S : Troubled ι σ α) (i : ι) : Call → Prop
  | .begin limit => limit ≠ none
  | _ => S.limit i ≠ none

variable [DecidableEq ι]

/-- The limits after a call was answered. -/
def limitAfter (S : Troubled ι σ α) (i : ι) : Call → ι → Option Nat
  | .begin limit => Function.update S.limit i limit
  | _ => S.limit

/-- One step of one client, with what happens. -/
inductive Step (keeper : Keeper σ) : Troubled ι σ α → Happening ι → Troubled ι σ α → Prop
  | answers {S : Troubled ι σ α} {i : ι} {c : Call} {next : c.Reply → Exchange α} (now : Instant)
      (hc : S.client i = some (.ask c next)) (turn : S.Turn i c) :
      Step keeper S (.call i c ((S.view i now).party keeper c).1)
        ⟨S.answered i ((S.view i now).party keeper c).2 (next ((S.view i now).party keeper c).1),
          S.limitAfter i c⟩
  | fails {S : Troubled ι σ α} {i : ι} {c : Call} {next : c.Reply → Exchange α} {reply : c.Reply}
      (hc : S.client i = some (.ask c next)) (hr : c.Astray reply) :
      Step keeper S (.call i c reply) ⟨S.failed i (next reply) c, S.limit⟩
  | expires {S : Troubled ι σ α} {i : ι} {c : Call} {next : c.Reply → Exchange α} {reply : c.Reply}
      (hc : S.client i = some (.ask c next)) (hr : c.expired? = some reply) (hl : S.Limited i c) :
      Step keeper S (.call i c reply) ⟨S.abandoned i (some (next reply)), S.limit⟩
  | leaves {S : Troubled ι σ α} {i : ι} {d : Exchange α} (hc : S.client i = some d) :
      Step keeper S (.leaves i) ⟨S.abandoned i none, S.limit⟩

/-- Steps one after another, with what happened. -/
inductive Run (keeper : Keeper σ) (S₀ : Troubled ι σ α) : List (Happening ι) → Troubled ι σ α → Prop
  | refl : Run keeper S₀ [] S₀
  | step {history : List (Happening ι)} {event : Happening ι} {S S' : Troubled ι σ α}
      (h : Run keeper S₀ history S) (hs : Step keeper S event S') :
      Run keeper S₀ (history ++ [event]) S'

theorem Run.append {keeper : Keeper σ} {S₀ S S' : Troubled ι σ α}
    {before after : List (Happening ι)} (h : Run keeper S₀ before S) (h' : Run keeper S after S') :
    Run keeper S₀ (before ++ after) S' := by
  induction h' with
  | refl => exact (List.append_nil before).symm ▸ h
  | step _ hs ih => exact List.append_assoc .. ▸ ih.step hs

end Troubled

/-! ## What is committed stays books -/

section Stable

variable {k : Backend} {applied : Option (Table String)} {R : Books → Books → Prop}
  {S S' : Shared ι k.State α} {b b' : Books} {i j : ι} {x : Standing}

/-- Where a client stands that goes on steadily: inside a unit it has a copy of what is
committed. -/
structure Placed (R : Books → Books → Prop) (applied : Option (Table String))
    (S : Shared ι k.State α) (b : Books) (i : ι) (x : Standing) : Prop where
  holds : S.lock = some i ↔ x.working.isSome
  knows : x.working.isSome → x.committed = b
  copy : S.copy i = x.working.map (k.hold applied)
  storable : ∀ w ∈ x.working, w.Storable
  steady : ∀ d, S.client i = some d → Lawful (Standing.Asks R) Standing.May d x fun _ _ => True

/-- Books are committed, and every client goes on steadily from where it stands. -/
structure Stable (R : Books → Books → Prop) (applied : Option (Table String))
    (S : Shared ι k.State α) (b : Books) : Prop where
  storable : b.Storable
  committed : S.committed = k.hold applied b
  placed : ∀ i, ∃ x, Placed R applied S b i x

/-- A step of another client, which commits nothing while the client is inside a unit. -/
theorem Placed.apart (h : Placed R applied S b i x) (hl : S'.lock = some i ↔ S.lock = some i)
    (hcopy : S'.copy i = S.copy i) (hclient : S'.client i = S.client i)
    (hb : S.lock = some i → b' = b) : Placed R applied S' b' i x where
  holds := hl.trans h.holds
  knows hw := (h.knows hw).trans (hb (h.holds.mpr hw)).symm
  copy := hcopy.trans h.copy
  storable := h.storable
  steady d hd := h.steady d (hclient ▸ hd)

/-- A storage as a client inside a unit sees it. -/
theorem Placed.stands (h : Placed R applied S b i x) (hb : b.Storable)
    (hc : S.committed = k.hold applied b) (now : Instant) :
    Stands applied k (S.view i now) ⟨b, x.working⟩ :=
  ⟨hb, hc, h.copy, h.storable⟩

namespace Stable

/-- Clients that are about to begin. -/
theorem start {client : ι → Option (Exchange α)} {s : k.State} (hb : b.Storable)
    (hs : s = k.hold applied b) (h : ∀ i d, client i = some d → d.Steady R) :
    Stable R applied { committed := s, client } b := by
  refine ⟨hb, hs, fun i => ⟨⟨b, none⟩, ?_, nofun, rfl, nofun, fun d hd => h i d hd _⟩⟩
  exact iff_of_false nofun nofun

variable [DecidableEq ι]

/-- The system after a call was answered to a client whose turn it was. -/
theorem answered (h : Stable R applied S b) (turn : S.lock = none ∨ S.lock = some i)
    {s : Storage k.State} (hs : Stands applied k s x) {d : Exchange α}
    (hd : Lawful (Standing.Asks R) Standing.May d x fun _ _ => True) :
    Stable R applied (S.answered i s d) x.committed := by
  have locked : (S.answered i s d).lock = x.working.map fun _ => i := by
    show s.working.map _ = _
    rw [hs.working, Option.map_map]
    rfl
  refine ⟨hs.storable, hs.committed, fun j => ?_⟩
  by_cases hj : j = i
  · subst hj
    refine ⟨x, ?_, fun _ => rfl, ?_, hs.copy, fun d' hd' => ?_⟩
    · rw [locked]
      cases x.working <;> simp
    · rw [Shared.copy_answered_self, hs.working]
    · rw [Shared.client_answered_self] at hd'
      cases hd'
      exact hd
  · obtain ⟨y, hy⟩ := h.placed j
    have before := Shared.lock_ne turn hj
    have after := Shared.lock_answered_ne (S := S) hj s d
    exact ⟨y, hy.apart (iff_of_false after before) (Shared.copy_answered_of_ne hj ..)
      (Shared.client_answered_of_ne hj ..) fun hl => absurd hl before⟩

/-- The system after a client gave up its unit, if it had one. -/
theorem abandoned (h : Stable R applied S b) {d : Option (Exchange α)}
    (hd : ∀ d' ∈ d, ∃ b₀, Lawful (Standing.Asks R) Standing.May d' ⟨b₀, none⟩ fun _ _ => True) :
    Stable R applied (S.abandoned i d) b := by
  have own (b₀ : Books)
      (hd : ∀ d' ∈ d, Lawful (Standing.Asks R) Standing.May d' ⟨b₀, none⟩ fun _ _ => True) :
      Placed R applied (S.abandoned i d) b i ⟨b₀, none⟩ := by
    refine ⟨?_, nofun, Shared.copy_abandoned_self d, nofun, fun d' hd' => ?_⟩
    · rw [Shared.lock_abandoned]
      exact iff_of_false (fun h => h.1 rfl) nofun
    · rw [Shared.client_abandoned_self] at hd'
      exact hd d' hd'
  refine ⟨h.storable, h.committed, fun j => ?_⟩
  by_cases hj : j = i
  · subst hj
    cases d with
    | none => exact ⟨_, own b nofun⟩
    | some d =>
      obtain ⟨b₀, hd₀⟩ := hd d rfl
      refine ⟨_, own b₀ ?_⟩
      rintro _ ⟨⟩
      exact hd₀
  · obtain ⟨y, hy⟩ := h.placed j
    have lock : (S.abandoned i d).lock = some j ↔ S.lock = some j := by
      rw [Shared.lock_abandoned]
      exact and_iff_right hj
    exact ⟨y, hy.apart lock (Shared.copy_abandoned_of_ne hj d) (Shared.client_abandoned_of_ne hj d)
      fun _ => rfl⟩

/-- The system after a call of a client went wrong. -/
theorem failed (h : Stable R applied S b) {c : Call} {next : c.Reply → Exchange α}
    {reply : c.Reply} (hc : S.client i = some (.ask c next)) (hr : c.Astray reply) :
    Stable R applied (S.failed i (next reply) c) b := by
  obtain ⟨x, hx⟩ := h.placed i
  have goesOn := (Lawful.ask_iff.mp (hx.steady _ hc)).2 _ _ (x.may_after hr)
  have stays (hafter : x.after c = x) : Stable R applied
      { S with client := Function.update S.client i (some (next reply)) } b := by
    refine ⟨h.storable, h.committed, fun j => ?_⟩
    by_cases hj : j = i
    · subst hj
      refine ⟨x, hx.holds, hx.knows, hx.copy, hx.storable, fun d' hd' => ?_⟩
      cases (Function.update_self ..).symm.trans hd'
      exact hafter ▸ goesOn
    · obtain ⟨y, hy⟩ := h.placed j
      exact ⟨y, hy.apart Iff.rfl rfl (Function.update_of_ne hj ..) fun _ => rfl⟩
  have leaves (hafter : x.after c = ⟨x.committed, none⟩) :
      Stable R applied (S.abandoned i (some (next reply))) b := by
    refine h.abandoned fun d' hd' => ⟨x.committed, ?_⟩
    cases hd'
    exact hafter ▸ goesOn
  cases c with
  | begin | within => exact stays rfl
  | commit | rollback => exact leaves rfl

/-- One step of any client: what is committed stays, or becomes what the client may make of it. -/
theorem step {T T' : Troubled ι k.State α} (h : Stable R applied T.toShared b) {event : Happening ι}
    (hs : Troubled.Step k.keeper T event T') :
    ∃ b', Stable R applied T'.toShared b' ∧ (b' = b ∨ R b b') := by
  cases hs with
  | @answers i c next now hc turn =>
    obtain ⟨x, hx⟩ := h.placed i
    have stands := hx.stands h.storable h.committed now
    have lawful := Lawful.ask_iff.mp (hx.steady _ hc)
    by_cases hbegin : ∃ limit, c = .begin limit
    · obtain ⟨limit, rfl⟩ := hbegin
      have hl : T.lock = none := turn
      have outside : x.working = none := by
        have : ¬ x.working.isSome := fun hw => by
          rw [← hx.holds, hl] at hw
          cases hw
        simpa using this
      rw [outside] at stands
      obtain ⟨hreply, hs⟩ := stands.begins limit
      refine ⟨b, h.answered (.inl hl) hs ?_, .inl rfl⟩
      exact lawful.2 _ _ (hreply ▸ .begins h.storable)
    · have hne : ∀ limit, c ≠ .begin limit := fun limit he => hbegin ⟨limit, he⟩
      have hl : T.lock = some i := by
        cases c with
        | begin limit => exact absurd rfl (hne limit)
        | within | commit | rollback => exact turn
      obtain ⟨w, hw⟩ := Option.isSome_iff_exists.mp (hx.holds.mp hl)
      have hb : x.committed = b := hx.knows (hw ▸ rfl)
      obtain ⟨_, working⟩ := x
      cases hw
      cases hb
      obtain ⟨x', hm, hs⟩ := stands.served lawful.1 hne
      exact ⟨_, h.answered (.inr hl) hs (lawful.2 _ _ hm), hm.kept lawful.1 hne⟩
  | fails hc hr => exact ⟨b, h.failed hc hr, .inl rfl⟩
  | @expires i c next reply hc hr hl =>
    obtain ⟨x, hx⟩ := h.placed i
    refine ⟨b, h.abandoned fun d' hd' => ⟨x.committed, ?_⟩, .inl rfl⟩
    cases hd'
    exact (Lawful.ask_iff.mp (hx.steady _ hc)).2 _ _ (.expires hr)
  | leaves => exact ⟨b, h.abandoned nofun, .inl rfl⟩

end Stable

/-- All steps, one after another. -/
theorem Troubled.Run.stable [DecidableEq ι] {T₀ T : Troubled ι k.State α}
    {history : List (Happening ι)} (run : Run k.keeper T₀ history T)
    (h : Stable R applied T₀.toShared b) :
    ∃ b', Stable R applied T.toShared b' ∧ Relation.ReflTransGen R b b' := by
  induction run with
  | refl => exact ⟨b, h, .refl⟩
  | step _ hs ih =>
    obtain ⟨b₁, h₁, reached⟩ := ih
    obtain ⟨b₂, h₂, rfl | made⟩ := h₁.step hs
    · exact ⟨_, h₂, reached⟩
    · exact ⟨b₂, h₂, reached.tail made⟩

end Stable

/-! ## Clients with commands -/

/-- A command is steady: what it commits is what it makes of what was committed. -/
theorem Engine.perform_steady {e : Engine} (hm : e.initialBalance ≤ maxCoins) {c : Command}
    {R : Books → Books → Prop} (hR : ∀ b b', e.Makes c b b' → R b b') : (e.perform c).Steady R :=
  (e.perform_parts c).steady fun _ _ part _ hb =>
    ⟨part.body.respectful hm hb, (part.gives hb.keyed).mono fun _ _ => hR _ _⟩

/-- Clients with commands to carry out one after another, and a store in which nothing was done. -/
def carryingOut (e : Engine) (k : Backend) (now : Instant) (plan : ι → List Command) :
    Troubled ι k.State (List (Except Error Outcome)) where
  committed := k.fresh now
  client i := some ((plan i).mapM e.perform)

/-- Clients with commands to carry out one after another, and a store that was used before. -/
def carryingOn (e : Engine) {σ : Type} (x : σ) (plan : ι → List Command) :
    Troubled ι σ (List (Except Error Outcome)) where
  committed := x
  client i := some ((plan i).mapM e.perform)

/-- Whatever clients command and whatever goes wrong, what is committed is what their commands made
one after another of what was there from the start. -/
theorem Troubled.Run.made [DecidableEq ι] {e : Engine} (hm : e.initialBalance ≤ maxCoins)
    {k : Backend} {applied : Option (Table String)} {x : k.State} {b₀ : Books}
    (storable : b₀.Storable) (hx : x = k.hold applied b₀) {plan : ι → List Command}
    {history : List (Happening ι)} {S : Troubled ι k.State (List (Except Error Outcome))}
    (run : Run k.keeper (carryingOn e x plan) history S) {R : Books → Books → Prop}
    (hR : ∀ i, ∀ c ∈ plan i, ∀ b b', e.Makes c b b' → R b b') :
    ∃ b, Stable R applied S.toShared b ∧ Relation.ReflTransGen R b₀ b := by
  refine run.stable (.start storable hx fun i d hd => ?_)
  cases hd
  exact .mapM fun c hc => Engine.perform_steady hm (hR i c hc)

theorem Troubled.Run.becomes [DecidableEq ι] {e : Engine} (hm : e.initialBalance ≤ maxCoins)
    {k : Backend} {now : Instant} {plan : ι → List Command} {history : List (Happening ι)}
    {S : Troubled ι k.State (List (Except Error Outcome))}
    (run : Run k.keeper (carryingOut e k now plan) history S) :
    ∃ b, Stable e.Becomes (some Migration.noted) S.toShared b ∧
      Relation.ReflTransGen e.Becomes (k.stock now) b :=
  run.made hm (k.storable_stock now) (k.fresh_eq now) fun _ _ _ _ _ => Engine.Makes.becomes

/-- What is kept by every command is kept by commands one after another. -/
theorem Engine.Becomes.kept {e : Engine} {b b' : Books}
    (h : Relation.ReflTransGen e.Becomes b b') {I : Books → Prop}
    (step : ∀ b c o b', I b → Effect e b c o b' → I b') (hb : I b) : I b' := by
  induction h with
  | refl => exact hb
  | tail _ made ih =>
    obtain ⟨c, o, effect⟩ := made
    exact step _ c o _ ih effect

/-- What held of the books from the start and is kept by the commands that are carried out holds of
what is committed. -/
theorem Troubled.Run.invariant_on [DecidableEq ι] {e : Engine} (hm : e.initialBalance ≤ maxCoins)
    {k : Backend} {applied : Option (Table String)} {x : k.State} {b₀ : Books}
    (storable : b₀.Storable) (hx : x = k.hold applied b₀) {plan : ι → List Command}
    {history : List (Happening ι)} {S : Troubled ι k.State (List (Except Error Outcome))}
    (run : Run k.keeper (carryingOn e x plan) history S) {I : Books → Prop} (start : I b₀)
    (step : ∀ i, ∀ c ∈ plan i, ∀ b o b', I b → Effect e b c o b' → I b') :
    ∃ b, b.Storable ∧ S.committed = k.hold applied b ∧ I b := by
  obtain ⟨b, stable, reached⟩ := run.made hm storable hx (R := fun b b' => I b → I b')
    fun i c hc b b' made => by
      rcases made with rfl | ⟨o, effect⟩
      · exact id
      · exact fun hb => step i c hc b o b' hb effect
  refine ⟨b, stable.storable, stable.committed, ?_⟩
  clear stable
  induction reached with
  | refl => exact start
  | tail _ kept ih => exact kept ih

theorem Troubled.Run.invariant_of_plan [DecidableEq ι] {e : Engine}
    (hm : e.initialBalance ≤ maxCoins) {k : Backend} {now : Instant} {plan : ι → List Command}
    {history : List (Happening ι)} {S : Troubled ι k.State (List (Except Error Outcome))}
    (run : Run k.keeper (carryingOut e k now plan) history S) {I : Books → Prop}
    (stocked : I (k.stock now))
    (step : ∀ i, ∀ c ∈ plan i, ∀ b o b', I b → Effect e b c o b' → I b') :
    ∃ b, b.Storable ∧ S.committed = k.hold (some Migration.noted) b ∧ I b :=
  run.invariant_on hm (k.storable_stock now) (k.fresh_eq now) stocked step

/-- What held of the books from the start and is kept by every command holds of what is
committed. -/
theorem Troubled.Run.invariant [DecidableEq ι] {e : Engine} (hm : e.initialBalance ≤ maxCoins)
    {k : Backend} {now : Instant} {plan : ι → List Command} {history : List (Happening ι)}
    {S : Troubled ι k.State (List (Except Error Outcome))}
    (run : Run k.keeper (carryingOut e k now plan) history S) {I : Books → Prop}
    (stocked : I (k.stock now)) (step : ∀ b c o b', I b → Effect e b c o b' → I b') :
    ∃ b, b.Storable ∧ S.committed = k.hold (some Migration.noted) b ∧ I b :=
  run.invariant_of_plan hm stocked fun _ c _ b o b' => step b c o b'

/-! ## Two clients and a cup -/

section Cup

open Credential Troubled

/-- One client registers, offers a cup and buys it. Another one looks at the catalog and wants the
cup within some time. -/
def cupPlan : Bool → List Command
  | false =>
    [.register "alice" "secret" (.replicate 7), .addItem "cup" 5, .purchase 1 "cup" none]
  | true => [.catalog, .purchase 1 "cup" (some 100)]

/-- An operation before others. -/
def Exchange.andThen {β : Type} (d : Exchange β) (others : Exchange (List β)) :
    Exchange (List β) :=
  d >>= fun first => others >>= fun rest => pure (first :: rest)

/-- The two when nothing was done, by what the first one registers. -/
def cupWanted (e : Engine) (name hash : String) :
    Troubled Bool Books (List (Except Error Outcome)) where
  committed := Backend.memory.fresh default
  client
    | false =>
      let registers := inUnit .register none (Engine.insertNew ⟨name, hash, e.initialBalance⟩)
      let offers := inUnit .addItem none (Engine.insertNewItem ⟨"cup", 5⟩)
      some <| (Engine.perform.wrap .account registers).andThen <|
        (Engine.perform.wrap .item offers).andThen <|
          [.purchase 1 "cup" none].mapM e.perform
    | true => some ((cupPlan true).mapM e.perform)

/-- The two once the cup is offered. -/
def cupOffered (e : Engine) (name hash : String) :
    Troubled Bool Books (List (Except Error Outcome)) where
  committed :=
    { accounts := [⟨1, name, hash, e.initialBalance, default⟩]
      items := [⟨1, "cup", 5, default⟩]
      sequences := { account := 1, item := 1 } }
  client
    | false =>
      some (([.purchase 1 "cup" none].mapM e.perform >>= fun rest =>
        pure (.ok (.item ⟨1, "cup", 5, default⟩) :: rest)) >>= fun rest =>
        pure (.ok (.account ⟨1, name, hash, e.initialBalance, default⟩) :: rest))
    | true => some ((cupPlan true).mapM e.perform)

theorem exists_cupWanted :
    ∃ name hash, carryingOut {} .memory default cupPlan = cupWanted {} name hash := by
  have hname : normalizeUsername "alice" = .ok (canonicalUsername "alice") :=
    normalizeUsername_of_fits (by decide +kernel)
  have hpass : validatePassword "secret" = .ok () := if_neg (by decide)
  have registers := Engine.register_of_accepted
    (Engine.newAccount?_of_accepted {} (.replicate 7) hname hpass)
  have offers : NewItem.of? "cup" 5 = .ok ⟨"cup", 5⟩ := by decide +kernel
  refine ⟨canonicalUsername "alice", hashPassword (.replicate 7) "secret",
    congrArg (fun c => Troubled.mk (Shared.mk _ none (fun _ => none) c) _) (funext fun i => ?_)⟩
  cases i with
  | true => rfl
  | false =>
    have second : Engine.perform {} (.addItem "cup" 5) =
        Engine.perform.wrap .item (inUnit .addItem none (Engine.insertNewItem ⟨"cup", 5⟩)) := by
      show Engine.perform.wrap .item (Engine.addItem {} "cup" 5) = _
      rw [Engine.addItem, offers]
      rfl
    show some ((cupPlan false).mapM (Engine.perform {})) = _
    rw [cupPlan, List.mapM_cons, List.mapM_cons, second]
    exact congrArg (fun d => some ((Engine.perform.wrap .account d).andThen _)) registers

theorem exists_cupOffered (name hash : String) : ∃ history,
    Run Backend.memory.keeper (cupWanted {} name hash) history (cupOffered {} name hash) := by
  suffices h : ∃ history S, Run Backend.memory.keeper (cupWanted {} name hash) history S ∧
      S = cupOffered {} name hash by
    obtain ⟨history, _, run, rfl⟩ := h
    exact ⟨history, run⟩
  have ready : Run Backend.memory.keeper (cupWanted {} name hash) [] _ := .refl
  have begun := ready.step (.answers (i := false) default rfl rfl)
  have looked := begun.step (.answers (i := false) default rfl rfl)
  have made := looked.step (.answers (i := false) default rfl rfl)
  have registered := made.step (.answers (i := false) default rfl rfl)
  have begun := registered.step (.answers (i := false) default rfl rfl)
  have looked := begun.step (.answers (i := false) default rfl rfl)
  have made := looked.step (.answers (i := false) default rfl rfl)
  have offered := made.step (.answers (i := false) default rfl rfl)
  refine ⟨_, _, offered, (Troubled.mk.injEq ..).mpr ⟨(Shared.mk.injEq ..).mpr ?_, ?_⟩⟩
  · refine ⟨rfl, rfl, ?_, ?_⟩ <;> · funext i; cases i <;> rfl
  · funext i
    cases i <;> rfl

theorem exists_cupBought (name hash : String) : ∃ history S x,
    Run Backend.memory.keeper (cupOffered {} name hash) history S ∧
      (S.committed : Books).ledger = [x] := by
  have ready : Run Backend.memory.keeper (cupOffered {} name hash) [] _ := .refl
  have failed := ready.step (.fails (i := true) rfl (.fails .database))
  have begun := failed.step (.answers (i := true) default rfl rfl)
  have looked := begun.step (.answers (i := true) default rfl rfl)
  have expired := looked.step (.expires (i := true) rfl rfl nofun)
  have begun := expired.step (.answers (i := false) default rfl rfl)
  have found := begun.step (.answers (i := false) default rfl rfl)
  have locked := found.step (.answers (i := false) default rfl rfl)
  have paid := locked.step (.answers (i := false) default rfl rfl)
  have looked := paid.step (.answers (i := false) default rfl rfl)
  have taken := looked.step (.answers (i := false) default rfl rfl)
  have noted := taken.step (.answers (i := false) default rfl rfl)
  have bought := noted.step (.answers (i := false) default rfl rfl)
  exact ⟨_, _, _, bought, rfl⟩

/-- The cup is offered. Then the store fails the other client, its deadline passes, and the first
client buys the cup. -/
theorem exists_cupRun : ∃ history S history' S' x,
    Run Backend.memory.keeper (carryingOut {} .memory default cupPlan) history S ∧
      Run Backend.memory.keeper S history' S' ∧ (S.committed : Books).ledger = [] ∧
      (S'.committed : Books).ledger = [x] := by
  obtain ⟨name, hash, wanted⟩ := exists_cupWanted
  obtain ⟨history, run⟩ := exists_cupOffered name hash
  obtain ⟨history', S', x, run', noted⟩ := exists_cupBought name hash
  exact ⟨history, cupOffered {} name hash, history', S', x, wanted ▸ run, run', rfl, noted⟩

end Cup

end Scrip
