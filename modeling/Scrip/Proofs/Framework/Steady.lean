import Scrip.Proofs.Framework.Composed
import Scrip.Proofs.Framework.Respectful
import Scrip.Proofs.Framework.Terms

/-!
# Exchanges with a storage that may fail

A client of a storage that it shares with others, where calls may fail, deadlines may pass and
lookups may wrongly find nothing. It is steady if all the same its requests respect the
constraints and its commits make of what was committed what a relation allows
(`Exchange.Steady`).

* `Steady.unit`: a unit whose work respects the constraints and gives what may be committed;
* `Composed.steady`: an operation that consists of such units;
* `Stands.served`: either store answers such a client as it may.
-/

namespace Scrip

open Dialogue (Lawful)

namespace Standing

/-- What a client may ask: requests that respect the constraints, and a commit of what `R` lets
become of what was committed. -/
def Asks (R : Books → Books → Prop) (s : Standing) : Call → Prop
  | .begin _ | .rollback => True
  | .within r => ∀ w ∈ s.working, w.Respects r
  | .commit => ∀ w ∈ s.working, R s.committed w

/-- What may come back. When a unit begins others may have committed anything before. -/
inductive May : Standing → (c : Call) → c.Reply → Standing → Prop
  | begins {s : Standing} {b : Books} {limit : Option Nat} (hb : b.Storable) :
      May s (.begin limit) (.ok ()) ⟨b, some b⟩
  | beginsNot {s : Standing} {limit : Option Nat} (l : Lapse) : May s (.begin limit) (.error l) s
  | within {b w w' : Books} {r : Request} {reply : r.Reply} (h : w.Replies r reply w') :
      May ⟨b, some w⟩ (.within r) reply ⟨b, some w'⟩
  /-- Nothing is told of a request outside a unit. -/
  | outside {b : Books} {r : Request} (reply : r.Reply) :
      May ⟨b, none⟩ (.within r) reply ⟨b, none⟩
  /-- The unit is dropped when the deadline passes. -/
  | expires {s : Standing} {c : Call} {reply : c.Reply} (hc : c.expired? = some reply) :
      May s c reply ⟨s.committed, none⟩
  | commits {b w : Books} : May ⟨b, some w⟩ .commit (.ok ()) ⟨w, none⟩
  | commitsNot {s : Standing} (e : StoreError) : May s .commit (.error e) ⟨s.committed, none⟩
  | rollsBack {s : Standing} (reply : Call.Reply .rollback) :
      May s .rollback reply ⟨s.committed, none⟩

/-- Only a commit changes what is committed while a unit is open, and as `R` says. -/
theorem May.kept {R : Books → Books → Prop} {s s' : Standing} {c : Call} {reply : c.Reply}
    (h : May s c reply s') (asked : s.Asks R c) (hc : ∀ limit, c ≠ .begin limit) :
    s'.committed = s.committed ∨ R s.committed s'.committed := by
  cases h with
  | begins => exact absurd rfl (hc _)
  | commits => exact .inr (asked _ rfl)
  | beginsNot | within | outside | expires | commitsNot | rollsBack => exact .inl rfl

/-- Where a client stands after a call that went wrong. A unit that did not end as it should is
left. -/
def after (s : Standing) : Call → Standing
  | .begin _ | .within _ => s
  | .commit | .rollback => ⟨s.committed, none⟩

end Standing

/-- What may come back for a call that goes wrong. -/
inductive Call.Astray : (c : Call) → c.Reply → Prop
  | fails {c : Call} (e : StoreError) : Astray c (c.fail e)
  | findsNothing {c : Call} : Astray c c.findNothing
  /-- A ledger that was fixed beforehand is read in place of the books. -/
  | recites (account : AccountId) (entries : List Entry) :
      Astray (.within (.entriesFor account)) (.ok entries)

/-- A call that goes wrong is one of the things that may happen. -/
theorem Standing.may_after (s : Standing) {c : Call} {reply : c.Reply} (h : c.Astray reply) :
    Standing.May s c reply (s.after c) := by
  have untouched {r : Request} {reply : r.Reply} (hr : ∀ w : Books, w.Replies r reply w) :
      Standing.May s (.within r) reply s := by
    obtain ⟨b, w⟩ := s
    cases w with
    | none => exact .outside reply
    | some w => exact .within (hr w)
  have fails (e : StoreError) : Standing.May s c (c.fail e) (s.after c) := by
    cases c with
    | begin limit => exact .beginsNot _
    | within r => exact untouched fun _ => .lapses (.failed e)
    | commit => exact .commitsNot e
    | rollback => exact .rollsBack _
  cases h with
  | fails e => exact fails e
  | recites account entries => exact untouched fun _ => .recites account entries
  | findsNothing =>
    cases c with
    | within r =>
      show Standing.May s (.within r) (Call.findNothing (.within r)) s
      simp only [Call.findNothing]
      split
      · exact untouched fun _ => .findsNothing ‹_›
      · exact fails .database
    | begin | commit | rollback => exact fails .database

namespace Exchange

variable {α β : Type} {R : Books → Books → Prop}

/-- Whatever comes back, requests respect the constraints and commits agree with `R`. -/
def Steady (R : Books → Books → Prop) (d : Exchange α) : Prop :=
  ∀ s, Lawful (Standing.Asks R) Standing.May d s fun _ _ => True

theorem Steady.done (a : α) : Steady R (.done a) := fun _ =>
  Lawful.done trivial

theorem Steady.bind {d : Exchange α} {f : α → Exchange β} (hd : d.Steady R)
    (hf : ∀ a, (f a).Steady R) : Steady R (d >>= f) := fun s =>
  Lawful.bind (hd s) fun a s' _ => hf a s'

/-- Operations one after another. -/
theorem Steady.mapM {γ : Type} {f : γ → Exchange α} {xs : List γ}
    (hf : ∀ x ∈ xs, (f x).Steady R) : Steady R (xs.mapM f) := by
  induction xs with
  | nil => exact .done []
  | cons x xs ih =>
    obtain ⟨hx, hxs⟩ := List.forall_mem_cons.mp hf
    rw [List.mapM_cons]
    exact hx.bind fun a => (ih hxs).bind fun as => .done (a :: as)

/-- Requests inside a unit are those of the work, which changes the copy alone. -/
theorem lawful_embed {d : Dialogue Request Request.Reply α} {s : Standing}
    {Q : α → Books → Prop} (hd : ∀ w ∈ s.working, Lawful Books.Respects Books.Replies d w Q) :
    Lawful (Standing.Asks R) Standing.May (d.embed Call.within fun _ reply => reply) s
      fun a s' => s'.committed = s.committed ∧ ∀ w ∈ s'.working, Q a w := by
  induction d generalizing s with
  | done a => exact .done ⟨rfl, fun w hw => Lawful.done_iff.mp (hd w hw)⟩
  | ask r next ih =>
    have asked : s.Asks R (.within r) := fun w hw => (Lawful.ask_iff.mp (hd w hw)).1
    refine .ask asked fun reply s' hm => ?_
    cases hm with
    | within h =>
      refine ih reply fun w' hw' => ?_
      cases hw'
      exact (Lawful.ask_iff.mp (hd _ rfl)).2 reply _ h
    | outside => exact ih reply nofun
    | expires hc =>
      cases hc
      exact ih (.error .expired) nofun

/-- A unit whose work respects the constraints and gives what may be committed. -/
theorem Steady.unit {op : Operation} {limit : Option Nat} {w : Work α}
    (hw : ∀ b, b.Storable → w.Respectful b ∧ w.Gives b fun _ b' => R b b') :
    Steady R (inUnit op limit w) := fun s => by
  refine .ask trivial fun reply s' hm => ?_
  cases hm with
  | beginsNot l => cases l <;> exact .done trivial
  | expires hc =>
    cases hc
    exact .done trivial
  | @begins _ b _ hb =>
    obtain ⟨respects, gives⟩ := hw b hb
    have body : ∀ w₀ ∈ some b, Lawful Books.Respects Books.Replies w.run w₀
        fun outcome b' => ∀ a, outcome = .ok a → R b b' := by
      rintro w₀ ⟨⟩
      exact (respects.and_wp gives).mono fun _ _ h => h.2
    refine (lawful_embed (s := ⟨b, some b⟩) body).bind fun outcome s₁ ⟨hc, hQ⟩ => ?_
    match outcome, hQ with
    | .ok a, hQ =>
      have asked : s₁.Asks R .commit := fun w₁ hw₁ => hc ▸ hQ w₁ hw₁ a rfl
      refine .ask asked fun reply s₂ hm => ?_
      match reply with
      | .ok () | .error _ => exact .done trivial
    | .error .expired, _ => exact .done trivial
    | .error (.rule _), _ | .error (.store _), _ =>
      refine .ask trivial fun reply s₂ hm => ?_
      match reply with
      | .ok () | .error (.failed _) | .error .expired => exact .done trivial

/-- An operation is steady if the work of its units is. -/
theorem Composed.steady {limit : Option Nat} {part : (β : Type) → Work β → Prop}
    {d : Exchange (Except Error α)} (h : d.Composed limit part)
    (hp : ∀ β (w : Work β), part β w → ∀ b, b.Storable →
      w.Respectful b ∧ w.Gives b fun _ b' => R b b') : d.Steady R := by
  induction h with
  | done => exact .done _
  | @unit β op w f hw stops _ _ ih =>
    refine (Steady.unit (hp β w hw)).bind fun outcome => ?_
    rcases timely_or outcome with ⟨label, rfl⟩ | timely
    · rw [stops]
      exact .done _
    · exact ih outcome timely

end Exchange

/-! ## Stores that are asked so -/

namespace Backend

variable {k : Backend} {applied : Option (Table String)}

/-- A request that respects the constraints is answered as books may reply, or it fails. -/
theorem keeper_replies {w : Books} (hw : w.Storable) {r : Request} (hr : w.Respects r)
    (applied : Option (Table String)) (now : Instant) (k : Backend) :
    (∃ a w', k.keeper now (k.hold applied w) r = .ok (a, k.hold applied w') ∧ w'.Storable ∧
      w.Replies r (.ok a) w') ∨ ∃ e, k.keeper now (k.hold applied w) r = .error e := by
  cases k with
  | memory =>
    show (∃ a w', w.answer now.shown r = .ok (a, w') ∧ _) ∨ ∃ e, w.answer now.shown r = .error e
    cases ha : w.answer now.shown r with
    | error e => exact .inr ⟨e, rfl⟩
    | ok x => exact .inl ⟨x.1, x.2, rfl, hw.answer now.ordinary_shown hr ha, .answers _ ha⟩
  | tables =>
    have halike := Books.answer_tables applied hw hr now.shown
    show (∃ a, ∃ w' : Books, (w.tables applied).answer now.shown r =
        .ok (a, w'.tables applied) ∧ _) ∨
      ∃ e, (w.tables applied).answer now.shown r = .error e
    generalize hx : w.answer now.shown r = x at halike
    generalize hy : (w.tables applied).answer now.shown r = y at halike
    cases halike with
    | conflicts => exact .inr ⟨_, rfl⟩
    | answers hs =>
      have serves := Books.Serves.intro now.shown now.ordinary_shown _ hx hs
      exact .inl ⟨_, _, rfl, hw.answer now.ordinary_shown hr hx, serves.replies⟩

/-- A call inside a unit is answered as it may be. -/
theorem Stands.served {s : Storage k.State} {b w : Books} {R : Books → Books → Prop} {c : Call}
    (hx : Stands applied k s ⟨b, some w⟩) (hc : Standing.Asks R ⟨b, some w⟩ c)
    (hne : ∀ limit, c ≠ .begin limit) :
    ∃ x, Standing.May ⟨b, some w⟩ c (s.party k.keeper c).1 x ∧
      Stands applied k (s.party k.keeper c).2 x := by
  cases c with
  | begin limit => exact absurd rfl (hne limit)
  | within r =>
    rcases keeper_replies (hx.copy w rfl) (hc w rfl) applied s.now k with
      ⟨a, w', ha, hw', hr⟩ | ⟨e, he⟩
    · obtain ⟨hreply, hs⟩ := hx.request hw' ha
      exact ⟨_, hreply ▸ .within hr, hs⟩
    · obtain ⟨hreply, hs⟩ := hx.refused he
      exact ⟨_, hreply ▸ .within (.lapses _), hs⟩
  | commit =>
    obtain ⟨hreply, hs⟩ := hx.commits
    exact ⟨_, hreply ▸ .commits, hs⟩
  | rollback =>
    obtain ⟨hreply, hs⟩ := hx.rollsBack
    exact ⟨_, hreply ▸ .rollsBack _, hs⟩

end Backend

end Scrip
