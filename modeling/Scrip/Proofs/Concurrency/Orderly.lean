import Scrip.Proofs.Concurrency.Timed
import Scrip.Proofs.Framework.Terms

/-!
# Clients on terms that share a storage

Clients of which each keeps to terms of its own share a storage (`Shared.Orderly`). What is
committed is what others may have left for each client outside a unit, and the client inside one
works on a copy of it. Every step keeps this (`Orderly.step`), whichever client takes it, whatever
the clock shows and whichever deadline passes that the terms allow to pass, if what is committed
agrees with the terms of all. So each client ends as it would by its terms (`TimedRun.orderly`,
`Orderly.ended`), and one that has the storage for itself comes to its end (`Orderly.exists_end`).
-/

namespace Scrip.Shared

open Backend (Stands)
open Dialogue (Lawful)

variable {ι σ α : Type} {T : ι → Terms} {applied : Option (Table String)} {k : Backend}
  {Q : ι → α → Books → Prop} {S S' : Shared ι k.State α} {b : Books} {i : ι}

/-- A client goes on as its terms say, from what it knows. -/
def OnTerms (T : ι → Terms) (Q : ι → α → Books → Prop) (i : ι) (d : Exchange α) (x : Standing) :
    Prop :=
  Lawful (T i).Asks (T i).May d x fun a s => s.working = none ∧ Q i a s.committed

/-- Books are committed from which each client can go on. -/
structure Orderly (T : ι → Terms) (applied : Option (Table String)) (Q : ι → α → Books → Prop)
    (S : Shared ι k.State α) (b : Books) : Prop where
  storable : b.Storable
  rely : ∀ i, (T i).rely b b
  committed : S.committed = k.hold applied b
  outside : ∀ i, S.lock ≠ some i → S.copy i = none ∧
    ∀ d, S.client i = some d → ∃ b₀, (T i).rely b₀ b ∧ OnTerms T Q i d ⟨b₀, none⟩
  inside : ∀ i, S.lock = some i → ∃ w, w.Storable ∧ S.copy i = some (k.hold applied w) ∧
    ∀ d, S.client i = some d → OnTerms T Q i d ⟨b, some w⟩

variable [DecidableEq ι]

theorem Run.trans {keeper : Keeper σ} {S₀ S₁ S : Shared ι σ α} {log log' : List (ι × Ending)}
    (h : Run keeper S₀ log S₁) (h' : Run keeper S₁ log' S) : Run keeper S₀ (log ++ log') S := by
  induction h' with
  | refl => exact (List.append_nil _).symm ▸ h
  | step _ hs ih => exact List.append_assoc .. ▸ ih.step hs

theorem Run.cons {keeper : Keeper σ} {S₀ S₁ S : Shared ι σ α} {ended : Option (ι × Ending)}
    {log : List (ι × Ending)} (hs : Step keeper S₀ ended S₁) (h : Run keeper S₁ log S) :
    Run keeper S₀ (ended.toList ++ log) S :=
  (Run.refl.step hs).trans h

/-- Whoever was answered has the lock, if anybody has. -/
theorem lock_answered (S : Shared ι σ α) (i : ι) (s : Storage σ) (d : Exchange α) :
    (S.answered i s d).lock = none ∨ (S.answered i s d).lock = some i := by
  show s.working.map _ = none ∨ s.working.map _ = some i
  cases s.working with
  | none => exact .inl rfl
  | some => exact .inr rfl

namespace Orderly

omit [DecidableEq ι] in
/-- Clients that are all about to begin. -/
theorem start {client : ι → Option (Exchange α)} {x : k.State} (hb : b.Storable)
    (hx : x = k.hold applied b) (rely : ∀ i, (T i).rely b b)
    (h : ∀ i d, client i = some d → d.Keeps (T i) b (Q i)) :
    Orderly T applied Q { committed := x, client } b :=
  ⟨hb, rely, hx, fun i _ => ⟨rfl, fun d hd => ⟨b, rely i, h i d hd⟩⟩, fun i hi => by cases hi⟩

omit [DecidableEq ι] in
/-- The outcome of a client that is done agrees with its terms. -/
theorem ended (h : Orderly T applied Q S b) {a : α} (hd : S.client i = some (.done a)) :
    ∃ b₀, Q i a b₀ ∧ (T i).rely b₀ b ∧ S.lock ≠ some i := by
  by_cases hl : S.lock = some i
  · obtain ⟨w, -, -, hlaw⟩ := h.inside i hl
    cases (Lawful.done_iff.mp (hlaw _ hd)).1
  · obtain ⟨-, hlaw⟩ := h.outside i hl
    obtain ⟨b₀, hr, hd⟩ := hlaw _ hd
    exact ⟨b₀, (Lawful.done_iff.mp hd).2, hr, hl⟩

omit [DecidableEq ι] in
/-- A client that is about to begin may go on by other terms, from what is committed now. -/
theorem renew (h : Orderly T applied Q S b) {d : Exchange α} (hd : S.client i = some d)
    {T' : ι → Terms} {Q' : ι → α → Books → Prop} (rely : (T' i).rely b b)
    (keeps : d.Keeps (T' i) b (Q' i)) (same : ∀ j ≠ i, T' j = T j)
    (others : ∀ j ≠ i, ∀ a b', Q j a b' → Q' j a b') : Orderly T' applied Q' S b := by
  have goesOn {j : ι} (hj : j ≠ i) {d : Exchange α} {x : Standing} (hd : OnTerms T Q j d x) :
      OnTerms T' Q' j d x := by
    rw [OnTerms, same j hj]
    exact Lawful.mono hd fun a s hQ => ⟨hQ.1, others j hj a _ hQ.2⟩
  have unlocked : S.lock ≠ some i := by
    intro hl
    obtain ⟨w, -, -, hlaw⟩ := h.inside i hl
    have inside := hlaw d hd
    cases d with
    | done a => cases (Lawful.done_iff.mp inside).1
    | ask c next =>
      -- Only a unit may begin outside of one, and it may not inside.
      cases (Lawful.ask_iff.mp keeps).1
      cases (Lawful.ask_iff.mp inside).1
  have relies (j : ι) : (T' j).rely b b := by
    by_cases hj : j = i
    · exact hj ▸ rely
    · exact same j hj ▸ h.rely j
  refine ⟨h.storable, relies, h.committed, fun j hl => ?_, fun j hl => ?_⟩
  · obtain ⟨hcopy, hlaw⟩ := h.outside j hl
    refine ⟨hcopy, fun d' hd' => ?_⟩
    by_cases hj : j = i
    · subst hj
      cases hd.symm.trans hd'
      exact ⟨b, rely, keeps⟩
    · obtain ⟨b₀, hr, hd₀⟩ := hlaw d' hd'
      exact ⟨b₀, same j hj ▸ hr, goesOn hj hd₀⟩
  · have hj : j ≠ i := fun he => unlocked (he ▸ hl)
    obtain ⟨w, hw, hcopy, hlaw⟩ := h.inside j hl
    exact ⟨w, hw, hcopy, fun d' hd' => goesOn hj (hlaw d' hd')⟩

/-- The system after a call was answered to a client, which goes on from where it stands. -/
theorem answered (h : Orderly T applied Q S b) (turn : S.lock = none ∨ S.lock = some i)
    {s : Storage k.State} {x : Standing} (hs : Stands applied k s x) {d : Exchange α}
    (hd : OnTerms T Q i d x) (rely : ∀ j, (T j).rely x.committed x.committed)
    (others : ∀ j ≠ i, ∀ b₀, (T j).rely b₀ b → (T j).rely b₀ x.committed) :
    Orderly T applied Q (S.answered i s d) x.committed := by
  obtain ⟨b', w⟩ := x
  have apart (j : ι) (hj : j ≠ i) : (S.answered i s d).copy j = none ∧
      ∀ d', (S.answered i s d).client j = some d' →
        ∃ b₀, (T j).rely b₀ b' ∧ OnTerms T Q j d' ⟨b₀, none⟩ := by
    obtain ⟨hcopy, hlaw⟩ := h.outside j (lock_ne turn hj)
    refine ⟨(copy_answered_of_ne hj ..).trans hcopy, fun d' hd' => ?_⟩
    rw [client_answered_of_ne hj] at hd'
    obtain ⟨b₀, hr, hd₀⟩ := hlaw d' hd'
    exact ⟨b₀, others j hj b₀ hr, hd₀⟩
  have copied : (S.answered i s d).copy i = w.map (k.hold applied) :=
    (copy_answered_self ..).trans hs.working
  have goesOn : ∀ d', (S.answered i s d).client i = some d' → d' = d := fun d' hd' => by
    rw [client_answered_self] at hd'
    exact (Option.some.inj hd').symm
  have locked : (S.answered i s d).lock = w.map fun _ => i := by
    show s.working.map _ = _
    rw [hs.working, Option.map_map]
    rfl
  refine ⟨hs.storable, rely, hs.committed, fun j hj => ?_, fun j hj => ?_⟩
  · by_cases hji : j = i
    · subst hji
      cases w with
      | some w => exact absurd locked hj
      | none =>
        exact ⟨copied, fun d' hd' => ⟨b', rely j, goesOn d' hd' ▸ hd⟩⟩
    · exact apart j hji
  · cases w with
    | none => cases locked.symm.trans hj
    | some w =>
      cases locked.symm.trans hj
      exact ⟨w, hs.copy w rfl, copied, fun d' hd' => goesOn d' hd' ▸ hd⟩

/-- The system after a client gave up its unit, if it had one. -/
theorem abandoned (h : Orderly T applied Q S b) {d : Option (Exchange α)}
    (hd : ∀ d' ∈ d, ∃ b₀, (T i).rely b₀ b ∧ OnTerms T Q i d' ⟨b₀, none⟩) :
    Orderly T applied Q (S.abandoned i d) b := by
  refine ⟨h.storable, h.rely, h.committed, fun j hj => ?_, fun j hj => ?_⟩
  · by_cases hji : j = i
    · subst hji
      refine ⟨copy_abandoned_self d, fun d' hd' => hd d' ?_⟩
      rwa [client_abandoned_self] at hd'
    · have hl : S.lock ≠ some j := fun hl => hj ((lock_abandoned d).mpr ⟨hji, hl⟩)
      rw [copy_abandoned_of_ne hji, client_abandoned_of_ne hji]
      exact h.outside j hl
  · obtain ⟨hji, hl⟩ := (lock_abandoned d).mp hj
    rw [copy_abandoned_of_ne hji, client_abandoned_of_ne hji]
    exact h.inside j hl

/-- What a client may commit is something from which all clients can go on. -/
structure Admits (T : ι → Terms) (i : ι) (b w : Books) : Prop where
  rely : ∀ j, (T j).rely w w
  others : ∀ j ≠ i, ∀ b₀, (T j).rely b₀ b → (T j).rely b₀ w

/-- A call of a client is answered. What that commits, if it does, suits all clients. -/
theorem called (h : Orderly T applied Q S b) {c : Call} {next : c.Reply → Exchange α}
    (now : Instant) (hc : S.client i = some (.ask c next)) (turn : S.Turn i c)
    (suits : ∀ w, w.Storable →
      ((S.view i now).party k.keeper c).2.committed = k.hold applied w →
        (T i).commits b w → Admits T i b w) :
    ∃ b', Orderly T applied Q (S.answered i ((S.view i now).party k.keeper c).2
      (next ((S.view i now).party k.keeper c).1)) b' := by
  have inUnit (hl : S.lock = some i) (hb : ∀ limit, c ≠ .begin limit) :
      ∃ b', Orderly T applied Q (S.answered i ((S.view i now).party k.keeper c).2
        (next ((S.view i now).party k.keeper c).1)) b' := by
    obtain ⟨w, hw, hcopy, hlaw⟩ := h.inside i hl
    obtain ⟨asked, hnext⟩ := Lawful.ask_iff.mp (hlaw _ hc)
    have stands : Stands applied k (S.view i now) ⟨b, some w⟩ :=
      ⟨h.storable, h.committed, hcopy, fun _ hx => Option.some.inj hx ▸ hw⟩
    obtain ⟨x, hm, hs⟩ := stands.called (h.rely i) asked
    -- Only a commit changes what is committed.
    rcases hm.kept asked with he | ⟨-, hcommits⟩
    · exact ⟨_, h.answered (.inr hl) hs (hnext _ _ hm) (he ▸ h.rely) fun _ _ _ hr => he ▸ hr⟩
    · have admits := suits _ hs.storable hs.committed hcommits
      exact ⟨_, h.answered (.inr hl) hs (hnext _ _ hm) admits.rely admits.others⟩
  cases c with
  | begin limit =>
    have hl : S.lock = none := turn
    obtain ⟨hcopy, hlaw⟩ := h.outside i (by rw [hl]; exact nofun)
    obtain ⟨b₀, hr, hd⟩ := hlaw _ hc
    have stands : Stands applied k (S.view i now) ⟨b, none⟩ :=
      ⟨h.storable, h.committed, hcopy, nofun⟩
    obtain ⟨hreply, hs⟩ := stands.begins limit
    refine ⟨_, h.answered (.inl hl) hs (hreply ▸ ?_) h.rely fun _ _ _ hr => hr⟩
    exact (Lawful.ask_iff.mp hd).2 _ _ (.begins hr h.storable)
  | within | commit | rollback => exact inUnit turn nofun

/-- The deadline of a client passes, where its terms allow it. -/
theorem expired (h : Orderly T applied Q S b) {c : Call} {next : c.Reply → Exchange α}
    {reply : c.Reply} (hc : S.client i = some (.ask c next)) (hr : c.expired? = some reply)
    (hx : (T i).expires) : Orderly T applied Q (S.abandoned i (some (next reply))) b := by
  refine h.abandoned fun d' hd' => ?_
  cases hd'
  by_cases hl : S.lock = some i
  · obtain ⟨w, -, -, hlaw⟩ := h.inside i hl
    exact ⟨b, h.rely i, (Lawful.ask_iff.mp (hlaw _ hc)).2 _ _ (.lapses hx hr)⟩
  · obtain ⟨-, hlaw⟩ := h.outside i hl
    obtain ⟨b₀, hrely, hd⟩ := hlaw _ hc
    exact ⟨b₀, hrely, (Lawful.ask_iff.mp hd).2 _ _ (.lapses hx hr)⟩

/-- One step of any client. -/
theorem step {late : ι → Prop} (h : Orderly T applied Q S b) {ended : Option (ι × Ending)}
    (hs : TimedStep k.keeper late S ended S') (hx : ∀ i, late i → (T i).expires)
    (suits : ∀ i w, w.Storable → S'.committed = k.hold applied w → (T i).commits b w →
      Admits T i b w) :
    ∃ b', Orderly T applied Q S' b' := by
  cases hs with
  | call now hc turn => exact h.called now hc turn fun w hw => suits _ w hw
  | expires hc hr late => exact ⟨b, h.expired hc hr (hx _ late)⟩
  | leaves => exact ⟨b, h.abandoned nofun⟩

omit [DecidableEq ι] in
/-- A call that a client has to make next is answered as soon as nobody else is inside a unit. -/
theorem turn (h : Orderly T applied Q S b) (free : S.lock = none ∨ S.lock = some i) {c : Call}
    {next : c.Reply → Exchange α} (hd : S.client i = some (.ask c next)) : S.Turn i c := by
  by_cases hl : S.lock = some i
  · obtain ⟨w, -, -, hlaw⟩ := h.inside i hl
    cases (Lawful.ask_iff.mp (hlaw _ hd)).1 <;> exact hl
  · obtain ⟨b₀, -, hlaw⟩ := (h.outside i hl).2 _ hd
    cases (Lawful.ask_iff.mp hlaw).1
    exact free.resolve_right hl

/-- A client goes on to its end without any other, and no deadline passes. -/
theorem exists_end (suits : ∀ b w, (T i).commits b w → Admits T i b w) {d : Exchange α}
    (h : Orderly T applied Q S b) (free : S.lock = none ∨ S.lock = some i)
    (hd : S.client i = some d) :
    ∃ log S' a b', TimedRun k.keeper (fun _ => False) S log S' ∧ S'.client i = some (.done a) ∧
      S'.lock = none ∧ (∀ j ≠ i, S'.client j = S.client j) ∧ Orderly T applied Q S' b' := by
  induction d generalizing S b with
  | done a =>
    obtain ⟨-, -, -, outside⟩ := h.ended hd
    exact ⟨[], S, a, b, .refl, hd, free.resolve_right outside, fun _ _ => rfl, h⟩
  | ask c next ih =>
    have turn := h.turn free hd
    obtain ⟨b₁, h₁⟩ := h.called default hd turn fun w _ _ => suits b w
    obtain ⟨log, S', a, b', run, ended, unlocked, others, h'⟩ :=
      ih _ h₁ (lock_answered ..) (Function.update_self ..)
    refine ⟨_, S', a, b', .cons (.call default hd turn) run, ended, unlocked, fun j hj => ?_, h'⟩
    exact (others j hj).trans (client_answered_of_ne hj ..)

/-- One client after another goes on to its end, and no deadline passes. -/
theorem exists_ends (suits : ∀ i b w, (T i).commits b w → Admits T i b w) (is : List ι)
    (h : Orderly T applied Q S b) (free : S.lock = none) (all : ∀ i, ∃ d, S.client i = some d) :
    ∃ log S' b', TimedRun k.keeper (fun _ => False) S log S' ∧ S'.lock = none ∧
      (∀ i, ∃ d, S'.client i = some d) ∧ (∀ i ∈ is, ∃ a, S'.client i = some (.done a)) ∧
      Orderly T applied Q S' b' := by
  induction is with
  | nil => exact ⟨[], S, b, .refl, free, all, nofun, h⟩
  | cons i is ih =>
    obtain ⟨_, S₁, b₁, run, free, all, done, h₁⟩ := ih
    obtain ⟨d, hd⟩ := all i
    obtain ⟨_, S₂, a, b₂, run', ended, free', others, h₂⟩ :=
      h₁.exists_end (suits i) (.inl free) hd
    have kept {j : ι} {d : Exchange α} (hj : S₁.client j = some d) :
        (∃ a, S₂.client j = some (.done a)) ∨ S₂.client j = some d := by
      by_cases he : j = i
      · exact .inl ⟨a, he ▸ ended⟩
      · exact .inr ((others j he).trans hj)
    refine ⟨_, S₂, b₂, run.trans run', free', fun j => ?_, fun j hj => ?_, h₂⟩
    · obtain ⟨d, hd⟩ := all j
      exact (kept hd).elim (fun ⟨a, ha⟩ => ⟨_, ha⟩) fun hd => ⟨d, hd⟩
    · rcases List.mem_cons.mp hj with rfl | hj
      · exact ⟨a, ended⟩
      · obtain ⟨a', ha⟩ := done j hj
        exact (kept ha).elim id fun ha => ⟨a', ha⟩

end Orderly

/-- A state of the system on the way from one to another. -/
def OnTheWay (keeper : Keeper σ) (S₀ S S₁ : Shared ι σ α) : Prop :=
  (∃ log, Run keeper S₀ log S₁) ∧ ∃ log, Run keeper S₁ log S

/-- Steps one after another, if what is committed on the way suits all clients. -/
theorem TimedRun.orderly {late : ι → Prop} {S₀ S : Shared ι k.State α} {log : List (ι × Ending)}
    (h : TimedRun k.keeper late S₀ log S) (hx : ∀ i, late i → (T i).expires)
    (h₀ : Orderly T applied Q S₀ b)
    (suits : ∀ S₁ (i : ι) (b w : Books), OnTheWay k.keeper S₀ S S₁ → w.Storable →
      S₁.committed = k.hold applied w → (T i).commits b w → Orderly.Admits T i b w) :
    ∃ b, Orderly T applied Q S b := by
  suffices hall : ∀ {log₁ S₁}, TimedRun k.keeper late S₀ log₁ S₁ →
      ∀ {log₂}, Run k.keeper S₁ log₂ S → ∃ b, Orderly T applied Q S₁ b from hall h .refl
  intro log₁ S₁ h₁
  induction h₁ with
  | refl => exact fun _ => ⟨b, h₀⟩
  | @step log₁ ended S₁ S₂ h₁ hs ih =>
    intro log₂ h₂
    obtain ⟨b₁, ho⟩ := ih (.cons hs.step h₂)
    have way : OnTheWay k.keeper S₀ S S₂ := ⟨⟨_, (h₁.step hs).run⟩, _, h₂⟩
    exact ho.step hs hx fun i w => suits S₂ i b₁ w way

end Scrip.Shared
