import Scrip.Proofs.Framework.Wp
import Scrip.Store.Scripted

/-!
# Work on books that may fail

Every way in which books may reply to a request (`Books.Replies`): with their
answer, with a failure, by wrongly finding nothing, or not before the deadline.
A request that is not answered leaves the books as they were, so what work does
to them is told by the answers it got. `Work.Gives` says what holds of the value
of work and of the books it leaves, whatever the replies.

* `Replies.of_lookup`: what a lookup finds is there, and nothing is changed by it;
* `Replies.debit`, `Replies.credit`, ...: what a write is said to have done is done;
* `Gives.bind`, `Gives.call`, `Gives.attempt`: the steps of work.
-/

namespace Scrip

open Dialogue (WP)

/-- How books may reply to a request, at whatever time, when calls may fail. -/
inductive Books.Replies (b : Books) : (r : Request) → r.Reply → Books → Prop
  | answers {r : Request} {a : r.Answer} {b' : Books} (now : Instant)
      (h : b.answer now r = .ok (a, b')) : Replies b r (.ok a) b'
  /-- The request does not reach the books, or is refused by them. -/
  | lapses {r : Request} (l : Lapse) : Replies b r (.error l) b
  /-- The request does not reach the books and seems to find nothing. -/
  | findsNothing {r : Request} {a : r.Answer} (h : r.nothing? = some a) : Replies b r (.ok a) b
  /-- A ledger that was fixed beforehand is read in place of the books. -/
  | recites (account : AccountId) (entries : List Entry) :
      Replies b (.entriesFor account) (.ok entries) b

namespace Books.Replies

variable {b b' : Books}

theorem of_lapse {r : Request} {l : Lapse} (h : b.Replies r (.error l) b') : b' = b := by
  cases h; rfl

/-- A request that does not write leaves the books as they were. -/
theorem of_read {r : Request} {reply : r.Reply} (hr : r.isWrite = false)
    (h : b.Replies r reply b') : b' = b := by
  cases h with
  | answers now h =>
    cases r <;> simp only [Request.isWrite, reduceCtorEq] at hr <;>
      simp only [Books.answer, Except.ok.injEq, Prod.mk.injEq] at h <;> exact h.2.symm
  | lapses | findsNothing | recites => rfl

/-- What the books answer to a request that has no answer for nothing. -/
theorem of_something {r : Request} {a : r.Answer} (hr : r.nothing? ≠ some a)
    (he : ∀ account, r ≠ .entriesFor account) (h : b.Replies r (.ok a) b') :
    ∃ now, b.answer now r = .ok (a, b') := by
  cases h with
  | answers now h => exact ⟨now, h⟩
  | findsNothing h => exact absurd h hr
  | recites account => exact absurd rfl (he account)

/-- What a lookup finds is what the books have. -/
theorem of_lookup {r : Request} {a x : r.Answer} (hr : r.nothing? ≠ some a)
    (he : ∀ account, r ≠ .entriesFor account) (hx : ∀ now, b.answer now r = .ok (x, b))
    (h : b.Replies r (.ok a) b') : x = a ∧ b' = b := by
  obtain ⟨now, h⟩ := h.of_something hr he
  cases (hx now).symm.trans h
  exact ⟨rfl, rfl⟩

theorem account {id : AccountId} {a : Account} (h : b.Replies (.account id) (.ok (some a)) b') :
    b.account? id = some a ∧ b' = b :=
  h.of_lookup (by simp [Request.nothing?]) (by simp) fun _ => rfl

theorem lockAccount {id : AccountId} {a : Account}
    (h : b.Replies (.lockAccount id) (.ok (some a)) b') : b.account? id = some a ∧ b' = b :=
  h.of_lookup (by simp [Request.nothing?]) (by simp) fun _ => rfl

theorem accountByName {name : String} {a : Account}
    (h : b.Replies (.accountByName name) (.ok (some a)) b') :
    b.accountByName? name = some a ∧ b' = b :=
  h.of_lookup (by simp [Request.nothing?]) (by simp) fun _ => rfl

theorem itemByName {name : String} {i : Item}
    (h : b.Replies (.itemByName name) (.ok (some i)) b') :
    b.itemByName? name = some i ∧ b' = b :=
  h.of_lookup (by simp [Request.nothing?]) (by simp) fun _ => rfl

/-- An account that is inserted is new, also by its name. -/
theorem insertAccount {new : NewAccount} {a : Account}
    (h : b.Replies (.insertAccount new) (.ok a) b') :
    b.accountByName? new.username = none ∧ ∃ now, (a, b') = b.addAccount now new := by
  obtain ⟨now, h⟩ := h.of_something (by simp [Request.nothing?]) (by simp)
  simp only [Books.answer] at h
  split at h
  · cases h
  · rename_i hn
    exact ⟨by simpa using hn, now, (Except.ok.inj h).symm⟩

/-- An item that is inserted is new, also by its name. -/
theorem insertItem {new : NewItem} {i : Item} (h : b.Replies (.insertItem new) (.ok i) b') :
    b.itemByName? new.name = none ∧ ∃ now, (i, b') = b.addItem now new := by
  obtain ⟨now, h⟩ := h.of_something (by simp [Request.nothing?]) (by simp)
  simp only [Books.answer] at h
  split at h
  · cases h
  · rename_i hn
    exact ⟨by simpa using hn, now, (Except.ok.inj h).symm⟩

theorem changed_true {x : Option Books} (h : b.changed x = (true, b')) : x = some b' := by
  cases x with
  | none => cases h
  | some c => exact congrArg some (congrArg Prod.snd h)

/-- A debit that is said to be done is done. -/
theorem debit {id : AccountId} {amount : Int} (h : b.Replies (.debit id amount) (.ok true) b') :
    b.debit id amount = some b' := by
  obtain ⟨now, h⟩ := h.of_something (by simp [Request.nothing?]) (by simp)
  exact changed_true (Except.ok.inj h)

/-- A credit that is said to be done is done. -/
theorem credit {id : AccountId} {amount : Int} (h : b.Replies (.credit id amount) (.ok true) b') :
    b.credit id amount = .ok (some b') := by
  obtain ⟨now, h⟩ := h.of_something (by simp [Request.nothing?]) (by simp)
  simp only [Books.answer] at h
  cases hc : b.credit id amount with
  | error e => rw [hc] at h; cases h
  | ok x =>
    rw [hc] at h
    rw [changed_true (Except.ok.inj h)]

/-- A holding that is said to be raised is raised. -/
theorem incrementHolding {account : AccountId} {item : ItemId}
    (h : b.Replies (.incrementHolding account item) (.ok true) b') :
    b.incrementHolding account item = some b' := by
  obtain ⟨now, h⟩ := h.of_something (by simp [Request.nothing?]) (by simp)
  exact changed_true (Except.ok.inj h)

/-- A holding that is said to be made is made. -/
theorem insertHolding {account : AccountId} {item : ItemId} {x : Holding}
    (h : b.Replies (.insertHolding account item) (.ok (some x)) b') :
    ∃ now, b.addHolding now account item = some (x, b') := by
  obtain ⟨now, h⟩ := h.of_something (by simp [Request.nothing?]) (by simp)
  simp only [Books.answer] at h
  split at h
  · rename_i hx
    cases h
    exact ⟨now, hx⟩
  · cases h

/-- A holding that is said not to be made is not made. -/
theorem insertHolding_none {account : AccountId} {item : ItemId}
    (h : b.Replies (.insertHolding account item) (.ok none) b') : b' = b := by
  cases h with
  | answers now h =>
    simp only [Books.answer] at h
    split at h
    · cases h
    · cases h; rfl
  | findsNothing => rfl

theorem append {new : NewEntry} {entry : Entry} (h : b.Replies (.append new) (.ok entry) b') :
    ∃ now, (entry, b') = b.append now new := by
  obtain ⟨now, h⟩ := h.of_something (by simp [Request.nothing?]) (by simp)
  exact ⟨now, (Except.ok.inj h).symm⟩

end Books.Replies

/-! ## What work gives -/

namespace Work

variable {α β : Type} {b : Books}

/-- Whatever the books reply, `Q` holds of the value that the work ends with, if it ends with
one, and of the books it leaves. -/
def Gives (w : Work α) (b : Books) (Q : α → Books → Prop) : Prop :=
  WP Books.Replies (fun _ => True) w.run b fun outcome b' => ∀ a, outcome = .ok a → Q a b'

theorem Gives.mono {w : Work α} {P Q : α → Books → Prop} (h : w.Gives b P)
    (hPQ : ∀ a b', P a b' → Q a b') : w.Gives b Q :=
  WP.mono h fun _ _ hP a ha => hPQ _ _ (hP a ha)

theorem Gives.pure {a : α} {Q : α → Books → Prop} (h : Q a b) :
    Gives (Pure.pure a : Work α) b Q :=
  WP.done trivial fun _ e => Except.ok.inj e ▸ h

theorem Gives.throw {f : Failure} {Q : α → Books → Prop} :
    Gives (MonadExcept.throw f : Work α) b Q :=
  WP.done trivial nofun

theorem Gives.refuse {e : Error} {Q : α → Books → Prop} : Gives (Work.refuse e : Work α) b Q :=
  Gives.throw

theorem Gives.bind {w : Work α} {f : α → Work β} {P : α → Books → Prop} {Q : β → Books → Prop}
    (hw : w.Gives b P) (hf : ∀ a b', P a b' → (f a).Gives b' Q) : Gives (w >>= f) b Q := by
  refine WP.bind hw fun outcome b' hP => ?_
  cases outcome with
  | error failure => exact WP.done trivial nofun
  | ok a => exact hf a b' (hP a rfl)

/-- A request whose failure the work looks at, and what comes after it. -/
theorem Gives.attempt {r : Request} {f : Except StoreError r.Answer → Work α}
    {Q : α → Books → Prop} (ha : ∀ a b', b.Replies r (.ok a) b' → (f (.ok a)).Gives b' Q)
    (he : ∀ e, (f (.error e)).Gives b Q) : Gives (Work.attempt r >>= f) b Q := by
  refine WP.ask trivial fun reply b' hr => ?_
  match reply, hr with
  | .ok a, hr => exact ha a b' hr
  | .error (.failed e), hr => rw [hr.of_lapse]; exact he e
  | .error .expired, _ => exact Gives.throw

/-- A request whose failure ends the work. -/
theorem Gives.call {r : Request} {Q : r.Answer → Books → Prop}
    (h : ∀ a b', b.Replies r (.ok a) b' → Q a b') : (Work.call r).Gives b Q :=
  Gives.attempt (fun a b' hr => Gives.pure (h a b' hr)) fun _ => Gives.throw

/-- A request that does not write, and what comes after it. -/
theorem Gives.look {r : Request} {f : r.Answer → Work α} {Q : α → Books → Prop}
    (hr : r.isWrite = false) (hf : ∀ a, (f a).Gives b Q) : Gives (Work.call r >>= f) b Q :=
  Gives.bind (Gives.call fun _ _ h => h.of_read hr) fun a _ h => h ▸ hf a

theorem Gives.found {e : Error} {x : Option α} {Q : α → Books → Prop}
    (h : ∀ a, x = some a → Q a b) : (Work.found e x).Gives b Q := by
  cases x with
  | none => exact Gives.refuse
  | some a => exact Gives.pure (h a rfl)

/-- A search, and what comes after it when something is found. -/
theorem Gives.lookup {w : Work (Option α)} {e : Error} {f : α → Work β} {P : α → Books → Prop}
    {Q : β → Books → Prop} (hw : w.Gives b fun x b' => ∀ a, x = some a → P a b')
    (hf : ∀ a b', P a b' → (f a).Gives b' Q) : Gives (w >>= fun x => Work.found e x >>= f) b Q :=
  hw.bind fun _ _ hx => Gives.bind (Gives.found hx) hf

theorem Gives.checked {x : Except Error α} {Q : α → Books → Prop}
    (h : ∀ a, x = .ok a → Q a b) : (Work.checked x).Gives b Q := by
  cases x with
  | error e => exact Gives.refuse
  | ok a => exact Gives.pure (h a rfl)

/-- A refusal, and what comes after it when there is no reason to refuse. -/
theorem Gives.guard {c : Prop} [Decidable c] {e : Error} {next : PUnit → Work α}
    {Q : α → Books → Prop} (h : ¬ c → (next ⟨⟩).Gives b Q) :
    Gives (if c then Work.refuse e >>= next else next ⟨⟩) b Q := by
  split
  · exact Gives.bind (P := fun _ _ => False) Gives.refuse fun _ _ hf => hf.elim
  · exact h ‹_›

/-- A change, and what comes after it when it is said to be done. -/
theorem Gives.insist {w : Work Bool} {e : Error} {next : PUnit → Work α} {P : Books → Prop}
    {Q : α → Books → Prop} (hw : w.Gives b fun x b' => x = true → P b')
    (hn : ∀ b', P b' → (next ⟨⟩).Gives b' Q) :
    Gives (w >>= fun x => if !x then Work.refuse e >>= next else next ⟨⟩) b Q :=
  hw.bind fun x b' hx => Gives.guard fun hd => hn b' (hx (by simpa using hd))

/-! ## Work that only reads -/

/-- The work leaves the books as they were. -/
def Reads (w : Work α) : Prop :=
  ∀ b : Books, w.Gives b fun _ b' => b' = b

end Work

end Scrip
