import Scrip.Proofs.Engine.Work
import Scrip.Proofs.Framework.Units

/-!
# Commands are all or nothing

A command ends with an outcome, and what is committed is as `Effect` says, or it ends
with an error, and what is committed is as it was. So what every effect preserves holds
of all that is ever committed.

* `perform_ok`: one command, whichever way the storage replies;
* `performAll_ok`: commands one after another.
-/

namespace Scrip.Engine

open Credential Work
open Crypt (Salt)
open Dialogue (WP)
open Storage (Settles)

variable {α : Type} {b : Books} {e : Engine} {I : Books → Prop} {username password : String}
  {salt : Salt}

/-- Who is authenticated has an account with the password. -/
theorem authenticate_ok (hI : I b) :
    Settles I b (e.authenticate username password) fun a b' => b' = b ∧
      b.accountByName? (canonicalUsername username) = some a ∧
      verifyPassword password a.passwordHash = true := by
  refine Settles.bind (P := fun x => ∀ a, x = some a →
    b.accountByName? (canonicalUsername username) = some a)
    (Settles.unit hI (Gives.call fun x b' hr => ?_)) fun outcome h => ?_
  · have hb : b' = b := hr.of_read rfl
    exact ⟨hb ▸ hI, hb, fun a hx => (hx ▸ hr).accountByName.1⟩
  · match outcome, h with
    | .error failure, _ => exact Settles.error hI
    | .ok none, _ => exact Settles.error hI
    | .ok (some a), h =>
      by_cases hv : verifyPassword password a.passwordHash = true
      · simp only [letIn, if_pos hv]
        exact Settles.ok hI ⟨rfl, h _ rfl a rfl, hv⟩
      · simp only [letIn, if_neg hv]
        exact Settles.error hI

/-- Who is registered has a new account. -/
theorem register_ok (hI : I b)
    (hstep : ∀ o b', Effect e b (.register username password salt) o b' → I b') :
    Settles I b (e.register username password salt) fun a b' =>
      Effect e b (.register username password salt) (.account a) b' := by
  unfold register
  cases hn : e.newAccount? username password salt with
  | error refusal => exact Settles.error hI
  | ok new =>
    refine Settles.unit hI ((insertNew_gives new).mono fun a b' ⟨fresh, now, ha, hb⟩ => ?_)
    have he : Effect e b (.register username password salt) (.account a) b' := by
      rw [hb, ha]
      exact .register now hn fresh
    exact ⟨hstep _ _ he, he⟩

/-- To be registered is one of the ways to sign in. -/
theorem signIn_of_register {o : Outcome} {b' : Books}
    (h : Effect e b (.register username password salt) o b') :
    Effect e b (.signIn username password salt) o b' := by
  cases h with
  | look h => cases h
  | register now accepted fresh => exact .signUp now accepted fresh

theorem signIn_of_authenticate (hI : I b) :
    Settles I b (e.authenticate username password) fun a b' =>
      Effect e b (.signIn username password salt) (.account a) b' := by
  refine (authenticate_ok hI).mono fun a b' ⟨hb, known, verified⟩ => ?_
  subst hb
  exact .signIn known verified

theorem registerOrAuthenticate_ok (hI : I b)
    (hstep : ∀ o b', Effect e b (.signIn username password salt) o b' → I b') :
    Settles I b (e.registerOrAuthenticate username password salt) fun a b' =>
      Effect e b (.signIn username password salt) (.account a) b' := by
  intro s hs
  unfold registerOrAuthenticate
  have hr := register_ok hI fun o b' h => hstep o b' (signIn_of_register h)
  refine WP.bind (hr s hs).there fun outcome s' ⟨hI', h⟩ => ?_
  split
  · exact signIn_of_authenticate hI s' h
  · cases outcome with
    | ok a => exact WP.done hI' (signIn_of_register h)
    | error failure => exact WP.done hI' h

/-- Who signs in is let in or gets a new account. -/
theorem signIn_ok (hI : I b)
    (hstep : ∀ o b', Effect e b (.signIn username password salt) o b' → I b') :
    Settles I b (e.signIn username password salt) fun a b' =>
      Effect e b (.signIn username password salt) (.account a) b' := by
  refine Settles.bind (authenticate_ok hI) fun outcome h₁ => ?_
  split
  · have looked : Settles I b (e.accountByName (canonicalUsername username))
        fun _ b' => b' = b ∧ True :=
      (Settles.reads hI (lookUp_onlyReads (OnlyReads.call rfl) rfl).reads).mono fun _ _ h =>
        ⟨h, trivial⟩
    refine Settles.bind looked fun outcome _ => ?_
    split
    · exact Settles.error hI
    · exact registerOrAuthenticate_ok hI hstep
    · exact Settles.error hI
  · cases outcome with
    | ok a =>
      obtain ⟨known, verified⟩ := h₁ a rfl
      exact Settles.ok hI (.signIn known verified)
    | error failure => exact Settles.error hI

/-- A command that looks leaves what is committed. -/
theorem read_ok {c : Command} {o : α → Outcome} {op : Operation} {limit : Option Nat} {w : Work α}
    (hI : I b) (hc : c.isRead = true) (hw : w.OnlyReads) :
    Settles I b (perform.wrap o (inUnit op limit w)) (Effect e b c) :=
  Settles.map ((Settles.reads hI hw.reads).mono fun _ _ h => h ▸ .look hc)

/-- A command either ends with an outcome, and what is committed is as `Effect` says, or it ends
with an error, and what is committed is as it was. What holds of the books before and after
holds of what is committed on the way. -/
theorem perform_ok (c : Command) (hk : b.Keyed) (hI : I b)
    (hstep : ∀ o b', Effect e b c o b' → I b') : Settles I b (e.perform c) (Effect e b c) := by
  cases c with
  | register => exact Settles.map (register_ok hI hstep)
  | signIn => exact Settles.map (signIn_ok hI hstep)
  | authenticate =>
    refine Settles.map ((authenticate_ok hI).mono fun a b' h => ?_)
    rw [h.1]
    exact .look rfl
  | account | accountByName =>
    exact read_ok hI rfl (lookUp_onlyReads (OnlyReads.call rfl) rfl)
  | catalog => exact read_ok hI rfl (OnlyReads.call rfl)
  | inventory id =>
    exact read_ok hI rfl (withAccount_onlyReads id fun _ => loadInventory_onlyReads id)
  | history id => exact read_ok hI rfl (withAccount_onlyReads id loadHistory_onlyReads)
  | statement id => exact read_ok hI rfl (withAccount_onlyReads id (statement_onlyReads id))
  | addItem name price =>
    refine Settles.map ?_
    unfold addItem
    cases hn : NewItem.of? name price with
    | error refusal => exact Settles.error hI
    | ok new =>
      refine Settles.unit hI ((insertNewItem_gives new).mono fun i b' ⟨fresh, now, hi, hb⟩ => ?_)
      have he : Effect e b (.addItem name price) (.item i) b' := by
        rw [hb, hi]
        exact .addItem now hn fresh
      exact ⟨hstep _ _ he, he⟩
  | transfer id name amount deadline =>
    refine Settles.map ?_
    unfold transfer
    split
    · exact Settles.error hI
    · exact Settles.unit hI ((moveCoins_gives hk e).mono fun _ _ h => ⟨hstep _ _ h, h⟩)
  | purchase id name deadline =>
    exact Settles.map (Settles.unit hI ((buy_gives hk e).mono fun _ _ h => ⟨hstep _ _ h, h⟩))

/-- What every effect preserves holds of all that is committed while commands are carried out
one after another. -/
theorem performAll_ok (keyed : ∀ b, I b → b.Keyed)
    (step : ∀ b c o b', I b → Effect e b c o b' → I b') (cs : List Command) {s : Storage Books}
    (hI : I s.committed) :
    WP Storage.Replies (fun s => I s.committed) (cs.mapM e.perform) s fun _ s' =>
      I s'.committed := by
  induction cs generalizing s with
  | nil => exact .done hI hI
  | cons c cs ih =>
    rw [List.mapM_cons]
    have hc := perform_ok (e := e) c (keyed _ hI) hI fun o b' => step _ c o b' hI
    refine WP.bind (hc s rfl).there fun _ s₁ ⟨hI₁, _⟩ => ?_
    exact WP.bind (ih hI₁) fun _ s₂ hI₂ => .done hI₂ hI₂

/-- Whatever calls fail or wrongly find nothing, a command that ends with an outcome has done
to what is committed what `Effect` says, and one that ends with an error has left it as it
was. -/
theorem perform_atomic (e : Engine) (c : Command) (t : Scripted)
    (hk : t.books.committed.Keyed) :
    (∃ o t', (e.perform c).run Scripted.party t = (.ok o, t') ∧
      Effect e t.books.committed c o t'.books.committed) ∨
    (∃ failure t', (e.perform c).run Scripted.party t = (.error failure, t') ∧
      t'.books.committed = t.books.committed) := by
  have h := perform_ok (e := e) (I := fun _ => True) c hk trivial (fun _ _ _ => trivial) _ rfl
  have settled := WP.run Storage.scripted_replies h
  generalize (e.perform c).run Scripted.party t = x at settled
  obtain ⟨outcome, t'⟩ := x
  cases outcome with
  | ok o => exact .inl ⟨o, t', rfl, settled⟩
  | error failure => exact .inr ⟨failure, t', rfl, settled⟩

/-- A transfer whose commit is lost. -/
theorem perform_atomic_lost_commit :
    let b : Books :=
      { accounts := [⟨1, "ann", "", 40, default⟩, ⟨2, "bob", "", 0, default⟩]
        sequences := { account := 2 } }
    let t : Scripted :=
      { script := [⟨"commit", 1, .fails .database⟩], books := { committed := b, now := default } }
    let c : Command := .transfer 1 "bob" 30 none
    b.Keyed ∧
      ((∃ o t', (Engine.perform {} c).run Scripted.party t = (.ok o, t') ∧
        Effect {} b c o t'.books.committed) ∨
      (∃ failure t', (Engine.perform {} c).run Scripted.party t = (.error failure, t') ∧
        t'.books.committed = b)) := by
  intro b t c
  have hk : b.Keyed := by
    show [(1 : AccountId), 2].Nodup
    decide
  exact ⟨hk, perform_atomic {} c t hk⟩

end Scrip.Engine
