import Scrip.Proofs.Engine.Look
import Scrip.Proofs.Engine.Perform
import Scrip.Proofs.Framework.Terms

/-!
# Commands on terms

A command that shares a store with others, or has it for itself, ends in one of three ways
(`Terms.Told`): with an outcome, and what is committed is as `Effect` says; refused by a rule,
or with its deadline passed, and then it changed nothing. There is no other failure, on either
store.

* `perform_keeps`: every command;
* `look_alone`: a command that only looks, when nobody else is there;
* `account_keeps`, `inventory_keeps`, `history_keeps`, `statement_keeps`: what account holders
  are shown is what was committed at some moment.
-/

namespace Scrip

open Credential Work
open Crypt (Salt)

namespace Terms

variable {T : Terms} {α β : Type} {b b' b'' : Books}

/-- The books are as they were known, or as others left them. -/
def Stays (T : Terms) (b b' : Books) : Prop :=
  b' = b ∨ T.rely b b'

/-- How an operation ends: as `Q` says of the books at its beginning, its value and the books in
the end; or refused by a rule; or because its deadline passed. -/
inductive Told (T : Terms) (b : Books) (Q : Books → α → Books → Prop) :
    Except Error α → Books → Prop
  | value {b₁ b' : Books} {a : α} (hr : T.rely b b₁) (h : Q b₁ a b') : Told T b Q (.ok a) b'
  | refused {b' : Books} {e : Error} (hs : T.Stays b b') (he : e.isBusiness = true) :
      Told T b Q (.error e) b'
  | expired {b' : Books} (hs : T.Stays b b') (hx : T.expires) (label : String) :
      Told T b Q (.error (.timeout label)) b'

theorem Told.mono {P Q : Books → α → Books → Prop} {outcome : Except Error α}
    (h : T.Told b P outcome b') (hPQ : ∀ b₁ a b', T.rely b b₁ → P b₁ a b' → Q b₁ a b') :
    T.Told b Q outcome b' := by
  cases h with
  | value hr h => exact .value hr (hPQ _ _ _ hr h)
  | refused hs he => exact .refused hs he
  | expired hs hx label => exact .expired hs hx label

theorem Told.map {f : α → β} {Q : Books → β → Books → Prop} {outcome : Except Error α}
    (h : T.Told b (fun b₁ a => Q b₁ (f a)) outcome b') : T.Told b Q (outcome.map f) b' := by
  cases h with
  | value hr h => exact .value hr h
  | refused hs he => exact .refused hs he
  | expired hs hx label => exact .expired hs hx label

/-- Terms under which several units may follow each other. -/
structure Sound (T : Terms) : Prop where
  trans : ∀ {b b' b''}, T.rely b b' → T.rely b' b'' → T.rely b b''
  /-- A unit that changes nothing may be committed. -/
  idle : ∀ {b b'}, T.rely b b' → T.commits b' b'

theorem Sound.stays (hT : T.Sound) (h : T.Stays b b') (h' : T.Stays b' b'') : T.Stays b b'' := by
  rcases h with rfl | h
  · exact h'
  · rcases h' with rfl | h'
    · exact .inr h
    · exact .inr (hT.trans h h')

/-- What an operation is told after another one that changed nothing. -/
theorem Told.after {Q : Books → α → Books → Prop} {outcome : Except Error α} (hT : T.Sound)
    (hs : T.Stays b b') (h : T.Told b' Q outcome b'') : T.Told b Q outcome b'' := by
  cases h with
  | value hr h =>
    refine .value ?_ h
    rcases hs with rfl | hs
    · exact hr
    · exact hT.trans hs hr
  | refused hs' he => exact .refused (hT.stays hs hs') he
  | expired hs' hx label => exact .expired (hT.stays hs hs') hx label

end Terms

namespace Exchange

variable {T : Terms} {α β : Type} {b : Books}

/-- A unit whose work is refused, if at all, before it changed anything. -/
theorem Keeps.calm {op : Operation} {limit : Option Nat} {w : Work α}
    {Q : Books → α → Books → Prop}
    (hw : ∀ b₁, T.rely b b₁ → b₁.Storable → w.Complies T.listing T.expires b₁ fun outcome b' =>
      Calm b₁ outcome b' ∧ ∀ a, outcome = .ok a → T.commits b₁ b' ∧ Q b₁ a b') :
    (inUnit op limit w).Keeps T b (T.Told b Q) := by
  refine Keeps.unit (fun b₁ hr hs => (hw b₁ hr hs).mono fun outcome b' ⟨hc, ha⟩ => ?_)
    fun hx b' hs => .expired hs hx _
  cases outcome with
  | ok a => exact ⟨(ha a rfl).1, .value hr (ha a rfl).2⟩
  | error failure =>
    obtain ⟨e, rfl, he, hb⟩ := hc failure rfl
    exact ⟨hb, .refused (.inr hr) he⟩

/-- How an operation ends that only looks: with what it finds in the books that are committed
then, or because its deadline passed. -/
inductive Looks (T : Terms) (b : Books) (x : Books → Except Error α) :
    Except Error α → Books → Prop
  | seen {b' : Books} (hr : T.rely b b') : Looks T b x (x b') b'
  | expired {b' : Books} (hs : T.Stays b b') (hx : T.expires) (label : String) :
      Looks T b x (.error (.timeout label)) b'

/-- A unit that finds what the books have, or refuses. -/
theorem Keeps.looks {op : Operation} {limit : Option Nat} {w : Work α}
    {x : Books → Except Error α} (hT : T.Sound)
    (hw : ∀ b₁, b₁.Storable → w.Complies T.listing T.expires b₁ fun outcome b' =>
      outcome = (x b₁).mapError .rule ∧ b' = b₁) :
    (inUnit op limit w).Keeps T b (Looks T b x) := by
  refine Keeps.unit (fun b₁ hr hs => (hw b₁ hs).mono fun outcome b' ⟨ho, hb⟩ => ?_)
    fun hx b' hs => .expired hs hx _
  subst ho hb
  cases hx : x b' with
  | ok a => exact ⟨hT.idle hr, hx ▸ .seen hr⟩
  | error e => exact ⟨rfl, hx ▸ .seen hr⟩

theorem Looks.told {x : Books → Except Error α} {outcome : Except Error α} {b' : Books}
    (h : Looks T b x outcome b') (hx : ∀ b e, x b = .error e → e.isBusiness = true) :
    T.Told b (fun b₁ a b' => b' = b₁ ∧ x b₁ = .ok a) outcome b' := by
  cases h with
  | seen hr =>
    cases ha : x b' with
    | ok a => exact .value hr ⟨rfl, ha⟩
    | error e => exact .refused (.inr hr) (hx _ _ ha)
  | expired hs hx label => exact .expired hs hx label

end Exchange

/-- The account of a number, or the refusal of an unknown one. -/
def Books.lookUp (b : Books) (id : AccountId) : Except Error Account :=
  match b.account? id with
  | some a => .ok a
  | none => .error (.noAccount id)

theorem Books.isBusiness_of_lookUp {α : Type} {b : Books} {id : AccountId} {f : Account → α}
    {e : Error} (h : (b.lookUp id).map f = .error e) : e.isBusiness = true := by
  unfold lookUp at h
  cases ha : b.account? id with
  | some a => rw [ha] at h; cases h
  | none =>
    rw [ha] at h
    cases h
    rfl

/-- The account of a name, or the refusal of an unknown one. -/
def Books.lookUpName (b : Books) (name : String) : Except Error Account :=
  match b.accountByName? name with
  | some a => .ok a
  | none => .error (.accountNotFound name)

theorem Books.lookUpName_eq_ok {b : Books} {name : String} {a : Account}
    (h : b.lookUpName name = .ok a) : b.accountByName? name = some a := by
  unfold lookUpName at h
  split at h <;> cases h
  assumption

theorem Books.isBusiness_of_lookUpName {b : Books} {name : String} {e : Error}
    (h : b.lookUpName name = .error e) : e.isBusiness = true := by
  unfold lookUpName at h
  split at h <;> cases h
  rfl

/-- Whether a command lists entries. -/
def Command.Lists : Command → Prop
  | .history _ | .statement _ => True
  | _ => False

namespace Engine

open Exchange Exchange.Keeps

variable {T : Terms} {b : Books} {e : Engine}

/-! ## What account holders are shown -/

section Look

variable {listing expires : Prop} {α : Type}

/-- An account is looked up, and what it is shown is found. -/
theorem lookUp_complies (id : AccountId) {f : Account → Work α} {y : Account → α}
    (hf : ∀ a, b.account? id = some a → Finds listing expires (f a) b (y a)) :
    Complies listing expires (do
        let a ← found (.noAccount id) (← call (.account id))
        f a) b fun outcome b' => outcome = ((b.lookUp id).map y).mapError .rule ∧ b' = b := by
  refine (account_finds b listing expires id).lookup (fun a ha => ?_) fun hn => ?_
  · rw [Books.lookUp, ha]
    exact hf a ha
  · rw [Books.lookUp, hn]
    exact ⟨rfl, rfl⟩

variable (hT : T.Sound) (id : AccountId)
include hT

theorem account_keeps : (e.account id).Keeps T b (Looks T b fun b' => b'.lookUp id) := by
  refine Keeps.looks hT fun b₁ _ => ?_
  refine (account_finds b₁ _ _ id).bind (Complies.found (fun a ha => ?_) fun hn => ?_)
  · rw [Books.lookUp, ha]
    exact ⟨rfl, rfl⟩
  · rw [Books.lookUp, hn]
    exact ⟨rfl, rfl⟩

theorem inventory_keeps :
    (e.inventory id).Keeps T b (Looks T b fun b' => (b'.lookUp id).map fun _ => b'.ownedBy id) :=
  Keeps.looks hT fun _ _ => lookUp_complies id fun _ _ => loadInventory_finds id

omit id in
theorem catalog_keeps : e.catalog.Keeps T b (Looks T b fun b' => .ok b'.items) :=
  Keeps.looks hT fun b₁ _ => items_finds b₁ _ _

theorem history_keeps (hl : T.listing) :
    (e.history id).Keeps T b (Looks T b fun b' => (b'.lookUp id).map b'.historyOf) :=
  Keeps.looks hT fun _ hs => lookUp_complies id fun a _ => loadHistory_finds hs hl a

theorem statement_keeps (hl : T.listing) :
    (e.statement id).Keeps T b (Looks T b fun b' =>
      (b'.lookUp id).map fun a => ⟨a, b'.ownedBy id, b'.historyOf a⟩) :=
  Keeps.looks hT fun _ hs => lookUp_complies id fun a _ =>
    (loadInventory_finds id).bind ((loadHistory_finds hs hl a).bind (Complies.pure ⟨rfl, rfl⟩))

end Look

/-! ## Effects -/

/-- A unit that is refused calmly and of which the value has an effect. -/
theorem effect_keeps {α : Type} {c : Command} {f : α → Outcome} {op : Operation}
    {limit : Option Nat} {w : Work α}
    (hc : ∀ b₁ o b', T.rely b b₁ → Effect e b₁ c o b' → T.commits b₁ b')
    (complies : ∀ b₁, b₁.Storable → w.Complies T.listing T.expires b₁ (Calm b₁))
    (gives : ∀ b₁, b₁.Storable → w.Gives b₁ fun a b' => Effect e b₁ c (f a) b') :
    (inUnit op limit w).Keeps T b (T.Told b fun b₁ a b' => Effect e b₁ c (f a) b') := by
  refine Keeps.calm fun b₁ hr hs => ((complies b₁ hs).and_gives (gives b₁ hs)).mono ?_
  exact fun outcome b' h => ⟨h.1, fun a ha => ⟨hc _ _ _ hr (h.2 a ha), h.2 a ha⟩⟩

/-! ## Signing in -/

variable {username password : String} {salt : Salt}

theorem letIn_eq_ok {found : Option Account} {a : Account} (h : letIn password found = .ok a) :
    found = some a ∧ verifyPassword password a.passwordHash = true := by
  cases found with
  | none => cases h
  | some a' =>
    simp only [letIn] at h
    split at h <;> cases h
    exact ⟨rfl, ‹_›⟩

theorem letIn_of_verified {a : Account} (h : verifyPassword password a.passwordHash = true) :
    letIn password (some a) = .ok a :=
  if_pos h

theorem letIn_eq_error {found : Option Account} {err : Error}
    (h : letIn password found = .error err) : err = .invalidCredentials := by
  cases found with
  | none =>
    cases h
    rfl
  | some a =>
    simp only [letIn] at h
    split at h <;> cases h
    rfl

/-- Who is authenticated is looked for by the canonical spelling of the name. -/
theorem authenticate_looks (hT : T.Sound) :
    (e.authenticate username password).Keeps T b (Looks T b fun b' =>
      letIn password (b'.accountByName? (canonicalUsername username))) := by
  have looked :
      Keeps T (e.unit .authenticate (call (.accountByName (canonicalUsername username)))) b
        (Looks T b fun b' => .ok (b'.accountByName? (canonicalUsername username))) :=
    Keeps.looks hT fun b₁ _ => accountByName_finds b₁ _ _ _
  refine Keeps.bind looked fun outcome b' h => ?_
  cases h with
  | expired hs hx label => exact Keeps.done (.expired hs hx label)
  | seen hr => exact Keeps.done (.seen hr)

/-- Who is authenticated has an account with the password. -/
theorem authenticate_keeps (hT : T.Sound) :
    (e.authenticate username password).Keeps T b (T.Told b fun b₁ a b' => b' = b₁ ∧
      b₁.accountByName? (canonicalUsername username) = some a ∧
      verifyPassword password a.passwordHash = true) := by
  refine (authenticate_looks hT).mono fun outcome b' h =>
    (h.told fun _ _ h => letIn_eq_error h ▸ rfl).mono ?_
  rintro b₁ a b' _ ⟨rfl, h⟩
  exact ⟨rfl, letIn_eq_ok h⟩

/-- An account is looked for by the canonical spelling of its name. -/
theorem accountByName_looks (hT : T.Sound) :
    (e.accountByName username).Keeps T b (Looks T b fun b' =>
      b'.lookUpName (canonicalUsername username)) := by
  refine Keeps.looks hT fun b₁ _ => ?_
  refine (accountByName_finds b₁ _ _ _).bind (Complies.found (fun a ha => ?_) fun hn => ?_)
  · rw [Books.lookUpName, ha]
    exact ⟨rfl, rfl⟩
  · rw [Books.lookUpName, hn]
    exact ⟨rfl, rfl⟩

theorem accountByName_keeps (hT : T.Sound) :
    (e.accountByName username).Keeps T b (T.Told b fun b₁ a b' => b' = b₁ ∧
      b₁.accountByName? (canonicalUsername username) = some a) := by
  refine (accountByName_looks hT).mono fun outcome b' h =>
    (h.told fun _ _ h => Books.isBusiness_of_lookUpName h).mono ?_
  rintro b₁ a b' _ ⟨rfl, h⟩
  exact ⟨rfl, Books.lookUpName_eq_ok h⟩

/-- Who is registered has a new account. -/
theorem register_keeps (hm : e.initialBalance ≤ maxCoins)
    (hc : ∀ b₁ o b', T.rely b b₁ → Effect e b₁ (.register username password salt) o b' →
      T.commits b₁ b') :
    (e.register username password salt).Keeps T b (T.Told b fun b₁ a b' =>
      Effect e b₁ (.register username password salt) (.account a) b') := by
  unfold register
  cases hn : e.newAccount? username password salt with
  | error err => exact Keeps.done (.refused (.inl rfl) (isBusiness_of_newAccount? hn))
  | ok new =>
    obtain ⟨-, -, -, hcoins⟩ := newAccount?_eq_ok hn
    refine effect_keeps hc (fun _ _ => insertNew_complies (hcoins ▸ e.initialBalance_nonneg)
      (hcoins ▸ hm)) fun b₁ _ => (insertNew_gives new).mono fun a b' ⟨fresh, now, ha, hb⟩ => ?_
    subst ha hb
    exact .register now hn fresh

/-- Who signs in is let in or gets a new account. -/
theorem signIn_keeps (hT : T.Sound) (hm : e.initialBalance ≤ maxCoins)
    (hc : ∀ b₁ o b', T.rely b b₁ → Effect e b₁ (.signIn username password salt) o b' →
      T.commits b₁ b') :
    (e.signIn username password salt).Keeps T b (T.Told b fun b₁ a b' =>
      Effect e b₁ (.signIn username password salt) (.account a) b') := by
  have letIn (b₀ : Books) : (e.authenticate username password).Keeps T b₀ (T.Told b₀ fun b₁ a b' =>
      Effect e b₁ (.signIn username password salt) (.account a) b') :=
    (authenticate_keeps hT).mono fun outcome b' h => h.mono fun b₁ a b' _ h' => by
      obtain ⟨rfl, known, verified⟩ := h'
      exact .signIn known verified
  refine Keeps.bind (letIn b) fun outcome b₂ h₂ => ?_
  split
  · cases h₂ with
    | refused hs he =>
    refine Keeps.bind (accountByName_keeps hT) fun outcome b₃ h₃ => ?_
    split
    · cases h₃ with
      | value hr h =>
        obtain ⟨rfl, -⟩ := h
        exact Keeps.done (.refused (hT.stays hs (.inr hr)) rfl)
    · cases h₃ with
      | refused hs₃ he =>
        have hs₃ := hT.stays hs hs₃
        have registered : (e.register username password salt).Keeps T b₃
            (T.Told b₃ fun b₁ a b' =>
              Effect e b₁ (.register username password salt) (.account a) b') := by
          refine register_keeps hm fun b₁ o b' hr h => hc b₁ o b' ?_ (signIn_of_register h)
          rcases hs₃ with rfl | hs₃
          · exact hr
          · exact hT.trans hs₃ hr
        refine (Keeps.bind registered fun outcome b₄ h₄ => ?_).mono fun outcome b' h =>
          Terms.Told.after hT hs₃ h
        -- A name that was taken meanwhile is one to be let in under.
        split
        · cases h₄ with
          | refused hs₄ he => exact (letIn b₄).mono fun outcome b' h => h.after hT hs₄
        · exact Keeps.done (h₄.mono fun _ _ _ _ h => signIn_of_register h)
    · cases h₃ with
      | refused hs₃ he => exact Keeps.done (.refused (hT.stays hs hs₃) he)
      | expired hs₃ hx label => exact Keeps.done (.expired (hT.stays hs hs₃) hx label)
  · exact Keeps.done h₂

/-! ## Items and coins -/

theorem addItem_keeps {name : String} {price : Int}
    (hc : ∀ b₁ o b', T.rely b b₁ → Effect e b₁ (.addItem name price) o b' → T.commits b₁ b') :
    (e.addItem name price).Keeps T b (T.Told b fun b₁ i b' =>
      Effect e b₁ (.addItem name price) (.item i) b') := by
  unfold addItem
  cases hn : NewItem.of? name price with
  | error err => exact Keeps.done (.refused (.inl rfl) (isBusiness_of_newItem? hn))
  | ok new =>
    refine effect_keeps hc (fun _ _ => insertNewItem_complies (newItem?_positive hn)) fun b₁ _ =>
      (insertNewItem_gives new).mono fun i b' ⟨fresh, now, hi, hb⟩ => ?_
    subst hi hb
    exact .addItem now hn fresh

theorem transfer_keeps {id : AccountId} {name : String} {amount : Int} {deadline : Option Nat}
    (hc : ∀ b₁ o b', T.rely b b₁ → Effect e b₁ (.transfer id name amount deadline) o b' →
      T.commits b₁ b') :
    (e.transfer id name amount deadline).Keeps T b (T.Told b fun b₁ x b' =>
      Effect e b₁ (.transfer id name amount deadline) (.entry x) b') := by
  unfold transfer
  split
  · exact Keeps.done (.refused (.inl rfl) rfl)
  · exact effect_keeps hc (fun _ hs => moveCoins_complies hs id _ amount) fun _ hs =>
      moveCoins_gives hs.keyed e

theorem purchase_keeps {id : AccountId} {name : String} {deadline : Option Nat}
    (hc : ∀ b₁ o b', T.rely b b₁ → Effect e b₁ (.purchase id name deadline) o b' →
      T.commits b₁ b') :
    (e.purchase id name deadline).Keeps T b (T.Told b fun b₁ x b' =>
      Effect e b₁ (.purchase id name deadline) (.entry x) b') :=
  effect_keeps hc (fun _ hs => buy_complies hs id name) fun _ hs => buy_gives hs.keyed e

/-! ## Every command -/

/-- A command that only looks is told what is there. -/
theorem look_told {α : Type} {c : Command} {f : α → Outcome} {d : Exchange (Except Error α)}
    {x : Books → Except Error α} (hc : c.isRead = true)
    (hx : ∀ b err, x b = .error err → err.isBusiness = true) (hd : d.Keeps T b (Looks T b x)) :
    (perform.wrap f d).Keeps T b (T.Told b fun b₁ o b' => Effect e b₁ c o b') := by
  refine Keeps.map (hd.mono fun outcome b' h => Terms.Told.map ((h.told hx).mono ?_))
  rintro b₁ a b' _ ⟨rfl, -⟩
  exact .look hc

/-- A command that only looks, by a client that is alone with a store, is told what is there and
changes nothing. -/
theorem look_alone {α : Type} {c : Command} {f : α → Outcome} {d : Exchange (Except Error α)}
    {x : Books → Except Error α} (hrely : T.rely = Eq) (hx : ¬ T.expires)
    (hd : d.Keeps T b (Looks T b x)) (hc : e.perform c = perform.wrap f d) {k : Backend}
    {applied : Option (Table String)} (clock : Nat → Instant) {t : Storage k.State × Nat}
    (ht : Backend.Stands applied k t.1 ⟨b, none⟩) :
    ((e.perform c).run (Storage.clocked k.keeper clock) t).1 = (x b).map f ∧
      Backend.Stands applied k ((e.perform c).run (Storage.clocked k.keeper clock) t).2.1
        ⟨b, none⟩ := by
  have told : (e.perform c).Keeps T b fun o b' => o = (x b).map f ∧ b' = b := by
    rw [hc]
    refine Keeps.map (hd.mono fun outcome b' h => ?_)
    cases h with
    | seen hr =>
      rw [hrely] at hr
      obtain rfl : b = b' := hr
      exact ⟨rfl, rfl⟩
    | expired _ hx' => exact absurd hx' hx
  obtain ⟨b', h, ho, rfl⟩ := told.run (fun _ => hrely ▸ rfl) clock ht
  exact ⟨ho, h⟩

/-- Every command ends as `Effect` says, refused by a rule or with its deadline passed. -/
theorem perform_keeps (hT : T.Sound) (hm : e.initialBalance ≤ maxCoins) (c : Command)
    (hl : c.Lists → T.listing)
    (hc : ∀ b₁ o b', T.rely b b₁ → Effect e b₁ c o b' → T.commits b₁ b') :
    (e.perform c).Keeps T b (T.Told b fun b₁ o b' => Effect e b₁ c o b') := by
  cases c with
  | register username password salt =>
    exact Keeps.map ((register_keeps hm hc).mono fun _ _ h => h.map)
  | signIn username password salt =>
    exact Keeps.map ((signIn_keeps hT hm hc).mono fun _ _ h => h.map)
  | authenticate username password =>
    refine Keeps.map ((authenticate_keeps hT).mono fun _ _ h => Terms.Told.map (h.mono ?_))
    rintro b₁ a b' _ ⟨rfl, -⟩
    exact .look rfl
  | accountByName username =>
    refine Keeps.map ((accountByName_keeps hT).mono fun _ _ h => Terms.Told.map (h.mono ?_))
    rintro b₁ a b' _ ⟨rfl, -⟩
    exact .look rfl
  | account id =>
    refine look_told rfl (fun b err h => ?_) (account_keeps hT id)
    exact Books.isBusiness_of_lookUp (f := fun a => a) (by rw [h]; rfl)
  | inventory id =>
    exact look_told rfl (fun _ _ => Books.isBusiness_of_lookUp) (inventory_keeps hT id)
  | history id =>
    exact look_told rfl (fun _ _ => Books.isBusiness_of_lookUp) (history_keeps hT id (hl trivial))
  | statement id =>
    exact look_told rfl (fun _ _ => Books.isBusiness_of_lookUp) (statement_keeps hT id (hl trivial))
  | catalog => exact look_told rfl (fun _ _ h => by cases h) (catalog_keeps hT)
  | addItem name price => exact Keeps.map ((addItem_keeps hc).mono fun _ _ h => h.map)
  | transfer id name amount deadline =>
    exact Keeps.map ((transfer_keeps hc).mono fun _ _ h => h.map)
  | purchase id name deadline => exact Keeps.map ((purchase_keeps hc).mono fun _ _ h => h.map)

end Engine

end Scrip
