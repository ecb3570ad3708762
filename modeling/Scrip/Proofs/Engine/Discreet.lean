import Scrip.Proofs.Engine.Job
import Scrip.Proofs.Engine.SignIn
import Scrip.Proofs.Framework.Faults

/-!
# How the store fails stays inside

Commands consist of units of discreet work (`perform_discreet`). So whoever gives a command never
learns how the store failed, but only which operation it stopped (`perform_faults`).
-/

namespace Scrip

open Credential Work
open Crypt (Salt)

/-- The operations that a command consists of, in the order in which they open units. -/
def Command.operations : Command → List Operation
  | register .. => [.register]
  | authenticate .. => [.authenticate]
  | signIn .. => [.authenticate, .account, .register, .authenticate]
  | account .. | accountByName .. => [.account]
  | inventory .. => [.inventory]
  | statement .. => [.accountInfo]
  | history .. => [.history]
  | catalog => [.catalog]
  | addItem .. => [.addItem]
  | transfer .. => [.transfer]
  | purchase .. => [.purchase]

namespace Engine

variable {α : Type} {e : Engine} {taken : Error} {ops : List Operation}

/-! ## The work -/

/-- An account is looked up, and something is done with it. -/
theorem withAccount_discreet (id : AccountId) {f : Account → Work α}
    (hf : ∀ a, Discreet taken (f a).run) :
    Discreet taken (call (.account id) >>= fun x => found (.noAccount id) x >>= f).run :=
  (Discreet.call fun _ => rfl).bind fun _ => Discreet.found.bind hf

theorem insertNew_discreet (new : NewAccount) :
    Discreet (.accountAlreadyExists new.username) (insertNew new).run := by
  refine (Discreet.call fun _ => rfl).bind fun x => Discreet.guard ?_
  refine Discreet.attempt (fun e => ?_) fun x => ?_
  · cases e <;> rfl
  · match x with
    | .ok _ => exact .pure
    | .error (.conflict _) | .error .database | .error (.corrupted _) => exact .throw

theorem insertNewItem_discreet (new : NewItem) :
    Discreet (.itemAlreadyExists new.name) (insertNewItem new).run := by
  refine (Discreet.call fun _ => rfl).bind fun x => Discreet.guard ?_
  refine Discreet.attempt (fun e => ?_) fun x => ?_
  · cases e <;> rfl
  · match x with
    | .ok _ => exact .pure
    | .error (.conflict _) | .error .database | .error (.corrupted _) => exact .throw

theorem lock_discreet (id : AccountId) : Discreet taken (lock id).run :=
  (Discreet.call fun _ => rfl).bind fun _ => .found

theorem moveCoins_discreet (id : AccountId) (name : String) (amount : Int) :
    Discreet taken (moveCoins id name amount).run := by
  refine (Discreet.call fun _ => rfl).bind fun _ => Discreet.found.bind fun sender => ?_
  refine (Discreet.call fun _ => rfl).bind fun _ => Discreet.found.bind fun recipient => ?_
  refine Discreet.checked.bind fun entry => ?_
  have locks (i j : AccountId) : Discreet taken (lockPair i j).run :=
    (lock_discreet _).bind fun _ => (lock_discreet _).bind fun _ => .pure
  refine (locks _ _).bind fun x => Discreet.guard (Discreet.guard ?_)
  refine (Discreet.call fun _ => rfl).bind fun _ => Discreet.guard ?_
  exact (Discreet.call fun _ => rfl).bind fun _ => Discreet.guard (.call fun _ => rfl)

theorem raise_discreet (account : AccountId) (item : ItemId) :
    Discreet taken (raise account item).run := by
  refine (Discreet.call fun _ => rfl).bind fun _ => ?_
  split
  · exact .throw
  · exact .pure

theorem takeOne_discreet (account : AccountId) (item : ItemId) :
    Discreet taken (takeOne account item).run := by
  refine (Discreet.call fun _ => rfl).bind fun _ => ?_
  split
  · refine (Discreet.call fun _ => rfl).bind fun _ => ?_
    split
    · exact .pure
    · exact raise_discreet account item
  · exact raise_discreet account item

theorem buy_discreet (id : AccountId) (name : String) : Discreet taken (buy id name).run := by
  refine (Discreet.call fun _ => rfl).bind fun _ => Discreet.found.bind fun item => ?_
  refine (lock_discreet id).bind fun buyer => Discreet.checked.bind fun entry => ?_
  refine Discreet.guard ((Discreet.call fun _ => rfl).bind fun _ => Discreet.guard ?_)
  exact (takeOne_discreet _ _).bind fun _ => .call fun _ => rfl

theorem loadInventory_discreet (id : AccountId) : Discreet taken (loadInventory id).run := by
  have owned (hs : List Holding) : Discreet taken (ownedItems hs).run := by
    induction hs with
    | nil => exact .pure
    | cons h hs ih =>
      refine (Discreet.call fun _ => rfl).bind fun item => ih.bind fun owned => ?_
      cases item <;> exact .pure
  exact (Discreet.call fun _ => rfl).bind owned

theorem Resolved.account_discreet (r : Resolved) (id : AccountId) :
    Discreet taken (r.account id).run := by
  unfold Resolved.account
  split
  · exact .pure
  · refine (Discreet.call fun _ => rfl).bind fun account => ?_
    cases account <;> exact .pure

theorem Resolved.item_discreet (r : Resolved) (id : ItemId) : Discreet taken (r.item id).run := by
  unfold Resolved.item
  split
  · exact .pure
  · refine (Discreet.call fun _ => rfl).bind fun item => ?_
    cases item <;> exact .pure

theorem Resolved.entry_discreet (r : Resolved) (x : Entry) : Discreet taken (r.entry x).run := by
  refine (account_discreet _ _).bind fun r => (account_discreet _ _).bind fun r => ?_
  split
  · exact item_discreet _ _
  · exact .pure

theorem loadHistory_discreet (owner : Account) : Discreet taken (loadHistory owner).run :=
  (Discreet.call fun _ => rfl).bind fun _ =>
    (Discreet.foldlM Resolved.entry_discreet _ _).bind fun _ => .pure

/-! ## The units -/

open Exchange (Discreet)

variable {username password : String} {salt : Salt}

/-- Somebody is authenticated, and something comes after it. -/
theorem authenticate_discreet {f : Except Error Account → Exchange (Except Error α)}
    (stops : ∀ label, f (.error (.operationFailed label)) =
      .done (.error (.operationFailed label))) (hf : ∀ outcome, (f outcome).Discreet ops) :
    (e.authenticate username password >>= f).Discreet (.authenticate :: ops) := by
  unfold authenticate
  rw [Dialogue.bind_assoc]
  refine .unit .authenticate _ (Work.Discreet.exists_of_forall fun _ => .call fun _ => rfl)
    (fun label => stops label) fun outcome => ?_
  cases outcome with
  | ok found => exact hf _
  | error failure => exact hf _

theorem registerOrAuthenticate_discreet :
    (e.registerOrAuthenticate username password salt).Discreet [.register, .authenticate] := by
  unfold registerOrAuthenticate register
  split
  · rename_i refusal hn
    obtain ⟨detail, rfl⟩ := newAccount?_eq_error hn
    exact .done _
  · refine .unit _ _ ⟨_, insertNew_discreet _⟩ (fun _ => rfl) fun outcome => ?_
    split
    · rw [← Dialogue.bind_done (e.authenticate username password)]
      exact authenticate_discreet (fun _ => rfl) .done
    · exact .done _

theorem signIn_discreet : (e.signIn username password salt).Discreet
    [.authenticate, .account, .register, .authenticate] := by
  refine authenticate_discreet (fun _ => rfl) fun outcome => ?_
  split
  · refine .unit .account _ (Work.Discreet.exists_of_forall fun _ => ?_) (fun _ => rfl)
      fun outcome => ?_
    · exact (Work.Discreet.call (r := .accountByName _) fun _ => rfl).bind fun _ => .found
    · split
      · exact .done _
      · exact registerOrAuthenticate_discreet
      · exact .done _
  · exact .done _

/-- A job is discreet work for the operation of its command. -/
theorem job_discreet {c : Command} {job : Job} (h : e.job? c = some (.ok job)) :
    c.operations = [job.op] ∧ ∃ taken, Work.Discreet taken job.work.run := by
  have reads {β : Type} {w : Work β} (hw : ∀ taken, Work.Discreet taken w.run) :=
    Work.Discreet.exists_of_forall hw
  cases c with
  | signIn => cases h
  | register =>
    obtain ⟨new, rfl⟩ := exists_of_map h
    exact ⟨rfl, _, insertNew_discreet new⟩
  | addItem =>
    obtain ⟨new, rfl⟩ := exists_of_map h
    exact ⟨rfl, _, insertNewItem_discreet new⟩
  | transfer =>
    rw [job?] at h
    split at h <;> cases h
    exact ⟨rfl, reads fun _ => moveCoins_discreet ..⟩
  | purchase =>
    cases h
    exact ⟨rfl, reads fun _ => buy_discreet ..⟩
  | authenticate | catalog =>
    cases h
    exact ⟨rfl, reads fun _ => .call fun _ => rfl⟩
  | account | accountByName =>
    cases h
    exact ⟨rfl, reads fun _ => (Work.Discreet.call fun _ => rfl).bind fun _ => .found⟩
  | inventory =>
    cases h
    exact ⟨rfl, reads fun _ => withAccount_discreet _ fun _ => loadInventory_discreet _⟩
  | statement =>
    cases h
    refine ⟨rfl, reads fun _ => withAccount_discreet _ fun account => ?_⟩
    exact (loadInventory_discreet _).bind fun _ => (loadHistory_discreet _).bind fun _ => .pure
  | history =>
    cases h
    exact ⟨rfl, reads fun _ => withAccount_discreet _ loadHistory_discreet⟩

/-- A command opens units for its operations, one after another. -/
theorem perform_discreet (e : Engine) (c : Command) : (e.perform c).Discreet c.operations := by
  cases hj : e.job? c with
  | none =>
    obtain ⟨username, password, salt, rfl⟩ := job?_eq_none.mp hj
    exact signIn_discreet.map _
  | some x =>
    rw [perform_of_job hj]
    cases x with
    | error refusal => exact .done _
    | ok job =>
      obtain ⟨operation, discreet⟩ := job_discreet hj
      rw [operation]
      exact .unit job.op job.limit discreet
        (fun label => congrArg Dialogue.done (job_finish hj (.operationFailed label)))
        fun _ => .done _

/-! ## A name that is taken -/

variable {log : List Exchanged} {c : Call} {err : StoreError}

/-- When an insertion of an account meets a conflict, the name that was asked for is taken. -/
theorem register_clashes (c : Call) (err : StoreError) {outcome : Except Error Account}
    (h : (e.register username password salt).Leads log (.done outcome))
    (hx : ⟨c, c.fail err⟩ ∈ log) (hc : c.clashes err = true)
    (timely : ⟨.rollback, .error .expired⟩ ∉ log) :
    outcome = .error (.accountAlreadyExists (canonicalUsername username)) := by
  cases hn : e.newAccount? username password salt with
  | error refusal =>
    unfold register at h
    rw [hn] at h
    rw [h.of_done.1] at hx
    cases hx
  | ok new =>
    unfold register at h
    rw [hn] at h
    obtain ⟨before, after, hl⟩ := List.append_of_mem hx
    have refused := (Course.of_leads h).failed (insertNew_discreet new) hl
      (by rintro rfl; cases hc) fun hr =>
        timely (hl ▸ List.mem_append_right _ (List.mem_cons_of_mem _ hr))
    rw [refused, Call.failure, if_pos hc, Failure.toError,
      normalizeUsername_eq_ok (newAccount?_eq_ok hn).1]

/-- When an insertion of an item meets a conflict, the name that was asked for is taken. -/
theorem addItem_clashes (c : Call) (err : StoreError) {name : String} {price : Int}
    {outcome : Except Error Item}
    (h : (e.addItem name price).Leads log (.done outcome)) (hx : ⟨c, c.fail err⟩ ∈ log)
    (hc : c.clashes err = true) (timely : ⟨.rollback, .error .expired⟩ ∉ log) :
    outcome = .error (.itemAlreadyExists (Text.trim name)) := by
  cases hn : NewItem.of? name price with
  | error refusal =>
    rw [addItem, hn] at h
    rw [h.of_done.1] at hx
    cases hx
  | ok new =>
    rw [addItem, hn] at h
    obtain ⟨before, after, hl⟩ := List.append_of_mem hx
    have refused := (Course.of_leads h).failed (insertNewItem_discreet new) hl
      (by rintro rfl; cases hc) fun hr =>
        timely (hl ▸ List.mem_append_right _ (List.mem_cons_of_mem _ hr))
    rw [refused, Call.failure, if_pos hc, Failure.toError, newItem?_eq_ok hn]

/-! ## Storages that fail on schedule -/

variable {σ : Type}

/-- Whatever a storage does, and however its calls fail: how they fail makes no difference, as long
as an insertion meets a conflict in both cases or in neither, and that a rollback fails makes none.
A call that fails, but for these, stops the command, and all that is told is which operation was
stopped, unless the deadline passes during the rollback. A conflict met by an insertion means that
the name that was asked for is taken. -/
theorem perform_faults (keeper : Keeper σ) (e : Engine) (s : Faulty σ) :
    (∀ (c : Command) (f g : Faults), f.Alike g →
      (e.perform c).run (Faulty.party keeper f) s = (e.perform c).run (Faulty.party keeper g) s) ∧
    (∀ (c : Command) (f : Faults) (call : Call) (err : StoreError) (before after : List Exchanged),
      (e.perform c).transcript (Faulty.party keeper f) s =
        before ++ ⟨call, call.fail err⟩ :: after →
      call ≠ .rollback → call.clashes err = false → ⟨.rollback, .error .expired⟩ ∉ after →
      ∃ n op, Exchange.opened (before ++ [⟨call, call.fail err⟩]) = n + 1 ∧
        c.operations[n]? = some op ∧ ((e.perform c).run (Faulty.party keeper f) s).1 =
          .error (.operationFailed op.label)) ∧
    (∀ (username password : String) (salt : Salt) (f : Faults) (new : NewAccount)
      (detail : String),
      ⟨.within (.insertAccount new), .error (.failed (.conflict detail))⟩ ∈
        (e.register username password salt).transcript (Faulty.party keeper f) s →
      ⟨.rollback, .error .expired⟩ ∉
        (e.register username password salt).transcript (Faulty.party keeper f) s →
      ((e.register username password salt).run (Faulty.party keeper f) s).1 =
        .error (.accountAlreadyExists (canonicalUsername username))) ∧
    (∀ (name : String) (price : Int) (f : Faults) (new : NewItem) (detail : String),
      ⟨.within (.insertItem new), .error (.failed (.conflict detail))⟩ ∈
        (e.addItem name price).transcript (Faulty.party keeper f) s →
      ⟨.rollback, .error .expired⟩ ∉
        (e.addItem name price).transcript (Faulty.party keeper f) s →
      ((e.addItem name price).run (Faulty.party keeper f) s).1 =
        .error (.itemAlreadyExists (Text.trim name))) := by
  refine ⟨fun c f g alike => alike.run_eq (perform_discreet e c).blind keeper s, ?_, ?_, ?_⟩
  · intro c f call err before after said hr hc timely
    exact (perform_discreet e c).failed (Dialogue.leads_transcript _ _ s) said hr hc timely
  · intro username password salt f new detail hx timely
    exact register_clashes (.within (.insertAccount new)) (.conflict detail)
      (Dialogue.leads_transcript _ _ s) hx rfl timely
  · intro name price f new detail hx timely
    exact addItem_clashes (.within (.insertItem new)) (.conflict detail)
      (Dialogue.leads_transcript _ _ s) hx rfl timely

/-! Somebody offers a cup. -/

/-- The cup is looked for in vain, and the unit is not rolled back either. -/
def lookupFails (err : StoreError) : Faults
  | _, .within (.itemByName _) | _, .rollback => some (.failed err)
  | _, _ => none

/-- Names are taken by the time of their insertion. -/
def nameTaken : Faults
  | _, .within (.insertAccount _) | _, .within (.insertItem _) => some (.failed (.conflict "late"))
  | _, _ => none

theorem lookupFails_alike : (lookupFails .database).Alike (lookupFails (.conflict "cup")) := by
  intro calls c
  unfold lookupFails
  split
  · exact .fails rfl
  · exact .rollsBack nofun nofun
  · exact .refl _

/-- The store fails when the cup is looked for, or finds its name taken when it is inserted. -/
theorem perform_faults_cup :
    let nobody : Faulty Books := ⟨[], ⟨{}, none, default⟩⟩
    let offer (f : Faults) := (Engine.perform {} (.addItem "cup" 5)).run
      (Faulty.party Books.answer f) nobody
    (lookupFails .database).Alike (lookupFails (.conflict "cup")) ∧
      offer (lookupFails .database) = offer (lookupFails (.conflict "cup")) ∧
      (offer (lookupFails .database)).1 = .error (.operationFailed "add catalog item") ∧
      ((Engine.register {} "alice" "secret" (.replicate 7)).run
        (Faulty.party Books.answer nameTaken) nobody).1 =
          .error (.accountAlreadyExists (canonicalUsername "alice")) ∧
      ((Engine.addItem {} "cup" 5).run (Faulty.party Books.answer nameTaken) nobody).1 =
          .error (.itemAlreadyExists (Text.trim "cup")) := by
  intro nobody offer
  obtain ⟨blind, told, register, addItem⟩ := perform_faults Books.answer {} nobody
  have item : NewItem.of? "cup" 5 = .ok ⟨"cup", 5⟩ := by decide +kernel
  have hname : normalizeUsername "alice" = .ok (canonicalUsername "alice") :=
    normalizeUsername_of_fits (by decide +kernel)
  have hpass : validatePassword "secret" = .ok () := if_neg (by decide)
  have alice := newAccount?_of_accepted {} (.replicate 7) hname hpass
  refine ⟨lookupFails_alike, blind _ _ _ lookupFails_alike, ?_, ?_, ?_⟩
  · have said : (perform {} (.addItem "cup" 5)).transcript
        (Faulty.party Books.answer (lookupFails .database)) nobody =
          [⟨.begin none, .ok ()⟩] ++ ⟨.within (.itemByName "cup"), Call.fail .database _⟩ ::
            [⟨.rollback, .error (.failed .database)⟩] := by
      rw [perform, Engine.addItem, item]
      rfl
    obtain ⟨n, op, hn, hop, ho⟩ := told _ _ _ _ _ _ said (fun h => by cases h) rfl
      fun h => by cases List.mem_singleton.mp h
    cases hn
    cases hop
    exact ho
  · have said : (Engine.register {} "alice" "secret" (.replicate 7)).transcript
        (Faulty.party Books.answer nameTaken) nobody =
          [⟨.begin none, .ok ()⟩, ⟨.within (.accountByName (canonicalUsername "alice")), .ok none⟩,
            ⟨.within (.insertAccount ⟨canonicalUsername "alice",
              hashPassword (.replicate 7) "secret", defaultGrant⟩),
              .error (.failed (.conflict "late"))⟩, ⟨.rollback, .ok ()⟩] := by
      unfold Engine.register
      rw [alice]
      rfl
    exact register _ _ _ _ _ "late" (by rw [said]; exact .tail _ (.tail _ (.head _)))
      (by rw [said]; simp)
  · have said :
        (Engine.addItem {} "cup" 5).transcript (Faulty.party Books.answer nameTaken) nobody =
          [⟨.begin none, .ok ()⟩, ⟨.within (.itemByName "cup"), .ok none⟩,
            ⟨.within (.insertItem ⟨"cup", 5⟩), .error (.failed (.conflict "late"))⟩,
            ⟨.rollback, .ok ()⟩] := by
      rw [Engine.addItem, item]
      rfl
    exact addItem _ _ _ _ "late" (by rw [said]; exact .tail _ (.tail _ (.head _)))
      (by rw [said]; simp)

end Engine

end Scrip
