import Scrip.Proofs.Engine.Bodies

/-!
# Commands of one unit

Every command but that of signing in is refused at once or carried out in one unit
(`perform_of_job`). `Engine.job?` says in which.

* `job_proper`: its work is over when the deadline passes, and reads only if the command does.
-/

namespace Scrip

open Credential Work

/-- What is carried out in a unit: the operation it is for, the limit it is opened under, the work
in it and what is made of the value of that. -/
structure Job where
  {Value : Type}
  op : Operation
  limit : Option Nat
  work : Work Value
  finish : Except Error Value → Except Error Outcome

/-- A job is carried out, unless it is refused. -/
def Job.carryOut : Except Error Job → Exchange (Except Error Outcome)
  | .error refusal => .done (.error refusal)
  | .ok job => inUnit job.op job.limit job.work >>= fun value => .done (job.finish value)

namespace Engine

variable {e : Engine} {c : Command}

/-- The job that a command is about, or its refusal. Signing in is about more than one. -/
def job? (e : Engine) : Command → Option (Except Error Job)
  | .register username password salt =>
    some ((e.newAccount? username password salt).map fun new =>
      ⟨.register, e.timeout, insertNew new, (·.map .account)⟩)
  | .authenticate username password =>
    some (.ok ⟨.authenticate, e.timeout, call (.accountByName (canonicalUsername username)),
      fun found => (found.bind (letIn password)).map .account⟩)
  | .signIn .. => none
  | .account id =>
    some (.ok ⟨.account, e.timeout, call (.account id) >>= found (.noAccount id), (·.map .account)⟩)
  | .accountByName username =>
    some (.ok ⟨.account, e.timeout, call (.accountByName (canonicalUsername username)) >>=
      found (.accountNotFound (canonicalUsername username)), (·.map .account)⟩)
  | .inventory id =>
    some (.ok ⟨.inventory, e.timeout,
      call (.account id) >>= fun x => found (.noAccount id) x >>= fun _ => loadInventory id,
      (·.map .inventory)⟩)
  | .statement id =>
    some (.ok ⟨.accountInfo, e.timeout,
      call (.account id) >>= fun x => found (.noAccount id) x >>= fun account => do
        let inventory ← loadInventory id
        let history ← loadHistory account
        return ⟨account, inventory, history⟩,
      (·.map .statement)⟩)
  | .history id =>
    some (.ok ⟨.history, e.timeout,
      call (.account id) >>= fun x => found (.noAccount id) x >>= loadHistory, (·.map .history)⟩)
  | .catalog => some (.ok ⟨.catalog, e.timeout, call .items, (·.map .catalog)⟩)
  | .addItem name price =>
    some ((NewItem.of? name price).map fun new =>
      ⟨.addItem, e.timeout, insertNewItem new, (·.map .item)⟩)
  | .transfer sender recipient amount deadline =>
    some (if amount ≤ 0 then .error (.amountNotPositive amount)
      else .ok ⟨.transfer, deadline.or e.timeout,
        moveCoins sender (canonicalUsername recipient) amount, (·.map .entry)⟩)
  | .purchase buyer item deadline =>
    some (.ok ⟨.purchase, deadline.or e.timeout, buy buyer item, (·.map .entry)⟩)

theorem job?_eq_none :
    e.job? c = none ↔ ∃ username password salt, c = .signIn username password salt := by
  cases c <;> simp [job?]

/-- The command is its job. -/
theorem perform_of_job {job : Except Error Job} (h : e.job? c = some job) :
    e.perform c = Job.carryOut job := by
  cases c with
  | register username password salt =>
    obtain rfl := Option.some.inj h
    show perform.wrap .account (register ..) = _
    unfold register
    generalize e.newAccount? username password salt = new
    cases new <;> rfl
  | authenticate username password =>
    obtain rfl := Option.some.inj h
    rw [perform, perform.wrap, authenticate, Dialogue.bind_assoc]
    refine congrArg (Bind.bind (inUnit _ _ _)) (funext fun found => ?_)
    cases found <;> rfl
  | signIn => cases h
  | addItem name price =>
    obtain rfl := Option.some.inj h
    show perform.wrap .item (addItem ..) = _
    unfold addItem
    generalize NewItem.of? name price = new
    cases new <;> rfl
  | transfer sender recipient amount deadline =>
    obtain rfl := Option.some.inj h
    show perform.wrap .entry (transfer ..) = _
    unfold transfer
    split <;> rfl
  | _ =>
    obtain rfl := Option.some.inj h
    rfl

variable {job : Job}

/-- A job that may be refused, when it was not. -/
theorem exists_of_map {α : Type} {x : Except Error α} {f : α → Job}
    (h : some (x.map f) = some (.ok job)) : ∃ a, f a = job := by
  cases x with
  | error refusal => cases Option.some.inj h
  | ok a => exact ⟨a, Except.ok.inj (Option.some.inj h)⟩

/-- Failures are passed on. -/
theorem job_finish (h : e.job? c = some (.ok job)) (failure : Error) :
    job.finish (.error failure) = .error failure := by
  cases c with
  | signIn => cases h
  | register | addItem =>
    obtain ⟨new, rfl⟩ := exists_of_map h
    rfl
  | transfer =>
    rw [job?] at h
    split at h <;> cases h
    rfl
  | _ =>
    cases h
    rfl

/-- The work of a job is over when the deadline passes, and only reads if its command does. -/
theorem job_proper (h : e.job? c = some (.ok job)) :
    Proper (fun r => c.isRead = true → r.isWrite = false) job.work.run := by
  have reads {α : Type} {w : Work α} (hw : w.OnlyReads) :
      Proper (fun r => c.isRead = true → r.isWrite = false) w.run :=
    hw.mono fun _ hr _ => hr
  have writes {α : Type} {w : Work α} (hw : Proper (fun _ => True) w.run) (hc : c.isRead = false) :
      Proper (fun r => c.isRead = true → r.isWrite = false) w.run :=
    hw.mono fun _ _ hr => absurd hr (hc ▸ Bool.false_ne_true)
  cases c with
  | signIn => cases h
  | register =>
    obtain ⟨new, rfl⟩ := exists_of_map h
    exact writes (insertNew_proper new trivial trivial) rfl
  | addItem =>
    obtain ⟨new, rfl⟩ := exists_of_map h
    exact writes (insertNewItem_proper new trivial trivial) rfl
  | transfer sender recipient amount =>
    rw [job?] at h
    split at h
    · cases h
    · cases h
      exact writes (moveCoins_proper sender _ amount) rfl
  | purchase buyer item =>
    cases h
    exact writes (buy_proper buyer item) rfl
  | authenticate =>
    cases h
    exact reads (OnlyReads.call rfl)
  | account | accountByName =>
    cases h
    exact reads (lookUp_onlyReads (OnlyReads.call rfl) rfl)
  | inventory id =>
    cases h
    exact reads (withAccount_onlyReads id fun _ => loadInventory_onlyReads id)
  | statement id =>
    cases h
    exact reads (withAccount_onlyReads id (statement_onlyReads id))
  | history id =>
    cases h
    exact reads (withAccount_onlyReads id loadHistory_onlyReads)
  | catalog =>
    cases h
    exact reads (OnlyReads.call rfl)

end Engine

end Scrip
