import Mathlib.Data.List.Induction
import Scrip.Proofs.Framework.Lawful
import Scrip.Proofs.Framework.Leads

/-!
# Work that heeds locks

A unit locks accounts in the order of their numbers and changes only what it has locked
(`Call.Heeds`), as long as a lock gives the account that was asked for (`Exchanged.Honest`).

* `Dialogue.Heeds`: whatever is replied, every call of a dialogue is such;
* `Dialogue.Heeds.leads`: what is said in it, and what is left of it then;
* `Work.Heeds`: work inside a unit, and its steps;
* `Exchange.Heeds.unit`: a unit of such work.
-/

namespace Scrip

open Dialogue (Lawful)

/-! ## What is said in a unit -/

/-- The account that a call locks. -/
def Call.locks? : Call → Option AccountId
  | .within (.lockAccount id) => some id
  | _ => none

/-- The account of which a call changes the coins or a holding. -/
def Call.changes? : Call → Option AccountId
  | .within (.debit id _) | .within (.credit id _) => some id
  | .within (.incrementHolding id _) | .within (.insertHolding id _) => some id
  | _ => none

/-- A lock gives the account that was asked for. -/
def Exchanged.Honest (x : Exchanged) : Prop :=
  ∀ id a, x = ⟨.within (.lockAccount id), .ok (some a)⟩ → a.id = id

/-- The unit is over after the call, whatever the storage made of it. -/
inductive Exchanged.Closes : Exchanged → Prop
  | commit (reply : Call.Reply .commit) : Closes ⟨.commit, reply⟩
  | rollback (reply : Call.Reply .rollback) : Closes ⟨.rollback, reply⟩
  | late {x : Exchanged} (h : x.IsLate) : Closes x

/-- The accounts for which a lock was asked. -/
def locked (log : List Exchanged) : List AccountId :=
  log.filterMap (·.1.locks?)

/-- An account was found when its lock was asked for, so that the unit holds it. -/
def Granted (log : List Exchanged) (id : AccountId) : Prop :=
  ∃ a : Account, a.id = id ∧ ⟨.within (.lockAccount id), .ok (some a)⟩ ∈ log

/-- Nothing that was said ends the unit. -/
def Unclosed (log : List Exchanged) : Prop :=
  ∀ x ∈ log, ¬ x.Closes

/-- What a call of a unit has to heed after what was said. -/
structure Call.Heeds (log : List Exchanged) (c : Call) : Prop where
  /-- The call is one of the unit that the first call began. -/
  begins : ∀ limit, c = .begin limit → log = []
  unclosed : Unclosed log
  /-- Accounts are locked in the order of their numbers. -/
  above : ∀ id ∈ c.locks?, ∀ other ∈ locked log, other < id
  /-- What is changed is locked before. -/
  granted : ∀ id ∈ c.changes?, Granted log id

variable {α β : Type} {log log' : List Exchanged} {x : Exchanged} {id : AccountId}

theorem Granted.mono (h : Granted log id) (hlog : log ⊆ log') : Granted log' id :=
  h.imp fun _ ⟨same, hx⟩ => ⟨same, hlog hx⟩

theorem Granted.mem_locked (h : Granted log id) : id ∈ locked log := by
  obtain ⟨a, -, hx⟩ := h
  exact List.mem_filterMap.mpr ⟨_, hx, rfl⟩

theorem Unclosed.snoc (h : Unclosed log) (hx : ¬ x.Closes) : Unclosed (log ++ [x]) := by
  intro y hy
  rcases List.mem_append.mp hy with hy | hy
  · exact h y hy
  · exact List.mem_singleton.mp hy ▸ hx

theorem locked_snoc (log : List Exchanged) (x : Exchanged) :
    locked (log ++ [x]) = locked log ++ x.1.locks?.toList := by
  rw [locked, List.filterMap_append]
  rfl

theorem mem_locked_snoc : id ∈ locked (log ++ [x]) ↔ id ∈ locked log ∨ x.1.locks? = some id := by
  rw [locked_snoc, List.mem_append, Option.mem_toList]

/-- A request ends the unit only if it comes too late. -/
theorem Exchanged.not_closes {r : Request} {reply : r.Reply} (h : reply ≠ .error .expired) :
    ¬ Exchanged.Closes ⟨.within r, reply⟩ := by
  intro closes
  cases closes with
  | late late => exact h (Option.some.inj late).symm

/-- A unit that began is open. -/
theorem Exchanged.begin_not_closes {limit : Option Nat} :
    ¬ Exchanged.Closes ⟨.begin limit, .ok ()⟩ := by
  intro closes
  cases closes with
  | late late => cases late

theorem Exchanged.honest_error (r : Request) (lapse : Lapse) :
    Exchanged.Honest ⟨.within r, .error lapse⟩ := by
  intro id a hx
  cases hx

theorem Granted.not_error {r : Request} {lapse : Lapse} :
    ¬ Granted [⟨.within r, .error lapse⟩] id := by
  rintro ⟨a, -, hx⟩
  cases List.mem_singleton.mp hx

/-- No lock is given by a reply after which the unit is over. -/
theorem Exchanged.Closes.honest (h : x.Closes) : x.Honest := by
  cases h with
  | commit | rollback => exact fun id a hx => by cases hx
  | late late =>
    rintro id a rfl
    cases late

/-! ## Dialogues -/

/-- What is heard is added to what was said. -/
def heard : Dialogue.Surroundings Call Call.Reply (List Exchanged) := fun log c reply log' =>
  Exchanged.Honest ⟨c, reply⟩ ∧ log' = log ++ [⟨c, reply⟩]

/-- Whatever is replied, every call heeds what was said before, and in the end `Q` holds. -/
abbrev Dialogue.Heeds (log : List Exchanged) (d : Exchange α)
    (Q : α → List Exchanged → Prop) : Prop :=
  Lawful (fun log c => c.Heeds log) heard d log Q

/-- Every call heeded what was said before, and those that are left will. -/
theorem Dialogue.Heeds.leads {said : List Exchanged} {d d' : Exchange α}
    {Q : α → List Exchanged → Prop} (h : d.Heeds log Q) (hd : d.Leads said d')
    (honest : ∀ x ∈ said, x.Honest) :
    d'.Heeds (log ++ said) Q ∧
      ∀ before x after, said = before ++ x :: after → x.1.Heeds (log ++ before) := by
  induction hd generalizing log with
  | refl d =>
    rw [List.append_nil]
    exact ⟨h, fun before x after split => by simp at split⟩
  | @ask c next reply said d' _ ih =>
    obtain ⟨heeds, hn⟩ := Lawful.ask_iff.mp h
    obtain ⟨left, calls⟩ := ih (hn reply _ ⟨honest _ List.mem_cons_self, rfl⟩)
      fun x hx => honest x (List.mem_cons_of_mem _ hx)
    rw [List.append_assoc] at left
    refine ⟨left, fun before x after split => ?_⟩
    cases before with
    | nil =>
      rw [List.append_nil]
      exact congrArg Sigma.fst (List.cons.inj split).1 ▸ heeds
    | cons y before =>
      obtain ⟨rfl, rest⟩ := List.cons.inj split
      have := calls before x after rest
      rwa [List.append_assoc] at this

/-- Locks that were asked for above all others before ascend. -/
theorem locked_ascend (h : ∀ before x after, log = before ++ x :: after → x.1.Heeds before) :
    (locked log).Pairwise (· < ·) := by
  induction log using List.reverseRecOn with
  | nil => exact .nil
  | append_singleton log x ih =>
    have last := (h log x [] rfl).above
    rw [locked_snoc, List.pairwise_append]
    refine ⟨ih fun before y after split => h before y (after ++ [x]) (by rw [split]; simp), ?_,
      fun other ho id hid => last id (Option.mem_toList.mp hid) other ho⟩
    cases x.1.locks? with
    | none => exact .nil
    | some id => exact List.pairwise_singleton _ _

/-! ## Work -/

namespace Work

/-- How work may end: in a unit that is not over, with a value of which `P` holds or with a failure,
or because the deadline passed. -/
inductive Leaves (P : α → List Exchanged → Prop) : Except Failure α → List Exchanged → Prop
  | value {a : α} {log : List Exchanged} (unclosed : Unclosed log) (h : P a log) :
      Leaves P (.ok a) log
  | failure {f : Failure} {log : List Exchanged} (unclosed : Unclosed log) (own : f ≠ .expired) :
      Leaves P (.error f) log
  | expired {x : Exchanged} {log : List Exchanged} (hx : x ∈ log) (late : x.IsLate) :
      Leaves P (.error .expired) log

/-- Whatever is replied in a unit that began and is not over, every call of the work heeds what was
said before, and `P` holds of its value. -/
def Heeds (log : List Exchanged) (w : Work α) (P : α → List Exchanged → Prop) : Prop :=
  Unclosed log → w.exchange.Heeds log (Leaves P)

namespace Heeds

variable {w : Work α} {P : α → List Exchanged → Prop} {Q : β → List Exchanged → Prop}

theorem pure {a : α} (h : P a log) : Work.Heeds log (Pure.pure a) P :=
  fun unclosed => .done (.value unclosed h)

theorem throw {f : Failure} (own : f ≠ .expired) :
    Work.Heeds log (MonadExcept.throw f : Work α) P :=
  fun unclosed => .done (.failure unclosed own)

theorem bind {f : α → Work β} (hw : w.Heeds log P)
    (hf : ∀ a log', P a log' → (f a).Heeds log' Q) : (w >>= f).Heeds log Q := by
  intro unclosed
  rw [exchange_bind]
  refine Lawful.bind (hw unclosed) fun outcome log' h => ?_
  cases h with
  | value unclosed h => exact hf _ _ h unclosed
  | failure unclosed own => exact .done (.failure unclosed own)
  | expired hx late => exact .done (.expired hx late)

theorem mono {Q : α → List Exchanged → Prop} (hw : w.Heeds log P)
    (h : ∀ a log', P a log' → Q a log') : w.Heeds log Q := by
  rw [← bind_pure w]
  exact hw.bind fun a log' hP => .pure (h a log' hP)

/-- A request, with what is known of its answer. -/
theorem request {r : Request} {P : r.Answer → List Exchanged → Prop}
    (above : ∀ id ∈ (Call.within r).locks?, ∀ other ∈ locked log, other < id)
    (granted : ∀ id ∈ (Call.within r).changes?, Granted log id)
    (hP : ∀ a, Exchanged.Honest ⟨.within r, .ok a⟩ → P a (log ++ [⟨.within r, .ok a⟩])) :
    (Work.call r).Heeds log P := by
  intro unclosed
  have asked : (Work.call r).exchange = .ask (.within r) fun
      | .ok a => .done (.ok a)
      | .error (.failed e) => .done (.error (.store e))
      | .error .expired => .done (.error .expired) := by
    refine congrArg _ (funext fun reply => ?_)
    match reply with
    | .ok _ | .error (.failed _) | .error .expired => rfl
  rw [asked]
  refine .ask ⟨nofun, unclosed, above, granted⟩ fun reply _ ⟨honest, hlog⟩ => ?_
  subst hlog
  match reply, honest with
  | .ok a, honest => exact .done (.value (unclosed.snoc (Exchanged.not_closes nofun)) (hP a honest))
  | .error (.failed e), _ =>
    exact .done (.failure (unclosed.snoc (Exchanged.not_closes nofun)) nofun)
  | .error .expired, _ =>
    exact .done (.expired (List.mem_append_right _ (List.mem_singleton_self _)) rfl)

/-- A request that locks nothing. What is locked stays so. -/
theorem call {r : Request} (locks : (Call.within r).locks? = none)
    (granted : ∀ id ∈ (Call.within r).changes?, Granted log id) :
    (Work.call r).Heeds log fun _ log' => locked log' = locked log ∧ log ⊆ log' := by
  refine request (by rw [locks]; exact nofun) granted fun a _ => ⟨?_, List.subset_append_left _ _⟩
  rw [locked_snoc, locks]
  exact List.append_nil _

/-- A request that neither locks nor changes what has to be locked. -/
theorem read {r : Request} (locks : (Call.within r).locks? = none := by exact rfl)
    (changes : (Call.within r).changes? = none := by exact rfl) :
    (Work.call r).Heeds log fun _ log' => locked log' = locked log ∧ log ⊆ log' :=
  call locks (by rw [changes]; exact nofun)

/-- A change of what is locked. -/
theorem change {r : Request} {id : AccountId} (held : Granted log id)
    (locks : (Call.within r).locks? = none := by exact rfl)
    (changes : (Call.within r).changes? = some id := by exact rfl) :
    (Work.call r).Heeds log fun _ log' => locked log' = locked log ∧ log ⊆ log' := by
  refine call locks fun other ho => ?_
  rw [changes] at ho
  exact Option.some.inj ho ▸ held

theorem found {e : Error} {x : Option α} (h : ∀ a, x = some a → P a log) :
    (Work.found e x).Heeds log P := by
  cases x with
  | some a => exact .pure (h a rfl)
  | none => exact .throw nofun

theorem checked {x : Except Error α} (h : ∀ a, x = .ok a → P a log) :
    (Work.checked x).Heeds log P := by
  cases x with
  | ok a => exact .pure (h a rfl)
  | error e => exact .throw nofun

/-- A search, and what comes after it when something is found. -/
theorem search {r : Request} {x : r.Answer → Option α} {e : Error} {f : α → Work β}
    (hf : ∀ a log', locked log' = locked log → (f a).Heeds log' Q)
    (locks : (Call.within r).locks? = none := by exact rfl)
    (changes : (Call.within r).changes? = none := by exact rfl) :
    (Work.call r >>= fun y => Work.found e (x y) >>= f).Heeds log Q := by
  refine (read locks changes).bind fun y log' ⟨same, _⟩ => ?_
  cases x y with
  | some a => exact hf a log' same
  | none => exact .throw nofun

/-- A refusal, or what comes after it. -/
theorem guard {c : Prop} [Decidable c] {e : Error} {next : PUnit → Work α}
    (hn : (next ⟨⟩).Heeds log P) :
    (if c then Work.refuse e >>= next else next ⟨⟩ : Work α).Heeds log P := by
  split
  · exact .throw nofun
  · exact hn

end Heeds

end Work

/-! ## Units -/

namespace Exchange.Heeds

/-- Whoever locked an account is through with the unit. -/
def Settled (_ : α) (log : List Exchanged) : Prop :=
  Unclosed log → locked log = []

theorem Settled.of_closes {a : α} (hx : x ∈ log) (closes : x.Closes) : Settled a log :=
  fun unclosed => absurd closes (unclosed x hx)

/-- A call that ends the unit, when nothing ended it before and nothing comes after it. -/
theorem last {c : Call} {next : c.Reply → Exchange α}
    (closes : ∀ reply, Exchanged.Closes ⟨c, reply⟩) (heeds : c.Heeds log)
    (stops : ∀ reply, ∃ a, next reply = .done a) :
    (Dialogue.ask c next).Heeds log Settled := by
  refine .ask heeds fun reply _ ⟨_, hlog⟩ => ?_
  obtain ⟨a, done⟩ := stops reply
  rw [done]
  subst hlog
  exact .done (.of_closes (List.mem_append_right _ (List.mem_singleton_self _)) (closes reply))

/-- The end of a unit, after work that ended in one that was not over. -/
theorem settle (op : Operation) {outcome : Except Failure α} {P : α → List Exchanged → Prop}
    (h : Work.Leaves P outcome log) : (settle op outcome).Heeds log Settled := by
  cases h with
  | value unclosed =>
    refine last .commit ⟨nofun, unclosed, nofun, nofun⟩ fun reply => ?_
    match reply with
    | .ok () | .error _ => exact ⟨_, rfl⟩
  | @failure f _ unclosed hf =>
    obtain ⟨next, asks, expired, fails⟩ := exists_rollback op hf
    rw [asks]
    refine last .rollback ⟨nofun, unclosed, nofun, nofun⟩ fun reply => ?_
    by_cases late : reply = .error .expired
    · exact ⟨_, late ▸ expired⟩
    · exact ⟨_, fails reply late⟩
  | expired hx late => exact .done (.of_closes hx (.late late))

/-- A unit of work that heeds locks once it has begun. -/
theorem unit (op : Operation) (limit : Option Nat) {w : Work α} {P : α → List Exchanged → Prop}
    (hw : w.Heeds [⟨.begin limit, .ok ()⟩] P) : (inUnit op limit w).Heeds [] Settled := by
  refine .ask ⟨fun _ _ => rfl, List.forall_mem_nil _, nofun, nofun⟩ fun reply _ ⟨_, hlog⟩ => ?_
  subst hlog
  match reply with
  | .error (.failed _) | .error .expired => exact .done fun _ => rfl
  | .ok () =>
    have unclosed : Unclosed [⟨.begin limit, .ok ()⟩] :=
      List.forall_mem_singleton.mpr Exchanged.begin_not_closes
    exact Lawful.bind (hw unclosed) fun _ _ => settle op

end Exchange.Heeds

end Scrip
