import Scrip.Proofs.Concurrency.Orderly
import Scrip.Proofs.Engine.Bodies
import Scrip.Proofs.Engine.Names
import Scrip.Proofs.Engine.SignIn
import Scrip.Proofs.Http.SignIn
import Scrip.Proofs.Ledger.Permanent
import Scrip.Proofs.Ledger.Statement

/-!
# Statements are snapshots

Clients with commands and with requests to the server share a store (`sharing`). Whatever they ask
for and however their units are interleaved, a statement tells what balance, items and history were
on one state that was committed while it was asked for, where they add up. So does the server, and
it tells everybody whom the credentials let in, but for deadlines (`statement_snapshot`).

* `Shows`, `Lacks`: what three operations by themselves tell of an account;
* `Informs`: a response that tells of the account of a request;
* `statement_keeps`, `info_keeps`: how the two end, to the books that the client began with.
-/

namespace Scrip

open Credential
open Crypt (Salt)
open Exchange Exchange.Keeps
open Http (Extractors Response)

/-- A request that names an account names it later, too. -/
theorem Http.Request.Names.remains {r : Http.Request} {a a' : Account}
    (h : r.Names a) (remains : a.Remains a') : r.Names a' := by
  rw [Names, remains.username, remains.passwordHash]
  exact h

/-- It names no other account. -/
theorem Http.Request.Names.eq {r : Http.Request} {a a' : Account} {b : Books}
    {given : String → Prop} (h : r.Names a) (h' : r.Names a') (named : b.Named given)
    (ha : a ∈ b.accounts) (ha' : a' ∈ b.accounts) : a = a' := by
  obtain ⟨c, brought, -, -, name, -⟩ := h
  obtain ⟨c', brought', -, -, name', -⟩ := h'
  cases brought.eq brought'
  exact List.inj_on_of_nodup_map named.distinct ha ha' (name.symm.trans name')

/-! ## Clients -/

/-- What a client does with a store. -/
inductive Deed where
  | command (c : Command)
  | request (salt : Salt) (r : Http.Request)

/-- What it is told. -/
inductive Deed.Result where
  | outcome (o : Except Error Outcome)
  | response (r : Response)

/-- The dialogue of a client. -/
def Deed.exchange (x : Extractors) (e : Engine) : Deed → Exchange Deed.Result
  | command c => e.perform c >>= fun o => pure (.outcome o)
  | request salt r => Http.respond x e salt r >>= fun response => pure (.response response)

/-- The deadline of its units. -/
def Deed.limit (e : Engine) : Deed → Option Nat
  | command c => c.deadline.or e.timeout
  | request _ _ => e.timeout

/-- The clients whose units have a deadline. -/
def Limited {ι : Type} (e : Engine) (deed : ι → Deed) (i : ι) : Prop :=
  (deed i).limit e ≠ none

/-- Clients that are about to begin, with a store in which nothing was done. -/
def sharing {ι : Type} (x : Extractors) (e : Engine) (k : Backend) (now : Instant)
    (deed : ι → Deed) : Shared ι k.State Deed.Result :=
  { committed := k.fresh now, client := fun i => some ((deed i).exchange x e) }

/-- Books that add up, with a name for each account. -/
structure Books.InOrder (grant : Int) (b : Books) : Prop where
  reconciled : b.Reconciled grant
  named : b.Named fun _ => True

/-- The terms of such clients: all that is committed continues what was, and is in order. -/
def Terms.sharing (grant : Int) (seen : Books → Prop) (late : Prop) : Terms where
  listing := True
  expires := late
  rely b b' := b.Continues b' ∧ b'.InOrder grant ∧ seen b'
  commits b b' := b.Continues b' ∧ b'.InOrder grant

/-- The outcome of a command by itself on some state of a store. -/
def Backend.alone (e : Engine) (k : Backend) (x : k.State) (clock : Nat → Instant) (now : Instant)
    (c : Command) : Except Error Outcome :=
  ((e.perform c).run (Storage.clocked k.keeper clock) ({ committed := x, now }, 0)).1

/-- Three operations by themselves tell the parts of a statement. -/
structure Shows (e : Engine) (k : Backend) (x : k.State) (id : AccountId) (s : Statement) :
    Prop where
  account : ∀ clock now, k.alone e x clock now (.account id) = .ok (.account s.account)
  inventory : ∀ clock now, k.alone e x clock now (.inventory id) = .ok (.inventory s.inventory)
  history : ∀ clock now, k.alone e x clock now (.history id) = .ok (.history s.history)

/-- The same three find no account. -/
structure Lacks (e : Engine) (k : Backend) (x : k.State) (id : AccountId) : Prop where
  account : ∀ clock now, k.alone e x clock now (.account id) = .error (.noAccount id)
  inventory : ∀ clock now, k.alone e x clock now (.inventory id) = .error (.noAccount id)
  history : ∀ clock now, k.alone e x clock now (.history id) = .error (.noAccount id)

/-- A request brings credentials that by themselves authenticate an account on some state of a
store. -/
def Http.Request.Authenticates (r : Http.Request) (e : Engine) (k : Backend) (state : k.State)
    (a : Account) : Prop :=
  ∃ c clock now, r.Brings c ∧ c.username ≠ "" ∧ c.password ≠ "" ∧
    k.alone e state clock now (.authenticate c.username c.password) = .ok (.account a)

/-- A response tells a statement of the account that the request names, as three operations by
themselves show it on some state of a store; and both the statement and what is made of it add
up. -/
structure Informs (e : Engine) (k : Backend) (state : k.State) (r : Http.Request) (s : Statement)
    (response : Response) : Prop where
  names : r.Names s.account
  shows : Shows e k state s.account.id s
  adds : s.Adds e.initialBalance
  told : (Wire.Info.ofStatement s).Adds e.initialBalance
  response : response = .found (Wire.Info.ofStatement s).toJson

section Alone

variable {e : Engine} {k : Backend} {applied : Option (Table String)} {b : Books}

/-- What looks by itself is told what is there. -/
theorem alone_eq {α : Type} {c : Command} {f : α → Outcome} {d : Exchange (Except Error α)}
    {look : Books → Except Error α} (h : b.Storable)
    (hd : d.Keeps .alone b (Looks .alone b look))
    (hc : e.perform c = Engine.perform.wrap f d) (clock : Nat → Instant) (now : Instant) :
    k.alone e (k.hold applied b) clock now c = (look b).map f :=
  (Engine.look_alone rfl id hd hc clock (t := ({ committed := k.hold applied b, now }, 0))
    (.start h now)).1

theorem shows_of_found (h : b.Storable) {id : AccountId} {a : Account}
    (found : b.account? id = some a) :
    Shows e k (k.hold applied b) id ⟨a, b.ownedBy id, b.historyOf a⟩ := by
  have lookUp : b.lookUp id = .ok a := by rw [Books.lookUp, found]
  refine ⟨fun clock now => ?_, fun clock now => ?_, fun clock now => ?_⟩
  · rw [alone_eq h (Engine.account_keeps Terms.alone_sound id) rfl, lookUp]
    rfl
  · rw [alone_eq h (Engine.inventory_keeps Terms.alone_sound id) rfl, lookUp]
    rfl
  · rw [alone_eq h (Engine.history_keeps Terms.alone_sound id trivial) rfl, lookUp]
    rfl

/-- A request authenticates the account that it names. -/
theorem authenticates_iff {r : Http.Request} {a : Account} (h : b.Storable)
    {given : String → Prop} (distinct : b.Named given) :
    r.Authenticates e k (k.hold applied b) a ↔ a ∈ b.accounts ∧ r.Names a := by
  have alone (c : Http.Credentials) (clock : Nat → Instant) (now : Instant) :
      k.alone e (k.hold applied b) clock now (.authenticate c.username c.password) =
        (Engine.letIn c.password (b.accountByName? (canonicalUsername c.username))).map .account :=
    alone_eq h (Engine.authenticate_looks Terms.alone_sound) rfl clock now
  constructor
  · rintro ⟨c, clock, now, brought, named, locked, told⟩
    rw [alone] at told
    cases found : Engine.letIn c.password (b.accountByName? (canonicalUsername c.username)) with
    | error => rw [found] at told; cases told
    | ok =>
      rw [found] at told
      cases told
      obtain ⟨known, verified⟩ := Engine.letIn_eq_ok found
      obtain ⟨mem, name⟩ := Books.accountByName?_mem known
      exact ⟨mem, c, brought, named, locked, name.symm, verified⟩
  · rintro ⟨mem, c, brought, named, locked, name, verified⟩
    refine ⟨c, fun _ => default, default, brought, named, locked, ?_⟩
    rw [alone, (distinct.accountByName?_eq_some_iff mem).mpr name,
      Engine.letIn_of_verified verified]
    rfl

theorem lacks_of_none (h : b.Storable) {id : AccountId} (none : b.account? id = none) :
    Lacks e k (k.hold applied b) id := by
  have lookUp : b.lookUp id = .error (.noAccount id) := by rw [Books.lookUp, none]
  refine ⟨fun clock now => ?_, fun clock now => ?_, fun clock now => ?_⟩
  · rw [alone_eq h (Engine.account_keeps Terms.alone_sound id) rfl, lookUp]
    rfl
  · rw [alone_eq h (Engine.inventory_keeps Terms.alone_sound id) rfl, lookUp]
    rfl
  · rw [alone_eq h (Engine.history_keeps Terms.alone_sound id trivial) rfl, lookUp]
    rfl

end Alone

/-! ## How clients end -/

section Ends

variable {x : Extractors} {e : Engine} {seen : Books → Prop} {late : Prop} {b : Books}

theorem Terms.sharing_sound : (Terms.sharing e.initialBalance seen late).Sound :=
  ⟨fun h h' => ⟨h.1.trans h'.1, h'.2⟩, fun h => ⟨.refl _, h.2.1⟩⟩

theorem Terms.sharing_commits (hm : e.initialBalance ≤ maxCoins) {b₁ b' : Books} {c : Command}
    {o : Outcome} (hr : (Terms.sharing e.initialBalance seen late).rely b b₁)
    (he : Effect e b₁ c o b') : (Terms.sharing e.initialBalance seen late).commits b₁ b' :=
  ⟨he.continues, he.reconciled hm hr.2.1.reconciled, he.named (fun _ _ => trivial) hr.2.1.named⟩

/-- Every client keeps to these terms. -/
theorem exchange_keeps (hm : e.initialBalance ≤ maxCoins) (hx : x.Lawful) (d : Deed) :
    (d.exchange x e).Keeps (.sharing e.initialBalance seen late) b fun _ _ => True := by
  cases d with
  | command c =>
    exact Keeps.bind (Engine.perform_keeps Terms.sharing_sound hm c (fun _ => trivial)
      fun _ _ _ => Terms.sharing_commits hm) fun _ _ _ => Keeps.done trivial
  | request salt r =>
    exact Keeps.bind (Http.respond_keeps Terms.sharing_sound hx trivial hm fun _ _ _ _ =>
      Terms.sharing_commits hm) fun _ _ _ => Keeps.done trivial

/-- How a command for a statement ends. -/
inductive Stated (e : Engine) (seen : Books → Prop) (id : AccountId) : Deed.Result → Prop
  | expired (limited : e.timeout ≠ none) (label : String) :
      Stated e seen id (.outcome (.error (.timeout label)))
  | found {b : Books} {a : Account} (hr : b.Reconciled e.initialBalance) (hs : seen b)
      (ha : b.account? id = some a) :
      Stated e seen id (.outcome (.ok (.statement ⟨a, b.ownedBy id, b.historyOf a⟩)))
  | lacking {b : Books} (hs : seen b) (ha : b.account? id = none) :
      Stated e seen id (.outcome (.error (.noAccount id)))

theorem statement_keeps (id : AccountId) :
    (Deed.exchange x e (.command (.statement id))).Keeps
      (.sharing e.initialBalance seen (e.timeout ≠ none)) b fun result _ =>
        Stated e seen id result := by
  have looked : (e.perform (.statement id)).Keeps
      (.sharing e.initialBalance seen (e.timeout ≠ none)) b fun o _ =>
        Stated e seen id (.outcome o) := by
    refine Keeps.map ((Engine.statement_keeps Terms.sharing_sound id trivial).mono ?_)
    intro outcome b' h
    cases h with
    | expired _ limited label => exact .expired limited label
    | seen hr =>
      unfold Books.lookUp
      cases ha : b'.account? id with
      | none => exact .lacking hr.2.2 ha
      | some a => exact .found hr.2.1.reconciled hr.2.2 ha
  exact Keeps.bind looked fun o _ h => Keeps.done h

/-- How a request for information ends that began with some books: if these have an account that it
names, that is the one it is told of. -/
inductive Informed (e : Engine) (seen : Books → Prop) (r : Http.Request) (b : Books) :
    Response → Prop
  | refused {response : Response} (hf : response.isSuccess = false)
      (unknown : ¬ ∃ a ∈ b.accounts, r.Names a) : Informed e seen r b response
  | expired (limited : e.timeout ≠ none) (label : String) :
      Informed e seen r b (.refusal (.timeout label))
  | told {b' : Books} {owner : Account} (hr : b'.Reconciled e.initialBalance) (hs : seen b')
      (found : b'.account? owner.id = some owner) (names : r.Names owner)
      (same : ∀ a ∈ b.accounts, r.Names a → owner.id = a.id) :
      Informed e seen r b
        (.found (Wire.Info.ofStatement ⟨owner, b'.ownedBy owner.id, b'.historyOf owner⟩).toJson)

/-- Whoever is named is let in, but for deadlines. -/
theorem authorize_names (hx : x.Lawful) (r : Http.Request) :
    (Http.authorize x e r).Keeps (.sharing e.initialBalance seen (e.timeout ≠ none)) b
      fun outcome b' =>
        (∃ a ∈ b'.accounts, outcome = .ok a ∧ r.Names a ∧ b.Continues b' ∧
          b'.InOrder e.initialBalance) ∨
        ∃ response, outcome = .error response ∧ Informed e seen r b response := by
  by_cases known : ∃ a ∈ b.accounts, r.Names a
  · obtain ⟨a, ha, names⟩ := known
    obtain ⟨c, brought, named, locked, name, verified⟩ := id names
    refine (Http.authorize_looks Terms.sharing_sound (hx.brings.mpr brought) named locked).mono ?_
    rintro outcome b' ⟨found, looked, rfl⟩
    cases looked with
    | expired _ limited label => exact .inr ⟨_, rfl, .expired limited label⟩
    | seen hr =>
      obtain ⟨continues, order, -⟩ := hr
      obtain ⟨a', ha', remains⟩ := continues.accounts.exists_mem ha
      have found : b'.accountByName? (canonicalUsername c.username) = some a' :=
        (order.named.accountByName?_eq_some_iff ha').mpr (name.trans remains.username.symm)
      rw [found, Engine.letIn_of_verified (remains.passwordHash.symm ▸ verified)]
      exact .inl ⟨a', ha', rfl, names.remains remains, continues, order⟩
  · refine (Http.authorize_keeps Terms.sharing_sound hx).mono ?_
    rintro outcome b' (⟨a, rfl, hr, ha, names⟩ | ⟨response, rfl, -, hf⟩)
    · exact .inl ⟨a, ha, rfl, names, hr.1, hr.2.1⟩
    · exact .inr ⟨response, rfl, .refused hf known⟩

theorem info_keeps (hx : x.Lawful) {r : Http.Request} (salt : Salt)
    (path : Http.Route.ofPath? r.path = some (.member .info)) (get : r.method = "GET") :
    (Deed.exchange x e (.request salt r)).Keeps
      (.sharing e.initialBalance seen (e.timeout ≠ none)) b fun result _ =>
        ∃ response, result = .response response ∧ Informed e seen r b response := by
  have right : r.method ∈ (Http.Route.member .info).methods := get ▸ List.mem_cons_self ..
  have notHead : r.method ≠ "HEAD" := get ▸ by decide
  have informed : (Http.respond x e salt r).Keeps
      (.sharing e.initialBalance seen (e.timeout ≠ none)) b fun response _ =>
        Informed e seen r b response := by
    rw [Http.respond_member path right notHead]
    refine Keeps.bind (authorize_names hx r) fun outcome b₁ h => ?_
    rcases h with ⟨a, ha, rfl, names, continues, order⟩ | ⟨response, rfl, informed⟩
    · refine Keeps.bind (Engine.statement_keeps Terms.sharing_sound a.id trivial) fun s b₂ h => ?_
      cases h with
      | expired _ limited label => exact Keeps.done (.expired limited label)
      | seen hr =>
        obtain ⟨continues', order', hs⟩ := hr
        obtain ⟨owner, mem, remains⟩ := continues'.accounts.exists_mem ha
        have found := order'.reconciled.solvent.numbered.keyed.account?_eq mem
        rw [← remains.id, Books.lookUp, found]
        refine Keeps.done (.told order'.reconciled hs found (names.remains remains) ?_)
        intro a₀ ha₀ names₀
        obtain ⟨a₁, ha₁, remains₁⟩ := continues.accounts.exists_mem ha₀
        rw [remains.id, ← remains₁.id,
          names.eq (names₀.remains remains₁) order.named ha ha₁]
    · exact Keeps.done informed
  exact Keeps.bind informed fun response _ h => Keeps.done ⟨response, rfl, h⟩

end Ends

/-! ## Clients that share a store -/

variable {ι : Type} [DecidableEq ι]

/-- What was committed on the way from one state of the clients to another. -/
def SeenBetween (k : Backend) (S₀ S : Shared ι k.State Deed.Result) (b : Books) : Prop :=
  b.Storable ∧ ∃ S₁, Shared.OnTheWay k.keeper S₀ S S₁ ∧
    S₁.committed = k.hold (some Migration.noted) b

/-- The terms of all clients. Each may be late if it has a deadline. -/
def sharingTerms (e : Engine) (deed : ι → Deed) (seen : ι → Books → Prop) (i : ι) : Terms :=
  .sharing e.initialBalance (seen i) (Limited e deed i)

omit [DecidableEq ι] in
theorem sharing_admits {e : Engine} {deed : ι → Deed} {seen : ι → Books → Prop} {i : ι}
    {b w : Books} (hw : ∀ j, seen j w) (hc : (sharingTerms e deed seen i).commits b w) :
    Shared.Orderly.Admits (sharingTerms e deed seen) i b w :=
  ⟨fun j => ⟨.refl w, hc.2, hw j⟩, fun j _ _ hr => ⟨hr.1.trans hc.1, hc.2, hw j⟩⟩

section Runs

variable {x : Extractors} {e : Engine} {k : Backend} {now : Instant} {deed : ι → Deed}
  {log₀ log : List (ι × Ending)} {S₀ S : Shared ι k.State Deed.Result}

/-- Clients of any kind and number share a store, from the moment at which nothing was done, and
keep to their terms. -/
theorem sharing_orderly (hm : e.initialBalance ≤ maxCoins) (hx : x.Lawful)
    (run : Shared.TimedRun k.keeper (Limited e deed) (sharing x e k now deed) log S) :
    ∃ b, Shared.Orderly (sharingTerms e deed fun _ _ => True) (some Migration.noted)
      (fun _ _ _ => True) S b :=
  run.orderly (fun _ late => late)
    (.start (k.storable_stock now) (k.fresh_eq now)
      (fun _ => ⟨.refl _, ⟨k.reconciled_stock _ now, k.named_stock _ now⟩, trivial⟩)
      fun i _ hd => Option.some.inj hd ▸ exchange_keeps hm hx (deed i))
    fun _ _ _ _ _ _ _ hc => sharing_admits (fun _ => trivial) hc

/-- One of them begins at some time. It ends as it does on its terms, by what was committed
meanwhile. -/
theorem sharing_ends (hm : e.initialBalance ≤ maxCoins) (hx : x.Lawful)
    (before : Shared.TimedRun k.keeper (Limited e deed) (sharing x e k now deed) log₀ S₀)
    {i : ι} (begins : S₀.client i = some ((deed i).exchange x e))
    (after : Shared.TimedRun k.keeper (Limited e deed) S₀ log S) {result : Deed.Result}
    (ended : S.client i = some (.done result)) {Q : Books → Deed.Result → Prop}
    (keeps : ∀ b, ((deed i).exchange x e).Keeps
      (.sharing e.initialBalance (SeenBetween k S₀ S) ((deed i).limit e ≠ none)) b
      fun result _ => Q b result) :
    ∃ b, b.Storable ∧ b.InOrder e.initialBalance ∧
      S₀.committed = k.hold (some Migration.noted) b ∧ Q b result := by
  obtain ⟨b, orderly⟩ := sharing_orderly hm hx before
  have storable := orderly.storable
  have committed := orderly.committed
  have inOrder := (orderly.rely i).2.1
  -- What was committed meanwhile is noted by this client only.
  let seen (j : ι) (w : Books) : Prop := j = i → SeenBetween k S₀ S w
  have own : seen i = SeenBetween k S₀ S :=
    funext fun w => propext ⟨fun h => h rfl, fun h _ => h⟩
  have other {j : ι} (hj : j ≠ i) : seen j = fun _ => True :=
    funext fun w => propext ⟨fun _ => trivial, fun _ h => absurd h hj⟩
  have renewed : Shared.Orderly (sharingTerms e deed seen) (some Migration.noted)
      (fun j result _ => j = i → Q b result) S₀ b := by
    refine orderly.renew begins ⟨.refl b, inOrder, fun _ => ?_⟩ ?_ (fun j hj => ?_)
      fun j hj _ _ _ h => absurd h hj
    · exact ⟨storable, S₀, ⟨⟨_, .refl⟩, _, after.run⟩, committed⟩
    · rw [sharingTerms, own]
      exact (keeps b).mono fun _ _ h _ => h
    · rw [sharingTerms, sharingTerms, other hj]
  obtain ⟨b', orderly'⟩ := after.orderly (fun _ late => late) renewed
    fun S₁ _ _ _ way hs hw hc => sharing_admits (fun _ _ => ⟨hs, S₁, way, hw⟩) hc
  obtain ⟨-, h, -, -⟩ := orderly'.ended ended
  exact ⟨b, storable, inOrder, committed, h rfl⟩

/-- Clients of any kind and number share a store, from the moment at which nothing was done, and
one of them begins at some time. If it asks for a statement, that shows balance, items and history
as three operations by themselves show them on one state that was committed meanwhile, where they
add up; the account is unknown just if these three do not know it; and the only other end is that
the deadline of the engine passed. If it asks the server for information, all that succeeds tells
such a statement of the account that it names; and it succeeds if its credentials let in to an
account when it begins, telling of that one, but for the deadline again. -/
theorem statement_snapshot (hm : e.initialBalance ≤ maxCoins) (hx : x.Lawful)
    (before : Shared.TimedRun k.keeper (Limited e deed) (sharing x e k now deed) log₀ S₀)
    {i : ι} (begins : S₀.client i = some ((deed i).exchange x e))
    (after : Shared.TimedRun k.keeper (Limited e deed) S₀ log S) {result : Deed.Result}
    (ended : S.client i = some (.done result)) :
    (∀ id, deed i = .command (.statement id) →
      (e.timeout ≠ none ∧ ∃ label, result = .outcome (.error (.timeout label))) ∨
      ∃ S₁, Shared.OnTheWay k.keeper S₀ S S₁ ∧
        ((result = .outcome (.error (.noAccount id)) ∧ Lacks e k S₁.committed id) ∨
          ∃ s, result = .outcome (.ok (.statement s)) ∧ Shows e k S₁.committed id s ∧
            s.Adds e.initialBalance)) ∧
    ∀ salt r, deed i = .request salt r → Http.Route.ofPath? r.path = some (.member .info) →
      r.method = "GET" → ∃ response, result = .response response ∧
        (response.isSuccess = true →
          ∃ S₁ s, Shared.OnTheWay k.keeper S₀ S S₁ ∧ Informs e k S₁.committed r s response) ∧
        ∀ a, r.Authenticates e k S₀.committed a →
          (e.timeout ≠ none ∧ ∃ label, response = .refusal (.timeout label)) ∨
          ∃ S₁ s, Shared.OnTheWay k.keeper S₀ S S₁ ∧ s.account.id = a.id ∧
            Informs e k S₁.committed r s response := by
  refine ⟨fun id asked => ?_, fun salt r asked path get => ?_⟩
  · obtain ⟨-, -, -, -, stated⟩ := sharing_ends hm hx before begins after ended
      (Q := fun _ => Stated e (SeenBetween k S₀ S) id) fun b => by
        rw [asked]
        exact statement_keeps id
    cases stated with
    | expired limited label => exact .inl ⟨limited, label, rfl⟩
    | lacking hs ha =>
      obtain ⟨storable, S₁, way, committed⟩ := hs
      exact .inr ⟨S₁, way, .inl ⟨rfl, committed ▸ lacks_of_none storable ha⟩⟩
    | found hr hs ha =>
      obtain ⟨storable, S₁, way, committed⟩ := hs
      exact .inr ⟨S₁, way, .inr ⟨_, rfl, committed ▸ shows_of_found storable ha, hr.adds ha⟩⟩
  · obtain ⟨b, storable, inOrder, committed, response, rfl, informed⟩ :=
      sharing_ends hm hx before begins after ended (Q := fun b result => ∃ response,
        result = .response response ∧ Informed e (SeenBetween k S₀ S) r b response) fun b => by
          rw [asked]
          exact info_keeps hx salt path get
    have known {a : Account} (lets : r.Authenticates e k S₀.committed a) :
        a ∈ b.accounts ∧ r.Names a :=
      (authenticates_iff storable inOrder.named).mp (committed ▸ lets)
    refine ⟨response, rfl, ?_⟩
    cases informed with
    | refused hf unknown =>
      exact ⟨fun ok => absurd (hf.symm.trans ok) Bool.false_ne_true,
        fun a lets => absurd ⟨a, known lets⟩ unknown⟩
    | expired limited label =>
      exact ⟨fun ok => absurd ((Http.isSuccess_refusal _).symm.trans ok) Bool.false_ne_true,
        fun _ _ => .inl ⟨limited, label, rfl⟩⟩
    | told hr hs found names same =>
      obtain ⟨storable, S₁, way, committed⟩ := hs
      have adds := hr.adds found
      have informs : Informs e k S₁.committed r _ _ :=
        ⟨names, committed ▸ shows_of_found storable found, adds, Wire.Info.adds_ofStatement adds,
          rfl⟩
      refine ⟨fun _ => ⟨S₁, _, way, informs⟩, fun a lets => ?_⟩
      obtain ⟨ha, namesIt⟩ := known lets
      exact .inr ⟨S₁, _, way, same a ha namesIt, informs⟩

end Runs

/-- Somebody registers, and asks for a statement by a command and by a request to the server. -/
def aliceDeed : Option Bool → Deed
  | none => .command (.register "alice" "secret" (.replicate 7))
  | some false => .command (.statement 1)
  | some true => .request (.replicate 7) (Http.infoRequest ⟨"alice", "secret"⟩)

/-- The account is made, and the command is told of it before the request begins. -/
theorem exists_aliceRun (x : Extractors) :
    ∃ log₀ log S₀ S told a, a ∈ (S₀.committed : Books).accounts ∧ a.id = 1 ∧
      (Http.infoRequest ⟨"alice", "secret"⟩).Names a ∧
      Shared.TimedRun Backend.memory.keeper (Limited {} aliceDeed)
        (sharing x {} .memory default aliceDeed) log₀ S₀ ∧
      (∀ i, S₀.client (some i) = some ((aliceDeed (some i)).exchange x {})) ∧
      Shared.TimedRun Backend.memory.keeper (Limited {} aliceDeed) S₀ log S ∧ S.lock = none ∧
      S.client (some false) = some (.done (.outcome (.ok (.statement told)))) ∧
      S.client (some true) = some ((aliceDeed (some true)).exchange x {}) := by
  have hname : normalizeUsername "alice" = .ok (canonicalUsername "alice") :=
    normalizeUsername_of_fits (by decide +kernel)
  have accepted := Engine.newAccount?_of_accepted {} (.replicate 7) hname
    (if_neg (by decide) : validatePassword "secret" = .ok ())
  let new : NewAccount :=
    ⟨canonicalUsername "alice", hashPassword (.replicate 7) "secret", ({} : Engine).initialBalance⟩
  let register : Exchange (Except Error Outcome) :=
    Engine.perform.wrap .account (inUnit .register none (Engine.insertNew new))
  let start : Shared (Option Bool) Books Deed.Result :=
    { committed := {},
      client := fun i => some (match i with
        | none => register >>= fun o => pure (.outcome o)
        | some i => (aliceDeed (some i)).exchange x {}) }
  have opened : sharing x {} .memory default aliceDeed = start := by
    refine congrArg (Shared.mk _ _ _) (funext fun i => ?_)
    cases i with
    | some => rfl
    | none =>
      exact congrArg (fun d => some (Engine.perform.wrap .account d >>= _))
        (Engine.register_of_accepted accepted)
  have here {log : List (Option Bool × Ending)} {S : Shared (Option Bool) Books Deed.Result}
      (_ : Shared.TimedRun Backend.memory.keeper (Limited {} aliceDeed) start log S) :
      Shared.TimedRun Backend.memory.keeper (Limited {} aliceDeed) S [] S := .refl
  have begun := (here .refl).step (.call (i := none) default rfl rfl)
  have looked := begun.step (.call (i := none) default rfl rfl)
  have made := looked.step (.call (i := none) default rfl rfl)
  have registered := made.step (.call (i := none) default rfl rfl)
  have begun := (here registered).step (.call (i := some false) default rfl rfl)
  have found := begun.step (.call (i := some false) default rfl rfl)
  have owned := found.step (.call (i := some false) default rfl rfl)
  have listed := owned.step (.call (i := some false) default rfl rfl)
  have told := listed.step
    (.call (i := some false) (c := .commit) default (by with_unfolding_all rfl) rfl)
  rw [opened]
  exact ⟨_, _, _, _, _, new.toAccount 1 default, List.mem_cons_self .., rfl,
    ⟨⟨"alice", "secret"⟩, Http.Request.brings_basicHeader (by decide) rfl, by decide, by decide,
      rfl, verifyPassword_hashPassword _ _⟩, registered, fun _ => rfl, told, rfl,
    by with_unfolding_all rfl, rfl⟩

/-- Somebody is registered and then told by both. -/
theorem statement_snapshot_alice :
    let x : Extractors := .standard
    let e : Engine := {}
    let k : Backend := .memory
    let start := sharing x e k default aliceDeed
    e.initialBalance ≤ maxCoins ∧ x.Lawful ∧ ∃ log₀ log S₀ S told response,
      Shared.TimedRun k.keeper (Limited e aliceDeed) start log₀ S₀ ∧
      Shared.TimedRun k.keeper (Limited e aliceDeed) S₀ log S ∧
      S.client (some false) = some (.done (.outcome (.ok (.statement told)))) ∧
      (∃ S₁, Shared.OnTheWay k.keeper S₀ S S₁ ∧ Shows e k S₁.committed 1 told ∧
        told.Adds e.initialBalance) ∧
      S.client (some true) = some (.done (.response response)) ∧
      ∃ S₁ s, Shared.OnTheWay k.keeper S₀ S S₁ ∧ s.account.id = 1 ∧
        Informs e k S₁.committed (Http.infoRequest ⟨"alice", "secret"⟩) s response := by
  intro x e k start
  have hm : e.initialBalance ≤ maxCoins := show defaultGrant ≤ maxCoins by decide
  have hx : x.Lawful := Http.standard_lawful
  obtain ⟨log₀, log, S₀, S₁, told, a, known, one, names, before, begins, between, unlocked, stated,
    waiting⟩ := exists_aliceRun x
  obtain ⟨b, orderly⟩ := sharing_orderly hm hx before
  have lets : (Http.infoRequest ⟨"alice", "secret"⟩).Authenticates e k S₀.committed a := by
    have committed : S₀.committed = Backend.memory.hold none b := orderly.committed
    rw [committed] at known ⊢
    exact (authenticates_iff orderly.storable (orderly.rely none).2.1.named).mpr ⟨known, names⟩
  obtain ⟨b₁, orderly₁⟩ := sharing_orderly hm hx (before.trans between)
  obtain ⟨_, S, result, -, asked, ended, -, others, -⟩ :=
    orderly₁.exists_end (fun _ _ hc => sharing_admits (fun _ => trivial) hc) (.inl unlocked) waiting
  have after := between.trans (asked.mono fun _ h => h.elim)
  have stated := (others (some false) (by decide)).trans stated
  have path : Http.Route.ofPath? (Http.infoRequest ⟨"alice", "secret"⟩).path =
      some (.member .info) := by
    show Http.Route.ofPath? "/api/info" = _
    decide +kernel
  have commanded := (statement_snapshot hm hx before (begins false) after stated).1 1 rfl
  obtain ⟨response, rfl, -, informed⟩ :=
    (statement_snapshot hm hx before (begins true) after ended).2 _ _ rfl path rfl
  refine ⟨hm, hx, _, _, S₀, S, told, response, before, after, stated, ?_, ended, ?_⟩
  · obtain ⟨limited, -⟩ | ⟨S₁, way, ⟨h, -⟩ | ⟨s, h, shows, adds⟩⟩ := commanded
    · exact absurd rfl limited
    · cases h
    · cases h
      exact ⟨S₁, way, shows, adds⟩
  · obtain ⟨limited, -⟩ | informs := informed a lets
    · exact absurd rfl limited
    · exact one ▸ informs

end Scrip
