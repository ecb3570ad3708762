import Scrip.Proofs.Json.Shape
import Scrip.Wire.Read

/-!
# Messages, written and read

Every message is read from its own text and from each of its other spellings: members in another
order or among others, the list of the members, and an item that is left out or null. What is read
from a text is a message that can be written, so that to write it and read it again changes
nothing (`messages_round_trip`).

* `Codec`: how a kind of value is written and read, and how it may be spelled;
* `Kind`: the kinds of messages.
-/

namespace Scrip.Wire

open Json

variable {α β γ : Type}

theorem forall_mem_some {P : α → Prop} {a : α} (h : P a) : ∀ b ∈ some a, P b :=
  fun _ hb => Option.some.inj hb ▸ h

/-- How a kind of value is written and read. -/
structure Codec (α : Type) where
  read : Reader α
  toJson : α → Text
  /-- Whether all whole numbers in a value fit 64 bits. -/
  Fits : α → Prop
  /-- Whether a text stands for a value: its members may be in any order and among others, or in a
  list, and an item that is absent may be null. -/
  Spells : α → Text → Prop

namespace Codec

/-- A value is spelled by what is written, every spelling of a value that fits is read as it, and
only values that fit are read. -/
structure Lawful (c : Codec α) : Prop where
  plain : ∀ a, c.Spells a (c.toJson a)
  reads : ∀ {a t}, c.Fits a → c.Spells a t → Reads c.read t a
  fits : ∀ {cs a rest}, c.read cs = .ok (a, rest) → c.Fits a

/-! ## Values -/

/-- Strings. -/
def string : Codec String where
  read := readString
  toJson := Json.string
  Fits _ := True
  Spells s t := t = Json.string s

/-- Whole numbers of 64 bits. -/
def integer : Codec Int where
  read := readInteger
  toJson := Json.integer
  Fits := IsWord
  Spells n t := t = Json.integer n

/-- Lists of values of a kind. -/
def list (c : Codec α) : Codec (List α) where
  read := readList c.read
  toJson as := Json.array (as.map c.toJson)
  Fits as := ∀ a ∈ as, c.Fits a
  Spells as t := ∃ ts, List.Forall₂ c.Spells as ts ∧ t = Json.array ts

theorem lawful_string : string.Lawful where
  plain _ := rfl
  reads := by
    rintro s t - rfl
    exact reads_string s
  fits _ := trivial

theorem lawful_integer : integer.Lawful where
  plain _ := rfl
  reads := by
    rintro n t fits rfl
    exact reads_integer fits
  fits := isWord_of_readInteger

theorem lawful_list {c : Codec α} (h : c.Lawful) : c.list.Lawful where
  plain as := ⟨as.map c.toJson, List.forall₂_map_right_iff.mpr
    (List.forall₂_same.mpr fun a _ => h.plain a), rfl⟩
  reads := by
    rintro as t fits ⟨ts, spells, rfl⟩
    refine reads_array (List.Forall₂.flip ?_)
    exact ((List.forall₂_and_left _ _).mpr ⟨fits, spells⟩).imp fun _ _ h' => h.reads h'.1 h'.2
  fits read := forall_mem_of_readList h.fits read

/-! ## Records of two members -/

/-- Records of two required members. -/
def pair (first : String) (c : Codec α) (second : String) (d : Codec β) (make : α → β → γ)
    (left : γ → α) (right : γ → β) : Codec γ where
  read := readFields (.pair first c.read second d.read make)
  toJson m := Json.object [(first, c.toJson (left m)), (second, d.toJson (right m))]
  Fits m := c.Fits (left m) ∧ d.Fits (right m)
  Spells m t := ∃ u v, c.Spells (left m) u ∧ d.Spells (right m) v ∧
    Record [first, second] [(first, u), (second, v)] t

theorem lawful_pair {first second : String} (differ : first ≠ second) {c : Codec α} {d : Codec β}
    (hc : c.Lawful) (hd : d.Lawful) {make : α → β → γ} {left : γ → α} {right : γ → β}
    (hm : ∀ m, make (left m) (right m) = m) (hl : ∀ a b, left (make a b) = a)
    (hr : ∀ a b, right (make a b) = b) :
    (pair first c second d make left right).Lawful where
  plain m := ⟨_, _, hc.plain _, hd.plain _, .plain _ _⟩
  reads := by
    rintro m t ⟨fits, fits'⟩ ⟨u, v, spells, spells', record⟩
    let slots : List (Slot (Option α × Option β)) := [
      ⟨.required first (·.1) (fun x a => (some a, x.2)) c.read, u, fun x => (some (left m), x.2)⟩,
      ⟨.required second (·.2) (fun x b => (x.1, some b)) d.read, v, fun x => (x.1, some (right m))⟩]
    have filled : (Shape.pair first c.read second d.read make).Filled slots m := {
      distinct := show [first, second].Nodup by simpa using differ
      unset := List.forall_mem_cons.mpr ⟨rfl, List.forall_mem_singleton.mpr rfl⟩
      present := ⟨[], rfl, List.forall_mem_nil _⟩
      fills := List.forall_mem_cons.mpr ⟨fills_required (hc.reads fits spells),
        List.forall_mem_singleton.mpr (fills_required (hd.reads fits' spells'))⟩
      apart := List.pairwise_pair.mpr ⟨fun _ => rfl, fun _ => rfl, fun _ => rfl⟩
      finish := congrArg some (hm m) }
    exact reads_record filled record
  fits := by
    intro cs m rest read
    let Keeps (x : Option α × Option β) : Prop := (∀ a ∈ x.1, c.Fits a) ∧ ∀ b ∈ x.2, d.Fits b
    have empty : Keeps (none, none) := ⟨fun _ h => (nomatch h), fun _ h => (nomatch h)⟩
    refine of_readFields (I := Keeps) empty ?_ ?_ read
    · refine List.forall_mem_cons.mpr ⟨?_, List.forall_mem_singleton.mpr ?_⟩
      · exact keeps_required fun got _ keeps => ⟨forall_mem_some (hc.fits got), keeps.2⟩
      · exact keeps_required fun got _ keeps => ⟨keeps.1, forall_mem_some (hd.fits got)⟩
    · rintro ⟨_ | a, _ | b⟩ m keeps h <;> cases h
      exact ⟨(hl a b).symm ▸ keeps.1 a rfl, (hr a b).symm ▸ keeps.2 b rfl⟩

/-! ## Coins that went out -/

/-- Coins that went out. Without an item, its member is left out or null. -/
def sent : Codec Sent where
  read := Sent.read
  toJson := Sent.toJson
  Fits m := IsWord m.amount
  Spells m t := ∃ item, (item = (m.item.map fun item => ("item", Json.string item)).toList ∨
      m.item = none ∧ item = [("item", null)]) ∧
    Record ["toUser", "amount", "item"]
      ([("toUser", Json.string m.toUser), ("amount", Json.integer m.amount)] ++ item) t

/-- The fields of coins that went out, up to the item. -/
def sentSlots (m : Sent) : List (Slot SentDraft) := [
  ⟨.required "toUser" (·.toUser) (fun x toUser => { x with toUser := toUser }) readString,
    Json.string m.toUser, fun x => { x with toUser := m.toUser }⟩,
  ⟨.required "amount" (·.amount) (fun x amount => { x with amount := amount }) readInteger,
    Json.integer m.amount, fun x => { x with amount := m.amount }⟩]

/-- The field of an item, as if it had to be there. -/
def itemField : Json.Field SentDraft :=
  .required "item" (·.item) (fun x item => { x with item := some item }) (readOption readString)

/-- The field of an item that may be absent. -/
def itemSlot (item : Option String) : Slot SentDraft where
  field := { itemField with mayLack := true }
  text := item.elim null Json.string
  fill x := { x with item := some item }

theorem fills_sentSlots {m : Sent} (h : IsWord m.amount) : ∀ s ∈ sentSlots m, s.Fills :=
  List.forall_mem_cons.mpr ⟨fills_required (reads_string m.toUser),
    List.forall_mem_singleton.mpr (fills_required (reads_integer h))⟩

theorem fills_itemSlot (item : Option String) : (itemSlot item).Fills := by
  have read : Reads (readOption readString) (item.elim null Json.string) item := by
    cases item with
    | none => exact reads_null
    | some item => exact reads_some (reads_string item) (by simp [Json.string])
  have fills : (⟨itemField, (itemSlot item).text, (itemSlot item).fill⟩ : Slot SentDraft).Fills :=
    fills_required read
  exact fills

theorem apart_sentSlots (m : Sent) : (sentSlots m).Pairwise Slot.Apart :=
  List.pairwise_pair.mpr ⟨fun _ => rfl, fun _ => rfl, fun _ => rfl⟩

theorem apart_itemSlot (m : Sent) (item : Option String) :
    (sentSlots m ++ [itemSlot item]).Pairwise Slot.Apart := by
  refine List.pairwise_append.mpr ⟨apart_sentSlots m, List.pairwise_singleton _ _, ?_⟩
  refine List.forall_mem_cons.mpr ⟨?_, List.forall_mem_singleton.mpr ?_⟩ <;>
    exact List.forall_mem_singleton.mpr ⟨fun _ => rfl, fun _ => rfl, fun _ => rfl⟩

theorem distinct_sent : (Sent.shape.fields.map (·.name)).Nodup := by
  show ["toUser", "amount", "item"].Nodup
  decide

theorem unset_sent : ∀ f ∈ Sent.shape.fields, f.isSet Sent.shape.empty = false :=
  List.forall_mem_cons.mpr ⟨rfl, List.forall_mem_cons.mpr ⟨rfl, List.forall_mem_singleton.mpr rfl⟩⟩

/-- Coins that went out, without their item. -/
theorem filled_sentSlots {m : Sent} (h : IsWord m.amount) (none : m.item = none) :
    Sent.shape.Filled (sentSlots m) m where
  distinct := distinct_sent
  unset := unset_sent
  present := ⟨[(itemSlot m.item).field], rfl, List.forall_mem_singleton.mpr rfl⟩
  fills := fills_sentSlots h
  apart := apart_sentSlots m
  finish := by
    obtain ⟨toUser, amount, item⟩ := m
    subst none
    rfl

/-- Coins that went out, with their item. -/
theorem filled_itemSlot {m : Sent} (h : IsWord m.amount) :
    Sent.shape.Filled (sentSlots m ++ [itemSlot m.item]) m where
  distinct := distinct_sent
  unset := unset_sent
  present := ⟨[], rfl, List.forall_mem_nil _⟩
  fills := List.forall_mem_append.mpr
    ⟨fills_sentSlots h, List.forall_mem_singleton.mpr (fills_itemSlot m.item)⟩
  apart := apart_itemSlot m m.item
  finish := rfl

theorem lawful_sent : sent.Lawful where
  plain m := ⟨_, .inl rfl, .plain _ _⟩
  reads := by
    rintro m t fits ⟨members, spells, record⟩
    rcases spells with rfl | ⟨absent, rfl⟩
    · cases hi : m.item with
      | none =>
        rw [hi] at record
        exact reads_record (filled_sentSlots fits hi) record
      | some item =>
        have filled := filled_itemSlot fits
        rw [hi] at record filled
        exact reads_record filled record
    · have filled := filled_itemSlot fits
      rw [absent] at filled
      exact reads_record filled record
  fits := by
    intro cs m rest read
    let Keeps (x : SentDraft) : Prop := ∀ n ∈ x.amount, IsWord n
    have empty : Keeps {} := fun _ h => nomatch h
    refine of_readFields (I := Keeps) empty ?_ ?_ read
    · refine List.forall_mem_cons.mpr ⟨?_, List.forall_mem_cons.mpr ⟨?_,
        List.forall_mem_singleton.mpr ?_⟩⟩
      · refine keeps_required (I := Keeps) ?_
        exact fun _ _ keeps => keeps
      · exact keeps_required fun got _ _ => forall_mem_some (isWord_of_readInteger got)
      · intro x cs x' rest keeps read
        have read : itemField.read x cs = .ok (x', rest) := read
        refine keeps_required (I := Keeps) ?_ keeps read
        exact fun _ _ keeps => keeps
    · rintro ⟨_ | toUser, _ | amount, item⟩ m keeps h <;> cases h
      exact keeps amount rfl

/-! ## The other messages -/

/-- A name and password. -/
def signIn : Codec SignIn :=
  pair "username" string "password" string .mk (·.username) (·.password)

/-- The account that signed in. -/
def signedIn : Codec SignedIn :=
  pair "username" string "coins" integer .mk (·.username) (·.coins)

/-- An owned kind of item. -/
def owned : Codec Owned :=
  pair "type" string "quantity" integer .mk (·.kind) (·.quantity)

/-- Coins that came in. -/
def received : Codec Received :=
  pair "fromUser" string "amount" integer .mk (·.fromUser) (·.amount)

/-- Coins that came in and went out. -/
def coinHistory : Codec CoinHistory :=
  pair "received" received.list "sent" sent.list .mk (·.received) (·.sent)

/-- A wish to send coins. -/
def sendCoins : Codec SendCoins :=
  pair "toUser" string "amount" integer .mk (·.toUser) (·.amount)

/-- An item on offer. -/
def offer : Codec Offer :=
  pair "name" string "price" integer .mk (·.name) (·.price)

/-- All that an account holder is told. -/
def info : Codec Info where
  read := Info.read
  toJson := Info.toJson
  Fits m := IsWord m.coins ∧ owned.list.Fits m.inventory ∧ coinHistory.Fits m.coinHistory
  Spells m t := ∃ u v, owned.list.Spells m.inventory u ∧ coinHistory.Spells m.coinHistory v ∧
    Record ["coins", "inventory", "coinHistory"]
      [("coins", Json.integer m.coins), ("inventory", u), ("coinHistory", v)] t

/-- Why a request was refused. -/
def refusal : Codec Refusal where
  read := Refusal.read
  toJson := Refusal.toJson
  Fits _ := True
  Spells m t := Record ["errors"] [("errors", Json.string m.errors)] t

/-- A kind of entry: its name, or an object with the name and no value. -/
def entryKind : Codec EntryKind where
  read := readKind
  toJson := EntryKind.toJson
  Fits _ := True
  Spells k t := t = Json.string k.name ∨ t = Json.object [(k.name, null)]

theorem lawful_owned : owned.Lawful :=
  lawful_pair (by decide) lawful_string lawful_integer (fun _ => rfl) (fun _ _ => rfl)
    fun _ _ => rfl

theorem lawful_coinHistory : coinHistory.Lawful := by
  have received : received.Lawful := lawful_pair (by decide) lawful_string lawful_integer
    (fun _ => rfl) (fun _ _ => rfl) fun _ _ => rfl
  exact lawful_pair (by decide) (lawful_list received) (lawful_list lawful_sent) (fun _ => rfl)
    (fun _ _ => rfl) fun _ _ => rfl

theorem lawful_info : info.Lawful where
  plain m := ⟨_, _, (lawful_list lawful_owned).plain _, lawful_coinHistory.plain _, .plain _ _⟩
  reads := by
    rintro m t ⟨word, fits, fits'⟩ ⟨u, v, spells, spells', record⟩
    let slots : List (Slot InfoDraft) := [
      ⟨.required "coins" (·.coins) (fun x coins => { x with coins := coins }) readInteger,
        Json.integer m.coins, fun x => { x with coins := m.coins }⟩,
      ⟨.required "inventory" (·.inventory) (fun x inventory => { x with inventory := inventory })
        (readList Owned.read), u, fun x => { x with inventory := m.inventory }⟩,
      ⟨.required "coinHistory" (·.coinHistory) (fun x history => { x with coinHistory := history })
        CoinHistory.read, v, fun x => { x with coinHistory := m.coinHistory }⟩]
    have fills : ∀ s ∈ slots, s.Fills :=
      List.forall_mem_cons.mpr ⟨fills_required (reads_integer word),
        List.forall_mem_cons.mpr ⟨fills_required ((lawful_list lawful_owned).reads fits spells),
          List.forall_mem_singleton.mpr (fills_required (lawful_coinHistory.reads fits' spells'))⟩⟩
    have apart : slots.Pairwise Slot.Apart := by
      refine List.pairwise_cons.mpr ⟨?_, List.pairwise_pair.mpr
        ⟨fun _ => rfl, fun _ => rfl, fun _ => rfl⟩⟩
      refine List.forall_mem_cons.mpr ⟨?_, List.forall_mem_singleton.mpr ?_⟩ <;>
        exact ⟨fun _ => rfl, fun _ => rfl, fun _ => rfl⟩
    have filled : Info.shape.Filled slots m := {
      distinct := show ["coins", "inventory", "coinHistory"].Nodup by decide
      unset := List.forall_mem_cons.mpr
        ⟨rfl, List.forall_mem_cons.mpr ⟨rfl, List.forall_mem_singleton.mpr rfl⟩⟩
      present := ⟨[], rfl, List.forall_mem_nil _⟩
      fills := fills
      apart := apart
      finish := rfl }
    exact reads_record filled record
  fits := by
    intro cs m rest read
    let Keeps (x : InfoDraft) : Prop := (∀ n ∈ x.coins, IsWord n) ∧
      (∀ os ∈ x.inventory, owned.list.Fits os) ∧ ∀ h ∈ x.coinHistory, coinHistory.Fits h
    have empty : Keeps {} :=
      ⟨fun _ h => (nomatch h), fun _ h => (nomatch h), fun _ h => (nomatch h)⟩
    refine of_readFields (I := Keeps) empty ?_ ?_ read
    · refine List.forall_mem_cons.mpr ⟨?_, List.forall_mem_cons.mpr ⟨?_,
        List.forall_mem_singleton.mpr ?_⟩⟩
      · exact keeps_required fun got _ keeps =>
          ⟨forall_mem_some (isWord_of_readInteger got), keeps.2⟩
      · exact keeps_required fun got _ keeps =>
          ⟨keeps.1, forall_mem_some ((lawful_list lawful_owned).fits got), keeps.2.2⟩
      · exact keeps_required fun got _ keeps =>
          ⟨keeps.1, keeps.2.1, forall_mem_some (lawful_coinHistory.fits got)⟩
    · rintro ⟨_ | coins, _ | inventory, _ | history⟩ m keeps h <;> cases h
      exact ⟨keeps.1 coins rfl, keeps.2.1 inventory rfl, keeps.2.2 history rfl⟩

theorem lawful_refusal : refusal.Lawful where
  plain _ := .plain _ _
  reads := by
    rintro m t - record
    let slots : List (Slot (Option String)) := [
      ⟨.required "errors" id (fun _ errors => some errors) readString, Json.string m.errors,
        fun _ => some m.errors⟩]
    have filled : Refusal.shape.Filled slots m := {
      distinct := show ["errors"].Nodup by decide
      unset := List.forall_mem_singleton.mpr rfl
      present := ⟨[], rfl, List.forall_mem_nil _⟩
      fills := List.forall_mem_singleton.mpr (fills_required (reads_string m.errors))
      apart := List.pairwise_singleton _ _
      finish := rfl }
    exact reads_record filled record
  fits _ := trivial

theorem kindOf_name (k : EntryKind) (rest : List Char) : kindOf k.name rest = .ok (k, rest) := by
  cases k <;> rfl

theorem lawful_entryKind : entryKind.Lawful where
  plain _ := .inl rfl
  reads := by
    rintro k t - (rfl | rfl)
    · refine ⟨begins_string _, fun rest _ => ?_⟩
      show readKind (Json.string k.name ++ rest) = _
      rw [readKind, (begins_string _).skipSpace, string_append]
      exact bind_eq_ok.mpr ⟨_, stringBody_escape _ _, kindOf_name k rest⟩
    · refine ⟨⟨'{', _, rfl, by decide, by decide⟩, fun rest _ => ?_⟩
      have text : Json.object [(k.name, null)] ++ rest =
          '{' :: (Json.string k.name ++ ':' :: 'n' :: 'u' :: 'l' :: 'l' :: '}' :: rest) := by
        simp [Json.object, member, null, List.intercalate]
      show readKind (Json.object [(k.name, null)] ++ rest) = _
      rw [text, readKind, skipSpace_cons (show isSpace '{' = false from rfl)]
      exact bind_eq_ok.mpr ⟨_, readString_string _ _, bind_eq_ok.mpr ⟨_, kindOf_name k _, rfl⟩⟩
  fits _ := trivial

end Codec

/-! ## All messages -/

/-- The kinds of messages. -/
inductive Kind where
  | signIn
  | signedIn
  | info
  | owned
  | coinHistory
  | received
  | sent
  | sendCoins
  | offer
  | refusal
  | entryKind
  deriving DecidableEq, Repr

namespace Kind

/-- The messages of a kind. -/
def Message : Kind → Type
  | signIn => SignIn
  | signedIn => SignedIn
  | info => Info
  | owned => Owned
  | coinHistory => CoinHistory
  | received => Received
  | sent => Sent
  | sendCoins => SendCoins
  | offer => Offer
  | refusal => Refusal
  | entryKind => EntryKind

/-- How messages of a kind are read. -/
def read : (k : Kind) → Reader k.Message
  | signIn => SignIn.read
  | signedIn => SignedIn.read
  | info => Info.read
  | owned => Owned.read
  | coinHistory => CoinHistory.read
  | received => Received.read
  | sent => Sent.read
  | sendCoins => SendCoins.read
  | offer => Offer.read
  | refusal => Refusal.read
  | entryKind => readKind

/-- How messages of a kind are written. -/
def toJson : (k : Kind) → k.Message → Text
  | signIn => SignIn.toJson
  | signedIn => SignedIn.toJson
  | info => Info.toJson
  | owned => Owned.toJson
  | coinHistory => CoinHistory.toJson
  | received => Received.toJson
  | sent => Sent.toJson
  | sendCoins => SendCoins.toJson
  | offer => Offer.toJson
  | refusal => Refusal.toJson
  | entryKind => EntryKind.toJson

/-- What is known of the messages of a kind. -/
def codec : (k : Kind) → Codec k.Message
  | signIn => Codec.signIn
  | signedIn => Codec.signedIn
  | info => Codec.info
  | owned => Codec.owned
  | coinHistory => Codec.coinHistory
  | received => Codec.received
  | sent => Codec.sent
  | sendCoins => Codec.sendCoins
  | offer => Codec.offer
  | refusal => Codec.refusal
  | entryKind => Codec.entryKind

theorem codec_read (k : Kind) : k.codec.read = k.read := by
  cases k <;> rfl

theorem codec_toJson (k : Kind) : k.codec.toJson = k.toJson := by
  cases k <;> rfl

theorem lawful_codec (k : Kind) : k.codec.Lawful := by
  open Codec in
  cases k with
  | info => exact lawful_info
  | coinHistory => exact lawful_coinHistory
  | sent => exact lawful_sent
  | refusal => exact lawful_refusal
  | entryKind => exact lawful_entryKind
  | owned => exact lawful_owned
  | signIn =>
    exact lawful_pair (by decide) lawful_string lawful_string (fun _ => rfl) (fun _ _ => rfl)
      fun _ _ => rfl
  | signedIn | received | sendCoins | offer =>
    exact lawful_pair (by decide) lawful_string lawful_integer (fun _ => rfl) (fun _ _ => rfl)
      fun _ _ => rfl

/-- The text of a message. -/
def print (k : Kind) (m : k.Message) : String :=
  String.ofList (k.toJson m)

/-- A text read as a message of a kind and written again. -/
def normal (k : Kind) (text : String) : Except Flaw String :=
  (ofText k.read text).map k.print

/-- Every spelling of a message is read as it. -/
theorem ofText_spelled {k : Kind} {m : k.Message} {t : Text} (fits : k.codec.Fits m)
    (spells : k.codec.Spells m t) : ofText k.read (String.ofList t) = .ok m := by
  have read := (k.lawful_codec.reads fits spells).read [] stops_nil
  rw [List.append_nil, k.codec_read] at read
  rw [ofText, String.toList_ofList, readAll, read]
  rfl

/-- What is written is read again. -/
theorem ofText_print {k : Kind} {m : k.Message} (fits : k.codec.Fits m) :
    ofText k.read (k.print m) = .ok m :=
  ofText_spelled fits (k.codec_toJson ▸ k.lawful_codec.plain m)

/-- What is read fits what can be written. -/
theorem fits_of_ofText {k : Kind} {m : k.Message} {text : String}
    (h : ofText k.read text = .ok m) : k.codec.Fits m := by
  obtain ⟨⟨m', rest⟩, read, h⟩ := bind_eq_ok.mp h
  rw [← k.codec_read] at read
  dsimp only at h
  split at h
  · cases h
    exact k.lawful_codec.fits read
  · cases h

end Kind

/-- A message that fits its text is read from what is written of it. What is read from any text
fits, and is read again from what is written of it, so that to write what was read changes a text
once at most. All spellings of a message are written alike. -/
theorem messages_round_trip (k : Kind) :
    (∀ m, k.codec.Fits m → ofText k.read (k.print m) = .ok m) ∧
    (∀ text m, ofText k.read text = .ok m →
      k.codec.Fits m ∧ ofText k.read (k.print m) = .ok m) ∧
    (∀ text text', k.normal text = .ok text' → k.normal text' = .ok text') ∧
    ∀ m t, k.codec.Fits m → k.codec.Spells m t → k.normal (String.ofList t) = .ok (k.print m) := by
  refine ⟨fun m => Kind.ofText_print, fun text m read => ?_, fun text text' normal => ?_,
    fun m t fits spells => ?_⟩
  · exact ⟨Kind.fits_of_ofText read, Kind.ofText_print (Kind.fits_of_ofText read)⟩
  · cases read : ofText k.read text with
    | error flaw =>
      rw [Kind.normal, read] at normal
      cases normal
    | ok m =>
      rw [Kind.normal, read] at normal
      cases normal
      rw [Kind.normal, Kind.ofText_print (Kind.fits_of_ofText read)]
      rfl
  · rw [Kind.normal, Kind.ofText_spelled fits spells]
    rfl

/-- Coins that went out, told in another order, with a note and with an item that is null. -/
theorem messages_round_trip_sent :
    let m : Sent := ⟨"a\"\\\n\x01😀", -9223372036854775808, none⟩
    let note := array [Json.object [("at", Json.string "/")], Json.integer 3]
    let told := Json.object [("note", note), ("item", null), ("amount", Json.integer m.amount),
      ("toUser", Json.string m.toUser)]
    Kind.sent.codec.Fits m ∧ Kind.sent.codec.Spells m told ∧
      Kind.sent.normal (String.ofList told) = .ok (Kind.sent.print m) ∧
      ofText Kind.sent.read (Kind.sent.print m) = .ok m := by
  intro m note told
  obtain ⟨written, -, -, spelled⟩ := messages_round_trip .sent
  have fits : Kind.sent.codec.Fits m := ⟨by decide, by decide⟩
  have value : IsValue note := by
    refine .array _ (List.forall_mem_cons.mpr ⟨?_, List.forall_mem_singleton.mpr ?_⟩)
    · exact .object _ (List.forall_mem_singleton.mpr (.string "/"))
    · exact .number ⟨[], 3, [], [], .inl rfl, .inl rfl, .inl rfl, rfl⟩
  have other : ("note", note).1 ∉ ["toUser", "amount", "item"] := by decide
  let members := [("toUser", Json.string m.toUser), ("amount", Json.integer m.amount),
    ("item", null)]
  have spells : Kind.sent.codec.Spells m told :=
    ⟨_, .inr ⟨rfl, rfl⟩, .object (List.forall_mem_singleton.mpr ⟨other, value⟩)
      (List.reverse_perm (members ++ [("note", note)]))⟩
  exact ⟨fits, spells, spelled m told fits spells, written m fits⟩

end Scrip.Wire
