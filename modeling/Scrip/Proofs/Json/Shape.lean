import Mathlib.Data.List.Forall2
import Mathlib.Data.List.Nodup
import Mathlib.Data.List.Perm.Basic
import Scrip.Json.Shape
import Scrip.Proofs.Json.Skip

/-!
# Lists and objects, written and read

A list is read from the texts of its elements (`reads_array`). A value of a shape is read from the
texts of its members, in whatever order and among whatever others they stand, and also from their
list (`reads_record`).

* `Record`: the texts that a value with some members has;
* `Entry`: one member of an object, and what it does to a draft.
-/

namespace Scrip.Json

variable {α β δ : Type}

theorem bind_eq_ok {x : Except Flaw α} {f : α → Except Flaw β} {b : β} :
    (x >>= f) = .ok b ↔ ∃ a, x = .ok a ∧ f a = .ok b := by
  cases x with
  | error flaw => exact ⟨nofun, fun ⟨_, h, _⟩ => nomatch h⟩
  | ok a => exact ⟨fun h => ⟨a, rfl, h⟩, fun ⟨_, ha, h⟩ => Except.ok.inj ha ▸ h⟩

/-! ## Lists -/

/-- The next of the pieces between commas. -/
theorem nextElement_listed (first : Bool) {t : Text} (h : Begins t) (ts : List Text)
    (rest : List Char) :
    nextElement first (listed first (t :: ts) ++ rest) =
      .ok (true, t ++ (listed false ts ++ rest)) := by
  obtain ⟨c, cs, rfl, space, close⟩ := h
  cases first with
  | true =>
    rw [listed, List.append_assoc, List.cons_append, nextElement, skipSpace_cons space]
    split
    · next h => cases h
    · next h => exact absurd (List.cons.inj h).1 close
    · next h =>
      cases h
      rfl
  | false =>
    rw [listed, List.cons_append, List.cons_append, List.append_assoc, List.cons_append,
      nextElement, skipSpace_cons (show isSpace ',' = false from rfl)]
    split
    · next h => cases h
    · next h => exact absurd (List.cons.inj h).1 (by decide)
    · next h =>
      cases h
      rw [if_neg Bool.false_ne_true, if_pos rfl, skipSpace_cons space]
      -- what comes after the comma is no closing bracket
      split
      · next h => cases h
      · next h => exact absurd (List.cons.inj h).1 close
      · rfl

theorem nextElement_close (first : Bool) (rest : List Char) :
    nextElement first (']' :: rest) = .ok (false, ']' :: rest) :=
  rfl

theorem stops_listed_list (ts : List Text) (rest : List Char) :
    Stops (listed false ts ++ ']' :: rest) :=
  stops_listed ts .list rest

/-- Elements up to the bracket that closes their list. -/
theorem readItems_listed {r : Reader α} {ts : List Text} {as : List α}
    (h : List.Forall₂ (Reads r) ts as) {fuel : Nat} (enough : ts.length < fuel) (first : Bool)
    (rest : List Char) :
    readItems r fuel first (listed first ts ++ ']' :: rest) = .ok (as, rest) := by
  obtain ⟨fuel, rfl⟩ := Nat.exists_eq_add_one_of_ne_zero (Nat.ne_zero_of_lt enough)
  induction h generalizing fuel first with
  | nil =>
    rw [listed, List.nil_append]
    rfl
  | @cons t a ts as head tail ih =>
    obtain ⟨fuel, rfl⟩ := Nat.exists_eq_add_one_of_ne_zero
      (Nat.ne_zero_of_lt (Nat.lt_of_succ_lt_succ enough))
    have read := head.read _ (stops_listed_list ts rest)
    have others := ih false fuel (Nat.lt_of_succ_lt_succ enough)
    exact bind_eq_ok.mpr ⟨_, nextElement_listed first head.begins _ _,
      bind_eq_ok.mpr ⟨_, read, bind_eq_ok.mpr ⟨_, others, rfl⟩⟩⟩

theorem length_le_listed {ts : List Text} (h : ∀ t ∈ ts, Begins t) (first : Bool) :
    ts.length ≤ (listed first ts).length := by
  induction ts generalizing first with
  | nil => exact Nat.zero_le _
  | cons t ts ih =>
    obtain ⟨head, tail⟩ := List.forall_mem_cons.mp h
    have some := head.length_pos
    have more := ih tail false
    cases first <;> simp only [listed, List.length_cons, List.length_append] <;> omega

/-- A list is read from the texts of its elements. -/
theorem reads_array {r : Reader α} {ts : List Text} {as : List α}
    (h : List.Forall₂ (Reads r) ts as) : Reads (readList r) (array ts) as := by
  have begins : ∀ t ∈ ts, Begins t :=
    ((List.forall₂_and_left _ _).mp (h.imp fun _ _ h => ⟨h.begins, h⟩)).1
  refine ⟨⟨'[', _, rfl, by decide, by decide⟩, fun rest _ => ?_⟩
  have enough : ts.length < (listed true ts ++ ']' :: rest).length + 1 := by
    have := length_le_listed begins true
    rw [List.length_append]
    omega
  rw [array, intercalate_eq_listed, List.append_assoc, List.cons_append, readList,
    skipSpace_cons (show isSpace '[' = false from rfl)]
  exact readItems_listed h enough true rest

/-- What holds of all that a reader gives holds of the elements of a list. -/
theorem forall_mem_of_readItems {r : Reader α} {P : α → Prop}
    (h : ∀ {cs a rest}, r cs = .ok (a, rest) → P a) {fuel : Nat} {first : Bool}
    {cs rest : List Char} {as : List α} (hr : readItems r fuel first cs = .ok (as, rest)) :
    ∀ a ∈ as, P a := by
  induction fuel generalizing first cs as with
  | zero => cases hr
  | succ fuel ih =>
    obtain ⟨⟨more, at?⟩, -, hr⟩ := bind_eq_ok.mp hr
    cases more with
    | false =>
      cases hr
      exact List.forall_mem_nil _
    | true =>
      obtain ⟨⟨a, rest'⟩, head, hr⟩ := bind_eq_ok.mp hr
      obtain ⟨⟨as', rest''⟩, tail, hr⟩ := bind_eq_ok.mp hr
      cases hr
      exact List.forall_mem_cons.mpr ⟨h head, ih tail⟩

theorem forall_mem_of_readList {r : Reader α} {P : α → Prop}
    (h : ∀ {cs a rest}, r cs = .ok (a, rest) → P a) {cs rest : List Char} {as : List α}
    (hr : readList r cs = .ok (as, rest)) : ∀ a ∈ as, P a := by
  unfold readList at hr
  split at hr
  · cases hr
  · exact forall_mem_of_readItems h hr
  · cases hr

/-! ## The absent value -/

theorem reads_null {r : Reader α} : Reads (readOption r) null none :=
  ⟨⟨'n', _, rfl, by decide, by decide⟩, fun _ _ => rfl⟩

/-- A value that does not begin as the absent one does. -/
theorem reads_some {r : Reader α} {t : Text} {a : α} (h : Reads r t a)
    (other : t.head? ≠ some 'n') : Reads (readOption r) t (some a) := by
  refine ⟨h.begins, fun rest hr => ?_⟩
  have read := h.read rest hr
  rw [readOption, h.begins.skipSpace]
  split
  · next rest' heq =>
    obtain ⟨c, cs, rfl, -⟩ := h.begins
    rw [(List.cons.inj heq).1] at other
    exact absurd rfl other
  · rw [read]
    rfl

/-! ## Members -/

/-- The texts of a value that has some members: an object with them in any order, and with others
of any other names, or their list. -/
inductive Record (names : List String) (members : List (String × Text)) : Text → Prop
  | object {extra all : List (String × Text)} (others : ∀ m ∈ extra, m.1 ∉ names ∧ IsValue m.2)
    (order : all.Perm (members ++ extra)) : Record names members (object all)
  | array : Record names members (array (members.map (·.2)))

/-- The members as they are. -/
theorem Record.plain (names : List String) (members : List (String × Text)) :
    Record names members (Json.object members) :=
  .object (List.forall_mem_nil _) (.of_eq (List.append_nil members).symm)

/-- A member as it stands in an object, and what it does to a draft. -/
structure Entry (δ : Type) where
  name : String
  text : Text
  fill : δ → δ

/-- A field, the text that it is read from and what that does to a draft. -/
structure Slot (δ : Type) where
  field : Field δ
  text : Text
  fill : δ → δ

namespace Slot

/-- The text gives the field its value. -/
def Fills (s : Slot δ) : Prop :=
  ∀ d, Reads (s.field.read d) s.text (s.fill d)

/-- Two fields that are set apart from each other. -/
structure Apart (s s' : Slot δ) : Prop where
  commute : ∀ d, s.fill (s'.fill d) = s'.fill (s.fill d)
  left : ∀ d, s'.field.isSet (s.fill d) = s'.field.isSet d
  right : ∀ d, s.field.isSet (s'.fill d) = s.field.isSet d

/-- The field as a member of an object. -/
def entry (s : Slot δ) : Entry δ :=
  ⟨s.field.name, s.text, s.fill⟩

end Slot

namespace Entry

variable {fields : List (Field δ)} {e e' : Entry δ}

/-- A member that no field has. -/
def unknown (m : String × Text) : Entry δ :=
  ⟨m.1, m.2, id⟩

/-- A member as its object has it. -/
def written (e : Entry δ) : String × Text :=
  (e.name, e.text)

/-- The member gives one of the fields its value, or is passed over. -/
inductive Fits (fields : List (Field δ)) : Entry δ → Prop
  | known {s : Slot δ} (mem : s.field ∈ fields) (h : s.Fills) : Fits fields s.entry
  | unknown {m : String × Text} (other : m.1 ∉ fields.map (·.name)) (value : IsValue m.2) :
    Fits fields (unknown m)

/-- The draft does not have the member yet. -/
def Free (fields : List (Field δ)) (e : Entry δ) (d : δ) : Prop :=
  ∀ f ∈ fields, f.name = e.name → f.isSet d = false

/-- Two members do not get in each other's way. -/
structure Apart (fields : List (Field δ)) (e e' : Entry δ) : Prop where
  commute : ∀ d, e.fill (e'.fill d) = e'.fill (e.fill d)
  left : ∀ d, Free fields e' d → Free fields e' (e.fill d)
  right : ∀ d, Free fields e d → Free fields e (e'.fill d)

theorem Apart.symm (h : Apart fields e e') : Apart fields e' e :=
  ⟨fun d => (h.commute d).symm, h.right, h.left⟩

theorem apart_known (distinct : (fields.map (·.name)).Nodup) {s s' : Slot δ}
    (hs : s.field ∈ fields) (hs' : s'.field ∈ fields) (h : s.Apart s') :
    Apart fields s.entry s'.entry where
  commute := h.commute
  left d free f hf same := by
    obtain rfl : f = s'.field := List.inj_on_of_nodup_map distinct hf hs' same
    exact (h.left d).trans (free _ hf same)
  right d free f hf same := by
    obtain rfl : f = s.field := List.inj_on_of_nodup_map distinct hf hs same
    exact (h.right d).trans (free _ hf same)

theorem apart_unknown {m : String × Text} (other : m.1 ∉ fields.map (·.name)) (e : Entry δ) :
    Apart fields e (unknown m) where
  commute _ := rfl
  left _ _ f hf same := absurd (List.mem_map.mpr ⟨f, hf, same⟩) other
  right _ free := free

/-- What a draft is once all members are read. -/
def fillAll (es : List (Entry δ)) (d : δ) : δ :=
  es.foldl (fun d e => e.fill d) d

theorem fillAll_unknown (es : List (Entry δ)) (extra : List (String × Text)) (d : δ) :
    fillAll (es ++ extra.map unknown) d = fillAll es d := by
  rw [fillAll, List.foldl_append]
  induction extra with
  | nil => rfl
  | cons m extra ih => exact ih

/-- The order of the members does not matter. -/
theorem fillAll_perm {es es' : List (Entry δ)} (order : es.Perm es')
    (apart : es.Pairwise (Apart fields)) (d : δ) : fillAll es d = fillAll es' d := by
  have commute : ∀ e ∈ es, ∀ e' ∈ es, ∀ d : δ, e'.fill (e.fill d) = e.fill (e'.fill d) :=
    List.Pairwise.forall_of_forall_of_flip (fun _ _ _ => rfl)
      (apart.imp fun h d => (h.commute d).symm) (apart.imp fun h d => h.commute d)
  exact order.foldl_eq' commute d

end Entry

/-- A field is found by its name. -/
theorem find?_name {fields : List (Field δ)} (distinct : (fields.map (·.name)).Nodup) {f : Field δ}
    (mem : f ∈ fields) : fields.find? (·.name == f.name) = some f := by
  induction fields with
  | nil => exact absurd mem List.not_mem_nil
  | cons g fields ih =>
    rw [List.map_cons, List.nodup_cons] at distinct
    rcases List.mem_cons.mp mem with rfl | mem
    · exact List.find?_cons_of_pos (beq_self_eq_true _)
    · have other : (g.name == f.name) = false := by
        refine beq_eq_false_iff_ne.mpr fun same => ?_
        exact distinct.1 (same ▸ List.mem_map_of_mem mem)
      simp only [List.find?_cons, other]
      exact ih distinct.2 mem

/-- The value of a member, known or not. -/
theorem readMember_entry {fields : List (Field δ)} (distinct : (fields.map (·.name)).Nodup)
    {e : Entry δ} (h : e.Fits fields) {d : δ} (free : e.Free fields d) {rest : List Char}
    (hr : Stops rest) :
    readMember fields e.name d (':' :: (e.text ++ rest)) = .ok (e.fill d, rest) := by
  have at? : colon (':' :: (e.text ++ rest)) = .ok (e.text ++ rest) := rfl
  cases h with
  | @known s mem h =>
    have unset : s.field.isSet d = false := free _ mem rfl
    rw [readMember, show s.entry.name = s.field.name from rfl, find?_name distinct mem]
    simp only [unset, Bool.false_eq_true, if_false, at?, bind, Except.bind]
    exact (h d).read rest hr
  | @unknown m other value =>
    have none : fields.find? (·.name == (Entry.unknown m : Entry δ).name) = none := by
      refine List.find?_eq_none.mpr fun f hf same => ?_
      exact other (List.mem_map.mpr ⟨f, hf, beq_iff_eq.mp same⟩)
    rw [readMember, none]
    exact bind_eq_ok.mpr ⟨_, skipValue_value value hr, rfl⟩

/-- The key of the next member. -/
theorem nextKey_member (first : Bool) (m : String × Text) (ms : List (String × Text))
    (rest : List Char) :
    nextKey first (listed first ((m :: ms).map member) ++ rest) =
      .ok (some m.1, ':' :: (m.2 ++ (listed false (ms.map member) ++ rest))) := by
  have quote : isSpace '"' = false := rfl
  have comma : isSpace ',' = false := rfl
  cases first with
  | true =>
    simp only [List.map_cons, listed, member, List.append_assoc, string_append, nextKey,
      skipSpace_cons quote, if_true, stringBody_escape, List.cons_append]
    rfl
  | false =>
    simp only [List.map_cons, listed, member, List.append_assoc, string_append, nextKey,
      skipSpace_cons quote, skipSpace_cons comma, Bool.false_eq_true, if_false, stringBody_escape,
      List.cons_append]
    rfl

/-- Members up to the brace that closes their object. -/
theorem readMembers_entries {fields : List (Field δ)} (distinct : (fields.map (·.name)).Nodup)
    {es : List (Entry δ)} (fits : ∀ e ∈ es, e.Fits fields)
    (apart : es.Pairwise (Entry.Apart fields)) {d : δ} (free : ∀ e ∈ es, e.Free fields d)
    {fuel : Nat} (enough : es.length < fuel) (first : Bool) (rest : List Char) :
    readMembers fields fuel first d
        (listed first ((es.map Entry.written).map member) ++ '}' :: rest) =
      .ok (Entry.fillAll es d, rest) := by
  obtain ⟨fuel, rfl⟩ := Nat.exists_eq_add_one_of_ne_zero (Nat.ne_zero_of_lt enough)
  induction es generalizing d fuel first with
  | nil => rfl
  | cons e es ih =>
    obtain ⟨fuel, rfl⟩ := Nat.exists_eq_add_one_of_ne_zero
      (Nat.ne_zero_of_lt (Nat.lt_of_succ_lt_succ enough))
    obtain ⟨fit, fits⟩ := List.forall_mem_cons.mp fits
    obtain ⟨now, free⟩ := List.forall_mem_cons.mp free
    obtain ⟨spared, apart⟩ := List.pairwise_cons.mp apart
    have stops := stops_listed ((es.map Entry.written).map member) .object rest
    have others := ih fits apart (fun e' he' => (spared e' he').left d (free e' he')) false
      fuel (Nat.lt_of_succ_lt_succ enough)
    exact bind_eq_ok.mpr ⟨_, nextKey_member first e.written _ _,
      bind_eq_ok.mpr ⟨_, readMember_entry distinct fit now stops, others⟩⟩

/-- Members in the order of the shape, up to the bracket that closes their list. Those at its end
may be missing. -/
theorem readElements_slots {slots : List (Slot δ)} {absent : List (Field δ)}
    (fills : ∀ s ∈ slots, s.Fills) (lack : ∀ f ∈ absent, f.mayLack = true) (first : Bool) (d : δ)
    (rest : List Char) :
    readElements (slots.map (·.field) ++ absent) first d
        (listed first (slots.map (·.text)) ++ ']' :: rest) =
      .ok (Entry.fillAll (slots.map Slot.entry) d, ']' :: rest) := by
  induction slots generalizing first d with
  | nil =>
    rw [List.map_nil, List.map_nil, List.nil_append, listed, List.nil_append]
    induction absent with
    | nil => rfl
    | cons f absent ih =>
      obtain ⟨may, lack⟩ := List.forall_mem_cons.mp lack
      refine bind_eq_ok.mpr ⟨_, nextElement_close first rest, ?_⟩
      simp only [may, if_true]
      exact ih lack
  | cons s slots ih =>
    obtain ⟨fill, fills⟩ := List.forall_mem_cons.mp fills
    have read := fill d
    exact bind_eq_ok.mpr ⟨_, nextElement_listed first read.begins _ _,
      bind_eq_ok.mpr ⟨_, read.read _ (stops_listed_list _ rest), ih fills false _⟩⟩

/-! ## Values of a shape -/

/-- Fields that make up a value: every one that has to be there is, each is read from its text and
set apart from the others, and the draft that they fill is that of the value. -/
structure Shape.Filled (shape : Shape δ α) (slots : List (Slot δ)) (a : α) : Prop where
  distinct : (shape.fields.map (·.name)).Nodup
  unset : ∀ f ∈ shape.fields, f.isSet shape.empty = false
  present : ∃ absent, shape.fields = slots.map (·.field) ++ absent ∧ ∀ f ∈ absent, f.mayLack = true
  fills : ∀ s ∈ slots, s.Fills
  apart : slots.Pairwise Slot.Apart
  finish : shape.finish (Entry.fillAll (slots.map Slot.entry) shape.empty) = some a

namespace Shape.Filled

variable {shape : Shape δ α} {slots : List (Slot δ)} {a : α}

theorem mem_fields (h : shape.Filled slots a) {s : Slot δ} (hs : s ∈ slots) :
    s.field ∈ shape.fields := by
  obtain ⟨absent, split, -⟩ := h.present
  exact split ▸ List.mem_append_left _ (List.mem_map_of_mem hs)

/-- The members are read in any order, among others. -/
theorem readMembers (h : shape.Filled slots a) {extra all : List (String × Text)}
    (others : ∀ m ∈ extra, m.1 ∉ shape.fields.map (·.name) ∧ IsValue m.2)
    (order : all.Perm (slots.map (·.entry.written) ++ extra)) {fuel : Nat}
    (enough : all.length < fuel) (rest : List Char) :
    Json.readMembers shape.fields fuel true shape.empty
        (listed true (all.map member) ++ '}' :: rest) =
      .ok (Entry.fillAll (slots.map Slot.entry) shape.empty, rest) := by
  -- the members as they would stand in the order of the shape, with all others behind them
  let sorted := slots.map Slot.entry ++ extra.map Entry.unknown
  have written : slots.map (·.entry.written) ++ extra = sorted.map Entry.written := by
    rw [List.map_append, List.map_map, List.map_map]
    exact congrArg (_ ++ ·) (List.map_id extra).symm
  have same : List.Forall₂ (fun m e => m = Entry.written e) (sorted.map Entry.written) sorted :=
    List.forall₂_map_left_iff.mpr (List.forall₂_same.mpr fun _ _ => rfl)
  obtain ⟨es, hes, perm⟩ := List.perm_comp_forall₂ (written ▸ order) same
  obtain rfl : all = es.map Entry.written := by
    rw [← List.forall₂_eq_eq_eq]
    exact List.forall₂_map_right_iff.mpr hes
  have apart : sorted.Pairwise (Entry.Apart shape.fields) := by
    refine List.pairwise_append.mpr ⟨?_, ?_, fun e _ e' he' => ?_⟩
    · refine List.pairwise_map.mpr (h.apart.imp_of_mem fun hs hs' apart => ?_)
      exact Entry.apart_known h.distinct (h.mem_fields hs) (h.mem_fields hs') apart
    · refine List.pairwise_map.mpr (List.pairwise_of_forall_mem_list fun m _ m' hm' => ?_)
      exact Entry.apart_unknown (others m' hm').1 _
    · obtain ⟨m, hm, rfl⟩ := List.mem_map.mp he'
      exact Entry.apart_unknown (others m hm).1 e
  have fits : ∀ e ∈ sorted, e.Fits shape.fields := by
    refine List.forall_mem_append.mpr ⟨fun e he => ?_, fun e he => ?_⟩
    · obtain ⟨s, hs, rfl⟩ := List.mem_map.mp he
      exact .known (h.mem_fields hs) (h.fills s hs)
    · obtain ⟨m, hm, rfl⟩ := List.mem_map.mp he
      exact .unknown (others m hm).1 (others m hm).2
  have apart' : es.Pairwise (Entry.Apart shape.fields) :=
    (perm.pairwise_iff fun h => h.symm).mpr apart
  have read := readMembers_entries h.distinct (fun e he => fits e (perm.mem_iff.mp he)) apart'
    (d := shape.empty) (fun _ _ f hf _ => h.unset f hf) (List.length_map _ ▸ enough) true rest
  rw [read, Entry.fillAll_perm perm apart', Entry.fillAll_unknown]

end Shape.Filled

/-- A value of a shape is read from its texts. -/
theorem reads_record {shape : Shape δ α} {slots : List (Slot δ)} {a : α}
    (h : shape.Filled slots a) {t : Text}
    (record : Record (shape.fields.map (·.name)) (slots.map (·.entry.written)) t) :
    Reads (readFields shape) t a := by
  have complete :
      shape.complete (Entry.fillAll (slots.map Slot.entry) shape.empty) = .ok a := by
    rw [Shape.complete, h.finish]
  cases record with
  | @object extra all others order =>
    refine ⟨⟨'{', _, rfl, by decide, by decide⟩, fun rest _ => ?_⟩
    have enough : all.length < (listed true (all.map member) ++ '}' :: rest).length + 1 := by
      have begins : ∀ t ∈ all.map member, Begins t := by
        intro t ht
        obtain ⟨m, -, rfl⟩ := List.mem_map.mp ht
        exact ⟨'"', _, rfl, by decide, by decide⟩
      have := length_le_listed begins true
      rw [List.length_map] at this
      rw [List.length_append]
      omega
    rw [object, intercalate_eq_listed, List.append_assoc, List.cons_append, readFields,
      skipSpace_cons (show isSpace '{' = false from rfl)]
    exact bind_eq_ok.mpr ⟨_, h.readMembers others order enough rest,
      bind_eq_ok.mpr ⟨_, complete, rfl⟩⟩
  | array =>
    obtain ⟨absent, split, lack⟩ := h.present
    refine ⟨⟨'[', _, rfl, by decide, by decide⟩, fun rest _ => ?_⟩
    have texts : (slots.map (·.entry.written)).map (·.2) = slots.map (·.text) := by
      rw [List.map_map]
      rfl
    have read := readElements_slots h.fills lack true shape.empty rest
    rw [array, intercalate_eq_listed, texts, List.append_assoc, List.cons_append, readFields,
      skipSpace_cons (show isSpace '[' = false from rfl)]
    exact bind_eq_ok.mpr ⟨_, split ▸ read, bind_eq_ok.mpr ⟨_, complete, rfl⟩⟩

/-! ## What a shape gives -/

section Gives

variable {I : δ → Prop} {fields : List (Field δ)}

/-- A property of drafts that every field keeps is kept by a member. -/
theorem readMember_keeps (step : ∀ f ∈ fields, ∀ {d cs d' rest}, I d →
      f.read d cs = .ok (d', rest) → I d') {name : String} {d d' : δ} {cs rest : List Char}
    (hd : I d) (h : readMember fields name d cs = .ok (d', rest)) : I d' := by
  unfold readMember at h
  split at h
  · next f found =>
    split at h
    · cases h
    · obtain ⟨cs', -, h⟩ := bind_eq_ok.mp h
      exact step f (List.mem_of_find?_eq_some found) hd h
  · obtain ⟨rest', -, h⟩ := bind_eq_ok.mp h
    cases h
    exact hd

theorem readMembers_keeps (step : ∀ f ∈ fields, ∀ {d cs d' rest}, I d →
      f.read d cs = .ok (d', rest) → I d') {fuel : Nat} {first : Bool} {d d' : δ}
    {cs rest : List Char} (hd : I d) (h : readMembers fields fuel first d cs = .ok (d', rest)) :
    I d' := by
  induction fuel generalizing first d cs with
  | zero => cases h
  | succ fuel ih =>
    obtain ⟨⟨key, at?⟩, -, h⟩ := bind_eq_ok.mp h
    cases key with
    | none =>
      cases h
      exact hd
    | some key =>
      obtain ⟨⟨d₁, rest₁⟩, read, h⟩ := bind_eq_ok.mp h
      exact ih (readMember_keeps step hd read) h

theorem readElements_keeps (step : ∀ f ∈ fields, ∀ {d cs d' rest}, I d →
      f.read d cs = .ok (d', rest) → I d') {first : Bool} {d d' : δ} {cs rest : List Char}
    (hd : I d) (h : readElements fields first d cs = .ok (d', rest)) : I d' := by
  induction fields generalizing first d cs with
  | nil =>
    cases h
    exact hd
  | cons f fields ih =>
    obtain ⟨head, tail⟩ := List.forall_mem_cons.mp step
    obtain ⟨⟨more, at?⟩, -, h⟩ := bind_eq_ok.mp h
    cases more with
    | true =>
      obtain ⟨⟨d₁, rest₁⟩, read, h⟩ := bind_eq_ok.mp h
      exact ih tail (head hd read) h
    | false =>
      cases may : f.mayLack with
      | true =>
        simp only [may, if_true] at h
        exact ih tail hd h
      | false =>
        simp only [may, Bool.false_eq_true, if_false] at h
        cases h

end Gives

/-- What holds of all values that the drafts of a shape come to holds of what is read. -/
theorem of_readFields {shape : Shape δ α} {I : δ → Prop} {P : α → Prop} (empty : I shape.empty)
    (step : ∀ f ∈ shape.fields, ∀ {d cs d' rest}, I d → f.read d cs = .ok (d', rest) → I d')
    (finish : ∀ {d a}, I d → shape.finish d = some a → P a) {cs rest : List Char} {a : α}
    (h : readFields shape cs = .ok (a, rest)) : P a := by
  have complete {d : δ} {a : α} (hd : I d) (h : shape.complete d = .ok a) : P a := by
    unfold Shape.complete at h
    split at h
    · next hf =>
      cases h
      exact finish hd hf
    · cases h
  unfold readFields at h
  split at h
  · cases h
  · obtain ⟨⟨d, rest₁⟩, read, h⟩ := bind_eq_ok.mp h
    obtain ⟨a', ha, h⟩ := bind_eq_ok.mp h
    cases h
    exact complete (readMembers_keeps step empty read) ha
  · obtain ⟨⟨d, rest₁⟩, read, h⟩ := bind_eq_ok.mp h
    obtain ⟨a', ha, h⟩ := bind_eq_ok.mp h
    obtain ⟨rest₂, -, h⟩ := bind_eq_ok.mp h
    cases h
    exact complete (readElements_keeps step empty read) ha
  · cases h

/-! ## Required members -/

section Required

variable {name : String} {get : δ → Option β} {set : δ → β → δ} {r : Reader β}

theorem required_read (d : δ) (cs : List Char) :
    (Field.required name get set r).read d cs = (r cs).map fun x => (set d x.1, x.2) :=
  rfl

/-- A required member gives its field the value that is read from its text. -/
theorem fills_required {t : Text} {b : β} (h : Reads r t b) :
    (⟨.required name get set r, t, fun d => set d b⟩ : Slot δ).Fills := by
  refine fun d => ⟨h.begins, fun rest hr => ?_⟩
  rw [required_read, h.read rest hr]
  rfl

/-- What every value that is read for a required member keeps is kept by the member. -/
theorem keeps_required {I : δ → Prop} (h : ∀ {cs b rest}, r cs = .ok (b, rest) →
      ∀ {d}, I d → I (set d b)) {d d' : δ} {cs rest : List Char} (hd : I d)
    (hr : (Field.required name get set r).read d cs = .ok (d', rest)) : I d' := by
  rw [required_read] at hr
  cases hb : r cs with
  | error flaw =>
    rw [hb] at hr
    cases hr
  | ok x =>
    rw [hb] at hr
    cases hr
    exact h hb hd

end Required

end Scrip.Json
