import Scrip.Http.Credentials
import Scrip.Proofs.Text.Base64

/-!
# Credentials read back

What a header of the scheme `Basic` says (`Credentials.WrittenIn`), and that just this is read from
it (`Credentials.ofHeader?_eq_some_iff`).
-/

namespace Scrip.Http

open Text

variable {before after : List Char} {mark : Char}

/-- A text is taken apart at the first of a character. -/
theorem splitFirst?_eq_some_iff {cs : List Char} :
    splitFirst? mark cs = some (before, after) ↔ mark ∉ before ∧ cs = before ++ mark :: after := by
  constructor
  · intro h
    have parts := List.takeWhile_append_dropWhile (p := (· != mark)) (l := cs)
    unfold splitFirst? at h
    cases found : cs.dropWhile (· != mark) with
    | nil =>
      rw [found] at h
      cases h
    | cons c rest =>
      rw [found] at h parts
      cases h
      have first : c = mark := by
        have stopped := List.head?_dropWhile_not (· != mark) cs
        rw [found] at stopped
        simpa using stopped
      refine ⟨fun hm => ?_, first ▸ parts.symm⟩
      have other := List.all_eq_true.mp List.all_takeWhile _ hm
      exact bne_iff_ne.mp other rfl
  · rintro ⟨h, rfl⟩
    have others : ∀ c ∈ before, (c != mark) = true := fun c hc =>
      bne_iff_ne.mpr fun he => h (he ▸ hc)
    rw [splitFirst?, List.dropWhile_append_of_pos others, List.dropWhile_cons_of_neg (by simp),
      List.takeWhile_append_of_pos others, List.takeWhile_cons_of_neg (by simp), List.append_nil]

/-- The bytes of a text stand for that text, and no others do. -/
theorem ofUtf8?_eq_some_iff {bytes : List UInt8} {text : String} :
    ofUtf8? bytes = some text ↔ bytes = text.toUTF8.data.toList := by
  constructor
  · intro h
    unfold ofUtf8? String.fromUTF8? at h
    split at h <;> cases h
    rfl
  · rintro rfl
    unfold ofUtf8? String.fromUTF8?
    rw [Array.toArray_toList, String.toUTF8_eq_toByteArray, dif_pos text.isValidUTF8]
    rfl

/-- A text that begins with a space begins with some, up to those characters that are none. -/
theorem exists_spaces {cs : List Char} (h : cs.head? = some ' ') :
    ∃ spaces, cs = List.replicate (spaces + 1) ' ' ++ cs.dropWhile (· == ' ') := by
  cases cs with
  | nil => cases h
  | cons c cs =>
    cases h
    have spaces : cs.takeWhile (· == ' ') = List.replicate (cs.takeWhile (· == ' ')).length ' ' :=
      List.eq_replicate_iff.mpr
        ⟨rfl, fun c hc => beq_iff_eq.mp (List.all_eq_true.mp List.all_takeWhile c hc)⟩
    refine ⟨(cs.takeWhile (· == ' ')).length, ?_⟩
    rw [List.replicate_succ, ← spaces, List.dropWhile_cons_of_pos rfl, List.cons_append,
      List.takeWhile_append_dropWhile]

/-- Characters of numbers below 256 are read back from their bytes. -/
theorem charsOf_bytesOf {cs : List Char} (h : ∀ c ∈ cs, c.toNat < 256) :
    charsOf (bytesOf cs) = cs := by
  have one : ∀ c ∈ cs, Char.ofNat (UInt8.ofNat c.toNat).toNat = c := fun c hc => by
    rw [UInt8.toNat_ofNat_of_lt' (h c hc), Char.ofNat_toNat]
  rw [charsOf, bytesOf, List.map_map]
  exact (List.map_congr_left one).trans (List.map_id cs)

namespace Credentials

/-- The text of a name, a colon and a password. -/
def pair (c : Credentials) : String :=
  c.username ++ ":" ++ c.password

/-- How a header says a name and a password: by the scheme in any case, spaces, and base 64 of the
two with a colon in between. The first colon counts, so that there is none in the name. -/
structure WrittenIn (c : Credentials) (header : List UInt8) : Prop where
  colon : ':' ∉ c.username.toList
  text : ∃ (scheme : List Char) (spaces : Nat), scheme.map Char.toLower = basicScheme ∧
    charsOf header = scheme ++ List.replicate (spaces + 1) ' ' ++
      Base64.encodePadded c.pair.toUTF8.data.toList

variable {c : Credentials} {header : List UInt8}

theorem ofPair?_eq_some_iff {text : String} :
    ofPair? text = some c ↔ ':' ∉ c.username.toList ∧ text = c.pair := by
  have chars : c.pair.toList = c.username.toList ++ ':' :: c.password.toList := by simp [pair]
  unfold ofPair?
  constructor
  · intro h
    obtain ⟨⟨username, password⟩, split, rfl⟩ := Option.map_eq_some_iff.mp h
    obtain ⟨colon, written⟩ := splitFirst?_eq_some_iff.mp split
    refine ⟨by simpa using colon, String.toList_inj.mp ?_⟩
    simpa [pair] using written
  · rintro ⟨colon, rfl⟩
    rw [chars, splitFirst?_eq_some_iff.mpr ⟨colon, rfl⟩]
    simp only [Option.map_some, String.ofList_toList]

theorem writtenIn_of_ofHeader? (h : ofHeader? header = some c) : c.WrittenIn header := by
  unfold ofHeader? at h
  dsimp only at h
  split at h
  · rename_i right
    obtain ⟨scheme, space⟩ := right
    obtain ⟨spaces, rest⟩ := exists_spaces space
    split at h
    · cases h
    · simp only [Option.bind_eq_bind, Option.bind_eq_some_iff] at h
      obtain ⟨bytes, decoded, text, read, said⟩ := h
      obtain ⟨colon, rfl⟩ := ofPair?_eq_some_iff.mp said
      obtain rfl := ofUtf8?_eq_some_iff.mp read
      refine ⟨colon, _, spaces, scheme, ?_⟩
      rw [← Base64.decodePadded?_eq_some_iff.mp decoded, List.append_assoc, ← rest,
        List.take_append_drop]
  · cases h

theorem WrittenIn.ofHeader?_eq (h : c.WrittenIn header) : ofHeader? header = some c := by
  obtain ⟨colon, scheme, spaces, lower, text⟩ := h
  have length : scheme.length = basicScheme.length := by
    rw [← lower, List.length_map]
  have pair : ofPair? c.pair = some c := ofPair?_eq_some_iff.mpr ⟨colon, rfl⟩
  have read : ofUtf8? c.pair.toUTF8.data.toList = some c.pair := ofUtf8?_eq_some_iff.mpr rfl
  generalize c.pair.toUTF8.data.toList = bytes at text read
  generalize c.pair = said at pair read
  have decoded := Base64.decodePadded?_encodePadded bytes
  have digits : (Base64.encodePadded bytes).isEmpty = false := by
    cases h : Base64.encodePadded bytes with
    | cons => rfl
    | nil =>
      rw [h] at decoded
      cases decoded
      cases read
      cases pair
  unfold ofHeader?
  dsimp only
  rw [text, List.append_assoc, List.take_left' length, List.drop_left' length,
    if_pos ⟨lower, rfl⟩, Base64.dropWhile_encodePadded, digits, decoded]
  exact (congrArg (·.bind ofPair?) read).trans pair

theorem ofHeader?_eq_some_iff : ofHeader? header = some c ↔ c.WrittenIn header :=
  ⟨writtenIn_of_ofHeader?, WrittenIn.ofHeader?_eq⟩

/-- The header made for a name and a password says them. -/
theorem writtenIn_basicHeader (colon : ':' ∉ c.username.toList) :
    c.WrittenIn (basicHeader c.pair) := by
  refine ⟨colon, "Basic".toList, 0, by decide, ?_⟩
  have scheme : "Basic ".toList.all (·.toNat < 256) = true := by decide
  refine (charsOf_bytesOf fun c hc => ?_).trans ?_
  · rcases List.mem_append.mp hc with hc | hc
    · exact of_decide_eq_true (List.all_eq_true.mp scheme c hc)
    · exact Nat.lt_trans (Base64.toNat_lt_of_mem_encodePadded hc) (by decide)
  · rfl

end Credentials

end Scrip.Http
