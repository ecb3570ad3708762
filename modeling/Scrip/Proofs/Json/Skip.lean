import Scrip.Json.Skip
import Scrip.Proofs.Json.Scalar

/-!
# JSON that is passed over

Any value in compact text is passed over to its end, however deep it is (`skipValue_value`).

* `listed`: the pieces of a list or an object, with the commas between them;
* `IsValue`: the compact texts of JSON values.
-/

namespace Scrip.Json

/-! ## Pieces between commas -/

/-- Pieces with a comma in front of each, but for one that comes first. -/
def listed : (first : Bool) → List Text → Text
  | _, [] => []
  | true, t :: ts => t ++ listed false ts
  | false, t :: ts => ',' :: t ++ listed false ts

theorem intercalate_eq_listed (ts : List Text) : [','].intercalate ts = listed true ts := by
  cases ts with
  | nil => rfl
  | cons t ts =>
    induction ts generalizing t with
    | nil => simp [List.intercalate, listed]
    | cons u ts ih =>
      rw [List.intercalate_cons_cons, ih]
      simp [listed]

/-! ## Values -/

/-- Decimal digits, at least one. -/
def IsDigits (ds : Text) : Prop :=
  ds ≠ [] ∧ ∀ c ∈ ds, c.isDigit = true

/-- The text of a fraction, if there is one. -/
def IsFraction (t : Text) : Prop :=
  t = [] ∨ ∃ ds, IsDigits ds ∧ t = '.' :: ds

/-- The text of an exponent, if there is one. -/
def IsExponent (t : Text) : Prop :=
  t = [] ∨ ∃ mark sign ds, isExponentMark mark = true ∧
    (sign = [] ∨ sign = ['+'] ∨ sign = ['-']) ∧ IsDigits ds ∧ t = mark :: sign ++ ds

/-- The text of a number. -/
def IsNumber (t : Text) : Prop :=
  ∃ (sign : Text) (n : Nat) (fraction exponent : Text), (sign = [] ∨ sign = ['-']) ∧
    IsFraction fraction ∧ IsExponent exponent ∧
    t = sign ++ (Nat.toDigits 10 n ++ (fraction ++ exponent))

/-- The compact text of a value. -/
inductive IsValue : Text → Prop
  | null : IsValue null
  | true : IsValue ['t', 'r', 'u', 'e']
  | false : IsValue ['f', 'a', 'l', 's', 'e']
  | number {t : Text} (h : IsNumber t) : IsValue t
  | string (s : String) : IsValue (string s)
  | array (ts : List Text) (h : ∀ t ∈ ts, IsValue t) : IsValue (array ts)
  | object (ms : List (String × Text)) (h : ∀ m ∈ ms, IsValue m.2) : IsValue (object ms)

/-! ## Scalars -/

/-- A character of a string is passed over. -/
theorem skipString_escape (c : Char) (rest : List Char) :
    skipString (escape c ++ rest) = skipString rest := by
  rcases escape_cases c with ⟨l, hl, h⟩ | ⟨low, h⟩ | ⟨quote, backslash, low, h⟩
  · have other : l ≠ 'u' := by
      rintro rfl
      exact nomatch hl
    rw [h, List.cons_append, List.singleton_append,
      skipString.eq_6 _ _ (fun _ _ _ _ _ hu _ => other hu) other, hl,
      Option.isSome_some, if_pos rfl]
  · have zero : hexValue? '0' = some 0 := rfl
    rw [h]
    simp only [List.cons_append, List.nil_append, skipString, zero,
      hexValue?_hexDigit (c.toNat / 16) (by omega), hexValue?_hexDigit (c.toNat % 16) (by omega),
      Option.isSome_some, List.all_cons, List.all_nil, Bool.and_self, if_true]
  · rw [h, List.singleton_append, skipString.eq_7 _ _ (fun h _ => backslash h) quote
      (fun _ _ _ _ _ h _ => backslash h) (fun _ h _ => backslash h)
      (fun _ _ h _ => backslash h), if_neg low]

/-- The text of a string after its opening quote. -/
theorem skipString_flatMap (cs : List Char) (rest : List Char) :
    skipString (cs.flatMap escape ++ '"' :: rest) = .ok rest := by
  induction cs with
  | nil => rfl
  | cons c cs ih => rw [List.flatMap_cons, List.append_assoc, skipString_escape, ih]

/-- Digits are passed over. -/
theorem skipDigits_append {ds rest : List Char} (h : IsDigits ds)
    (hr : ∀ c ∈ rest.head?, c.isDigit = false) : skipDigits (ds ++ rest) = .ok rest := by
  obtain ⟨taken, left⟩ := span_isDigit h.2 hr
  have some : ¬ ds.isEmpty = true := by
    rw [List.isEmpty_iff]
    exact h.1
  rw [skipDigits, taken, left, if_neg some]

theorem IsDigits.head {ds : Text} (h : IsDigits ds) :
    ∃ d ds', ds = d :: ds' ∧ d.isDigit = true := by
  obtain ⟨d, ds', rfl⟩ := List.exists_cons_of_ne_nil h.1
  exact ⟨d, ds', rfl, h.2 d List.mem_cons_self⟩

/-- An exponent is passed over. -/
theorem skipExponent_append {exponent : Text} (h : IsExponent exponent) {rest : List Char}
    (hr : Stops rest) : skipExponent (exponent ++ rest) = .ok rest := by
  rcases h with rfl | ⟨mark, sign, ds, hm, hs, hd, rfl⟩
  · cases rest with
    | nil => rfl
    | cons c rest => rcases hr c rfl with rfl | rfl | rfl <;> rfl
  · have passed := skipDigits_append hd hr.not_isDigit
    unfold skipExponent
    rcases hs with rfl | rfl | rfl
    · obtain ⟨d, ds', rfl, digit⟩ := hd.head
      have plus : d ≠ '+' := isDigit_ne digit rfl
      have minus : d ≠ '-' := isDigit_ne digit rfl
      simpa [hm, plus, minus] using passed
    · simpa [hm] using passed
    · simpa [hm] using passed

/-- A number without its sign is passed over. -/
theorem skipMagnitude_append (n : Nat) {fraction exponent : Text} (hf : IsFraction fraction)
    (he : IsExponent exponent) {rest : List Char} (hr : Stops rest) :
    skipMagnitude (Nat.toDigits 10 n ++ (fraction ++ exponent) ++ rest) = .ok rest := by
  have passed := skipExponent_append he hr
  have afterwards : ∀ c ∈ (exponent ++ rest).head?, c.isDigit = false := by
    rcases he with rfl | ⟨mark, sign, ds, hm, -, -, rfl⟩
    · exact hr.not_isDigit
    · rintro c ⟨⟩
      rw [isExponentMark, Bool.or_eq_true, beq_iff_eq, beq_iff_eq] at hm
      rcases hm with rfl | rfl <;> rfl
  have behind : ∀ c ∈ (fraction ++ (exponent ++ rest)).head?, c.isDigit = false := by
    rcases hf with rfl | ⟨ds, -, rfl⟩
    · exact afterwards
    · rintro c ⟨⟩
      rfl
  obtain ⟨taken, left⟩ := span_isDigit (isDigit_toDigits n) behind
  obtain ⟨d, ds, heq, -, lead⟩ := exists_toDigits n
  rw [List.append_assoc, List.append_assoc]
  unfold skipMagnitude
  simp only [taken, left]
  rw [heq]
  simp only [if_neg lead]
  rcases hf with rfl | ⟨ds, hd, rfl⟩
  · rw [List.nil_append]
    split
    · next h =>
      have point : (exponent ++ rest).head? = some '.' := by rw [h, List.head?_cons]
      rcases he with rfl | ⟨mark, sign, ds, hm, -, -, rfl⟩
      · exact absurd (hr '.' point) (by decide)
      · rw [Option.some.inj point] at hm
        exact absurd hm (by decide)
    · exact passed
  · simp only [List.cons_append, skipDigits_append hd afterwards]
    exact passed

/-- A scalar is passed over. -/
structure SkippedScalar (t : Text) : Prop where
  begins : ∃ c cs, t = c :: cs ∧ isSpace c = false ∧ c ≠ ']' ∧ c ≠ '[' ∧ c ≠ '{'
  skip : ∀ rest, Stops rest → skipScalar (t ++ rest) = .ok rest

theorem skippedScalar_word {c : Char} {letters : List Char} (h : c = 'n' ∧ letters = ['u', 'l', 'l']
    ∨ c = 't' ∧ letters = ['r', 'u', 'e'] ∨ c = 'f' ∧ letters = ['a', 'l', 's', 'e']) :
    SkippedScalar (c :: letters) := by
  rcases h with ⟨rfl, rfl⟩ | ⟨rfl, rfl⟩ | ⟨rfl, rfl⟩ <;>
    exact ⟨⟨_, _, rfl, by decide, by decide, by decide, by decide⟩, fun _ _ => rfl⟩

theorem skippedScalar_string (s : String) : SkippedScalar (string s) := by
  refine ⟨⟨'"', _, rfl, by decide, by decide, by decide, by decide⟩, fun rest _ => ?_⟩
  rw [string_append]
  exact skipString_flatMap _ _

theorem skipScalar_digit {d : Char} (h : d.isDigit = true) (cs : List Char) :
    skipScalar (d :: cs) = skipMagnitude (d :: cs) := by
  rw [skipScalar.eq_7 d cs (isDigit_ne h rfl) (isDigit_ne h rfl) (isDigit_ne h rfl)
    (isDigit_ne h rfl) (isDigit_ne h rfl), if_pos h]

theorem skippedScalar_number {t : Text} (h : IsNumber t) : SkippedScalar t := by
  obtain ⟨sign, n, fraction, exponent, hs, hf, he, rfl⟩ := h
  have passed {rest : List Char} := @skipMagnitude_append n _ _ hf he rest
  rcases hs with rfl | rfl
  · obtain ⟨d, ds, heq, digit, -⟩ := exists_toDigits n
    rw [heq] at passed ⊢
    refine ⟨⟨d, _, rfl, isSpace_isDigit digit, isDigit_ne digit rfl, isDigit_ne digit rfl,
      isDigit_ne digit rfl⟩, fun rest hr => ?_⟩
    exact (skipScalar_digit digit _).trans (passed hr)
  · exact ⟨⟨'-', _, rfl, by decide, by decide, by decide, by decide⟩, fun rest hr => passed hr⟩

/-! ## Enclosures -/

/-- A value is passed over in a number of steps that its length bounds. -/
structure Skipped (t : Text) : Prop where
  begins : Begins t
  skip : ∃ steps, steps ≤ 2 * t.length ∧ ∀ fuel around rest, Stops rest →
    skipFrom (fuel + steps) around (t ++ rest) = skipOut fuel around rest

theorem SkippedScalar.skipped {t : Text} (h : SkippedScalar t) : Skipped t := by
  obtain ⟨⟨c, cs, rfl, space, close, list, object⟩, skip⟩ := h
  refine ⟨⟨c, cs, rfl, space, close⟩, 1, ?_, fun fuel around rest hr => ?_⟩
  · rw [List.length_cons]
    omega
  · have passed := skip rest hr
    rw [List.cons_append] at passed ⊢
    rw [skipFrom, skipSpace_cons space]
    split
    · next h => exact absurd (List.cons.inj h).1 list
    · next h => exact absurd (List.cons.inj h).1 object
    · rw [passed]
      rfl

/-- A piece inside an enclosure: a value, after its key in an object. -/
structure Piece (e : Enclosure) (p : Text) : Prop where
  begins : ∃ c cs, p = c :: cs ∧ isSpace c = false ∧ c ≠ e.closing
  enter : ∃ t, t.length ≤ p.length ∧ Skipped t ∧ ∀ rest, e.enter (p ++ rest) = .ok (t ++ rest)

theorem piece_list {t : Text} (h : Skipped t) : Piece .list t where
  begins := h.begins
  enter := ⟨t, Nat.le_refl _, h, fun _ => rfl⟩

theorem piece_object {name : String} {t : Text} (h : Skipped t) :
    Piece .object (member (name, t)) where
  begins := ⟨'"', _, rfl, by decide, by decide⟩
  enter := by
    refine ⟨t, ?_, h, fun rest => ?_⟩
    · show t.length ≤ (string name ++ ':' :: t).length
      rw [List.length_append, List.length_cons]
      omega
    · have key : member (name, t) ++ rest =
          '"' :: (name.toList.flatMap escape ++ '"' :: (':' :: (t ++ rest))) := by
        rw [member, List.append_assoc, string_append, List.cons_append]
      rw [key]
      simp only [Enclosure.enter, skipKey, skipSpace_cons (show isSpace '"' = false from rfl),
        skipString_flatMap, bind, Except.bind, skipSpace_cons (show isSpace ':' = false from rfl)]

theorem stops_listed (ps : List Text) (e : Enclosure) (rest : List Char) :
    Stops (listed false ps ++ e.closing :: rest) := by
  cases ps with
  | nil => cases e <;> exact stops_cons (by decide) _
  | cons p ps => exact stops_cons (by decide) _

/-- The further pieces of an enclosure and its closing bracket. A comma and a bracket take a step
each, and a value no more than twice its length. -/
theorem skipOut_listed {e : Enclosure} {ps : List Text} (h : ∀ p ∈ ps, Piece e p) :
    ∃ steps, steps ≤ 2 * (listed false ps).length + 1 ∧ ∀ fuel around rest,
      skipOut (fuel + steps) (e :: around) (listed false ps ++ e.closing :: rest) =
        skipOut fuel around rest := by
  induction ps with
  | nil =>
    refine ⟨1, Nat.le_refl 1, fun fuel around rest => ?_⟩
    have blank : isSpace e.closing = false := by cases e <;> rfl
    have comma : e.closing ≠ ',' := by cases e <;> decide
    simp only [listed, List.nil_append, skipOut, skipSpace_cons blank, if_neg comma, if_true]
  | cons p ps ih =>
    obtain ⟨first, others⟩ := List.forall_mem_cons.mp h
    obtain ⟨t, short, ⟨-, steps, few, skip⟩, enter⟩ := first.enter
    obtain ⟨steps', few', skip'⟩ := ih others
    refine ⟨steps' + steps + 1, ?_, fun fuel around rest => ?_⟩
    · rw [listed, List.length_append, List.length_cons]
      omega
    · have next := enter (listed false ps ++ e.closing :: rest)
      rw [← Nat.add_assoc, skipOut, listed]
      simp only [List.cons_append, List.append_assoc,
        skipSpace_cons (show isSpace ',' = false from rfl), if_true, next, bind, Except.bind]
      rw [← Nat.add_assoc, skip _ _ _ (stops_listed ps e rest), skip']

/-- An enclosure after its opening bracket. -/
theorem skipInto_listed {e : Enclosure} {ps : List Text} (h : ∀ p ∈ ps, Piece e p) :
    ∃ steps, steps ≤ 2 * (listed true ps).length + 2 ∧ ∀ fuel around rest,
      skipInto (fuel + steps) e around (listed true ps ++ e.closing :: rest) =
        skipOut fuel around rest := by
  cases ps with
  | nil =>
    refine ⟨1, by decide, fun fuel around rest => ?_⟩
    have blank : isSpace e.closing = false := by cases e <;> rfl
    simp only [listed, List.nil_append, skipInto, skipSpace_cons blank, if_true]
  | cons p ps =>
    obtain ⟨first, others⟩ := List.forall_mem_cons.mp h
    obtain ⟨t, short, ⟨-, steps, few, skip⟩, enter⟩ := first.enter
    obtain ⟨c, cs, rfl, space, open?⟩ := first.begins
    obtain ⟨steps', few', skip'⟩ := skipOut_listed others
    refine ⟨steps' + steps + 1, ?_, fun fuel around rest => ?_⟩
    · rw [listed, List.length_append]
      omega
    · have next := enter (listed false ps ++ e.closing :: rest)
      rw [← Nat.add_assoc, skipInto, listed]
      simp only [List.cons_append, List.append_assoc, skipSpace_cons space, if_neg open?] at next ⊢
      simp only [next, bind, Except.bind]
      rw [← Nat.add_assoc, skip _ _ _ (stops_listed ps e rest), skip']

theorem skipped_array {ts : List Text} (h : ∀ t ∈ ts, Skipped t) : Skipped (array ts) := by
  obtain ⟨steps, few, skip⟩ := skipInto_listed (e := .list) fun t ht => piece_list (h t ht)
  refine ⟨⟨'[', _, rfl, by decide, by decide⟩, steps + 1, ?_, fun fuel around rest _ => ?_⟩
  · rw [array, intercalate_eq_listed, List.length_append, List.length_cons, List.length_singleton]
    omega
  · rw [array, intercalate_eq_listed, List.append_assoc, List.cons_append, ← Nat.add_assoc,
      skipFrom, skipSpace_cons (show isSpace '[' = false from rfl)]
    exact skip fuel around rest

theorem skipped_object {ms : List (String × Text)} (h : ∀ m ∈ ms, Skipped m.2) :
    Skipped (object ms) := by
  have pieces : ∀ p ∈ ms.map member, Piece .object p := by
    intro p hp
    obtain ⟨m, hm, rfl⟩ := List.mem_map.mp hp
    exact piece_object (h m hm)
  obtain ⟨steps, few, skip⟩ := skipInto_listed pieces
  refine ⟨⟨'{', _, rfl, by decide, by decide⟩, steps + 1, ?_, fun fuel around rest _ => ?_⟩
  · rw [object, intercalate_eq_listed, List.length_append, List.length_cons, List.length_singleton]
    omega
  · rw [object, intercalate_eq_listed, List.append_assoc, List.cons_append, ← Nat.add_assoc,
      skipFrom, skipSpace_cons (show isSpace '{' = false from rfl)]
    exact skip fuel around rest

/-- Every value is passed over. -/
theorem IsValue.skipped {t : Text} (h : IsValue t) : Skipped t := by
  induction h with
  | null => exact (skippedScalar_word (.inl ⟨rfl, rfl⟩)).skipped
  | true => exact (skippedScalar_word (.inr (.inl ⟨rfl, rfl⟩))).skipped
  | false => exact (skippedScalar_word (.inr (.inr ⟨rfl, rfl⟩))).skipped
  | number h => exact (skippedScalar_number h).skipped
  | string s => exact (skippedScalar_string s).skipped
  | array ts _ ih => exact skipped_array ih
  | object ms _ ih => exact skipped_object ih

/-- A value is passed over to its end. -/
theorem skipValue_value {t : Text} (h : IsValue t) {rest : List Char} (hr : Stops rest) :
    skipValue (t ++ rest) = .ok rest := by
  obtain ⟨-, steps, few, skip⟩ := h.skipped
  obtain ⟨fuel, enough⟩ : ∃ fuel, 3 * (t ++ rest).length + 3 = fuel + 1 + steps := by
    rw [List.length_append]
    exact ⟨3 * t.length + 3 * rest.length + 2 - steps, by omega⟩
  rw [skipValue, enough, skip _ _ _ hr, skipOut]

end Scrip.Json
