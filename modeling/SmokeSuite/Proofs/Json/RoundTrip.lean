import SmokeSuite.Json.Reader
import SmokeSuite.Json.Writer
import SmokeSuite.Proofs.Decimal.Whole

namespace SmokeSuite.Json

/-- Values inside `depth` others that a text can carry: the limits of reading, and no numbers but whole ones
and the zero with one place. -/
inductive IsPlain : Nat → Json → Prop where
  | null {depth : Nat} : IsPlain depth .null
  | bool {depth : Nat} (b : Bool) : IsPlain depth (.bool b)
  | number {depth n : Nat} : n < UInt64.size → IsPlain depth (.number ⟨false, n, 0⟩)
  | zero {depth : Nat} : IsPlain depth (.number ⟨false, 0, -1⟩)
  | string {depth : Nat} (s : String) : IsPlain depth (.string s)
  | array {depth : Nat} {js : List Json} : depth < maxDepth → (∀ j ∈ js, IsPlain (depth + 1) j) →
      IsPlain depth (.array js)
  | object {depth : Nat} {ms : List (String × Json)} : depth < maxDepth →
      (∀ m ∈ ms, IsPlain (depth + 1) m.2) → IsPlain depth (.object ms)

mutual

def checkPlain (depth : Nat) : Json → Bool
  | .null | .bool _ | .string _ => true
  | .number d => d == ⟨false, 0, -1⟩ || (d == ⟨false, d.digits, 0⟩ && d.digits < UInt64.size)
  | .array js => depth < maxDepth && checkItems (depth + 1) js
  | .object ms => depth < maxDepth && checkMembers (depth + 1) ms

def checkItems (depth : Nat) : List Json → Bool
  | [] => true
  | j :: js => checkPlain depth j && checkItems depth js

def checkMembers (depth : Nat) : List (String × Json) → Bool
  | [] => true
  | (_, j) :: ms => checkPlain depth j && checkMembers depth ms

end

mutual

theorem isPlain_of_check : ∀ (j : Json) (depth : Nat), checkPlain depth j = true → IsPlain depth j
  | .null, _, _ => .null
  | .bool b, _, _ => .bool b
  | .string s, _, _ => .string s
  | .number d, depth, h => by
    rw [checkPlain, Bool.or_eq_true] at h
    rcases h with hzero | hwhole
    · rw [eq_of_beq hzero]
      exact .zero
    · rw [Bool.and_eq_true, decide_eq_true_eq] at hwhole
      rw [eq_of_beq hwhole.1]
      exact .number hwhole.2
  | .array js, depth, h => by
    rw [checkPlain, Bool.and_eq_true, decide_eq_true_eq] at h
    exact .array h.1 (forall_isPlain_of_check js (depth + 1) h.2)
  | .object ms, depth, h => by
    rw [checkPlain, Bool.and_eq_true, decide_eq_true_eq] at h
    exact .object h.1 (forall_isPlain_of_checkMembers ms (depth + 1) h.2)

theorem forall_isPlain_of_check : ∀ (js : List Json) (depth : Nat), checkItems depth js = true →
    ∀ j ∈ js, IsPlain depth j
  | [], _, _ => fun _ hj => absurd hj List.not_mem_nil
  | j :: js, depth, h => by
    rw [checkItems, Bool.and_eq_true] at h
    exact List.forall_mem_cons.2
      ⟨isPlain_of_check j depth h.1, forall_isPlain_of_check js depth h.2⟩

theorem forall_isPlain_of_checkMembers : ∀ (ms : List (String × Json)) (depth : Nat),
    checkMembers depth ms = true → ∀ m ∈ ms, IsPlain depth m.2
  | [], _, _ => fun _ hm => absurd hm List.not_mem_nil
  | (_, j) :: ms, depth, h => by
    rw [checkMembers, Bool.and_eq_true] at h
    exact List.forall_mem_cons.2
      ⟨isPlain_of_check j depth h.1, forall_isPlain_of_checkMembers ms depth h.2⟩

end

theorem readHex_append {s r : List Char} {n : Nat} (h : readHex s = .ok (n, [])) :
    readHex (s ++ r) = .ok (n, r) := by
  match s, h with
  | a :: b :: c :: d :: t, h =>
    simp only [List.cons_append, readHex] at h ⊢
    split at h
    · cases h
      rfl
    · cases h

theorem readHex_fourDigits {n : Nat} (hn : n < 0x20) : readHex (fourDigits n) = .ok (n, []) := by
  have hall : ∀ m < 0x20, (readHex (fourDigits m)).toOption = some (m, []) := by decide
  have h := hall n hn
  cases hr : readHex (fourDigits n) with
  | error e => simp [hr, Except.toOption] at h
  | ok x => simpa [hr, Except.toOption] using h

/-- A character that is written as its number is read back from it. -/
theorem readEscape_fourDigits {c : Char} (h : c.toNat < 0x20) (s : List Char) :
    readEscape ('u' :: (fourDigits c.toNat ++ s)) = .ok (c, s) := by
  have hread := readHex_append (r := s) (readHex_fourDigits h)
  have hlow : ¬ 0xDC00 ≤ c.toNat := by omega
  have hhigh : ¬ 0xD800 ≤ c.toNat := by omega
  simp [readEscape, hread, bind, Except.bind, hlow, hhigh]

theorem readChars_escapedChar (c : Char) {fuel : Nat} {s rest cs : List Char}
    (h : readChars fuel s = .ok (cs, rest)) :
    readChars (fuel + 1) (escapedChar c ++ s) = .ok (c :: cs, rest) := by
  unfold escapedChar
  split
  case h_8 h1 h2 h3 h4 h5 h6 h7 =>
    split
    · next hlow =>
      simp [readChars, readEscape_fourDigits hlow, h, bind, Except.bind]
    · next hlow =>
      rw [List.cons_append, List.nil_append, readChars, if_neg hlow, h]
      · rfl
      · exact h1
      · exact h2
  all_goals simp [readChars, readEscape, h, bind, Except.bind]

theorem readChars_flatMap (cs rest : List Char) {fuel : Nat} (h : cs.length < fuel) :
    readChars fuel (cs.flatMap escapedChar ++ '"' :: rest) = .ok (cs, rest) := by
  induction cs generalizing fuel with
  | nil =>
    obtain ⟨n, rfl⟩ := Nat.exists_eq_succ_of_ne_zero (Nat.ne_of_gt h)
    rfl
  | cons c cs ih =>
    obtain ⟨n, rfl⟩ := Nat.exists_eq_succ_of_ne_zero (Nat.ne_of_gt (Nat.zero_lt_of_lt h))
    rw [List.flatMap_cons, List.append_assoc]
    exact readChars_escapedChar c (ih (Nat.lt_of_succ_lt_succ h))

theorem length_le_length_flatMap (cs : List Char) : cs.length ≤ (cs.flatMap escapedChar).length := by
  induction cs with
  | nil => exact Nat.le_refl 0
  | cons c cs ih =>
    have hone : 1 ≤ (escapedChar c).length := by
      unfold escapedChar
      split
      case h_8 => split <;> simp
      all_goals simp
    rw [List.flatMap_cons, List.length_append, List.length_cons]
    omega

theorem readString_stringText (t : String) (rest : List Char) :
    readString (t.toList.flatMap escapedChar ++ '"' :: rest) = .ok (t, rest) := by
  have hlength := length_le_length_flatMap t.toList
  rw [readString, readChars_flatMap t.toList rest (by simp only [List.length_append]; omega)]
  simp [bind, Except.bind]

/-- Whether a number ends before this text. -/
def EndsNumber (s : List Char) : Prop :=
  ∀ c ∈ s.head?, c.isDigit = false ∧ c ≠ '.' ∧ c ≠ 'e' ∧ c ≠ 'E'

theorem readDigits_append {ds s : List Char} (hne : ds ≠ []) (hds : ∀ c ∈ ds, c.isDigit = true)
    (hs : EndsNumber s) : readDigits (ds ++ s) = .ok (ds, s) := by
  have htake : (ds ++ s).takeWhile Char.isDigit = ds := by
    rw [List.takeWhile_append_of_pos hds]
    cases s with
    | nil => simp
    | cons c s => simp [(hs c rfl).1]
  have hdrop : (ds ++ s).dropWhile Char.isDigit = s := by
    rw [List.dropWhile_append_of_pos hds]
    cases s with
    | nil => rfl
    | cons c s => simp [(hs c rfl).1]
  cases ds with
  | nil => exact absurd rfl hne
  | cons d ds =>
    rw [List.cons_append] at htake hdrop ⊢
    rw [readDigits, if_pos (hds d List.mem_cons_self), htake, hdrop]

theorem readFraction_of_endsNumber {s : List Char} (hs : EndsNumber s) :
    readFraction s = .ok ([], s) := by
  unfold readFraction
  split
  · exact absurd rfl (hs '.' rfl).2.1
  · rfl

theorem readPower_of_endsNumber {s : List Char} (hs : EndsNumber s) : readPower s = .ok (0, s) := by
  cases s with
  | nil => rfl
  | cons c s =>
    obtain ⟨-, -, he, hE⟩ := hs c rfl
    simp [readPower, he, hE]

theorem readNumber_toDigits {n : Nat} (hn : n < UInt64.size) {s : List Char} (hs : EndsNumber s) :
    readNumber false (Nat.toDigits 10 n ++ s) = .ok (.number ⟨false, n, 0⟩, s) := by
  have hdigits := readDigits_append Nat.toDigits_ne_nil (Decimal.isDigit_of_mem_toDigits n) hs
  have hwhole : readWhole (Nat.toDigits 10 n ++ s) = .ok (Nat.toDigits 10 n, s) := by
    rw [readWhole, hdigits]
    simp only [bind, Except.bind]
    split
    · next h =>
      cases Decimal.eq_nil_of_toDigits_eq_zero_cons h
    · rfl
  simp [readNumber, hwhole, readFraction_of_endsNumber hs, readPower_of_endsNumber hs, bind, Except.bind,
    Decimal.ofDigits_toDigits, Binary64.isSome_ofDecimal_whole hn]

theorem readNumber_zero {s : List Char} (hs : EndsNumber s) :
    readNumber false ('0' :: '.' :: '0' :: s) = .ok (.number ⟨false, 0, -1⟩, s) := by
  have hwhole : readWhole ('0' :: '.' :: '0' :: s) = .ok (['0'], '.' :: '0' :: s) := rfl
  have hdigits : ∀ c ∈ ['0'], c.isDigit = true := List.all_eq_true.1 rfl
  have hfraction : readFraction ('.' :: '0' :: s) = .ok (['0'], s) :=
    readDigits_append (List.cons_ne_nil '0' []) hdigits hs
  have hvalue : Decimal.ofDigits ['0', '0'] = 0 := rfl
  have hfits : (Binary64.ofDecimal ⟨false, 0, -1⟩).isSome = true := by decide +kernel
  simp [readNumber, hwhole, hfraction, readPower_of_endsNumber hs, bind, Except.bind, hvalue, hfits]

theorem isSpace_of_isDigit {c : Char} (hc : c.isDigit = true) : isSpace c = false := by
  have hne : c ≠ ' ' ∧ c ≠ '\n' ∧ c ≠ '\t' ∧ c ≠ '\r' := by
    refine ⟨?_, ?_, ?_, ?_⟩ <;> (rintro rfl; cases hc)
  simp [isSpace, hne]

theorem skipSpace_cons {c : Char} (hc : isSpace c = false) (s : List Char) :
    skipSpace (c :: s) = c :: s := by
  simp [skipSpace, hc]

theorem readValue_digit {c : Char} (hc : c.isDigit = true) (fuel depth : Nat) (s : List Char) :
    readValue (fuel + 1) depth (c :: s) = readNumber false (c :: s) := by
  rw [readValue, skipSpace_cons (isSpace_of_isDigit hc)]
  split <;> simp_all

theorem skipSpace_newline_append (depth : Nat) (s : List Char) :
    skipSpace (newline depth ++ s) = skipSpace s := by
  refine List.dropWhile_append_of_pos fun c hc => ?_
  rcases List.mem_cons.1 hc with rfl | hc
  · rfl
  · rw [List.eq_of_mem_replicate hc]
    rfl

theorem skipSpace_skipSpace (s : List Char) : skipSpace (skipSpace s) = skipSpace s := by
  cases h : skipSpace s with
  | nil => rfl
  | cons c t =>
    have hc := List.head?_dropWhile_not isSpace s
    rw [show s.dropWhile isSpace = c :: t from h] at hc
    exact skipSpace_cons (by simpa using hc) t

/-- Blanks in front of a value do not count. -/
theorem readValue_of_skipSpace_eq {s t : List Char} (h : skipSpace s = t) (fuel depth : Nat) :
    readValue fuel depth s = readValue fuel depth t := by
  cases fuel with
  | zero => rw [readValue, readValue]
  | succ fuel => rw [readValue, readValue, ← h, skipSpace_skipSpace]

/-- A value begins with a character that is no blank and closes no list. -/
theorem exists_pretty_eq_cons {j : Json} {level : Nat} (h : IsPlain level j) (depth : Nat) :
    ∃ c s, pretty depth j = c :: s ∧ isSpace c = false ∧ c ≠ ']' := by
  cases h with
  | null => exact ⟨'n', ['u', 'l', 'l'], by rw [pretty], by decide, by decide⟩
  | bool b =>
    cases b with
    | true => exact ⟨'t', ['r', 'u', 'e'], by rw [pretty], by decide, by decide⟩
    | false => exact ⟨'f', ['a', 'l', 's', 'e'], by rw [pretty], by decide, by decide⟩
  | @number _ n hn =>
    obtain ⟨c, ds, hds, hc⟩ := Decimal.exists_toDigits_eq_cons n
    refine ⟨c, ds, by rw [pretty, Decimal.positional_whole, hds], isSpace_of_isDigit hc, ?_⟩
    rintro rfl
    cases hc
  | zero => exact ⟨'0', ['.', '0'], by rw [pretty]; rfl, by decide, by decide⟩
  | string s => exact ⟨'"', _, by rw [pretty, stringText, List.cons_append], by decide, by decide⟩
  | @array _ js _ _ =>
    refine ⟨'[', (pretty depth (.array js)).tail, ?_, by decide, by decide⟩
    cases js <;> rw [pretty] <;> rfl
  | @object _ ms _ _ =>
    refine ⟨'\x7b', (pretty depth (.object ms)).tail, ?_, by decide, by decide⟩
    cases ms <;> rw [pretty] <;> rfl

/-- What stands behind a value in a list or an object ends a number. -/
theorem endsNumber_prettyItems (depth outer : Nat) (js : List Json) (s : List Char) :
    EndsNumber (prettyItems depth js ++ (newline outer ++ s)) := by
  cases js with
  | nil =>
    rintro c ⟨⟩
    decide
  | cons j js =>
    rw [prettyItems]
    rintro c ⟨⟩
    decide

theorem endsNumber_prettyMembers (depth outer : Nat) (ms : List (String × Json)) (s : List Char) :
    EndsNumber (prettyMembers depth ms ++ (newline outer ++ s)) := by
  cases ms with
  | nil =>
    rintro c ⟨⟩
    decide
  | cons m ms =>
    rw [prettyMembers]
    rintro c ⟨⟩
    decide

theorem readFirstItem_of_reads {fuel depth : Nat} {s t r rest : List Char} {c : Char} {j : Json}
    {js : List Json} (hs : skipSpace s = c :: t) (hc : c ≠ ']')
    (hj : readValue fuel depth (c :: t) = .ok (j, r))
    (hjs : readItems fuel depth r = .ok (js, rest)) :
    readFirstItem (fuel + 1) depth s = .ok (j :: js, rest) := by
  rw [readFirstItem, hs]
  split
  · next h => cases h
  · next h => exact absurd (List.cons.inj h).1 hc
  · rw [hj]
    simp only [bind, Except.bind, hjs]

theorem readItems_of_reads {fuel depth : Nat} {s t r rest : List Char} {c : Char} {j : Json}
    {js : List Json} (hs : skipSpace s = c :: t) (hc : c ≠ ']')
    (hj : readValue fuel depth (c :: t) = .ok (j, r))
    (hjs : readItems fuel depth r = .ok (js, rest)) :
    readItems (fuel + 1) depth (',' :: s) = .ok (j :: js, rest) := by
  rw [readItems, skipSpace_cons (by decide)]
  simp only [hs]
  split
  · next h => cases h
  · next h => exact absurd (List.cons.inj h).1 hc
  · rw [hj]
    simp only [bind, Except.bind, hjs]

theorem readValue_list {fuel depth : Nat} {s rest : List Char} {js : List Json} (hd : depth < maxDepth)
    (h : readFirstItem fuel (depth + 1) s = .ok (js, rest)) :
    readValue (fuel + 1) depth ('[' :: s) = .ok (.array js, rest) := by
  rw [readValue, skipSpace_cons (by decide)]
  simp only [Nat.ne_of_lt hd, if_false, h]
  rfl

theorem readValue_object {fuel depth : Nat} {s rest : List Char} {ms : List (String × Json)}
    (hd : depth < maxDepth) (h : readFirstMember fuel (depth + 1) s = .ok (ms, rest)) :
    readValue (fuel + 1) depth ('\x7b' :: s) = .ok (.object ms, rest) := by
  rw [readValue, skipSpace_cons (by decide)]
  simp only [Nat.ne_of_lt hd, if_false, h]
  rfl

theorem readMember_of_reads {fuel depth : Nat} {k : String} {s r : List Char} {j : Json}
    (hs : skipSpace s = s) (hj : readValue fuel depth s = .ok (j, r)) :
    readMember (fuel + 1) depth (k.toList.flatMap escapedChar ++ '"' :: ':' :: ' ' :: s) =
      .ok ((k, j), r) := by
  have hblank : readValue fuel depth (' ' :: s) = .ok (j, r) := by
    rw [readValue_of_skipSpace_eq (t := s), hj]
    rw [← hs]
    simp only [skipSpace, List.dropWhile_cons, show isSpace ' ' = true from rfl, if_true]
    exact skipSpace_skipSpace s
  rw [readMember, readString_stringText]
  simp only [bind, Except.bind]
  rw [skipSpace_cons (by decide)]
  simp only [hblank]

theorem readFirstMember_of_reads {fuel depth : Nat} {s t r rest : List Char} {m : String × Json}
    {ms : List (String × Json)} (hs : skipSpace s = '"' :: t)
    (hm : readMember fuel depth t = .ok (m, r)) (hms : readMembers fuel depth r = .ok (ms, rest)) :
    readFirstMember (fuel + 1) depth s = .ok (m :: ms, rest) := by
  rw [readFirstMember, hs]
  simp only [hm, bind, Except.bind, hms]

theorem readMembers_of_reads {fuel depth : Nat} {s t r rest : List Char} {m : String × Json}
    {ms : List (String × Json)} (hs : skipSpace s = '"' :: t)
    (hm : readMember fuel depth t = .ok (m, r)) (hms : readMembers fuel depth r = .ok (ms, rest)) :
    readMembers (fuel + 1) depth (',' :: s) = .ok (m :: ms, rest) := by
  rw [readMembers, skipSpace_cons (by decide)]
  simp only [hs, hm, bind, Except.bind, hms]

theorem skipSpace_pretty_append {j : Json} {level : Nat} (h : IsPlain level j) (depth : Nat)
    (s : List Char) : skipSpace (pretty depth j ++ s) = pretty depth j ++ s := by
  obtain ⟨c, t, ht, hc, -⟩ := exists_pretty_eq_cons h depth
  rw [ht, List.cons_append]
  exact skipSpace_cons hc _

mutual

/-- A value in the long form is read back, whatever ends it. Two characters of fuel for each that is
written are enough: a list takes one step for itself and one for each of its items. -/
theorem readValue_pretty : ∀ (j : Json) (level depth fuel : Nat) (rest : List Char),
    IsPlain level j → EndsNumber rest → 2 * (pretty depth j).length ≤ fuel →
    readValue fuel level (pretty depth j ++ rest) = .ok (j, rest)
  | .null, level, depth, fuel, rest, _, _, hfuel => by
    rw [pretty] at hfuel ⊢
    obtain ⟨n, rfl⟩ := Nat.exists_eq_add_of_le' (show 1 ≤ fuel by simp at hfuel; omega)
    rw [List.cons_append, readValue, skipSpace_cons (by decide)]
    rfl
  | .bool true, level, depth, fuel, rest, _, _, hfuel => by
    rw [pretty] at hfuel ⊢
    obtain ⟨n, rfl⟩ := Nat.exists_eq_add_of_le' (show 1 ≤ fuel by simp at hfuel; omega)
    rw [List.cons_append, readValue, skipSpace_cons (by decide)]
    rfl
  | .bool false, level, depth, fuel, rest, _, _, hfuel => by
    rw [pretty] at hfuel ⊢
    obtain ⟨n, rfl⟩ := Nat.exists_eq_add_of_le' (show 1 ≤ fuel by simp at hfuel; omega)
    rw [List.cons_append, readValue, skipSpace_cons (by decide)]
    rfl
  | .number d, level, depth, fuel, rest, h, hrest, hfuel => by
    cases h with
    | @number _ n hn =>
      obtain ⟨c, ds, hds, hc⟩ := Decimal.exists_toDigits_eq_cons n
      rw [pretty, Decimal.positional_whole] at hfuel ⊢
      obtain ⟨m, rfl⟩ := Nat.exists_eq_add_of_le' (show 1 ≤ fuel by simp [hds] at hfuel; omega)
      have hread := readNumber_toDigits hn hrest
      rw [hds, List.cons_append] at hread ⊢
      rw [readValue_digit hc, hread]
    | zero =>
      have htext : (⟨false, 0, -1⟩ : Decimal).positional = ['0', '.', '0'] := rfl
      rw [pretty, htext] at hfuel ⊢
      obtain ⟨m, rfl⟩ := Nat.exists_eq_add_of_le' (show 1 ≤ fuel by simp at hfuel; omega)
      exact (readValue_digit rfl m level _).trans (readNumber_zero hrest)
  | .string s, level, depth, fuel, rest, _, _, hfuel => by
    rw [pretty, stringText] at hfuel ⊢
    obtain ⟨n, rfl⟩ := Nat.exists_eq_add_of_le' (show 1 ≤ fuel by simp at hfuel; omega)
    have hread := readString_stringText s rest
    simp only [List.cons_append, List.append_assoc, List.nil_append]
    rw [readValue, skipSpace_cons (by decide)]
    simp only [hread, bind, Except.bind]
  | .array [], level, depth, fuel, rest, h, _, hfuel => by
    cases h with
    | array hdepth _ =>
      rw [pretty] at hfuel ⊢
      obtain ⟨n, rfl⟩ := Nat.exists_eq_add_of_le' (show 2 ≤ fuel by simp at hfuel; omega)
      rw [List.cons_append, List.cons_append, List.nil_append]
      refine readValue_list hdepth ?_
      rw [readFirstItem, skipSpace_cons (by decide)]
      rfl
  | .array (j :: js), level, depth, fuel, rest, h, _, hfuel => by
    cases h with
    | array hdepth hall =>
      obtain ⟨hj, hjs⟩ := List.forall_mem_cons.1 hall
      obtain ⟨c, t, ht, hc, hne⟩ := exists_pretty_eq_cons hj (depth + 1)
      rw [pretty] at hfuel ⊢
      simp only [List.cons_append, List.append_assoc, List.nil_append, List.length_cons,
        List.length_append, List.length_nil] at hfuel ⊢
      obtain ⟨n, rfl⟩ := Nat.exists_eq_add_of_le' (show 2 ≤ fuel by omega)
      have hvalue := readValue_pretty j (level + 1) (depth + 1) n _ hj
        (endsNumber_prettyItems (depth + 1) depth js (']' :: rest)) (by omega)
      have hitems := readItems_pretty js (level + 1) (depth + 1) depth n rest hjs (by omega)
      rw [ht, List.cons_append] at hvalue ⊢
      exact readValue_list hdepth (readFirstItem_of_reads
        (by rw [skipSpace_newline_append, skipSpace_cons hc]) hne hvalue hitems)
  | .object [], level, depth, fuel, rest, h, _, hfuel => by
    cases h with
    | object hdepth _ =>
      rw [pretty] at hfuel ⊢
      obtain ⟨n, rfl⟩ := Nat.exists_eq_add_of_le' (show 2 ≤ fuel by simp at hfuel; omega)
      rw [List.cons_append, List.cons_append, List.nil_append]
      refine readValue_object hdepth ?_
      rw [readFirstMember, skipSpace_cons (by decide)]
      rfl
  | .object ((k, j) :: ms), level, depth, fuel, rest, h, _, hfuel => by
    cases h with
    | object hdepth hall =>
      obtain ⟨hj, hms⟩ := List.forall_mem_cons.1 hall
      rw [pretty, stringText] at hfuel ⊢
      simp only [List.cons_append, List.append_assoc, List.nil_append, List.length_cons,
        List.length_append, List.length_nil] at hfuel ⊢
      obtain ⟨n, rfl⟩ := Nat.exists_eq_add_of_le' (show 3 ≤ fuel by omega)
      have hvalue := readValue_pretty j (level + 1) (depth + 1) n _ hj
        (endsNumber_prettyMembers (depth + 1) depth ms ('\x7d' :: rest)) (by omega)
      have hmember := readMember_of_reads (k := k) (skipSpace_pretty_append hj _ _) hvalue
      have hmembers := readMembers_pretty ms (level + 1) (depth + 1) depth (n + 1) rest hms (by omega)
      exact readValue_object hdepth (readFirstMember_of_reads
        (by rw [skipSpace_newline_append, skipSpace_cons (by decide)]) hmember hmembers)

theorem readItems_pretty : ∀ (js : List Json) (level depth outer fuel : Nat) (rest : List Char),
    (∀ j ∈ js, IsPlain level j) → 2 * (prettyItems depth js).length + 1 ≤ fuel →
    readItems fuel level (prettyItems depth js ++ (newline outer ++ ']' :: rest)) = .ok (js, rest)
  | [], level, depth, outer, fuel, rest, _, hfuel => by
    obtain ⟨n, rfl⟩ := Nat.exists_eq_add_of_le' (show 1 ≤ fuel by omega)
    rw [prettyItems, List.nil_append, readItems, skipSpace_newline_append, skipSpace_cons (by decide)]
    rfl
  | j :: js, level, depth, outer, fuel, rest, h, hfuel => by
    obtain ⟨hj, hjs⟩ := List.forall_mem_cons.1 h
    obtain ⟨c, t, ht, hc, hne⟩ := exists_pretty_eq_cons hj depth
    rw [prettyItems] at hfuel ⊢
    simp only [List.cons_append, List.append_assoc, List.length_cons, List.length_append] at hfuel ⊢
    obtain ⟨n, rfl⟩ := Nat.exists_eq_add_of_le' (show 1 ≤ fuel by omega)
    have hvalue := readValue_pretty j level depth n _ hj
      (endsNumber_prettyItems depth outer js (']' :: rest)) (by omega)
    have hitems := readItems_pretty js level depth outer n rest hjs (by omega)
    rw [ht, List.cons_append] at hvalue ⊢
    exact readItems_of_reads (by rw [skipSpace_newline_append, skipSpace_cons hc]) hne hvalue hitems

theorem readMembers_pretty : ∀ (ms : List (String × Json)) (level depth outer fuel : Nat)
    (rest : List Char),
    (∀ m ∈ ms, IsPlain level m.2) → 2 * (prettyMembers depth ms).length + 1 ≤ fuel →
    readMembers fuel level (prettyMembers depth ms ++ (newline outer ++ '\x7d' :: rest)) =
      .ok (ms, rest)
  | [], level, depth, outer, fuel, rest, _, hfuel => by
    obtain ⟨n, rfl⟩ := Nat.exists_eq_add_of_le' (show 1 ≤ fuel by omega)
    rw [prettyMembers, List.nil_append, readMembers, skipSpace_newline_append,
      skipSpace_cons (by decide)]
    rfl
  | (k, j) :: ms, level, depth, outer, fuel, rest, h, hfuel => by
    obtain ⟨hj, hms⟩ := List.forall_mem_cons.1 h
    rw [prettyMembers, stringText] at hfuel ⊢
    simp only [List.cons_append, List.append_assoc, List.nil_append, List.length_cons,
      List.length_append] at hfuel ⊢
    obtain ⟨n, rfl⟩ := Nat.exists_eq_add_of_le' (show 2 ≤ fuel by omega)
    have hvalue := readValue_pretty j level depth n _ hj
      (endsNumber_prettyMembers depth outer ms ('\x7d' :: rest)) (by omega)
    have hmember := readMember_of_reads (k := k) (skipSpace_pretty_append hj _ _) hvalue
    have hmembers := readMembers_pretty ms level depth outer (n + 1) rest hms (by omega)
    exact readMembers_of_reads (by rw [skipSpace_newline_append, skipSpace_cons (by decide)]) hmember
      hmembers

end

/-- The long form of a value is a JSON text, and it is the text of that value. -/
theorem read_toPretty {j : Json} (h : IsPlain 0 j) : read j.toPretty = .ok j := by
  have hread := readValue_pretty j 0 0 (2 * (pretty 0 j).length + 2) [] h (fun c hc => nomatch hc)
    (by omega)
  rw [List.append_nil] at hread
  rw [read, toPretty, String.toList_ofList]
  simp only [hread, bind, Except.bind]
  rfl

end SmokeSuite.Json
