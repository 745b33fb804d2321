import SmokeSuite.Proofs.Decimal.Whole
import SmokeSuite.Proofs.Text.Lines
import SmokeSuite.Proofs.Text.Words
import SmokeSuite.Tally
import Mathlib.Data.List.Nodup

namespace SmokeSuite

namespace Tally

/-- What verdicts are counted as, in the order in which the counts are told. -/
inductive Kind where
  | failed
  | passed
  | skipped
  | xfailed
  | xpassed
  deriving DecidableEq

def Kind.all : List Kind := [.failed, .passed, .skipped, .xfailed, .xpassed]

def Kind.label : Kind → String
  | .failed => "failed"
  | .passed => "passed"
  | .skipped => "skipped"
  | .xfailed => "xfailed"
  | .xpassed => "xpassed"

def amount (t : Tally) : Kind → Nat
  | .failed => t.failed
  | .passed => t.passed
  | .skipped => t.skipped
  | .xfailed => t.xfailed
  | .xpassed => t.xpassed

/-- A text that tells the counts of a tally. -/
inductive IsTold (t : Tally) : String → Prop where
  | nothing : (∀ k, t.amount k = 0) → IsTold t "no checks ran"
  | counts (parts : List (Kind × String)) :
      parts ≠ [] →
      (parts.map (·.1)).Sublist Kind.all →
      (∀ k, k ∈ parts.map (·.1) ↔ t.amount k ≠ 0) →
      (∀ p ∈ parts, Decimal.IsNumeral p.2.toList (t.amount p.1)) →
      IsTold t (", ".intercalate (parts.map fun p => p.2 ++ " " ++ p.1.label))

theorem Kind.mem_all (k : Kind) : k ∈ all := by cases k <;> decide

theorem Kind.nodup_all : all.Nodup := by decide

theorem Kind.label_injective : Function.Injective label := by
  intro j k
  cases j <;> cases k <;> decide

theorem eq_of_amount {s t : Tally} (h : ∀ k, s.amount k = t.amount k) : s = t := by
  obtain ⟨_, _, _, _, _⟩ := s
  obtain ⟨_, _, _, _, _⟩ := t
  have hfailed := h .failed
  have hpassed := h .passed
  have hskipped := h .skipped
  have hxfailed := h .xfailed
  have hxpassed := h .xpassed
  simp only [amount] at *
  simp only [*]

/-- The kinds that are told. -/
def present (t : Tally) : List Kind := Kind.all.filter (t.amount · > 0)

def entry (t : Tally) (k : Kind) : String := toString (t.amount k) ++ " " ++ k.label

theorem mem_present {t : Tally} {k : Kind} : k ∈ t.present ↔ t.amount k ≠ 0 := by
  rw [present, List.mem_filter, and_iff_right k.mem_all, decide_eq_true_eq]
  exact Nat.pos_iff_ne_zero

theorem present_eq_nil_iff {t : Tally} : t.present = [] ↔ ∀ k, t.amount k = 0 := by
  simp only [List.eq_nil_iff_forall_not_mem, mem_present, not_not]

theorem toText_eq (t : Tally) :
    t.toText = if t.present = [] then "no checks ran" else ", ".intercalate (t.present.map t.entry) := by
  have hparts : (t.labelled.filter (·.1 > 0)).map (fun p => toString p.1 ++ " " ++ p.2) =
      t.present.map t.entry := by
    have hlabelled : t.labelled = Kind.all.map fun k => (t.amount k, k.label) := rfl
    rw [hlabelled, List.filter_map, List.map_map]
    rfl
  rw [toText]
  dsimp only
  rw [hparts]
  simp only [List.isEmpty_iff, List.map_eq_nil_iff]

/-- Kinds in their order, each once, are known from which of them there are. -/
theorem eq_present {t : Tally} {ks : List Kind} (horder : ks.Sublist Kind.all)
    (hmem : ∀ k, k ∈ ks ↔ t.amount k ≠ 0) : ks = t.present := by
  have hself : ks.filter (t.amount · > 0) = ks := by
    refine List.filter_eq_self.2 fun k hk => ?_
    exact decide_eq_true (Nat.pos_of_ne_zero ((hmem k).1 hk))
  have hsublist : ks.Sublist t.present := hself ▸ horder.filter (t.amount · > 0)
  have hperm : ks.Perm t.present := by
    refine (List.perm_ext_iff_of_nodup (Kind.nodup_all.sublist horder)
      (Kind.nodup_all.filter _)).2 fun k => ?_
    rw [hmem, ← mem_present]
    rfl
  exact hsublist.eq_of_length hperm.length_eq

/-- The rules leave no choice: the kinds are the present ones, and each number has one numeral. -/
theorem eq_toText_of_isTold {t : Tally} {s : String} (h : t.IsTold s) : s = t.toText := by
  rw [toText_eq]
  cases h with
  | nothing hzero => rw [if_pos (present_eq_nil_iff.2 hzero)]
  | counts parts hne horder hmem hnumerals =>
    have hkinds : parts.map (·.1) = t.present := eq_present horder hmem
    have hpresent : t.present ≠ [] := by
      rw [← hkinds]
      simpa using hne
    have hentries : parts.map (fun p => p.2 ++ " " ++ p.1.label) = t.present.map t.entry := by
      rw [← hkinds, List.map_map]
      refine List.map_congr_left fun p hp => ?_
      have hdigits : p.2 = toString (t.amount p.1) := Decimal.isNumeral_toList_iff.1 (hnumerals p hp)
      rw [hdigits]
      rfl
    rw [if_neg hpresent, hentries]

theorem isTold_toText (t : Tally) : t.IsTold t.toText := by
  rw [toText_eq]
  split
  · next hnone => exact .nothing (present_eq_nil_iff.1 hnone)
  · next hsome =>
    let parts := t.present.map fun k => (k, toString (t.amount k))
    have hkinds : parts.map (·.1) = t.present := by
      rw [List.map_map]
      exact List.map_id t.present
    have hentries : parts.map (fun p => p.2 ++ " " ++ p.1.label) = t.present.map t.entry := by
      rw [List.map_map]
      rfl
    rw [← hentries]
    apply IsTold.counts
    · simpa [parts] using hsome
    · rw [hkinds]
      exact List.filter_sublist
    · intro k
      rw [hkinds]
      exact mem_present
    · intro p hp
      obtain ⟨k, -, rfl⟩ := List.mem_map.1 hp
      exact Decimal.isNumeral_toList_iff.2 rfl

def readPart? (s : List Char) : Option (String × Nat) :=
  match Text.words s with
  | [digits, label] => some (String.ofList label, Decimal.ofDigits digits)
  | _ => none

def readEntries (s : List Char) : List (String × Nat) := (Text.partsAt ',' s).filterMap readPart?

/-- Reads counts by their labels. A count that is not told is zero. -/
def ofText (s : String) : Tally :=
  let amount (k : Kind) := ((readEntries s.toList).lookup k.label).getD 0
  { passed := amount .passed
    failed := amount .failed
    skipped := amount .skipped
    xfailed := amount .xfailed
    xpassed := amount .xpassed }

theorem amount_ofText (s : String) (k : Kind) :
    (ofText s).amount k = ((readEntries s.toList).lookup k.label).getD 0 := by
  cases k <;> rfl

theorem isAlphanum_of_mem_label {k : Kind} {c : Char} (h : c ∈ k.label.toList) :
    c.isAlphanum = true := by
  have hall : k.label.toList.all Char.isAlphanum = true := by cases k <;> decide
  exact List.all_eq_true.1 hall c h

theorem isAlphanum_of_mem_toDigits {n : Nat} {c : Char} (h : c ∈ Nat.toDigits 10 n) :
    c.isAlphanum = true := by
  rw [Char.isAlphanum, Decimal.isDigit_of_mem_toDigits n c h, Bool.or_true]

theorem isBlank_of_isDigit {c : Char} (h : c.isDigit = true) : Text.isBlank c = false := by
  have hbounds := Decimal.toNat_bounds_of_isDigit h
  simp only [Text.isBlank, Bool.or_eq_false_iff, Bool.and_eq_false_imp, beq_eq_false_iff_ne,
    decide_eq_true_eq, decide_eq_false_iff_not]
  omega

theorem isWord_label (k : Kind) : Text.IsWord k.label.toList where
  ne_nil := by cases k <;> decide
  solid c hc := by
    have hall : k.label.toList.all (!Text.isBlank ·) = true := by cases k <;> decide
    simpa using List.all_eq_true.1 hall c hc

theorem isWord_toDigits (n : Nat) : Text.IsWord (Nat.toDigits 10 n) where
  ne_nil := Nat.toDigits_ne_nil
  solid c hc := isBlank_of_isDigit (Decimal.isDigit_of_mem_toDigits n c hc)

theorem toList_entry (t : Tally) (k : Kind) :
    (t.entry k).toList = Nat.toDigits 10 (t.amount k) ++ ' ' :: k.label.toList := by
  have hdigits : (toString (t.amount k)).toList = Nat.toDigits 10 (t.amount k) := Nat.toList_repr
  rw [entry, String.toList_append, String.toList_append, hdigits, List.append_assoc]
  rfl

theorem mem_entry {t : Tally} {k : Kind} {c : Char} (h : c ∈ (t.entry k).toList) :
    c.isAlphanum = true ∨ c = ' ' := by
  rw [toList_entry, List.mem_append, List.mem_cons] at h
  rcases h with h | h | h
  · exact .inl (isAlphanum_of_mem_toDigits h)
  · exact .inr h
  · exact .inl (isAlphanum_of_mem_label h)

theorem mem_toText {t : Tally} {c : Char} (h : c ∈ t.toText.toList) :
    c.isAlphanum = true ∨ c = ' ' ∨ c = ',' := by
  rw [toText_eq] at h
  split at h
  · have hall : "no checks ran".toList.all (fun c => c.isAlphanum || c == ' ') = true := by decide
    have hc := List.all_eq_true.1 hall c h
    rw [Bool.or_eq_true, beq_iff_eq] at hc
    exact hc.imp_right .inl
  · rw [String.toList_intercalate] at h
    rcases Text.mem_of_mem_intercalate h with h | ⟨l, hl, h⟩
    · have hseparator : c = ',' ∨ c = ' ' := by simpa using h
      exact .inr hseparator.symm
    · obtain ⟨e, he, rfl⟩ := List.mem_map.1 hl
      obtain ⟨k, -, rfl⟩ := List.mem_map.1 he
      exact (mem_entry h).imp_right .inl

theorem readPart?_entry (t : Tally) (k : Kind) :
    readPart? (t.entry k).toList = some (k.label, t.amount k) := by
  have hwords : Text.words (t.entry k).toList = [Nat.toDigits 10 (t.amount k), k.label.toList] := by
    rw [toList_entry, Text.words_append_blank (by decide), Text.words_of_isWord (isWord_toDigits _),
      Text.words_of_isWord (isWord_label k)]
    rfl
  rw [readPart?, hwords]
  simp only [String.ofList_toList, Decimal.ofDigits_toDigits]

theorem readPart?_blank (s : List Char) : readPart? (' ' :: s) = readPart? s := by
  rw [readPart?, Text.words_cons_of_blank (by decide)]
  rfl

/-- A blank in front does not matter, so the parts may be taken at the comma alone. -/
theorem readEntries_blank (s : List Char) : readEntries (' ' :: s) = readEntries s := by
  obtain ⟨l, ls, hparts⟩ := List.exists_cons_of_ne_nil (@Text.partsAt_ne_nil ',' s)
  rw [readEntries, readEntries, Text.partsAt, if_neg (by decide), hparts, Text.consLine,
    List.filterMap_cons, List.filterMap_cons, readPart?_blank]

theorem readEntries_entry (t : Tally) (k : Kind) :
    readEntries (t.entry k).toList = [(k.label, t.amount k)] := by
  have hk : ',' ∉ (t.entry k).toList := fun h => absurd (mem_entry h) (by decide)
  rw [readEntries, Text.partsAt_of_notMem hk, List.filterMap_cons, readPart?_entry]
  rfl

theorem readEntries_append (t : Tally) (k : Kind) (s : List Char) :
    readEntries ((t.entry k).toList ++ ',' :: ' ' :: s) = (k.label, t.amount k) :: readEntries s := by
  have hk : ',' ∉ (t.entry k).toList := fun h => absurd (mem_entry h) (by decide)
  rw [readEntries, Text.partsAt_line hk, List.filterMap_cons, readPart?_entry]
  exact congrArg _ (readEntries_blank s)

theorem readEntries_intercalate (t : Tally) {ks : List Kind} (hne : ks ≠ []) :
    readEntries (", ".intercalate (ks.map t.entry)).toList =
      ks.map fun k => (k.label, t.amount k) := by
  induction ks with
  | nil => exact absurd rfl hne
  | cons k ks ih =>
    cases ks with
    | nil => exact readEntries_entry t k
    | cons j js =>
      have hrest := ih (List.cons_ne_nil j js)
      have hjoined : (", ".intercalate ((k :: j :: js).map t.entry)).toList = (t.entry k).toList ++
          ',' :: ' ' :: (", ".intercalate ((j :: js).map t.entry)).toList := by
        simp only [String.toList_intercalate, List.map_cons, List.intercalate_cons_cons,
          List.append_assoc]
        rfl
      rw [hjoined, readEntries_append, hrest]
      rfl

theorem lookup_map_label (f : Kind → Nat) (ks : List Kind) (k : Kind) :
    (ks.map fun k => (k.label, f k)).lookup k.label = if k ∈ ks then some (f k) else none := by
  induction ks with
  | nil => rfl
  | cons j ks ih =>
    rw [List.map_cons, List.lookup_cons, ih]
    by_cases hj : k = j
    · subst hj
      simp
    · have hlabel : (k.label == j.label) = false :=
        beq_eq_false_iff_ne.2 fun h => hj (Kind.label_injective h)
      rw [hlabel]
      simp [hj]

theorem readEntries_toText (t : Tally) :
    readEntries t.toText.toList = t.present.map fun k => (k.label, t.amount k) := by
  rw [toText_eq]
  split
  · next hnone =>
    have hnothing : readEntries "no checks ran".toList = [] := by decide
    rw [hnone, hnothing]
    rfl
  · next hsome => exact readEntries_intercalate t hsome

theorem ofText_toText (t : Tally) : ofText t.toText = t := by
  refine eq_of_amount fun k => ?_
  rw [amount_ofText, readEntries_toText, lookup_map_label]
  split
  · rfl
  · next hk => exact (not_not.1 (mt mem_present.2 hk)).symm

/-- The text of a tally lists the counts that are not zero, in order and in no other way, and all five
counts can be read back from it. -/
theorem toText_tells_counts (t : Tally) :
    (t.toText = "no checks ran" ↔ t = ⟨0, 0, 0, 0, 0⟩) ∧
    (∀ s, t.IsTold s ↔ s = t.toText) ∧
    (∀ u : Tally, u.toText = t.toText ↔ u = t) ∧
    ofText t.toText = t := by
  have hinjective (s u : Tally) : s.toText = u.toText ↔ s = u := by
    constructor
    · intro h
      rw [← ofText_toText s, h, ofText_toText u]
    · rintro rfl
      rfl
  have hzero : (⟨0, 0, 0, 0, 0⟩ : Tally).toText = "no checks ran" := by decide
  have htold (s : String) : t.IsTold s ↔ s = t.toText :=
    ⟨eq_toText_of_isTold, fun h => h ▸ isTold_toText t⟩
  refine ⟨?_, htold, fun u => hinjective u t, ofText_toText t⟩
  rw [← hzero]
  exact hinjective t _

end Tally

end SmokeSuite
