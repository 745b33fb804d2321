import SmokeSuite.Expectation
import SmokeSuite.Proofs.Text.Words
import SmokeSuite.Text.Quoted

namespace SmokeSuite.Text

def IsOneLine (s : String) : Prop := '\n' ∉ s.toList

instance (s : String) : Decidable (IsOneLine s) := inferInstanceAs (Decidable ('\n' ∉ s.toList))

/-- Lines, each with its end. -/
def unlines (ls : List String) : String := String.join (ls.map (· ++ "\n"))

theorem isOneLine_ofList {s : List Char} : IsOneLine (String.ofList s) ↔ '\n' ∉ s := by
  rw [IsOneLine, String.toList_ofList]

theorem notMem_append {c : Char} {s t : String} :
    c ∉ (s ++ t).toList ↔ c ∉ s.toList ∧ c ∉ t.toList := by
  rw [String.toList_append, List.mem_append, not_or]

theorem isOneLine_append {s t : String} : IsOneLine (s ++ t) ↔ IsOneLine s ∧ IsOneLine t := notMem_append

theorem isOneLine_join {ls : List String} : IsOneLine (String.join ls) ↔ ∀ l ∈ ls, IsOneLine l := by
  simp [IsOneLine, String.toList_join]

/-- There is a line feed for each line, besides those that the lines hold themselves. -/
theorem count_unlines (ls : List String) :
    (unlines ls).toList.count '\n' = ls.length + (String.join ls).toList.count '\n' := by
  induction ls with
  | nil => rfl
  | cons l ls ih =>
    have hcons : (unlines (l :: ls)).toList = l.toList ++ '\n' :: (unlines ls).toList := by
      simp [unlines]
    have hjoin : (String.join (l :: ls)).toList = l.toList ++ (String.join ls).toList := by simp
    rw [hcons, hjoin, List.count_append, List.count_append, List.count_cons_self, ih,
      List.length_cons]
    omega

/-- A text that consists of some lines is not the text of as many pieces that hold more. -/
theorem isOneLine_of_unlines_eq {ls ks : List String} (h : unlines ls = unlines ks)
    (hlength : ls.length = ks.length) (hks : ∀ k ∈ ks, IsOneLine k) : ∀ l ∈ ls, IsOneLine l := by
  have hcount := congrArg (·.toList.count '\n') h
  have hnone : (String.join ks).toList.count '\n' = 0 := List.count_eq_zero.2 (isOneLine_join.2 hks)
  simp only [count_unlines, hnone] at hcount
  exact isOneLine_join.1 (List.count_eq_zero.1 (by omega))

theorem notMem_toDigits {base : Nat} (hbase : 1 < base) (n : Nat) : '\n' ∉ Nat.toDigits base n := by
  have hdigit (d : Nat) : '\n' ≠ Nat.digitChar d := (Nat.digitChar_ne '\n' (by decide)).symm
  induction n using Nat.strongRecOn with
  | ind n ih =>
    rw [Nat.toDigits_eq_if hbase]
    split
    · exact mt List.mem_singleton.1 (hdigit n)
    · next hn =>
      have hrest := ih (n / base) (Nat.div_lt_self (by omega) hbase)
      rw [List.mem_append]
      exact not_or.2 ⟨hrest, mt List.mem_singleton.1 (hdigit (n % base))⟩

theorem isOneLine_toString (n : Nat) : IsOneLine (toString n) := by
  have hdigits : (toString n).toList = Nat.toDigits 10 n := Nat.toList_repr
  rw [IsOneLine, hdigits]
  exact notMem_toDigits (by decide) n

/-- Replacing brings in nothing but what is put in. -/
theorem mem_replaceAll {c : Char} {old new : List Char} {s : List Char} (h : c ∈ replaceAll old new s) :
    c ∈ new ∨ c ∈ s := by
  fun_induction replaceAll old new s with
  | case1 => exact absurd h List.not_mem_nil
  | case2 d s r hr hold ih =>
    rcases List.mem_cons.1 h with rfl | h
    · exact .inr List.mem_cons_self
    · exact (ih h).imp_right (List.mem_cons_of_mem d)
  | case3 d s r hr hold ih =>
    rcases List.mem_append.1 h with h | h
    · exact .inl h
    · rw [dropPrefix?_eq_some.1 hr]
      exact (ih h).imp_right (List.mem_append_right old)
  | case4 d s hr ih =>
    rcases List.mem_cons.1 h with rfl | h
    · exact .inr List.mem_cons_self
    · exact (ih h).imp_right (List.mem_cons_of_mem d)

theorem isOneLine_replaceText {old new s : String} (hnew : IsOneLine new) (hs : IsOneLine s) :
    IsOneLine (replaceText old new s) := by
  rw [replaceText, isOneLine_ofList]
  intro h
  rcases mem_replaceAll h with h | h
  · exact hnew h
  · exact hs h

theorem notMem_quotedChar (c : Char) : '\n' ∉ quotedChar c := by
  unfold quotedChar
  split
  all_goals try decide
  next hc _ _ =>
  split
  · simpa [eq_comm] using hc
  · simp [hexDigits, notMem_toDigits]

/-- In quotes every text stays on one line. -/
theorem notMem_quoted (s : List Char) : '\n' ∉ quoted s := by
  simp [quoted, notMem_quotedChar]

theorem notMem_of_getElem?_words {n : Nat} {w s : List Char} (h : (words s)[n]? = some w) : '\n' ∉ w := by
  obtain ⟨-, -, -, -, -, -, -, hw, -⟩ := getElem?_words_iff.1 h
  intro hmem
  exact absurd (hw.solid '\n' hmem) (by decide)

end SmokeSuite.Text
