import SmokeSuite.Text.Blank
import Mathlib.Data.List.DropRight

namespace SmokeSuite.Text

/-- Nothing but white space. -/
def AllBlank (s : List Char) : Prop := ∀ c ∈ s, isBlank c = true

theorem trimStart_append_left {a : List Char} (h : AllBlank a) (s : List Char) :
    trimStart (a ++ s) = trimStart s := List.dropWhile_append_of_pos h

theorem trimEnd_append_right {b : List Char} (h : AllBlank b) (s : List Char) :
    trimEnd (s ++ b) = trimEnd s := by
  have hrev : AllBlank b.reverse := fun c hc => h c (List.mem_reverse.1 hc)
  unfold trimEnd
  rw [List.reverse_append, List.dropWhile_append_of_pos hrev]

theorem trim_append_left {a : List Char} (h : AllBlank a) (s : List Char) :
    trim (a ++ s) = trim s := by
  rw [trim, trimStart_append_left h, trim]

theorem trim_append_right {b : List Char} (h : AllBlank b) (s : List Char) :
    trim (s ++ b) = trim s := by
  have hcut : trimStart (s ++ b) = trimStart s ++ b ∨
      trimStart (s ++ b) = [] ∧ trimStart s = [] := by
    unfold trimStart
    rw [List.dropWhile_append]
    split
    · next hs => exact .inr ⟨List.dropWhile_eq_nil_iff.2 h, List.isEmpty_iff.1 hs⟩
    · exact .inl rfl
  rcases hcut with hcut | ⟨hcut, hs⟩
  · rw [trim, hcut, trimEnd_append_right h, trim]
  · rw [trim, hcut, trim, hs]

theorem exists_trimStart (s : List Char) : ∃ a, AllBlank a ∧ s = a ++ trimStart s :=
  ⟨s.takeWhile isBlank, fun _ hc => List.mem_takeWhile_imp hc,
    List.takeWhile_append_dropWhile.symm⟩

theorem exists_trimEnd (s : List Char) : ∃ b, AllBlank b ∧ s = trimEnd s ++ b := by
  refine ⟨(s.reverse.takeWhile isBlank).reverse, fun c hc => ?_, ?_⟩
  · exact List.mem_takeWhile_imp (List.mem_reverse.1 hc)
  · rw [trimEnd, ← List.reverse_append, List.takeWhile_append_dropWhile, List.reverse_reverse]

/-- A text is what trimming leaves of it, between white space. -/
theorem exists_trim (s : List Char) :
    ∃ a b, AllBlank a ∧ AllBlank b ∧ s = a ++ trim s ++ b := by
  obtain ⟨a, ha, hstart⟩ := exists_trimStart s
  obtain ⟨b, hb, hend⟩ := exists_trimEnd (trimStart s)
  refine ⟨a, b, ha, hb, ?_⟩
  rw [List.append_assoc, trim, ← hend]
  exact hstart

theorem mem_of_mem_trim {s : List Char} {c : Char} (h : c ∈ trim s) : c ∈ s := by
  obtain ⟨a, b, -, -, hs⟩ := exists_trim s
  rw [hs]
  exact List.mem_append_left b (List.mem_append_right a h)

theorem trim_trimStart (s : List Char) : trim (trimStart s) = trim s := by
  obtain ⟨a, ha, hs⟩ := exists_trimStart s
  have h := trim_append_left ha (trimStart s)
  rw [← hs] at h
  exact h.symm

theorem trim_trimEnd (s : List Char) : trim (trimEnd s) = trim s := by
  obtain ⟨b, hb, hs⟩ := exists_trimEnd s
  have h := trim_append_right hb (trimEnd s)
  rw [← hs] at h
  exact h.symm

theorem trim_trim (s : List Char) : trim (trim s) = trim s :=
  (trim_trimEnd (trimStart s)).trans (trim_trimStart s)

variable {c : Char}

theorem trimStart_append_cons (hc : isBlank c = false) (x y : List Char) :
    trimStart (x ++ c :: y) = trimStart x ++ c :: y := by
  have hcy : (c :: y).dropWhile isBlank = c :: y := List.dropWhile_cons_of_neg (by simp [hc])
  unfold trimStart
  rw [List.dropWhile_append, hcy]
  split
  · next hx =>
    rw [List.isEmpty_iff.1 hx]
    rfl
  · rfl

theorem trimEnd_append_cons (hc : isBlank c = false) (x y : List Char) :
    trimEnd (x ++ c :: y) = x ++ c :: trimEnd y := by
  have hreverse : (x ++ c :: y).reverse = y.reverse ++ c :: x.reverse := by simp
  have hstart := trimStart_append_cons hc y.reverse x.reverse
  unfold trimStart at hstart
  rw [trimEnd, hreverse, hstart]
  simp [trimEnd]

theorem trim_append_cons (hc : isBlank c = false) (x y : List Char) :
    trim (x ++ c :: y) = trimStart x ++ c :: trimEnd y := by
  rw [trim, trimStart_append_cons hc, trimEnd_append_cons hc]

theorem isBlank_head?_trimStart {s : List Char} (h : (trimStart s).head? = some c) :
    isBlank c = false := by
  have hnot := List.head?_dropWhile_not isBlank s
  unfold trimStart at h
  rw [h] at hnot
  exact hnot

theorem head?_trim (s : List Char) : (trim s).head? = (trimStart s).head? := by
  rw [trim]
  cases ht : trimStart s with
  | nil => rfl
  | cons c r =>
    have hc : isBlank c = false := isBlank_head?_trimStart (s := s) (by simp [ht])
    have hr : trimEnd (c :: r) = c :: trimEnd r := trimEnd_append_cons hc [] r
    rw [hr]
    rfl

end SmokeSuite.Text
