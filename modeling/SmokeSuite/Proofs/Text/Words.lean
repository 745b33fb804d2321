import SmokeSuite.Proofs.Text.Trimming

namespace SmokeSuite.Text

structure IsWord (w : List Char) : Prop where
  ne_nil : w ≠ []
  solid : ∀ c ∈ w, isBlank c = false

/-- White space between two words. -/
structure IsSpacing (g : List Char) : Prop where
  ne_nil : g ≠ []
  blank : AllBlank g

/-- A word ends with the text, or where white space follows. -/
def EndsWord (r : List Char) : Prop := ∀ c, r.head? = some c → isBlank c = true

/-- A text in which a word stands behind some others. -/
def StandsAt (n : Nat) (w text : List Char) : Prop :=
  ∃ (gap : List Char) (earlier : List (List Char × List Char)) (rest : List Char),
    text = gap ++ earlier.flatMap (fun p => p.1 ++ p.2) ++ w ++ rest ∧ AllBlank gap ∧
      earlier.length = n ∧ (∀ p ∈ earlier, IsWord p.1 ∧ IsSpacing p.2) ∧ IsWord w ∧ EndsWord rest

theorem words_cons_of_blank {c : Char} (hc : isBlank c = true) (s : List Char) :
    words (c :: s) = words s := by
  -- the equations of `words` look one letter ahead, and here it does not matter what is there
  rw [words.eq_def]
  exact if_pos hc

theorem words_single {c : Char} (hc : isBlank c = false) : words [c] = [[c]] := by
  rw [words.eq_def]
  simp only [hc, Bool.false_eq_true, if_false]

/-- A letter with white space behind it is a word. -/
theorem words_letter {c d : Char} (hc : isBlank c = false) (hd : isBlank d = true) (s : List Char) :
    words (c :: d :: s) = [c] :: words (d :: s) := by
  simp [words.eq_def (c :: d :: s), hc, hd]

/-- A letter with another one behind it goes on with the word of that. -/
theorem exists_words_letters {c d : Char} (hc : isBlank c = false) (hd : isBlank d = false)
    (s : List Char) : ∃ w ws, words (d :: s) = w :: ws ∧ words (c :: d :: s) = (c :: w) :: ws := by
  have hne : words (d :: s) ≠ [] := by
    rw [words.eq_def]
    simp only [hd, Bool.false_eq_true, if_false]
    split
    · simp
    · split
      · simp
      · split <;> simp
  obtain ⟨w, ws, hw⟩ := List.exists_cons_of_ne_nil hne
  refine ⟨w, ws, hw, ?_⟩
  rw [words.eq_def (c :: d :: s)]
  simp only [hc, hd, hw, Bool.false_eq_true, if_false]

/-- White space cuts a text in two, as to its words. -/
theorem words_append_blank {c : Char} (hc : isBlank c = true) (x y : List Char) :
    words (x ++ c :: y) = words x ++ words y := by
  induction x with
  | nil => exact words_cons_of_blank hc y
  | cons a x ih =>
    cases ha : isBlank a with
    | true => rw [List.cons_append, words_cons_of_blank ha, words_cons_of_blank ha, ih]
    | false =>
      cases x with
      | nil =>
        rw [List.singleton_append, words_letter ha hc, words_cons_of_blank hc, words_single ha]
        rfl
      | cons d x =>
        rw [List.cons_append] at ih
        rw [List.cons_append, List.cons_append]
        cases hd : isBlank d with
        | true => rw [words_letter ha hd, words_letter ha hd, ih, List.cons_append]
        | false =>
          obtain ⟨w, ws, hw, hletters⟩ := exists_words_letters ha hd x
          obtain ⟨v, vs, hv, hlonger⟩ := exists_words_letters ha hd (x ++ c :: y)
          rw [hv, hw] at ih
          obtain ⟨rfl, rfl⟩ := List.cons.inj ih
          rw [hlonger, hletters]
          rfl

theorem words_of_allBlank {g : List Char} (h : AllBlank g) : words g = [] := by
  induction g with
  | nil => rfl
  | cons c g ih =>
    obtain ⟨hc, hg⟩ := List.forall_mem_cons.1 h
    rw [words_cons_of_blank hc, ih hg]

theorem words_allBlank_append {g : List Char} (h : AllBlank g) (s : List Char) :
    words (g ++ s) = words s := by
  induction g with
  | nil => rfl
  | cons c g ih =>
    obtain ⟨hc, hg⟩ := List.forall_mem_cons.1 h
    rw [List.cons_append, words_cons_of_blank hc, ih hg]

theorem words_of_isWord {w : List Char} (h : IsWord w) : words w = [w] := by
  obtain ⟨hne, hsolid⟩ := h
  induction w with
  | nil => exact absurd rfl hne
  | cons c w ih =>
    obtain ⟨hc, hw⟩ := List.forall_mem_cons.1 hsolid
    cases w with
    | nil => exact words_single hc
    | cons d w =>
      have hd : isBlank d = false := hw d List.mem_cons_self
      have hrest : words (d :: w) = [d :: w] := ih (List.cons_ne_nil d w) hw
      obtain ⟨v, vs, hv, hletters⟩ := exists_words_letters hc hd w
      rw [hrest] at hv
      obtain ⟨rfl, rfl⟩ := List.cons.inj hv
      exact hletters

theorem words_append_of_isWord {w r : List Char} (hw : IsWord w) (hr : EndsWord r) :
    words (w ++ r) = w :: words r := by
  cases r with
  | nil =>
    rw [List.append_nil]
    exact words_of_isWord hw
  | cons c r =>
    have hc : isBlank c = true := hr c rfl
    rw [words_append_blank hc, words_of_isWord hw, words_cons_of_blank hc]
    rfl

theorem IsSpacing.endsWord {g : List Char} (h : IsSpacing g) (r : List Char) : EndsWord (g ++ r) := by
  obtain ⟨c, t, rfl⟩ := List.exists_cons_of_ne_nil h.ne_nil
  intro d hd
  cases hd
  exact h.blank c List.mem_cons_self

/-- The words do not tell how much white space stood between them. -/
theorem words_append_spacing {g : List Char} (h : IsSpacing g) (x y : List Char) :
    words (x ++ g ++ y) = words x ++ words y := by
  obtain ⟨c, t, rfl⟩ := List.exists_cons_of_ne_nil h.ne_nil
  obtain ⟨hc, ht⟩ := List.forall_mem_cons.1 h.blank
  rw [List.append_assoc, List.cons_append, words_append_blank hc, words_allBlank_append ht]

/-- The first word of a text, if it has one. -/
theorem exists_first_word (s : List Char) :
    AllBlank s ∨ ∃ g w r, s = g ++ (w ++ r) ∧ AllBlank g ∧ IsWord w ∧ EndsWord r := by
  obtain ⟨g, hg, hs⟩ := exists_trimStart s
  cases ht : trimStart s with
  | nil =>
    left
    rw [hs, ht, List.append_nil]
    exact hg
  | cons c t =>
    right
    have hc : isBlank c = false := isBlank_head?_trimStart (s := s) (by rw [ht]; rfl)
    refine ⟨g, (c :: t).takeWhile (!isBlank ·), (c :: t).dropWhile (!isBlank ·), ?_, hg, ⟨?_, ?_⟩, ?_⟩
    · rw [List.takeWhile_append_dropWhile, ← ht]
      exact hs
    · rw [List.takeWhile_cons_of_pos (by simp [hc])]
      exact List.cons_ne_nil c _
    · intro d hd
      simpa using List.mem_takeWhile_imp hd
    · intro d hd
      have hnot := List.head?_dropWhile_not (!isBlank ·) (c :: t)
      rw [hd] at hnot
      simpa using hnot

theorem getElem?_words_of_standsAt {n : Nat} {w s : List Char} (h : StandsAt n w s) :
    (words s)[n]? = some w := by
  obtain ⟨gap, earlier, rest, rfl, hgap, rfl, hearlier, hw, hrest⟩ := h
  have hwords : words (earlier.flatMap (fun p => p.1 ++ p.2) ++ (w ++ rest)) =
      earlier.map (·.1) ++ w :: words rest := by
    induction earlier with
    | nil => exact words_append_of_isWord hw hrest
    | cons p earlier ih =>
      obtain ⟨⟨hword, hspacing⟩, hlater⟩ := List.forall_mem_cons.1 hearlier
      rw [List.flatMap_cons, List.append_assoc, List.append_assoc,
        words_append_of_isWord hword (hspacing.endsWord _), words_allBlank_append hspacing.blank,
        ih hlater]
      rfl
  rw [List.append_assoc, List.append_assoc, words_allBlank_append hgap, hwords,
    List.getElem?_append_right (by simp)]
  simp

theorem standsAt_of_getElem?_words {n : Nat} {w s : List Char} (h : (words s)[n]? = some w) :
    StandsAt n w s := by
  induction n generalizing s with
  | zero =>
    rcases exists_first_word s with hs | ⟨g, t, r, rfl, hg, ht, hr⟩
    · rw [words_of_allBlank hs] at h
      cases h
    · rw [words_allBlank_append hg, words_append_of_isWord ht hr] at h
      cases h
      exact ⟨g, [], r, by simp, hg, rfl, by simp, ht, hr⟩
  | succ n ih =>
    rcases exists_first_word s with hs | ⟨g, t, r, rfl, hg, ht, hr⟩
    · rw [words_of_allBlank hs] at h
      cases h
    · rw [words_allBlank_append hg, words_append_of_isWord ht hr, List.getElem?_cons_succ] at h
      cases r with
      | nil => cases h
      | cons c r =>
        have hc : isBlank c = true := hr c rfl
        rw [words_cons_of_blank hc] at h
        obtain ⟨gap, earlier, rest, rfl, hgap, hn, hearlier, hw, hrest⟩ := ih h
        have hspacing : IsSpacing (c :: gap) :=
          ⟨List.cons_ne_nil c gap, List.forall_mem_cons.2 ⟨hc, hgap⟩⟩
        refine ⟨g, (t, c :: gap) :: earlier, rest, by simp, hg, by simp [hn], ?_, hw, hrest⟩
        exact List.forall_mem_cons.2 ⟨⟨ht, hspacing⟩, hearlier⟩

theorem getElem?_words_iff {n : Nat} {w s : List Char} : (words s)[n]? = some w ↔ StandsAt n w s :=
  ⟨standsAt_of_getElem?_words, getElem?_words_of_standsAt⟩

end SmokeSuite.Text
