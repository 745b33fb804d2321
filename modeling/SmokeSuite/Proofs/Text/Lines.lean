import SmokeSuite.Text.Line

namespace SmokeSuite.Text

variable {sep : Char}

theorem partsAt_ne_nil (s : List Char) : partsAt sep s ≠ [] := by
  cases s with
  | nil => simp [partsAt]
  | cons c r =>
    rw [partsAt]
    split
    · simp
    · cases partsAt sep r <;> simp [consLine]

theorem consLine_append {ls : List (List Char)} (h : ls ≠ []) (c : Char) (ls' : List (List Char)) :
    consLine c (ls ++ ls') = consLine c ls ++ ls' := by
  cases ls with
  | nil => exact absurd rfl h
  | cons l ls => rfl

theorem partsAt_append (a b : List Char) :
    partsAt sep (a ++ sep :: b) = partsAt sep a ++ partsAt sep b := by
  induction a with
  | nil => simp [partsAt]
  | cons c a ih =>
    rw [List.cons_append, partsAt, partsAt, ih]
    split
    · rfl
    · exact consLine_append (partsAt_ne_nil a) c _

theorem partsAt_of_notMem {s : List Char} (h : sep ∉ s) : partsAt sep s = [s] := by
  induction s with
  | nil => rfl
  | cons c s ih =>
    obtain ⟨hc, hs⟩ := not_or.1 (mt List.mem_cons.2 h)
    rw [partsAt, if_neg (Ne.symm hc), ih hs]
    rfl

theorem partsAt_line {l : List Char} (h : sep ∉ l) (r : List Char) :
    partsAt sep (l ++ sep :: r) = l :: partsAt sep r := by
  rw [partsAt_append, partsAt_of_notMem h]
  rfl

theorem cutAt_append {a : List Char} (h : sep ∉ a) (b : List Char) :
    cutAt sep (a ++ sep :: b) = some (a, b) := by
  induction a with
  | nil => simp [cutAt]
  | cons c a ih =>
    obtain ⟨hc, ha⟩ := not_or.1 (mt List.mem_cons.2 h)
    rw [List.cons_append, cutAt, if_neg (Ne.symm hc), ih ha]
    rfl

/-- A text is one part, or a part, a separator and another text. -/
theorem partsAt_induction (sep : Char) {P : List Char → Prop} (last : ∀ l, sep ∉ l → P l)
    (line : ∀ l r, sep ∉ l → P r → P (l ++ sep :: r)) (s : List Char) : P s := by
  match hcut : cutAt sep s with
  | none => exact last s (cutAt_eq_none.1 hcut)
  | some (l, r) =>
    obtain ⟨hs, hl⟩ := cutAt_eq_some hcut
    have hr : P r := partsAt_induction sep last line r
    rw [hs]
    exact line l r hl hr
termination_by s.length
decreasing_by simp [hs]; omega

theorem notMem_of_mem_partsAt (s : List Char) : ∀ l ∈ partsAt sep s, sep ∉ l := by
  induction s using partsAt_induction sep with
  | last s hs =>
    rw [partsAt_of_notMem hs]
    exact List.forall_mem_singleton.2 hs
  | line l r hl ih =>
    rw [partsAt_line hl]
    exact List.forall_mem_cons.2 ⟨hl, ih⟩

/-- The parts, joined again. -/
theorem intercalate_partsAt (s : List Char) : [sep].intercalate (partsAt sep s) = s := by
  induction s using partsAt_induction sep with
  | last s hs =>
    rw [partsAt_of_notMem hs]
    exact List.intercalate_singleton
  | line l r hl ih =>
    have hne : partsAt sep r ≠ [] := partsAt_ne_nil r
    obtain ⟨a, as, has⟩ := List.exists_cons_of_ne_nil hne
    rw [partsAt_line hl, has, List.intercalate_cons_cons, ← has, ih, List.append_assoc]
    rfl

theorem partsAt_intercalate {ls : List (List Char)} (hne : ls ≠ []) (h : ∀ l ∈ ls, sep ∉ l) :
    partsAt sep ([sep].intercalate ls) = ls := by
  induction ls with
  | nil => exact absurd rfl hne
  | cons l ls ih =>
    obtain ⟨hl, hls⟩ := List.forall_mem_cons.1 h
    cases ls with
    | nil =>
      rw [List.intercalate_singleton]
      exact partsAt_of_notMem hl
    | cons k ks =>
      rw [List.intercalate_cons_cons, List.append_assoc, List.singleton_append, partsAt_line hl,
        ih (List.cons_ne_nil k ks) hls]

/-- Joining brings in nothing but the separator. -/
theorem mem_of_mem_intercalate {c : Char} {s : List Char} {ls : List (List Char)}
    (h : c ∈ s.intercalate ls) : c ∈ s ∨ ∃ l ∈ ls, c ∈ l := by
  induction ls with
  | nil => exact absurd h List.not_mem_nil
  | cons l ls ih =>
    cases ls with
    | nil =>
      rw [List.intercalate_singleton] at h
      exact .inr ⟨l, List.mem_cons_self, h⟩
    | cons k ks =>
      rw [List.intercalate_cons_cons, List.mem_append, List.mem_append] at h
      rcases h with (h | h) | h
      · exact .inr ⟨l, List.mem_cons_self, h⟩
      · exact .inl h
      · exact (ih h).imp_right fun ⟨m, hm, hc⟩ => ⟨m, List.mem_cons_of_mem l hm, hc⟩

/-- A line without the carriage return at its end. -/
def withoutReturn (l : List Char) : List Char := if l.getLast? = some '\r' then l.dropLast else l

theorem withoutReturn_cons {l : List Char} (h : l ≠ []) (c : Char) :
    withoutReturn (c :: l) = c :: withoutReturn l := by
  cases l with
  | nil => exact absurd rfl h
  | cons d l =>
    unfold withoutReturn
    rw [List.getLast?_cons_cons]
    split <;> rfl

/-- A character that ends no line belongs to the first one. -/
theorem lines_cons {c : Char} {r : List Char} (hc : c ≠ '\n') (h : c = '\r' → r.head? ≠ some '\n') :
    lines (c :: r) = consLine c (lines r) := by
  rw [lines]
  · exact hc
  · rintro s rfl rfl
    exact h rfl rfl

theorem lines_line {l : List Char} (h : '\n' ∉ l) (r : List Char) :
    lines (l ++ '\n' :: r) = withoutReturn l :: lines r := by
  induction l with
  | nil => simp [lines, withoutReturn]
  | cons c l ih =>
    obtain ⟨hc, hl⟩ := not_or.1 (mt List.mem_cons.2 h)
    cases l with
    | nil =>
      -- only here, directly before the line feed, does a carriage return belong to the line's end
      by_cases hr : c = '\r'
      · subst hr
        simp [lines, withoutReturn]
      · rw [List.cons_append, List.nil_append, lines_cons (Ne.symm hc) fun hcr => absurd hcr hr]
        simp [lines, withoutReturn, hr, consLine]
    | cons d l =>
      have hd : d ≠ '\n' := fun hd => hl (by simp [hd])
      rw [withoutReturn_cons (List.cons_ne_nil d l), List.cons_append,
        lines_cons (Ne.symm hc) fun _ => by simp [hd], ih hl]
      rfl

theorem lines_last {l : List Char} (h : '\n' ∉ l) (hne : l ≠ []) : lines l = [l] := by
  induction l with
  | nil => exact absurd rfl hne
  | cons c l ih =>
    obtain ⟨hc, hl⟩ := not_or.1 (mt List.mem_cons.2 h)
    rw [lines_cons (Ne.symm hc) fun _ hn => hl (List.mem_of_mem_head? hn)]
    cases l with
    | nil => rfl
    | cons d l =>
      rw [ih hl (List.cons_ne_nil d l)]
      rfl

/-- A reader of lines that skips the empty one and does not look at a carriage return at the end reads
the parts between line feeds. -/
theorem filterMap_lines {β : Type} {f : List Char → Option β} (hnil : f [] = none)
    (hreturn : ∀ l, f (l ++ ['\r']) = f l) (s : List Char) :
    (lines s).filterMap f = (partsAt '\n' s).filterMap f := by
  have hline (l : List Char) : f (withoutReturn l) = f l := by
    unfold withoutReturn
    split
    · next hl =>
      obtain ⟨k, rfl⟩ := List.getLast?_eq_some_iff.1 hl
      rw [List.dropLast_concat, hreturn]
    · rfl
  induction s using partsAt_induction '\n' with
  | last s hs =>
    rw [partsAt_of_notMem hs]
    by_cases hne : s = []
    · subst hne
      simp [lines, hnil]
    · rw [lines_last hs hne]
  | line l r hl ih =>
    rw [lines_line hl, partsAt_line hl, List.filterMap_cons, List.filterMap_cons, hline, ih]

end SmokeSuite.Text
