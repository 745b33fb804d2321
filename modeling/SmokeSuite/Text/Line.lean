namespace SmokeSuite.Text

def consLine (c : Char) : List (List Char) → List (List Char)
  | [] => [[c]]
  | l :: ls => (c :: l) :: ls

def lines : List Char → List (List Char)
  | [] => []
  | '\n' :: r => [] :: lines r
  | '\r' :: '\n' :: r => [] :: lines r
  | c :: r => consLine c (lines r)

def cutAt (sep : Char) : List Char → Option (List Char × List Char)
  | [] => none
  | c :: r =>
    if c = sep then some ([], r)
    else (cutAt sep r).map fun (before, after) => (c :: before, after)

def partsAt (sep : Char) : List Char → List (List Char)
  | [] => [[]]
  | c :: r =>
    if c = sep then [] :: partsAt sep r
    else consLine c (partsAt sep r)

theorem cutAt_eq_some {sep : Char} {s a b : List Char} (h : cutAt sep s = some (a, b)) :
    s = a ++ sep :: b ∧ sep ∉ a := by
  induction s generalizing a with
  | nil => simp [cutAt] at h
  | cons c r ih =>
    rw [cutAt] at h
    split at h
    · next hc => cases h; simp [hc]
    · next hc =>
      obtain ⟨⟨x, y⟩, hxy, he⟩ := Option.map_eq_some_iff.1 h
      cases he
      obtain ⟨hr, hn⟩ := ih hxy
      exact ⟨by simp [hr], by simp [hn, Ne.symm hc]⟩

theorem cutAt_eq_none {sep : Char} {s : List Char} : cutAt sep s = none ↔ sep ∉ s := by
  induction s with
  | nil => simp [cutAt]
  | cons c r ih =>
    by_cases hc : c = sep
    · simp [cutAt, hc]
    · simp [cutAt, hc, ih, Ne.symm hc]

end SmokeSuite.Text
