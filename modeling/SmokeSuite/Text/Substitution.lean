namespace SmokeSuite.Text

def dropPrefix? : List Char → List Char → Option (List Char)
  | [], s => some s
  | _ :: _, [] => none
  | p :: ps, c :: s => if p = c then dropPrefix? ps s else none

theorem dropPrefix?_eq_some {p s r : List Char} : dropPrefix? p s = some r ↔ s = p ++ r := by
  induction p generalizing s with
  | nil => simp [dropPrefix?, eq_comm]
  | cons a p ih =>
    cases s with
    | nil => simp [dropPrefix?]
    | cons c s =>
      by_cases h : a = c
      · simp [dropPrefix?, h, ih]
      · simp [dropPrefix?, h, Ne.symm h]

/-- Replaces each occurrence of `old`, which has at least one character. -/
def replaceAll (old : List Char) (new : List Char) : List Char → List Char
  | [] => []
  | c :: s =>
    match _h : dropPrefix? old (c :: s) with
    | some r => if old.isEmpty then c :: replaceAll old new s else new ++ replaceAll old new r
    | none => c :: replaceAll old new s
termination_by s => s.length
decreasing_by
  · simp
  · rename_i hne
    have h' := congrArg List.length (dropPrefix?_eq_some.1 _h)
    cases old with
    | nil => simp at hne
    | cons a t => simp at h' ⊢; omega
  · simp

end SmokeSuite.Text
