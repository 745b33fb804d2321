import SmokeSuite.Proofs.Text.Lines
import SmokeSuite.Text.Substitution

namespace SmokeSuite.Text

section ReplaceAll

variable {old new s : List Char}

theorem dropPrefix?_eq_none (h : ¬ old <+: s) : dropPrefix? old s = none := by
  cases hr : dropPrefix? old s with
  | none => rfl
  | some r => exact absurd ⟨r, (dropPrefix?_eq_some.1 hr).symm⟩ h

theorem replaceAll_append (hold : old ≠ []) (s : List Char) :
    replaceAll old new (old ++ s) = new ++ replaceAll old new s := by
  obtain ⟨c, t, rfl⟩ := List.exists_cons_of_ne_nil hold
  have hr : dropPrefix? (c :: t) (c :: (t ++ s)) = some s := dropPrefix?_eq_some.2 rfl
  rw [List.cons_append, replaceAll, hr]
  rfl

theorem replaceAll_cons {c : Char} (h : ¬ old <+: c :: s) :
    replaceAll old new (c :: s) = c :: replaceAll old new s := by
  rw [replaceAll, dropPrefix?_eq_none h]

/-- No occurrence begins where the first character of the piece is missing. -/
theorem replaceAll_append_of_notMem {c : Char} {t u : List Char} (hu : c ∉ u) (s : List Char) :
    replaceAll (c :: t) new (u ++ s) = u ++ replaceAll (c :: t) new s := by
  induction u with
  | nil => rfl
  | cons d u ih =>
    obtain ⟨hd, hu⟩ := not_or.1 (mt List.mem_cons.2 hu)
    rw [List.cons_append, replaceAll_cons fun h => hd (List.cons_prefix_cons.1 h).1, ih hu]
    rfl

theorem replaceAll_of_notMem {c : Char} (hold : c ∈ old) (hs : c ∉ s) : replaceAll old new s = s := by
  induction s with
  | nil => simp [replaceAll]
  | cons d s ih =>
    rw [replaceAll_cons fun h => hs (h.subset hold), ih (fun h => hs (List.mem_cons_of_mem d h))]

end ReplaceAll

/-- Whether no brace is opened between an open brace and the next closed one, if there is one. -/
def isFlat : List Char → Bool
  | [] => true
  | c :: s => (c != '{' || (cutAt '}' s).all (!·.1.contains '{')) && isFlat s

theorem isFlat_of_append {a s : List Char} (h : isFlat (a ++ s) = true) : isFlat s = true := by
  induction a with
  | nil => exact h
  | cons c a ih =>
    rw [List.cons_append, isFlat, Bool.and_eq_true] at h
    exact ih h.2

/-- What stands behind an open brace: no closed one, or one with no brace before it. -/
theorem exists_of_isFlat_open {s : List Char} (h : isFlat ('{' :: s) = true) :
    '}' ∉ s ∨ ∃ u v, s = u ++ '}' :: v ∧ '{' ∉ u ∧ '}' ∉ u := by
  cases hcut : cutAt '}' s with
  | none => exact .inl (cutAt_eq_none.1 hcut)
  | some p =>
    obtain ⟨u, v⟩ := p
    obtain ⟨hs, hu⟩ := cutAt_eq_some hcut
    rw [isFlat, hcut] at h
    exact .inr ⟨u, v, hs, by simpa using And.left (by simpa using h), hu⟩

/-- A name that is written in braces, and what stands in its place. -/
structure Placeholder where
  name : List Char
  value : List Char
  plain : '{' ∉ name ∧ '}' ∉ name := by decide

namespace Placeholder

def text (p : Placeholder) : List Char := '{' :: (p.name ++ ['}'])

theorem text_ne_nil (p : Placeholder) : p.text ≠ [] := List.cons_ne_nil _ _

/-- The placeholder that a text begins with, by its value, and what stands behind it. -/
def atStart? (ps : List Placeholder) (s : List Char) : Option (List Char × List Char) :=
  ps.findSome? fun p => (dropPrefix? p.text s).map (p.value, ·)

variable {ps : List Placeholder} {p : Placeholder} {s u : List Char}

theorem atStart?_eq_some {value rest : List Char} (h : atStart? ps s = some (value, rest)) :
    ∃ p ∈ ps, value = p.value ∧ s = p.text ++ rest := by
  obtain ⟨p, hp, hr⟩ := List.exists_of_findSome?_eq_some h
  obtain ⟨r, hr, he⟩ := Option.map_eq_some_iff.1 hr
  cases he
  exact ⟨p, hp, rfl, dropPrefix?_eq_some.1 hr⟩

theorem not_prefix_of_atStart?_eq_none (h : atStart? ps s = none) (hp : p ∈ ps) : ¬ p.text <+: s := by
  rintro ⟨rest, rfl⟩
  have hr : dropPrefix? p.text (p.text ++ rest) = some rest := dropPrefix?_eq_some.2 rfl
  have hnone := List.findSome?_eq_none_iff.1 h p hp
  rw [hr] at hnone
  cases hnone

/-- One pass over a text from the left. Each placeholder gives way to its value, which is not read again,
and all else is copied. -/
def expand (ps : List Placeholder) : List Char → List Char
  | [] => []
  | c :: s =>
    match _h : atStart? ps (c :: s) with
    | some (value, rest) => value ++ expand ps rest
    | none => c :: expand ps s
termination_by s => s.length
decreasing_by
  · obtain ⟨p, -, -, hs⟩ := atStart?_eq_some _h
    have hlength := congrArg List.length hs
    simp [text] at hlength ⊢
    omega
  · simp

/-- Replaces one placeholder after the other, each in the whole text. -/
def replaceInTurn (ps : List Placeholder) (s : List Char) : List Char :=
  ps.foldl (fun s p => replaceAll p.text p.value s) s

theorem replaceInTurn_of_notMem (hs : '}' ∉ s) : replaceInTurn ps s = s := by
  induction ps with
  | nil => rfl
  | cons p ps ih =>
    rw [replaceInTurn, List.foldl_cons, replaceAll_of_notMem (by simp [text]) hs]
    exact ih

theorem replaceInTurn_append_of_notMem (hu : '{' ∉ u) (s : List Char) :
    replaceInTurn ps (u ++ s) = u ++ replaceInTurn ps s := by
  induction ps generalizing s with
  | nil => rfl
  | cons p ps ih =>
    rw [replaceInTurn, List.foldl_cons, text, replaceAll_append_of_notMem hu]
    exact ih _

/-- Braces around something that is not the name of a placeholder are copied. -/
theorem replaceAll_braces (hu : '{' ∉ u ∧ '}' ∉ u) (hne : u ≠ p.name) (s : List Char) :
    replaceAll p.text p.value ('{' :: (u ++ '}' :: s)) =
      '{' :: (u ++ '}' :: replaceAll p.text p.value s) := by
  have hprefix : ¬ p.text <+: '{' :: (u ++ '}' :: s) := by
    rintro ⟨rest, hrest⟩
    have htail : p.name ++ '}' :: rest = u ++ '}' :: s := by simpa [text] using hrest
    have hcut := cutAt_append p.plain.2 rest
    rw [htail, cutAt_append hu.2] at hcut
    cases hcut
    exact hne rfl
  have hopen : '{' ∉ u ++ ['}'] := by simp [hu.1]
  rw [replaceAll_cons hprefix, List.append_cons, text, replaceAll_append_of_notMem hopen,
    List.append_assoc]
  rfl

theorem replaceInTurn_braces (hu : '{' ∉ u ∧ '}' ∉ u) (hne : ∀ p ∈ ps, u ≠ p.name) (s : List Char) :
    replaceInTurn ps ('{' :: (u ++ '}' :: s)) = '{' :: (u ++ '}' :: replaceInTurn ps s) := by
  induction ps generalizing s with
  | nil => rfl
  | cons p ps ih =>
    obtain ⟨hp, hps⟩ := List.forall_mem_cons.1 hne
    rw [replaceInTurn, List.foldl_cons, replaceAll_braces hu hp]
    exact ih hps _

/-- Placeholders of different names, whose values open no brace that a later one could begin with. -/
def AreIndependent (ps : List Placeholder) : Prop :=
  ps.Pairwise fun p q => p.name ≠ q.name ∧ '{' ∉ p.value

theorem replaceInTurn_text (h : AreIndependent ps) (hp : p ∈ ps) (s : List Char) :
    replaceInTurn ps (p.text ++ s) = p.value ++ replaceInTurn ps s := by
  induction ps generalizing s with
  | nil => cases hp
  | cons q ps ih =>
    obtain ⟨hq, hps⟩ := List.pairwise_cons.1 h
    rw [replaceInTurn, List.foldl_cons]
    rcases List.mem_cons.1 hp with rfl | hp
    · rw [replaceAll_append p.text_ne_nil]
      cases ps with
      | nil => rfl
      | cons r ps => exact replaceInTurn_append_of_notMem (hq r List.mem_cons_self).2 _
    · have htext (t : List Char) : p.text ++ t = '{' :: (p.name ++ '}' :: t) := by simp [text]
      rw [htext, replaceAll_braces p.plain (Ne.symm (hq p hp).1), ← htext]
      exact ih hps hp _

/-- Where no placeholder begins, no replacement makes one of what stands there. -/
theorem replaceInTurn_cons {c : Char} (hflat : isFlat (c :: s) = true)
    (hnone : ∀ p ∈ ps, ¬ p.text <+: c :: s) : replaceInTurn ps (c :: s) = c :: replaceInTurn ps s := by
  by_cases hc : c = '{'
  · subst hc
    rcases exists_of_isFlat_open hflat with hs | ⟨u, v, rfl, hu⟩
    · rw [replaceInTurn_of_notMem (by simp [hs]), replaceInTurn_of_notMem hs]
    · have hname : ∀ p ∈ ps, u ≠ p.name := by
        rintro p hp rfl
        exact hnone p hp ⟨v, by simp [text]⟩
      have hopen : '{' ∉ u ++ ['}'] := by simp [hu.1]
      have hcopy : replaceInTurn ps (u ++ '}' :: v) = u ++ '}' :: replaceInTurn ps v := by
        rw [List.append_cons, replaceInTurn_append_of_notMem hopen, List.append_assoc]
        rfl
      rw [replaceInTurn_braces hu hname, hcopy]
  · have hopen : '{' ∉ [c] := by simp [Ne.symm hc]
    exact replaceInTurn_append_of_notMem hopen s

theorem replaceInTurn_eq_expand (h : AreIndependent ps) (hflat : isFlat s = true) :
    replaceInTurn ps s = expand ps s := by
  fun_induction expand ps s with
  | case1 => exact replaceInTurn_of_notMem List.not_mem_nil
  | case2 c s value rest hstart ih =>
    obtain ⟨p, hp, rfl, hs⟩ := atStart?_eq_some hstart
    rw [hs] at hflat ⊢
    rw [replaceInTurn_text h hp, ih (isFlat_of_append hflat)]
  | case3 c s hstart ih =>
    have hnone : ∀ p ∈ ps, ¬ p.text <+: c :: s := fun p hp => not_prefix_of_atStart?_eq_none hstart hp
    rw [replaceInTurn_cons hflat hnone, ih (isFlat_of_append (a := [c]) hflat)]

end Placeholder

end SmokeSuite.Text
