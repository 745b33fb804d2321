import SmokeSuite.Glob.Set

namespace SmokeSuite.Glob

/-- Whether a set needs the expression of a pattern, and the expression nests too deep. -/
def Pattern.isRefused (p : Pattern) : Bool :=
  (Method.ofPattern p == .expressionByEnding || Method.ofPattern p == .expression) &&
    PatternSet.isTooDeep p

/-- Whether a text is a pattern that a set can hold. -/
def isUsable (text : String) : Bool :=
  match read text with
  | .ok p => !p.isRefused
  | .error _ => false

/-- Whether the pattern that a text writes matches another text. -/
def accepts (pattern text : String) : Bool :=
  match read pattern with
  | .ok p => PatternSet.matchesText [p] text
  | .error _ => false

namespace PatternSet

theorem mapM_eq_ok_iff {ε α β : Type} {f : α → Except ε β} {as : List α} {bs : List β} :
    as.mapM f = .ok bs ↔ as.map f = bs.map .ok := by
  induction as generalizing bs with
  | nil => cases bs <;> simp [pure, Except.pure]
  | cons a as ih =>
    rw [List.mapM_cons]
    cases ha : f a with
    | error e => cases bs <;> simp [bind, Except.bind, ha]
    | ok b =>
      cases has : as.mapM f with
      | error e => cases bs <;> simp [bind, Except.bind, ha, ← ih, has]
      | ok bs' => cases bs <;> simp [bind, Except.bind, pure, Except.pure, ha, ← ih, has]

theorem mapError_eq_ok_iff {text : String} {p : Pattern} :
    (read text).mapError (SetError.malformed text) = .ok p ↔ read text = .ok p := by
  cases read text with
  | error e => exact ⟨nofun, nofun⟩
  | ok q =>
    change Except.ok q = Except.ok p ↔ _
    rw [Except.ok.injEq, Except.ok.injEq]

theorem checkDepth_eq_ok_iff {s : PatternSet} :
    checkDepth s = .ok () ↔ ∀ p ∈ s, p.isRefused = false := by
  unfold checkDepth
  split
  · next p hp =>
    have hm := List.mem_filter.1 (List.mem_of_find?_eq_some hp)
    have hd : isTooDeep p = true := List.find?_some hp
    have hr : p.isRefused = true := by simpa [Pattern.isRefused, hd] using Or.inl hm.2
    refine ⟨nofun, fun h => ?_⟩
    rw [h p hm.1] at hr
    cases hr
  · next hn =>
    have halone : ∀ p ∈ s, Method.ofPattern p = .expressionByEnding → isTooDeep p = false := by
      intro p hp hm
      simpa using List.find?_eq_none.1 hn p (List.mem_filter.2 ⟨hp, by simp [hm]⟩)
    split
    · next i hi =>
      obtain ⟨hlt, hd, -⟩ := List.findIdx?_eq_some_iff_getElem.1 hi
      have hm := List.mem_filter.1 (List.getElem_mem hlt)
      refine ⟨nofun, fun h => ?_⟩
      have hr := h _ hm.1
      simp only [Pattern.isRefused, hd, Bool.and_true, Bool.or_eq_false_iff] at hr
      rw [hr.2] at hm
      cases hm.2
    · next hi =>
      have htogether : ∀ p ∈ s, Method.ofPattern p = .expression → isTooDeep p = false := by
        intro p hp hm
        simpa using List.findIdx?_eq_none_iff.1 hi p (List.mem_filter.2 ⟨hp, by simp [hm]⟩)
      refine ⟨fun _ p hp => ?_, fun _ => rfl⟩
      cases hd : isTooDeep p with
      | false => simp [Pattern.isRefused, hd]
      | true =>
        have ha : Method.ofPattern p ≠ .expressionByEnding := by
          intro hm
          rw [halone p hp hm] at hd
          cases hd
        have ht : Method.ofPattern p ≠ .expression := by
          intro hm
          rw [htogether p hp hm] at hd
          cases hd
        simp [Pattern.isRefused, ha, ht]

theorem mapM_malformed_eq_ok_iff {texts : List String} {s : PatternSet} :
    texts.mapM (fun text => (read text).mapError (SetError.malformed text)) = .ok s ↔
      texts.map read = s.map .ok := by
  rw [mapM_eq_ok_iff]
  induction texts generalizing s with
  | nil => simp
  | cons t ts ih => cases s <;> simp [mapError_eq_ok_iff, ih]

/-- Building a set reads each text and refuses none of the patterns. -/
theorem ofTexts_eq_ok_iff {texts : List String} {s : PatternSet} :
    ofTexts texts = .ok s ↔ texts.map read = s.map .ok ∧ ∀ p ∈ s, p.isRefused = false := by
  rw [← mapM_malformed_eq_ok_iff, ← checkDepth_eq_ok_iff]
  unfold ofTexts
  cases texts.mapM (fun text => (read text).mapError (SetError.malformed text)) with
  | error e => simp [bind, Except.bind]
  | ok ps =>
    cases hc : checkDepth ps with
    | error e =>
      simp only [bind, Except.bind, hc, reduceCtorEq, Except.ok.injEq, false_iff, not_and]
      rintro rfl
      simp [hc]
    | ok u =>
      simp only [bind, Except.bind, hc, pure, Except.pure, Except.ok.injEq]
      exact ⟨fun h => ⟨h, h ▸ hc⟩, fun h => h.1⟩

/-- A set can be built exactly where each text is usable by itself. -/
theorem exists_ofTexts_iff {texts : List String} :
    (∃ s, ofTexts texts = .ok s) ↔ ∀ text ∈ texts, isUsable text = true := by
  simp only [ofTexts_eq_ok_iff]
  induction texts with
  | nil => exact ⟨fun _ => by simp, fun _ => ⟨[], by simp⟩⟩
  | cons t ts ih =>
    rw [List.forall_mem_cons, ← ih]
    constructor
    · rintro ⟨_ | ⟨p, s⟩, hread, hdeep⟩
      · cases hread
      · obtain ⟨hp, hs⟩ := List.cons.inj hread
        obtain ⟨hd, hds⟩ := List.forall_mem_cons.1 hdeep
        exact ⟨by simp [isUsable, hp, hd], s, hs, hds⟩
    · rintro ⟨ht, s, hs, hds⟩
      unfold isUsable at ht
      split at ht
      · next p hp =>
        exact ⟨p :: s, by simp [hp, hs], List.forall_mem_cons.2 ⟨by simpa using ht, hds⟩⟩
      · cases ht

theorem matchesText_of_ofTexts {texts : List String} {s : PatternSet} (h : ofTexts texts = .ok s)
    (id : String) : s.matchesText id = texts.any (accepts · id) := by
  obtain ⟨hread, -⟩ := ofTexts_eq_ok_iff.1 h
  clear h
  induction texts generalizing s with
  | nil =>
    rw [List.map_nil, eq_comm, List.map_eq_nil_iff] at hread
    rw [hread]
    rfl
  | cons t ts ih =>
    cases s with
    | nil => cases hread
    | cons p s =>
      obtain ⟨hp, hs⟩ := List.cons.inj hread
      rw [List.any_cons, ← ih hs, accepts, hp]
      simp [matchesText]

end PatternSet

end SmokeSuite.Glob
