import SmokeSuite.Proofs.Decimal.Whole
import SmokeSuite.Json.Basic
import SmokeSuite.Yaml.Tree
import SmokeSuite.Yaml.Scalar

namespace SmokeSuite.Yaml

mutual

/-- A tree without tags that shows a value. A plain text has to mean no other scalar, and a whole number
has a minus sign only if it is negative. -/
inductive Shows : Tree → Json → Prop
  | null {place : Place} {text : String} (h : text = "" ∨ isNull text = true) :
      Shows (.scalar place none .plain text) .null
  | bool {place : Place} {text : String} {b : Bool} (h : boolOf? text = some b) :
      Shows (.scalar place none .plain text) (.bool b)
  | natural {place : Place} {text : String} {n : Nat} (h : unsignedOf? text.toList = some n) :
      Shows (.scalar place none .plain text) (.number ⟨false, n, 0⟩)
  | negative {place : Place} {text : String} {n : Nat} (h : intOf? text.toList = some (.negSucc n)) :
      Shows (.scalar place none .plain text) (.number ⟨true, n + 1, 0⟩)
  | string {place : Place} {style : Style} {text : String}
      (h : style = .plain → meaning text = .text) :
      Shows (.scalar place none style text) (.string text)
  | sequence {place : Place} {ts : List Tree} {js : List Json} (h : ShowsItems ts js) :
      Shows (.sequence place none ts) (.array js)
  | mapping {place : Place} {es : List (Option String × Tree × Tree)} {ms : List (String × Json)}
      (h : ShowsMembers es ms) (hnames : (ms.map (·.1)).Nodup) :
      Shows (.mapping place none es) (.object ms)

inductive ShowsItems : List Tree → List Json → Prop
  | nil : ShowsItems [] []
  | cons {t : Tree} {j : Json} {ts : List Tree} {js : List Json} (h : Shows t j)
      (hs : ShowsItems ts js) : ShowsItems (t :: ts) (j :: js)

inductive ShowsMembers : List (Option String × Tree × Tree) → List (String × Json) → Prop
  | nil : ShowsMembers [] []
  | cons {label : Option String} {key t : Tree} {name : String} {j : Json}
      {es : List (Option String × Tree × Tree)} {ms : List (String × Json)}
      (hkey : Shows key (.string name)) (h : Shows t j) (hs : ShowsMembers es ms) :
      ShowsMembers ((label, key, t) :: es) ((name, j) :: ms)

end

theorem exists_shows_of_mem_array {js : List Json} (h : ∃ t, Shows t (.array js)) :
    ∀ j ∈ js, ∃ t, Shows t j := by
  obtain ⟨_, ht⟩ := h
  cases ht with
  | @sequence _ ts _ hts =>
    induction js generalizing ts with
    | nil => nofun
    | cons j js ih =>
      cases hts with
      | cons ht hts => exact List.forall_mem_cons.2 ⟨⟨_, ht⟩, ih hts⟩

theorem exists_shows_of_mem_object {ms : List (String × Json)} (h : ∃ t, Shows t (.object ms)) :
    (ms.map (·.1)).Nodup ∧ ∀ m ∈ ms, ∃ t, Shows t m.2 := by
  obtain ⟨_, ht⟩ := h
  cases ht with
  | @mapping _ es _ hes hnames =>
    refine ⟨hnames, ?_⟩
    clear hnames
    induction ms generalizing es with
    | nil => nofun
    | cons m ms ih =>
      cases hes with
      | cons hkey ht hes => exact List.forall_mem_cons.2 ⟨⟨_, ht⟩, ih hes⟩

theorem digitOf?_of_isDigit {c : Char} (h : c.isDigit = true) :
    digitOf? c = some (Decimal.digitValue c) := by
  rw [digitOf?, if_pos h]
  rfl

theorem natOf?_of_isDigit {s : List Char} (hne : s ≠ []) (h : ∀ c ∈ s, c.isDigit = true) :
    natOf? 10 s = some (Decimal.ofDigits s) := by
  rw [natOf?, if_neg (by simpa using hne), Decimal.ofDigits]
  generalize 0 = n
  clear hne
  induction s generalizing n with
  | nil => rfl
  | cons c s ih =>
    obtain ⟨hc, hs⟩ := List.forall_mem_cons.1 h
    rw [List.foldlM_cons, List.foldl_cons, Nat.mul_comm 10 n, ← ih hs]
    simp only [digitOf?_of_isDigit hc, bind, Option.bind, if_pos (Decimal.digitValue_lt_of_isDigit hc)]

/-- The digits of a number are read as that number: none of them is needless. -/
theorem unsignedOf?_toDigits (n : Nat) : unsignedOf? (Nat.toDigits 10 n) = some n := by
  have hdigits := Decimal.isDigit_of_mem_toDigits n
  have hread : natOf? 10 (Nat.toDigits 10 n) = some n := by
    rw [natOf?_of_isDigit Nat.toDigits_ne_nil hdigits, Decimal.ofDigits_toDigits]
  cases hds : Nat.toDigits 10 n with
  | nil => exact absurd hds Nat.toDigits_ne_nil
  | cons c ds =>
    rw [hds] at hread hdigits
    by_cases hzero : c = '0'
    · subst hzero
      rw [Decimal.eq_nil_of_toDigits_eq_zero_cons hds] at hread ⊢
      simpa [unsignedOf?, hasNeedlessZero, magnitudeOf?] using hread
    · have hplus : c ≠ '+' := by
        rintro rfl
        exact absurd (hdigits '+' (by simp)) (by decide)
      have hminus : c ≠ '-' := by
        rintro rfl
        exact absurd (hdigits '-' (by simp)) (by decide)
      simpa [unsignedOf?, hasNeedlessZero, magnitudeOf?, hzero, hplus, hminus] using hread

section Existence

theorem exists_shows_null : ∃ t, Shows t .null := ⟨.scalar default none .plain "", .null (.inl rfl)⟩

theorem exists_shows_bool (b : Bool) : ∃ t, Shows t (.bool b) := by
  cases b with
  | true => exact ⟨.scalar default none .plain "true", .bool (by decide)⟩
  | false => exact ⟨.scalar default none .plain "false", .bool (by decide)⟩

theorem exists_shows_nat (n : Nat) : ∃ t, Shows t (.nat n) :=
  ⟨.scalar default none .plain (String.ofList (Nat.toDigits 10 n)),
    .natural (by rw [String.toList_ofList, unsignedOf?_toDigits])⟩

theorem exists_shows_string (s : String) : ∃ t, Shows t (.string s) :=
  ⟨.scalar default none .doubleQuoted s, .string nofun⟩

theorem exists_shows_array {js : List Json} (h : ∀ j ∈ js, ∃ t, Shows t j) :
    ∃ t, Shows t (.array js) := by
  have hitems : ∃ ts, ShowsItems ts js := by
    induction js with
    | nil => exact ⟨[], .nil⟩
    | cons j js ih =>
      obtain ⟨⟨t, ht⟩, hjs⟩ := List.forall_mem_cons.1 h
      obtain ⟨ts, hts⟩ := ih hjs
      exact ⟨t :: ts, .cons ht hts⟩
  obtain ⟨ts, hts⟩ := hitems
  exact ⟨.sequence default none ts, .sequence hts⟩

theorem exists_shows_object {ms : List (String × Json)} (h : ∀ m ∈ ms, ∃ t, Shows t m.2)
    (hnames : (ms.map (·.1)).Nodup) : ∃ t, Shows t (.object ms) := by
  have hmembers : ∃ es, ShowsMembers es ms := by
    clear hnames
    induction ms with
    | nil => exact ⟨[], .nil⟩
    | cons m ms ih =>
      obtain ⟨⟨t, ht⟩, hms⟩ := List.forall_mem_cons.1 h
      obtain ⟨key, hkey⟩ := exists_shows_string m.1
      obtain ⟨es, hes⟩ := ih hms
      exact ⟨(some m.1, key, t) :: es, .cons hkey ht hes⟩
  obtain ⟨es, hes⟩ := hmembers
  exact ⟨.mapping default none es, .mapping hes hnames⟩

end Existence

end SmokeSuite.Yaml
