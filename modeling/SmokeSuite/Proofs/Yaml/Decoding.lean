import SmokeSuite.Proofs.Yaml.Showing
import SmokeSuite.Yaml.Decoder
import Mathlib.Data.List.Forall2
import Mathlib.Data.List.Nodup

namespace SmokeSuite.Yaml

/-- A decoder makes this of every tree that shows a value, wherever it stands. -/
def Reads {α : Type} (d : Decoder α) (j : Json) (x : α) : Prop :=
  ∀ (path : Path) (t : Tree), Shows t j → d path t = .ok x

theorem eq_none_of_null {text : String} (h : text = "" ∨ isNull text = true) :
    boolOf? text = none ∧ unsignedOf? text.toList = none ∧ intOf? text.toList = none := by
  have hmem : text ∈ ["", "null", "Null", "NULL", "~"] := by simpa [isNull, or_assoc] using h
  have hall : ∀ s ∈ ["", "null", "Null", "NULL", "~"],
      boolOf? s = none ∧ unsignedOf? s.toList = none ∧ intOf? s.toList = none := by decide
  exact hall text hmem

theorem Shows.not_null {place : Place} {text : String} {j : Json}
    (ht : Shows (.scalar place none .plain text) j) (hj : j ≠ .null) :
    ¬ (text = "" ∨ isNull text = true) := by
  intro hn
  obtain ⟨hbool, hunsigned, hint⟩ := eq_none_of_null hn
  cases ht with
  | null => exact hj rfl
  | bool h => rw [hbool] at h; cases h
  | natural h => rw [hunsigned] at h; cases h
  | negative h => rw [hint] at h; cases h
  | string h =>
    have hm : meaning text = .null := if_pos (by simpa using hn)
    rw [h rfl] at hm
    cases hm

theorem Shows.tag_eq_none {t : Tree} {j : Json} (ht : Shows t j) : t.tag = none := by
  cases ht <;> rfl

namespace Reads

variable {α β : Type} {d : Decoder α} {j : Json} {x : α}

theorem string (s : String) : Reads Decoder.string (.string s) s := by
  intro path t ht
  cases ht
  rfl

theorem bool (b : Bool) : Reads Decoder.bool (.bool b) b := by
  intro path t ht
  cases ht with
  | bool h => simp [Decoder.bool, Decoder.isOpen, h]

theorem word32 {n : Nat} (hn : n < UInt32.size) : Reads Decoder.word32 (.nat n) (UInt32.ofNat n) := by
  intro path t ht
  have hword : n < UInt64.size := Nat.lt_trans hn (by decide)
  cases ht with
  | natural h => simp [Decoder.word32, Decoder.isOpen, h, Option.filter, hword, hn]

theorem null : Reads (Decoder.optional d) .null none := by
  intro path t ht
  cases ht with
  | null h => simp [Decoder.optional, h]

/-- What is not null is read for itself. -/
theorem some (hj : j ≠ .null) (h : Reads d j x) : Reads (Decoder.optional d) j (some x) := by
  intro path t ht
  have hd := h path t ht
  have htag := ht.tag_eq_none
  unfold Decoder.optional
  split
  · next place tag text =>
    obtain rfl : tag = none := htag
    have hn := ht.not_null hj
    simp only [Bool.or_eq_true, beq_iff_eq, if_neg hn, hd]
    rfl
  · rw [hd]
    rfl

theorem items {js : List Json} {xs : List α} (h : List.Forall₂ (Reads d) js xs) (path : Path) (n : Nat)
    {ts : List Tree} (hts : ShowsItems ts js) : Decoder.items d path n ts = .ok xs := by
  induction h generalizing n ts with
  | nil =>
    cases hts
    rfl
  | cons hx _ ih =>
    cases hts with
    | cons ht hts => simp [Decoder.items, hx _ _ ht, ih (n + 1) hts, bind, Except.bind]

theorem list {js : List Json} {xs : List α} (h : List.Forall₂ (Reads d) js xs) :
    Reads (Decoder.list d) (.array js) xs := by
  intro path t ht
  cases ht with
  | sequence hts =>
    rw [Decoder.list, items h path 0 hts]
    rfl

theorem variant {named : String → Option α} {name : String} {known : List String}
    (h : named name = .some x) : Reads (Decoder.variant named known) (.string name) x := by
  intro path t ht
  cases ht
  simp [Decoder.variant, Tree.localName?, Tree.tag, h]

/-- Items that can each be read are read together. -/
theorem exists_list {js : List Json} {p : Json → α → Prop}
    (h : ∀ j ∈ js, ∃ x, Reads d j x ∧ p j x) :
    ∃ xs, Reads (Decoder.list d) (.array js) xs ∧ List.Forall₂ p js xs := by
  have hall : ∃ xs, List.Forall₂ (Reads d) js xs ∧ List.Forall₂ p js xs := by
    induction js with
    | nil => exact ⟨[], .nil, .nil⟩
    | cons j js ih =>
      obtain ⟨⟨x, hx, hp⟩, hjs⟩ := List.forall_mem_cons.1 h
      obtain ⟨xs, hxs, hps⟩ := ih hjs
      exact ⟨x :: xs, .cons hx hxs, .cons hp hps⟩
  obtain ⟨xs, hxs, hps⟩ := hall
  exact ⟨xs, .list hxs, hps⟩

theorem exists_optional (h : j = .null ∨ j ≠ .null ∧ ∃ x, Reads d j x) :
    ∃ x, Reads (Decoder.optional d) j x := by
  rcases h with rfl | ⟨hj, x, hx⟩
  · exact ⟨none, .null⟩
  · exact ⟨Option.some x, .some hj hx⟩

end Reads

namespace Decoder

variable {α σ : Type} {fields : List (Field σ)} {draftOf : List String → σ}

/-- A member that is read for a field of a record. The drafts are told by the names of the members read
so far; reading this one gives the draft with its name. -/
def ReadsMember (fields : List (Field σ)) (draftOf : List String → σ) (name : String) (j : Json) : Prop :=
  ∃ f, fields.find? (·.name == name) = some f ∧ ∀ seen, name ∉ seen →
    f.isRead (draftOf seen) = false ∧
    ∀ (path : Path) (t : Tree), Shows t j → f.read (draftOf seen) path t = .ok (draftOf (name :: seen))

/-- A field in the draft of a record of which the members with these names have been read. -/
def drafted (seen : List String) (name : String) (x : α) : Option α :=
  if name ∈ seen then some x else none

@[simp] theorem drafted_nil (name : String) (x : α) : drafted [] name x = none := rfl

theorem drafted_of_notMem {seen : List String} {name : String} (h : name ∉ seen) (x : α) :
    drafted seen name x = none := if_neg h

@[simp] theorem drafted_cons_self (seen : List String) (name : String) (x : α) :
    drafted (name :: seen) name x = some x := if_pos List.mem_cons_self

@[simp] theorem drafted_cons_of_ne {name other : String} (h : name ≠ other) (seen : List String) (x : α) :
    drafted (other :: seen) name x = drafted seen name x := by
  simp [drafted, h]

theorem readsMember_field {name : String} {get : σ → Option α} {set : σ → α → σ} {d : Decoder α}
    {j : Json} {x : α} (hfind : fields.find? (·.name == name) = some (field name get set d))
    (hget : ∀ seen, get (draftOf seen) = drafted seen name x)
    (hset : ∀ seen, set (draftOf seen) x = draftOf (name :: seen)) (h : Reads d j x) :
    ReadsMember fields draftOf name j := by
  refine ⟨_, hfind, fun seen hseen => ⟨?_, fun path t ht => ?_⟩⟩
  · simp [field, hget, drafted_of_notMem hseen]
  · simp only [field, h path t ht, Except.map, hset]

/-- Members that are each read for a field, all with different names, give the draft of all of them. -/
theorem entries_of_readsMember (path : Path) {es : List (Option String × Tree × Tree)}
    {ms : List (String × Json)} (hes : ShowsMembers es ms)
    (hread : ∀ m ∈ ms, ReadsMember fields draftOf m.1 m.2) (hnames : (ms.map (·.1)).Nodup)
    (seen : List String) (hseen : ∀ m ∈ ms, m.1 ∉ seen) :
    entries fields path (draftOf seen) es = .ok (draftOf ((ms.map (·.1)).reverse ++ seen)) := by
  induction ms generalizing es seen with
  | nil =>
    cases hes
    rfl
  | cons m ms ih =>
    obtain ⟨name, j⟩ := m
    cases hes with
    | cons hkey ht hes =>
      cases hkey
      obtain ⟨⟨f, hfind, hf⟩, hrest⟩ := List.forall_mem_cons.1 hread
      obtain ⟨hfresh, hseen⟩ := List.forall_mem_cons.1 hseen
      obtain ⟨hnew, hnames⟩ := List.nodup_cons.1 hnames
      obtain ⟨hunread, hvalue⟩ := hf seen hfresh
      have hnext : ∀ m ∈ ms, m.1 ∉ name :: seen := by
        intro m hm
        rw [List.mem_cons, not_or]
        refine ⟨fun he => hnew ?_, hseen m hm⟩
        exact List.mem_map.2 ⟨m, hm, he⟩
      simp only [entries, fieldOf, hfind, hunread, hvalue _ _ ht, bind, Except.bind]
      rw [if_neg Bool.false_ne_true, ih hes hrest hnames (name :: seen) hnext]
      simp

/-- A record is read from its members if the draft of all their names can be finished. -/
theorem reads_record (draftOf : List String → σ) {recordName : String} {finish : σ → Except Halt α}
    {ms : List (String × Json)} {x : α} (hread : ∀ m ∈ ms, ReadsMember fields draftOf m.1 m.2)
    (hfinish : finish (draftOf (ms.map (·.1)).reverse) = .ok x) :
    Reads (record recordName fields (draftOf []) finish) (.object ms) x := by
  intro path t ht
  cases ht with
  | mapping hes hnames =>
    have h := entries_of_readsMember path hes hread hnames [] (by simp)
    rw [List.append_nil] at h
    simp only [record, h, bind, Except.bind, hfinish]
    rfl

/-- What the members of a record give for a field: what the decoder reads from the member of that name,
or the default where there is none. Without a default there has to be one. -/
structure Gives (ms : List (String × Json)) (name : String) (d : Decoder α) (default : Option α) (x : α) :
    Prop where
  read : ∀ j, (name, j) ∈ ms → Reads d j x
  absent : name ∉ ms.map (·.1) → default = some x

/-- A member that can be read gives something, and so does a default; no name stands twice. -/
theorem exists_gives {ms : List (String × Json)} (hnames : (ms.map (·.1)).Nodup) {name : String}
    {d : Decoder α} {default : Option α} {q : α → Prop}
    (hread : ∀ j, (name, j) ∈ ms → ∃ x, Reads d j x ∧ q x)
    (hdefault : name ∉ ms.map (·.1) → ∃ x, default = some x ∧ q x) :
    ∃ x, Gives ms name d default x ∧ q x := by
  by_cases hn : name ∈ ms.map (·.1)
  · obtain ⟨⟨_, j⟩, hm, rfl⟩ := List.mem_map.1 hn
    obtain ⟨x, hx, hq⟩ := hread j hm
    refine ⟨x, ⟨fun i hi => ?_, fun h => absurd hn h⟩, hq⟩
    have hone : i = j := congrArg Prod.snd (List.inj_on_of_nodup_map hnames hi hm rfl)
    exact hone ▸ hx
  · obtain ⟨x, hx, hq⟩ := hdefault hn
    exact ⟨x, ⟨fun j hj => absurd (List.mem_map.2 ⟨_, hj, rfl⟩) hn, fun _ => hx⟩, hq⟩

namespace Gives

variable {ms : List (String × Json)} {name : String} {d : Decoder α} {x default : α}

theorem getD_drafted (h : Gives ms name d (some default) x) :
    (drafted (ms.map (·.1)).reverse name x).getD default = x := by
  unfold drafted
  split
  · rfl
  · next hn => exact Option.some.inj (h.absent fun hm => hn (List.mem_reverse.2 hm))

theorem required_drafted (h : Gives ms name d none x) :
    required name (drafted (ms.map (·.1)).reverse name x) = .ok x := by
  unfold drafted
  split
  · rfl
  · next hn => exact nomatch h.absent fun hm => hn (List.mem_reverse.2 hm)

end Gives

end Decoder

end SmokeSuite.Yaml
