import SmokeSuite.Proofs.Environment.Dotenv

namespace SmokeSuite.Dotenv

/-- A definition that a line can hold. -/
structure FitsLine (d : Definition) : Prop where
  unsigned : '=' ∉ d.1.toList
  oneLineKey : '\n' ∉ d.1.toList
  trimmed : Text.trim d.1.toList = d.1.toList
  uncommented : d.1.toList.head? ≠ some '#'
  oneLineValue : '\n' ∉ d.2.toList

/-- White space within a line. -/
structure IsGap (s : List Char) : Prop where
  blank : Text.AllBlank s
  oneLine : '\n' ∉ s

/-- A text between two equal quotes. -/
def IsQuoted (v : List Char) : Prop := ∃ q w, (q = '"' ∨ q = '\'') ∧ v = q :: (w ++ [q])

/-- How a value is written: in quotes of either kind, or bare if it is trimmed and no quoted text. -/
inductive Spells (v : List Char) : List Char → Prop
  | double : Spells v ('"' :: (v ++ ['"']))
  | single : Spells v ('\'' :: (v ++ ['\'']))
  | bare (htrim : Text.trim v = v) (hquotes : ¬ IsQuoted v) : Spells v v

/-- A line, without its end, and the definition that it writes if it writes one. -/
inductive Line : Option Definition → List Char → Prop
  | blank {l : List Char} (h : IsGap l) : Line none l
  | comment {a l : List Char} (ha : IsGap a) (hl : '\n' ∉ l) : Line none (a ++ '#' :: l)
  | unsigned {l : List Char} (hsign : '=' ∉ l) (hl : '\n' ∉ l) : Line none l
  | definition {key value : String} {a b x v y : List Char} (ha : IsGap a) (hb : IsGap b)
      (hx : IsGap x) (hv : Spells value.toList v) (hy : IsGap y) :
      Line (some (key, value)) (a ++ key.toList ++ b ++ '=' :: (x ++ v ++ y))

/-- A text that writes some definitions in order, each on a line of its own, with lines between them that
write none. The last line needs no end. -/
inductive LaysOut : List Definition → List Char → Prop
  | nil : LaysOut [] []
  | last {o : Option Definition} {l : List Char} (hl : Line o l) : LaysOut o.toList l
  | line {o : Option Definition} {l e s : List Char} {ds : List Definition} (hl : Line o l)
      (he : e = ['\n'] ∨ e = ['\r', '\n']) (hs : LaysOut ds s) :
      LaysOut (o.toList ++ ds) (l ++ e ++ s)

theorem IsGap.notMem {s : List Char} (h : IsGap s) {c : Char} (hc : Text.isBlank c = false) : c ∉ s := by
  intro hm
  have hb := h.blank c hm
  rw [hc] at hb
  cases hb

theorem unquote_quoted {q : Char} (hq : q = '"' ∨ q = '\'') (w : List Char) :
    unquote (q :: (w ++ [q])) = w := by
  rcases hq with rfl | rfl <;> simp [unquote]

theorem unquote_of_not_quoted {v : List Char} (h : ¬ IsQuoted v) : unquote v = v := by
  cases v with
  | nil => rfl
  | cons q r =>
    rw [unquote]
    split
    · next hq =>
      simp only [Bool.and_eq_true, Bool.or_eq_true, beq_iff_eq] at hq
      obtain ⟨w, rfl⟩ := List.getLast?_eq_some_iff.1 hq.2
      exact absurd ⟨q, w, hq.1.1, rfl⟩ h
    · rfl

/-- Every trimmed text writes what is left of it without quotes. -/
theorem spells_unquote {v : List Char} (h : Text.trim v = v) : Spells (unquote v) v := by
  by_cases hq : IsQuoted v
  · obtain ⟨q, w, hq, rfl⟩ := hq
    rw [unquote_quoted hq]
    rcases hq with rfl | rfl
    · exact .double
    · exact .single
  · rw [unquote_of_not_quoted hq]
    exact .bare h hq

theorem trim_quoted {q : Char} (hq : q = '"' ∨ q = '\'') (w : List Char) :
    Text.trim (q :: (w ++ [q])) = q :: (w ++ [q]) := by
  have hblank : Text.isBlank q = false := by rcases hq with rfl | rfl <;> decide
  have hend : Text.trimEnd (w ++ [q]) = w ++ [q] := Text.trimEnd_append_cons hblank w []
  calc
    Text.trim (q :: (w ++ [q])) = q :: Text.trimEnd (w ++ [q]) := Text.trim_append_cons hblank [] _
    _ = q :: (w ++ [q]) := by rw [hend]

theorem Spells.trim {v s : List Char} (h : Spells v s) : Text.trim s = s := by
  cases h with
  | double => exact trim_quoted (.inl rfl) v
  | single => exact trim_quoted (.inr rfl) v
  | bare htrim _ => exact htrim

theorem Spells.unquote {v s : List Char} (h : Spells v s) : Dotenv.unquote s = v := by
  cases h with
  | double => exact unquote_quoted (.inl rfl) v
  | single => exact unquote_quoted (.inr rfl) v
  | bare _ hquotes => exact unquote_of_not_quoted hquotes

theorem Spells.oneLine {v s : List Char} (h : Spells v s) (hv : '\n' ∉ v) : '\n' ∉ s := by
  cases h with
  | double => simpa using hv
  | single => simpa using hv
  | bare => exact hv

theorem mem_of_mem_unquote {v : List Char} {c : Char} (h : c ∈ Dotenv.unquote v) : c ∈ v := by
  by_cases hq : IsQuoted v
  · obtain ⟨q, w, hq, rfl⟩ := hq
    rw [unquote_quoted hq] at h
    simp [h]
  · rwa [unquote_of_not_quoted hq] at h

/-- A line is a comment by what stands before its first sign. -/
theorem head?_trim_cut (x y : List Char) :
    (Text.trim (x ++ '=' :: y)).head? = some '#' ↔ (Text.trim x).head? = some '#' := by
  rw [Text.trim_append_cons (by decide), Text.head?_trim]
  cases Text.trimStart x with
  | nil => simp
  | cons c r => simp

/-- What a line with a sign defines, if it is no comment. -/
theorem lineDefinition_cut {x : List Char} (hx : '=' ∉ x) (y : List Char) :
    lineDefinition (x ++ '=' :: y) = if (Text.trim x).head? = some '#' then none
      else some (String.ofList (Text.trim x), String.ofList (unquote (Text.trim y))) := by
  rw [lineDefinition, parseLine_eq, Text.cutAt_append hx]
  simp only [head?_trim_cut]
  split <;> rfl

theorem lineDefinition_unsigned {l : List Char} (h : '=' ∉ l) : lineDefinition l = none := by
  rw [lineDefinition, parseLine_eq, Text.cutAt_eq_none.2 h]
  split <;> rfl

theorem lineDefinition_comment {a : List Char} (ha : IsGap a) (l : List Char) :
    lineDefinition (a ++ '#' :: l) = none := by
  have hhead : (Text.trim (a ++ '#' :: l)).head? = some '#' := by
    rw [Text.trim_append_left ha.blank, Text.head?_trim]
    exact congrArg List.head? (Text.trimStart_append_cons (by decide) [] l)
  rw [lineDefinition, parseLine_eq, if_pos hhead]
  rfl

theorem Line.oneLine {o : Option Definition} {l : List Char} (h : Line o l) (ho : ∀ d ∈ o, FitsLine d) :
    '\n' ∉ l := by
  cases h with
  | blank h => exact h.oneLine
  | comment ha hl => simp [ha.oneLine, hl]
  | unsigned _ hl => exact hl
  | definition ha hb hx hv hy =>
    have hd := ho _ rfl
    have hv := hv.oneLine hd.oneLineValue
    simp [ha.oneLine, hb.oneLine, hx.oneLine, hy.oneLine, hv, hd.oneLineKey]

theorem Line.reads {o : Option Definition} {l : List Char} (h : Line o l) (ho : ∀ d ∈ o, FitsLine d) :
    lineDefinition l = o := by
  cases h with
  | blank h => exact lineDefinition_unsigned (h.notMem (by decide))
  | comment ha _ => exact lineDefinition_comment ha _
  | unsigned hsign _ => exact lineDefinition_unsigned hsign
  | @definition key value a b x v y ha hb hx hv hy =>
    have hd := ho _ rfl
    have hsign : '=' ∉ a ++ key.toList ++ b := by
      have hno : Text.isBlank '=' = false := by decide
      simp [ha.notMem hno, hb.notMem hno, hd.unsigned]
    have hkey : Text.trim (a ++ key.toList ++ b) = key.toList := by
      rw [Text.trim_append_right hb.blank, Text.trim_append_left ha.blank, hd.trimmed]
    have hvalue : Text.trim (x ++ v ++ y) = v := by
      rw [Text.trim_append_right hy.blank, Text.trim_append_left hx.blank, hv.trim]
    rw [lineDefinition_cut hsign, hkey, hvalue, hv.unquote, if_neg hd.uncommented]
    simp

theorem fitsLine_cut {x y : List Char} (hx : '=' ∉ x) (hl : '\n' ∉ x ++ '=' :: y)
    (hhead : (Text.trim x).head? ≠ some '#') :
    FitsLine (String.ofList (Text.trim x), String.ofList (unquote (Text.trim y))) := by
  have hxfeed : '\n' ∉ x := fun h => hl (List.mem_append_left _ h)
  have hyfeed : '\n' ∉ y := fun h => hl (List.mem_append_right _ (List.mem_cons_of_mem _ h))
  refine ⟨?_, ?_, ?_, ?_, ?_⟩ <;> simp only [String.toList_ofList]
  · exact fun h => hx (Text.mem_of_mem_trim h)
  · exact fun h => hxfeed (Text.mem_of_mem_trim h)
  · exact Text.trim_trim x
  · exact hhead
  · exact fun h => hyfeed (Text.mem_of_mem_trim (mem_of_mem_unquote h))

theorem line_comment {x y : List Char} (hl : '\n' ∉ x ++ '=' :: y)
    (hhead : (Text.trim x).head? = some '#') : Line none (x ++ '=' :: y) := by
  obtain ⟨a, b, ha, -, hab⟩ := Text.exists_trim x
  obtain ⟨r, hr⟩ : ∃ r, Text.trim x = '#' :: r := List.head?_eq_some_iff.1 hhead
  have hcomment : x ++ '=' :: y = a ++ '#' :: (r ++ b ++ '=' :: y) := by
    rw [hab, hr]
    simp
  rw [hcomment] at hl ⊢
  simp only [List.mem_append, List.mem_cons, not_or] at hl
  refine .comment ⟨ha, hl.1⟩ ?_
  simp [hl]

theorem line_definition {x y : List Char} (hl : '\n' ∉ x ++ '=' :: y) :
    Line (some (String.ofList (Text.trim x), String.ofList (unquote (Text.trim y)))) (x ++ '=' :: y) := by
  obtain ⟨a, b, ha, hb, hab⟩ := Text.exists_trim x
  obtain ⟨c, d, hc, hd, hcd⟩ := Text.exists_trim y
  have hspells := spells_unquote (Text.trim_trim y)
  -- from here on it does not matter that key and value were trimmed
  generalize unquote (Text.trim y) = v at hspells ⊢
  generalize Text.trim y = w at hspells hcd
  generalize Text.trim x = k at hab ⊢
  subst hab hcd
  simp only [List.mem_append, List.mem_cons, not_or] at hl
  have hline : Line (some (String.ofList k, String.ofList v))
      (a ++ (String.ofList k).toList ++ b ++ '=' :: (c ++ w ++ d)) := by
    refine .definition ⟨ha, ?_⟩ ⟨hb, ?_⟩ ⟨hc, ?_⟩ ?_ ⟨hd, ?_⟩
    all_goals simp [hl, hspells]
  simpa using hline

/-- Every line writes what it defines, and a line can hold that. -/
theorem line_lineDefinition {l : List Char} (hl : '\n' ∉ l) :
    Line (lineDefinition l) l ∧ ∀ d ∈ lineDefinition l, FitsLine d := by
  cases hcut : Text.cutAt '=' l with
  | none =>
    have hsign := Text.cutAt_eq_none.1 hcut
    rw [lineDefinition_unsigned hsign]
    exact ⟨.unsigned hsign hl, nofun⟩
  | some p =>
    obtain ⟨x, y⟩ := p
    obtain ⟨rfl, hx⟩ := Text.cutAt_eq_some hcut
    rw [lineDefinition_cut hx]
    split
    · next hhead => exact ⟨line_comment hl hhead, nofun⟩
    · next hhead =>
      have hfits := fitsLine_cut hx hl hhead
      exact ⟨line_definition hl, fun d hd => Option.some.inj hd ▸ hfits⟩

/-- Two ways to end a line; a carriage return before the line feed counts as part of the line. -/
theorem definitions_line {l e : List Char} (hl : '\n' ∉ l) (he : e = ['\n'] ∨ e = ['\r', '\n'])
    (s : List Char) : definitions (l ++ e ++ s) = (lineDefinition l).toList ++ definitions s := by
  rcases he with rfl | rfl
  · have hjoin : l ++ ['\n'] ++ s = l ++ '\n' :: s := by simp
    rw [hjoin, definitions_append, definitions_of_notMem hl]
  · have hjoin : l ++ ['\r', '\n'] ++ s = (l ++ ['\r']) ++ '\n' :: s := by simp
    have hreturn : '\n' ∉ l ++ ['\r'] := by simp [hl]
    rw [hjoin, definitions_append, definitions_of_notMem hreturn, lineDefinition_return]

theorem LaysOut.reads {ds : List Definition} {s : List Char} (h : LaysOut ds s)
    (hds : ∀ d ∈ ds, FitsLine d) : definitions s = ds := by
  induction h with
  | nil => rfl
  | @last o l hl =>
    have ho : ∀ d ∈ o, FitsLine d := fun d hd => hds d (Option.mem_toList.2 hd)
    rw [definitions_of_notMem (hl.oneLine ho), hl.reads ho]
  | @line o l e s ds hl he _ ih =>
    obtain ⟨ho, hrest⟩ := List.forall_mem_append.1 hds
    have ho : ∀ d ∈ o, FitsLine d := fun d hd => ho d (Option.mem_toList.2 hd)
    rw [definitions_line (hl.oneLine ho) he, hl.reads ho, ih hrest]

/-- Every text lays out what is read from it. -/
theorem laysOut_definitions (s : List Char) :
    LaysOut (definitions s) s ∧ ∀ d ∈ definitions s, FitsLine d := by
  -- every line is taken to end in a line feed alone; a carriage return before it is blank and fits the line
  induction s using Text.partsAt_induction '\n' with
  | last l hl =>
    obtain ⟨hline, hfits⟩ := line_lineDefinition hl
    rw [definitions_of_notMem hl]
    exact ⟨.last hline, fun d hd => hfits d (Option.mem_toList.1 hd)⟩
  | line l r hl ih =>
    obtain ⟨hline, hfits⟩ := line_lineDefinition hl
    obtain ⟨hlays, hrest⟩ := ih
    rw [definitions_append, definitions_of_notMem hl]
    have hjoin : l ++ '\n' :: r = l ++ ['\n'] ++ r := by simp
    refine ⟨hjoin ▸ .line hline (.inl rfl) hlays, fun d hd => ?_⟩
    rcases List.mem_append.1 hd with hd | hd
    · exact hfits d (Option.mem_toList.1 hd)
    · exact hrest d hd

/-- The definitions, each on a line with its value in double quotes. -/
def quotedText (ds : List Definition) : String :=
  String.join (ds.map fun d => d.1 ++ "=\"" ++ d.2 ++ "\"\n")

theorem laysOut_quotedText (ds : List Definition) : LaysOut ds (quotedText ds).toList := by
  induction ds with
  | nil => exact .nil
  | cons d ds ih =>
    obtain ⟨key, value⟩ := d
    have hgap : IsGap [] := ⟨nofun, nofun⟩
    have hline : Line (some (key, value))
        ([] ++ key.toList ++ [] ++ '=' :: ([] ++ '"' :: (value.toList ++ ['"']) ++ [])) :=
      .definition hgap hgap hgap .double hgap
    have htext : (quotedText ((key, value) :: ds)).toList =
        [] ++ key.toList ++ [] ++ '=' :: ([] ++ '"' :: (value.toList ++ ['"']) ++ []) ++ ['\n'] ++
          (quotedText ds).toList := by
      simp [quotedText, String.join_cons]
    rw [htext]
    exact .line hline (.inl rfl) ih

/-- A text is read as some definitions exactly where it lays them out and a line can hold each of them.
So nothing else is ever read, and writing it again in quotes changes nothing. -/
theorem parse_eq_iff_laysOut :
    (∀ (text : String) (ds : List Definition),
      parse text = ds ↔ LaysOut ds text.toList ∧ ∀ d ∈ ds, FitsLine d) ∧
    (∀ text, ∀ d ∈ parse text, FitsLine d) ∧
    ∀ text, parse (quotedText (parse text)) = parse text := by
  have hiff (text : String) (ds : List Definition) :
      parse text = ds ↔ LaysOut ds text.toList ∧ ∀ d ∈ ds, FitsLine d := by
    rw [parse_eq_definitions]
    constructor
    · rintro rfl
      exact laysOut_definitions text.toList
    · rintro ⟨hlays, hfits⟩
      exact hlays.reads hfits
  have hfits (text : String) : ∀ d ∈ parse text, FitsLine d := ((hiff text _).1 rfl).2
  refine ⟨hiff, hfits, fun text => ?_⟩
  exact (hiff _ _).2 ⟨laysOut_quotedText _, hfits text⟩

end SmokeSuite.Dotenv
