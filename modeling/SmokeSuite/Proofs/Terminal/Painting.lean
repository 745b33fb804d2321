import SmokeSuite.Proofs.Terminal.Sequences

namespace SmokeSuite.Terminal

open Phase (escapeMark)

/-- What a number does to a style. -/
def Style.switch (s : Style) : Nat → Style
  | 0 => {}
  | 1 => { s with bold := true }
  | 2 => { s with dimmed := true }
  | 4 => { s with underlined := true }
  | 31 => { s with colour := some .red }
  | 32 => { s with colour := some .green }
  | 33 => { s with colour := some .yellow }
  | _ => s

/-- The numbers of a style switch on all of it, and nothing else. -/
theorem Style.foldl_switch_codes (s : Style) : s.codes.foldl switch {} = s := by
  obtain ⟨bold, dimmed, underlined, colour⟩ := s
  rcases colour with _ | _ | _ | _ <;> cases bold <;> cases dimmed <;> cases underlined <;> rfl

/-- A character with the style in which it is shown. -/
structure Cell where
  style : Style
  char : Char
  deriving DecidableEq

def paint (pen : Style) : List Piece → List Cell
  | [] => []
  | .shown c :: ps => ⟨pen, c⟩ :: paint pen ps
  | .codes ns :: ps => paint (ns.foldl Style.switch pen) ps

/-- What a terminal shows of a text if its pen is at rest. -/
def painted (s : String) : List Cell := paint {} (pieces s.toList)

/-- A text in one style. -/
def inked (style : Style) (s : String) : List Cell := s.toList.map (⟨style, ·⟩)

theorem paint_shown_append (pen : Style) (text : List Char) (ps : List Piece) :
    paint pen (text.map .shown ++ ps) = text.map (⟨pen, ·⟩) ++ paint pen ps := by
  induction text with
  | nil => rfl
  | cons c text ih => exact congrArg (Cell.mk pen c :: ·) ih

/-- A text, and the style it is written in if it has one. -/
structure Span where
  style : Option Style := none
  text : String

namespace Span

/-- Writes a span; without colours it is its text alone. -/
def write (colours : Bool) (s : Span) : String :=
  match s.style with
  | some style => if colours then style.apply s.text else s.text
  | none => s.text

/-- A span that does not disturb the terminal. Where it has a style, this shows and ends on its line. -/
structure IsTame (s : Span) : Prop where
  noEscape : escapeMark ∉ s.text.toList
  codes : ∀ style, s.style = some style → style.codes ≠ []
  oneLine : ∀ style, s.style = some style → '\n' ∉ s.text.toList

theorem IsTame.plain {text : String} (h : escapeMark ∉ text.toList) : IsTame { text } :=
  ⟨h, nofun, nofun⟩

theorem IsTame.styled {style : Style} {text : String} (hcodes : style.codes ≠ [])
    (h : escapeMark ∉ text.toList) (hline : '\n' ∉ text.toList) :
    IsTame { style := some style, text } where
  noEscape := h
  codes _ hstyle := Option.some.inj hstyle ▸ hcodes
  oneLine _ _ := hline

def pieces (s : Span) : List Piece :=
  match s.style with
  | some style => .codes style.codes :: (s.text.toList.map .shown ++ [.codes [0]])
  | none => s.text.toList.map .shown

def cells (s : Span) : List Cell := inked (s.style.getD {}) s.text

theorem write_false (s : Span) : s.write false = s.text := by
  obtain ⟨_ | style, text⟩ := s <;> rfl

theorem pieces_write {s : Span} (h : s.IsTame) (r : List Char) :
    Terminal.pieces ((s.write true).toList ++ r) = s.pieces ++ Terminal.pieces r := by
  obtain ⟨_ | style, text⟩ := s
  · exact pieces_append h.noEscape r
  · have hreset : Terminal.pieces (reset.toList ++ r) = .codes [0] :: Terminal.pieces r :=
      pieces_sequence (List.cons_ne_nil 0 []) r
    simp only [write, Style.apply, if_true, String.toList_append, List.append_assoc]
    rw [pieces_sequence (h.codes style rfl), pieces_append h.noEscape, hreset]
    simp only [pieces, List.cons_append, List.append_assoc, List.nil_append]

theorem pieces_join {ss : List Span} (h : ∀ s ∈ ss, s.IsTame) :
    Terminal.pieces (String.join (ss.map (write true))).toList = ss.flatMap pieces := by
  induction ss with
  | nil => exact pieces_nil
  | cons s ss ih =>
    obtain ⟨hs, hss⟩ := List.forall_mem_cons.1 h
    rw [List.map_cons, String.join_cons, String.toList_append, pieces_write hs, ih hss,
      List.flatMap_cons]

theorem filterMap_char?_pieces (s : Span) : s.pieces.filterMap Piece.char? = s.text.toList := by
  obtain ⟨_ | style, text⟩ := s
  · exact filterMap_shown text.toList
  · simp only [pieces, List.filterMap_cons, Piece.char?, List.filterMap_append, filterMap_shown,
      List.filterMap_nil, List.append_nil]

theorem isClosed_pieces_append {s : Span} (h : s.IsTame) {ps : List Piece} (hps : IsClosed ps) :
    IsClosed (s.pieces ++ ps) := by
  obtain ⟨_ | style, text⟩ := s
  · exact hps.shown_append text.toList
  · simp only [pieces, List.cons_append, List.append_assoc, List.nil_append]
    exact .styled style.codes (h.oneLine style rfl) hps

theorem paint_pieces_append (s : Span) (ps : List Piece) :
    paint {} (s.pieces ++ ps) = s.cells ++ paint {} ps := by
  obtain ⟨_ | style, text⟩ := s
  · exact paint_shown_append {} text.toList ps
  · -- the pen takes up the style from rest, and the reset puts it down whatever the style is
    have hreset : paint style (.codes [0] :: ps) = paint {} ps := rfl
    simp only [pieces, List.cons_append, List.append_assoc, List.nil_append, paint,
      Style.foldl_switch_codes, paint_shown_append]
    rfl

/-- Without its sequences, a coloured text is the text that is written without colours. -/
theorem unstyled_join {ss : List Span} (h : ∀ s ∈ ss, s.IsTame) :
    unstyled (String.join (ss.map (write true))) = String.join (ss.map (write false)) := by
  rw [unstyled, pieces_join h, List.filterMap_flatMap, ← String.toList_inj, String.toList_ofList,
    String.toList_join, List.flatMap_map]
  simp only [filterMap_char?_pieces, write_false]

theorem isClosed_join {ss : List Span} (h : ∀ s ∈ ss, s.IsTame) :
    IsClosed (Terminal.pieces (String.join (ss.map (write true))).toList) := by
  rw [pieces_join h]
  induction ss with
  | nil => exact .nil
  | cons s ss ih =>
    obtain ⟨hs, hss⟩ := List.forall_mem_cons.1 h
    exact isClosed_pieces_append hs (ih hss)

theorem painted_join {ss : List Span} (h : ∀ s ∈ ss, s.IsTame) :
    painted (String.join (ss.map (write true))) = ss.flatMap cells := by
  rw [painted, pieces_join h]
  clear h
  induction ss with
  | nil => rfl
  | cons s ss ih => rw [List.flatMap_cons, paint_pieces_append, ih, List.flatMap_cons]

end Span

end SmokeSuite.Terminal
