import PocketCalc.Proofs.Backspace
import PocketCalc.Proofs.VisibleEnd
import PocketCalc.Screen.Frame

/-!
# The drawn row of a session

The text of a session stands at the right end of its row, one character in each cell, and what does
not fit is cut off at the left. All of it is bold, and the operators but the minus are set off by
their colour. The runs of any row are as long as they can be, and spell the row.
-/
namespace PocketCalc.Screen
open Text

namespace Row

theorem isChain_consRun (cell : Cell) {list : List Run}
    (h : list.IsChain fun run next => run.style ≠ next.style) :
    (consRun cell list).IsChain fun run next => run.style ≠ next.style := by
  cases list with
  | nil => simp [consRun]
  | cons run rest =>
    rw [List.isChain_cons] at h
    by_cases hstyle : cell.style = run.style
    · rw [consRun, if_pos hstyle, List.isChain_cons]
      exact h
    · rw [consRun, if_neg hstyle, List.isChain_cons_cons, List.isChain_cons]
      exact ⟨hstyle, h⟩

/-- No two neighbouring runs have the same style. -/
theorem isChain_runs (row : Row) : row.runs.IsChain fun run next => run.style ≠ next.style := by
  induction row with
  | nil => exact .nil
  | cons cell rest ih => exact isChain_consRun cell ih

theorem flatMap_style_consRun (cell : Cell) (list : List Run) :
    (consRun cell list).flatMap (fun run => List.replicate run.cells run.style) =
      cell.style :: list.flatMap fun run => List.replicate run.cells run.style := by
  cases list with
  | nil => simp [consRun]
  | cons run rest =>
    by_cases hstyle : cell.style = run.style <;> simp [consRun, hstyle, List.replicate_succ]

theorem flatMap_style_runs (row : Row) :
    row.runs.flatMap (fun run => List.replicate run.cells run.style) = row.map Cell.style := by
  induction row with
  | nil => rfl
  | cons cell rest ih =>
    rw [show runs (cell :: rest) = consRun cell (runs rest) from rfl, flatMap_style_consRun, ih,
      List.map_cons]

end Row

@[simp] theorem Row.text_blank (width : Nat) (s : Style) :
    Row.text (Row.blank width s) = List.replicate width ' ' := by
  rw [Row.blank, Row.text, List.flatMap_replicate]
  exact List.flatten_replicate_singleton

def highlighted : List Char := ['+', '×', '÷', '%']

/-- A character of the text of a session in its cell. -/
def mainCell (c : Char) : Cell where
  symbol := [c]
  style :=
    { foreground := if c ∈ highlighted then theme.operator else theme.text
      background := theme.background
      bold := true }

theorem mem_highlighted_iff {c : Char} :
    (Operator.isSymbol c && c != '-') = true ↔ c ∈ highlighted := by
  have hsymbols : ∀ c ∈ operatorSymbols, c ≠ '-' → c ∈ highlighted :=
    List.all_iff_forall_prop.1 (by decide)
  have hall : ∀ c ∈ highlighted, (Operator.isSymbol c && c != '-') = true :=
    List.all_iff_forall_prop.1 (by decide)
  refine ⟨fun h => ?_, hall c⟩
  rw [Bool.and_eq_true, Operator.isSymbol_iff, bne_iff_ne] at h
  obtain ⟨⟨op, hop⟩, hminus⟩ := h
  exact hsymbols c (mem_operatorSymbols hop) hminus

theorem paint_mainPaint (base : Style) (c : Char) :
    (base.paint { background := some theme.background }).paint (mainPaint c) =
      (mainCell c).style := by
  by_cases hc : c ∈ highlighted
  · simp [Style.paint, mainPaint, mainCell, mem_highlighted_iff.2 hc, hc]
  · simp [Style.paint, mainPaint, mainCell, mt mem_highlighted_iff.1 hc, hc]

namespace Canvas

/-- Whether each of the characters is drawn as a glyph of one cell, and a text of them stands at the
right end of a row that is blank in front of it. -/
structure PlainOn (K : Canvas) (chars : List Char) : Prop where
  glyphs_eq : ∀ c ∈ chars, ∀ s, K.glyphs s [c] = [⟨[c], s⟩]
  alignRight_eq : ∀ base width list, (∀ g ∈ list, ∃ c ∈ chars, Glyph.symbol g = [c]) →
    list.length ≤ width → K.alignRight base width list =
      Row.blank (width - list.length) base ++ list.map fun g => ⟨g.symbol, g.style⟩

variable {K : Canvas} {T : Typesetting} {chars text : List Char}
  (hK : K.PlainOn (ellipsis :: chars)) (hT : T.Lawful) (hP : T.PlainOn chars)
  (h : ∀ c ∈ text, c ∈ chars)
include hK hT hP h

theorem PlainOn.flatMap_glyphs (base : Style) (width : Nat) :
    (T.visibleTail text width).flatMap (fun c =>
        K.glyphs ((base.paint { background := some theme.background }).paint (mainPaint c)) [c]) =
      (T.visibleTail text width).map fun c => ⟨[c], (mainCell c).style⟩ := by
  rw [List.map_eq_flatMap]
  refine List.flatMap_congr fun c hc => ?_
  have hdrawn := List.cons_subset_cons ellipsis h (hP.visibleTail_subset h hT width hc)
  rw [hK.glyphs_eq c hdrawn, paint_mainPaint]

/-- The row is filled up at the left and ends with the visible end of the text. -/
theorem PlainOn.mainRow_eq (base : Style) (width : Nat) : K.mainRow T base width text =
    Row.blank (width - min text.length width) ⟨base.foreground, theme.background, base.bold⟩ ++
      (T.visibleTail text width).map mainCell := by
  have hsymbols : ∀ g ∈ (T.visibleTail text width).map fun c => Glyph.mk [c] (mainCell c).style,
      ∃ c ∈ ellipsis :: chars, Glyph.symbol g = [c] := by
    intro g hg
    obtain ⟨c, hc, rfl⟩ := List.mem_map.1 hg
    exact ⟨c, List.cons_subset_cons ellipsis h (hP.visibleTail_subset h hT width hc), rfl⟩
  have hlength := hP.length_visibleTail h hT width
  have hfits : ((T.visibleTail text width).map fun c =>
      Glyph.mk [c] (mainCell c).style).length ≤ width := by
    rw [List.length_map, hlength]
    exact Nat.min_le_right _ _
  rw [mainRow, hK.flatMap_glyphs hT hP h, hK.alignRight_eq _ _ _ hsymbols hfits, List.length_map,
    hlength, List.map_map]
  rfl

theorem PlainOn.text_mainRow (base : Style) (width : Nat) : Row.text (K.mainRow T base width text) =
    List.replicate (width - min text.length width) ' ' ++ T.visibleTail text width := by
  have hcells : Row.text ((T.visibleTail text width).map mainCell) = T.visibleTail text width := by
    rw [Row.text, List.flatMap_map]
    exact List.flatMap_singleton' _
  rw [hK.mainRow_eq hT hP h, Row.text_append, Row.text_blank, hcells]

theorem PlainOn.getLast?_mainRow (base : Style) {width : Nat} (hwidth : 2 ≤ width)
    {front : List Char} {c : Char} (htext : text = front ++ [c]) :
    (K.mainRow T base width text).getLast? = some (mainCell c) := by
  have hlast := hP.getLast?_visibleTail h hT hwidth
  rw [htext, List.getLast?_concat, ← htext] at hlast
  rw [hK.mainRow_eq hT hP h, List.getLast?_append, List.getLast?_map, hlast]
  rfl

end Canvas

/-- Glyphs of one column are all drawn where there are as many columns. -/
theorem fitting_eq_self {width room : Nat} {list : List Glyph} (h : ∀ g ∈ list, g.columns = 1)
    (hroom : list.length ≤ room) (hle : room ≤ width) : fitting width room list = list := by
  induction list generalizing room with
  | nil => rfl
  | cons g rest ih =>
    have hg : g.columns = 1 := h g List.mem_cons_self
    rw [List.length_cons] at hroom
    rw [fitting, hg, if_neg (by omega), if_neg (by omega),
      ih (fun x hx => h x (List.mem_cons_of_mem g hx)) (by omega) (by omega)]

theorem alignRight_eq (base : Style) {width : Nat} {list : List Glyph}
    (h : ∀ g ∈ list, g.columns = 1) (hlength : list.length ≤ width) :
    alignRight base width list =
      Row.blank (width - list.length) base ++ list.map fun g => ⟨g.symbol, g.style⟩ := by
  have hcells : list.flatMap (Glyph.cells base) = list.map fun g => ⟨g.symbol, g.style⟩ := by
    rw [List.map_eq_flatMap]
    exact List.flatMap_congr fun g hg => by simp [Glyph.cells, h g hg, Row.blank]
  rw [alignRight, fitting_eq_self h hlength le_rfl, hcells, List.length_map]

theorem plain_canvas : canvas.PlainOn (ellipsis :: shownCharacters) := by
  have hall : ∀ c ∈ ellipsis :: shownCharacters, isControl c = false ∧
      Glyph.isSoundMark c = false ∧ columns .edition18 [c] = 1 :=
    List.all_iff_forall_prop.1 (by decide +kernel)
  constructor
  · intro c hc s
    have hclusters : clusters [c] = [[c]] := rfl
    simp [canvas, glyphs, hclusters, (hall c hc).1]
  · intro base width list hsymbols hlength
    refine alignRight_eq base (fun g hg => ?_) hlength
    obtain ⟨c, hc, hsymbol⟩ := hsymbols g hg
    obtain ⟨-, hmark, hcolumns⟩ := hall c hc
    simp [Glyph.columns, hsymbol, hcolumns, hmark]

/-- What the row of a session shows: blank cells that are not bold, and behind them the visible end
of the text, drawn in runs that have the text and the styles of the row. -/
structure ShowsNewest (base : Style) (width : Nat) (text : List Char) : Prop where
  length_row : (mainRow base width text).length = width
  length_visibleTail : (visibleTail text width).length = min text.length width
  row_eq : mainRow base width text =
    Row.blank (width - min text.length width) ⟨base.foreground, theme.background, false⟩ ++
      (visibleTail text width).map mainCell
  last : 2 ≤ width → ∃ front c, text = front ++ [c] ∧
    (mainRow base width text).getLast? = some (mainCell c)
  runs_text : (mainRow base width text).runs.flatMap Run.text =
    List.replicate (width - min text.length width) ' ' ++ visibleTail text width
  runs_style :
    (mainRow base width text).runs.flatMap (fun run => List.replicate run.cells run.style) =
      (mainRow base width text).map Cell.style
  runs_apart : (mainRow base width text).runs.IsChain fun run next => run.style ≠ next.style

theorem showsNewest {base : Style} (hbold : base.bold = false) (width : Nat) {text : List Char}
    (h : ∀ c ∈ text, c ∈ shownCharacters) (hne : text ≠ []) : ShowsNewest base width text := by
  have hlength : (visibleTail text width).length = min text.length width :=
    plain_tailSetting.length_visibleTail h lawful_tailSetting width
  have hrow : mainRow base width text =
      Row.blank (width - min text.length width) ⟨base.foreground, theme.background, false⟩ ++
        (visibleTail text width).map mainCell := by
    rw [← hbold]
    exact plain_canvas.mainRow_eq lawful_tailSetting plain_tailSetting h base width
  exact {
    length_row := by
      rw [hrow, List.length_append, Row.blank, List.length_replicate, List.length_map, hlength]
      omega
    length_visibleTail := hlength
    row_eq := hrow
    last := fun hwidth => by
      obtain ⟨front, c, htext⟩ := (List.eq_nil_or_concat' text).resolve_left hne
      exact ⟨front, c, htext, plain_canvas.getLast?_mainRow lawful_tailSetting plain_tailSetting h
        base hwidth htext⟩
    runs_text := by
      rw [Row.flatMap_text_runs]
      exact plain_canvas.text_mainRow lawful_tailSetting plain_tailSetting h base width
    runs_style := Row.flatMap_style_runs _
    runs_apart := Row.isChain_runs _ }

/-- The row of every session that a run leads to shows what has been typed last. -/
theorem showsNewest_run {base : Style} (hbold : base.bold = false) (width : Nat)
    (commands : List Command) : ShowsNewest base width (Session.fresh.run commands).mainText := by
  have hproper := Session.proper_fresh.run commands
  exact showsNewest hbold width hproper.mem_shownCharacters hproper.mainText_ne_nil

/-- A row of a frame that is too short for twelve times minus three: the times is set off,
the minus is not. -/
theorem showsNewest_run_times :
    let text := (Session.fresh.run [.keys "12*-3".toList]).mainText
    let plain : Style := ⟨theme.text, theme.background, true⟩
    frameStyle.bold = false ∧ ShowsNewest frameStyle 4 text ∧
      (mainRow frameStyle 4 text).runs = [⟨['…'], 1, plain⟩,
        ⟨['×'], 1, ⟨theme.operator, theme.background, true⟩⟩, ⟨['-', '3'], 2, plain⟩] := by
  intro text plain
  have hbold : frameStyle.bold = false := rfl
  exact ⟨hbold, showsNewest_run hbold 4 [.keys "12*-3".toList], by decide +kernel⟩

end PocketCalc.Screen
