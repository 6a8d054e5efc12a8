import DriveBench.Proofs.Figure.Painting
import DriveBench.Proofs.Figure.Places
import DriveBench.Proofs.Figure.Tiling

/-!
# Series in their boxes

An upright or level line fills the rectangle between its ends, and so stays in
the axis box with them. A sloped line is left out: the rounding on its way may
lead one pixel beyond the rectangle.
-/

namespace DriveBench

variable {a : Axis} {e : Extent} {s : Span} {v : Float} {p q r : Pixel}

-- ---------------------------------------------------------------------------
-- Lines
-- ---------------------------------------------------------------------------

namespace Line

def Spans (p q r : Pixel) : Prop :=
  (min p.1 q.1 ≤ r.1 ∧ r.1 ≤ max p.1 q.1) ∧ min p.2 q.2 ≤ r.2 ∧ r.2 ≤ max p.2 q.2

theorem mem_between {a b c : Int} : c ∈ between a b ↔ min a b ≤ c ∧ c ≤ max a b := by
  simp only [between, List.mem_map, List.mem_range]
  constructor
  · rintro ⟨k, hk, rfl⟩
    omega
  · rintro ⟨hlow, hhigh⟩
    exact ⟨(c - min a b).toNat, by omega, by omega⟩

theorem mem_pixels_of_straight (straight : p.1 = q.1 ∨ p.2 = q.2) : r ∈ pixels p q ↔ Spans p q r := by
  unfold pixels Spans
  split
  · rename_i upright
    simp only [List.mem_map, mem_between, Prod.ext_iff]
    constructor
    · rintro ⟨y, hy, hx, rfl⟩
      exact ⟨by omega, hy⟩
    · rintro ⟨hx, hy⟩
      exact ⟨r.2, hy, by omega, rfl⟩
  · rename_i sloped
    have level := straight.resolve_left sloped
    rw [if_pos level]
    simp only [List.mem_map, mem_between, Prod.ext_iff]
    constructor
    · rintro ⟨x, hx, rfl, hy⟩
      exact ⟨hx, by omega⟩
    · rintro ⟨hx, hy⟩
      exact ⟨r.1, hx, rfl, by omega⟩

theorem spans_left : Spans p q p := by
  unfold Spans
  omega

theorem spans_right : Spans p q q := by
  unfold Spans
  omega

theorem mem_through_map {points : List Point} {f : Point → Pixel} :
    r ∈ through (points.map f) ↔ ∃ pq ∈ points.zip points.tail, r ∈ pixels (f pq.1) (f pq.2) := by
  simp only [through, ← List.map_tail, List.zip_map, List.flatMap_map, List.mem_flatMap, Prod.map]

end Line

-- ---------------------------------------------------------------------------
-- Spans
-- ---------------------------------------------------------------------------

namespace Span

structure HasRoom (s : Span) : Prop where
  nonempty : s.first < s.after
  small : s.after - s.first ≤ 2 ^ 32

def Holds (s : Span) (c : Int) : Prop := s.first ≤ c ∧ c < s.after

theorem HasRoom.first (h : s.HasRoom) : s.Holds s.first := ⟨le_rfl, h.nonempty⟩

theorem HasRoom.last (h : s.HasRoom) : s.Holds s.last := by
  have nonempty := h.nonempty
  unfold Holds Span.last
  omega

structure Runs (s : Span) (e : Extent) : Prop where
  start : s.Holds e.start
  stop : s.Holds e.stop

theorem HasRoom.rightward (h : s.HasRoom) : s.Runs s.rightward := ⟨h.first, h.last⟩

theorem HasRoom.upward (h : s.HasRoom) : s.Runs s.upward := ⟨h.last, h.first⟩

theorem HasRoom.length_lt (h : s.HasRoom) (runs : s.Runs e) : (e.stop - e.start).natAbs < 2 ^ 32 := by
  obtain ⟨⟨_, _⟩, ⟨_, _⟩⟩ := runs
  have small := h.small
  omega

theorem HasRoom.holds_pixel (h : s.HasRoom) (runs : s.Runs e) (proper : a.IsProper)
    (hv : a.Shows v) : s.Holds (e.pixel a v) := by
  obtain ⟨hlow, hhigh⟩ := Extent.pixel_between proper hv (h.length_lt runs)
  obtain ⟨⟨_, _⟩, ⟨_, _⟩⟩ := runs
  unfold Holds
  omega

theorem keep_of_holds {c : Int} (h : s.Holds c) : s.keep c = c := s.keep_of_mem c h.1 h.2.le

end Span

-- ---------------------------------------------------------------------------
-- Traces
-- ---------------------------------------------------------------------------

namespace Trace

def IsRectilinear (t : Trace) : Prop :=
  ∀ run ∈ t, ∀ pq ∈ run.zip run.tail, pq.1.1 == pq.2.1 ∨ pq.1.2 == pq.2.2

instance (t : Trace) : Decidable t.IsRectilinear :=
  inferInstanceAs (Decidable (∀ run ∈ t, ∀ pq ∈ run.zip run.tail, _))

theorem isRectilinear_of_isAxisParallel {t : Trace} (h : t.isAxisParallel = true) :
    t.IsRectilinear := by
  intro run hrun pq hpq
  have hline := List.all_eq_true.1 (List.all_eq_true.1 h run hrun) pq hpq
  rw [Bool.or_eq_true, Bool.and_eq_true] at hline
  exact hline.imp_right And.left

end Trace

-- ---------------------------------------------------------------------------
-- Panels
-- ---------------------------------------------------------------------------

namespace Panel

variable {panel : Panel} {point point' : Point}

/-- Where the axes have a point, were there no edges to keep it in. -/
def mark (panel : Panel) (p : Point) : Pixel :=
  (panel.columns.rightward.pixel panel.xAxis p.1, panel.rows.upward.pixel panel.yAxis p.2)

/-- Its axes have lengths, and its lines are upright or level. -/
structure IsClear (panel : Panel) : Prop where
  xAxis : panel.xAxis.IsProper
  yAxis : panel.yAxis.IsProper
  trace : panel.trace.IsRectilinear

def Shows (panel : Panel) (p : Point) : Prop := panel.xAxis.Shows p.1 ∧ panel.yAxis.Shows p.2

def Holds (panel : Panel) (r : Pixel) : Prop := panel.columns.Holds r.1 ∧ panel.rows.Holds r.2

structure IsReady (panel : Panel) : Prop where
  clear : panel.IsClear
  columns : panel.columns.HasRoom
  rows : panel.rows.HasRoom
  shows : ∀ run ∈ panel.trace, ∀ p ∈ run, panel.Shows p

theorem IsReady.shows_neighbours (ready : panel.IsReady) {run : List Point}
    (hrun : run ∈ panel.trace) {pq : Point × Point} (hpq : pq ∈ run.zip run.tail) :
    panel.Shows pq.1 ∧ panel.Shows pq.2 := by
  obtain ⟨hp, hq⟩ := List.of_mem_zip hpq
  exact ⟨ready.shows run hrun _ hp, ready.shows run hrun _ (List.mem_of_mem_tail hq)⟩

theorem IsReady.holds_mark (ready : panel.IsReady) (shows : panel.Shows point) :
    panel.Holds (panel.mark point) :=
  ⟨ready.columns.holds_pixel ready.columns.rightward ready.clear.xAxis shows.1,
    ready.rows.holds_pixel ready.rows.upward ready.clear.yAxis shows.2⟩

theorem IsReady.place_eq_mark (ready : panel.IsReady) (shows : panel.Shows point) :
    panel.place point = panel.mark point := by
  obtain ⟨columns, rows⟩ := ready.holds_mark shows
  exact Prod.ext (Span.keep_of_holds columns) (Span.keep_of_holds rows)

theorem IsReady.mark_straight (ready : panel.IsReady) (shows : panel.Shows point)
    (shows' : panel.Shows point') (straight : point.1 == point'.1 ∨ point.2 == point'.2) :
    (panel.mark point).1 = (panel.mark point').1 ∨ (panel.mark point).2 = (panel.mark point').2 := by
  obtain upright | level := straight
  · exact .inl (Extent.pixel_congr ready.clear.xAxis shows.1 shows'.1 upright
      (ready.columns.length_lt ready.columns.rightward))
  · exact .inr (Extent.pixel_congr ready.clear.yAxis shows.2 shows'.2 level
      (ready.rows.length_lt ready.rows.upward))

/-- The pixels of a panel are the rectangles between neighbours of its trace. -/
theorem IsReady.mem_pixels (ready : panel.IsReady) : r ∈ panel.pixels ↔
    ∃ run ∈ panel.trace, ∃ pq ∈ run.zip run.tail, Line.Spans (panel.mark pq.1) (panel.mark pq.2) r := by
  have line : ∀ run ∈ panel.trace, ∀ pq ∈ run.zip run.tail,
      (r ∈ Line.pixels (panel.place pq.1) (panel.place pq.2) ↔
        Line.Spans (panel.mark pq.1) (panel.mark pq.2) r) := by
    intro run hrun pq hpq
    obtain ⟨first, second⟩ := ready.shows_neighbours hrun hpq
    rw [ready.place_eq_mark first, ready.place_eq_mark second]
    exact Line.mem_pixels_of_straight
      (ready.mark_straight first second (ready.clear.trace run hrun pq hpq))
  simp only [pixels, List.mem_flatMap, Line.mem_through_map]
  exact exists_congr fun run => and_congr_right fun hrun =>
    exists_congr fun pq => and_congr_right fun hpq => line run hrun pq hpq

theorem holds_of_spans (hp : panel.Holds p) (hq : panel.Holds q) (h : Line.Spans p q r) :
    panel.Holds r := by
  unfold Holds Span.Holds Line.Spans at *
  omega

theorem IsReady.holds_of_mem_pixels (ready : panel.IsReady) (h : r ∈ panel.pixels) :
    panel.Holds r := by
  obtain ⟨run, hrun, pq, hpq, spans⟩ := ready.mem_pixels.1 h
  obtain ⟨first, second⟩ := ready.shows_neighbours hrun hpq
  exact holds_of_spans (ready.holds_mark first) (ready.holds_mark second) spans

theorem IsReady.mark_mem_pixels (ready : panel.IsReady) {run : List Point}
    (hrun : run ∈ panel.trace) {pq : Point × Point} (hpq : pq ∈ run.zip run.tail) :
    panel.mark pq.1 ∈ panel.pixels ∧ panel.mark pq.2 ∈ panel.pixels :=
  ⟨ready.mem_pixels.2 ⟨run, hrun, pq, hpq, Line.spans_left⟩,
    ready.mem_pixels.2 ⟨run, hrun, pq, hpq, Line.spans_right⟩⟩

end Panel

-- ---------------------------------------------------------------------------
-- Figures
-- ---------------------------------------------------------------------------

namespace Figure

variable {figure : Figure} {recording : Recording} {width height i j : ℕ} {panel other : Panel}

theorem exists_field (h : (figure.panels recording width height)[i]? = some panel) :
    i < figure.panelCount ∧
      ∃ field colour, panel = figure.panel recording width height i field colour := by
  rw [panels, List.getElem?_mapIdx] at h
  obtain ⟨⟨field, colour⟩, hfield, rfl⟩ := Option.map_eq_some_iff.1 h
  refine ⟨?_, field, colour, rfl⟩
  have hlt := (List.getElem?_eq_some_iff.1 hfield).1
  rw [List.length_zip] at hlt
  unfold panelCount
  omega

theorem shows_of_mem_trace (h : (figure.panels recording width height)[i]? = some panel)
    (clear : panel.IsClear) : ∀ run ∈ panel.trace, ∀ p ∈ run, panel.Shows p := by
  obtain ⟨-, field, colour, rfl⟩ := exists_field h
  intro run hrun p hp
  obtain ⟨⟨hx, xfinite⟩, hy, yfinite⟩ := Trace.mem_ofSeries hrun hp
  have xfits := Axis.spanFits_of_around clear.xAxis.fits
  have yfits := Axis.spanFits_of_around clear.yAxis.fits
  exact ⟨⟨Axis.around_holds xfits Axis.isFraction_zero hx xfinite, xfinite⟩,
    Axis.around_holds yfits Axis.isFraction_room hy yfinite, yfinite⟩

/-- Sizes at which every panel of a figure has room for its axis box. -/
structure Fits (figure : Figure) (width height : ℕ) : Prop where
  wide : 82 ≤ width
  tall : ∀ i < figure.panelCount, 58 ≤ Layout.panelRows height figure.panelCount i
  small : width < 2 ^ 32 ∧ height < 2 ^ 32

/-- Where a panel has its axis box. -/
structure InPlace (panel : Panel) (width height panels i : ℕ) : Prop where
  columns : panel.columns = ⟨72, width - 8⟩
  rows : panel.rows = ⟨Layout.panelTop height panels i + 8,
    Layout.panelTop height panels (i + 1) - 8 - Layout.labelRows panels i⟩

section

variable (fits : figure.Fits width height)
  (h : (figure.panels recording width height)[i]? = some panel)

include fits h

theorem Fits.inPlace : InPlace panel width height figure.panelCount i := by
  obtain ⟨hi, field, colour, rfl⟩ := exists_field h
  exact ⟨Layout.columns_of_wide fits.wide, Layout.rows_of_tall (fits.tall i hi)⟩

variable (tiles : Layout.Tiles height figure.panelCount) (clear : panel.IsClear)

include tiles clear

theorem Fits.ready : panel.IsReady := by
  have hi := (exists_field h).1
  obtain ⟨hcolumns, hrows⟩ := fits.inPlace h
  obtain ⟨top, bottom⟩ := tiles.between hi
  obtain ⟨hwidth, hheight⟩ := fits.small
  have wide := fits.wide
  have tall := fits.tall i hi
  have labels := Layout.labelRows_le figure.panelCount i
  unfold Layout.panelRows at tall
  refine ⟨clear, ?_, ?_, shows_of_mem_trace h clear⟩
  · rw [hcolumns]
    constructor <;> dsimp only <;> omega
  · rw [hrows]
    constructor <;> dsimp only <;> omega

theorem Fits.mem_box (hr : r ∈ panel.pixels) : (72 ≤ r.1 ∧ r.1 ≤ width - 9) ∧
    Layout.panelTop height figure.panelCount i + 8 ≤ r.2 ∧
    r.2 ≤ Layout.panelTop height figure.panelCount (i + 1) - 9 -
      Layout.labelRows figure.panelCount i := by
  have holds := (fits.ready h tiles clear).holds_of_mem_pixels hr
  obtain ⟨hcolumns, hrows⟩ := fits.inPlace h
  rw [Panel.Holds, hcolumns, hrows] at holds
  unfold Span.Holds at holds
  dsimp only at holds
  omega

theorem Fits.inside_image (hr : r ∈ panel.pixels) :
    (Image.offset? width height r).isSome = true := by
  obtain ⟨hcolumn, hrow⟩ := fits.mem_box h tiles clear hr
  obtain ⟨top, bottom⟩ := tiles.between (exists_field h).1
  have labels := Layout.labelRows_le figure.panelCount i
  rw [Image.offset?, if_pos (by omega), Option.isSome_some]

theorem Fits.disjoint_pixels (h' : (figure.panels recording width height)[j]? = some other)
    (clear' : other.IsClear) (lower : i < j) : panel.pixels.Disjoint other.pixels := by
  intro r hr hr'
  have hupper := (fits.mem_box h tiles clear hr).2.2
  have hlower := (fits.mem_box h' tiles clear' hr').2.1
  have labels := Layout.labelRows_le figure.panelCount i
  have above := tiles.ordered (i + 1) j lower
  omega

end

theorem Fits.colour_eq (fits : figure.Fits width height)
    (tiles : Layout.Tiles height figure.panelCount)
    (clear : ∀ panel ∈ figure.panels recording width height, panel.IsClear)
    (hpanel : panel ∈ figure.panels recording width height)
    (hother : other ∈ figure.panels recording width height) (hr : r ∈ panel.pixels)
    (hr' : r ∈ other.pixels) : other.colour = panel.colour := by
  obtain ⟨i, hi⟩ := List.mem_iff_getElem?.1 hpanel
  obtain ⟨j, hj⟩ := List.mem_iff_getElem?.1 hother
  obtain hlt | rfl | hgt := Nat.lt_trichotomy i j
  · exact (fits.disjoint_pixels hi tiles (clear _ hpanel) hj (clear _ hother) hlt hr hr').elim
  · rw [hi] at hj
    rw [Option.some.inj hj]
  · exact (fits.disjoint_pixels hj tiles (clear _ hother) hi (clear _ hpanel) hgt hr' hr).elim

/-- The panels share the rows below the title. The pixels of a series of upright and
level lines are in the axis box of its panel, where the ends of its lines are, so
that a figure of such series shows each in its own colour. -/
theorem panels_keep_apart (height count : ℕ) (below : 27 ≤ height) (nonempty : 1 ≤ count) :
    Layout.Tiles height count ∧
      ∀ (figure : Figure) (recording : Recording) (width : ℕ),
        figure.panelCount = count → figure.Fits width height →
        let panels := figure.panels recording width height
        (∀ (i : ℕ) (panel : Panel), panels[i]? = some panel → panel.IsClear →
          (∀ run ∈ panel.trace, ∀ pq ∈ run.zip run.tail,
            panel.mark pq.1 ∈ panel.pixels ∧ panel.mark pq.2 ∈ panel.pixels) ∧
          ∀ pixel ∈ panel.pixels,
            (72 ≤ pixel.1 ∧ pixel.1 ≤ width - 9) ∧
            (Layout.panelTop height count i + 8 ≤ pixel.2 ∧ pixel.2 ≤
              Layout.panelTop height count (i + 1) - 9 - (if i + 1 = count then 40 else 24)) ∧
            (Image.offset? width height pixel).isSome = true) ∧
        (∀ (i j : ℕ) (panel other : Panel), i ≠ j → panels[i]? = some panel →
          panels[j]? = some other → panel.IsClear → other.IsClear →
          panel.pixels.Disjoint other.pixels) ∧
        ∀ image, Image.ofPixels? width height (figure.draw recording width height) = some image →
          (∀ panel ∈ panels, panel.IsClear) → ∀ column < width, ∀ row < height,
            (∀ panel ∈ panels, (↑column, ↑row) ∈ panel.pixels →
              image.colourAt column row = panel.colour) ∧
            ((∀ panel ∈ panels, (↑column, ↑row) ∉ panel.pixels) →
              image.colourAt column row = Colour.white) := by
  have tiles := Layout.tiles below nonempty
  refine ⟨tiles, ?_⟩
  rintro figure recording width rfl fits panels
  refine ⟨fun i panel h clear => ?_, fun i j panel other hne h h' clear clear' => ?_,
    fun image himage clear column hcolumn row hrow => ?_⟩
  · have ready := fits.ready h tiles clear
    refine ⟨fun run hrun pq hpq => ready.mark_mem_pixels hrun hpq, fun pixel hpixel => ?_⟩
    obtain ⟨inColumns, inRows⟩ := fits.mem_box h tiles clear hpixel
    exact ⟨inColumns, inRows, fits.inside_image h tiles clear hpixel⟩
  · obtain hlt | hgt := Nat.lt_or_gt_of_ne hne
    · exact fits.disjoint_pixels h tiles clear h' clear' hlt
    · exact (fits.disjoint_pixels h' tiles clear' h clear hgt).symm
  · rw [colourAt_draw himage hcolumn hrow]
    constructor
    · intro panel hpanel hpixel
      exact covered_of_mem hpanel hpixel fun other hother hpixel' =>
        fits.colour_eq tiles clear hpanel hother hpixel hpixel'
    · intro free
      exact covered_eq_self fun panel hpanel hpixel => absurd hpixel (free panel hpanel)

theorem panels_keep_apart_step_and_level :
    let r : Recording := ⟨⟨["time", "id", "iq"], [.ofCells [("time", 0), ("id", 0.1), ("iq", 5)],
      .ofCells [("time", 0.3), ("id", 0.1), ("iq", 5)],
      .ofCells [("time", 0.3), ("id", -0.7), ("iq", 5)]]⟩, "a"⟩
    let figure := ofRecording r ["id", "iq"] "time" "time [s]"
    let upper := figure.panel r 82 143 0 "id" (Palette.colour 0 2)
    let lower := figure.panel r 82 143 1 "iq" (Palette.colour 1 2)
    figure.panels r 82 143 = [upper, lower] ∧ upper.IsClear ∧ lower.IsClear ∧
      (73, 51) ∈ upper.pixels ∧
      (∀ pixel ∈ upper.pixels, (72 ≤ pixel.1 ∧ pixel.1 ≤ 73) ∧ 35 ≤ pixel.2 ∧ pixel.2 ≤ 52) ∧
      (∀ pixel ∈ lower.pixels, (72 ≤ pixel.1 ∧ pixel.1 ≤ 73) ∧ 93 ≤ pixel.2 ∧ pixel.2 ≤ 94) ∧
      upper.pixels.Disjoint lower.pixels ∧
      ∃ image, Image.ofPixels? 82 143 (figure.draw r 82 143) = some image ∧
        image.colourAt 73 51 = upper.colour := by
  intro r figure upper lower
  have fits : figure.Fits 82 143 := ⟨by decide, by decide, by decide⟩
  have clearUpper : upper.IsClear := ⟨⟨by decide +kernel, by decide +kernel⟩,
    ⟨by decide +kernel, by decide +kernel⟩, Trace.isRectilinear_of_isAxisParallel (by decide +kernel)⟩
  have clearLower : lower.IsClear := ⟨⟨by decide +kernel, by decide +kernel⟩,
    ⟨by decide +kernel, by decide +kernel⟩, Trace.isRectilinear_of_isAxisParallel (by decide +kernel)⟩
  have clear : ∀ panel ∈ figure.panels r 82 143, panel.IsClear :=
    List.forall_mem_cons.2 ⟨clearUpper, List.forall_mem_singleton.2 clearLower⟩
  have himage := Image.ofPixels?_of_size (figure.size_draw r 82 143)
  obtain ⟨inside, apart, shown⟩ :=
    (panels_keep_apart 143 2 (by decide) (by decide)).2 figure r 82 rfl fits
  obtain ⟨ends, box⟩ := inside 0 upper rfl clearUpper
  have last : (73, 51) ∈ upper.pixels := by
    have step : upper.trace = [[(0, 0.1), (0.3, 0.1), (0.3, -0.7)]] := by decide +kernel
    have mark : upper.mark (0.3, -0.7) = (73, 51) := by decide +kernel
    exact mark ▸ (ends _ (step ▸ List.mem_cons_self) ((0.3, 0.1), (0.3, -0.7)) (by simp)).2
  refine ⟨rfl, clearUpper, clearLower, last, fun pixel h => ?_, fun pixel h => ?_,
    apart 0 1 upper lower (by decide) rfl rfl clearUpper clearLower, _, himage,
    (shown _ himage clear 73 (by decide) 51 (by decide)).1 upper List.mem_cons_self last⟩
  · obtain ⟨hcolumn, hrow, -⟩ := box pixel h
    exact ⟨hcolumn, hrow⟩
  · obtain ⟨hcolumn, hrow, -⟩ := (inside 1 lower rfl clearLower).2 pixel h
    exact ⟨hcolumn, hrow⟩

end Figure

end DriveBench
