import LayoutAudit.Measurement
import LayoutAudit.Range
import LayoutAudit.Reference
import LayoutAudit.Settings
import LayoutAudit.Proofs.Wire.Members

/-!
# Proofs.Wire.RoundTrip — what was written is read back

Whatever is handed to a run or to the engine has a writer and a reader.  The reader gives back what
was written, whichever parts are there and whichever variants were chosen.

Numbers are doubles or machine words: a double that is not finite is written as `null`, and a word
has a bound.  A map is held sorted by its keys.

* `Rect.IsFinite`, `Element.IsFinite`, `Measurement.IsFinite`, `Range.IsFinite` — all numbers can be
  written;
* `Viewport.Fits`, `Settings.Fits` — all words are within their bounds;
* `encode_readsAs` — one theorem for each type;
* `Wire.written_is_read_back` — all of them.
-/

namespace LayoutAudit

open Json (Value)
open Wire (Node)
open Json.Value (Fill SortedByName readsAs_bool readsAs_entries readsAs_float readsAs_list
  readsAs_natural readsAs_option readsAs_text readsAs_texts)

/-! ## Measurements -/

namespace Rect

def IsFinite (r : Rect) : Prop :=
  r.left.isFinite ∧ r.top.isFinite ∧ r.width.isFinite ∧ r.height.isFinite

theorem encode_readsAs {r : Rect} (h : r.IsFinite) : r.encode.ReadsAs Rect.decode r := by
  rcases h with ⟨hleft, htop, hwidth, hheight⟩
  refine Fill.readsAs ?_ (by simp)
  refine .map (a := (r.left, r.top, r.width, r.height)) ?_ rfl
  exact .and (by decide) (.given (by simp) (readsAs_float hleft)) <|
    .and (by decide) (.given (by simp) (readsAs_float htop)) <|
    .and (by decide) (.given (by simp) (readsAs_float hwidth)) <|
    .given (by simp) (readsAs_float hheight)

end Rect

namespace Element

def IsFinite (e : Element) : Prop :=
  e.box.IsFinite ∧ e.view.IsFinite ∧ e.canvas.IsFinite ∧ ∀ line ∈ e.lines.getD [], line.IsFinite

/-- The members that are always written. -/
def basics (e : Element) : List (String × Value) :=
  [("selector", .string e.selector), ("box", e.box.encode), ("view", e.view.encode),
    ("canvas", e.canvas.encode), ("visible", .bool e.visible), ("present", .bool e.present),
    ("text", .string e.text)]

/-- Line metrics that were not taken are not written, and what is not written was not taken. -/
theorem encode_readsAs {e : Element} (h : e.IsFinite) : e.encode.ReadsAs Element.decode e := by
  rcases h with ⟨hbox, hview, hcanvas, hlines⟩
  -- The members that are always written are read in the same way, whatever stands beside them.
  have hfields {members : List (String × Value)} (hbasics : ∀ m ∈ e.basics, m ∈ members)
      (hrest : Fill members (.optional "lines" (Node.asOption (Node.asList Rect.decode))
        none) e.lines) : Fill members fields e := by
    simp only [basics, List.forall_mem_cons] at hbasics
    rcases hbasics with ⟨h1, h2, h3, h4, h5, h6, h7, -⟩
    refine .map (a := (e.selector, e.box, e.view, e.canvas, e.visible, e.present, e.text, e.lines))
      ?_ rfl
    exact .and (by decide) (.given h1 (readsAs_text e.selector)) <|
      .and (by decide) (.given h2 (Rect.encode_readsAs hbox)) <|
      .and (by decide) (.given h3 (Rect.encode_readsAs hview)) <|
      .and (by decide) (.given h4 (Rect.encode_readsAs hcanvas)) <|
      .and (by decide) (.given h5 (readsAs_bool e.visible)) <|
      .and (by decide) (.given h6 (readsAs_bool e.present)) <|
      .and (by decide) (.given h7 (readsAs_text e.text)) hrest
  unfold encode
  cases htaken : e.lines with
  | none =>
      rw [htaken] at hfields
      exact (hfields (by simp [basics]) (.omitted (by simp))).readsAs (by simp)
  | some lines =>
      rw [htaken] at hfields
      have hread : (Value.array (lines.map Rect.encode)).ReadsAs
          (Node.asOption (Node.asList Rect.decode)) (some lines) :=
        (readsAs_list fun line hline =>
          Rect.encode_readsAs (hlines line (by simpa [htaken] using hline))).some (by simp)
      exact (hfields (by simp [basics]) (.given (by simp) hread)).readsAs (by simp)

end Element

namespace Store

theorem encode_readsAs {s : Store} (hsorted : SortedByName s.entries)
    (h : ∀ found ∈ s.entries, ∀ e ∈ found.2, e.IsFinite) : s.encode.ReadsAs Store.decode s := by
  have hentries : s.encode.ReadsAs (Node.asEntries (Node.asList Element.decode)) s.entries := by
    refine readsAs_entries (fun found => .array (found.map Element.encode)) hsorted
      fun found hfound => ?_
    exact readsAs_list fun e he => Element.encode_readsAs (h found hfound e he)
  -- A store is read as its entries are.
  intro w hw
  rw [decode, hentries w hw]
  rfl

end Store

namespace Measurement

/-- All numbers are finite, and the store is sorted by its keys. -/
structure IsFinite (m : Measurement) : Prop where
  sorted : SortedByName m.store.entries
  found : ∀ found ∈ m.store.entries, ∀ e ∈ found.2, e.IsFinite
  view : m.view.IsFinite
  canvas : m.canvas.IsFinite

theorem encode_readsAs {m : Measurement} (h : m.IsFinite) :
    m.encode.ReadsAs Measurement.decode m := by
  refine Fill.readsAs ?_ (by simp)
  refine .map (a := (m.store, m.view, m.canvas)) ?_ rfl
  exact .and (by decide) (.given (by simp) (Store.encode_readsAs h.sorted h.found)) <|
    .and (by decide) (.given (by simp) (Element.encode_readsAs h.view)) <|
    .given (by simp) (Element.encode_readsAs h.canvas)

end Measurement

/-! ## Specs -/

namespace Range

def IsFinite (r : Range) : Prop := ∀ b ∈ r.bounds, b.2.isFinite

theorem encode_readsAs {r : Range} (h : r.IsFinite) : r.encode.ReadsAs Range.decode r := by
  have hbound {name : String} {x : Float} (hb : (name, x) ∈ r.bounds) :
      Fill (r.bounds.map fun b => (b.1, .float b.2)) (bound name) x :=
    .given (List.mem_map.2 ⟨(name, x), hb, rfl⟩) (readsAs_float (h (name, x) hb))
  have hfields : Fill (r.bounds.map fun b => (b.1, .float b.2)) (fields r.kind) r := by
    cases r with
    | exactly value => exact .map (hbound (by simp [bounds])) rfl
    | atLeast min => exact .map (hbound (by simp [bounds])) rfl
    | atMost max => exact .map (hbound (by simp [bounds])) rfl
    | above min => exact .map (hbound (by simp [bounds])) rfl
    | below max => exact .map (hbound (by simp [bounds])) rfl
    | between min max =>
        exact .map (.and (by decide) (hbound (by simp [bounds])) (hbound (by simp [bounds]))) rfl
    | around value tolerance =>
        exact .map (.and (by decide) (hbound (by simp [bounds])) (hbound (by simp [bounds]))) rfl
  refine Fill.readsAs_tagged hfields ?_ ?_
  · cases r <;> simp [kind, kinds]
  · cases r <;> simp [bounds]

end Range

namespace Selector

/-- The query may come in front of the kind. -/
theorem encode_readsAs (s : Selector) : s.encode.ReadsAs Selector.decode s := by
  intro w hw
  cases s with
  | css query =>
      rcases hw.object_cases with ⟨members, rfl, hmoved⟩
      rcases hmoved.pair with ⟨_, _, ⟨⟩, ⟨⟩, rfl | rfl⟩
      · rfl
      · rfl
  | xpath query =>
      rcases hw.object_cases with ⟨members, rfl, hmoved⟩
      rcases hmoved.pair with ⟨_, _, ⟨⟩, ⟨⟩, rfl | rfl⟩
      · rfl
      · rfl
  | view =>
      rcases hw.object_cases with ⟨members, rfl, hmoved⟩
      rcases hmoved.singleton with ⟨_, ⟨⟩, rfl⟩
      rfl
  | canvas =>
      rcases hw.object_cases with ⟨members, rfl, hmoved⟩
      rcases hmoved.singleton with ⟨_, ⟨⟩, rfl⟩
      rfl

end Selector

theorem Declaration.encode_readsAs (d : Declaration) : d.encode.ReadsAs Declaration.decode d := by
  refine Fill.readsAs ?_ (by simp)
  refine .map (a := (d.key, d.selector)) ?_ rfl
  exact .and (by decide) (.given (by simp) (readsAs_text d.key)) <|
    .given (by simp) (Selector.encode_readsAs d.selector)

/-! ## Scripts -/

namespace ViewportClass

theorem encode_readsAs (c : ViewportClass) : c.encode.ReadsAs ViewportClass.decode c := by
  rintro w ⟨⟩
  cases c <;> rfl

theorem encode_readsAs_settled (c : ViewportClass) : c.encode.ReadsAs ViewportClass.ofSettled c := by
  rintro w ⟨⟩
  cases c <;> rfl

end ViewportClass

namespace SnapshotOptions

/-- The class may be read in one of two ways; what is around the two members makes no difference. -/
theorem fill {members : List (String × Value)} {decodeClass : Node → Wire.Reading ViewportClass}
    {o : SnapshotOptions} (hmem : ∀ m ∈ o.members, m ∈ members)
    (hclass : ∀ c : ViewportClass, c.encode.ReadsAs decodeClass c) :
    Fill members (fieldsWith decodeClass) o := by
  simp only [SnapshotOptions.members, List.forall_mem_cons] at hmem
  rcases hmem with ⟨htag, hclassMem, -⟩
  refine .map (a := (o.viewTag, o.viewportClass)) ?_ rfl
  exact .and (by simp [Wire.Record.optional, Wire.Record.field])
    (.given htag (readsAs_option fun s _ => ⟨readsAs_text s, by simp⟩))
    (.given hclassMem (readsAs_option fun c _ => ⟨hclass c, by simp [ViewportClass.encode]⟩))

theorem encode_readsAs (o : SnapshotOptions) : o.encode.ReadsAs SnapshotOptions.decode o :=
  (fill (fun _ hm => hm) ViewportClass.encode_readsAs).readsAs (by simp [members])

end SnapshotOptions

namespace Script

theorem Step.encode_readsAs (s : Step) : s.encode.ReadsAs Step.decode s := by
  cases s with
  | navigate path =>
      have hpath : Fill [("path", .string path)] (Step.fields "navigate") (.navigate path) :=
        .map (.given (by simp) (readsAs_text path)) rfl
      exact Fill.readsAs_tagged hpath (by decide) (by simp)
  | snapshot name spec options =>
      have hfields : Fill ([("name", .string name), ("spec", .string spec)] ++ options.members)
          (Step.fields "snapshot") (.snapshot name spec options) := by
        refine .map (a := (name, spec, options)) ?_ rfl
        refine .and (by decide) (.given (by simp) (readsAs_text name)) <|
          .and (by decide) (.given (by simp) (readsAs_text spec)) ?_
        exact SnapshotOptions.fill (fun _ hm => List.mem_append_right _ hm)
          ViewportClass.encode_readsAs_settled
      exact Fill.readsAs_tagged hfields (by decide) (by simp [SnapshotOptions.members])

theorem encode_readsAs (s : Script) : s.encode.ReadsAs Script.decode s := by
  refine Fill.readsAs ?_ (by simp)
  refine .map (a := (s.name, s.description, s.steps)) ?_ rfl
  exact .and (by decide) (.given (by simp) (readsAs_text s.name)) <|
    .and (by decide) (.given (by simp) (readsAs_text s.description)) <|
    .given (by simp) (readsAs_list fun step _ => Step.encode_readsAs step)

end Script

/-! ## Settings -/

namespace Viewport

def Fits (v : Viewport) : Prop := v.width < sizeBound ∧ v.height < sizeBound

theorem encode_readsAs {v : Viewport} (h : v.Fits) : v.encode.ReadsAs Viewport.decode v := by
  refine Fill.readsAs ?_ (by simp)
  refine .map (a := (v.name, v.width, v.height)) ?_ rfl
  exact .and (by decide) (.given (by simp) (readsAs_text v.name)) <|
    .and (by decide) (.given (by simp) (readsAs_natural h.1)) <|
    .given (by simp) (readsAs_natural h.2)

end Viewport

theorem BrowserKind.encode_readsAs (b : BrowserKind) : b.encode.ReadsAs BrowserKind.decode b := by
  rintro w ⟨⟩
  cases b <;> rfl

namespace Settings

/-- All words are within their bounds, and the groups are sorted by name. -/
structure Fits (s : Settings) : Prop where
  port : s.port < UInt16.size
  portAttempts : s.portAttempts < UInt64.size
  workers : ∀ n, s.workers = some n → n < UInt64.size
  timeout : s.timeout < UInt64.size
  presets : ∀ v ∈ s.presets, v.Fits
  groups : SortedByName s.groups

theorem encode_readsAs {s : Settings} (h : s.Fits) : s.encode.ReadsAs Settings.decode s := by
  have htext (o : Option String) :
      (Value.option .string o).ReadsAs (Node.asOption Node.asText) o :=
    readsAs_option fun text _ => ⟨readsAs_text text, by simp⟩
  have hworkers : (Value.option .nat s.workers).ReadsAs (Node.asOption word) s.workers :=
    readsAs_option fun n hn => ⟨readsAs_natural (h.workers n hn), by simp [Value.nat]⟩
  have hpresets : (Value.array (s.presets.map Viewport.encode)).ReadsAs
      (Node.asList Viewport.decode) s.presets :=
    readsAs_list fun v hv => Viewport.encode_readsAs (h.presets v hv)
  have hgroups : (Value.object (s.groups.map fun group => (group.1, .strings group.2))).ReadsAs
      (Node.asEntries texts) s.groups :=
    readsAs_entries _ h.groups fun group _ => readsAs_texts group.2
  have hscripts : (Value.array (s.scripts.map Script.encode)).ReadsAs (Node.asList Script.decode)
      s.scripts :=
    readsAs_list fun script _ => Script.encode_readsAs script
  refine Fill.readsAs ?_ (by simp)
  refine .map (a := (s.baseUrl, s.serveDir, s.port, s.portAttempts, s.viewports, s.presets,
    s.groups, s.scenarios, s.workers, s.browser, s.headless, s.timeout, s.pretty, s.scripts)) ?_ rfl
  exact .and (by decide) (.given (by simp) (htext s.baseUrl)) <|
    .and (by decide) (.given (by simp) (htext s.serveDir)) <|
    .and (by decide) (.given (by simp) (readsAs_natural h.port)) <|
    .and (by decide) (.given (by simp) (readsAs_natural h.portAttempts)) <|
    .and (by decide) (.given (by simp) (readsAs_texts s.viewports)) <|
    .and (by decide) (.given (by simp) hpresets) <|
    .and (by decide) (.given (by simp) hgroups) <|
    .and (by decide) (.given (by simp) (readsAs_texts s.scenarios)) <|
    .and (by decide) (.given (by simp) hworkers) <|
    .and (by decide) (.given (by simp) (BrowserKind.encode_readsAs s.browser)) <|
    .and (by decide) (.given (by simp) (readsAs_bool s.headless)) <|
    .and (by decide) (.given (by simp) (readsAs_natural h.timeout)) <|
    .and (by decide) (.given (by simp) (readsAs_bool s.pretty)) <|
    .given (by simp) hscripts

end Settings

/-! ## All of them -/

namespace Wire

/-- Whatever is written as JSON data is read back, in whatever order the members of its objects
come. -/
theorem written_is_read_back :
    (∀ r : Range, r.IsFinite → r.encode.ReadsAs Range.decode r) ∧
    (∀ e : Element, e.IsFinite → e.encode.ReadsAs Element.decode e) ∧
    (∀ m : Measurement, m.IsFinite → m.encode.ReadsAs Measurement.decode m) ∧
    (∀ s : Selector, s.encode.ReadsAs Selector.decode s) ∧
    (∀ d : Declaration, d.encode.ReadsAs Declaration.decode d) ∧
    (∀ v : Viewport, v.Fits → v.encode.ReadsAs Viewport.decode v) ∧
    (∀ o : SnapshotOptions, o.encode.ReadsAs SnapshotOptions.decode o) ∧
    (∀ s : Script.Step, s.encode.ReadsAs Script.Step.decode s) ∧
    (∀ s : Script, s.encode.ReadsAs Script.decode s) ∧
    (∀ s : Settings, s.Fits → s.encode.ReadsAs Settings.decode s) :=
  ⟨fun _ => Range.encode_readsAs, fun _ => Element.encode_readsAs,
    fun _ => Measurement.encode_readsAs, Selector.encode_readsAs, Declaration.encode_readsAs,
    fun _ => Viewport.encode_readsAs, SnapshotOptions.encode_readsAs, Script.Step.encode_readsAs,
    Script.encode_readsAs, fun _ => Settings.encode_readsAs⟩

def sampleElement : Element :=
  { Element.shownAt "h1" ⟨8.0, 16.0, 320.0, 24.5⟩ with
    text := "Hello", lines := some [⟨8.0, 16.0, 40.0, 24.5⟩] }

/-- Two keys, one of them without a match. -/
def sampleMeasurement : Measurement :=
  ⟨⟨[("a", [sampleElement]), ("b", [])]⟩, sampleElement, Element.blank⟩

/-- Settings of a run with a preset, two groups and a script. -/
def sampleSettings : Settings :=
  { Settings.standard with
    serveDir := some "dist", workers := some 2, presets := [⟨"kiosk", 1080, 1920⟩]
    groups := [("one", ["kiosk"]), ("two", ["kiosk", "mobile"])]
    scripts := [⟨"home", "", [.navigate "/", .snapshot "top" "page-frame" ⟨none, some .mobile⟩]⟩] }

/-- Those are read back as they were written. -/
theorem samples_read_back :
    Range.decode (.ofValue (Range.between 0.0 16.0).encode) = .ok (.between 0.0 16.0) ∧
      Element.decode (.ofValue sampleElement.encode) = .ok sampleElement ∧
      Measurement.decode (.ofValue sampleMeasurement.encode) = .ok sampleMeasurement ∧
      Settings.decode (.ofValue sampleSettings.encode) = .ok sampleSettings := by
  rcases written_is_read_back with ⟨hrange, helement, hmeasurement, -, -, -, -, -, -, hsettings⟩
  have hshown : sampleElement.IsFinite := by
    simp only [sampleElement, Element.shownAt, Element.IsFinite, Rect.IsFinite]
    decide
  have hblank : Element.blank.IsFinite := by
    simp only [Element.blank, Element.IsFinite, Rect.IsFinite]
    decide
  have hkeys : SortedByName sampleMeasurement.store.entries := by
    unfold SortedByName
    decide
  have hmeasured : sampleMeasurement.IsFinite :=
    ⟨hkeys, by simp [sampleMeasurement, hshown], hshown, hblank⟩
  have hgroups : SortedByName sampleSettings.groups := by
    unfold SortedByName
    decide
  have hpresets : ∀ v ∈ sampleSettings.presets, v.Fits := by
    unfold Viewport.Fits
    decide
  have hfits : sampleSettings.Fits :=
    ⟨by decide, by decide, by decide, by decide, hpresets, hgroups⟩
  refine ⟨?_, helement _ hshown _ (.refl _), hmeasurement _ hmeasured _ (.refl _),
    hsettings _ hfits _ (.refl _)⟩
  have hbounds : (Range.between 0.0 16.0).IsFinite := by
    simp only [Range.IsFinite, Range.bounds]
    decide
  exact hrange _ hbounds _ (.refl _)

end Wire
end LayoutAudit
