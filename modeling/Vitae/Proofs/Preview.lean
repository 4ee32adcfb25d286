import Mathlib.Data.List.Forall2
import Vitae.Artifact
import Vitae.Proofs.Picture.RoundTrip
import Vitae.Template.Custom

/-! # Previews

Whatever texts the colors of a template are, its preview is one element that holds the marks of the
picture in their order, and each mark has its color as it was given. -/

namespace Vitae

open Text (IsWord)
open PictureReader (Element attributeText)

variable {p : String}

/-! ## The marks of a preview -/

/-- What of a mark does not depend on its size. -/
structure Sketch where
  name : String
  className : String
  color : String

/-- The element is of the sketch's kind and has its class and its color. -/
def Sketch.Fits (p : String) (s : Sketch) (e : Element) : Prop :=
  e.name = s.name ∧ e.value? "class" = some (p ++ s.className) ∧ e.value? "fill" = some s.color

theorem Sketch.map_value?_fill {sketches : List Sketch} {es : List Element}
    (h : List.Forall₂ (Sketch.Fits p) sketches es) :
    es.map (·.value? "fill") = sketches.map (some ·.color) := by
  induction h with
  | nil => rfl
  | cons hs _ ih => rw [List.map_cons, List.map_cons, hs.2.2, ih]

def Mark.IsDrawn (m : Mark) (s : Sketch) : Prop :=
  m.outline.name = s.name ∧ m.className = s.className ∧ IsWord s.className ∧
    ∃ opacity, m.style = String.join ((Picture.paint s.color opacity).map attributeText)

theorem Mark.value?_fill (m : Mark) (color : String) (opacity : Option Float) :
    (m.element p (Picture.paint color opacity)).value? "fill" = some color := by
  obtain ⟨className, outline, style⟩ := m
  cases outline <;> cases opacity <;> rfl

theorem Mark.IsDrawn.exists_writes (hp : IsWord p) {m : Mark} {s : Sketch} (h : m.IsDrawn s) :
    ∃ e, Picture.Writes p m e ∧ s.Fits p e := by
  obtain ⟨hname, hclass, hword, opacity, hstyle⟩ := h
  have hsub : ((Picture.paint s.color opacity).map Prod.fst).Sublist ["fill", "fill-opacity"] := by
    cases opacity <;> simp [Picture.paint]
  refine ⟨m.element p (Picture.paint s.color opacity), ⟨?_, m.isWellNamed_element hsub⟩, hname, ?_,
    m.value?_fill s.color opacity⟩
  · exact m.markText_eq hp (hclass ▸ hword) hstyle
  · rw [← hclass]
    rfl

theorem Sketch.exists_writes (hp : IsWord p) {marks : List Mark} {sketches : List Sketch}
    (h : List.Forall₂ Mark.IsDrawn marks sketches) :
    ∃ es, List.Forall₂ (Picture.Writes p) marks es ∧ List.Forall₂ (Sketch.Fits p) sketches es := by
  induction h with
  | nil => exact ⟨[], .nil, .nil⟩
  | cons hm _ ih =>
    obtain ⟨e, hwrites, hfits⟩ := hm.exists_writes hp
    obtain ⟨es, hall, hfit⟩ := ih
    exact ⟨e :: es, .cons hwrites hall, .cons hfits hfit⟩

theorem Mark.isDrawn_fill {name className color : String} {o : Outline} (hname : o.name = name)
    (hclass : IsWord className) :
    Mark.IsDrawn ⟨className, o, Picture.fill color⟩ ⟨name, className, color⟩ :=
  ⟨hname, rfl, hclass, none, Picture.fill_eq color⟩

theorem Mark.isDrawn_translucent {name className color : String} {o : Outline} {opacity : Float}
    (hname : o.name = name) (hclass : IsWord className) :
    Mark.IsDrawn ⟨className, o, Picture.translucent color opacity⟩ ⟨name, className, color⟩ :=
  ⟨hname, rfl, hclass, some opacity, Picture.translucent_eq color opacity⟩

theorem SectionsLayout.isTwoColumn_iff (sections : SectionsLayout) :
    sections.columns.isTwoColumn = true ↔
      (∃ kind ∈ SectionKind.all, sections.position kind = .left) ∧
        ∃ kind ∈ SectionKind.all, sections.position kind = .right := by
  simp [ColumnPlan.isTwoColumn, SectionsLayout.columns, SectionsLayout.placedAt]

namespace Preview

def avatarSketch : Sketch := ⟨"circle", "preview-avatar", "#ffffff"⟩

def lineSketch (color : String) : Sketch := ⟨"rect", "preview-line", color⟩

def blockSketches (color lineColor : String) : List Sketch :=
  [⟨"rect", "preview-block", color⟩, lineSketch lineColor]

theorem isDrawn_avatar (x y radius : Float) : (avatar x y radius).IsDrawn avatarSketch :=
  Mark.isDrawn_translucent rfl (by decide)

theorem isDrawn_firstLine (x y width : Float) :
    (firstLine x y width).IsDrawn (lineSketch "#ffffff") :=
  Mark.isDrawn_fill rfl (by decide)

theorem isDrawn_secondLine (x y width : Float) :
    (secondLine x y width).IsDrawn (lineSketch "#ffffff") :=
  Mark.isDrawn_translucent rfl (by decide)

/-- The styles of a header differ in the places of its marks alone. -/
theorem forall₂_band (showAvatar : Bool) (x y radius x₁ y₁ w₁ x₂ y₂ w₂ : Float) :
    List.Forall₂ Mark.IsDrawn
      ((if showAvatar then [avatar x y radius] else []) ++
        [firstLine x₁ y₁ w₁, secondLine x₂ y₂ w₂])
      ((if showAvatar then [avatarSketch] else []) ++
        [lineSketch "#ffffff", lineSketch "#ffffff"]) := by
  have hlines : List.Forall₂ Mark.IsDrawn [firstLine x₁ y₁ w₁, secondLine x₂ y₂ w₂]
      [lineSketch "#ffffff", lineSketch "#ffffff"] :=
    .cons (isDrawn_firstLine x₁ y₁ w₁) (.cons (isDrawn_secondLine x₂ y₂ w₂) .nil)
  cases showAvatar with
  | false => exact hlines
  | true => exact .cons (isDrawn_avatar x y radius) hlines

theorem forall₂_header (layout : HeaderLayout) (width height : Float) :
    List.Forall₂ Mark.IsDrawn (header layout width height)
      ((if layout.showAvatar then [avatarSketch] else []) ++
        [lineSketch "#ffffff", lineSketch "#ffffff"]) := by
  unfold header
  cases layout.style with
  | centered => exact forall₂_band layout.showAvatar ..
  | rightAligned => exact forall₂_band layout.showAvatar ..
  | leftAligned => exact forall₂_band layout.showAvatar ..
  | split => exact forall₂_band layout.showAvatar ..

theorem forall₂_block (x top width height : Float) (color lineColor : String) :
    List.Forall₂ Mark.IsDrawn (block x top width height color lineColor)
      (blockSketches color lineColor) :=
  .cons (Mark.isDrawn_translucent rfl (by decide))
    (.cons (Mark.isDrawn_fill rfl (by decide)) .nil)

theorem forall₂_blocks (layout : Layout) (width height : Float) :
    List.Forall₂ Mark.IsDrawn (blocks layout width height)
      (blockSketches layout.colors.secondary layout.colors.primary ++
        if (∃ kind ∈ SectionKind.all, layout.sections.position kind = .left) ∧
            ∃ kind ∈ SectionKind.all, layout.sections.position kind = .right then
          blockSketches layout.colors.accent layout.colors.primary
        else []) := by
  simp only [blocks, ← SectionsLayout.isTwoColumn_iff]
  split
  · exact List.rel_append (forall₂_block ..) (forall₂_block ..)
  · rw [List.append_nil]
    exact forall₂_block ..

end Preview

/-- A color cannot leave its attribute, and the numbers cannot either, whatever the size is. -/
theorem Template.preview_well_formed (t : Template) (options : RenderOptions)
    (hp : IsWord options.prefixText) :
    ∃ root children, PictureReader.read (t.preview options) = some (root, children) ∧
      root.name = "svg" ∧
      List.Forall₂ (Sketch.Fits options.prefixText)
        ([⟨"rect", "preview-background", t.layout.colors.background⟩,
            ⟨"rect", "preview-header", t.layout.colors.primary⟩] ++
          (if t.layout.header.showAvatar then [⟨"circle", "preview-avatar", "#ffffff"⟩] else []) ++
          [⟨"rect", "preview-line", "#ffffff"⟩, ⟨"rect", "preview-line", "#ffffff"⟩] ++
          [⟨"rect", "preview-block", t.layout.colors.secondary⟩,
            ⟨"rect", "preview-line", t.layout.colors.primary⟩] ++
          if (∃ kind ∈ SectionKind.all, t.layout.sections.position kind = .left) ∧
              ∃ kind ∈ SectionKind.all, t.layout.sections.position kind = .right then
            [⟨"rect", "preview-block", t.layout.colors.accent⟩,
              ⟨"rect", "preview-line", t.layout.colors.primary⟩]
          else [])
        children ∧
      (t.preview options).toList.count '<' = children.length + 2 ∧
      (t.preview options).toList.count '"' =
        2 * (root.attributes ++ children.flatMap (·.attributes)).length := by
  have hbase : List.Forall₂ Mark.IsDrawn
      [⟨"preview-background", .rect 0.0 0.0 options.previewWidth options.previewHeight,
          Picture.fill t.layout.colors.background⟩,
        ⟨"preview-header", .rect 0.0 0.0 options.previewWidth (options.previewHeight * 0.25),
          Picture.fill t.layout.colors.primary⟩]
      [⟨"rect", "preview-background", t.layout.colors.background⟩,
        ⟨"rect", "preview-header", t.layout.colors.primary⟩] :=
    .cons (Mark.isDrawn_fill rfl (by decide)) (.cons (Mark.isDrawn_fill rfl (by decide)) .nil)
  have hheader := Preview.forall₂_header t.layout.header options.previewWidth options.previewHeight
  have hblocks := Preview.forall₂_blocks t.layout options.previewWidth options.previewHeight
  have hdrawn := List.rel_append (List.rel_append hbase hheader) hblocks
  obtain ⟨children, hwrites, hfits⟩ := Sketch.exists_writes hp hdrawn
  have hread := Picture.read_back hp
    (t.layout.preview options.previewWidth options.previewHeight) hwrites options.pretty
  obtain ⟨hangles, hquotes⟩ := PictureReader.read_delimiters hread
  refine ⟨_, children, hread, rfl, ?_, hangles, hquotes⟩
  simp only [List.append_assoc] at hfits ⊢
  exact hfits

/-- Markup in a color, and entities too, come back as they were. -/
theorem Template.preview_well_formed_hostile :
    let t : Template := ⟨"k", "N", "", .modern, { Layout.neutral with
      header := ⟨.centered, true, true⟩
      colors := ⟨"\"/></svg><b>", "&quot;", "a'b>c", "&amp;lt;", ""⟩ }⟩
    IsWord "my_" ∧ ∃ root children,
      PictureReader.read (t.preview { classPrefix := some "my_" }) = some (root, children) ∧
        children.map (·.value? "fill") =
          [some "&amp;lt;", some "\"/></svg><b>", some "#ffffff", some "#ffffff", some "#ffffff",
            some "&quot;", some "\"/></svg><b>", some "a'b>c", some "\"/></svg><b>"] := by
  intro t
  have hp : IsWord "my_" := by decide
  obtain ⟨root, children, hread, -, hfits, -⟩ :=
    preview_well_formed t { classPrefix := some "my_" } hp
  refine ⟨hp, root, children, hread, ?_⟩
  rw [Sketch.map_value?_fill hfits]
  decide

end Vitae
