import Vitae.Proofs.Picture.Reader

/-! # Reading pictures back

What is written for a mark is one tag that a reader takes for an element without content, and a
picture that is written is read back to the elements of its marks in their order, whether it is
written on lines or not. -/

namespace Vitae

open Text (IsWord escapeAttribute)
open PictureReader (Element attributeText)

variable {p : String}

/-! ## Attributes -/

namespace Picture

theorem escapeAttribute_coordinate (v : Float) : escapeAttribute (coordinate v) = coordinate v := by
  refine Text.escapeAttribute_eq_self fun c hc => Decimal.notMem_write ?_ _ _
  rcases Text.mem_unquotable.mp hc with rfl | rfl | rfl <;> rfl

theorem escapeAttribute_eq_of_isWord {s : String} (hs : IsWord s) : escapeAttribute s = s := by
  refine Text.escapeAttribute_eq_self fun c hc => hs.not_mem ?_
  rcases Text.mem_unquotable.mp hc with rfl | rfl | rfl <;> rfl

theorem measure_eq (name : String) (v : Float) :
    measure name v = attributeText (name, coordinate v) := by
  rw [measure, attributeText, escapeAttribute_coordinate]

theorem classAttribute_eq (hp : IsWord p) {name : String} (hname : IsWord name) :
    classAttribute p name = attributeText ("class", p ++ name) := by
  rw [attributeText, escapeAttribute_eq_of_isWord (hp.append hname)]
  simp [classAttribute, String.append_assoc]

/-- What colors a mark, which may show what is behind it. -/
def paint (color : String) : Option Float → List (String × String)
  | none => [("fill", color)]
  | some opacity => [("fill", color), ("fill-opacity", coordinate opacity)]

theorem fill_eq (color : String) :
    fill color = String.join ((paint color none).map attributeText) := by
  simp [fill, paint, attributeText]

theorem translucent_eq (color : String) (opacity : Float) :
    translucent color opacity = String.join ((paint color (some opacity)).map attributeText) := by
  have hsplit : translucent color opacity = fill color ++ measure "fill-opacity" opacity := by
    simp [translucent, measure, String.append_assoc]
  rw [hsplit, fill_eq, measure_eq]
  simp [paint]

end Picture

/-! ## Marks -/

def Outline.name : Outline → String
  | .rect .. => "rect"
  | .circle .. => "circle"

def Outline.measures : Outline → List (String × String)
  | .rect x y width height =>
    [("x", Picture.coordinate x), ("y", Picture.coordinate y), ("width", Picture.coordinate width),
      ("height", Picture.coordinate height)]
  | .circle x y radius =>
    [("cx", Picture.coordinate x), ("cy", Picture.coordinate y), ("r", Picture.coordinate radius)]

def Mark.element (p : String) (m : Mark) (style : List (String × String)) : Element :=
  ⟨m.outline.name, ("class", p ++ m.className) :: (m.outline.measures ++ style)⟩

theorem Mark.markText_eq (hp : IsWord p) {m : Mark} (hm : IsWord m.className)
    {style : List (String × String)} (hs : m.style = String.join (style.map attributeText)) :
    Picture.markText p m = "<" ++ (m.element p style).text ++ "/>" := by
  obtain ⟨className, outline, text⟩ := m
  cases outline with
  | rect x y width height =>
    have hbegin : "<rect" = "<" ++ "rect" := rfl
    simp only at hs hm
    rw [Picture.markText, Picture.classAttribute_eq hp hm, hbegin, hs]
    simp [Picture.measure_eq, Mark.element, Element.text, Outline.name, Outline.measures,
      String.append_assoc, -String.reduceAppend]
  | circle x y radius =>
    have hbegin : "<circle" = "<" ++ "circle" := rfl
    simp only at hs hm
    rw [Picture.markText, Picture.classAttribute_eq hp hm, hbegin, hs]
    simp [Picture.measure_eq, Mark.element, Element.text, Outline.name, Outline.measures,
      String.append_assoc, -String.reduceAppend]

theorem Outline.name_spec (o : Outline) : IsWord o.name ∧ o.name ≠ "" := by
  cases o with
  | rect x y width height =>
    simp only [name]
    decide
  | circle x y radius =>
    simp only [name]
    decide

/-- The attributes that a mark may have. -/
def Mark.names (m : Mark) : List String :=
  "class" :: (m.outline.measures.map Prod.fst ++ ["fill", "fill-opacity"])

theorem Mark.names_spec (m : Mark) : (∀ name ∈ m.names, IsWord name) ∧ m.names.Nodup := by
  unfold names
  cases m.outline with
  | rect x y width height =>
    simp only [Outline.measures, List.map_cons, List.map_nil]
    decide
  | circle x y radius =>
    simp only [Outline.measures, List.map_cons, List.map_nil]
    decide

theorem Mark.isWellNamed_element (m : Mark) {style : List (String × String)}
    (hs : (style.map Prod.fst).Sublist ["fill", "fill-opacity"]) :
    (m.element p style).IsWellNamed := by
  obtain ⟨hwords, hnodup⟩ := m.names_spec
  have hsub : ((m.element p style).attributes.map Prod.fst).Sublist m.names := by
    rw [Mark.element, List.map_cons, List.map_append]
    exact (hs.append_left _).cons_cons _
  exact ⟨m.outline.name_spec, fun name h => hwords name (hsub.subset h), hnodup.sublist hsub⟩

/-! ## Pictures -/

namespace Picture

open PictureReader

/-- The element is what is written for the mark. -/
def Writes (p : String) (m : Mark) (e : Element) : Prop :=
  markText p m = "<" ++ e.text ++ "/>" ∧ e.IsWellNamed

/-- The element that holds the marks. -/
def root (p : String) (pic : Picture) : Element :=
  ⟨"svg", [("xmlns", "http://www.w3.org/2000/svg"), ("width", coordinate pic.width),
    ("height", coordinate pic.height),
    ("viewBox", "0 0 " ++ coordinate pic.width ++ " " ++ coordinate pic.height),
    ("class", p ++ "preview")]⟩

theorem isWellNamed_root (pic : Picture) : (root p pic).IsWellNamed := by
  have hname : IsWord "svg" ∧ "svg" ≠ "" := by decide
  have hwords : ∀ name ∈ ["xmlns", "width", "height", "viewBox", "class"], IsWord name := by decide
  have hnodup : ["xmlns", "width", "height", "viewBox", "class"].Nodup := by decide
  exact ⟨hname, hwords, hnodup⟩

theorem escapeAttribute_viewBox (v w : Float) :
    escapeAttribute ("0 0 " ++ coordinate v ++ " " ++ coordinate w) =
      "0 0 " ++ coordinate v ++ " " ++ coordinate w := by
  refine Text.escapeAttribute_eq_self fun c hc => ?_
  obtain ⟨hdecimal, hzeros, hblank⟩ :
      Decimal.isDecimalChar c = false ∧ c ∉ "0 0 ".toList ∧ c ∉ " ".toList := by
    rcases Text.mem_unquotable.mp hc with rfl | rfl | rfl <;> decide
  have hnumber : ∀ v, c ∉ (coordinate v).toList := fun v => Decimal.notMem_write hdecimal _ _
  simp only [String.toList_append, List.mem_append, not_or]
  exact ⟨⟨⟨hzeros, hnumber v⟩, hblank⟩, hnumber w⟩

theorem viewBox_eq (v w : Float) :
    attributeText ("viewBox", "0 0 " ++ coordinate v ++ " " ++ coordinate w) =
      " viewBox=\"0 0 " ++ coordinate v ++ " " ++ coordinate w ++ "\"" := by
  rw [attributeText, escapeAttribute_viewBox]
  apply String.toList_injective
  simp

theorem opening_eq :
    "<svg xmlns=\"http://www.w3.org/2000/svg\"" =
      "<" ++ ("svg" ++ attributeText ("xmlns", "http://www.w3.org/2000/svg")) := by
  decide +kernel

theorem openingTag_eq (hp : IsWord p) (pic : Picture) :
    pic.openingTag p = "<" ++ (root p pic).text ++ ">" := by
  have hname : IsWord "preview" := by decide
  unfold openingTag root Element.text
  simp only [opening_eq, classAttribute_eq hp hname, measure_eq, List.map_cons, List.map_nil,
    String.join_cons, String.join_nil, viewBox_eq]
  simp only [String.append_assoc, String.append_empty, -String.reduceAppend]

def gap (pretty : Bool) (s : String) : String := if pretty then s else ""

theorem isSpacing_gap {pretty : Bool} {s : String} (h : s.toList.all isSpacing = true) :
    (gap pretty s).toList.all isSpacing = true := by
  cases pretty with
  | false => rfl
  | true => exact h

theorem run_marks {marks : List Mark} {es : List Element} (h : List.Forall₂ (Writes p) marks es)
    (pretty : Bool) (tokens : List Token) :
    run ⟨tokens, .between⟩ (String.join (marks.map fun m =>
      gap pretty "  " ++ markText p m ++ gap pretty "\n")).toList =
      some ⟨tokens ++ es.map .empty, .between⟩ := by
  induction h generalizing tokens with
  | nil =>
    simp only [List.map_nil, List.append_nil]
    rfl
  | cons hm _ ih =>
    obtain ⟨htext, hnames⟩ := hm
    rw [List.map_cons, String.join_cons, String.toList_append, String.toList_append,
      String.toList_append, htext, run_append, run_append, run_append,
      run_gap (isSpacing_gap (by decide)), Option.bind_some, run_empty hnames, Option.bind_some,
      run_gap (isSpacing_gap (by decide)), Option.bind_some, ih, List.map_cons, List.append_assoc]
    rfl

theorem children?_append_closing (name : String) (es : List Element) :
    children? name (es.map .empty ++ [.closing name]) = some es := by
  induction es with
  | nil => exact if_pos rfl
  | cons e es ih =>
    rw [List.map_cons, List.cons_append, children?, ih]
    rfl

theorem render_eq (pic : Picture) (pretty : Bool) :
    pic.render p pretty = pic.openingTag p ++ gap pretty "\n" ++
      String.join (pic.marks.map fun m =>
        gap pretty "  " ++ markText p m ++ gap pretty "\n") ++ "</svg>" := rfl

theorem read_back (hp : IsWord p) (pic : Picture) {es : List Element}
    (h : List.Forall₂ (Writes p) pic.marks es) (pretty : Bool) :
    PictureReader.read (pic.render p pretty) = some (root p pic, es) := by
  have hclosing : ∀ tokens : List Token, run ⟨tokens, .between⟩ "</svg>".toList =
      some ⟨tokens ++ [.closing "svg"], .between⟩ := fun tokens => rfl
  have hrun : run ⟨[], .between⟩ (pic.render p pretty).toList =
      some ⟨.opening (root p pic) :: (es.map .empty ++ [.closing "svg"]), .between⟩ := by
    rw [render_eq, openingTag_eq hp, String.toList_append, String.toList_append,
      String.toList_append, run_append, run_append, run_append, run_opening (isWellNamed_root pic),
      Option.bind_some, run_gap (isSpacing_gap (by decide)), Option.bind_some, run_marks h,
      Option.bind_some, hclosing]
    rfl
  have hchildren : children? (root p pic).name (es.map .empty ++ [.closing "svg"]) = some es :=
    children?_append_closing "svg" es
  rw [PictureReader.read, hrun, Option.bind_some, tokens?, Option.bind_some, picture?, hchildren]
  rfl

end Picture

end Vitae
