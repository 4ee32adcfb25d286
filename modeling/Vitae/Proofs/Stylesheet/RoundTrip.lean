import Vitae.Artifact
import Vitae.Proofs.Color
import Vitae.Proofs.Markup.Class
import Vitae.Proofs.Stylesheet.Reader
import Vitae.Stylesheet.Rules
import Vitae.Template.Custom

/-! # A stylesheet is read as it was meant

Everything that goes into a stylesheet is plain as soon as its prefix is a word and the colors and
fonts of its layout hold no brace and no semicolon. Then both ways of writing it are read back to the
same blocks. -/

namespace Vitae

open Text (IsWord)
open SheetReader

variable {p : String}

/-! ## Declarations -/

def Property.IsPlain : Property → Prop
  | standard name => IsWord name
  | «variable» _ => True

def Value.IsPlain : Value → Prop
  | verbatim s => SheetReader.IsPlain s.toList
  | _ => True

def Declaration.IsPlain (d : Declaration) : Prop := d.property.IsPlain ∧ d.value.IsPlain

instance : DecidablePred Property.IsPlain
  | .standard _ => inferInstanceAs (Decidable (IsWord _))
  | .variable _ => inferInstanceAs (Decidable True)

instance : DecidablePred Value.IsPlain
  | .verbatim _ => inferInstanceAs (Decidable (SheetReader.IsPlain _))
  | .pixels _ | .reference _ | .line _ _ => inferInstanceAs (Decidable True)

instance : DecidablePred Declaration.IsPlain := fun _ => inferInstanceAs (Decidable (_ ∧ _))

theorem Text.isWord_toString (n : Nat) : IsWord (toString n) := by
  rw [IsWord, Nat.toString_eq_ofList_toDigits, String.toList_ofList, List.all_eq_true]
  intro c hc
  have hdigit : c.isDigit = true := Nat.isDigit_of_mem_toDigits (by decide) (by decide) hc
  simp [Text.isWordChar, Char.isAlphanum, hdigit]

theorem Variable.isWord_name (hp : IsWord p) (v : Variable) : IsWord (v.name p) := by
  have hbase : IsWord v.baseName := by cases v <;> decide
  exact (IsWord.append (by decide) hp).append hbase

theorem Property.isWord_name (hp : IsWord p) {q : Property} (h : q.IsPlain) :
    IsWord (q.name p) := by
  cases q with
  | standard name => exact h
  | «variable» v => exact v.isWord_name hp

theorem Variable.isPlain_reference (hp : IsWord p) (v : Variable) :
    SheetReader.IsPlain (v.reference p).toList := by
  rw [reference, String.toList_append, String.toList_append]
  refine isPlain_append.mpr ⟨isPlain_append.mpr ⟨by decide, ?_⟩, by decide⟩
  exact isPlain_of_isWord (v.isWord_name hp)

theorem Value.isPlain_text (hp : IsWord p) {v : Value} (h : v.IsPlain) :
    SheetReader.IsPlain (v.text p).toList := by
  cases v with
  | verbatim s => exact h
  | pixels n =>
    rw [text, String.toList_append]
    exact isPlain_append.mpr ⟨isPlain_of_isWord (Text.isWord_toString n), by decide⟩
  | reference v => exact v.isPlain_reference hp
  | line n color =>
    rw [text, String.toList_append, String.toList_append]
    refine isPlain_append.mpr ⟨isPlain_append.mpr ⟨?_, by decide⟩, color.isPlain_reference hp⟩
    exact isPlain_of_isWord (Text.isWord_toString n)

/-! ## Rules -/

theorem Selector.head_text (s : Selector) :
    ∃ c, (s.text p).toList.head? = some c ∧ isSpacing c = false ∧ c ≠ '@' := by
  cases s with
  | root => exact ⟨':', by simp [text], by decide⟩
  | «class» c => exact ⟨'.', by simp [text], by decide⟩
  | inside c target => exact ⟨'.', by simp [text], by decide⟩

theorem Selector.isPlain_text (hp : IsWord p) (s : Selector) :
    SheetReader.IsPlain (s.text p).toList := by
  have htoken (c : Class) : SheetReader.IsPlain ("." ++ c.token p).toList := by
    rw [String.toList_append]
    exact isPlain_append.mpr ⟨by decide, isPlain_of_isWord (c.isWord_token hp)⟩
  cases s with
  | root =>
    change SheetReader.IsPlain ":root".toList
    decide
  | «class» c => exact htoken c
  | inside c target =>
    have htarget : SheetReader.IsPlain target.text.toList := by
      cases target with
      | tag t => cases t <;> decide
      | _ => decide
    rw [text, String.toList_append, String.toList_append]
    exact isPlain_append.mpr ⟨isPlain_append.mpr ⟨htoken c, by decide⟩, htarget⟩

theorem SheetReader.isPlain_intercalate {sep : String} (hsep : IsPlain sep.toList)
    {ss : List String} (h : ∀ s ∈ ss, IsPlain s.toList) : IsPlain (sep.intercalate ss).toList := by
  induction ss with
  | nil => simp [IsPlain]
  | cons s ss ih =>
    obtain ⟨hs, hss⟩ := List.forall_mem_cons.mp h
    cases ss with
    | nil => simpa using hs
    | cons t ss =>
      rw [String.intercalate_cons_cons, String.toList_append, String.toList_append]
      exact isPlain_append.mpr ⟨isPlain_append.mpr ⟨hs, hsep⟩, ih hss⟩

structure Rule.IsPlain (r : Rule) : Prop where
  selectors : r.selectors ≠ []
  declarations : ∀ d ∈ r.declarations, d.IsPlain

instance (r : Rule) : Decidable r.IsPlain :=
  decidable_of_iff (r.selectors ≠ [] ∧ ∀ d ∈ r.declarations, d.IsPlain)
    ⟨fun h => ⟨h.1, h.2⟩, fun h => ⟨h.1, h.2⟩⟩

theorem Rule.isPlainRule_text (hp : IsWord p) {r : Rule} (h : r.IsPlain) :
    IsPlainRule (r.text p) := by
  refine ⟨?_, ?_, ?_⟩
  · obtain ⟨s, ss, hss⟩ := List.exists_cons_of_ne_nil h.selectors
    obtain ⟨c, hhead, hc⟩ := s.head_text (p := p)
    refine ⟨c, ?_, hc⟩
    rw [text, hss]
    cases ss with
    | nil => simpa using hhead
    | cons t ss => simp [String.intercalate_cons_cons, List.head?_append, hhead]
  · refine isPlain_intercalate (by decide) ?_
    rw [List.forall_mem_map]
    exact fun s _ => s.isPlain_text hp
  · rw [text, List.forall_mem_map]
    exact fun d hd => ⟨Property.isWord_name hp (h.declarations d hd).1,
      Value.isPlain_text hp (h.declarations d hd).2⟩

/-! ## Layouts -/

theorem Rule.isPlain_resets : ∀ r ∈ resets, r.IsPlain := by decide +kernel

theorem Rule.isPlain_print : ∀ r ∈ print, r.IsPlain := by decide +kernel

/-- What is declared for a class depends on the header and the size of headings only. -/
theorem Class.declarations_eq (layout : Layout) (c : Class) :
    c.declarations layout = c.declarations { (default : Layout) with
      header := ⟨layout.header.style, false, false⟩
      typography := ⟨"", "", layout.typography.headingSize⟩ } := by
  cases c with
  | columnSide side => cases side <;> rfl
  | _ => rfl

/-- No text of the layout's own gets into a declaration, so there are finitely many to look at. -/
theorem Class.forall_mem_declarations {P : Declaration → Prop}
    (h : ∀ style ∈ HeaderStyle.all, ∀ size ∈ HeadingSize.all, ∀ c ∈ Class.all,
      ∀ d ∈ c.declarations { (default : Layout) with
        header := ⟨style, false, false⟩, typography := ⟨"", "", size⟩ }, P d)
    (layout : Layout) (c : Class) : ∀ d ∈ c.declarations layout, P d := by
  rw [declarations_eq]
  exact h _ (by cases layout.header.style <;> decide) _
    (by cases layout.typography.headingSize <;> decide) c c.mem_all

theorem Class.isPlain_rule (layout : Layout) (c : Class) : (c.rule layout).IsPlain :=
  ⟨List.cons_ne_nil _ _, c.forall_mem_declarations (by decide +kernel) layout⟩

namespace Layout

/-- The texts in a stylesheet that are the author's own. -/
def ownTexts (layout : Layout) : List String :=
  [layout.colors.primary, layout.colors.secondary, layout.colors.accent, layout.colors.background,
    layout.colors.text, layout.typography.headingFont, layout.typography.bodyFont]

def IsPlain (layout : Layout) : Prop := ∀ s ∈ layout.ownTexts, SheetReader.IsPlain s.toList

instance (layout : Layout) : Decidable layout.IsPlain := inferInstanceAs (Decidable (∀ s ∈ _, _))

theorem isPlain_palette {layout : Layout} (h : layout.IsPlain) : layout.palette.IsPlain := by
  refine ⟨List.cons_ne_nil _ _, ?_⟩
  simpa [IsPlain, ownTexts, palette, Declaration.IsPlain, Property.IsPlain, Value.IsPlain] using h

theorem isPlainBlock_stylesheet (hp : IsWord p) {layout : Layout} (h : layout.IsPlain) :
    ∀ b ∈ layout.stylesheet.text p, IsPlainBlock b := by
  rw [Stylesheet.text, List.forall_mem_map, stylesheet, List.forall_mem_append,
    List.forall_mem_append, List.forall_mem_map, List.forall_mem_map, List.forall_mem_cons,
    List.forall_mem_singleton]
  refine ⟨⟨⟨?_, ?_⟩, ?_⟩, by decide, ?_⟩
  · exact Rule.isPlainRule_text hp (isPlain_palette h)
  · exact fun r hr => Rule.isPlainRule_text hp (Rule.isPlain_resets r hr)
  · exact fun c _ => Rule.isPlainRule_text hp (c.isPlain_rule layout)
  · rw [List.forall_mem_map]
    exact fun r hr => Rule.isPlainRule_text hp (Rule.isPlain_print r hr)

theorem isPlain_ofCategory (category : Category) (primary : HexColor) :
    (ofCategory category primary).IsPlain := by
  have hhex (c : HexColor) : SheetReader.IsPlain c.toHex.toList :=
    HexColor.forall_mem_toHex (by decide) (by decide) c
  cases category <;>
    simp only [IsPlain, ownTexts, ofCategory, professional, modern, creative, minimal,
      HexColor.palette, List.forall_mem_cons, hhex, true_and] <;>
    decide

end Layout

/-- However a stylesheet is written, it is read back to the blocks that were meant, with every value
character for character. The colors and fonts of an archetype always allow for that. -/
theorem Template.css_read_back :
    (∀ (t : Template) (options : RenderOptions), t.layout.IsPlain → IsWord options.prefixText →
      ∀ pretty, read pretty (t.css { options with pretty }) =
        some (t.layout.stylesheet.text options.prefixText)) ∧
    ∀ category key name description primary,
      (archetype category key name description primary).layout.IsPlain :=
  ⟨fun _ _ ht hp _ => read_sheetText (Layout.isPlainBlock_stylesheet hp ht),
    fun category _ _ _ primary => Layout.isPlain_ofCategory category primary⟩

/-- Colons, quotes, blanks and line ends stand in values as they do anywhere. -/
theorem Template.css_read_back_hostile :
    let t : Template := ⟨"k", "N", "", .modern, { Layout.neutral with
      colors := ⟨"a: b", " c ", "\"d\" : 'e'", "f\n  g", "@media print "⟩ }⟩
    t.layout.IsPlain ∧ IsWord "my_" ∧ ∀ pretty,
      read pretty (t.css { classPrefix := some "my_", pretty }) =
        some (t.layout.stylesheet.text "my_") := by
  intro t
  have ht : t.layout.IsPlain := by decide
  have hp : IsWord "my_" := by decide
  exact ⟨ht, hp, css_read_back.1 t { classPrefix := some "my_" } ht hp⟩

end Vitae
