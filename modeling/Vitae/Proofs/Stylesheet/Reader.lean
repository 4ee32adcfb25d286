import Vitae.Proofs.Text.Word
import Vitae.Stylesheet.Writer

/-! # Reading stylesheets

A reader of stylesheets goes through one once, character by character. A brace opens a rule or, behind
`@media`, a block of rules, and the matching brace closes it. A semicolon ends a declaration, and the
first colon in one ends its property. In a stylesheet that is written on lines of its own the reader
passes over what comes before a piece, and takes off the blank before a brace and the one behind a
colon. It has no notion of a value: any text without braces and semicolons is one. -/

namespace Vitae

open Text (IsWord)

namespace SheetReader

/-- The blocks before, the block and the rule that are still open, and what has been read since the
last brace or semicolon. -/
structure State where
  blocks : List (Block RuleText)
  media : Option (String × List RuleText)
  rule : Option RuleText
  raw : List Char

def isSpacing (c : Char) : Bool := c == ' ' || c == '\n'

/-- Without the one blank in front. -/
def unpad : Bool → List Char → List Char
  | true, ' ' :: cs => cs
  | _, cs => cs

def mediaMark : String := "@media "

def query? (head : List Char) : Option String :=
  if mediaMark.toList <+: head then some (String.ofList (head.drop mediaMark.toList.length))
  else none

/-- A media block stands in no other. -/
def enter (blocks : List (Block RuleText)) (media : Option (String × List RuleText))
    (head : List Char) : Option State :=
  match query? head, media with
  | none, media => some ⟨blocks, media, some ⟨String.ofList head, []⟩, []⟩
  | some query, none => some ⟨blocks, some (query, []), none, []⟩
  | some _, some _ => none

def declaration? (pretty : Bool) (raw : List Char) : Option (String × String) :=
  match raw.dropWhile (· ≠ ':') with
  | [] => none
  | _ :: value =>
    some (String.ofList (raw.takeWhile (· ≠ ':')), String.ofList (unpad pretty value))

/-- A rule goes into the media block that is open, if there is one. -/
def add (blocks : List (Block RuleText)) (media : Option (String × List RuleText))
    (r : RuleText) : State :=
  match media with
  | none => ⟨blocks ++ [.rule r], none, none, []⟩
  | some (query, rules) => ⟨blocks, some (query, rules ++ [r]), none, []⟩

def opened (pretty : Bool) : State → Option State
  | ⟨blocks, media, none, raw⟩ => enter blocks media (unpad pretty raw.reverse).reverse
  | ⟨_, _, some _, _⟩ => none

def declared (pretty : Bool) : State → Option State
  | ⟨blocks, media, some r, raw⟩ =>
    (declaration? pretty raw).map fun d =>
      ⟨blocks, media, some { r with declarations := r.declarations ++ [d] }, []⟩
  | ⟨_, _, none, _⟩ => none

def closed : State → Option State
  | ⟨blocks, media, some r, []⟩ => some (add blocks media r)
  | ⟨blocks, some (query, rules), none, []⟩ => some ⟨blocks ++ [.media query rules], none, none, []⟩
  | _ => none

def step (pretty : Bool) (s : State) (c : Char) : Option State :=
  if c = '\x7b' then opened pretty s
  else if c = ';' then declared pretty s
  else if c = '\x7d' then closed s
  else if pretty && s.raw.isEmpty && isSpacing c then some s
  else some { s with raw := s.raw ++ [c] }

def run (pretty : Bool) (s : State) (cs : List Char) : Option State := cs.foldlM (step pretty) s

/-- The blocks that are read, if none is left open. -/
def blocks? : State → Option (List (Block RuleText))
  | ⟨blocks, none, none, []⟩ => some blocks
  | _ => none

def read (pretty : Bool) (css : String) : Option (List (Block RuleText)) :=
  (run pretty ⟨[], none, none, []⟩ css.toList).bind blocks?

/-! ## Runs -/

/-- Text in which no piece of a stylesheet begins or ends. -/
def IsPlain (cs : List Char) : Prop := ∀ c ∈ cs, c ≠ '\x7b' ∧ c ≠ '\x7d' ∧ c ≠ ';'

instance (cs : List Char) : Decidable (IsPlain cs) := List.decidableBAll _ cs

/-- What only sets the lines of a stylesheet. -/
def IsGap (pretty : Bool) (cs : List Char) : Prop := ∀ c ∈ cs, pretty = true ∧ isSpacing c = true

variable {pretty : Bool} {blocks : List (Block RuleText)}
  {media : Option (String × List RuleText)} {rule : Option RuleText}

theorem run_cons (s : State) (c : Char) (cs : List Char) :
    run pretty s (c :: cs) = (step pretty s c).bind (run pretty · cs) := rfl

theorem run_append (s : State) (cs ds : List Char) :
    run pretty s (cs ++ ds) = (run pretty s cs).bind (run pretty · ds) := List.foldlM_append

theorem step_brace (s : State) : step pretty s '\x7b' = opened pretty s := rfl

theorem step_semicolon (s : State) : step pretty s ';' = declared pretty s := rfl

theorem step_closing_brace (s : State) : step pretty s '\x7d' = closed s := rfl

theorem step_gap {c : Char} (hc : pretty = true ∧ isSpacing c = true) :
    step pretty ⟨blocks, media, rule, []⟩ c = some ⟨blocks, media, rule, []⟩ := by
  obtain ⟨rfl, hc⟩ := hc
  have hne : c = ' ' ∨ c = '\n' := by simpa [isSpacing] using hc
  rcases hne with rfl | rfl <;> rfl

theorem run_gap {cs : List Char} (h : IsGap pretty cs) :
    run pretty ⟨blocks, media, rule, []⟩ cs = some ⟨blocks, media, rule, []⟩ := by
  induction cs with
  | nil => rfl
  | cons c cs ih =>
    rw [run_cons, step_gap (h c List.mem_cons_self)]
    exact ih fun c hc => h c (List.mem_cons_of_mem _ hc)

theorem step_plain {c : Char} {raw : List Char} (hc : IsPlain [c])
    (hr : raw = [] → isSpacing c = false) :
    step pretty ⟨blocks, media, rule, raw⟩ c = some ⟨blocks, media, rule, raw ++ [c]⟩ := by
  obtain ⟨hopen, hclose, hend⟩ := hc c (List.mem_singleton_self c)
  rw [step, if_neg hopen, if_neg hend, if_neg hclose, if_neg]
  intro h
  simp only [Bool.and_eq_true, List.isEmpty_iff] at h
  rw [hr h.1.2] at h
  cases h.2

theorem run_plain {cs : List Char} (hcs : IsPlain cs) {raw : List Char} (hr : raw ≠ []) :
    run pretty ⟨blocks, media, rule, raw⟩ cs = some ⟨blocks, media, rule, raw ++ cs⟩ := by
  induction cs generalizing raw with
  | nil =>
    rw [List.append_nil]
    rfl
  | cons c cs ih =>
    obtain ⟨hc, hcs⟩ := List.forall_mem_cons.mp hcs
    rw [run_cons, step_plain (by simpa [IsPlain] using hc) fun h => absurd h hr, Option.bind_some,
      ih hcs (by simp), List.append_assoc]
    rfl

/-- A piece begins with its first character that sets no line. -/
theorem run_piece {cs : List Char} (hcs : IsPlain cs) (hc : ∀ c ∈ cs.head?, isSpacing c = false) :
    run pretty ⟨blocks, media, rule, []⟩ cs = some ⟨blocks, media, rule, cs⟩ := by
  cases cs with
  | nil => rfl
  | cons c cs =>
    obtain ⟨hplain, hcs⟩ := List.forall_mem_cons.mp hcs
    rw [run_cons, step_plain (by simpa [IsPlain] using hplain) fun _ => hc c rfl, Option.bind_some]
    exact run_plain hcs (List.cons_ne_nil _ _)

theorem isPlain_append {cs ds : List Char} : IsPlain (cs ++ ds) ↔ IsPlain cs ∧ IsPlain ds :=
  List.forall_mem_append

theorem isPlain_of_isWord {s : String} (h : IsWord s) : IsPlain s.toList := by
  intro c hc
  have hne {d : Char} (hd : Text.isWordChar d = false) : c ≠ d := fun he => h.not_mem hd (he ▸ hc)
  exact ⟨hne rfl, hne rfl, hne rfl⟩

theorem isSpacing_of_mem_word {s : String} (h : IsWord s) {c : Char} (hc : c ∈ s.toList) :
    isSpacing c = false := by
  have hne {d : Char} (hd : Text.isWordChar d = false) : c ≠ d := fun he => h.not_mem hd (he ▸ hc)
  simpa [isSpacing] using And.intro (hne (d := ' ') rfl) (hne (d := '\n') rfl)

/-! ## Declarations -/

/-- What only a stylesheet on lines of its own has. -/
def gap (pretty : Bool) (s : String) : List Char := if pretty then s.toList else []

theorem isGap_gap {s : String} (h : s.toList.all isSpacing) : IsGap pretty (gap pretty s) := by
  intro c hc
  cases pretty with
  | false => cases hc
  | true => exact ⟨rfl, List.all_eq_true.mp h c hc⟩

theorem isGap_indent (depth : Nat) : IsGap pretty (gap pretty (Node.indent depth)) :=
  isGap_gap (by simp [Node.indent, isSpacing])

theorem isPlain_blank : IsPlain (gap pretty " ") := by
  cases pretty <;> decide

theorem unpad_blank (cs : List Char) : unpad pretty (gap pretty " " ++ cs) = cs := by
  cases pretty <;> rfl

def declarationText (pretty : Bool) (depth : Nat) (d : String × String) : List Char :=
  gap pretty (Node.indent depth) ++ (d.1.toList ++ ':' :: (gap pretty " " ++ d.2.toList)) ++
    ';' :: gap pretty "\n"

theorem declaration?_eq {d : String × String} (hp : IsWord d.1) :
    declaration? pretty (d.1.toList ++ ':' :: (gap pretty " " ++ d.2.toList)) = some d := by
  have hcolon : ∀ c ∈ d.1.toList, decide (c ≠ ':') = true := by
    intro c hc
    exact decide_eq_true fun he => hp.not_mem rfl (he ▸ hc)
  rw [declaration?, List.dropWhile_append_of_pos hcolon, List.takeWhile_append_of_pos hcolon]
  simp [unpad_blank]

theorem run_declaration {r : RuleText} {d : String × String} (hp : IsWord d.1)
    (hv : IsPlain d.2.toList) (depth : Nat) :
    run pretty ⟨blocks, media, some r, []⟩ (declarationText pretty depth d) =
      some ⟨blocks, media, some { r with declarations := r.declarations ++ [d] }, []⟩ := by
  have hplain : IsPlain (d.1.toList ++ ':' :: (gap pretty " " ++ d.2.toList)) := by
    refine isPlain_append.mpr ⟨isPlain_of_isWord hp, List.forall_mem_cons.mpr ⟨by decide, ?_⟩⟩
    exact isPlain_append.mpr ⟨isPlain_blank, hv⟩
  have hhead : ∀ c ∈ (d.1.toList ++ ':' :: (gap pretty " " ++ d.2.toList)).head?,
      isSpacing c = false := by
    -- a piece begins with its property, or with the colon if that has no name
    intro c hc
    cases hd : d.1.toList with
    | nil =>
      rw [hd] at hc
      cases hc
      rfl
    | cons c' cs =>
      rw [hd] at hc
      cases hc
      exact isSpacing_of_mem_word hp (hd ▸ List.mem_cons_self)
  rw [declarationText, run_append, run_append, run_gap (isGap_indent depth), Option.bind_some,
    run_piece hplain hhead, Option.bind_some, run_cons, step_semicolon, declared,
    declaration?_eq hp]
  exact run_gap (isGap_gap (by decide))

theorem run_declarations {ds : List (String × String)}
    (hds : ∀ d ∈ ds, IsWord d.1 ∧ IsPlain d.2.toList) (r : RuleText) (depth : Nat) :
    run pretty ⟨blocks, media, some r, []⟩ (ds.flatMap (declarationText pretty depth)) =
      some ⟨blocks, media, some { r with declarations := r.declarations ++ ds }, []⟩ := by
  induction ds generalizing r with
  | nil =>
    rw [List.append_nil]
    rfl
  | cons d ds ih =>
    obtain ⟨⟨hp, hv⟩, hds⟩ := List.forall_mem_cons.mp hds
    rw [List.flatMap_cons, run_append, run_declaration hp hv, Option.bind_some, ih hds,
      List.append_assoc]
    rfl

/-! ## Rules -/

/-- A selector has a beginning, and not that of a media block, and properties are words. -/
structure IsPlainRule (r : RuleText) : Prop where
  head : ∃ c, r.selector.toList.head? = some c ∧ isSpacing c = false ∧ c ≠ '@'
  selector : IsPlain r.selector.toList
  declarations : ∀ d ∈ r.declarations, IsWord d.1 ∧ IsPlain d.2.toList

def ruleText (pretty : Bool) (depth : Nat) (r : RuleText) : String :=
  if pretty then r.pretty depth else r.compact

theorem toList_ruleText (pretty : Bool) (depth : Nat) (r : RuleText) :
    (ruleText pretty depth r).toList =
      gap pretty (Node.indent depth) ++ ((r.selector.toList ++ gap pretty " ") ++
        '\x7b' :: (gap pretty "\n" ++ (r.declarations.flatMap (declarationText pretty (depth + 1)) ++
          (gap pretty (Node.indent depth) ++ '\x7d' :: gap pretty "\n")))) := by
  have hd : declarationText pretty (depth + 1) = fun d => gap pretty (Node.indent (depth + 1)) ++
      (d.1.toList ++ ':' :: (gap pretty " " ++ d.2.toList)) ++ ';' :: gap pretty "\n" := rfl
  cases pretty with
  | false => simp [ruleText, RuleText.compact, gap, String.toList_join, List.flatMap_map, hd]
  | true => simp [ruleText, RuleText.pretty, gap, String.toList_join, List.flatMap_map, hd]

/-- What is read of a head: the blank behind it is taken off. -/
theorem unpad_head (cs : List Char) :
    (unpad pretty (cs ++ gap pretty " ").reverse).reverse = cs := by
  rw [List.reverse_append]
  cases pretty <;> simp [gap, unpad]

theorem enter_selector {r : RuleText} (h : IsPlainRule r) :
    enter blocks media r.selector.toList =
      some ⟨blocks, media, some { r with declarations := [] }, []⟩ := by
  obtain ⟨c, hhead, -, hc⟩ := h.head
  have hquery : query? r.selector.toList = none := by
    rw [query?, if_neg]
    rintro ⟨rest, hrest⟩
    rw [← hrest] at hhead
    cases hhead
    exact hc rfl
  simp only [enter, hquery, String.ofList_toList]

theorem run_rule {r : RuleText} (h : IsPlainRule r) (depth : Nat) :
    run pretty ⟨blocks, media, none, []⟩ (ruleText pretty depth r).toList =
      some (add blocks media r) := by
  have hplain : IsPlain (r.selector.toList ++ gap pretty " ") :=
    isPlain_append.mpr ⟨h.selector, isPlain_blank⟩
  have hhead : ∀ c ∈ (r.selector.toList ++ gap pretty " ").head?, isSpacing c = false := by
    obtain ⟨c, hhead, hc, -⟩ := h.head
    rw [List.head?_append, hhead]
    rintro _ ⟨⟩
    exact hc
  have hclosed : run pretty (add blocks media r) (gap pretty "\n") = some (add blocks media r) := by
    rcases media with _ | ⟨query, rules⟩ <;> exact run_gap (isGap_gap (by decide))
  rw [toList_ruleText, run_append, run_gap (isGap_indent depth), Option.bind_some, run_append,
    run_piece hplain hhead, Option.bind_some, run_cons, step_brace, opened, unpad_head,
    enter_selector h, Option.bind_some, run_append, run_gap (isGap_gap (by decide)),
    Option.bind_some, run_append, run_declarations h.declarations, Option.bind_some, run_append,
    run_gap (isGap_indent depth), Option.bind_some, run_cons, step_closing_brace, closed]
  exact hclosed

/-! ## Blocks -/

def IsPlainBlock : Block RuleText → Prop
  | .rule r => IsPlainRule r
  | .media query rules => IsPlain query.toList ∧ ∀ r ∈ rules, IsPlainRule r

def blockText (pretty : Bool) (b : Block RuleText) : String :=
  if pretty then b.pretty else b.compact

theorem toList_blockText_media (query : String) (rules : List RuleText) :
    (blockText pretty (.media query rules)).toList =
      (mediaMark.toList ++ query.toList ++ gap pretty " ") ++ '\x7b' :: (gap pretty "\n" ++
        (rules.flatMap (fun r => (ruleText pretty 1 r).toList) ++ '\x7d' :: gap pretty "\n")) := by
  cases pretty with
  | false =>
    simp [blockText, Block.compact, mediaMark, gap, String.toList_join, List.flatMap_map, ruleText]
  | true =>
    simp [blockText, Block.pretty, mediaMark, gap, String.toList_join, List.flatMap_map, ruleText]

theorem enter_media (query : String) :
    enter blocks none (mediaMark.toList ++ query.toList) = some ⟨blocks, some (query, []), none, []⟩ := by
  have hquery : query? (mediaMark.toList ++ query.toList) = some query := by
    rw [query?, if_pos (List.prefix_append _ _), List.drop_left, String.ofList_toList]
  simp only [enter, hquery]

theorem run_rules {query : String} {rules : List RuleText} (h : ∀ r ∈ rules, IsPlainRule r)
    (before : List RuleText) :
    run pretty ⟨blocks, some (query, before), none, []⟩
        (rules.flatMap fun r => (ruleText pretty 1 r).toList) =
      some ⟨blocks, some (query, before ++ rules), none, []⟩ := by
  induction rules generalizing before with
  | nil =>
    rw [List.append_nil]
    rfl
  | cons r rules ih =>
    obtain ⟨hr, hrules⟩ := List.forall_mem_cons.mp h
    rw [List.flatMap_cons, run_append, run_rule hr, Option.bind_some, add, ih hrules,
      List.append_assoc]
    rfl

theorem run_block {b : Block RuleText} (h : IsPlainBlock b) :
    run pretty ⟨blocks, none, none, []⟩ (blockText pretty b).toList =
      some ⟨blocks ++ [b], none, none, []⟩ := by
  cases b with
  | rule r =>
    have htext : blockText pretty (.rule r) = ruleText pretty 0 r := rfl
    rw [htext, run_rule h]
    rfl
  | media query rules =>
    obtain ⟨hquery, hrules⟩ := h
    have hplain : IsPlain (mediaMark.toList ++ query.toList ++ gap pretty " ") :=
      isPlain_append.mpr ⟨isPlain_append.mpr ⟨by decide, hquery⟩, isPlain_blank⟩
    have hhead : ∀ c ∈ (mediaMark.toList ++ query.toList ++ gap pretty " ").head?,
        isSpacing c = false := by
      rintro _ ⟨⟩
      rfl
    rw [toList_blockText_media, run_append, run_piece hplain hhead, Option.bind_some, run_cons,
      step_brace, opened, unpad_head, enter_media, Option.bind_some, run_append,
      run_gap (isGap_gap (by decide)), Option.bind_some, run_append, run_rules hrules,
      Option.bind_some, run_cons, step_closing_brace, closed]
    exact run_gap (isGap_gap (by decide))

/-! ## Stylesheets -/

def sheetText (pretty : Bool) (bs : List (Block RuleText)) : String :=
  if pretty then "\n".intercalate (bs.map Block.pretty) else String.join (bs.map Block.compact)

theorem toList_sheetText_cons_cons (b b' : Block RuleText) (bs : List (Block RuleText)) :
    (sheetText pretty (b :: b' :: bs)).toList =
      (blockText pretty b).toList ++ (gap pretty "\n" ++ (sheetText pretty (b' :: bs)).toList) := by
  cases pretty with
  | false => simp [sheetText, blockText, gap, String.toList_join]
  | true => simp [sheetText, blockText, gap, String.intercalate_cons_cons]

theorem run_sheetText {bs : List (Block RuleText)} (h : ∀ b ∈ bs, IsPlainBlock b)
    (before : List (Block RuleText)) :
    run pretty ⟨before, none, none, []⟩ (sheetText pretty bs).toList =
      some ⟨before ++ bs, none, none, []⟩ := by
  induction bs generalizing before with
  | nil =>
    rw [List.append_nil]
    cases pretty <;> rfl
  | cons b bs ih =>
    obtain ⟨hb, hbs⟩ := List.forall_mem_cons.mp h
    -- a line end stands between two blocks, and none behind the last one
    cases bs with
    | nil =>
      have htext : sheetText pretty [b] = blockText pretty b := by
        cases pretty <;> simp [sheetText, blockText]
      rw [htext, run_block hb]
    | cons b' bs =>
      rw [toList_sheetText_cons_cons, run_append, run_block hb, Option.bind_some, run_append,
        run_gap (isGap_gap (by decide)), Option.bind_some, ih hbs, List.append_assoc]
      rfl

theorem read_sheetText {bs : List (Block RuleText)} (h : ∀ b ∈ bs, IsPlainBlock b) :
    read pretty (sheetText pretty bs) = some bs := by
  rw [read, run_sheetText h]
  rfl

end SheetReader

end Vitae
