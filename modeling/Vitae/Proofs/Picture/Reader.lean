import Vitae.Picture
import Vitae.Proofs.Decimal.Text
import Vitae.Proofs.Text.Escape
import Vitae.Proofs.Text.Scan
import Vitae.Proofs.Text.Word

/-! # Reading pictures

A reader of pictures goes through the text of one once, character by character. It is strict:
between two tags it passes over blanks and line ends only, names are words, a value stands between
two quotes of its own and holds no `<`, and no element gives an attribute twice. So whatever it reads
has one `<` for each tag and two quotes for each attribute. A picture is one element, with elements
in it that hold nothing. -/

namespace Vitae

open Text (IsWord escapeAttribute isWordChar unescape)

namespace PictureReader

structure Element where
  name : String
  attributes : List (String × String)
  deriving DecidableEq, Repr

namespace Element

def value? (e : Element) (name : String) : Option String := e.attributes.lookup name

def withAttributes (e : Element) (as : List (String × String)) : Element :=
  { e with attributes := e.attributes ++ as }

/-- The value is what its entities stand for. -/
def read? (e : Element) (name raw : List Char) : Option Element :=
  let name := String.ofList name
  if name ∈ e.attributes.map Prod.fst then none
  else some (e.withAttributes [(name, String.ofList (unescape raw))])

end Element

inductive Token where
  | opening (e : Element)
  /-- An element that holds nothing, in one tag. -/
  | empty (e : Element)
  | closing (name : String)
  deriving DecidableEq, Repr

def Token.attributes : Token → List (String × String)
  | .opening e | .empty e => e.attributes
  | .closing _ => []

/-- The reader's place, with what it has read since the last delimiter. -/
inductive Mode where
  | between
  | begun
  | closing (name : List Char)
  | name (name : List Char)
  | attributeName (e : Element) (name : List Char)
  | beforeValue (e : Element) (name : List Char)
  | value (e : Element) (name raw : List Char)
  | afterValue (e : Element)
  /-- Behind the slash of an element that holds nothing. -/
  | slash (e : Element)

structure State where
  tokens : List Token
  mode : Mode

def isSpacing (c : Char) : Bool := c == ' ' || c == '\n'

/-- Where a name or a value ends, another attribute follows or the tag ends. -/
def goOn (tokens : List Token) (e : Element) (c : Char) : Option State :=
  if c = ' ' then some ⟨tokens, .attributeName e []⟩
  else if c = '>' then some ⟨tokens ++ [.opening e], .between⟩
  else if c = '/' then some ⟨tokens, .slash e⟩
  else none

def step : State → Char → Option State
  | ⟨tokens, .between⟩, c =>
    if c = '<' then some ⟨tokens, .begun⟩
    else if isSpacing c then some ⟨tokens, .between⟩
    else none
  | ⟨tokens, .begun⟩, c =>
    if c = '/' then some ⟨tokens, .closing []⟩
    else if isWordChar c then some ⟨tokens, .name [c]⟩
    else none
  | ⟨tokens, .closing name⟩, c =>
    if c = '>' then some ⟨tokens ++ [.closing (String.ofList name)], .between⟩
    else if isWordChar c then some ⟨tokens, .closing (name ++ [c])⟩
    else none
  | ⟨tokens, .name name⟩, c =>
    if isWordChar c then some ⟨tokens, .name (name ++ [c])⟩
    else goOn tokens ⟨String.ofList name, []⟩ c
  | ⟨tokens, .attributeName e name⟩, c =>
    if c = '=' then some ⟨tokens, .beforeValue e name⟩
    else if isWordChar c then some ⟨tokens, .attributeName e (name ++ [c])⟩
    else none
  | ⟨tokens, .beforeValue e name⟩, c =>
    if c = '"' then some ⟨tokens, .value e name []⟩ else none
  | ⟨tokens, .value e name raw⟩, c =>
    if c = '"' then (e.read? name raw).map fun e => ⟨tokens, .afterValue e⟩
    else if c = '<' then none
    else some ⟨tokens, .value e name (raw ++ [c])⟩
  | ⟨tokens, .afterValue e⟩, c => goOn tokens e c
  | ⟨tokens, .slash e⟩, c =>
    if c = '>' then some ⟨tokens ++ [.empty e], .between⟩ else none

def run (s : State) (cs : List Char) : Option State := cs.foldlM step s

def tokens? : State → Option (List Token)
  | ⟨tokens, .between⟩ => some tokens
  | _ => none

/-- The elements in front of the tag that closes the one they stand in, behind which there is
nothing. -/
def children? (name : String) : List Token → Option (List Element)
  | .empty e :: tokens => (children? name tokens).map (e :: ·)
  | [.closing n] => if n = name then some [] else none
  | _ => none

def picture? : List Token → Option (Element × List Element)
  | .opening e :: tokens => (children? e.name tokens).map (e, ·)
  | _ => none

def read (text : String) : Option (Element × List Element) :=
  ((run ⟨[], .between⟩ text.toList).bind tokens?).bind picture?

/-! ## Delimiters -/

def Mode.angles : Mode → Nat
  | .between => 0
  | _ => 1

def Mode.quotes : Mode → Nat
  | .attributeName e _ | .beforeValue e _ | .afterValue e | .slash e => 2 * e.attributes.length
  | .value e _ _ => 2 * e.attributes.length + 1
  | _ => 0

def tokenQuotes (tokens : List Token) : Nat := 2 * (tokens.flatMap (·.attributes)).length

/-- The `<` that have been read. -/
def State.angles (s : State) : Nat := s.tokens.length + s.mode.angles

/-- The quotes that have been read. -/
def State.quotes (s : State) : Nat := tokenQuotes s.tokens + s.mode.quotes

theorem tokenQuotes_append_singleton (tokens : List Token) (t : Token) :
    tokenQuotes (tokens ++ [t]) = tokenQuotes tokens + 2 * t.attributes.length := by
  simp [tokenQuotes, Nat.mul_add]

theorem Element.length_of_read? {e e' : Element} {name raw : List Char}
    (h : e.read? name raw = some e') : e'.attributes.length = e.attributes.length + 1 := by
  simp only [Element.read?] at h
  split at h
  · cases h
  · cases h
    exact List.length_append

/-- What is read between two states is counted in them. -/
def Counted (s : State) (cs : List Char) (s' : State) : Prop :=
  s'.angles = s.angles + cs.count '<' ∧ s'.quotes = s.quotes + cs.count '"'

theorem Counted.trans {s s' s'' : State} {cs ds : List Char} (h : Counted s cs s')
    (h' : Counted s' ds s'') : Counted s (cs ++ ds) s'' := by
  obtain ⟨hangles, hquotes⟩ := h
  obtain ⟨hangles', hquotes'⟩ := h'
  constructor
  · rw [hangles', hangles, List.count_append, Nat.add_assoc]
  · rw [hquotes', hquotes, List.count_append, Nat.add_assoc]

theorem counted_of_ne {s s' : State} {c : Char} (hangle : c ≠ '<') (hquote : c ≠ '"')
    (hangles : s'.angles = s.angles) (hquotes : s'.quotes = s.quotes) : Counted s [c] s' := by
  constructor
  · rw [hangles, List.count_singleton, if_neg (by simpa using hangle), Nat.add_zero]
  · rw [hquotes, List.count_singleton, if_neg (by simpa using hquote), Nat.add_zero]

theorem counted_of_isWordChar {s s' : State} {c : Char} (hc : isWordChar c = true)
    (hangles : s'.angles = s.angles) (hquotes : s'.quotes = s.quotes) : Counted s [c] s' := by
  refine counted_of_ne ?_ ?_ hangles hquotes
  · rintro rfl
    cases hc
  · rintro rfl
    cases hc

/-- The end of a tag is counted where it began. -/
theorem counted_of_token {mode : Mode} {tokens : List Token} {t : Token}
    (hangles : mode.angles = 1) (hquotes : mode.quotes = 2 * t.attributes.length) :
    Counted ⟨tokens, mode⟩ ['>'] ⟨tokens ++ [t], .between⟩ := by
  refine counted_of_ne (by decide) (by decide) ?_ ?_
  · rw [State.angles, State.angles, hangles, List.length_append]
    rfl
  · rw [State.quotes, State.quotes, hquotes]
    exact tokenQuotes_append_singleton tokens t

theorem goOn_counted {tokens : List Token} {mode : Mode} {e : Element} {c : Char} {s : State}
    (hangles : mode.angles = 1) (hquotes : mode.quotes = 2 * e.attributes.length)
    (h : goOn tokens e c = some s) : Counted ⟨tokens, mode⟩ [c] s := by
  have hsame : ∀ mode' : Mode, mode'.angles = 1 → mode'.quotes = 2 * e.attributes.length →
      (⟨tokens, mode'⟩ : State).angles = (⟨tokens, mode⟩ : State).angles ∧
        (⟨tokens, mode'⟩ : State).quotes = (⟨tokens, mode⟩ : State).quotes := by
    intro mode' hangles' hquotes'
    simp only [State.angles, State.quotes, hangles, hangles', hquotes, hquotes', and_self]
  unfold goOn at h
  split_ifs at h with hblank hend hslash
  · cases h
    subst hblank
    obtain ⟨ha, hq⟩ := hsame (.attributeName e []) rfl rfl
    exact counted_of_ne (by decide) (by decide) ha hq
  · cases h
    subst hend
    exact counted_of_token hangles hquotes
  · cases h
    subst hslash
    obtain ⟨ha, hq⟩ := hsame (.slash e) rfl rfl
    exact counted_of_ne (by decide) (by decide) ha hq

theorem step_counted {s s' : State} {c : Char} (h : step s c = some s') : Counted s [c] s' := by
  obtain ⟨tokens, mode⟩ := s
  cases mode with
  | between =>
    simp only [step] at h
    split_ifs at h with hangle hspacing
    · cases h
      subst hangle
      exact ⟨rfl, rfl⟩
    · cases h
      have hquote : c ≠ '"' := by
        rintro rfl
        cases hspacing
      exact counted_of_ne hangle hquote rfl rfl
  | begun =>
    simp only [step] at h
    split_ifs at h with hslash hword
    · cases h
      subst hslash
      exact ⟨rfl, rfl⟩
    · cases h
      exact counted_of_isWordChar hword rfl rfl
  | closing name =>
    simp only [step] at h
    split_ifs at h with hend hword
    · cases h
      subst hend
      exact counted_of_token rfl rfl
    · cases h
      exact counted_of_isWordChar hword rfl rfl
  | name name =>
    simp only [step] at h
    split_ifs at h with hword
    · cases h
      exact counted_of_isWordChar hword rfl rfl
    · exact goOn_counted rfl rfl h
  | attributeName e name =>
    simp only [step] at h
    split_ifs at h with hequals hword
    · cases h
      subst hequals
      exact ⟨rfl, rfl⟩
    · cases h
      exact counted_of_isWordChar hword rfl rfl
  | beforeValue e name =>
    simp only [step] at h
    split_ifs at h with hquote
    cases h
    subst hquote
    exact ⟨rfl, rfl⟩
  | value e name raw =>
    simp only [step] at h
    split_ifs at h with hquote hangle
    · subst hquote
      obtain ⟨e', he, rfl⟩ := Option.map_eq_some_iff.mp h
      refine ⟨rfl, ?_⟩
      simp only [State.quotes, Mode.quotes, Element.length_of_read? he]
      rfl
    · cases h
      exact counted_of_ne hangle hquote rfl rfl
  | afterValue e => exact goOn_counted rfl rfl h
  | slash e =>
    simp only [step] at h
    split_ifs at h with hend
    cases h
    subst hend
    exact counted_of_token rfl rfl

theorem run_cons (s : State) (c : Char) (cs : List Char) :
    run s (c :: cs) = (step s c).bind (run · cs) := rfl

theorem run_counted {s s' : State} {cs : List Char} (h : run s cs = some s') :
    Counted s cs s' := by
  induction cs generalizing s with
  | nil =>
    cases h
    exact ⟨rfl, rfl⟩
  | cons c cs ih =>
    rw [run_cons] at h
    obtain ⟨t, hstep, hrun⟩ := Option.bind_eq_some_iff.mp h
    exact (step_counted hstep).trans (ih hrun)

theorem children?_delimiters {name : String} {tokens : List Token} {children : List Element}
    (h : children? name tokens = some children) :
    tokens.length = children.length + 1 ∧
      tokens.flatMap (·.attributes) = children.flatMap (·.attributes) := by
  fun_induction children? name tokens generalizing children with
  | case1 e tokens ih =>
    obtain ⟨es, hes, rfl⟩ := Option.map_eq_some_iff.mp h
    obtain ⟨hlength, hattributes⟩ := ih hes
    rw [List.length_cons, hlength, List.flatMap_cons, List.flatMap_cons, hattributes]
    exact ⟨rfl, rfl⟩
  | case2 =>
    cases h
    exact ⟨rfl, rfl⟩
  | case3 => cases h
  | case4 => cases h

theorem eq_of_tokens? {s : State} {tokens : List Token} (h : tokens? s = some tokens) :
    s = ⟨tokens, .between⟩ := by
  unfold tokens? at h
  split at h
  · cases h
    rfl
  · cases h

theorem eq_of_picture? {tokens : List Token} {root : Element} {children : List Element}
    (h : picture? tokens = some (root, children)) :
    ∃ rest, tokens = .opening root :: rest ∧ children? root.name rest = some children := by
  unfold picture? at h
  split at h
  · obtain ⟨es, hes, heq⟩ := Option.map_eq_some_iff.mp h
    cases heq
    exact ⟨_, rfl, hes⟩
  · cases h

/-- No `<` and no quote is anywhere else. -/
theorem read_delimiters {text : String} {root : Element} {children : List Element}
    (h : read text = some (root, children)) :
    text.toList.count '<' = children.length + 2 ∧
      text.toList.count '"' =
        2 * (root.attributes ++ children.flatMap (·.attributes)).length := by
  obtain ⟨tokens, htokens, hpicture⟩ := Option.bind_eq_some_iff.mp h
  obtain ⟨s, hrun, hend⟩ := Option.bind_eq_some_iff.mp htokens
  obtain rfl := eq_of_tokens? hend
  obtain ⟨rest, rfl, hrest⟩ := eq_of_picture? hpicture
  obtain ⟨hlength, hattributes⟩ := children?_delimiters hrest
  obtain ⟨hangles, hquotes⟩ := run_counted hrun
  simp only [State.angles, State.quotes, Mode.angles, Mode.quotes, tokenQuotes, List.length_nil,
    List.length_cons, List.flatMap_nil, List.flatMap_cons, hattributes, Nat.add_zero, Nat.mul_zero,
    Nat.zero_add] at hangles hquotes
  constructor
  · rw [← hangles, hlength]
  · exact hquotes.symm

/-! ## Runs -/

variable {tokens : List Token} {e : Element}

theorem run_append (s : State) (cs ds : List Char) :
    run s (cs ++ ds) = (run s cs).bind (run · ds) := List.foldlM_append

theorem run_singleton (s : State) (c : Char) : run s [c] = step s c := by
  rw [run_cons]
  cases step s c <;> rfl

theorem run_accumulate {f : List Char → State} {cs : List Char}
    (h : ∀ c ∈ cs, ∀ raw, step (f raw) c = some (f (raw ++ [c]))) (raw : List Char) :
    run (f raw) cs = some (f (raw ++ cs)) := Text.foldlM_accumulate h raw

theorem run_gap {cs : List Char} (h : cs.all isSpacing = true) :
    run ⟨tokens, .between⟩ cs = some ⟨tokens, .between⟩ := by
  refine run_accumulate (f := fun _ => ⟨tokens, .between⟩) (fun c hc _ => ?_) []
  have hspacing : isSpacing c = true := List.all_eq_true.mp h c hc
  have hangle : c ≠ '<' := by
    rintro rfl
    cases hspacing
  rw [step, if_neg hangle, if_pos hspacing]

theorem run_attributeName {name : String} (h : IsWord name) :
    run ⟨tokens, .attributeName e []⟩ name.toList =
      some ⟨tokens, .attributeName e name.toList⟩ := by
  refine run_accumulate (f := fun raw => ⟨tokens, .attributeName e raw⟩) (fun c hc raw => ?_) []
  have hword : isWordChar c = true := List.all_eq_true.mp h c hc
  have hequals : c ≠ '=' := by
    rintro rfl
    cases hword
  rw [step, if_neg hequals, if_pos hword]

theorem run_value {cs : List Char} (hquote : '"' ∉ cs) (hangle : '<' ∉ cs) (name : List Char) :
    run ⟨tokens, .value e name []⟩ cs = some ⟨tokens, .value e name cs⟩ := by
  refine run_accumulate (f := fun raw => ⟨tokens, .value e name raw⟩) (fun c hc raw => ?_) []
  rw [step, if_neg (ne_of_mem_of_not_mem hc hquote), if_neg (ne_of_mem_of_not_mem hc hangle)]

theorem run_name {name : String} (h : IsWord name) (hne : name ≠ "") :
    run ⟨tokens, .begun⟩ name.toList = some ⟨tokens, .name name.toList⟩ := by
  cases hlist : name.toList with
  | nil => exact absurd (String.toList_eq_nil_iff.mp hlist) hne
  | cons c cs =>
    have hword : ∀ d ∈ c :: cs, isWordChar d = true := by
      rw [← hlist]
      exact List.all_eq_true.mp h
    have hc : isWordChar c = true := hword c List.mem_cons_self
    have hslash : c ≠ '/' := by
      rintro rfl
      cases hc
    rw [run_cons, step, if_neg hslash, if_pos hc, Option.bind_some]
    refine run_accumulate (f := fun raw => ⟨tokens, .name raw⟩) (fun d hd raw => ?_) [c]
    exact if_pos (hword d (List.mem_cons_of_mem _ hd))

/-! ## Tags -/

def attributeText (a : String × String) : String :=
  " " ++ a.1 ++ "=\"" ++ escapeAttribute a.2 ++ "\""

def Element.text (e : Element) : String := e.name ++ String.join (e.attributes.map attributeText)

/-- Names that can be read back. -/
structure Element.IsWellNamed (e : Element) : Prop where
  name : IsWord e.name ∧ e.name ≠ ""
  words : ∀ name ∈ e.attributes.map Prod.fst, IsWord name
  nodup : (e.attributes.map Prod.fst).Nodup

/-- In a tag, behind the attributes of `e`. -/
def InTag (s : State) (tokens : List Token) (e : Element) : Prop :=
  ∀ c, isWordChar c = false → step s c = goOn tokens e c

theorem Element.read?_escapeAttribute {name value : String}
    (h : name ∉ e.attributes.map Prod.fst) :
    e.read? name.toList (escapeAttribute value).toList =
      some (e.withAttributes [(name, value)]) := by
  simp only [Element.read?, String.ofList_toList, Text.unescape_escapeAttribute, if_neg h]

theorem run_attribute {s : State} (hs : InTag s tokens e) {a : String × String}
    (hword : IsWord a.1) (hnew : a.1 ∉ e.attributes.map Prod.fst) :
    run s (attributeText a).toList = some ⟨tokens, .afterValue (e.withAttributes [a])⟩ := by
  have htext : (attributeText a).toList =
      [' '] ++ (a.1.toList ++ (['=', '"'] ++ ((escapeAttribute a.2).toList ++ ['"']))) := by
    simp [attributeText]
  have hblank : step s ' ' = some ⟨tokens, .attributeName e []⟩ := hs ' ' rfl
  have hopen : run ⟨tokens, .attributeName e a.1.toList⟩ ['=', '"'] =
      some ⟨tokens, .value e a.1.toList []⟩ := rfl
  have hclose : step ⟨tokens, .value e a.1.toList (escapeAttribute a.2).toList⟩ '"' =
      some ⟨tokens, .afterValue (e.withAttributes [a])⟩ := by
    rw [step, if_pos rfl, Element.read?_escapeAttribute hnew]
    rfl
  have hquote : '"' ∉ (escapeAttribute a.2).toList :=
    Text.notMem_escapeAttribute (by decide) (by decide) a.2
  have hangle : '<' ∉ (escapeAttribute a.2).toList :=
    Text.notMem_escapeAttribute (by decide) (by decide) a.2
  rw [htext, run_append, run_singleton, hblank, Option.bind_some, run_append,
    run_attributeName hword, Option.bind_some, run_append, hopen, Option.bind_some, run_append,
    run_value hquote hangle, Option.bind_some, run_singleton, hclose]

theorem run_attributes {s : State} (hs : InTag s tokens e) {as : List (String × String)}
    (hwords : ∀ a ∈ as, IsWord a.1) (hnodup : ((e.attributes ++ as).map Prod.fst).Nodup) :
    ∃ t, run s (as.flatMap fun a => (attributeText a).toList) = some t ∧
      InTag t tokens (e.withAttributes as) := by
  induction as generalizing s e with
  | nil =>
    refine ⟨s, rfl, ?_⟩
    rwa [Element.withAttributes, List.append_nil]
  | cons a as ih =>
    obtain ⟨ha, has⟩ := List.forall_mem_cons.mp hwords
    have hnew : a.1 ∉ e.attributes.map Prod.fst := by
      rw [List.map_append, List.map_cons] at hnodup
      intro hmem
      exact (List.nodup_append.mp hnodup).2.2 _ hmem _ List.mem_cons_self rfl
    have hnext : InTag ⟨tokens, .afterValue (e.withAttributes [a])⟩ tokens
        (e.withAttributes [a]) := fun c _ => rfl
    have hassoc : (e.withAttributes [a]).attributes ++ as = e.attributes ++ a :: as :=
      List.append_assoc ..
    obtain ⟨t, hrun, ht⟩ := ih hnext has (by rwa [hassoc])
    refine ⟨t, ?_, ?_⟩
    · rw [List.flatMap_cons, run_append, run_attribute hs ha hnew, Option.bind_some, hrun]
    · rw [Element.withAttributes, hassoc] at ht
      exact ht

theorem toList_text (e : Element) :
    e.text.toList = e.name.toList ++ e.attributes.flatMap fun a => (attributeText a).toList := by
  simp [Element.text, String.toList_join, List.flatMap_map]

theorem run_text (tokens : List Token) (he : e.IsWellNamed) :
    ∃ t, run ⟨tokens, .begun⟩ e.text.toList = some t ∧ InTag t tokens e := by
  have hname : InTag ⟨tokens, .name e.name.toList⟩ tokens ⟨e.name, []⟩ := by
    intro c hc
    rw [step, hc, String.ofList_toList]
    exact if_neg Bool.false_ne_true
  have hwords : ∀ a ∈ e.attributes, IsWord a.1 := fun a ha =>
    he.words a.1 (List.mem_map_of_mem ha)
  obtain ⟨t, hrun, ht⟩ := run_attributes hname hwords he.nodup
  refine ⟨t, ?_, ht⟩
  rw [toList_text, run_append, run_name he.name.1 he.name.2, Option.bind_some, hrun]

theorem run_empty (he : e.IsWellNamed) :
    run ⟨tokens, .between⟩ ("<" ++ e.text ++ "/>").toList =
      some ⟨tokens ++ [.empty e], .between⟩ := by
  have htext : ("<" ++ e.text ++ "/>").toList = '<' :: (e.text.toList ++ ['/', '>']) := by simp
  have hbegun : step ⟨tokens, .between⟩ '<' = some ⟨tokens, .begun⟩ := rfl
  obtain ⟨t, hrun, ht⟩ := run_text tokens he
  have hslash : step t '/' = some ⟨tokens, .slash e⟩ := ht '/' rfl
  rw [htext, run_cons, hbegun, Option.bind_some, run_append, hrun, Option.bind_some, run_cons,
    hslash]
  rfl

theorem run_opening (he : e.IsWellNamed) :
    run ⟨tokens, .between⟩ ("<" ++ e.text ++ ">").toList =
      some ⟨tokens ++ [.opening e], .between⟩ := by
  have htext : ("<" ++ e.text ++ ">").toList = '<' :: (e.text.toList ++ ['>']) := by simp
  have hbegun : step ⟨tokens, .between⟩ '<' = some ⟨tokens, .begun⟩ := rfl
  obtain ⟨t, hrun, ht⟩ := run_text tokens he
  rw [htext, run_cons, hbegun, Option.bind_some, run_append, hrun, Option.bind_some,
    run_singleton]
  exact ht '>' rfl

end PictureReader

end Vitae
