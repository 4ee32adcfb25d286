import Mathlib.Algebra.Ring.Nat
import Mathlib.Data.List.Basic
import Vitae.Artifact
import Vitae.Proofs.Text.Bytes

/-! # Pictures in a URI

Three bytes make four digits of six bits. Read six bits at a time, with a byte taken out whenever
there are eight, the digits give back the bytes that they were made of. So nothing of a picture is
lost in its URI, whatever characters its colors are made of. -/

namespace Vitae

namespace Text

theorem length_bytes (s : String) : (bytes s).length = s.utf8ByteSize := rfl

theorem bytes_injective : Function.Injective bytes := by
  intro s t h
  apply String.toByteArray_inj.mp
  apply ByteArray.ext
  exact Array.toList_inj.mp h

namespace Base64

/-! ## Reading -/

/-- The six bits that a digit stands for. -/
def value? (c : Char) : Option Nat :=
  if 'A' ≤ c ∧ c ≤ 'Z' then some (c.toNat - 'A'.toNat)
  else if 'a' ≤ c ∧ c ≤ 'z' then some (c.toNat - 'a'.toNat + 26)
  else if '0' ≤ c ∧ c ≤ '9' then some (c.toNat - '0'.toNat + 52)
  else if c = '+' then some 62
  else if c = '/' then some 63
  else none

/-- The bytes that are complete, and the bits of the next one. -/
structure Stream where
  bytes : List UInt8 := []
  pending : Nat := 0
  width : Nat := 0

/-- Six bits more, which may complete a byte. -/
def Stream.push (s : Stream) (six : Nat) : Stream :=
  let bits := s.pending * 64 + six
  if s.width < 2 then { s with pending := bits, width := s.width + 6 }
  else
    let width := s.width - 2
    { bytes := s.bytes ++ [.ofNat (bits / 2 ^ width)], pending := bits % 2 ^ width, width := width }

/-- Groups of four, the last of which may end in up to two `=`. The bits for which these stand are
not set. -/
def decode (cs : List Char) : Option (List UInt8) :=
  let digits := cs.takeWhile (· ≠ '=')
  let padding := cs.drop digits.length
  if cs.length % 4 = 0 ∧ padding.length ≤ 2 ∧ padding.all (· = '=') then do
    let s := (← digits.mapM value?).foldl Stream.push {}
    if s.pending = 0 then some s.bytes else none
  else none

/-! ## Digits -/

theorem value?_digit {n : Nat} (h : n < 64) : value? (digit n) = some n := by
  have hall : ∀ n < 64, value? (digit n) = some n := by decide +kernel
  exact hall n h

theorem digit_mem_alphabet {n : Nat} (h : n < 64) : digit n ∈ alphabet := by
  have hlength : alphabet.length = 64 := rfl
  have hin : n < alphabet.length := by omega
  unfold digit
  rw [List.getD_eq_getElem?_getD, List.getElem?_eq_getElem hin]
  exact List.getElem_mem hin

theorem ne_of_mem_alphabet {c : Char} (h : c ∈ alphabet) : c ≠ '=' := by
  have hnot : '=' ∉ alphabet := by decide
  intro he
  exact hnot (he ▸ h)

/-- The six bits of every digit. -/
def sixes : List UInt8 → List Nat
  | a :: b :: c :: rest =>
    a.toNat / 4 :: (a.toNat % 4 * 16 + b.toNat / 16) :: (b.toNat % 16 * 4 + c.toNat / 64) ::
      c.toNat % 64 :: sixes rest
  | [a, b] => [a.toNat / 4, a.toNat % 4 * 16 + b.toNat / 16, b.toNat % 16 * 4]
  | [a] => [a.toNat / 4, a.toNat % 4 * 16]
  | [] => []

/-- How many `=` fill up the last group of that many bytes. -/
def missing (n : Nat) : Nat := (3 - n % 3) % 3

theorem encode_eq (bs : List UInt8) :
    encode bs = (sixes bs).map digit ++ List.replicate (missing bs.length) '=' := by
  fun_induction sixes bs with
  | case1 a b c rest ih =>
    have hmissing : missing (a :: b :: c :: rest).length = missing rest.length := by
      simp only [missing, List.length_cons]
      omega
    rw [encode, ih, hmissing]
    rfl
  | case2 | case3 | case4 => rfl

theorem length_sixes (bs : List UInt8) :
    (sixes bs).length + missing bs.length = 4 * ((bs.length + 2) / 3) := by
  fun_induction sixes bs with
  | case1 a b c rest ih =>
    simp only [missing, List.length_cons] at ih ⊢
    omega
  | case2 | case3 | case4 => simp [missing]

theorem sixes_lt (bs : List UInt8) : ∀ n ∈ sixes bs, n < 64 := by
  fun_induction sixes bs with
  | case1 a b c rest ih =>
    have ha := a.toNat_lt
    have hb := b.toNat_lt
    have hc := c.toNat_lt
    simp only [List.forall_mem_cons]
    exact ⟨by omega, by omega, by omega, by omega, ih⟩
  | case2 a b =>
    have ha := a.toNat_lt
    have hb := b.toNat_lt
    simp only [List.forall_mem_cons]
    exact ⟨by omega, by omega, by omega, by simp⟩
  | case3 a =>
    have ha := a.toNat_lt
    simp only [List.forall_mem_cons]
    exact ⟨by omega, by omega, by simp⟩
  | case4 => simp

/-! ## Round trip -/

theorem push_first (done : List UInt8) (n : Nat) :
    Stream.push { bytes := done } n = ⟨done, n, 6⟩ := by
  simp [Stream.push]

/-- The bits at hand begin with a byte, and `left` are those behind it. -/
theorem push_completes {done : List UInt8} {byte : UInt8} {pending width six left : Nat}
    (h : pending * 64 + six = left + byte.toNat * 2 ^ width) (hleft : left < 2 ^ width) :
    Stream.push ⟨done, pending, width + 2⟩ six = ⟨done ++ [byte], left, width⟩ := by
  have hpos : 0 < 2 ^ width := Nat.two_pow_pos width
  have hwidth : ¬ width + 2 < 2 := by omega
  simp only [Stream.push, if_neg hwidth, h, Nat.add_sub_cancel, Nat.add_mul_div_right _ _ hpos,
    Nat.add_mul_mod_self_right, Nat.div_eq_of_lt hleft, Nat.mod_eq_of_lt hleft, Nat.zero_add,
    UInt8.ofNat_toNat]

theorem push_second (done : List UInt8) (a : UInt8) {n : Nat} (h : n < 16) :
    Stream.push ⟨done, a.toNat / 4, 6⟩ (a.toNat % 4 * 16 + n) = ⟨done ++ [a], n, 4⟩ :=
  push_completes (by omega) h

theorem push_third (done : List UInt8) (b : UInt8) {n : Nat} (h : n < 4) :
    Stream.push ⟨done, b.toNat / 16, 4⟩ (b.toNat % 16 * 4 + n) = ⟨done ++ [b], n, 2⟩ :=
  push_completes (by omega) h

theorem push_fourth (done : List UInt8) (c : UInt8) :
    Stream.push ⟨done, c.toNat / 64, 2⟩ (c.toNat % 64) = ⟨done ++ [c], 0, 0⟩ :=
  push_completes (by omega) (by omega)

/-- A group of three leaves no bits over, and what a short one leaves over is not set. -/
theorem exists_foldl_push_sixes (bs done : List UInt8) :
    ∃ width, (sixes bs).foldl Stream.push { bytes := done } = ⟨done ++ bs, 0, width⟩ := by
  fun_induction sixes bs generalizing done with
  | case1 a b c rest ih =>
    have hb := b.toNat_lt
    have hc := c.toNat_lt
    have hsecond := push_second done a (n := b.toNat / 16) (by omega)
    have hthird := push_third (done ++ [a]) b (n := c.toNat / 64) (by omega)
    obtain ⟨width, hrest⟩ := ih (done ++ [a] ++ [b] ++ [c])
    refine ⟨width, ?_⟩
    simp only [List.foldl_cons, push_first, hsecond, hthird, push_fourth]
    simpa using hrest
  | case2 a b =>
    have hb := b.toNat_lt
    have hsecond := push_second done a (n := b.toNat / 16) (by omega)
    have hthird := push_third (done ++ [a]) b (n := 0) (by omega)
    refine ⟨2, ?_⟩
    simp only [List.foldl_cons, List.foldl_nil, push_first, hsecond]
    simpa using hthird
  | case3 a =>
    have hsecond := push_second done a (n := 0) (by omega)
    refine ⟨4, ?_⟩
    simp only [List.foldl_cons, List.foldl_nil, push_first]
    exact hsecond
  | case4 => exact ⟨0, by simp⟩

theorem mapM_value?_map_digit {ns : List Nat} (h : ∀ n ∈ ns, n < 64) :
    (ns.map digit).mapM value? = some ns := by
  induction ns with
  | nil => rfl
  | cons n ns ih =>
    obtain ⟨hn, hns⟩ := List.forall_mem_cons.mp h
    rw [List.map_cons, List.mapM_cons, value?_digit hn, ih hns]
    rfl

/-- No digit is a `=`, so the digits are told from what fills up the last group. -/
theorem decode_append {ns : List Nat} {padding : Nat} {done : List UInt8} {width : Nat}
    (hlt : ∀ n ∈ ns, n < 64) (hlength : (ns.length + padding) % 4 = 0) (hpadding : padding ≤ 2)
    (hread : ns.foldl Stream.push {} = ⟨done, 0, width⟩) :
    decode (ns.map digit ++ List.replicate padding '=') = some done := by
  have hdigits : ∀ c ∈ ns.map digit, (c ≠ '=' : Bool) = true := by
    intro c hc
    obtain ⟨n, hn, rfl⟩ := List.mem_map.mp hc
    simpa using ne_of_mem_alphabet (digit_mem_alphabet (hlt n hn))
  have htake : (ns.map digit ++ List.replicate padding '=').takeWhile (· ≠ '=') =
      ns.map digit := by
    rw [List.takeWhile_append_of_pos hdigits]
    simp
  have hdrop : (ns.map digit ++ List.replicate padding '=').drop (ns.map digit).length =
      List.replicate padding '=' := List.drop_left
  unfold decode
  simp only [htake, hdrop, mapM_value?_map_digit hlt]
  simp [hlength, hpadding, hread]

theorem decode_encode (bs : List UInt8) : decode (encode bs) = some bs := by
  obtain ⟨width, hread⟩ := exists_foldl_push_sixes bs []
  have hlength := length_sixes bs
  rw [encode_eq]
  exact decode_append (sixes_lt bs) (by omega) (by unfold missing; omega) hread

end Base64

end Text

open Text.Base64 in
/-- The URI of any text is a fixed beginning and the digits of the bytes of the text, in groups of
four. What fills up the last group stands at the end and nowhere else, and the digits are read back
to the bytes. So templates have the same URI exactly if they have the same picture. -/
theorem Template.previewUri_lossless :
    (∀ s : String, ∃ digits padding,
      svgDataUri s = "data:image/svg+xml;base64," ++
        String.ofList (digits ++ List.replicate padding '=') ∧
      (∀ c ∈ digits, c ∈ alphabet) ∧ padding ≤ 2 ∧
      digits.length + padding = 4 * ((s.utf8ByteSize + 2) / 3) ∧
      decode (digits ++ List.replicate padding '=') = some (Text.bytes s)) ∧
    ∀ (t t' : Template) (options : RenderOptions),
      t.previewUri options = t'.previewUri options ↔ t.preview options = t'.preview options := by
  have huri (s : String) : svgDataUri s =
      "data:image/svg+xml;base64," ++ String.ofList (encode (Text.bytes s)) := rfl
  constructor
  · intro s
    refine ⟨(sixes (Text.bytes s)).map digit, missing s.utf8ByteSize, ?_, ?_, ?_, ?_, ?_⟩
    · rw [huri, encode_eq, Text.length_bytes]
    · intro c hc
      obtain ⟨n, hn, rfl⟩ := List.mem_map.mp hc
      exact digit_mem_alphabet (sixes_lt _ n hn)
    · unfold missing
      omega
    · rw [List.length_map, ← Text.length_bytes]
      exact length_sixes _
    · rw [← Text.length_bytes, ← encode_eq]
      exact decode_encode _
  · intro t t' options
    refine ⟨fun h => ?_, congrArg svgDataUri⟩
    have hencode : encode (Text.bytes (t.preview options)) =
        encode (Text.bytes (t'.preview options)) := by
      rw [previewUri, previewUri, huri, huri] at h
      have hlist := congrArg String.toList h
      rw [String.toList_append, String.toList_append] at hlist
      simpa using List.append_cancel_left hlist
    have hdecode := congrArg decode hencode
    rw [decode_encode, decode_encode] at hdecode
    exact Text.bytes_injective (Option.some.inj hdecode)

end Vitae
