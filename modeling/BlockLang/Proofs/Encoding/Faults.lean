import BlockLang.Encoding.Decode

/-! # Encodings that fail only at bytes

Bytes that are no text in an encoding are told by the bytes at fault, but some encodings also fail
in other ways: for want of a byte order mark, at a label of a domain name, for surrogates among the
code points that they give, and so on.

* `Decoding.AtBytes`: a decoding gives a text or bytes at fault.
* `Encoding.failsOnlyAtBytes`: the encodings of which all decodings are like this
  (`Encoding.atBytes_decode`).
* `Encoding.exists_failsOtherwise`: every other encoding that has a name fails otherwise at some
  bytes. -/

namespace BlockLang

variable {α β : Type}

/-! ### Decodings -/

/-- **A decoding gives a text or bytes at fault.** -/
inductive Decoding.AtBytes : Decoding α → Prop
  | text (xs : List α) : AtBytes (.ok xs)
  | fault (f : DecodingFault) : AtBytes (.error (.fault f))

namespace Decoding

theorem AtBytes.map {d : Decoding α} (h : AtBytes d) (f : List α → List β) :
    AtBytes (d.map f : Decoding β) := by
  cases h with
  | text xs => exact .text (f xs)
  | fault fault => exact .fault fault

theorem AtBytes.after {d : Decoding α} (h : AtBytes d) (xs : List α) : AtBytes (d.after xs) :=
  h.map (xs ++ ·)

end Decoding

open Decoding

/-! ### Encodings of all characters -/

theorem atBytes_decodeBytes (name : String) (reason : FaultReason) (char? : UInt8 → Option Char)
    (position : Nat) (bytes : List UInt8) :
    AtBytes (Encoding.decodeBytes name reason char? position bytes) := by
  induction bytes generalizing position with
  | nil => exact .text []
  | cons b bytes ih =>
    rw [Encoding.decodeBytes]
    split
    · exact (ih _).after _
    · exact .fault _

theorem Utf8.atBytes_decodeFrom (position : Nat) (bytes : List UInt8) :
    AtBytes (Utf8.decodeFrom position bytes) := by
  fun_induction Utf8.decodeFrom position bytes
  case case1 => exact .text []
  case case3 ih => exact ih.after _
  all_goals exact .fault _

theorem Utf8.atBytes_decodeMarked (bytes : List UInt8) : AtBytes (Utf8.decodeMarked bytes) := by
  rw [Utf8.decodeMarked]
  split
  · exact .text []
  split
  · exact Utf8.atBytes_decodeFrom 0 _
  · exact Utf8.atBytes_decodeFrom 0 _

theorem Utf16.atBytes_decodeFrom (order : ByteOrder) : ∀ (position : Nat) (bytes : List UInt8),
    AtBytes (Utf16.decodeFrom order position bytes)
  | _, [] => .text []
  | _, [_] => .fault _
  | position, a :: b :: rest => by
    unfold Utf16.decodeFrom
    dsimp only
    split
    · split
      · split
        · exact (Utf16.atBytes_decodeFrom order _ _).after _
        · exact .fault _
      · exact .fault _
    split
    · exact .fault _
    · exact (Utf16.atBytes_decodeFrom order _ _).after _

theorem Utf32.atBytes_decodeFrom (order : ByteOrder) (position : Nat) (bytes : List UInt8) :
    AtBytes (Utf32.decodeFrom order position bytes) := by
  fun_induction Utf32.decodeFrom order position bytes
  case case1 => exact .text []
  case case3 ih => exact ih.after _
  all_goals exact .fault _

/-! ### National encodings -/

namespace Multibyte

/-- Whether a reading puts an end to decoding without bytes at fault. -/
def Reading.isFailure {State : Type} : Reading State → Bool
  | .failure _ => true
  | _ => false

theorem atBytes_decodeFrom {State : Type} {encoding : String}
    {read : State → UInt8 → List UInt8 → Reading State}
    (h : ∀ s b rest, (read s b rest).isFailure = false) (position : Nat) (s : State)
    (bytes : List UInt8) : AtBytes (decodeFrom encoding read position s bytes) := by
  fun_induction decodeFrom encoding read position s bytes
  case case1 => exact .text []
  case case2 ih => exact ih.after _
  case case3 | case4 => exact .fault _
  case case5 position s b rest error hread =>
    have hb := h s b rest
    rw [hread] at hb
    cases hb

theorem atBytes_decodeAll {encoding : String} {read : UInt8 → List UInt8 → Reading Unit}
    (h : ∀ b rest, (read b rest).isFailure = false) (bytes : List UInt8) :
    AtBytes (decodeAll encoding read bytes) :=
  atBytes_decodeFrom (fun _ => h) 0 () bytes

theorem isFailure_ofChar? (more : Nat) (c : Option Char) :
    (Reading.ofChar? more c).isFailure = false := by
  cases c <;> rfl

theorem isFailure_ofText? (more : Nat) (cs : Option (List Char)) :
    (Reading.ofText? more cs).isFailure = false := by
  cases cs <;> rfl

theorem isFailure_readPair (char? : Nat → Nat → Option Char) (lead : UInt8) (rest : List UInt8) :
    (readPair char? lead rest).isFailure = false := by
  cases rest with
  | nil => rfl
  | cons trail rest => exact isFailure_ofChar? ..

theorem isFailure_readAscii {other : UInt8 → List UInt8 → Reading Unit}
    (h : ∀ b rest, (other b rest).isFailure = false) (b : UInt8) (rest : List UInt8) :
    (readAscii other b rest).isFailure = false := by
  rw [readAscii]
  split
  · rfl
  · exact h b rest

theorem atBytes_decodePairs (encoding : String) (char? : Nat → Nat → Option Char)
    (bytes : List UInt8) : AtBytes (decodePairs encoding char? bytes) :=
  atBytes_decodeAll (isFailure_readAscii (isFailure_readPair char?)) bytes

theorem Gb18030.isFailure_read (lead : UInt8) (rest : List UInt8) :
    (Gb18030.read lead rest).isFailure = false := by
  unfold Gb18030.read
  split
  · rfl
  split
  · split
    · exact isFailure_ofChar? ..
    · rfl
  · exact isFailure_ofChar? ..

theorem Hz.isFailure_read (inSection : Bool) (b : UInt8) (rest : List UInt8) :
    (Hz.read inSection b rest).isFailure = false := by
  unfold Hz.read
  split
  · split <;> rfl
  split
  · rfl
  split
  · split
    · rfl
    · split <;> rfl
  · rfl

theorem Big5.isFailure_readHongKong (lead : UInt8) (rest : List UInt8) :
    (Big5.readHongKong lead rest).isFailure = false := by
  cases rest with
  | nil => rfl
  | cons trail rest => exact isFailure_ofText? ..

theorem EucKr.isFailure_read (lead : UInt8) (rest : List UInt8) :
    (EucKr.read lead rest).isFailure = false := by
  unfold EucKr.read
  split
  · split
    · split
      · exact isFailure_ofChar? ..
      · rfl
    · rfl
  · exact isFailure_readPair ..

theorem JisX0213.isFailure_readFirst (edition : JisX0213.Edition) (row cell : Nat) :
    (JisX0213.readFirst edition row cell).isFailure = false := by
  unfold JisX0213.readFirst
  split
  · rfl
  · exact isFailure_ofText? ..

theorem EucJp.isFailure_read {main : Nat → Nat → Reading Unit}
    (h : ∀ row cell, (main row cell).isFailure = false)
    (supplement? : Nat → Nat → Option Char) (lead : UInt8) (rest : List UInt8) :
    (EucJp.read main supplement? lead rest).isFailure = false := by
  unfold EucJp.read
  split
  · rfl
  split
  · exact isFailure_ofChar? ..
  split
  · split
    · rfl
    · exact isFailure_ofChar? ..
  · exact h _ _

theorem ShiftJis.isFailure_read {cell : Nat → Nat → Reading Unit}
    (h : ∀ row number, (cell row number).isFailure = false) (lastLead : UInt8)
    (single? : UInt8 → Option Char) (b : UInt8) (rest : List UInt8) :
    (ShiftJis.read lastLead single? cell b rest).isFailure = false := by
  unfold ShiftJis.read
  split
  · rfl
  split
  · split
    · rfl
    · next trail _ =>
      cases ShiftJis.position? b trail with
      | none => rfl
      | some place => exact h _ _
  · rfl

theorem ShiftJis.isFailure_readPlanes (edition : JisX0213.Edition) (row cell : Nat) :
    (ShiftJis.readPlanes edition row cell).isFailure = false := by
  unfold ShiftJis.readPlanes
  split
  · rfl
  split
  · rfl
  split
  · exact JisX0213.isFailure_readFirst ..
  · exact isFailure_ofChar? ..

namespace Iso2022

theorem isFailure_readDesignation (v : Variant) (s : State) (rest : List UInt8) :
    (v.readDesignation s rest).isFailure = false := by
  unfold Variant.readDesignation
  split
  · rfl
  · rfl
  · dsimp only
    split <;> rfl

theorem isFailure_readEscape {v : Variant} (h : v.hasThird = false) (s : State)
    (rest : List UInt8) : (v.readEscape s rest).isFailure = false := by
  unfold Variant.readEscape
  split
  · rfl
  split
  · exact isFailure_readDesignation ..
  split
  · next hthird => exact absurd hthird.1 (by rw [h]; decide)
  · rfl

theorem isFailure_readGraphic (s : State) (g : Graphic) (b : UInt8) (rest : List UInt8) :
    (readGraphic s g b rest).isFailure = false := by
  unfold readGraphic
  split
  · split
    · rfl
    · split <;> rfl
  · split <;> rfl

theorem isFailure_read {v : Variant} (h : v.hasThird = false) (s : State) (b : UInt8)
    (rest : List UInt8) : (v.read s b rest).isFailure = false := by
  unfold Variant.read
  dsimp only
  split
  · rfl
  split
  · exact isFailure_readEscape h ..
  split
  · rfl
  split
  · rfl
  split
  · rfl
  split
  · rfl
  split
  · rfl
  generalize (if s.shifted = true then s.second else s.first) = g
  split
  · rfl
  · exact isFailure_readGraphic ..

end Iso2022

/-- The national encodings that fail only at bytes: those without a third set. -/
def failsOnlyAtBytes : Multibyte → Bool
  | iso2022 v => !v.hasThird
  | _ => true

theorem atBytes_decode {m : Multibyte} (h : m.failsOnlyAtBytes = true) (bytes : List UInt8) :
    AtBytes (m.decode bytes) := by
  cases m with
  | big5 | cp949 | cp950 | gb2312 | gbk | johab => exact atBytes_decodePairs ..
  | big5HongKong => exact atBytes_decodeAll (isFailure_readAscii Big5.isFailure_readHongKong) bytes
  | gb18030 => exact atBytes_decodeAll (isFailure_readAscii Gb18030.isFailure_read) bytes
  | hz => exact atBytes_decodeFrom Hz.isFailure_read 0 false bytes
  | eucKr => exact atBytes_decodeAll (isFailure_readAscii EucKr.isFailure_read) bytes
  | eucJp =>
    refine atBytes_decodeAll (isFailure_readAscii (EucJp.isFailure_read ?_ _)) bytes
    exact fun _ _ => isFailure_ofChar? ..
  | eucJis2004 | eucJisX0213 =>
    refine atBytes_decodeAll (isFailure_readAscii (EucJp.isFailure_read ?_ _)) bytes
    exact JisX0213.isFailure_readFirst _
  | cp932 | shiftJis =>
    refine atBytes_decodeAll (ShiftJis.isFailure_read ?_ _ _) bytes
    exact fun _ _ => isFailure_ofChar? ..
  | shiftJis2004 | shiftJisX0213 =>
    exact atBytes_decodeAll (ShiftJis.isFailure_read (ShiftJis.isFailure_readPlanes _) _ _) bytes
  | iso2022 v =>
    have hthird : v.hasThird = false := by simpa [failsOnlyAtBytes] using h
    exact atBytes_decodeFrom (Iso2022.isFailure_read hthird) 0 {} bytes

end Multibyte

/-! ### All encodings -/

namespace Encoding

/-- **The encodings that fail only at bytes.** -/
def failsOnlyAtBytes : Encoding → Bool
  | utf7 | utf16Marked | utf32Marked | escaped | rawEscaped | punycode | domainName | undefined =>
    false
  | multibyte national => national.failsOnlyAtBytes
  | _ => true

/-- **Bytes that such an encoding does not read are told by the bytes at fault.** -/
theorem atBytes_decode {e : Encoding} (h : e.failsOnlyAtBytes = true) (bytes : List UInt8) :
    AtBytes (e.decode bytes) := by
  cases e with
  | utf7 | utf16Marked | utf32Marked | escaped | rawEscaped | punycode | domainName | undefined =>
    cases h
  | ascii | codePage => exact atBytes_decodeBytes ..
  | latin1 => exact .text _
  | utf8 => exact Utf8.atBytes_decodeFrom ..
  | utf8Marked => exact Utf8.atBytes_decodeMarked bytes
  | utf16 order => exact Utf16.atBytes_decodeFrom ..
  | utf32 order => exact Utf32.atBytes_decodeFrom ..
  | multibyte national => exact Multibyte.atBytes_decode h bytes

/-! ### Named encodings -/

theorem mem_of_lookup {k : String} {v : α} {l : List (String × α)} (h : l.lookup k = some v) :
    (k, v) ∈ l := by
  obtain ⟨l₁, l₂, rfl, -⟩ := List.lookup_eq_some_iff.mp h
  simp

theorem mem_all_of_named? {name : String} {m : Multibyte}
    (h : Codec.named? name = some (.text (.multibyte m))) : ∃ n, (n, m) ∈ Multibyte.all := by
  rw [Codec.named?, Codec.properlyNamed?] at h
  generalize Codec.properName name = n at h
  have he : Codec.encodingNamed? n = some (.multibyte m) := by
    cases he : Codec.encodingNamed? n with
    | some e => rw [he] at h; cases h; rfl
    | none => rw [he] at h; split at h <;> cases h
  rw [Codec.encodingNamed?, Option.or_eq_some_iff, Option.or_eq_some_iff] at he
  rcases he with he | ⟨-, he | ⟨-, he⟩⟩
  · have hall : ∀ p ∈ Codec.textNames, ∀ m, p.2 ≠ .multibyte m := by simp [Codec.textNames]
    exact absurd rfl (hall _ (mem_of_lookup he) m)
  · rw [Option.map_eq_some_iff] at he
    obtain ⟨page, -, hpage⟩ := he
    cases hpage
  · rw [Option.map_eq_some_iff] at he
    obtain ⟨m', hm, hm'⟩ := he
    cases hm'
    exact ⟨n, mem_of_lookup hm⟩

theorem eq_japanese2_of_mem_all : ∀ p ∈ Multibyte.all, p.2.failsOnlyAtBytes = false →
    p.2 = .iso2022 Multibyte.Iso2022.japanese2 := by
  decide +kernel

/-- A string literal whose value is a surrogate. -/
def loneSurrogate : List CodePoint := [.char '"', .ofNat 0xd800, .char '"']

/-- Whether a decoding fails without bytes at fault. Of the code points that are no text, only a
literal with a surrogate counts. -/
def failsOtherwise : Decoded → Bool
  | .ok _ | .error (.fault _) => false
  | .error (.surrogates points) => points = loneSurrogate
  | .error _ => true

/-- **A named encoding of another kind fails otherwise at some bytes**: at numbers without a byte
order mark, at a mark that is no digit, at a label of it, at nothing, at a character from a third
set with two bytes to a character, or for a surrogate that can be written in it. -/
theorem exists_failsOtherwise {name : String} {e : Encoding}
    (hname : Codec.named? name = some (.text e)) (h : e.failsOnlyAtBytes = false) :
    ∃ bytes, failsOtherwise (e.decode bytes) = true := by
  cases e with
  | utf7 => exact ⟨[0x22, 0x2b, 0x32, 0x41, 0x41, 0x2d, 0x22], by decide +kernel⟩
  | utf16Marked => exact ⟨[0x41, 0], by decide +kernel⟩
  | utf32Marked => exact ⟨[0x41, 0, 0, 0], by decide +kernel⟩
  | escaped | rawEscaped =>
    exact ⟨[0x22, 0x5c, 0x75, 0x64, 0x38, 0x30, 0x30, 0x22], by decide +kernel⟩
  | punycode => exact ⟨[0x21], by decide +kernel⟩
  | domainName => exact ⟨[0x78, 0x6e, 0x2d, 0x2d, 0x21], by decide +kernel⟩
  | undefined => exact ⟨[], by decide⟩
  | multibyte m =>
    obtain ⟨n, hn⟩ := mem_all_of_named? hname
    have hm := eq_japanese2_of_mem_all _ hn h
    dsimp only at hm
    subst hm
    exact ⟨[0x1b, 0x2e, 0x4a, 0x1b, 0x4e, 0x41], by decide +kernel⟩
  | _ => cases h

end Encoding

end BlockLang
