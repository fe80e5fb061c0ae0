import Mathlib
import NmsLib.Space.Vector

/-!
# A written vector file, read as a bit-Hamming file

`VectorSpace<PivotIdType>::WriteDataset` prints each object's label and `int` values on a line;
`SpaceBitHamming::ReadDataset` reads a line's values as `unsigned`s and packs them into 32-bit
words. On 0/1 values the two agree: the file the vector space writes from objects of one positive
number of 0/1 values is read by the bit-Hamming space as the same objects in order, their values
binarized, and the bit-Hamming distance of two of them is the number of positions at which their
values differ (`bitHamming_reads_written`).

The steps follow the vector round trip: a written line is the label's text, blanks and the
values' text (`writeLine_split`); the values' text reads back as `unsigned`s
(`writeValues_unsigned`); a written line is one step of the bit-Hamming reading loop
(`writtenLine_bits`, `SpaceBitHamming.readLine_ok`), and the loop reads the written lines in turn
(`bitLines_written`).
-/

namespace Similarity

/-! ## Values -/

/-- A value `>>` reads as a non-negative `int` it reads as the same `unsigned`. -/
theorem extractUnsigned_of_extractInt {s rest : List Char} {x : ℤ}
    (h : extractInt s = some (x, rest)) (hx : 0 ≤ x) :
    extractUnsigned s = some (x.toNat, rest) := by
  unfold extractInt at h
  unfold extractUnsigned
  split at h
  · rename_i m rest' hs
    split_ifs at h
    obtain ⟨rfl, rfl⟩ := Prod.mk.inj_iff.1 (Option.some.inj h)
    obtain rfl : m = 0 := by omega
    rw [hs]; rfl
  · rename_i m rest' hs
    split_ifs at h with hm
    obtain ⟨rfl, rfl⟩ := Prod.mk.inj_iff.1 (Option.some.inj h)
    rw [hs]; dsimp only; rw [if_pos (by omega)]; rfl
  · cases h

theorem extractUnsigned_spaces {pre : List Char} (hpre : ∀ c ∈ pre, isSpace c) (s : List Char) :
    extractUnsigned (pre ++ s) = extractUnsigned s := by
  simp only [extractUnsigned, scanInteger_spaces hpre]

/-- The text of non-negative `int`s reads back as `unsigned`s. -/
theorem writeValues_unsigned (l : List ℤ) (hne : l ≠ []) (hl : ∀ x ∈ l, 0 ≤ x ∧ x < 2 ^ 31) :
    ∃ body, writeValues l = body ++ ['\n'] ∧ readAll unsignedExtractor body = l.map Int.toNat := by
  have hput : ∀ x, 0 ≤ x ∧ x < 2 ^ 31 → ∀ rest : List Char, (∀ c ∈ rest.head?, c.isDigit = false) →
      extractUnsigned (putInt x ++ rest) = some (x.toNat, rest) := fun x hx rest hrest =>
    extractUnsigned_of_extractInt (extractInt_putInt x ⟨by omega, hx.2⟩ rest hrest) hx.1
  induction l with
  | nil => exact absurd rfl hne
  | cons x xs ih =>
    have hx := hl x (List.mem_cons_self _ _)
    cases xs with
    | nil =>
      refine ⟨putInt x, rfl, ?_⟩
      rw [← List.append_nil (putInt x), readAll_of_some unsignedExtractor (hput x hx [] (by simp)),
        readAll_of_none unsignedExtractor (show unsignedExtractor.extract [] = none from rfl)]
      rfl
    | cons y ys =>
      obtain ⟨body, hw, hread⟩ :=
        ih (List.cons_ne_nil _ _) (fun z hz => hl z (List.mem_cons_of_mem _ hz))
      refine ⟨putInt x ++ ' ' :: ' ' :: body, by simp [writeValues, hw], ?_⟩
      have hsp : extractUnsigned (' ' :: ' ' :: body) = extractUnsigned body :=
        extractUnsigned_spaces (by decide : ∀ c ∈ [' ', ' '], isSpace c) body
      rw [readAll_of_some unsignedExtractor (hput x hx _ (by rintro c ⟨⟩; rfl)),
        readAll_eq_of_extract_eq unsignedExtractor hsp, hread]
      rfl

/-! ## Lines -/

/-- A written line: the label's text and blanks, which `extractLabel` takes off, then the
values' text. -/
theorem writeLine_split (LF : LabelFormat) (obj : VecObject ℤ) (hlabel : obj.label < 2 ^ 31)
    {vb : List Char} (hvb : writeValues obj.data = vb ++ ['\n'])
    (hh : ∀ c ∈ vb.head?, c.isDigit ∨ c = '-') (hnl : '\n' ∉ vb) :
    ∃ body pre, writeLine LF obj = body ++ ['\n'] ∧ '\n' ∉ body ∧ (∀ c ∈ pre, isSpace c) ∧
      LF.extractLabel body = (if 0 ≤ obj.label then obj.label else -1, pre ++ vb) := by
  by_cases h0 : 0 ≤ obj.label
  · obtain ⟨pre, hpre, hex⟩ := LF.labelled obj.label h0 hlabel vb
    refine ⟨LF.LABEL_PREFIX ++ putInt obj.label ++ ' ' :: vb, pre, by simp [writeLine, h0, hvb],
      ?_, hpre, by rw [hex, if_pos h0]⟩
    simp only [List.mem_append, List.mem_cons, not_or]
    exact ⟨⟨LF.newline_not_mem, fun h => by simpa using putInt_chars _ _ h⟩, by decide, hnl⟩
  · exact ⟨vb, [], by simp [writeLine, h0, hvb], hnl, by simp,
      by rw [LF.extractLabel_of_head hh, if_neg h0]; rfl⟩

/-- A written line of 0/1 values is read by the bit-Hamming space as the object's label (or
`-1`) and its values binarized. -/
theorem writtenLine_bits (LF : LabelFormat) (ReplaceSomePunct : List Char → List Char)
    (obj : VecObject ℤ) (hne : obj.data ≠ []) (hbits : ∀ v ∈ obj.data, v = 0 ∨ v = 1)
    (hlabel : obj.label < 2 ^ 31) :
    ∃ body, writeLine LF obj = body ++ ['\n'] ∧ '\n' ∉ body ∧
      SpaceBitHamming.ReadVec LF ReplaceSomePunct body =
        .ok (if 0 ≤ obj.label then obj.label else -1, Binarize (obj.data.map Int.toNat) 1) := by
  have hrange : ∀ v ∈ obj.data, 0 ≤ v ∧ v < 2 ^ 31 := fun v hv => by
    rcases hbits v hv with rfl | rfl <;> decide
  obtain ⟨vb, hw, hnl, hh, -⟩ :=
    writeValues_spec obj.data hne fun v hv => ⟨by linarith [(hrange v hv).1], (hrange v hv).2⟩
  obtain ⟨vb', hw', hread⟩ := writeValues_unsigned obj.data hne hrange
  obtain rfl : vb' = vb := List.append_cancel_right (hw'.symm.trans hw)
  obtain ⟨body, pre, hwl, hnlb, hpre, hex⟩ := writeLine_split LF obj hlabel hw hh hnl
  have hrd : readAll unsignedExtractor (LF.extractLabel body).2 = obj.data.map Int.toNat := by
    rw [hex, ← hread]
    exact readAll_eq_of_extract_eq unsignedExtractor (extractUnsigned_spaces hpre vb')
  refine ⟨body, hwl, hnlb, ?_⟩
  rw [SpaceBitHamming.ReadVec_of_bits LF _ body (by
    rw [hrd]; simpa only [List.mem_map] using fun x ⟨v, hv, hx⟩ => by
      rcases hbits v hv with rfl | rfl <;> simp [← hx]), hrd, hex]

/-- A line whose words number `W`, after lines of `W` words or none, is kept whole. -/
theorem SpaceBitHamming.readLine_ok {LF : LabelFormat} {ReplaceSomePunct : List Char → List Char}
    (FileName : String) {s : ReadState UInt32} {line : List Char} {label : ℤ}
    {temp : List UInt32} (hread : SpaceBitHamming.ReadVec LF ReplaceSomePunct line = .ok (label, temp))
    (hs : s.dim = 0 ∨ s.dim = temp.length) :
    SpaceBitHamming.readLine LF ReplaceSomePunct FileName s line =
      .ok ⟨temp.length, s.linenum + 1, s.dataset ++ [⟨s.linenum, label, temp⟩]⟩ := by
  have hd : (if s.dim = 0 then temp.length else s.dim) = temp.length := by split <;> omega
  rw [SpaceBitHamming.readLine, hread]
  dsimp only
  rw [if_neg (by omega), hd]

/-! ## Files -/

/-- The bit-Hamming reading loop over the written lines of `os`, from line `s.linenum` on. -/
theorem bitLines_written (LF : LabelFormat) (ReplaceSomePunct : List Char → List Char)
    (MaxNumObjects : ℕ) (FileName : String) {m : ℕ} (hm : 0 < m) (os : List (VecObject ℤ))
    (hos : ∀ o ∈ os, o.data.length = m ∧ (∀ v ∈ o.data, v = 0 ∨ v = 1) ∧ o.label < 2 ^ 31)
    (s : ReadState UInt32) (hs : s.dim = 0 ∨ s.dim = (m + 31) / 32)
    (hmax : MaxNumObjects = 0 ∨ s.linenum + os.length ≤ MaxNumObjects) :
    (readLinesWith (SpaceBitHamming.readLine LF ReplaceSomePunct FileName) MaxNumObjects
        (getlines (os.flatMap (writeLine LF))) s).map (·.dataset) =
      .ok (s.dataset ++ (os.enumFrom s.linenum).map fun p =>
        ⟨p.1, if 0 ≤ p.2.label then p.2.label else -1, Binarize (p.2.data.map Int.toNat) 1⟩) := by
  induction os generalizing s with
  | nil => simp [getlines, getlinesAux, readLinesWith]; rfl
  | cons o os ih =>
    obtain ⟨hlen, hbits, hlabel⟩ := hos o (List.mem_cons_self _ _)
    obtain ⟨body, hw, hnl, hread⟩ := writtenLine_bits LF ReplaceSomePunct o
      (List.ne_nil_of_length_pos (by omega)) hbits hlabel
    have hW : (Binarize (o.data.map Int.toNat) 1).length = (m + 31) / 32 := by simp [hlen]
    have hcond : MaxNumObjects = 0 ∨ s.linenum < MaxNumObjects := by
      simp only [List.length_cons] at hmax; omega
    have hrest := ih (fun o' ho' => hos o' (List.mem_cons_of_mem _ ho'))
      ⟨_, s.linenum + 1, s.dataset ++ [⟨s.linenum, if 0 ≤ o.label then o.label else -1,
        Binarize (o.data.map Int.toNat) 1⟩]⟩ (.inr hW) (by simp only [List.length_cons] at hmax ⊢; omega)
    rw [List.flatMap_cons, hw, List.append_assoc, List.singleton_append, getlines_append _ _ hnl,
      readLinesWith_cons hcond (SpaceBitHamming.readLine_ok FileName hread (hW ▸ hs)), hrest]
    simp

/-- On 0/1 values of one positive length, the binarized words' `HiddenDistance` is the number of
positions at which the values differ. -/
theorem hiddenDistance_bits (u v : List ℤ) (hbits : ∀ x ∈ u ++ v, x = 0 ∨ x = 1)
    (hlen : u.length = v.length) (hpos : 0 < u.length) :
    SpaceBitHamming.HiddenDistance (Binarize (u.map Int.toNat) 1) (Binarize (v.map Int.toNat) 1) =
      .ok ((u.zip v).countP fun p => p.1 != p.2) := by
  rw [SpaceBitHamming.HiddenDistance, if_neg (by simp; omega), if_neg (by simp [hlen]),
    Binarize_length, BitHamming_Binarize _ _ 1 (by simp [hlen]), List.zip_map, List.countP_map]
  congr 1
  refine List.countP_congr fun p hp => ?_
  have h₁ := hbits p.1 (List.mem_append_left _ (List.of_mem_zip hp).1)
  have h₂ := hbits p.2 (List.mem_append_right _ (List.of_mem_zip hp).2)
  rcases h₁ with h₁ | h₁ <;> rcases h₂ with h₂ | h₂ <;> simp [h₁, h₂]

/-- The file `VectorSpace<PivotIdType>::WriteDataset` writes from objects of one positive number
`m` of 0/1 values is read by `SpaceBitHamming::ReadDataset` (with no bound on the objects, or one
they fit in) as the same objects in order: its index as id, its label when not negative (else
`-1`), its values binarized. The bit-Hamming distance of two of them is the number of positions
at which their values differ. -/
theorem bitHamming_reads_written (LF : LabelFormat) (ReplaceSomePunct : List Char → List Char)
    (dataset : List (VecObject ℤ)) (m : ℕ) (hm : 0 < m)
    (hdata : ∀ o ∈ dataset, o.data.length = m ∧ ∀ v ∈ o.data, v = 0 ∨ v = 1)
    (hlabel : ∀ o ∈ dataset, o.label < 2 ^ 31) (MaxNumObjects : ℕ)
    (hmax : MaxNumObjects = 0 ∨ dataset.length ≤ MaxNumObjects) (FileName : String) :
    ∃ text, VectorSpace.WriteDataset LF dataset = .ok text ∧
      SpaceBitHamming.ReadDataset LF ReplaceSomePunct MaxNumObjects FileName (some text) =
        .ok (dataset.enum.map fun p =>
          ⟨p.1, if 0 ≤ p.2.label then p.2.label else -1, Binarize (p.2.data.map Int.toNat) 1⟩) ∧
      ∀ o₁ ∈ dataset, ∀ o₂ ∈ dataset,
        SpaceBitHamming.HiddenDistance (Binarize (o₁.data.map Int.toNat) 1)
          (Binarize (o₂.data.map Int.toNat) 1) =
          .ok ((o₁.data.zip o₂.data).countP fun p => p.1 != p.2) := by
  refine ⟨dataset.flatMap (writeLine LF), if_pos ?_, ?_, fun o₁ h₁ o₂ h₂ => ?_⟩
  · simp only [List.all_eq_true, decide_eq_true_eq]
    intro o ho; have := (hdata o ho).1; omega
  · have := bitLines_written LF ReplaceSomePunct MaxNumObjects FileName hm dataset
      (fun o ho => ⟨(hdata o ho).1, (hdata o ho).2, hlabel o ho⟩) ⟨0, 0, []⟩ (.inl rfl)
      (by simpa using hmax)
    simpa [SpaceBitHamming.ReadDataset, List.enum] using this
  · have := (hdata o₁ h₁).1; have := (hdata o₂ h₂).1
    exact hiddenDistance_bits _ _ (fun x hx => (List.mem_append.1 hx).elim
      ((hdata o₁ h₁).2 x) ((hdata o₂ h₂).2 x)) (by omega) (by omega)

/-- A labelled and an unlabelled object of three bits. -/
theorem bitHamming_reads_written_pair :
    ∃ text, VectorSpace.WriteDataset .labelColon [⟨0, 5, [1, 0, 1]⟩, ⟨1, -1, [0, 0, 1]⟩] = .ok text ∧
      SpaceBitHamming.ReadDataset .labelColon id 0 "data.txt" (some text) =
        .ok (([⟨0, 5, [1, 0, 1]⟩, ⟨1, -1, [0, 0, 1]⟩] : List (VecObject ℤ)).enum.map fun p =>
          ⟨p.1, if 0 ≤ p.2.label then p.2.label else -1, Binarize (p.2.data.map Int.toNat) 1⟩) ∧
      ∀ o₁ ∈ ([⟨0, 5, [1, 0, 1]⟩, ⟨1, -1, [0, 0, 1]⟩] : List (VecObject ℤ)),
        ∀ o₂ ∈ ([⟨0, 5, [1, 0, 1]⟩, ⟨1, -1, [0, 0, 1]⟩] : List (VecObject ℤ)),
          SpaceBitHamming.HiddenDistance (Binarize (o₁.data.map Int.toNat) 1)
            (Binarize (o₂.data.map Int.toNat) 1) =
            .ok ((o₁.data.zip o₂.data).countP fun p => p.1 != p.2) :=
  bitHamming_reads_written .labelColon id _ 3 (by decide) (by decide) (by decide) 0 (.inl rfl)
    "data.txt"

end Similarity
