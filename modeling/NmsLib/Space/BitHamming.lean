import NmsLib.Space.Stream

/-!
# The bit-Hamming space's reader (`SpaceBitHamming`)

A line of a bit-Hamming file holds 0/1 values, binarized into 32-bit words; `ReadDataset` keeps
the objects and demands that every line gives the same number of words, and `HiddenDistance`
counts the bits in which two objects' words differ.

`bitHamming_reader_slips`: three files the reader accepts although their lines do not all carry
the same number of values, each with a distance that is not the number of differing positions:
* lines of 2 and of 1 values give one word each, and the distance counts padding against data;
* a leading empty line gives an object of no words, and the distance then fails its `CHECK`;
* `0,1` reads as the single value `0`, since `str` copies the line before `ReplaceSomePunct`
  rewrites it.
-/

namespace Similarity

/-! ## Words -/

/-- `Binarize(perm, thresh, bin)` (`permutation_utils.h`, not among the sources; modelled from
the spec: bit `i` is set iff `perm[i] < thresh`, packed into 32-bit words, bit `i` at place
`i % 32` of word `i / 32`). -/
def Binarize (perm : List ℕ) (thresh : ℕ) : List UInt32 :=
  (List.range ((perm.length + 31) / 32)).map fun w =>
    UInt32.ofNat ((List.range 32).map fun j =>
      if perm.getD (32 * w + j) thresh < thresh then 2 ^ j else 0).sum

@[simp] theorem Binarize_length (perm : List ℕ) (thresh : ℕ) :
    (Binarize perm thresh).length = (perm.length + 31) / 32 := by
  simp [Binarize]

/-- The number of set bits of a word. -/
def popcount (w : UInt32) : ℕ := (List.range 32).countP w.toNat.testBit

/-- `BitHamming(x, y, length)` (`distcomp.h`, not among the sources; modelled from the spec's
bit-Hamming distance): the set bits of `x[i] ^ y[i]` over the first `length` words. -/
def BitHamming (x y : List UInt32) (length : ℕ) : ℕ :=
  ((x.zip y).take length).map (fun p => popcount (p.1 ^^^ p.2)) |>.sum

/-- `SpaceBitHamming::HiddenDistance` on two objects' words (`datalength()` is four bytes a
word); a failed `CHECK` ends the program with its condition (the message, from `logging.h`, is
not among the sources). -/
def SpaceBitHamming.HiddenDistance (x y : List UInt32) : Except String ℕ :=
  if ¬4 * x.length > 0 then .error "Check failed: obj1->datalength() > 0"
  else if 4 * x.length ≠ 4 * y.length then
    .error "Check failed: obj1->datalength() == obj2->datalength()"
  else .ok (BitHamming x y x.length)

/-! ## The distance of two binarized sequences -/

/-- A sum of distinct powers of two below `2 ^ m` stays below `2 ^ m`. -/
theorem sum_pow_lt (c : ℕ → Bool) (m : ℕ) :
    ((List.range m).map fun j => if c j then 2 ^ j else 0).sum < 2 ^ m := by
  induction m with
  | zero => simp
  | succ m ih =>
    rw [List.range_succ m, List.map_append, List.sum_append, List.map_singleton,
      List.sum_singleton, Nat.pow_succ]
    split <;> omega

/-- ... and has exactly the chosen bits. -/
theorem sum_pow_testBit (c : ℕ → Bool) (m k : ℕ) :
    ((List.range m).map fun j => if c j then 2 ^ j else 0).sum.testBit k =
      (decide (k < m) && c k) := by
  induction m with
  | zero => simp
  | succ m ih =>
    rcases Nat.lt_or_ge k (m + 1) with hk | hk
    case inr =>
      rw [Nat.testBit_lt_two_pow
        (lt_of_lt_of_le (sum_pow_lt c (m + 1)) (Nat.pow_le_pow_right two_pos hk))]
      simp [Nat.not_lt.2 hk]
    rw [List.range_succ m, List.map_append, List.sum_append, List.map_singleton,
      List.sum_singleton, Nat.add_comm]
    rcases Nat.lt_or_eq_of_le (Nat.le_of_lt_succ hk) with hk' | rfl
    · cases c m <;> simp [Nat.testBit_two_pow_add_gt hk', ih, hk, hk']
    · cases hc : c k <;>
        simp [hc, Nat.testBit_two_pow_add_eq, Nat.testBit_lt_two_pow (sum_pow_lt c k)]

/-- Bit `j` of word `w` of `Binarize u t` is whether `u[32 w + j] < t` (padding: no). -/
theorem Binarize_word (u : List ℕ) (t w j : ℕ) (hj : j < 32) :
    (UInt32.ofNat ((List.range 32).map fun j =>
      if u.getD (32 * w + j) t < t then 2 ^ j else 0).sum).toNat.testBit j =
      decide (u.getD (32 * w + j) t < t) := by
  have hlt := sum_pow_lt (fun j => decide (u.getD (32 * w + j) t < t)) 32
  have hbit := sum_pow_testBit (fun j => decide (u.getD (32 * w + j) t < t)) 32 j
  simp only [decide_eq_true_eq] at hlt hbit
  rw [UInt32.toNat_ofNat_of_lt hlt, hbit]
  simp [hj]

theorem popcount_xor (a b : UInt32) :
    popcount (a ^^^ b) = (List.range 32).countP fun j => a.toNat.testBit j != b.toNat.testBit j := by
  have : (a ^^^ b).toNat = a.toNat ^^^ b.toNat := BitVec.toNat_xor _ _
  rw [popcount, this]
  exact List.countP_congr fun j _ => by rw [Nat.testBit_xor]

/-- Counting word by word is counting position by position. -/
theorem sum_countP_words (P : ℕ → Bool) (W : ℕ) :
    ((List.range W).map fun w => (List.range 32).countP fun j => P (32 * w + j)).sum =
      (List.range (32 * W)).countP P := by
  induction W with
  | zero => simp
  | succ W ih =>
    rw [List.range_succ W, List.map_append, List.sum_append, ih, Nat.mul_succ, List.range_add,
      List.countP_append, List.countP_map]
    simp [Function.comp_def]

/-- Positions counted up to the sequences' common length, or past it where both are padding. -/
theorem countP_getD (P : ℕ → ℕ → Bool) (t : ℕ) (hP : P t t = false) :
    ∀ (u v : List ℕ), u.length = v.length → ∀ M, u.length ≤ M →
      (List.range M).countP (fun i => P (u.getD i t) (v.getD i t)) =
        (u.zip v).countP fun p => P p.1 p.2
  | [], [], _, M, _ => by simp [hP]
  | x :: u, y :: v, hlen, M + 1, hM => by
    rw [List.range_succ_eq_map, List.countP_cons, List.countP_map, List.zip_cons_cons,
      List.countP_cons]
    simp only [List.getD_cons_zero, Function.comp_def, Nat.succ_eq_add_one, List.getD_cons_succ]
    rw [countP_getD P t hP u v (by simpa using hlen) M (by simp at hM; omega)]
  | [], _ :: _, hlen, _, _ => by simp at hlen
  | _ :: _, [], hlen, _, _ => by simp at hlen
  | _ :: _, _ :: _, _, 0, hM => by simp at hM

/-- The bit-Hamming distance of two binarized sequences of one length `n` counts the positions
at which the sequences fall on different sides of the threshold. -/
theorem BitHamming_Binarize (u v : List ℕ) (t : ℕ) (hlen : u.length = v.length) :
    BitHamming (Binarize u t) (Binarize v t) ((u.length + 31) / 32) =
      (u.zip v).countP fun p => decide (p.1 < t) != decide (p.2 < t) := by
  rw [← countP_getD (fun a b => decide (a < t) != decide (b < t)) t (by simp) u v hlen
      (32 * ((v.length + 31) / 32)) (by omega), ← sum_countP_words,
    BitHamming, Binarize, Binarize, hlen, List.zip_map', List.take_of_length_le (by simp),
    List.map_map]
  refine congrArg List.sum (List.map_congr_left fun w _ => ?_)
  rw [Function.comp_apply, popcount_xor]
  exact List.countP_congr fun j hj => by
    rw [Binarize_word u t w j (List.mem_range.1 hj), Binarize_word v t w j (List.mem_range.1 hj)]

/-! ## Reading -/

/-- `SpaceBitHamming::ReadVec`: the label, and the line's values binarized at `1`. `str` copies
the line before `ReplaceSomePunct(line)` (`utils.h`, not among the sources) rewrites it, so the
rewrite reaches only the message; a value other than 0 or 1 ends the program. Extraction has no
other effect, so checking the values read is checking each as it is read. -/
def SpaceBitHamming.ReadVec (LF : LabelFormat) (ReplaceSomePunct : List Char → List Char)
    (line : List Char) : Except String (ℤ × List UInt32) :=
  let (label, line) := LF.extractLabel line
  let v := readAll unsignedExtractor line
  if v.any fun val => val != 0 && val != 1 then
    .error ("Only zeros and ones are allowed, line: '" ++ String.mk (ReplaceSomePunct line) ++ "'")
  else .ok (label, Binarize v 1)

/-- The body of `ReadDataset`'s loop for one line. -/
def SpaceBitHamming.readLine (LF : LabelFormat) (ReplaceSomePunct : List Char → List Char)
    (FileName : String) (s : ReadState UInt32) (line : List Char) :
    Except String (ReadState UInt32) :=
  match SpaceBitHamming.ReadVec LF ReplaceSomePunct line with
  | .error e => .error e
  | .ok (label, temp) =>
    let currWordQty := temp.length
    if s.dim ≠ 0 ∧ s.dim ≠ currWordQty then
      .error (vecElemsMsg currWordQty
        (" doesn't match the # of elements in previous lines. (" ++ toString s.dim ++ " )")
        s.linenum FileName)
    else .ok ⟨if s.dim = 0 then currWordQty else s.dim, s.linenum + 1,
      s.dataset ++ [⟨s.linenum, label, temp⟩]⟩

/-- `SpaceBitHamming::ReadDataset` over the file's text; a file that cannot be opened (`none`)
is not checked for, and reads as empty. -/
def SpaceBitHamming.ReadDataset (LF : LabelFormat) (ReplaceSomePunct : List Char → List Char)
    (MaxNumObjects : ℕ) (FileName : String) (file : Option (List Char)) :
    Except String (List (VecObject UInt32)) :=
  (readLinesWith (SpaceBitHamming.readLine LF ReplaceSomePunct FileName) MaxNumObjects
    (getlines (file.getD [])) ⟨0, 0, []⟩).map (·.dataset)

/-- A line without a label is read as its values alone. -/
theorem SpaceBitHamming.ReadVec_of_head (LF : LabelFormat)
    (ReplaceSomePunct : List Char → List Char) {line : List Char}
    (h : ∀ c ∈ line.head?, c.isDigit ∨ c = '-') :
    SpaceBitHamming.ReadVec LF ReplaceSomePunct line =
      let v := readAll unsignedExtractor line
      if v.any fun val => val != 0 && val != 1 then
        .error ("Only zeros and ones are allowed, line: '" ++ String.mk (ReplaceSomePunct line) ++
          "'")
      else .ok (-1, Binarize v 1) := by
  rw [SpaceBitHamming.ReadVec, LF.extractLabel_of_head h]

/-- On a file without labels the label format does not matter. -/
theorem SpaceBitHamming.ReadDataset_unlabelled (LF LF' : LabelFormat)
    (ReplaceSomePunct : List Char → List Char) (MaxNumObjects : ℕ) (FileName : String)
    (text : List Char) (h : ∀ line ∈ getlines text, ∀ c ∈ line.head?, c.isDigit ∨ c = '-') :
    SpaceBitHamming.ReadDataset LF ReplaceSomePunct MaxNumObjects FileName (some text) =
      SpaceBitHamming.ReadDataset LF' ReplaceSomePunct MaxNumObjects FileName (some text) := by
  simp only [SpaceBitHamming.ReadDataset, Option.getD_some]
  congr 1
  refine readLinesWith_congr _ (fun line hl s => ?_) _
  rw [SpaceBitHamming.readLine, SpaceBitHamming.readLine,
    SpaceBitHamming.ReadVec_of_head LF _ (h line hl),
    SpaceBitHamming.ReadVec_of_head LF' _ (h line hl)]

/-- What a line the loop accepts does: its 0/1 values are binarized, their word count agrees
with `wordQty` once that is set, `wordQty` becomes it, and the object is appended. -/
theorem SpaceBitHamming.readLine_cases {LF : LabelFormat}
    {ReplaceSomePunct : List Char → List Char} {FileName : String} {s s' : ReadState UInt32}
    {line : List Char}
    (h : SpaceBitHamming.readLine LF ReplaceSomePunct FileName s line = .ok s') :
    ∃ label temp, SpaceBitHamming.ReadVec LF ReplaceSomePunct line = .ok (label, temp) ∧
      (s.dim ≠ 0 → s.dim = temp.length) ∧
      s' = ⟨temp.length, s.linenum + 1, s.dataset ++ [⟨s.linenum, label, temp⟩]⟩ := by
  rw [SpaceBitHamming.readLine] at h
  rcases hr : SpaceBitHamming.ReadVec LF ReplaceSomePunct line with e | ⟨label, temp⟩
  · rw [hr] at h; cases h
  rw [hr] at h
  dsimp only at h
  by_cases h₁ : s.dim ≠ 0 ∧ s.dim ≠ temp.length
  · rw [if_pos h₁] at h; cases h
  have hd : (if s.dim = 0 then temp.length else s.dim) = temp.length := by split <;> omega
  rw [if_neg h₁, hd] at h
  exact ⟨label, temp, rfl, fun hs => by omega, (Except.ok.inj h).symm⟩

/-- Every file `ReadDataset` accepts gives one object per line read (every line, or the first
`MaxNumObjects`), with the ids `0, 1, …` in line order, each of no words or of a common number
`w` of words, those of no words only before the first object with words. -/
theorem bitHamming_accepted_shape (LF : LabelFormat) (ReplaceSomePunct : List Char → List Char)
    (MaxNumObjects : ℕ) (FileName : String) (text : List Char) (ds : List (VecObject UInt32))
    (h : SpaceBitHamming.ReadDataset LF ReplaceSomePunct MaxNumObjects FileName (some text) =
      .ok ds) :
    ds.length = (if MaxNumObjects = 0 then (getlines text).length
      else min (getlines text).length MaxNumObjects) ∧
    ds.map (·.id) = (List.range ds.length).map Nat.cast ∧
    (∃ w, ∀ o ∈ ds, o.data = [] ∨ o.data.length = w) ∧
    ds.Pairwise fun a b => a.data ≠ [] → b.data ≠ [] := by
  obtain ⟨s, hs, rfl⟩ := exceptMap_eq_ok h
  have hinv := readLinesWith_inv (ShapeInv 0) (fun s line s' hi hst => by
    obtain ⟨label, temp, -, hc, rfl⟩ := SpaceBitHamming.readLine_cases hst
    exact hi.push hc (fun hD => absurd rfl hD) (fun _ => rfl)) _ (ShapeInv.start 0) hs
  have hlen := readLinesWith_linenum (fun s line s' hst => by
    obtain ⟨label, temp, -, -, rfl⟩ := SpaceBitHamming.readLine_cases hst; rfl) _
    (.inr (Nat.zero_le _)) hs
  have hds : s.dataset.length = s.linenum := by simpa using congrArg List.length hinv.ids
  exact ⟨by rw [hds, hlen]; simp, by rw [hinv.ids, hds], ⟨s.dim, hinv.dims rfl⟩,
    hinv.empties_first⟩

/-- A leading empty line, then `0`: two objects, of no words and of one. -/
theorem bitHamming_accepted_shape_empty_first :
    SpaceBitHamming.ReadDataset .labelColon id 0 "data.txt" (some "\n0\n".toList) =
        .ok [⟨0, -1, []⟩, ⟨1, -1, [1]⟩] ∧
      [(⟨0, -1, []⟩ : VecObject UInt32), ⟨1, -1, [1]⟩].length =
        (if (0 : ℕ) = 0 then (getlines "\n0\n".toList).length
          else min (getlines "\n0\n".toList).length 0) :=
  ⟨rfl, (bitHamming_accepted_shape .labelColon id 0 "data.txt" "\n0\n".toList
    [⟨0, -1, []⟩, ⟨1, -1, [1]⟩] rfl).1⟩

/-- A line whose values are all 0 or 1 is read as its label and its binarized values. -/
theorem SpaceBitHamming.ReadVec_of_bits (LF : LabelFormat)
    (ReplaceSomePunct : List Char → List Char) (line : List Char)
    (h : ∀ x ∈ readAll unsignedExtractor (LF.extractLabel line).2, x = 0 ∨ x = 1) :
    SpaceBitHamming.ReadVec LF ReplaceSomePunct line =
      .ok ((LF.extractLabel line).1,
        Binarize (readAll unsignedExtractor (LF.extractLabel line).2) 1) := by
  have hany : ((readAll unsignedExtractor (LF.extractLabel line).2).any fun val =>
      val != 0 && val != 1) = false :=
    List.any_eq_false.2 fun x hx => by rcases h x hx with rfl | rfl <;> decide
  simp only [SpaceBitHamming.ReadVec, hany, Bool.false_eq_true, if_false]

/-- Two lines of 0/1 values, of one positive length, are read into objects whose
`HiddenDistance` is the number of positions at which the lines differ. -/
theorem bitHamming_distance_counts (LF : LabelFormat) (ReplaceSomePunct : List Char → List Char)
    (line₁ line₂ : List Char) (u v : List ℕ)
    (hu : readAll unsignedExtractor (LF.extractLabel line₁).2 = u)
    (hv : readAll unsignedExtractor (LF.extractLabel line₂).2 = v)
    (hbits : ∀ x ∈ u ++ v, x = 0 ∨ x = 1) (hlen : u.length = v.length) (hpos : 0 < u.length) :
    ∃ a b, SpaceBitHamming.ReadVec LF ReplaceSomePunct line₁ = .ok a ∧
      SpaceBitHamming.ReadVec LF ReplaceSomePunct line₂ = .ok b ∧
      SpaceBitHamming.HiddenDistance a.2 b.2 = .ok ((u.zip v).countP fun p => p.1 != p.2) := by
  subst hu hv
  refine ⟨_, _, SpaceBitHamming.ReadVec_of_bits LF _ line₁ fun x hx =>
      hbits x (List.mem_append_left _ hx),
    SpaceBitHamming.ReadVec_of_bits LF _ line₂ fun x hx => hbits x (List.mem_append_right _ hx),
    ?_⟩
  rw [SpaceBitHamming.HiddenDistance, if_neg (by simp; omega), if_neg (by simp [hlen]),
    Binarize_length, BitHamming_Binarize _ _ 1 hlen]
  congr 1
  refine List.countP_congr fun p hp => ?_
  have h₁ := hbits p.1 (List.mem_append_left _ (List.of_mem_zip hp).1)
  have h₂ := hbits p.2 (List.mem_append_right _ (List.of_mem_zip hp).2)
  rcases h₁ with h₁ | h₁ <;> rcases h₂ with h₂ | h₂ <;> simp [h₁, h₂]

/-- `0 1 1` against `1 1 0`: they differ at two positions. -/
theorem bitHamming_distance_counts_two :
    ∃ a b, SpaceBitHamming.ReadVec .labelColon id "0 1 1".toList = .ok a ∧
      SpaceBitHamming.ReadVec .labelColon id "1 1 0".toList = .ok b ∧
      SpaceBitHamming.HiddenDistance a.2 b.2 =
        .ok (([0, 1, 1].zip [1, 1, 0]).countP fun p : ℕ × ℕ => p.1 != p.2) :=
  bitHamming_distance_counts .labelColon id _ _ [0, 1, 1] [1, 1, 0] rfl rfl (by decide) rfl
    (by decide)

/-- Three files `ReadDataset` accepts for every label format and every `ReplaceSomePunct`,
although their lines do not carry the same number of 0/1 values: `0 0` and `0` (one word each;
distance 1, a data bit against padding); an empty line then `0` (an object of no words, on which
`HiddenDistance` fails); and `0,1`, `1,0` (one value each; distance 1, where the two lines
differ in two places). -/
theorem bitHamming_reader_slips (LF : LabelFormat) (ReplaceSomePunct : List Char → List Char)
    (FileName : String) :
    (SpaceBitHamming.ReadDataset LF ReplaceSomePunct 0 FileName (some "0 0\n0\n".toList) =
        .ok [⟨0, -1, [3]⟩, ⟨1, -1, [1]⟩] ∧
      SpaceBitHamming.HiddenDistance [3] [1] = .ok 1) ∧
    (SpaceBitHamming.ReadDataset LF ReplaceSomePunct 0 FileName (some "\n0\n".toList) =
        .ok [⟨0, -1, []⟩, ⟨1, -1, [1]⟩] ∧
      SpaceBitHamming.HiddenDistance [] [1] = .error "Check failed: obj1->datalength() > 0") ∧
    (SpaceBitHamming.ReadDataset LF ReplaceSomePunct 0 FileName (some "0,1\n1,0\n".toList) =
        .ok [⟨0, -1, [1]⟩, ⟨1, -1, [0]⟩] ∧
      SpaceBitHamming.HiddenDistance [1] [0] = .ok 1) := by
  refine ⟨⟨?_, rfl⟩, ⟨?_, rfl⟩, ⟨?_, rfl⟩⟩ <;>
  exact (SpaceBitHamming.ReadDataset_unlabelled LF .labelColon _ _ _ _ (by decide)).trans rfl

end Similarity
