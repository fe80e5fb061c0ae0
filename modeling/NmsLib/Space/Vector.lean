import NmsLib.Space.Stream
import NmsLib.Space.BitHamming

/-!
# The vector space's reader and writer (`VectorSpace<dist_t>`)

`ReadDataset` reads one object a line: an optional label, then the values `str >> val` reads,
cut to the configured dimension; every line must give as many values as the first that gives
some. `WriteDataset` prints, for `VectorSpace<PivotIdType>`, each object's label and values.

* `vectorSpace_reader_slips`: three files the reader accepts although they are not an optional
  label and numbers on each line, with the same positive count: a leading empty line (an object
  of no values), `1,2` (read as `1` alone, since `str` copies the line before `ReplaceSomePunct`
  rewrites it) and `1 2 x` (the junk ends the line without an error).
* `vectorSpace_roundTrip`: reading back what `WriteDataset` wrote gives every object, in order,
  with its index as id, its label when not negative (else `-1`) and its values.
-/

namespace Similarity

variable {α : Type}

/-! ## Reading -/

/-- `VectorSpace<dist_t>::ReadVec`: the label `Object::extractLabel` takes off the line, and the
values read from the rest. `str` copies the line before `ReplaceSomePunct(line)` rewrites it, so
the rewrite reaches nothing; no exception but `badbit` is enabled, so a token that is not a
number ends the loop and the `catch` is never taken. -/
def VectorSpace.ReadVec (LF : LabelFormat) (E : Extractor α) (line : List Char) :
    ℤ × List α :=
  let (label, line) := LF.extractLabel line
  (label, readAll E line)

/-- `temp.resize(n)`: the first `n` values, padded with `dist_t()`. -/
def resize [Zero α] (n : ℕ) (l : List α) : List α := l.take n ++ List.replicate (n - l.length) 0

/-- The body of `ReadDataset`'s loop for one line; `dimension` is `config->GetDimension()`, `0`
when there is no `config`. -/
def VectorSpace.readLine [Zero α] (LF : LabelFormat) (E : Extractor α) (dimension : ℕ)
    (FileName : String) (s : ReadState α) (line : List Char) : Except String (ReadState α) :=
  let (label, temp) := VectorSpace.ReadVec LF E line
  let currDim := temp.length
  if s.dim ≠ 0 ∧ s.dim ≠ currDim then
    .error (vecElemsMsg currDim
      (" doesn't match the # of elements in previous lines. (" ++ toString s.dim ++ " )")
      s.linenum FileName)
  else
    let dim := if s.dim = 0 then currDim else s.dim
    if dimension ≠ 0 ∧ dimension > currDim then
      .error (vecElemsMsg currDim " is smaller than the requested # of dimensions. " s.linenum
        FileName)
    else
      let actualDim := if dimension ≠ 0 then dimension else dim
      .ok ⟨dim, s.linenum + 1, s.dataset ++ [⟨s.linenum, label, resize actualDim temp⟩]⟩

/-- `VectorSpace<dist_t>::ReadDataset` over the file's text (`none`: it cannot be opened). -/
def VectorSpace.ReadDataset [Zero α] (LF : LabelFormat) (E : Extractor α)
    (dimension MaxNumObjects : ℕ) (FileName : String) (file : Option (List Char)) :
    Except String (List (VecObject α)) :=
  match file with
  | none => .error ("Cannot open file: " ++ FileName)
  | some text =>
    (readLinesWith (VectorSpace.readLine LF E dimension FileName) MaxNumObjects (getlines text)
      ⟨0, 0, []⟩).map (·.dataset)

/-- A line without a label is read as its values alone. -/
theorem VectorSpace.ReadVec_of_head (LF : LabelFormat) (E : Extractor α) {line : List Char}
    (h : ∀ c ∈ line.head?, c.isDigit ∨ c = '-') :
    VectorSpace.ReadVec LF E line = (-1, readAll E line) := by
  rw [VectorSpace.ReadVec, LF.extractLabel_of_head h]

/-- On a file without labels the label format does not matter. -/
theorem VectorSpace.ReadDataset_unlabelled [Zero α] (LF LF' : LabelFormat) (E : Extractor α)
    (dimension MaxNumObjects : ℕ) (FileName : String) (text : List Char)
    (h : ∀ line ∈ getlines text, ∀ c ∈ line.head?, c.isDigit ∨ c = '-') :
    VectorSpace.ReadDataset LF E dimension MaxNumObjects FileName (some text) =
      VectorSpace.ReadDataset LF' E dimension MaxNumObjects FileName (some text) := by
  simp only [VectorSpace.ReadDataset]
  congr 1
  refine readLinesWith_congr _ (fun line hl s => ?_) _
  rw [VectorSpace.readLine, VectorSpace.readLine, VectorSpace.ReadVec_of_head LF E (h line hl),
    VectorSpace.ReadVec_of_head LF' E (h line hl)]

/-- Three files `ReadDataset` accepts, for `VectorSpace<PivotIdType>` and every label format,
that are not an optional label and numbers on each line with one positive count: an empty line
then `1 2` (objects of 0 and 2 values); `1,2` (one object of the single value `1`); and
`1 2 x` (one object `1 2`, the junk read as the end of the line). -/
theorem vectorSpace_reader_slips (LF : LabelFormat) (FileName : String) :
    VectorSpace.ReadDataset LF intExtractor 0 0 FileName (some "\n1 2\n".toList) =
        .ok [⟨0, -1, []⟩, ⟨1, -1, [1, 2]⟩] ∧
      VectorSpace.ReadDataset LF intExtractor 0 0 FileName (some "1,2\n".toList) =
        .ok [⟨0, -1, [1]⟩] ∧
      VectorSpace.ReadDataset LF intExtractor 0 0 FileName (some "1 2 x\n".toList) =
        .ok [⟨0, -1, [1, 2]⟩] := by
  refine ⟨?_, ?_, ?_⟩ <;>
  exact (VectorSpace.ReadDataset_unlabelled LF .labelColon _ _ _ _ _ (by decide)).trans rfl

theorem resize_length [Zero α] (n : ℕ) (l : List α) : (resize n l).length = n := by
  simp only [resize, List.length_append, List.length_take, List.length_replicate]
  omega

/-- What a line the loop accepts does: its count `c` of values agrees with `dim` once that is
set and reaches the configured dimension, `dim` becomes `c`, and the object keeps the first
`D` values (with a dimension `D`) or all of them. -/
theorem VectorSpace.readLine_cases [Zero α] {LF : LabelFormat} {E : Extractor α}
    {dimension : ℕ} {FileName : String} {s s' : ReadState α} {line : List Char}
    (h : VectorSpace.readLine LF E dimension FileName s line = .ok s') :
    ∃ label temp, VectorSpace.ReadVec LF E line = (label, temp) ∧
      (s.dim ≠ 0 → s.dim = temp.length) ∧ ¬(dimension ≠ 0 ∧ dimension > temp.length) ∧
      s' = ⟨temp.length, s.linenum + 1, s.dataset ++
        [⟨s.linenum, label, resize (if dimension ≠ 0 then dimension else temp.length) temp⟩]⟩ := by
  rcases hr : VectorSpace.ReadVec LF E line with ⟨label, temp⟩
  rw [VectorSpace.readLine, hr] at h
  dsimp only at h
  by_cases h₁ : s.dim ≠ 0 ∧ s.dim ≠ temp.length
  · rw [if_pos h₁] at h; cases h
  by_cases h₂ : dimension ≠ 0 ∧ dimension > temp.length
  · rw [if_neg h₁, if_pos h₂] at h; cases h
  have hd : (if s.dim = 0 then temp.length else s.dim) = temp.length := by split <;> omega
  rw [if_neg h₁, if_neg h₂, hd] at h
  exact ⟨label, temp, rfl, fun hs => by omega, h₂, (Except.ok.inj h).symm⟩

/-- Every file `ReadDataset` accepts gives one object per line read (every line, or the first
`MaxNumObjects`), with the ids `0, 1, …` in line order; with a configured dimension `D` every
object has `D` values; without one each has none or a common number `d` of values, and objects
without values come only before the first object with values. -/
theorem vectorSpace_accepted_shape [Zero α] (LF : LabelFormat) (E : Extractor α)
    (dimension MaxNumObjects : ℕ) (FileName : String) (text : List Char)
    (ds : List (VecObject α))
    (h : VectorSpace.ReadDataset LF E dimension MaxNumObjects FileName (some text) = .ok ds) :
    ds.length = (if MaxNumObjects = 0 then (getlines text).length
      else min (getlines text).length MaxNumObjects) ∧
    ds.map (·.id) = (List.range ds.length).map Nat.cast ∧
    (dimension ≠ 0 → ∀ o ∈ ds, o.data.length = dimension) ∧
    (∃ d, ∀ o ∈ ds, o.data = [] ∨ o.data.length = d) ∧
    ds.Pairwise fun a b => a.data ≠ [] → b.data ≠ [] := by
  obtain ⟨s, hs, rfl⟩ := exceptMap_eq_ok h
  have hinv := readLinesWith_inv (ShapeInv dimension) (fun s line s' hi hst => by
    obtain ⟨label, temp, -, hc, -, rfl⟩ := VectorSpace.readLine_cases hst
    refine hi.push hc (fun hD => ?_) (fun hD => ?_)
    · rw [resize_length, if_pos hD]
    · rw [resize_length, if_neg (not_not.2 hD)]) _ (ShapeInv.start dimension) hs
  have hlen := readLinesWith_linenum (fun s line s' hst => by
    obtain ⟨label, temp, -, -, -, rfl⟩ := VectorSpace.readLine_cases hst; rfl) _
    (.inr (Nat.zero_le _)) hs
  have hds : s.dataset.length = s.linenum := by simpa using congrArg List.length hinv.ids
  refine ⟨by rw [hds, hlen]; simp, by rw [hinv.ids, hds], hinv.config, ?_, hinv.empties_first⟩
  by_cases hD : dimension = 0
  · exact ⟨s.dim, hinv.dims hD⟩
  · exact ⟨dimension, fun o ho => .inr (hinv.config hD o ho)⟩

/-- A leading empty line, then `1 2`: two objects, of no values and of two. -/
theorem vectorSpace_accepted_shape_empty_first :
    VectorSpace.ReadDataset .labelColon intExtractor 0 0 "data.txt" (some "\n1 2\n".toList) =
        .ok [⟨0, -1, []⟩, ⟨1, -1, [1, 2]⟩] ∧
      [(⟨0, -1, []⟩ : VecObject ℤ), ⟨1, -1, [1, 2]⟩].length =
        (if (0 : ℕ) = 0 then (getlines "\n1 2\n".toList).length
          else min (getlines "\n1 2\n".toList).length 0) :=
  ⟨rfl, (vectorSpace_accepted_shape .labelColon intExtractor 0 0 "data.txt" "\n1 2\n".toList
    [⟨0, -1, []⟩, ⟨1, -1, [1, 2]⟩] rfl).1⟩

/-! ## Writing, and reading back -/

/-- `outFile << x[i]` over one object's values: two blanks between values, `std::endl` after the
last. -/
def writeValues : List ℤ → List Char
  | [] => []
  | [x] => putInt x ++ ['\n']
  | x :: y :: ys => putInt x ++ ' ' :: ' ' :: writeValues (y :: ys)

/-- One object's line: `LABEL_PREFIX`, the label and a blank when the label is not negative,
then the values. -/
def writeLine (LF : LabelFormat) (obj : VecObject ℤ) : List Char :=
  (if obj.label ≥ 0 then LF.LABEL_PREFIX ++ putInt obj.label ++ [' '] else []) ++
    writeValues obj.data

/-- `VectorSpace<PivotIdType>::WriteDataset` (`PivotIdType`, from `permutation_type.h`, not among
the sources, is a 32-bit `int`): the text written, the output file taken to open; the
`CHECK(obj->datalength() > 0)` fails on an object without values. -/
def VectorSpace.WriteDataset (LF : LabelFormat) (dataset : List (VecObject ℤ)) :
    Except String (List Char) :=
  if dataset.all fun obj => 4 * obj.data.length > 0 then .ok (dataset.flatMap (writeLine LF))
  else .error "Check failed: obj->datalength() > 0"

theorem putInt_chars (x : ℤ) : ∀ c ∈ putInt x, c.isDigit ∨ c = '-' := by
  have hdig := (toDigits_spec x.natAbs).2.1
  unfold putInt; split
  · rintro c (_ | ⟨_, hc⟩)
    · exact .inr rfl
    · exact .inl (hdig c hc)
  · exact fun c hc => .inl (hdig c hc)

theorem readAll_eq_of_extract_eq (E : Extractor α) {s t : List Char}
    (h : E.extract s = E.extract t) : readAll E s = readAll E t := by
  rcases ht : E.extract t with _ | ⟨v, rest⟩
  · rw [readAll_of_none E (h.trans ht), readAll_of_none E ht]
  · rw [readAll_of_some E (h.trans ht), readAll_of_some E ht]

/-- The values' text: a line of digits, blanks and `-`, starting with the first value, that
reads back as the values. -/
theorem writeValues_spec (l : List ℤ) (hne : l ≠ []) (hl : ∀ x ∈ l, -2 ^ 31 ≤ x ∧ x < 2 ^ 31) :
    ∃ body, writeValues l = body ++ ['\n'] ∧ '\n' ∉ body ∧
      (∀ c ∈ body.head?, c.isDigit ∨ c = '-') ∧ readAll intExtractor body = l := by
  induction l with
  | nil => exact absurd rfl hne
  | cons x xs ih =>
    have hx := hl x (List.mem_cons_self _ _)
    have hchars := putInt_chars x
    have hne' : putInt x ≠ [] := by unfold putInt; split <;> simp [(toDigits_spec x.natAbs).1]
    have hhead : ∀ rest, ∀ c ∈ (putInt x ++ rest).head?, c.isDigit ∨ c = '-' := fun rest c hc =>
      hchars c (List.mem_of_mem_head? (by rwa [List.head?_append_of_ne_nil _ hne'] at hc))
    cases xs with
    | nil =>
      refine ⟨putInt x, rfl, fun h => by simpa using hchars _ h, by simpa using hhead [], ?_⟩
      rw [← List.append_nil (putInt x), readAll_of_some intExtractor
        (extractInt_putInt x hx [] (by simp)),
        readAll_of_none intExtractor (show intExtractor.extract [] = none from rfl)]
    | cons y ys =>
      obtain ⟨body, hw, hnl, hbh, hread⟩ :=
        ih (List.cons_ne_nil _ _) (fun z hz => hl z (List.mem_cons_of_mem _ hz))
      refine ⟨putInt x ++ ' ' :: ' ' :: body, by simp [writeValues, hw], ?_, hhead _, ?_⟩
      · simp only [List.mem_append, List.mem_cons, not_or]
        exact ⟨fun h => by simpa using hchars _ h, by decide, by decide, hnl⟩
      · have hsp : extractInt (' ' :: ' ' :: body) = extractInt body :=
          extractInt_spaces (by decide : ∀ c ∈ [' ', ' '], isSpace c) body
        rw [readAll_of_some intExtractor (extractInt_putInt x hx _ (by rintro c ⟨⟩; rfl)),
          readAll_eq_of_extract_eq intExtractor hsp, hread]


/-- One object's line reads back as its label (or `-1`) and its values. -/
theorem writeLine_spec (LF : LabelFormat) (obj : VecObject ℤ) (hne : obj.data ≠ [])
    (hdata : ∀ v ∈ obj.data, -2 ^ 31 ≤ v ∧ v < 2 ^ 31) (hlabel : obj.label < 2 ^ 31) :
    ∃ body, writeLine LF obj = body ++ ['\n'] ∧ '\n' ∉ body ∧
      VectorSpace.ReadVec LF intExtractor body =
        (if 0 ≤ obj.label then obj.label else -1, obj.data) := by
  obtain ⟨vb, hw, hnl, hh, hread⟩ := writeValues_spec obj.data hne hdata
  by_cases h0 : 0 ≤ obj.label
  · obtain ⟨pre, hpre, hex⟩ := LF.labelled obj.label h0 hlabel vb
    refine ⟨LF.LABEL_PREFIX ++ putInt obj.label ++ ' ' :: vb, ?_, ?_, ?_⟩
    · simp [writeLine, h0, hw]
    · simp only [List.mem_append, List.mem_cons, not_or]
      exact ⟨⟨LF.newline_not_mem, fun h => by simpa using putInt_chars _ _ h⟩, by decide, hnl⟩
    · rw [VectorSpace.ReadVec, hex, if_pos h0, ← hread]
      exact congrArg _ (readAll_eq_of_extract_eq intExtractor (extractInt_spaces hpre vb))
  · refine ⟨vb, by simp [writeLine, h0, hw], hnl, ?_⟩
    rw [VectorSpace.ReadVec_of_head LF _ hh, hread, if_neg h0]

theorem resize_of_length [Zero α] {n : ℕ} {l : List α} (h : l.length = n) : resize n l = l := by
  simp [resize, h]

/-- A line of `m` values, after lines of `m` values or none, is kept whole. -/
theorem VectorSpace.readLine_ok [Zero α] (LF : LabelFormat) (E : Extractor α)
    {dimension m : ℕ} (FileName : String) {s : ReadState α} {line : List Char} {label : ℤ}
    {temp : List α} (hread : VectorSpace.ReadVec LF E line = (label, temp)) (hm : temp.length = m)
    (hs : s.dim = 0 ∨ s.dim = m) (hdim : dimension = 0 ∨ dimension = m) :
    VectorSpace.readLine LF E dimension FileName s line =
      .ok ⟨m, s.linenum + 1, s.dataset ++ [⟨s.linenum, label, temp⟩]⟩ := by
  have hd : (if s.dim = 0 then temp.length else s.dim) = m := by split <;> omega
  have ha : (if dimension ≠ 0 then dimension else m) = m := by split <;> omega
  rw [VectorSpace.readLine, hread]
  dsimp only
  rw [if_neg (by omega), hd, if_neg (by omega), ha, resize_of_length hm]

/-- The reading loop over the written lines of `os`, from line `s.linenum` on. -/
theorem readLines_written (LF : LabelFormat) {dimension m : ℕ} (MaxNumObjects : ℕ)
    (FileName : String) (hm : 0 < m) (hdim : dimension = 0 ∨ dimension = m)
    (os : List (VecObject ℤ))
    (hos : ∀ o ∈ os, o.data.length = m ∧ (∀ v ∈ o.data, -2 ^ 31 ≤ v ∧ v < 2 ^ 31) ∧
      o.label < 2 ^ 31)
    (s : ReadState ℤ) (hs : s.dim = 0 ∨ s.dim = m)
    (hmax : MaxNumObjects = 0 ∨ s.linenum + os.length ≤ MaxNumObjects) :
    (readLinesWith (VectorSpace.readLine LF intExtractor dimension FileName) MaxNumObjects
        (getlines (os.flatMap (writeLine LF))) s).map (·.dataset) =
      .ok (s.dataset ++ (os.enumFrom s.linenum).map fun p =>
        ⟨p.1, if 0 ≤ p.2.label then p.2.label else -1, p.2.data⟩) := by
  induction os generalizing s with
  | nil => simp [getlines, getlinesAux, readLinesWith]; rfl
  | cons o os ih =>
    obtain ⟨hlen, hdata, hlabel⟩ := hos o (List.mem_cons_self _ _)
    obtain ⟨body, hw, hnl, hread⟩ := writeLine_spec LF o
      (List.ne_nil_of_length_pos (by omega)) hdata hlabel
    have hcond : MaxNumObjects = 0 ∨ s.linenum < MaxNumObjects := by
      simp only [List.length_cons] at hmax; omega
    have hrest := ih (fun o' ho' => hos o' (List.mem_cons_of_mem _ ho'))
      ⟨m, s.linenum + 1, s.dataset ++ [⟨s.linenum, if 0 ≤ o.label then o.label else -1, o.data⟩]⟩
      (.inr rfl) (by simp only [List.length_cons] at hmax ⊢; omega)
    rw [List.flatMap_cons, hw, List.append_assoc, List.singleton_append, getlines_append _ _ hnl,
      readLinesWith_cons hcond (VectorSpace.readLine_ok LF _ FileName hread hlen hs hdim), hrest]
    simp

/-- Reading back with `ReadDataset` the file `WriteDataset` wrote, for `VectorSpace<PivotIdType>`
(values and labels being `int`s), gives every object in order, with its index as id, its label
when not negative (else the missing label `-1`) and its `m` values; with no configured dimension
or the dimension `m`, and no bound on the objects or one they fit in. -/
theorem vectorSpace_roundTrip (LF : LabelFormat) (dataset : List (VecObject ℤ)) (m : ℕ)
    (hm : 0 < m)
    (hdata : ∀ o ∈ dataset, o.data.length = m ∧ ∀ v ∈ o.data, -2 ^ 31 ≤ v ∧ v < 2 ^ 31)
    (hlabel : ∀ o ∈ dataset, o.label < 2 ^ 31) (dimension MaxNumObjects : ℕ)
    (hdim : dimension = 0 ∨ dimension = m)
    (hmax : MaxNumObjects = 0 ∨ dataset.length ≤ MaxNumObjects) (FileName : String) :
    ∃ text, VectorSpace.WriteDataset LF dataset = .ok text ∧
      VectorSpace.ReadDataset LF intExtractor dimension MaxNumObjects FileName (some text) =
        .ok (dataset.enum.map fun p =>
          ⟨p.1, if 0 ≤ p.2.label then p.2.label else -1, p.2.data⟩) := by
  refine ⟨dataset.flatMap (writeLine LF), if_pos ?_, ?_⟩
  · simp only [List.all_eq_true, decide_eq_true_eq]
    intro o ho; have := (hdata o ho).1; omega
  · have := readLines_written LF MaxNumObjects FileName hm hdim dataset
      (fun o ho => ⟨(hdata o ho).1, (hdata o ho).2, hlabel o ho⟩) ⟨0, 0, []⟩ (.inl rfl)
      (by simpa using hmax)
    simpa [VectorSpace.ReadDataset, List.enum] using this

/-- The round trip of two labelled and unlabelled objects, with negative values. -/
theorem vectorSpace_roundTrip_pair :
    (0 < 2 ∧ (∀ o ∈ [(⟨0, 5, [1, -2]⟩ : VecObject ℤ), ⟨1, -3, [0, 2147483647]⟩],
        o.data.length = 2 ∧
        ∀ v ∈ o.data, -2 ^ 31 ≤ v ∧ v < 2 ^ 31) ∧
      (∀ o ∈ [(⟨0, 5, [1, -2]⟩ : VecObject ℤ), ⟨1, -3, [0, 2147483647]⟩], o.label < 2 ^ 31) ∧
      ((0 : ℕ) = 0 ∨ (0 : ℕ) = 2) ∧ ((0 : ℕ) = 0 ∨ [(⟨0, 5, [1, -2]⟩ : VecObject ℤ),
        ⟨1, -3, [0, 2147483647]⟩].length ≤ 0)) ∧
    ∃ text, VectorSpace.WriteDataset .labelColon
        [⟨0, 5, [1, -2]⟩, ⟨1, -3, [0, 2147483647]⟩] = .ok text ∧
      VectorSpace.ReadDataset .labelColon intExtractor 0 0 "data.txt" (some text) =
        .ok ([(⟨0, 5, [1, -2]⟩ : VecObject ℤ), ⟨1, -3, [0, 2147483647]⟩].enum.map fun p =>
          ⟨p.1, if 0 ≤ p.2.label then p.2.label else -1, p.2.data⟩) :=
  ⟨⟨by decide, by decide, by decide, by decide, by decide⟩,
    vectorSpace_roundTrip .labelColon _ 2 (by decide) (by decide) (by decide) 0 0 (by decide)
      (by decide) "data.txt"⟩

/-! ## Reading at most `MaxNumObjects` lines -/

/-- Both readers handle at most `MaxNumObjects` lines: what follows them in the file has no
effect (the loop's `getline` reads one more line and drops it), and the result is that of reading
those lines without a limit. -/
theorem readDataset_ignores_rest {α : Type} [Zero α] (LF : LabelFormat) (E : Extractor α)
    (ReplaceSomePunct : List Char → List Char) (dimension : ℕ) (FileName : String)
    (lines : List (List Char)) (hlines : ∀ l ∈ lines, '\n' ∉ l) (hpos : 0 < lines.length)
    (rest : List Char) :
    VectorSpace.ReadDataset LF E dimension lines.length FileName
        (some (lines.flatMap (· ++ ['\n']) ++ rest)) =
      VectorSpace.ReadDataset LF E dimension 0 FileName (some (lines.flatMap (· ++ ['\n']))) ∧
    SpaceBitHamming.ReadDataset LF ReplaceSomePunct lines.length FileName
        (some (lines.flatMap (· ++ ['\n']) ++ rest)) =
      SpaceBitHamming.ReadDataset LF ReplaceSomePunct 0 FileName
        (some (lines.flatMap (· ++ ['\n']))) := by
  have hall : getlines (lines.flatMap (· ++ ['\n'])) = lines := by
    have := getlines_flatMap lines hlines []
    rwa [List.append_nil, show getlines [] = [] from rfl, List.append_nil] at this
  have hrest := getlines_flatMap lines hlines rest
  constructor
  · simp only [VectorSpace.ReadDataset, hall, hrest]
    rw [readLinesWith_limit (fun s line s' h => by
      obtain ⟨_, _, -, -, -, rfl⟩ := VectorSpace.readLine_cases h; rfl) hpos lines _ ⟨0, 0, []⟩
      (Nat.zero_add _)]
  · simp only [SpaceBitHamming.ReadDataset, Option.getD_some, hall, hrest]
    rw [readLinesWith_limit (fun s line s' h => by
      obtain ⟨_, _, -, -, rfl⟩ := SpaceBitHamming.readLine_cases h; rfl) hpos lines _ ⟨0, 0, []⟩
      (Nat.zero_add _)]

/-- One line `1 2`, then text that neither reader accepts. -/
theorem readDataset_ignores_rest_one :
    VectorSpace.ReadDataset .labelColon intExtractor 0 ["1 2".toList].length "data.txt"
        (some (["1 2".toList].flatMap (· ++ ['\n']) ++ "x\n\n1\n".toList)) =
      VectorSpace.ReadDataset .labelColon intExtractor 0 0 "data.txt"
        (some (["1 2".toList].flatMap (· ++ ['\n']))) ∧
    SpaceBitHamming.ReadDataset .labelColon id ["1 2".toList].length "data.txt"
        (some (["1 2".toList].flatMap (· ++ ['\n']) ++ "x\n\n1\n".toList)) =
      SpaceBitHamming.ReadDataset .labelColon id 0 "data.txt"
        (some (["1 2".toList].flatMap (· ++ ['\n']))) :=
  readDataset_ignores_rest .labelColon intExtractor id 0 "data.txt" ["1 2".toList] (by decide)
    (by decide) "x\n\n1\n".toList

end Similarity
