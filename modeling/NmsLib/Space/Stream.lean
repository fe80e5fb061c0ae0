import Mathlib

/-!
# Text as the dataset readers see it

The readers of the vector spaces take a file line by line (`std::getline`) and a line value by
value (`operator>>` on a `std::stringstream`); `VectorSpace<int>::WriteDataset` prints values with
`operator<<`. This module models the three on lists of characters, the loop both readers run
over the lines, and the parts of `object.h` the readers call (`Object::extractLabel`,
`LABEL_PREFIX`; not among the sources), as a parameter with the contract they are used under.

* `getlines_append`: a line ended by `'\n'` is read back as it was written.
* `readAll_of_some`, `readAll_of_none`: the loop `while (str >> val)` stops at the first failed
  extraction, never for lack of fuel.
* `extractInt_putInt`: `>>` into an `int` reads back what `<<` printed.
* `readLinesWith`: the `while (getline(...) && ...)` loop of both readers.
-/

namespace Similarity

/-! ## Lines -/

/-- `std::getline` over the whole file, `cur` being the part of the line read so far: each
line without its `'\n'`; a last line without `'\n'` is read too. -/
def getlinesAux : List Char → List Char → List (List Char)
  | [], cur => if cur = [] then [] else [cur.reverse]
  | c :: s, cur => if c = '\n' then cur.reverse :: getlinesAux s [] else getlinesAux s (c :: cur)

/-- The lines `while (getline(InFile, StrLine))` reads. -/
def getlines (s : List Char) : List (List Char) := getlinesAux s []

theorem getlinesAux_append (line rest cur : List Char) (h : '\n' ∉ line) :
    getlinesAux (line ++ '\n' :: rest) cur = (cur.reverse ++ line) :: getlines rest := by
  induction line generalizing cur with
  | nil => simp [getlinesAux, getlines]
  | cons c line ih =>
    have hc : c ≠ '\n' := fun e => h (e ▸ List.mem_cons_self _ _)
    rw [List.cons_append, getlinesAux, if_neg hc, ih _ (fun m => h (List.mem_cons_of_mem _ m))]
    simp

theorem getlines_append (line rest : List Char) (h : '\n' ∉ line) :
    getlines (line ++ '\n' :: rest) = line :: getlines rest := by
  simpa using getlinesAux_append line rest [] h

/-- The text of `lines`, each ended by a newline, reads back as those lines, then the rest. -/
theorem getlines_flatMap (lines : List (List Char)) (h : ∀ l ∈ lines, '\n' ∉ l)
    (rest : List Char) : getlines (lines.flatMap (· ++ ['\n']) ++ rest) = lines ++ getlines rest := by
  induction lines with
  | nil => rfl
  | cons l ls ih =>
    rw [List.flatMap_cons, List.append_assoc, List.append_assoc, List.singleton_append,
      getlines_append l _ (h l (List.mem_cons_self _ _)),
      ih fun x hx => h x (List.mem_cons_of_mem _ hx)]
    rfl

/-! ## Values -/

/-- `isspace` in the "C" locale: blank, and tab to carriage return. -/
def isSpace (c : Char) : Bool := c = ' ' || 9 ≤ c.toNat && c.toNat ≤ 13

/-- `str >> val` for a `val` of type `α`: the value and the text after it, or `none` when the
extraction fails. A successful extraction consumes at least one character. -/
structure Extractor (α : Type) where
  extract : List Char → Option (α × List Char)
  consumes : ∀ s v rest, extract s = some (v, rest) → rest.length < s.length

variable {α : Type}

/-- `while (str >> val) v.push_back(val);` with at most `fuel` extractions. -/
def readAllAux (E : Extractor α) : ℕ → List Char → List α
  | 0, _ => []
  | fuel + 1, s =>
    match E.extract s with
    | some (v, rest) => v :: readAllAux E fuel rest
    | none => []

/-- The loop over a whole line: each extraction consumes a character, so the line's length
bounds it. -/
def readAll (E : Extractor α) (s : List Char) : List α := readAllAux E (s.length + 1) s

theorem readAllAux_fuel (E : Extractor α) {f g : ℕ} {s : List Char} (hf : s.length < f)
    (hg : s.length < g) : readAllAux E f s = readAllAux E g s := by
  induction f generalizing g s with
  | zero => omega
  | succ f ih =>
    obtain ⟨g, rfl⟩ : ∃ g', g = g' + 1 := ⟨g - 1, by omega⟩
    simp only [readAllAux]
    rcases h : E.extract s with _ | ⟨v, rest⟩
    · rfl
    · have := E.consumes s v rest h
      exact congrArg (List.cons v) (@ih g rest (by omega) (by omega))

theorem readAll_of_some (E : Extractor α) {s rest : List Char} {v : α}
    (h : E.extract s = some (v, rest)) : readAll E s = v :: readAll E rest := by
  rw [readAll, readAllAux, h]
  exact congrArg (List.cons v) (readAllAux_fuel E (E.consumes s v rest h) (Nat.lt_succ_self _))

theorem readAll_of_none (E : Extractor α) {s : List Char} (h : E.extract s = none) :
    readAll E s = [] := by
  rw [readAll, readAllAux, h]

/-! ## Integers -/

/-- The sign `num_get` accepts before the digits. -/
def scanSign : List Char → Bool × List Char
  | '-' :: t => (true, t)
  | '+' :: t => (false, t)
  | t => (false, t)

/-- The value of a string of decimal digits. -/
def digitsVal (ds : List Char) : ℕ := ds.foldl (fun n c => 10 * n + (c.toNat - 48)) 0

/-- `num_get`'s scan of an integer: blanks skipped, an optional sign, then the longest run of
digits; `none` without a digit. It gives whether the sign was `-`, the digits' value, and the
text after them. -/
def scanInteger (s : List Char) : Option (Bool × ℕ × List Char) :=
  let t := scanSign (s.dropWhile isSpace)
  let ds := t.2.takeWhile Char.isDigit
  if ds = [] then none else some (t.1, digitsVal ds, t.2.dropWhile Char.isDigit)

/-- `str >> val` for an `int`: the magnitude must fit the sign (`[-2^31, 2^31)`), else
`failbit`. -/
def extractInt (s : List Char) : Option (ℤ × List Char) :=
  match scanInteger s with
  | some (true, m, rest) => if m ≤ 2 ^ 31 then some (-(m : ℤ), rest) else none
  | some (false, m, rest) => if m < 2 ^ 31 then some ((m : ℤ), rest) else none
  | none => none

/-- `str >> val` for an `unsigned`: a magnitude below `2^32`, negated modulo `2^32` after a
`-`. -/
def extractUnsigned (s : List Char) : Option (ℕ × List Char) :=
  match scanInteger s with
  | some (neg, m, rest) =>
    if m < 2 ^ 32 then some (if neg then (2 ^ 32 - m) % 2 ^ 32 else m, rest) else none
  | none => none

theorem scanSign_length (l : List Char) : (scanSign l).2.length ≤ l.length := by
  unfold scanSign; split <;> simp

theorem scanInteger_consumes {s rest : List Char} {neg : Bool} {m : ℕ}
    (h : scanInteger s = some (neg, m, rest)) : rest.length < s.length := by
  simp only [scanInteger] at h
  split at h
  · cases h
  · rename_i hds
    obtain ⟨-, -, rfl⟩ := Prod.mk.inj_iff.1 (Option.some.inj h)
    have hsplit := congrArg List.length
      (List.takeWhile_append_dropWhile Char.isDigit (scanSign (s.dropWhile isSpace)).2)
    have hpos := List.length_pos.2 hds
    have ht := scanSign_length (s.dropWhile isSpace)
    have hs := (List.dropWhile_suffix isSpace : s.dropWhile isSpace <:+ s).length_le
    rw [List.length_append] at hsplit
    omega

/-- `>>` into an `int`. -/
def intExtractor : Extractor ℤ where
  extract := extractInt
  consumes s v rest h := by
    unfold extractInt at h
    split at h <;> (try split at h) <;> cases h
    all_goals exact scanInteger_consumes ‹_›

/-- `>>` into an `unsigned`. -/
def unsignedExtractor : Extractor ℕ where
  extract := extractUnsigned
  consumes s v rest h := by
    unfold extractUnsigned at h
    split at h
    · split at h
      · cases h; exact scanInteger_consumes ‹_›
      · cases h
    · cases h

/-- Blanks before a value are skipped. -/
theorem scanInteger_spaces {pre : List Char} (hpre : ∀ c ∈ pre, isSpace c) (s : List Char) :
    scanInteger (pre ++ s) = scanInteger s := by
  simp only [scanInteger, List.dropWhile_append_of_pos hpre]

theorem extractInt_spaces {pre : List Char} (hpre : ∀ c ∈ pre, isSpace c) (s : List Char) :
    extractInt (pre ++ s) = extractInt s := by
  simp only [extractInt, scanInteger_spaces hpre]

theorem isDigit_toNat {c : Char} (h : c.isDigit) : 48 ≤ c.toNat ∧ c.toNat ≤ 57 := by
  simpa only [Char.isDigit, Bool.and_eq_true, decide_eq_true_eq, UInt32.le_def, BitVec.le_def]
    using h

theorem isSpace_of_isDigit {c : Char} (h : c.isDigit) : isSpace c = false := by
  have := isDigit_toNat h
  simp only [isSpace, Bool.or_eq_false_iff, decide_eq_false_iff_not, Bool.and_eq_false_iff]
  refine ⟨fun e => ?_, .inr (by omega)⟩
  subst e; simp at this

/-! ## Printing an `int` and reading it back -/

/-- `out << x` for an `int` `x`. -/
def putInt (x : ℤ) : List Char :=
  if x < 0 then '-' :: Nat.toDigits 10 x.natAbs else Nat.toDigits 10 x.natAbs

theorem digitChar_spec :
    ∀ d < 10, (Nat.digitChar d).isDigit ∧ (Nat.digitChar d).toNat - 48 = d := by
  decide

theorem foldl_digits (ds : List Char) (acc : ℕ) :
    ds.foldl (fun n c => 10 * n + (c.toNat - 48)) acc = acc * 10 ^ ds.length + digitsVal ds := by
  induction ds generalizing acc with
  | nil => simp [digitsVal]
  | cons c ds ih =>
    simp only [List.foldl_cons, digitsVal, List.length_cons] at ih ⊢
    rw [ih, ih (10 * 0 + _)]
    ring

theorem digitsVal_cons (c : Char) (ds : List Char) :
    digitsVal (c :: ds) = (c.toNat - 48) * 10 ^ ds.length + digitsVal ds := by
  simpa [digitsVal] using foldl_digits ds (c.toNat - 48)

/-- What `Nat.toDigitsCore` adds in front of `ds` is the decimal of `n`, all digits. -/
theorem toDigitsCore_spec (f n : ℕ) (ds : List Char) (hn : n < f) :
    ∃ pre, Nat.toDigitsCore 10 f n ds = pre ++ ds ∧ pre ≠ [] ∧ (∀ c ∈ pre, c.isDigit) ∧
      digitsVal (pre ++ ds) = n * 10 ^ ds.length + digitsVal ds := by
  induction f generalizing n ds with
  | zero => omega
  | succ f ih =>
    obtain ⟨hd, hv⟩ := digitChar_spec (n % 10) (Nat.mod_lt _ (by decide))
    simp only [Nat.toDigitsCore]
    split
    · rename_i h0
      have hn : n % 10 = n := Nat.mod_eq_of_lt (by omega)
      refine ⟨[Nat.digitChar (n % 10)], rfl, by simp, List.forall_mem_singleton.2 hd, ?_⟩
      rw [List.singleton_append, digitsVal_cons, hv, hn]
    · obtain ⟨pre, heq, hne, hdig, hval⟩ := ih (n / 10) (Nat.digitChar (n % 10) :: ds) (by omega)
      refine ⟨pre ++ [Nat.digitChar (n % 10)], by simpa using heq, by simp, ?_, ?_⟩
      · exact List.forall_mem_append.2 ⟨hdig, List.forall_mem_singleton.2 hd⟩
      · rw [List.append_assoc, List.singleton_append, hval, digitsVal_cons, hv, List.length_cons,
          pow_succ]
        calc n / 10 * (10 ^ ds.length * 10) + (n % 10 * 10 ^ ds.length + digitsVal ds)
            = (10 * (n / 10) + n % 10) * 10 ^ ds.length + digitsVal ds := by ring
          _ = n * 10 ^ ds.length + digitsVal ds := by rw [Nat.div_add_mod]

theorem toDigits_spec (n : ℕ) :
    Nat.toDigits 10 n ≠ [] ∧ (∀ c ∈ Nat.toDigits 10 n, c.isDigit) ∧
      digitsVal (Nat.toDigits 10 n) = n := by
  obtain ⟨pre, heq, hne, hdig, hval⟩ := toDigitsCore_spec (n + 1) n [] (Nat.lt_succ_self n)
  simp only [List.append_nil] at heq hval
  rw [Nat.toDigits, heq]
  exact ⟨hne, hdig, by simpa [digitsVal] using hval⟩

/-- Digits followed by a non-digit scan as their value, with or without a `-` before them. -/
theorem scanInteger_digits (ds rest : List Char) (hne : ds ≠ [])
    (hds : ∀ c ∈ ds, c.isDigit) (hrest : ∀ c ∈ rest.head?, c.isDigit = false) :
    scanInteger (ds ++ rest) = some (false, digitsVal ds, rest) ∧
      scanInteger ('-' :: (ds ++ rest)) = some (true, digitsVal ds, rest) := by
  obtain ⟨d, ds', rfl⟩ := List.exists_cons_of_ne_nil hne
  have hd := hds d (List.mem_cons_self _ _)
  have hsp : (d :: ds' ++ rest).dropWhile isSpace = d :: ds' ++ rest :=
    List.dropWhile_cons_of_neg (by simp [isSpace_of_isDigit hd])
  have hsign : scanSign (d :: ds' ++ rest) = (false, d :: ds' ++ rest) := by
    have : d ≠ '-' ∧ d ≠ '+' := by constructor <;> (rintro rfl; exact absurd hd (by decide))
    unfold scanSign; split <;> simp_all
  have hrest' : rest.takeWhile Char.isDigit = [] ∧ rest.dropWhile Char.isDigit = rest := by
    cases rest with
    | nil => simp
    | cons c r => simp [hrest c rfl]
  have htake : (d :: ds' ++ rest).takeWhile Char.isDigit = d :: ds' := by
    rw [List.takeWhile_append_of_pos hds, hrest'.1, List.append_nil]
  have hdrop : (d :: ds' ++ rest).dropWhile Char.isDigit = rest := by
    rw [List.dropWhile_append_of_pos hds, hrest'.2]
  constructor
  · simp only [scanInteger, hsp, hsign, htake, hdrop]; rfl
  · simp only [scanInteger, List.dropWhile_cons_of_neg (by decide : ¬isSpace '-'), scanSign,
      htake, hdrop]; rfl

/-- `>>` into an `int` reads back what `<<` printed, up to the next non-digit. -/
theorem extractInt_putInt (x : ℤ) (hx : -2 ^ 31 ≤ x ∧ x < 2 ^ 31) (rest : List Char)
    (hrest : ∀ c ∈ rest.head?, c.isDigit = false) :
    extractInt (putInt x ++ rest) = some (x, rest) := by
  obtain ⟨hne, hdig, hval⟩ := toDigits_spec x.natAbs
  obtain ⟨hpos, hneg⟩ := scanInteger_digits _ rest hne hdig hrest
  rw [hval] at hpos hneg
  by_cases hx0 : x < 0
  · have habs := Int.ofNat_natAbs_of_nonpos hx0.le
    rw [putInt, if_pos hx0, List.cons_append, extractInt, hneg]
    dsimp only
    rw [if_pos (by omega), habs, neg_neg]
  · have habs := Int.natAbs_of_nonneg (not_lt.1 hx0)
    rw [putInt, if_neg hx0, extractInt, hpos]
    dsimp only
    rw [if_pos (by omega), habs]

/-! ## Labels, objects and the reading loop -/

/-- `Object::extractLabel` and `LABEL_PREFIX` (`object.h`, not among the sources), under the
contract the readers and `WriteDataset` rely on: the prefix starts with a character that is
neither a digit nor `-` and holds no `'\n'`; a line that does not start with the prefix has no
label (`-1`) and is left as it is; and a line `WriteDataset` starts with a label gives back the
label and the rest of the line after some blanks. -/
structure LabelFormat where
  LABEL_PREFIX : List Char
  extractLabel : List Char → ℤ × List Char
  prefix_head : ∃ c t, LABEL_PREFIX = c :: t ∧ c.isDigit = false ∧ c ≠ '-'
  newline_not_mem : '\n' ∉ LABEL_PREFIX
  unlabelled : ∀ line, ¬LABEL_PREFIX <+: line → extractLabel line = (-1, line)
  labelled : ∀ L : ℤ, 0 ≤ L → L < 2 ^ 31 → ∀ rest, ∃ pre, (∀ c ∈ pre, isSpace c) ∧
    extractLabel (LABEL_PREFIX ++ putInt L ++ ' ' :: rest) = (L, pre ++ rest)

/-- A line that is empty or starts with a digit or `-` has no label. -/
theorem LabelFormat.extractLabel_of_head (LF : LabelFormat) {line : List Char}
    (h : ∀ c ∈ line.head?, c.isDigit ∨ c = '-') : LF.extractLabel line = (-1, line) := by
  apply LF.unlabelled
  obtain ⟨c, t, hp, hc, hm⟩ := LF.prefix_head
  rintro ⟨u, rfl⟩
  rcases h c (by simp [hp]) with h | h
  · rw [hc] at h; cases h
  · exact hm h

/-- The label of a line `label:<int> ...`, read as an `int`. -/
def labelColonExtract (line : List Char) : ℤ × List Char :=
  if "label:".toList <+: line then
    match extractInt (line.drop 6) with
    | some (L, rest) => (L, rest)
    | none => (-1, line)
  else (-1, line)

/-- A format meeting the contract, with the prefix `label:`; the readers can be run on it. -/
def LabelFormat.labelColon : LabelFormat where
  LABEL_PREFIX := "label:".toList
  extractLabel := labelColonExtract
  prefix_head := ⟨'l', "abel:".toList, rfl, rfl, by decide⟩
  newline_not_mem := by decide
  unlabelled _ h := if_neg h
  labelled L h0 h1 rest := ⟨[' '], by decide, by
    have hdrop : ("label:".toList ++ (putInt L ++ ' ' :: rest)).drop 6 = putInt L ++ ' ' :: rest :=
      List.drop_left' rfl
    rw [labelColonExtract, List.append_assoc, if_pos (List.prefix_append _ _), hdrop,
      extractInt_putInt L ⟨by omega, h1⟩ _ (by rintro c ⟨⟩; rfl)]; rfl⟩

/-- An object a vector space makes (`CreateObjFromVect(id, label, temp)`): its id, its label,
and its values (`datalength()` is their number times the size of one). -/
structure VecObject (β : Type) where
  id : ℤ
  label : ℤ
  data : List β
  deriving DecidableEq, Repr

/-- The variables of a reader's loop: the number of values every line must have (`dim`,
`wordQty`; `0` until a line has some), the line count `linenum`, and the objects read. -/
structure ReadState (β : Type) where
  dim : ℕ
  linenum : ℕ
  dataset : List (VecObject β)

/-- `while (getline(InFile, StrLine) && (!MaxNumObjects || linenum < MaxNumObjects))` over the
file's lines, `step` being the loop's body. -/
def readLinesWith {β : Type} (step : ReadState β → List Char → Except String (ReadState β))
    (MaxNumObjects : ℕ) : List (List Char) → ReadState β → Except String (ReadState β)
  | [], s => .ok s
  | line :: lines, s =>
    if MaxNumObjects = 0 ∨ s.linenum < MaxNumObjects then
      match step s line with
      | .ok s' => readLinesWith step MaxNumObjects lines s'
      | .error e => .error e
    else .ok s

/-- With `MaxNumObjects - linenum` lines to go, the loop reads those lines as the unlimited
loop does, and reads no further. -/
theorem readLinesWith_limit {β : Type}
    {step : ReadState β → List Char → Except String (ReadState β)}
    (hstep : ∀ s line s', step s line = .ok s' → s'.linenum = s.linenum + 1)
    {MaxNumObjects : ℕ} (hpos : 0 < MaxNumObjects) :
    ∀ (lines rest : List (List Char)) (s : ReadState β), s.linenum + lines.length = MaxNumObjects →
      readLinesWith step MaxNumObjects (lines ++ rest) s = readLinesWith step 0 lines s
  | [], [], _, _ => rfl
  | [], _ :: _, s, h => by
    show readLinesWith step MaxNumObjects (_ :: _) s = .ok s
    rw [readLinesWith, if_neg (by simp at h; omega)]
  | line :: lines, rest, s, h => by
    rw [List.cons_append, readLinesWith, readLinesWith,
      if_pos (.inr (by simp at h; omega)), if_pos (.inl rfl)]
    cases hs : step s line with
    | error e => rfl
    | ok s' =>
      exact readLinesWith_limit hstep hpos lines rest s'
        (by rw [hstep s line s' hs]; simp at h; omega)

theorem readLinesWith_cons {β : Type} {step : ReadState β → List Char → Except String (ReadState β)}
    {MaxNumObjects : ℕ} {line : List Char} {lines : List (List Char)} {s s' : ReadState β}
    (hmax : MaxNumObjects = 0 ∨ s.linenum < MaxNumObjects) (h : step s line = .ok s') :
    readLinesWith step MaxNumObjects (line :: lines) s =
      readLinesWith step MaxNumObjects lines s' := by
  rw [readLinesWith, if_pos hmax, h]

/-- Two loop bodies that agree on the file's lines read it alike. -/
theorem readLinesWith_congr {β : Type}
    {step step' : ReadState β → List Char → Except String (ReadState β)} {MaxNumObjects : ℕ}
    (lines : List (List Char)) (h : ∀ line ∈ lines, ∀ s, step s line = step' s line)
    (s : ReadState β) :
    readLinesWith step MaxNumObjects lines s = readLinesWith step' MaxNumObjects lines s := by
  induction lines generalizing s with
  | nil => rfl
  | cons line lines ih =>
    simp only [readLinesWith, h line (List.mem_cons_self _ _),
      ih (fun l hl => h l (List.mem_cons_of_mem _ hl))]

/-- A property every loop body keeps holds of the state every loop ends in. -/
theorem readLinesWith_inv {β : Type}
    {step : ReadState β → List Char → Except String (ReadState β)} {MaxNumObjects : ℕ}
    (P : ReadState β → Prop) (hstep : ∀ s line s', P s → step s line = .ok s' → P s')
    (lines : List (List Char)) {s s' : ReadState β} (hs : P s)
    (h : readLinesWith step MaxNumObjects lines s = .ok s') : P s' := by
  induction lines generalizing s with
  | nil => cases h; exact hs
  | cons line lines ih =>
    rw [readLinesWith] at h
    split_ifs at h
    · rcases hst : step s line with e | s₁
      · rw [hst] at h; cases h
      · rw [hst] at h; exact ih (hstep s line s₁ hs hst) h
    · cases h; exact hs

/-- A loop whose body counts the line reads every line, or the first `MaxNumObjects`. -/
theorem readLinesWith_linenum {β : Type}
    {step : ReadState β → List Char → Except String (ReadState β)} {MaxNumObjects : ℕ}
    (hstep : ∀ s line s', step s line = .ok s' → s'.linenum = s.linenum + 1)
    (lines : List (List Char)) {s s' : ReadState β}
    (hs : MaxNumObjects = 0 ∨ s.linenum ≤ MaxNumObjects)
    (h : readLinesWith step MaxNumObjects lines s = .ok s') :
    s'.linenum = if MaxNumObjects = 0 then s.linenum + lines.length
      else min (s.linenum + lines.length) MaxNumObjects := by
  induction lines generalizing s with
  | nil => cases h; rw [List.length_nil]; split <;> omega
  | cons line lines ih =>
    rw [readLinesWith] at h
    split_ifs at h with hc
    · rcases hst : step s line with e | s₁
      · rw [hst] at h; cases h
      · rw [hst] at h
        have h₁ := hstep s line s₁ hst
        rw [ih (by omega) h, h₁, List.length_cons]
        split <;> omega
    · cases h; split <;> omega

/-- What both readers' loops keep: the ids count the lines from `0`; with a configured dimension
`D` every object has `D` values, and without one none or `dim`; and no object without values
follows one with values. -/
structure ShapeInv {β : Type} (D : ℕ) (s : ReadState β) : Prop where
  ids : s.dataset.map (·.id) = (List.range s.linenum).map Nat.cast
  config : D ≠ 0 → ∀ o ∈ s.dataset, o.data.length = D
  dims : D = 0 → ∀ o ∈ s.dataset, o.data = [] ∨ o.data.length = s.dim
  empties_first : s.dataset.Pairwise fun a b => a.data ≠ [] → b.data ≠ []

theorem ShapeInv.start {β : Type} (D : ℕ) : ShapeInv D (⟨0, 0, []⟩ : ReadState β) :=
  ⟨rfl, by simp, by simp, List.Pairwise.nil⟩

/-- Appending the object of line `linenum` keeps `ShapeInv`, when the line's count `c` agrees
with `dim` once that is set, and the object has `D` values (with a dimension) or `c` (without). -/
theorem ShapeInv.push {β : Type} {D c : ℕ} {s : ReadState β} {label : ℤ} {data : List β}
    (h : ShapeInv D s) (hc : s.dim ≠ 0 → s.dim = c) (hD : D ≠ 0 → data.length = D)
    (h0 : D = 0 → data.length = c) :
    ShapeInv D ⟨c, s.linenum + 1, s.dataset ++ [⟨s.linenum, label, data⟩]⟩ where
  ids := by simp [h.ids, List.range_succ]
  config hD' := by
    simp only [List.mem_append, List.mem_singleton]
    rintro o (ho | rfl)
    exacts [h.config hD' o ho, hD hD']
  dims hD' := by
    simp only [List.mem_append, List.mem_singleton]
    rintro o (ho | rfl)
    · have h' := h.dims hD' o ho
      rw [← List.length_eq_zero] at h' ⊢
      by_cases hs : s.dim = 0
      · omega
      · have := hc hs; omega
    · exact .inr (h0 hD')
  empties_first := by
    refine List.pairwise_append.2 ⟨h.empties_first, List.pairwise_singleton _ _, ?_⟩
    intro a ha b hb hne
    rw [List.mem_singleton.1 hb]
    apply List.ne_nil_of_length_pos
    by_cases hD' : D = 0
    · rcases h.dims hD' a ha with h' | h'
      · exact absurd h' hne
      · have := List.length_pos.2 hne
        rw [h0 hD', ← hc (by omega)]; omega
    · rw [hD hD']; omega

theorem exceptMap_eq_ok {ε γ δ : Type} {f : γ → δ} {x : Except ε γ} {y : δ}
    (h : x.map f = .ok y) : ∃ a, x = .ok a ∧ f a = y := by
  cases x with
  | error e => cases h
  | ok a => exact ⟨a, rfl, Except.ok.inj h⟩

/-- The readers' fatal messages about the number of values on line `linenum + 1`. -/
def vecElemsMsg (curr : ℕ) (why : String) (linenum : ℕ) (FileName : String) : String :=
  "The # of vector elements (" ++ toString curr ++ ")" ++ why ++ "Found mismatch in line: " ++
    toString (linenum + 1) ++ " file: " ++ FileName

end Similarity
