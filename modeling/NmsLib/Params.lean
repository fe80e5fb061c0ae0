import Mathlib

/-!
# Method parameters

`AnyParams` is the parameter map an index is built from and `AnyParamManager` the reader
over it; `params.h` is not among the sources, so what the methods use of it is modelled from
the spec ("a string→string map"): `hasParam`, `ExtractParametersExcept` (the map without
the listed names) and `GetParamOptional`, which reads a value into a variable with
`ConvertStrToValue` and throws when the value does not parse, and `GetParamRequired`, which
also throws when the parameter is missing.

A C++ exception leaves an object as it was at the `throw`, so the readers run in
`EStateM String S`, whose `error` result keeps the state. The conversion of a string is a
`Converter`, taken as a parameter wherever it is used; `Converter.natural`, `Converter.sizeT`,
`Converter.decimal`, `Converter.boolean` and `Converter.text` are instances for plain literals.
-/

/-- The state a run ends in, whether it returned or threw. -/
def EStateM.Result.state {ε σ α : Type} : EStateM.Result ε σ α → σ
  | .ok _ s => s
  | .error _ s => s

@[simp] theorem EStateM.Result.state_ok {ε σ α : Type} (a : α) (s : σ) :
    (EStateM.Result.ok a s : EStateM.Result ε σ α).state = s := rfl

@[simp] theorem EStateM.Result.state_error {ε σ α : Type} (e : ε) (s : σ) :
    (EStateM.Result.error e s : EStateM.Result ε σ α).state = s := rfl

/-- A sequence that returned ran both of its parts to a return. -/
theorem EStateM.bind_eq_ok {ε σ α β : Type} {x : EStateM ε σ α} {f : α → EStateM ε σ β}
    {s s' : σ} {b : β} (h : (x >>= f) s = .ok b s') :
    ∃ a s₁, x s = .ok a s₁ ∧ f a s₁ = .ok b s' := by
  simp only [bind, EStateM.bind] at h
  split at h
  · exact ⟨_, _, ‹_›, h⟩
  · cases h

/-- What each part of a sequence leaves alone, the sequence leaves alone, whether it returns or
throws. -/
theorem EStateM.bind_frame {ε σ α β γ : Type} (g : σ → γ) {x : EStateM ε σ α}
    {f : α → EStateM ε σ β} (hx : ∀ s, g (x s).state = g s) (hf : ∀ a s, g (f a s).state = g s)
    (s : σ) : g ((x >>= f) s).state = g s := by
  have := hx s
  simp only [bind, EStateM.bind]
  split <;> rename_i h <;> rw [h] at this
  · exact (hf _ _).trans this
  · exact this

namespace Similarity

/-- Modelled from the spec: a method's parameters (`params.h` is not among the sources), a
string→string map, so no name occurs twice. -/
structure AnyParams where
  pairs : List (String × String)
  nodup : (pairs.map Prod.fst).Nodup

namespace AnyParams

/-- The value given for `Name`, if any. -/
def lookup (p : AnyParams) (Name : String) : Option String := p.pairs.lookup Name

/-- `AnyParamManager::hasParam`. -/
def hasParam (p : AnyParams) (Name : String) : Bool := (p.lookup Name).isSome

/-- Modelled from the spec: `AnyParamManager::ExtractParametersExcept`, the parameters whose
names are not in `ExceptList`. -/
def ExtractParametersExcept (p : AnyParams) (ExceptList : List String) : AnyParams :=
  ⟨p.pairs.filter fun q => q.1 ∉ ExceptList,
    p.nodup.sublist ((List.filter_sublist _).map _)⟩

theorem lookup_filter_not_mem (l : List (String × String)) (L : List String) (n : String) :
    (l.filter fun q => q.1 ∉ L).lookup n = if n ∈ L then none else l.lookup n := by
  induction l with
  | nil => simp
  | cons a l ih =>
    obtain ⟨k, v⟩ := a
    by_cases hk : k ∈ L
    · rw [List.filter_cons_of_neg (by simpa using hk), ih]
      by_cases hn : n ∈ L
      · simp [hn]
      · have hb : (n == k) = false := by simp; rintro rfl; exact hn hk
        simp [hn, hb, List.lookup]
    · rw [List.filter_cons_of_pos (by simpa using hk)]
      by_cases hnk : n = k
      · subst hnk; simp [hk, List.lookup]
      · have hb : (n == k) = false := by simpa using hnk
        simp only [List.lookup, hb, ih]

@[simp] theorem lookup_ExtractParametersExcept (p : AnyParams) (L : List String) (n : String) :
    (p.ExtractParametersExcept L).lookup n = if n ∈ L then none else p.lookup n :=
  lookup_filter_not_mem _ _ _

end AnyParams

/-- `ConvertStrToValue(s, v)`: reads `s` into `v` with `operator>>` and throws unless all of `s`
was read. An arithmetic `operator>>` always writes `v` (zero or the value read, C++11), so a
converter is the value it leaves in `v` and the message of the exception it throws, if any.
Taken as a parameter: `params.h` is not among the sources. -/
structure Converter (α : Type) where
  value : String → α
  error : String → Option String

variable {S α : Type}

/-- The converter that reads what `parse` accepts and fails on the rest, leaving `default` (the
failed conversion's message is the text that did not convert). -/
def Converter.ofParse (parse : String → Option α) (default : α) : Converter α :=
  ⟨fun s => (parse s).getD default, fun s => if (parse s).isSome then none else some s⟩

/-- The value of the decimal digits `cs` after the digits already read into `acc`. -/
def digitsValue : List Char → ℕ → Option ℕ
  | [], acc => some acc
  | c :: cs, acc => if c.isDigit then digitsValue cs (10 * acc + (c.toNat - '0'.toNat)) else none

/-- A non-empty string of decimal digits. -/
def parseNat (cs : List Char) : Option ℕ := if cs = [] then none else digitsValue cs 0

/-- `d…d` or `d…d.d…d`. -/
def parseUnsignedDecimal (cs : List Char) : Option ℚ :=
  match cs.span (· ≠ '.') with
  | (i, []) => (parseNat i).map Nat.cast
  | (i, _ :: f) => do
    let n ← parseNat i
    let m ← parseNat f
    pure (n + (m : ℚ) / 10 ^ f.length)

/-- `operator>>` of an `unsigned` on a plain decimal literal. -/
def Converter.natural : Converter ℕ := .ofParse (fun s => parseNat s.toList) 0

/-- `operator>>` of a `size_t` on a plain decimal literal. -/
def Converter.sizeT : Converter UInt64 := .ofParse (fun s => (parseNat s.toList).map UInt64.ofNat) 0

/-- `operator>>` of a `float` or `double` on a plain decimal literal `[-]d…d[.d…d]`
(exponents are not read; rounding is not modelled). -/
def Converter.decimal : Converter ℚ :=
  .ofParse (fun s => match s.toList with
    | '-' :: cs => (parseUnsignedDecimal cs).map Neg.neg
    | cs => parseUnsignedDecimal cs) 0

/-- A `string` value: taken as given. -/
def Converter.text : Converter String := ⟨id, fun _ => none⟩

/-- Leaves `t` in the state, throwing `err` if there is one. -/
def raiseIn (err : Option String) (t : S) : EStateM.Result String S Unit :=
  match err with
  | none => .ok () t
  | some e => .error e t

@[simp] theorem raiseIn_none (t : S) : raiseIn none t = .ok () t := rfl

@[simp] theorem raiseIn_some (e : String) (t : S) : raiseIn (some e) t = .error e t := rfl

@[simp] theorem raiseIn_state (err : Option String) (t : S) : (raiseIn err t).state = t := by
  cases err <;> rfl

theorem raiseIn_eq_ok {err : Option String} {t t' : S} (h : raiseIn err t = .ok () t') :
    err = none ∧ t' = t := by
  cases err <;> simp_all [raiseIn]

theorem raiseIn_eq_error {err : Option String} {t t' : S} {e : String}
    (h : raiseIn err t = .error e t') : err = some e ∧ t' = t := by
  cases err <;> simp_all [raiseIn]

/-- `AnyParamManager::GetParamOptional(Name, Value)`: when `Name` is given, its value is
converted into the variable `set` writes (a field or a local), which keeps the converted value
also when the conversion throws. -/
def GetParamOptional (pmgr : AnyParams) (Name : String) (c : Converter α) (set : S → α → S) :
    EStateM String S Unit :=
  match pmgr.lookup Name with
  | none => pure ()
  | some s => fun t => raiseIn (c.error s) (set t (c.value s))

/-- `AnyParamManager::GetParamRequired(Name, Value)`: `GetParamOptional`, throwing when `Name` is
not given (the message is `params.h`'s, not among the sources; the model's names the
parameter). -/
def GetParamRequired (pmgr : AnyParams) (Name : String) (c : Converter α) (set : S → α → S) :
    EStateM String S Unit :=
  match pmgr.lookup Name with
  | none => throw ("Mandatory parameter " ++ Name ++ " is missing")
  | some _ => GetParamOptional pmgr Name c set

/-- `GetParamOptional` writes its variable only: what `set` leaves alone, the read leaves alone,
whether it returns or throws. -/
theorem GetParamOptional_frame {β : Type} (f : S → β) (set : S → α → S)
    (hf : ∀ t v, f (set t v) = f t) (pmgr : AnyParams) (Name : String) (c : Converter α) (t : S) :
    f (GetParamOptional pmgr Name c set t).state = f t := by
  unfold GetParamOptional
  cases pmgr.lookup Name with
  | none => rfl
  | some s => simp [hf]

/-- The variable after `GetParamOptional`: the converted value when `Name` is given. -/
theorem GetParamOptional_read {β : Type} (f : S → β) (set : S → α → S) (g : α → β)
    (hf : ∀ t v, f (set t v) = g v) (pmgr : AnyParams) (Name : String) (c : Converter α) (t : S) :
    f (GetParamOptional pmgr Name c set t).state = ((pmgr.lookup Name).map (g ∘ c.value)).getD (f t) := by
  unfold GetParamOptional
  cases pmgr.lookup Name with
  | none => rfl
  | some s => simp [hf]

end Similarity
